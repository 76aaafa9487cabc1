import Flowline.Text.Cut
import Flowline.Url.Address

/-!
# Frames

Objects travel one after the other over a single channel. Each is preceded by header lines, one of
which gives its length in bytes, and by an empty line.

* `contentLength?`: the length that a header line gives;
* `frame`: a text with its header.
-/

namespace Flowline

/-- The name of the header line with the length. -/
def lengthHeader : String := "Content-Length"

/-- A letter without regard to case. -/
def plainLetter (c : Char) : Char :=
  if 'A' ≤ c ∧ c ≤ 'Z' then Char.ofNat (c.toNat + 32) else c

/-- The length that a header line gives. -/
def contentLength? (line : String) : Option Nat := do
  let (name, value) ← cutFirst ':' line.toList
  if (trim name).map plainLetter = lengthHeader.toList.map plainLetter ∧ trim value ≠ [] then
    Url.number? 10 (trim value)
  else none

/-- The length that the last header line with a length gives. -/
def frameLength? (header : List String) : Option Nat :=
  (header.filterMap contentLength?).getLast?

/-- A text with its header. -/
def frame (body : String) : String :=
  lengthHeader ++ ": " ++ toString body.utf8ByteSize ++ "\r\n\r\n" ++ body

end Flowline
