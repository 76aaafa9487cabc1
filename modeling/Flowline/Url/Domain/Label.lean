import Flowline.Character.CombiningClass
import Flowline.Character.Direction
import Flowline.Character.Joining
import Flowline.Character.Normalize
import Flowline.Url.Domain.Replacement
import Flowline.Url.Punycode

/-!
# Labels

The parts of a domain name between its full stops. A label may be given in its ASCII form; what
holds of labels is asked of what that form stands for.

* `Domain.decodeLabel?`: the label that a label, possibly in its ASCII form, stands for;
* `Domain.isWellFormed`: a label starts with no mark and its joiners have something to join;
* `Domain.keepsDirection`: a label is written in one direction.
-/

namespace Flowline.Url.Domain

open Character Punycode

/-- A text that neither replacement nor normalization changes. -/
def isNormal (text : List Char) : Bool :=
  text.all (fun c => replacement? c == some [c]) && normalize text == text

/-- The label that a label stands for. Only normal labels have an ASCII form, and it does not end
with a hyphen. -/
def decodeLabel? (label : List Char) : Option (List Char) :=
  match label with
  | 'x' :: 'n' :: '-' :: '-' :: code =>
    if label.getLast? = some '-' ∨ 2000 < code.length then none
    else (decode? code).filter isNormal
  | _ => some label

/-- The ASCII form of a label. -/
def encodeLabel (label : List Char) : List Char :=
  if label.all isAscii then label else "xn--".toList ++ encode label

/-! ## Joiners -/

/-- Whether the letters around a place would join; `before` is given nearest first. -/
def wouldJoin (before after : List Char) : Bool :=
  (before.dropWhile isTransparent).head?.any joinsNext &&
    (after.dropWhile isTransparent).head?.any joinsPrevious

/-- Whether `c` may stand between two texts, the first one given nearest first. A joiner follows a
virama; a non-joiner does so too, or keeps letters from joining. -/
def joinerFits (before : List Char) (c : Char) (after : List Char) : Bool :=
  if c = '\u200D' then before.head?.any isVirama
  else if c = '\u200C' then before.head?.any isVirama || wouldJoin before after
  else true

/-- Whether the joiners of a text have something to join; `before` is what precedes it, nearest
first. -/
def joinersFit (before : List Char) : List Char → Bool
  | [] => true
  | c :: rest => joinerFits before c rest && joinersFit (c :: before) rest

/-- Whether a label may be part of a domain name. -/
def isWellFormed (label : List Char) : Bool :=
  label.all isAscii ||
    (label.length ≤ 1000 && !label.head?.any isMark && joinersFit [] label)

/-! ## Directions -/

/-- Whether a character makes the domain name one that is written from right to left. -/
def isRightToLeft (c : Char) : Bool :=
  direction c == .right || direction c == .arabicNumber

/-- Whether a label that starts from the left goes on so. -/
def keepsLeft (rest : List Direction) : Bool :=
  rest.getLast?.all (fun d => [.left, .europeanNumber].contains d) &&
    rest.all fun d => [.left, .europeanNumber, .neutral, .mark].contains d

/-- Whether a label that starts from the right goes on so, with numbers of one kind. -/
def keepsRight (rest : List Direction) : Bool :=
  rest.getLast?.all (fun d => [.right, .europeanNumber, .arabicNumber].contains d) &&
    rest.all (fun d => [.right, .europeanNumber, .arabicNumber, .neutral, .mark].contains d) &&
    !(rest.contains .europeanNumber && rest.contains .arabicNumber)

/-- Whether a label is written in one direction. Its first character says in which; marks at its end
do not count. -/
def keepsDirection (label : List Char) : Bool :=
  match label.map direction with
  | [] => true
  | first :: rest =>
    let rest := (rest.reverse.dropWhile (· == .mark)).reverse
    match first with
    | .left => keepsLeft rest
    | .right => keepsRight rest
    | _ => false

end Flowline.Url.Domain
