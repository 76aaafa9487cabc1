import Flowline.Text.Cut
import Flowline.Url.Percent

/-!
# Addresses as hosts

A host whose last part is a number is an address of four bytes, written in one to four parts, each
decimal, octal or hexadecimal. A host in brackets is an address of eight pieces of 16 bits. Both are
brought to their usual form.

* `Ipv4.parse?`, `Ipv6.parse?`: the usual form of an address.
-/

namespace Flowline.Url

def isDigit (c : Char) : Bool :=
  '0' ≤ c && c ≤ '9'

/-- The number that digits of a base spell, if all of them are digits of that base. -/
def number? (base : Nat) (digits : List Char) : Option Nat :=
  digits.foldl (fun acc c =>
    match acc, hexValue? c with
    | some n, some d => if d < base then some (n * base + d) else none
    | _, _ => none) (some 0)

/-- A number as digits of the base 16. -/
def hexText (n : Nat) : List Char :=
  Nat.toDigits 16 n

namespace Ipv4

/-- The value of a part of an address: hexadecimal after `0x`, octal after `0`, else decimal. -/
def part? (text : List Char) : Option Nat :=
  match text with
  | [] => none
  | '0' :: 'x' :: digits => number? 16 digits
  | '0' :: 'X' :: digits => number? 16 digits
  | '0' :: d :: digits => number? 8 (d :: digits)
  | digits => number? 10 digits

/-- The parts of a host, without the empty one after a trailing dot. -/
def parts (host : List Char) : List (List Char) :=
  let all := pieces '.' host
  if all.length > 1 ∧ all.getLast? = some [] then all.dropLast else all

/-- Whether a host has to be read as an address. -/
def endsInNumber (host : List Char) : Bool :=
  match (parts host).getLast? with
  | none => false
  | some last => (!last.isEmpty && last.all isDigit) || (part? last).isSome

/-- The address that numbers stand for: all but the last one are bytes, and the last one fills
up. -/
def join? (numbers : List Nat) : Option Nat :=
  match numbers.reverse with
  | [] => none
  | last :: lead =>
    if numbers.length > 4 ∨ lead.any (· > 255) ∨ last ≥ 1 <<< (8 * (5 - numbers.length)) then none
    else some (numbers.dropLast.zipIdx.foldl (fun n (b, i) => n + b <<< (8 * (3 - i))) last)

/-- Four bytes with dots between them. -/
def render (address : Nat) : List Char :=
  (toString (address >>> 24 % 256) ++ "." ++ toString (address >>> 16 % 256) ++ "." ++
    toString (address >>> 8 % 256) ++ "." ++ toString (address % 256)).toList

/-- The usual form of a host that has to be read as an address. -/
def parse? (host : List Char) : Option (List Char) := do
  let numbers ← (parts host).mapM part?
  let address ← join? numbers
  pure (render address)

end Ipv4

namespace Ipv6

/-- A piece of one to four hexadecimal digits. -/
def piece? (text : List Char) : Option Nat :=
  if text.isEmpty ∨ text.length > 4 then none else number? 16 text

/-- A byte in decimal, without needless zeros. -/
def byte? (text : List Char) : Option Nat :=
  if text.isEmpty ∨ (text.length > 1 ∧ text.head? = some '0') then none
  else (number? 10 text).bind fun n => if n ≤ 255 then some n else none

/-- The two pieces that four bytes with dots between them stand for. -/
def dotted? (text : List Char) : Option (List Nat) := do
  match ← (pieces '.' text).mapM byte? with
  | [a, b, c, d] => pure [a * 256 + b, c * 256 + d]
  | _ => none

/-- The pieces between colons; the last one may be written as four bytes. -/
def group? (text : List Char) (isLast : Bool) : Option (List Nat) :=
  if text.isEmpty then some []
  else
    let texts := pieces ':' text
    match texts.getLast? with
    | none => none
    | some final =>
      if isLast ∧ final.contains '.' then do
        let lead ← texts.dropLast.mapM piece?
        let tail ← dotted? final
        pure (lead ++ tail)
      else texts.mapM piece?

/-- What stands before and after the first `::`. -/
def cutGap : List Char → Option (List Char × List Char)
  | ':' :: ':' :: rest => some ([], rest)
  | c :: rest => (cutGap rest).map fun (before, after) => (c :: before, after)
  | [] => none

/-- The eight pieces of an address; `::` stands for at least one piece that is zero. -/
def pieces? (text : List Char) : Option (List Nat) :=
  match cutGap text with
  | none => do
    let all ← group? text true
    if all.length = 8 then some all else none
  | some (before, after) => do
    let lead ← group? before false
    let tail ← group? after true
    if lead.length + tail.length ≤ 7 then
      some (lead ++ List.replicate (8 - lead.length - tail.length) 0 ++ tail)
    else none

/-- The number of zeros a list starts with. -/
def zeros (ps : List Nat) : Nat :=
  (ps.takeWhile (· == 0)).length

/-- The start and the length of the first of the longest runs of zeros. -/
def longestGap (ps : List Nat) : Nat × Nat :=
  (List.range ps.length).foldl
    (fun best i => if zeros (ps.drop i) > best.2 then (i, zeros (ps.drop i)) else best) (0, 0)

/-- Texts with colons between them. -/
def joinColons (ps : List Nat) : List Char :=
  [':'].intercalate (ps.map hexText)

/-- Pieces in brackets; the longest run of at least two zeros is left out. -/
def render (ps : List Nat) : List Char :=
  let (start, length) := longestGap ps
  let inner :=
    if length < 2 then joinColons ps
    else joinColons (ps.take start) ++ [':', ':'] ++ joinColons (ps.drop (start + length))
  '[' :: inner ++ [']']

/-- The usual form of an address, given without its brackets. -/
def parse? (text : List Char) : Option (List Char) :=
  (pieces? text).map render

end Ipv6

end Flowline.Url
