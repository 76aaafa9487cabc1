import Flowline.Json.Basic

/-!
# Reading JSON

A text as a JSON value. Strings are read as the code units they spell, and a pair of escaped
surrogates is put together afterwards; a surrogate that stands alone is refused.

* `Json.parse?`: the value that a whole text spells.
-/

namespace Flowline.Json

def skipSpace (cs : List Char) : List Char :=
  cs.dropWhile fun c => c == ' ' || c == '\n' || c == '\r' || c == '\t'

/-- The value of a digit of the base 16. -/
def hexValue? (c : Char) : Option Nat :=
  if '0' ≤ c ∧ c ≤ '9' then some (c.toNat - 48)
  else if 'a' ≤ c ∧ c ≤ 'f' then some (c.toNat - 87)
  else if 'A' ≤ c ∧ c ≤ 'F' then some (c.toNat - 55)
  else none

/-- The number that four digits of the base 16 spell. -/
def hexUnit? (a b c d : Char) : Option Nat := do
  let a ← hexValue? a
  let b ← hexValue? b
  let c ← hexValue? c
  let d ← hexValue? d
  pure (((a * 16 + b) * 16 + c) * 16 + d)

/-- The character that a letter after a backslash stands for. -/
def unescape? (c : Char) : Option Char :=
  if c = '"' ∨ c = '\\' ∨ c = '/' then some c
  else if c = 'n' then some '\n'
  else if c = 't' then some '\t'
  else if c = 'r' then some '\r'
  else if c = 'b' then some '\x08'
  else if c = 'f' then some '\x0c'
  else none

/-- The code units of a string up to its closing quote, and what follows that quote. -/
def readUnits : List Char → Option (List Nat × List Char)
  | [] => none
  | '"' :: rest => some ([], rest)
  | '\\' :: 'u' :: a :: b :: c :: d :: rest => do
    let unit ← hexUnit? a b c d
    let (units, after) ← readUnits rest
    pure (unit :: units, after)
  | '\\' :: c :: rest => do
    let char ← unescape? c
    let (units, after) ← readUnits rest
    pure (char.toNat :: units, after)
  | c :: rest =>
    if c.toNat < 32 ∨ c = '\\' then none
    else do
      let (units, after) ← readUnits rest
      pure (c.toNat :: units, after)

/-- The characters that code units stand for. -/
def joinUnits : List Nat → Option (List Char)
  | [] => some []
  | high :: low :: rest =>
    if 0xD800 ≤ high ∧ high < 0xDC00 then
      if 0xDC00 ≤ low ∧ low < 0xE000 then
        (joinUnits rest).map (Char.ofNat (0x10000 + (high - 0xD800) * 0x400 + (low - 0xDC00)) :: ·)
      else none
    else if 0xDC00 ≤ high ∧ high < 0xE000 then none
    else (joinUnits (low :: rest)).map (Char.ofNat high :: ·)
  | [unit] => if 0xD800 ≤ unit ∧ unit < 0xE000 then none else some [Char.ofNat unit]

/-- A string after its opening quote. -/
def readString (cs : List Char) : Option (String × List Char) := do
  let (units, after) ← readUnits cs
  let chars ← joinUnits units
  pure (String.ofList chars, after)

def isDigit (c : Char) : Bool :=
  '0' ≤ c && c ≤ '9'

def digitsValue (cs : List Char) : Nat :=
  cs.foldl (fun n c => n * 10 + (c.toNat - 48)) 0

/-- An exponent after its mark, as it is written. -/
def readExponent (cs : List Char) : Option (List Char × List Char) :=
  let (sign, digits) :=
    match cs with
    | '+' :: rest => (['+'], rest)
    | '-' :: rest => (['-'], rest)
    | rest => ([], rest)
  if (digits.takeWhile isDigit).isEmpty then none
  else some (sign ++ digits.takeWhile isDigit, digits.dropWhile isDigit)

/-- A number: an integer when it has neither fraction nor exponent and is no negative zero. -/
def readNumber (cs : List Char) : Option (Json × List Char) := do
  let (negative, cs) :=
    match cs with
    | '-' :: rest => (true, rest)
    | rest => (false, rest)
  let digits := cs.takeWhile isDigit
  let rest := cs.dropWhile isDigit
  if digits.isEmpty ∨ (digits.length > 1 ∧ digits.head? = some '0') then none
  else
    let sign := if negative then ['-'] else []
    let (fraction, rest) ←
      match rest with
      | '.' :: more =>
        if (more.takeWhile isDigit).isEmpty then none
        else some ('.' :: more.takeWhile isDigit, more.dropWhile isDigit)
      | _ => some ([], rest)
    let (exponent, rest) ←
      match rest with
      | 'e' :: more => (readExponent more).map fun (text, after) => ('e' :: text, after)
      | 'E' :: more => (readExponent more).map fun (text, after) => ('e' :: text, after)
      | _ => some ([], rest)
    let magnitude := digitsValue digits
    if fraction.isEmpty ∧ exponent.isEmpty ∧ (negative = false ∨ magnitude ≠ 0) then
      pure (int (if negative then -(magnitude : Int) else magnitude), rest)
    else
      pure (decimal (String.ofList (sign ++ digits ++ fraction ++ exponent)), rest)

mutual

/-- A value and what follows it; `fuel` bounds the number of steps. -/
def readValue : Nat → List Char → Option (Json × List Char)
  | 0, _ => none
  | fuel + 1, cs =>
    match skipSpace cs with
    | '"' :: rest => (readString rest).map fun (s, after) => (str s, after)
    | 't' :: 'r' :: 'u' :: 'e' :: rest => some (bool true, rest)
    | 'f' :: 'a' :: 'l' :: 's' :: 'e' :: rest => some (bool false, rest)
    | 'n' :: 'u' :: 'l' :: 'l' :: rest => some (null, rest)
    | '[' :: rest =>
      match skipSpace rest with
      | ']' :: after => some (arr [], after)
      | _ => (readItems fuel rest).map fun (items, after) => (arr items, after)
    | '\x7b' :: rest =>
      match skipSpace rest with
      | '\x7d' :: after => some (obj [], after)
      | _ => (readMembers fuel rest).map fun (members, after) => (obj members, after)
    | other => readNumber other

/-- The items of an array up to its closing bracket. -/
def readItems : Nat → List Char → Option (List Json × List Char)
  | 0, _ => none
  | fuel + 1, cs =>
    match readValue fuel cs with
    | none => none
    | some (item, rest) =>
      match skipSpace rest with
      | ']' :: after => some ([item], after)
      | ',' :: more => (readItems fuel more).map fun (items, after) => (item :: items, after)
      | _ => none

/-- The members of an object up to its closing brace. -/
def readMembers : Nat → List Char → Option (List (String × Json) × List Char)
  | 0, _ => none
  | fuel + 1, cs =>
    match skipSpace cs with
    | '"' :: rest =>
      match readString rest with
      | none => none
      | some (key, rest) =>
        match skipSpace rest with
        | ':' :: rest =>
          match readValue fuel rest with
          | none => none
          | some (value, rest) =>
            match skipSpace rest with
            | '\x7d' :: after => some ([(key, value)], after)
            | ',' :: more =>
              (readMembers fuel more).map fun (members, after) => ((key, value) :: members, after)
            | _ => none
        | _ => none
    | _ => none

end

/-- The value that a whole text spells. Every step but those into a value and into its items uses up
a character, so the steps are fewer than three times the characters. -/
def parse? (text : String) : Option Json :=
  let cs := text.toList
  match readValue (3 * cs.length + 3) cs with
  | some (value, rest) => if (skipSpace rest).isEmpty then some value else none
  | none => none

end Flowline.Json
