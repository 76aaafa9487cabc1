import Flowline.Url.Basic
import Flowline.Url.Host

/-!
# Reading urls

A text as a url. Blanks and control characters around the text and breaks in it do not count. The
well-known schemes are followed by a host, with any number of slashes before it, and their
backslashes are slashes; the scheme of files may have a host; any other scheme has one exactly after
two slashes. Dot segments of paths are resolved, but no path leaves a drive.

* `Url.parse?`.
-/

namespace Flowline.Url

/-- The kinds of schemes. A well-known one has a port that need not be written. -/
inductive Kind where
  | file
  | wellKnown (port : Nat)
  | other
  deriving DecidableEq, Repr, Inhabited

namespace Kind

def ofScheme : String → Kind
  | "file" => file
  | "http" => wellKnown 80
  | "https" => wellKnown 443
  | "ws" => wellKnown 80
  | "wss" => wellKnown 443
  | "ftp" => wellKnown 21
  | _ => other

/-- Whether urls of this kind follow the rules of the well-known schemes. -/
def isSpecial : Kind → Bool
  | other => false
  | _ => true

def isSlash (k : Kind) (c : Char) : Bool :=
  c == '/' || (k.isSpecial && c == '\\')

end Kind

/-- A text without the blanks and control characters around it. -/
def inner (text : List Char) : List Char :=
  let around (c : Char) : Bool := c.toNat ≤ 0x20
  ((text.dropWhile around).reverse.dropWhile around).reverse

/-- The characters that do not count. -/
def isBreak (c : Char) : Bool :=
  c == '\t' || c == '\n' || c == '\r'

/-- The characters of a text that count. -/
def dropBreaks (text : List Char) : List Char :=
  text.filter fun c => !isBreak c

def isAsciiAlpha (c : Char) : Bool :=
  ('a' ≤ c && c ≤ 'z') || ('A' ≤ c && c ≤ 'Z')

def isSchemeChar (c : Char) : Bool :=
  isAsciiAlpha c || isDigit c || c == '+' || c == '-' || c == '.'

def lowerAscii (c : Char) : Char :=
  if 'A' ≤ c ∧ c ≤ 'Z' then Char.ofNat (c.toNat + 32) else c

/-- The scheme that a text spells. -/
def scheme? (text : List Char) : Option String :=
  if text.head?.any isAsciiAlpha && text.all isSchemeChar then
    some (String.ofList (text.map lowerAscii))
  else none

/-- The scheme before the first colon, and what follows, still with its breaks. -/
def cutScheme? (text : List Char) : Option (String × List Char) :=
  (cutFirst ':' text).bind fun (before, after) =>
    (scheme? (dropBreaks before)).map fun scheme => (scheme, after)

/-- What stands before a mark, and what after it if it is there. -/
def cutMark (mark : Char) (text : List Char) : List Char × Option (List Char) :=
  match cutFirst mark text with
  | none => (text, none)
  | some (before, after) => (before, some after)

/-! ## Paths -/

/-- A letter before a colon or a bar. -/
def isDriveLetter (segment : List Char) : Bool :=
  match segment with
  | [letter, mark] => isAsciiAlpha letter && (mark == ':' || mark == '|')
  | _ => false

/-- Whether a segment is a drive, or starts with one before a backslash. -/
def isDrive (segment : List Char) : Bool :=
  isDriveLetter (segment.take 2) && (segment[2]?).all (· == '\\')

/-- A segment with its dots written as dots. -/
def plainDots : List Char → List Char
  | '%' :: '2' :: 'e' :: rest => '.' :: plainDots rest
  | '%' :: '2' :: 'E' :: rest => '.' :: plainDots rest
  | c :: rest => c :: plainDots rest
  | [] => []

/-- A path that is being read. A drive that it starts with may take the place of the host. -/
structure Draft where
  segments : List (List Char)
  replacesHost : Bool
  deriving DecidableEq, Repr

namespace Draft

def empty : Draft := ⟨[], false⟩

/-- A path without its last segment; a drive stays. -/
def shorten (draft : Draft) : Draft :=
  if draft.segments.getLast?.any isDrive then draft
  else { draft with segments := draft.segments.dropLast }

def push (draft : Draft) (segment : List Char) : Draft :=
  { draft with segments := draft.segments ++ [segment] }

end Draft

/-- The segment that a text between slashes stands for. -/
def encodeSegment (part : List Char) : List Char :=
  percentEncode inPathSet (dropBreaks part)

/-- The drive that a text between slashes starts with and what follows it, if a break comes between
them. -/
def cutDrive? (part : List Char) : Option (List Char × List Char) :=
  match part.dropWhile isBreak with
  | [] => none
  | letter :: rest =>
    match rest.dropWhile isBreak with
    | ':' :: rest =>
      if isAsciiAlpha letter && rest.head?.any isBreak && !(dropBreaks rest).isEmpty then
        some ([letter, ':'], rest)
      else none
    | _ => none

/-- Starts the path of a file. A drive is followed by a colon and takes the place of the host. One
before a break leaves the host, and what follows it is a segment of its own. -/
def startFile (part : List Char) : Draft :=
  match cutDrive? part with
  | some (drive, after) => ⟨[drive, encodeSegment after], false⟩
  | none =>
    let segment := encodeSegment part
    if isDriveLetter segment then ⟨[segment.take 1 ++ [':']], true⟩ else ⟨[segment], false⟩

/-- Puts the texts between slashes at the end of a path and resolves those that are dots. -/
def resolve (k : Kind) (draft : Draft) : List (List Char) → Draft
  | [] => draft
  | part :: rest =>
    let dots := plainDots (dropBreaks part)
    let close (d : Draft) := if rest.isEmpty then d.push [] else d
    if dots = ['.', '.'] then resolve k (close draft.shorten) rest
    else if dots = ['.'] then resolve k (close draft) rest
    else if k = .file ∧ draft.segments = [] then resolve k (startFile part) rest
    else resolve k (draft.push (encodeSegment part)) rest

/-- The parts of a text between slashes. -/
def cutSlashes (k : Kind) (text : List Char) : List (List Char) :=
  pieces '/' (text.map fun c => if k.isSlash c then '/' else c)

/-- Files have no empty segments before the first one that is not. -/
def dropEmpty : List (List Char) → List (List Char)
  | [] :: next :: rest => dropEmpty (next :: rest)
  | path => path

/-- The path of segments. -/
def pathOf (segments : List (List Char)) : Path :=
  .segments (segments.map String.ofList)

/-- The path that a text after its first slash stands for. -/
def readPath (k : Kind) (text : List Char) : Path :=
  pathOf (resolve k .empty (cutSlashes k text)).segments

/-- The path of a file that a text after its first slash stands for, and whether it takes the place
of the host. -/
def readFilePath (text : List Char) : Path × Bool :=
  let draft := resolve .file .empty (cutSlashes .file text)
  (pathOf (dropEmpty draft.segments), draft.replacesHost)

/-- A text without the slash it may start with. -/
def dropSlash (k : Kind) (text : List Char) : List Char :=
  match text with
  | [] => []
  | c :: rest => if k.isSlash c then rest else c :: rest

/-! ## Authorities -/

/-- The user and the password before the last `@`, encoded. -/
def readUser (text : List Char) : String × String :=
  let (user, password) := cutMark ':' text
  (String.ofList (percentEncode inUserSet user),
    String.ofList (percentEncode inUserSet (password.getD [])))

/-- The length of a host: it ends at the first colon outside brackets. -/
def hostLength (inside : Bool) : List Char → Nat
  | [] => 0
  | c :: rest =>
    if c = ':' ∧ inside = false then 0
    else if c = '[' then hostLength true rest + 1
    else if c = ']' then hostLength false rest + 1
    else hostLength inside rest + 1

/-- The port after a colon and what follows it. A backslash ends it, as does the end. -/
def readPort? (k : Kind) (text : List Char) : Option (Option Nat × List Char) :=
  let digits := text.takeWhile isDigit
  let rest := text.dropWhile isDigit
  match number? 10 digits with
  | none => none
  | some port =>
    if port > 65535 ∨ (rest ≠ [] ∧ rest.head? ≠ some '\\') then none
    else if digits.isEmpty ∨ k = .wellKnown port then some (none, rest)
    else some (some port, rest)

def hostOf? (k : Kind) (text : List Char) : Option (List Char) :=
  match k with
  | .other => Host.ofOther? text
  | _ => Host.ofDomain? text

/-- Reads an authority. Gives what is left of the text too; `more` says whether anything follows the
text. -/
def readAuthority? (k : Kind) (text : List Char) (more : Bool) :
    Option (Authority × List Char) := do
  let (userText, hostText) := match cutLast '@' text with
    | none => (none, text)
    | some (user, rest) => (some user, rest)
  let (user, password) := readUser (userText.getD [])
  let length := hostLength false hostText
  let rest := hostText.drop length
  let host ← hostOf? k (hostText.take length)
  let needsHost := k.isSpecial || !user.isEmpty || !password.isEmpty || rest.head? == some ':' ||
    (userText == some [] && rest.isEmpty && more)
  if host.isEmpty && needsHost then none
  else
    let (port, rest) ← match rest with
      | ':' :: digits => readPort? k digits
      | _ => some (none, rest)
    pure (⟨user, password, String.ofList host, port⟩, rest)

/-- The host of a file, which may be missing or be the local one. -/
def fileHost? (text : List Char) : Option String :=
  if text.isEmpty then some ""
  else (Host.ofDomain? text).map fun host =>
    if host = "localhost".toList then "" else String.ofList host

/-! ## Urls -/

/-- A text after the slash it starts with, if it starts with one. -/
def afterSlash? (text : List Char) : Option (List Char) :=
  match text.dropWhile isBreak with
  | [] => none
  | c :: rest => if Kind.file.isSlash c then some rest else none

/-- The authority of a file. -/
def fileAuthority (host : String) : Authority :=
  ⟨"", "", host, none⟩

/-- Reads the host of a file and its path after two slashes. A drive in the place of the host
belongs to the path. Without a host the path starts with the slash after it, so with an empty
segment. -/
def readFileHost? (text : List Char) : Option (Authority × Path) :=
  let hostText := text.takeWhile fun c => !Kind.file.isSlash c
  let rest := text.drop hostText.length
  if isDriveLetter (dropBreaks hostText) then some (fileAuthority "", (readFilePath text).1)
  else
    (fileHost? (dropBreaks hostText)).map fun host =>
      if host.isEmpty then (fileAuthority "", (readFilePath rest).1)
      else
        let (path, replacesHost) := readFilePath (dropSlash .file rest)
        (fileAuthority (if replacesHost then "" else host), path)

/-- Reads the host and the path of a file. -/
def readFile? (text : List Char) : Option (Authority × Path) :=
  match afterSlash? text with
  | none => some (fileAuthority "", (readFilePath text).1)
  | some rest =>
    match afterSlash? rest with
    | none => some (fileAuthority "", (readFilePath rest).1)
    | some rest => readFileHost? rest

/-- Reads the authority and the path of a url with a well-known scheme. -/
def readWellKnown? (k : Kind) (text : List Char) (more : Bool) : Option (Authority × Path) := do
  let text := text.dropWhile k.isSlash
  let authorityText := text.takeWhile fun c => !k.isSlash c
  let rest := text.drop authorityText.length
  let (authority, left) ← readAuthority? k authorityText (more || !rest.isEmpty)
  pure (authority, readPath k (dropSlash k (left ++ rest)))

/-- Reads the authority and the path of any other url. -/
def readOther? (text : List Char) (more : Bool) : Option (Option Authority × Path) :=
  match text with
  | '/' :: '/' :: rest => do
    let authorityText := rest.takeWhile (· != '/')
    let after := rest.drop authorityText.length
    let (authority, left) ← readAuthority? .other authorityText (more || !after.isEmpty)
    let pathText := left ++ after
    let path :=
      if pathText.isEmpty then .segments [] else readPath .other (dropSlash .other pathText)
    pure (some authority, path)
  | '/' :: rest => some (none, readPath .other rest)
  | _ => some (none, .rootless (String.ofList (percentEncode isControl text)))

/-- Reads a text as a url. -/
def parse? (text : String) : Option Url := do
  let (scheme, rest) ← cutScheme? (inner text.toList)
  let kind := Kind.ofScheme scheme
  let (rest, fragment) := cutMark '#' rest
  let (rest, query) := cutMark '?' rest
  let more := query.isSome || fragment.isSome
  let (authority, path) ← match kind with
    | .file => (readFile? rest).map fun (a, p) => (some a, p)
    | .wellKnown _ => (readWellKnown? kind (dropBreaks rest) more).map fun (a, p) => (some a, p)
    | .other => readOther? (dropBreaks rest) more
  let encode (inSet : Char → Bool) (part : List Char) : String :=
    String.ofList (percentEncode inSet (dropBreaks part))
  pure
    { scheme := scheme
      authority := authority
      path := path
      query := query.map (encode (inQuerySet kind.isSpecial))
      fragment := fragment.map (encode inFragmentSet) }

end Flowline.Url
