import Flowline.Definition.AppReader

/-!
# Reading a stream

A stream is written `[name =] [:source >] app (| app)* [> :sink]`, or `[name =] :source > :sink` for
a bridge. Blanks may stand between these parts.

* `StreamDefinition.parse`: a line as a stream, or the first error in it.
-/

namespace Flowline

/-- Reads `name =`. The input is left as it is when no name stands there. -/
def readName (i : Input) : Option DeclaredName × Input :=
  let text := i.word isNameChar
  let j := i.skipWhile isNameChar
  match j.skipBlanks.eat? ['='] with
  | some k =>
    if text.isEmpty then (none, i)
    else (some ⟨String.ofList text, ⟨i.offset, j.offset⟩⟩, k)
  | none => (none, i)

/-- Reads a colon and the name of a destination. -/
def readDestination (i : Input) : Reading Destination :=
  match i.eat? [':'] with
  | none => .error ⟨i.offset, .expectedCharacter ':'⟩
  | some j =>
    let name := j.word isDottedChar
    let k := j.skipWhile isDottedChar
    if name.isEmpty then .error ⟨j.offset, .expectedDestinationName⟩
    else .ok (⟨String.ofList name, ⟨j.offset, k.offset⟩⟩, k)

/-- Reads `:source >` and the blanks after it, if the input starts with a colon. -/
def readSource (i : Input) : Reading (Option Destination) :=
  if i.startsWith [':'] then
    match readDestination i with
    | .error e => .error e
    | .ok (source, j) =>
      match j.skipBlanks.eat? ['>'] with
      | none => .error ⟨j.skipBlanks.offset, .expectedCharacter '>'⟩
      | some k => .ok (some source, k.skipBlanks)
  else .ok (none, i)

/-- Reads apps with pipes between them, and the blanks after the last one. -/
def readPipeline (i : Input) : Reading (List App) :=
  match h : readApp .stream i with
  | .error e => .error e
  | .ok (app, j) =>
    if j.skipBlanks.startsWith ['|', '|'] then
      .error ⟨j.skipBlanks.offset, .doublePipeInStream⟩
    else
      match hk : j.skipBlanks.eat? ['|'] with
      | none => .ok ([app], j.skipBlanks)
      | some k =>
        have : k.skipBlanks.rest.length < i.rest.length := by
          have h1 := readApp_length_lt h
          have h2 := Input.length_rest_skipBlanks_le j
          have h3 := Input.length_rest_of_eat? hk
          have h4 := Input.length_rest_skipBlanks_le k
          omega
        match readPipeline k.skipBlanks with
        | .error e => .error e
        | .ok (apps, l) => .ok (app :: apps, l)
termination_by i.rest.length

/-- Reads `> :sink`, if the input starts with an arrow. -/
def readSink (i : Input) : Reading (Option Destination) :=
  match i.eat? ['>'] with
  | none => .ok (none, i)
  | some j =>
    match readDestination j.skipBlanks with
    | .error e => .error e
    | .ok (sink, k) => .ok (some sink, k)

/-- Reads what follows the source: only a sink for a bridge, else apps and perhaps a sink. -/
def readFlow (source : Option Destination) (i : Input) : Reading (List App × Option Destination) :=
  if source.isSome && i.startsWith [':'] then
    match readDestination i with
    | .error e => .error e
    | .ok (sink, j) => .ok (([], some sink), j)
  else
    match readPipeline i with
    | .error e => .error e
    | .ok (apps, j) =>
      match readSink j with
      | .error e => .error e
      | .ok (sink, k) => .ok ((apps, sink), k)

/-- The column after the last part of a stream whose body starts at `start`. -/
def flowStop (start : Nat) (apps : List App) (sink : Option Destination) : Nat :=
  match sink with
  | some destination => destination.span.stop
  | none => (apps.getLast?.map (·.span.stop)).getD start

/-- Fails at the first character that is not blank. -/
def expectNothing (i : Input) : Except SyntaxError Unit :=
  match i.skipBlanks.rest with
  | [] => .ok ()
  | c :: _ => .error ⟨i.skipBlanks.offset, .unexpectedCharacter c⟩

/-- Reads the body of a stream, once its name has been read. -/
def readStreamBody (name : Option DeclaredName) (i : Input) :
    Except SyntaxError StreamDefinition :=
  if i.rest.isEmpty then .error ⟨i.offset, .expectedAppName⟩
  else
    match readSource i with
    | .error e => .error e
    | .ok (source, j) =>
      match readFlow source j with
      | .error e => .error e
      | .ok ((apps, sink), k) =>
        match expectNothing k with
        | .error e => .error e
        | .ok () =>
          let stop := flowStop i.offset apps sink
          .ok ⟨name, source, sink, apps, ⟨i.offset, stop⟩,
            String.ofList (i.rest.take (stop - i.offset))⟩

/-- Reads a line as a stream. -/
def StreamDefinition.parse (text : List Char) : Except SyntaxError StreamDefinition :=
  let (name, i) := readName (Input.ofText text 0).skipBlanks
  readStreamBody name i.skipBlanks

end Flowline
