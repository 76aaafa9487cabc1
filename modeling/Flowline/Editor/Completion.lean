import Flowline.Client
import Flowline.Editor.Rename

/-!
# Completion

A dataflow server proposes how a definition can go on from what is typed. It is sent the line up to
the cursor, a task without its name, and a proposal replaces all that.

* `resultLabel`: what is shown for a proposal;
* `splitTyped`: what is kept of a line and what is sent;
* `complete`: the proposals for a position.
-/

namespace Flowline

/-- What an editor offers for a proposal. -/
structure CompletionItem where
  label : String
  documentation : String
  filterText : String
  edit : TextEdit
  deriving DecidableEq, Repr, Inhabited

def CompletionItem.toJson (c : CompletionItem) : Json :=
  .obj [("label", .str c.label),
    ("documentation", .obj [("kind", .str "plaintext"), ("value", .str c.documentation)]),
    ("filterText", .str c.filterText), ("textEdit", c.edit.toJson)]

/-- The greatest index from 1 to `bound` at which a blank stands. -/
def lastBlankIndex (typed : List Char) : (bound : Nat) → Option Nat
  | 0 => none
  | i + 1 =>
    match typed[i + 1]? with
    | some c => if Character.isBlank c then some (i + 1) else lastBlankIndex typed i
    | none => lastBlankIndex typed i

/-- The column at which the word being typed starts. A blank in the first column starts no word. -/
def wordStart (typed : List Char) : Nat :=
  match lastBlankIndex typed (typed.length - 1) with
  | none => 0
  | some i => i + 1

/-- The number of characters that two texts have in common at their start. -/
def commonLength : List Char → List Char → Nat
  | a :: as, b :: bs => if a = b then commonLength as bs + 1 else 0
  | _, _ => 0

/-- What a proposal adds to the text before the word being typed. -/
def resultLabel (typed proposal : List Char) : List Char :=
  proposal.drop (commonLength (typed.take (wordStart typed)) proposal)

/-- The part of the typed text that is kept and the part that is sent. A task's name is kept, with
the blanks after it. -/
def splitTyped (d : Dialect) (typed : List Char) : List Char × List Char :=
  match d.inlineName typed with
  | none => ([], typed)
  | some inline =>
    let start := inline.bodyStart + leadingBlanks (typed.drop inline.bodyStart)
    (typed.take start, typed.drop start)

/-- What is offered for a proposal that replaces a range. -/
def CompletionItem.ofProposal (range : Range) (kept sent : List Char) (p : Proposal) :
    CompletionItem :=
  let newText := String.ofList (kept ++ p.text.toList)
  { label := String.ofList (resultLabel sent p.text.toList)
    documentation := p.explanation
    filterText := newText
    edit := ⟨range, newText⟩ }

/-- How much is asked to be proposed. -/
def detailLevel : Nat := 1

/-- The call that asks for the proposals at a position of a line. -/
def completionCall (e : Environment) (d : Dialect) (line : List Char) (p : Position) : Call :=
  ⟨e, .completions d (String.ofList (splitTyped d (line.take p.character)).2) detailLevel⟩

/-- The proposals at a position of a line. -/
def complete (client : Client) (e : Environment) (d : Dialect) (line : List Char) (p : Position) :
    Except ServiceError (List CompletionItem) :=
  let (kept, sent) := splitTyped d (line.take p.character)
  match client.completions e d (String.ofList sent) detailLevel with
  | .error error => .error error
  | .ok proposals =>
    .ok (proposals.map
      (CompletionItem.ofProposal (Range.onLine p.line 0 p.character) kept sent))

end Flowline
