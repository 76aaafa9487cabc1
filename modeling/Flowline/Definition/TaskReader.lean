import Flowline.Definition.AppReader

/-!
# Reading a task

A task is a sequence `flow (&& flow)*`, where a flow is an app or a split
`<sequence (|| sequence)*>` whose branches run side by side. Blanks may stand between all these
parts. Since a task lists its apps in the order of the text, the reader keeps of the splits around
it only how many there are.

* `TaskDefinition.parse`: a line from a column on as a task, or the first error in it.
-/

namespace Flowline

/-- What follows a flow: nothing, the task ending at column `stop`, or another flow inside `depth`
splits. -/
inductive AfterFlow where
  | done (stop : Nat)
  | flow (depth : Nat) (input : Input)
  deriving DecidableEq, Repr

/-- Reads what stands between a flow that ends at column `stop` inside `depth` splits and the next
one: the ends of splits, then `&&` or `||`. -/
def afterFlow : (depth stop : Nat) → Input → Except SyntaxError AfterFlow
  | depth, stop, i =>
    let j := i.skipBlanks
    match j.eat? ['&', '&'] with
    | some k => .ok (.flow depth k.skipBlanks)
    | none =>
      match depth with
      | 0 =>
        if j.startsWith ['|', '|'] then .error ⟨j.offset, .doublePipeOutsideSplit⟩
        else
          match j.rest with
          | [] => .ok (.done stop)
          | c :: _ => .error ⟨j.offset, .unexpectedCharacter c⟩
      | outer + 1 =>
        match j.eat? ['|', '|'] with
        | some k => .ok (.flow (outer + 1) k.skipBlanks)
        | none =>
          match j.eat? ['>'] with
          | some k => afterFlow outer k.offset k
          | none => .error ⟨j.offset, .expectedCharacter '>'⟩

theorem afterFlow_length_lt {depth stop next : Nat} {i j : Input}
    (h : afterFlow depth stop i = .ok (.flow next j)) : j.rest.length < i.rest.length := by
  have hj := Input.length_rest_skipBlanks_le i
  induction depth generalizing stop i with
  | zero =>
    rw [afterFlow] at h
    split at h
    · next k hk =>
      cases h
      have h1 := Input.length_rest_of_eat? hk
      have h2 := Input.length_rest_skipBlanks_le k
      simp only [List.length_cons, List.length_nil] at h1
      omega
    · split at h
      · cases h
      · split at h <;> cases h
  | succ outer ih =>
    rw [afterFlow] at h
    split at h
    · next k hk =>
      cases h
      have h1 := Input.length_rest_of_eat? hk
      have h2 := Input.length_rest_skipBlanks_le k
      simp only [List.length_cons, List.length_nil] at h1
      omega
    · split at h
      · next k hk =>
        cases h
        have h1 := Input.length_rest_of_eat? hk
        have h2 := Input.length_rest_skipBlanks_le k
        simp only [List.length_cons, List.length_nil] at h1
        omega
      · split at h
        · next k hk =>
          have h1 := Input.length_rest_of_eat? hk
          have h2 := ih h (Input.length_rest_skipBlanks_le k)
          simp only [List.length_cons, List.length_nil] at h1
          omega
        · cases h

/-- Reads flows inside `depth` splits to the end of the task. Gives the apps and the column after
the last flow. -/
def readFlows (depth : Nat) (i : Input) : Except SyntaxError (List App × Nat) :=
  match ho : i.eat? ['<'] with
  | some j =>
    have : j.skipBlanks.rest.length < i.rest.length := by
      have h1 := Input.length_rest_of_eat? ho
      have h2 := Input.length_rest_skipBlanks_le j
      simp only [List.length_cons, List.length_nil] at h1
      omega
    readFlows (depth + 1) j.skipBlanks
  | none =>
    match h : readApp .task i with
    | .error e => .error e
    | .ok (app, j) =>
      match ha : afterFlow depth app.span.stop j with
      | .error e => .error e
      | .ok (.done stop) => .ok ([app], stop)
      | .ok (.flow next k) =>
        have : k.rest.length < i.rest.length :=
          Nat.lt_trans (afterFlow_length_lt ha) (readApp_length_lt h)
        match readFlows next k with
        | .error e => .error e
        | .ok (apps, stop) => .ok (app :: apps, stop)
termination_by i.rest.length

/-- Reads a line from column `start` on as the body of the task `name`. -/
def TaskDefinition.parse (name : String) (text : List Char) (start : Nat) :
    Except SyntaxError TaskDefinition :=
  let i := (Input.ofText text start).skipBlanks
  if i.rest.isEmpty then .error ⟨i.offset, .expectedAppName⟩
  else
    match readFlows 0 i with
    | .error e => .error e
    | .ok (apps, stop) =>
      .ok ⟨name, apps, ⟨i.offset, stop⟩, String.ofList (i.rest.take (stop - i.offset))⟩

end Flowline
