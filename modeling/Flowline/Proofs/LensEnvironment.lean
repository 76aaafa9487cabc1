import Flowline.Editor.Diagnostic
import Flowline.Editor.Lens
import Flowline.Proofs.Deployments
import Flowline.Proofs.Tiling

/-!
# Lenses and the environment of a position

The environment of a position is searched for among the items and their deployments, by their
ranges. A lens takes its environment from the item or the deployment it was made for. Both give the
same: no two items have a position in common, nor have two deployments or a deployment and a
definition line.

* `Item.Laid`, `laid_of_mem_segment`: how the parts of an item lie in it;
* `declaredEnvironment_of_deployment`, `declaredEnvironment_of_definition`: what is found by
  position;
* `lenses_above`: the lenses above a line are those of the item with that line;
* `environmentAt_eq_resolve_server`: the environment of a position is the one that its lenses name.
-/

namespace Flowline

/-! ## The parts of an item -/

/-- The deployments of an item stand one below the other, and the definition line below them is its
last line. -/
structure Item.Laid (i : Item) : Prop where
  startLine : ∀ b ∈ i.deployments, b.startLineRange.start = b.range.start
  start_le : ∀ b ∈ i.deployments, i.range.start ≤ b.range.start
  start_le_stop : ∀ b ∈ i.deployments, b.range.start.line ≤ b.range.stop.line
  stop_lt : ∀ b ∈ i.deployments, b.range.stop.line < i.range.stop.line
  pairwise : i.deployments.Pairwise (fun a b => a.range.stop.line < b.range.start.line)
  definition : ∀ r, i.definitionRange = some r →
    i.range.start ≤ r.start ∧ r.start.line = r.stop.line ∧ r.stop = i.range.stop

/-- What stands since the last definition line stands in the item of line `n`. -/
theorem itemStart_le_of_mem_sinceDefinition {d : Dialect} {lines : List Line} {n : Nat} {l : Line}
    (hnum : IsNumbered lines) (hn : n ≤ lines.length) (hl : l ∈ sinceDefinition d lines n) :
    itemStart d lines n ≤ l.number ∧ l.number < n := by
  induction n with
  | zero => cases hl
  | succ n ih =>
    have h : lines[n]? = some lines[n] := List.getElem?_eq_getElem (by omega)
    rw [sinceDefinition_succ h] at hl
    rw [itemStart_succ h]
    split at hl
    · cases hl
    · next hd =>
      rw [if_neg hd]
      rcases List.mem_append.mp hl with hl | hl
      · have := ih (by omega) hl
        omega
      · have := itemStart_le (d := d) (n := n) hnum
        rw [List.mem_singleton.mp hl, hnum n _ h]
        omega

theorem laid_itemAt {reader : DefinitionReader} {d : Dialect} {lines : List Line}
    (hnum : IsNumbered lines) {l : Line} (hl : l ∈ lines) : (itemAt reader d lines l).Laid := by
  have hlen := (List.getElem?_eq_some_iff.mp (hnum.getElem? hl)).1
  have hsorted := pairwise_sinceDefinition (d := d) hnum l.number
  have hof : ∀ b ∈ (itemAt reader d lines l).deployments,
      ∃ run, run.Sublist (sinceDefinition d lines l.number) ∧ b.IsOf d run := by
    intro b hb
    obtain ⟨run, hrun, hb⟩ := List.mem_filterMap.mp hb
    exact ⟨run, sublist_of_mem_splitOnP hrun, (isOf_of_deploymentOf hb).2.1⟩
  have hstart := itemStart_le (d := d) (n := l.number) hnum
  constructor
  case startLine =>
    intro b hb
    obtain ⟨run, -, hof⟩ := hof b hb
    obtain ⟨first, -, hline, hstart⟩ := hof.first
    rw [hline, hstart]
  case start_le =>
    intro b hb
    obtain ⟨run, hsub, hof⟩ := hof b hb
    obtain ⟨first, hfirst, -, hstart⟩ := hof.first
    have hmem := hsub.subset (List.mem_of_find?_eq_some hfirst)
    have := itemStart_le_of_mem_sinceDefinition hnum (Nat.le_of_lt hlen) hmem
    rw [hstart, Position.le_iff]
    simp only [itemAt, Line.range, Range.onLine]
    omega
  case start_le_stop =>
    intro b hb
    obtain ⟨run, hsub, hof⟩ := hof b hb
    obtain ⟨first, hfirst, -, hstart⟩ := hof.first
    obtain ⟨last, hlast, hstop⟩ := hof.last
    rw [hstart, hstop]
    exact firstMetadata_le_lastMetadata (hsorted.sublist hsub) hfirst hlast
  case stop_lt =>
    intro b hb
    obtain ⟨run, hsub, hof⟩ := hof b hb
    obtain ⟨last, hlast, hstop⟩ := hof.last
    have hmem := hsub.subset (List.mem_of_mem_filter (List.mem_of_getLast? hlast))
    rw [hstop]
    exact (itemStart_le_of_mem_sinceDefinition hnum (Nat.le_of_lt hlen) hmem).2
  case pairwise => exact pairwise_deploymentsOf lines (pairwise_splitOnP hsorted)
  case definition =>
    rintro r ⟨⟩
    refine ⟨?_, rfl, rfl⟩
    simp only [itemAt, Line.range, Range.onLine, Position.le_iff]
    omega

theorem laid_of_mem_segment {reader : DefinitionReader} {d : Dialect}
    {document : Document} {i : Item} (hi : i ∈ segment reader d document) : i.Laid := by
  rcases mem_segment.mp hi with ⟨l, hl, rfl⟩ | hd
  · exact laid_itemAt (isNumbered_numberedLines document) (mem_definitionLines.mp hl).1
  · -- the dangling item has neither a deployment nor a definition line
    obtain ⟨-, hrange, hdeployments, -⟩ := danglingItem?_holds hd
    constructor <;> simp [hrange, hdeployments]

/-! ## Searching by position -/

/-- Of ranges on increasing lines, at most one has a position. -/
theorem find?_contains {α : Type*} (range : α → Range) {xs : List α}
    (h : xs.Pairwise (fun a b => (range a).stop.line < (range b).start.line)) {x : α} (hx : x ∈ xs)
    {p : Position} (hp : (range x).contains p = true) :
    xs.find? (fun a => (range a).contains p) = some x := by
  induction xs with
  | nil => cases hx
  | cons y ys ih =>
    obtain ⟨hhead, htail⟩ := List.pairwise_cons.mp h
    rcases List.mem_cons.mp hx with rfl | hx
    · exact List.find?_cons_of_pos hp
    · have hy : (range y).contains p = false := by
        refine Bool.eq_false_iff.mpr fun hy => ?_
        have hlt := hhead x hx
        rw [Range.contains_iff, Position.le_iff, Position.le_iff] at hy hp
        omega
      rw [List.find?_cons, hy]
      exact ih htail hx

section Position

variable {reader : DefinitionReader} {d : Dialect} {document : Document} {i : Item} {p : Position}

theorem declaredEnvironment_of_mem (hi : i ∈ segment reader d document)
    (hp : i.range.contains p = true) :
    declaredEnvironment (segment reader d document) p =
      ((i.deployments.find? fun b => b.range.contains p).bind Deployment.envName).or i.envName := by
  rw [declaredEnvironment, find?_contains Item.range (pairwise_segment reader) hi hp]

theorem declaredEnvironment_of_deployment (hi : i ∈ segment reader d document) {b : Deployment}
    (hb : b ∈ i.deployments) (hp : b.range.contains p = true) :
    declaredEnvironment (segment reader d document) p = deploymentServer i b := by
  have hlaid := laid_of_mem_segment hi
  have hmem : i.range.contains p = true := by
    have hstart := hlaid.start_le b hb
    have hstop := hlaid.stop_lt b hb
    simp only [Range.contains_iff, Position.le_iff] at hp hstart ⊢
    omega
  rw [declaredEnvironment_of_mem hi hmem, find?_contains Deployment.range hlaid.pairwise hb hp]
  rfl

theorem declaredEnvironment_of_definition (hi : i ∈ segment reader d document) {r : Range}
    (hr : i.definitionRange = some r) (hp : r.contains p = true) :
    declaredEnvironment (segment reader d document) p = i.envName := by
  have hlaid := laid_of_mem_segment hi
  obtain ⟨hstart, hline, hstop⟩ := hlaid.definition r hr
  have hmem : i.range.contains p = true := by
    simp only [Range.contains_iff, Position.le_iff] at hp hstart ⊢
    rw [← hstop]
    omega
  have hnone : (i.deployments.find? fun b => b.range.contains p) = none := by
    refine List.find?_eq_none.mpr fun b hb hcontains => ?_
    have hlt := hlaid.stop_lt b hb
    simp only [Range.contains_iff, Position.le_iff] at hp hcontains
    rw [← hstop] at hlt
    omega
  rw [declaredEnvironment_of_mem hi hmem, hnone]
  rfl

end Position

/-! ## The lenses above a line -/

namespace Dialect

/-- The lenses of a document. -/
def lenses : Dialect → List Item → List Lens
  | stream => streamLenses
  | task => taskLenses

def deploymentLens : Dialect → Item → Deployment → Lens
  | stream => streamDeploymentLens
  | task => taskDeploymentLens

def lensesAtDefinition : Dialect → Item → List Lens
  | stream => definitionLenses streamDefinitionLenses
  | task => definitionLenses taskDefinitionLenses

def itemLenses (d : Dialect) (i : Item) : List Lens :=
  i.deployments.map (d.deploymentLens i) ++ d.lensesAtDefinition i

/-- What is offered above a deployment. -/
def deploymentCommand : Dialect → LensCommand
  | stream => .deployStream
  | task => .launchTask

/-- What is offered above a definition. -/
def definitionCommands : Dialect → List LensCommand
  | stream => [.createStream, .destroyStream, .deployStream, .undeployStream]
  | task => [.createTask, .destroyTask, .launchTask]

theorem lenses_eq (d : Dialect) (items : List Item) :
    d.lenses items = items.flatMap d.itemLenses := by
  cases d <;> rfl

end Dialect

/-- The lenses above a range. -/
def lensesAbove (lenses : List Lens) (r : Range) : List Lens :=
  lenses.filter fun l => l.range = r

/-- What stands above other ranges can be left out. -/
theorem lensesAbove_middle {before ls after : List Lens} {r : Range}
    (hbefore : ∀ l ∈ before, l.range ≠ r) (hafter : ∀ l ∈ after, l.range ≠ r) :
    lensesAbove (before ++ (ls ++ after)) r = lensesAbove ls r := by
  have hnil : ∀ ms : List Lens, (∀ l ∈ ms, l.range ≠ r) → lensesAbove ms r = [] := by
    intro ms h
    refine List.filter_eq_nil_iff.mpr fun l hl => ?_
    simpa using h l hl
  have hb := hnil before hbefore
  have ha := hnil after hafter
  simp only [lensesAbove, List.filter_append] at ha hb ⊢
  rw [ha, hb, List.nil_append, List.append_nil]

theorem lensesAbove_of_forall {ls : List Lens} {r : Range} (h : ∀ l ∈ ls, l.range = r) :
    lensesAbove ls r = ls := by
  refine List.filter_eq_self.mpr fun l hl => ?_
  simpa using h l hl

section Lens

variable {d : Dialect} {i : Item}

theorem range_of_mem_definitionLenses {lenses : Item → Parsed → Range → List Lens} {lens : Lens}
    (hlenses : ∀ p r, ∀ lens ∈ lenses i p r, lens.range = r)
    (h : lens ∈ definitionLenses lenses i) :
    i.definitionRange = some lens.range := by
  rw [definitionLenses] at h
  split at h
  · next p r _ hr => rw [hr, hlenses p r lens h]
  · cases h

theorem range_of_mem_lensesAtDefinition {lens : Lens} (h : lens ∈ d.lensesAtDefinition i) :
    i.definitionRange = some lens.range := by
  cases d with
  | stream => exact range_of_mem_definitionLenses (by simp [streamDefinitionLenses]) h
  | task => exact range_of_mem_definitionLenses (by simp [taskDefinitionLenses]) h

theorem range_deploymentLens (d : Dialect) (i : Item) (b : Deployment) :
    (d.deploymentLens i b).range = b.startLineRange := by
  cases d <;> rfl

/-- The lenses of an item stand above its lines. -/
theorem Item.Laid.line_of_mem_itemLenses (h : i.Laid) {lens : Lens} (hl : lens ∈ d.itemLenses i) :
    i.range.start.line ≤ lens.range.start.line ∧ lens.range.start.line ≤ i.range.stop.line := by
  rcases List.mem_append.mp hl with hl | hl
  · obtain ⟨b, hb, rfl⟩ := List.mem_map.mp hl
    have hstart := h.start_le b hb
    have hle := h.start_le_stop b hb
    have hlt := h.stop_lt b hb
    rw [range_deploymentLens, h.startLine b hb]
    rw [Position.le_iff] at hstart
    omega
  · obtain ⟨hstart, hline, hstop⟩ := h.definition _ (range_of_mem_lensesAtDefinition hl)
    rw [Position.le_iff] at hstart
    rw [← hstop]
    omega

/-- Above the start of a deployment stands its lens alone. -/
theorem Item.Laid.lensesAbove_deployment (h : i.Laid) {b : Deployment} (hb : b ∈ i.deployments) :
    lensesAbove (d.itemLenses i) b.startLineRange = [d.deploymentLens i b] := by
  obtain ⟨before, after, hsplit⟩ := List.append_of_mem hb
  have hpairwise := h.pairwise
  rw [hsplit, List.pairwise_append, List.pairwise_cons] at hpairwise
  obtain ⟨-, ⟨hafter, -⟩, hbefore⟩ := hpairwise
  have hmem : ∀ c ∈ before ++ b :: after, c ∈ i.deployments := fun c hc => hsplit ▸ hc
  have hne : ∀ c ∈ i.deployments, c.range.start.line ≠ b.range.start.line →
      (d.deploymentLens i c).range ≠ b.startLineRange := by
    intro c hc hline heq
    rw [range_deploymentLens] at heq
    rw [← h.startLine c hc, ← h.startLine b hb, heq] at hline
    exact hline rfl
  have hle := h.start_le_stop b hb
  rw [Dialect.itemLenses, hsplit, List.map_append, List.map_cons, List.append_assoc,
    List.cons_append, ← List.singleton_append, lensesAbove_middle]
  · exact lensesAbove_of_forall (by simp [range_deploymentLens])
  · intro lens hl
    obtain ⟨c, hc, rfl⟩ := List.mem_map.mp hl
    have hlt := hbefore c hc b List.mem_cons_self
    have hc' := hmem c (by simp [hc])
    have := h.start_le_stop c hc'
    exact hne c hc' (by omega)
  · intro lens hl
    rcases List.mem_append.mp hl with hl | hl
    · obtain ⟨c, hc, rfl⟩ := List.mem_map.mp hl
      have := hafter c hc
      exact hne c (hmem c (by simp [hc])) (by omega)
    · -- the definition line is below every deployment
      intro heq
      obtain ⟨-, hline, hstop⟩ := h.definition _ (range_of_mem_lensesAtDefinition hl)
      have hlt := h.stop_lt b hb
      rw [← hstop, ← hline, heq, h.startLine b hb] at hlt
      omega

/-- Above the definition line stand the lenses of the definition alone. -/
theorem Item.Laid.lensesAbove_definition (h : i.Laid) {r : Range}
    (hr : i.definitionRange = some r) :
    lensesAbove (d.itemLenses i) r = d.lensesAtDefinition i := by
  rw [Dialect.itemLenses, ← List.append_nil (d.lensesAtDefinition i), lensesAbove_middle,
    List.append_nil]
  · refine lensesAbove_of_forall fun lens hl => ?_
    have heq := range_of_mem_lensesAtDefinition hl
    rw [hr] at heq
    exact (Option.some.inj heq).symm
  · intro lens hl heq
    obtain ⟨b, hb, rfl⟩ := List.mem_map.mp hl
    obtain ⟨-, hline, hstop⟩ := h.definition r hr
    have hle := h.start_le_stop b hb
    have hlt := h.stop_lt b hb
    rw [range_deploymentLens] at heq
    rw [← h.startLine b hb, heq] at hle
    rw [← hstop] at hlt
    omega
  · intro lens hl
    cases hl

end Lens

/-- The lenses above a line of an item are lenses of that item. -/
theorem lenses_above {reader : DefinitionReader} {d : Dialect} {document : Document} {i : Item}
    (hi : i ∈ segment reader d document) {r : Range} (hstart : i.range.start.line ≤ r.start.line)
    (hstop : r.start.line ≤ i.range.stop.line) :
    lensesAbove (d.lenses (segment reader d document)) r = lensesAbove (d.itemLenses i) r := by
  have hpairwise : (segment reader d document).Pairwise
      (fun a b => a.range.stop.line < b.range.start.line) := pairwise_segment reader
  obtain ⟨before, after, hsplit⟩ := List.append_of_mem hi
  rw [hsplit, List.pairwise_append, List.pairwise_cons] at hpairwise
  obtain ⟨-, ⟨hafter, -⟩, hbefore⟩ := hpairwise
  have hne : ∀ j ∈ segment reader d document, j.range.stop.line < i.range.start.line ∨
      i.range.stop.line < j.range.start.line → ∀ lens ∈ d.itemLenses j, lens.range ≠ r := by
    intro j hj hapart lens hl heq
    have hline := (laid_of_mem_segment hj).line_of_mem_itemLenses hl
    rw [heq] at hline
    omega
  have hmem : ∀ j ∈ before ++ i :: after, j ∈ segment reader d document := fun j hj => hsplit ▸ hj
  rw [Dialect.lenses_eq, hsplit, List.flatMap_append, List.flatMap_cons, lensesAbove_middle]
  · intro lens hl
    obtain ⟨j, hj, hl⟩ := List.mem_flatMap.mp hl
    exact hne j (hmem j (by simp [hj])) (.inl (hbefore j hj i List.mem_cons_self)) lens hl
  · intro lens hl
    obtain ⟨j, hj, hl⟩ := List.mem_flatMap.mp hl
    exact hne j (hmem j (by simp [hj])) (.inr (hafter j hj)) lens hl

/-! ## The environment of a lens -/

/-- The environment that a lens names: its second argument, a text or null. -/
def Lens.server? (l : Lens) : Option (Option String) :=
  l.arguments[1]?.bind (Json.orNull Json.asString)

theorem orNull_ofStringOption (s : Option String) :
    Json.orNull Json.asString (Json.ofStringOption s) = some s := by
  cases s <;> rfl

theorem deploymentLens_names (d : Dialect) (i : Item) (b : Deployment) :
    (d.deploymentLens i b).command = d.deploymentCommand ∧
      (d.deploymentLens i b).server? = some (deploymentServer i b) := by
  cases d
  · exact ⟨rfl, orNull_ofStringOption _⟩
  · exact ⟨rfl, orNull_ofStringOption _⟩

theorem lensesAtDefinition_names (d : Dialect) {i : Item} (hi : i.parsed.isSome = true) {r : Range}
    (hr : i.definitionRange = some r) :
    (d.lensesAtDefinition i).map (fun l => (l.command, l.server?)) =
      d.definitionCommands.map (fun c => (c, some i.envName)) := by
  obtain ⟨p, hp⟩ := Option.isSome_iff_exists.mp hi
  have hserver := orNull_ofStringOption i.envName
  cases d <;>
    simp [Dialect.lensesAtDefinition, definitionLenses, hp, hr, streamDefinitionLenses,
      taskDefinitionLenses, Dialect.definitionCommands, Lens.server?, StreamCreate.positional,
      StreamName.positional, StreamDeploy.positional, TaskCreate.positional, TaskName.positional,
      hserver]

/-! ## Checking tasks -/

namespace Lint

/-- Checks a task against an environment, if there is one. -/
def checkIn (client : Client) (e : Except ServiceError Environment) (l : Lint) (range : Range)
    (t : TaskDefinition) : Lint :=
  match e with
  | .error _ => l
  | .ok e => (l.ask client e).check e range t

/-- Checks an item against the environment that its metadata lines name. -/
def stepNamed (client : Client) (session : Environments) (l : Lint) (i : Item) : Lint :=
  match i.task? with
  | none => l
  | some (range, t) => l.checkIn client (session.resolve i.envName) range t

end Lint

theorem Item.parsed_of_task? {i : Item} {r : Range} {t : TaskDefinition}
    (h : i.task? = some (r, t)) : (∃ p, i.parsed = some p) ∧ i.definitionRange = some r := by
  rw [Item.task?] at h
  split at h
  · next hp hr =>
    cases h
    exact ⟨⟨_, hp⟩, hr⟩
  · cases h

theorem Body.exists_task_of_ofLine {reader : DefinitionReader} {line : Nat} {text : List Char}
    {name : Option Metadata} {p : Parsed}
    (h : Body.ofLine reader .task line text name = .parsed p) :
    ∃ t, p.definition = .task t := by
  have hnamed : ∀ name nameRange start,
      Body.ofNamedTask reader line text name nameRange start = .parsed p →
        ∃ t, p.definition = .task t := by
    intro name nameRange start h
    rw [Body.ofNamedTask] at h
    split at h
    · cases h
    · next t _ =>
      cases h
      exact ⟨t, rfl⟩
  simp only [Body.ofLine, Body.ofTaskLine] at h
  split at h
  · exact hnamed _ _ _ h
  · split at h
    · exact hnamed _ _ _ h
    · cases h

section Task

variable {reader : DefinitionReader} {d : Dialect} {document : Document} {i : Item}

/-- What is read in a task document is a task. -/
theorem exists_task?_of_parsed {p : Parsed} {l : Line} {lines : List Line}
    (hp : (itemAt reader .task lines l).parsed = some p) :
    ∃ t, (itemAt reader .task lines l).task? = some (l.range, t) := by
  obtain ⟨definition, name, nameRange, range⟩ := p
  have hbody : (itemAt reader .task lines l).body = .parsed ⟨definition, name,
      nameRange, range⟩ := by
    rw [Item.parsed] at hp
    split at hp
    · next hbody =>
      cases hp
      exact hbody
    · cases hp
  obtain ⟨t, rfl⟩ := Body.exists_task_of_ofLine hbody
  refine ⟨t, ?_⟩
  rw [Item.task?, hp]
  rfl

/-- On the definition line the environment of the item counts. -/
theorem environmentAt_definition (session : Environments) {l : Line} {column : Nat}
    (hi : itemAt reader d document.numberedLines l ∈ segment reader d document)
    (hcolumn : column ≤ l.text.length) :
    environmentAt (segment reader d document) ⟨l.number, column⟩ session =
      session.resolve (itemAt reader d document.numberedLines l).envName := by
  have hcontains : l.range.contains ⟨l.number, column⟩ = true := by
    rw [Range.contains_iff, Position.le_iff, Position.le_iff]
    exact ⟨.inr ⟨rfl, Nat.zero_le _⟩, .inr ⟨rfl, hcolumn⟩⟩
  rw [environmentAt, declaredEnvironment_of_definition hi rfl hcontains]

theorem Lint.step_eq_stepNamed (hi : i ∈ segment reader d document) (client : Client)
    (session : Environments) (l : Lint) :
    Lint.step client session (segment reader d document) l i =
      Lint.stepNamed client session l i := by
  rw [Lint.step, Lint.stepNamed]
  cases ht : i.task? with
  | none => rfl
  | some found =>
    obtain ⟨r, t⟩ := found
    obtain ⟨⟨p, hp⟩, hr⟩ := Item.parsed_of_task? ht
    obtain ⟨line, -, rfl⟩ := exists_itemAt_of_parsed hi hp
    cases hr
    have henv := environmentAt_definition session hi (Nat.zero_le _)
    simp only [Line.range, Range.onLine, henv]
    rfl

theorem taskDiagnostics_eq (client : Client) (session : Environments) :
    taskDiagnostics (some client) session (segment reader d document) =
      let lint := (segment reader d document).foldl (Lint.stepNamed client session) Lint.empty
      (problemDiagnostics (segment reader d document) ++ lint.found, lint.calls) := by
  have hfold : (segment reader d document).foldl
      (Lint.step client session (segment reader d document)) Lint.empty =
        (segment reader d document).foldl (Lint.stepNamed client session) Lint.empty :=
    List.foldl_ext _ _ _ fun l i hi => Lint.step_eq_stepNamed hi client session l
  simp only [taskDiagnostics, hfold]

end Task

/-- **The environment of a position is the one that its lenses act on.** Above the first line of a
deployment there is one lens, and its environment counts at every position of the deployment. Above
a definition that was read there are the lenses of its dialect; they all name the same environment,
which counts at every position of the definition line, and a task is checked against it. -/
theorem environmentAt_eq_resolve_server (reader : DefinitionReader) (d : Dialect)
    (document : Document) (session : Environments) :
    let items := segment reader d document
    (∀ i ∈ items, ∀ b ∈ i.deployments,
      ∃ lens server, lensesAbove (d.lenses items) b.startLineRange = [lens] ∧
        lens.command = d.deploymentCommand ∧ lens.server? = some server ∧
        ∀ p, b.range.contains p = true → environmentAt items p session = session.resolve server) ∧
    (∀ i ∈ items, i.parsed.isSome = true →
      ∃ n text r server, i.line = some n ∧ document.lineText n = some text ∧
        i.definitionRange = some r ∧
        (lensesAbove (d.lenses items) r).map (fun l => (l.command, l.server?)) =
          d.definitionCommands.map (fun c => (c, some server)) ∧
        (∀ column ≤ text.length,
          environmentAt items ⟨n, column⟩ session = session.resolve server) ∧
        (d = .task → ∃ t, i.task? = some (r, t) ∧ ∀ client l,
          Lint.step client session items l i =
            l.checkIn client (session.resolve server) r t)) ∧
    ∀ client, taskDiagnostics (some client) session items =
      let lint := items.foldl (Lint.stepNamed client session) Lint.empty
      (problemDiagnostics items ++ lint.found, lint.calls) := by
  intro items
  refine ⟨?_, ?_, fun client => taskDiagnostics_eq client session⟩
  · intro i hi b hb
    have hlaid := laid_of_mem_segment hi
    obtain ⟨hcommand, hserver⟩ := deploymentLens_names d i b
    refine ⟨_, _, ?_, hcommand, hserver, ?_⟩
    · have hmem := hlaid.line_of_mem_itemLenses (d := d)
        (List.mem_append_left _ (List.mem_map_of_mem hb))
      rw [range_deploymentLens] at hmem
      rw [lenses_above hi hmem.1 hmem.2]
      exact hlaid.lensesAbove_deployment hb
    · intro p hp
      rw [environmentAt, declaredEnvironment_of_deployment hi hb hp]
  · intro i hi hp
    have hlaid := laid_of_mem_segment hi
    obtain ⟨p, hparsed⟩ := Option.isSome_iff_exists.mp hp
    obtain ⟨l, hl, rfl⟩ := exists_itemAt_of_parsed hi hparsed
    have htext := Document.lineText_of_mem (mem_definitionLines.mp hl).1
    refine ⟨l.number, l.text, l.range,
      (itemAt reader d document.numberedLines l).envName, rfl, htext, rfl, ?_,
      fun column => environmentAt_definition session hi, ?_⟩
    · have hstart := (hlaid.definition l.range rfl).1
      rw [Position.le_iff] at hstart
      rw [lenses_above hi (by omega) (le_refl _), hlaid.lensesAbove_definition rfl]
      exact lensesAtDefinition_names d hp rfl
    · rintro rfl
      obtain ⟨t, ht⟩ := exists_task?_of_parsed hparsed
      refine ⟨t, ht, fun client lint => ?_⟩
      rw [Lint.step_eq_stepNamed hi, Lint.stepNamed, ht]

/-- A task with two deployments. The first names its environment, which ends with it; the second has
none of its own, and the one of the task stands below it. -/
def twoServers : Document where
  uri := "file:///tasks.scdft"
  version := 1
  text := "-- @env a\n-- @prop k=v\n\n-- @prop k=w\n\n-- @env b\nt = x"

/-- The last column of the second deployment, and the last one of the definition line. -/
theorem environmentAt_of_twoServers :
    let items := segment .standard .task twoServers
    let i := items.headD default
    let b := i.deployments.getLastD default
    let server : Environment := ⟨"b", "http://localhost:9393", .empty⟩
    let session : Environments := ⟨[server], none, false⟩
    (i ∈ items ∧ b ∈ i.deployments ∧ b.range.contains ⟨3, 12⟩ = true ∧
      environmentAt items ⟨3, 12⟩ session = .ok server ∧ i.parsed.isSome = true ∧
      i.line = some 6 ∧ environmentAt items ⟨6, 5⟩ session = .ok server) ∧
    (∃ lens name, lensesAbove (Dialect.task.lenses items) b.startLineRange = [lens] ∧
      lens.server? = some name ∧ environmentAt items ⟨3, 12⟩ session = session.resolve name) ∧
    ∃ r name, (lensesAbove (Dialect.task.lenses items) r).map (·.server?) =
        [some name, some name, some name] ∧
      environmentAt items ⟨6, 5⟩ session = session.resolve name := by
  intro items i b server session
  have hmem : i ∈ items ∧ b ∈ i.deployments ∧ i.parsed.isSome = true ∧ i.line = some 6 := by
    decide +kernel
  obtain ⟨hi, hb, hparsed, hline⟩ := hmem
  have hp : b.range.contains ⟨3, 12⟩ = true := by decide +kernel
  obtain ⟨hdeployment, hdefinition, -⟩ :=
    environmentAt_eq_resolve_server .standard .task twoServers session
  refine ⟨⟨hi, hb, hp, by decide +kernel, hparsed, hline, by decide +kernel⟩, ?_, ?_⟩
  · obtain ⟨lens, name, habove, -, hserver, henv⟩ := hdeployment i hi b hb
    exact ⟨lens, name, habove, hserver, henv _ hp⟩
  · obtain ⟨n, text, r, name, hn, htext, -, habove, henv, -⟩ := hdefinition i hi hparsed
    rw [hline] at hn
    cases hn
    have hlast : twoServers.lineText 6 = some "t = x".toList := by decide
    rw [hlast] at htext
    cases htext
    refine ⟨r, name, ?_, henv 5 (by decide)⟩
    have hnames := congrArg (List.map Prod.snd) habove
    rw [List.map_map] at hnames
    exact hnames

end Flowline
