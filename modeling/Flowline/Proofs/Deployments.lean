import Flowline.Proofs.ScanState
import Mathlib.Data.List.Forall2

/-!
# Deployments are runs of lines

The lines above a definition, back to the definition before it, are cut into runs by the separating
lines. The deployments of an item are the runs with a setting or an argument, in their order:
nothing is lost on the way, and nothing ends up in another run.

* `sublist_of_mem_splitOnP`, `pairwise_splitOnP`, `flatMap_tagged_splitOnP`: cutting a list;
* `Deployment.IsOf`: what a deployment says of its run;
* `deployments_of_runs`: the deployments of an item are its runs with settings.
-/

namespace Flowline

/-! ## Cutting a list -/

section Cut

variable {α : Type*} {p : α → Bool}

theorem sublist_of_mem_splitOnP {xs piece : List α} (h : piece ∈ xs.splitOnP p) :
    piece.Sublist xs := by
  induction xs generalizing piece with
  | nil =>
    rw [List.splitOnP_nil, List.mem_singleton] at h
    rw [h]
  | cons x xs ih =>
    rw [List.splitOnP_cons_eq_if_modifyHead] at h
    split at h
    · rcases List.mem_cons.mp h with rfl | h
      · exact List.nil_sublist _
      · exact (ih h).cons x
    · obtain ⟨first, rest, hcut⟩ := List.exists_cons_of_ne_nil (List.splitOnP_ne_nil p xs)
      rw [hcut, List.modifyHead_cons] at h
      rcases List.mem_cons.mp h with rfl | h
      · exact (ih (hcut ▸ List.mem_cons_self)).cons_cons x
      · exact (ih (hcut ▸ List.mem_cons_of_mem _ h)).cons x

/-- The pieces of an ordered list are ordered. -/
theorem pairwise_splitOnP {r : α → α → Prop} {xs : List α} (h : xs.Pairwise r) :
    (xs.splitOnP p).Pairwise (fun a b => ∀ x ∈ a, ∀ y ∈ b, r x y) := by
  induction xs with
  | nil => exact List.pairwise_singleton _ _
  | cons y ys ih =>
    obtain ⟨hhead, htail⟩ := List.pairwise_cons.mp h
    rw [List.splitOnP_cons_eq_if_modifyHead]
    split
    · refine List.pairwise_cons.mpr ⟨?_, ih htail⟩
      intro piece _ x hx
      cases hx
    · obtain ⟨first, rest, hcut⟩ := List.exists_cons_of_ne_nil (List.splitOnP_ne_nil p ys)
      have hrest := ih htail
      rw [hcut, List.pairwise_cons] at hrest
      rw [hcut, List.modifyHead_cons]
      refine List.pairwise_cons.mpr ⟨?_, hrest.2⟩
      intro piece hp x hx z hz
      rcases List.mem_cons.mp hx with rfl | hx
      · exact hhead z ((sublist_of_mem_splitOnP (hcut ▸ List.mem_cons_of_mem _ hp)).subset hz)
      · exact hrest.1 piece hp x hx z hz

end Cut

/-- Cutting at the separating lines keeps all metadata. -/
theorem flatMap_tagged_splitOnP (d : Dialect) (tag : Tag) (ls : List Line) :
    (ls.splitOnP (·.isBlank d)).flatMap (tagged d tag) = tagged d tag ls := by
  induction ls with
  | nil => rfl
  | cons l ls ih =>
    rw [List.splitOnP_cons_eq_if_modifyHead]
    split
    · next hb =>
      have ht : l.hasTag d tag = false := by
        simp [Line.hasTag, Line.isBlank_iff.mp hb]
      rw [List.flatMap_cons, ih]
      simp [tagged, ht]
    · obtain ⟨first, rest, hcut⟩ :=
        List.exists_cons_of_ne_nil (List.splitOnP_ne_nil (·.isBlank d) ls)
      rw [hcut, List.modifyHead_cons, List.flatMap_cons]
      rw [hcut, List.flatMap_cons] at ih
      cases ht : l.hasTag d tag with
      | true =>
        have hcons : ∀ ms,
            tagged d tag (l :: ms) = l.metadata tag :: tagged d tag ms := fun ms => by
          simp [tagged, ht]
        rw [hcons, hcons, List.cons_append, ih]
      | false =>
        have hcons : ∀ ms, tagged d tag (l :: ms) = tagged d tag ms := fun ms => by
          simp [tagged, ht]
        rw [hcons, hcons, ih]

/-! ## Deployments -/

/-- A deployment holds the settings and the arguments of a run, and reaches from its first to its
last metadata line. -/
structure Deployment.IsOf (d : Dialect) (run : List Line) (b : Deployment) : Prop where
  properties : b.properties = tagged d .prop run
  arguments : b.arguments = tagged d .arg run
  first : ∃ first, firstMetadata d run = some first ∧ b.startLineRange = first.range ∧
    b.range.start = first.range.start
  last : ∃ last, lastMetadata d run = some last ∧ b.range.stop = last.range.stop

theorem deploymentOf_of_isSetting {d : Dialect} (env : Option Metadata) {run : List Line}
    (h : hasSetting d run = true) :
    ∃ b, deploymentOf d env run = some b ∧ b.IsOf d run ∧ b.env = env := by
  obtain ⟨first, last, hfirst, hlast⟩ := exists_metadata_of_isSetting h
  refine ⟨_, by rw [deploymentOf, hfirst, hlast]; exact if_pos h, ?_, rfl⟩
  exact ⟨rfl, rfl, ⟨first, hfirst, rfl, rfl⟩, ⟨last, hlast, rfl⟩⟩

theorem deploymentOf_of_not_isSetting {d : Dialect} (env : Option Metadata) {run : List Line}
    (h : hasSetting d run = false) : deploymentOf d env run = none := by
  simp only [deploymentOf, h]
  split <;> rfl

/-- A deployment comes from a run with a setting or an argument. -/
theorem isOf_of_deploymentOf {d : Dialect} {env : Option Metadata} {run : List Line}
    {b : Deployment} (h : deploymentOf d env run = some b) :
    hasSetting d run = true ∧ b.IsOf d run ∧ b.env = env := by
  cases hs : hasSetting d run with
  | false =>
    rw [deploymentOf_of_not_isSetting env hs] at h
    cases h
  | true =>
    obtain ⟨b', hb', hof⟩ := deploymentOf_of_isSetting env hs
    rw [hb'] at h
    cases h
    exact ⟨rfl, hof⟩

theorem deploymentsOf_cons (d : Dialect) (lines run : List Line) (runs : List (List Line)) :
    deploymentsOf d lines (run :: runs) =
      (deploymentOf d (envAt d lines (runStop run)) run).toList ++ deploymentsOf d lines runs := by
  rw [deploymentsOf, List.filterMap_cons]
  cases deploymentOf d (envAt d lines (runStop run)) run <;> rfl

theorem forall₂_deploymentsOf (d : Dialect) (lines : List Line) (runs : List (List Line)) :
    List.Forall₂ (Deployment.IsOf d) (runs.filter (hasSetting d)) (deploymentsOf d lines runs) := by
  induction runs with
  | nil => exact .nil
  | cons run runs ih =>
    rw [deploymentsOf_cons]
    cases hs : hasSetting d run with
    | false =>
      rw [List.filter_cons_of_neg (by simpa using hs), deploymentOf_of_not_isSetting _ hs]
      exact ih
    | true =>
      obtain ⟨b, hb, hof, -⟩ := deploymentOf_of_isSetting (envAt d lines (runStop run)) hs
      rw [List.filter_cons_of_pos hs, hb]
      exact .cons hof ih

theorem tagged_of_not_hasSetting {d : Dialect} {run : List Line} (h : hasSetting d run = false) :
    tagged d .prop run = [] ∧ tagged d .arg run = [] := by
  have hempty := isEmpty_tagged_eq d run
  rw [h] at hempty
  simpa using hempty

theorem flatMap_deploymentsOf (d : Dialect) (lines : List Line) (runs : List (List Line)) :
    (deploymentsOf d lines runs).flatMap (·.properties) = runs.flatMap (tagged d .prop) ∧
      (deploymentsOf d lines runs).flatMap (·.arguments) = runs.flatMap (tagged d .arg) := by
  induction runs with
  | nil => exact ⟨rfl, rfl⟩
  | cons run runs ih =>
    rw [deploymentsOf_cons, List.flatMap_append, List.flatMap_append, List.flatMap_cons,
      List.flatMap_cons, ih.1, ih.2]
    cases hs : hasSetting d run with
    | false =>
      obtain ⟨hprop, harg⟩ := tagged_of_not_hasSetting hs
      rw [deploymentOf_of_not_isSetting _ hs, hprop, harg]
      exact ⟨rfl, rfl⟩
    | true =>
      obtain ⟨b, hb, hof, -⟩ := deploymentOf_of_isSetting (envAt d lines (runStop run)) hs
      rw [hb, ← hof.properties, ← hof.arguments]
      simp

/-! ## The deployments of an item -/

theorem firstMetadata_le {d : Dialect} {run : List Line} {first l : Line}
    (hsorted : run.Pairwise (fun a b => a.number < b.number))
    (hfirst : firstMetadata d run = some first) (hl : l ∈ run) (hm : l.isMetadata d = true) :
    first.number ≤ l.number := by
  rw [firstMetadata, ← List.head?_filter] at hfirst
  exact number_le_of_head? (hsorted.filter _) hfirst (List.mem_filter.mpr ⟨hl, hm⟩)

theorem firstMetadata_le_lastMetadata {d : Dialect} {run : List Line} {first last : Line}
    (hsorted : run.Pairwise (fun a b => a.number < b.number))
    (hfirst : firstMetadata d run = some first) (hlast : lastMetadata d run = some last) :
    first.number ≤ last.number := by
  obtain ⟨hmem, hm⟩ := List.mem_filter.mp (List.mem_of_getLast? hlast)
  exact firstMetadata_le hsorted hfirst hmem hm

theorem pairwise_sinceDefinition {d : Dialect} {lines : List Line} (hnum : IsNumbered lines)
    (n : Nat) : (sinceDefinition d lines n).Pairwise (fun a b => a.number < b.number) :=
  (hnum.pairwise.take).sublist (List.rtakeWhile_suffix _ _).sublist

/-- The deployments of increasing runs increase. -/
theorem pairwise_deploymentsOf {d : Dialect} (lines : List Line) {runs : List (List Line)}
    (h : runs.Pairwise (fun a b => ∀ x ∈ a, ∀ y ∈ b, x.number < y.number)) :
    (deploymentsOf d lines runs).Pairwise (fun a b => a.range.stop.line < b.range.start.line) := by
  refine List.Pairwise.filterMap _ ?_ h
  intro run run' hlt b hb b' hb'
  obtain ⟨-, hof, -⟩ := isOf_of_deploymentOf hb
  obtain ⟨-, hof', -⟩ := isOf_of_deploymentOf hb'
  obtain ⟨last, hlast, hstop⟩ := hof.last
  obtain ⟨first, hfirst, -, hstart⟩ := hof'.first
  have hmem : last ∈ run := List.mem_of_mem_filter (List.mem_of_getLast? hlast)
  rw [hstop, hstart]
  exact hlt last hmem first (List.mem_of_find?_eq_some hfirst)

/-- **The deployments of an item.** Cut the lines between the definition line before an item's one
and that line into runs, at the separating lines. The deployments of the item are the runs with a
setting or an argument, in order, each with the settings and the arguments of its run; together they
hold all of them. No deployment is empty, and their ranges increase. -/
theorem deployments_of_runs (reader : DefinitionReader) (d : Dialect)
    (document : Document) {i : Item} {n : Nat} (hi : i ∈ segment reader d document)
    (hn : i.line = some n) :
    let above := sinceDefinition d document.numberedLines n
    List.Forall₂ (Deployment.IsOf d)
        ((above.splitOnP (·.isBlank d)).filter (hasSetting d)) i.deployments ∧
      i.deployments.flatMap (·.properties) = tagged d .prop above ∧
      i.deployments.flatMap (·.arguments) = tagged d .arg above ∧
      (∀ b ∈ i.deployments, b.properties ≠ [] ∨ b.arguments ≠ []) ∧
      (∀ b ∈ i.deployments, b.range.start ≤ b.range.stop) ∧
      i.deployments.Pairwise (fun a b => a.range.stop.line < b.range.start.line) := by
  intro above
  have hnum := isNumbered_numberedLines document
  obtain ⟨l, -, rfl, rfl⟩ := exists_itemAt hi hn
  have hsorted := pairwise_sinceDefinition (d := d) hnum l.number
  obtain ⟨hprops, hargs⟩ := flatMap_deploymentsOf d document.numberedLines
    (runsBefore d document.numberedLines l.number)
  have hmem : ∀ b ∈ (itemAt reader d document.numberedLines l).deployments,
      ∃ run, run.Sublist above ∧ hasSetting d run = true ∧ b.IsOf d run := by
    intro b hb
    obtain ⟨run, hrun, hb⟩ := List.mem_filterMap.mp hb
    obtain ⟨hs, hof, -⟩ := isOf_of_deploymentOf hb
    exact ⟨run, sublist_of_mem_splitOnP hrun, hs, hof⟩
  refine ⟨forall₂_deploymentsOf _ _ _, ?_, ?_, ?_, ?_, ?_⟩
  · exact hprops.trans (flatMap_tagged_splitOnP d .prop above)
  · exact hargs.trans (flatMap_tagged_splitOnP d .arg above)
  · intro b hb
    obtain ⟨run, -, hs, hof⟩ := hmem b hb
    have hfull := isEmpty_tagged_eq d run
    rw [hs, ← hof.properties, ← hof.arguments] at hfull
    by_contra hnone
    rw [not_or, not_not, not_not] at hnone
    simp [hnone.1, hnone.2] at hfull
  · intro b hb
    obtain ⟨run, hsub, -, hof⟩ := hmem b hb
    obtain ⟨first, hfirst, -, hstart⟩ := hof.first
    obtain ⟨last, hlast, hstop⟩ := hof.last
    have hle := firstMetadata_le_lastMetadata (hsorted.sublist hsub) hfirst hlast
    rw [hstart, hstop, Position.le_iff]
    simp only [Line.range, Range.onLine]
    omega
  · exact pairwise_deploymentsOf _ (pairwise_splitOnP hsorted)

/-- A task below two runs of metadata lines. -/
def twoRuns : Document where
  uri := "file:///tasks.scdft"
  version := 1
  text := "-- @env e\n-- @prop a=b\n\n-- @prop c=d\n-- note\n-- @arg x\nt"

/-- A comment does not end the second run, and the first one keeps its setting to itself. -/
theorem deployments_of_twoRuns :
    let i := (segment .standard .task twoRuns).headD default
    (i ∈ segment .standard .task twoRuns ∧ i.line = some 6 ∧
      i.deployments.map (·.properties.length) = [1, 1]) ∧
    i.deployments.flatMap (·.properties) =
      tagged .task .prop (sinceDefinition .task twoRuns.numberedLines 6) := by
  have h : (segment .standard .task twoRuns).headD default ∈ segment .standard .task twoRuns ∧
      ((segment .standard .task twoRuns).headD default).line = some 6 := by decide
  exact ⟨⟨h.1, h.2, by decide⟩, (deployments_of_runs .standard .task twoRuns h.1 h.2).2.1⟩

end Flowline
