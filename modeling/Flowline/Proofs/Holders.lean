import Flowline.Proofs.Deployments
import Flowline.Proofs.Tiling

/-!
# Which environment, name and description count

An environment, a name or a description counts from its line on, until the next reset: a definition
line, or a separating line that ends a run with a setting or an argument. A deployment takes the
environment that counts where its run ends, an item all three as they count at its definition line;
what still counts at the end of the document makes the dangling item.

* `closingLine`: the line that ends the run of a deployment;
* `eq_sinceSeparator_of_mem_endedRuns`: a run is what stands before its closing line;
* `holders_since_reset`: environments, names and descriptions of all items and deployments.
-/

namespace Flowline

section Runs

variable {d : Dialect} {lines : List Line} {n : Nat} {l : Line}

theorem not_separates_of_mem_sinceSeparator (hnum : IsNumbered lines) (hn : n ≤ lines.length)
    (hl : l ∈ sinceSeparator d lines n) {m : Nat} {x : Line} (hlm : l.number ≤ m) (hmn : m < n)
    (hx : lines[m]? = some x) : x.separates d = false := by
  induction n with
  | zero => cases hl
  | succ n ih =>
    have h : lines[n]? = some lines[n] := List.getElem?_eq_getElem (by omega)
    rw [sinceSeparator_succ h] at hl
    split at hl
    · cases hl
    · next hsep =>
      by_cases hm : m = n
      · subst hm
        rw [h] at hx
        cases hx
        simpa using hsep
      · rcases List.mem_append.mp hl with hl | hl
        · exact ih (by omega) hl (by omega)
        · -- the new line itself has no line between it and the end
          rw [List.mem_singleton.mp hl, hnum n _ h] at hlm
          omega

theorem number_lt_of_mem_sinceSeparator (hnum : IsNumbered lines)
    (hl : l ∈ sinceSeparator d lines n) :
    l.number < n :=
  (hnum.mem_take.mp ((List.rtakeWhile_suffix _ _).subset hl)).2

/-- A run that has ended is what stands right before a separating line. -/
theorem eq_sinceSeparator_of_mem_endedRuns (hnum : IsNumbered lines) (hn : n ≤ lines.length)
    {run : List Line} (hrun : run ∈ endedRuns d lines n) (hne : run ≠ []) :
    run = sinceSeparator d lines (runStop run) ∧
      ∃ c, lines[runStop run]? = some c ∧ c.isBlank d = true := by
  induction n with
  | zero => cases hrun
  | succ n ih =>
    have h : lines[n]? = some lines[n] := List.getElem?_eq_getElem (by omega)
    rw [endedRuns_succ h] at hrun
    split at hrun
    · cases hrun
    · split at hrun
      · next hb =>
        rw [runsBefore_eq] at hrun
        rcases List.mem_append.mp hrun with hrun | hrun
        · exact ih (by omega) hrun
        · -- the run that line `n` ends
          obtain rfl := List.mem_singleton.mp hrun
          rw [runStop_sinceSeparator hnum (by omega) hne]
          exact ⟨rfl, _, h, hb⟩
      · exact ih (by omega) hrun

/-- The runs before line `n` end at a separating line, or at line `n`. -/
theorem eq_sinceSeparator_of_mem_runsBefore (hnum : IsNumbered lines) (hn : n ≤ lines.length)
    {run : List Line} (hrun : run ∈ runsBefore d lines n) (hne : run ≠ []) :
    run = sinceSeparator d lines (runStop run) ∧
      (runStop run = n ∨ ∃ c, lines[runStop run]? = some c ∧ c.isBlank d = true) := by
  rw [runsBefore_eq] at hrun
  rcases List.mem_append.mp hrun with hrun | hrun
  · obtain ⟨heq, hblank⟩ := eq_sinceSeparator_of_mem_endedRuns hnum hn hrun hne
    exact ⟨heq, .inr hblank⟩
  · obtain rfl := List.mem_singleton.mp hrun
    rw [runStop_sinceSeparator hnum hn hne]
    exact ⟨rfl, .inl rfl⟩

end Runs

/-! ## The closing line of a deployment -/

/-- The line that ends the run of a deployment: the first separating or definition line below it. -/
def closingLine (d : Dialect) (lines : List Line) (b : Deployment) : Option Line :=
  (lines.drop (b.range.stop.line + 1)).find? (·.separates d)

theorem find?_drop {α : Type*} {p : α → Bool} {xs : List α} {k s : Nat} {c : α} (hks : k ≤ s)
    (hc : xs[s]? = some c) (hpc : p c = true)
    (hbefore : ∀ m x, k ≤ m → m < s → xs[m]? = some x → p x = false) :
    (xs.drop k).find? p = some c := by
  obtain ⟨hs, rfl⟩ := List.getElem?_eq_some_iff.mp hc
  refine List.find?_eq_some_iff_getElem.mpr ⟨hpc, s - k, by simp; omega, ?_, ?_⟩
  · simp only [List.getElem_drop]
    congr 1
    omega
  · intro j hj
    rw [List.getElem_drop,
      hbefore (k + j) _ (by omega) (by omega) (List.getElem?_eq_getElem (by omega))]
    rfl

/-- The run of a deployment ends at its closing line, and that is where its environment is taken. -/
theorem exists_closingLine {d : Dialect} {lines : List Line} (hnum : IsNumbered lines) {l : Line}
    (hl : l ∈ definitionLines d lines) {b : Deployment}
    (hb : b ∈ deploymentsOf d lines (runsBefore d lines l.number)) :
    ∃ c, closingLine d lines b = some c ∧ (c = l ∨ c.isBlank d = true) ∧
      b.env = envAt d lines c.number := by
  obtain ⟨run, hrun, hb⟩ := List.mem_filterMap.mp hb
  obtain ⟨-, hof, henv⟩ := isOf_of_deploymentOf hb
  obtain ⟨last, hlast, hstop⟩ := hof.last
  have hmem : last ∈ run := List.mem_of_mem_filter (List.mem_of_getLast? hlast)
  obtain ⟨hline, hdef⟩ := mem_definitionLines.mp hl
  have hget := hnum.getElem? hline
  have hlen := (List.getElem?_eq_some_iff.mp hget).1
  obtain ⟨heq, hend⟩ :=
    eq_sinceSeparator_of_mem_runsBefore hnum (le_of_lt hlen) hrun (List.ne_nil_of_mem hmem)
  -- the line right after the run, which ends it
  obtain ⟨c, hc, hkind⟩ : ∃ c, lines[runStop run]? = some c ∧ (c = l ∨ c.isBlank d = true) := by
    rcases hend with hend | ⟨c, hc, hblank⟩
    · exact ⟨l, by rw [hend, hget], .inl rfl⟩
    · exact ⟨c, hc, .inr hblank⟩
  refine ⟨c, ?_, hkind, by rw [henv, hnum _ c hc]⟩
  have hlt := (List.getElem?_eq_some_iff.mp hc).1
  rw [heq] at hmem
  have hbelow := number_lt_of_mem_sinceSeparator hnum hmem
  rw [closingLine, hstop]
  refine find?_drop hbelow hc ?_ ?_
  · rcases hkind with rfl | hblank
    · rw [Line.separates, hdef, Bool.true_or]
    · rw [Line.separates, hblank, Bool.or_true]
  · intro m x hm hms hx
    exact not_separates_of_mem_sinceSeparator hnum (le_of_lt hlt) hmem (Nat.le_of_succ_le hm) hms hx

theorem Line.isBlank_of_isDefinition {d : Dialect} {l : Line} (h : l.isDefinition d = true) :
    l.isBlank d = false := by
  simp [Line.isBlank, Line.isDefinition_iff.mp h]

/-! ## Items -/

section Items

variable {reader : DefinitionReader} {d : Dialect} {document : Document}

/-- Definition lines make no dangling item. -/
theorem danglingItem?_of_mem {i : Item} (hi : i ∈ segment reader d document)
    (hbody : i.body = .dangling) :
    danglingItem? d document.numberedLines document.stop = some i := by
  rcases mem_segment.mp hi with ⟨l, -, rfl⟩ | hd
  · exact absurd hbody (Body.ofLine_ne_dangling _ _ _ _ _)
  · exact hd

theorem exists_dangling_iff :
    (∃ i ∈ segment reader d document, i.body = .dangling) ↔
      ∃ l ∈ sinceReset d document.numberedLines document.numberedLines.length,
        l.isHolder d = true := by
  rw [← List.any_eq_true]
  constructor
  · rintro ⟨i, hi, hbody⟩
    have hsome := danglingItem?_of_mem hi hbody
    rw [danglingItem?] at hsome
    exact (Option.ite_none_right_eq_some.mp hsome).1
  · intro hany
    obtain ⟨i, hi⟩ : ∃ i, danglingItem? d document.numberedLines document.stop = some i :=
      ⟨_, if_pos hany⟩
    exact ⟨i, mem_segment.mpr (.inr hi), (danglingItem?_holds hi).1⟩

end Items

/-- **Which environment, name and description count.** An item has the last environment, name and
description since the last reset before its definition line. A deployment that a separating line
closes has the last environment since the last reset before that line, and one that the definition
line closes has the environment of its item. There is a dangling item just if an environment, a name
or a description follows the last reset of the document; it has the last of each and no deployment,
and starts at the first metadata line after that reset. -/
theorem holders_since_reset (reader : DefinitionReader) (d : Dialect) (document : Document) :
    let lines := document.numberedLines
    let items := segment reader d document
    let rest := sinceReset d lines lines.length
    (∀ i ∈ items, ∀ n, i.line = some n →
      i.env = lastTagged d .env (sinceReset d lines n) ∧
      i.name = lastTagged d .name (sinceReset d lines n) ∧
      i.desc = lastTagged d .desc (sinceReset d lines n) ∧
      ∀ b ∈ i.deployments, ∃ c, closingLine d lines b = some c ∧
        (c.isBlank d = true → b.env = lastTagged d .env (sinceReset d lines c.number)) ∧
        (c.isDefinition d = true → c.number = n ∧ b.env = i.env)) ∧
    ((∃ i ∈ items, i.body = .dangling) ↔ ∃ l ∈ rest, l.isHolder d = true) ∧
    ∀ i ∈ items, i.body = .dangling →
      i.env = lastTagged d .env rest ∧ i.name = lastTagged d .name rest ∧
      i.desc = lastTagged d .desc rest ∧ i.deployments = [] ∧
      ∃ first, firstMetadata d rest = some first ∧ i.range.start = first.range.start := by
  intro lines items rest
  have hnum : IsNumbered lines := isNumbered_numberedLines document
  refine ⟨?_, exists_dangling_iff, ?_⟩
  · intro i hi n hn
    obtain ⟨l, hl, rfl, rfl⟩ := exists_itemAt hi hn
    refine ⟨rfl, rfl, rfl, fun b hb => ?_⟩
    obtain ⟨c, hclosing, hkind, henv⟩ := exists_closingLine hnum hl hb
    refine ⟨c, hclosing, fun _ => henv, fun hdef => ?_⟩
    rcases hkind with rfl | hblank
    · exact ⟨rfl, henv⟩
    · rw [Line.isBlank_of_isDefinition hdef] at hblank
      cases hblank
  · intro i hi hbody
    have hsome := danglingItem?_of_mem hi hbody
    obtain ⟨-, -, hdeployments, henv, hname, hdesc⟩ := danglingItem?_holds hsome
    obtain ⟨first, hfirst, hrange⟩ := danglingItem?_start hsome
    exact ⟨henv, hname, hdesc, hdeployments, first, hfirst, by rw [hrange]⟩

end Flowline
