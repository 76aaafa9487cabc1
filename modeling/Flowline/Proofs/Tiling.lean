import Flowline.Proofs.ScanState

/-!
# Items tile the document

The items of a document follow each other from its first line on. Each definition line ends one
item, which starts on the line after the definition line before it; what is left after the last
definition line is at most one more item.

* `lt_itemStart`, `itemStart_le_of_mem_sinceReset`: where items start;
* `segment_tiles`: how the items of a document lie in it, whatever reads the definitions.
-/

namespace Flowline

theorem eq_take_append_cons_drop {α : Type*} {xs : List α} {k : Nat} {x : α} (h : xs[k]? = some x) :
    xs = xs.take k ++ x :: xs.drop (k + 1) := by
  obtain ⟨hlt, hget⟩ := List.getElem?_eq_some_iff.mp h
  conv_lhs => rw [← List.take_append_drop k xs, List.drop_eq_getElem_cons hlt, hget]

section Starts

variable {d : Dialect} {lines : List Line} {n : Nat} {l : Line}

theorem mem_definitionLines : l ∈ definitionLines d lines ↔ l ∈ lines ∧ l.isDefinition d = true :=
  List.mem_filter

theorem pairwise_definitionLines (hnum : IsNumbered lines) :
    (definitionLines d lines).Pairwise (fun a b => a.number < b.number) :=
  hnum.pairwise.filter _

/-- The definition lines before the `k`-th one are the first `k`. -/
theorem definitionLines_take (hnum : IsNumbered lines) {k : Nat}
    (h : (definitionLines d lines)[k]? = some l) :
    definitionLines d (lines.take l.number) = (definitionLines d lines).take k := by
  have hl := mem_definitionLines.mp (List.mem_of_getElem? h)
  have hcut : definitionLines d lines =
      definitionLines d (lines.take l.number) ++
        l :: definitionLines d (lines.drop (l.number + 1)) := by
    conv_lhs => rw [eq_take_append_cons_drop (hnum.getElem? hl.1)]
    simp only [definitionLines, List.filter_append, List.filter_cons, hl.2, if_true]
  have hsplit := eq_take_append_cons_drop h
  have hnodup : (definitionLines d lines).Nodup :=
    (pairwise_definitionLines hnum).imp fun hlt heq => by rw [heq] at hlt; omega
  rw [hcut, List.nodup_append] at hnodup
  have hbefore : l ∉ definitionLines d (lines.take l.number) := fun hmem =>
    hnodup.2.2 l hmem l List.mem_cons_self rfl
  have hafter : l ∉ definitionLines d (lines.drop (l.number + 1)) :=
    (List.nodup_cons.mp hnodup.2.1).1
  exact ((List.append_cons_inj_of_notMem hbefore hafter).mp (hcut.symm.trans hsplit)).1

/-- An item starts after every definition line before it. -/
theorem lt_itemStart (hnum : IsNumbered lines) (hl : l ∈ definitionLines d lines)
    (hn : l.number < n) : l.number < itemStart d lines n := by
  have hmem : l ∈ definitionLines d (lines.take n) := by
    obtain ⟨hline, hdef⟩ := mem_definitionLines.mp hl
    exact mem_definitionLines.mpr ⟨hnum.mem_take.mpr ⟨hline, hn⟩, hdef⟩
  have hsorted : (definitionLines d (lines.take n)).Pairwise (fun a b => a.number < b.number) :=
    (hnum.pairwise.take).filter _
  rw [itemStart]
  cases hlast : (definitionLines d (lines.take n)).getLast? with
  | none =>
    rw [List.getLast?_eq_none_iff.mp hlast] at hmem
    cases hmem
  | some last =>
    have := number_le_of_getLast? hsorted hlast hmem
    simp only [Option.map_some, Option.getD_some]
    omega

theorem itemStart_le (hnum : IsNumbered lines) : itemStart d lines n ≤ n := by
  rw [itemStart]
  cases h : (definitionLines d (lines.take n)).getLast? with
  | none => simp
  | some last =>
    have hlast := mem_definitionLines.mp (List.mem_of_getLast? h)
    have := (hnum.mem_take.mp hlast.1).2
    simp only [Option.map_some, Option.getD_some]
    omega

/-- What has not been given up before line `n` stands after the last definition line. -/
theorem itemStart_le_of_mem_sinceReset (hnum : IsNumbered lines) (hn : n ≤ lines.length)
    (hl : l ∈ sinceReset d lines n) : itemStart d lines n ≤ l.number ∧ l.number < n := by
  induction n with
  | zero => cases hl
  | succ n ih =>
    have h : lines[n]? = some lines[n] := List.getElem?_eq_getElem (by omega)
    have hnl := hnum n _ h
    rw [sinceReset_succ h hnl] at hl
    rw [itemStart_succ h]
    split at hl
    · cases hl
    · next hr =>
      have hd : lines[n].isDefinition d = false := by
        cases hd : lines[n].isDefinition d with
        | false => rfl
        | true => exact absurd (by rw [isReset_eq h, hd]; rfl) hr
      rw [hd, if_neg (by simp)]
      rcases List.mem_append.mp hl with hl | hl
      · have := ih (by omega) hl
        omega
      · have := itemStart_le (d := d) (n := n) hnum
        rw [List.mem_singleton.mp hl, hnl]
        omega

end Starts

/-! ## The end of a document -/

theorem lineStop_le_stop {document : Document} {l : Line} (hl : l ∈ document.numberedLines) :
    l.range.stop ≤ document.stop := by
  have htext := document.lineText_of_mem hl
  rw [Document.lineText] at htext
  obtain ⟨hlt, -⟩ := List.getElem?_eq_some_iff.mp htext
  have hlast : document.lines[document.lines.length - 1]? =
      some document.lines[document.lines.length - 1] := List.getElem?_eq_getElem (by omega)
  rw [Document.stop, Document.lineRange, Document.lineText, Document.lineCount, hlast,
    Position.le_iff]
  simp only [Option.map_some, Range.onLine, Line.range]
  by_cases hend : l.number = document.lines.length - 1
  · rw [hend, hlast] at htext
    rw [Option.some.inj htext]
    omega
  · omega

theorem le_stop_of_mem {document : Document} {l : Line} (hl : l ∈ document.numberedLines) :
    l.range.start ≤ document.stop := by
  have hstop := lineStop_le_stop hl
  rw [Position.le_iff] at hstop ⊢
  simp only [Line.range, Range.onLine] at hstop ⊢
  omega

/-! ## The dangling item -/

theorem danglingItem?_after {d : Dialect} {lines : List Line} (hnum : IsNumbered lines)
    {stop : Position} {i : Item} (h : danglingItem? d lines stop = some i) :
    (∀ l ∈ definitionLines d lines, l.number < i.range.start.line) ∧
      ∃ l ∈ lines, i.range.start = l.range.start := by
  obtain ⟨first, hfirst, hrange⟩ := danglingItem?_start h
  have hmem := List.mem_of_find?_eq_some hfirst
  have hstart := itemStart_le_of_mem_sinceReset hnum (le_refl _) hmem
  refine ⟨fun l hl => ?_, first, mem_of_mem_sinceReset hmem, by rw [hrange]⟩
  have hlen := (List.getElem?_eq_some_iff.mp (hnum.getElem? (mem_definitionLines.mp hl).1)).1
  have := lt_itemStart hnum hl hlen
  rw [hrange]
  exact Nat.lt_of_lt_of_le this hstart.1

/-! ## Tiling -/

/-- An item but for what was read from its definition line. -/
def Item.withoutBody (i : Item) : Item :=
  { i with body := .dangling }

theorem Body.ofLine_ne_dangling (reader : DefinitionReader) (d : Dialect) (line : Nat)
    (text : List Char) (name : Option Metadata) :
    Body.ofLine reader d line text name ≠ .dangling := by
  have hnamed : ∀ name nameRange start,
      Body.ofNamedTask reader line text name nameRange start ≠ .dangling := by
    intro name nameRange start
    unfold Body.ofNamedTask
    split <;> simp [Body.ofError]
  cases d with
  | stream =>
    unfold Body.ofLine Body.ofStreamLine
    dsimp only
    split <;> simp [Body.ofError]
  | task =>
    unfold Body.ofLine Body.ofTaskLine
    dsimp only
    split
    · exact hnamed _ _ _
    · split
      · exact hnamed _ _ _
      · simp

/-- The item of a definition line starts right after the definition line before it. -/
theorem itemStart_of_getElem? {d : Dialect} {lines : List Line} (hnum : IsNumbered lines) {k : Nat}
    {l : Line} (h : (definitionLines d lines)[k]? = some l) :
    (k = 0 → itemStart d lines l.number = 0) ∧
      ∀ j before, k = j + 1 → (definitionLines d lines)[j]? = some before →
        itemStart d lines l.number = before.number + 1 := by
  rw [itemStart, definitionLines_take hnum h]
  constructor
  · rintro rfl
    rfl
  · rintro j before rfl hbefore
    rw [List.take_add_one, hbefore, Option.toList_some, List.getLast?_concat]
    rfl

theorem itemAt_start_le {reader : DefinitionReader} {d : Dialect} {lines : List Line}
    (hnum : IsNumbered lines) (l : Line) :
    (itemAt reader d lines l).range.start ≤ (itemAt reader d lines l).range.stop := by
  have := itemStart_le (d := d) (n := l.number) hnum
  simp only [itemAt, Line.range, Range.onLine, Position.le_iff]
  omega

theorem pairwise_itemAt (reader : DefinitionReader) {d : Dialect} {lines : List Line}
    (hnum : IsNumbered lines) :
    ((definitionLines d lines).map (itemAt reader d lines)).Pairwise
      (fun a b => a.range.stop.line < b.range.start.line) := by
  rw [List.pairwise_map]
  refine (pairwise_definitionLines hnum).imp_of_mem ?_
  intro a b ha hb hab
  exact lt_itemStart hnum ha hab

section Items

variable (reader : DefinitionReader) {d : Dialect} {document : Document}

/-- The item of the `k`-th definition line is the `k`-th one. -/
theorem segment_getElem? {k : Nat} {l : Line}
    (h : (definitionLines d document.numberedLines)[k]? = some l) :
    (segment reader d document)[k]? = some (itemAt reader d document.numberedLines l) := by
  have hlt := (List.getElem?_eq_some_iff.mp h).1
  rw [segment_eq, List.getElem?_append_left (by simpa using hlt), List.getElem?_map, h]
  rfl

/-- What comes after the items of the definition lines is the dangling item alone. -/
theorem danglingItem?_of_getElem? {k : Nat} {i : Item}
    (h : (segment reader d document)[k]? = some i)
    (hk : (definitionLines d document.numberedLines).length ≤ k) :
    danglingItem? d document.numberedLines document.stop = some i ∧
      k = (definitionLines d document.numberedLines).length ∧
      (segment reader d document).length = k + 1 := by
  rw [segment_eq] at h ⊢
  rw [List.getElem?_append_right (by simpa using hk)] at h
  cases hd : danglingItem? d document.numberedLines document.stop with
  | none => simp [hd] at h
  | some last =>
    rw [hd, Option.toList_some, List.getElem?_singleton] at h
    obtain ⟨hzero, hlast⟩ := Option.ite_none_right_eq_some.mp h
    have hend : k = (definitionLines d document.numberedLines).length := by
      rw [List.length_map] at hzero
      omega
    refine ⟨hlast, hend, ?_⟩
    rw [hend, List.length_append, List.length_map]
    rfl

theorem start_le_stop_of_mem_segment {i : Item} (hi : i ∈ segment reader d document) :
    i.range.start ≤ i.range.stop := by
  have hnum := isNumbered_numberedLines document
  rcases mem_segment.mp hi with ⟨l, -, rfl⟩ | hd
  · exact itemAt_start_le hnum l
  · obtain ⟨first, -, hrange⟩ := danglingItem?_start hd
    obtain ⟨l, hl, hstart⟩ := (danglingItem?_after hnum hd).2
    have hstop := le_stop_of_mem hl
    rw [← hstart] at hstop
    rwa [show i.range.stop = document.stop from congrArg Range.stop hrange]

theorem pairwise_segment :
    (segment reader d document).Pairwise (fun a b => a.range.stop.line < b.range.start.line) := by
  have hnum := isNumbered_numberedLines document
  rw [segment_eq]
  refine List.pairwise_append.mpr ⟨pairwise_itemAt reader hnum, ?_, ?_⟩
  · cases danglingItem? d document.numberedLines document.stop <;> simp
  · intro a ha b hb
    obtain ⟨l, hl, rfl⟩ := List.mem_map.mp ha
    exact (danglingItem?_after hnum (Option.mem_toList.mp hb)).1 l hl

/-- What reads the definitions decides about the bodies of the items, and about nothing else. -/
theorem map_withoutBody_segment (other : DefinitionReader) :
    (segment other d document).map Item.withoutBody =
      (segment reader d document).map Item.withoutBody := by
  rw [segment_eq reader, segment_eq other, List.map_append, List.map_append, List.map_map,
    List.map_map]
  rfl

end Items

/-- **Tiling.** The `k`-th definition line is the end of the `k`-th item, whose definition range is
that whole line and which starts on the line after the definition line before it. At most one item
follows these; it is dangling, starts after the last definition line and ends with the document.
Hence the items lie on lines that increase strictly, and none of this depends on what reads the
definitions. -/
theorem segment_tiles (reader : DefinitionReader) (d : Dialect) (document : Document) :
    let items := segment reader d document
    let definitions := definitionLines d document.numberedLines
    (∀ k l, definitions[k]? = some l →
      ∃ i, items[k]? = some i ∧ i.definitionRange = some l.range ∧ i.body ≠ .dangling ∧
        (k = 0 → i.range.start = ⟨0, 0⟩) ∧
        (∀ j before, k = j + 1 → definitions[j]? = some before →
          i.range.start = ⟨before.number + 1, 0⟩) ∧
        i.range.stop = l.range.stop) ∧
    (∀ k i, items[k]? = some i → definitions.length ≤ k →
      k = definitions.length ∧ items.length = k + 1 ∧ i.body = .dangling ∧
        i.definitionRange = none ∧ (∀ l ∈ definitions, l.number < i.range.start.line) ∧
        i.range.stop = document.stop) ∧
    (∀ i ∈ items, i.range.start ≤ i.range.stop) ∧
    items.Pairwise (fun a b => a.range.stop.line < b.range.start.line) ∧
    ∀ other, (segment other d document).map Item.withoutBody = items.map Item.withoutBody := by
  intro items definitions
  have hnum := isNumbered_numberedLines document
  refine ⟨?_, ?_, fun i => start_le_stop_of_mem_segment reader, pairwise_segment reader,
    map_withoutBody_segment reader⟩
  · intro k l hk
    obtain ⟨hfirst, hnext⟩ := itemStart_of_getElem? hnum hk
    refine ⟨_, segment_getElem? reader hk, rfl, Body.ofLine_ne_dangling _ _ _ _ _, ?_, ?_, rfl⟩
    · intro h0
      simp only [itemAt, hfirst h0]
    · intro j before hj hbefore
      simp only [itemAt, hnext j before hj hbefore]
  · intro k i hk hle
    obtain ⟨hd, hend, hlength⟩ := danglingItem?_of_getElem? reader hk hle
    obtain ⟨hbody, hrange, -⟩ := danglingItem?_holds hd
    obtain ⟨first, -, hlast⟩ := danglingItem?_start hd
    exact ⟨hend, hlength, hbody, hrange, (danglingItem?_after hnum hd).1, by rw [hlast]⟩

end Flowline
