import Flowline.Editor.Folding
import Flowline.Proofs.Ownership
import Mathlib.Data.List.Pairwise

/-!
# How folds lie in each other

The fold of an item starts below the comment that the item starts with, and would be left out if the
item ended with that comment. The comments of a dangling item may stand above it. Still no fold is
ever left out and no two folds cross: a comment never goes on over the first line of an item, since
that line is either right below a definition line or holds metadata.

* `Fold.Nests`: two folds that do not cross;
* `Item.CommentsFit`, `commentsFit_of_mem_segment`: how the comments of an item lie at its first
  line;
* `Item.CommentsFit.itemFolds_eq`, `Item.CommentsFit.nests`: the folds of one item;
* `stop_lt_start_of_mem_itemFolds`, `above_of_mem_itemFolds`: the folds of different items;
* `folds_nested`: the folds of a document.
-/

namespace Flowline

/-! ## The lines of a fold -/

namespace Fold

/-- The first line of a fold, as an editor receives it. -/
def firstLine (f : Fold) : Nat :=
  f.start.clamp.line

/-- The last line of a fold, as an editor receives it. -/
def lastLine (f : Fold) : Nat :=
  f.stop.clamp.line

/-- All lines of a fold stand above those of another one. -/
def Above (f g : Fold) : Prop :=
  f.lastLine < g.firstLine

/-- All lines of a fold are lines of another one. -/
def Within (f g : Fold) : Prop :=
  g.firstLine ≤ f.firstLine ∧ f.lastLine ≤ g.lastLine

/-- Two folds have no line in common, or one of them lies in the other. -/
def Nests (f g : Fold) : Prop :=
  (f.Above g ∨ g.Above f) ∨ f.Within g ∨ g.Within f

theorem nests_self (f : Fold) : f.Nests f :=
  .inr (.inl ⟨Nat.le_refl _, Nat.le_refl _⟩)

theorem Nests.symm {f g : Fold} (h : f.Nests g) : g.Nests f := by
  rcases h with h | h
  · exact .inl h.symm
  · exact .inr h.symm

/-- Lines that an editor can receive reach it as they are. -/
theorem lines_eq {f : Fold} (h : f.start.line ≤ f.stop.line)
    (hmax : f.stop.line ≤ Position.maxNumber) :
    f.firstLine = f.start.line ∧ f.lastLine = f.stop.line := by
  constructor
  · exact Nat.min_eq_left (Nat.le_trans h hmax)
  · exact Nat.min_eq_left hmax

end Fold

/-- The fold of an item. -/
def Item.regionFold (i : Item) : Fold :=
  ⟨foldStart i, i.range.stop, .region⟩

/-- The fold of a comment. -/
def Range.commentFold (c : Range) : Fold :=
  ⟨c.start, c.stop, .comment⟩

/-- The fold of an item starts with the item, unless a comment starts there; then it starts below
the comment. -/
theorem foldStart_cases (i : Item) :
    ((∀ c ∈ i.comments, c.start.line ≠ i.range.start.line) ∧ foldStart i = i.range.start) ∨
      ∃ c ∈ i.comments, c.start.line = i.range.start.line ∧
        (foldStart i).line = c.stop.line + 1 := by
  unfold foldStart
  split
  · next hnone =>
    left
    refine ⟨fun c hc => ?_, rfl⟩
    simpa using List.find?_eq_none.mp hnone c hc
  · next comment hsome =>
    right
    refine ⟨comment, List.mem_of_find?_eq_some hsome, ?_, rfl⟩
    simpa using List.find?_some hsome

/-- Of ranges on increasing lines, two different ones have no line in common. -/
theorem apart_of_pairwise {α : Type*} (range : α → Range) {xs : List α}
    (h : xs.Pairwise (fun a b => (range a).stop.line < (range b).start.line)) {a b : α}
    (ha : a ∈ xs) (hb : b ∈ xs) (hne : a ≠ b) :
    (range a).stop.line < (range b).start.line ∨ (range b).stop.line < (range a).start.line := by
  have hsymm : Std.Symm fun a b : α =>
      (range a).stop.line < (range b).start.line ∨ (range b).stop.line < (range a).start.line :=
    ⟨fun _ _ => Or.symm⟩
  have hapart : xs.Pairwise fun a b =>
      (range a).stop.line < (range b).start.line ∨ (range b).stop.line < (range a).start.line :=
        h.imp .inl
  exact hapart.forall ha hb hne

/-! ## The folds of an item -/

/-- The comments of an item are apart from each other. None of them goes on over the first line of
the item, and below one that starts there is a line of the item. -/
structure Item.CommentsFit (i : Item) : Prop where
  start_le_stop : i.range.start.line ≤ i.range.stop.line
  proper : ∀ c ∈ i.comments, c.start.line ≤ c.stop.line
  stop_le : ∀ c ∈ i.comments, c.stop.line ≤ i.range.stop.line
  apart : i.comments.Pairwise (fun a b => a.stop.line < b.start.line)
  cut : ∀ c ∈ i.comments, c.stop.line < i.range.start.line ∨ i.range.start.line ≤ c.start.line
  leading : ∀ c ∈ i.comments, c.start.line = i.range.start.line → c.stop.line < i.range.stop.line

namespace Item.CommentsFit

variable {i : Item} {c : Range} {f g : Fold}

theorem foldStart_bounds (h : i.CommentsFit) :
    i.range.start.line ≤ (foldStart i).line ∧ (foldStart i).line ≤ i.range.stop.line := by
  rcases foldStart_cases i with ⟨-, hstart⟩ | ⟨c, hc, hline, hstart⟩
  · rw [hstart]
    exact ⟨Nat.le_refl _, h.start_le_stop⟩
  · have hproper := h.proper c hc
    have hleading := h.leading c hc hline
    omega

/-- A comment ends above the fold of its item or starts in it. -/
theorem cut_foldStart (h : i.CommentsFit) (hc : c ∈ i.comments) :
    c.stop.line < (foldStart i).line ∨ (foldStart i).line ≤ c.start.line := by
  rcases foldStart_cases i with ⟨-, hstart⟩ | ⟨leading, hleading, hline, hstart⟩
  · rw [hstart]
    exact h.cut c hc
  · by_cases heq : c = leading
    · subst heq
      omega
    · have hproper := h.proper leading hleading
      have hapart : c.stop.line < leading.start.line ∨ leading.stop.line < c.start.line :=
        apart_of_pairwise id h.apart hc hleading heq
      omega

/-- Neither the fold of an item nor that of one of its comments is left out. -/
theorem itemFolds_eq (h : i.CommentsFit) :
    itemFolds i = i.regionFold :: i.comments.map Range.commentFold := by
  have hregion : Fold.between? (foldStart i) i.range.stop .region = some i.regionFold :=
    if_pos h.foldStart_bounds.2
  have hcomments : i.comments.filterMap (fun c => Fold.between? c.start c.stop .comment) =
      i.comments.filterMap (some ∘ Range.commentFold) :=
    List.filterMap_congr fun c hc => if_pos (h.proper c hc)
  rw [itemFolds, hregion, hcomments, List.filterMap_eq_map]
  rfl

theorem regionFold_mem (h : i.CommentsFit) : i.regionFold ∈ itemFolds i := by
  rw [h.itemFolds_eq]
  exact List.mem_cons_self

/-- The folds of an item end with it at the latest. -/
theorem lines_of_mem_itemFolds (h : i.CommentsFit) (hf : f ∈ itemFolds i) :
    f.start.line ≤ f.stop.line ∧ f.stop.line ≤ i.range.stop.line := by
  rw [h.itemFolds_eq] at hf
  rcases List.mem_cons.mp hf with rfl | hf
  · exact ⟨h.foldStart_bounds.2, Nat.le_refl _⟩
  · obtain ⟨c, hc, rfl⟩ := List.mem_map.mp hf
    exact ⟨h.proper c hc, h.stop_le c hc⟩

theorem regionFold_nests (h : i.CommentsFit) (hmax : i.range.stop.line ≤ Position.maxNumber)
    (hc : c ∈ i.comments) : i.regionFold.Nests c.commentFold := by
  have hstop := h.stop_le c hc
  have hregion := Fold.lines_eq (f := i.regionFold) h.foldStart_bounds.2 hmax
  have hcomment := Fold.lines_eq (f := c.commentFold) (h.proper c hc) (Nat.le_trans hstop hmax)
  simp only [Fold.Nests, Fold.Above, Fold.Within, hregion, hcomment]
  rcases h.cut_foldStart hc with habove | hin
  · exact .inl (.inr habove)
  · exact .inr (.inr ⟨hin, hstop⟩)

theorem commentFold_nests (h : i.CommentsFit) (hmax : i.range.stop.line ≤ Position.maxNumber)
    {a b : Range} (ha : a ∈ i.comments) (hb : b ∈ i.comments) :
    a.commentFold.Nests b.commentFold := by
  by_cases heq : a = b
  · rw [heq]
    exact Fold.nests_self _
  · have hfirst :=
      Fold.lines_eq (f := a.commentFold) (h.proper a ha) (Nat.le_trans (h.stop_le a ha) hmax)
    have hsecond :=
      Fold.lines_eq (f := b.commentFold) (h.proper b hb) (Nat.le_trans (h.stop_le b hb) hmax)
    simp only [Fold.Nests, Fold.Above, hfirst, hsecond]
    exact .inl (apart_of_pairwise id h.apart ha hb heq)

/-- No two folds of an item cross. -/
theorem nests (h : i.CommentsFit) (hmax : i.range.stop.line ≤ Position.maxNumber)
    (hf : f ∈ itemFolds i) (hg : g ∈ itemFolds i) : f.Nests g := by
  rw [h.itemFolds_eq] at hf hg
  rcases List.mem_cons.mp hf with rfl | hf
  · rcases List.mem_cons.mp hg with rfl | hg
    · exact Fold.nests_self _
    · obtain ⟨c, hc, rfl⟩ := List.mem_map.mp hg
      exact h.regionFold_nests hmax hc
  · obtain ⟨c, hc, rfl⟩ := List.mem_map.mp hf
    rcases List.mem_cons.mp hg with rfl | hg
    · exact (h.regionFold_nests hmax hc).symm
    · obtain ⟨b, hb, rfl⟩ := List.mem_map.mp hg
      exact h.commentFold_nests hmax hc hb

end Item.CommentsFit

/-! ## Comments and the first line of an item -/

section Lines

variable {d : Dialect} {lines : List Line} {n : Nat} {i : Item} {r : Range} {l : Line}

/-- Between the first and the last line of a comment there are comment lines only. -/
theorem isHashed_of_between {run : List Line} (hnum : IsNumbered lines)
    (hrun : IsCommentRun d lines run) (hhull : hull run = some r) (hl : l ∈ lines)
    (hfirst : r.start.line ≤ l.number) (hlast : l.number ≤ r.stop.line) : l.isHashed d = true := by
  obtain ⟨-, hsolid, before, after, hcut, -, -⟩ := hrun
  obtain ⟨first, last, hhead, hend, rfl⟩ := exists_of_hull hhull
  have hsorted := hnum.pairwise
  rw [hcut, List.pairwise_append, List.pairwise_append] at hsorted
  obtain ⟨-, ⟨-, -, hafter⟩, hbefore⟩ := hsorted
  rw [hcut, List.mem_append, List.mem_append] at hl
  rcases hl with hl | hl | hl
  · have hlt := hbefore l hl first (List.mem_append_left _ (List.mem_of_head? hhead))
    exact absurd hfirst (Nat.not_le_of_lt hlt)
  · simpa using hsolid l hl
  · have hlt := hafter last (List.mem_of_getLast? hend) l hl
    exact absurd hlast (Nat.not_le_of_lt hlt)

namespace Item.GatheredAt

/-- A comment has no metadata line in it. -/
theorem apart_of_isMetadata (hnum : IsNumbered lines) (h : i.GatheredAt d lines n) (hl : l ∈ lines)
    (hmeta : l.isMetadata d = true) (hr : r ∈ i.comments) :
    r.stop.line < l.number ∨ l.number < r.start.line := by
  by_contra hin
  obtain ⟨run, hrun, hhull⟩ := h.isCommentRun_of_mem_comments hr
  have hhashed := isHashed_of_between hnum hrun hhull hl (by omega) (by omega)
  rw [Line.isHashed, hmeta] at hhashed
  cases hhashed

/-- A comment stands between the last definition line and line `n`. -/
theorem lines_of_comment (hnum : IsNumbered lines) (h : i.GatheredAt d lines n)
    (hr : r ∈ i.comments) :
    itemStart d lines n ≤ r.start.line ∧ r.start.line ≤ r.stop.line ∧ r.stop.line < n ∧
      r.stop.line ≤ i.range.stop.line := by
  rw [h.comments] at hr
  obtain ⟨first, hfirst, last, hlast, -, hle, rfl⟩ := lines_of_mem_comments hnum hr
  obtain ⟨-, hstart, -⟩ := (mem_sinceDefinition hnum h.le_length).mp hfirst
  obtain ⟨hline, -, hlt⟩ := (mem_sinceDefinition hnum h.le_length).mp hlast
  have hstop := h.stop last hline hlt
  rw [Position.le_iff] at hstop
  simp only [Line.range, Range.onLine] at hstop ⊢
  omega

end Item.GatheredAt

end Lines

section Document

variable {reader : DefinitionReader} {d : Dialect} {document : Document} {i a b : Item} {f g : Fold}

/-- A dangling item starts with a metadata line. -/
theorem exists_metadata_of_dangling (hi : i ∈ segment reader d document)
    (hbody : i.body = .dangling) :
    ∃ l ∈ document.numberedLines, l.isMetadata d = true ∧ i.range.start.line = l.number := by
  rcases mem_segment.mp hi with ⟨l, -, rfl⟩ | hd
  · exact absurd hbody (Body.ofLine_ne_dangling _ _ _ _ _)
  · obtain ⟨first, hfirst, hrange⟩ := danglingItem?_start hd
    refine ⟨first, mem_of_mem_sinceReset (List.mem_of_find?_eq_some hfirst), ?_, by
      rw [hrange]; rfl⟩
    exact List.find?_some (p := fun l : Line => l.isMetadata d) hfirst

theorem commentsFit_of_mem_segment (hi : i ∈ segment reader d document) : i.CommentsFit := by
  have hnum := isNumbered_numberedLines document
  obtain ⟨n, h⟩ := exists_gatheredAt hi
  have hlines := fun c (hc : c ∈ i.comments) => h.lines_of_comment hnum hc
  have hrange := start_le_stop_of_mem_segment reader hi
  rw [Position.le_iff] at hrange
  refine ⟨by omega, fun c hc => (hlines c hc).2.1, fun c hc => (hlines c hc).2.2.2,
    h.pairwise_comments hnum, ?_, ?_⟩
  · intro c hc
    by_cases hbody : i.body = .dangling
    · obtain ⟨l, hl, hmeta, hstart⟩ := exists_metadata_of_dangling hi hbody
      have hapart := h.apart_of_isMetadata hnum hl hmeta hc
      omega
    · right
      rw [(h.defined hbody).1]
      exact (hlines c hc).1
  · intro c hc hline
    by_cases hbody : i.body = .dangling
    · -- no comment starts with a metadata line
      obtain ⟨l, hl, hmeta, hstart⟩ := exists_metadata_of_dangling hi hbody
      have hapart := h.apart_of_isMetadata hnum hl hmeta hc
      have hproper := (hlines c hc).2.1
      omega
    · rw [(h.defined hbody).2.1]
      exact (hlines c hc).2.2.1

/-- What has been gathered for an item stands below the items before it, even if it stands above the
item. -/
theorem stop_lt_itemStart {n : Nat} (ha : a ∈ segment reader d document)
    (hb : b ∈ segment reader d document) (hlt : a.range.stop.line < b.range.start.line)
    (h : b.GatheredAt d document.numberedLines n) :
    a.range.stop.line < itemStart d document.numberedLines n := by
  have hnum := isNumbered_numberedLines document
  by_cases hbody : b.body = .dangling
  · rw [(h.dangling hbody).1]
    rcases mem_segment.mp ha with ⟨l, hl, rfl⟩ | hda
    · have hget := hnum.getElem? (mem_definitionLines.mp hl).1
      exact lt_itemStart hnum hl (List.getElem?_eq_some_iff.mp hget).1
    · -- there is one dangling item only
      rcases mem_segment.mp hb with ⟨l, -, rfl⟩ | hdb
      · exact absurd hbody (Body.ofLine_ne_dangling _ _ _ _ _)
      · rw [hda] at hdb
        cases hdb
        have hfit := (commentsFit_of_mem_segment ha).start_le_stop
        omega
  · rwa [(h.defined hbody).1] at hlt

/-- The folds of an item stand above those of the items after it. -/
theorem stop_lt_start_of_mem_itemFolds (ha : a ∈ segment reader d document)
    (hb : b ∈ segment reader d document) (hlt : a.range.stop.line < b.range.start.line)
    (hf : f ∈ itemFolds a) (hg : g ∈ itemFolds b) : f.stop.line < g.start.line := by
  have hnum := isNumbered_numberedLines document
  have hfit := commentsFit_of_mem_segment hb
  obtain ⟨n, h⟩ := exists_gatheredAt hb
  have hstart : itemStart d document.numberedLines n ≤ g.start.line := by
    rw [hfit.itemFolds_eq] at hg
    rcases List.mem_cons.mp hg with rfl | hg
    · exact Nat.le_trans h.itemStart_le hfit.foldStart_bounds.1
    · obtain ⟨c, hc, rfl⟩ := List.mem_map.mp hg
      exact (h.lines_of_comment hnum hc).1
  have hstop := (commentsFit_of_mem_segment ha).lines_of_mem_itemFolds hf
  have habove := stop_lt_itemStart ha hb hlt h
  omega

/-- Items end on lines of the document. -/
theorem stop_line_lt_of_mem_segment (hi : i ∈ segment reader d document) :
    i.range.stop.line < document.lineCount := by
  have hpos : 0 < document.lines.length := List.length_pos_iff.mpr document.lines_ne_nil
  rcases mem_segment.mp hi with ⟨l, hl, rfl⟩ | hd
  · have htext := Document.lineText_of_mem (mem_definitionLines.mp hl).1
    exact (List.getElem?_eq_some_iff.mp htext).1
  · obtain ⟨first, -, hrange⟩ := danglingItem?_start hd
    have hlast : document.lines[document.lines.length - 1]? =
        some document.lines[document.lines.length - 1] := List.getElem?_eq_getElem (by omega)
    rw [hrange, Document.stop, Document.lineRange, Document.lineText, Document.lineCount, hlast]
    simp only [Option.map_some, Range.onLine]
    omega

/-- An editor can receive all lines of a document that is not too long. -/
theorem stop_line_le_maxNumber (hcount : document.lineCount < 0x100000000)
    (hi : i ∈ segment reader d document) : i.range.stop.line ≤ Position.maxNumber := by
  have hlt := stop_line_lt_of_mem_segment hi
  unfold Position.maxNumber
  omega

theorem received_of_mem_itemFolds (hcount : document.lineCount < 0x100000000)
    (hi : i ∈ segment reader d document) (hf : f ∈ itemFolds i) :
    f.firstLine = f.start.line ∧ f.lastLine = f.stop.line ∧ f.firstLine ≤ f.lastLine := by
  obtain ⟨hle, hstop⟩ := (commentsFit_of_mem_segment hi).lines_of_mem_itemFolds hf
  obtain ⟨hfirst, hlast⟩ :=
    Fold.lines_eq hle (Nat.le_trans hstop (stop_line_le_maxNumber hcount hi))
  exact ⟨hfirst, hlast, by rwa [hfirst, hlast]⟩

theorem above_of_mem_itemFolds (hcount : document.lineCount < 0x100000000)
    (ha : a ∈ segment reader d document) (hb : b ∈ segment reader d document)
    (hlt : a.range.stop.line < b.range.start.line) (hf : f ∈ itemFolds a) (hg : g ∈ itemFolds b) :
    f.Above g := by
  rw [Fold.Above, (received_of_mem_itemFolds hcount ha hf).2.1,
    (received_of_mem_itemFolds hcount hb hg).1]
  exact stop_lt_start_of_mem_itemFolds ha hb hlt hf hg

end Document

/-- **Folds do not cross.** In a document of fewer than 2³² lines each item has its fold and each
comment of it has one, and none of them ends before it starts. The folds of the items follow each
other without a common line, and any two folds of the document have no line in common unless one of
them lies in the other. -/
theorem folds_nested (reader : DefinitionReader) (d : Dialect) (document : Document)
    (hcount : document.lineCount < 0x100000000) :
    let items := segment reader d document
    folds items = items.flatMap (fun i => i.regionFold :: i.comments.map Range.commentFold) ∧
    (∀ f ∈ folds items, f.firstLine ≤ f.lastLine) ∧
    (items.map Item.regionFold).Pairwise Fold.Above ∧
    ∀ f ∈ folds items, ∀ g ∈ folds items, f.Nests g := by
  intro items
  have hfit : ∀ i ∈ items, i.CommentsFit := fun i => commentsFit_of_mem_segment
  have hpairwise : items.Pairwise (fun a b => a.range.stop.line < b.range.start.line) :=
    pairwise_segment reader
  refine ⟨List.flatMap_congr fun i hi => (hfit i hi).itemFolds_eq, ?_, ?_, ?_⟩
  · intro f hf
    obtain ⟨i, hi, hf⟩ := List.mem_flatMap.mp hf
    exact (received_of_mem_itemFolds hcount hi hf).2.2
  · rw [List.pairwise_map]
    refine hpairwise.imp_of_mem ?_
    intro a b ha hb hlt
    exact above_of_mem_itemFolds hcount ha hb hlt (hfit a ha).regionFold_mem
      (hfit b hb).regionFold_mem
  · intro f hf g hg
    obtain ⟨a, ha, hf⟩ := List.mem_flatMap.mp hf
    obtain ⟨b, hb, hg⟩ := List.mem_flatMap.mp hg
    by_cases heq : a = b
    · subst heq
      exact (hfit a ha).nests (stop_line_le_maxNumber hcount ha) hf hg
    · rcases apart_of_pairwise Item.range hpairwise ha hb heq with hlt | hlt
      · exact .inl (.inl (above_of_mem_itemFolds hcount ha hb hlt hf hg))
      · exact .inl (.inr (above_of_mem_itemFolds hcount hb ha hlt hg hf))

/-- A task that starts with a comment and has another one above its definition, and a name that no
definition follows, with one comment above it and one below. -/
def foldedTask : Document where
  uri := "file:///tasks.scdft"
  version := 1
  text := "# a\n# b\n-- @env e\n#\nload\n# c\n-- @name n\n#"

/-- The first comment is left out of the fold of the task, and the comment above the name out of the
other one. -/
theorem foldedTask_nested :
    let items := segment .standard .task foldedTask
    (foldedTask.lineCount < 0x100000000 ∧
      (folds items).map (fun f => (f.kind, f.firstLine, f.lastLine)) =
        [(.region, 2, 4), (.comment, 0, 1), (.comment, 3, 3), (.region, 6, 7), (.comment, 5, 5),
          (.comment, 7, 7)]) ∧
      (items.map Item.regionFold).Pairwise Fold.Above ∧
      ∀ f ∈ folds items, ∀ g ∈ folds items, f.Nests g := by
  intro items
  have hcount : foldedTask.lineCount < 0x100000000 := by decide
  obtain ⟨-, -, habove, hnests⟩ := folds_nested .standard .task foldedTask hcount
  exact ⟨⟨hcount, by decide⟩, habove, hnests⟩

end Flowline
