import Flowline.Item.Body
import Flowline.Text.Document
import Mathlib.Data.List.DropRight

/-!
# What stands in some columns

A span spells a word if the word stands in its columns. Where text is cut, what is found is spelled
by the columns that the cut gives, and the content of a range on one line is what its columns spell.

* `Span.Spells`: a word in the columns of a text;
* `Document.content_onLine`, `Document.content_of_spells`: the content of a range on one line;
* `spells_trim`, `Metadata.spells_value`: a text without the blanks around it, the value of
  metadata;
* `pieces_eq_splitOn`, `not_mem_of_mem_pieces`: the parts of a text.
-/

namespace Flowline

/-- In a text, the columns of a span hold a word. -/
def Span.Spells (text : List Char) (s : Span) (word : List Char) : Prop :=
  ∃ before after, text = before ++ word ++ after ∧ s.start = before.length ∧
    s.stop = before.length + word.length

namespace Span.Spells

variable {text word : List Char} {s : Span}

theorem stop_eq (h : s.Spells text word) : s.stop = s.start + word.length := by
  obtain ⟨before, after, -, hstart, hstop⟩ := h
  rw [hstart, hstop]

theorem stop_le (h : s.Spells text word) : s.stop ≤ text.length := by
  obtain ⟨before, after, rfl, -, hstop⟩ := h
  rw [hstop, List.length_append, List.length_append]
  exact Nat.le_add_right _ _

theorem slice_eq (h : s.Spells text word) : slice text s.start s.stop = word := by
  obtain ⟨before, after, rfl, hstart, hstop⟩ := h
  rw [slice, hstart, hstop, Nat.add_sub_cancel_left, List.append_assoc, List.drop_left,
    List.take_left]

/-- A part of what a span spells is spelled by its own columns. -/
theorem part {lead rest : List Char} (h : s.Spells text (lead ++ word ++ rest)) :
    Spells text ⟨s.start + lead.length, s.start + lead.length + word.length⟩ word := by
  obtain ⟨before, after, rfl, hstart, -⟩ := h
  refine ⟨before ++ lead, rest ++ after, by simp only [List.append_assoc], ?_, ?_⟩
  · simp only [hstart, List.length_append]
  · simp only [hstart, List.length_append]

/-- The columns after the first `k` ones, counted from there on. -/
theorem of_drop {k : Nat} (hk : k ≤ text.length) (h : s.Spells (text.drop k) word) :
    Spells text ⟨k + s.start, k + s.stop⟩ word := by
  obtain ⟨before, after, hcut, hstart, hstop⟩ := h
  have hlen : (text.take k ++ before).length = k + before.length := by
    rw [List.length_append, List.length_take, Nat.min_eq_left hk]
  refine ⟨text.take k ++ before, after, ?_, ?_, ?_⟩
  · conv_lhs => rw [← List.take_append_drop k text, hcut]
    simp only [List.append_assoc]
  · rw [hlen, hstart]
  · rw [hlen, hstop, Nat.add_assoc]

theorem append_right (h : s.Spells text word) (more : List Char) :
    s.Spells (text ++ more) word := by
  obtain ⟨before, after, rfl, hstart, hstop⟩ := h
  exact ⟨before, after ++ more, by simp only [List.append_assoc], hstart, hstop⟩

end Span.Spells

theorem spells_slice {text : List Char} {first last : Nat} (h : first ≤ last)
    (hlast : last ≤ text.length) : Span.Spells text ⟨first, last⟩ (slice text first last) := by
  have hlen : (text.take first).length = first := by
    rw [List.length_take]
    omega
  refine ⟨text.take first, text.drop last, ?_, hlen.symm, ?_⟩
  · conv_lhs => rw [← List.take_append_drop first text]
    rw [slice, List.append_assoc]
    congr 1
    conv_lhs => rw [← List.take_append_drop (last - first) (text.drop first)]
    rw [List.drop_drop, Nat.add_sub_cancel' h]
  · show last = _
    rw [hlen, slice, List.length_take, List.length_drop]
    omega

/-- The content of a range on one line is cut out of that line. -/
theorem Document.content_onLine {document : Document} {n : Nat} {text : List Char}
    (hline : document.lineText n = some text) (s : Span) :
    document.content (s.onLine n) = slice text s.start s.stop := by
  obtain ⟨hlt, htext⟩ := List.getElem?_eq_some_iff.mp hline
  by_cases hle : s.start ≤ s.stop
  · have hnot : ¬ (s.onLine n).stop < (s.onLine n).start := by
      simp only [Span.onLine, Range.onLine, Position.lt_iff]
      omega
    rw [content, if_neg hnot]
    simp only [Span.onLine, Range.onLine]
    rw [List.drop_eq_getElem_cons hlt, htext, gather]
    simp only [if_true]
  · have hback : (s.onLine n).stop < (s.onLine n).start := .inr ⟨rfl, Nat.lt_of_not_le hle⟩
    rw [content, if_pos hback, slice, Nat.sub_eq_zero_of_le (by omega), List.take_zero]

/-- The content of a range on one line is what its columns spell. -/
theorem Document.content_of_spells {document : Document} {n : Nat}
    {text word : List Char} {s : Span} (hline : document.lineText n = some text)
    (h : s.Spells text word) :
    document.content (s.onLine n) = word := by
  rw [Document.content_onLine hline, h.slice_eq]

/-! ## Blanks around a text -/

theorem spells_trim (text : List Char) :
    Span.Spells text ⟨leadingBlanks text, leadingBlanks text + (trim text).length⟩ (trim text) := by
  obtain ⟨after, hafter⟩ : trim text <+: trimStart text := List.rdropWhile_prefix _ _
  refine ⟨text.takeWhile Character.isBlank, after, ?_, rfl, rfl⟩
  rw [List.append_assoc, hafter]
  exact List.takeWhile_append_dropWhile.symm

/-- The value of metadata stands in its range. -/
theorem Metadata.spells_value {m : Metadata} {value : String} {r : Range}
    (hv : m.value = some value) (hr : m.valueRange = some r) :
    ∃ s : Span, r = s.onLine m.line ∧ s.Spells m.text value.toList := by
  simp only [Metadata.value] at hv
  simp only [Metadata.valueRange] at hr
  split at hv
  · cases hv
  · next hne =>
    rw [if_neg hne] at hr
    cases hv
    cases hr
    have hlen : m.tokenStop ≤ m.text.length := by
      -- past the end of the line there would be no value
      by_contra hlt
      refine hne ?_
      rw [Metadata.afterToken, List.drop_eq_nil_of_le (by omega)]
      rfl
    have h := (spells_trim m.afterToken).of_drop hlen
    refine ⟨_, ?_, by rwa [String.toList_ofList]⟩
    rw [Span.onLine, Nat.add_assoc]

/-! ## Parts of a text -/

theorem pieces_eq_splitOn (sep : Char) (text : List Char) : pieces sep text = text.splitOn sep := by
  induction text with
  | nil => rfl
  | cons c rest ih =>
    rw [pieces, List.splitOn_cons_eq_if_modifyHead, ← ih]
    by_cases hc : c = sep
    · simp [hc]
    · obtain ⟨part, parts, hparts⟩ := List.exists_cons_of_ne_nil (pieces_ne_nil sep rest)
      simp [hc, hparts]

theorem intercalate_pieces (sep : Char) (text : List Char) :
    [sep].intercalate (pieces sep text) = text := by
  rw [pieces_eq_splitOn]
  exact List.intercalate_splitOn sep

theorem not_mem_of_mem_pieces {sep : Char} {text part : List Char} (h : part ∈ pieces sep text) :
    sep ∉ part := by
  induction text generalizing part with
  | nil => simp_all [pieces]
  | cons c rest ih =>
    rw [pieces] at h
    split at h
    · rcases List.mem_cons.mp h with rfl | h
      · exact List.not_mem_nil
      · exact ih h
    · next hc =>
      obtain ⟨first, parts, hparts⟩ := List.exists_cons_of_ne_nil (pieces_ne_nil sep rest)
      rw [hparts] at h ih
      rcases List.mem_cons.mp h with rfl | h
      · rw [List.mem_cons, not_or]
        exact ⟨fun heq => hc heq.symm, ih List.mem_cons_self⟩
      · exact ih (List.mem_cons_of_mem _ h)

/-- Two parts are all there is but for the separator between them. -/
theorem eq_of_pieces_eq_pair {sep : Char} {text head tail : List Char}
    (h : pieces sep text = [head, tail]) : text = head ++ sep :: tail := by
  have := intercalate_pieces sep text
  rw [h] at this
  simpa [List.intercalate] using this.symm

end Flowline
