import Flowline.Proofs.Spelling
import Mathlib.Algebra.GroupWithZero.Nat

/-!
# Positions as offsets

A document read without its carriage returns is one text, and a position of it is an offset in that
text: all lines above the position with their line feeds, then the column, or the end of the line
for a column past it. The content of a range is what stands between the offsets of its ends.

* `withoutReturns`, `ended`, `ended_linesOf`: the text that the lines of a document make up;
* `offsetIn`, `offsetIn_mono`: the offset of a position in some lines;
* `gather_eq_slice`: gathering a range line by line cuts one piece out of the text;
* `content_between_offsets`: the content of a range is what stands between two offsets.
-/

namespace Flowline

/-- A text without the carriage return before each line feed and without the one at the end. -/
def withoutReturns : List Char → List Char
  | [] => []
  | ['\r'] => []
  | '\r' :: '\n' :: rest => '\n' :: withoutReturns rest
  | c :: rest => c :: withoutReturns rest

/-- Lines as a text in which each of them, the last one too, ends with a line feed. -/
def ended (lines : List (List Char)) : List Char :=
  lines.flatMap (· ++ ['\n'])

/-- The number of characters before a position: those of the lines above it with a line feed each,
and those before the column, which may lie past the end of its line. -/
def offsetIn (lines : List (List Char)) (p : Position) : Nat :=
  ((lines.take p.line).map fun line => line.length + 1).sum +
    min p.character (lines[p.line]?.getD []).length

def Document.offset (d : Document) (p : Position) : Nat :=
  offsetIn d.lines p

/-! ## The text of the lines -/

theorem dropReturn_cons {c : Char} {part : List Char} (h : ¬ (c = '\r' ∧ part = [])) :
    dropReturn (c :: part) = c :: dropReturn part := by
  cases part with
  | nil => simp_all [dropReturn]
  | cons d part =>
    simp only [dropReturn, List.getLast?_cons_cons, List.dropLast_cons_cons]
    split <;> rfl

/-- The first part is empty only at the start of a separator or at the end. -/
theorem eq_of_pieces_eq_nil_cons {sep : Char} {text : List Char} {parts : List (List Char)}
    (h : pieces sep text = [] :: parts) : text = [] ∨ ∃ rest, text = sep :: rest := by
  cases text with
  | nil => exact .inl rfl
  | cons c rest =>
    right
    rw [pieces] at h
    split at h
    · next hc => exact ⟨rest, by rw [hc]⟩
    · split at h <;> cases h

/-- The lines of a text, each with its line feed, are the text without carriage returns, with one
more line feed at the end. -/
theorem ended_linesOf (text : List Char) :
    ended (linesOf text) = withoutReturns text ++ ['\n'] := by
  fun_induction withoutReturns text with
  | case1 => rfl
  | case2 => rfl
  | case3 rest ih =>
    have hlines : linesOf ('\r' :: '\n' :: rest) = [] :: linesOf rest := by
      simp [linesOf, pieces, dropReturn]
    rw [hlines, ended, List.flatMap_cons, ← ended, ih]
    rfl
  | case4 c rest hend hfeed ih =>
    obtain ⟨part, parts, hparts⟩ := List.exists_cons_of_ne_nil (pieces_ne_nil '\n' rest)
    by_cases hc : c = '\n'
    · have hlines : linesOf (c :: rest) = [] :: linesOf rest := by
        simp [linesOf, pieces, hc, dropReturn]
      rw [hlines, ended, List.flatMap_cons, ← ended, ih, hc]
      rfl
    · -- the first line becomes longer, as what is put before it is no return that would be dropped
      have hkept : ¬ (c = '\r' ∧ part = []) := by
        rintro ⟨rfl, rfl⟩
        rcases eq_of_pieces_eq_nil_cons hparts with rfl | ⟨more, rfl⟩
        · exact hend rfl rfl
        · exact hfeed more rfl rfl
      have hlines : linesOf (c :: rest) = (c :: dropReturn part) :: parts.map dropReturn := by
        simp [linesOf, pieces, hc, hparts, dropReturn_cons hkept]
      have hrest : linesOf rest = dropReturn part :: parts.map dropReturn := by
        rw [linesOf, hparts, List.map_cons]
      rw [hrest, ended, List.flatMap_cons] at ih
      rw [hlines, ended, List.flatMap_cons, List.cons_append, List.cons_append, ih]
      rfl

/-! ## Pieces of a text -/

section Slices

variable {text more : List Char} {a b c : Nat}

theorem drop_min_length (text : List Char) (a : Nat) :
    text.drop (min a text.length) = text.drop a := by
  by_cases ha : a ≤ text.length
  · rw [Nat.min_eq_left ha]
  · rw [Nat.min_eq_right (by omega), List.drop_length, List.drop_eq_nil_of_le (by omega)]

/-- Columns past the end of a text stand for its end. -/
theorem slice_min (text : List Char) (a b : Nat) :
    slice text (min a text.length) (min b text.length) = slice text a b := by
  rw [slice, slice, drop_min_length, List.take_eq_take_iff, List.length_drop]
  omega

theorem slice_append_left (h : b ≤ text.length) : slice (text ++ more) a b = slice text a b := by
  by_cases ha : a ≤ b
  · rw [slice, slice, List.drop_append_of_le_length (by omega), List.take_append_of_le_length]
    rw [List.length_drop]
    omega
  · simp [slice, Nat.sub_eq_zero_of_le (Nat.le_of_not_le ha)]

theorem slice_append_right (lead text : List Char) (a b : Nat) :
    slice (lead ++ text) (lead.length + a) (lead.length + b) = slice text a b := by
  rw [slice, slice, List.drop_append, List.drop_eq_nil_of_le (by omega), List.nil_append,
    Nat.add_sub_cancel_left, Nat.add_sub_add_left]

/-- A piece that reaches past the end of a line goes on below it. -/
theorem slice_past_line (line more : List Char) (n : Nat) (h : a ≤ line.length) :
    slice (line ++ '\n' :: more) a (line.length + 1 + n) =
      line.drop a ++ '\n' :: slice more 0 n := by
  have hlength : line.length + 1 + n - a = (line.drop a).length + (n + 1) := by
    rw [List.length_drop]
    omega
  rw [slice, List.drop_append_of_le_length h, hlength, List.take_length_add_append]
  rfl

/-- Two pieces of which the second starts where the first ends are one piece. -/
theorem slice_append_slice (text : List Char) (hab : a ≤ b) (hbc : b ≤ c) :
    slice text a b ++ slice text b c = slice text a c := by
  have hdrop : text.drop b = (text.drop a).drop (b - a) := by
    rw [List.drop_drop, Nat.add_sub_cancel' hab]
  have hlength : c - a = (b - a) + (c - b) := by omega
  rw [slice, slice, slice, hdrop, hlength, List.take_add]

end Slices

/-! ## Offsets -/

section Offsets

variable {lines : List (List Char)} {p q : Position}

theorem ended_cons (line : List Char) (lines : List (List Char)) :
    ended (line :: lines) = line ++ '\n' :: ended lines := by
  simp [ended]

theorem offsetIn_nil (p : Position) : offsetIn [] p = 0 := by
  simp [offsetIn]

theorem offsetIn_zero (line : List Char) (lines : List (List Char)) (column : Nat) :
    offsetIn (line :: lines) ⟨0, column⟩ = min column line.length := by
  simp [offsetIn]

theorem offsetIn_succ (line : List Char) (lines : List (List Char)) (n column : Nat) :
    offsetIn (line :: lines) ⟨n + 1, column⟩ = line.length + 1 + offsetIn lines ⟨n, column⟩ := by
  simp [offsetIn, Nat.add_assoc]

/-- The lines above a position count whole. -/
theorem offsetIn_drop {k : Nat} (h : k ≤ p.line) (lines : List (List Char)) :
    offsetIn lines p =
      (ended (lines.take k)).length + offsetIn (lines.drop k) ⟨p.line - k, p.character⟩ := by
  obtain ⟨n, column⟩ := p
  dsimp only at h ⊢
  induction k generalizing lines n with
  | zero => simp [ended]
  | succ k ih =>
    cases lines with
    | nil => simp [offsetIn_nil, ended]
    | cons line lines =>
      obtain ⟨n, rfl⟩ : ∃ m, n = m + 1 := ⟨n - 1, by omega⟩
      rw [offsetIn_succ, ih lines n (by omega), List.take_succ_cons,
        List.drop_succ_cons, ended_cons, Nat.add_sub_add_right, List.length_append,
        List.length_cons]
      omega

/-- A position on a line lies before the line feed at the end of that line. -/
theorem offsetIn_lt (h : p.line < lines.length) : offsetIn lines p < (ended lines).length := by
  obtain ⟨n, column⟩ := p
  dsimp only at h
  induction lines generalizing n with
  | nil => simp at h
  | cons line lines ih =>
    rw [ended_cons, List.length_append, List.length_cons]
    cases n with
    | zero =>
      rw [offsetIn_zero]
      omega
    | succ n =>
      rw [offsetIn_succ]
      have := ih n (by simpa using h)
      omega

/-- The end of the last line is followed by its line feed only. -/
theorem offsetIn_last (init : List (List Char)) (last : List Char) :
    offsetIn (init ++ [last]) ⟨init.length, last.length⟩ + 1 = (ended (init ++ [last])).length := by
  rw [offsetIn_drop (Nat.le_refl _), List.take_left, List.drop_left, Nat.sub_self, offsetIn_zero,
    Nat.min_self]
  simp only [ended, List.flatMap_append, List.flatMap_singleton, List.length_append,
    List.length_singleton, Nat.add_assoc]

theorem offsetIn_mono (lines : List (List Char)) (h : p ≤ q) :
    offsetIn lines p ≤ offsetIn lines q := by
  rw [Position.le_iff] at h
  rw [offsetIn_drop (Nat.le_refl p.line) lines, offsetIn_drop (by omega : p.line ≤ q.line) lines,
    Nat.sub_self]
  refine Nat.add_le_add_left ?_ _
  cases lines.drop p.line with
  | nil => simp [offsetIn_nil]
  | cons line rest =>
    rw [offsetIn_zero]
    rcases h with hlt | ⟨heq, hle⟩
    · obtain ⟨n, hn⟩ : ∃ n, q.line - p.line = n + 1 := ⟨q.line - p.line - 1, by omega⟩
      rw [hn, offsetIn_succ]
      omega
    · rw [heq, Nat.sub_self, offsetIn_zero]
      omega

end Offsets

/-! ## Gathering a range -/

section Gather

variable {r : Range}

/-- Below its first line, a range is gathered up to the offset of its end. -/
theorem gather_of_start_lt {index : Nat} (hstart : r.start.line < index)
    (hstop : index ≤ r.stop.line) (lines : List (List Char)) :
    gather r index lines =
      slice (ended lines) 0 (offsetIn lines ⟨r.stop.line - index, r.stop.character⟩) := by
  induction lines generalizing index with
  | nil => simp [gather, ended, slice]
  | cons line rest ih =>
    rw [gather, ended_cons]
    simp only [if_neg (Nat.ne_of_gt hstart)]
    split
    · next heq =>
      rw [heq, Nat.sub_self, offsetIn_zero, slice_append_left (Nat.min_le_right _ _),
        ← slice_min line 0, Nat.zero_min]
    · next hne =>
      obtain ⟨n, hn⟩ : ∃ n, r.stop.line - index = n + 1 := ⟨r.stop.line - index - 1, by omega⟩
      have hrest : r.stop.line - (index + 1) = n := by omega
      rw [ih (by omega) (by omega), hrest, hn, offsetIn_succ, slice_past_line _ _ _ (Nat.zero_le _)]

/-- A range that starts on the first of some lines is one piece of their text. -/
theorem gather_of_start_eq (h : r.start ≤ r.stop) (lines : List (List Char)) :
    gather r r.start.line lines =
      slice (ended lines) (offsetIn lines ⟨0, r.start.character⟩)
        (offsetIn lines ⟨r.stop.line - r.start.line, r.stop.character⟩) := by
  rw [Position.le_iff] at h
  cases lines with
  | nil => simp [gather, ended, slice]
  | cons line rest =>
    rw [gather, ended_cons, offsetIn_zero]
    simp only [if_true]
    split
    · next heq =>
      rw [heq, Nat.sub_self, offsetIn_zero, slice_append_left (Nat.min_le_right _ _), slice_min]
    · next hne =>
      obtain ⟨n, hn⟩ : ∃ n, r.stop.line - r.start.line = n + 1 :=
        ⟨r.stop.line - r.start.line - 1, by omega⟩
      have hrest : r.stop.line - (r.start.line + 1) = n := by omega
      rw [gather_of_start_lt (by omega) (by omega), hrest, hn, offsetIn_succ,
        slice_past_line _ _ _ (Nat.min_le_right _ _), drop_min_length]

/-- Gathering a range line by line cuts one piece out of the text of all lines. -/
theorem gather_eq_slice (h : r.start ≤ r.stop) (lines : List (List Char)) :
    gather r r.start.line (lines.drop r.start.line) =
      slice (ended lines) (offsetIn lines r.start) (offsetIn lines r.stop) := by
  have hle : r.start.line ≤ r.stop.line := by
    rw [Position.le_iff] at h
    omega
  have hcut : ended lines = ended (lines.take r.start.line) ++ ended (lines.drop r.start.line) := by
    rw [ended, ended, ended, ← List.flatMap_append, List.take_append_drop]
  rw [offsetIn_drop (Nat.le_refl _) lines, offsetIn_drop hle lines, hcut, slice_append_right,
    Nat.sub_self, gather_of_start_eq h]

end Gather

/-! ## Documents -/

namespace Document

variable {d : Document} {p q r : Position}

/-- A document without its carriage returns. -/
def plain (d : Document) : List Char :=
  withoutReturns d.text.toList

theorem ended_lines (d : Document) : ended d.lines = d.plain ++ ['\n'] :=
  ended_linesOf d.text.toList

theorem content_eq_slice (h : p ≤ q) :
    d.content ⟨p, q⟩ = slice (d.plain ++ ['\n']) (d.offset p) (d.offset q) := by
  rw [content, if_neg (Position.not_lt.mpr h), ← ended_lines]
  exact gather_eq_slice (r := ⟨p, q⟩) h d.lines

theorem offset_mono (d : Document) (h : p ≤ q) : d.offset p ≤ d.offset q :=
  offsetIn_mono d.lines h

theorem offset_le (h : p.line < d.lineCount) : d.offset p ≤ d.plain.length := by
  have hlt : offsetIn d.lines p < (ended d.lines).length := offsetIn_lt h
  rw [ended_lines, List.length_append, List.length_singleton] at hlt
  exact Nat.le_of_lt_succ hlt

/-- The content of a range stands between the offsets of its ends. -/
theorem spells_content (h : p ≤ q) (hq : q.line < d.lineCount) :
    Span.Spells d.plain ⟨d.offset p, d.offset q⟩ (d.content ⟨p, q⟩) := by
  have hle := offset_le hq
  rw [content_eq_slice h, slice_append_left hle]
  exact spells_slice (offset_mono d h) hle

/-- Ranges that meet make up one range, on whatever lines they are. -/
theorem content_append (hpq : p ≤ q) (hqr : q ≤ r) :
    d.content ⟨p, q⟩ ++ d.content ⟨q, r⟩ = d.content ⟨p, r⟩ := by
  rw [content_eq_slice hpq, content_eq_slice hqr, content_eq_slice (Position.le_trans hpq hqr),
    slice_append_slice _ (offset_mono d hpq) (offset_mono d hqr)]

theorem line_eq_lineText (d : Document) (i : Nat) : d.line i = d.lineText i := by
  rw [line, lineRange]
  cases htext : d.lineText i with
  | none => rfl
  | some text =>
    have hcontent := content_onLine htext ⟨0, text.length⟩
    rw [Option.map_some, Option.map_some, Option.some.injEq]
    refine hcontent.trans ?_
    simp [slice]

/-- The whole text stands before the position after the last character, which is on the last
line. -/
theorem offset_stop (d : Document) :
    d.stop.line < d.lineCount ∧ d.offset d.stop = d.plain.length := by
  obtain ⟨init, last, hlines⟩ := (List.eq_nil_or_concat d.lines).resolve_left d.lines_ne_nil
  rw [List.concat_eq_append] at hlines
  have hstop : d.stop = ⟨init.length, last.length⟩ := by
    simp [stop, lineRange, lineText, lineCount, hlines, Range.onLine]
  have hend := offsetIn_last init last
  rw [← hlines, ended_lines, List.length_append, List.length_singleton, ← hstop] at hend
  refine ⟨?_, Nat.succ.inj hend⟩
  rw [hstop, lineCount, hlines, List.length_append, List.length_singleton]
  exact Nat.lt_succ_self _

theorem content_whole (d : Document) : d.content ⟨⟨0, 0⟩, d.stop⟩ = d.plain := by
  have hle : (⟨0, 0⟩ : Position) ≤ d.stop := by
    simp only [Position.le_iff]
    omega
  have hstart : d.offset ⟨0, 0⟩ = 0 := by
    simp [offset, offsetIn]
  rw [content_eq_slice hle, hstart, (offset_stop d).2, slice_append_left (Nat.le_refl _)]
  simp [slice]

end Document

/-- **The content of a range is what stands between two offsets.** Let a document be read without
the carriage return before each line feed and at the end. The content of a range whose end is on a
line of the document is what stands in that text between the offsets of start and end, whatever the
columns. So the contents of ranges that meet make up the content of one range, the range of all
lines has the whole text, a line read through its range is that line, and a range that ends before
it starts is empty. -/
theorem content_between_offsets (d : Document) :
    (∀ p q, p ≤ q → q.line < d.lineCount →
      Span.Spells d.plain ⟨d.offset p, d.offset q⟩ (d.content ⟨p, q⟩)) ∧
    (∀ p q r, p ≤ q → q ≤ r → d.content ⟨p, q⟩ ++ d.content ⟨q, r⟩ = d.content ⟨p, r⟩) ∧
    d.content ⟨⟨0, 0⟩, d.stop⟩ = d.plain ∧
    (∀ i, d.line i = d.lineText i) ∧
    ∀ p q, q < p → d.content ⟨p, q⟩ = [] := by
  refine ⟨fun p q => Document.spells_content, fun p q r => Document.content_append,
    Document.content_whole d, Document.line_eq_lineText d, ?_⟩
  intro p q hback
  rw [Document.content, if_pos hback]

/-- A document with a carriage return that is part of its second line, and one at its end. -/
def returnedLines : Document where
  uri := "file:///streams.scdfs"
  version := 1
  text := "ab\r\nc\r\r\nd\r"

/-- The range ends at a column past the end of the second line. -/
theorem returnedLines_between_offsets :
    ((⟨0, 1⟩ : Position) ≤ ⟨1, 9⟩ ∧ 1 < returnedLines.lineCount) ∧
      returnedLines.plain = "ab\nc\r\nd".toList ∧
      returnedLines.content ⟨⟨0, 1⟩, ⟨1, 9⟩⟩ = "b\nc\r".toList ∧
      Span.Spells returnedLines.plain ⟨1, 5⟩ (returnedLines.content ⟨⟨0, 1⟩, ⟨1, 9⟩⟩) := by
  have hle : (⟨0, 1⟩ : Position) ≤ ⟨1, 9⟩ := by decide
  have hline : 1 < returnedLines.lineCount := by decide +kernel
  exact ⟨⟨hle, hline⟩, by decide +kernel, by decide +kernel,
    (content_between_offsets returnedLines).1 ⟨0, 1⟩ ⟨1, 9⟩ hle hline⟩

end Flowline
