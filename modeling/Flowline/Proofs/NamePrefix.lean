import Flowline.Proofs.Tokens

/-!
# Names before an equals sign

The name before a definition is found in two ways. In a task line one pass keeps the columns of the
word that it has met, up to the equals sign or to something that cannot stand before one. In a
stream the reader takes a word and the blanks behind it, and goes back if no equals sign follows. A
pass over a part of the line comes to the same state as the reader behind that part, so both find
the same names.

* `scanName_of_blanks`, `scanName_of_word`: the pass over blanks and over a word;
* `scanName_at_mark`: the pass where the reader looks for the equals sign;
* `inlineName_eq_readName`: what the pass finds, said by the reader;
* `inlineName_iff_readName`: both find the same names.
-/

namespace Flowline

open Character Input

section Pass

variable {start : Option Nat} {stop first : Nat} {i j : Input} {gap word : List Char} {c : Char}

theorem ne_equals_of_isNameChar (h : isNameChar c = true) : c ≠ '=' := by
  rintro rfl
  exact absurd h (by decide)

theorem ne_equals_of_isBlank (h : isBlank c = true) : c ≠ '=' := by
  rintro rfl
  exact absurd h (by decide)

/-- A pass goes over blanks and keeps what it has found. -/
theorem scanName_of_blanks (h : i.Passes gap j) (hgap : IsBlanks gap) :
    scanName start stop i.offset i.rest = scanName start stop j.offset j.rest := by
  induction gap generalizing i with
  | nil => rw [(Passes.refl i).eq h]
  | cons c gap ih =>
    obtain ⟨k, hc, hpass⟩ := Passes.split (u := [c]) h
    obtain ⟨hblank, hmore⟩ := List.forall_mem_cons.mp hgap
    have hoffset : k.offset = i.offset + 1 := hc.offset
    rw [hc.rest, List.cons_append, List.nil_append, scanName, if_neg (ne_equals_of_isBlank hblank),
      if_pos hblank, ← hoffset]
    exact ih hpass hmore

/-- One more character of a word, or the first one of it. -/
theorem scanName_cons (h : i.Passes [c] j) (hc : isNameChar c = true)
    (hopen : start = none ∨ stop = i.offset) :
    scanName start stop i.offset i.rest =
      scanName (some (start.getD i.offset)) j.offset j.offset j.rest := by
  have hoffset : j.offset = i.offset + 1 := h.offset
  have hsame : ¬ (start.isSome && decide (stop < i.offset)) = true := by
    rcases hopen with rfl | rfl
    · simp
    · simp
  rw [h.rest, List.cons_append, List.nil_append, scanName, if_neg (ne_equals_of_isNameChar hc),
    isBlank_of_isNameChar hc, if_neg (by simp), if_pos hc, if_neg hsame, hoffset]

/-- A pass goes over a word and keeps its columns. -/
theorem scanName_of_word (h : i.Passes word j) (hword : IsWord isNameChar word)
    (hopen : start = none ∨ stop = i.offset) :
    scanName start stop i.offset i.rest =
      scanName (some (start.getD i.offset)) j.offset j.offset j.rest := by
  obtain ⟨hne, hall⟩ := hword
  induction word generalizing i start stop with
  | nil => exact absurd rfl hne
  | cons c word ih =>
    obtain ⟨k, hc, hpass⟩ := Passes.split (u := [c]) h
    obtain ⟨hname, hmore⟩ := List.forall_mem_cons.mp hall
    rw [scanName_cons hc hname hopen]
    by_cases hend : word = []
    · subst hend
      rw [(Passes.refl k).eq hpass]
    · exact ih hpass (.inr rfl) hend hmore

/-- Without a word in front of it an equals sign is no help. -/
theorem scanName_of_stops (hblank : Stops isBlank i.rest) (hname : Stops isNameChar i.rest) :
    scanName none stop i.offset i.rest = none := by
  cases hrest : i.rest with
  | nil => rfl
  | cons c rest =>
    rw [hrest, stops_cons] at hblank hname
    rw [scanName, hblank, hname]
    split
    · rfl
    · simp

/-- Behind a word and blanks, the pass finds a name just if the equals sign comes next: a second
word would have to stand apart from the first one. -/
theorem scanName_at_mark (hblank : Stops isBlank i.rest)
    (hword : Stops isNameChar i.rest ∨ stop < i.offset) :
    scanName (some first) stop i.offset i.rest =
      (i.eat? ['=']).map fun j => (first, stop, j.offset) := by
  cases hrest : i.rest with
  | nil =>
    rw [eat?_of_stops (by rw [hrest]; exact stops_nil)]
    rfl
  | cons c rest =>
    by_cases hc : c = '='
    · subst hc
      have hpass : i.Passes ['='] ⟨i.offset + 1, rest⟩ := ⟨hrest, rfl⟩
      rw [eat?_of_passes hpass, scanName, if_pos rfl]
      rfl
    · have hnone : i.eat? ['='] = none := by
        refine eat?_of_stops ?_
        rw [hrest, stops_cons]
        simpa using hc
      rw [hrest, stops_cons] at hblank hword
      rw [hnone, scanName, if_neg hc, hblank, if_neg (by simp)]
      split
      · next hname =>
        rcases hword with hnot | hlt
        · rw [hname] at hnot
          cases hnot
        · simp [hlt]
      · rfl

end Pass

/-- An input that is left of a text is the text from its column on. -/
theorem Input.StandsIn.eq_ofText {text : List Char} {i : Input} (h : StandsIn text i) :
    i = ofText text i.offset := by
  obtain ⟨before, htext, hoffset⟩ := h
  obtain ⟨offset, rest⟩ := i
  simp only at htext hoffset
  simp [ofText, htext, hoffset]

/-- What the pass over a task line finds is what the reader of streams finds behind the first
blanks. -/
theorem inlineName_eq_readName (line : List Char) :
    Dialect.task.inlineName line =
      (readName (ofText line 0).skipBlanks).1.map fun declared =>
        ⟨declared.text, declared.span.start, declared.span.stop,
          (readName (ofText line 0).skipBlanks).2.offset⟩ := by
  have hstands := (standsIn_ofText line 0).of_reaches (reaches_skipBlanks (ofText line 0))
  have hfirst := stops_skipBlanks (ofText line 0)
  have hlead : scanName none 0 0 line = scanName none 0 (ofText line 0).skipBlanks.offset
      (ofText line 0).skipBlanks.rest := by
    have hpass : scanName none 0 (ofText line 0).offset (ofText line 0).rest = _ :=
      scanName_of_blanks (passes_skipBlanks (ofText line 0)) (isBlanks_word _)
    simpa [ofText] using hpass
  simp only [Dialect.inlineName, Dialect.nameRule, hlead]
  generalize (ofText line 0).skipBlanks = i at hstands hfirst
  have hpass := passes_skipWhile isNameChar i
  have hgap := passes_skipBlanks (i.skipWhile isNameChar)
  by_cases hword : (i.word isNameChar).isEmpty = true
  · -- neither of them finds a word
    have hname : Stops isNameChar i.rest := by
      have hstops := stops_skipWhile isNameChar i
      rw [List.isEmpty_iff.mp hword] at hpass
      rwa [← (Passes.refl i).eq hpass] at hstops
    have hnone : (readName i).1 = none := by
      simp only [readName, hword, if_true]
      split <;> rfl
    rw [scanName_of_stops hfirst hname, hnone]
    rfl
  · -- the reader now stands where the pass has met a word and the blanks behind it
    have hmet : Stops isNameChar (i.skipWhile isNameChar).skipBlanks.rest ∨
        (i.skipWhile isNameChar).offset < (i.skipWhile isNameChar).skipBlanks.offset := by
      by_cases hempty : (i.skipWhile isNameChar).word isBlank = []
      · left
        rw [hempty] at hgap
        rw [← (Passes.refl _).eq hgap]
        exact stops_skipWhile isNameChar i
      · exact .inr (hgap.offset_lt hempty)
    rw [scanName_of_word hpass (isWord_word hword) (.inl rfl),
      scanName_of_blanks hgap (isBlanks_word _), scanName_at_mark (stops_skipBlanks _) hmet]
    simp only [readName, if_neg hword]
    cases (i.skipWhile isNameChar).skipBlanks.eat? ['='] with
    | none => rfl
    | some k =>
      have hslice := (hstands.spells hpass).slice_eq
      simp only [Option.getD_none, Option.map_some] at hslice ⊢
      rw [hslice]

/-- **Both ways to find a name agree.** A task line starts with a name just if the reader of streams
finds one behind the blanks that the line starts with. The name is then the same, with the same
columns, and the body starts where the reader stands behind the equals sign. -/
theorem inlineName_iff_readName (line : List Char) (inline : InlineName) :
    Dialect.task.inlineName line = some inline ↔
      ∃ declared rest, readName (ofText line 0).skipBlanks = (some declared, rest) ∧
        inline.name = declared.text ∧ (⟨inline.start, inline.stop⟩ : Span) = declared.span ∧
        inline.bodyStart = rest.offset ∧ ofText line inline.bodyStart = rest := by
  rw [inlineName_eq_readName]
  have hstart := (standsIn_ofText line 0).of_reaches (reaches_skipBlanks (ofText line 0))
  cases hread : readName (ofText line 0).skipBlanks with
  | mk name rest =>
    have hstands := hstart.of_reaches (readName_spelled hstart hread).2.1
    constructor
    · intro h
      obtain ⟨declared, hdeclared, rfl⟩ := Option.map_eq_some_iff.mp h
      rw [show name = some declared from hdeclared]
      exact ⟨declared, rest, rfl, rfl, rfl, rfl, hstands.eq_ofText.symm⟩
    · rintro ⟨declared, rest', hsome, hname, hspan, hbody, -⟩
      cases hsome
      obtain ⟨name, start, stop, bodyStart⟩ := inline
      simp only at hname hbody
      rw [hname, hbody, Option.map_some, ← hspan]

end Flowline
