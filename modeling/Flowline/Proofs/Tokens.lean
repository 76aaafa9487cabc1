import Flowline.Proofs.Reading

/-!
# Words and blanks

A word is read to its end just if no character of its class follows. So what a reader takes is told
by what it leaves: each of the statements here has one half that says what stands after the part
read, and one that uses it to say that exactly this part is read.

* `IsWord`, `IsBlanks`: the parts that readers take;
* `Stops`: no character of a class comes next;
* `Surrounds`, `surrounds_trim`: a text without the blanks around it;
* `Input.word_of_passes`, `Input.skipWhile_of_passes`, `Input.skipBlanks_of_passes`,
  `Input.eat?_of_passes`: reading a part to its end.
-/

namespace Flowline

open Character

/-! ## Classes of characters -/

theorem mem_range'_of_inIntervals {n : Nat} {table : List (Nat × Nat)}
    (h : inIntervals n table = true) :
    n ∈ table.flatMap fun p => List.range' p.1 (p.2 + 1 - p.1) := by
  induction table with
  | nil => cases h
  | cons p rest ih =>
    obtain ⟨low, high⟩ := p
    rw [inIntervals] at h
    rw [List.flatMap_cons, List.mem_append, List.mem_range'_1]
    split at h
    · cases h
    · split at h
      · left
        simp only
        omega
      · exact .inr (ih h)

theorem isAlphanumeric_of_isBlank {c : Char} (h : isBlank c = true) : isAlphanumeric c = false := by
  -- there are few blanks, so each of them can be looked up
  have hall : ∀ n ∈ blankIntervals.flatMap (fun p => List.range' p.1 (p.2 + 1 - p.1)),
      inIntervals n alphanumericIntervals = false := by
    decide +kernel
  exact hall _ (mem_range'_of_inIntervals h)

/-- A blank is none of the marks of the grammar. -/
theorem beq_of_isBlank {c m : Char} (hm : isBlank m = false) (h : isBlank c = true) :
    (c == m) = false := by
  rw [beq_eq_false_iff_ne]
  rintro rfl
  rw [h] at hm
  cases hm

theorem isDottedChar_of_isBlank {c : Char} (h : isBlank c = true) : isDottedChar c = false := by
  simp only [isDottedChar, isNameChar, isAlphanumeric_of_isBlank h, Bool.false_or]
  rw [beq_of_isBlank (m := '-') (by decide) h, beq_of_isBlank (m := '_') (by decide) h,
    beq_of_isBlank (m := '.') (by decide) h]
  rfl

theorem isNameChar_of_isBlank {c : Char} (h : isBlank c = true) : isNameChar c = false := by
  have hdotted := isDottedChar_of_isBlank h
  rw [isDottedChar, Bool.or_eq_false_iff] at hdotted
  exact hdotted.1

theorem isBlank_of_isNameChar {c : Char} (h : isNameChar c = true) : isBlank c = false := by
  by_contra hblank
  rw [isNameChar_of_isBlank (by simpa using hblank)] at h
  cases h

/-! ## Words, blanks and what follows them -/

/-- Characters of one class, at least one. -/
def IsWord (p : Char → Bool) (word : List Char) : Prop :=
  word ≠ [] ∧ ∀ c ∈ word, p c = true

/-- Any number of blanks. -/
def IsBlanks (gap : List Char) : Prop :=
  ∀ c ∈ gap, isBlank c = true

/-- No character of a class comes next. -/
def Stops (p : Char → Bool) (rest : List Char) : Prop :=
  ∀ c ∈ rest.head?, p c = false

section Stops

variable {p q : Char → Bool} {gap word rest : List Char} {c : Char}

@[simp] theorem stops_nil : Stops p [] := by
  simp [Stops]

@[simp] theorem stops_cons : Stops p (c :: rest) ↔ p c = false := by
  simp [Stops]

theorem exists_cons_of_not_stops (h : ¬ Stops p rest) :
    ∃ c more, rest = c :: more ∧ p c = true := by
  cases rest with
  | nil => exact absurd stops_nil h
  | cons c more => exact ⟨c, more, rfl, by simpa using h⟩

theorem stops_dropWhile (p : Char → Bool) (rest : List Char) : Stops p (rest.dropWhile p) := by
  intro c hc
  have hhead := List.head?_dropWhile_not p rest
  rw [Option.mem_def.mp hc] at hhead
  exact hhead

theorem takeWhile_of_stops (h : Stops p rest) : rest.takeWhile p = [] := by
  cases rest with
  | nil => rfl
  | cons c rest => rw [List.takeWhile_cons, stops_cons.mp h, if_neg (by simp)]

theorem dropWhile_of_stops (h : Stops p rest) : rest.dropWhile p = rest := by
  cases rest with
  | nil => rfl
  | cons c rest => rw [List.dropWhile_cons, stops_cons.mp h, if_neg (by simp)]

theorem isBlanks_nil : IsBlanks [] := by
  simp [IsBlanks]

theorem IsWord.stops_append (h : IsWord q word) (hpq : ∀ c, q c = true → p c = false) :
    Stops p (word ++ rest) := by
  obtain ⟨c, cs, rfl⟩ := List.exists_cons_of_ne_nil h.1
  exact stops_cons.mpr (hpq c (h.2 c List.mem_cons_self))

/-- Blanks end every word that holds no blanks. -/
theorem IsBlanks.stops_append (h : IsBlanks gap) (hp : ∀ c, isBlank c = true → p c = false)
    (hrest : Stops p rest) : Stops p (gap ++ rest) := by
  cases gap with
  | nil => exact hrest
  | cons c cs => exact stops_cons.mpr (hp c (h c List.mem_cons_self))

theorem IsBlanks.stops_append_of_ne_nil (h : IsBlanks gap) (hne : gap ≠ [])
    (hp : ∀ c, isBlank c = true → p c = false) : Stops p (gap ++ rest) := by
  obtain ⟨c, cs, rfl⟩ := List.exists_cons_of_ne_nil hne
  exact stops_cons.mpr (hp c (h c List.mem_cons_self))

theorem IsBlanks.dropWhile_append (h : IsBlanks gap) (hrest : Stops isBlank rest) :
    (gap ++ rest).dropWhile isBlank = rest := by
  rw [List.dropWhile_append_of_pos h, dropWhile_of_stops hrest]

theorem IsBlanks.stops_dropWhile (h : IsBlanks gap) (hblank : isBlank c = false)
    (hp : p c = false) :
    Stops p ((gap ++ c :: rest).dropWhile isBlank) := by
  rw [h.dropWhile_append (stops_cons.mpr hblank)]
  exact stops_cons.mpr hp

theorem IsBlanks.stops (h : IsBlanks gap) (hp : ∀ c, isBlank c = true → p c = false) :
    Stops p gap := by
  have happend : Stops p (gap ++ []) := h.stops_append hp stops_nil
  rwa [List.append_nil] at happend

theorem IsBlanks.dropWhile_eq_nil (h : IsBlanks gap) : gap.dropWhile isBlank = [] := by
  have hnil : Stops isBlank [] := stops_nil
  have hdrop := h.dropWhile_append hnil
  rwa [List.append_nil] at hdrop

end Stops

/-! ## Texts between blanks -/

/-- A text is a word with blanks around it, `lead` being those before it, and the word has none at
its ends. -/
structure Surrounds (lead word text : List Char) : Prop where
  blanks : IsBlanks lead
  first : Stops isBlank word
  last : Stops isBlank word.reverse
  spelled : ∃ trail, IsBlanks trail ∧ text = lead ++ (word ++ trail)

section Surrounds

variable {lead word text : List Char}

theorem exists_trail (text : List Char) :
    ∃ trail, IsBlanks trail ∧ text = trimEnd text ++ trail := by
  refine ⟨(text.reverse.takeWhile isBlank).reverse, ?_, ?_⟩
  · intro c hc
    exact List.mem_takeWhile_imp (List.mem_reverse.mp hc)
  · rw [trimEnd, ← List.reverse_append, List.takeWhile_append_dropWhile, List.reverse_reverse]

theorem surrounds_trim (text : List Char) :
    Surrounds (text.takeWhile isBlank) (trim text) text := by
  obtain ⟨trail, htrail, hend⟩ := exists_trail (trimStart text)
  refine ⟨fun c hc => List.mem_takeWhile_imp hc, ?_, ?_, trail, htrail, ?_⟩
  · have hstops : Stops isBlank (trimStart text) := stops_dropWhile isBlank text
    rw [trim]
    cases hword : trimEnd (trimStart text) with
    | nil => exact stops_nil
    | cons c word =>
      rw [hend, hword] at hstops
      exact hstops
  · rw [trim, trimEnd, List.reverse_reverse]
    exact stops_dropWhile isBlank _
  · rw [trim, ← hend, trimStart, List.takeWhile_append_dropWhile]

theorem Surrounds.trim_eq (h : Surrounds lead word text) : trim text = word := by
  obtain ⟨hlead, hfirst, hlast, trail, htrail, rfl⟩ := h
  have hstart : trimStart (lead ++ (word ++ trail)) = word ++ trail ∨ word = [] := by
    cases word with
    | nil => exact .inr rfl
    | cons c word => exact .inl (hlead.dropWhile_append hfirst)
  rcases hstart with hstart | rfl
  · have hblanks : IsBlanks trail.reverse := fun c hc => htrail c (List.mem_reverse.mp hc)
    rw [trim, hstart, trimEnd, List.reverse_append, hblanks.dropWhile_append hlast,
      List.reverse_reverse]
  · have hblanks : IsBlanks (lead ++ trail) := by
      intro c hc
      rcases List.mem_append.mp hc with hc | hc
      · exact hlead c hc
      · exact htrail c hc
    rw [trim, List.nil_append, trimStart, hblanks.dropWhile_eq_nil]
    rfl

theorem Surrounds.leadingBlanks_eq (h : Surrounds lead word text) (hne : word ≠ []) :
    leadingBlanks text = lead.length := by
  obtain ⟨hlead, hfirst, -, trail, -, rfl⟩ := h
  have hstops : Stops isBlank (word ++ trail) := by
    obtain ⟨c, word, rfl⟩ := List.exists_cons_of_ne_nil hne
    exact hfirst
  rw [leadingBlanks, List.takeWhile_append_of_pos hlead, takeWhile_of_stops hstops, List.append_nil]

end Surrounds

/-! ## Reading a part -/

namespace Input

variable {i j k : Input} {u v token : List Char} {p : Char → Bool}

theorem Passes.refl (i : Input) : i.Passes [] i :=
  ⟨rfl, rfl⟩

/-- What lies ahead can be passed over in two parts. -/
theorem Passes.split (h : i.Passes (u ++ v) j) : ∃ k, i.Passes u k ∧ k.Passes v j := by
  refine ⟨⟨i.offset + u.length, v ++ j.rest⟩, ⟨?_, rfl⟩, rfl, ?_⟩
  · rw [h.rest, List.append_assoc]
  · rw [h.offset, List.length_append, Nat.add_assoc]

theorem Passes.eq_moveTo (h : i.Passes u j) : i.moveTo j.rest = j := by
  obtain ⟨offset, rest⟩ := j
  rw [moveTo, h.rest, List.length_append, Nat.add_sub_cancel, ← h.offset]

theorem Passes.eq (h : i.Passes u j) (h' : i.Passes u k) : j = k := by
  have hrest : j.rest = k.rest := List.append_cancel_left (h.rest.symm.trans h'.rest)
  rw [← h.eq_moveTo, hrest, h'.eq_moveTo]

/-- From a column on, what is left of a text is what stands there. -/
theorem passes_ofText_append (before text : List Char) :
    (ofText (before ++ text) before.length).Passes text ⟨(before ++ text).length, []⟩ := by
  refine ⟨?_, ?_⟩
  · simp [ofText]
  · simp [ofText]

theorem passes_ofText (text : List Char) : (ofText text 0).Passes text ⟨text.length, []⟩ :=
  passes_ofText_append [] text

theorem stops_skipWhile (p : Char → Bool) (i : Input) : Stops p (i.skipWhile p).rest :=
  stops_dropWhile p i.rest

theorem stops_skipBlanks (i : Input) : Stops isBlank i.skipBlanks.rest :=
  stops_skipWhile isBlank i

theorem passes_skipBlanks (i : Input) : i.Passes (i.word isBlank) i.skipBlanks :=
  passes_skipWhile isBlank i

theorem isBlanks_word (i : Input) : IsBlanks (i.word isBlank) :=
  fun _ hc => List.mem_takeWhile_imp hc

theorem isWord_word (h : ¬ (i.word p).isEmpty = true) : IsWord p (i.word p) :=
  ⟨by simpa using h, fun _ hc => List.mem_takeWhile_imp hc⟩

theorem word_of_passes (h : i.Passes u j) (hu : ∀ c ∈ u, p c = true) (hs : Stops p j.rest) :
    i.word p = u := by
  rw [word, h.rest, List.takeWhile_append_of_pos hu, takeWhile_of_stops hs, List.append_nil]

theorem skipWhile_of_passes (h : i.Passes u j) (hu : ∀ c ∈ u, p c = true) (hs : Stops p j.rest) :
    i.skipWhile p = j := by
  have hrest : i.rest.dropWhile p = j.rest := by
    rw [h.rest, List.dropWhile_append_of_pos hu, dropWhile_of_stops hs]
  rw [skipWhile, hrest, h.eq_moveTo]

theorem skipBlanks_of_passes (h : i.Passes u j) (hu : IsBlanks u) (hs : Stops isBlank j.rest) :
    i.skipBlanks = j :=
  skipWhile_of_passes h hu hs

theorem skipBlanks_of_stops (h : Stops isBlank i.rest) : i.skipBlanks = i :=
  skipBlanks_of_passes (Passes.refl i) isBlanks_nil h

theorem startsWith_of_passes (h : i.Passes token j) : i.startsWith token = true := by
  rw [startsWith, h.rest, List.isPrefixOf_iff_prefix]
  exact List.prefix_append _ _

theorem eat?_of_passes (h : i.Passes token j) : i.eat? token = some j := by
  have hs := startsWith_of_passes h
  rw [eat?, if_pos hs, (passes_advance hs).eq h]

/-- A token whose first character does not come next is not there. -/
theorem startsWith_of_stops {c : Char} (h : Stops (· == c) i.rest) :
    i.startsWith (c :: token) = false := by
  rw [startsWith]
  cases hr : i.rest with
  | nil => rfl
  | cons d rest =>
    rw [hr, stops_cons, beq_eq_false_iff_ne] at h
    rw [List.isPrefixOf_cons_cons, beq_eq_false_iff_ne.mpr h.symm, Bool.false_and]

theorem eat?_of_stops {c : Char} (h : Stops (· == c) i.rest) : i.eat? (c :: token) = none := by
  rw [eat?, startsWith_of_stops h, if_neg (by simp)]

/-- A token that is not there, though its first character is. -/
theorem startsWith_of_passes_stops {c d : Char} (h : i.Passes [c] j) (hs : Stops (· == d) j.rest) :
    i.startsWith (c :: d :: token) = false := by
  have hnext : j.startsWith (d :: token) = false := startsWith_of_stops hs
  rw [startsWith, h.rest]
  rw [startsWith] at hnext
  rw [List.cons_append, List.nil_append, List.isPrefixOf_cons_cons, hnext, Bool.and_false]

end Input

end Flowline
