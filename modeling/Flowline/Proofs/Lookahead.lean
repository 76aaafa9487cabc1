import Flowline.Proofs.ErrorPlace

/-!
# How far readers look ahead

A reader goes from left to right and looks only a little further than it has come: one character
past a word, to see that the word ends, and two characters past the blanks after an app, to see
whether another option follows. So two texts with the same beginning are read in the same way as
long as reading does not look past that beginning. Only the search for a closing quote goes on to
the end of the text.

* `Input.SameUpTo`: two inputs with the same characters up to a column;
* `Decided`: what is read from two such inputs is the same, if it shows before that column;
* `thenRead`, `Decided.thenRead`, `Decided.thenOk`: one reader after another;
* `decided_readApp`: how far the readers of apps look ahead.
-/

namespace Flowline

open Character

/-! ## Inputs with the same beginning -/

namespace Input

/-- Two inputs at the same column with the same characters up to column `n`. -/
structure SameUpTo (n : Nat) (i j : Input) : Prop where
  offset : j.offset = i.offset
  rest : ∃ seen after after', i.rest = seen ++ after ∧ j.rest = seen ++ after' ∧
    i.offset + seen.length = n

variable {n : Nat} {i j k : Input} {u : List Char} {p : Char → Bool}

namespace SameUpTo

theorem symm (h : SameUpTo n i j) : SameUpTo n j i := by
  obtain ⟨hoffset, seen, after, after', hi, hj, hn⟩ := h
  exact ⟨hoffset.symm, seen, after', after, hj, hi, by rw [hoffset, hn]⟩

/-- What is passed over in one of the inputs before column `n` is passed over in the other. -/
theorem passes (h : SameUpTo n i j) (hpass : i.Passes u k) (hk : k.offset ≤ n) :
    ∃ l, j.Passes u l ∧ SameUpTo n k l := by
  obtain ⟨hoffset, seen, after, after', hi, hj, hn⟩ := h
  obtain ⟨more, rfl⟩ : u <+: seen := by
    have hu : u <+: i.rest := ⟨k.rest, hpass.rest.symm⟩
    have hseen : seen <+: i.rest := ⟨after, hi.symm⟩
    refine List.prefix_of_prefix_length_le hu hseen ?_
    have := hpass.offset
    omega
  rw [List.append_assoc] at hi hj
  have hk' : k.rest = more ++ after := List.append_cancel_left (hpass.rest.symm.trans hi)
  rw [List.length_append] at hn
  refine ⟨⟨j.offset + u.length, more ++ after'⟩, ⟨hj, rfl⟩, ?_, more, after, after', hk', rfl, ?_⟩
  · rw [hpass.offset, hoffset]
  · rw [hpass.offset, Nat.add_assoc, hn]

theorem ne_nil (h : SameUpTo n i j) (hi : i.offset < n) : i.rest ≠ [] := by
  obtain ⟨-, seen, after, after', hrest, -, hn⟩ := h
  intro hnil
  rw [hnil] at hrest
  rw [(List.append_eq_nil_iff.mp hrest.symm).1, List.length_nil] at hn
  omega

theorem head? (h : SameUpTo n i j) (hi : i.offset < n) : j.rest.head? = i.rest.head? := by
  obtain ⟨-, seen, after, after', hrest, hrest', hn⟩ := h
  rw [hrest, hrest']
  cases seen with
  | nil =>
    rw [List.length_nil] at hn
    omega
  | cons c seen => rfl

theorem stops (h : SameUpTo n i j) (hi : i.offset < n) (hs : Stops p i.rest) : Stops p j.rest := by
  rwa [Stops, h.head? hi]

theorem exists_cons {c : Char} {rest : List Char} (h : SameUpTo n i j) (hi : i.offset < n)
    (hrest : i.rest = c :: rest) : ∃ rest', j.rest = c :: rest' := by
  have hhead := h.head? hi
  rw [hrest, List.head?_cons] at hhead
  exact List.head?_eq_some_iff.mp hhead

theorem skipWhile (h : SameUpTo n i j) (hk : (i.skipWhile p).offset < n) :
    j.word p = i.word p ∧ SameUpTo n (i.skipWhile p) (j.skipWhile p) := by
  obtain ⟨l, hpass, hsame⟩ := h.passes (passes_skipWhile p i) (Nat.le_of_lt hk)
  have hword : ∀ c ∈ i.word p, p c = true := fun _ hc => List.mem_takeWhile_imp hc
  have hstops := hsame.stops hk (stops_skipWhile p i)
  rw [word_of_passes hpass hword hstops, skipWhile_of_passes hpass hword hstops]
  exact ⟨rfl, hsame⟩

theorem skipBlanks (h : SameUpTo n i j) (hk : i.skipBlanks.offset < n) :
    SameUpTo n i.skipBlanks j.skipBlanks :=
  (h.skipWhile hk).2

theorem startsWith (h : SameUpTo n i j) (token : List Char) (hn : i.offset + token.length ≤ n) :
    j.startsWith token = i.startsWith token := by
  have hforth : ∀ {i j : Input}, SameUpTo n i j → i.offset + token.length ≤ n →
      i.startsWith token = true → j.startsWith token = true := by
    intro i j h hn hs
    have hpass := passes_advance hs
    obtain ⟨l, hl, -⟩ := h.passes hpass (by rwa [hpass.offset])
    exact startsWith_of_passes hl
  rw [Bool.eq_iff_iff]
  exact ⟨hforth h.symm (by rwa [h.offset]), hforth h hn⟩

/-- A token that ends before column `n` stands in both inputs or in neither. -/
theorem eat? (h : SameUpTo n i j) (token : List Char) (hn : i.offset + token.length ≤ n) :
    (i.eat? token = none ∧ j.eat? token = none) ∨
      ∃ k l, i.eat? token = some k ∧ j.eat? token = some l ∧ SameUpTo n k l := by
  have hstarts := h.startsWith token hn
  by_cases hs : i.startsWith token = true
  · right
    have hpass := passes_advance hs
    obtain ⟨l, hl, hsame⟩ := h.passes hpass (by rwa [hpass.offset])
    exact ⟨_, l, eat?_of_passes hpass, eat?_of_passes hl, hsame⟩
  · left
    exact ⟨if_neg hs, if_neg (by rwa [hstarts])⟩

end SameUpTo

theorem sameUpTo_ofText {text : List Char} {start : Nat} (hstart : start ≤ n) (hn : n ≤ text.length)
    (more : List Char) : SameUpTo n (ofText text start) (ofText (text.take n ++ more) start) := by
  have hlength : (text.take n).length = n := List.length_take_of_le hn
  refine ⟨?_, (text.take n).drop start, text.drop n, more, ?_, ?_, ?_⟩
  · simp only [ofText, List.length_append, hlength]
    omega
  · simp only [ofText]
    conv_lhs => rw [← List.take_append_drop n text]
    rw [List.drop_append_of_le_length (by omega)]
  · simp only [ofText]
    rw [List.drop_append_of_le_length (by omega)]
  · simp only [ofText, List.length_drop, hlength]
    omega

/-- Past a word, one character is looked at. -/
def near (i : Input) : Nat :=
  i.offset + 1

/-- Past an app, two characters are looked at after the blanks. -/
def far (i : Input) : Nat :=
  i.skipBlanks.offset + 2

theorem near_lt_far (i : Input) : i.near < i.far := by
  have := (reaches_skipBlanks i).offset_le
  rw [near, far]
  omega

theorem Reaches.near_le (h : i.Reaches j) : i.near ≤ j.near :=
  Nat.succ_le_succ h.offset_le

/-- Going forward does not bring one before the blanks that come first. -/
theorem Reaches.far_le (h : i.Reaches j) : i.far ≤ j.far := by
  obtain ⟨u, hpass⟩ := h
  rw [far, far]
  by_cases hu : IsBlanks u
  · rw [skipBlanks_eq_of_passes hpass hu]
  · have hword : (i.word isBlank).length ≤ u.length := by
      rw [word, hpass.rest, List.takeWhile_append]
      split
      · next hall =>
        refine absurd (fun c hc => ?_) hu
        rw [← (List.takeWhile_prefix isBlank).eq_of_length hall] at hc
        exact List.mem_takeWhile_imp hc
      · exact (List.takeWhile_prefix _).length_le
    have hblanks := (passes_skipBlanks i).offset
    have := (reaches_skipBlanks j).offset_le
    have := hpass.offset
    omega

/-- Where a mark comes next, no blanks come first. -/
theorem far_of_passes {c : Char} (h : i.Passes [c] j) (hc : isBlank c = false) :
    i.far = j.near := by
  have hstops : Stops isBlank i.rest := by
    rw [h.rest]
    exact stops_cons.mpr hc
  rw [far, near, skipBlanks_of_stops hstops, h.offset, List.length_singleton]

end Input

open Input

/-! ## Readings that are decided -/

/-- `r'` is the same as `r`, if `r` shows in the characters before column `n`: an error in the two
at its column, and the input after what has been read up to the column that `look` gives. -/
def Decided {α : Type} (n : Nat) (look : Input → Nat) : Reading α → Reading α → Prop
  | .ok (a, k), r' => look k ≤ n → ∃ l, r' = .ok (a, l) ∧ SameUpTo n k l
  | .error e, r' => e.position + 2 ≤ n → e.cause ≠ .unterminatedQuote → r' = .error e

/-- The column up to which a reader has looked. -/
def lookedUpTo {α : Type} (look : Input → Nat) : Reading α → Nat
  | .ok (_, k) => look k
  | .error e => e.position + 2

/-- Goes on reading after what has been read. -/
def thenRead {α β : Type} (r : Reading α) (f : α → Input → Except SyntaxError β) :
    Except SyntaxError β :=
  match r with
  | .error e => .error e
  | .ok (a, i) => f a i

section Decided

variable {α β : Type} {n o : Nat} {look look' : Input → Nat} {i : Input} {r r' : Reading α}
  {f f' : α → Input → Reading β} {g g' : α → Input → β}

/-- What a reader looks at in any case may be taken to stand before column `n`. -/
theorem Decided.of_le (ho : o ≤ lookedUpTo look r) (h : o ≤ n → Decided n look r r') :
    Decided n look r r' := by
  match r with
  | .ok (a, k) => exact fun hk => h (ho.trans hk) hk
  | .error e => exact fun he => h (ho.trans he) he

/-- Reading goes on in the same way, since what is read later needs a look further ahead. -/
theorem Decided.thenRead (h : Decided n look r r')
    (hlook : ∀ a k, r = .ok (a, k) → look k ≤ lookedUpTo look' (f a k))
    (hf : ∀ a k l, r = .ok (a, k) → look k ≤ n → SameUpTo n k l →
      Decided n look' (f a k) (f' a l)) :
    Decided n look' (thenRead r f) (thenRead r' f') := by
  match r with
  | .error e =>
    intro hposition hcause
    rw [h hposition hcause]
    rfl
  | .ok (a, k) =>
    refine .of_le (hlook a k rfl) fun hk => ?_
    obtain ⟨l, rfl, hsame⟩ := h hk
    exact hf a k l rfl hk hsame

/-- What has been read may be put together in the end. -/
theorem Decided.thenOk (h : Decided n look r r') (hlook : ∀ k, look k ≤ look' k)
    (hg : ∀ a k l, SameUpTo n k l → g a k = g' a l) :
    Decided n look' (Flowline.thenRead r fun a k => .ok (g a k, k))
      (Flowline.thenRead r' fun a k => .ok (g' a k, k)) := by
  refine h.thenRead (fun _ k _ => hlook k) fun a k l _ _ hsame _ => ⟨l, ?_, hsame⟩
  rw [hg a k l hsame]

theorem le_lookedUpTo_thenRead (h : o ≤ lookedUpTo look r)
    (hlook : ∀ a k, r = .ok (a, k) → look k ≤ lookedUpTo look' (f a k)) :
    o ≤ lookedUpTo look' (Flowline.thenRead r f) := by
  match r with
  | .error e => exact h
  | .ok (a, k) => exact h.trans (hlook a k rfl)

theorem le_lookedUpTo_thenOk (h : o ≤ lookedUpTo look r) (hlook : ∀ k, look k ≤ look' k) :
    o ≤ lookedUpTo look' (Flowline.thenRead r fun a k => .ok (g a k, k)) :=
  le_lookedUpTo_thenRead h fun _ k _ => hlook k

/-- A reader looks at least at the next character. -/
theorem near_le_lookedUpTo (hlook : ∀ k, k.near ≤ look k)
    (hok : ∀ a k, r = .ok (a, k) → i.Reaches k)
    (herror : ∀ e, r = .error e → i.offset ≤ e.position) : i.near ≤ lookedUpTo look r := by
  match r with
  | .ok (a, k) => exact (hok a k rfl).near_le.trans (hlook k)
  | .error e =>
    have := herror e rfl
    rw [near, lookedUpTo]
    omega

end Decided

/-! ## Words, marks and values -/

/-- Reads a word of one class of characters. -/
def readWord (p : Char → Bool) (cause : SyntaxError.Cause) (i : Input) : Reading (List Char) :=
  if (i.word p).isEmpty then .error ⟨i.offset, cause⟩ else .ok (i.word p, i.skipWhile p)

/-- Reads a mark. -/
def readMark (mark : Char) (i : Input) : Reading Unit :=
  match i.eat? [mark] with
  | none => .error ⟨i.offset, .expectedCharacter mark⟩
  | some j => .ok ((), j)

section Words

variable {n : Nat} {i j : Input} {p : Char → Bool} {cause : SyntaxError.Cause}

theorem skipWhile_of_isEmpty (h : (i.word p).isEmpty = true) : i.skipWhile p = i := by
  have hpass := passes_skipWhile p i
  rw [List.isEmpty_iff.mp h] at hpass
  exact hpass.eq (Passes.refl i)

theorem decided_readWord (h : SameUpTo n i j) :
    Decided n near (readWord p cause i) (readWord p cause j) := by
  by_cases hempty : (i.word p).isEmpty = true
  · rw [readWord, if_pos hempty]
    intro hposition _
    have hi : (i.skipWhile p).offset < n := by
      rw [skipWhile_of_isEmpty hempty]
      exact Nat.lt_of_succ_lt hposition
    rw [readWord, (h.skipWhile hi).1, if_pos hempty, h.offset]
  · rw [readWord, if_neg hempty]
    intro hk
    obtain ⟨hword, hsame⟩ := h.skipWhile (p := p) hk
    exact ⟨_, by rw [readWord, hword, if_neg hempty], hsame⟩

theorem near_le_readWord (p : Char → Bool) (cause : SyntaxError.Cause) (i : Input) :
    i.near ≤ lookedUpTo near (readWord p cause i) := by
  rw [readWord]
  split
  · exact Nat.le_succ _
  · exact (passes_skipWhile p i).reaches.near_le

theorem near_le_readMark (mark : Char) (i : Input) :
    i.near ≤ lookedUpTo near (readMark mark i) := by
  rw [readMark]
  split
  · exact Nat.le_succ _
  · next hj => exact (passes_of_eat? hj).reaches.near_le

theorem decided_readMark (mark : Char) (h : SameUpTo n i j) :
    Decided n near (readMark mark i) (readMark mark j) := by
  refine .of_le (near_le_readMark mark i) fun hn => ?_
  rcases h.eat? [mark] hn with ⟨hi, hj⟩ | ⟨k, l, hi, hj, hsame⟩
  · rw [readMark, readMark, hi, hj, h.offset]
    exact fun _ _ => rfl
  · rw [readMark, readMark, hi, hj]
    exact fun _ => ⟨l, rfl, hsame⟩

end Words

section Values

variable {g : Grammar} {n : Nat} {i j : Input} {option : String}

theorem stops_of_closeQuote {quote : Char} {cs value after : List Char}
    (h : closeQuote quote cs = some (value, after)) : Stops (· == quote) after := by
  fun_induction closeQuote quote cs generalizing value after with
  | case1 => cases h
  | case2 =>
    cases h
    exact stops_nil
  | case3 more ih =>
    obtain ⟨⟨v, a⟩, ha, he⟩ := Option.map_eq_some_iff.mp h
    cases he
    exact ih ha
  | case4 d more hd =>
    cases h
    exact stops_cons.mpr (beq_eq_false_iff_ne.mpr hd)
  | case5 c rest hc ih =>
    obtain ⟨⟨v, a⟩, ha, he⟩ := Option.map_eq_some_iff.mp h
    cases he
    exact ih ha

theorem readOptionValue_eq_thenRead (h : Stops isQuote i.rest) :
    readOptionValue g option i =
      thenRead (readWord (fun c => !g.endsValue c) (.missingOptionValue option) i)
        fun value j => .ok (String.ofList value, j) := by
  rw [readOptionValue_of_stops h, readWord]
  split <;> rfl

theorem near_le_readOptionValue (g : Grammar) (option : String) (i : Input) :
    i.near ≤ lookedUpTo near (readOptionValue g option i) :=
  near_le_lookedUpTo (fun _ => Nat.le_refl _) (fun _ _ h => reaches_of_readOptionValue h)
    fun _ h => (breaksOff_of_readOptionValue h).offset_le

theorem decided_readOptionValue (h : SameUpTo n i j) :
    Decided n near (readOptionValue g option i) (readOptionValue g option j) := by
  refine .of_le (near_le_readOptionValue g option i) fun hn => ?_
  by_cases hquote : Stops isQuote i.rest
  · rw [readOptionValue_eq_thenRead hquote, readOptionValue_eq_thenRead (h.stops hn hquote)]
    exact (decided_readWord h).thenOk (fun _ => Nat.le_refl _) fun _ _ _ _ => rfl
  · obtain ⟨quote, rest, hrest, hq⟩ := exists_cons_of_not_stops hquote
    rw [readOptionValue_of_quote hq hrest]
    cases hclose : closeQuote quote rest with
    | none => exact fun _ hcause => absurd rfl hcause
    | some result =>
      obtain ⟨value, after⟩ := result
      -- the quote is closed just if no second one follows it, and this shows in the next character
      intro hk
      have hpass : i.Passes (quote :: (doubled quote value ++ [quote])) (i.moveTo after) := by
        refine passes_moveTo ?_
        rw [hrest, eq_doubled_of_closeQuote hclose]
        simp
      obtain ⟨l, hl, hsame⟩ := h.passes hpass (Nat.le_of_lt hk)
      have hstops := hsame.stops hk (stops_of_closeQuote hclose)
      have hrest' : j.rest = quote :: (doubled quote value ++ quote :: l.rest) := by
        rw [hl.rest]
        simp
      refine ⟨l, ?_, hsame⟩
      rw [readOptionValue_of_quote hq hrest', closeQuote_doubled value hstops]
      simp only [hl.eq_moveTo]

end Values

/-! ## Apps -/

section Apps

variable {g : Grammar} {n : Nat} {i j : Input}

theorem readArgument_eq_thenRead (g : Grammar) (i : Input) :
    readArgument g i =
      thenRead (readWord isDottedChar .expectedOptionName (i.advance 2)) fun name k =>
        thenRead (readMark '=' k) fun _ l =>
          thenRead (readOptionValue g (String.ofList name) l) fun value m =>
            .ok (⟨String.ofList name, value, ⟨i.offset, m.offset⟩⟩, m) := by
  simp only [readArgument, readWord]
  split
  · next hempty =>
    rw [skipWhile_of_isEmpty hempty]
    rfl
  · rw [thenRead, readMark]
    cases ((i.advance 2).skipWhile isDottedChar).eat? ['='] with
    | none => rfl
    | some l =>
      simp only [thenRead]
      cases readOptionValue g (String.ofList ((i.advance 2).word isDottedChar)) l <;> rfl

theorem decided_readArgument (h : SameUpTo n i j) (hs : i.startsWith ['-', '-'] = true)
    (hn : i.offset + 2 ≤ n) : Decided n near (readArgument g i) (readArgument g j) := by
  have hstart : SameUpTo n (i.advance 2) (j.advance 2) := by
    have hpass : i.Passes ['-', '-'] (i.advance 2) := passes_advance hs
    obtain ⟨l, hl, hsame⟩ := h.passes hpass (by rw [hpass.offset]; exact hn)
    have hadvance : j.Passes ['-', '-'] (j.advance 2) := passes_advance (startsWith_of_passes hl)
    rwa [hadvance.eq hl]
  rw [readArgument_eq_thenRead, readArgument_eq_thenRead]
  refine (decided_readWord hstart).thenRead ?_ fun name k k' _ _ hsame => ?_
  · intro name k _
    refine le_lookedUpTo_thenRead (near_le_readMark '=' k) fun _ l _ => ?_
    exact le_lookedUpTo_thenOk (near_le_readOptionValue g _ l) fun _ => Nat.le_refl _
  · refine (decided_readMark '=' hsame).thenRead ?_ fun _ l l' _ _ hsame' => ?_
    · intro _ l _
      exact le_lookedUpTo_thenOk (near_le_readOptionValue g _ l) fun _ => Nat.le_refl _
    · refine (decided_readOptionValue hsame').thenOk (fun _ => Nat.le_refl _) ?_
      intro value m m' hsame''
      rw [h.offset, hsame''.offset]

theorem readArguments_eq_thenRead (g : Grammar) (i : Input) :
    readArguments g i =
      if i.skipBlanks.startsWith ['-', '-'] then
        thenRead (readArgument g i.skipBlanks) fun argument j =>
          thenRead (readArguments g j) fun arguments k => .ok (argument :: arguments, k)
      else .ok ([], i) := by
  by_cases hs : i.skipBlanks.startsWith ['-', '-'] = true
  · rw [readArguments, dif_pos hs, if_pos hs]
    split
    · next herror => rw [herror, thenRead]
    · next argument j hok =>
      simp only [hok, thenRead]
      cases readArguments g j <;> rfl
  · rw [readArguments, dif_neg hs, if_neg hs]

theorem far_le_readArguments (g : Grammar) (i : Input) :
    i.far ≤ lookedUpTo far (readArguments g i) := by
  cases hread : readArguments g i with
  | error e => exact Nat.add_le_add_right (breaksOff_of_readArguments .quoted trivial hread).2 2
  | ok result =>
    obtain ⟨last, text, -, hpass, -⟩ := written_of_readArguments (e := .quoted) trivial hread
    exact hpass.reaches.far_le

theorem decided_readArguments (h : SameUpTo n i j) :
    Decided n far (readArguments g i) (readArguments g j) := by
  induction hlength : i.rest.length using Nat.strongRecOn generalizing i j with
  | ind length ih =>
    refine .of_le (far_le_readArguments g i) fun hn => ?_
    have hskip := h.skipBlanks (Nat.lt_of_succ_lt hn)
    rw [readArguments_eq_thenRead g i, readArguments_eq_thenRead g j,
      hskip.startsWith ['-', '-'] hn]
    split
    · next hs =>
      refine (decided_readArgument hskip hs hn).thenRead ?_ fun o k k' hk _ hsame => ?_
      · intro o k _
        have hnear := (near_lt_far k).le.trans (far_le_readArguments g k)
        exact le_lookedUpTo_thenOk hnear fun _ => Nat.le_refl _
      · have hlt := readArgument_skipBlanks_length_lt hs hk
        exact (ih _ (hlength ▸ hlt) hsame rfl).thenOk (fun _ => Nat.le_refl _) fun _ _ _ _ => rfl
    · exact fun _ => ⟨j, rfl, h⟩

theorem readAppName_eq_thenRead (i : Input) :
    readAppName i =
      thenRead (readWord isNameChar .expectedAppName i) fun first j =>
        match j.eat? [':'] with
        | none => .ok ((none, String.ofList first, ⟨i.offset, j.offset⟩), j)
        | some k =>
          thenRead (readWord isNameChar .expectedAppName k) fun name l =>
            .ok ((some (String.ofList first), String.ofList name, ⟨k.offset, l.offset⟩), l) := by
  simp only [readAppName, readWord]
  split
  · rfl
  · rw [thenRead]
    cases (i.skipWhile isNameChar).eat? [':'] with
    | none => rfl
    | some k =>
      simp only
      split <;> rfl

theorem decided_readAppName (h : SameUpTo n i j) :
    Decided n near (readAppName i) (readAppName j) := by
  rw [readAppName_eq_thenRead, readAppName_eq_thenRead]
  refine (decided_readWord h).thenRead ?_ fun first k k' _ hn hsame => ?_
  · intro first k _
    split
    · exact Nat.le_refl _
    · next l hl =>
      have hnear := (passes_of_eat? hl).reaches.near_le
      exact le_lookedUpTo_thenOk (hnear.trans (near_le_readWord _ _ l)) fun _ => Nat.le_refl _
  · rcases hsame.eat? [':'] hn with ⟨hk, hk'⟩ | ⟨l, l', hk, hk', hsame'⟩
    · rw [hk, hk', h.offset, hsame.offset]
      exact fun _ => ⟨k', rfl, hsame⟩
    · rw [hk, hk']
      refine (decided_readWord hsame').thenOk (fun _ => Nat.le_refl _) ?_
      intro name m m' hsame''
      rw [hsame'.offset, hsame''.offset]

/-- Past the first word of an app, the app goes on behind the blanks. -/
theorem far_le_readAppName (hword : ¬ (i.word isNameChar).isEmpty = true) :
    (i.skipWhile isNameChar).far ≤ lookedUpTo far (readAppName i) := by
  rw [readAppName_eq_thenRead, readWord, if_neg hword, thenRead]
  split
  · exact Nat.le_refl _
  · next k hk =>
    rw [far_of_passes (passes_of_eat? hk) (by decide)]
    exact le_lookedUpTo_thenOk (near_le_readWord _ _ k) fun l => (near_lt_far l).le

theorem readApp_eq_thenRead (g : Grammar) (i : Input) :
    readApp g i =
      thenRead (readAppName i) fun (label, name, nameSpan) j =>
        thenRead (readArguments g j) fun arguments k =>
          let stop := (arguments.getLast?.map (·.span.stop)).getD nameSpan.stop
          .ok (⟨label, name, nameSpan, arguments, ⟨i.offset, stop⟩⟩, k) := by
  rw [readApp]
  cases readAppName i with
  | error e => rfl
  | ok result =>
    simp only [thenRead]
    cases readArguments g result.2 <;> rfl

theorem decided_readApp (h : SameUpTo n i j) : Decided n far (readApp g i) (readApp g j) := by
  rw [readApp_eq_thenRead, readApp_eq_thenRead]
  refine (decided_readAppName h).thenRead ?_ fun (label, name, nameSpan) k k' _ _ hsame => ?_
  · intro _ k _
    have hnear := (near_lt_far k).le.trans (far_le_readArguments g k)
    exact le_lookedUpTo_thenOk hnear fun _ => Nat.le_refl _
  · refine (decided_readArguments hsame).thenOk (fun _ => Nat.le_refl _) ?_
    intro arguments l l' hsame'
    rw [h.offset]

theorem far_le_readApp (hword : ¬ (i.word isNameChar).isEmpty = true) :
    (i.skipWhile isNameChar).far ≤ lookedUpTo far (readApp g i) := by
  rw [readApp_eq_thenRead]
  refine le_lookedUpTo_thenRead (far_le_readAppName hword) fun _ k _ => ?_
  exact le_lookedUpTo_thenOk (far_le_readArguments g k) fun _ => Nat.le_refl _

end Apps

end Flowline
