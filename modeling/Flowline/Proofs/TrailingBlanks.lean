import Flowline.Proofs.ErrorColumn

/-!
# Blanks at the end of a line

No reader takes the blanks behind the last word of a line, so a definition is read in the same way
without them. As long as the reader has not come to these blanks, the two inputs differ only in
them. Once it has skipped them there is nothing left to read on either side, though the two inputs
stand at different columns.

* `Input.Trimmed`, `Input.EndsAlike`: an input without blanks at its end, before and behind the last
  word;
* `ReadsAlike`, `ReadsAlike.thenRead`: what is read with those blanks is read without them;
* `readApp_trimmed`, `readStreamBody_trimmed`, `readFlows_trimmed`: reading without them.
-/

namespace Flowline

open Character Input

/-! ## Inputs without blanks at their end -/

/-- The last character, if there is one, is not a blank. -/
def endsSolid (word : List Char) : Bool :=
  word.getLast?.all fun c => !isBlank c

theorem endsSolid_of_forall {p : Char → Bool} {word : List Char}
    (hp : ∀ c, p c = true → isBlank c = false) (h : ∀ c ∈ word, p c = true) :
    endsSolid word = true := by
  rw [endsSolid, Option.all_eq_true]
  intro c hc
  rw [hp c (h c (List.mem_of_getLast? hc))]
  rfl

namespace Input

/-- `j` is the input `i` without some blanks at its end. -/
structure Trimmed (i j : Input) : Prop where
  offset : j.offset = i.offset
  rest : ∃ trail, IsBlanks trail ∧ i.rest = j.rest ++ trail

/-- `j` is the input `i` without some blanks at its end, or nothing is left in both. -/
def EndsAlike (i j : Input) : Prop :=
  Trimmed i j ∨ i.rest = [] ∧ j.rest = []

variable {i j k : Input} {u token : List Char} {p : Char → Bool}

namespace Trimmed

/-- What is passed over is there without the blanks, unless it goes on into them. -/
theorem passes_or (h : Trimmed i j) (hpass : i.Passes u k) :
    (∃ l, j.Passes u l ∧ Trimmed k l) ∨ endsSolid u = false ∧ IsBlanks k.rest := by
  obtain ⟨hoffset, trail, htrail, hrest⟩ := h
  rcases List.append_eq_append_iff.mp (hpass.rest.symm.trans hrest) with
    ⟨more, hj, hk⟩ | ⟨extra, hu, hextra⟩
  · left
    refine ⟨⟨j.offset + u.length, more⟩, ⟨hj, rfl⟩, ?_, trail, htrail, hk⟩
    rw [hpass.offset, hoffset]
  · cases hlast : extra.getLast? with
    | none =>
      left
      rw [List.getLast?_eq_none_iff] at hlast
      subst hlast
      rw [List.append_nil] at hu
      subst hu
      refine ⟨⟨j.offset + j.rest.length, []⟩, ⟨(List.append_nil _).symm, rfl⟩, ?_,
        trail, htrail, ?_⟩
      · rw [hpass.offset, hoffset]
      · exact hextra.symm
    | some c =>
      right
      have hblank : isBlank c = true := by
        refine htrail c ?_
        rw [hextra]
        exact List.mem_append_left _ (List.mem_of_getLast? hlast)
      constructor
      · rw [endsSolid, hu, List.getLast?_append, hlast, Option.some_or, Option.all_some, hblank]
        rfl
      · intro d hd
        refine htrail d ?_
        rw [hextra]
        exact List.mem_append_right _ hd

theorem passes (h : Trimmed i j) (hpass : i.Passes u k) (hu : endsSolid u = true) :
    ∃ l, j.Passes u l ∧ Trimmed k l := by
  rcases h.passes_or hpass with hl | ⟨hextra, -⟩
  · exact hl
  · rw [hu] at hextra
    cases hextra

theorem stops (h : Trimmed i j) (hs : Stops p i.rest) : Stops p j.rest := by
  obtain ⟨-, trail, -, hrest⟩ := h
  cases hj : j.rest with
  | nil => exact stops_nil
  | cons c rest =>
    rw [hrest, hj] at hs
    exact hs

theorem skipWhile (h : Trimmed i j) (hp : ∀ c, p c = true → isBlank c = false) :
    j.word p = i.word p ∧ Trimmed (i.skipWhile p) (j.skipWhile p) := by
  have hword : ∀ c ∈ i.word p, p c = true := fun _ hc => List.mem_takeWhile_imp hc
  obtain ⟨l, hl, htrimmed⟩ := h.passes (passes_skipWhile p i) (endsSolid_of_forall hp hword)
  have hstops := htrimmed.stops (stops_skipWhile p i)
  rw [word_of_passes hl hword hstops, skipWhile_of_passes hl hword hstops]
  exact ⟨rfl, htrimmed⟩

theorem isBlanks (h : Trimmed i j) (hi : IsBlanks i.rest) : IsBlanks j.rest := by
  obtain ⟨-, trail, -, hrest⟩ := h
  intro c hc
  refine hi c ?_
  rw [hrest]
  exact List.mem_append_left _ hc

/-- Behind the blanks, the two inputs are alike. -/
theorem skipBlanks (h : Trimmed i j) : EndsAlike i.skipBlanks j.skipBlanks := by
  by_cases hend : i.skipBlanks.rest = []
  · right
    exact ⟨hend, (h.isBlanks (isBlanks_of_skipBlanks hend)).dropWhile_eq_nil⟩
  · left
    rcases h.passes_or (passes_skipBlanks i) with ⟨l, hl, htrimmed⟩ | ⟨-, hblanks⟩
    · have hstops := htrimmed.stops (stops_skipBlanks i)
      rwa [skipBlanks_of_passes hl (isBlanks_word i) hstops]
    · -- what stands behind the blanks is not a blank
      refine absurd ?_ hend
      rw [← dropWhile_of_stops (stops_skipBlanks i)]
      exact hblanks.dropWhile_eq_nil

end Trimmed

namespace EndsAlike

theorem trimmed (h : EndsAlike i j) (hne : i.rest ≠ []) : Trimmed i j := by
  rcases h with h | ⟨hnil, -⟩
  · exact h
  · exact absurd hnil hne

theorem skipBlanks (h : EndsAlike i j) : EndsAlike i.skipBlanks j.skipBlanks := by
  rcases h with h | ⟨hi, hj⟩
  · exact h.skipBlanks
  · right
    constructor
    · exact IsBlanks.dropWhile_eq_nil (by rw [hi]; exact isBlanks_nil)
    · exact IsBlanks.dropWhile_eq_nil (by rw [hj]; exact isBlanks_nil)

theorem rest_eq_nil (h : EndsAlike i j) (hi : i.rest = []) : j.rest = [] := by
  rcases h with ⟨-, trail, -, hrest⟩ | ⟨-, hj⟩
  · rw [hi] at hrest
    exact (List.append_eq_nil_iff.mp hrest.symm).1
  · exact hj

/-- A token stands in both inputs or in neither. -/
theorem eat? (h : EndsAlike i j) (hne : token ≠ []) (hsolid : endsSolid token = true) :
    (i.eat? token = none ∧ j.eat? token = none) ∨
      ∃ k l, i.eat? token = some k ∧ j.eat? token = some l ∧ Trimmed k l := by
  have hnil : ∀ {i : Input}, i.rest = [] → i.eat? token = none := by
    intro i hi
    obtain ⟨c, token, rfl⟩ := List.exists_cons_of_ne_nil hne
    refine eat?_of_stops ?_
    rw [hi]
    exact stops_nil
  rcases h with h | ⟨hi, hj⟩
  · cases hk : i.eat? token with
    | some k =>
      right
      obtain ⟨l, hl, htrimmed⟩ := h.passes (passes_of_eat? hk) hsolid
      exact ⟨k, l, rfl, eat?_of_passes hl, htrimmed⟩
    | none =>
      left
      refine ⟨rfl, ?_⟩
      cases hl : j.eat? token with
      | none => rfl
      | some l =>
        obtain ⟨-, trail, -, hrest⟩ := h
        have hpass : i.Passes token ⟨i.offset + token.length, l.rest ++ trail⟩ := by
          refine ⟨?_, rfl⟩
          rw [hrest, (passes_of_eat? hl).rest, List.append_assoc]
        rw [eat?_of_passes hpass] at hk
        cases hk
  · exact .inl ⟨hnil hi, hnil hj⟩

theorem startsWith (h : EndsAlike i j) (hne : token ≠ []) (hsolid : endsSolid token = true) :
    j.startsWith token = i.startsWith token := by
  have hstarts : ∀ i : Input, i.startsWith token = (i.eat? token).isSome := by
    intro i
    rw [Input.eat?]
    cases i.startsWith token <;> rfl
  rw [hstarts, hstarts]
  rcases h.eat? hne hsolid with ⟨hi, hj⟩ | ⟨k, l, hi, hj, -⟩
  · rw [hi, hj]
  · rw [hi, hj]
    rfl

/-- Where a token stands, the blanks at the end have not been reached. -/
theorem trimmed_of_startsWith (h : EndsAlike i j) (hne : token ≠ [])
    (hs : i.startsWith token = true) : Trimmed i j := by
  refine h.trimmed ?_
  intro hnil
  rw [(passes_advance hs).rest] at hnil
  exact hne (List.append_eq_nil_iff.mp hnil).1

end EndsAlike

end Input

/-! ## Reading without the blanks at the end -/

/-- What is read from one input is read from the other, and `R` holds of the inputs that are
left. -/
def ReadsAlike {α : Type} (R : Input → Input → Prop) (r r' : Reading α) : Prop :=
  ∀ a k, r = .ok (a, k) → ∃ l, r' = .ok (a, l) ∧ R k l

section ReadsAlike

variable {α β : Type} {R R' : Input → Input → Prop} {r r' : Reading α}
  {f f' : α → Input → Reading β}
  {g g' : α → Input → β}

theorem ReadsAlike.ok {a : α} {k l : Input} (h : R k l) :
    ReadsAlike R (.ok (a, k)) (.ok (a, l)) := by
  rintro _ _ ⟨⟩
  exact ⟨l, rfl, h⟩

theorem ReadsAlike.of_error {e : SyntaxError} : ReadsAlike R (.error e) r' := by
  rintro _ _ ⟨⟩

theorem ReadsAlike.thenRead (h : ReadsAlike R r r')
    (hf : ∀ a k l, r = .ok (a, k) → R k l → ReadsAlike R' (f a k) (f' a l)) :
    ReadsAlike R' (thenRead r f) (thenRead r' f') := by
  match r with
  | .error e => exact .of_error
  | .ok (a, k) =>
    obtain ⟨l, rfl, hl⟩ := h a k rfl
    exact hf a k l rfl hl

/-- What has been read may be put together in the end. -/
theorem ReadsAlike.thenOk (h : ReadsAlike R r r') (hR : ∀ k l, R k l → R' k l)
    (hg : ∀ a k l, R k l → g a k = g' a l) :
    ReadsAlike R' (Flowline.thenRead r fun a k => .ok (g a k, k))
      (Flowline.thenRead r' fun a k => .ok (g' a k, k)) := by
  refine h.thenRead fun a k l _ hl => ?_
  rw [hg a k l hl]
  exact .ok (hR k l hl)

end ReadsAlike

section Words

variable {i j : Input} {p : Char → Bool} {cause : SyntaxError.Cause}

theorem readWord_trimmed (hp : ∀ c, p c = true → isBlank c = false) (h : Trimmed i j) :
    ReadsAlike Trimmed (readWord p cause i) (readWord p cause j) := by
  obtain ⟨hword, htrimmed⟩ := h.skipWhile hp
  rw [readWord, readWord, hword]
  split
  · exact .of_error
  · exact .ok htrimmed

theorem readMark_endsAlike {mark : Char} (hmark : isBlank mark = false) (h : EndsAlike i j) :
    ReadsAlike Trimmed (readMark mark i) (readMark mark j) := by
  have hsolid : endsSolid [mark] = true := by simp [endsSolid, hmark]
  rw [readMark, readMark]
  rcases h.eat? (List.cons_ne_nil _ _) hsolid with ⟨hi, hj⟩ | ⟨k, l, hi, hj, htrimmed⟩
  · rw [hi]
    exact .of_error
  · rw [hi, hj]
    exact .ok htrimmed

theorem isBlank_of_isDottedChar {c : Char} (h : isDottedChar c = true) : isBlank c = false := by
  by_contra hblank
  rw [isDottedChar_of_isBlank (by simpa using hblank)] at h
  cases h

theorem isBlank_of_not_endsValue {g : Grammar} {c : Char} (h : (!g.endsValue c) = true) :
    isBlank c = false := by
  by_contra hblank
  rw [Grammar.endsValue_iff.mpr (.inl (by simpa using hblank))] at h
  cases h

theorem isBlank_of_isQuote {c : Char} (h : isQuote c = true) : isBlank c = false := by
  by_contra hblank
  have hmark := not_mark_of_isBlank (c := c) (by simpa using hblank)
  rw [h] at hmark
  cases hmark

theorem readOptionValue_trimmed (g : Grammar) (option : String) (h : Trimmed i j) :
    ReadsAlike Trimmed (readOptionValue g option i) (readOptionValue g option j) := by
  by_cases hquote : Stops isQuote i.rest
  · rw [readOptionValue_eq_thenRead hquote, readOptionValue_eq_thenRead (h.stops hquote)]
    exact (readWord_trimmed (fun _ => isBlank_of_not_endsValue) h).thenOk (fun _ _ h => h)
      fun _ _ _ _ => rfl
  · obtain ⟨quote, rest, hrest, hq⟩ := exists_cons_of_not_stops hquote
    rw [readOptionValue_of_quote hq hrest]
    cases hclose : closeQuote quote rest with
    | none => exact .of_error
    | some result =>
      obtain ⟨value, after⟩ := result
      have hpass : i.Passes (quote :: doubled quote value ++ [quote]) (i.moveTo after) := by
        refine passes_moveTo ?_
        rw [hrest, eq_doubled_of_closeQuote hclose]
        simp
      have hsolid : endsSolid (quote :: doubled quote value ++ [quote]) = true := by
        rw [endsSolid, List.getLast?_concat, Option.all_some, isBlank_of_isQuote hq]
        rfl
      obtain ⟨l, hl, htrimmed⟩ := h.passes hpass hsolid
      have hstops := htrimmed.stops (stops_of_closeQuote hclose)
      have hrest' : j.rest = quote :: (doubled quote value ++ quote :: l.rest) := by
        rw [hl.rest]
        simp
      rw [readOptionValue_of_quote hq hrest', closeQuote_doubled value hstops]
      simp only [hl.eq_moveTo]
      exact .ok htrimmed

end Words

/-! ## Apps -/

section Apps

variable {g : Grammar} {i j : Input}

theorem readArgument_trimmed (h : Trimmed i j) (hs : i.startsWith ['-', '-'] = true) :
    ReadsAlike Trimmed (readArgument g i) (readArgument g j) := by
  have hstart : Trimmed (i.advance 2) (j.advance 2) := by
    obtain ⟨l, hl, htrimmed⟩ := h.passes (passes_advance hs) (by decide)
    have hadvance : j.Passes ['-', '-'] (j.advance 2) := passes_advance (startsWith_of_passes hl)
    rwa [hadvance.eq hl]
  rw [readArgument_eq_thenRead, readArgument_eq_thenRead]
  refine (readWord_trimmed (fun _ => isBlank_of_isDottedChar) hstart).thenRead ?_
  intro name k k' _ hk
  refine (readMark_endsAlike (by decide) (.inl hk)).thenRead fun _ l l' _ hl => ?_
  refine (readOptionValue_trimmed g _ hl).thenOk (fun _ _ h => h) fun value m m' hm => ?_
  rw [h.offset, hm.offset]

theorem readArguments_trimmed (h : Trimmed i j) :
    ReadsAlike Trimmed (readArguments g i) (readArguments g j) := by
  induction hlength : i.rest.length using Nat.strongRecOn generalizing i j with
  | ind length ih =>
    have hskip := h.skipBlanks
    rw [readArguments_eq_thenRead g i, readArguments_eq_thenRead g j,
      hskip.startsWith (List.cons_ne_nil _ _) (by decide)]
    split
    · next hs =>
      have hargument := hskip.trimmed_of_startsWith (List.cons_ne_nil _ _) hs
      refine (readArgument_trimmed hargument hs).thenRead fun o k k' hk hsame => ?_
      have hlt := readArgument_skipBlanks_length_lt hs hk
      exact (ih _ (hlength ▸ hlt) hsame rfl).thenOk (fun _ _ h => h) fun _ _ _ _ => rfl
    · exact .ok h

theorem readAppName_trimmed (h : Trimmed i j) :
    ReadsAlike Trimmed (readAppName i) (readAppName j) := by
  have hname : ∀ c, isNameChar c = true → isBlank c = false := fun _ => isBlank_of_isNameChar
  rw [readAppName_eq_thenRead, readAppName_eq_thenRead]
  refine (readWord_trimmed hname h).thenRead fun first k k' _ hk => ?_
  rcases EndsAlike.eat? (.inl hk) (List.cons_ne_nil ':' []) (by decide) with
    ⟨hnone, hnone'⟩ | ⟨l, l', hl, hl', hsame⟩
  · rw [hnone, hnone', h.offset, hk.offset]
    exact .ok hk
  · rw [hl, hl']
    refine (readWord_trimmed hname hsame).thenOk (fun _ _ h => h) fun name m m' hm => ?_
    rw [hsame.offset, hm.offset]

theorem readApp_trimmed (h : Trimmed i j) : ReadsAlike Trimmed (readApp g i) (readApp g j) := by
  rw [readApp_eq_thenRead, readApp_eq_thenRead]
  refine (readAppName_trimmed h).thenRead fun (label, name, nameSpan) k k' _ hk => ?_
  refine (readArguments_trimmed hk).thenOk (fun _ _ h => h) fun arguments l l' _ => ?_
  rw [h.offset]

/-- An app takes at least one character. -/
theorem ne_nil_of_readApp {a : App} (h : readApp g i = .ok (a, j)) : i.rest ≠ [] := by
  intro hnil
  have hlt := readApp_length_lt h
  rw [hnil] at hlt
  exact Nat.not_lt_zero _ hlt

end Apps

/-! ## Streams -/

section Streams

variable {i j : Input}

theorem readDestination_endsAlike (h : EndsAlike i j) :
    ReadsAlike Trimmed (readDestination i) (readDestination j) := by
  rw [readDestination_eq_thenRead, readDestination_eq_thenRead]
  refine (readMark_endsAlike (by decide) h).thenRead fun _ k k' _ hk => ?_
  refine (readWord_trimmed (fun _ => isBlank_of_isDottedChar) hk).thenOk (fun _ _ h => h) ?_
  intro name l l' hl
  rw [hk.offset, hl.offset]

theorem readSource_trimmed (h : Trimmed i j) :
    ReadsAlike EndsAlike (readSource i) (readSource j) := by
  rw [readSource_eq_thenRead, readSource_eq_thenRead,
    EndsAlike.startsWith (.inl h) (List.cons_ne_nil _ _) (by decide)]
  split
  · refine (readDestination_endsAlike (.inl h)).thenRead fun source k k' _ hk => ?_
    refine (readMark_endsAlike (by decide) hk.skipBlanks).thenRead fun _ l l' _ hl => ?_
    exact .ok hl.skipBlanks
  · exact .ok (.inl h)

theorem readPipeline_endsAlike (h : EndsAlike i j) :
    ReadsAlike EndsAlike (readPipeline i) (readPipeline j) := by
  induction hlength : i.rest.length using Nat.strongRecOn generalizing i j with
  | ind length ih =>
    rw [readPipeline_eq_thenRead i, readPipeline_eq_thenRead j]
    have happ : ReadsAlike Trimmed (readApp .stream i) (readApp .stream j) :=
      fun a k hk => readApp_trimmed (h.trimmed (ne_nil_of_readApp hk)) a k hk
    refine happ.thenRead fun app k k' hk hsame => ?_
    have hskip := hsame.skipBlanks
    rw [hskip.startsWith (List.cons_ne_nil _ _) (by decide)]
    split
    · exact .of_error
    · rcases hskip.eat? (List.cons_ne_nil '|' []) (by decide) with ⟨hl, hl'⟩ |
        ⟨l, l', hl, hl', hpipe⟩
      · rw [hl, hl']
        exact .ok hskip
      · rw [hl, hl']
        have hlt := length_lt_of_pipe hk hl
        exact (ih _ (hlength ▸ hlt) hpipe.skipBlanks rfl).thenOk (fun _ _ h => h) fun _ _ _ _ => rfl

theorem readSink_endsAlike (h : EndsAlike i j) :
    ReadsAlike EndsAlike (readSink i) (readSink j) := by
  rw [readSink_eq_thenRead, readSink_eq_thenRead]
  rcases h.eat? (List.cons_ne_nil '>' []) (by decide) with ⟨hk, hk'⟩ | ⟨k, k', hk, hk', hsame⟩
  · rw [hk, hk']
    exact .ok h
  · rw [hk, hk']
    exact (readDestination_endsAlike hsame.skipBlanks).thenOk (fun _ _ => .inl) fun _ _ _ _ => rfl

theorem readFlow_endsAlike (source : Option Destination) (h : EndsAlike i j) :
    ReadsAlike EndsAlike (readFlow source i) (readFlow source j) := by
  rw [readFlow_eq_thenRead, readFlow_eq_thenRead,
    h.startsWith (List.cons_ne_nil _ _) (by decide)]
  split
  · exact (readDestination_endsAlike h).thenOk (fun _ _ => .inl) fun _ _ _ _ => rfl
  · refine (readPipeline_endsAlike h).thenRead fun apps k k' _ hk => ?_
    exact (readSink_endsAlike hk).thenOk (fun _ _ h => h) fun _ _ _ _ => rfl

/-- What a successful reader of a body has read. -/
theorem parts_of_readStreamBody {name : Option DeclaredName} {s : StreamDefinition}
    (h : readStreamBody name i = .ok s) :
    ∃ k l, readSource i = .ok (s.source, k) ∧ readFlow s.source k = .ok ((s.apps, s.sink), l) ∧
      l.skipBlanks.rest = [] ∧ s.name = name ∧
      s.span = ⟨i.offset, flowStop i.offset s.apps s.sink⟩ ∧
      s.body = String.ofList (i.rest.take (s.span.stop - i.offset)) := by
  simp only [readStreamBody] at h
  split at h
  · cases h
  · split at h
    · cases h
    · next source k hk =>
      split at h
      · cases h
      · next apps sink l hl =>
        split at h
        · cases h
        · next hend =>
          cases h
          exact ⟨k, l, hk, hl, rest_of_expectNothing hend, rfl, rfl, rfl⟩

/-- The body of a stream is read without the blanks behind it. -/
theorem readStreamBody_trimmed {name name' : Option DeclaredName} {s : StreamDefinition}
    (h : Trimmed i j) (hread : readStreamBody name i = .ok s) (hbody : j.rest = s.body.toList) :
    readStreamBody name' j = .ok { s with name := name' } := by
  obtain ⟨k, l, hk, hl, hend, -, hspan, hs⟩ := parts_of_readStreamBody hread
  obtain ⟨k', hk', hsource⟩ := readSource_trimmed h _ _ hk
  obtain ⟨l', hl', hflow⟩ := readFlow_endsAlike _ hsource _ _ hl
  have hend' : l'.skipBlanks.rest = [] := hflow.skipBlanks.rest_eq_nil hend
  have hne : j.rest ≠ [] := by
    obtain ⟨text, m, hwritten, hpass, -⟩ := written_of_readFlow hk' hl'
    rw [hpass.rest]
    intro hnil
    exact (hwritten.starts isBlanks_nil).1 (List.append_eq_nil_iff.mp hnil).1
  have htake : String.ofList (j.rest.take (s.span.stop - i.offset)) = s.body := by
    rw [hbody, hs, String.toList_ofList, List.take_take, Nat.min_self]
  rw [readStreamBody_eq_thenRead _ hne, hk', thenRead, hl', thenRead]
  simp only [expectNothing_of_rest hend', h.offset]
  rw [hspan] at htake
  simp only [Except.bind, htake, ← hspan]

end Streams

/-! ## Tasks -/

section Tasks

variable {i j : Input} {depth stop : Nat}

/-- What follows a flow, with the blanks at the end and without them. -/
inductive AfterFlow.Alike : AfterFlow → AfterFlow → Prop
  | done (stop : Nat) : Alike (.done stop) (.done stop)
  | flow (depth : Nat) {k l : Input} (h : EndsAlike k l) : Alike (.flow depth k) (.flow depth l)

theorem afterFlow_trimmed {r : AfterFlow} (h : Trimmed i j)
    (hread : afterFlow depth stop i = .ok r) :
    ∃ r', afterFlow depth stop j = .ok r' ∧ r.Alike r' := by
  have hmark : ∀ {i j k : Input} {c d : Char}, Trimmed i j → endsSolid [c, d] = true →
      i.skipBlanks.Passes [c, d] k →
      ∃ l, j.skipBlanks.Passes [c, d] l ∧ EndsAlike k.skipBlanks l.skipBlanks := by
    intro i j k c d h hsolid hpass
    have hskip :=
      h.skipBlanks.trimmed_of_startsWith (List.cons_ne_nil _ _) (startsWith_of_passes hpass)
    obtain ⟨l, hl, htrimmed⟩ := hskip.passes hpass hsolid
    exact ⟨l, hl, htrimmed.skipBlanks⟩
  induction depth generalizing stop i j with
  | zero =>
    rcases afterFlow_cases hread with ⟨k, hk, rfl⟩ | ⟨-, hend, rfl⟩ | ⟨outer, -, hd, -⟩ |
      ⟨outer, -, hd, -⟩
    · obtain ⟨l, hl, halike⟩ := hmark h (by decide) hk
      exact ⟨_, afterFlow_and hl, .flow 0 halike⟩
    · exact ⟨_, afterFlow_done (h.skipBlanks.rest_eq_nil hend), .done stop⟩
    · cases hd
    · cases hd
  | succ outer ih =>
    rcases afterFlow_cases hread with ⟨k, hk, rfl⟩ | ⟨hd, -⟩ | ⟨outer, k, hd, hk, rfl⟩ |
      ⟨outer, k, hd, hk, hclose⟩
    · obtain ⟨l, hl, halike⟩ := hmark h (by decide) hk
      exact ⟨_, afterFlow_and hl, .flow _ halike⟩
    · cases hd
    · cases hd
      obtain ⟨l, hl, halike⟩ := hmark h (by decide) hk
      exact ⟨_, afterFlow_or hl, .flow _ halike⟩
    · cases hd
      have hskip :=
        h.skipBlanks.trimmed_of_startsWith (List.cons_ne_nil _ _) (startsWith_of_passes hk)
      obtain ⟨l, hl, htrimmed⟩ := hskip.passes hk (by decide)
      rw [afterFlow_close hl, htrimmed.offset]
      exact ih htrimmed hclose

theorem ne_nil_of_readFlows {apps : List App} (h : readFlows depth i = .ok (apps, stop)) :
    i.rest ≠ [] := by
  intro hnil
  have hopen : Stops (· == '<') i.rest := by
    rw [hnil]
    exact stops_nil
  cases happ : readApp .task i with
  | error e =>
    rw [readFlows_of_readApp_error hopen happ] at h
    cases h
  | ok result => exact ne_nil_of_readApp happ hnil

/-- A task is read without the blanks behind it. -/
theorem readFlows_trimmed {apps : List App} (h : Trimmed i j)
    (hread : readFlows depth i = .ok (apps, stop)) : readFlows depth j = .ok (apps, stop) := by
  induction hlength : i.rest.length using Nat.strongRecOn generalizing depth stop i j apps with
  | ind length ih =>
    rcases EndsAlike.eat? (.inl h) (List.cons_ne_nil '<' []) (by decide) with
      ⟨ho, ho'⟩ | ⟨k, k', ho, ho', hk⟩
    · have hopen := stops_of_eat? ho
      cases happ : readApp .task i with
      | error e =>
        rw [readFlows_of_readApp_error hopen happ] at hread
        cases hread
      | ok result =>
        obtain ⟨app, k⟩ := result
        obtain ⟨l, happ', hk⟩ := readApp_trimmed h app k happ
        rw [readFlows_app hopen happ] at hread
        rw [readFlows_app (stops_of_eat? ho') happ']
        cases hafter : afterFlow depth app.span.stop k with
        | error e =>
          rw [hafter] at hread
          cases hread
        | ok r =>
          obtain ⟨r', hafter', halike⟩ := afterFlow_trimmed hk hafter
          rw [hafter] at hread
          rw [hafter']
          cases halike with
          | done => exact hread
          | @flow inner m m' hm =>
            rw [resume] at hread ⊢
            cases hmore : readFlows inner m with
            | error e =>
              rw [hmore] at hread
              cases hread
            | ok result =>
              have hlt := Nat.lt_trans (afterFlow_length_lt hafter) (readApp_length_lt happ)
              rw [ih _ (hlength ▸ hlt) (hm.trimmed (ne_nil_of_readFlows hmore)) hmore rfl]
              rw [hmore] at hread
              exact hread
    · rw [readFlows_split (passes_of_eat? ho)] at hread
      rw [readFlows_split (passes_of_eat? ho')]
      have hlt := length_lt_of_split ho
      exact ih _ (hlength ▸ hlt) (hk.skipBlanks.trimmed (ne_nil_of_readFlows hread)) hread rfl

end Tasks

end Flowline
