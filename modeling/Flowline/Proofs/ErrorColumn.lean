import Flowline.Proofs.Lookahead

/-!
# Errors lie where they show

What stands before an error is the beginning of a text that is accepted, and with the two characters
from the error on it is not any more. The first half comes from completing what has been read. For
the second, a text with the same characters up to there is read in the same way up to the error, and
so has it too.

* `decided_readFlow`, `sameError_readStreamBody`, `StreamDefinition.sameError_parse`: how far the
  readers of streams look ahead;
* `afterFlow_flow_of_same`, `afterFlow_error_of_same`, `sameError_readFlows`: how far the readers of
  tasks look ahead;
* `SyntaxError.IsExact`, `parse_error_isExact`: errors lie where they show.
-/

namespace Flowline

open Character Input

/-- An error of `r` that shows in the characters before column `n` is an error of `r'`. -/
def SameError {β : Type} (n : Nat) (r r' : Except SyntaxError β) : Prop :=
  ∀ e, r = .error e → e.position + 2 ≤ n → e.cause ≠ .unterminatedQuote → r' = .error e

/-- What stands before an error that shows before column `n` stands before that column. -/
theorem BreaksOff.near_le {n : Nat} {i : Input} {e : SyntaxError} {texts : List Char → Prop}
    (h : BreaksOff i e texts) (hn : e.position + 2 ≤ n) : i.near ≤ n := by
  have := h.offset_le
  rw [near]
  omega

/-! ## Streams -/

section Streams

variable {n : Nat} {i j : Input}

theorem SameError.thenRead {α β : Type} {look : Input → Nat} {r r' : Reading α}
    {f f' : α → Input → Except SyntaxError β} (h : Decided n look r r')
    (hlook : ∀ a k, r = .ok (a, k) → ∀ e, f a k = .error e → look k ≤ e.position + 2)
    (hf : ∀ a k l, r = .ok (a, k) → look k ≤ n → SameUpTo n k l → SameError n (f a k) (f' a l)) :
    SameError n (thenRead r f) (thenRead r' f') := by
  intro e he hposition hcause
  match r with
  | .error e' =>
    cases he
    rw [h hposition hcause]
    rfl
  | .ok (a, k) =>
    have hk := (hlook a k rfl e he).trans hposition
    obtain ⟨l, rfl, hsame⟩ := h hk
    exact hf a k l rfl hk hsame e he hposition hcause

theorem Decided.of_skipBlanks {α : Type} {look : Input → Nat} {r r' : Reading α}
    (h : SameUpTo n i j) (hlook : i.skipBlanks.near ≤ lookedUpTo look r)
    (hr : SameUpTo n i.skipBlanks j.skipBlanks → Decided n look r r') : Decided n look r r' :=
  .of_le hlook fun hn => hr (h.skipBlanks hn)

theorem readDestination_eq_thenRead (i : Input) :
    readDestination i =
      thenRead (readMark ':' i) fun _ j =>
        thenRead (readWord isDottedChar .expectedDestinationName j) fun name k =>
          .ok (⟨String.ofList name, ⟨j.offset, k.offset⟩⟩, k) := by
  rw [readDestination, readMark]
  cases i.eat? [':'] with
  | none => rfl
  | some j =>
    simp only [readWord, thenRead]
    split <;> rfl

theorem near_le_readDestination (i : Input) : i.near ≤ lookedUpTo near (readDestination i) := by
  rw [readDestination_eq_thenRead]
  refine le_lookedUpTo_thenRead (near_le_readMark ':' i) fun _ j _ => ?_
  exact le_lookedUpTo_thenOk (near_le_readWord _ _ j) fun _ => Nat.le_refl _

theorem decided_readDestination (h : SameUpTo n i j) :
    Decided n near (readDestination i) (readDestination j) := by
  rw [readDestination_eq_thenRead, readDestination_eq_thenRead]
  refine (decided_readMark ':' h).thenRead ?_ fun _ k k' _ _ hsame => ?_
  · intro _ k _
    exact le_lookedUpTo_thenOk (near_le_readWord _ _ k) fun _ => Nat.le_refl _
  · refine (decided_readWord hsame).thenOk (fun _ => Nat.le_refl _) ?_
    intro name l l' hsame'
    rw [hsame.offset, hsame'.offset]

theorem readSource_eq_thenRead (i : Input) :
    readSource i =
      if i.startsWith [':'] then
        thenRead (readDestination i) fun source j =>
          thenRead (readMark '>' j.skipBlanks) fun _ k => .ok (some source, k.skipBlanks)
      else .ok (none, i) := by
  rw [readSource]
  split
  · cases readDestination i with
    | error e => rfl
    | ok result =>
      simp only [readMark, thenRead]
      cases result.2.skipBlanks.eat? ['>'] <;> rfl
  · rfl

theorem decided_readSource (h : SameUpTo n i j) (hn : i.near ≤ n) :
    Decided n near (readSource i) (readSource j) := by
  rw [readSource_eq_thenRead, readSource_eq_thenRead, h.startsWith [':'] hn]
  split
  · have hmark : ∀ (source : Destination) (k : Input), k.skipBlanks.near ≤ lookedUpTo near
        (thenRead (readMark '>' k.skipBlanks) fun _ l => .ok (some source, l.skipBlanks)) := by
      intro source k
      refine le_lookedUpTo_thenRead (near_le_readMark '>' k.skipBlanks) fun _ l _ => ?_
      exact (reaches_skipBlanks l).near_le
    refine (decided_readDestination h).thenRead ?_ fun source k k' _ _ hsame => ?_
    · exact fun source k _ => (reaches_skipBlanks k).near_le.trans (hmark source k)
    · refine .of_skipBlanks hsame (hmark source k) fun hskip => ?_
      refine (decided_readMark '>' hskip).thenRead ?_ fun _ l l' _ _ hsame' hl => ?_
      · exact fun _ l _ => (reaches_skipBlanks l).near_le
      · exact ⟨l'.skipBlanks, rfl, hsame'.skipBlanks hl⟩
  · exact fun _ => ⟨j, rfl, h⟩

theorem readPipeline_eq_thenRead (i : Input) :
    readPipeline i =
      thenRead (readApp .stream i) fun app j =>
        if j.skipBlanks.startsWith ['|', '|'] then .error ⟨j.skipBlanks.offset, .doublePipeInStream⟩
        else
          match j.skipBlanks.eat? ['|'] with
          | none => .ok ([app], j.skipBlanks)
          | some k => thenRead (readPipeline k.skipBlanks) fun apps l => .ok (app :: apps, l) := by
  rw [readPipeline]
  split
  · next herror => rw [herror, thenRead]
  · next app j hj =>
    conv_rhs => rw [hj, thenRead]
    by_cases hpipes : j.skipBlanks.startsWith ['|', '|'] = true
    · rw [if_pos hpipes, if_pos hpipes]
    · rw [if_neg hpipes, if_neg hpipes]
      split
      · next hk => rw [hk]
      · next k hk =>
        simp only [hk]
        cases readPipeline k.skipBlanks <;> rfl

/-- An app and the pipe behind it take characters. -/
theorem length_lt_of_pipe {app : App} {i j k : Input} (hj : readApp .stream i = .ok (app, j))
    (hk : j.skipBlanks.eat? ['|'] = some k) : k.skipBlanks.rest.length < i.rest.length := by
  have happ := readApp_length_lt hj
  have hblanks := Input.length_rest_skipBlanks_le j
  have hpipe := Input.length_rest_of_eat? hk
  have hblanks' := Input.length_rest_skipBlanks_le k
  omega

theorem near_le_readPipeline (i : Input) : i.near ≤ lookedUpTo far (readPipeline i) := by
  refine near_le_lookedUpTo (fun k => (near_lt_far k).le) (fun apps k h => ?_)
    fun e h => (breaksOff_of_readPipeline h).offset_le
  obtain ⟨last, text, l, -, hpass, -, rfl⟩ := written_of_readPipeline h
  exact hpass.reaches.trans (reaches_skipBlanks l)

/-- After an app, a pipe is looked for behind the blanks. -/
theorem far_le_afterApp (app : App) (j : Input) :
    j.far ≤ lookedUpTo far
      (if j.skipBlanks.startsWith ['|', '|'] then
        .error ⟨j.skipBlanks.offset, .doublePipeInStream⟩
      else
        match j.skipBlanks.eat? ['|'] with
        | none => .ok ([app], j.skipBlanks)
        | some k => thenRead (readPipeline k.skipBlanks) fun apps l => .ok (app :: apps, l)) := by
  split
  · exact Nat.le_refl _
  · split
    · exact (reaches_skipBlanks j).far_le
    · next k hk =>
      have hmore : j.far ≤ lookedUpTo far (readPipeline k.skipBlanks) :=
        calc j.far ≤ j.skipBlanks.far := (reaches_skipBlanks j).far_le
          _ = k.near := far_of_passes (passes_of_eat? hk) (by decide)
          _ ≤ k.skipBlanks.near := (reaches_skipBlanks k).near_le
          _ ≤ lookedUpTo far (readPipeline k.skipBlanks) := near_le_readPipeline _
      exact le_lookedUpTo_thenOk hmore fun _ => Nat.le_refl _

theorem decided_readPipeline (h : SameUpTo n i j) :
    Decided n far (readPipeline i) (readPipeline j) := by
  induction hlength : i.rest.length using Nat.strongRecOn generalizing i j with
  | ind length ih =>
    rw [readPipeline_eq_thenRead i, readPipeline_eq_thenRead j]
    refine (decided_readApp h).thenRead (fun app k _ => far_le_afterApp app k) ?_
    intro app k k' hk hn hsame
    have hskip := hsame.skipBlanks (Nat.lt_of_succ_lt hn)
    rw [hskip.startsWith ['|', '|'] hn]
    split
    · rw [hskip.offset]
      exact fun _ _ => rfl
    · rcases hskip.eat? ['|'] (Nat.le_of_succ_le hn) with ⟨hl, hl'⟩ | ⟨l, l', hl, hl', hsame'⟩
      · rw [hl, hl']
        exact fun _ => ⟨k'.skipBlanks, rfl, hskip⟩
      · rw [hl, hl']
        have hlt := length_lt_of_pipe hk hl
        refine .of_skipBlanks hsame' ?_ fun hskip' => ?_
        · exact le_lookedUpTo_thenOk (near_le_readPipeline l.skipBlanks) fun _ => Nat.le_refl _
        · exact (ih _ (hlength ▸ hlt) hskip' rfl).thenOk (fun _ => Nat.le_refl _) fun _ _ _ _ => rfl

theorem readSink_eq_thenRead (i : Input) :
    readSink i =
      match i.eat? ['>'] with
      | none => .ok (none, i)
      | some j => thenRead (readDestination j.skipBlanks) fun sink k => .ok (some sink, k) := by
  rw [readSink]
  cases i.eat? ['>'] with
  | none => rfl
  | some j =>
    simp only
    cases readDestination j.skipBlanks <;> rfl

theorem near_le_sink (j : Input) : j.skipBlanks.near ≤ lookedUpTo far
    (thenRead (readDestination j.skipBlanks) fun sink k => .ok (some sink, k)) :=
  le_lookedUpTo_thenOk (near_le_readDestination _) fun k => (near_lt_far k).le

theorem far_le_readSink (i : Input) : i.far ≤ lookedUpTo far (readSink i) := by
  rw [readSink_eq_thenRead]
  split
  · exact Nat.le_refl _
  · next j hj =>
    rw [far_of_passes (passes_of_eat? hj) (by decide)]
    exact (reaches_skipBlanks j).near_le.trans (near_le_sink j)

theorem decided_readSink (h : SameUpTo n i j) (hn : i.near ≤ n) :
    Decided n far (readSink i) (readSink j) := by
  rw [readSink_eq_thenRead, readSink_eq_thenRead]
  rcases h.eat? ['>'] hn with ⟨hk, hk'⟩ | ⟨k, k', hk, hk', hsame⟩
  · rw [hk, hk']
    exact fun _ => ⟨j, rfl, h⟩
  · rw [hk, hk']
    refine .of_skipBlanks hsame (near_le_sink k) fun hskip => ?_
    exact (decided_readDestination hskip).thenOk (fun l => (near_lt_far l).le) fun _ _ _ _ => rfl

theorem readFlow_eq_thenRead (source : Option Destination) (i : Input) :
    readFlow source i =
      if source.isSome && i.startsWith [':'] then
        thenRead (readDestination i) fun sink j => .ok (([], some sink), j)
      else
        thenRead (readPipeline i) fun apps j =>
          thenRead (readSink j) fun sink k => .ok ((apps, sink), k) := by
  rw [readFlow]
  split
  · cases readDestination i <;> rfl
  · cases readPipeline i with
    | error e => rfl
    | ok result =>
      simp only [thenRead]
      cases readSink result.2 <;> rfl

theorem near_le_readFlow (source : Option Destination) (i : Input) :
    i.near ≤ lookedUpTo far (readFlow source i) := by
  rw [readFlow_eq_thenRead]
  split
  · exact le_lookedUpTo_thenOk (near_le_readDestination i) fun k => (near_lt_far k).le
  · refine le_lookedUpTo_thenRead (near_le_readPipeline i) fun apps j _ => ?_
    exact le_lookedUpTo_thenOk (far_le_readSink j) fun _ => Nat.le_refl _

theorem decided_readFlow (source : Option Destination) (h : SameUpTo n i j) (hn : i.near ≤ n) :
    Decided n far (readFlow source i) (readFlow source j) := by
  rw [readFlow_eq_thenRead, readFlow_eq_thenRead, h.startsWith [':'] hn]
  split
  · exact (decided_readDestination h).thenOk (fun k => (near_lt_far k).le) fun _ _ _ _ => rfl
  · refine (decided_readPipeline h).thenRead ?_ fun apps k k' _ hk hsame => ?_
    · intro apps k _
      exact le_lookedUpTo_thenOk (far_le_readSink k) fun _ => Nat.le_refl _
    · have hsink := decided_readSink hsame ((near_lt_far k).le.trans hk)
      exact hsink.thenOk (fun _ => Nat.le_refl _) fun _ _ _ _ => rfl

theorem readStreamBody_eq_thenRead (name : Option DeclaredName) (hne : i.rest ≠ []) :
    readStreamBody name i =
      thenRead (readSource i) fun source j =>
        thenRead (readFlow source j) fun (apps, sink) k =>
          (expectNothing k).bind fun _ =>
            let stop := flowStop i.offset apps sink
            .ok ⟨name, source, sink, apps, ⟨i.offset, stop⟩,
              String.ofList (i.rest.take (stop - i.offset))⟩ := by
  rw [readStreamBody, if_neg (by simpa using hne)]
  cases readSource i with
  | error e => rfl
  | ok result =>
    simp only [thenRead]
    cases readFlow result.1 result.2 with
    | error e => rfl
    | ok result =>
      simp only
      cases expectNothing result.2 <;> rfl

theorem le_of_thenRead_error {α β : Type} {o : Nat} {look : Input → Nat} {r : Reading α}
    {f : α → Input → Except SyntaxError β} {e : SyntaxError} (h : thenRead r f = .error e)
    (ho : o ≤ lookedUpTo look r)
    (hlook : ∀ a k, r = .ok (a, k) → f a k = .error e → look k ≤ e.position + 2) :
    o ≤ e.position + 2 := by
  match r with
  | .error e' =>
    cases h
    exact ho
  | .ok (a, k) => exact ho.trans (hlook a k rfl h)

/-- What is not expected after a stream lies behind the blanks there. -/
theorem far_le_of_expectNothing {β : Type} {s : β} {e : SyntaxError}
    (h : ((expectNothing i).bind fun _ => .ok s) = .error e) : i.far ≤ e.position + 2 := by
  rw [expectNothing] at h
  split at h
  · cases h
  · cases h
    exact Nat.le_refl _

theorem sameError_expectNothing {β : Type} {s s' : β} (h : SameUpTo n i j) :
    SameError n ((expectNothing i).bind fun _ => .ok s)
      ((expectNothing j).bind fun _ => .ok s') := by
  intro e he hposition _
  rw [expectNothing] at he
  split at he
  · cases he
  · next c rest hrest =>
    cases he
    have hi := Nat.lt_of_succ_lt hposition
    have hskip := h.skipBlanks hi
    obtain ⟨rest', hrest'⟩ := hskip.exists_cons hi hrest
    rw [expectNothing, hrest', hskip.offset]
    rfl

theorem sameError_readStreamBody {name name' : Option DeclaredName} (h : SameUpTo n i j) :
    SameError n (readStreamBody name i) (readStreamBody name' j) := by
  intro e he hposition hcause
  have hi : i.offset < n := (breaksOff_of_readStreamBody he).near_le hposition
  have hj : j.offset < n := by rwa [h.offset]
  rw [readStreamBody_eq_thenRead name (h.ne_nil hi)] at he
  rw [readStreamBody_eq_thenRead name' (h.symm.ne_nil hj)]
  refine SameError.thenRead (decided_readSource h hi) ?_ ?_ e he hposition hcause
  · intro source k _ e he
    exact le_of_thenRead_error he (near_le_readFlow source k) fun _ _ _ => far_le_of_expectNothing
  · intro source k k' _ hk hsame
    refine SameError.thenRead (decided_readFlow source hsame hk) ?_ ?_
    · exact fun _ _ _ _ => far_le_of_expectNothing
    · exact fun _ l l' _ _ hsame' => sameError_expectNothing hsame'

/-- An error in the body of a stream lies behind the first word of the body and the blanks after it,
where an equals sign would have made the word a name. -/
theorem far_le_of_readStreamBody {name : Option DeclaredName} {e : SyntaxError}
    (hblank : Stops isBlank i.rest) (h : readStreamBody name i = .error e) :
    (i.skipWhile isNameChar).far ≤ e.position + 2 := by
  by_cases hword : (i.word isNameChar).isEmpty = true
  · rw [skipWhile_of_isEmpty hword, far, skipBlanks_of_stops hblank]
    exact Nat.add_le_add_right (breaksOff_of_readStreamBody h).offset_le 2
  · have hpass := passes_skipWhile isNameChar i
    have hcolon : i.startsWith [':'] = false := by
      refine startsWith_of_stops ?_
      rw [hpass.rest]
      refine (isWord_word hword).stops_append fun c hc => ?_
      rw [beq_eq_false_iff_ne]
      rintro rfl
      exact absurd hc (by decide)
    have hne : i.rest ≠ [] := by
      rw [hpass.rest]
      exact fun hnil => (isWord_word hword).1 (List.append_eq_nil_iff.mp hnil).1
    rw [readStreamBody_eq_thenRead name hne, readSource_eq_thenRead, hcolon, if_neg (by simp),
      thenRead] at h
    have hpipeline : (i.skipWhile isNameChar).far ≤ lookedUpTo far (readPipeline i) := by
      rw [readPipeline_eq_thenRead]
      exact le_lookedUpTo_thenRead (far_le_readApp hword) fun app j _ => far_le_afterApp app j
    refine le_of_thenRead_error h ?_ fun _ _ _ => far_le_of_expectNothing
    rw [readFlow_eq_thenRead, hcolon, Bool.and_false, if_neg (by simp)]
    refine le_lookedUpTo_thenRead hpipeline fun apps j _ => ?_
    exact le_lookedUpTo_thenOk (far_le_readSink j) fun _ => Nat.le_refl _

theorem sameUpTo_readName (h : SameUpTo n i j) (hn : (i.skipWhile isNameChar).far ≤ n) :
    SameUpTo n (readName i).2 (readName j).2 := by
  have hn' : (i.skipWhile isNameChar).near < n := Nat.lt_of_lt_of_le (near_lt_far _) hn
  obtain ⟨hword, hsame⟩ := h.skipWhile (p := isNameChar) (Nat.lt_of_succ_lt hn')
  have hskip := hsame.skipBlanks (Nat.lt_of_succ_lt hn)
  rcases hskip.eat? ['='] (Nat.le_of_succ_le hn) with ⟨hk, hk'⟩ | ⟨k, k', hk, hk', hsame'⟩
  · simp only [readName, hk, hk']
    exact h
  · simp only [readName, hk, hk', hword]
    split
    · exact h
    · exact hsame'

/-- The input is left as it is when no name is read. -/
theorem readName_cases (i : Input) :
    (readName i).2 = i ∨ (i.skipWhile isNameChar).skipBlanks.eat? ['='] = some (readName i).2 := by
  cases hk : (i.skipWhile isNameChar).skipBlanks.eat? ['='] with
  | none =>
    left
    simp only [readName, hk]
  | some k =>
    simp only [readName, hk]
    split
    · exact .inl rfl
    · exact .inr rfl

/-- Whether the first word is a name shows before any error of the body. -/
theorem StreamDefinition.sameError_parse {text text' : List Char}
    (h : SameUpTo n (ofText text 0) (ofText text' 0)) :
    SameError n (StreamDefinition.parse text) (StreamDefinition.parse text') := by
  intro e he hposition hcause
  let i := (ofText text 0).skipBlanks
  have hbody : readStreamBody (readName i).1 (readName i).2.skipBlanks = .error e := he
  have hbegin := breaksOff_of_readStreamBody hbody
  have hfar : (i.skipWhile isNameChar).far ≤ n := by
    refine Nat.le_trans ?_ hposition
    rcases readName_cases i with hname | hname
    · have hblank : Stops isBlank i.rest := stops_skipBlanks _
      rw [hname, skipBlanks_of_stops hblank] at hbody
      exact far_le_of_readStreamBody hblank hbody
    · calc (i.skipWhile isNameChar).far ≤ (i.skipWhile isNameChar).skipBlanks.far :=
            (reaches_skipBlanks _).far_le
        _ = (readName i).2.near := far_of_passes (passes_of_eat? hname) (by decide)
        _ ≤ (readName i).2.skipBlanks.near := (reaches_skipBlanks _).near_le
        _ ≤ e.position + 2 := hbegin.near_le (Nat.le_refl _)
  have hi : i.offset < n :=
    calc i.near ≤ (i.skipWhile isNameChar).near := (passes_skipWhile isNameChar i).reaches.near_le
      _ ≤ (i.skipWhile isNameChar).far := (near_lt_far _).le
      _ ≤ n := hfar
  have hname := (sameUpTo_readName (h.skipBlanks hi) hfar).skipBlanks
    (hbegin.near_le hposition)
  exact sameError_readStreamBody hname e hbody hposition hcause

end Streams

/-! ## Tasks -/

section Tasks

variable {n depth stop stop' : Nat} {i j k : Input} {e : SyntaxError}

/-- The next flow starts after a mark of two characters. -/
theorem far_le_of_afterFlow {next : Nat} (h : afterFlow depth stop i = .ok (.flow next k)) :
    i.far ≤ k.offset := by
  induction depth using Nat.strongRecOn generalizing stop i with
  | ind depth ih =>
    have hmark : ∀ {c d : Char} {l : Input}, i.skipBlanks.Passes [c, d] l →
        i.far ≤ l.skipBlanks.offset := by
      intro c d l hpass
      rw [far, ← show [c, d].length = 2 from rfl, ← hpass.offset]
      exact (reaches_skipBlanks l).offset_le
    rcases afterFlow_cases h with
      ⟨l, hpass, hr⟩ | ⟨-, -, hr⟩ | ⟨outer, l, rfl, hpass, hr⟩ | ⟨outer, l, rfl, hpass, hl⟩
    · cases hr
      exact hmark hpass
    · cases hr
    · cases hr
      exact hmark hpass
    · calc i.far ≤ i.skipBlanks.far := (reaches_skipBlanks i).far_le
        _ = l.near := far_of_passes hpass (by decide)
        _ ≤ l.far := (near_lt_far l).le
        _ ≤ k.offset := ih outer (by omega) hl

theorem far_le_of_afterFlow_error (h : afterFlow depth stop i = .error e) :
    i.far ≤ e.position + 2 :=
  Nat.add_le_add_right (breaksOff_of_afterFlow h).2 2

/-- The next flow is found behind the same marks. -/
theorem afterFlow_flow_of_same {next : Nat} (h : SameUpTo n i j)
    (hflow : afterFlow depth stop i = .ok (.flow next k)) (hn : k.near ≤ n) (stop' : Nat) :
    ∃ l, afterFlow depth stop' j = .ok (.flow next l) ∧ SameUpTo n k l := by
  induction depth using Nat.strongRecOn generalizing stop stop' i j with
  | ind depth ih =>
    have hfar := (far_le_of_afterFlow hflow).trans (Nat.le_of_lt hn)
    have hskip := h.skipBlanks (Nat.lt_of_succ_lt hfar)
    have hreach : ∀ {l : Input} {u : List Char}, i.skipBlanks.Passes u l → l.Reaches k →
        ∃ l', j.skipBlanks.Passes u l' ∧ SameUpTo n l l' := fun hpass hl =>
      hskip.passes hpass (Nat.le_of_lt (Nat.lt_of_le_of_lt hl.offset_le hn))
    rcases afterFlow_cases hflow with
      ⟨l, hpass, hr⟩ | ⟨-, -, hr⟩ | ⟨outer, l, rfl, hpass, hr⟩ | ⟨outer, l, rfl, hpass, hl⟩
    · cases hr
      obtain ⟨l', hpass', hsame⟩ := hreach hpass (reaches_skipBlanks l)
      exact ⟨_, afterFlow_and hpass', hsame.skipBlanks hn⟩
    · cases hr
    · cases hr
      obtain ⟨l', hpass', hsame⟩ := hreach hpass (reaches_skipBlanks l)
      exact ⟨_, afterFlow_or hpass', hsame.skipBlanks hn⟩
    · obtain ⟨l', hpass', hsame⟩ := hreach hpass (reaches_of_afterFlow hl)
      rw [afterFlow_close hpass']
      exact ih outer (by omega) hsame hl _

theorem afterFlow_error_of_same (h : SameUpTo n i j) (herror : afterFlow depth stop i = .error e)
    (hn : e.position + 2 ≤ n) : afterFlow depth stop' j = .error e := by
  have hfar := (far_le_of_afterFlow_error herror).trans hn
  have hi := Nat.lt_of_succ_lt hfar
  have hskip := h.skipBlanks hi
  induction depth generalizing stop stop' i j with
  | zero =>
    rw [afterFlow] at herror ⊢
    rcases hskip.eat? ['&', '&'] hfar with ⟨hk, hk'⟩ | ⟨k, k', hk, hk', hsame⟩
    · rw [hk] at herror
      rw [hk']
      dsimp only at herror ⊢
      rw [hskip.startsWith ['|', '|'] hfar]
      split at herror
      · next hpipes =>
        rw [if_pos hpipes, hskip.offset]
        exact herror
      · next hpipes =>
        rw [if_neg hpipes]
        split at herror
        · cases herror
        · next c rest hrest =>
          obtain ⟨rest', hrest'⟩ := hskip.exists_cons hi hrest
          rw [hrest', hskip.offset]
          exact herror
    · rw [hk] at herror
      cases herror
  | succ outer ih =>
    rw [afterFlow] at herror ⊢
    rcases hskip.eat? ['&', '&'] hfar with ⟨hk, hk'⟩ | ⟨k, k', hk, hk', hsame⟩
    · rw [hk] at herror
      rw [hk']
      dsimp only at herror ⊢
      rcases hskip.eat? ['|', '|'] hfar with ⟨hl, hl'⟩ | ⟨l, l', hl, hl', hsame⟩
      · rw [hl] at herror
        rw [hl']
        dsimp only at herror ⊢
        rcases hskip.eat? ['>'] (Nat.le_of_succ_le hfar) with ⟨hm, hm'⟩ | ⟨m, m', hm, hm', hsame⟩
        · rw [hm] at herror
          rw [hm', hskip.offset]
          exact herror
        · rw [hm] at herror
          rw [hm']
          dsimp only at herror ⊢
          have hfar' := (far_le_of_afterFlow_error herror).trans hn
          exact ih hsame herror hfar' (Nat.lt_of_succ_lt hfar')
            (hsame.skipBlanks (Nat.lt_of_succ_lt hfar'))
      · rw [hl] at herror
        cases herror
    · rw [hk] at herror
      cases herror

theorem stops_of_eat? {c : Char} (h : i.eat? [c] = none) : Stops (· == c) i.rest := by
  intro d hd
  rw [beq_eq_false_iff_ne]
  rintro rfl
  obtain ⟨rest, hrest⟩ := List.head?_eq_some_iff.mp hd
  have hpass : i.Passes [d] ⟨i.offset + 1, rest⟩ := ⟨hrest, rfl⟩
  rw [eat?_of_passes hpass] at h
  cases h

theorem readFlows_of_readApp_error (hopen : Stops (· == '<') i.rest)
    (h : readApp .task i = .error e) : readFlows depth i = .error e := by
  rw [readFlows]
  split
  · next k hk =>
    rw [eat?_of_stops hopen] at hk
    cases hk
  · split
    · next herror =>
      rw [h] at herror
      cases herror
      rfl
    · next hok =>
      rw [h] at hok
      cases hok

/-- The induction follows the reader: each part before the error ends before it, with all that was
looked at to see its end, and so the same part is read from the other input. -/
theorem sameError_readFlows (h : SameUpTo n i j) :
    SameError n (readFlows depth i) (readFlows depth j) := by
  intro e he hposition hcause
  have hi : i.near ≤ n := (breaksOff_of_readFlows he).near_le hposition
  fun_induction readFlows depth i generalizing j with
  | case1 depth i k hk hlt ih =>
    rcases h.eat? ['<'] hi with ⟨hnone, -⟩ | ⟨l, l', hl, hl', hsame⟩
    · rw [hk] at hnone
      cases hnone
    · rw [hk] at hl
      cases hl
      have hstart : k.skipBlanks.near ≤ n := (breaksOff_of_readFlows he).near_le hposition
      rw [readFlows_split (passes_of_eat? hl')]
      exact ih (hsame.skipBlanks hstart) he hstart
  | case2 depth i hopen error herror =>
    cases he
    have hread := decided_readApp (g := .task) h
    rw [herror] at hread
    exact readFlows_of_readApp_error (h.stops hi (stops_of_eat? hopen)) (hread hposition hcause)
  | case3 depth i hopen a k hk error herror =>
    cases he
    have hfar := (far_le_of_afterFlow_error herror).trans hposition
    have hread := decided_readApp (g := .task) h
    rw [hk] at hread
    obtain ⟨l, hl, hsame⟩ := hread hfar
    rw [readFlows_app (h.stops hi (stops_of_eat? hopen)) hl,
      afterFlow_error_of_same hsame herror hposition, resume]
  | case4 depth i hopen a k hk stop' hdone => cases he
  | case5 depth i hopen a k hk next l hl hlt error herror ih =>
    cases he
    have hstart : l.near ≤ n := (breaksOff_of_readFlows herror).near_le hposition
    have hfar : k.far ≤ n := (far_le_of_afterFlow hl).trans (Nat.le_of_lt hstart)
    have hread := decided_readApp (g := .task) h
    rw [hk] at hread
    obtain ⟨k', hk', hsame⟩ := hread hfar
    obtain ⟨l', hl', hsame'⟩ := afterFlow_flow_of_same hsame hl hstart a.span.stop
    rw [readFlows_app (h.stops hi (stops_of_eat? hopen)) hk', hl', resume, ih hsame' herror hstart]
  | case6 depth i hopen a k hk next l hl hlt more stop' hmore ih => cases he

theorem TaskDefinition.sameError_parse {name : String} {text text' : List Char} {start : Nat}
    (h : SameUpTo n (ofText text start) (ofText text' start)) :
    SameError n (TaskDefinition.parse name text start) (TaskDefinition.parse name text' start) := by
  intro e he hposition hcause
  simp only [TaskDefinition.parse] at he ⊢
  split at he
  · next hempty =>
    -- more text stands after this error, so it is not the end of the text
    cases he
    have hskip := h.skipBlanks (Nat.lt_of_succ_lt hposition)
    exact absurd (List.isEmpty_iff.mp hempty) (hskip.ne_nil (Nat.lt_of_succ_lt hposition))
  · split at he
    · next herror =>
      cases he
      have hi : (ofText text start).skipBlanks.offset < n :=
        (breaksOff_of_readFlows herror).near_le hposition
      have hskip := h.skipBlanks hi
      have hne : ¬ (ofText text' start).skipBlanks.rest.isEmpty = true := by
        rw [List.isEmpty_iff]
        exact hskip.symm.ne_nil (by rwa [hskip.offset])
      rw [if_neg hne, sameError_readFlows hskip e herror hposition hcause]
    · cases he

end Tasks

/-! ## Exact errors -/

/-- The error `e` lies where the text ceases to be the beginning of one that is accepted: what
stands before it is such a beginning, and with the two characters from there on it is not. A quote
that is not closed could be closed later on, so nothing is said of what follows it. -/
structure SyntaxError.IsExact (accepts : List Char → Prop) (text : List Char)
    (e : SyntaxError) : Prop where
  position_le : e.position ≤ text.length
  viable : ∃ accepted, accepts accepted ∧ text.take e.position <+: accepted
  refused : e.cause ≠ .unterminatedQuote → e.position + 2 ≤ text.length →
    ∀ accepted, accepts accepted → ¬ text.take (e.position + 2) <+: accepted
  found : ∀ c, e.cause = .unexpectedCharacter c → text[e.position]? = some c

/-- The two halves together, for a reader that starts after the text `before`: what has been read
can be completed, and a text with the same characters up to the error has the same error. -/
theorem SyntaxError.isExact_of_breaksOff {β : Type} {read : List Char → Except SyntaxError β}
    {texts : List Char → Prop} (before : List Char) {rest : List Char} {e : SyntaxError}
    (h : read (before ++ rest) = .error e)
    (hplace : BreaksOff (ofText (before ++ rest) before.length) e texts)
    (htexts : ∀ text, texts text → ∃ b, read (before ++ text) = .ok b)
    (hsame : ∀ n text',
      SameUpTo n (ofText (before ++ rest) before.length) (ofText text' before.length) →
      SameError n (read (before ++ rest)) (read text')) :
    e.IsExact (fun text => ∃ b, read text = .ok b) (before ++ rest) := by
  have hstart := hplace.offset_le
  have hle := hplace.position_le (standsIn_ofText _ _)
  obtain ⟨part, k, more, ⟨hpass, hposition, hfound⟩, htext⟩ := hplace
  obtain ⟨hrest, hoffset⟩ := passes_ofText_append before rest
  rw [List.append_nil] at hrest
  have hlength : e.position = (before ++ part).length := by
    rw [hposition, hpass.offset]
    simp [ofText]
  have hall : before ++ rest = (before ++ part) ++ k.rest := by
    rw [List.append_assoc, ← hpass.rest, hrest]
  refine ⟨hle, ⟨_, htexts _ htext, ?_⟩, ?_, ?_⟩
  · rw [hall, hlength, List.take_left, ← List.append_assoc]
    exact List.prefix_append _ _
  · rintro hcause hle accepted ⟨b, hb⟩ ⟨after, rfl⟩
    have hbefore : before.length ≤ e.position + 2 := by
      simp only [ofText, List.length_append] at hstart
      omega
    rw [hsame _ _ (sameUpTo_ofText hbefore hle after) e h (Nat.le_refl _) hcause] at hb
    cases hb
  · intro c hc
    rw [hall, hlength, List.getElem?_append_right (Nat.le_refl _), Nat.sub_self,
      ← List.head?_eq_getElem?, hfound c hc]

/-- **Errors lie where they show**, in streams, and in tasks that are read from some column on. -/
theorem parse_error_isExact :
    (∀ text e, StreamDefinition.parse text = .error e →
      e.IsExact (fun text => ∃ s, StreamDefinition.parse text = .ok s) text) ∧
    ∀ name text start e, start ≤ text.length → TaskDefinition.parse name text start = .error e →
      e.IsExact (fun text => ∃ task, TaskDefinition.parse name text start = .ok task) text := by
  constructor
  · intro text e h
    refine SyntaxError.isExact_of_breaksOff [] h (StreamDefinition.breaksOff_of_parse h) ?_ ?_
    · rintro text ⟨t, ht⟩
      obtain ⟨s, hs, -⟩ := ht.parse
      exact ⟨s, hs⟩
    · exact fun n text' => StreamDefinition.sameError_parse
  · intro name text start e hstart h
    obtain ⟨before, rest, rfl, rfl⟩ : ∃ before rest, text = before ++ rest ∧
        start = before.length :=
      ⟨text.take start, text.drop start, (List.take_append_drop start text).symm,
        (List.length_take_of_le hstart).symm⟩
    refine SyntaxError.isExact_of_breaksOff before h (TaskDefinition.breaksOff_of_parse h) ?_ ?_
    · rintro text ⟨t, ht⟩
      obtain ⟨task, htask, -⟩ := ht.parse_append name before
      exact ⟨task, htask⟩
    · exact fun n text' => TaskDefinition.sameError_parse

/-- Two errors that come after something that looks like the beginning of another part: a word that
could have been a name, and an option of which only the name is there. -/
theorem brokenDefinitions_isExact :
    SyntaxError.IsExact (fun text => ∃ s, StreamDefinition.parse text = .ok s)
      "s = :in > a --x=1 b".toList ⟨18, .unexpectedCharacter 'b'⟩ ∧
    SyntaxError.IsExact (fun text => ∃ task, TaskDefinition.parse "t" text 4 = .ok task)
      "t = <a || b --x && c>".toList ⟨15, .expectedCharacter '='⟩ :=
  ⟨parse_error_isExact.1 _ _ (by decide +kernel),
    parse_error_isExact.2 "t" _ 4 _ (by decide) (by decide +kernel)⟩

end Flowline
