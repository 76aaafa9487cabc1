import Flowline.Proofs.Columns
import Flowline.Proofs.TrailingBlanks

/-!
# Bodies on their own

The body of a definition is the part of its line that its span covers. Before it stand blanks and
perhaps a name, after it only blanks. So its text can be read on its own, and gives the same parts:
what stands before it only moves the columns, and no reader takes the blanks behind it.

* `exists_stop_of_readFlow`, `exists_stop_of_readFlows`: the span of a definition leaves only blanks
  behind it;
* `StreamDefinition.exists_parse_body`, `TaskDefinition.exists_parse_body`: what is read from a
  body;
* `parse_body_alone`: the text of a definition, read on its own.
-/

namespace Flowline

open Character Input

/-! ## Where definitions end -/

section Ends

variable {i j : Input} {depth stop : Nat}

/-- The span of an app ends where the reader stands after it. -/
theorem stop_of_readApp {g : Grammar} {a : App} (h : readApp g i = .ok (a, j)) :
    i.Reaches j ∧ a.span.stop = j.offset := by
  have hstands : StandsIn (List.replicate i.offset ' ' ++ i.rest) i :=
    ⟨_, rfl, List.length_replicate.symm⟩
  obtain ⟨-, hreach, hspan⟩ := readApp_spelled hstands h
  exact ⟨hreach, by rw [hspan]⟩

/-- Behind the last app there are only blanks before what comes next. -/
theorem exists_stop_of_readPipeline {apps : List App} (h : readPipeline i = .ok (apps, j)) :
    ∃ l, i.Reaches l ∧ apps.getLast?.map (·.span.stop) = some l.offset ∧ j = l.skipBlanks := by
  fun_induction readPipeline i generalizing apps j with
  | case1 i e he => cases h
  | case2 i app k hk hpipes => cases h
  | case3 i app k hk hpipes hend =>
    cases h
    obtain ⟨hreach, hstop⟩ := stop_of_readApp hk
    exact ⟨k, hreach, by rw [List.getLast?_singleton, Option.map_some, hstop], rfl⟩
  | case4 i app k hk hpipes l hl hlt e he ih => cases h
  | case5 i app k hk hpipes l hl hlt more m hm ih =>
    cases h
    obtain ⟨last, hreach, hstop, rfl⟩ := ih hm
    have hnext := (stop_of_readApp hk).1.trans (reaches_of_eat?_skipBlanks hl)
    refine ⟨last, (hnext.trans (reaches_skipBlanks l)).trans hreach, ?_, rfl⟩
    cases hlast : more.getLast? with
    | none =>
      rw [hlast] at hstop
      cases hstop
    | some a =>
      rw [hlast] at hstop
      rw [List.getLast?_cons, hlast]
      exact hstop

/-- The parts of a stream end where only blanks are left before what comes next. -/
theorem exists_stop_of_readFlow {source sink : Option Destination} {apps : List App} {k : Input}
    (start : Nat) (h : readFlow source i = .ok ((apps, sink), k)) :
    ∃ l, i.Reaches l ∧ flowStop start apps sink = l.offset ∧ l.skipBlanks = k.skipBlanks := by
  have hsink : ∀ {i k : Input} {q : Destination}, readDestination i = .ok (q, k) →
      i.Reaches k ∧ q.span.stop = k.offset := by
    intro i k q hq
    obtain ⟨l, hcolon, hname, hspan⟩ := passes_of_readDestination hq
    exact ⟨(hcolon.trans hname).reaches, by rw [hspan]⟩
  simp only [readFlow] at h
  split at h
  · split at h
    · cases h
    · next q l hq =>
      cases h
      exact ⟨k, (hsink hq).1, (hsink hq).2, rfl⟩
  · split at h
    · cases h
    · next apps' j hj =>
      obtain ⟨l, hreach, hstop, rfl⟩ := exists_stop_of_readPipeline hj
      split at h
      · cases h
      · next sink' m hm =>
        cases h
        simp only [readSink] at hm
        split at hm
        · cases hm
          refine ⟨l, hreach, ?_, ?_⟩
          · rw [flowStop, hstop, Option.getD_some]
          · exact (skipBlanks_of_stops (stops_skipBlanks l)).symm
        · next n hn =>
          split at hm
          · cases hm
          · next q o hq =>
            cases hm
            have hbefore := (reaches_of_eat?_skipBlanks hn).trans (reaches_skipBlanks n)
            exact ⟨k, (hreach.trans hbefore).trans (hsink hq).1, (hsink hq).2, rfl⟩

theorem reaches_of_readSource {source : Option Destination} (h : readSource i = .ok (source, j)) :
    i.Reaches j := by
  obtain ⟨text, -, hpass⟩ := written_of_readSource h
  exact hpass.reaches

/-- The body of a stream is what the reader has passed over, up to blanks. -/
theorem passes_of_readStreamBody {name : Option DeclaredName} {s : StreamDefinition}
    (h : readStreamBody name i = .ok s) :
    ∃ l, i.Passes s.body.toList l ∧ IsBlanks l.rest := by
  obtain ⟨j, k, hj, hk, hend, -, hspan, hbody⟩ := parts_of_readStreamBody h
  obtain ⟨l, hreach, hstop, hskip⟩ := exists_stop_of_readFlow i.offset hk
  obtain ⟨word, hpass⟩ := (reaches_of_readSource hj).trans hreach
  have hlength : s.span.stop - i.offset = word.length := by
    have hoffset := hpass.offset
    rw [hspan]
    simp only [hstop]
    omega
  refine ⟨l, ?_, isBlanks_of_skipBlanks (by rw [hskip, hend])⟩
  rw [hbody, hlength, hpass.rest, List.take_left, String.toList_ofList]
  exact hpass

theorem exists_stop_of_afterFlow {last : Nat} (h : afterFlow depth stop i = .ok (.done last))
    (hstop : stop = i.offset) : ∃ l, i.Reaches l ∧ last = l.offset ∧ IsBlanks l.rest := by
  induction depth generalizing stop i with
  | zero =>
    rcases afterFlow_cases h with ⟨k, -, hr⟩ | ⟨-, hend, hr⟩ | ⟨outer, -, hd, -⟩ | ⟨outer, -, hd, -⟩
    · cases hr
    · cases hr
      exact ⟨i, .refl i, hstop, isBlanks_of_skipBlanks hend⟩
    · cases hd
    · cases hd
  | succ outer ih =>
    rcases afterFlow_cases h with ⟨k, -, hr⟩ | ⟨hd, -⟩ | ⟨-, k, -, -, hr⟩ |
      ⟨outer, k, hd, hk, hclose⟩
    · cases hr
    · cases hd
    · cases hr
    · cases hd
      obtain ⟨l, hreach, hlast, hblanks⟩ := ih hclose rfl
      exact ⟨l, ((reaches_skipBlanks i).trans hk.reaches).trans hreach, hlast, hblanks⟩

/-- A task ends where only blanks are left. -/
theorem exists_stop_of_readFlows {apps : List App} (h : readFlows depth i = .ok (apps, stop)) :
    ∃ l, i.Reaches l ∧ stop = l.offset ∧ IsBlanks l.rest := by
  fun_induction readFlows depth i generalizing apps stop with
  | case1 depth i j hj hlt ih =>
    obtain ⟨l, hreach, hstop, hblanks⟩ := ih h
    exact ⟨l, ((passes_of_eat? hj).reaches.trans (reaches_skipBlanks j)).trans hreach,
      hstop, hblanks⟩
  | case2 depth i hopen e he => cases h
  | case3 depth i hopen app j hj e he => cases h
  | case4 depth i hopen app j hj last hdone =>
    cases h
    obtain ⟨hreach, hstop⟩ := stop_of_readApp hj
    obtain ⟨l, hmore, hlast, hblanks⟩ := exists_stop_of_afterFlow hdone hstop
    exact ⟨l, hreach.trans hmore, hlast, hblanks⟩
  | case5 depth i hopen app j hj inner k hk hlt e he ih => cases h
  | case6 depth i hopen app j hj inner k hk hlt more last hmore ih =>
    cases h
    obtain ⟨l, hreach, hstop, hblanks⟩ := ih hmore
    exact ⟨l, ((stop_of_readApp hj).1.trans (reaches_of_afterFlow hk)).trans hreach, hstop, hblanks⟩

end Ends

/-! ## The text of a definition -/

/-- A stream without its name, with its body at the start of the line. -/
def StreamDefinition.alone (s : StreamDefinition) : StreamDefinition :=
  { s with name := none }.mapSpans (Span.moveLeft s.span.start)

/-- A task with its body at the start of the line. -/
def TaskDefinition.alone (t : TaskDefinition) : TaskDefinition :=
  t.mapSpans (Span.moveLeft t.span.start)

section Alone

variable {text : List Char}

/-- What is passed over up to blanks is the input without these blanks. -/
theorem trimmed_of_passes {i l : Input} {word : List Char} (h : i.Passes word l)
    (hl : IsBlanks l.rest) : Trimmed i ⟨i.offset, word⟩ :=
  ⟨rfl, l.rest, hl, h.rest⟩

/-- A body at the start of a line is not taken for a name. -/
theorem StreamDefinition.parse_of_readStreamBody {s : StreamDefinition}
    (h : readStreamBody none ⟨0, text⟩ = .ok s) : StreamDefinition.parse text = .ok s := by
  obtain ⟨-, body, k, hwritten, hpass, hblanks⟩ := written_of_readStreamBody h
  obtain ⟨-, hstops, hunnamed⟩ := hwritten.starts hblanks
  have hrest : text = body ++ k.rest := hpass.rest
  rw [← hrest] at hstops hunnamed
  have hstart : (ofText text 0).skipBlanks = ⟨0, text⟩ := by
    rw [ofText_zero]
    exact skipBlanks_of_stops hstops
  have hname : readName ⟨0, text⟩ = (none, ⟨0, text⟩) := readName_of_unnamed hunnamed
  have hskip : Input.skipBlanks ⟨0, text⟩ = ⟨0, text⟩ := skipBlanks_of_stops hstops
  rw [StreamDefinition.parse, hstart, hname]
  simp only [hskip, h]

theorem StreamDefinition.exists_parse_body {s : StreamDefinition}
    (h : StreamDefinition.parse text = .ok s) :
    ∃ s', StreamDefinition.parse s.body.toList = .ok s' ∧
      s'.mapSpans (Span.moveRight s.span.start) = { s with name := none } := by
  rw [StreamDefinition.parse] at h
  cases hname : readName (ofText text 0).skipBlanks with
  | mk name i =>
    rw [hname] at h
    have hread : readStreamBody name i.skipBlanks = .ok s := h
    obtain ⟨l, hpass, hblanks⟩ := passes_of_readStreamBody hread
    obtain ⟨-, -, -, -, -, -, hspan, -⟩ := parts_of_readStreamBody hread
    have hstart : s.span.start = i.skipBlanks.offset := by rw [hspan]
    -- without the blanks behind it, and then without what stands before it
    have halone : readStreamBody none ⟨i.skipBlanks.offset, s.body.toList⟩ =
        .ok { s with name := none } :=
      readStreamBody_trimmed (trimmed_of_passes hpass hblanks) hread rfl
    have hmoved := readStreamBody_moved (n := i.skipBlanks.offset) none ⟨0, s.body.toList⟩
    simp only [moveRight, Nat.zero_add, Option.map_none, halone] at hmoved
    cases hzero : readStreamBody none ⟨0, s.body.toList⟩ with
    | error e =>
      rw [hzero] at hmoved
      cases hmoved
    | ok s' =>
      rw [hzero] at hmoved
      refine ⟨s', parse_of_readStreamBody hzero, ?_⟩
      rw [hstart]
      exact (Except.ok.inj hmoved).symm

theorem TaskDefinition.parse_of_readFlows {name : String} {apps : List App} {stop : Nat}
    (hstops : Stops isBlank text) (h : readFlows 0 ⟨0, text⟩ = .ok (apps, stop)) :
    TaskDefinition.parse name text 0 =
      .ok ⟨name, apps, ⟨0, stop⟩, String.ofList (text.take stop)⟩ := by
  have hstart : (ofText text 0).skipBlanks = ⟨0, text⟩ := by
    rw [ofText_zero]
    exact skipBlanks_of_stops hstops
  have hne : ¬ text.isEmpty = true := by
    rw [List.isEmpty_iff]
    exact ne_nil_of_readFlows h
  simp only [TaskDefinition.parse, hstart, if_neg hne, h, Nat.sub_zero]

theorem TaskDefinition.exists_parse_body {name : String} {start : Nat} {t : TaskDefinition}
    (h : TaskDefinition.parse name text start = .ok t) :
    ∃ t', TaskDefinition.parse name t.body.toList 0 = .ok t' ∧
      t'.mapSpans (Span.moveRight t.span.start) = t := by
  simp only [TaskDefinition.parse] at h
  split at h
  · cases h
  · split at h
    · cases h
    · next apps stop hread =>
      cases h
      have hstops := stops_skipBlanks (ofText text start)
      generalize (ofText text start).skipBlanks = i at hread hstops
      obtain ⟨l, ⟨word, hpass⟩, hstop, hblanks⟩ := exists_stop_of_readFlows hread
      have htrimmed := trimmed_of_passes hpass hblanks
      have hlength : stop = word.length + i.offset := by rw [hstop, hpass.offset, Nat.add_comm]
      have hbody : i.rest.take (stop - i.offset) = word := by
        rw [hlength, Nat.add_sub_cancel, hpass.rest, List.take_left]
      simp only [hbody, String.toList_ofList]
      have hmoved := readFlows_moved (n := i.offset) 0 ⟨0, word⟩
      simp only [moveRight, Nat.zero_add, readFlows_trimmed htrimmed hread] at hmoved
      cases hzero : readFlows 0 ⟨0, word⟩ with
      | error e =>
        rw [hzero] at hmoved
        cases hmoved
      | ok result =>
        obtain ⟨apps', stop'⟩ := result
        rw [hzero] at hmoved
        cases hmoved
        obtain rfl : stop' = word.length := Nat.add_right_cancel hlength
        refine ⟨_, parse_of_readFlows (htrimmed.stops hstops) hzero, ?_⟩
        simp only [mapSpans, Span.moveRight, Nat.zero_add, List.take_length]

/-- The text of a definition, read on its own, gives the same definition: the body of a stream gives
the stream without its name, that of a task the task, and every span has moved to the left by the
column at which the definition starts. -/
theorem parse_body_alone (text : List Char) :
    (∀ s, StreamDefinition.parse text = .ok s →
      StreamDefinition.parse s.body.toList = .ok s.alone ∧
        s.alone.mapSpans (Span.moveRight s.span.start) = { s with name := none }) ∧
    ∀ name start t, TaskDefinition.parse name text start = .ok t →
      TaskDefinition.parse name t.body.toList 0 = .ok t.alone ∧
        t.alone.mapSpans (Span.moveRight t.span.start) = t := by
  constructor
  · intro s h
    obtain ⟨s', hparse, hmoved⟩ := StreamDefinition.exists_parse_body h
    have halone : s.alone = s' := by
      rw [StreamDefinition.alone, ← hmoved]
      exact StreamDefinition.mapSpans_of_leftInverse (Span.moveLeft_moveRight _) s'
    rw [halone]
    exact ⟨hparse, hmoved⟩
  · intro name start t h
    obtain ⟨t', hparse, hmoved⟩ := TaskDefinition.exists_parse_body h
    have halone : t.alone = t' :=
      calc t.alone =
          (t'.mapSpans (Span.moveRight t.span.start)).mapSpans (Span.moveLeft t.span.start) := by
            rw [hmoved, TaskDefinition.alone]
        _ = t' := TaskDefinition.mapSpans_of_leftInverse (Span.moveLeft_moveRight _) t'
    rw [halone]
    exact ⟨hparse, hmoved⟩

/-- A stream behind its name and a task behind an inline name, both with a blank at the end of the
line. -/
theorem namedDefinitions_alone :
    (StreamDefinition.parse " s = :in > log --x=1 ".toList =
        .ok ⟨some ⟨"s", ⟨1, 2⟩⟩, some ⟨"in", ⟨6, 8⟩⟩, none,
          [⟨none, "log", ⟨11, 14⟩, [⟨"x", "1", ⟨15, 20⟩⟩], ⟨11, 20⟩⟩], ⟨5, 20⟩, ":in > log --x=1"⟩ ∧
      StreamDefinition.parse ":in > log --x=1".toList =
        .ok ⟨none, some ⟨"in", ⟨1, 3⟩⟩, none,
          [⟨none, "log", ⟨6, 9⟩, [⟨"x", "1", ⟨10, 15⟩⟩], ⟨6, 15⟩⟩], ⟨0, 15⟩, ":in > log --x=1"⟩) ∧
    TaskDefinition.parse "t" "t = <a || b> ".toList 3 =
        .ok ⟨"t", [⟨none, "a", ⟨5, 6⟩, [], ⟨5, 6⟩⟩, ⟨none, "b", ⟨10, 11⟩, [], ⟨10, 11⟩⟩], ⟨4, 12⟩,
          "<a || b>"⟩ ∧
      TaskDefinition.parse "t" "<a || b>".toList 0 =
        .ok ⟨"t", [⟨none, "a", ⟨1, 2⟩, [], ⟨1, 2⟩⟩, ⟨none, "b", ⟨6, 7⟩, [], ⟨6, 7⟩⟩], ⟨0, 8⟩,
          "<a || b>"⟩ := by
  have hstream : StreamDefinition.parse " s = :in > log --x=1 ".toList =
      .ok ⟨some ⟨"s", ⟨1, 2⟩⟩, some ⟨"in", ⟨6, 8⟩⟩, none,
        [⟨none, "log", ⟨11, 14⟩, [⟨"x", "1", ⟨15, 20⟩⟩], ⟨11, 20⟩⟩], ⟨5, 20⟩,
        ":in > log --x=1"⟩ := by
    decide +kernel
  have htask : TaskDefinition.parse "t" "t = <a || b> ".toList 3 =
      .ok ⟨"t", [⟨none, "a", ⟨5, 6⟩, [], ⟨5, 6⟩⟩, ⟨none, "b", ⟨10, 11⟩, [], ⟨10, 11⟩⟩], ⟨4, 12⟩,
        "<a || b>"⟩ := by
    decide +kernel
  exact ⟨⟨hstream, ((parse_body_alone _).1 _ hstream).1⟩, htask,
    ((parse_body_alone _).2 _ _ _ htask).1⟩

end Alone

end Flowline
