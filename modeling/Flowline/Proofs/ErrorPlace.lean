import Flowline.Proofs.StreamGrammar
import Flowline.Proofs.TaskGrammar

/-!
# Where errors lie

An error lies at a place that reading comes to, and nothing is wrong before it: what has been read
up to there is the beginning of a text that is accepted. How that text goes on depends on what was
being read, so it is found part by part. A name or a value is put where one is missing, and the
splits that are still open are closed.

* `ErrorAt`, `BreaksOff`: the place of an error, and a text that goes on from there;
* `breaksOff_of_readApp`: errors in apps;
* `breaksOff_of_readStreamBody`, `StreamDefinition.breaksOff_of_parse`: errors in streams;
* `breaksOff_of_readFlows`, `TaskDefinition.breaksOff_of_parse`: errors in tasks.
-/

namespace Flowline

open Character Input

/-- Going forward from the input `i` over the text `read`, one comes to the input `k` at which the
error `e` lies. A character that was not expected is the one that comes next there. -/
structure ErrorAt (i : Input) (e : SyntaxError) (read : List Char) (k : Input) : Prop where
  passes : i.Passes read k
  position : e.position = k.offset
  found : ∀ c, e.cause = .unexpectedCharacter c → k.rest.head? = some c

/-- What stands before the error `e`, from the input `i` on, can be completed to one of some
texts. -/
def BreaksOff (i : Input) (e : SyntaxError) (texts : List Char → Prop) : Prop :=
  ∃ read k more, ErrorAt i e read k ∧ texts (read ++ more)

section BreaksOff

variable {i j : Input} {e : SyntaxError} {texts texts' : List Char → Prop} {before : List Char}

theorem BreaksOff.after (h : BreaksOff j e texts) (hpass : i.Passes before j)
    (htexts : ∀ text, texts text → texts' (before ++ text)) : BreaksOff i e texts' := by
  obtain ⟨read, k, more, hplace, htext⟩ := h
  refine ⟨before ++ read, k, more, ⟨hpass.trans hplace.passes, hplace.position, hplace.found⟩, ?_⟩
  rw [List.append_assoc]
  exact htexts _ htext

theorem BreaksOff.extend (h : BreaksOff i e texts)
    (htexts : ∀ text, texts text → ∃ more, texts' (text ++ more)) : BreaksOff i e texts' := by
  obtain ⟨read, k, more, hplace, htext⟩ := h
  obtain ⟨more', htext'⟩ := htexts _ htext
  refine ⟨read, k, more ++ more', hplace, ?_⟩
  rwa [← List.append_assoc]

theorem BreaksOff.offset_le (h : BreaksOff i e texts) : i.offset ≤ e.position := by
  obtain ⟨read, k, more, hplace, -⟩ := h
  rw [hplace.position]
  exact hplace.passes.reaches.offset_le

theorem BreaksOff.position_le {text : List Char} (h : BreaksOff i e texts) (hi : StandsIn text i) :
    e.position ≤ text.length := by
  obtain ⟨read, k, more, hplace, -⟩ := h
  rw [hplace.position]
  exact (hi.of_reaches hplace.passes.reaches).offset_le

/-- Something is missing that can be put there. -/
theorem breaksOff_missing {cause : SyntaxError.Cause} (more : List Char) (hpass : i.Passes before j)
    (hcause : ∀ c, cause ≠ .unexpectedCharacter c) (h : texts (before ++ more)) :
    BreaksOff i ⟨j.offset, cause⟩ texts :=
  ⟨before, j, more, ⟨hpass, rfl, fun c hc => absurd hc (hcause c)⟩, h⟩

/-- The text could have ended at a character that was not expected. -/
theorem breaksOff_unexpected {c : Char} {rest : List Char} (hpass : i.Passes before j)
    (hrest : j.rest = c :: rest) (h : texts before) :
    BreaksOff i ⟨j.offset, .unexpectedCharacter c⟩ texts := by
  refine ⟨before, j, [], ⟨hpass, rfl, ?_⟩, by rwa [List.append_nil]⟩
  rintro d hd
  cases hd
  rw [hrest, List.head?_cons]

end BreaksOff

/-! ## Apps -/

/-- What is put where a name or a value is missing. -/
def filler : String := "x"

theorem isWord_filler {p : Char → Bool} (hp : p 'x' = true) : IsWord p filler.toList := by
  refine ⟨by decide, fun c hc => ?_⟩
  have hc : c = 'x' := by simpa [filler] using hc
  rw [hc, hp]

theorem valueWritten_filler (g : Grammar) : ValueWritten g filler .bare filler.toList := by
  refine .bare (by decide) (stops_cons.mpr (by decide)) fun c hc => ?_
  have hc : c = 'x' := by simpa [filler] using hc
  cases g <;> rw [hc] <;> decide

theorem appWritten_filler (g : Grammar) :
    AppTerm.Written g ⟨none, filler, []⟩ .name filler.toList := by
  have happ : AppTerm.Written g ⟨none, filler, []⟩ .name (filler.toList ++ []) :=
    .plain (isWord_filler (by decide)) (.nil .name)
  rwa [List.append_nil] at happ

section Apps

variable {g : Grammar} {i : Input} {e : SyntaxError}

theorem breaksOff_of_readOptionValue {option : String} (h : readOptionValue g option i = .error e) :
    BreaksOff i e fun text => ∃ value last, ValueWritten g value last text := by
  by_cases hquote : Stops isQuote i.rest
  · rw [readOptionValue_of_stops hquote] at h
    split at h
    · cases h
      exact breaksOff_missing filler.toList (Passes.refl i) (by simp) ⟨_, _, valueWritten_filler g⟩
    · cases h
  · obtain ⟨quote, rest, hrest, hq⟩ := exists_cons_of_not_stops hquote
    rw [readOptionValue_of_quote hq hrest] at h
    split at h
    · cases h
      exact breaksOff_missing filler.toList (Passes.refl i) (by simp) ⟨_, _, valueWritten_filler g⟩
    · cases h

theorem breaksOff_of_readArgument (hs : i.startsWith ['-', '-'] = true)
    (h : readArgument g i = .error e) :
    BreaksOff i e fun text => ∃ name value last written, IsWord isDottedChar (String.toList name) ∧
      ValueWritten g value last written ∧
        text = ['-', '-'] ++ (name.toList ++ (['='] ++ written)) := by
  have hdashes : i.Passes ['-', '-'] (i.advance 2) := passes_advance hs
  have hname := passes_skipWhile isDottedChar (i.advance 2)
  simp only [readArgument] at h
  split at h
  · next hempty =>
    cases h
    rw [List.isEmpty_iff.mp hempty] at hname
    exact breaksOff_missing (filler.toList ++ (['='] ++ filler.toList))
      (hdashes.trans hname) (by simp)
      ⟨_, _, _, _, isWord_filler (by decide), valueWritten_filler g, rfl⟩
  · next hne =>
    have hword := isWord_toList_ofList (isWord_word hne)
    split at h
    · cases h
      refine breaksOff_missing (['='] ++ filler.toList) (hdashes.trans hname) (by simp)
        ⟨_, _, _, _, hword, valueWritten_filler g, ?_⟩
      rw [String.toList_ofList, List.append_assoc]
    · next l hl =>
      split at h
      · next hvalue =>
        cases h
        refine (breaksOff_of_readOptionValue hvalue).after
          (hdashes.trans (hname.trans (passes_of_eat? hl))) ?_
        rintro text ⟨value, last, hwritten⟩
        refine ⟨_, _, _, _, hword, hwritten, ?_⟩
        simp only [String.toList_ofList, List.append_assoc]
      · cases h

/-- The options that could not be read, from the blanks before them on. -/
theorem breaksOff_of_readArguments (before : Ending) (hclosed : before.Closed g i.rest)
    (h : readArguments g i = .error e) :
    BreaksOff i e (fun text => ∃ options last, OptionsWritten g before options last text) ∧
      i.skipBlanks.offset ≤ e.position := by
  fun_induction readArguments g i generalizing before with
  | case1 i hs error herror =>
    cases h
    have hargument := breaksOff_of_readArgument hs herror
    have hblanks := passes_skipBlanks i
    refine ⟨hargument.after hblanks ?_, hargument.offset_le⟩
    rintro text ⟨name, value, last, written, hname, hvalue, rfl⟩
    refine ⟨[(name, value)], last, ?_⟩
    have hgap : before ≠ .quoted → i.word isBlank ≠ [] := by
      rw [hblanks.rest, (passes_advance hs).rest] at hclosed
      exact Ending.ne_nil_of_dash hclosed
    have hoptions := OptionsWritten.cons (isBlanks_word i) hgap hname hvalue (.nil last)
    rwa [List.append_nil] at hoptions
  | case2 i hs o k hk hlt error herror ih =>
    cases h
    obtain ⟨hname, ending, written, hvalue, hpass, hnext⟩ := written_of_readArgument hs hk
    have hmore := (ih ending hnext herror).1
    have hblanks := passes_skipBlanks i
    refine ⟨hmore.after (hblanks.trans hpass) ?_,
      hpass.reaches.offset_le.trans hmore.offset_le⟩
    rintro text ⟨options, last, hoptions⟩
    have hgap : before ≠ .quoted → i.word isBlank ≠ [] := by
      rw [hblanks.rest, hpass.rest] at hclosed
      exact Ending.ne_nil_of_dash hclosed
    have hall := OptionsWritten.cons (isBlanks_word i) hgap hname hvalue hoptions
    exact ⟨_, last, by simpa only [List.append_assoc] using hall⟩
  | case3 i hs o k hk hlt more l hl ih => cases h
  | case4 i hs => cases h

theorem breaksOff_of_readAppName (h : readAppName i = .error e) :
    BreaksOff i e fun text => ∃ a last, AppTerm.Written g a last text := by
  simp only [readAppName] at h
  split at h
  · cases h
    exact breaksOff_missing filler.toList (Passes.refl i) (by simp) ⟨_, _, appWritten_filler g⟩
  · next hne =>
    split at h
    · cases h
    · next k hk =>
      split at h
      · cases h
        have happ := AppTerm.Written.labelled (isWord_toList_ofList (isWord_word hne))
          (isWord_filler (by decide)) (.nil (g := g) .name)
        rw [String.toList_ofList, List.append_nil] at happ
        exact breaksOff_missing filler.toList
          ((passes_skipWhile isNameChar i).trans (passes_of_eat? hk))
          (by simp) ⟨_, _, by simpa only [List.append_assoc] using happ⟩
      · cases h

theorem breaksOff_of_readApp (h : readApp g i = .error e) :
    BreaksOff i e fun text => ∃ a last, AppTerm.Written g a last text := by
  simp only [readApp] at h
  split at h
  · next herror =>
    cases h
    exact breaksOff_of_readAppName herror
  · next label name nameSpan j hj =>
    split at h
    · next herror =>
      cases h
      obtain ⟨hstops, word, hword, hwritten⟩ := written_of_readAppName (g := g) hj
      refine (breaksOff_of_readArguments .name hstops herror).1.after hword ?_
      rintro text ⟨options, last, hoptions⟩
      exact ⟨_, last, hwritten options last text hoptions⟩
    · cases h

end Apps

/-! ## Streams -/

section Streams

variable {i j : Input} {e : SyntaxError}

theorem breaksOff_of_readDestination (h : readDestination i = .error e) :
    BreaksOff i e fun text => ∃ name, IsWord isDottedChar (String.toList name) ∧
      text = [':'] ++ name.toList := by
  simp only [readDestination] at h
  split at h
  · cases h
    exact breaksOff_missing ([':'] ++ filler.toList) (Passes.refl i) (by simp)
      ⟨filler, isWord_filler (by decide), rfl⟩
  · next j hj =>
    split at h
    · cases h
      exact breaksOff_missing filler.toList (passes_of_eat? hj) (by simp)
        ⟨filler, isWord_filler (by decide), rfl⟩
    · cases h

theorem breaksOff_of_readSource (h : readSource i = .error e) :
    BreaksOff i e fun text => ∃ source, SourceWritten source text := by
  simp only [readSource] at h
  split at h
  · split at h
    · next herror =>
      cases h
      refine (breaksOff_of_readDestination herror).extend ?_
      rintro text ⟨name, hname, rfl⟩
      refine ⟨['>'], some name, ?_⟩
      have hsource := SourceWritten.present hname isBlanks_nil isBlanks_nil
      simpa only [List.append_assoc, List.append_nil, List.nil_append] using hsource
    · next q j hj =>
      split at h
      · cases h
        obtain ⟨hname, hpass⟩ := written_of_readDestination hj
        have hsource := SourceWritten.present hname (isBlanks_word j) isBlanks_nil
        rw [List.append_nil] at hsource
        exact breaksOff_missing ['>'] (hpass.trans (passes_skipBlanks j)) (by simp)
          ⟨_, by simpa only [List.append_assoc] using hsource⟩
      · cases h
  · cases h

theorem breaksOff_of_readPipeline (h : readPipeline i = .error e) :
    BreaksOff i e fun text => ∃ apps last, PipelineWritten apps last text := by
  fun_induction readPipeline i with
  | case1 i error herror =>
    cases h
    refine (breaksOff_of_readApp herror).extend ?_
    rintro text ⟨a, last, happ⟩
    exact ⟨[], [a], last, by rw [List.append_nil]; exact .last happ⟩
  | case2 i app j hj hpipes =>
    -- the first of the two pipes is fine, and an app could follow it
    cases h
    obtain ⟨last, written, happ, hpass, -⟩ := written_of_readApp hj
    have hpipe := PipelineWritten.pipe happ (isBlanks_word j) isBlanks_nil
      (.last (appWritten_filler .stream))
    exact breaksOff_missing (['|'] ++ filler.toList) (hpass.trans (passes_skipBlanks j)) (by simp)
      ⟨_, _, by simpa only [List.append_assoc, List.nil_append] using hpipe⟩
  | case3 i app j hj hpipes hend => cases h
  | case4 i app j hj hpipes k hk hlt error herror ih =>
    cases h
    obtain ⟨last, written, happ, hpass, -⟩ := written_of_readApp hj
    have hbefore := hpass.trans ((passes_skipBlanks j).trans
      ((passes_of_eat? hk).trans (passes_skipBlanks k)))
    refine (ih herror).after hbefore ?_
    rintro text ⟨apps, last', happs⟩
    have hpipe := PipelineWritten.pipe happ (isBlanks_word j) (isBlanks_word k) happs
    exact ⟨_, _, by simpa only [List.append_assoc] using hpipe⟩
  | case5 i app j hj hpipes k hk hlt more l hl ih => cases h

theorem breaksOff_of_readSink {before : Ending} (hclosed : before.Closed .stream i.rest)
    (h : readSink i.skipBlanks = .error e) :
    BreaksOff i e fun text => ∃ sink, SinkWritten before sink text := by
  simp only [readSink] at h
  split at h
  · cases h
  · next k hk =>
    split at h
    · next herror =>
      cases h
      have hblanks := passes_skipBlanks i
      have harrow := passes_of_eat? hk
      refine (breaksOff_of_readDestination herror).after
        (hblanks.trans (harrow.trans (passes_skipBlanks k))) ?_
      rintro text ⟨name, hname, rfl⟩
      refine ⟨some name, ?_⟩
      have hsink := SinkWritten.present (isBlanks_word i) (isBlanks_word k)
        (ne_nil_of_arrow hclosed hblanks harrow) hname
      simpa only [List.append_assoc] using hsink
    · cases h

theorem breaksOff_of_readFlow {first : List Char} {destination : Option Destination}
    (hsource : SourceWritten (destination.map (·.name)) first) (hpass : i.Passes first j)
    (h : readFlow destination j = .error e) :
    BreaksOff i e fun text => ∃ source apps sink, BodyWritten source apps sink text := by
  simp only [readFlow] at h
  split at h
  · next hbridge =>
    obtain ⟨d, hd⟩ := Option.isSome_iff_exists.mp (Bool.and_eq_true_iff.mp hbridge).1
    subst hd
    split at h
    · next herror =>
      cases h
      refine (breaksOff_of_readDestination herror).after hpass ?_
      rintro text ⟨name, hname, rfl⟩
      exact ⟨_, _, _, .bridge hsource hname⟩
    · cases h
  · split at h
    · next herror =>
      cases h
      refine (breaksOff_of_readPipeline herror).after hpass ?_
      rintro text ⟨apps, last, happs⟩
      have hbody := BodyWritten.pipeline hsource happs .absent
      rw [List.append_nil] at hbody
      exact ⟨_, _, _, hbody⟩
    · next nodes k hk =>
      split at h
      · next herror =>
        cases h
        obtain ⟨last, middle, l, happs, hmiddle, hclosed, rfl⟩ := written_of_readPipeline hk
        refine (breaksOff_of_readSink hclosed herror).after (hpass.trans hmiddle) ?_
        rintro text ⟨sink, hsink⟩
        have hbody := BodyWritten.pipeline hsource happs hsink
        exact ⟨_, _, _, by simpa only [List.append_assoc] using hbody⟩
      · cases h

/-- The body of a stream could have ended at what is not expected after it. -/
theorem breaksOff_of_readStreamBody {name : Option DeclaredName}
    (h : readStreamBody name i = .error e) :
    BreaksOff i e fun text => ∃ source apps sink body trail, BodyWritten source apps sink body ∧
      IsBlanks trail ∧ text = body ++ trail := by
  have happ : ∀ {source : Option String} {first : List Char}, SourceWritten source first →
      BodyWritten source [⟨none, filler, []⟩] none (first ++ filler.toList) := by
    intro source first hsource
    have hbody := BodyWritten.pipeline hsource (.last (appWritten_filler .stream)) .absent
    rwa [List.append_nil] at hbody
  simp only [readStreamBody] at h
  split at h
  · cases h
    exact breaksOff_missing filler.toList (Passes.refl i) (by simp)
      ⟨_, _, _, _, [], happ .absent, isBlanks_nil, rfl⟩
  · split at h
    · next herror =>
      cases h
      refine (breaksOff_of_readSource herror).extend ?_
      rintro text ⟨source, hsource⟩
      exact ⟨_, _, _, _, _, [], happ hsource, isBlanks_nil, (List.append_nil _).symm⟩
    · next destination j hj =>
      split at h
      · next herror =>
        cases h
        obtain ⟨first, hsource, hpass⟩ := written_of_readSource hj
        refine (breaksOff_of_readFlow hsource hpass herror).extend ?_
        rintro text ⟨source, apps, sink, hbody⟩
        exact ⟨[], _, _, _, _, [], hbody, isBlanks_nil, rfl⟩
      · next nodes destination' k hk =>
        split at h
        · next herror =>
          cases h
          obtain ⟨body, l, hbody, hpass, heq⟩ := written_of_readFlow hj hk
          rw [expectNothing, ← heq] at herror
          split at herror
          · cases herror
          · next c rest hrest =>
            cases herror
            exact breaksOff_unexpected (hpass.trans (passes_skipBlanks l)) hrest
              ⟨_, _, _, _, _, hbody, isBlanks_word l, rfl⟩
        · cases h

theorem StreamDefinition.breaksOff_of_parse {text : List Char}
    (h : StreamDefinition.parse text = .error e) :
    BreaksOff (ofText text 0) e fun text => ∃ t : StreamTerm, t.Written text := by
  rw [StreamDefinition.parse] at h
  cases hread : readName (ofText text 0).skipBlanks with
  | mk declared j =>
    rw [hread] at h
    obtain ⟨name, hname, hpass⟩ := written_of_readName hread (stops_skipBlanks _)
    refine (breaksOff_of_readStreamBody h).after ((passes_skipBlanks _).trans hpass) ?_
    rintro - ⟨source, apps, sink, body, trail, hbody, htrail, rfl⟩
    exact ⟨⟨declared.map (·.text), source, apps, sink⟩, _, name, body, trail,
      isBlanks_word (ofText text 0), hname, hbody, htrail, List.append_assoc _ _ _⟩

end Streams

/-! ## Tasks -/

/-- The texts that go on inside some splits to the end of the task: a sequence and what closes the
splits. -/
def InnerWritten (depth : Nat) (text : List Char) : Prop :=
  ∃ (s : SequenceTerm) (body closing : List Char) (others : List AppTerm), s.Written body ∧
    ClosingWritten depth others closing ∧ text = body ++ closing

section Tasks

variable {i j : Input} {e : SyntaxError} {depth stop : Nat}

/-- Splits can be closed by nothing but their ends. -/
theorem closingWritten_replicate {gap : List Char} (hgap : IsBlanks gap) (depth : Nat) :
    ClosingWritten depth [] (gap ++ List.replicate depth '>') := by
  induction depth generalizing gap with
  | zero =>
    rw [List.replicate_zero, List.append_nil]
    exact .done hgap
  | succ outer ih => exact .close hgap .nothing (ih isBlanks_nil)

theorem FlowTerm.Written.inner {f : FlowTerm} {text rest : List Char} {apps : List AppTerm}
    (h : f.Written text) (hrest : FollowWritten depth apps rest) :
    InnerWritten depth (text ++ rest) := by
  obtain ⟨s, body, closing, others, hs, hclosing, -, htext⟩ := h.sequence hrest
  exact ⟨s, body, closing, others, hs, hclosing, htext⟩

theorem breaksOff_of_afterFlow (h : afterFlow depth stop i = .error e) :
    BreaksOff i e (fun text => ∃ apps, FollowWritten depth apps text) ∧
      i.skipBlanks.offset ≤ e.position := by
  have hblanks := passes_skipBlanks i
  induction depth generalizing stop i with
  | zero =>
    have hdone : FollowWritten 0 [] (i.word isBlank) :=
      (ClosingWritten.done (isBlanks_word i)).follow
    rw [afterFlow] at h
    split at h
    · cases h
    · split at h
      · cases h
        refine ⟨breaksOff_missing [] hblanks (by simp) ⟨[], ?_⟩, Nat.le_refl _⟩
        rwa [List.append_nil]
      · split at h
        · cases h
        · next c rest hrest =>
          cases h
          exact ⟨breaksOff_unexpected hblanks hrest ⟨[], hdone⟩, Nat.le_refl _⟩
  | succ outer ih =>
    rw [afterFlow] at h
    split at h
    · cases h
    · split at h
      · cases h
      · split at h
        · next k hk =>
          have hclose := passes_of_eat? hk
          have hmore := (ih h (passes_skipBlanks k)).1
          refine ⟨hmore.after (hblanks.trans hclose) ?_,
            hclose.reaches.offset_le.trans hmore.offset_le⟩
          rintro text ⟨apps, more, mid, others, closing, hmid, hclosing, -, rfl⟩
          rw [List.append_assoc]
          exact ⟨_, (ClosingWritten.close (isBlanks_word i) hmid hclosing).follow⟩
        · cases h
          have hclosing := closingWritten_replicate (isBlanks_word i) (outer + 1)
          exact ⟨breaksOff_missing _ hblanks (by simp) ⟨[], hclosing.follow⟩, Nat.le_refl _⟩

theorem breaksOff_of_readFlows (h : readFlows depth i = .error e) :
    BreaksOff i e (InnerWritten depth) := by
  fun_induction readFlows depth i with
  | case1 depth i j hj hlt ih =>
    -- a split opens: its branches and what follows it come out of what goes on inside it
    refine (ih h).after ((passes_of_eat? hj).trans (passes_skipBlanks j)) ?_
    rintro text ⟨s, body, closing, others, hs, hclosing, rfl⟩
    obtain ⟨b, read, more, rest, hb, hfollow, -, htext⟩ := hclosing.split hs
    have hinner := (FlowTerm.Written.split (isBlanks_word j) hb).inner hfollow
    rw [htext]
    simpa only [List.append_assoc] using hinner
  | case2 depth i hopen error herror =>
    cases h
    refine (breaksOff_of_readApp herror).extend ?_
    rintro text ⟨a, last, happ⟩
    exact ⟨_,
      (FlowTerm.Written.app happ).inner (closingWritten_replicate isBlanks_nil depth).follow⟩
  | case3 depth i hopen a j hj error herror =>
    cases h
    obtain ⟨last, written, happ, hpass, -⟩ := written_of_readApp hj
    refine (breaksOff_of_afterFlow herror).1.after hpass ?_
    rintro text ⟨apps, hfollow⟩
    exact (FlowTerm.Written.app happ).inner hfollow
  | case4 depth i hopen a j hj stop' hdone => cases h
  | case5 depth i hopen a j hj next k hk hlt error herror ih =>
    cases h
    obtain ⟨last, written, happ, hpass, -⟩ := written_of_readApp hj
    obtain ⟨between, hbetween, hfollow⟩ := passes_of_afterFlow_flow hk
    refine (ih herror).after (hpass.trans hbetween) ?_
    rintro text ⟨s, body, closing, others, hs, hclosing, rfl⟩
    rw [List.append_assoc]
    exact (FlowTerm.Written.app happ).inner (hfollow hs hclosing)
  | case6 depth i hopen a j hj next k hk hlt more stop' hmore ih => cases h

theorem TaskDefinition.breaksOff_of_parse {name : String} {text : List Char} {start : Nat}
    (h : TaskDefinition.parse name text start = .error e) :
    BreaksOff (ofText text start) e fun text => ∃ t : SequenceTerm, t.WrittenAlone text := by
  have hblanks := passes_skipBlanks (ofText text start)
  have hinner : BreaksOff (ofText text start).skipBlanks e (InnerWritten 0) := by
    simp only [TaskDefinition.parse] at h
    split at h
    · cases h
      refine breaksOff_missing filler.toList (Passes.refl _) (by simp) ?_
      have hinner := (FlowTerm.Written.app (appWritten_filler .task)).inner
        (ClosingWritten.done isBlanks_nil).follow
      rwa [List.append_nil] at hinner
    · split at h
      · next herror =>
        cases h
        exact breaksOff_of_readFlows herror
      · cases h
  refine hinner.after hblanks ?_
  rintro - ⟨t, body, closing, others, ht, hclosing, rfl⟩
  cases hclosing with
  | done htrail => exact ⟨t, _, body, closing, isBlanks_word (ofText text start), ht, htrail, rfl⟩

end Tasks

end Flowline
