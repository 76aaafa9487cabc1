import Flowline.Definition.StreamReader
import Flowline.Definition.TaskReader
import Flowline.Proofs.Spelling

/-!
# What the readers pass over

A reader goes from one input to a later one, and what lies between the two is what it has read. So
the spans it gives spell what they stand for, and what is read later has later spans.

* `Input.Passes`, `Input.StandsIn`: going forward in a line;
* `App.Spelled`, `StreamDefinition.Spelled`: parts of a definition and the columns they stand in;
* `Span.Row`: spans one after the other;
* `StreamDefinition.spelled_of_parse`, `TaskDefinition.spelled_of_parse`, `inlineName_spells`: what
  the readers give.
-/

namespace Flowline

open Character

namespace Input

/-- Once `word` has been read, `j` is left of the input `i`. -/
structure Passes (i : Input) (word : List Char) (j : Input) : Prop where
  rest : i.rest = word ++ j.rest
  offset : j.offset = i.offset + word.length

/-- Going forward from the input `i`, one comes to `j`. -/
def Reaches (i j : Input) : Prop :=
  ∃ word, i.Passes word j

/-- The input is what is left of a text. -/
def StandsIn (text : List Char) (i : Input) : Prop :=
  ∃ before, text = before ++ i.rest ∧ i.offset = before.length

variable {i j k : Input} {u v token text : List Char}

theorem Passes.trans (h : i.Passes u j) (h' : j.Passes v k) : i.Passes (u ++ v) k := by
  refine ⟨?_, ?_⟩
  · rw [h.rest, h'.rest, List.append_assoc]
  · rw [h'.offset, h.offset, List.length_append, Nat.add_assoc]

theorem Passes.reaches (h : i.Passes u j) : i.Reaches j :=
  ⟨u, h⟩

theorem Reaches.refl (i : Input) : i.Reaches i :=
  ⟨[], rfl, rfl⟩

theorem Reaches.trans (h : i.Reaches j) (h' : j.Reaches k) : i.Reaches k := by
  obtain ⟨u, hu⟩ := h
  obtain ⟨v, hv⟩ := h'
  exact ⟨u ++ v, hu.trans hv⟩

theorem Reaches.offset_le (h : i.Reaches j) : i.offset ≤ j.offset := by
  obtain ⟨u, hu⟩ := h
  rw [hu.offset]
  exact Nat.le_add_right _ _

theorem Reaches.offset_lt (h : i.Reaches j) (hlt : j.rest.length < i.rest.length) :
    i.offset < j.offset := by
  obtain ⟨u, hu⟩ := h
  rw [hu.rest, List.length_append] at hlt
  rw [hu.offset]
  omega

theorem Passes.offset_lt (h : i.Passes u j) (hu : u ≠ []) : i.offset < j.offset := by
  have := List.length_pos_iff.mpr hu
  rw [h.offset]
  omega

theorem passes_moveTo {rest : List Char} (h : i.rest = u ++ rest) : i.Passes u (i.moveTo rest) := by
  refine ⟨h, ?_⟩
  simp only [moveTo, h, List.length_append, Nat.add_sub_cancel]

theorem passes_skipWhile (p : Char → Bool) (i : Input) : i.Passes (i.word p) (i.skipWhile p) :=
  passes_moveTo List.takeWhile_append_dropWhile.symm

theorem reaches_skipBlanks (i : Input) : i.Reaches i.skipBlanks :=
  (passes_skipWhile isBlank i).reaches

theorem passes_advance (h : i.startsWith token = true) :
    i.Passes token (i.advance token.length) := by
  obtain ⟨rest, hrest⟩ := List.isPrefixOf_iff_prefix.mp h
  refine passes_moveTo ?_
  rw [← hrest, List.drop_left]

theorem passes_of_eat? (h : i.eat? token = some j) : i.Passes token j := by
  rw [eat?] at h
  obtain ⟨hs, hj⟩ := Option.ite_none_right_eq_some.mp h
  cases hj
  exact passes_advance hs

/-- A token may have blanks before it. -/
theorem reaches_of_eat?_skipBlanks (h : i.skipBlanks.eat? token = some j) : i.Reaches j :=
  (reaches_skipBlanks i).trans (passes_of_eat? h).reaches

theorem standsIn_ofText (text : List Char) (start : Nat) : StandsIn text (ofText text start) :=
  ⟨text.take start, (List.take_append_drop start text).symm, (List.length_take ..).symm⟩

theorem StandsIn.of_reaches (h : StandsIn text i) (h' : i.Reaches j) : StandsIn text j := by
  obtain ⟨before, htext, hoffset⟩ := h
  obtain ⟨u, hu⟩ := h'
  refine ⟨before ++ u, ?_, ?_⟩
  · rw [htext, hu.rest, List.append_assoc]
  · rw [hu.offset, hoffset, List.length_append]

theorem StandsIn.offset_le (h : StandsIn text i) : i.offset ≤ text.length := by
  obtain ⟨before, htext, hoffset⟩ := h
  rw [htext, hoffset, List.length_append]
  exact Nat.le_add_right _ _

/-- What is passed over stands between the two columns. -/
theorem StandsIn.spells (h : StandsIn text i) (h' : i.Passes u j) :
    Span.Spells text ⟨i.offset, j.offset⟩ u := by
  obtain ⟨before, htext, hoffset⟩ := h
  refine ⟨before, j.rest, ?_, hoffset, ?_⟩
  · rw [htext, h'.rest, List.append_assoc]
  · rw [h'.offset, hoffset]

end Input

open Input

/-! ## Options -/

theorem exists_append_of_closeQuote {quote : Char} {cs value after : List Char}
    (h : closeQuote quote cs = some (value, after)) : ∃ read, cs = read ++ after := by
  fun_induction closeQuote quote cs generalizing value after with
  | case1 => cases h
  | case2 =>
    cases h
    exact ⟨_, (List.append_nil _).symm⟩
  | case3 more ih =>
    obtain ⟨⟨v, a⟩, ha, he⟩ := Option.map_eq_some_iff.mp h
    cases he
    obtain ⟨read, rfl⟩ := ih ha
    exact ⟨quote :: quote :: read, rfl⟩
  | case4 d more =>
    cases h
    exact ⟨[quote], rfl⟩
  | case5 c rest hc ih =>
    obtain ⟨⟨v, a⟩, ha, he⟩ := Option.map_eq_some_iff.mp h
    cases he
    obtain ⟨read, rfl⟩ := ih ha
    exact ⟨c :: read, rfl⟩

theorem reaches_of_readOptionValue {g : Grammar} {option value : String} {i j : Input}
    (h : readOptionValue g option i = .ok (value, j)) : i.Reaches j := by
  have hbare : ∀ {r : Reading String},
      r = (if (i.word fun c => !g.endsValue c).isEmpty then
          .error ⟨i.offset, .missingOptionValue option⟩
        else .ok (String.ofList (i.word fun c => !g.endsValue c),
          i.skipWhile fun c => !g.endsValue c)) →
      r = .ok (value, j) → i.Reaches j := by
    intro r hr ho
    rw [hr] at ho
    split at ho
    · cases ho
    · cases ho
      exact (passes_skipWhile _ i).reaches
  unfold readOptionValue at h
  split at h
  · exact hbare rfl h
  · next c rest hrest =>
    split at h
    · split at h
      · cases h
      · next v after hq =>
        cases h
        obtain ⟨read, hread⟩ := exists_append_of_closeQuote hq
        exact ⟨c :: read, passes_moveTo (by rw [hrest, hread]; rfl)⟩
    · exact hbare rfl h

/-- What stands before the value of an option. -/
def Argument.lead (o : Argument) : List Char :=
  ['-', '-'] ++ o.name.toList ++ ['=']

/-- An option stands in its span, from the dashes to the end of its value. -/
def Argument.Spelled (text : List Char) (o : Argument) : Prop :=
  ∃ value, o.span.Spells text (o.lead ++ value)

theorem passes_of_readArgument {g : Grammar} {i j : Input} {o : Argument}
    (hs : i.startsWith ['-', '-'] = true) (h : readArgument g i = .ok (o, j)) :
    ∃ value, i.Passes (o.lead ++ value) j ∧ o.span = ⟨i.offset, j.offset⟩ := by
  simp only [readArgument] at h
  split at h
  · cases h
  · split at h
    · cases h
    · next k hk =>
      split at h
      · cases h
      · next value m hv =>
        cases h
        obtain ⟨read, hread⟩ := reaches_of_readOptionValue hv
        have hname := passes_skipWhile isDottedChar (i.advance 2)
        refine ⟨read, ?_, rfl⟩
        rw [Argument.lead, String.toList_ofList]
        exact (((passes_advance hs).trans hname).trans (passes_of_eat? hk)).trans hread

/-! ## Apps -/

/-- What stands before the name of an app. -/
def App.lead (a : App) : List Char :=
  match a.label with
  | none => []
  | some label => label.toList ++ [':']

/-- An app stands in its span, from its label to the end of its options, and its options stand in
theirs. -/
structure App.Spelled (text : List Char) (a : App) : Prop where
  span : ∃ options, a.span.Spells text (a.lead ++ a.name.toList ++ options) ∧
    (options = [] ↔ a.arguments = [])
  arguments : ∀ o ∈ a.arguments, o.Spelled text

/-- Options are read up to the end of the last one. -/
theorem passes_of_readArguments {g : Grammar} {text : List Char} {i j : Input}
    {arguments : List Argument} (hi : StandsIn text i)
    (h : readArguments g i = .ok (arguments, j)) :
    ∃ options, i.Passes options j ∧ (options = [] ↔ arguments = []) ∧
      (arguments.getLast?.map (·.span.stop)).getD i.offset = j.offset ∧
      ∀ o ∈ arguments, o.Spelled text := by
  fun_induction readArguments g i generalizing arguments j with
  | case1 i hs e he => cases h
  | case2 i hs argument k hk hlt e he => cases h
  | case3 i hs argument k hk hlt more l hl ih =>
    cases h
    obtain ⟨value, hpass, hspan⟩ := passes_of_readArgument hs hk
    have hblanks := passes_skipWhile isBlank i
    have hstands := hi.of_reaches (reaches_skipBlanks i)
    obtain ⟨options, hoptions, -, hstop, hmore⟩ := ih (hstands.of_reaches hpass.reaches) hl
    refine ⟨_, (hblanks.trans hpass).trans hoptions, ?_, ?_, ?_⟩
    · simp [Argument.lead]
    · -- the last option is this one, or the last of those that follow
      rw [List.getLast?_cons, Option.map_some, Option.getD_some, ← hstop]
      cases more.getLast? with
      | none =>
        rw [Option.getD_none, hspan]
        rfl
      | some last => rfl
    · intro o ho
      rcases List.mem_cons.mp ho with rfl | ho
      · exact ⟨value, by rw [hspan]; exact hstands.spells hpass⟩
      · exact hmore o ho
  | case4 i hs =>
    cases h
    exact ⟨[], ⟨rfl, rfl⟩, by simp, rfl, by simp⟩

theorem passes_of_readAppName {i j : Input} {label : Option String} {name : String}
    {nameSpan : Span} (h : readAppName i = .ok ((label, name, nameSpan), j))
    (arguments : List Argument) (span : Span) :
    i.Passes (App.lead ⟨label, name, nameSpan, arguments, span⟩ ++ name.toList) j ∧
      nameSpan.stop = j.offset := by
  simp only [readAppName] at h
  have hfirst := passes_skipWhile isNameChar i
  split at h
  · cases h
  · split at h
    · cases h
      rw [String.toList_ofList]
      exact ⟨hfirst, rfl⟩
    · next k hk =>
      split at h
      · cases h
      · cases h
        refine ⟨?_, rfl⟩
        simp only [App.lead, String.toList_ofList]
        exact (hfirst.trans (passes_of_eat? hk)).trans (passes_skipWhile isNameChar k)

theorem readApp_spelled {g : Grammar} {text : List Char} {i j : Input} {a : App}
    (hi : StandsIn text i) (h : readApp g i = .ok (a, j)) :
    a.Spelled text ∧ i.Reaches j ∧ a.span = ⟨i.offset, j.offset⟩ := by
  simp only [readApp] at h
  split at h
  · cases h
  · next label name nameSpan k hk =>
    split at h
    · cases h
    · next arguments l hl =>
      cases h
      obtain ⟨hname, hstop⟩ := passes_of_readAppName hk arguments
        ⟨i.offset, (arguments.getLast?.map (·.span.stop)).getD nameSpan.stop⟩
      obtain ⟨options, hoptions, hempty, hlast, hall⟩ :=
        passes_of_readArguments (hi.of_reaches hname.reaches) hl
      have hspan : (arguments.getLast?.map (·.span.stop)).getD nameSpan.stop = j.offset := by
        rw [hstop, hlast]
      have hpass := hname.trans hoptions
      refine ⟨⟨⟨options, ?_, hempty⟩, hall⟩, hpass.reaches, by rw [hspan]⟩
      have hspells := hi.spells hpass
      rwa [← hspan] at hspells

/-! ## Spans in a row -/

/-- Spans one after the other from column `first` on, all ending before column `limit`. -/
structure Span.Row (first limit : Nat) (spans : List Span) : Prop where
  ordered : spans.Pairwise (fun s t => s.stop < t.start)
  within : ∀ s ∈ spans, first ≤ s.start ∧ s.stop < limit

namespace Span.Row

variable {first middle limit : Nat} {spans more : List Span} {s : Span}

theorem nil (first limit : Nat) : Row first limit [] :=
  ⟨.nil, by simp⟩

theorem single (hfirst : first ≤ s.start) (hlimit : s.stop < limit) : Row first limit [s] :=
  ⟨List.pairwise_singleton _ _, by simpa using ⟨hfirst, hlimit⟩⟩

theorem append (h : Row first middle spans) (h' : Row middle limit more) (hfirst : first ≤ middle)
    (hlimit : middle ≤ limit) : Row first limit (spans ++ more) := by
  refine ⟨List.pairwise_append.mpr ⟨h.ordered, h'.ordered, ?_⟩, ?_⟩
  · intro s hs t ht
    exact Nat.lt_of_lt_of_le (h.within s hs).2 (h'.within t ht).1
  · intro s hs
    rcases List.mem_append.mp hs with hs | hs
    · have := h.within s hs
      omega
    · have := h'.within s hs
      omega

theorem mono (h : Row first middle spans) (hlimit : middle ≤ limit) : Row first limit spans :=
  ⟨h.ordered, fun s hs => ⟨(h.within s hs).1, Nat.lt_of_lt_of_le (h.within s hs).2 hlimit⟩⟩

end Span.Row

/-! ## Streams -/

/-- A destination stands in its span. -/
def Destination.Spelled (text : List Char) (q : Destination) : Prop :=
  q.span.Spells text q.name.toList

theorem passes_of_readDestination {i j : Input} {q : Destination}
    (h : readDestination i = .ok (q, j)) :
    ∃ k, i.Passes [':'] k ∧ k.Passes q.name.toList j ∧ q.span = ⟨k.offset, j.offset⟩ := by
  simp only [readDestination] at h
  split at h
  · cases h
  · next k hk =>
    split at h
    · cases h
    · cases h
      exact ⟨k, passes_of_eat? hk, by rw [String.toList_ofList]; exact passes_skipWhile _ k, rfl⟩

section Stream

variable {text : List Char} {i j : Input}

theorem readDestination_spelled {q : Destination} (hi : StandsIn text i)
    (h : readDestination i = .ok (q, j)) :
    q.Spelled text ∧ i.Reaches j ∧ Span.Row i.offset (j.offset + 1) [q.span] := by
  obtain ⟨k, hcolon, hname, hspan⟩ := passes_of_readDestination h
  have hle := hcolon.reaches.offset_le
  refine ⟨?_, hcolon.reaches.trans hname.reaches, ?_⟩
  · rw [Destination.Spelled, hspan]
    exact (hi.of_reaches hcolon.reaches).spells hname
  · rw [hspan]
    exact Span.Row.single hle (Nat.lt_succ_self _)

theorem readName_spelled {name : Option DeclaredName} (hi : StandsIn text i)
    (h : readName i = (name, j)) :
    (∀ n ∈ name, n.span.Spells text n.text.toList) ∧ i.Reaches j ∧
      Span.Row i.offset j.offset (name.toList.map (·.span)) := by
  have hnone : name = none → i = j →
      (∀ n ∈ name, n.span.Spells text n.text.toList) ∧ i.Reaches j ∧
        Span.Row i.offset j.offset (name.toList.map (·.span)) := by
    rintro rfl rfl
    exact ⟨by simp, .refl i, .nil _ _⟩
  simp only [readName] at h
  split at h
  · next k hk =>
    split at h
    · cases h
      exact hnone rfl rfl
    · cases h
      have hword := passes_skipWhile isNameChar i
      have hblanks := reaches_skipBlanks (i.skipWhile isNameChar)
      have hequals := passes_of_eat? hk
      have hle := hblanks.offset_le
      have hlt := hequals.offset_lt (by simp)
      refine ⟨?_, hword.reaches.trans (reaches_of_eat?_skipBlanks hk), ?_⟩
      · intro n hn
        cases hn
        rw [String.toList_ofList]
        exact hi.spells hword
      · exact Span.Row.single (le_refl _) (Nat.lt_of_le_of_lt hle hlt)
  · cases h
    exact hnone rfl rfl

theorem readSource_spelled {source : Option Destination} (hi : StandsIn text i)
    (h : readSource i = .ok (source, j)) :
    (∀ q ∈ source, q.Spelled text) ∧ i.Reaches j ∧
      Span.Row i.offset j.offset (source.toList.map (·.span)) := by
  simp only [readSource] at h
  split at h
  · split at h
    · cases h
    · next q k hk =>
      split at h
      · cases h
      · next l hl =>
        cases h
        obtain ⟨hspelled, hreach, hrow⟩ := readDestination_spelled hi hk
        have harrow := passes_of_eat? hl
        have hlt := harrow.offset_lt (by simp)
        have h1 := (reaches_skipBlanks k).offset_le
        have h2 := (reaches_skipBlanks l).offset_le
        refine ⟨by simpa using hspelled, ?_, ?_⟩
        · exact (hreach.trans (reaches_of_eat?_skipBlanks hl)).trans (reaches_skipBlanks l)
        · exact hrow.mono (by omega)
  · cases h
    exact ⟨by simp, .refl i, .nil _ _⟩

theorem readPipeline_spelled {apps : List App} (hi : StandsIn text i)
    (h : readPipeline i = .ok (apps, j)) :
    (∀ a ∈ apps, a.Spelled text) ∧ i.Reaches j ∧
      Span.Row i.offset (j.offset + 1) (apps.map (·.span)) := by
  fun_induction readPipeline i generalizing apps j with
  | case1 i e he => cases h
  | case2 i a k hk hpipes => cases h
  | case3 i a k hk hpipes hend =>
    cases h
    obtain ⟨ha, hreach, hspan⟩ := readApp_spelled hi hk
    have hblanks := reaches_skipBlanks k
    have hle := hblanks.offset_le
    refine ⟨by simpa using ha, hreach.trans hblanks, ?_⟩
    rw [List.map_singleton, hspan]
    exact Span.Row.single (le_refl _) (Nat.lt_succ_of_le hle)
  | case4 i a k hk hpipes l hl hlt e he ih => cases h
  | case5 i a k hk hpipes l hl hlt more m hm ih =>
    cases h
    obtain ⟨ha, hreach, hspan⟩ := readApp_spelled hi hk
    have hpipe := passes_of_eat? hl
    have hnext : k.Reaches l.skipBlanks :=
      (reaches_of_eat?_skipBlanks hl).trans (reaches_skipBlanks l)
    obtain ⟨hmore, hrest, hrow⟩ := ih (hi.of_reaches (hreach.trans hnext)) hm
    have h1 := hreach.offset_le
    have h2 := (reaches_skipBlanks k).offset_le
    have h3 := hpipe.offset_lt (by simp)
    have h4 := (reaches_skipBlanks l).offset_le
    have h5 := hrest.offset_le
    refine ⟨?_, (hreach.trans hnext).trans hrest, ?_⟩
    · intro b hb
      rcases List.mem_cons.mp hb with rfl | hb
      · exact ha
      · exact hmore b hb
    · have hfirst : Span.Row i.offset l.skipBlanks.offset [a.span] := by
        rw [hspan]
        exact Span.Row.single (le_refl _) (show k.offset < _ by omega)
      exact hfirst.append hrow (by omega) (by omega)

theorem readSink_spelled {sink : Option Destination} (hi : StandsIn text i)
    (h : readSink i = .ok (sink, j)) :
    (∀ q ∈ sink, q.Spelled text) ∧ i.Reaches j ∧
      Span.Row (i.offset + 1) (j.offset + 1) (sink.toList.map (·.span)) := by
  simp only [readSink] at h
  split at h
  · cases h
    exact ⟨by simp, .refl i, .nil _ _⟩
  · next k hk =>
    split at h
    · cases h
    · next q l hl =>
      cases h
      have harrow := passes_of_eat? hk
      have hbefore := harrow.reaches.trans (reaches_skipBlanks k)
      obtain ⟨hspelled, hreach, hrow⟩ := readDestination_spelled (hi.of_reaches hbefore) hl
      have hlt := harrow.offset_lt (by simp)
      have hle := (reaches_skipBlanks k).offset_le
      refine ⟨by simpa using hspelled, hbefore.trans hreach, hrow.ordered, ?_⟩
      intro s hs
      have := hrow.within s hs
      omega

theorem readFlow_spelled {source sink : Option Destination} {apps : List App} (hi : StandsIn text i)
    (h : readFlow source i = .ok ((apps, sink), j)) :
    (∀ a ∈ apps, a.Spelled text) ∧ (∀ q ∈ sink, q.Spelled text) ∧ i.Reaches j ∧
      Span.Row i.offset (j.offset + 1) (apps.map (·.span) ++ sink.toList.map (·.span)) := by
  simp only [readFlow] at h
  split at h
  · split at h
    · cases h
    · next q k hk =>
      cases h
      obtain ⟨hspelled, hreach, hrow⟩ := readDestination_spelled hi hk
      exact ⟨by simp, by simpa using hspelled, hreach, hrow⟩
  · split at h
    · cases h
    · next apps k hk =>
      split at h
      · cases h
      · next sink l hl =>
        cases h
        obtain ⟨happs, hreach, hrow⟩ := readPipeline_spelled hi hk
        obtain ⟨hsink, hrest, hrow'⟩ := readSink_spelled (hi.of_reaches hreach) hl
        have h1 := hreach.offset_le
        have h2 := hrest.offset_le
        exact ⟨happs, hsink, hreach.trans hrest, hrow.append hrow' (by omega) (by omega)⟩

theorem readStreamBody_spelled {name : Option DeclaredName} {s : StreamDefinition}
    (hi : StandsIn text i) (h : readStreamBody name i = .ok s) :
    s.name = name ∧ (∀ q ∈ s.source, q.Spelled text) ∧ (∀ q ∈ s.sink, q.Spelled text) ∧
      (∀ a ∈ s.apps, a.Spelled text) ∧
      Span.Row i.offset (text.length + 1)
        (s.source.toList.map (·.span) ++ (s.apps.map (·.span) ++ s.sink.toList.map (·.span))) := by
  simp only [readStreamBody] at h
  split at h
  · cases h
  · split at h
    · cases h
    · next source j hj =>
      split at h
      · cases h
      · next apps sink k hk =>
        split at h
        · cases h
        · cases h
          obtain ⟨hsource, hreach, hrow⟩ := readSource_spelled hi hj
          have hstands := hi.of_reaches hreach
          obtain ⟨happs, hsink, hflowReach, hflowRow⟩ := readFlow_spelled hstands hk
          have hlen := (hstands.of_reaches hflowReach).offset_le
          have hle := hflowReach.offset_le
          exact ⟨rfl, hsource, hsink, happs,
            hrow.append (hflowRow.mono (Nat.succ_le_succ hlen)) hreach.offset_le (by omega)⟩

end Stream

/-- The spans of the parts of a stream, in the order of the text. -/
def StreamDefinition.spans (s : StreamDefinition) : List Span :=
  s.name.toList.map (·.span) ++
    (s.source.toList.map (·.span) ++ (s.apps.map (·.span) ++ s.sink.toList.map (·.span)))

/-- The parts of a stream stand in their spans, one after the other. -/
structure StreamDefinition.Spelled (text : List Char) (s : StreamDefinition) : Prop where
  name : ∀ n ∈ s.name, n.span.Spells text n.text.toList
  source : ∀ q ∈ s.source, q.Spelled text
  sink : ∀ q ∈ s.sink, q.Spelled text
  apps : ∀ a ∈ s.apps, a.Spelled text
  row : Span.Row 0 (text.length + 1) s.spans

theorem StreamDefinition.spelled_of_parse {text : List Char} {s : StreamDefinition}
    (h : StreamDefinition.parse text = .ok s) : s.Spelled text := by
  have hstart := (standsIn_ofText text 0).of_reaches (reaches_skipBlanks _)
  rw [StreamDefinition.parse] at h
  cases hread : readName (Input.ofText text 0).skipBlanks with
  | mk name i =>
    rw [hread] at h
    obtain ⟨hname, hreach, hnameRow⟩ := readName_spelled hstart hread
    have hbody := reaches_skipBlanks i
    have hstands := (hstart.of_reaches hreach).of_reaches hbody
    obtain ⟨rfl, hsource, hsink, happs, hrow⟩ := readStreamBody_spelled hstands h
    have hall := (hnameRow.mono hbody.offset_le).append hrow (hreach.trans hbody).offset_le
      (Nat.le_succ_of_le hstands.offset_le)
    exact ⟨hname, hsource, hsink, happs, hall.ordered,
      fun s hs => ⟨Nat.zero_le _, (hall.within s hs).2⟩⟩

/-! ## Tasks -/

theorem reaches_of_afterFlow {depth stop next : Nat} {i j : Input}
    (h : afterFlow depth stop i = .ok (.flow next j)) : i.Reaches j := by
  induction depth generalizing stop i with
  | zero =>
    rw [afterFlow] at h
    split at h
    · next k hk =>
      cases h
      exact (reaches_of_eat?_skipBlanks hk).trans (reaches_skipBlanks k)
    · split at h
      · cases h
      · split at h <;> cases h
  | succ outer ih =>
    rw [afterFlow] at h
    split at h
    · next k hk =>
      cases h
      exact (reaches_of_eat?_skipBlanks hk).trans (reaches_skipBlanks k)
    · split at h
      · next k hk =>
        cases h
        exact (reaches_of_eat?_skipBlanks hk).trans (reaches_skipBlanks k)
      · split at h
        · next k hk => exact (reaches_of_eat?_skipBlanks hk).trans (ih h)
        · cases h

theorem readFlows_spelled {text : List Char} {depth stop : Nat} {i : Input} {apps : List App}
    (hi : StandsIn text i) (h : readFlows depth i = .ok (apps, stop)) :
    (∀ a ∈ apps, a.Spelled text) ∧ Span.Row i.offset (text.length + 1) (apps.map (·.span)) := by
  fun_induction readFlows depth i generalizing apps stop with
  | case1 depth i j hj hlt ih =>
    -- a split opens
    have hreach := (passes_of_eat? hj).reaches.trans (reaches_skipBlanks j)
    obtain ⟨happs, hrow⟩ := ih (hi.of_reaches hreach) h
    have hle := hreach.offset_le
    refine ⟨happs, hrow.ordered, fun s hs => ?_⟩
    have := hrow.within s hs
    omega
  | case2 depth i hopen e he => cases h
  | case3 depth i hopen a j hj e he => cases h
  | case4 depth i hopen a j hj stop' hdone =>
    cases h
    obtain ⟨ha, hreach, hspan⟩ := readApp_spelled hi hj
    have hlen := (hi.of_reaches hreach).offset_le
    refine ⟨by simpa using ha, ?_⟩
    rw [List.map_singleton, hspan]
    exact Span.Row.single (le_refl _) (Nat.lt_succ_of_le hlen)
  | case5 depth i hopen a j hj next k hk hlt e he ih => cases h
  | case6 depth i hopen a j hj next k hk hlt more stop' hmore ih =>
    cases h
    obtain ⟨ha, hreach, hspan⟩ := readApp_spelled hi hj
    have hafter := reaches_of_afterFlow hk
    have hstands := hi.of_reaches (hreach.trans hafter)
    obtain ⟨happs, hrow⟩ := ih hstands hmore
    have h1 := (hreach.trans hafter).offset_le
    have h2 := hafter.offset_lt (afterFlow_length_lt hk)
    have h3 := hstands.offset_le
    refine ⟨?_, ?_⟩
    · intro b hb
      rcases List.mem_cons.mp hb with rfl | hb
      · exact ha
      · exact happs b hb
    · have hfirst : Span.Row i.offset k.offset [a.span] := by
        rw [hspan]
        exact Span.Row.single (le_refl _) h2
      exact hfirst.append hrow h1 (by omega)

theorem TaskDefinition.spelled_of_parse {name : String} {text : List Char} {start : Nat}
    {t : TaskDefinition} (h : TaskDefinition.parse name text start = .ok t) :
    (∀ a ∈ t.apps, a.Spelled text) ∧
      Span.Row (min start text.length) (text.length + 1) (t.apps.map (·.span)) := by
  have hbody := reaches_skipBlanks (Input.ofText text start)
  have hstands := (standsIn_ofText text start).of_reaches hbody
  simp only [TaskDefinition.parse] at h
  split at h
  · cases h
  · split at h
    · cases h
    · next apps stop hflows =>
      cases h
      obtain ⟨happs, hrow⟩ := readFlows_spelled hstands hflows
      have hle := hbody.offset_le
      refine ⟨happs, hrow.ordered, fun s hs => ?_⟩
      have := hrow.within s hs
      simp only [Input.ofText] at hle this
      omega

/-! ## Names before tasks -/

/-- The word found ends before the column after the equals sign. -/
theorem scanName_bounds {start : Option Nat} {stop index : Nat} {cs : List Char} {s e b : Nat}
    (hword : ∀ t ∈ start, t ≤ stop ∧ stop ≤ index)
    (h : scanName start stop index cs = some (s, e, b)) :
    s ≤ e ∧ e < b ∧ b ≤ index + cs.length := by
  fun_induction scanName start stop index cs with
  | case1 => cases h
  | case2 start stop index rest =>
    obtain ⟨t, ht, heq⟩ := Option.map_eq_some_iff.mp h
    cases heq
    have := hword s ht
    simp only [List.length_cons]
    omega
  | case3 start stop index c rest hc hb ih =>
    have := ih (fun t ht => by have := hword t ht; omega) h
    simp only [List.length_cons]
    omega
  | case4 => cases h
  | case5 start stop index c rest hc hb hn hgap ih =>
    have hnext : ∀ t ∈ some (start.getD index), t ≤ index + 1 ∧ index + 1 ≤ index + 1 := by
      intro t ht
      cases ht
      cases start with
      | none => simp
      | some t =>
        have := hword t rfl
        simp only [Option.getD_some]
        omega
    have := ih hnext h
    simp only [List.length_cons]
    omega
  | case6 => cases h

theorem inlineName_spells {d : Dialect} {text : List Char} {inline : InlineName}
    (h : d.inlineName text = some inline) :
    Span.Spells text ⟨inline.start, inline.stop⟩ inline.name.toList ∧
      inline.stop < inline.bodyStart ∧ inline.bodyStart ≤ text.length := by
  simp only [Dialect.inlineName] at h
  split at h
  · cases h
  · obtain ⟨⟨s, e, b⟩, hscan, heq⟩ := Option.map_eq_some_iff.mp h
    cases heq
    obtain ⟨hse, heb, hb⟩ := scanName_bounds (by simp) hscan
    rw [Nat.zero_add] at hb
    refine ⟨?_, heb, hb⟩
    rw [String.toList_ofList]
    exact spells_slice hse (Nat.le_of_lt (Nat.lt_of_lt_of_le heb hb))

end Flowline
