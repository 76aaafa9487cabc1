import Flowline.Proofs.BodyAlone
import Flowline.Proofs.ReadBack

/-!
# Spans are nested

The spans of a definition lie in each other as its parts do. The options of an app stand behind its
name and with it inside the app; apps and destinations stand one after the other inside the
definition, with at least one column between any two of them. The definition starts with the first
of its parts and ends with the last one, where the colon of a source and the brackets of splits
belong to the parts.

* `App.Nested`, `nested_of_readApp`: the parts of an app;
* `Span.stop_le_getLast`: of spans in a row the last one reaches furthest;
* `StreamDefinition.Nested`, `TaskDefinition.Nested`: the parts of a definition;
* `spans_nested`: the spans of whatever can be read.
-/

namespace Flowline

open Character Input

namespace Span

/-- At least one column of a text. -/
structure Proper (text : List Char) (s : Span) : Prop where
  start_lt : s.start < s.stop
  stop_le : s.stop ≤ text.length

/-- The columns of a span belong to those of another one. -/
structure Inside (s outer : Span) : Prop where
  start_le : outer.start ≤ s.start
  stop_le : s.stop ≤ outer.stop

theorem Proper.of_inside {text : List Char} {s outer : Span} (h : outer.Proper text)
    (hs : s.Inside outer) (hlt : s.start < s.stop) : s.Proper text :=
  ⟨hlt, Nat.le_trans hs.stop_le h.stop_le⟩

/-- Of spans in a row the last one reaches furthest. -/
theorem stop_le_getLast {spans : List Span} {last : Span}
    (hordered : spans.Pairwise (fun s t => s.stop < t.start)) (hlast : spans.getLast? = some last)
    (hlt : last.start < last.stop) : ∀ s ∈ spans, s.stop ≤ last.stop := by
  obtain ⟨init, rfl⟩ := List.getLast?_eq_some_iff.mp hlast
  intro s hs
  rcases List.mem_append.mp hs with hs | hs
  · have := (List.pairwise_append.mp hordered).2.2 s hs last List.mem_cons_self
    omega
  · rw [List.mem_singleton.mp hs]

end Span

/-! ## Apps -/

/-- The spans of the parts of an app. -/
def App.partSpans (a : App) : List Span :=
  a.nameSpan :: a.arguments.map (·.span)

/-- The name of an app and its options stand inside the app, the options behind the name and in
their order. An option may follow the closing quote of the one before it at once. -/
structure App.Nested (a : App) : Prop where
  name : a.nameSpan.Inside a.span
  arguments : ∀ o ∈ a.arguments, o.span.Inside a.span ∧ a.nameSpan.stop < o.span.start
  ordered : a.arguments.Pairwise (fun o p => o.span.stop ≤ p.span.start)

theorem App.Nested.inside {a : App} (h : a.Nested) : ∀ s ∈ a.partSpans, s.Inside a.span := by
  intro s hs
  rcases List.mem_cons.mp hs with rfl | hs
  · exact h.name
  · obtain ⟨o, ho, rfl⟩ := List.mem_map.mp hs
    exact (h.arguments o ho).1

section Apps

variable {g : Grammar} {i j : Input} {a : App}

theorem start_of_readApp (h : readApp g i = .ok (a, j)) : a.span.start = i.offset := by
  simp only [readApp] at h
  split at h
  · cases h
  · split at h
    · cases h
    · cases h
      rfl

theorem nameSpan_of_readAppName {label : Option String} {name : String} {nameSpan : Span}
    (h : readAppName i = .ok ((label, name, nameSpan), j)) :
    i.offset ≤ nameSpan.start ∧ nameSpan.start < nameSpan.stop ∧ nameSpan.stop = j.offset ∧
      Stops isNameChar j.rest := by
  simp only [readAppName] at h
  have hfirst := passes_skipWhile isNameChar i
  split at h
  · cases h
  · next hne =>
    split at h
    · cases h
      exact ⟨le_refl _, hfirst.offset_lt (isWord_word hne).1, rfl, stops_skipWhile isNameChar i⟩
    · next k hk =>
      split at h
      · cases h
      · next hne' =>
        cases h
        have hname := passes_skipWhile isNameChar k
        have hlabel := (hfirst.trans (passes_of_eat? hk)).reaches.offset_le
        exact ⟨hlabel, hname.offset_lt (isWord_word hne').1, rfl, stops_skipWhile isNameChar k⟩

/-- Options are read one after the other, from the first character that is not blank on. -/
theorem ordered_of_readArguments {arguments : List Argument}
    (h : readArguments g i = .ok (arguments, j)) :
    i.Reaches j ∧ arguments.Pairwise (fun o p => o.span.stop ≤ p.span.start) ∧
      ∀ o ∈ arguments, i.skipBlanks.offset ≤ o.span.start ∧ o.span.start < o.span.stop ∧
        o.span.stop ≤ j.offset := by
  fun_induction readArguments g i generalizing arguments j with
  | case1 i hs e he => cases h
  | case2 i hs argument k hk hlt e he => cases h
  | case3 i hs argument k hk hlt more l hl ih =>
    cases h
    obtain ⟨value, hpass, hspan⟩ := passes_of_readArgument hs hk
    obtain ⟨hreach, hordered, hmore⟩ := ih hl
    have hproper := hpass.offset_lt (by simp [Argument.lead])
    have hblanks := (reaches_skipBlanks k).offset_le
    have hend := hreach.offset_le
    refine ⟨((reaches_skipBlanks i).trans hpass.reaches).trans hreach, ?_, ?_⟩
    · refine List.pairwise_cons.mpr ⟨fun o ho => ?_, hordered⟩
      have := hmore o ho
      simp only [hspan]
      omega
    · intro o ho
      rcases List.mem_cons.mp ho with rfl | ho
      · simp only [hspan]
        omega
      · have := hmore o ho
        omega
  | case4 i hs =>
    cases h
    exact ⟨.refl i, .nil, by simp⟩

/-- The dashes of an option would continue the name before it, so a blank stands between them. -/
theorem offset_lt_of_readArguments {arguments : List Argument} (hi : Stops isNameChar i.rest)
    (h : readArguments g i = .ok (arguments, j)) (hne : arguments ≠ []) :
    i.offset < i.skipBlanks.offset := by
  have hdashes : i.skipBlanks.startsWith ['-', '-'] = true := by
    by_contra hs
    rw [readArguments_nil (by simpa using hs)] at h
    cases h
    exact hne rfl
  have hblanks := passes_skipBlanks i
  refine hblanks.offset_lt ?_
  rw [hblanks.rest, (passes_advance hdashes).rest] at hi
  exact Ending.ne_nil_of_dash (g := g) (e := .name) hi (by simp)

theorem nested_of_readApp (h : readApp g i = .ok (a, j)) :
    a.Nested ∧ ∀ s ∈ a.span :: a.partSpans, s.start < s.stop := by
  obtain ⟨hreach, hstop⟩ := stop_of_readApp h
  have happ := hreach.offset_lt (readApp_length_lt h)
  simp only [readApp] at h
  split at h
  · cases h
  · next label name nameSpan k hk =>
    split at h
    · cases h
    · next arguments l hl =>
      cases h
      obtain ⟨hstart, hlt, hend, hstops⟩ := nameSpan_of_readAppName hk
      obtain ⟨hread, hordered, harguments⟩ := ordered_of_readArguments hl
      have hle := hread.offset_le
      refine ⟨⟨⟨hstart, ?_⟩, ?_, hordered⟩, ?_⟩
      · rw [hstop, hend]
        exact hle
      · intro o ho
        have hgap := offset_lt_of_readArguments hstops hl (List.ne_nil_of_mem ho)
        have hreached := (reaches_skipBlanks k).offset_le
        obtain ⟨hfirst, -, hlast⟩ := harguments o ho
        refine ⟨⟨?_, ?_⟩, ?_⟩
        · show i.offset ≤ _
          omega
        · rw [hstop]
          exact hlast
        · show nameSpan.stop < _
          omega
      · intro s hs
        simp only [App.partSpans, List.mem_cons, List.mem_map] at hs
        rcases hs with rfl | rfl | ⟨o, ho, rfl⟩
        · rw [hstop]
          exact happ
        · exact hlt
        · exact (harguments o ho).2.1

end Apps

/-! ## Streams -/

/-- The spans of the parts of a stream behind its name, in the order of the text. -/
def StreamDefinition.partSpans (s : StreamDefinition) : List Span :=
  s.source.toList.map (·.span) ++ (s.apps.map (·.span) ++ s.sink.toList.map (·.span))

/-- All spans of a stream. -/
def StreamDefinition.allSpans (s : StreamDefinition) : List Span :=
  s.span :: (s.name.toList.map (·.span) ++ s.partSpans ++ s.apps.flatMap App.partSpans)

/-- The source, the apps and the sink of a stream stand in this order inside the stream, which
starts at the colon of the source, or else with the first app, and ends with the sink, or else with
the last app. No two of them touch, and the name stands before all of them. -/
structure StreamDefinition.Nested (text : List Char) (s : StreamDefinition) : Prop where
  name : ∀ n ∈ s.name, n.span.stop < s.span.start
  source : ∀ q ∈ s.source, text[s.span.start]? = some ':' ∧ q.span.start = s.span.start + 1
  first : s.source = none → s.apps.head?.map (·.span.start) = some s.span.start
  last : s.sink = none → s.apps.getLast?.map (·.span.stop) = some s.span.stop
  sink : ∀ q ∈ s.sink, q.span.stop = s.span.stop
  inside : ∀ t ∈ s.partSpans, t.Inside s.span
  apart : s.partSpans.Pairwise (fun t u => t.stop < u.start)
  apps : ∀ a ∈ s.apps, a.Nested

section Streams

variable {text : List Char} {i j : Input}

theorem head_of_readPipeline {apps : List App} (h : readPipeline i = .ok (apps, j)) :
    apps.head?.map (·.span.start) = some i.offset := by
  unfold readPipeline at h
  split at h
  · cases h
  · next a k hk =>
    split at h
    · cases h
    · split at h
      · cases h
        rw [List.head?_cons, Option.map_some, start_of_readApp hk]
      · split at h
        · cases h
        · cases h
          rw [List.head?_cons, Option.map_some, start_of_readApp hk]

theorem span_of_readDestination {q : Destination} (h : readDestination i = .ok (q, j)) :
    i.startsWith [':'] = true ∧ q.span.start = i.offset + 1 ∧ q.span.start < q.span.stop := by
  obtain ⟨k, hcolon, hname, hspan⟩ := passes_of_readDestination h
  have hword := (written_of_readDestination h).1
  have hstart := hcolon.offset
  have hlt := hname.offset_lt hword.1
  rw [hspan]
  exact ⟨startsWith_of_passes hcolon, hstart, hlt⟩

/-- A source stands right behind the colon; without one nothing is read. -/
theorem span_of_readSource {source : Option Destination} (h : readSource i = .ok (source, j)) :
    (source = none → j = i) ∧ ∀ q ∈ source, i.startsWith [':'] = true ∧
      q.span.start = i.offset + 1 ∧ q.span.start < q.span.stop := by
  simp only [readSource] at h
  split at h
  · split at h
    · cases h
    · next q k hk =>
      split at h
      · cases h
      · cases h
        refine ⟨by simp, ?_⟩
        rintro q' ⟨⟩
        exact span_of_readDestination hk
  · cases h
    exact ⟨fun _ => rfl, by simp⟩

theorem spans_of_readFlow {source sink : Option Destination} {apps : List App}
    (h : readFlow source i = .ok ((apps, sink), j)) :
    (source = none → apps.head?.map (·.span.start) = some i.offset) ∧ (apps ≠ [] ∨ sink ≠ none) ∧
      ∀ q ∈ sink, q.span.start < q.span.stop := by
  simp only [readFlow] at h
  split at h
  · next hbridge =>
    split at h
    · cases h
    · next q k hk =>
      cases h
      refine ⟨?_, .inr (by simp), ?_⟩
      · rintro rfl
        cases hbridge
      · rintro q' ⟨⟩
        exact (span_of_readDestination hk).2.2
  · split at h
    · cases h
    · next apps k hk =>
      split at h
      · cases h
      · next sink l hl =>
        cases h
        have hhead := head_of_readPipeline hk
        refine ⟨fun _ => hhead, .inl ?_, ?_⟩
        · rintro rfl
          cases hhead
        · simp only [readSink] at hl
          split at hl
          · cases hl
            simp
          · split at hl
            · cases hl
            · next q m hm =>
              cases hl
              rintro q' ⟨⟩
              exact (span_of_readDestination hm).2.2

/-- A stream ends where the last of its parts does. -/
theorem flowStop_eq {apps : List App} {sink : Option Destination} {last : Span} (start : Nat)
    (h : (apps.map (·.span) ++ sink.toList.map (·.span)).getLast? = some last) :
    flowStop start apps sink = last.stop := by
  cases sink with
  | some q =>
    rw [Option.toList_some, List.map_singleton, List.getLast?_concat] at h
    cases h
    rfl
  | none =>
    rw [Option.toList_none, List.map_nil, List.append_nil, List.getLast?_map] at h
    obtain ⟨a, ha, rfl⟩ := Option.map_eq_some_iff.mp h
    rw [flowStop, ha]
    rfl

/-- What the parts of a stream were read from, and where its name ends. -/
theorem StreamDefinition.parts_of_parse {s : StreamDefinition}
    (h : StreamDefinition.parse text = .ok s) :
    ∃ i k l, StandsIn text i ∧ readSource i = .ok (s.source, k) ∧
      readFlow s.source k = .ok ((s.apps, s.sink), l) ∧
      s.span = ⟨i.offset, flowStop i.offset s.apps s.sink⟩ ∧
      Span.Row i.offset (text.length + 1) s.partSpans ∧
      ∀ n ∈ s.name, n.span.start < n.span.stop ∧ n.span.stop < i.offset := by
  have hstart := (standsIn_ofText text 0).of_reaches (reaches_skipBlanks _)
  rw [StreamDefinition.parse] at h
  cases hread : readName (ofText text 0).skipBlanks with
  | mk name i =>
    rw [hread] at h
    have hbody : readStreamBody name i.skipBlanks = .ok s := h
    obtain ⟨hspelled, hreach, hrow⟩ := readName_spelled hstart hread
    have hstands := (hstart.of_reaches hreach).of_reaches (reaches_skipBlanks i)
    obtain ⟨k, l, hk, hl, -, rfl, hspan, -⟩ := parts_of_readStreamBody hbody
    obtain ⟨-, -, -, -, hparts⟩ := readStreamBody_spelled hstands hbody
    refine ⟨i.skipBlanks, k, l, hstands, hk, hl, hspan, hparts, fun n hn => ⟨?_, ?_⟩⟩
    · obtain ⟨written, hwritten, -⟩ := written_of_readName hread (stops_skipBlanks _)
      rw [hn, Option.map_some] at hwritten
      cases hwritten with
      | present hword =>
        have hlength := List.length_pos_iff.mpr hword.1
        have := (hspelled n hn).stop_eq
        omega
    · have hname := (hrow.within n.span (by simp [Option.mem_def.mp hn])).2
      exact Nat.lt_of_lt_of_le hname (reaches_skipBlanks i).offset_le

theorem StreamDefinition.app_of_parse {s : StreamDefinition}
    (h : StreamDefinition.parse text = .ok s) :
    ∀ a ∈ s.apps, a.Nested ∧ ∀ t ∈ a.span :: a.partSpans, t.start < t.stop := by
  obtain ⟨i, k, l, -, -, hflow, -⟩ := parts_of_parse h
  intro a ha
  obtain ⟨j, m, hread⟩ := exists_readApp_of_readFlow hflow a ha
  exact nested_of_readApp hread

theorem StreamDefinition.lt_of_mem_partSpans {s : StreamDefinition}
    (h : StreamDefinition.parse text = .ok s) : ∀ t ∈ s.partSpans, t.start < t.stop := by
  obtain ⟨i, k, l, -, hsource, hflow, -⟩ := parts_of_parse h
  intro t ht
  simp only [partSpans, List.mem_append, List.mem_map, Option.mem_toList] at ht
  rcases ht with ⟨q, hq, rfl⟩ | ⟨a, ha, rfl⟩ | ⟨q, hq, rfl⟩
  · exact ((span_of_readSource hsource).2 q hq).2.2
  · exact (app_of_parse h a ha).2 a.span List.mem_cons_self
  · exact (spans_of_readFlow hflow).2.2 q hq

/-- The last part of a stream, where the stream ends. -/
theorem StreamDefinition.getLast?_of_parse {s : StreamDefinition}
    (h : StreamDefinition.parse text = .ok s) :
    ∃ last, (s.apps.map (·.span) ++ s.sink.toList.map (·.span)).getLast? = some last ∧
      s.span.stop = last.stop := by
  obtain ⟨i, k, l, -, -, hflow, hspan, -⟩ := parts_of_parse h
  have hne : s.apps.map (·.span) ++ s.sink.toList.map (·.span) ≠ [] := by
    rcases (spans_of_readFlow hflow).2.1 with hne | hne
    · simp [hne]
    · obtain ⟨q, hq⟩ := Option.ne_none_iff_exists'.mp hne
      simp [hq]
  refine ⟨_, List.getLast?_eq_getLast_of_ne_nil hne, ?_⟩
  rw [hspan]
  exact flowStop_eq i.offset (List.getLast?_eq_getLast_of_ne_nil hne)

theorem StreamDefinition.inside_of_parse {s : StreamDefinition}
    (h : StreamDefinition.parse text = .ok s) :
    s.span.Proper text ∧ ∀ t ∈ s.partSpans, t.Inside s.span := by
  obtain ⟨i, k, l, -, -, -, hspan, hrow, -⟩ := parts_of_parse h
  obtain ⟨last, hlast, hstop⟩ := getLast?_of_parse h
  have hwhole : s.partSpans.getLast? = some last := by
    rw [partSpans, List.getLast?_append, hlast, Option.some_or]
  have hmem := List.mem_of_getLast? hwhole
  have hlt := lt_of_mem_partSpans h last hmem
  have hstart : s.span.start = i.offset := by rw [hspan]
  refine ⟨?_, fun t ht => ⟨?_, ?_⟩⟩
  · have hbounds := hrow.within last hmem
    exact ⟨by omega, by omega⟩
  · rw [hstart]
    exact (hrow.within t ht).1
  · rw [hstop]
    exact Span.stop_le_getLast hrow.ordered hwhole hlt t ht

theorem StreamDefinition.nested_of_parse {s : StreamDefinition}
    (h : StreamDefinition.parse text = .ok s) : s.Nested text := by
  obtain ⟨i, k, l, hstands, hsource, hflow, hspan, hrow, hname⟩ := parts_of_parse h
  obtain ⟨hunmoved, hcolon⟩ := span_of_readSource hsource
  obtain ⟨last, hlast, hstop⟩ := getLast?_of_parse h
  have hstart : s.span.start = i.offset := by rw [hspan]
  constructor
  case name =>
    intro n hn
    rw [hstart]
    exact (hname n hn).2
  case source =>
    intro q hq
    obtain ⟨hnext, hcolumn, -⟩ := hcolon q hq
    obtain ⟨before, htext, hoffset⟩ := hstands
    rw [hstart]
    refine ⟨?_, hcolumn⟩
    rw [htext, hoffset, List.getElem?_append_right (le_refl _), Nat.sub_self,
      (passes_advance hnext).rest]
    rfl
  case first =>
    intro hnone
    rw [(spans_of_readFlow hflow).1 hnone, hunmoved hnone, hstart]
  case last =>
    intro hnone
    rw [hnone, Option.toList_none, List.map_nil, List.append_nil, List.getLast?_map] at hlast
    obtain ⟨a, ha, rfl⟩ := Option.map_eq_some_iff.mp hlast
    rw [ha, hstop]
    rfl
  case sink =>
    intro q hq
    rw [Option.mem_def.mp hq, Option.toList_some, List.map_singleton, List.getLast?_concat] at hlast
    cases hlast
    exact hstop.symm
  case inside => exact (inside_of_parse h).2
  case apart => exact hrow.ordered
  case apps => exact fun a ha => (app_of_parse h a ha).1

theorem StreamDefinition.proper_of_parse {s : StreamDefinition}
    (h : StreamDefinition.parse text = .ok s) : ∀ t ∈ s.allSpans, t.Proper text := by
  obtain ⟨i, k, l, hstands, -, -, -, -, hname⟩ := parts_of_parse h
  obtain ⟨hwhole, hinside⟩ := inside_of_parse h
  have hpart : ∀ t ∈ s.partSpans, t.Proper text := fun t ht =>
    hwhole.of_inside (hinside t ht) (lt_of_mem_partSpans h t ht)
  intro t ht
  simp only [allSpans, List.mem_cons, List.mem_append, List.mem_flatMap] at ht
  rcases ht with rfl | (ht | ht) | ⟨a, ha, ht⟩
  · exact hwhole
  · obtain ⟨n, hn, rfl⟩ := List.mem_map.mp ht
    obtain ⟨hlt, hbefore⟩ := hname n (Option.mem_toList.mp hn)
    have hlen := hstands.offset_le
    exact ⟨hlt, by omega⟩
  · exact hpart t ht
  · have happ : a.span ∈ s.partSpans := by
      simp only [partSpans, List.mem_append, List.mem_map]
      exact .inr (.inl ⟨a, ha, rfl⟩)
    obtain ⟨hnested, hlt⟩ := app_of_parse h a ha
    exact (hpart _ happ).of_inside (hnested.inside t ht) (hlt t (List.mem_cons_of_mem _ ht))

end Streams

/-! ## Tasks -/

/-- All spans of a task. -/
def TaskDefinition.allSpans (t : TaskDefinition) : List Span :=
  t.span :: t.apps.flatMap fun a => a.span :: a.partSpans

/-- The brackets of splits that open before an app, with blanks between them: nothing, or a text
that starts with a bracket. -/
def IsOpening (lead : List Char) : Prop :=
  (∀ c ∈ lead, c = '<' ∨ isBlank c = true) ∧ ∀ c ∈ lead.head?, c = '<'

/-- The brackets of splits that end after an app: nothing, or a text that ends with a bracket. -/
def IsClosing (tail : List Char) : Prop :=
  (∀ c ∈ tail, c = '>' ∨ isBlank c = true) ∧ ∀ c ∈ tail.getLast?, c = '>'

/-- The apps of a task stand inside the task one after the other, and no two of them touch. The task
starts with its first app or with the brackets before it, and ends with its last app or with the
brackets behind it. -/
structure TaskDefinition.Nested (text : List Char) (t : TaskDefinition) : Prop where
  first : ∃ a lead, t.apps.head? = some a ∧ IsOpening lead ∧
    Span.Spells text ⟨t.span.start, a.span.start⟩ lead
  last : ∃ a tail, t.apps.getLast? = some a ∧ IsClosing tail ∧
    Span.Spells text ⟨a.span.stop, t.span.stop⟩ tail
  inside : ∀ a ∈ t.apps, a.span.Inside t.span
  apart : t.apps.Pairwise (fun a b => a.span.stop < b.span.start)
  apps : ∀ a ∈ t.apps, a.Nested

theorem isOpening_nil : IsOpening [] := by
  simp [IsOpening]

theorem isClosing_nil : IsClosing [] := by
  simp [IsClosing]

theorem IsOpening.bracket {gap lead : List Char} (h : IsOpening lead) (hgap : IsBlanks gap) :
    IsOpening ('<' :: (gap ++ lead)) := by
  refine ⟨fun c hc => ?_, by simp⟩
  rcases List.mem_cons.mp hc with rfl | hc
  · exact .inl rfl
  · rcases List.mem_append.mp hc with hc | hc
    · exact .inr (hgap c hc)
    · exact h.1 c hc

theorem IsClosing.bracket {gap tail : List Char} (h : IsClosing tail) (hgap : IsBlanks gap) :
    IsClosing (gap ++ '>' :: tail) := by
  refine ⟨fun c hc => ?_, fun c hc => ?_⟩
  · rcases List.mem_append.mp hc with hc | hc
    · exact .inr (hgap c hc)
    · rcases List.mem_cons.mp hc with rfl | hc
      · exact .inl rfl
      · exact h.1 c hc
  · rw [List.getLast?_append, List.getLast?_cons, Option.some_or] at hc
    cases htail : tail.getLast? with
    | none =>
      rw [htail] at hc
      cases hc
      rfl
    | some d =>
      rw [htail] at hc
      cases hc
      exact h.2 _ htail

section Tasks

variable {text : List Char} {i : Input} {depth stop : Nat} {apps : List App}

/-- Only brackets and blanks are passed over before the first app. -/
theorem opening_of_readFlows (h : readFlows depth i = .ok (apps, stop)) :
    ∃ a lead k, apps.head? = some a ∧ IsOpening lead ∧ i.Passes lead k ∧
      a.span.start = k.offset := by
  fun_induction readFlows depth i generalizing apps stop with
  | case1 depth i j hj hlt ih =>
    obtain ⟨a, lead, k, ha, hlead, hpass, hstart⟩ := ih h
    refine ⟨a, _, k, ha, hlead.bracket (isBlanks_word j), ?_, hstart⟩
    exact (passes_of_eat? hj).trans ((passes_skipBlanks j).trans hpass)
  | case2 depth i hopen e he => cases h
  | case3 depth i hopen a j hj e he => cases h
  | case4 depth i hopen a j hj last hdone =>
    cases h
    exact ⟨a, [], i, rfl, isOpening_nil, Passes.refl i, start_of_readApp hj⟩
  | case5 depth i hopen a j hj inner k hk hlt e he ih => cases h
  | case6 depth i hopen a j hj inner k hk hlt more last hmore ih =>
    cases h
    exact ⟨a, [], i, rfl, isOpening_nil, Passes.refl i, start_of_readApp hj⟩

theorem closing_of_afterFlow {last : Nat} (h : afterFlow depth stop i = .ok (.done last))
    (hstop : stop = i.offset) : ∃ tail k, IsClosing tail ∧ i.Passes tail k ∧ last = k.offset := by
  induction depth generalizing stop i with
  | zero =>
    rcases afterFlow_cases h with ⟨k, -, hr⟩ | ⟨-, -, hr⟩ | ⟨outer, -, hd, -⟩ | ⟨outer, -, hd, -⟩
    · cases hr
    · cases hr
      exact ⟨[], i, isClosing_nil, Passes.refl i, hstop⟩
    · cases hd
    · cases hd
  | succ outer ih =>
    rcases afterFlow_cases h with ⟨k, -, hr⟩ | ⟨hd, -⟩ | ⟨-, k, -, -, hr⟩ |
      ⟨outer, k, hd, hk, hclose⟩
    · cases hr
    · cases hd
    · cases hr
    · cases hd
      obtain ⟨tail, l, htail, hpass, hlast⟩ := ih hclose rfl
      exact ⟨_, l, htail.bracket (isBlanks_word i),
        (passes_skipBlanks i).trans (hk.trans hpass), hlast⟩

/-- Only brackets and blanks are passed over between the last app and the end of a task. -/
theorem closing_of_readFlows (hi : StandsIn text i) (h : readFlows depth i = .ok (apps, stop)) :
    ∃ a tail, apps.getLast? = some a ∧ IsClosing tail ∧
      Span.Spells text ⟨a.span.stop, stop⟩ tail := by
  fun_induction readFlows depth i generalizing apps stop with
  | case1 depth i j hj hlt ih =>
    exact ih (hi.of_reaches ((passes_of_eat? hj).reaches.trans (reaches_skipBlanks j))) h
  | case2 depth i hopen e he => cases h
  | case3 depth i hopen a j hj e he => cases h
  | case4 depth i hopen a j hj last hdone =>
    cases h
    obtain ⟨hreach, hstop⟩ := stop_of_readApp hj
    obtain ⟨tail, k, htail, hpass, hlast⟩ := closing_of_afterFlow hdone hstop
    refine ⟨a, tail, rfl, htail, ?_⟩
    rw [hstop, hlast]
    exact (hi.of_reaches hreach).spells hpass
  | case5 depth i hopen a j hj inner k hk hlt e he ih => cases h
  | case6 depth i hopen a j hj inner k hk hlt more last hmore ih =>
    cases h
    have hreach := (stop_of_readApp hj).1.trans (reaches_of_afterFlow hk)
    obtain ⟨b, tail, hb, htail, hspells⟩ := ih (hi.of_reaches hreach) hmore
    refine ⟨b, tail, ?_, htail, hspells⟩
    rw [List.getLast?_cons, hb]
    rfl

theorem TaskDefinition.app_of_parse {name : String} {start : Nat} {t : TaskDefinition}
    (h : TaskDefinition.parse name text start = .ok t) :
    ∀ a ∈ t.apps, a.Nested ∧ ∀ s ∈ a.span :: a.partSpans, s.start < s.stop := by
  obtain ⟨i, -, -, -, hflows⟩ := TaskDefinition.exists_of_parse h
  intro a ha
  obtain ⟨k, l, hread⟩ := exists_readApp_of_readFlows hflows a ha
  exact nested_of_readApp hread

theorem TaskDefinition.nested_of_parse {name : String} {start : Nat} {t : TaskDefinition}
    (h : TaskDefinition.parse name text start = .ok t) : t.Nested text := by
  obtain ⟨i, hstands, hstart, -, hflows⟩ := TaskDefinition.exists_of_parse h
  obtain ⟨-, hrow⟩ := readFlows_spelled hstands hflows
  obtain ⟨first, lead, k, hfirst, hlead, hpass, hcolumn⟩ := opening_of_readFlows hflows
  obtain ⟨last, tail, hlast, htail, hspells⟩ := closing_of_readFlows hstands hflows
  have happ := app_of_parse h
  constructor
  case first =>
    refine ⟨first, lead, hfirst, hlead, ?_⟩
    rw [hstart, hcolumn]
    exact hstands.spells hpass
  case last => exact ⟨last, tail, hlast, htail, hspells⟩
  case inside =>
    intro a ha
    refine ⟨?_, ?_⟩
    · rw [hstart]
      exact (hrow.within a.span (List.mem_map_of_mem ha)).1
    · have hend := hspells.stop_eq
      have hlt := (happ last (List.mem_of_getLast? hlast)).2 last.span List.mem_cons_self
      have hreach := Span.stop_le_getLast hrow.ordered (by rw [List.getLast?_map, hlast]; rfl) hlt
        a.span (List.mem_map_of_mem ha)
      simp only at hend
      omega
  case apart => exact List.pairwise_map.mp hrow.ordered
  case apps => exact fun a ha => (happ a ha).1

theorem TaskDefinition.proper_of_parse {name : String} {start : Nat} {t : TaskDefinition}
    (h : TaskDefinition.parse name text start = .ok t) : ∀ s ∈ t.allSpans, s.Proper text := by
  have hnested := nested_of_parse h
  have happ := app_of_parse h
  obtain ⟨a, tail, ha, -, hspells⟩ := hnested.last
  have hmem := List.mem_of_getLast? ha
  have hwhole : t.span.Proper text := by
    have hinside := hnested.inside a hmem
    have hlt := (happ a hmem).2 a.span List.mem_cons_self
    exact ⟨Nat.lt_of_le_of_lt hinside.start_le (Nat.lt_of_lt_of_le hlt hinside.stop_le),
      hspells.stop_le⟩
  intro s hs
  simp only [allSpans, List.mem_cons, List.mem_flatMap] at hs
  rcases hs with rfl | ⟨b, hb, hs⟩
  · exact hwhole
  · obtain ⟨hb', hlt⟩ := happ b hb
    have hspan := hwhole.of_inside (hnested.inside b hb) (hlt b.span List.mem_cons_self)
    rcases hs with rfl | hs
    · exact hspan
    · exact hspan.of_inside (hb'.inside s hs) (hlt s (List.mem_cons_of_mem _ hs))

end Tasks

/-- **The spans of a definition are nested.** Whatever text is read as a stream, or from some column
on as a task, every span of the definition has at least one column and ends in the text, and the
spans lie in each other as the parts of the definition do. -/
theorem spans_nested (text : List Char) :
    (∀ s, StreamDefinition.parse text = .ok s →
      (∀ span ∈ s.allSpans, span.Proper text) ∧ s.Nested text) ∧
    ∀ name start t, TaskDefinition.parse name text start = .ok t →
      (∀ span ∈ t.allSpans, span.Proper text) ∧ t.Nested text := by
  constructor
  · intro s h
    exact ⟨StreamDefinition.proper_of_parse h, StreamDefinition.nested_of_parse h⟩
  · intro name start t h
    exact ⟨TaskDefinition.proper_of_parse h, TaskDefinition.nested_of_parse h⟩

/-- A stream with no blank but the one that must stand before its first option: the second option
touches the first one, and nothing else touches. In the task the first and the last app stand in
splits. -/
theorem tightDefinitions_nested :
    let stream := "s=:in>l:f --x='a'--y=1|log>:out".toList
    let s : StreamDefinition := ⟨some ⟨"s", ⟨0, 1⟩⟩, some ⟨"in", ⟨3, 5⟩⟩, some ⟨"out", ⟨28, 31⟩⟩,
      [⟨some "l", "f", ⟨8, 9⟩, [⟨"x", "a", ⟨10, 17⟩⟩, ⟨"y", "1", ⟨17, 22⟩⟩], ⟨6, 22⟩⟩,
        ⟨none, "log", ⟨23, 26⟩, [], ⟨23, 26⟩⟩], ⟨2, 31⟩, ":in>l:f --x='a'--y=1|log>:out"⟩
    let task := "t= <a||<b> >".toList
    let t : TaskDefinition :=
      ⟨"t", [⟨none, "a", ⟨4, 5⟩, [], ⟨4, 5⟩⟩, ⟨none, "b", ⟨8, 9⟩, [], ⟨8, 9⟩⟩], ⟨3, 12⟩,
        "<a||<b> >"⟩
    (StreamDefinition.parse stream = .ok s ∧ s.Nested stream) ∧
      TaskDefinition.parse "t" task 2 = .ok t ∧ t.Nested task := by
  intro stream s task t
  have hs : StreamDefinition.parse stream = .ok s := by decide +kernel
  have ht : TaskDefinition.parse "t" task 2 = .ok t := by decide +kernel
  exact ⟨⟨hs, ((spans_nested stream).1 s hs).2⟩, ht, ((spans_nested task).2 "t" 2 t ht).2⟩

end Flowline
