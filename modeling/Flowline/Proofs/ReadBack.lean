import Flowline.Proofs.ErrorPlace
import Flowline.Proofs.SymbolNames

/-!
# Ranges read back

What a document holds in the range of something is that thing. The columns of a range come from the
reader of the line, from the cut that finds an inline name, from the trimming of metadata or from
the dot in a destination, and each time they are those of the text that was found there.

* `Body.ReadsBack`: what stands in the ranges of a definition line;
* `Symbol.ReadsBack`: what stands in the range of a symbol;
* `exists_readApp_of_ofLine`: where apps come from, and so what their labels are;
* `readsBack_segment`: the ranges of the items and symbols of a document read back.
-/

namespace Flowline

open Character Input

/-- The range of a definition holds its text, and that of a name the name. The range of a problem is
empty and lies on the definition line. -/
def Body.ReadsBack (document : Document) (line : Option Nat) : Body → Prop
  | .parsed p => document.content p.range = p.definition.body.toList ∧
      ∀ r ∈ p.nameRange, ∃ name, p.name = some name ∧ document.content r = name.toList
  | .invalid problem => problem.range.start = problem.range.stop ∧
      line = some problem.range.start.line ∧
      ∃ text, document.lineText problem.range.start.line = some text ∧
        problem.range.start.character ≤ text.length
  | .dangling => True

/-- What may stand before the name of an app: a label with its colon. -/
def IsLead (lead : List Char) : Prop :=
  lead = [] ∨ ∃ label, IsWord isNameChar label ∧ lead = label ++ [':']

/-- The range of a name or a reference holds it and nothing else. That of an option starts with the
dashes, the name and the equals sign, and that of an app with its name or a label before it. A
definition may have its name elsewhere, so its symbol is left to `Body.ReadsBack`; the other roles
do not occur beside definitions. -/
def Symbol.ReadsBack (document : Document) (s : Symbol) : Prop :=
  match s.role with
  | .declaredName | .metadataName | .reference => document.content s.range = s.name.toList
  | .argument => ['-', '-'] ++ s.name.toList ++ ['='] <+: document.content s.range
  | .source | .processor | .sink | .taskApp =>
    ∃ lead, IsLead lead ∧ lead ++ s.name.toList <+: document.content s.range
  | .definition => True
  | .app | .appUri | .appMetadata => False

/-! ## Definition lines -/

section Bodies

variable {text : List Char}

theorem Input.StandsIn.slice_eq {i : Input} (h : StandsIn text i) (stop : Nat) :
    slice text i.offset stop = i.rest.take (stop - i.offset) := by
  obtain ⟨before, htext, hoffset⟩ := h
  rw [slice, hoffset, htext, List.drop_left]

/-- Where the body of a stream was read, and what its apps and its sink come from. -/
theorem StreamDefinition.exists_of_parse {s : StreamDefinition}
    (h : StreamDefinition.parse text = .ok s) :
    ∃ i j k, StandsIn text i ∧ s.span.start = i.offset ∧
      s.body = String.ofList (i.rest.take (s.span.stop - i.offset)) ∧
      readFlow s.source j = .ok ((s.apps, s.sink), k) := by
  have hstart := (standsIn_ofText text 0).of_reaches (reaches_skipBlanks _)
  rw [StreamDefinition.parse] at h
  cases hread : readName (ofText text 0).skipBlanks with
  | mk name i =>
    rw [hread] at h
    have hstands := (hstart.of_reaches (readName_spelled hstart hread).2.1).of_reaches
      (reaches_skipBlanks i)
    simp only [readStreamBody] at h
    split at h
    · cases h
    · split at h
      · cases h
      · next source j hj =>
        split at h
        · cases h
        · next apps sink k hk =>
          split at h
          · cases h
          · cases h
            exact ⟨i.skipBlanks, j, k, hstands, rfl, rfl, hk⟩

theorem TaskDefinition.exists_of_parse {name : String} {start : Nat} {t : TaskDefinition}
    (h : TaskDefinition.parse name text start = .ok t) :
    ∃ i, StandsIn text i ∧ t.span.start = i.offset ∧
      t.body = String.ofList (i.rest.take (t.span.stop - i.offset)) ∧
      readFlows 0 i = .ok (t.apps, t.span.stop) := by
  have hstands := (standsIn_ofText text start).of_reaches (reaches_skipBlanks _)
  simp only [TaskDefinition.parse] at h
  split at h
  · cases h
  · split at h
    · cases h
    · next hflows =>
      cases h
      exact ⟨_, hstands, rfl, rfl, hflows⟩

/-- The text of a stream is cut out of the line. -/
theorem StreamDefinition.body_of_parse {s : StreamDefinition}
    (h : StreamDefinition.parse text = .ok s) :
    s.body.toList = slice text s.span.start s.span.stop := by
  obtain ⟨i, j, k, hstands, hoffset, hbody, -⟩ := StreamDefinition.exists_of_parse h
  rw [hbody, hoffset, String.toList_ofList, hstands.slice_eq]

theorem TaskDefinition.body_of_parse {name : String} {start : Nat} {t : TaskDefinition}
    (h : TaskDefinition.parse name text start = .ok t) :
    t.body.toList = slice text t.span.start t.span.stop := by
  obtain ⟨i, hstands, hoffset, hbody, -⟩ := TaskDefinition.exists_of_parse h
  rw [hbody, hoffset, String.toList_ofList, hstands.slice_eq]

variable {document : Document} {n : Nat} {name : Option Metadata}

theorem Body.readsBack_ofError {start : Nat} {e : SyntaxError} {texts : List Char → Prop}
    (htext : document.lineText n = some text) (h : BreaksOff (ofText text start) e texts) :
    (Body.ofError n e).ReadsBack document (some n) :=
  ⟨rfl, rfl, text, htext, h.position_le (standsIn_ofText text start)⟩

theorem Body.readsBack_ofStreamLine (htext : document.lineText n = some text) :
    (Body.ofStreamLine .standard n text name).ReadsBack document (some n) := by
  simp only [Body.ofStreamLine, DefinitionReader.standard]
  split
  · next e he => exact readsBack_ofError htext (StreamDefinition.breaksOff_of_parse he)
  · next s hs =>
    refine ⟨?_, ?_⟩
    · rw [Document.content_onLine htext]
      exact (StreamDefinition.body_of_parse hs).symm
    · intro r hr
      obtain ⟨declared, hdeclared, rfl⟩ := Option.map_eq_some_iff.mp hr
      refine ⟨declared.text, by rw [hdeclared, Option.map_some, Option.some_or], ?_⟩
      exact Document.content_of_spells htext
        ((StreamDefinition.spelled_of_parse hs).name declared hdeclared)

theorem Body.readsBack_ofNamedTask {name : String} {nameRange : Option Range} {start : Nat}
    (htext : document.lineText n = some text)
    (hname : ∀ r ∈ nameRange, document.content r = name.toList) :
    (Body.ofNamedTask .standard n text name nameRange start).ReadsBack document (some n) := by
  simp only [Body.ofNamedTask, DefinitionReader.standard]
  split
  · next e he => exact readsBack_ofError htext (TaskDefinition.breaksOff_of_parse he)
  · next t ht =>
    refine ⟨?_, fun r hr => ⟨name, rfl, hname r hr⟩⟩
    rw [Document.content_onLine htext]
    exact (TaskDefinition.body_of_parse ht).symm

theorem Body.readsBack_ofLine {d : Dialect} (htext : document.lineText n = some text) :
    (Body.ofLine .standard d n text name).ReadsBack document (some n) := by
  cases d with
  | stream => exact readsBack_ofStreamLine htext
  | task =>
    simp only [Body.ofLine, Body.ofTaskLine]
    split
    · next inline hinline =>
      refine readsBack_ofNamedTask htext ?_
      rintro r ⟨⟩
      exact Document.content_of_spells htext (inlineName_spells hinline).1
    · split
      · exact readsBack_ofNamedTask htext (by simp)
      · exact ⟨rfl, rfl, text, htext, Nat.zero_le _⟩

end Bodies

/-! ## Labels -/

section Labels

variable {text : List Char}

theorem exists_readApp_of_readPipeline {i j : Input} {apps : List App}
    (h : readPipeline i = .ok (apps, j)) : ∀ a ∈ apps, ∃ k l, readApp .stream k = .ok (a, l) := by
  fun_induction readPipeline i generalizing apps j with
  | case1 i error he => cases h
  | case2 i app k hk hpipes => cases h
  | case3 i app k hk hpipes hend =>
    cases h
    rintro a ha
    rw [List.mem_singleton.mp ha]
    exact ⟨i, k, hk⟩
  | case4 i app k hk hpipes l hl hlt error he ih => cases h
  | case5 i app k hk hpipes l hl hlt more m hm ih =>
    cases h
    exact List.forall_mem_cons.mpr ⟨⟨i, k, hk⟩, ih hm⟩

theorem exists_readApp_of_readFlows {depth stop : Nat} {i : Input} {apps : List App}
    (h : readFlows depth i = .ok (apps, stop)) :
    ∀ a ∈ apps, ∃ k l, readApp .task k = .ok (a, l) := by
  fun_induction readFlows depth i generalizing apps stop with
  | case1 depth i j hj hlt ih => exact ih h
  | case2 depth i hopen e he => cases h
  | case3 depth i hopen app j hj e he => cases h
  | case4 depth i hopen app j hj stop' hdone =>
    cases h
    rintro a ha
    rw [List.mem_singleton.mp ha]
    exact ⟨i, j, hj⟩
  | case5 depth i hopen app j hj next k hk hlt e he ih => cases h
  | case6 depth i hopen app j hj next k hk hlt more stop' hmore ih =>
    cases h
    exact List.forall_mem_cons.mpr ⟨⟨i, j, hj⟩, ih hmore⟩

theorem exists_readApp_of_readFlow {source sink : Option Destination} {i j : Input}
    {apps : List App} (h : readFlow source i = .ok ((apps, sink), j)) :
    ∀ a ∈ apps, ∃ k l, readApp .stream k = .ok (a, l) := by
  simp only [readFlow] at h
  split at h
  · split at h
    · cases h
    · cases h
      simp
  · split at h
    · cases h
    · next happs =>
      split at h
      · cases h
      · cases h
        exact exists_readApp_of_readPipeline happs

/-- Every app of a definition was read as an app. -/
theorem exists_readApp_of_ofLine {d : Dialect} {n : Nat} {name : Option Metadata} {p : Parsed}
    (h : Body.ofLine .standard d n text name = .parsed p) :
    ∀ a ∈ p.definition.apps, ∃ g i j, readApp g i = .ok (a, j) := by
  have htask : ∀ {name : String} {nameRange : Option Range} {start : Nat},
      Body.ofNamedTask .standard n text name nameRange start = .parsed p →
      ∀ a ∈ p.definition.apps, ∃ g i j, readApp g i = .ok (a, j) := by
    intro name nameRange start h a ha
    simp only [Body.ofNamedTask, DefinitionReader.standard] at h
    split at h
    · cases h
    · next t ht =>
      cases h
      obtain ⟨i, -, -, -, hflows⟩ := TaskDefinition.exists_of_parse ht
      exact ⟨.task, exists_readApp_of_readFlows hflows a ha⟩
  cases d with
  | stream =>
    intro a ha
    simp only [Body.ofLine, Body.ofStreamLine, DefinitionReader.standard] at h
    split at h
    · cases h
    · next s hs =>
      cases h
      obtain ⟨i, j, k, -, -, -, hflow⟩ := StreamDefinition.exists_of_parse hs
      exact ⟨.stream, exists_readApp_of_readFlow hflow a ha⟩
  | task =>
    simp only [Body.ofLine, Body.ofTaskLine] at h
    split at h
    · exact htask h
    · split at h
      · exact htask h
      · cases h

theorem isLead_of_readApp {g : Grammar} {i j : Input} {a : App} (h : readApp g i = .ok (a, j)) :
    IsLead a.lead := by
  obtain ⟨e, written, hwritten, -⟩ := written_of_readApp h
  cases hlabel : a.label with
  | none =>
    left
    rw [App.lead, hlabel]
  | some label =>
    right
    rw [App.term, hlabel] at hwritten
    cases hwritten with
    | labelled hword => exact ⟨label.toList, hword, by rw [App.lead, hlabel]⟩

end Labels

/-! ## Symbols -/

section Symbols

variable {document : Document} {n : Nat} {text : List Char}

theorem Symbol.readsBack_ofArgument {o : Argument} (ho : o.Spelled text)
    (htext : document.lineText n = some text) : (ofArgument n o).ReadsBack document := by
  obtain ⟨value, hspells⟩ := ho
  have hcontent := Document.content_of_spells htext hspells
  exact ⟨value, hcontent.symm⟩

theorem Symbol.readsBack_ofApp {a : App} (ha : a.Spelled text) (hlead : IsLead a.lead)
    (htext : document.lineText n = some text) (definition : Definition) (index : Nat) :
    (ofApp n (definition.role index) a).ReadsBack document := by
  obtain ⟨options, hspells, -⟩ := ha.span
  have hstart : ∃ lead, IsLead lead ∧
      lead ++ a.name.toList <+: document.content (a.span.onLine n) :=
    ⟨a.lead, hlead, options, (Document.content_of_spells htext hspells).symm⟩
  cases definition with
  | stream s =>
    rw [Definition.role, streamRole]
    split
    · exact hstart
    · split
      · exact hstart
      · exact hstart
  | task t => exact hstart

theorem Symbol.readsBack_of_content {s : Symbol}
    (hrole : s.role = .declaredName ∨ s.role = .metadataName ∨ s.role = .reference)
    (h : document.content s.range = s.name.toList) : s.ReadsBack document := by
  rw [ReadsBack]
  rcases hrole with hrole | hrole | hrole
  · rw [hrole]
    exact h
  · rw [hrole]
    exact h
  · rw [hrole]
    exact h

theorem Symbol.readsBack_of_mem_names {d : Dialect} {l : Line} {s : Symbol}
    (hl : l ∈ document.numberedLines)
    (hs : s ∈ (itemAt .standard d document.numberedLines l).names) : s.ReadsBack document := by
  have htext := Document.lineText_of_mem hl
  cases hp : (itemAt .standard d document.numberedLines l).parsed with
  | none =>
    rw [Item.names_of_not_parsed hp] at hs
    cases hs
  | some p =>
    have hspelled := spelled_of_parsed_itemAt hp
    rw [Item.names_of_parsed hp rfl] at hs
    simp only [Parsed.names, List.mem_append] at hs
    rcases hs with hs | hs | hs | hs
    · obtain ⟨x, hx, span, hrange, hspells, hrole, -, -⟩ :=
        exists_line_of_metadataName hl (Option.mem_toList.mp hs)
      refine readsBack_of_content (.inr (.inl hrole)) ?_
      rw [hrange]
      exact Document.content_of_spells (Document.lineText_of_mem hx) hspells
    · obtain ⟨span, hrange, hspells, -⟩ := hspelled.name s hs
      obtain ⟨name, range, -, -, rfl⟩ := mem_ofDeclaredName hs
      refine readsBack_of_content (.inl rfl) ?_
      rw [hrange]
      exact Document.content_of_spells htext hspells
    · obtain ⟨a, index, ha, ⟨o, ho, rfl⟩ | rfl⟩ := Definition.mem_appNames.mp hs
      · have hargument := (hspelled.apps a (List.fst_mem_of_mem_zipIdx ha)).arguments o ho
        exact readsBack_ofArgument hargument htext
      · have hmem := List.fst_mem_of_mem_zipIdx ha
        obtain ⟨g, i, j, hread⟩ := exists_readApp_of_ofLine (ofLine_of_parsed_itemAt hp) a hmem
        exact readsBack_ofApp (hspelled.apps a hmem) (isLead_of_readApp hread) htext _ _
    · obtain ⟨q, hq, hs⟩ := List.mem_flatMap.mp hs
      have hcontent := content_of_mem_ofDestination (hspelled.destinations q hq) htext hs
      obtain ⟨head, tail, -, rfl | rfl⟩ := mem_ofDestination hs
      · exact readsBack_of_content (.inr (.inr rfl)) hcontent
      · exact readsBack_of_content (.inr (.inr rfl)) hcontent

end Symbols

/-- **Ranges read back**: what a document holds in the ranges of its items and of its symbols is
what they stand for. -/
theorem readsBack_segment (d : Dialect) (document : Document) :
    (∀ i ∈ segment .standard d document, i.body.ReadsBack document i.line) ∧
      ∀ s ∈ (SymbolTable.ofItems (segment .standard d document)).all, s.ReadsBack document := by
  constructor
  · intro i hi
    rcases mem_segment.mp hi with ⟨l, hl, rfl⟩ | hd
    · exact Body.readsBack_ofLine (Document.lineText_of_mem (mem_definitionLines.mp hl).1)
    · rw [(danglingItem?_holds hd).1]
      trivial
  · intro s hs
    by_cases hrole : s.role = .definition
    · rw [Symbol.ReadsBack, hrole]
      trivial
    · have hname : s ∈ (SymbolTable.ofItems (segment .standard d document)).all.filter
          SymbolTable.isName := List.mem_filter.mpr ⟨hs, by simpa [SymbolTable.isName] using hrole⟩
      obtain ⟨l, hl, hs⟩ := mem_names_segment.mp hname
      exact Symbol.readsBack_of_mem_names (mem_definitionLines.mp hl).1 hs

/-- A stream that takes what the app of another one sends, under a name of the metadata that its own
name hides, and a stream that breaks off. -/
def brokenOffStream : Document where
  uri := "file:///streams.scdfs"
  version := 1
  text := "-- @name hidden\ntap = :main.time > out:log --level=2\nmain = time |"

/-- The app with a label, and the problem at the end of its line. -/
theorem brokenOffStream_readsBack :
    let items := segment .standard .stream brokenOffStream
    (∃ i ∈ items, i.problem.map (·.range) = some (Range.point ⟨2, 13⟩) ∧
      i.body.ReadsBack brokenOffStream i.line) ∧
    ∃ s ∈ (SymbolTable.ofItems items).all, s.name = "log" ∧ s.range = Range.onLine 1 19 36 ∧
      s.ReadsBack brokenOffStream := by
  intro items
  have hitem : items[1]?.bind (fun i => i.problem.map (·.range)) = some (Range.point ⟨2, 13⟩) := by
    decide +kernel
  have hsymbol : ((SymbolTable.ofItems items).all.find? (·.name == "log")).map (·.range) =
      some (Range.onLine 1 19 36) := by
    decide +kernel
  obtain ⟨i, hi, hproblem⟩ := Option.bind_eq_some_iff.mp hitem
  obtain ⟨s, hs, hrange⟩ := Option.map_eq_some_iff.mp hsymbol
  have hname : s.name = "log" := by simpa using List.find?_some hs
  refine ⟨⟨i, List.mem_of_getElem? hi, hproblem, ?_⟩,
    s, List.mem_of_find?_eq_some hs, hname, hrange, ?_⟩
  · exact (readsBack_segment .stream brokenOffStream).1 i (List.mem_of_getElem? hi)
  · exact (readsBack_segment .stream brokenOffStream).2 s (List.mem_of_find?_eq_some hs)

end Flowline
