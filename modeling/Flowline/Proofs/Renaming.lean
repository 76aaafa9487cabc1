import Flowline.Editor.Rename
import Flowline.Manifest.Symbols
import Flowline.Proofs.SymbolNames

/-!
# What renaming replaces

Renaming a symbol replaces the ranges of all symbols with its name. The range of an app reaches from
its label to its last option, that of an option from its dashes to its value, and that of an app in
a list of apps over the whole key. So the edits replace the name and nothing else exactly where the
name belongs to none of these: in a document with definitions, where all apps of that name stand
without label and options and no option has it; in a list of apps, never.

* `RenamesOnly`: edits that replace a name and nothing else;
* `content_app_iff`, `content_argument_ne`: what stands in the ranges of apps and options;
* `dot_of_mem_ofEntries`: what stands in the ranges of a list of apps;
* `renameEdits_renamesOnly_iff`: when the edits of a renaming replace the name and nothing else.
-/

namespace Flowline

/-- The edits replace a name and nothing else, and no two of them overlap. -/
def RenamesOnly (document : Document) (name : String) (edits : List TextEdit) : Prop :=
  (∀ e ∈ edits, document.content e.range = name.toList) ∧
    edits.Pairwise (fun e f => e.range.stop ≤ f.range.start ∨ f.range.stop ≤ e.range.start)

/-- An app of that name has neither label nor options, and no option has the name. -/
def App.IsBareAs (name : String) (a : App) : Prop :=
  (a.name = name → a.label = none ∧ a.arguments = []) ∧ ∀ o ∈ a.arguments, o.name ≠ name

instance (name : String) (a : App) : Decidable (a.IsBareAs name) :=
  inferInstanceAs (Decidable (_ ∧ _))

theorem renameEdits_eq {t : SymbolTable} {p : Position} {newName : String} {target : Symbol}
    {edits : List TextEdit} (htarget : t.symbolAt p = some target)
    (h : renameEdits t p newName = some edits) :
    edits ≠ [] ∧
      edits = ((t.all.filter SymbolTable.isName).filter (·.name == target.name)).map
        fun s => ⟨s.range, newName⟩ := by
  have hsame : t.all.filter (fun s => SymbolTable.isName s && s.name == target.name) =
      (t.all.filter SymbolTable.isName).filter (·.name == target.name) := by
    rw [List.filter_filter]
    exact List.filter_congr fun s _ => Bool.and_comm _ _
  simp only [renameEdits, htarget, Option.bind_some, hsame] at h
  split at h
  · cases h
  · next hne =>
    cases h
    exact ⟨fun hnil => hne (List.isEmpty_iff.mpr (List.map_eq_nil_iff.mp hnil)), rfl⟩

theorem mem_renameEdits {t : SymbolTable} {p : Position} {newName : String} {target : Symbol}
    {edits : List TextEdit} (htarget : t.symbolAt p = some target)
    (h : renameEdits t p newName = some edits) {e : TextEdit} :
    e ∈ edits ↔ ∃ s ∈ t.all.filter SymbolTable.isName, s.name = target.name ∧
      e = ⟨s.range, newName⟩ := by
  rw [(renameEdits_eq htarget h).2]
  simp only [List.mem_map, List.mem_filter (p := fun s : Symbol => s.name == target.name),
    beq_iff_eq, and_assoc, eq_comm (a := e)]

/-! ## The ranges of apps and options -/

section Content

variable {document : Document} {n : Nat} {text : List Char}

/-- Only an app without label and options has a range that holds its name alone. -/
theorem content_app_iff {a : App} (ha : a.Spelled text) (htext : document.lineText n = some text) :
    document.content (a.span.onLine n) = a.name.toList ↔ a.label = none ∧ a.arguments = [] := by
  obtain ⟨options, hspells, hoptions⟩ := ha.span
  rw [Document.content_of_spells htext hspells, ← hoptions]
  constructor
  · intro heq
    have hlen := congrArg List.length heq
    simp only [List.length_append] at hlen
    refine ⟨?_, List.eq_nil_of_length_eq_zero (by omega)⟩
    cases hlabel : a.label with
    | none => rfl
    | some label =>
      -- a label would come with a colon
      simp only [App.lead, hlabel, List.length_append, List.length_singleton] at hlen
      omega
  · rintro ⟨hlabel, rfl⟩
    simp [App.lead, hlabel]

theorem content_argument_ne {o : Argument} (ho : o.Spelled text)
    (htext : document.lineText n = some text) :
    document.content (o.span.onLine n) ≠ o.name.toList := by
  obtain ⟨value, hspells⟩ := ho
  rw [Document.content_of_spells htext hspells]
  intro heq
  have hlen := congrArg List.length heq
  simp only [Argument.lead, List.length_append, List.length_cons, List.length_nil] at hlen
  omega

end Content

/-! ## Documents with definitions -/

section Definitions

variable {d : Dialect} {document : Document} {l : Line} {p : Parsed}

/-- Every name is written as it is, but for apps and options. -/
theorem written_of_mem_names (hl : l ∈ document.numberedLines)
    (hp : (itemAt .standard d document.numberedLines l).parsed = some p) {s : Symbol}
    (hs : s ∈ (itemAt .standard d document.numberedLines l).names) :
    (s.role ≠ .argument ∧ document.content s.range = s.name.toList) ∨
      (∃ a ∈ p.definition.apps, s.role ≠ .argument ∧ s.name = a.name ∧
        s.range = a.span.onLine l.number) ∨
      ∃ a ∈ p.definition.apps, ∃ o ∈ a.arguments, s.name = o.name := by
  have hspelled := spelled_of_parsed_itemAt hp
  have htext := Document.lineText_of_mem hl
  rw [Item.names_of_parsed hp rfl] at hs
  simp only [Parsed.names, List.mem_append] at hs
  rcases hs with hs | hs | hs | hs
  · left
    obtain ⟨x, hx, span, hrange, hspells, hrole, -, -⟩ :=
      exists_line_of_metadataName hl (Option.mem_toList.mp hs)
    rw [hrole, hrange]
    exact ⟨by simp, Document.content_of_spells (Document.lineText_of_mem hx) hspells⟩
  · left
    obtain ⟨span, hrange, hspells, -⟩ := hspelled.name s hs
    obtain ⟨name, range, -, -, rfl⟩ := Symbol.mem_ofDeclaredName hs
    rw [hrange]
    exact ⟨by simp [Symbol.leaf], Document.content_of_spells htext hspells⟩
  · right
    obtain ⟨a, index, ha, ⟨o, ho, rfl⟩ | rfl⟩ := Definition.mem_appNames.mp hs
    · exact .inr ⟨a, List.fst_mem_of_mem_zipIdx ha, o, ho, rfl⟩
    · exact .inl ⟨a, List.fst_mem_of_mem_zipIdx ha, (p.definition.role_ne index).2, rfl, rfl⟩
  · left
    obtain ⟨q, hq, hs⟩ := List.mem_flatMap.mp hs
    have hcontent := Symbol.content_of_mem_ofDestination (hspelled.destinations q hq) htext hs
    obtain ⟨head, tail, -, rfl | rfl⟩ := Symbol.mem_ofDestination hs
    · exact ⟨by simp [Symbol.leaf], hcontent⟩
    · exact ⟨by simp [Symbol.leaf], hcontent⟩

/-- Every app and every option is a name. -/
theorem exists_name_of_app (reader : DefinitionReader) {lines : List Line}
    (hp : (itemAt reader d lines l).parsed = some p) {a : App} (ha : a ∈ p.definition.apps) :
    (∃ s ∈ (itemAt reader d lines l).names, s.name = a.name ∧ s.range = a.span.onLine l.number) ∧
      ∀ o ∈ a.arguments,
        ∃ s ∈ (itemAt reader d lines l).names, s.name = o.name ∧
          s.range = o.span.onLine l.number := by
  obtain ⟨index, hindex⟩ : ∃ index, (a, index) ∈ p.definition.apps.zipIdx := by
    rw [← List.zipIdx_map_fst 0 p.definition.apps] at ha
    obtain ⟨⟨b, index⟩, hmem, rfl⟩ := List.mem_map.mp ha
    exact ⟨index, hmem⟩
  have hmem : ∀ s ∈ p.definition.appNames l.number, s ∈ (itemAt reader d lines l).names := by
    intro s hs
    rw [Item.names_of_parsed hp rfl]
    simp only [Parsed.names, List.mem_append]
    exact .inr (.inr (.inl hs))
  constructor
  · exact ⟨_, hmem _ (Definition.mem_appNames.mpr ⟨a, index, hindex, .inr rfl⟩), rfl, rfl⟩
  · intro o ho
    exact ⟨_, hmem _ (Definition.mem_appNames.mpr ⟨a, index, hindex, .inl ⟨o, ho, rfl⟩⟩), rfl, rfl⟩

/-- If all symbols with a name hold it alone, no app and no option holds more. -/
theorem isBareAs_of_content {name : String}
    (h : ∀ s ∈ (SymbolTable.ofItems (segment .standard d document)).all.filter SymbolTable.isName,
      s.name = name → document.content s.range = name.toList) :
    ∀ i ∈ segment .standard d document, ∀ p ∈ i.parsed, ∀ a ∈ p.definition.apps,
      a.IsBareAs name := by
  intro i hi p hp a ha
  obtain ⟨l, hl, rfl⟩ := exists_itemAt_of_parsed hi hp
  have hspelled := (spelled_of_parsed_itemAt hp).apps a ha
  have htext := Document.lineText_of_mem (mem_definitionLines.mp hl).1
  obtain ⟨⟨s, hs, hname, hrange⟩, harguments⟩ := exists_name_of_app .standard hp ha
  constructor
  · intro heq
    have hcontent := h s (mem_names_segment.mpr ⟨l, hl, hs⟩) (hname.trans heq)
    rw [hrange, ← heq] at hcontent
    exact (content_app_iff hspelled htext).mp hcontent
  · intro o ho heq
    obtain ⟨s, hs, hname, hrange⟩ := harguments o ho
    have hcontent := h s (mem_names_segment.mpr ⟨l, hl, hs⟩) (hname.trans heq)
    rw [hrange, ← heq] at hcontent
    exact content_argument_ne (hspelled.arguments o ho) htext hcontent

/-- If no app and no option holds more than the name, all symbols with the name hold it alone. -/
theorem content_of_isBareAs {name : String}
    (h : ∀ i ∈ segment .standard d document, ∀ p ∈ i.parsed, ∀ a ∈ p.definition.apps,
      a.IsBareAs name) {s : Symbol}
    (hs : s ∈ (SymbolTable.ofItems (segment .standard d document)).all.filter SymbolTable.isName)
    (hname : s.name = name) :
    s.role ≠ .argument ∧ document.content s.range = name.toList := by
  obtain ⟨l, hl, hs⟩ := mem_names_segment.mp hs
  have hline := (mem_definitionLines.mp hl).1
  have hitem := h _ (mem_segment.mpr (.inl ⟨l, hl, rfl⟩))
  cases hp : (itemAt .standard d document.numberedLines l).parsed with
  | none =>
    rw [Item.names_of_not_parsed hp] at hs
    cases hs
  | some p =>
    have hspelled := spelled_of_parsed_itemAt hp
    rw [← hname]
    rcases written_of_mem_names hline hp hs with hs | ⟨a, ha, hrole, heq, hrange⟩ |
      ⟨a, ha, o, ho, heq⟩
    · exact hs
    · refine ⟨hrole, ?_⟩
      rw [hrange, heq]
      apply (content_app_iff (hspelled.apps a ha) (Document.lineText_of_mem hline)).mpr
      exact (hitem p hp a ha).1 (heq.symm.trans hname)
    · exact absurd (heq.symm.trans hname) ((hitem p hp a ha).2 o ho)

theorem renamesOnly_iff_of_items {position : Position} {newName : String} {target : Symbol}
    {edits : List TextEdit}
    (htarget : (SymbolTable.ofItems (segment .standard d document)).symbolAt position = some target)
    (h : renameEdits (SymbolTable.ofItems (segment .standard d document)) position newName =
      some edits) :
    RenamesOnly document target.name edits ↔
      ∀ i ∈ segment .standard d document, ∀ p ∈ i.parsed, ∀ a ∈ p.definition.apps,
        a.IsBareAs target.name := by
  constructor
  · rintro ⟨hcontent, -⟩
    apply isBareAs_of_content
    intro s hs hname
    exact hcontent _ ((mem_renameEdits htarget h).mpr ⟨s, hs, hname, rfl⟩)
  · intro hbare
    refine ⟨?_, ?_⟩
    · intro e he
      obtain ⟨s, hs, hname, rfl⟩ := (mem_renameEdits htarget h).mp he
      exact (content_of_isBareAs hbare hs hname).2
    · -- no symbol with the name is an option, and all others lie apart
      rw [(renameEdits_eq htarget h).2, List.pairwise_map]
      refine ((pairwise_names d document).filter _).imp_of_mem ?_
      intro s t hs ht hapart
      obtain ⟨hs, hsname⟩ := List.mem_filter.mp hs
      obtain ⟨ht, htname⟩ := List.mem_filter.mp ht
      exact hapart (content_of_isBareAs hbare hs (by simpa using hsname)).1
        (content_of_isBareAs hbare ht (by simpa using htname)).1

end Definitions

/-! ## Lists of apps -/

theorem mem_of_pieces_ne_singleton {sep : Char} {text : List Char} (h : pieces sep text ≠ [text]) :
    sep ∈ text := by
  by_contra hnot
  apply h
  rw [pieces_eq_splitOn]
  exact List.splitOn_eq_singleton hnot

/-- A key has a dot, and the name in it has none. -/
theorem dot_of_splitKey? {key appType name : List Char} {isMetadata : Bool}
    (h : splitKey? key = some (appType, name, isMetadata)) : '.' ∈ key ∧ '.' ∉ name := by
  have hcut : pieces '.' key ≠ [key] ∧ name ∈ pieces '.' key := by
    rw [splitKey?] at h
    split at h
    · next hpieces =>
      cases h
      simp [hpieces]
    · next kind hpieces =>
      split at h
      · cases h
        simp [hpieces]
      · cases h
    · cases h
  exact ⟨mem_of_pieces_ne_singleton hcut.1, not_mem_of_mem_pieces hcut.2⟩

/-- The key of a line stands in the range of its link. -/
theorem dot_of_parse? {document : Document} {n : Nat} {text : List Char} {l : ManifestLine}
    (htext : document.lineText n = some text) (h : ManifestLine.parse? n text = some l) :
    '.' ∉ l.name.toList ∧ '.' ∈ document.content l.link.keyRange := by
  simp only [ManifestLine.parse?] at h
  split at h
  · next keyText uriText hpieces =>
    split at h
    · cases h
    · next appType name isMetadata hkey =>
      obtain ⟨hdot, hname⟩ := dot_of_splitKey? hkey
      split at h
      · cases h
      · cases h
        have hspells := (spells_trim keyText).append_right ('=' :: uriText)
        rw [← eq_of_pieces_eq_pair hpieces] at hspells
        have hcontent := Document.content_of_spells htext hspells
        refine ⟨by rwa [String.toList_ofList], ?_⟩
        rw [← hcontent] at hdot
        exact hdot
  · cases h

/-- The name of an entry has no dot, but the ranges of its links have one. -/
structure ManifestEntry.Dotted (document : Document) (e : ManifestEntry) : Prop where
  name : '.' ∉ e.name.toList
  app : ∀ link ∈ e.app, '.' ∈ document.content link.keyRange
  metadata : ∀ link ∈ e.metadata, '.' ∈ document.content link.keyRange

theorem ManifestEntry.Dotted.link {document : Document} {e : ManifestEntry} {l : ManifestLine}
    (he : e.Dotted document) (hl : '.' ∈ document.content l.link.keyRange) :
    (e.link l).Dotted document := by
  rw [ManifestEntry.link]
  split
  · refine ⟨he.name, he.app, ?_⟩
    rintro link ⟨⟩
    exact hl
  · refine ⟨he.name, ?_, he.metadata⟩
    rintro link ⟨⟩
    exact hl

theorem dotted_addLine {document : Document} {l : ManifestLine} (hname : '.' ∉ l.name.toList)
    (hl : '.' ∈ document.content l.link.keyRange) {entries : List ManifestEntry}
    (h : ∀ e ∈ entries, e.Dotted document) : ∀ e ∈ addLine l entries, e.Dotted document := by
  have hnew : (ManifestEntry.ofLine l).Dotted document :=
    ⟨hname, by simp [ManifestEntry.ofLine], by simp [ManifestEntry.ofLine]⟩
  induction entries with
  | nil =>
    intro e he
    rw [addLine, List.mem_singleton] at he
    rw [he]
    exact hnew.link hl
  | cons first rest ih =>
    rw [List.forall_mem_cons] at h
    rw [addLine]
    split
    · exact List.forall_mem_cons.mpr ⟨h.1.link hl, h.2⟩
    · exact List.forall_mem_cons.mpr ⟨h.1, ih h.2⟩

theorem dotted_of_mem_manifestOf {document : Document} :
    ∀ e ∈ manifestOf document, e.Dotted document := by
  have hlines : ∀ l ∈ manifestLines document.lines,
      '.' ∉ l.name.toList ∧ '.' ∈ document.content l.link.keyRange := by
    intro l hl
    obtain ⟨⟨text, n⟩, hmem, hparse⟩ := List.mem_filterMap.mp hl
    exact dot_of_parse? (List.mem_zipIdx_iff_getElem?.mp hmem) hparse
  -- the entries gathered so far are dotted
  have hfold : ∀ (ls : List ManifestLine) (entries : List ManifestEntry),
      (∀ l ∈ ls, '.' ∉ l.name.toList ∧ '.' ∈ document.content l.link.keyRange) →
      (∀ e ∈ entries, e.Dotted document) →
      ∀ e ∈ ls.foldl (fun entries l => addLine l entries) entries, e.Dotted document := by
    intro ls
    induction ls with
    | nil =>
      intro entries _ h
      exact h
    | cons l ls ih =>
      intro entries hls h
      obtain ⟨hl, hrest⟩ := List.forall_mem_cons.mp hls
      exact ih _ hrest (dotted_addLine hl.1 hl.2 h)
  exact hfold _ [] hlines (by simp)

/-- No symbol of a list of apps has a range that holds its name alone. -/
theorem dot_of_mem_ofEntries {document : Document} {entries : List ManifestEntry}
    (h : ∀ e ∈ entries, e.Dotted document) {s : Symbol}
    (hs : s ∈ (SymbolTable.ofEntries entries).all) :
    '.' ∉ s.name.toList ∧ '.' ∈ document.content s.range := by
  rw [SymbolTable.all, Symbol.postorderList_eq_flatMap] at hs
  obtain ⟨root, hroot, hs⟩ := List.mem_flatMap.mp hs
  obtain ⟨scope, hscope, hroot⟩ := List.mem_flatten.mp hroot
  obtain ⟨e, he, hentry⟩ := List.mem_filterMap.mp hscope
  obtain ⟨symbol, hsymbol, rfl⟩ := Option.map_eq_some_iff.mp hentry
  rw [List.mem_singleton] at hroot
  subst hroot
  obtain ⟨link, hlink, rfl⟩ := Option.map_eq_some_iff.mp hsymbol
  have hdotted := h e he
  rw [Symbol.postorder, Symbol.postorderList_of_leaves, List.mem_append, List.mem_append] at hs
  · rcases hs with (hs | hs) | hs
    · obtain ⟨app, happ, rfl⟩ := Option.map_eq_some_iff.mp (Option.mem_toList.mp hs)
      exact ⟨show '.' ∉ "uri".toList by decide, hdotted.app app happ⟩
    · obtain ⟨metadata, hmetadata, rfl⟩ := Option.map_eq_some_iff.mp (Option.mem_toList.mp hs)
      exact ⟨show '.' ∉ "metadata".toList by decide, hdotted.metadata metadata hmetadata⟩
    · rw [List.mem_singleton.mp hs]
      refine ⟨hdotted.name, ?_⟩
      rcases Option.or_eq_some_iff.mp hlink with happ | ⟨-, hmetadata⟩
      · exact hdotted.app link happ
      · exact hdotted.metadata link hmetadata
  · intro child hchild
    rcases List.mem_append.mp hchild with hchild | hchild
    · obtain ⟨app, -, rfl⟩ := Option.map_eq_some_iff.mp (Option.mem_toList.mp hchild)
      rfl
    · obtain ⟨metadata, -, rfl⟩ := Option.map_eq_some_iff.mp (Option.mem_toList.mp hchild)
      rfl

/-- **When renaming replaces the name and nothing else.** In a document with definitions: exactly
when all apps of that name stand without label and options, and no option has the name. In a list of
apps: never. -/
theorem renameEdits_renamesOnly_iff (document : Document) (position : Position) (newName : String)
    (target : Symbol) (edits : List TextEdit) :
    (∀ d, (SymbolTable.ofItems (segment .standard d document)).symbolAt position = some target →
      renameEdits (SymbolTable.ofItems (segment .standard d document)) position newName =
        some edits →
      (RenamesOnly document target.name edits ↔
        ∀ i ∈ segment .standard d document, ∀ p ∈ i.parsed, ∀ a ∈ p.definition.apps,
          a.IsBareAs target.name)) ∧
    ((SymbolTable.ofEntries (manifestOf document)).symbolAt position = some target →
      renameEdits (SymbolTable.ofEntries (manifestOf document)) position newName = some edits →
      ¬ RenamesOnly document target.name edits) := by
  refine ⟨fun d => renamesOnly_iff_of_items, ?_⟩
  intro htarget h honly
  obtain ⟨e, he⟩ := List.exists_mem_of_ne_nil _ (renameEdits_eq htarget h).1
  obtain ⟨s, hs, hname, rfl⟩ := (mem_renameEdits htarget h).mp he
  obtain ⟨hnot, hdot⟩ := dot_of_mem_ofEntries dotted_of_mem_manifestOf (List.mem_of_mem_filter hs)
  rw [honly.1 _ he, ← hname] at hdot
  exact hnot hdot

/-- A stream, and another one that takes what its first app sends. -/
def tappedStream : Document where
  uri := "file:///streams.scdfs"
  version := 1
  text := "main = time | log\ntap = :main.time > file --name=time.txt"

/-- The app and the reference to it are replaced, and the value of an option is left as it is. -/
theorem tappedStream_renamesOnly :
    let table := SymbolTable.ofItems (segment .standard .stream tappedStream)
    let edits := [⟨Range.onLine 0 7 11, "ticks"⟩, ⟨Range.onLine 1 12 16, "ticks"⟩]
    ((table.symbolAt ⟨0, 8⟩).map (·.name) = some "time" ∧
      renameEdits table ⟨0, 8⟩ "ticks" = some edits) ∧ RenamesOnly tappedStream "time" edits := by
  intro table edits
  have hedits : renameEdits table ⟨0, 8⟩ "ticks" = some edits := by decide +kernel
  have hname : (table.symbolAt ⟨0, 8⟩).map (·.name) = some "time" := by decide +kernel
  obtain ⟨target, htarget, hsame⟩ := Option.map_eq_some_iff.mp hname
  have honly := ((renameEdits_renamesOnly_iff tappedStream ⟨0, 8⟩ "ticks" target edits).1 .stream
    htarget hedits).mpr (by rw [hsame]; decide +kernel)
  rw [hsame] at honly
  exact ⟨⟨hname, hedits⟩, honly⟩

/-- A stream whose first app has an option. -/
def tickingStream : Document where
  uri := "file:///streams.scdfs"
  version := 1
  text := "time --x=1 | log"

/-- Renaming an app with an option replaces the option too. -/
theorem tickingStream_not_renamesOnly :
    let table := SymbolTable.ofItems (segment .standard .stream tickingStream)
    let edits := [⟨Range.onLine 0 0 10, "ticks"⟩]
    (table.symbolAt ⟨0, 1⟩).map (·.name) = some "time" ∧
      renameEdits table ⟨0, 1⟩ "ticks" = some edits ∧
      tickingStream.content (Range.onLine 0 0 10) = "time --x=1".toList ∧
      ¬ RenamesOnly tickingStream "time" edits := by
  intro table edits
  refine ⟨by decide +kernel, by decide +kernel, by decide +kernel, fun honly => ?_⟩
  exact absurd (honly.1 ⟨Range.onLine 0 0 10, "ticks"⟩ (by simp [edits])) (by decide +kernel)

end Flowline
