import Flowline.Proofs.Ownership
import Flowline.Proofs.Tokens

/-!
# Metadata and its columns

A metadata line is told by its text without the blanks around it, its tag is looked for in the whole
line, and its value and the columns of the value are cut out of what follows the tag, each on its
own. All of them see the same parts of the line: blanks and markers, the tag, blanks, the value, and
blanks again.

* `Metadata.HasParts`: the parts of a metadata line;
* `exists_hasParts`: a line that is taken for metadata has such parts;
* `Metadata.Spelled`: what stands in the ranges of metadata;
* `metadata_spelled`: the ranges of all metadata of a document, and no metadata line is lost.
-/

namespace Flowline

open Character

/-! ## The parts of a metadata line -/

/-- Blanks and markers; of those that are not blank, the first is a marker. -/
structure IsMarking (lead : List Char) : Prop where
  marks : ∀ c ∈ lead, isBlank c = true ∨ isMarker c = true
  first : ∃ c, (trimStart lead).head? = some c ∧ isMarker c = true

/-- The line of some metadata is made of markers, the tag as a whole word, blanks, the value and
blanks, and the value has no blanks at its ends. -/
structure Metadata.HasParts (m : Metadata) (lead gap value trail : List Char) : Prop where
  text : m.text = lead ++ (m.tag.token.toList ++ (gap ++ (value ++ trail)))
  contentStart : m.contentStart = lead.length
  lead : IsMarking lead
  boundary : Stops isAlphanumeric (gap ++ (value ++ trail))
  gap : IsBlanks gap
  first : Stops isBlank value
  last : Stops isBlank value.reverse
  trail : IsBlanks trail

section Parts

variable {d : Dialect} {text lead rest : List Char} {tag : Tag} {start : Nat} {c : Char}

/-- Before its content a text has blanks and markers only. -/
theorem exists_of_contentStart (h : contentStart text = some start) :
    ∃ lead, text = lead ++ text.drop start ∧ start = lead.length ∧
      ∀ c ∈ lead, isBlank c = true ∨ isMarker c = true := by
  induction text generalizing start with
  | nil => cases h
  | cons c rest ih =>
    rw [contentStart] at h
    split at h
    · cases h
      exact ⟨[], rfl, rfl, by simp⟩
    · split at h
      · next hc =>
        obtain ⟨k, hk, rfl⟩ := Option.map_eq_some_iff.mp h
        obtain ⟨lead, hcut, hlen, hmarks⟩ := ih hk
        refine ⟨c :: lead, ?_, by rw [hlen, List.length_cons], ?_⟩
        · rw [List.drop_succ_cons, List.cons_append, ← hcut]
        · intro x hx
          rcases List.mem_cons.mp hx with rfl | hx
          · exact Bool.or_eq_true_iff.mp hc
          · exact hmarks x hx
      · cases h

theorem eq_append_of_after? (h : after? lead text = some rest) : text = lead ++ rest := by
  rw [after?] at h
  split at h
  · next hprefix =>
    obtain ⟨more, rfl⟩ := List.isPrefixOf_iff_prefix.mp hprefix
    rw [List.drop_left] at h
    cases h
    rfl
  · cases h

/-- A text with a tag begins with the tag, as a whole word. -/
theorem exists_of_tagOf (h : tagOf text = some tag) :
    ∃ after, text = tag.token.toList ++ after ∧ Stops isAlphanumeric after := by
  have hbegins := List.find?_some (p := fun a => beginsWith a text) h
  rw [beginsWith] at hbegins
  cases hafter : after? tag.token.toList text with
  | none =>
    rw [hafter] at hbegins
    cases hbegins
  | some after =>
    refine ⟨after, eq_append_of_after? hafter, ?_⟩
    rw [hafter] at hbegins
    cases after with
    | nil => exact stops_nil
    | cons c more => exact stops_cons.mpr (by simpa using hbegins)

/-- Markers before something that is neither blank nor a marker are found without it. -/
theorem head?_trimStart_append (hblank : Stops isBlank rest) (hmarker : Stops isMarker rest)
    (hhead : (trimStart (lead ++ rest)).head? = some c) (hc : isMarker c = true) :
    (trimStart lead).head? = some c := by
  rw [trimStart, List.dropWhile_append] at hhead
  split at hhead
  · rw [dropWhile_of_stops hblank] at hhead
    rw [hmarker c hhead] at hc
    cases hc
  · next hne =>
    rw [trimStart]
    cases hrest : lead.dropWhile isBlank with
    | nil => exact absurd (by rw [hrest]; rfl) hne
    | cons b more =>
      rw [hrest] at hhead
      exact hhead

theorem Tag.token_eq (tag : Tag) : ∃ word, tag.token.toList = '@' :: word := by
  cases tag <;> exact ⟨_, rfl⟩

/-- A line that is taken for metadata has the parts of metadata. -/
theorem exists_hasParts {l : Line} (h : l.kind d = .metadata tag) :
    ∃ lead gap value trail, (l.metadata tag).HasParts lead gap value trail := by
  obtain ⟨start, hstart, htag, c, hhead, hc⟩ := exists_of_classify_metadata h
  obtain ⟨lead, hcut, rfl, hmarks⟩ := exists_of_contentStart hstart
  obtain ⟨after, hafter, hboundary⟩ := exists_of_tagOf htag
  obtain ⟨word, hword⟩ := tag.token_eq
  have htext : l.text = lead ++ (tag.token.toList ++ after) := by rw [← hafter, ← hcut]
  obtain ⟨hgap, hfirst, hlast, trail, htrail, hvalue⟩ := surrounds_trim after
  have hmarking : IsMarking lead := by
    refine ⟨hmarks, c, ?_, hc⟩
    rw [htext, hword] at hhead
    exact head?_trimStart_append (stops_cons.mpr (by decide)) (stops_cons.mpr (by decide)) hhead hc
  refine ⟨lead, after.takeWhile isBlank, trim after, trail, ?_⟩
  rw [hvalue] at htext hboundary
  exact ⟨htext, by rw [Line.metadata, hstart]; rfl, hmarking, hboundary, hgap, hfirst,
    hlast, htrail⟩

end Parts

/-! ## The value and its columns -/

namespace Metadata.HasParts

variable {m : Metadata} {lead gap value trail : List Char}

theorem tokenStop_eq (h : m.HasParts lead gap value trail) :
    m.tokenStop = (lead ++ m.tag.token.toList).length := by
  rw [Metadata.tokenStop, h.contentStart, List.length_append, String.length_toList]

theorem afterToken_eq (h : m.HasParts lead gap value trail) :
    m.afterToken = gap ++ (value ++ trail) := by
  rw [Metadata.afterToken, h.tokenStop_eq, h.text, ← List.append_assoc, List.drop_left]

theorem surrounds (h : m.HasParts lead gap value trail) : Surrounds gap value m.afterToken :=
  ⟨h.gap, h.first, h.last, trail, h.trail, h.afterToken_eq⟩

theorem value_eq (h : m.HasParts lead gap value trail) :
    m.value = if value.isEmpty then none else some (String.ofList value) := by
  rw [Metadata.value, h.surrounds.trim_eq]

theorem valueRange_eq (h : m.HasParts lead gap value trail) :
    m.valueRange =
      if value.isEmpty then none
      else some (Range.onLine m.line (m.tokenStop + gap.length)
        (m.tokenStop + gap.length + value.length)) := by
  rw [Metadata.valueRange, h.surrounds.trim_eq]
  by_cases hne : value = []
  · simp [hne]
  · rw [h.surrounds.leadingBlanks_eq hne]

/-- A value is missing just if there is nothing but blanks after the tag. -/
theorem isBlanks_iff (h : m.HasParts lead gap value trail) :
    IsBlanks (gap ++ (value ++ trail)) ↔ value = [] := by
  constructor
  · intro hblanks
    cases value with
    | nil => rfl
    | cons c word =>
      have hc := stops_cons.mp h.first
      rw [hblanks c (by simp)] at hc
      cases hc
  · rintro rfl c hc
    rcases List.mem_append.mp hc with hc | hc
    · exact h.gap c hc
    · exact h.trail c hc

theorem length_eq (h : m.HasParts lead gap value trail) :
    m.text.length = m.tokenStop + gap.length + value.length + trail.length := by
  rw [h.text, h.tokenStop_eq]
  simp only [List.length_append]
  omega

end Metadata.HasParts

/-! ## What stands in the ranges -/

/-- The ranges of metadata hold what the metadata says: its line, the tag with all that follows it
and nothing but markers before it, and the value, if there is more than blanks after the tag. -/
structure Metadata.Spelled (document : Document) (m : Metadata) : Prop where
  line : document.lineRange m.line = some m.range
  text : document.content m.range = m.text
  lead : IsMarking (document.content (Range.onLine m.line 0 m.contentStart))
  token : ∃ after, document.content m.contentRange = m.tag.token.toList ++ after ∧
    Stops isAlphanumeric after
  unvalued : m.value = none ↔
    IsBlanks (document.content (Range.onLine m.line m.tokenStop m.text.length))
  unvaluedRange : m.valueRange = none ↔ m.value = none
  value : ∀ value r, m.value = some value → m.valueRange = some r →
    r.Inside m.contentRange ∧ document.content r = value.toList ∧
    value ≠ "" ∧ Stops isBlank value.toList ∧ Stops isBlank value.toList.reverse ∧
    (⟨m.line, m.tokenStop⟩ ≤ r.start ∧
      IsBlanks (document.content ⟨⟨m.line, m.tokenStop⟩, r.start⟩)) ∧
    (r.stop ≤ m.range.stop ∧ IsBlanks (document.content ⟨r.stop, m.range.stop⟩))

theorem Position.le_of_column {n first last : Nat} (h : first ≤ last) :
    (⟨n, first⟩ : Position) ≤ ⟨n, last⟩ :=
  .inr ⟨rfl, h⟩

theorem Range.inside_onLine {n first last start stop : Nat} (hstart : start ≤ first)
    (hle : first ≤ last) (hstop : last ≤ stop) :
    (Range.onLine n first last).Inside (Range.onLine n start stop) := by
  rw [Range.Inside, Range.contains_iff, Range.contains_iff]
  exact ⟨⟨Position.le_of_column hstart, Position.le_of_column (hle.trans hstop)⟩,
    Position.le_of_column (hstart.trans hle), Position.le_of_column hstop⟩

/-- A part of a line is the content of its columns. -/
theorem Document.content_of_append {document : Document} {n first last : Nat}
    {text word : List Char} (hline : document.lineText n = some text) (before after : List Char)
    (htext : text = before ++ word ++ after) (hfirst : first = before.length)
    (hlast : last = first + word.length) : document.content (Range.onLine n first last) = word := by
  have hspells : Span.Spells text ⟨first, last⟩ word :=
    ⟨before, after, htext, hfirst, by rw [hlast, hfirst]⟩
  exact Document.content_of_spells hline hspells

namespace Metadata.HasParts

variable {document : Document} {m : Metadata} {lead gap value trail : List Char}

/-- The tag stands behind markers and goes on to the end of the line. -/
theorem content_tag (h : m.HasParts lead gap value trail)
    (hline : document.lineText m.line = some m.text) :
    document.content (Range.onLine m.line 0 m.contentStart) = lead ∧
    document.content m.contentRange = m.tag.token.toList ++ (gap ++ (value ++ trail)) := by
  have htext := h.text
  constructor
  · refine Document.content_of_append hline [] _ htext rfl ?_
    rw [h.contentStart, Nat.zero_add]
  · refine Document.content_of_append hline lead [] ?_ h.contentStart ?_
    · rw [List.append_nil, htext]
    · rw [h.contentStart, htext, List.length_append]

/-- After the tag come blanks, the value and blanks. -/
theorem content_after (h : m.HasParts lead gap value trail)
    (hline : document.lineText m.line = some m.text) :
    document.content (Range.onLine m.line m.tokenStop m.text.length) = gap ++ (value ++ trail) ∧
    document.content (Range.onLine m.line m.tokenStop (m.tokenStop + gap.length)) = gap ∧
    document.content (Range.onLine m.line (m.tokenStop + gap.length)
      (m.tokenStop + gap.length + value.length)) = value ∧
    document.content (Range.onLine m.line (m.tokenStop + gap.length + value.length) m.text.length) =
      trail := by
  have hlength := h.length_eq
  have hstop := h.tokenStop_eq
  have htext : m.text = lead ++ m.tag.token.toList ++ gap ++ value ++ trail := by
    simp only [h.text, List.append_assoc]
  have hgap : m.tokenStop + gap.length = (lead ++ m.tag.token.toList ++ gap).length := by
    rw [hstop, ← List.length_append]
  have hvalue : m.tokenStop + gap.length + value.length =
      (lead ++ m.tag.token.toList ++ gap ++ value).length := by
    rw [hgap, ← List.length_append]
  refine ⟨?_, ?_, ?_, ?_⟩
  · refine Document.content_of_append hline _ [] ?_ hstop ?_
    · simp only [htext, List.append_assoc, List.append_nil]
    · simp only [hlength, List.length_append, Nat.add_assoc]
  · refine Document.content_of_append hline _ (value ++ trail) ?_ hstop rfl
    simp only [htext, List.append_assoc]
  · exact Document.content_of_append hline _ trail htext hgap rfl
  · refine Document.content_of_append hline _ [] ?_ hvalue hlength
    rw [List.append_nil, htext]

/-- Metadata that has its parts on its line has them in its ranges. -/
theorem spelled (h : m.HasParts lead gap value trail)
    (hline : document.lineText m.line = some m.text) :
    m.Spelled document := by
  obtain ⟨hlead, hcontent⟩ := h.content_tag hline
  obtain ⟨hafter, hgap, hvalue, htrail⟩ := h.content_after hline
  have hlength := h.length_eq
  constructor
  case line =>
    rw [Document.lineRange, hline]
    rfl
  case text =>
    refine Document.content_of_append hline [] [] ?_ rfl (Nat.zero_add _).symm
    rw [List.nil_append, List.append_nil]
  case lead =>
    rw [hlead]
    exact h.lead
  case token => exact ⟨_, hcontent, h.boundary⟩
  case unvalued =>
    rw [hafter, h.isBlanks_iff, h.value_eq]
    simp
  case unvaluedRange =>
    rw [h.value_eq, h.valueRange_eq]
    simp
  case value =>
    intro word r hword hr
    rw [h.value_eq] at hword
    rw [h.valueRange_eq] at hr
    split at hword
    · cases hword
    · next hne =>
      rw [if_neg hne] at hr
      cases hword
      cases hr
      rw [String.toList_ofList]
      have hstart : m.contentStart ≤ m.tokenStop := Nat.le_add_right _ _
      have hfilled : String.ofList value ≠ "" := by
        intro hempty
        rw [String.ofList_eq_empty_iff] at hempty
        exact hne (List.isEmpty_iff.mpr hempty)
      have hbefore := h.gap
      have hbehind := h.trail
      rw [← hgap] at hbefore
      rw [← htrail] at hbehind
      exact ⟨Range.inside_onLine (by omega) (by omega) (by omega), hvalue, hfilled, h.first, h.last,
        ⟨Position.le_of_column (by omega), hbefore⟩, Position.le_of_column (by omega), hbehind⟩

end Metadata.HasParts

/-! ## The metadata of a document -/

/-- The metadata of a deployment. -/
def Deployment.metadata (b : Deployment) : List Metadata :=
  b.env.toList ++ b.properties ++ b.arguments

/-- All metadata of an item. -/
def Item.metadata (i : Item) : List Metadata :=
  i.holders ++ i.deployments.flatMap Deployment.metadata

section Items

variable {d : Dialect} {document : Document} {i : Item} {m : Metadata} {n : Nat} {lines : List Line}

/-- The metadata of a deployment stands on metadata lines. -/
theorem exists_line_of_mem_deployment {b : Deployment} {runs : List (List Line)}
    (hruns : ∀ run ∈ runs, ∀ l ∈ run, l ∈ lines) (hb : b ∈ deploymentsOf d lines runs)
    (hm : m ∈ b.metadata) : ∃ l ∈ lines, ∃ tag, l.hasTag d tag = true ∧ m = l.metadata tag := by
  obtain ⟨run, hrun, hb⟩ := List.mem_filterMap.mp hb
  obtain ⟨-, hof, henv⟩ := isOf_of_deploymentOf hb
  simp only [Deployment.metadata, List.mem_append, Option.mem_toList, henv, hof.properties,
    hof.arguments] at hm
  rcases hm with (hm | hm) | hm
  · obtain ⟨l, hl, htag, hm⟩ := mem_of_lastTagged hm
    exact ⟨l, mem_of_mem_sinceReset hl, _, htag, hm⟩
  · obtain ⟨l, hl, htag, hm⟩ := mem_tagged.mp hm
    exact ⟨l, hruns run hrun l hl, _, htag, hm⟩
  · obtain ⟨l, hl, htag, hm⟩ := mem_tagged.mp hm
    exact ⟨l, hruns run hrun l hl, _, htag, hm⟩

/-- The metadata of an item stands on metadata lines. -/
theorem Item.GatheredAt.exists_line (h : i.GatheredAt d lines n) (hm : m ∈ i.metadata) :
    ∃ l ∈ lines, ∃ tag, l.hasTag d tag = true ∧ m = l.metadata tag := by
  rcases List.mem_append.mp hm with hm | hm
  · obtain ⟨l, hl, tag, htag, hm⟩ := h.exists_of_mem_holders hm
    exact ⟨l, mem_of_mem_sinceReset hl, tag, htag, hm⟩
  · obtain ⟨b, hb, hm⟩ := List.mem_flatMap.mp hm
    by_cases hbody : i.body = .dangling
    · rw [(h.dangling hbody).2.1] at hb
      cases hb
    · rw [(h.defined hbody).2.2] at hb
      refine exists_line_of_mem_deployment ?_ hb hm
      intro run hrun l hl
      exact mem_of_mem_sinceDefinition ((sublist_of_mem_splitOnP hrun).subset hl)

theorem spelled_of_mem_metadata {reader : DefinitionReader} (hi : i ∈ segment reader d document)
    (hm : m ∈ i.metadata) : m.Spelled document := by
  obtain ⟨n, h⟩ := exists_gatheredAt hi
  obtain ⟨l, hl, tag, htag, rfl⟩ := h.exists_line hm
  obtain ⟨lead, gap, value, trail, hparts⟩ := exists_hasParts (Line.hasTag_iff.mp htag)
  exact hparts.spelled (Document.lineText_of_mem hl)

end Items

/-- A metadata line is always recorded: its tag was found at its content. -/
theorem step_of_metadata {d : Dialect} {text : List Char} {tag : Tag}
    (h : LineKind.classify d text = .metadata tag) (reader : DefinitionReader) (s : Scan)
    (line : Range) :
    ∃ start, contentStart text = some start ∧
      s.step reader d text line =
        (s.trackComment line false).recordMetadata ⟨tag, line.start.line, text, start⟩ line := by
  obtain ⟨start, hstart, -⟩ := exists_of_classify_metadata h
  refine ⟨start, hstart, ?_⟩
  simp only [Scan.step, Scan.isCommentLine, h, hstart]

/-- **Metadata and its columns.** For all metadata of a document, be it held by an item or by a
deployment, the ranges of the line, of its content and of its value hold just what the metadata
says, with nothing but markers before the tag and blanks around the value; and there is a value just
if more than blanks follows the tag. Every line that is taken for metadata is recorded, whatever has
been gathered before. -/
theorem metadata_spelled (reader : DefinitionReader) (d : Dialect) (document : Document) :
    (∀ i ∈ segment reader d document, ∀ m ∈ i.metadata, m.Spelled document) ∧
    ∀ (s : Scan) (text : List Char) (line : Range) (tag : Tag),
      LineKind.classify d text = .metadata tag →
      ∃ start, contentStart text = some start ∧
        s.step reader d text line =
          (s.trackComment line false).recordMetadata ⟨tag, line.start.line, text, start⟩ line :=
  ⟨fun _ hi _ hm => spelled_of_mem_metadata hi hm,
    fun s _ line _ h => step_of_metadata h reader s line⟩

/-- Metadata of a task, with several markers before the tag, wide blanks, and a value that has an at
sign and ends with a marker. -/
def markedTask : Document where
  uri := "file:///tasks.scdft"
  version := 1
  text := "\t-# @env\u00a0 a @b -\u3000\n--@prop x = y\n- # @desc \n-- @arg\u2003--z\nload"

/-- The description has no value, and all the others stand in their columns. -/
theorem markedTask_spelled :
    let i := (segment .standard .task markedTask).headD default
    i.metadata.map (·.value) =
        [some "a @b -", none, some "a @b -", some "x = y", some "--z"] ∧
      (∀ m ∈ i.metadata, m.Spelled markedTask) ∧
      LineKind.classify .task "- # @desc ".toList = .metadata .desc ∧
      ∃ start, contentStart "- # @desc ".toList = some start := by
  have hi :
      (segment .standard .task markedTask).headD default ∈ segment .standard .task markedTask := by
    decide +kernel
  have hkind : LineKind.classify .task "- # @desc ".toList = .metadata .desc := by decide
  obtain ⟨hspelled, hstep⟩ := metadata_spelled .standard .task markedTask
  obtain ⟨start, hstart, -⟩ := hstep .empty _ (Range.onLine 2 0 10) _ hkind
  exact ⟨by decide +kernel, hspelled _ hi, hkind, start, hstart⟩

end Flowline
