import Flowline.Proofs.ScanState

/-!
# Below a definition line

Whatever stands above a definition line, nothing of it is left once that line has been read but the
items it made. So what stands below is read as if it stood alone, and all its line numbers are then
those of lines further down.

* `Item.moveDown`: an item some lines further down;
* `Scan.below`: what has been gathered, with some items and lines above it;
* `Scan.step_below`, `Scan.run_below`, `Scan.finish_below`: what stands above has no part in reading
  on;
* `Scan.step_definition`: a definition line leaves nothing but items;
* `segment_below_definition`: the items of a document, cut below a definition line.
-/

namespace Flowline

/-! ## Further down -/

section MoveDown

variable (k : Nat)

def Position.moveDown (p : Position) : Position :=
  ⟨p.line + k, p.character⟩

def Range.moveDown (r : Range) : Range :=
  ⟨r.start.moveDown k, r.stop.moveDown k⟩

def Metadata.moveDown (m : Metadata) : Metadata :=
  { m with line := m.line + k }

def Deployment.moveDown (b : Deployment) : Deployment where
  env := b.env.map (Metadata.moveDown k)
  properties := b.properties.map (Metadata.moveDown k)
  arguments := b.arguments.map (Metadata.moveDown k)
  range := b.range.moveDown k
  startLineRange := b.startLineRange.moveDown k

/-- The definition itself knows columns only. -/
def Parsed.moveDown (p : Parsed) : Parsed :=
  { p with nameRange := p.nameRange.map (Range.moveDown k), range := p.range.moveDown k }

def Problem.moveDown (p : Problem) : Problem :=
  { p with range := p.range.moveDown k }

def Body.moveDown : Body → Body
  | .parsed p => .parsed (p.moveDown k)
  | .invalid p => .invalid (p.moveDown k)
  | .dangling => .dangling

/-- An item that stands `k` lines further down. -/
def Item.moveDown (i : Item) : Item where
  range := i.range.moveDown k
  definitionRange := i.definitionRange.map (Range.moveDown k)
  env := i.env.map (Metadata.moveDown k)
  name := i.name.map (Metadata.moveDown k)
  desc := i.desc.map (Metadata.moveDown k)
  deployments := i.deployments.map (Deployment.moveDown k)
  comments := i.comments.map (Range.moveDown k)
  body := i.body.moveDown k

@[simp] theorem Range.start_moveDown (r : Range) : (r.moveDown k).start = r.start.moveDown k := rfl

@[simp] theorem Range.stop_moveDown (r : Range) : (r.moveDown k).stop = r.stop.moveDown k := rfl

@[simp] theorem Range.moveDown_onLine (n first last : Nat) :
    (Range.onLine n first last).moveDown k = Range.onLine (n + k) first last := rfl

@[simp] theorem Span.moveDown_onLine (s : Span) (n : Nat) :
    (s.onLine n).moveDown k = s.onLine (n + k) := rfl

/-- The ranges of metadata that stands further down. -/
theorem Metadata.ranges_moveDown (m : Metadata) :
    (m.moveDown k).range = m.range.moveDown k ∧
      (m.moveDown k).contentRange = m.contentRange.moveDown k ∧
      (m.moveDown k).valueRange = m.valueRange.map (Range.moveDown k) := by
  refine ⟨rfl, rfl, ?_⟩
  have htoken : (m.moveDown k).afterToken = m.afterToken := rfl
  simp only [Metadata.valueRange, htoken]
  split <;> rfl

theorem bind_value_moveDown (name : Option Metadata) :
    (name.map (Metadata.moveDown k)).bind Metadata.value = name.bind Metadata.value := by
  cases name <;> rfl

/-- What becomes of a definition line does not depend on where it stands. -/
theorem Body.ofLine_moveDown (reader : DefinitionReader) (d : Dialect) (n : Nat) (text : List Char)
    (name : Option Metadata) :
    Body.ofLine reader d (n + k) text (name.map (Metadata.moveDown k)) =
      (Body.ofLine reader d n text name).moveDown k := by
  have hnamed : ∀ (taskName : String) (nameRange : Option Range) (start : Nat),
      Body.ofNamedTask reader (n + k) text taskName (nameRange.map (Range.moveDown k)) start =
        (Body.ofNamedTask reader n text taskName nameRange start).moveDown k := by
    intro taskName nameRange start
    simp only [Body.ofNamedTask]
    cases reader.task taskName text start <;> rfl
  cases d with
  | stream =>
    simp only [Body.ofLine, Body.ofStreamLine, bind_value_moveDown]
    cases reader.stream text with
    | error e => rfl
    | ok s => cases hname : s.name <;> simp [Body.moveDown, Parsed.moveDown, hname]
  | task =>
    simp only [Body.ofLine, Body.ofTaskLine, bind_value_moveDown]
    cases Dialect.task.inlineName text with
    | some inline =>
      exact hnamed inline.name (some (Range.onLine n inline.start inline.stop)) inline.bodyStart
    | none =>
      cases name.bind Metadata.value with
      | some taskName => exact hnamed taskName none 0
      | none => rfl

end MoveDown

/-! ## With items above -/

namespace Scan

/-- What has been gathered, when `k` lines with the items `above` stand before all of it. -/
def below (above : List Item) (k : Nat) (s : Scan) : Scan where
  itemStart := s.itemStart + k
  env := s.env.map (Metadata.moveDown k)
  name := s.name.map (Metadata.moveDown k)
  desc := s.desc.map (Metadata.moveDown k)
  metadataStart := s.metadataStart.map (Position.moveDown k)
  properties := s.properties.map (Metadata.moveDown k)
  arguments := s.arguments.map (Metadata.moveDown k)
  blockStart := s.blockStart.map (Range.moveDown k)
  blockStop := s.blockStop.map (Position.moveDown k)
  deployments := s.deployments.map (Deployment.moveDown k)
  openComment := s.openComment.map (Range.moveDown k)
  comments := s.comments.map (Range.moveDown k)
  items := above ++ s.items.map (Item.moveDown k)

section Below

variable (above : List Item) (k : Nat) (s : Scan)

theorem closeComment_below :
    (s.below above k).closeComment = s.closeComment.below above k := by
  simp only [closeComment]
  cases h : s.openComment <;> simp [below, h]

theorem trackComment_below (line : Range) (isComment : Bool) :
    (s.below above k).trackComment (line.moveDown k) isComment =
      (s.trackComment line isComment).below above k := by
  cases isComment with
  | false => exact closeComment_below above k s
  | true =>
    cases h : s.openComment <;> simp [trackComment, below, h, Range.withStop, Range.moveDown]

theorem recordMetadata_below (m : Metadata) (line : Range) :
    (s.below above k).recordMetadata (m.moveDown k) (line.moveDown k) =
      (s.recordMetadata m line).below above k := by
  have hextend : (s.below above k).extendRun (line.moveDown k) =
      (s.extendRun line).below above k := by
    cases hb : s.blockStart <;> cases hm : s.metadataStart <;> simp [extendRun, below, hb, hm]
  simp only [recordMetadata, hextend]
  have htag : (m.moveDown k).tag = m.tag := rfl
  rw [htag]
  cases m.tag <;> simp [below]

theorem closeRun_below (runEnd : RunEnd) :
    (s.below above k).closeRun runEnd = (s.closeRun runEnd).below above k := by
  have hdrop : (s.below above k).dropRun = s.dropRun.below above k := rfl
  have hprop : (s.below above k).properties.isEmpty = s.properties.isEmpty := List.isEmpty_map
  have harg : (s.below above k).arguments.isEmpty = s.arguments.isEmpty := List.isEmpty_map
  simp only [closeRun, hprop, harg, hdrop]
  cases hstart : s.blockStart with
  | none => simp [below, hstart]
  | some first =>
    cases hstop : s.blockStop with
    | none => simp [below, hstart, hstop]
    | some stop =>
      cases hempty : s.properties.isEmpty && s.arguments.isEmpty with
      | true => simp [below, hstart, hstop]
      | false =>
        cases runEnd <;> simp [below, dropRun, hstart, hstop, Deployment.moveDown, Range.moveDown]

theorem pushDefinition_below (line : Range) (body : Body) :
    (s.below above k).pushDefinition (line.moveDown k) (body.moveDown k) =
      (s.pushDefinition line body).below above k := by
  simp [pushDefinition, below, Item.moveDown, Range.moveDown, Position.moveDown, Nat.add_right_comm]

variable (reader : DefinitionReader) (d : Dialect)

/-- What stands above has no part in reading a line. -/
theorem step_below (text : List Char) (line : Range) :
    (s.below above k).step reader d text (line.moveDown k) =
      (s.step reader d text line).below above k := by
  simp only [step, trackComment_below]
  cases LineKind.classify d text with
  | definition =>
    simp only [closeRun_below]
    rw [← pushDefinition_below, ← Body.ofLine_moveDown]
    rfl
  | metadata tag =>
    cases contentStart text with
    | none => rfl
    | some start =>
      simp only [← recordMetadata_below]
      rfl
  | comment => rfl
  | blank => exact closeRun_below above k _ .separator

/-- What stands above has no part in reading any number of lines. -/
theorem run_below (first : Nat) (lines : List (List Char)) :
    (s.below above k).run reader d (first + k) lines =
      (s.run reader d first lines).below above k := by
  induction lines generalizing s first with
  | nil => rfl
  | cons text rest ih =>
    have hstep := step_below above k s reader d text (Range.onLine first 0 text.length)
    simp only [run, List.zipIdx_cons, List.foldl_cons] at ih ⊢
    rw [show Range.onLine (first + k) 0 text.length =
      (Range.onLine first 0 text.length).moveDown k from rfl, hstep, Nat.add_right_comm]
    exact ih _ _

/-- What stands above is left as it is at the end of the document. -/
theorem finish_below (stop : Position) :
    (s.below above k).finish (stop.moveDown k) =
      above ++ (s.finish stop).map (Item.moveDown k) := by
  simp only [finish, closeComment_below, closeRun_below]
  generalize s.closeComment.closeRun .definition = t
  have hholders : ((t.below above k).env.isSome || (t.below above k).name.isSome ||
      (t.below above k).desc.isSome) = (t.env.isSome || t.name.isSome || t.desc.isSome) := by
    simp [below]
  rw [hholders]
  split
  · cases hstart : t.metadataStart <;>
      simp [below, danglingItem, Item.moveDown, Range.moveDown, Position.moveDown, Body.moveDown,
        hstart]
  · rfl

end Below

/-! ## A definition line -/

section Definition

variable {s : Scan}

/-- Nothing of a run is left once it has been ended. -/
theorem dropRun_closeRun (runEnd : RunEnd) : (s.closeRun runEnd).dropRun = s.closeRun runEnd := by
  simp only [closeRun]
  split
  · split
    · rfl
    · cases runEnd <;> rfl
  · rfl

theorem openComment_closeRun (runEnd : RunEnd) :
    (s.closeRun runEnd).openComment = s.openComment := by
  simp only [closeRun]
  split
  · split
    · rfl
    · cases runEnd <;> rfl
  · rfl

theorem openComment_closeComment : s.closeComment.openComment = none := by
  rw [closeComment]
  split
  · assumption
  · rfl

/-- With no run and no comment open, a definition takes all that has been gathered into its item. -/
theorem pushDefinition_of_closed (hrun : s.dropRun = s) (hcomment : s.openComment = none)
    (line : Range) (body : Body) :
    s.pushDefinition line body =
      empty.below (s.pushDefinition line body).items (line.start.line + 1) := by
  rw [← hrun]
  simp [pushDefinition, dropRun, below, empty, hcomment]

/-- A definition line leaves nothing but items, whatever has been gathered before it. -/
theorem step_definition (reader : DefinitionReader) {d : Dialect} {text : List Char} (line : Range)
    (h : LineKind.classify d text = .definition) :
    s.step reader d text line =
      empty.below (s.step reader d text line).items (line.start.line + 1) := by
  have hcomment : isCommentLine .definition text = false := by
    have hline :=
      Line.isComment_of_isDefinition (d := d) (l := ⟨0, text⟩) (Line.isDefinition_iff.mpr h)
    rwa [Line.isComment, Line.kind, h] at hline
  simp only [step, h, hcomment, trackComment, Bool.false_eq_true, if_false]
  refine pushDefinition_of_closed (dropRun_closeRun _) ?_ line _
  rw [openComment_closeRun, openComment_closeComment]

end Definition

theorem run_append (reader : DefinitionReader) (d : Dialect) (s : Scan) (first : Nat)
    (upper lower : List (List Char)) :
    s.run reader d first (upper ++ lower) =
      (s.run reader d first upper).run reader d (first + upper.length) lower := by
  simp only [run, List.zipIdx_append, List.foldl_append]

end Scan

/-! ## Documents cut below a definition line -/

theorem stopOf_append (upper : List (List Char)) {lower : List (List Char)} (h : lower ≠ []) :
    stopOf (upper ++ lower) = (stopOf lower).moveDown upper.length := by
  obtain ⟨init, last, rfl⟩ := (List.eq_nil_or_concat lower).resolve_left h
  have hlast : (upper ++ (init ++ [last])).getLast? = some last := by
    rw [← List.append_assoc, List.getLast?_concat]
  simp only [List.concat_eq_append, stopOf, hlast, List.getLast?_concat, Position.moveDown,
    List.length_append, List.length_singleton]
  congr 1
  omega

/-- After a definition line at the end of some lines, their items are all that has been gathered. -/
theorem run_of_getLast? (reader : DefinitionReader) {d : Dialect} {upper : List (List Char)}
    {last : List Char} (hlast : upper.getLast? = some last)
    (hkind : LineKind.classify d last = .definition) :
    Scan.empty.run reader d 0 upper =
      Scan.empty.below (segmentLines reader d upper) upper.length := by
  obtain ⟨init, rfl⟩ : ∃ init, upper = init ++ [last] := List.getLast?_eq_some_iff.mp hlast
  have hrun : ∃ above, Scan.empty.run reader d 0 (init ++ [last]) =
      Scan.empty.below above (init ++ [last]).length := by
    rw [Scan.run_append, Nat.zero_add, List.length_append, List.length_singleton]
    exact ⟨_, Scan.step_definition reader (Range.onLine init.length 0 last.length) hkind⟩
  obtain ⟨above, habove⟩ := hrun
  have hitems : segmentLines reader d (init ++ [last]) = above := by
    rw [segmentLines, habove]
    exact List.append_nil above
  rw [habove, hitems]

theorem segmentLines_append (reader : DefinitionReader) {d : Dialect} {upper : List (List Char)}
    {last : List Char} (hlast : upper.getLast? = some last)
    (hkind : LineKind.classify d last = .definition) (lower : List (List Char)) :
    segmentLines reader d (upper ++ lower) =
      segmentLines reader d upper ++
        (segmentLines reader d lower).map (Item.moveDown upper.length) := by
  have hrun : Scan.empty.run reader d 0 (upper ++ lower) =
      (Scan.empty.run reader d 0 lower).below (segmentLines reader d upper) upper.length := by
    rw [Scan.run_append, run_of_getLast? reader hlast hkind, Scan.run_below]
  rw [segmentLines, hrun]
  cases lower with
  | nil => rfl
  | cons text rest =>
    rw [stopOf_append upper (List.cons_ne_nil _ _), Scan.finish_below]
    rfl

/-- **A definition line resets the scan.** If the upper lines of a document end with a definition
line, the items of the document are those of the upper lines followed by those that the lower lines
have when they are read alone, with every line number increased by the number of the upper lines.
For metadata that means that all its ranges move. -/
theorem segment_below_definition (reader : DefinitionReader) (d : Dialect)
    (upper lower : List (List Char)) (last : List Char) (hlast : upper.getLast? = some last)
    (hkind : LineKind.classify d last = .definition) :
    let items := segmentLines reader d upper ++
      (segmentLines reader d lower).map (Item.moveDown upper.length)
    segmentLines reader d (upper ++ lower) = items ∧
      (∀ document : Document, document.lines = upper ++ lower → segment reader d document = items) ∧
      ∀ m : Metadata, (m.moveDown upper.length).range = m.range.moveDown upper.length ∧
        (m.moveDown upper.length).contentRange = m.contentRange.moveDown upper.length ∧
        (m.moveDown upper.length).valueRange = m.valueRange.map (Range.moveDown upper.length) := by
  intro items
  have hlines := segmentLines_append reader hlast hkind lower
  refine ⟨hlines, ?_, Metadata.ranges_moveDown upper.length⟩
  intro document hdocument
  rw [segment, hdocument, hlines]

/-- A definition with an error, below an open comment and a run of metadata. -/
def brokenTask : List (List Char) :=
  ["# nightly".toList, "-- @env prod".toList, "-- @arg --x=1".toList, "load = a &&".toList]

/-- A named task and metadata that no definition follows. -/
def namedTask : List (List Char) :=
  ["-- @name import".toList, "<a || b>".toList, "c && d".toList, "-- @env test".toList]

/-- Neither the error above nor what was gathered there shows below. -/
theorem segment_below_brokenTask :
    (brokenTask.getLast? = some "load = a &&".toList ∧
      LineKind.classify .task "load = a &&".toList = .definition) ∧
    segmentLines .standard .task (brokenTask ++ namedTask) =
      segmentLines .standard .task brokenTask ++
        (segmentLines .standard .task namedTask).map (Item.moveDown 4) ∧
    ((segmentLines .standard .task namedTask).map (Item.moveDown 4)).map (·.range) =
      [⟨⟨4, 0⟩, ⟨6, 6⟩⟩, ⟨⟨7, 0⟩, ⟨7, 12⟩⟩] := by
  have hlast : brokenTask.getLast? = some "load = a &&".toList := by decide
  have hkind : LineKind.classify .task "load = a &&".toList = .definition := by decide +kernel
  exact ⟨⟨hlast, hkind⟩,
    (segment_below_definition .standard .task brokenTask namedTask _ hlast hkind).1,
    by decide +kernel⟩

end Flowline
