import Flowline.Proofs.ScanState

/-!
# Consistency of a scan

A scan takes any line with any range: it asks neither whether the numbers of the lines go up nor
whether a range fits its text. What it has gathered fits together all the same. The open run has
both its ends or none, settings and arguments stand in a run and in the list of their tag, and an
environment, name or description has a place. So the item of dangling metadata always starts at a
metadata line. Items that are complete stay as they are.

* `Scan.readLines`: any lines with any ranges;
* `Deployment.IsFiled`, `Scan.IsConsistent`: what fits together;
* `Scan.closeRun_cases`, `Scan.step_cases`: what ending a run and reading a line can do;
* `Scan.IsKept`, `IsKept.step`, `IsKept.readLines`: what the parts of a step keep, a step and a run
  keep;
* `Scan.isKept_isConsistent`, `Scan.isKept_items`: consistency and complete items are kept;
* `Scan.readLines_consistent`: what holds after any lines.
-/

namespace Flowline

/-- A deployment holds a setting or an argument, and each of them stands in the list of its tag. -/
structure Deployment.IsFiled (b : Deployment) : Prop where
  nonempty : b.properties ≠ [] ∨ b.arguments ≠ []
  properties : ∀ m ∈ b.properties, m.tag = .prop
  arguments : ∀ m ∈ b.arguments, m.tag = .arg

namespace Scan

/-- Reads lines, each with the range that it is said to have. -/
def readLines (reader : DefinitionReader) (d : Dialect) (s : Scan)
    (lines : List (List Char × Range)) :
    Scan :=
  lines.foldl (fun s line => s.step reader d line.1 line.2) s

/-- The lines of a document have the ranges that their numbers give them. -/
theorem run_eq_readLines (s : Scan) (reader : DefinitionReader) (d : Dialect) (first : Nat)
    (texts : List (List Char)) :
    s.run reader d first texts =
      s.readLines reader d
        ((texts.zipIdx first).map fun line => (line.1, Range.onLine line.2 0 line.1.length)) := by
  rw [run, readLines, List.foldl_map]

/-- What has been gathered fits together. -/
structure IsConsistent (s : Scan) : Prop where
  /-- The open run has both ends or none. -/
  ends : s.blockStart.isSome = s.blockStop.isSome
  /-- Settings and arguments belong to an open run. -/
  settings : s.properties ≠ [] ∨ s.arguments ≠ [] → s.blockStart.isSome = true
  /-- Environment, name and description have a place. -/
  holders : s.env.isSome = true ∨ s.name.isSome = true ∨ s.desc.isSome = true →
    s.metadataStart.isSome = true
  -- the lists of the open run become those of a deployment
  properties : ∀ m ∈ s.properties, m.tag = .prop
  arguments : ∀ m ∈ s.arguments, m.tag = .arg
  deployments : ∀ b ∈ s.deployments, b.IsFiled
  items : ∀ i ∈ s.items, ∀ b ∈ i.deployments, b.IsFiled

/-! ## What the parts of a step do -/

/-- The deployment of the open run, from the line `first` up to `stop`. -/
def openDeployment (s : Scan) (first : Range) (stop : Position) : Deployment where
  env := s.env
  properties := s.properties
  arguments := s.arguments
  range := ⟨first.start, stop⟩
  startLineRange := first

/-- One more deployment. -/
def addDeployment (s : Scan) (b : Deployment) : Scan :=
  { s with deployments := s.deployments ++ [b] }

/-- Comments have no part in anything else. -/
theorem exists_trackComment_eq (s : Scan) (line : Range) (isComment : Bool) :
    ∃ opened comments, s.trackComment line isComment =
      { s with openComment := opened, comments := comments } := by
  cases isComment with
  | true => exact ⟨_, s.comments, rfl⟩
  | false =>
    cases hopen : s.openComment with
    | none =>
      refine ⟨none, s.comments, ?_⟩
      simp only [trackComment, closeComment, hopen, Bool.false_eq_true, if_false]
      rw [← hopen]
    | some comment =>
      refine ⟨none, s.comments ++ [comment], ?_⟩
      simp only [trackComment, closeComment, hopen, Bool.false_eq_true, if_false]

/-- A run that ends is forgotten. If it has both ends and holds a setting or an argument, it leaves
a deployment, and where a separating line ends it, environment, name and description go with it. -/
theorem closeRun_cases (s : Scan) (runEnd : RunEnd) :
    s.closeRun runEnd = s.dropRun ∨
      ∃ first stop, s.blockStart = some first ∧ s.blockStop = some stop ∧
        (s.properties ≠ [] ∨ s.arguments ≠ []) ∧
        s.closeRun runEnd =
          let t := s.dropRun.addDeployment (s.openDeployment first stop)
          if runEnd = .separator then t.dropHolders else t := by
  cases hstart : s.blockStart with
  | none =>
    left
    simp only [closeRun, hstart]
  | some first =>
    cases hstop : s.blockStop with
    | none =>
      left
      simp only [closeRun, hstart, hstop]
    | some stop =>
      by_cases hempty : s.properties = [] ∧ s.arguments = []
      · left
        simp only [closeRun, hstart, hstop, hempty.1, hempty.2, List.isEmpty_nil,
          Bool.and_self, if_true]
      · right
        have hfull : (s.properties.isEmpty && s.arguments.isEmpty) = false := by simpa using hempty
        refine ⟨first, stop, rfl, rfl, not_and_or.mp hempty, ?_⟩
        simp only [closeRun, hstart, hstop, hfull, Bool.false_eq_true, if_false]
        cases runEnd <;> rfl

/-- A line is taken into a comment or ends one. Besides, it may be recorded as metadata, end a run
as a separating line, or end a run and become the definition of an item. -/
theorem step_cases (reader : DefinitionReader) (d : Dialect) (s : Scan) (text : List Char)
    (line : Range) :
    let t := s.trackComment line (isCommentLine (LineKind.classify d text) text)
    s.step reader d text line = t ∨
      (∃ m, s.step reader d text line = t.recordMetadata m line) ∨
      s.step reader d text line = t.closeRun .separator ∨
      ∃ body, s.step reader d text line = (t.closeRun .definition).pushDefinition line body := by
  intro t
  have ht : t = s.trackComment line (isCommentLine (LineKind.classify d text) text) := rfl
  clear_value t
  cases hkind : LineKind.classify d text with
  | definition =>
    rw [hkind] at ht
    refine .inr (.inr (.inr
      ⟨Body.ofLine reader d line.start.line text (t.closeRun .definition).name, ?_⟩))
    simp only [step, hkind, ← ht]
  | metadata tag =>
    rw [hkind] at ht
    cases hcontent : contentStart text with
    | none =>
      left
      simp only [step, hkind, hcontent, ← ht]
    | some start =>
      refine .inr (.inl ⟨⟨tag, line.start.line, text, start⟩, ?_⟩)
      simp only [step, hkind, hcontent, ← ht]
  | comment =>
    rw [hkind] at ht
    left
    simp only [step, hkind, ← ht]
  | blank =>
    rw [hkind] at ht
    refine .inr (.inr (.inl ?_))
    simp only [step, hkind, ← ht]

/-! ## From the parts of a step to whole runs -/

/-- A property of scans that all parts of a step keep. -/
structure IsKept (P : Scan → Prop) : Prop where
  trackComment : ∀ {s : Scan} (line : Range) (isComment : Bool), P s →
    P (s.trackComment line isComment)
  recordMetadata : ∀ {s : Scan} (m : Metadata) (line : Range), P s → P (s.recordMetadata m line)
  closeRun : ∀ {s : Scan} (runEnd : RunEnd), P s → P (s.closeRun runEnd)
  pushDefinition : ∀ {s : Scan} (line : Range) (body : Body), P s → P (s.pushDefinition line body)

namespace IsKept

variable {P : Scan → Prop} {s : Scan}

theorem step (hP : IsKept P) (h : P s) (reader : DefinitionReader) (d : Dialect) (text : List Char)
    (line : Range) : P (s.step reader d text line) := by
  have htrack := hP.trackComment line (isCommentLine (LineKind.classify d text) text) h
  rcases step_cases reader d s text line with heq | ⟨m, heq⟩ | heq | ⟨body, heq⟩
  · rw [heq]
    exact htrack
  · rw [heq]
    exact hP.recordMetadata m line htrack
  · rw [heq]
    exact hP.closeRun .separator htrack
  · rw [heq]
    exact hP.pushDefinition line body (hP.closeRun .definition htrack)

theorem readLines (hP : IsKept P) (h : P s) (reader : DefinitionReader) (d : Dialect)
    (lines : List (List Char × Range)) : P (s.readLines reader d lines) := by
  induction lines generalizing s with
  | nil => exact h
  | cons line lines ih => exact ih (hP.step h reader d line.1 line.2)

end IsKept

/-! ## Consistency -/

namespace IsConsistent

variable {s : Scan}

theorem empty : IsConsistent Scan.empty where
  ends := rfl
  settings := by simp [Scan.empty]
  holders := by simp [Scan.empty]
  properties := by simp [Scan.empty]
  arguments := by simp [Scan.empty]
  deployments := by simp [Scan.empty]
  items := by simp [Scan.empty]

theorem trackComment (h : s.IsConsistent) (line : Range) (isComment : Bool) :
    (s.trackComment line isComment).IsConsistent := by
  obtain ⟨opened, comments, heq⟩ := exists_trackComment_eq s line isComment
  rw [heq]
  exact ⟨h.ends, h.settings, h.holders, h.properties, h.arguments, h.deployments, h.items⟩

/-- A metadata line opens a run and gives a place to what it says, so only the tags are left to look
at. -/
theorem recordMetadata (h : s.IsConsistent) (m : Metadata) (line : Range) :
    (s.recordMetadata m line).IsConsistent := by
  have hstart : (s.blockStart.or (some line)).isSome = true := by cases s.blockStart <;> rfl
  have hplace : (s.metadataStart.or (some line.start)).isSome = true := by
    cases s.metadataStart <;> rfl
  cases htag : m.tag with
  | env | name | desc =>
    simp only [Scan.recordMetadata, htag]
    exact ⟨hstart, fun _ => hstart, fun _ => hplace, h.properties, h.arguments,
      h.deployments, h.items⟩
  | prop =>
    have hproperties :=
      List.forall_mem_append.mpr ⟨h.properties, List.forall_mem_singleton.mpr htag⟩
    simp only [Scan.recordMetadata, htag]
    exact ⟨hstart, fun _ => hstart, fun _ => hplace, hproperties, h.arguments,
      h.deployments, h.items⟩
  | arg =>
    have harguments := List.forall_mem_append.mpr ⟨h.arguments, List.forall_mem_singleton.mpr htag⟩
    simp only [Scan.recordMetadata, htag]
    exact ⟨hstart, fun _ => hstart, fun _ => hplace, h.properties, harguments,
      h.deployments, h.items⟩

theorem dropRun (h : s.IsConsistent) : s.dropRun.IsConsistent where
  ends := rfl
  settings := by simp [Scan.dropRun]
  holders := h.holders
  properties := by simp [Scan.dropRun]
  arguments := by simp [Scan.dropRun]
  deployments := h.deployments
  items := h.items

theorem dropHolders (h : s.IsConsistent) : s.dropHolders.IsConsistent :=
  ⟨h.ends, h.settings, by simp [Scan.dropHolders], h.properties, h.arguments,
    h.deployments, h.items⟩

theorem addDeployment (h : s.IsConsistent) {b : Deployment} (hb : b.IsFiled) :
    (s.addDeployment b).IsConsistent := by
  refine ⟨h.ends, h.settings, h.holders, h.properties, h.arguments, ?_, h.items⟩
  exact List.forall_mem_append.mpr ⟨h.deployments, List.forall_mem_singleton.mpr hb⟩

theorem closeRun (h : s.IsConsistent) (runEnd : RunEnd) : (s.closeRun runEnd).IsConsistent := by
  rcases s.closeRun_cases runEnd with heq | ⟨first, stop, -, -, hne, heq⟩
  · rw [heq]
    exact h.dropRun
  · have hfiled : (s.openDeployment first stop).IsFiled := ⟨hne, h.properties, h.arguments⟩
    have hadded := h.dropRun.addDeployment hfiled
    rw [heq]
    split
    · exact hadded.dropHolders
    · exact hadded

/-- A definition line hands the deployments to its item, and nothing is held any more. -/
theorem pushDefinition (h : s.IsConsistent) (line : Range) (body : Body) :
    (s.pushDefinition line body).IsConsistent := by
  refine ⟨h.ends, h.settings, ?_, h.properties, h.arguments, ?_, ?_⟩
  · simp [Scan.pushDefinition]
  · simp [Scan.pushDefinition]
  · exact List.forall_mem_append.mpr ⟨h.items, List.forall_mem_singleton.mpr h.deployments⟩

end IsConsistent

theorem isKept_isConsistent : IsKept IsConsistent where
  trackComment line isComment h := h.trackComment line isComment
  recordMetadata m line h := h.recordMetadata m line
  closeRun runEnd h := h.closeRun runEnd
  pushDefinition line body h := h.pushDefinition line body

/-! ## Complete items -/

theorem items_closeRun (s : Scan) (runEnd : RunEnd) : (s.closeRun runEnd).items = s.items := by
  rcases s.closeRun_cases runEnd with heq | ⟨first, stop, -, -, -, heq⟩
  · rw [heq]
    rfl
  · rw [heq]
    split <;> rfl

/-- Items are added behind those that are complete. -/
theorem isKept_items (complete : List Item) : IsKept fun s => complete <+: s.items where
  trackComment {s} line isComment h := by
    obtain ⟨opened, comments, heq⟩ := exists_trackComment_eq s line isComment
    rw [heq]
    exact h
  recordMetadata {s} m line h := by
    unfold recordMetadata
    split <;> exact h
  closeRun {s} runEnd h := by
    rw [items_closeRun]
    exact h
  pushDefinition {s} line body h := h.trans (List.prefix_append _ _)

/-! ## The end of the lines -/

/-- The run that is still open at the end has no part in the items, not even in the dangling one. -/
theorem finish_eq (s : Scan) (stop : Position) :
    s.finish stop =
      if s.env.isSome || s.name.isSome || s.desc.isSome then
        s.items ++ [s.closeComment.danglingItem stop]
      else s.items := by
  obtain ⟨opened, comments, hcomment⟩ := exists_trackComment_eq s ⟨stop, stop⟩ false
  have hclose : s.closeComment = { s with openComment := opened, comments := comments } := hcomment
  rw [finish, hclose]
  rcases closeRun_cases { s with openComment := opened, comments := comments } .definition with
    heq | ⟨first, last, -, -, -, heq⟩
  · rw [heq]
    rfl
  · rw [heq]
    rfl

theorem items_prefix_finish (s : Scan) (stop : Position) : s.items <+: s.finish stop := by
  rw [finish_eq]
  split
  · exact List.prefix_append _ _
  · exact List.prefix_refl _

namespace IsConsistent

variable {s : Scan}

/-- Dangling metadata has a place, so the line after the last definition never stands in for it. -/
theorem finish_itemStart (h : s.IsConsistent) (number : Nat) (stop : Position) :
    { s with itemStart := number }.finish stop = s.finish stop := by
  rw [finish_eq, finish_eq]
  split
  · next hholder =>
    have hholds : s.env.isSome = true ∨ s.name.isSome = true ∨ s.desc.isSome = true := by
      simpa only [Bool.or_eq_true, or_assoc] using hholder
    obtain ⟨place, hplace⟩ := Option.isSome_iff_exists.mp (h.holders hholds)
    simp only [closeComment]
    cases s.openComment <;> simp only [danglingItem, hplace, Option.getD_some]
  · rfl

theorem isFiled_of_mem_finish (h : s.IsConsistent) {stop : Position} {i : Item}
    (hi : i ∈ s.finish stop) {b : Deployment} (hb : b ∈ i.deployments) : b.IsFiled := by
  rw [finish_eq] at hi
  split at hi
  · rcases List.mem_append.mp hi with hi | hi
    · exact h.items i hi b hb
    · rw [List.mem_singleton.mp hi] at hb
      cases hb
  · exact h.items i hi b hb

end IsConsistent

/-- **What holds after any lines.** Whatever lines are read, with whatever ranges, what has been
gathered is consistent: the open run has both ends or none, and both if there is a setting or an
argument; environment, name and description have a place, so that the items do not depend on the
line after the last definition; and all deployments, also those of the items at the end, hold
something and have it filed by tag. The items that are complete by then start the items after any
further lines, and those at the end. The lines of a document are such lines, with the ranges that
their numbers give them. -/
theorem readLines_consistent (reader : DefinitionReader) (d : Dialect)
    (lines : List (List Char × Range)) :
    let s := Scan.empty.readLines reader d lines
    s.IsConsistent ∧
      (∀ number stop, { s with itemStart := number }.finish stop = s.finish stop) ∧
      (∀ stop, ∀ i ∈ s.finish stop, ∀ b ∈ i.deployments, b.IsFiled) ∧
      (∀ more stop, s.items <+: (s.readLines reader d more).items ∧
        s.items <+: (s.readLines reader d more).finish stop) ∧
      ∀ first texts, s.run reader d first texts =
        s.readLines reader d
          ((texts.zipIdx first).map fun line => (line.1, Range.onLine line.2 0 line.1.length)) := by
  intro s
  have hs : s.IsConsistent := isKept_isConsistent.readLines .empty reader d lines
  refine ⟨hs, hs.finish_itemStart, fun stop i hi b hb => hs.isFiled_of_mem_finish hi hb, ?_,
    s.run_eq_readLines reader d⟩
  intro more stop
  have hmore := (isKept_items s.items).readLines (List.prefix_refl _) reader d more
  exact ⟨hmore, hmore.trans (items_prefix_finish _ stop)⟩

/-- Lines of tasks whose numbers go up and down, one of them with a range that ends before it
starts. -/
def scatteredLines : List (List Char × Range) :=
  [("-- @env prod".toList, .onLine 9 0 12), ("-- @prop a=b".toList, ⟨⟨4, 7⟩, ⟨2, 0⟩⟩),
    ([], .onLine 7 0 0), ("# note".toList, .onLine 2 0 6), ("-- @arg x".toList, .onLine 1 0 9),
    ("load".toList, .onLine 3 0 4), ("-- @name t".toList, .onLine 6 0 10),
    ("-- @arg y".toList, .onLine 8 0 9)]

/-- An item with two deployments is complete. A name and a run are left, and the dangling item
starts at the line of the name. -/
theorem scatteredLines_consistent :
    let s := Scan.empty.readLines .standard .task scatteredLines
    (s.items.map (·.deployments.length) = [2] ∧ s.name.isSome = true ∧ s.arguments.length = 1 ∧
      (s.finish ⟨0, 0⟩).map (·.range.start) = [⟨0, 0⟩, ⟨6, 0⟩]) ∧
      s.IsConsistent ∧ { s with itemStart := 5 }.finish ⟨0, 0⟩ = s.finish ⟨0, 0⟩ ∧
      s.items <+: (s.readLines .standard .task scatteredLines).items := by
  intro s
  have h := readLines_consistent .standard .task scatteredLines
  exact ⟨by decide +kernel, h.1, h.2.1 5 ⟨0, 0⟩, (h.2.2.2.1 scatteredLines ⟨0, 0⟩).1⟩

end Scan

end Flowline
