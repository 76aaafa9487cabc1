import Flowline.Proofs.Lines

/-!
# What has been gathered after some lines

Everything that a scan has gathered after the first lines of a document is a function of these
lines, said without running the scan. From that description the items of a document can be read off.

* `scanAt`: what has been gathered before a line;
* `scanAt_step`: one line leads from one description to the next;
* `run_take`: the description holds after any number of lines;
* `segment_eq`, `mem_segment`: the items of a document, one for each definition line, and perhaps a
  last one.
-/

namespace Flowline

/-! ## Deployments and comments -/

/-- The number of the line after a run of lines. -/
def runStop (run : List Line) : Nat :=
  (run.getLast?.map (·.number + 1)).getD 0

/-- The deployment of a run of lines, if it holds a setting or an argument. -/
def deploymentOf (d : Dialect) (env : Option Metadata) (run : List Line) : Option Deployment :=
  match firstMetadata d run, lastMetadata d run with
  | some first, some last =>
    if hasSetting d run then
      some
        { env := env
          properties := tagged d .prop run
          arguments := tagged d .arg run
          range := ⟨first.range.start, last.range.stop⟩
          startLineRange := first.range }
    else none
  | _, _ => none

/-- The environment that counts right before line `n`. -/
def envAt (d : Dialect) (lines : List Line) (n : Nat) : Option Metadata :=
  lastTagged d .env (sinceReset d lines n)

/-- The deployments of some runs of lines. -/
def deploymentsOf (d : Dialect) (lines : List Line) (runs : List (List Line)) : List Deployment :=
  runs.filterMap fun run => deploymentOf d (envAt d lines (runStop run)) run

/-- The range of lines that follow each other. -/
def hull (ls : List Line) : Option Range :=
  match ls.head?, ls.getLast? with
  | some first, some last => some ⟨first.range.start, last.range.stop⟩
  | _, _ => none

/-- The lines since the last definition, cut at those that belong to no comment. -/
def commentRuns (d : Dialect) (lines : List Line) (n : Nat) : List (List Line) :=
  (sinceDefinition d lines n).splitOnP (fun l => !l.isComment d)

/-- The lines of the comment that line `n` may continue. -/
def openComment (d : Dialect) (lines : List Line) (n : Nat) : List Line :=
  (sinceDefinition d lines n).rtakeWhile (·.isComment d)

/-! ## The description -/

def definitionLines (d : Dialect) (lines : List Line) : List Line :=
  lines.filter (·.isDefinition d)

/-- The line after the last definition line before line `n`. -/
def itemStart (d : Dialect) (lines : List Line) (n : Nat) : Nat :=
  ((definitionLines d (lines.take n)).getLast?.map (·.number + 1)).getD 0

/-- The item of a definition line. -/
def itemAt (reader : DefinitionReader) (d : Dialect) (lines : List Line) (l : Line) : Item where
  range := ⟨⟨itemStart d lines l.number, 0⟩, l.range.stop⟩
  definitionRange := some l.range
  env := envAt d lines l.number
  name := lastTagged d .name (sinceReset d lines l.number)
  desc := lastTagged d .desc (sinceReset d lines l.number)
  deployments := deploymentsOf d lines (runsBefore d lines l.number)
  comments := (commentRuns d lines l.number).filterMap hull
  body := Body.ofLine reader d l.number l.text (lastTagged d .name (sinceReset d lines l.number))

/-- What has been gathered before line `n`. -/
def scanAt (reader : DefinitionReader) (d : Dialect) (lines : List Line) (n : Nat) : Scan where
  itemStart := itemStart d lines n
  env := envAt d lines n
  name := lastTagged d .name (sinceReset d lines n)
  desc := lastTagged d .desc (sinceReset d lines n)
  metadataStart := (firstMetadata d (sinceReset d lines n)).map (·.range.start)
  properties := tagged d .prop (sinceSeparator d lines n)
  arguments := tagged d .arg (sinceSeparator d lines n)
  blockStart := (firstMetadata d (sinceSeparator d lines n)).map (·.range)
  blockStop := (lastMetadata d (sinceSeparator d lines n)).map (·.range.stop)
  deployments := deploymentsOf d lines (endedRuns d lines n)
  openComment := hull (openComment d lines n)
  comments := (commentRuns d lines n).dropLast.filterMap hull
  items := (definitionLines d (lines.take n)).map (itemAt reader d lines)

/-! ## Comments -/

theorem Line.isComment_of_isDefinition {d : Dialect} {l : Line} (h : l.isDefinition d = true) :
    l.isComment d = false := by
  have hkind := Line.isDefinition_iff.mp h
  simp only [Line.isComment, hkind, Scan.isCommentLine]
  simp only [Line.kind, LineKind.classify] at hkind
  split at hkind
  · cases hkind
  · next first rest htrim =>
    rw [head?_trimStart_of_trim htrim]
    split at hkind
    · next hfirst =>
      have hne : first ≠ '#' := by
        rintro rfl
        exact absurd hfirst (by decide)
      simpa using hne
    · split at hkind
      · cases hkind
      · split at hkind
        · cases hkind
        · split at hkind <;> cases hkind

theorem filterMap_concat {α β : Type*} (f : α → Option β) (xs : List α) (x : α) :
    (xs ++ [x]).filterMap f = xs.filterMap f ++ (f x).toList := by
  cases h : f x <;> simp [h]

theorem hull_concat (ls : List Line) (l : Line) :
    hull (ls ++ [l]) =
      some (match hull ls with
        | some comment => comment.withStop l.range.stop
        | none => l.range) := by
  cases ls with
  | nil => rfl
  | cons first rest =>
    simp [hull, Range.withStop, List.getLast?_cons]

section Comments

variable {d : Dialect} {lines : List Line} {n : Nat} {l : Line}

theorem openComment_succ (h : lines[n]? = some l) :
    openComment d lines (n + 1) = if l.isComment d then openComment d lines n ++ [l] else [] := by
  rw [openComment, sinceDefinition_succ h]
  cases hd : l.isDefinition d with
  | true =>
    rw [Line.isComment_of_isDefinition hd]
    rfl
  | false =>
    simp only [Bool.false_eq_true, if_false, List.rtakeWhile_concat]
    rfl

theorem commentRuns_eq :
    commentRuns d lines n = (commentRuns d lines n).dropLast ++ [openComment d lines n] := by
  have h := splitOnP_eq_dropLast_append (p := fun l => !l.isComment d) (sinceDefinition d lines n)
  simp only [Bool.not_not] at h
  exact h

theorem dropLast_commentRuns_succ (h : lines[n]? = some l) (hd : l.isDefinition d = false) :
    (commentRuns d lines (n + 1)).dropLast =
      if l.isComment d then (commentRuns d lines n).dropLast else commentRuns d lines n := by
  rw [commentRuns, sinceDefinition_succ h, hd]
  simp only [Bool.false_eq_true, if_false, dropLast_splitOnP_concat]
  cases l.isComment d <;> rfl

theorem filterMap_commentRuns :
    (commentRuns d lines n).filterMap hull =
      (commentRuns d lines n).dropLast.filterMap hull ++ (hull (openComment d lines n)).toList := by
  conv_lhs => rw [commentRuns_eq]
  exact filterMap_concat ..

end Comments

/-! ## Ending a run -/

/-- The scan holds the metadata of a run of lines. -/
structure Scan.HoldsRun (d : Dialect) (run : List Line) (s : Scan) : Prop where
  properties : s.properties = tagged d .prop run
  arguments : s.arguments = tagged d .arg run
  blockStart : s.blockStart = (firstMetadata d run).map (·.range)
  blockStop : s.blockStop = (lastMetadata d run).map (·.range.stop)

/-- What is left of environment, name, description and their place after a run. -/
def Scan.dropHolders (s : Scan) : Scan :=
  { s with env := none, name := none, desc := none, metadataStart := none }

theorem closeRun_of_holdsRun {d : Dialect} {run : List Line} {s : Scan} (h : s.HoldsRun d run)
    (runEnd : RunEnd) :
    s.closeRun runEnd =
      let t := { s.dropRun with
        deployments := s.deployments ++ (deploymentOf d s.env run).toList }
      if runEnd = .separator ∧ hasSetting d run = true then t.dropHolders else t := by
  cases hs : hasSetting d run with
  | true =>
    obtain ⟨first, last, hfirst, hlast⟩ := exists_metadata_of_isSetting hs
    have hfull : ((tagged d .prop run).isEmpty && (tagged d .arg run).isEmpty) = false := by
      rw [isEmpty_tagged_eq, hs]
      rfl
    simp only [Scan.closeRun, h.blockStart, h.blockStop, h.properties, h.arguments, hfirst, hlast,
      hfull, hs, deploymentOf, Option.map_some, Option.toList_some, Bool.false_eq_true, if_false,
      if_true, and_true]
    cases runEnd <;> rfl
  | false =>
    have hempty : ((tagged d .prop run).isEmpty && (tagged d .arg run).isEmpty) = true := by
      rw [isEmpty_tagged_eq, hs]
      rfl
    have hnone : deploymentOf d s.env run = none := by
      simp only [deploymentOf, hs]
      split <;> rfl
    simp only [Scan.closeRun, h.properties, h.arguments, hempty, hnone, if_true, Bool.false_eq_true,
      and_false, if_false, Option.toList_none, List.append_nil]
    split <;> rfl

/-! ## From one description to the next -/

section Step

variable {reader : DefinitionReader} {d : Dialect} {lines : List Line} {n : Nat} {l : Line}

theorem definitionLines_succ (h : lines[n]? = some l) :
    definitionLines d (lines.take (n + 1)) =
      if l.isDefinition d then definitionLines d (lines.take n) ++ [l]
      else definitionLines d (lines.take n) := by
  rw [definitionLines, take_succ h, List.filter_append]
  cases hd : l.isDefinition d <;> simp [definitionLines, hd]

theorem itemStart_succ (h : lines[n]? = some l) :
    itemStart d lines (n + 1) = if l.isDefinition d then l.number + 1 else itemStart d lines n := by
  rw [itemStart, definitionLines_succ h]
  split
  · rw [List.getLast?_concat]
    rfl
  · rfl

/-- The line after the run that is still open before line `n` is line `n`. -/
theorem runStop_sinceSeparator (hnum : IsNumbered lines) (hn : n ≤ lines.length)
    (hne : sinceSeparator d lines n ≠ []) : runStop (sinceSeparator d lines n) = n := by
  cases n with
  | zero => exact absurd rfl hne
  | succ n =>
    have h : lines[n]? = some (lines[n]) := List.getElem?_eq_getElem (by omega)
    rw [sinceSeparator_succ h] at hne ⊢
    split at hne
    · exact absurd rfl hne
    · next hsep =>
      rw [if_neg hsep, runStop, List.getLast?_concat]
      exact congrArg (· + 1) (hnum n _ h)

/-- The deployments of all runs before line `n` are those of the ended runs and that of the run that
is still open. -/
theorem deploymentsOf_runsBefore (hnum : IsNumbered lines) (hn : n ≤ lines.length) :
    deploymentsOf d lines (runsBefore d lines n) =
      deploymentsOf d lines (endedRuns d lines n) ++
        (deploymentOf d (envAt d lines n) (sinceSeparator d lines n)).toList := by
  rw [runsBefore_eq, deploymentsOf, filterMap_concat]
  by_cases hne : sinceSeparator d lines n = []
  · rw [hne]
    rfl
  · rw [runStop_sinceSeparator hnum hn hne]
    rfl

/-- The comments have no part in a run. -/
theorem holdsRun_scanAt (openComment : Option Range) (comments : List Range) :
    Scan.HoldsRun d (sinceSeparator d lines n)
      { scanAt reader d lines n with openComment := openComment, comments := comments } :=
  ⟨rfl, rfl, rfl, rfl⟩

theorem closeComment_scanAt :
    (scanAt reader d lines n).closeComment =
      { scanAt reader d lines n with
        openComment := none
        comments := (commentRuns d lines n).filterMap hull } := by
  rw [filterMap_commentRuns]
  simp only [Scan.closeComment, scanAt]
  cases hull (openComment d lines n) with
  | none => simp
  | some comment => rfl

theorem trackComment_scanAt (h : lines[n]? = some l) (hd : l.isDefinition d = false) :
    (scanAt reader d lines n).trackComment l.range (l.isComment d) =
      { scanAt reader d lines n with
        openComment := hull (openComment d lines (n + 1))
        comments := (commentRuns d lines (n + 1)).dropLast.filterMap hull } := by
  rw [openComment_succ h, dropLast_commentRuns_succ h hd, Scan.trackComment]
  cases l.isComment d with
  | true => rw [if_pos rfl, if_pos rfl, if_pos rfl, hull_concat]; rfl
  | false => rw [if_neg (by simp), if_neg (by simp), if_neg (by simp), closeComment_scanAt]; rfl

/-- Away from definition and separating lines, nothing is given up. -/
theorem isReset_of_not_separates (h : lines[n]? = some l) (hsep : l.separates d = false) :
    isReset d lines n = false := by
  rw [isReset_eq h]
  simp only [Line.separates, Bool.or_eq_false_iff] at hsep
  rw [hsep.1, hsep.2]
  rfl

theorem scanAt_step_comment (hnum : IsNumbered lines) (h : lines[n]? = some l)
    (hk : l.kind d = .comment) :
    (scanAt reader d lines n).step reader d l.text l.range = scanAt reader d lines (n + 1) := by
  obtain ⟨hd, hb, hsep⟩ :=
    Line.not_separates_of_kind (d := d) (l := l) (by simp [hk]) (by simp [hk])
  obtain ⟨hm, ht⟩ := Line.not_isMetadata_of_kind (d := d) (l := l) (by simp [hk])
  have hr := isReset_of_not_separates h hsep
  have hstep : (scanAt reader d lines n).step reader d l.text l.range =
      (scanAt reader d lines n).trackComment l.range (l.isComment d) := by
    simp only [Scan.step, Line.isComment]
    rw [show LineKind.classify d l.text = .comment from hk, hk]
  rw [hstep, trackComment_scanAt h hd]
  simp only [scanAt, envAt, definitionLines_succ h, itemStart_succ h,
    sinceReset_succ h (hnum n l h), sinceSeparator_succ h, endedRuns_succ h, lastTagged_concat,
    tagged_concat, firstMetadata_concat, lastMetadata_concat, hd, hb, hsep, hm, ht, hr,
    Bool.false_eq_true, if_false, Option.or_none]

theorem scanAt_step_metadata {tag : Tag} (hnum : IsNumbered lines) (h : lines[n]? = some l)
    (hk : l.kind d = .metadata tag) :
    (scanAt reader d lines n).step reader d l.text l.range = scanAt reader d lines (n + 1) := by
  obtain ⟨hd, hb, hsep⟩ :=
    Line.not_separates_of_kind (d := d) (l := l) (by simp [hk]) (by simp [hk])
  have hm : l.isMetadata d = true := Line.isMetadata_iff.mpr ⟨tag, hk⟩
  have ht : ∀ other, l.hasTag d other = decide (tag = other) := fun other => by
    simp [Line.hasTag, hk]
  have hr := isReset_of_not_separates h hsep
  have hstep : (scanAt reader d lines n).step reader d l.text l.range =
      ((scanAt reader d lines n).trackComment l.range (l.isComment d)).recordMetadata
        (l.metadata tag) l.range := by
    simp only [Scan.step, Line.isComment, Line.metadata]
    rw [show LineKind.classify d l.text = .metadata tag from hk, hk, Line.contentStart_of_kind hk]
    rfl
  rw [hstep, trackComment_scanAt h hd]
  simp only [scanAt, envAt, definitionLines_succ h, itemStart_succ h,
    sinceReset_succ h (hnum n l h), sinceSeparator_succ h, endedRuns_succ h, lastTagged_concat,
    tagged_concat, firstMetadata_concat, lastMetadata_concat, hd, hb, hsep, hm, ht, hr,
    Bool.false_eq_true, if_false, if_true]
  cases tag <;> simp [Scan.recordMetadata, Scan.extendRun, Line.metadata]

theorem scanAt_step_blank (hnum : IsNumbered lines) (h : lines[n]? = some l)
    (hk : l.kind d = .blank) :
    (scanAt reader d lines n).step reader d l.text l.range = scanAt reader d lines (n + 1) := by
  have hd : l.isDefinition d = false := by simp [Line.isDefinition, hk]
  have hb : l.isBlank d = true := Line.isBlank_iff.mpr hk
  have hsep : l.separates d = true := by simp [Line.separates, hb]
  obtain ⟨hm, ht⟩ := Line.not_isMetadata_of_kind (d := d) (l := l) (by simp [hk])
  have hr : isReset d lines n = hasSetting d (sinceSeparator d lines n) := by
    rw [isReset_eq h, hd, hb]
    rfl
  have hlen : n ≤ lines.length := by
    have := (List.getElem?_eq_some_iff.mp h).1
    omega
  have hstep : (scanAt reader d lines n).step reader d l.text l.range =
      ((scanAt reader d lines n).trackComment l.range (l.isComment d)).closeRun .separator := by
    simp only [Scan.step, Line.isComment]
    rw [show LineKind.classify d l.text = .blank from hk, hk]
  rw [hstep, trackComment_scanAt h hd, closeRun_of_holdsRun (holdsRun_scanAt ..)]
  simp only [scanAt, envAt, definitionLines_succ h, itemStart_succ h,
    sinceReset_succ h (hnum n l h), sinceSeparator_succ h, endedRuns_succ h,
    deploymentsOf_runsBefore hnum hlen, hd, hb, hsep, hr, true_and, Bool.false_eq_true,
    if_false, if_true]
  cases hasSetting d (sinceSeparator d lines n) with
  | true => rfl
  | false =>
    simp only [Bool.false_eq_true, if_false, lastTagged_concat, firstMetadata_concat, hm, ht,
      Option.or_none]
    rfl

/-- Before a definition line, and at the end, the open comment and the open run are closed. -/
theorem closeAll_scanAt (hnum : IsNumbered lines) (hlen : n ≤ lines.length) :
    (scanAt reader d lines n).closeComment.closeRun .definition =
      { (scanAt reader d lines n).dropRun with
        deployments := deploymentsOf d lines (runsBefore d lines n)
        openComment := none
        comments := (commentRuns d lines n).filterMap hull } := by
  rw [closeComment_scanAt, closeRun_of_holdsRun (holdsRun_scanAt ..),
    deploymentsOf_runsBefore hnum hlen]
  rfl

theorem scanAt_step_definition (hnum : IsNumbered lines) (h : lines[n]? = some l)
    (hk : l.kind d = .definition) :
    (scanAt reader d lines n).step reader d l.text l.range = scanAt reader d lines (n + 1) := by
  have hd : l.isDefinition d = true := Line.isDefinition_iff.mpr hk
  have hc := Line.isComment_of_isDefinition hd
  have hsep : l.separates d = true := by simp [Line.separates, hd]
  have hr : isReset d lines n = true := by
    rw [isReset_eq h, hd]
    rfl
  have hlen : n ≤ lines.length := by
    have := (List.getElem?_eq_some_iff.mp h).1
    omega
  have hcomments : (commentRuns d lines (n + 1)).dropLast = [] := by
    rw [commentRuns, sinceDefinition_succ h, if_pos hd]
    rfl
  have hstep : (scanAt reader d lines n).step reader d l.text l.range =
      let s := (scanAt reader d lines n).closeComment.closeRun .definition
      s.pushDefinition l.range (Body.ofLine reader d l.number l.text s.name) := by
    simp only [Line.isComment, hk] at hc
    simp only [Scan.step]
    rw [show LineKind.classify d l.text = .definition from hk, hc]
    rfl
  obtain rfl := hnum n l h
  rw [hstep, closeAll_scanAt hnum hlen]
  simp only [scanAt, envAt, definitionLines_succ h, itemStart_succ h, sinceReset_succ h rfl,
    sinceSeparator_succ h, endedRuns_succ h, openComment_succ h, hcomments, hd, hsep, hr, hc,
    Bool.false_eq_true, if_false, if_true, List.map_append, List.map_cons, List.map_nil]
  rfl

/-- Reading line `n` leads from what has been gathered before it to what has been gathered after
it. -/
theorem scanAt_step (hnum : IsNumbered lines) (h : lines[n]? = some l) :
    (scanAt reader d lines n).step reader d l.text l.range = scanAt reader d lines (n + 1) := by
  cases hk : l.kind d with
  | definition => exact scanAt_step_definition hnum h hk
  | metadata tag => exact scanAt_step_metadata hnum h hk
  | comment => exact scanAt_step_comment hnum h hk
  | blank => exact scanAt_step_blank hnum h hk

end Step

/-! ## Whole documents -/

/-- The item of the metadata after the last reset, in a document that ends at `stop`, if there is an
environment, a name or a description among it. -/
def danglingItem? (d : Dialect) (lines : List Line) (stop : Position) : Option Item :=
  let since := sinceReset d lines lines.length
  if since.any (·.isHolder d) then
    some
      { range := ⟨((firstMetadata d since).map (·.range.start)).getD
          ⟨itemStart d lines lines.length, 0⟩, stop⟩
        definitionRange := none
        env := lastTagged d .env since
        name := lastTagged d .name since
        desc := lastTagged d .desc since
        deployments := []
        comments := (commentRuns d lines lines.length).filterMap hull
        body := .dangling }
  else none

/-- What the dangling item holds. -/
theorem danglingItem?_holds {d : Dialect} {lines : List Line} {stop : Position} {i : Item}
    (h : danglingItem? d lines stop = some i) :
    i.body = .dangling ∧ i.definitionRange = none ∧ i.deployments = [] ∧
      i.env = lastTagged d .env (sinceReset d lines lines.length) ∧
      i.name = lastTagged d .name (sinceReset d lines lines.length) ∧
      i.desc = lastTagged d .desc (sinceReset d lines lines.length) := by
  simp only [danglingItem?] at h
  split at h
  · cases h
    exact ⟨rfl, rfl, rfl, rfl, rfl, rfl⟩
  · cases h

/-- The dangling item starts at a line after the last reset, which holds metadata. -/
theorem danglingItem?_start {d : Dialect} {lines : List Line} {stop : Position} {i : Item}
    (h : danglingItem? d lines stop = some i) :
    ∃ first, firstMetadata d (sinceReset d lines lines.length) = some first ∧
      i.range = ⟨first.range.start, stop⟩ := by
  simp only [danglingItem?] at h
  split at h
  · next hany =>
    obtain ⟨l, hl, hholder⟩ := List.any_eq_true.mp hany
    obtain ⟨first, hfirst⟩ := exists_firstMetadata hl (Line.isMetadata_of_isHolder hholder)
    cases h
    refine ⟨first, hfirst, ?_⟩
    rw [hfirst]
    rfl
  · cases h

theorem getElem?_numbered (texts : List (List Char)) (n : Nat) :
    (numbered texts)[n]? = texts[n]?.map (Line.mk n) :=
  List.getElem?_mapIdx

theorem scanAt_zero (reader : DefinitionReader) (d : Dialect) (lines : List Line) :
    scanAt reader d lines 0 = Scan.empty :=
  rfl

/-- After `n` lines, what has been gathered is what the description says. -/
theorem run_take (reader : DefinitionReader) (d : Dialect) (texts : List (List Char)) {n : Nat}
    (hn : n ≤ texts.length) :
    Scan.empty.run reader d 0 (texts.take n) = scanAt reader d (numbered texts) n := by
  induction n with
  | zero => exact (scanAt_zero reader d _).symm
  | succ n ih =>
    have htext : texts[n]? = some texts[n] := List.getElem?_eq_getElem (by omega)
    have hline : (numbered texts)[n]? = some ⟨n, texts[n]⟩ := by
      rw [getElem?_numbered, htext]
      rfl
    rw [← scanAt_step (isNumbered_numbered texts) hline, ← ih (by omega), List.take_add_one, htext]
    simp only [Scan.run, Option.toList_some, List.zipIdx_append, List.foldl_append,
      List.length_take, List.zipIdx_cons, List.zipIdx_nil, List.foldl_cons, List.foldl_nil]
    rw [Nat.min_eq_left (by omega), Nat.zero_add]
    rfl

theorem length_numbered (texts : List (List Char)) : (numbered texts).length = texts.length :=
  List.length_mapIdx

theorem finish_scanAt (reader : DefinitionReader) (d : Dialect) {lines : List Line}
    (hnum : IsNumbered lines) (stop : Position) :
    (scanAt reader d lines lines.length).finish stop =
      (definitionLines d lines).map (itemAt reader d lines) ++
        (danglingItem? d lines stop).toList := by
  rw [Scan.finish, closeAll_scanAt hnum (le_refl _)]
  simp only [scanAt, envAt, Scan.dropRun, danglingItem?, any_isHolder, List.take_length]
  split
  · rfl
  · exact (List.append_nil _).symm

/-- **The items of a document**: one for each definition line, and perhaps one for what follows the
last reset. -/
theorem segmentLines_eq (reader : DefinitionReader) (d : Dialect) (texts : List (List Char)) :
    segmentLines reader d texts =
      (definitionLines d (numbered texts)).map (itemAt reader d (numbered texts)) ++
        (danglingItem? d (numbered texts) (stopOf texts)).toList := by
  have hrun := run_take reader d texts (le_refl _)
  rw [List.take_length, ← length_numbered texts] at hrun
  rw [segmentLines, hrun]
  exact finish_scanAt reader d (isNumbered_numbered texts) _

theorem stopOf_lines (document : Document) : stopOf document.lines = document.stop := by
  rw [stopOf, Document.stop, Document.lineRange, Document.lineText, Document.lineCount,
    List.getLast?_eq_getElem?]
  cases document.lines[document.lines.length - 1]? <;> rfl

theorem segment_eq (reader : DefinitionReader) (d : Dialect) (document : Document) :
    segment reader d document =
      (definitionLines d document.numberedLines).map (itemAt reader d document.numberedLines) ++
        (danglingItem? d document.numberedLines document.stop).toList := by
  rw [segment, segmentLines_eq, stopOf_lines]
  rfl

theorem isNumbered_numberedLines (document : Document) : IsNumbered document.numberedLines :=
  isNumbered_numbered _

theorem Document.lineText_of_mem {document : Document} {l : Line}
    (hl : l ∈ document.numberedLines) :
    document.lineText l.number = some l.text := by
  have hget := (isNumbered_numberedLines document).getElem? hl
  rw [Document.numberedLines, getElem?_numbered] at hget
  obtain ⟨text, htext, heq⟩ := Option.map_eq_some_iff.mp hget
  rw [← heq]
  exact htext

theorem mem_segment {reader : DefinitionReader} {d : Dialect} {document : Document} {i : Item} :
    i ∈ segment reader d document ↔
      (∃ l ∈ definitionLines d document.numberedLines,
        i = itemAt reader d document.numberedLines l) ∨
      danglingItem? d document.numberedLines document.stop = some i := by
  rw [segment_eq, List.mem_append, List.mem_map, Option.mem_toList]
  simp only [eq_comm (b := i)]

/-- The items with a definition line are those of the definition lines. -/
theorem exists_itemAt {reader : DefinitionReader} {d : Dialect} {document : Document} {i : Item}
    {n : Nat} (hi : i ∈ segment reader d document) (hn : i.line = some n) :
    ∃ l ∈ definitionLines d document.numberedLines,
      l.number = n ∧ i = itemAt reader d document.numberedLines l := by
  rcases mem_segment.mp hi with ⟨l, hl, rfl⟩ | hd
  · exact ⟨l, hl, Option.some.inj hn, rfl⟩
  · rw [Item.line, (danglingItem?_holds hd).2.1] at hn
    cases hn

/-- A definition that was read belongs to a definition line. -/
theorem exists_itemAt_of_parsed {reader : DefinitionReader} {d : Dialect} {document : Document}
    {i : Item} {p : Parsed} (hi : i ∈ segment reader d document) (hp : i.parsed = some p) :
    ∃ l ∈ definitionLines d document.numberedLines,
      i = itemAt reader d document.numberedLines l := by
  rcases mem_segment.mp hi with hl | hd
  · exact hl
  · rw [Item.parsed, (danglingItem?_holds hd).1] at hp
    cases hp

end Flowline
