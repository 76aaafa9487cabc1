import Flowline.Proofs.LensEnvironment

/-!
# What belongs to an item

An item holds metadata, deployments and comments, which are gathered apart from each other. Metadata
and deployments always lie in the range of the item. Comments are gathered from the last definition
line on, and so is the range of an item with a definition line; but a dangling item starts at its
first metadata line, and leaves out the comments above it.

* `IsPiece`, `isPiece_of_mem_splitOnP`: the parts into which a list is cut;
* `IsCommentRun`, `isPiece_of_mem_commentRuns`: comments cannot be made longer;
* `Item.GatheredAt`, `exists_gatheredAt`: where the parts of an item come from;
* `parts_inside_item`: the parts of an item in its range.
-/

namespace Flowline

/-! ## The parts of a list that is cut -/

section Pieces

variable {α : Type*} {p : α → Bool} {xs piece : List α}

/-- A part of a list without separators that cannot be made longer: on each side of it there is a
separator, or the list ends. -/
structure IsPiece (p : α → Bool) (xs piece : List α) : Prop where
  solid : ∀ x ∈ piece, p x = false
  cut : ∃ before after, xs = before ++ (piece ++ after) ∧ (∀ x ∈ before.getLast?, p x = true) ∧
    ∀ x ∈ after.head?, p x = true

theorem isPiece_takeWhile (xs : List α) : IsPiece p xs (xs.takeWhile fun x => !p x) := by
  constructor
  · intro x hx
    simpa using List.mem_takeWhile_imp hx
  · refine ⟨[], xs.dropWhile fun x => !p x, List.takeWhile_append_dropWhile.symm, by simp, ?_⟩
    intro x hx
    have hhead := List.head?_dropWhile_not (fun x => !p x) xs
    rw [Option.mem_def.mp hx] at hhead
    simpa using hhead

theorem IsPiece.append_left (h : IsPiece p xs piece) {before : List α}
    (hbefore : ∀ x ∈ before.getLast?, p x = true) : IsPiece p (before ++ xs) piece := by
  obtain ⟨hsolid, first, after, rfl, hfirst, hafter⟩ := h
  refine ⟨hsolid, before ++ first, after, (List.append_assoc _ _ _).symm, ?_, hafter⟩
  intro x hx
  rw [List.getLast?_append, Option.mem_def, Option.or_eq_some_iff] at hx
  rcases hx with hx | ⟨-, hx⟩
  · exact hfirst x hx
  · exact hbefore x hx

theorem IsPiece.append_right (h : IsPiece p xs piece) {after : List α}
    (hafter : ∀ x ∈ after.head?, p x = true) : IsPiece p (xs ++ after) piece := by
  obtain ⟨hsolid, before, rest, rfl, hbefore, hrest⟩ := h
  refine ⟨hsolid, before, rest ++ after, by simp only [List.append_assoc], hbefore, ?_⟩
  intro x hx
  rw [List.head?_append, Option.mem_def, Option.or_eq_some_iff] at hx
  rcases hx with hx | ⟨-, hx⟩
  · exact hrest x hx
  · exact hafter x hx

/-- The first piece reaches up to the first separator, and every other one from a separator to the
next. -/
theorem splitOnP_eq_takeWhile_cons (xs : List α) :
    ∃ rest, xs.splitOnP p = xs.takeWhile (fun x => !p x) :: rest ∧
      ∀ piece ∈ rest, ∃ before sep more, xs = before ++ sep :: more ∧ p sep = true ∧
        piece = more.takeWhile fun x => !p x := by
  induction xs with
  | nil => exact ⟨[], List.splitOnP_nil, by simp⟩
  | cons x xs ih =>
    obtain ⟨rest, hsplit, hrest⟩ := ih
    have hlater : ∀ piece ∈ rest, ∃ before sep more,
        x :: xs = before ++ sep :: more ∧ p sep = true ∧
        piece = more.takeWhile fun x => !p x := by
      intro piece hpiece
      obtain ⟨before, sep, more, rfl, hsep, rfl⟩ := hrest piece hpiece
      exact ⟨x :: before, sep, more, rfl, hsep, rfl⟩
    rw [List.splitOnP_cons_eq_if_modifyHead, hsplit, List.takeWhile_cons]
    by_cases hx : p x = true
    · refine ⟨xs.takeWhile (fun x => !p x) :: rest, by simp [hx], ?_⟩
      intro piece hpiece
      rcases List.mem_cons.mp hpiece with rfl | hpiece
      · exact ⟨[], x, xs, rfl, hx, rfl⟩
      · exact hlater piece hpiece
    · exact ⟨rest, by simp [hx], hlater⟩

theorem isPiece_of_mem_splitOnP (h : piece ∈ xs.splitOnP p) : IsPiece p xs piece := by
  obtain ⟨rest, hsplit, hrest⟩ := splitOnP_eq_takeWhile_cons (p := p) xs
  rw [hsplit] at h
  rcases List.mem_cons.mp h with rfl | h
  · exact isPiece_takeWhile xs
  · obtain ⟨before, sep, more, rfl, hsep, rfl⟩ := hrest piece h
    rw [List.append_cons]
    refine (isPiece_takeWhile more).append_left ?_
    simpa using hsep

theorem exists_mem_splitOnP {x : α} (hx : x ∈ xs) (hp : p x = false) :
    ∃ piece ∈ xs.splitOnP p, x ∈ piece := by
  induction xs with
  | nil => cases hx
  | cons y ys ih =>
    obtain ⟨first, rest, hcut⟩ := List.exists_cons_of_ne_nil (List.splitOnP_ne_nil p ys)
    rw [List.splitOnP_cons_eq_if_modifyHead, hcut, List.modifyHead_cons]
    rw [hcut] at ih
    rcases List.mem_cons.mp hx with rfl | hx
    · rw [hp, if_neg (by simp)]
      exact ⟨_, List.mem_cons_self, List.mem_cons_self⟩
    · obtain ⟨piece, hpiece, hmem⟩ := ih hx
      split
      · exact ⟨piece, List.mem_cons_of_mem _ hpiece, hmem⟩
      · rcases List.mem_cons.mp hpiece with rfl | hpiece
        · exact ⟨_, List.mem_cons_self, List.mem_cons_of_mem _ hmem⟩
        · exact ⟨piece, List.mem_cons_of_mem _ hpiece, hmem⟩

end Pieces

/-! ## Comments -/

/-- Whether a line is no metadata and a hash is the first character of it that is not blank. -/
def Line.isHashed (d : Dialect) (l : Line) : Bool :=
  !l.isMetadata d && decide ((trimStart l.text).head? = some '#')

theorem Line.isComment_eq_isHashed (d : Dialect) (l : Line) : l.isComment d = l.isHashed d := by
  cases hk : l.kind d with
  | metadata tag =>
    rw [Line.isHashed, Line.isMetadata_iff.mpr ⟨tag, hk⟩, Line.isComment, hk]
    rfl
  | definition | comment | blank =>
    rw [Line.isHashed, (Line.not_isMetadata_of_kind (by simp [hk])).1, Line.isComment, hk]
    rfl

/-- Lines of a comment that follow each other, while the lines right before and after them belong to
none. -/
def IsCommentRun (d : Dialect) (lines run : List Line) : Prop :=
  run ≠ [] ∧ IsPiece (fun l => !l.isHashed d) lines run

section Comments

variable {d : Dialect} {lines run : List Line} {n : Nat} {l : Line} {r : Range}

theorem ne_nil_of_hull (h : hull run = some r) : run ≠ [] := by
  rintro rfl
  cases h

/-- Right before a definition line, and at the end of the document, a comment cannot be
continued. -/
theorem isPiece_of_mem_commentRuns (hnext : ∀ l ∈ lines[n]?, l.isDefinition d = true)
    (hrun : run ∈ commentRuns d lines n) : IsPiece (fun l => !l.isHashed d) lines run := by
  have hpiece := isPiece_of_mem_splitOnP hrun
  simp only [Line.isComment_eq_isHashed] at hpiece
  have hsolid : ∀ l : Line, l.isDefinition d = true → (!l.isHashed d) = true := by
    intro l hl
    rw [← Line.isComment_eq_isHashed, Line.isComment_of_isDefinition hl]
    rfl
  have hcut : lines = (lines.take n).rdropWhile (fun l => !l.isDefinition d) ++
      (sinceDefinition d lines n ++ lines.drop n) := by
    rw [← List.append_assoc, sinceDefinition, List.rdropWhile_append_rtakeWhile,
      List.take_append_drop]
  rw [hcut]
  refine (hpiece.append_right ?_).append_left ?_
  · intro l hl
    rw [List.head?_drop] at hl
    exact hsolid l (hnext l hl)
  · intro l hl
    refine hsolid l ?_
    simpa using not_of_mem_getLast?_rdropWhile hl

/-- The lines since the last definition are those between its line and line `n`. -/
theorem mem_sinceDefinition (hnum : IsNumbered lines) (hn : n ≤ lines.length) :
    l ∈ sinceDefinition d lines n ↔ l ∈ lines ∧ itemStart d lines n ≤ l.number ∧ l.number < n := by
  constructor
  · intro hl
    exact ⟨mem_of_mem_sinceDefinition hl, itemStart_le_of_mem_sinceDefinition hnum hn hl⟩
  · rintro ⟨hl, hstart, hlt⟩
    induction n with
    | zero => omega
    | succ n ih =>
      have h : lines[n]? = some lines[n] := List.getElem?_eq_getElem (by omega)
      have hnl := hnum n _ h
      rw [itemStart_succ h] at hstart
      rw [sinceDefinition_succ h]
      split at hstart
      · omega
      · next hd =>
        rw [if_neg hd, List.mem_append, List.mem_singleton]
        by_cases hend : l.number = n
        · right
          have hget := hnum.getElem? hl
          rw [hend, h] at hget
          exact (Option.some.inj hget).symm
        · exact .inl (ih (by omega) hstart (by omega))

/-- A run of lines reaches from its first line to its last one. -/
theorem exists_of_hull (h : hull run = some r) :
    ∃ first last, run.head? = some first ∧ run.getLast? = some last ∧
      r = ⟨first.range.start, last.range.stop⟩ := by
  simp only [hull] at h
  split at h
  · next first last hfirst hlast =>
    cases h
    exact ⟨first, last, hfirst, hlast, rfl⟩
  · cases h

theorem exists_hull (h : run ≠ []) : ∃ r, hull run = some r := by
  cases run with
  | nil => exact absurd rfl h
  | cons first rest => exact ⟨_, by rw [hull, List.head?_cons, List.getLast?_cons]⟩

/-- Comments are in the order of their lines. -/
theorem pairwise_comments (hnum : IsNumbered lines) :
    ((commentRuns d lines n).filterMap hull).Pairwise (fun a b => a.stop.line < b.start.line) := by
  have hruns : (commentRuns d lines n).Pairwise
      (fun a b => ∀ x ∈ a, ∀ y ∈ b, x.number < y.number) :=
    pairwise_splitOnP (pairwise_sinceDefinition hnum n)
  refine List.Pairwise.filterMap _ ?_ hruns
  intro run run' hlt r hr r' hr'
  obtain ⟨-, last, -, hlast, rfl⟩ := exists_of_hull hr
  obtain ⟨first, -, hfirst, -, rfl⟩ := exists_of_hull hr'
  exact hlt last (List.mem_of_getLast? hlast) first (List.mem_of_head? hfirst)

/-- A comment reaches over lines since the last definition. -/
theorem lines_of_mem_comments (hnum : IsNumbered lines)
    (hr : r ∈ (commentRuns d lines n).filterMap hull) :
    ∃ first ∈ sinceDefinition d lines n, ∃ last ∈ sinceDefinition d lines n,
      first.isHashed d = true ∧ first.number ≤ last.number ∧
        r = ⟨first.range.start, last.range.stop⟩ := by
  obtain ⟨run, hrun, hhull⟩ := List.mem_filterMap.mp hr
  have hsub : run.Sublist (sinceDefinition d lines n) := sublist_of_mem_splitOnP hrun
  have hsorted := (pairwise_sinceDefinition hnum n).sublist hsub
  obtain ⟨first, last, hfirst, hlast, rfl⟩ := exists_of_hull hhull
  have hmem := List.mem_of_head? hfirst
  have hhashed := (isPiece_of_mem_splitOnP hrun).solid first hmem
  rw [Line.isComment_eq_isHashed] at hhashed
  exact ⟨first, hsub.subset hmem, last, hsub.subset (List.mem_of_getLast? hlast),
    by simpa using hhashed, number_le_of_head? hsorted hfirst (List.mem_of_getLast? hlast), rfl⟩

/-- A comment line since the last definition lies in a comment. -/
theorem exists_comment_of_isHashed (hnum : IsNumbered lines) (hl : l ∈ sinceDefinition d lines n)
    (hhashed : l.isHashed d = true) :
    ∃ r ∈ (commentRuns d lines n).filterMap hull, r.contains l.range.start = true := by
  have hp : (!l.isComment d) = false := by
    rw [Line.isComment_eq_isHashed, hhashed]
    rfl
  obtain ⟨run, hrun, hmem⟩ := exists_mem_splitOnP (p := fun l => !l.isComment d) hl hp
  have hsorted := (pairwise_sinceDefinition hnum n).sublist (sublist_of_mem_splitOnP hrun)
  obtain ⟨r, hr⟩ := exists_hull (List.ne_nil_of_mem hmem)
  refine ⟨r, List.mem_filterMap.mpr ⟨run, hrun, hr⟩, ?_⟩
  obtain ⟨first, last, hfirst, hlast, rfl⟩ := exists_of_hull hr
  have hbefore := number_le_of_head? hsorted hfirst hmem
  have hafter := number_le_of_getLast? hsorted hlast hmem
  simp only [Range.contains_iff, Position.le_iff, Line.range, Range.onLine]
  omega

end Comments

/-! ## Where the parts of an item come from -/

/-- An item has what has been gathered before line `n`, which is its definition line or the end of
the document. It reaches over all of that but for the comments, which may stand above a dangling
item. -/
structure Item.GatheredAt (d : Dialect) (lines : List Line) (n : Nat) (i : Item) : Prop where
  le_length : n ≤ lines.length
  next : ∀ l ∈ lines[n]?, l.isDefinition d = true
  env : i.env = lastTagged d .env (sinceReset d lines n)
  name : i.name = lastTagged d .name (sinceReset d lines n)
  desc : i.desc = lastTagged d .desc (sinceReset d lines n)
  comments : i.comments = (commentRuns d lines n).filterMap hull
  start : ∀ l ∈ sinceReset d lines n, l.isMetadata d = true → i.range.start ≤ l.range.start
  stop : ∀ l ∈ lines, l.number < n → l.range.stop ≤ i.range.stop
  defined : i.body ≠ .dangling → i.range.start = ⟨itemStart d lines n, 0⟩ ∧ i.range.stop.line = n ∧
    i.deployments = deploymentsOf d lines (runsBefore d lines n)
  dangling : i.body = .dangling → n = lines.length ∧ i.deployments = [] ∧
    itemStart d lines n ≤ i.range.start.line

theorem gatheredAt_itemAt (reader : DefinitionReader) {d : Dialect} {lines : List Line}
    (hnum : IsNumbered lines) {l : Line} (hl : l ∈ definitionLines d lines) :
    (itemAt reader d lines l).GatheredAt d lines l.number := by
  obtain ⟨hline, hdef⟩ := mem_definitionLines.mp hl
  have hget := hnum.getElem? hline
  have hlen := Nat.le_of_lt (List.getElem?_eq_some_iff.mp hget).1
  refine ⟨hlen, ?_, rfl, rfl, rfl, rfl, ?_, ?_, fun _ => ⟨rfl, rfl, rfl⟩, ?_⟩
  · intro x hx
    rw [hget] at hx
    cases hx
    exact hdef
  · intro x hx _
    have hstart := itemStart_le_of_mem_sinceReset hnum hlen hx
    simp only [itemAt, Position.le_iff, Line.range, Range.onLine]
    omega
  · intro x _ hlt
    simp only [itemAt, Position.le_iff, Line.range, Range.onLine]
    omega
  · intro hbody
    exact absurd hbody (Body.ofLine_ne_dangling reader d _ _ _)

theorem danglingItem?_comments {d : Dialect} {lines : List Line} {stop : Position} {i : Item}
    (h : danglingItem? d lines stop = some i) :
    i.comments = (commentRuns d lines lines.length).filterMap hull := by
  simp only [danglingItem?] at h
  split at h
  · cases h
    rfl
  · cases h

theorem gatheredAt_danglingItem? {d : Dialect} {lines : List Line} {stop : Position} {i : Item}
    (hnum : IsNumbered lines) (hstop : ∀ l ∈ lines, l.range.stop ≤ stop)
    (h : danglingItem? d lines stop = some i) : i.GatheredAt d lines lines.length := by
  obtain ⟨hbody, -, hdeployments, henv, hname, hdesc⟩ := danglingItem?_holds h
  obtain ⟨first, hfirst, hrange⟩ := danglingItem?_start h
  have hstart := itemStart_le_of_mem_sinceReset hnum (le_refl _) (List.mem_of_find?_eq_some hfirst)
  refine ⟨le_refl _, ?_, henv, hname, hdesc, danglingItem?_comments h, ?_, ?_, ?_,
    fun _ => ⟨rfl, hdeployments, ?_⟩⟩
  · intro l hl
    rw [List.getElem?_eq_none (le_refl _)] at hl
    cases hl
  · intro l hl hmeta
    have hsorted : (sinceReset d lines lines.length).Pairwise (fun a b => a.number < b.number) :=
      hnum.pairwise.take.sublist (List.rtakeWhile_suffix _ _).sublist
    have hle := firstMetadata_le hsorted hfirst hl hmeta
    simp only [hrange, Position.le_iff, Line.range, Range.onLine]
    omega
  · intro l hl _
    rw [hrange]
    exact hstop l hl
  · intro hnot
    exact absurd hbody hnot
  · rw [hrange]
    exact hstart.1

theorem exists_gatheredAt {reader : DefinitionReader} {d : Dialect} {document : Document} {i : Item}
    (hi : i ∈ segment reader d document) : ∃ n, i.GatheredAt d document.numberedLines n := by
  have hnum := isNumbered_numberedLines document
  rcases mem_segment.mp hi with ⟨l, hl, rfl⟩ | hd
  · exact ⟨_, gatheredAt_itemAt reader hnum hl⟩
  · exact ⟨_, gatheredAt_danglingItem? hnum (fun _ => lineStop_le_stop) hd⟩

/-! ## What lies in an item -/

/-- A range lies in another one: both of its ends do. -/
def Range.Inside (r outer : Range) : Prop :=
  outer.contains r.start = true ∧ outer.contains r.stop = true

instance (r outer : Range) : Decidable (r.Inside outer) :=
  inferInstanceAs (Decidable (_ ∧ _))

/-- Lines lie in a range that starts no later than the first one and ends no earlier than the last
one. -/
theorem inside_of_lines {first last : Line} {outer : Range}
    (hstart : outer.start ≤ first.range.start) (hle : first.number ≤ last.number)
    (hstop : last.range.stop ≤ outer.stop) :
    Range.Inside ⟨first.range.start, last.range.stop⟩ outer := by
  simp only [Range.Inside, Range.contains_iff, Position.le_iff, Line.range, Range.onLine] at *
  omega

/-- The environment, the name and the description of an item. -/
def Item.holders (i : Item) : List Metadata :=
  i.env.toList ++ i.name.toList ++ i.desc.toList

namespace Item.GatheredAt

variable {d : Dialect} {lines : List Line} {n : Nat} {i : Item}

theorem exists_of_mem_holders (h : i.GatheredAt d lines n) {m : Metadata} (hm : m ∈ i.holders) :
    ∃ l ∈ sinceReset d lines n, ∃ tag, l.hasTag d tag = true ∧ m = l.metadata tag := by
  have hlast : ∃ tag, lastTagged d tag (sinceReset d lines n) = some m := by
    simp only [Item.holders, h.env, h.name, h.desc, List.mem_append, Option.mem_toList] at hm
    rcases hm with (hm | hm) | hm
    · exact ⟨_, hm⟩
    · exact ⟨_, hm⟩
    · exact ⟨_, hm⟩
  obtain ⟨tag, hlast⟩ := hlast
  obtain ⟨l, hl, htag, hm⟩ := mem_of_lastTagged hlast
  exact ⟨l, hl, tag, htag, hm⟩

theorem inside_of_mem_holders (hnum : IsNumbered lines) (h : i.GatheredAt d lines n) {m : Metadata}
    (hm : m ∈ i.holders) : m.range.Inside i.range := by
  obtain ⟨l, hl, tag, htag, rfl⟩ := h.exists_of_mem_holders hm
  obtain ⟨hline, hlt⟩ := hnum.mem_take.mp ((List.rtakeWhile_suffix _ _).subset hl)
  exact inside_of_lines (h.start l hl (Line.isMetadata_of_hasTag htag)) (le_refl _)
    (h.stop l hline hlt)

theorem inside_of_mem_deployments (hnum : IsNumbered lines) (h : i.GatheredAt d lines n)
    {b : Deployment} (hb : b ∈ i.deployments) : b.range.Inside i.range := by
  have hbody : i.body ≠ .dangling := by
    intro hbody
    rw [(h.dangling hbody).2.1] at hb
    cases hb
  obtain ⟨hstart, -, hdeployments⟩ := h.defined hbody
  rw [hdeployments] at hb
  obtain ⟨run, hrun, hb⟩ := List.mem_filterMap.mp hb
  have hsub : run.Sublist (sinceDefinition d lines n) := sublist_of_mem_splitOnP hrun
  obtain ⟨-, hof, -⟩ := isOf_of_deploymentOf hb
  obtain ⟨first, hfirst, -, hrangeStart⟩ := hof.first
  obtain ⟨last, hlast, hrangeStop⟩ := hof.last
  have hsorted := (pairwise_sinceDefinition hnum n).sublist hsub
  have hfirstLine :=
    (mem_sinceDefinition hnum h.le_length).mp (hsub.subset (List.mem_of_find?_eq_some hfirst))
  have hlastLine := (mem_sinceDefinition hnum h.le_length).mp
    (hsub.subset (List.mem_of_mem_filter (List.mem_of_getLast? hlast)))
  rw [show b.range = ⟨first.range.start, last.range.stop⟩ from by rw [← hrangeStart, ← hrangeStop]]
  refine inside_of_lines ?_ (firstMetadata_le_lastMetadata hsorted hfirst hlast)
    (h.stop last hlastLine.1 hlastLine.2.2)
  rw [hstart, Position.le_iff]
  simp only [Line.range, Range.onLine]
  omega

theorem pairwise_comments (hnum : IsNumbered lines) (h : i.GatheredAt d lines n) :
    i.comments.Pairwise (fun a b => a.stop.line < b.start.line) := by
  rw [h.comments]
  exact Flowline.pairwise_comments hnum

theorem isCommentRun_of_mem_comments (h : i.GatheredAt d lines n) {r : Range}
    (hr : r ∈ i.comments) :
    ∃ run, IsCommentRun d lines run ∧ hull run = some r := by
  rw [h.comments] at hr
  obtain ⟨run, hrun, hhull⟩ := List.mem_filterMap.mp hr
  exact ⟨run, ⟨ne_nil_of_hull hhull, isPiece_of_mem_commentRuns h.next hrun⟩, hhull⟩

theorem itemStart_le (h : i.GatheredAt d lines n) : itemStart d lines n ≤ i.range.start.line := by
  by_cases hbody : i.body = .dangling
  · exact (h.dangling hbody).2.2
  · rw [(h.defined hbody).1]

/-- A comment line in the range of an item comes before line `n`. -/
theorem number_lt_of_isHashed (hnum : IsNumbered lines) (h : i.GatheredAt d lines n) {l : Line}
    (hl : l ∈ lines) (hhashed : l.isHashed d = true) (hin : i.range.contains l.range.start = true) :
    l.number < n := by
  have hget := hnum.getElem? hl
  by_cases hbody : i.body = .dangling
  · rw [(h.dangling hbody).1]
    exact (List.getElem?_eq_some_iff.mp hget).1
  · -- it is not the definition line
    have hne : l.number ≠ n := by
      intro hend
      rw [hend] at hget
      rw [← Line.isComment_eq_isHashed, Line.isComment_of_isDefinition (h.next l hget)] at hhashed
      cases hhashed
    have hle := (Range.contains_iff.mp hin).2
    rw [Position.le_iff, (h.defined hbody).2.1] at hle
    simp only [Line.range, Range.onLine] at hle
    omega

/-- A comment line in the range of an item lies in one of its comments. -/
theorem exists_comment (hnum : IsNumbered lines) (h : i.GatheredAt d lines n) {l : Line}
    (hl : l ∈ lines) (hhashed : l.isHashed d = true) (hin : i.range.contains l.range.start = true) :
    ∃ r ∈ i.comments, r.contains l.range.start = true := by
  have hstart := h.itemStart_le
  have hle := (Range.contains_iff.mp hin).1
  rw [Position.le_iff] at hle
  simp only [Line.range, Range.onLine] at hle
  rw [h.comments]
  refine exists_comment_of_isHashed hnum ?_ hhashed
  exact (mem_sinceDefinition hnum h.le_length).mpr
    ⟨hl, by omega, h.number_lt_of_isHashed hnum hl hhashed hin⟩

/-- The comments of an item lie in it just if none of their lines stands above it. -/
theorem comments_inside_iff (hnum : IsNumbered lines) (h : i.GatheredAt d lines n) :
    (∀ r ∈ i.comments, r.Inside i.range) ↔
      ∀ l ∈ sinceDefinition d lines n, l.isHashed d = true → i.range.start ≤ l.range.start := by
  rw [h.comments]
  constructor
  · intro hinside l hl hhashed
    obtain ⟨r, hr, hcontains⟩ := exists_comment_of_isHashed hnum hl hhashed
    have hstart := (Range.contains_iff.mp (hinside r hr).1).1
    have hle := (Range.contains_iff.mp hcontains).1
    simp only [Position.le_iff] at *
    omega
  · intro hbelow r hr
    obtain ⟨first, hfirst, last, hlast, hhashed, hle, rfl⟩ := lines_of_mem_comments hnum hr
    have hlastLine := (mem_sinceDefinition hnum h.le_length).mp hlast
    exact inside_of_lines (hbelow first hfirst hhashed) hle (h.stop last hlastLine.1 hlastLine.2.2)

/-- Nothing that has been gathered stands above an item with a definition line. -/
theorem start_le_of_not_dangling (hnum : IsNumbered lines) (h : i.GatheredAt d lines n)
    (hbody : i.body ≠ .dangling) {l : Line} (hl : l ∈ sinceDefinition d lines n) :
    i.range.start ≤ l.range.start := by
  have hline := (mem_sinceDefinition hnum h.le_length).mp hl
  rw [(h.defined hbody).1, Position.le_iff]
  simp only [Line.range, Range.onLine]
  omega

end Item.GatheredAt

/-- **The parts of an item in its range.** The environment, the name, the description and the
deployments of an item lie in its range. Its comments increase and are apart; each of them is a
longest row of comment lines, and each comment line in the range of the item lies in one of them.
The comments lie in the range too, unless the item is dangling and a comment line stands between the
last definition line and the first line of the item. -/
theorem parts_inside_item (reader : DefinitionReader) (d : Dialect) (document : Document) {i : Item}
    (hi : i ∈ segment reader d document) :
    let lines := document.numberedLines
    (∀ m ∈ i.holders, m.range.Inside i.range) ∧
    (∀ b ∈ i.deployments, b.range.Inside i.range) ∧
    i.comments.Pairwise (fun a b => a.stop.line < b.start.line) ∧
    (∀ r ∈ i.comments, ∃ run, IsCommentRun d lines run ∧ hull run = some r) ∧
    (∀ l ∈ lines, l.isHashed d = true → i.range.contains l.range.start = true →
      ∃ r ∈ i.comments, r.contains l.range.start = true) ∧
    ((∀ r ∈ i.comments, r.Inside i.range) ↔
      (i.body = .dangling → ∀ l ∈ sinceDefinition d lines lines.length, l.isHashed d = true →
        i.range.start ≤ l.range.start)) := by
  intro lines
  have hnum : IsNumbered lines := isNumbered_numberedLines document
  obtain ⟨n, h⟩ := exists_gatheredAt hi
  refine ⟨fun m => h.inside_of_mem_holders hnum, fun b => h.inside_of_mem_deployments hnum,
    h.pairwise_comments hnum, fun r => h.isCommentRun_of_mem_comments,
    fun l => h.exists_comment hnum, ?_⟩
  rw [h.comments_inside_iff hnum]
  by_cases hbody : i.body = .dangling
  · rw [(h.dangling hbody).1]
    exact ⟨fun hbelow _ => hbelow, fun hbelow => hbelow hbody⟩
  · exact ⟨fun _ hdangling => absurd hdangling hbody,
      fun _ l hl _ => h.start_le_of_not_dangling hnum hbody hl⟩

/-- A task below comments of two lines and of one line, and a description with a comment below
it. -/
def commentedTask : Document where
  uri := "file:///tasks.scdft"
  version := 1
  text := "# a\n  # b\n-- @env e\n-- @arg x\n#\n\n-- @env f\nload\n-- @desc d\n# c\n\t#"

/-- Both items hold their comments; that of the dangling item starts below its first line. -/
theorem commentedTask_parts_inside :
    let items := segment .standard .task commentedTask
    items.map (·.comments.length) = [2, 1] ∧
      ∀ i ∈ items, ∀ r ∈ i.comments, r.Inside i.range := by
  have hbelow : ∀ i ∈ segment .standard .task commentedTask, i.body = .dangling →
      ∀ l ∈ sinceDefinition .task commentedTask.numberedLines commentedTask.numberedLines.length,
        l.isHashed .task = true → i.range.start ≤ l.range.start := by decide
  refine ⟨by decide, fun i hi => ?_⟩
  exact (parts_inside_item .standard .task commentedTask hi).2.2.2.2.2.mpr (hbelow i hi)

/-- A comment above a name that no definition follows. -/
def notedName : Document where
  uri := "file:///streams.scdfs"
  version := 1
  text := "# note\n-- @name x"

/-- The comment belongs to the dangling item, but lies above it. -/
theorem notedName_comment_not_inside :
    ¬ ∀ i ∈ segment .standard .stream notedName, ∀ r ∈ i.comments, r.Inside i.range := by
  decide

end Flowline
