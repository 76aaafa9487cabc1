import Flowline.Proofs.Nesting
import Flowline.Proofs.Ownership
import Flowline.Proofs.Renaming

/-!
# The innermost symbol at a position

The symbol at a position is the first one there, where all symbols stand in a row with the parts
before the whole. This makes it the innermost one: the parts of a symbol lie in it, and symbols that
are not parts of each other overlap in no more than one position, where one ends and the other
starts. What can be renamed at a position, and the edits of renaming it, go by the same symbol.

* `Range.Covers`, `Range.Clear`: ranges in each other, ranges that do not overlap;
* `Symbol.IsNested`, `pairwise_postorderList`: a row of nested symbols, the parts before the whole;
* `Item.parts`, `isNested_of_mem_parts`: the symbols right below definitions are nested;
* `symbolAt_innermost`: the symbol at a position is the innermost one.
-/

namespace Flowline

/-! ## Ranges -/

namespace Range

/-- A range starts no later than another one and ends no earlier. -/
structure Covers (outer r : Range) : Prop where
  start_le : outer.start ≤ r.start
  stop_le : r.stop ≤ outer.stop

/-- One of two ranges ends before the other one starts, or right there. -/
def Clear (r s : Range) : Prop :=
  r.stop ≤ s.start ∨ s.stop ≤ r.start

variable {r s r' s' : Range} {p x : Position}

theorem Covers.refl (r : Range) : r.Covers r :=
  ⟨r.start.le_refl, r.stop.le_refl⟩

theorem Covers.trans (h : r.Covers s) (h' : s.Covers s') : r.Covers s' :=
  ⟨Position.le_trans h.start_le h'.start_le, Position.le_trans h'.stop_le h.stop_le⟩

theorem Covers.inside (h : r.Covers s) (hp : s.contains p = true) : s.Inside r := by
  rw [contains_iff] at hp
  have hle := Position.le_trans hp.1 hp.2
  rw [Range.Inside, contains_iff, contains_iff]
  exact ⟨⟨h.start_le, Position.le_trans hle h.stop_le⟩, Position.le_trans h.start_le hle, h.stop_le⟩

theorem Clear.of_covers (h : r.Clear s) (hr : r.Covers r') (hs : s.Covers s') : r'.Clear s' := by
  rcases h with h | h
  · exact .inl (Position.le_trans hr.stop_le (Position.le_trans h hs.start_le))
  · exact .inr (Position.le_trans hs.stop_le (Position.le_trans h hr.start_le))

/-- Ranges that do not overlap have one position in common at most. -/
theorem Clear.eq_of_contains (h : r.Clear s) (hr : r.contains p = true) (hs : s.contains p = true)
    (hrx : r.contains x = true) (hsx : s.contains x = true) : x = p := by
  rw [contains_iff] at hr hs hrx hsx
  rcases h with h | h
  · apply Position.le_antisymm
    · exact Position.le_trans hrx.2 (Position.le_trans h hs.1)
    · exact Position.le_trans hr.2 (Position.le_trans h hsx.1)
  · apply Position.le_antisymm
    · exact Position.le_trans hsx.2 (Position.le_trans h hr.1)
    · exact Position.le_trans hs.2 (Position.le_trans h hrx.1)

end Range

/-! ## Nested symbols -/

namespace Symbol

/-- The parts of a symbol lie in its range and do not overlap, and the same holds of the parts of
each part. -/
inductive IsNested : Symbol → Prop where
  | intro {s : Symbol} (covers : ∀ part ∈ s.children, s.range.Covers part.range)
      (clear : s.children.Pairwise fun part later => part.range.Clear later.range)
      (parts : ∀ part ∈ s.children, IsNested part) : IsNested s

theorem isNested_of_leaf {s : Symbol} (h : s.children = []) : s.IsNested := by
  refine .intro ?_ ?_ ?_
  · simp [h]
  · simp [h]
  · simp [h]

/-- Of two symbols in a row, the first one lies in the second one or does not overlap with it. -/
def Laid (s t : Symbol) : Prop :=
  s.range.Clear t.range ∨ t.range.Covers s.range

theorem sublist_postorderList (symbols : List Symbol) :
    symbols.Sublist (postorderList symbols) := by
  induction symbols with
  | nil => exact .refl _
  | cons s rest ih =>
    rw [postorderList, postorder_eq]
    exact (List.sublist_append_right _ [s]).append ih

/-- Symbols that do not overlap, each with all its parts before it. -/
theorem pairwise_postorderList {symbols : List Symbol}
    (hclear : symbols.Pairwise fun s t => s.range.Clear t.range)
    (hcovers : ∀ s ∈ symbols, ∀ part ∈ s.postorder, s.range.Covers part.range)
    (hlaid : ∀ s ∈ symbols, s.postorder.Pairwise Laid) : (postorderList symbols).Pairwise Laid := by
  rw [postorderList_eq_flatMap]
  refine List.pairwise_flatMap.mpr ⟨hlaid, hclear.imp_of_mem ?_⟩
  intro s t hs ht hst part hpart part' hpart'
  exact .inl (hst.of_covers (hcovers s hs part hpart) (hcovers t ht part' hpart'))

theorem IsNested.covers {s : Symbol} (h : s.IsNested) :
    ∀ part ∈ s.postorder, s.range.Covers part.range := by
  induction h with
  | @intro s hcovers hclear hparts ih =>
    intro part hpart
    rw [postorder_eq, postorderList_eq_flatMap] at hpart
    rcases List.mem_append.mp hpart with hpart | hpart
    · obtain ⟨child, hchild, hpart⟩ := List.mem_flatMap.mp hpart
      exact (hcovers child hchild).trans (ih child hchild part hpart)
    · rw [List.mem_singleton.mp hpart]
      exact .refl _

theorem IsNested.pairwise {s : Symbol} (h : s.IsNested) : s.postorder.Pairwise Laid := by
  induction h with
  | @intro s hcovers hclear hparts ih =>
    have hwhole := (IsNested.intro hcovers hclear hparts).covers
    rw [postorder_eq] at hwhole ⊢
    refine List.pairwise_append.mpr ⟨?_, List.pairwise_singleton _ _, ?_⟩
    · exact pairwise_postorderList hclear (fun part hpart => (hparts part hpart).covers) ih
    · intro part hpart t ht
      rw [List.mem_singleton.mp ht]
      exact .inr (hwhole part (List.mem_append_left _ hpart))

/-- The first of some symbols in a row that has a position lies in every other one that has it,
unless the two have nothing else in common. -/
theorem inside_of_find? {symbols : List Symbol} (h : symbols.Pairwise Laid) {p : Position}
    {s o : Symbol} (hs : symbols.find? (·.range.contains p) = some s) (ho : o ∈ symbols)
    (hp : o.range.contains p = true) :
    s.range.Inside o.range ∨
      ∀ x, s.range.contains x = true → o.range.contains x = true → x = p := by
  obtain ⟨hsp, before, after, rfl, hbefore⟩ := List.find?_eq_some_iff_append.mp hs
  rcases List.mem_append.mp ho with ho | ho
  · -- no symbol before the first one has the position
    have hnot := hbefore o ho
    rw [hp] at hnot
    cases hnot
  · rcases List.mem_cons.mp ho with rfl | ho
    · exact .inl ((Range.Covers.refl _).inside hp)
    · rcases (List.pairwise_cons.mp (List.pairwise_append.mp h).2.1).1 o ho with hclear | hcovers
      · exact .inr fun x hx hx' => hclear.eq_of_contains hsp hp hx hx'
      · exact .inl (hcovers.inside hsp)

end Symbol

/-! ## The symbols right below definitions -/

/-- The symbols of an item that are no part of another one, the body of the definition left aside:
the name of the metadata, the name on the definition line, the apps and the references. -/
def Item.parts (i : Item) : List Symbol :=
  match i.parsed, i.line with
  | some p, some n =>
    (i.name.bind Symbol.ofMetadataName).toList ++
      (Symbol.ofDeclaredName p ++ Symbol.ofDefinition n p.definition)
  | _, _ => []

theorem Symbol.leaf_of_ofMetadataName {m : Option Metadata} {s : Symbol}
    (h : m.bind ofMetadataName = some s) : s.role = .metadataName ∧ s.children = [] := by
  obtain ⟨m, -, hm⟩ := Option.bind_eq_some_iff.mp h
  obtain ⟨value, range, -, -, rfl⟩ := ofMetadataName_eq hm
  exact ⟨rfl, rfl⟩

theorem Symbol.leaf_of_mem_ofDeclaredName {p : Parsed} {s : Symbol} (h : s ∈ ofDeclaredName p) :
    s.role = .declaredName ∧ s.children = [] := by
  obtain ⟨name, range, -, -, rfl⟩ := mem_ofDeclaredName h
  exact ⟨rfl, rfl⟩

theorem Item.names_eq_postorderList (i : Item) : i.names = Symbol.postorderList i.parts := by
  cases hp : i.parsed with
  | none =>
    rw [Item.names_of_not_parsed hp, Item.parts, hp]
    rfl
  | some p =>
    cases hn : i.line with
    | none => simp [Item.names, SymbolTable.scopeOf, Item.parts, hp, hn, Symbol.postorderList]
    | some n =>
      have hmetadata : ∀ s ∈ (i.name.bind Symbol.ofMetadataName).toList, s.children = [] :=
        fun s hs => (Symbol.leaf_of_ofMetadataName (Option.mem_toList.mp hs)).2
      have hdeclared : ∀ s ∈ Symbol.ofDeclaredName p, s.children = [] :=
        fun s hs => (Symbol.leaf_of_mem_ofDeclaredName hs).2
      rw [Item.names_of_parsed hp hn, Item.parts, hp, hn]
      simp only [Symbol.postorderList_append, Symbol.postorderList_of_leaves hmetadata,
        Symbol.postorderList_of_leaves hdeclared, Definition.postorderList_ofDefinition,
        Parsed.names]

theorem names_eq_postorderList (items : List Item) :
    (SymbolTable.ofItems items).all.filter SymbolTable.isName =
      Symbol.postorderList (items.flatMap Item.parts) := by
  rw [names_ofItems, Symbol.postorderList_eq_flatMap, List.flatMap_assoc]
  exact List.flatMap_congr fun i _ =>
    i.names_eq_postorderList.trans (Symbol.postorderList_eq_flatMap i.parts)

theorem Body.nested_of_ofNamedTask {n : Nat} {text : List Char} {name : String}
    {nameRange : Option Range} {start : Nat} {p : Parsed}
    (h : Body.ofNamedTask .standard n text name nameRange start = .parsed p) :
    ∀ a ∈ p.definition.apps, a.Nested := by
  simp only [Body.ofNamedTask, DefinitionReader.standard] at h
  split at h
  · cases h
  · next t ht =>
    cases h
    exact fun a ha => (TaskDefinition.app_of_parse ht a ha).1

/-- The apps of a definition line are nested. -/
theorem Body.nested_of_ofLine {d : Dialect} {n : Nat} {text : List Char} {name : Option Metadata}
    {p : Parsed} (h : Body.ofLine .standard d n text name = .parsed p) :
    ∀ a ∈ p.definition.apps, a.Nested := by
  cases d with
  | stream =>
    simp only [Body.ofLine, Body.ofStreamLine, DefinitionReader.standard] at h
    split at h
    · cases h
    · next s hs =>
      cases h
      exact fun a ha => (StreamDefinition.app_of_parse hs a ha).1
  | task =>
    simp only [Body.ofLine, Body.ofTaskLine] at h
    split at h
    · exact Body.nested_of_ofNamedTask h
    · split at h
      · exact Body.nested_of_ofNamedTask h
      · cases h

theorem Span.covers_onLine {s outer : Span} (h : s.Inside outer) (n : Nat) :
    (outer.onLine n).Covers (s.onLine n) :=
  ⟨.inr ⟨rfl, h.start_le⟩, .inr ⟨rfl, h.stop_le⟩⟩

/-- The options of an app lie in the app, one after the other. -/
theorem Symbol.isNested_ofApp {a : App} (h : a.Nested) (n : Nat) (role : Role) :
    (ofApp n role a).IsNested := by
  refine .intro ?_ ?_ ?_
  · intro part hpart
    obtain ⟨o, ho, rfl⟩ := List.mem_map.mp hpart
    exact Span.covers_onLine (h.arguments o ho).1 n
  · rw [ofApp, List.pairwise_map]
    exact h.ordered.imp fun hle => .inl (Range.stop_le_start_onLine hle)
  · intro part hpart
    obtain ⟨o, -, rfl⟩ := List.mem_map.mp hpart
    exact isNested_of_leaf rfl

section Documents

variable {d : Dialect} {document : Document} {s : Symbol}

/-- The symbols right below definitions are nested, and none of them is an option. -/
theorem isNested_of_mem_parts
    (hs : s ∈ (segment .standard d document).flatMap Item.parts) :
    s.role ≠ .argument ∧ s.IsNested := by
  obtain ⟨i, hi, hs⟩ := List.mem_flatMap.mp hs
  rw [Item.parts] at hs
  split at hs
  · next p n hp hn =>
    obtain ⟨l, -, rfl⟩ := exists_itemAt_of_parsed hi hp
    have happs := Body.nested_of_ofLine (ofLine_of_parsed_itemAt hp)
    rw [Definition.ofDefinition_eq] at hs
    simp only [List.mem_append, List.mem_map] at hs
    rcases hs with hs | hs | ⟨app, happ, rfl⟩ | hs
    · obtain ⟨hrole, hleaf⟩ := Symbol.leaf_of_ofMetadataName (Option.mem_toList.mp hs)
      exact ⟨by simp [hrole], Symbol.isNested_of_leaf hleaf⟩
    · obtain ⟨hrole, hleaf⟩ := Symbol.leaf_of_mem_ofDeclaredName hs
      exact ⟨by simp [hrole], Symbol.isNested_of_leaf hleaf⟩
    · exact ⟨(p.definition.role_ne _).2,
        Symbol.isNested_ofApp (happs app.1 (List.fst_mem_of_mem_zipIdx happ)) n _⟩
    · obtain ⟨hrole, hleaf⟩ := Definition.children_of_mem_referenceNames hs
      exact ⟨by simp [hrole], Symbol.isNested_of_leaf hleaf⟩
  · cases hs

/-- No two symbols right below definitions overlap. -/
theorem pairwise_parts (d : Dialect) (document : Document) :
    ((segment .standard d document).flatMap Item.parts).Pairwise fun s t =>
      s.range.Clear t.range := by
  have hapart := pairwise_names d document
  rw [names_eq_postorderList] at hapart
  refine (hapart.sublist (Symbol.sublist_postorderList _)).imp_of_mem ?_
  intro s t hs ht hst
  exact hst (isNested_of_mem_parts hs).1 (isNested_of_mem_parts ht).1

/-- The symbols of a document in a row: each lies in a later one or does not overlap with it. -/
theorem pairwise_laid (d : Dialect) (document : Document) :
    ((SymbolTable.ofItems (segment .standard d document)).all.filter SymbolTable.isName).Pairwise
      Symbol.Laid := by
  rw [names_eq_postorderList]
  exact Symbol.pairwise_postorderList (pairwise_parts d document)
    (fun s hs => (isNested_of_mem_parts hs).2.covers)
      (fun s hs => (isNested_of_mem_parts hs).2.pairwise)

end Documents

/-! ## Positions -/

section Tables

variable {t : SymbolTable} {p : Position} {s : Symbol}

theorem SymbolTable.symbolAt_eq (t : SymbolTable) (p : Position) :
    t.symbolAt p = (t.all.filter SymbolTable.isName).find? (·.range.contains p) := by
  rw [SymbolTable.symbolAt, List.find?_filter]
  congr 1
  funext s
  simp

theorem SymbolTable.mem_names {s : Symbol} :
    s ∈ t.all.filter SymbolTable.isName ↔ t.Has s ∧ s.role ≠ .definition := by
  rw [List.mem_filter, SymbolTable.mem_all_iff]
  simp [SymbolTable.isName]

/-- Whatever is at a position can be renamed, and one of the edits replaces its range. -/
theorem exists_renameEdits (newName : String) (h : t.symbolAt p = some s) :
    ∃ edits, renameEdits t p newName = some edits ∧ ⟨s.range, newName⟩ ∈ edits := by
  have hmem : s ∈ t.all.filter SymbolTable.isName := by
    rw [SymbolTable.symbolAt_eq] at h
    exact List.mem_of_find?_eq_some h
  obtain ⟨hall, hname⟩ := List.mem_filter.mp hmem
  have hsame : s ∈ t.all.filter fun o => SymbolTable.isName o && o.name == s.name :=
    List.mem_filter.mpr ⟨hall, by simp [hname]⟩
  have hne := List.ne_nil_of_mem hsame
  simp only [renameEdits, h, Option.bind_some, List.isEmpty_iff, if_neg hne]
  exact ⟨_, rfl, List.mem_map.mpr ⟨s, hsame, rfl⟩⟩

end Tables

/-- **The symbol at a position is the innermost one.** There is none exactly when no symbol but the
bodies of definitions has the position. If there is one, it lies in every other symbol with the
position, unless the two have nothing but the position in common. A symbol can be renamed exactly
where renaming gives edits, and one of the edits has its range. -/
theorem symbolAt_innermost (d : Dialect) (document : Document) (p : Position) :
    let t := SymbolTable.ofItems (segment .standard d document)
    (t.symbolAt p = none ↔ ∀ s, t.Has s → s.role ≠ .definition → s.range.contains p = false) ∧
    (∀ s, t.symbolAt p = some s →
      (t.Has s ∧ s.role ≠ .definition ∧ s.range.contains p = true) ∧
      ∀ o, t.Has o → o.role ≠ .definition → o.range.contains p = true →
        s.range.Inside o.range ∨
          ∀ x, s.range.contains x = true → o.range.contains x = true → x = p) ∧
    ∀ newName, (renameTarget t p).isSome = (renameEdits t p newName).isSome ∧
      ∀ target ∈ renameTarget t p, ∃ edits ∈ renameEdits t p newName,
        ∃ e ∈ edits, e.range = target.range := by
  intro t
  have hat := SymbolTable.symbolAt_eq t p
  refine ⟨?_, ?_, fun newName => ?_⟩
  · rw [hat, List.find?_eq_none]
    simp only [SymbolTable.mem_names, Bool.not_eq_true, and_imp]
  · intro s hs
    rw [hat] at hs
    have hmem := SymbolTable.mem_names.mp (List.mem_of_find?_eq_some hs)
    have hp := List.find?_some hs
    refine ⟨⟨hmem.1, hmem.2, hp⟩, ?_⟩
    intro o ho hrole hp
    exact Symbol.inside_of_find? (pairwise_laid d document) hs
      (SymbolTable.mem_names.mpr ⟨ho, hrole⟩) hp
  · cases hs : t.symbolAt p with
    | none => simp [renameTarget, renameEdits, hs]
    | some s =>
      obtain ⟨edits, hedits, hmem⟩ := exists_renameEdits newName hs
      rw [renameTarget, hs, hedits]
      refine ⟨rfl, ?_⟩
      rintro target ⟨⟩
      exact ⟨edits, rfl, _, hmem, rfl⟩

/-- A stream whose first app has two options with nothing between them. -/
def touchingOptions : Document where
  uri := "file:///streams.scdfs"
  version := 1
  text := "-- @name main\nmain=time --x='a'--y=1|log>:a.b"

/-- Where the options touch, the first one is found; it lies in the app and has one position in
common with the second option. -/
theorem touchingOptions_innermost :
    let t := SymbolTable.ofItems (segment .standard .stream touchingOptions)
    let p : Position := ⟨1, 17⟩
    (t.all.filter fun s => s.range.contains p).map (fun s => (s.name, s.range)) =
      [("x", Range.onLine 1 10 17), ("y", Range.onLine 1 17 22), ("time", Range.onLine 1 5 22),
        ("main", Range.onLine 1 5 31)] ∧
    (t.symbolAt p).map (·.name) = some "x" ∧
    ∃ s, t.symbolAt p = some s ∧
      ∀ o, t.Has o → o.role ≠ .definition → o.range.contains p = true →
        s.range.Inside o.range ∨
          ∀ x, s.range.contains x = true → o.range.contains x = true → x = p := by
  intro t p
  have hname : (t.symbolAt p).map (·.name) = some "x" := by decide +kernel
  obtain ⟨s, hs, -⟩ := Option.map_eq_some_iff.mp hname
  exact ⟨by decide +kernel, hname, s, hs,
    ((symbolAt_innermost .stream touchingOptions p).2.1 s hs).2⟩

end Flowline
