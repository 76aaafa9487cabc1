import Flowline.Proofs.Reading
import Flowline.Proofs.Tiling
import Flowline.Symbol.Table

/-!
# The names of a document

The symbols that can be renamed, item by item: the name of the metadata, the name on the definition
line, the apps with their options, and the references of the destinations. Each stands on one line
of its item; those that are no options lie apart from each other.

* `Symbol.PartOf`, `SymbolTable.mem_all_iff`: no symbol of a tree is left out;
* `Item.names`, `names_ofItems`: the symbols with a name, in their order;
* `Symbol.Within`: a symbol in some columns of a line;
* `Symbol.Apart`: symbols that do not overlap, options left aside;
* `pairwise_names`: the names of a document lie apart.
-/

namespace Flowline

namespace Symbol

theorem postorder_eq (s : Symbol) : s.postorder = postorderList s.children ++ [s] := by
  obtain ⟨name, role, range, children⟩ := s
  rfl

theorem postorderList_append (xs ys : List Symbol) :
    postorderList (xs ++ ys) = postorderList xs ++ postorderList ys := by
  induction xs with
  | nil => rfl
  | cons x xs ih => rw [List.cons_append, postorderList, postorderList, ih, List.append_assoc]

theorem postorderList_eq_flatMap (xs : List Symbol) : postorderList xs = xs.flatMap postorder := by
  induction xs with
  | nil => rfl
  | cons x xs ih => rw [postorderList, ih, List.flatMap_cons]

theorem postorder_of_leaf {s : Symbol} (h : s.children = []) : s.postorder = [s] := by
  rw [postorder_eq, h]
  rfl

theorem postorderList_of_leaves {xs : List Symbol} (h : ∀ s ∈ xs, s.children = []) :
    postorderList xs = xs := by
  rw [postorderList_eq_flatMap]
  conv_rhs => rw [← List.flatMap_singleton' xs]
  exact List.flatMap_congr fun s hs => postorder_of_leaf (h s hs)

theorem postorder_ofApp (n : Nat) (role : Role) (a : App) :
    (ofApp n role a).postorder = a.arguments.map (ofArgument n) ++ [ofApp n role a] := by
  rw [ofApp, postorder, postorderList_of_leaves]
  intro s hs
  obtain ⟨o, -, rfl⟩ := List.mem_map.mp hs
  rfl

/-- The references of a destination are its two halves. -/
theorem mem_ofDestination {n : Nat} {q : Destination} {s : Symbol} (h : s ∈ ofDestination n q) :
    ∃ head tail, pieces '.' q.name.toList = [head, tail] ∧
      (s = leaf (String.ofList head) .reference
          (Range.onLine n q.span.start (q.span.start + head.length)) ∨
        s = leaf (String.ofList tail) .reference
          (Range.onLine n (q.span.stop - tail.length) q.span.stop)) := by
  rw [ofDestination] at h
  split at h
  · next head tail hpieces =>
    refine ⟨head, tail, hpieces, ?_⟩
    simpa using h
  · cases h

/-! ### The symbols of a tree -/

/-- A symbol belongs to a tree: it is the root or belongs to one of its parts. -/
inductive PartOf (s : Symbol) : Symbol → Prop where
  | root : PartOf s s
  | inner {part whole : Symbol} (hpart : part ∈ whole.children) (h : PartOf s part) : PartOf s whole

theorem mem_postorder_of_partOf {s whole : Symbol} (h : s.PartOf whole) : s ∈ whole.postorder := by
  induction h with
  | root => simp [postorder_eq]
  | @inner part whole hpart h ih =>
    rw [postorder_eq, postorderList_eq_flatMap]
    exact List.mem_append_left _ (List.mem_flatMap.mpr ⟨part, hpart, ih⟩)

mutual

theorem partOf_of_mem_postorder {s : Symbol} :
    ∀ {whole : Symbol}, s ∈ whole.postorder → s.PartOf whole
  | ⟨name, role, range, children⟩, h => by
    rw [postorder_eq] at h
    rcases List.mem_append.mp h with h | h
    · obtain ⟨part, hpart, h⟩ := exists_partOf_of_mem_postorderList h
      exact .inner hpart h
    · rw [List.mem_singleton.mp h]
      exact .root

theorem exists_partOf_of_mem_postorderList {s : Symbol} : ∀ {symbols : List Symbol},
    s ∈ postorderList symbols → ∃ root ∈ symbols, s.PartOf root
  | [], h => absurd h List.not_mem_nil
  | first :: rest, h => by
    rw [postorderList] at h
    rcases List.mem_append.mp h with h | h
    · exact ⟨first, List.mem_cons_self, partOf_of_mem_postorder h⟩
    · obtain ⟨root, hroot, h⟩ := exists_partOf_of_mem_postorderList h
      exact ⟨root, List.mem_cons_of_mem _ hroot, h⟩

end

theorem mem_postorderList_iff {s : Symbol} {symbols : List Symbol} :
    s ∈ postorderList symbols ↔ ∃ root ∈ symbols, s.PartOf root := by
  refine ⟨exists_partOf_of_mem_postorderList, ?_⟩
  rintro ⟨root, hroot, h⟩
  rw [postorderList_eq_flatMap]
  exact List.mem_flatMap.mpr ⟨root, hroot, mem_postorder_of_partOf h⟩

end Symbol

/-- A symbol belongs to a table: it belongs to a tree of one of its scopes. -/
def SymbolTable.Has (t : SymbolTable) (s : Symbol) : Prop :=
  ∃ scope ∈ t.scopes, ∃ root ∈ scope, s.PartOf root

/-- All symbols in a row are those that belong to the table. -/
theorem SymbolTable.mem_all_iff {t : SymbolTable} {s : Symbol} : s ∈ t.all ↔ t.Has s := by
  rw [all, Symbol.mem_postorderList_iff, roots]
  constructor
  · rintro ⟨root, hroot, h⟩
    obtain ⟨scope, hscope, hroot⟩ := List.mem_flatten.mp hroot
    exact ⟨scope, hscope, root, hroot, h⟩
  · rintro ⟨scope, hscope, root, hroot, h⟩
    exact ⟨root, List.mem_flatten.mpr ⟨scope, hscope, hroot⟩, h⟩

/-! ## Names item by item -/

namespace Definition

def apps : Definition → List App
  | stream s => s.apps
  | task t => t.apps

def destinations : Definition → List Destination
  | stream s => s.source.toList ++ s.sink.toList
  | task _ => []

/-- The role of the app with a number. -/
def role : Definition → Nat → Role
  | stream s, index => Symbol.streamRole s.source.isSome s.apps.length index
  | task _, _ => .taskApp

theorem role_ne (definition : Definition) (index : Nat) :
    definition.role index ≠ .definition ∧ definition.role index ≠ .argument := by
  cases definition with
  | stream s =>
    rw [role, Symbol.streamRole]
    split
    · simp
    · split <;> simp
  | task t => simp [role]

/-- The symbols of the apps, each after those of its options. -/
def appNames (n : Nat) (definition : Definition) : List Symbol :=
  definition.apps.zipIdx.flatMap fun (a, index) =>
    (Symbol.ofApp n (definition.role index) a).postorder

/-- The symbols of the references. -/
def referenceNames (n : Nat) (definition : Definition) : List Symbol :=
  definition.destinations.flatMap (Symbol.ofDestination n)

theorem mem_appNames {n : Nat} {definition : Definition} {s : Symbol} :
    s ∈ definition.appNames n ↔
      ∃ a index, (a, index) ∈ definition.apps.zipIdx ∧
        ((∃ o ∈ a.arguments, s = Symbol.ofArgument n o) ∨
          s = Symbol.ofApp n (definition.role index) a) := by
  simp only [appNames, List.mem_flatMap, Prod.exists, Symbol.postorder_ofApp, List.mem_append,
    List.mem_map, List.mem_singleton, eq_comm (b := s)]

/-- The symbols right below a definition, its name left aside: the apps, then the references. -/
theorem ofDefinition_eq (n : Nat) (definition : Definition) :
    Symbol.ofDefinition n definition =
      definition.apps.zipIdx.map (fun app => Symbol.ofApp n (definition.role app.2) app.1) ++
        definition.referenceNames n := by
  cases definition with
  | stream s => rfl
  | task t =>
    rw [referenceNames, destinations, List.flatMap_nil, List.append_nil]
    exact (congrArg (List.map (Symbol.ofApp n .taskApp)) (List.zipIdx_map_fst 0 t.apps).symm).trans
      (List.map_map ..)

theorem children_of_mem_referenceNames {n : Nat} {definition : Definition} {s : Symbol}
    (hs : s ∈ definition.referenceNames n) : s.role = .reference ∧ s.children = [] := by
  obtain ⟨q, -, hs⟩ := List.mem_flatMap.mp hs
  obtain ⟨head, tail, -, rfl | rfl⟩ := Symbol.mem_ofDestination hs
  · exact ⟨rfl, rfl⟩
  · exact ⟨rfl, rfl⟩

theorem postorderList_ofDefinition (n : Nat) (definition : Definition) :
    Symbol.postorderList (Symbol.ofDefinition n definition) =
      definition.appNames n ++ definition.referenceNames n := by
  rw [ofDefinition_eq, Symbol.postorderList_append,
    Symbol.postorderList_of_leaves fun s hs => (children_of_mem_referenceNames hs).2,
    Symbol.postorderList_eq_flatMap, List.flatMap_map]
  rfl

end Definition

/-- The symbols of an item that have a name to be changed. -/
def Item.names (i : Item) : List Symbol :=
  (Symbol.postorderList ((SymbolTable.scopeOf i).getD [])).filter SymbolTable.isName

theorem names_ofItems (items : List Item) :
    (SymbolTable.ofItems items).all.filter SymbolTable.isName = items.flatMap Item.names := by
  have hall : (SymbolTable.ofItems items).all =
      items.flatMap fun i => Symbol.postorderList ((SymbolTable.scopeOf i).getD []) := by
    rw [SymbolTable.all, SymbolTable.roots, SymbolTable.ofItems]
    induction items with
    | nil => rfl
    | cons i items ih =>
      rw [List.filterMap_cons, List.flatMap_cons, ← ih]
      cases SymbolTable.scopeOf i with
      | none => rfl
      | some scope => exact Symbol.postorderList_append _ _
  rw [hall, List.filter_flatMap]
  rfl

theorem Item.names_of_not_parsed {i : Item} (h : i.parsed = none) : i.names = [] := by
  simp [Item.names, SymbolTable.scopeOf, h, Symbol.postorderList]

theorem Symbol.ofMetadataName_eq {m : Metadata} {s : Symbol} (h : ofMetadataName m = some s) :
    ∃ value range, m.value = some value ∧ m.valueRange = some range ∧
      s = leaf value .metadataName range := by
  simp only [ofMetadataName, Option.bind_eq_bind, Option.bind_eq_some_iff] at h
  obtain ⟨value, hvalue, range, hrange, hs⟩ := h
  cases hs
  exact ⟨value, range, hvalue, hrange, rfl⟩

theorem Symbol.mem_ofDeclaredName {p : Parsed} {s : Symbol} (h : s ∈ ofDeclaredName p) :
    ∃ name range, p.name = some name ∧ p.nameRange = some range ∧
      s = leaf name .declaredName range := by
  rw [ofDeclaredName] at h
  split at h
  · next name range hname hrange => exact ⟨name, range, hname, hrange, List.mem_singleton.mp h⟩
  · cases h

/-- The names on a definition line: the declared name, the apps with their options, the
references. -/
def Parsed.names (n : Nat) (p : Parsed) : List Symbol :=
  Symbol.ofDeclaredName p ++ (p.definition.appNames n ++ p.definition.referenceNames n)

theorem Parsed.role_ne_of_mem_names {n : Nat} {p : Parsed} {s : Symbol} (hs : s ∈ p.names n) :
    s.role ≠ .definition := by
  simp only [Parsed.names, List.mem_append] at hs
  rcases hs with hs | hs | hs
  · obtain ⟨name, range, -, -, rfl⟩ := Symbol.mem_ofDeclaredName hs
    simp [Symbol.leaf]
  · obtain ⟨a, index, -, ⟨o, -, rfl⟩ | rfl⟩ := Definition.mem_appNames.mp hs
    · simp [Symbol.ofArgument, Symbol.leaf]
    · exact (p.definition.role_ne index).1
  · rw [(Definition.children_of_mem_referenceNames hs).1]
    simp

/-- The body of a definition stands after the names in it. -/
theorem postorder_ofParsed (n : Nat) (p : Parsed) :
    (Symbol.ofParsed n p).postorder = p.names n ++ [Symbol.ofParsed n p] := by
  have hleaf : ∀ s ∈ Symbol.ofDeclaredName p, s.children = [] := by
    intro s hs
    obtain ⟨name, range, -, -, rfl⟩ := Symbol.mem_ofDeclaredName hs
    rfl
  rw [Symbol.ofParsed, Symbol.postorder, Symbol.postorderList_append,
    Symbol.postorderList_of_leaves hleaf, Definition.postorderList_ofDefinition]
  rfl

theorem filter_isName_eq_self {xs : List Symbol} (h : ∀ s ∈ xs, s.role ≠ .definition) :
    xs.filter SymbolTable.isName = xs := by
  rw [List.filter_eq_self]
  intro s hs
  simpa [SymbolTable.isName] using h s hs

/-- The names of an item with a definition. -/
theorem Item.names_of_parsed {i : Item} {p : Parsed} {n : Nat} (hp : i.parsed = some p)
    (hn : i.line = some n) :
    i.names = (i.name.bind Symbol.ofMetadataName).toList ++ p.names n := by
  have hscope : SymbolTable.scopeOf i =
      some ((i.name.bind Symbol.ofMetadataName).toList ++ [Symbol.ofParsed n p]) := by
    simp [SymbolTable.scopeOf, hp, hn]
  have hmetadata : ∀ s ∈ (i.name.bind Symbol.ofMetadataName).toList,
      s.children = [] ∧ s.role ≠ .definition := by
    intro s hs
    obtain ⟨m, -, hm⟩ := Option.bind_eq_some_iff.mp (Option.mem_toList.mp hs)
    obtain ⟨value, range, -, -, rfl⟩ := Symbol.ofMetadataName_eq hm
    simp [Symbol.leaf]
  have hroot : [Symbol.ofParsed n p].filter SymbolTable.isName = [] := by
    simp [SymbolTable.isName, Symbol.ofParsed]
  rw [Item.names, hscope, Option.getD_some, Symbol.postorderList_append,
    Symbol.postorderList_of_leaves fun s hs => (hmetadata s hs).1, Symbol.postorderList,
    postorder_ofParsed, Symbol.postorderList, List.append_nil, List.filter_append,
    List.filter_append, hroot, List.append_nil,
    filter_isName_eq_self fun s hs => (hmetadata s hs).2,
    filter_isName_eq_self fun s hs => Parsed.role_ne_of_mem_names hs]

/-! ## The parts of a definition line -/

/-- The parts of a definition stand in their spans on line `n`, whose text is `text`, and lie
apart. -/
structure Parsed.Spelled (n : Nat) (text : List Char) (p : Parsed) : Prop where
  name : ∀ s ∈ Symbol.ofDeclaredName p, ∃ span : Span, s.range = span.onLine n ∧
    span.Spells text s.name.toList ∧ (∀ a ∈ p.definition.apps, span.stop < a.span.start) ∧
    ∀ q ∈ p.definition.destinations, span.stop < q.span.start
  apps : ∀ a ∈ p.definition.apps, a.Spelled text
  destinations : ∀ q ∈ p.definition.destinations, q.Spelled text
  apps_ordered : p.definition.apps.Pairwise (fun a b => a.span.stop < b.span.start)
  destinations_ordered : p.definition.destinations.Pairwise (fun q r => q.span.stop < r.span.start)
  apart : ∀ a ∈ p.definition.apps, ∀ q ∈ p.definition.destinations,
    a.span.stop < q.span.start ∨ q.span.stop < a.span.start

theorem Body.spelled_of_ofStreamLine {n : Nat} {text : List Char} {name : Option Metadata}
    {p : Parsed} (h : Body.ofStreamLine .standard n text name = .parsed p) : p.Spelled n text := by
  simp only [Body.ofStreamLine, DefinitionReader.standard] at h
  split at h
  · cases h
  · next s hs =>
    cases h
    have hspelled := StreamDefinition.spelled_of_parse hs
    have hrow := hspelled.row.ordered
    rw [StreamDefinition.spans, List.pairwise_append] at hrow
    obtain ⟨-, hbody, hname⟩ := hrow
    obtain ⟨-, hflow, hsource⟩ := List.pairwise_append.mp hbody
    obtain ⟨happs, -, hsink⟩ := List.pairwise_append.mp hflow
    have hmem : ∀ q ∈ s.source.toList ++ s.sink.toList, q.Spelled text := by
      intro q hq
      rcases List.mem_append.mp hq with hq | hq
      · exact hspelled.source q (Option.mem_toList.mp hq)
      · exact hspelled.sink q (Option.mem_toList.mp hq)
    refine ⟨?_, hspelled.apps, hmem, List.pairwise_map.mp happs, ?_, ?_⟩
    · intro symbol hsymbol
      obtain ⟨text', range, htext, hrange, rfl⟩ := Symbol.mem_ofDeclaredName hsymbol
      obtain ⟨declared, hdeclared, rfl⟩ := Option.map_eq_some_iff.mp hrange
      simp only [hdeclared, Option.map_some, Option.some_or, Option.some.injEq] at htext
      subst htext
      have hbefore : ∀ t ∈ s.source.toList.map (·.span) ++ (s.apps.map (·.span) ++
          s.sink.toList.map (·.span)), declared.span.stop < t.start :=
        hname declared.span (by simp [hdeclared])
      refine ⟨declared.span, rfl, hspelled.name declared hdeclared, ?_, ?_⟩
      · intro a ha
        apply hbefore
        simp only [List.mem_append, List.mem_map]
        exact .inr (.inl ⟨a, ha, rfl⟩)
      · intro q hq
        apply hbefore
        simp only [List.mem_append, List.mem_map]
        rcases List.mem_append.mp hq with hq | hq
        · exact .inl ⟨q, hq, rfl⟩
        · exact .inr (.inr ⟨q, hq, rfl⟩)
    · refine List.pairwise_append.mpr ⟨?_, ?_, ?_⟩
      · cases s.source <;> simp
      · cases s.sink <;> simp
      · intro q hq r hr
        exact hsource q.span (List.mem_map_of_mem hq) r.span
          (List.mem_append_right _ (List.mem_map_of_mem hr))
    · intro a ha q hq
      rcases List.mem_append.mp hq with hq | hq
      · exact .inr (hsource q.span (List.mem_map_of_mem hq) a.span
          (List.mem_append_left _ (List.mem_map_of_mem ha)))
      · exact .inl (hsink a.span (List.mem_map_of_mem ha) q.span (List.mem_map_of_mem hq))

theorem Body.spelled_of_ofNamedTask {n : Nat} {text : List Char} {name : String}
    {nameRange : Option Range} {start : Nat} {p : Parsed}
    (hname : ∀ r ∈ nameRange, ∃ span : Span, r = span.onLine n ∧ span.Spells text name.toList ∧
      span.stop < start ∧ start ≤ text.length)
    (h : Body.ofNamedTask .standard n text name nameRange start = .parsed p) :
    p.Spelled n text := by
  simp only [Body.ofNamedTask, DefinitionReader.standard] at h
  split at h
  · cases h
  · next t ht =>
    cases h
    obtain ⟨happs, hrow⟩ := TaskDefinition.spelled_of_parse ht
    refine ⟨?_, happs, by simp [Definition.destinations], List.pairwise_map.mp hrow.ordered,
      .nil, by simp [Definition.destinations]⟩
    intro symbol hsymbol
    obtain ⟨_, range, hsome, hrange, rfl⟩ := Symbol.mem_ofDeclaredName hsymbol
    cases hsome
    obtain ⟨span, rfl, hspells, hstop, hstart⟩ := hname range hrange
    refine ⟨span, rfl, hspells, ?_, by simp [Definition.destinations]⟩
    intro a ha
    have := (hrow.within a.span (List.mem_map_of_mem ha)).1
    rw [Nat.min_eq_left hstart] at this
    omega

theorem Body.spelled_of_ofLine {d : Dialect} {n : Nat} {text : List Char} {name : Option Metadata}
    {p : Parsed} (h : Body.ofLine .standard d n text name = .parsed p) : p.Spelled n text := by
  cases d with
  | stream => exact Body.spelled_of_ofStreamLine h
  | task =>
    simp only [Body.ofLine, Body.ofTaskLine] at h
    split at h
    · next inline hinline =>
      obtain ⟨hspells, hstop, hstart⟩ := inlineName_spells hinline
      refine Body.spelled_of_ofNamedTask ?_ h
      intro r hr
      cases hr
      exact ⟨⟨inline.start, inline.stop⟩, rfl, hspells, hstop, hstart⟩
    · split at h
      · exact Body.spelled_of_ofNamedTask (by simp) h
      · cases h

/-! ## Symbols apart -/

theorem Range.stop_le_start_onLine {n first last first' last' : Nat} (h : last ≤ first') :
    (Range.onLine n first last).stop ≤ (Range.onLine n first' last').start :=
  .inr ⟨rfl, h⟩

namespace Symbol

/-- The symbol stands on line `n`, from column `first` on and up to column `last`. -/
def Within (n first last : Nat) (s : Symbol) : Prop :=
  ∃ a b, first ≤ a ∧ b ≤ last ∧ s.range = Range.onLine n a b

/-- Two symbols that are no options do not overlap. -/
def Apart (s t : Symbol) : Prop :=
  s.role ≠ .argument → t.role ≠ .argument →
    s.range.stop ≤ t.range.start ∨ t.range.stop ≤ s.range.start

variable {s t : Symbol} {n first last : Nat}

theorem Apart.symm (h : Apart s t) : Apart t s :=
  fun ht hs => (h hs ht).symm

theorem apart_of_lines (h : s.range.stop.line < t.range.start.line) : Apart s t :=
  fun _ _ => .inl (.inl h)

theorem Within.apart {first' last' : Nat} (h : Within n first last s) (h' : Within n first' last' t)
    (hlt : last ≤ first') : Apart s t := by
  obtain ⟨a, b, -, hb, hs⟩ := h
  obtain ⟨c, d, hc, -, ht⟩ := h'
  intro _ _
  left
  rw [hs, ht]
  exact Range.stop_le_start_onLine (by omega)

theorem within_ofApp (n : Nat) (role : Role) (a : App) :
    Within n a.span.start a.span.stop (ofApp n role a) :=
  ⟨a.span.start, a.span.stop, le_refl _, le_refl _, rfl⟩

/-- The columns of the halves of a destination. -/
theorem length_of_pieces_eq_pair {text : List Char} {q : Destination} {head tail : List Char}
    (hq : q.Spelled text) (h : pieces '.' q.name.toList = [head, tail]) :
    q.span.start + head.length + 1 + tail.length = q.span.stop := by
  rw [Span.Spells.stop_eq hq, eq_of_pieces_eq_pair h]
  simp only [List.length_append, List.length_cons]
  omega

theorem within_of_mem_ofDestination {text : List Char} {q : Destination} (hq : q.Spelled text)
    (h : s ∈ ofDestination n q) : Within n q.span.start q.span.stop s := by
  obtain ⟨head, tail, hpieces, hs⟩ := mem_ofDestination h
  have hlen := length_of_pieces_eq_pair hq hpieces
  rcases hs with rfl | rfl
  · exact ⟨_, _, le_refl _, by omega, rfl⟩
  · exact ⟨_, _, by omega, le_refl _, rfl⟩

/-- The halves of a destination stand in the ranges of its references. -/
theorem content_of_mem_ofDestination {document : Document} {text : List Char} {q : Destination}
    (hq : q.Spelled text) (htext : document.lineText n = some text) (hs : s ∈ ofDestination n q) :
    document.content s.range = s.name.toList := by
  obtain ⟨head, tail, hpieces, hs⟩ := mem_ofDestination hs
  have hlen := length_of_pieces_eq_pair hq hpieces
  have hspells : q.span.Spells text (head ++ '.' :: tail) := by
    rw [← eq_of_pieces_eq_pair hpieces]
    exact hq
  rcases hs with rfl | rfl
  · have hcut : q.span.Spells text ([] ++ head ++ '.' :: tail) := hspells
    have hhead := Document.content_of_spells htext hcut.part
    rw [leaf, String.toList_ofList]
    exact hhead
  · have hcut : q.span.Spells text (head ++ ['.'] ++ tail ++ []) := by
      simpa using hspells
    have htail := Document.content_of_spells htext hcut.part
    simp only [List.length_append, List.length_singleton] at htail
    rw [show q.span.start + (head.length + 1) = q.span.stop - tail.length by omega,
      show q.span.stop - tail.length + tail.length = q.span.stop by omega] at htail
    rw [leaf, String.toList_ofList]
    exact htail

theorem pairwise_ofDestination {text : List Char} {q : Destination}
    (hq : q.Spelled text) (n : Nat) :
    (ofDestination n q).Pairwise Apart := by
  rw [ofDestination]
  split
  · next head tail hpieces =>
    have hlen := length_of_pieces_eq_pair hq hpieces
    rw [List.pairwise_pair]
    intro _ _
    left
    exact Range.stop_le_start_onLine (by omega)
  · exact .nil

theorem within_of_mem_referenceNames {text : List Char} {p : Parsed} (hp : p.Spelled n text)
    (h : s ∈ p.definition.referenceNames n) :
    ∃ q ∈ p.definition.destinations, Within n q.span.start q.span.stop s := by
  obtain ⟨q, hq, hs⟩ := List.mem_flatMap.mp h
  exact ⟨q, hq, within_of_mem_ofDestination (hp.destinations q hq) hs⟩

/-- A symbol of the apps is an option or an app. -/
theorem within_of_mem_appNames {definition : Definition} (h : s ∈ definition.appNames n)
    (hs : s.role ≠ .argument) :
    ∃ a ∈ definition.apps, Within n a.span.start a.span.stop s := by
  obtain ⟨a, index, ha, ⟨o, -, rfl⟩ | rfl⟩ := Definition.mem_appNames.mp h
  · exact absurd rfl hs
  · exact ⟨a, List.fst_mem_of_mem_zipIdx ha, within_ofApp ..⟩

end Symbol

theorem Parsed.Spelled.pairwise_appNames {n : Nat} {text : List Char} {p : Parsed}
    (hp : p.Spelled n text) : (p.definition.appNames n).Pairwise Symbol.Apart := by
  refine List.pairwise_flatMap.mpr ⟨?_, ?_⟩
  · -- within one app, all but one of the symbols are options
    rintro ⟨a, index⟩ -
    dsimp only
    rw [Symbol.postorder_ofApp]
    refine List.pairwise_append.mpr ⟨?_, List.pairwise_singleton _ _, ?_⟩
    · rw [List.pairwise_map]
      exact List.pairwise_of_forall fun o o' h => absurd rfl h
    · intro s hs t _ h
      obtain ⟨o, -, rfl⟩ := List.mem_map.mp hs
      exact absurd rfl h
  · have happs := hp.apps_ordered
    rw [← List.zipIdx_map_fst 0 p.definition.apps, List.pairwise_map] at happs
    refine happs.imp ?_
    rintro ⟨a, index⟩ ⟨b, index'⟩ hlt s hs t ht hsr htr
    dsimp only at hlt hs ht
    rw [Symbol.postorder_ofApp] at hs ht
    rcases List.mem_append.mp hs with hs | hs
    · obtain ⟨o, -, rfl⟩ := List.mem_map.mp hs
      exact absurd rfl hsr
    · rcases List.mem_append.mp ht with ht | ht
      · obtain ⟨o, -, rfl⟩ := List.mem_map.mp ht
        exact absurd rfl htr
      · rw [List.mem_singleton] at hs ht
        subst hs ht
        exact (Symbol.within_ofApp ..).apart (Symbol.within_ofApp ..) (Nat.le_of_lt hlt) hsr htr

theorem Parsed.Spelled.pairwise_referenceNames {n : Nat} {text : List Char} {p : Parsed}
    (hp : p.Spelled n text) : (p.definition.referenceNames n).Pairwise Symbol.Apart := by
  refine List.pairwise_flatMap.mpr ⟨?_, ?_⟩
  · intro q hq
    exact Symbol.pairwise_ofDestination (hp.destinations q hq) n
  · refine hp.destinations_ordered.imp_of_mem ?_
    intro q r hq hr hlt s hs t ht
    exact (Symbol.within_of_mem_ofDestination (hp.destinations q hq) hs).apart
      (Symbol.within_of_mem_ofDestination (hp.destinations r hr) ht) (Nat.le_of_lt hlt)

/-- The names on a definition line lie apart. -/
theorem Parsed.Spelled.pairwise_names {n : Nat} {text : List Char} {p : Parsed}
    (hp : p.Spelled n text) :
    (p.names n).Pairwise Symbol.Apart := by
  refine List.pairwise_append.mpr ⟨?_, List.pairwise_append.mpr
    ⟨hp.pairwise_appNames, hp.pairwise_referenceNames, ?_⟩, ?_⟩
  · rw [Symbol.ofDeclaredName]
    split
    · exact List.pairwise_singleton _ _
    · exact .nil
  · intro s hs t ht hsr htr
    obtain ⟨a, ha, hsa⟩ := Symbol.within_of_mem_appNames hs hsr
    obtain ⟨q, hq, htq⟩ := Symbol.within_of_mem_referenceNames hp ht
    -- a source stands before the app, a sink behind it
    rcases hp.apart a ha q hq with hlt | hlt
    · exact hsa.apart htq (Nat.le_of_lt hlt) hsr htr
    · exact (htq.apart hsa (Nat.le_of_lt hlt)).symm hsr htr
  · intro s hs t ht hsr htr
    obtain ⟨span, hrange, -, happs, hdestinations⟩ := hp.name s hs
    have hspan : Symbol.Within n span.start span.stop s := ⟨_, _, le_refl _, le_refl _, hrange⟩
    rcases List.mem_append.mp ht with ht | ht
    · obtain ⟨a, ha, hta⟩ := Symbol.within_of_mem_appNames ht htr
      exact hspan.apart hta (Nat.le_of_lt (happs a ha)) hsr htr
    · obtain ⟨q, hq, htq⟩ := Symbol.within_of_mem_referenceNames hp ht
      exact hspan.apart htq (Nat.le_of_lt (hdestinations q hq)) hsr htr

/-! ## Items apart -/

section Items

variable {d : Dialect} {document : Document} {l : Line} {p : Parsed} {s : Symbol}

theorem ofLine_of_parsed_itemAt {reader : DefinitionReader} {lines : List Line}
    (h : (itemAt reader d lines l).parsed = some p) :
    Body.ofLine reader d l.number l.text (itemAt reader d lines l).name = .parsed p := by
  simp only [Item.parsed] at h
  split at h
  · next hbody =>
    cases h
    exact hbody
  · cases h

theorem spelled_of_parsed_itemAt {lines : List Line}
    (h : (itemAt .standard d lines l).parsed = some p) : p.Spelled l.number l.text :=
  Body.spelled_of_ofLine (ofLine_of_parsed_itemAt h)

/-- The name of the metadata stands on a line of its own, above the definition line of its item. -/
theorem exists_line_of_metadataName {reader : DefinitionReader} (hl : l ∈ document.numberedLines)
    (h : (itemAt reader d document.numberedLines l).name.bind Symbol.ofMetadataName = some s) :
    ∃ x ∈ document.numberedLines, ∃ span : Span, s.range = span.onLine x.number ∧
      span.Spells x.text s.name.toList ∧ s.role = .metadataName ∧
      itemStart d document.numberedLines l.number ≤ x.number ∧ x.number < l.number := by
  have hnum := isNumbered_numberedLines document
  have hlen := (List.getElem?_eq_some_iff.mp (hnum.getElem? hl)).1
  obtain ⟨m, hm, hs⟩ := Option.bind_eq_some_iff.mp h
  obtain ⟨value, range, hvalue, hrange, rfl⟩ := Symbol.ofMetadataName_eq hs
  obtain ⟨span, rfl, hspells⟩ := Metadata.spells_value hvalue hrange
  obtain ⟨x, hx, -, rfl⟩ := mem_of_lastTagged hm
  exact ⟨x, mem_of_mem_sinceReset hx, span, rfl, hspells, rfl,
    itemStart_le_of_mem_sinceReset hnum (Nat.le_of_lt hlen) hx⟩

/-- All names but that of the metadata stand on the definition line. -/
theorem Parsed.Spelled.line_of_mem {n : Nat} {text : List Char} (hp : p.Spelled n text)
    (h : s ∈ p.names n) : s.range.start.line = n ∧ s.range.stop.line = n := by
  simp only [Parsed.names, List.mem_append] at h
  rcases h with h | h | h
  · obtain ⟨span, hrange, -⟩ := hp.name s h
    rw [hrange]
    exact ⟨rfl, rfl⟩
  · obtain ⟨a, index, -, ⟨o, -, rfl⟩ | rfl⟩ := Definition.mem_appNames.mp h
    · exact ⟨rfl, rfl⟩
    · exact ⟨rfl, rfl⟩
  · obtain ⟨q, -, a, b, -, -, hrange⟩ := Symbol.within_of_mem_referenceNames hp h
    rw [hrange]
    exact ⟨rfl, rfl⟩

/-- The names of an item stand on its lines. -/
theorem lines_of_mem_names (hl : l ∈ document.numberedLines)
    (hs : s ∈ (itemAt .standard d document.numberedLines l).names) :
    itemStart d document.numberedLines l.number ≤ s.range.start.line ∧
      s.range.stop.line ≤ l.number := by
  cases hp : (itemAt .standard d document.numberedLines l).parsed with
  | none =>
    rw [Item.names_of_not_parsed hp] at hs
    cases hs
  | some p =>
    rw [Item.names_of_parsed hp rfl] at hs
    rcases List.mem_append.mp hs with hs | hs
    · obtain ⟨x, -, span, hrange, -, -, hstart, hlt⟩ :=
        exists_line_of_metadataName hl (Option.mem_toList.mp hs)
      rw [hrange]
      exact ⟨hstart, Nat.le_of_lt hlt⟩
    · obtain ⟨hstart, hstop⟩ := (spelled_of_parsed_itemAt hp).line_of_mem hs
      rw [hstart, hstop]
      exact ⟨itemStart_le (isNumbered_numberedLines document), le_refl _⟩

theorem pairwise_names_itemAt (hl : l ∈ document.numberedLines) :
    (itemAt .standard d document.numberedLines l).names.Pairwise Symbol.Apart := by
  cases hp : (itemAt .standard d document.numberedLines l).parsed with
  | none =>
    rw [Item.names_of_not_parsed hp]
    exact .nil
  | some p =>
    have hspelled := spelled_of_parsed_itemAt hp
    rw [Item.names_of_parsed hp rfl]
    refine List.pairwise_append.mpr ⟨?_, hspelled.pairwise_names, ?_⟩
    · cases (itemAt .standard d document.numberedLines l).name.bind Symbol.ofMetadataName with
      | none => exact .nil
      | some s => exact List.pairwise_singleton _ _
    · intro s hs t ht
      obtain ⟨x, -, span, hrange, -, -, -, hlt⟩ :=
        exists_line_of_metadataName hl (Option.mem_toList.mp hs)
      apply Symbol.apart_of_lines
      rw [hrange, (hspelled.line_of_mem ht).1]
      exact hlt

end Items

/-- The names of a document, definition line by definition line. -/
theorem flatMap_names_segment (reader : DefinitionReader) (d : Dialect) (document : Document) :
    (segment reader d document).flatMap Item.names =
      (definitionLines d document.numberedLines).flatMap fun l =>
        (itemAt reader d document.numberedLines l).names := by
  rw [segment_eq, List.flatMap_append, List.flatMap_map]
  have hlast : ((danglingItem? d document.numberedLines document.stop).toList).flatMap Item.names =
      [] := by
    cases hd : danglingItem? d document.numberedLines document.stop with
    | none => rfl
    | some i =>
      have hnone : i.parsed = none := by
        rw [Item.parsed, (danglingItem?_holds hd).1]
      rw [Option.toList_some, List.flatMap_singleton, Item.names_of_not_parsed hnone]
  rw [hlast, List.append_nil]

theorem mem_names_segment {reader : DefinitionReader} {d : Dialect} {document : Document}
    {s : Symbol} :
    s ∈ (SymbolTable.ofItems (segment reader d document)).all.filter SymbolTable.isName ↔
      ∃ l ∈ definitionLines d document.numberedLines,
        s ∈ (itemAt reader d document.numberedLines l).names := by
  rw [names_ofItems, flatMap_names_segment, List.mem_flatMap]

/-- **The names of a document lie apart**, options left aside. -/
theorem pairwise_names (d : Dialect) (document : Document) :
    ((SymbolTable.ofItems (segment .standard d document)).all.filter SymbolTable.isName).Pairwise
      Symbol.Apart := by
  have hnum := isNumbered_numberedLines document
  rw [names_ofItems, flatMap_names_segment]
  refine List.pairwise_flatMap.mpr ⟨?_, ?_⟩
  · intro l hl
    exact pairwise_names_itemAt (mem_definitionLines.mp hl).1
  · refine (pairwise_definitionLines hnum).imp_of_mem ?_
    intro a b ha hb hab s hs t ht
    have hstop := (lines_of_mem_names (mem_definitionLines.mp ha).1 hs).2
    have hstart := (lines_of_mem_names (mem_definitionLines.mp hb).1 ht).1
    have hbetween := lt_itemStart hnum ha hab
    exact Symbol.apart_of_lines (by omega)

end Flowline
