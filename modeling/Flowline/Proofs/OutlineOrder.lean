import Flowline.Editor.Outline
import Flowline.Proofs.SymbolNames

/-!
# The outline in a row

The tree that an editor shows for a document and the list of symbols that it searches are two views
of the same symbols. Read with the parts before the whole, the tree is the list: entry by entry with
the same name, kind and range, and with the word for the role, which the list has as the container.
This holds of tables of any shape, and also of the tree as it is sent, where a node without parts
has no list of them.

* `OutlineNode.postorder`, `Json.postorder`: the nodes of a tree, the parts before the whole;
* `postorder_ofSymbol`, `postorder_toJson`: both views keep that order;
* `outline_postorder`: the tree in a row is the list of all symbols.
-/

namespace Flowline

/-! ## Nodes in a row -/

mutual

/-- The nodes of a tree, the parts before the whole. -/
def OutlineNode.postorder : OutlineNode → List OutlineNode
  | ⟨name, detail, kind, range, selectionRange, children⟩ =>
    OutlineNode.postorderList children ++ [⟨name, detail, kind, range, selectionRange, children⟩]

/-- The nodes of a row of trees. -/
def OutlineNode.postorderList : List OutlineNode → List OutlineNode
  | [] => []
  | node :: rest => node.postorder ++ OutlineNode.postorderList rest

end

/-- The entry of a list with what a node shows. -/
def OutlineNode.found (uri : String) (node : OutlineNode) : FoundSymbol :=
  ⟨node.name, node.kind, uri, node.range, node.detail⟩

mutual

theorem postorder_ofSymbol : ∀ s : Symbol,
    (OutlineNode.ofSymbol s).postorder = s.postorder.map OutlineNode.ofSymbol
  | ⟨name, role, range, children⟩ => by
    rw [OutlineNode.ofSymbol, OutlineNode.postorder, postorderList_ofSymbols children,
      Symbol.postorder, List.map_append, List.map_singleton, OutlineNode.ofSymbol]

theorem postorderList_ofSymbols : ∀ symbols : List Symbol,
    OutlineNode.postorderList (OutlineNode.ofSymbols symbols) =
      (Symbol.postorderList symbols).map OutlineNode.ofSymbol
  | [] => rfl
  | s :: rest => by
    rw [OutlineNode.ofSymbols, OutlineNode.postorderList, postorder_ofSymbol s,
      postorderList_ofSymbols rest, Symbol.postorderList, List.map_append]

end

theorem found_ofSymbol (uri : String) (s : Symbol) :
    (OutlineNode.ofSymbol s).found uri = FoundSymbol.ofSymbol uri s := by
  obtain ⟨name, role, range, children⟩ := s
  rfl

/-! ## The tree as it is sent -/

namespace Json

/-- The parts of a node that is sent. A node without a list of parts has none. -/
def children (node : Json) : List Json :=
  match node.get? "children" with
  | some (.arr nodes) => nodes
  | _ => []

theorem sizeOf_lt_of_lookup {key : String} {value : Json} {members : List (String × Json)}
    (h : lookup key members = some value) : sizeOf value < sizeOf members := by
  induction members with
  | nil => cases h
  | cons member rest ih =>
    obtain ⟨name, own⟩ := member
    rw [lookup] at h
    simp only [List.cons.sizeOf_spec, Prod.mk.sizeOf_spec]
    split at h
    · next later hlater =>
      cases h
      have := ih hlater
      omega
    · split at h
      · cases h
        omega
      · cases h

theorem sizeOf_lt_of_mem_children {node part : Json} (h : part ∈ node.children) :
    sizeOf part < sizeOf node := by
  rw [children] at h
  split at h
  · next nodes hnodes =>
    cases node with
    | obj members =>
      have hlist := sizeOf_lt_of_lookup hnodes
      have hpart := List.sizeOf_lt_of_mem h
      simp only [arr.sizeOf_spec] at hlist
      simp only [obj.sizeOf_spec]
      omega
    | null | bool _ | int _ | decimal _ | str _ | arr _ => cases hnodes
  · cases h

/-- The nodes of a tree that is sent, the parts before the whole. -/
def postorder (node : Json) : List Json :=
  (node.children.attach.flatMap fun part => postorder part.1) ++ [node]
termination_by sizeOf node
decreasing_by exact sizeOf_lt_of_mem_children part.2

theorem postorder_eq (node : Json) :
    node.postorder = node.children.flatMap postorder ++ [node] := by
  rw [postorder, ← List.flatMap_map Subtype.val postorder, List.attach_map_subtype_val]

end Json

theorem children_toJson (node : OutlineNode) :
    node.toJson.children = OutlineNode.listToJson node.children := by
  obtain ⟨name, detail, kind, range, selectionRange, children⟩ := node
  cases children with
  | nil => simp [OutlineNode.toJson, OutlineNode.listToJson, Json.children, Json.get?, Json.lookup]
  | cons child more => simp [OutlineNode.toJson, Json.children, Json.get?, Json.lookup]

mutual

theorem postorder_toJson : ∀ node : OutlineNode,
    node.toJson.postorder = node.postorder.map OutlineNode.toJson
  | ⟨name, detail, kind, range, selectionRange, children⟩ => by
    rw [Json.postorder_eq, children_toJson, OutlineNode.postorder, List.map_append,
      List.map_singleton]
    congr 1
    exact postorderList_listToJson children

theorem postorderList_listToJson : ∀ nodes : List OutlineNode,
    (OutlineNode.listToJson nodes).flatMap Json.postorder =
      (OutlineNode.postorderList nodes).map OutlineNode.toJson
  | [] => rfl
  | node :: rest => by
    rw [OutlineNode.listToJson, List.flatMap_cons, postorder_toJson node,
      postorderList_listToJson rest, OutlineNode.postorderList, List.map_append]

end

/-! ## The list of symbols -/

theorem findSymbols_all (t : SymbolTable) (uri : String) :
    findSymbols t uri .all = t.all.map (FoundSymbol.ofSymbol uri) := by
  rw [findSymbols, SymbolTable.query, List.filter_eq_self.mpr]
  intro s _
  rfl

/-- **The outline in a row is the list of all symbols.** For every table: the nodes of the outline,
the parts before the whole, show name, kind, range and role of the symbols in the list of the
document, one by one. They are the nodes of the tree that is sent, in which a missing list of parts
counts as empty, and no symbol of the table is left out. What a query finds are those entries of the
list whose symbols it accepts, in their order. -/
theorem outline_postorder (t : SymbolTable) (uri : String) :
    (OutlineNode.postorderList (outline t)).map (OutlineNode.found uri) = findSymbols t uri .all ∧
    (OutlineNode.listToJson (outline t)).flatMap Json.postorder =
      (OutlineNode.postorderList (outline t)).map OutlineNode.toJson ∧
    (∀ f, f ∈ findSymbols t uri .all ↔
      ∃ scope ∈ t.scopes, ∃ root ∈ scope, ∃ s : Symbol, s.PartOf root ∧
        f = ⟨s.name, s.role.kind, uri, s.range, s.role.detail⟩) ∧
    ∀ q : Query, findSymbols t uri q =
      ((t.all.zip (findSymbols t uri .all)).filter fun entry =>
        q.accepts entry.1).map Prod.snd := by
  refine ⟨?_, postorderList_listToJson _, fun f => ?_, fun q => ?_⟩
  · rw [outline, postorderList_ofSymbols, List.map_map, findSymbols_all]
    exact List.map_congr_left fun s _ => found_ofSymbol uri s
  · rw [findSymbols_all, List.mem_map]
    constructor
    · rintro ⟨s, hs, rfl⟩
      obtain ⟨scope, hscope, root, hroot, h⟩ := SymbolTable.mem_all_iff.mp hs
      exact ⟨scope, hscope, root, hroot, s, h, rfl⟩
    · rintro ⟨scope, hscope, root, hroot, s, h, rfl⟩
      exact ⟨s, SymbolTable.mem_all_iff.mpr ⟨scope, hscope, root, hroot, h⟩, rfl⟩
  · rw [findSymbols_all, ← List.map_prod_left_eq_zip, List.filter_map, List.map_map]
    rfl

/-- A stream with an option, its metadata name, and a stream of one app. -/
def nestedTable : SymbolTable where
  scopes :=
    [[Symbol.leaf "ticktock" .metadataName (Range.onLine 0 9 17),
        ⟨"ticktock", .definition, Range.onLine 1 0 19,
          [⟨"time", .source, Range.onLine 1 0 13,
              [Symbol.leaf "rate" .argument (Range.onLine 1 5 13)]⟩,
            Symbol.leaf "log" .sink (Range.onLine 1 16 19)]⟩],
      [⟨"[unnamed]", .definition, Range.onLine 3 0 4,
        [Symbol.leaf "Time" .source (Range.onLine 3 0 4)]⟩]]

/-- The outline in a row, with the option before its app and the app before its stream, and what is
found of it. -/
theorem nestedTable_outline :
    (OutlineNode.postorderList (outline nestedTable)).map (·.name) =
      ["ticktock", "rate", "time", "log", "ticktock", "Time", "[unnamed]"] ∧
    ⟨"rate", 8, "file:///a", Range.onLine 1 5 13, "argument"⟩ ∈
      findSymbols nestedTable "file:///a" .all ∧
    (findSymbols nestedTable "file:///a" (.text "time")).map (·.range) =
      [Range.onLine 1 0 13, Range.onLine 3 0 4] := by
  obtain ⟨hrow, -, hmem, hquery⟩ := outline_postorder nestedTable "file:///a"
  refine ⟨?_, ?_, ?_⟩
  · have hnames := congrArg (List.map FoundSymbol.name) hrow
    rw [List.map_map] at hnames
    exact hnames.trans (by decide +kernel)
  · refine (hmem _).mpr ⟨_, List.mem_cons_self, _, List.mem_cons_of_mem _ List.mem_cons_self, ?_⟩
    exact ⟨_, .inner List.mem_cons_self (.inner List.mem_cons_self .root), rfl⟩
  · rw [hquery]
    decide +kernel

end Flowline
