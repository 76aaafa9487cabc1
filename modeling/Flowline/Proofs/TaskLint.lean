import Flowline.Proofs.LensEnvironment
import Flowline.Proofs.ManifestMerge
import Flowline.Proofs.SymbolNames

/-!
# Checking tasks with and without a table

The apps of an environment are asked for once and kept under its name, also when the answer is a
failure. Checking each task on its own, with a question of its own, finds the same: environments are
found by their names, so two tasks whose environments have the same name have the same environment,
even if a session knows several with that name.

* `Item.readError?`, `Item.checkedIn?`, `Item.lint?`: an item on its own;
* `Lint.ofItems`: the table, the calls and the errors after some items, said without the table;
* `Lint.ask_ofItems`, `Lint.step_ofItems`, `Lint.foldl_step`: one question, one item, all items;
* `taskDiagnostics_eq_lint`: what is found in a document of tasks, and what is asked.
-/

namespace Flowline

/-! ## An item on its own -/

/-- The error about an item whose definition could not be read. -/
def Item.readError? (i : Item) : Option Diagnostic :=
  match i.body with
  | .invalid p => some ⟨p.range, .error, p.cause.message⟩
  | .parsed _ => none
  | .dangling => none

/-- The environment in which the apps of an item have to be registered: that of its definition line,
if the definition could be read and the environment is known. -/
def Item.checkedIn? (session : Environments) (items : List Item) (i : Item) :
    Option Environment := do
  let _ ← i.parsed
  let r ← i.definitionRange
  (environmentAt items r.start session).toOption

/-- The error about the first app of an item that is not among those registered. -/
def Item.unregistered? (registered : List String) (i : Item) : Option Diagnostic := do
  let p ← i.parsed
  let r ← i.definitionRange
  let app ← p.definition.apps.find? fun app => app.name ∉ registered
  pure ⟨r, .error, "Task app " ++ app.name ++ " is not registered"⟩

/-- The error about an item whose environment answers. -/
def Item.lint? (client : Client) (session : Environments) (items : List Item) (i : Item) :
    Option Diagnostic := do
  let e ← i.checkedIn? session items
  let registered ← (client.registeredTaskApps e).toOption
  i.unregistered? registered

theorem problemDiagnostics_eq (items : List Item) :
    problemDiagnostics items = items.filterMap Item.readError? := by
  rw [problemDiagnostics, List.map_filterMap]
  refine List.filterMap_congr fun i _ => ?_
  unfold Item.problem Item.readError?
  cases i.body <;> rfl

theorem Item.task?_eq_some_iff {i : Item} {r : Range} {t : TaskDefinition} :
    i.task? = some (r, t) ↔
      (∃ p, i.parsed = some p ∧ p.definition = .task t) ∧ i.definitionRange = some r := by
  unfold Item.task?
  constructor
  · intro h
    split at h
    · next hp hr =>
      cases h
      exact ⟨⟨_, hp, rfl⟩, hr⟩
    · cases h
  · rintro ⟨⟨⟨definition, name, nameRange, range⟩, hp, rfl⟩, hr⟩
    rw [hp, hr]

section Task

variable {i : Item} {r : Range} {t : TaskDefinition}

theorem Item.checkedIn?_of_task? (h : i.task? = some (r, t)) (session : Environments)
    (items : List Item) :
    i.checkedIn? session items = (environmentAt items r.start session).toOption := by
  obtain ⟨⟨p, hp, -⟩, hr⟩ := Item.task?_eq_some_iff.mp h
  simp only [Item.checkedIn?, hp, hr, Option.bind_eq_bind, Option.bind_some]

theorem Item.unregistered?_of_task? (h : i.task? = some (r, t)) (registered : List String) :
    i.unregistered? registered =
      (firstUnregistered t registered).map (unregisteredDiagnostic r) := by
  obtain ⟨⟨p, hp, ht⟩, hr⟩ := Item.task?_eq_some_iff.mp h
  have hfind : (t.apps.find? fun app => app.name ∉ registered) =
      firstUnregistered t registered := by
    unfold firstUnregistered
    congr 1
    funext app
    simp
  simp only [Item.unregistered?, hp, hr, ht, Definition.apps, Option.bind_eq_bind,
    Option.bind_some, hfind]
  cases firstUnregistered t registered <;> rfl

theorem Item.checkedIn?_of_not_parsed (h : i.parsed = none) (session : Environments)
    (items : List Item) :
    i.checkedIn? session items = none := by
  simp only [Item.checkedIn?, h, Option.bind_eq_bind, Option.bind_none]

/-- In a document of tasks, what is not a task could not be read. -/
theorem parsed_of_task?_eq_none {reader : DefinitionReader} {document : Document}
    (hi : i ∈ segment reader .task document) (h : i.task? = none) : i.parsed = none := by
  cases hp : i.parsed with
  | none => rfl
  | some p =>
    obtain ⟨l, -, rfl⟩ := exists_itemAt_of_parsed hi hp
    obtain ⟨t, ht⟩ := exists_task?_of_parsed hp
    rw [ht] at h
    cases h

end Task

/-! ## Environments with the same name -/

/-- What is found by any name is the first environment with its own name. -/
theorem Environments.find?_of_resolve {session : Environments} {name : Option String}
    {e : Environment} (h : session.resolve name = .ok e) : session.find? e.name = some e := by
  unfold Environments.resolve at h
  split at h
  · cases h
  · next name _ =>
    split at h
    · cases h
    · next found hfound =>
      cases h
      have hname : e.name = name := by simpa using List.find?_some hfound
      rwa [hname]

theorem find?_of_checkedIn? {session : Environments} {items : List Item} {i : Item}
    {e : Environment} (h : i.checkedIn? session items = some e) :
    session.find? e.name = some e := by
  simp only [Item.checkedIn?, Option.bind_eq_bind, Option.bind_eq_some_iff] at h
  obtain ⟨-, -, r, -, henv⟩ := h
  unfold environmentAt at henv
  cases hresolve : session.resolve (declaredEnvironment items r.start) with
  | error error =>
    rw [hresolve] at henv
    cases henv
  | ok found =>
    rw [hresolve] at henv
    cases henv
    exact Environments.find?_of_resolve hresolve

/-- The environments that the items need, each as often as it is needed. -/
def needed (session : Environments) (items xs : List Item) : List Environment :=
  xs.filterMap (Item.checkedIn? session items)

section Needed

variable {session : Environments} {items xs : List Item} {e x : Environment}

theorem eq_of_mem_needed (he : session.find? e.name = some e) (hx : x ∈ needed session items xs)
    (hname : x.name = e.name) : x = e := by
  obtain ⟨i, -, hi⟩ := List.mem_filterMap.mp hx
  have hfind := find?_of_checkedIn? hi
  rw [hname, he] at hfind
  exact (Option.some.inj hfind).symm

theorem nodup_map_name_needed :
    ((needed session items xs).eraseDups.map Environment.name).Nodup := by
  rw [← eraseDups_map]
  · exact nodup_eraseDups _
  · intro a ha b hb hname
    obtain ⟨i, -, hi⟩ := List.mem_filterMap.mp hb
    exact eq_of_mem_needed (find?_of_checkedIn? hi) ha hname

end Needed

/-- In a table with one entry for each name, an environment that has been asked is found with its
answer. -/
theorem lookup_map_name {α : Type} (answer : Environment → α) {es : List Environment}
    {e : Environment} (h : ∀ x ∈ es, x.name = e.name → x = e) :
    (es.map fun x => (x.name, answer x)).lookup e.name =
      if e ∈ es then some (answer e) else none := by
  induction es with
  | nil => rfl
  | cons x es ih =>
    rw [List.map_cons, List.lookup_cons]
    by_cases hname : e.name = x.name
    · obtain rfl := h x List.mem_cons_self hname.symm
      simp
    · have hne : e ≠ x := fun heq => hname (by rw [heq])
      rw [beq_false_of_ne hname, ih fun x hx => h x (List.mem_cons_of_mem _ hx)]
      simp [hne]

/-! ## The table -/

namespace Lint

/-- What is known, asked and found after the items `xs`: each environment that was needed is known
and was asked once, in the order in which they were needed first, and each item has been checked on
its own. -/
def ofItems (client : Client) (session : Environments) (items xs : List Item) : Lint where
  known := (needed session items xs).eraseDups.map fun e =>
    (e.name, (client.registeredTaskApps e).toOption)
  calls := (needed session items xs).eraseDups.map fun e => ⟨e, .registeredTaskApps⟩
  found := xs.filterMap (Item.lint? client session items)

section Step

variable {client : Client} {session : Environments} {items xs : List Item} {i : Item}
  {e : Environment}
  {r : Range} {t : TaskDefinition}

theorem needed_concat (h : i.checkedIn? session items = some e) :
    (needed session items (xs ++ [i])).eraseDups =
      (needed session items xs).eraseDups ++ if e ∈ needed session items xs then [] else [e] := by
  rw [needed, List.filterMap_append, List.filterMap_cons_some h, List.filterMap_nil,
    eraseDups_concat]
  rfl

/-- The table has the answers of just the environments that were needed. -/
theorem lookup_known (h : session.find? e.name = some e) :
    (ofItems client session items xs).known.lookup e.name =
      if e ∈ needed session items xs then some (client.registeredTaskApps e).toOption
      else none := by
  have hsame : ∀ x ∈ (needed session items xs).eraseDups, x.name = e.name → x = e := fun x hx =>
    eq_of_mem_needed h (List.mem_eraseDups.mp hx)
  have hlookup := lookup_map_name (fun x => (client.registeredTaskApps x).toOption) hsame
  simp only [List.mem_eraseDups] at hlookup
  exact hlookup

/-- Once an item's environment has been asked for, if need be, the table is that of the items up to
it. -/
theorem ask_ofItems (h : i.checkedIn? session items = some e) :
    (ofItems client session items xs).ask client e =
      { ofItems client session items (xs ++ [i]) with
        found := (ofItems client session items xs).found } := by
  rw [ask, lookup_known (find?_of_checkedIn? h)]
  by_cases hmem : e ∈ needed session items xs
  · simp [ofItems, needed_concat h, hmem]
  · simp [ofItems, needed_concat h, hmem]

/-- The table has the answer of the environment of the last item. -/
theorem lookup_known_concat (h : i.checkedIn? session items = some e) :
    (ofItems client session items (xs ++ [i])).known.lookup e.name =
      some (client.registeredTaskApps e).toOption := by
  have hmem : e ∈ needed session items (xs ++ [i]) := List.mem_filterMap.mpr ⟨i, by simp, h⟩
  rw [lookup_known (find?_of_checkedIn? h), if_pos hmem]

/-- The task is checked against the answer of its environment. -/
theorem check_ofItems (ht : i.task? = some (r, t)) (h : i.checkedIn? session items = some e) :
    { ofItems client session items (xs ++ [i]) with
        found := (ofItems client session items xs).found }.check e r t =
      ofItems client session items (xs ++ [i]) := by
  have hfound : (ofItems client session items (xs ++ [i])).found =
      (ofItems client session items xs).found ++ (i.lint? client session items).toList :=
    filterMap_concat _ _ _
  simp only [check, lookup_known_concat h]
  cases hanswer : (client.registeredTaskApps e).toOption with
  | none =>
    have hnone : i.lint? client session items = none := by
      simp only [Item.lint?, h, hanswer, Option.bind_eq_bind, Option.bind_some, Option.bind_none]
    rw [hnone, Option.toList_none, List.append_nil] at hfound
    dsimp only
    rw [← hfound]
  | some registered =>
    have hlint : i.lint? client session items =
        (firstUnregistered t registered).map (unregisteredDiagnostic r) := by
      simp only [Item.lint?, h, hanswer, Option.bind_eq_bind, Option.bind_some,
        Item.unregistered?_of_task? ht]
    rw [hlint] at hfound
    dsimp only
    rw [← hfound]

/-- An item that needs no environment changes nothing. -/
theorem ofItems_concat_of_none (h : i.checkedIn? session items = none) :
    ofItems client session items (xs ++ [i]) = ofItems client session items xs := by
  have hlint : i.lint? client session items = none := by
    simp only [Item.lint?, h, Option.bind_eq_bind, Option.bind_none]
  simp only [ofItems, needed, filterMap_concat, h, hlint, Option.toList_none, List.append_nil]

/-- Checking one more item with the table is checking it on its own. -/
theorem step_ofItems (hi : i.task? = none → i.parsed = none) :
    step client session items (ofItems client session items xs) i =
      ofItems client session items (xs ++ [i]) := by
  unfold step
  cases ht : i.task? with
  | none =>
    exact (ofItems_concat_of_none (Item.checkedIn?_of_not_parsed (hi ht) session items)).symm
  | some found =>
    obtain ⟨r, t⟩ := found
    have hchecked := Item.checkedIn?_of_task? ht session items
    simp only
    cases henv : environmentAt items r.start session with
    | error error =>
      rw [henv] at hchecked
      exact (ofItems_concat_of_none hchecked).symm
    | ok e =>
      rw [henv] at hchecked
      simp only
      rw [ask_ofItems hchecked, check_ofItems ht hchecked]

/-- Checking items with the table is checking each of them on its own. -/
theorem foldl_step (h : ∀ i ∈ xs, i.task? = none → i.parsed = none) :
    xs.foldl (step client session items) empty = ofItems client session items xs := by
  induction xs using List.reverseRecOn with
  | nil => rfl
  | append_singleton xs i ih =>
    rw [List.foldl_append, List.foldl_cons, List.foldl_nil, ih fun i hi => h i (by simp [hi])]
    exact step_ofItems (h i (by simp))

end Step

end Lint

/-- **Tasks are checked as if each was checked on its own.** What is found in a document of tasks
are the problems of its items and then, item by item, the error about the first app that the
environment of the definition line does not know, where the definition was read, the environment is
known and answers. Each environment that is needed is asked once, whether it answers or not, in the
order in which they are needed first; no other is asked, and no two of them have the same name.
Without a client the problems are all. -/
theorem taskDiagnostics_eq_lint (reader : DefinitionReader) (document : Document)
    (session : Environments) :
    let items := segment reader .task document
    taskDiagnostics none session items = (items.filterMap Item.readError?, []) ∧
    ((needed session items items).eraseDups.map Environment.name).Nodup ∧
    ∀ client, taskDiagnostics (some client) session items =
      (items.filterMap Item.readError? ++ items.filterMap (Item.lint? client session items),
        (needed session items items).eraseDups.map fun e => ⟨e, .registeredTaskApps⟩) := by
  intro items
  rw [← problemDiagnostics_eq]
  refine ⟨rfl, nodup_map_name_needed, fun client => ?_⟩
  have hrun : items.foldl (Lint.step client session items) .empty =
      .ofItems client session items items :=
    Lint.foldl_step fun i => parsed_of_task?_eq_none
  simp only [taskDiagnostics, hrun, Lint.ofItems]

/-- Two definitions that cannot be read, and two that can. -/
def brokenTasks : Document where
  uri := "file:///tasks.scdft"
  version := 1
  text := "a = x &&\n-- @env one\nt = x && y\nx\nu = y"

/-- Two environments with the same name. -/
def namesakes : Environments where
  environments := [⟨"one", "http://first", .empty⟩, ⟨"one", "http://second", .empty⟩]
  defaultEnvironment := some "one"
  trustssl := false

/-- The first of the two environments knows one app, any other one knows two. -/
def twoRegistries : Client where
  completions _ _ _ _ := .ok []
  registeredTaskApps e := if e.url = "http://first" then .ok ["x"] else .ok ["x", "y"]
  perform _ _ := .ok ()

/-- The first environment is asked once, for both tasks, and the second one is not. -/
theorem brokenTasks_lint :
    taskDiagnostics (some twoRegistries) namesakes (segment .standard .task brokenTasks) =
      ([⟨Range.point ⟨0, 8⟩, .error, "expected app name, position 8"⟩,
          ⟨Range.point ⟨3, 0⟩, .error, "Task Definition must have a name"⟩,
          ⟨Range.onLine 2 0 10, .error, "Task app y is not registered"⟩,
          ⟨Range.onLine 4 0 5, .error, "Task app y is not registered"⟩],
        [⟨⟨"one", "http://first", .empty⟩, .registeredTaskApps⟩]) := by
  obtain ⟨-, -, hlint⟩ := taskDiagnostics_eq_lint .standard brokenTasks namesakes
  rw [hlint twoRegistries]
  decide +kernel

end Flowline
