/-!
# Properties

The settings of a deployment: values by key, in the order of the keys. The last value given for a
key counts.

* `Properties.insert`, `Properties.ofList`;
* `Properties.ofList_entries`: properties are determined by their entries.
-/

namespace Flowline

/-- Puts a value into a list of entries in the order of the keys. -/
def insertEntry (key value : String) : List (String × String) → List (String × String)
  | [] => [(key, value)]
  | (k, v) :: rest =>
    if key < k then (key, value) :: (k, v) :: rest
    else if key = k then (key, value) :: rest
    else (k, v) :: insertEntry key value rest

/-- The keys of the entries increase. -/
def Ordered (entries : List (String × String)) : Prop :=
  entries.Pairwise fun a b => a.1 < b.1

theorem mem_insertEntry {key value : String} {e : String × String}
    {entries : List (String × String)} (h : e ∈ insertEntry key value entries) :
    e = (key, value) ∨ e ∈ entries := by
  induction entries with
  | nil => simpa [insertEntry] using h
  | cons x rest ih =>
    rw [insertEntry] at h
    split at h
    · simpa using h
    · split at h
      · simp only [List.mem_cons] at h ⊢
        exact h.imp_right Or.inr
      · simp only [List.mem_cons] at h ⊢
        rcases h with h | h
        · exact Or.inr (Or.inl h)
        · exact (ih h).imp_right Or.inr

theorem Ordered.insertEntry {entries : List (String × String)} (h : Ordered entries)
    (key value : String) : Ordered (Flowline.insertEntry key value entries) := by
  induction entries with
  | nil => simp [Ordered, Flowline.insertEntry]
  | cons x rest ih =>
    obtain ⟨hx, hrest⟩ := List.pairwise_cons.1 h
    rw [Flowline.insertEntry]
    split
    · next hlt =>
      refine List.pairwise_cons.2 ⟨fun e he => ?_, h⟩
      rcases List.mem_cons.1 he with rfl | he
      · exact hlt
      · exact String.lt_trans hlt (hx e he)
    · next hlt =>
      split
      · next heq =>
        subst heq
        exact List.pairwise_cons.2 ⟨hx, hrest⟩
      · next hne =>
        have hgt : x.1 < key := by grind
        refine List.pairwise_cons.2 ⟨fun e he => ?_, ih hrest⟩
        rcases mem_insertEntry he with rfl | he
        · exact hgt
        · exact hx e he

/-- Values by key. -/
structure Properties where
  entries : List (String × String)
  ordered : Ordered entries
  deriving DecidableEq

namespace Properties

def empty : Properties :=
  ⟨[], List.Pairwise.nil⟩

instance : Inhabited Properties :=
  ⟨empty⟩

instance : Repr Properties :=
  ⟨fun p n => reprPrec p.entries n⟩

/-- Sets the value of a key. -/
def insert (p : Properties) (key value : String) : Properties :=
  ⟨insertEntry key value p.entries, p.ordered.insertEntry key value⟩

/-- The properties that a list of settings leaves. -/
def ofList (settings : List (String × String)) : Properties :=
  settings.foldl (fun p s => p.insert s.1 s.2) empty

/-- Inserting a key above all others puts it last. -/
theorem insertEntry_append {key value : String} {entries : List (String × String)}
    (h : ∀ e ∈ entries, e.1 < key) : insertEntry key value entries = entries ++ [(key, value)] := by
  induction entries with
  | nil => rfl
  | cons x rest ih =>
    have hx := h x (by simp)
    have h1 : ¬ key < x.1 := String.lt_asymm hx
    have h2 : key ≠ x.1 := fun he => String.lt_irrefl x.1 (he ▸ hx)
    rw [insertEntry, if_neg h1, if_neg h2, ih fun e he => h e (by simp [he])]
    rfl

theorem foldl_insert_entries (p : Properties) (settings : List (String × String))
    (h : Ordered (p.entries ++ settings)) :
    (settings.foldl (fun p s => p.insert s.1 s.2) p).entries = p.entries ++ settings := by
  induction settings generalizing p with
  | nil => simp
  | cons s rest ih =>
    have hlast : ∀ e ∈ p.entries, e.1 < s.1 := fun e he =>
      (List.pairwise_append.1 h).2.2 e he s (by simp)
    have hins : (p.insert s.1 s.2).entries = p.entries ++ [s] := insertEntry_append hlast
    have hassoc : (p.insert s.1 s.2).entries ++ rest = p.entries ++ s :: rest := by
      rw [hins]
      simp
    rw [List.foldl_cons, ih _ (by rw [hassoc]; exact h), hassoc]

theorem ofList_entries (p : Properties) : ofList p.entries = p := by
  have h := foldl_insert_entries empty p.entries (by simpa [empty] using p.ordered)
  cases p with
  | mk entries ordered =>
    simp only [ofList, empty, List.nil_append] at h ⊢
    generalize List.foldl _ _ _ = q at h ⊢
    cases q
    simp_all

end Properties

end Flowline
