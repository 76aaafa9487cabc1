import Flowline.Proofs.Freshness

/-!
# What closing a document forgets

Items are kept under `uri#version`. Closing a document drops all that is kept under a key that
starts with its uri and a number sign. These are the keys of all versions of the document, but also
the keys of every document whose uri goes on with a number sign, as the uri of a part of it does. So
the document alone is forgotten exactly when nothing is kept for a document of the latter sort.

* `ItemCache.Call`, `ItemCache.after`: what can be done to a cache, and what comes of it;
* `ItemCache.IsKeyed`, `IsKeyed.after`: whatever is done, a cache keeps one entry for a version of a
  document;
* `isPrefixOf_key_iff`: the keys that closing a document drops;
* `forgetsOnly_invalidate_iff`: when closing a document forgets that document alone.
-/

namespace Flowline

/-- Up to a separator that the end of a list does not have, the list starts with another one only if
that is all before its last separator, or all before an earlier one. -/
theorem append_singleton_prefix_iff {α : Type*} {xs ys zs : List α} {a : α} (hz : a ∉ zs) :
    xs ++ [a] <+: ys ++ a :: zs ↔ ys = xs ∨ ∃ more, ys = xs ++ a :: more := by
  constructor
  · rintro ⟨rest, hrest⟩
    rw [List.append_assoc, List.singleton_append] at hrest
    rcases List.append_eq_append_iff.mp hrest with ⟨more, rfl, hmore⟩ | ⟨more, rfl, hmore⟩
    · cases more with
      | nil => exact .inl (List.append_nil xs)
      | cons b more =>
        obtain ⟨rfl, -⟩ := List.cons.inj hmore
        exact .inr ⟨more, rfl⟩
    · cases more with
      | nil => exact .inl (List.append_nil ys).symm
      | cons b more =>
        obtain ⟨-, rfl⟩ := List.cons.inj hmore
        simp at hz
  · rintro (rfl | ⟨more, rfl⟩)
    · exact ⟨zs, by simp⟩
    · exact ⟨more ++ a :: zs, by simp⟩

namespace ItemCache

/-- What can be done to a cache. -/
inductive Call where
  | get (uri : String) (version : Int) (compute : Unit → List Item)
  | invalidate (uri : String)
  | evict
  | setIdle (millis : Nat)

/-- The cache after a call at a time. -/
def call (c : ItemCache) (clock : Clock) : Call → ItemCache
  | .get uri version compute => (c.get clock uri version compute).2
  | .invalidate uri => c.invalidate uri
  | .evict => c.evict clock.now
  | .setIdle millis => c.setIdle millis

/-- The cache after some calls, each with its time. -/
def after : ItemCache → List (Clock × Call) → ItemCache
  | c, [] => c
  | c, (clock, call) :: calls => (c.call clock call).after calls

/-- What is kept for a version of a document. -/
def kept (c : ItemCache) (uri : String) (version : Int) : Option CacheEntry :=
  c.entries.lookup (key uri version)

/-- From one cache to another a document is forgotten in all its versions, and no other one is. What
is kept for another document is still kept, with its items and the time at which it was last asked
for, and so it is found until it has expired. -/
structure ForgetsOnly (uri : String) (c c' : ItemCache) : Prop where
  forgotten : ∀ version, c'.kept uri version = none
  others : ∀ other, other ≠ uri → ∀ version, c'.kept other version = c.kept other version
  found : ∀ other, other ≠ uri → ∀ version e, c.kept other version = some e →
    ∀ clock : Clock, clock.now - e.lastAccess < c.idle → ∀ compute,
      (c'.get clock other version compute).1 = e.items

/-! ## What a cache keeps -/

/-- Every entry belongs to a version of a document, and no two entries have the same key. -/
structure IsKeyed (c : ItemCache) : Prop where
  owned : ∀ x ∈ c.entries, ∃ uri version, x.1 = key uri version
  nodup : (c.entries.map (·.1)).Nodup

namespace IsKeyed

variable {c c' : ItemCache}

theorem of_sublist (hc : c.IsKeyed) (h : c'.entries.Sublist c.entries) : c'.IsKeyed :=
  ⟨fun x hx => hc.owned x (h.subset hx), (h.map _).nodup hc.nodup⟩

theorem insert (hc : c.IsKeyed) (uri : String) (version : Int) (e : CacheEntry) :
    (c.insert (key uri version) e).IsKeyed := by
  constructor
  · intro x hx
    rcases List.mem_cons.mp hx with rfl | hx
    · exact ⟨uri, version, rfl⟩
    · exact hc.owned x (List.mem_of_mem_filter hx)
  · refine List.nodup_cons.mpr ⟨?_, ((List.filter_sublist).map _).nodup hc.nodup⟩
    intro hmem
    obtain ⟨x, hx, hkey⟩ := List.mem_map.mp hmem
    have hne := (List.mem_filter.mp hx).2
    simp [hkey] at hne

/-- What one call keeps. -/
theorem call (hc : c.IsKeyed) (clock : Clock) (call : Call) : (c.call clock call).IsKeyed := by
  cases call with
  | get uri version compute =>
    simp only [ItemCache.call, ItemCache.get]
    split
    · exact hc.insert uri version _
    · have hevict : (c.evict clock.now).IsKeyed := hc.of_sublist List.filter_sublist
      exact hevict.insert uri version _
  | invalidate uri => exact hc.of_sublist List.filter_sublist
  | evict => exact hc.of_sublist List.filter_sublist
  | setIdle millis => exact hc.of_sublist (List.Sublist.refl _)

/-- The run: what one call keeps, all of them keep. -/
theorem after (hc : c.IsKeyed) (calls : List (Clock × Call)) : (c.after calls).IsKeyed := by
  induction calls generalizing c with
  | nil => exact hc
  | cons timed calls ih => exact ih (hc.call timed.1 timed.2)

theorem empty (idle : Nat) : IsKeyed ⟨[], idle⟩ :=
  ⟨fun _ hx => absurd hx List.not_mem_nil, List.nodup_nil⟩

/-- The entries of a cache are what it keeps for the versions of documents. -/
theorem mem_entries_iff (hc : c.IsKeyed) {k : String} {e : CacheEntry} :
    (k, e) ∈ c.entries ↔ ∃ uri version, k = key uri version ∧ c.kept uri version = some e := by
  constructor
  · intro hmem
    obtain ⟨uri, version, hkey⟩ := hc.owned _ hmem
    refine ⟨uri, version, hkey, ?_⟩
    obtain ⟨before, after, hsplit⟩ := List.append_of_mem hmem
    refine List.lookup_eq_some_iff.mpr ⟨before, after, ?_, ?_⟩
    · rw [hsplit, ← hkey]
    · -- an entry before this one has another key
      intro x hx
      have hnodup := hc.nodup
      rw [hsplit, List.map_append, List.map_cons, List.nodup_append] at hnodup
      have hne := hnodup.2.2 x.1 (List.mem_map_of_mem hx) k List.mem_cons_self
      rw [← hkey]
      simpa using hne.symm
  · rintro ⟨uri, version, rfl, hkept⟩
    obtain ⟨before, after, hsplit, -⟩ := List.lookup_eq_some_iff.mp hkept
    rw [hsplit]
    simp

end IsKeyed

/-! ## The keys that are dropped -/

/-- A key starts with a uri and a number sign if it is a key of that uri, or of one that goes on
with a number sign. -/
theorem isPrefixOf_key_iff (uri other : String) (version : Int) :
    (uri ++ "#").toList.isPrefixOf (key other version).toList = true ↔
      other = uri ∨ ∃ fragment, other = uri ++ "#" ++ fragment := by
  have hsign : (uri ++ "#").toList = uri.toList ++ ['#'] := String.toList_append
  rw [List.isPrefixOf_iff_prefix, toList_key, hsign,
    append_singleton_prefix_iff (not_mem_toString version), String.toList_inj]
  refine or_congr_right ⟨?_, ?_⟩
  · rintro ⟨more, hmore⟩
    refine ⟨String.ofList more, String.toList_inj.mp ?_⟩
    rw [String.toList_append, hsign, String.toList_ofList, List.append_assoc, hmore]
    rfl
  · rintro ⟨fragment, rfl⟩
    refine ⟨fragment.toList, ?_⟩
    rw [String.toList_append, hsign, List.append_assoc]
    rfl

variable {c : ItemCache} {uri other : String} {version : Int}

theorem kept_invalidate_eq_none
    (h : other = uri ∨ ∃ fragment, other = uri ++ "#" ++ fragment) :
    (c.invalidate uri).kept other version = none := by
  rw [kept, invalidate, lookup_filter_key (fun k => !(uri ++ "#").toList.isPrefixOf k.toList),
    (isPrefixOf_key_iff uri other version).mpr h]
  rfl

theorem kept_invalidate_eq_kept
    (h : ¬ (other = uri ∨ ∃ fragment, other = uri ++ "#" ++ fragment)) :
    (c.invalidate uri).kept other version = c.kept other version := by
  rw [kept, invalidate, lookup_filter_key (fun k => !(uri ++ "#").toList.isPrefixOf k.toList),
    if_pos]
  · rfl
  · rw [← isPrefixOf_key_iff uri other version, Bool.not_eq_true] at h
    rw [h]
    rfl

/-- What is kept is found until it has expired, and nothing is computed then. -/
theorem get_of_kept {e : CacheEntry} {clock : Clock} (h : c.kept other version = some e)
    (hfresh : clock.now - e.lastAccess < c.idle) (compute : Unit → List Item) :
    (c.get clock other version compute).1 = e.items := by
  have hfound : c.find? clock.now (key other version) = some e.items := by
    rw [kept] at h
    simp only [find?, h, isFresh, decide_eq_true hfresh, if_true]
  simp only [get, hfound]

theorem forgetsOnly_invalidate
    (h : ∀ fragment version, c.kept (uri ++ "#" ++ fragment) version = none) :
    ForgetsOnly uri c (c.invalidate uri) := by
  have hothers : ∀ other, other ≠ uri → ∀ version,
      (c.invalidate uri).kept other version = c.kept other version := by
    intro other hne version
    by_cases hmore : ∃ fragment, other = uri ++ "#" ++ fragment
    · rw [kept_invalidate_eq_none (.inr hmore)]
      obtain ⟨fragment, rfl⟩ := hmore
      exact (h fragment version).symm
    · exact kept_invalidate_eq_kept (not_or.mpr ⟨hne, hmore⟩)
  refine ⟨fun version => kept_invalidate_eq_none (.inl rfl), hothers, ?_⟩
  intro other hne version e he clock hfresh compute
  exact get_of_kept ((hothers other hne version).trans he) hfresh compute

/-- **When closing a document forgets that document alone.** Let any calls be made on an empty
cache, at any times. The cache then keeps one entry for each version of a document that it knows,
and nothing else. Closing a document drops the entries of all its versions, and every entry of a
document whose uri does not go on with a number sign behind the closed one stays. The document alone
is forgotten if and only if nothing is kept for a document whose uri goes on with a number sign. -/
theorem forgetsOnly_invalidate_iff (idle : Nat) (calls : List (Clock × Call)) (uri : String) :
    let c := after ⟨[], idle⟩ calls
    (∀ k e, (k, e) ∈ c.entries ↔
      ∃ other version, k = key other version ∧ c.kept other version = some e) ∧
    (∀ version, (c.invalidate uri).kept uri version = none) ∧
    (∀ other, other ≠ uri → (∀ fragment, other ≠ uri ++ "#" ++ fragment) → ∀ version,
      (c.invalidate uri).kept other version = c.kept other version) ∧
    (ForgetsOnly uri c (c.invalidate uri) ↔
      ∀ fragment version, c.kept (uri ++ "#" ++ fragment) version = none) := by
  intro c
  refine ⟨fun k e => ((IsKeyed.empty idle).after calls).mem_entries_iff,
    fun version => kept_invalidate_eq_none (.inl rfl), ?_, ?_, forgetsOnly_invalidate⟩
  · intro other hne hmore version
    exact kept_invalidate_eq_kept (not_or.mpr ⟨hne, not_exists.mpr hmore⟩)
  · intro h fragment version
    have hne : uri ++ "#" ++ fragment ≠ uri := by
      intro heq
      have hlength := congrArg String.length heq
      simp only [String.length_append] at hlength
      have : "#".length = 1 := rfl
      omega
    rw [← h.others _ hne version]
    exact kept_invalidate_eq_none (.inr ⟨fragment, rfl⟩)

/-- Two versions of a document, a document whose uri goes on without a number sign, and a part of
another document are asked for. -/
def neighbours : List (Clock × Call) :=
  [(⟨0, 1⟩, .get "file:///a" 1 fun _ => []), (⟨10, 12⟩, .get "file:///a" (-2) fun _ => []),
    (⟨20, 20⟩, .get "file:///ab" 1 fun _ => []), (⟨30, 35⟩, .get "file:///b#a" 1 fun _ => [])]

/-- The versions of the document are forgotten, and the others are kept. -/
theorem neighbours_forgetsOnly :
    let c := after empty neighbours
    (∀ fragment version, c.kept ("file:///a" ++ "#" ++ fragment) version = none) ∧
      c.size = 4 ∧ (c.invalidate "file:///a").size = 2 ∧
      ForgetsOnly "file:///a" c (c.invalidate "file:///a") := by
  intro c
  have hunder : ∀ fragment version, c.kept ("file:///a" ++ "#" ++ fragment) version = none := by
    intro fragment version
    have hkeys : c.entries.map (·.1) =
        [key "file:///b#a" 1, key "file:///ab" 1, key "file:///a" (-2), key "file:///a" 1] := by
      decide +kernel
    refine List.lookup_eq_none_iff.mpr fun x hx => bne_iff_ne.mpr fun heq => ?_
    have hmem : x.1 ∈ c.entries.map (·.1) := List.mem_map_of_mem hx
    rw [hkeys, ← heq] at hmem
    -- none of the four uris starts with the closed one and a number sign
    have hother : ∀ uri v, key ("file:///a" ++ "#" ++ fragment) version = key uri v →
        ("file:///a" ++ "#").toList.isPrefixOf uri.toList = true := by
      intro uri v hkey
      rw [← (key_inj hkey).1]
      exact List.isPrefixOf_iff_prefix.mpr ⟨fragment.toList, String.toList_append.symm⟩
    simp only [List.mem_cons, List.not_mem_nil, or_false] at hmem
    rcases hmem with h | h | h | h
    · exact absurd (hother _ _ h) (by decide)
    · exact absurd (hother _ _ h) (by decide)
    · exact absurd (hother _ _ h) (by decide)
    · exact absurd (hother _ _ h) (by decide)
  exact ⟨hunder, by decide +kernel, by decide +kernel,
    (forgetsOnly_invalidate_iff 60000 neighbours "file:///a").2.2.2.mpr hunder⟩

/-- A document and a part of it are asked for. -/
def tappedParts : List (Clock × Call) :=
  [(⟨0, 4⟩, .get "file:///streams.scdfs" 1 fun _ => []),
    (⟨10, 12⟩, .get "file:///streams.scdfs#taps" 1 fun _ => [])]

/-- Closing the document forgets the part too. -/
theorem tappedParts_not_forgetsOnly :
    let c := after empty tappedParts
    c.kept "file:///streams.scdfs#taps" 1 = some ⟨[], 12⟩ ∧
      (c.invalidate "file:///streams.scdfs").kept "file:///streams.scdfs#taps" 1 = none ∧
      ¬ ForgetsOnly "file:///streams.scdfs" c (c.invalidate "file:///streams.scdfs") := by
  intro c
  have hkept : c.kept "file:///streams.scdfs#taps" 1 = some ⟨[], 12⟩ := by decide +kernel
  have hdropped :
      (c.invalidate "file:///streams.scdfs").kept "file:///streams.scdfs#taps" 1 = none := by
    decide +kernel
  refine ⟨hkept, hdropped, fun h => ?_⟩
  have hsame := h.others "file:///streams.scdfs#taps" (by decide) 1
  rw [hkept, hdropped] at hsame
  cases hsame

end ItemCache

end Flowline
