import Flowline.Workspace.Basic
import Mathlib.Data.List.DropRight
import Mathlib.Data.List.Nodup

/-!
# What is kept is never stale

A workspace answers from what it keeps, which may be older than the text that is asked about. It
keeps items under `uri#version`, so this is right as long as a version is used once for a uri until
the uri is closed. Then the answers are those of a history without a cache: the documents that were
put under each uri since it was last closed, the latest of which is the current one.

* `ItemCache.key_inj`: a key determines uri and version;
* `Url.language?`: the language of a document that is opened;
* `Workspace.Operation`, `Workspace.answers`: what can be done to a workspace, and what it answers;
* `History`, `freshAnswers`: the answers from the current texts;
* `Agrees`, `Agrees.step`: what ties a workspace to a history, and how one operation keeps it;
* `answers_eq_freshAnswers`: every answer is the one from the current text.
-/

namespace Flowline

/-! ## Keys -/

/-- The last occurrence of a separator determines what is before it and what is after it. -/
theorem append_cons_inj_of_notMem_right {α : Type*} {xs ys xs' ys' : List α} {a : α} (hy : a ∉ ys)
    (hy' : a ∉ ys') (h : xs ++ a :: ys = xs' ++ a :: ys') : xs = xs' ∧ ys = ys' := by
  rcases List.append_eq_append_iff.mp h with ⟨cs, rfl, hcs⟩ | ⟨cs, rfl, hcs⟩
  · cases cs with
    | nil => exact ⟨(List.append_nil _).symm, (List.cons.inj hcs).2⟩
    | cons c cs =>
      rw [(List.cons.inj hcs).2] at hy
      exact absurd (List.mem_append_right _ List.mem_cons_self) hy
  · cases cs with
    | nil => exact ⟨List.append_nil _, (List.cons.inj hcs).2.symm⟩
    | cons c cs =>
      rw [(List.cons.inj hcs).2] at hy'
      exact absurd (List.mem_append_right _ List.mem_cons_self) hy'

theorem isDigit_of_mem_repr {n : Nat} {c : Char} (h : c ∈ n.repr.toList) : c.isDigit = true := by
  rw [Nat.repr_eq_ofList_toDigits, String.toList_ofList] at h
  exact Nat.isDigit_of_mem_toDigits (by decide) (by decide) h

theorem eq_of_repr_eq {m n : Nat} (h : m.repr = n.repr) : m = n := by
  rw [Nat.repr_eq_ofList_toDigits, Nat.repr_eq_ofList_toDigits, String.ofList_inj] at h
  have hdigits := congrArg (Nat.ofDigitChars 10 · 0) h
  simpa [Nat.ofDigitChars_toDigits] using hdigits

theorem toList_toString_negSucc (n : Nat) :
    (toString (Int.negSucc n)).toList = '-' :: n.succ.repr.toList := by
  show ("-" ++ n.succ.repr).toList = _
  rw [String.toList_append]
  rfl

theorem not_mem_toString (version : Int) : '#' ∉ (toString version).toList := by
  intro h
  cases version with
  | ofNat n => exact absurd (isDigit_of_mem_repr (n := n) h) (by decide)
  | negSucc n =>
    rw [toList_toString_negSucc, List.mem_cons] at h
    rcases h with h | h
    · exact absurd h (by decide)
    · exact absurd (isDigit_of_mem_repr h) (by decide)

/-- A version is determined by its text. -/
theorem version_inj {m n : Int} (h : (toString m).toList = (toString n).toList) : m = n := by
  -- Only a negative version has a minus, which is no digit.
  have hne (a b : Nat) : (toString (Int.ofNat a)).toList ≠ (toString (Int.negSucc b)).toList := by
    intro hab
    have hminus : '-' ∈ a.repr.toList := by
      rw [show a.repr.toList = _ from hab, toList_toString_negSucc]
      exact List.mem_cons_self
    exact absurd (isDigit_of_mem_repr hminus) (by decide)
  cases m with
  | ofNat a =>
    cases n with
    | ofNat b => rw [eq_of_repr_eq (String.toList_inj.mp h)]
    | negSucc b => exact absurd h (hne a b)
  | negSucc a =>
    cases n with
    | ofNat b => exact absurd h.symm (hne b a)
    | negSucc b =>
      rw [toList_toString_negSucc, toList_toString_negSucc] at h
      have hsucc := eq_of_repr_eq (String.toList_inj.mp (List.cons.inj h).2)
      rw [Nat.succ.inj hsucc]

namespace ItemCache

theorem toList_key (uri : String) (version : Int) :
    (key uri version).toList = uri.toList ++ '#' :: (toString version).toList := by
  rw [key, String.toList_append, String.toList_append, List.append_assoc]
  rfl

/-- A key determines its uri and its version, whatever the uri holds. -/
theorem key_inj {uri uri' : String} {version version' : Int}
    (h : key uri version = key uri' version') : uri = uri' ∧ version = version' := by
  have hlist := congrArg String.toList h
  rw [toList_key, toList_key] at hlist
  obtain ⟨huri, hversion⟩ :=
    append_cons_inj_of_notMem_right (not_mem_toString _) (not_mem_toString _) hlist
  exact ⟨String.toList_inj.mp huri, version_inj hversion⟩

theorem isPrefixOf_key (uri : String) (version : Int) :
    (uri ++ "#").toList.isPrefixOf (key uri version).toList = true := by
  rw [List.isPrefixOf_iff_prefix, toList_key, String.toList_append]
  exact ⟨(toString version).toList, List.append_assoc _ _ _⟩

/-! ## The cache -/

variable {c : ItemCache} {clock : Clock} {uri : String} {version : Int} {compute : Unit → List Item}

theorem exists_mem_of_find? {now : Nat} {k : String} {items : List Item}
    (h : c.find? now k = some items) :
    ∃ e, (k, e) ∈ c.entries ∧ e.items = items := by
  rw [find?] at h
  split at h
  · next e he =>
    obtain ⟨-, hitems⟩ := Option.ite_none_right_eq_some.mp h
    obtain ⟨before, after, hsplit, -⟩ := List.lookup_eq_some_iff.mp he
    exact ⟨e, by rw [hsplit]; simp, Option.some.inj hitems⟩
  · cases h

/-- If all that is kept under a key is right, so is the answer. -/
theorem get_fst (h : ∀ e, (key uri version, e) ∈ c.entries → e.items = compute ()) :
    (c.get clock uri version compute).1 = compute () := by
  rw [get]
  split
  · next items hfound =>
    obtain ⟨e, he, rfl⟩ := exists_mem_of_find? hfound
    exact h e he
  · rfl

/-- What is kept after an answer was kept before, or is that answer. -/
theorem mem_get {k : String} {e : CacheEntry}
    (h : (k, e) ∈ (c.get clock uri version compute).2.entries) :
    (k, e) ∈ c.entries ∨ k = key uri version ∧ e.items = (c.get clock uri version compute).1 := by
  rw [get] at h ⊢
  split at h
  · rcases List.mem_cons.mp h with hx | hx
    · cases hx
      exact .inr ⟨rfl, rfl⟩
    · exact .inl (List.mem_of_mem_filter hx)
  · rcases List.mem_cons.mp h with hx | hx
    · cases hx
      exact .inr ⟨rfl, rfl⟩
    · exact .inl (List.mem_of_mem_filter (List.mem_of_mem_filter hx))

end ItemCache

/-! ## The documents -/

theorem lookup_cons_eq_ite {β : Type*} (k key : String) (b : β) (pairs : List (String × β)) :
    ((key, b) :: pairs).lookup k = if k = key then some b else pairs.lookup k := by
  by_cases h : k = key
  · rw [if_pos h, h, List.lookup_cons_self]
  · rw [if_neg h, List.lookup_cons, beq_false_of_ne h]

/-- Dropping pairs by their keys leaves what is found under the other keys. -/
theorem lookup_filter_key {β : Type*} (p : String → Bool) (pairs : List (String × β)) (k : String) :
    (pairs.filter fun pair => p pair.1).lookup k = if p k then pairs.lookup k else none := by
  induction pairs with
  | nil => simp
  | cons pair pairs ih =>
    obtain ⟨key, b⟩ := pair
    by_cases hkey : p key = true
    · rw [List.filter_cons_of_pos (by exact hkey), lookup_cons_eq_ite, lookup_cons_eq_ite, ih]
      by_cases hk : k = key
      · rw [if_pos hk, if_pos hk, hk, if_pos hkey]
      · rw [if_neg hk, if_neg hk]
    · rw [List.filter_cons_of_neg (by exact hkey), lookup_cons_eq_ite, ih]
      by_cases hk : k = key
      · rw [hk, if_neg hkey, if_neg hkey]
      · rw [if_neg hk]

theorem lookup_insertDocument (uri : String) (d : OpenDocument)
    (docs : List (String × OpenDocument)) (u : String) :
    (insertDocument uri d docs).lookup u = if u = uri then some d else docs.lookup u := by
  induction docs with
  | nil => exact lookup_cons_eq_ite u uri d []
  | cons doc docs ih =>
    obtain ⟨uri', d'⟩ := doc
    rw [insertDocument]
    split
    · exact lookup_cons_eq_ite u uri d _
    · split
      · next heq =>
        subst heq
        simp only [lookup_cons_eq_ite]
        split <;> rfl
      · next hne =>
        simp only [lookup_cons_eq_ite, ih]
        by_cases hu : u = uri
        · rw [if_pos hu, if_pos hu, if_neg (fun heq => hne (hu.symm.trans heq))]
        · rw [if_neg hu, if_neg hu]

theorem lookup_filter_ne (uri : String) (docs : List (String × OpenDocument)) (u : String) :
    (docs.filter fun d => d.1 != uri).lookup u = if u = uri then none else docs.lookup u := by
  rw [lookup_filter_key (· != uri)]
  by_cases hu : u = uri
  · rw [if_pos hu, if_neg (by simp [hu])]
  · rw [if_neg hu, if_pos (by simp [hu])]

/-! ## Operations -/

namespace Workspace

section Items

variable {w : Workspace} {uri : String}

theorem definitions?_eq (w : Workspace) (uri : String) :
    w.definitions? uri =
      (w.find? uri).bind fun d => (d.language.bind Language.dialect).map fun l =>
        (d.document, l) := by
  rw [definitions?]
  cases w.find? uri with
  | none => rfl
  | some d =>
    obtain ⟨document, language⟩ := d
    cases language with
    | none => rfl
    | some language => cases language <;> rfl

theorem items_of_none (clock : Clock) (h : w.definitions? uri = none) :
    w.items clock uri = (none, w) := by
  rw [items, h]

theorem items_of_some (clock : Clock) {document : Document} {dialect : Dialect}
    (h : w.definitions? uri = some (document, dialect)) :
    let kept := w.cache.get clock document.uri document.version fun _ =>
      segment .standard dialect document
    (w.items clock uri).1 = some kept.1 ∧ (w.items clock uri).2.documents = w.documents ∧
      (w.items clock uri).2.cache = kept.2 := by
  rw [items, h]
  exact ⟨rfl, rfl, rfl⟩

end Items

/-- What can be done to a workspace. -/
inductive Operation where
  | update (url : Url) (languageId text : String) (version : Int)
  | change (url : Url) (text : String) (version : Int)
  | remove (url : Url)
  | items (uri : String)
  | symbols (uri : String)
  | evict
  | setIdle (millis : Nat)

/-- What comes back. -/
inductive Outcome where
  | done
  | items (items : Option (List Item))
  | symbols (table : Option SymbolTable)

/-- What an operation at a time answers and leaves. -/
def step (w : Workspace) (clock : Clock) : Operation → Outcome × Workspace
  | .update url languageId text version => (.done, w.update url languageId text version)
  | .change url text version => (.done, w.change url text version)
  | .remove url => (.done, w.remove url)
  | .items uri => (.items (w.items clock uri).1, (w.items clock uri).2)
  | .symbols uri => (.symbols (w.symbols clock uri).1, (w.symbols clock uri).2)
  | .evict => (.done, w.evict clock.now)
  | .setIdle millis => (.done, w.setIdle millis)

/-- The answers to operations one after the other, each with its time. -/
def answers : Workspace → List (Clock × Operation) → List Outcome
  | _, [] => []
  | w, (clock, op) :: ops => (w.step clock op).1 :: (w.step clock op).2.answers ops

end Workspace

open Workspace

/-! ## The languages of documents -/

/-- The language with an identifier. -/
def Language.withId? (languageId : String) : Option Language :=
  [stream, streamRuntime, task, app].find? fun language => language.id == languageId

/-- What follows the last dot in the last segment of a url's path. -/
def Url.extension? (url : Url) : Option String :=
  match url.path with
  | .rootless _ => none
  | .segments parts =>
    parts.getLast?.bind fun file =>
      if '.' ∈ file.toList then some (String.ofList (file.toList.rtakeWhile (· != '.'))) else none

/-- The language of a document that is opened with an identifier: the one that has the identifier
or, if there is none, the one that has the extension of the url. -/
def Url.language? (url : Url) (languageId : String) : Option Language :=
  (Language.withId? languageId).or (url.extension?.bind Language.withId?)

theorem Language.ofId?_eq_withId? : Language.ofId? = Language.withId? := by
  funext languageId
  unfold ofId?
  split
  · rfl
  · rfl
  · rfl
  · rfl
  · next hstream hruntime htask happ =>
    have hne : ∀ l ∈ [stream, streamRuntime, task, app], ¬(l.id == languageId) = true := by
      simp only [List.forall_mem_cons, beq_iff_eq]
      exact ⟨Ne.symm hstream, Ne.symm hruntime, Ne.symm htask, Ne.symm happ, by simp⟩
    exact (List.find?_eq_none.mpr hne).symm

theorem cutFirst_eq (sep : Char) (text : List Char) :
    cutFirst sep text =
      if sep ∈ text then
        some (text.takeWhile (· != sep), (text.dropWhile (· != sep)).drop 1)
      else none := by
  induction text with
  | nil => rfl
  | cons c rest ih =>
    rw [cutFirst]
    by_cases hc : c = sep
    · simp [hc]
    · rw [if_neg hc, ih]
      by_cases hrest : sep ∈ rest
      · simp [hc, hrest]
      · simp [Ne.symm hc, hrest]

/-- What follows the last occurrence of a character. -/
theorem snd_cutLast (sep : Char) (text : List Char) :
    (cutLast sep text).map (·.2) =
      if sep ∈ text then some (text.rtakeWhile (· != sep)) else none := by
  rw [cutLast, cutFirst_eq]
  by_cases hsep : sep ∈ text
  · simp [hsep, List.rtakeWhile]
  · simp [hsep]

theorem Url.extension?_eq (url : Url) :
    url.extension? =
      url.file?.bind fun file => ((cutLast '.' file.toList).map (·.2)).map String.ofList := by
  simp only [snd_cutLast, apply_ite (Option.map String.ofList), Option.map_some, Option.map_none]
  unfold Url.extension? Url.file? Url.segments?
  cases url.path with
  | rootless text => rfl
  | segments parts => cases parts <;> rfl

theorem languageOfUrl_eq (url : Url) :
    languageOfUrl url = url.extension?.bind Language.withId? := by
  rw [languageOfUrl, Language.ofId?_eq_withId?, url.extension?_eq]
  cases url.file? with
  | none => rfl
  | some file =>
    show ((cutLast '.' file.toList).bind fun cut => Language.withId? (String.ofList cut.2)) = _
    rw [Option.bind_some]
    cases cutLast '.' file.toList <;> rfl

/-- A document is opened with the uri, the version and the text that are given. -/
theorem OpenDocument.ofText_eq (url : Url) (languageId text : String) (version : Int) :
    OpenDocument.ofText url languageId text version =
      ⟨⟨url.render, version, text⟩, url.language? languageId⟩ := by
  rw [OpenDocument.ofText, Language.ofId?_eq_withId?, languageOfUrl_eq]
  rfl

/-! ## The answers from the current texts -/

/-- The items of a document with definitions. -/
def OpenDocument.freshItems (d : OpenDocument) : Option (List Item) :=
  match d.language with
  | some .stream => some (segment .standard .stream d.document)
  | some .streamRuntime => some (segment .standard .stream d.document)
  | some .task => some (segment .standard .task d.document)
  | some .app => none
  | none => none

theorem OpenDocument.freshItems_eq (d : OpenDocument) :
    d.freshItems =
      (d.language.bind Language.dialect).map fun l => segment .standard l d.document := by
  obtain ⟨document, language⟩ := d
  cases language with
  | none => rfl
  | some language => cases language <;> rfl

/-- The symbols of a document of a known language. -/
def OpenDocument.freshSymbols (d : OpenDocument) : Option SymbolTable :=
  match d.language with
  | none => none
  | some .app => some (SymbolTable.ofEntries (manifestOf d.document))
  | some _ => d.freshItems.map SymbolTable.ofItems

/-- The documents that were put under each uri since it was last closed, the latest first. -/
structure History where
  documents : String → List OpenDocument

namespace History

def empty : History :=
  ⟨fun _ => []⟩

/-- The document that is open under a uri. -/
def current (h : History) (uri : String) : Option OpenDocument :=
  (h.documents uri).head?

/-- The versions that a uri has had. -/
def versions (h : History) (uri : String) : List Int :=
  (h.documents uri).map (·.document.version)

def put (h : History) (d : OpenDocument) : History :=
  ⟨fun uri => if uri = d.document.uri then d :: h.documents uri else h.documents uri⟩

def close (h : History) (closed : String) : History :=
  ⟨fun uri => if uri = closed then [] else h.documents uri⟩

/-- The language of a document whose text changes: the one that it has or, if it is not open, the
one that has the extension of its url. -/
def language? (h : History) (url : Url) : Option Language :=
  match h.current url.render with
  | some d => d.language
  | none => url.extension?.bind Language.withId?

/-- Every document is under its uri, and none has the version of another one there. -/
structure IsVersioned (h : History) : Prop where
  named : ∀ uri, ∀ d ∈ h.documents uri, d.document.uri = uri
  nodup : ∀ uri, (h.versions uri).Nodup

end History

namespace Workspace.Operation

/-- The history after an operation. -/
def record (h : History) : Operation → History
  | update url languageId text version =>
    h.put ⟨⟨url.render, version, text⟩, url.language? languageId⟩
  | change url text version => h.put ⟨⟨url.render, version, text⟩, h.language? url⟩
  | remove url => h.close url.render
  | items _ => h
  | symbols _ => h
  | evict => h
  | setIdle _ => h

/-- A version that is put under a uri is not one that the uri has had since it was last closed. -/
def IsNew (h : History) : Operation → Prop
  | update url _ _ version => version ∉ h.versions url.render
  | change url _ version => version ∉ h.versions url.render
  | _ => True

/-- The answer from the current text. -/
def fresh (h : History) : Operation → Outcome
  | items uri => .items ((h.current uri).bind OpenDocument.freshItems)
  | symbols uri => .symbols ((h.current uri).bind OpenDocument.freshSymbols)
  | _ => .done

instance (h : History) (op : Operation) : Decidable (op.IsNew h) :=
  match op with
  | update url _ _ version => inferInstanceAs (Decidable (version ∉ h.versions url.render))
  | change url _ version => inferInstanceAs (Decidable (version ∉ h.versions url.render))
  | remove _ | items _ | symbols _ | evict | setIdle _ => .isTrue trivial

end Workspace.Operation

/-- No version is put under a uri twice, unless the uri is closed in between. -/
def VersionsOnce : History → List (Clock × Operation) → Prop
  | _, [] => True
  | h, (_, op) :: ops => op.IsNew h ∧ VersionsOnce (op.record h) ops

instance decidableVersionsOnce : (h : History) → (ops : List (Clock × Operation)) →
    Decidable (VersionsOnce h ops)
  | _, [] => .isTrue trivial
  | h, (_, op) :: ops =>
    have := decidableVersionsOnce (op.record h) ops
    inferInstanceAs (Decidable (op.IsNew h ∧ VersionsOnce (op.record h) ops))

/-- The answers from the current texts. -/
def freshAnswers : History → List (Clock × Operation) → List Outcome
  | _, [] => []
  | h, (_, op) :: ops => op.fresh h :: freshAnswers (op.record h) ops

/-! ## How histories grow -/

namespace History

variable {h : History} {d : OpenDocument} {uri : String}

theorem current_put :
    (h.put d).current uri = if uri = d.document.uri then some d else h.current uri := by
  simp only [current, put]
  split <;> rfl

theorem versions_put :
    (h.put d).versions uri =
      if uri = d.document.uri then d.document.version :: h.versions uri else h.versions uri := by
  simp only [versions, put]
  split <;> rfl

theorem mem_put {e : OpenDocument} :
    e ∈ (h.put d).documents uri ↔ uri = d.document.uri ∧ e = d ∨ e ∈ h.documents uri := by
  simp only [put]
  split
  · next huri => simp [huri]
  · next huri => simp [huri]

theorem current_close {closed : String} :
    (h.close closed).current uri = if uri = closed then none else h.current uri := by
  simp only [current, close]
  split <;> rfl

theorem mem_close {closed : String} {e : OpenDocument} :
    e ∈ (h.close closed).documents uri ↔ uri ≠ closed ∧ e ∈ h.documents uri := by
  simp only [close]
  split
  · next huri => simp [huri]
  · next huri => simp [huri]

theorem isVersioned_empty : empty.IsVersioned :=
  ⟨fun _ _ hd => absurd hd List.not_mem_nil, fun _ => List.nodup_nil⟩

theorem IsVersioned.put (hh : h.IsVersioned) (hd : d.document.version ∉ h.versions d.document.uri) :
    (h.put d).IsVersioned := by
  constructor
  · intro uri e he
    rcases mem_put.mp he with ⟨rfl, rfl⟩ | he
    · rfl
    · exact hh.named uri e he
  · intro uri
    rw [versions_put]
    split
    · next huri =>
      subst huri
      exact List.nodup_cons.mpr ⟨hd, hh.nodup _⟩
    · exact hh.nodup uri

theorem IsVersioned.close (hh : h.IsVersioned) (closed : String) :
    (h.close closed).IsVersioned := by
  constructor
  · intro uri e he
    exact hh.named uri e (mem_close.mp he).2
  · intro uri
    simp only [versions, History.close]
    split
    · exact List.nodup_nil
    · exact hh.nodup uri

/-- Under one uri a version belongs to one document. -/
theorem IsVersioned.eq_of_version (hh : h.IsVersioned) {e : OpenDocument} (hd : d ∈ h.documents uri)
    (he : e ∈ h.documents uri) (hversion : d.document.version = e.document.version) : d = e :=
  List.inj_on_of_nodup_map (hh.nodup uri) hd he hversion

theorem mem_of_current (hd : h.current uri = some d) : d ∈ h.documents uri :=
  List.mem_of_head? hd

end History

theorem isVersioned_record {h : History} (hh : h.IsVersioned) {op : Operation} (hop : op.IsNew h) :
    (op.record h).IsVersioned := by
  cases op with
  | update url languageId text version => exact hh.put hop
  | change url text version => exact hh.put hop
  | remove url => exact hh.close url.render
  | items uri => exact hh
  | symbols uri => exact hh
  | evict => exact hh
  | setIdle millis => exact hh

/-! ## Workspaces and histories -/

/-- A workspace has the documents of a history open. What it keeps are the items of some document of
the history, under the uri and the version of that document. -/
structure Agrees (h : History) (w : Workspace) : Prop where
  found : ∀ uri, w.find? uri = h.current uri
  kept : ∀ k e, (k, e) ∈ w.cache.entries →
    ∃ uri, ∃ d ∈ h.documents uri, k = ItemCache.key uri d.document.version ∧
      d.freshItems = some e.items

namespace Agrees

variable {h : History} {w : Workspace}

theorem empty : Agrees History.empty Workspace.empty :=
  ⟨fun _ => rfl, fun _ _ he => absurd he List.not_mem_nil⟩

theorem insert (hw : Agrees h w) (d : OpenDocument) :
    Agrees (h.put d) (w.insert d.document.uri d) := by
  constructor
  · intro uri
    rw [History.current_put, ← hw.found uri]
    exact lookup_insertDocument ..
  · intro k e he
    obtain ⟨uri, e', he', hkey⟩ := hw.kept k e he
    exact ⟨uri, e', History.mem_put.mpr (.inr he'), hkey⟩

/-- Closing a uri drops all that is kept for its documents. -/
theorem remove (hw : Agrees h w) (url : Url) : Agrees (h.close url.render) (w.remove url) := by
  constructor
  · intro uri
    rw [History.current_close, ← hw.found uri]
    exact lookup_filter_ne ..
  · intro k e he
    obtain ⟨he, hprefix⟩ := List.mem_filter.mp he
    obtain ⟨uri, d, hd, rfl, hitems⟩ := hw.kept k e he
    have huri : uri ≠ url.render := by
      rintro rfl
      rw [ItemCache.isPrefixOf_key] at hprefix
      cases hprefix
    exact ⟨uri, d, History.mem_close.mpr ⟨huri, hd⟩, rfl, hitems⟩

/-- Less may be kept, and more if it is right. -/
theorem of_entries {w' : Workspace} (hw : Agrees h w) (hdocuments : w'.documents = w.documents)
    (hentries : ∀ k e, (k, e) ∈ w'.cache.entries → (k, e) ∈ w.cache.entries ∨
      ∃ uri, ∃ d ∈ h.documents uri, k = ItemCache.key uri d.document.version ∧
        d.freshItems = some e.items) : Agrees h w' := by
  constructor
  · intro uri
    rw [Workspace.find?, hdocuments]
    exact hw.found uri
  · intro k e he
    rcases hentries k e he with he | hright
    · exact hw.kept k e he
    · exact hright

/-- What is kept under the key of the current document are its items. -/
theorem items_of_kept (hh : h.IsVersioned) (hw : Agrees h w) {uri : String} {d : OpenDocument}
    (hd : h.current uri = some d) {e : CacheEntry}
    (he : (ItemCache.key d.document.uri d.document.version, e) ∈ w.cache.entries) :
    d.freshItems = some e.items := by
  have hmem := History.mem_of_current hd
  obtain ⟨uri', d', hd', hkey, hitems⟩ := hw.kept _ e he
  obtain ⟨huri, hversion⟩ := ItemCache.key_inj hkey
  rw [hh.named uri d hmem] at huri
  subst huri
  rwa [hh.eq_of_version hmem hd' hversion]

theorem items (hh : h.IsVersioned) (hw : Agrees h w) (clock : Clock) (uri : String) :
    (w.items clock uri).1 = (h.current uri).bind OpenDocument.freshItems ∧
      Agrees h (w.items clock uri).2 := by
  have hdefinitions := w.definitions?_eq uri
  rw [hw.found uri] at hdefinitions
  cases hd : h.current uri with
  | none =>
    rw [hd] at hdefinitions
    rw [Workspace.items_of_none clock hdefinitions]
    exact ⟨rfl, hw⟩
  | some d =>
    rw [hd, Option.bind_some] at hdefinitions
    rw [Option.bind_some, d.freshItems_eq]
    cases hdialect : d.language.bind Language.dialect with
    | none =>
      rw [hdialect] at hdefinitions
      rw [Workspace.items_of_none clock hdefinitions]
      exact ⟨rfl, hw⟩
    | some dialect =>
      rw [hdialect] at hdefinitions
      obtain ⟨hanswer, hdocuments, hcache⟩ := Workspace.items_of_some clock hdefinitions
      have hmem := History.mem_of_current hd
      have hfresh : d.freshItems = some (segment .standard dialect d.document) := by
        rw [d.freshItems_eq, hdialect]
        rfl
      have hget : (w.cache.get clock d.document.uri d.document.version fun _ =>
          segment .standard dialect d.document).1 = segment .standard dialect d.document := by
        refine ItemCache.get_fst fun e he => ?_
        exact Option.some.inj ((items_of_kept hh hw hd he).symm.trans hfresh)
      refine ⟨by rw [hanswer, hget]; rfl, hw.of_entries hdocuments fun k e he => ?_⟩
      rw [hcache] at he
      rcases ItemCache.mem_get he with hold | ⟨hkey, hitems⟩
      · exact .inl hold
      · rw [hh.named uri d hmem] at hkey
        rw [hget] at hitems
        exact .inr ⟨uri, d, hmem, hkey, by rw [hfresh, hitems]⟩

theorem symbols (hh : h.IsVersioned) (hw : Agrees h w) (clock : Clock) (uri : String) :
    (w.symbols clock uri).1 = (h.current uri).bind OpenDocument.freshSymbols ∧
      Agrees h (w.symbols clock uri).2 := by
  obtain ⟨hanswer, hagrees⟩ := items hh hw clock uri
  have hfound := hw.found uri
  cases hd : h.current uri with
  | none =>
    rw [hd] at hfound
    have hnone : w.language uri = none := by rw [Workspace.language, hfound]; rfl
    rw [Workspace.symbols, hnone]
    exact ⟨rfl, hw⟩
  | some d =>
    rw [hd] at hfound hanswer
    have hlanguage : w.language uri = d.language := by rw [Workspace.language, hfound]; rfl
    rw [Workspace.symbols, hlanguage, Option.bind_some, OpenDocument.freshSymbols]
    obtain ⟨document, language⟩ := d
    match language with
    | none => exact ⟨rfl, hw⟩
    | some .app =>
      refine ⟨?_, hw⟩
      simp only [Workspace.entries, hfound]
      rfl
    | some .stream => exact ⟨congrArg (Option.map SymbolTable.ofItems) hanswer, hagrees⟩
    | some .streamRuntime => exact ⟨congrArg (Option.map SymbolTable.ofItems) hanswer, hagrees⟩
    | some .task => exact ⟨congrArg (Option.map SymbolTable.ofItems) hanswer, hagrees⟩

/-- A change puts the new text under the uri, with the language that the history says. -/
theorem change_eq (hw : Agrees h w) (url : Url) (text : String) (version : Int) :
    w.change url text version =
      w.insert url.render ⟨⟨url.render, version, text⟩, h.language? url⟩ := by
  rw [Workspace.change, hw.found, History.language?]
  cases h.current url.render with
  | some d => rfl
  | none =>
    rw [OpenDocument.ofText_eq]
    rfl

/-- An operation is answered from the current text, and leaves the workspace as the history says. -/
theorem step (hh : h.IsVersioned) (hw : Agrees h w) (clock : Clock) {op : Operation}
    (hop : op.IsNew h) :
    (w.step clock op).1 = op.fresh h ∧ Agrees (op.record h) (w.step clock op).2 := by
  cases op with
  | update url languageId text version =>
    refine ⟨rfl, ?_⟩
    rw [Workspace.step, Workspace.update, OpenDocument.ofText_eq]
    exact hw.insert _
  | change url text version =>
    refine ⟨rfl, ?_⟩
    rw [Workspace.step, hw.change_eq]
    exact hw.insert _
  | remove url => exact ⟨rfl, hw.remove url⟩
  | items uri =>
    obtain ⟨hanswer, hagrees⟩ := items hh hw clock uri
    exact ⟨congrArg Outcome.items hanswer, hagrees⟩
  | symbols uri =>
    obtain ⟨hanswer, hagrees⟩ := symbols hh hw clock uri
    exact ⟨congrArg Outcome.symbols hanswer, hagrees⟩
  | evict => exact ⟨rfl, hw.of_entries rfl fun _ _ he => .inl (List.mem_of_mem_filter he)⟩
  | setIdle millis => exact ⟨rfl, hw.of_entries rfl fun _ _ he => .inl he⟩

/-- The run: what one operation keeps, all of them keep. -/
theorem answers (hh : h.IsVersioned) (hw : Agrees h w) (ops : List (Clock × Operation))
    (hops : VersionsOnce h ops) : w.answers ops = freshAnswers h ops := by
  induction ops generalizing h w with
  | nil => rfl
  | cons timed ops ih =>
    obtain ⟨clock, op⟩ := timed
    obtain ⟨hnew, hops⟩ := hops
    obtain ⟨hanswer, hagrees⟩ := hw.step hh clock hnew
    rw [Workspace.answers, freshAnswers, hanswer, ih (isVersioned_record hh hnew) hagrees hops]

end Agrees

/-- **What is kept is never stale.** Let operations be done to an empty workspace, at any times,
such that no version is put under a uri twice without the uri being closed in between. Then every
question for items or symbols is answered as from the text that is current for the uri at that
moment. -/
theorem answers_eq_freshAnswers (ops : List (Clock × Operation))
    (hops : VersionsOnce History.empty ops) :
    Workspace.empty.answers ops = freshAnswers History.empty ops :=
  Agrees.empty.answers History.isVersioned_empty ops hops

/-- A task is changed while it is open, then closed and opened again with its first version. -/
def edited : List (Clock × Operation) :=
  let url : Url := ⟨"file", some ⟨"", "", "", none⟩, .segments ["tasks.scdft"], none, some "1"⟩
  [(.still 0, .update url "plaintext" "t = a" 1), (⟨10, 12⟩, .items url.render),
    (.still 20, .change url "t = b" 2), (⟨30, 35⟩, .items url.render), (.still 40, .setIdle 1500),
    (.still 50, .remove url), (.still 60, .change url "t = c" 1), (⟨70, 70⟩, .items url.render)]

/-- Each question is answered from the text of that time. -/
theorem answers_of_edited :
    let tasks (version : Int) (text : String) : Outcome :=
      .items (some (segment .standard .task ⟨"file:///tasks.scdft#1", version, text⟩))
    VersionsOnce History.empty edited ∧
      Workspace.empty.answers edited =
        [.done, tasks 1 "t = a", .done, tasks 2 "t = b", .done, .done, .done, tasks 1 "t = c"] := by
  have hops : VersionsOnce History.empty edited := by decide +kernel
  refine ⟨hops, ?_⟩
  rw [answers_eq_freshAnswers edited hops]
  rfl

end Flowline
