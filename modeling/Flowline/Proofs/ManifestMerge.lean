import Flowline.Manifest.Entry
import Flowline.Proofs.Tokens
import Mathlib.Data.List.Nodup

/-!
# How lines of a list of apps are merged

An app is told by its type, its name and its version. Lines are merged by a text that is made of the
three with a dot and a hash between them. A type has no dot, so the text tells the type; but a name
may have a hash, and so may a version, so the text does not tell where the name ends. Lines of
different apps are merged just if the hash can be read in both ways.

* `ManifestLine.Written`, `mem_manifestLines_iff`: the lines that count;
* `mergedBy`: the entries of a list, if lines are merged by a key;
* `manifestOfLines_eq_mergedBy`: lines are merged by their text;
* `ManifestLine.Confused`, `ManifestLine.key_eq_iff`: different apps with the same text;
* `manifestOf_merges`: when lines are merged by the app they are about.
-/

namespace Flowline

open Character

/-! ## Parts of a text -/

section Pieces

variable {sep : Char} {part text : List Char}

theorem pieces_of_notMem (h : sep ∉ text) : pieces sep text = [text] := by
  rw [pieces_eq_splitOn]
  exact List.splitOn_eq_singleton h

theorem pieces_append_cons (h : sep ∉ part) (rest : List Char) :
    pieces sep (part ++ sep :: rest) = part :: pieces sep rest := by
  induction part with
  | nil => rw [List.nil_append, pieces, if_pos rfl]
  | cons c part ih =>
    rw [List.mem_cons, not_or] at h
    rw [List.cons_append, pieces, if_neg (Ne.symm h.1), ih h.2]

theorem pieces_eq_pair_iff {head tail : List Char} :
    pieces sep text = [head, tail] ↔ text = head ++ sep :: tail ∧ sep ∉ head ∧ sep ∉ tail := by
  constructor
  · intro h
    have hall : ∀ part ∈ pieces sep text, sep ∉ part := fun _ => not_mem_of_mem_pieces
    rw [h] at hall
    exact ⟨eq_of_pieces_eq_pair h, hall head (by simp), hall tail (by simp)⟩
  · rintro ⟨rfl, hhead, htail⟩
    rw [pieces_append_cons hhead, pieces_of_notMem htail]

end Pieces

/-! ## Lines -/

/-- The key of an app, or of its metadata. -/
def keyOf (appType name : List Char) (isMetadata : Bool) : List Char :=
  appType ++ '.' :: (name ++ if isMetadata then ".metadata".toList else [])

theorem keyOf_ne_nil (appType name : List Char) (isMetadata : Bool) :
    keyOf appType name isMetadata ≠ [] :=
  List.append_ne_nil_of_right_ne_nil _ (List.cons_ne_nil _ _)

theorem splitKey?_eq_some_iff {key appType name : List Char} {isMetadata : Bool} :
    splitKey? key = some (appType, name, isMetadata) ↔
      key = keyOf appType name isMetadata ∧ '.' ∉ appType ∧ '.' ∉ name := by
  constructor
  · intro h
    rw [splitKey?] at h
    split at h
    · next hpieces =>
      cases h
      obtain ⟨rfl, htype, hname⟩ := pieces_eq_pair_iff.mp hpieces
      rw [keyOf, if_neg (by simp), List.append_nil]
      exact ⟨rfl, htype, hname⟩
    · next kind hpieces =>
      split at h
      · next hkind =>
        cases h
        subst hkind
        have hall : ∀ part ∈ pieces '.' key, '.' ∉ part := fun _ => not_mem_of_mem_pieces
        rw [hpieces] at hall
        refine ⟨?_, hall appType (by simp), hall name (by simp)⟩
        have hkey := intercalate_pieces '.' key
        rw [hpieces] at hkey
        rw [← hkey, keyOf, if_pos rfl]
        simp [List.intercalate]
      · cases h
    · cases h
  · rintro ⟨rfl, htype, hname⟩
    rw [splitKey?, keyOf, pieces_append_cons htype]
    cases isMetadata with
    | false => rw [if_neg (by simp), List.append_nil, pieces_of_notMem hname]
    | true =>
      have hkind : pieces '.' (name ++ ".metadata".toList) = [name, "metadata".toList] := by
        rw [pieces_eq_pair_iff]
        exact ⟨rfl, hname, by decide⟩
      rw [if_pos rfl, hkind]
      exact if_pos rfl

namespace ManifestLine

/-- A line is written as `type.name=uri` or `type.name.metadata=uri`, with blanks around the key and
around the uri. Its range is that of the key alone, and the version is that of the uri. -/
structure Written (number : Nat) (text : List Char) (l : ManifestLine) : Prop where
  appType : l.appType.toList ≠ [] ∧ '.' ∉ l.appType.toList
  name : l.name.toList ≠ [] ∧ '.' ∉ l.name.toList
  uri : l.link.uri.toList ≠ []
  version : l.version.toList = versionOf l.link.uri.toList
  spelled : ∃ lead before keyText uriText,
    Surrounds lead (keyOf l.appType.toList l.name.toList l.isMetadata) keyText ∧
    Surrounds before l.link.uri.toList uriText ∧
    text = keyText ++ '=' :: uriText ∧ '=' ∉ keyText ∧ '=' ∉ uriText ∧
    l.link.keyRange = Range.onLine number lead.length
      (lead.length + (keyOf l.appType.toList l.name.toList l.isMetadata).length)

theorem written_of_parse? {number : Nat} {text : List Char} {l : ManifestLine}
    (h : parse? number text = some l) : l.Written number text := by
  simp only [parse?] at h
  split at h
  · next keyText uriText hpieces =>
    split at h
    · cases h
    · next appType name isMetadata hkey =>
      split at h
      · cases h
      · next hne =>
        simp only [Bool.or_eq_true, List.isEmpty_iff, not_or] at hne
        cases h
        obtain ⟨htrim, htype, hname⟩ := splitKey?_eq_some_iff.mp hkey
        obtain ⟨htext, hkeyText, huriText⟩ := pieces_eq_pair_iff.mp hpieces
        have hsurrounds := surrounds_trim keyText
        rw [htrim] at hsurrounds
        refine ⟨?_, ?_, ?_, ?_, keyText.takeWhile isBlank, uriText.takeWhile isBlank,
          keyText, uriText, ?_, ?_, htext, hkeyText, huriText, ?_⟩
        · simpa only [String.toList_ofList] using ⟨hne.1.1, htype⟩
        · simpa only [String.toList_ofList] using ⟨hne.1.2, hname⟩
        · simpa only [String.toList_ofList] using hne.2
        · simp only [String.toList_ofList]
        · simpa only [String.toList_ofList] using hsurrounds
        · simpa only [String.toList_ofList] using surrounds_trim uriText
        · simp only [String.toList_ofList, htrim, leadingBlanks]
  · cases h

theorem parse?_of_written {number : Nat} {text : List Char} {l : ManifestLine}
    (h : l.Written number text) : parse? number text = some l := by
  obtain ⟨htype, hname, huri, hversion, lead, before, keyText, uriText, hkey, hbefore,
    htext, hkeyText, huriText, hrange⟩ := h
  have hpieces : pieces '=' text = [keyText, uriText] :=
    pieces_eq_pair_iff.mpr ⟨htext, hkeyText, huriText⟩
  have hsplit : splitKey? (keyOf l.appType.toList l.name.toList l.isMetadata) =
      some (l.appType.toList, l.name.toList, l.isMetadata) :=
    splitKey?_eq_some_iff.mpr ⟨rfl, htype.2, hname.2⟩
  have hlead : leadingBlanks keyText = lead.length := hkey.leadingBlanks_eq (keyOf_ne_nil _ _ _)
  have hne :
      (l.appType.toList.isEmpty || l.name.toList.isEmpty || l.link.uri.toList.isEmpty) = false := by
    simp only [Bool.or_eq_false_iff, List.isEmpty_eq_false_iff]
    exact ⟨⟨htype.1, hname.1⟩, huri⟩
  rw [parse?, hpieces]
  simp only [hkey.trim_eq, hsplit, hbefore.trim_eq, hne, hlead, ← hversion, ← hrange,
    String.ofList_toList]
  rfl

theorem Written.start_line {number : Nat} {text : List Char} {l : ManifestLine}
    (h : l.Written number text) : l.link.keyRange.start.line = number := by
  obtain ⟨lead, before, keyText, uriText, -, -, -, -, -, hrange⟩ := h.spelled
  rw [hrange]
  rfl

end ManifestLine

theorem mem_manifestLines_iff {d : Document} {l : ManifestLine} :
    l ∈ manifestLines d.lines ↔ ∃ n text, d.lineText n = some text ∧ l.Written n text := by
  rw [manifestLines, List.mem_filterMap]
  constructor
  · rintro ⟨⟨text, n⟩, hmem, hparse⟩
    exact ⟨n, text, List.mem_zipIdx_iff_getElem?.mp hmem, ManifestLine.written_of_parse? hparse⟩
  · rintro ⟨n, text, htext, hwritten⟩
    exact ⟨(text, n), List.mem_zipIdx_iff_getElem?.mpr htext,
      ManifestLine.parse?_of_written hwritten⟩

/-- The lines that count come in the order in which they stand in the list. -/
theorem pairwise_manifestLines (lines : List (List Char)) :
    (manifestLines lines).Pairwise fun l m =>
      l.link.keyRange.start.line < m.link.keyRange.start.line := by
  have hnumbers : lines.zipIdx.Pairwise fun x y => x.2 < y.2 := by
    have hrange : (lines.zipIdx.map Prod.snd).Pairwise (· < ·) := by
      rw [List.zipIdx_map_snd]
      exact List.pairwise_lt_range'
    exact List.pairwise_map.mp hrange
  refine List.Pairwise.filterMap _ ?_ hnumbers
  rintro ⟨text, n⟩ ⟨text', n'⟩ hlt l hl m hm
  rw [(ManifestLine.written_of_parse? hl).start_line,
    (ManifestLine.written_of_parse? hm).start_line]
  exact hlt

/-! ## Merging by a key -/

/-- What tells an app. -/
structure AppIdentity where
  appType : String
  name : String
  version : String
  deriving DecidableEq, Repr

/-- The text by which lines are merged. -/
def AppIdentity.key (a : AppIdentity) : String :=
  mergeKey a.appType a.name a.version

def ManifestLine.identity (l : ManifestLine) : AppIdentity :=
  ⟨l.appType, l.name, l.version⟩

theorem ManifestLine.key_eq_identity (l : ManifestLine) : l.key = l.identity.key := rfl

def ManifestEntry.identity (e : ManifestEntry) : AppIdentity :=
  ⟨e.appType, e.name, e.version⟩

theorem ManifestEntry.key_eq_identity (e : ManifestEntry) : e.key = e.identity.key := rfl

section MergedBy

variable {κ : Type} [DecidableEq κ]

/-- The entry of the lines with a key: it has the type, the name and the version of the first of
them, the link of the last one for the app and that of the last one for metadata. -/
def entryWith (key : AppIdentity → κ) (ls : List ManifestLine) (k : κ) : Option ManifestEntry :=
  (ls.find? fun l => key l.identity = k).map fun first =>
    { appType := first.appType
      name := first.name
      version := first.version
      app := (ls.filter fun l => key l.identity = k && !l.isMetadata).getLast?.map (·.link)
      metadata := (ls.filter fun l => key l.identity = k && l.isMetadata).getLast?.map (·.link) }

/-- The entries of some lines if lines with the same key are merged, one for each key, in the order
in which the keys first appear. -/
def mergedBy (key : AppIdentity → κ) (ls : List ManifestLine) : List ManifestEntry :=
  (ls.map fun l => key l.identity).eraseDups.filterMap (entryWith key ls)

theorem exists_first (key : AppIdentity → κ) {ls : List ManifestLine} {m : ManifestLine}
    (hm : m ∈ ls) :
    ∃ first, ls.find? (fun l => key l.identity = key m.identity) = some first ∧
      key first.identity = key m.identity := by
  obtain ⟨first, hfirst⟩ := Option.isSome_iff_exists.mp
    ((List.find?_isSome (p := fun l => key l.identity = key m.identity)).mpr ⟨m, hm, by simp⟩)
  exact ⟨first, hfirst, by simpa using List.find?_some hfirst⟩

theorem entryWith_congr {κ' : Type} [DecidableEq κ'] {key : AppIdentity → κ}
    {key' : AppIdentity → κ'} {ls : List ManifestLine} {k : κ} {k' : κ'}
    (h : ∀ l ∈ ls, key l.identity = k ↔ key' l.identity = k') :
    entryWith key ls k = entryWith key' ls k' := by
  have hfilter : ∀ p : ManifestLine → Bool, ls.filter (fun l => key l.identity = k && p l) =
      ls.filter fun l => key' l.identity = k' && p l := by
    intro p
    refine List.filter_congr fun l hl => ?_
    simp only [h l hl]
  have hfind : (ls.find? fun l => key l.identity = k) = ls.find? fun l => key' l.identity = k' := by
    have htrue := hfilter fun _ => true
    simp only [Bool.and_true] at htrue
    rw [← List.head?_filter, ← List.head?_filter, htrue]
  rw [entryWith, entryWith, hfind, hfilter fun l => !l.isMetadata, hfilter ManifestLine.isMetadata]

end MergedBy

section EraseDups

variable {α β : Type} [DecidableEq α] [DecidableEq β]

theorem eraseDups_concat (as : List α) (a : α) :
    (as ++ [a]).eraseDups = as.eraseDups ++ if a ∈ as then [] else [a] := by
  rw [List.eraseDups_append]
  by_cases ha : a ∈ as
  · simp [List.removeAll, ha]
  · simp [List.removeAll, ha, List.eraseDups_cons]

theorem nodup_eraseDups (as : List α) : as.eraseDups.Nodup := by
  induction as using List.reverseRecOn with
  | nil => exact List.nodup_nil
  | append_singleton as a ih =>
    rw [eraseDups_concat]
    split
    · rwa [List.append_nil]
    · next ha =>
      rw [List.nodup_append]
      refine ⟨ih, by simp, ?_⟩
      rintro b hb c hc rfl
      rw [List.mem_singleton.mp hc] at hb
      exact ha (List.mem_eraseDups.mp hb)

theorem eraseDups_map {f : α → β} {as : List α} (hf : ∀ a ∈ as, ∀ b ∈ as, f a = f b → a = b) :
    (as.map f).eraseDups = as.eraseDups.map f := by
  induction as using List.reverseRecOn with
  | nil => rfl
  | append_singleton as a ih =>
    have hmem : f a ∈ as.map f ↔ a ∈ as := by
      rw [List.mem_map]
      constructor
      · rintro ⟨b, hb, heq⟩
        rwa [← hf b (by simp [hb]) a (by simp) heq]
      · intro ha
        exact ⟨a, ha, rfl⟩
    rw [List.map_append, List.map_singleton, eraseDups_concat, eraseDups_concat, List.map_append,
      ih fun a ha b hb => hf a (by simp [ha]) b (by simp [hb])]
    simp only [hmem]
    split <;> rfl

end EraseDups

/-! ## Lines are merged by their text -/

section Merge

variable {l : ManifestLine} {ls : List ManifestLine}

theorem addLine_eq {entries : List ManifestEntry} (h : (entries.map ManifestEntry.key).Nodup) :
    addLine l entries =
      (entries.map fun e => if e.key = l.key then e.link l else e) ++
        if l.key ∈ entries.map ManifestEntry.key then []
        else [(ManifestEntry.ofLine l).link l] := by
  induction entries with
  | nil => rfl
  | cons e rest ih =>
    rw [List.map_cons, List.nodup_cons] at h
    rw [addLine]
    by_cases he : e.key = l.key
    · have hrest : (rest.map fun e => if e.key = l.key then e.link l else e) = rest := by
        refine (List.map_congr_left fun e' he' => if_neg fun heq => ?_).trans (List.map_id rest)
        exact h.1 (List.mem_map.mpr ⟨e', he', heq.trans he.symm⟩)
      rw [if_pos he]
      simp [he, hrest]
    · rw [if_neg he, ih h.2]
      simp [he, Ne.symm he]

theorem getLast?_filter_concat (p : ManifestLine → Bool) :
    ((ls ++ [l]).filter p).getLast? = if p l then some l else (ls.filter p).getLast? := by
  rw [List.filter_append]
  cases hp : p l with
  | true => simp [hp]
  | false => simp [hp]

/-- A line changes the entry of its key. -/
theorem entryWith_concat {k : String} (hk : k ∈ ls.map fun l => l.identity.key) :
    entryWith AppIdentity.key (ls ++ [l]) k =
      (entryWith AppIdentity.key ls k).map fun e => if e.key = l.key then e.link l else e := by
  obtain ⟨m, hm, rfl⟩ := List.mem_map.mp hk
  obtain ⟨first, hfirst, hkey⟩ := exists_first AppIdentity.key hm
  have hkeys : ∀ l : ManifestLine, l.identity.key = l.key := fun _ => rfl
  simp only [hkeys] at hfirst
  simp only [entryWith, List.find?_append, hkeys, hfirst, Option.some_or, Option.map_some,
    getLast?_filter_concat]
  have hentry : ∀ app metadata,
      (ManifestEntry.mk first.appType first.name first.version app metadata).key = m.key :=
        fun _ _ => hkey
  simp only [hentry, eq_comm (a := m.key)]
  by_cases hl : l.key = m.key
  · cases hmeta : l.isMetadata with
    | true => simp [hl, hmeta, ManifestEntry.link]
    | false => simp [hl, hmeta, ManifestEntry.link]
  · simp [hl]

theorem entryWith_concat_new (hl : l.key ∉ ls.map fun l => l.identity.key) :
    entryWith AppIdentity.key (ls ++ [l]) l.key = some ((ManifestEntry.ofLine l).link l) := by
  have hne : ∀ m ∈ ls, ¬ m.key = l.key := fun m hm heq => hl (List.mem_map.mpr ⟨m, hm, heq⟩)
  have hkeys : ∀ l : ManifestLine, l.identity.key = l.key := fun _ => rfl
  have hnone : ls.find? (fun m => m.key = l.key) = none := by
    rw [List.find?_eq_none]
    simpa using hne
  have hfilter : ∀ p : ManifestLine → Bool, ls.filter (fun m => m.key = l.key && p m) = [] := by
    intro p
    rw [List.filter_eq_nil_iff]
    intro m hm
    simp [hne m hm]
  simp only [entryWith, hkeys, List.find?_append, hnone, getLast?_filter_concat, hfilter]
  cases hmeta : l.isMetadata with
  | true => simp [hmeta, ManifestEntry.link, ManifestEntry.ofLine]
  | false => simp [hmeta, ManifestEntry.link, ManifestEntry.ofLine]

/-- Every key of the lines has its entry, and the entry has the key. -/
theorem map_key_mergedBy (ls : List ManifestLine) :
    (mergedBy AppIdentity.key ls).map ManifestEntry.key =
      (ls.map fun l => l.identity.key).eraseDups := by
  rw [mergedBy, List.map_filterMap]
  refine (List.filterMap_congr fun k hk => ?_).trans List.filterMap_some
  obtain ⟨m, hm, rfl⟩ := List.mem_map.mp (List.mem_eraseDups.mp hk)
  obtain ⟨first, hfirst, hkey⟩ := exists_first AppIdentity.key hm
  rw [entryWith, hfirst, Option.map_some, Option.map_some]
  exact congrArg some hkey

theorem nodup_key_mergedBy (ls : List ManifestLine) :
    ((mergedBy AppIdentity.key ls).map ManifestEntry.key).Nodup := by
  rw [map_key_mergedBy]
  exact nodup_eraseDups _

theorem mergedBy_concat (ls : List ManifestLine) (l : ManifestLine) :
    mergedBy AppIdentity.key (ls ++ [l]) = addLine l (mergedBy AppIdentity.key ls) := by
  have hold :
      (ls.map fun l => l.identity.key).eraseDups.filterMap (entryWith AppIdentity.key (ls ++ [l])) =
      (mergedBy AppIdentity.key ls).map fun e => if e.key = l.key then e.link l else e := by
    rw [mergedBy, List.map_filterMap]
    exact List.filterMap_congr fun k hk => entryWith_concat (List.mem_eraseDups.mp hk)
  rw [addLine_eq (nodup_key_mergedBy ls), map_key_mergedBy, mergedBy, List.map_append,
    List.map_singleton, eraseDups_concat, List.filterMap_append, hold]
  congr 1
  by_cases hl : l.key ∈ ls.map fun l => l.identity.key
  · rw [if_pos (List.mem_eraseDups.mpr hl)]
    exact congrArg (List.filterMap _) (if_pos hl)
  · rw [if_neg fun h => hl (List.mem_eraseDups.mp h)]
    refine (congrArg (List.filterMap _) (if_neg hl)).trans ?_
    exact List.filterMap_cons_some (entryWith_concat_new hl)

/-- Lines are merged by their text. -/
theorem manifestOfLines_eq_mergedBy (lines : List (List Char)) :
    manifestOfLines lines = mergedBy AppIdentity.key (manifestLines lines) := by
  rw [manifestOfLines]
  induction manifestLines lines using List.reverseRecOn with
  | nil => rfl
  | append_singleton ls l ih =>
    rw [List.foldl_append, List.foldl_cons, List.foldl_nil, ih, mergedBy_concat]

end Merge

/-! ## Different apps with the same text -/

/-- The name of a line goes on in the name of another one, with a hash and a part of the version. -/
def ManifestLine.Confused (l m : ManifestLine) : Prop :=
  l.appType = m.appType ∧ ∃ part, m.name.toList = l.name.toList ++ '#' :: part ∧
    l.version.toList = part ++ '#' :: m.version.toList

section Confused

variable {l m : ManifestLine}

theorem append_cons_cancel_of_notMem {sep : Char} {as bs cs ds : List Char} (has : sep ∉ as)
    (hcs : sep ∉ cs) (h : as ++ sep :: bs = cs ++ sep :: ds) : as = cs ∧ bs = ds := by
  have hpieces := congrArg (pieces sep) h
  rw [pieces_append_cons has, pieces_append_cons hcs] at hpieces
  obtain rfl : as = cs := (List.cons.inj hpieces).1
  exact ⟨rfl, (List.cons.inj (List.append_cancel_left h)).2⟩

theorem ManifestLine.toList_key (l : ManifestLine) :
    l.key.toList = l.appType.toList ++ '.' :: (l.name.toList ++ '#' :: l.version.toList) := by
  simp [ManifestLine.key, mergeKey]

theorem ManifestLine.Confused.key_eq (h : l.Confused m) : l.key = m.key := by
  obtain ⟨htype, part, hname, hversion⟩ := h
  rw [← String.toList_inj, toList_key, toList_key, htype, hname, hversion, List.append_assoc,
    List.cons_append]

/-- Where the name of one line starts with that of the other, they are the same or it goes on with
the hash behind the other. -/
theorem ManifestLine.identity_eq_or_confused {part : List Char} (htype : l.appType = m.appType)
    (hname : m.name.toList = l.name.toList ++ part)
    (hversion : '#' :: l.version.toList = part ++ '#' :: m.version.toList) :
    l.identity = m.identity ∨ l.Confused m := by
  cases part with
  | nil =>
    left
    rw [List.append_nil, String.toList_inj] at hname
    have hsame : l.version = m.version := String.toList_inj.mp (List.cons.inj hversion).2
    rw [identity, identity, htype, hname, hsame]
  | cons c part =>
    right
    obtain ⟨rfl, hpart⟩ := List.cons.inj hversion
    exact ⟨htype, part, hname, hpart⟩

/-- Two lines have the same text just if they are about the same app, or are confused. -/
theorem ManifestLine.key_eq_iff (hl : '.' ∉ l.appType.toList) (hm : '.' ∉ m.appType.toList) :
    l.key = m.key ↔ l.identity = m.identity ∨ l.Confused m ∨ m.Confused l := by
  constructor
  · intro h
    rw [← String.toList_inj, toList_key, toList_key] at h
    obtain ⟨htype, hrest⟩ := append_cons_cancel_of_notMem hl hm h
    rw [String.toList_inj] at htype
    rcases List.append_eq_append_iff.mp hrest with ⟨part, hname, hversion⟩ | ⟨part, hname, hversion⟩
    · rcases identity_eq_or_confused htype hname hversion with hsame | hconfused
      · exact .inl hsame
      · exact .inr (.inl hconfused)
    · rcases identity_eq_or_confused htype.symm hname hversion with hsame | hconfused
      · exact .inl hsame.symm
      · exact .inr (.inr hconfused)
  · rintro (h | h | h)
    · rw [key_eq_identity, key_eq_identity, h]
    · exact h.key_eq
    · exact h.key_eq.symm

theorem ManifestLine.Confused.identity_ne (h : l.Confused m) : l.identity ≠ m.identity := by
  obtain ⟨-, part, hname, -⟩ := h
  intro heq
  have hsame : l.name = m.name := congrArg AppIdentity.name heq
  have hlength := congrArg List.length hname
  rw [hsame, List.length_append, List.length_cons] at hlength
  omega

end Confused

section Exact

variable {ls : List ManifestLine}

theorem exists_mem_mergedBy {κ : Type} [DecidableEq κ] (key : AppIdentity → κ) {l : ManifestLine}
    (hl : l ∈ ls) : ∃ e ∈ mergedBy key ls, key e.identity = key l.identity := by
  obtain ⟨first, hfirst, hkey⟩ := exists_first key hl
  obtain ⟨e, he, hidentity⟩ : ∃ e, entryWith key ls (key l.identity) = some e ∧
      e.identity = first.identity := by
    rw [entryWith, hfirst]
    exact ⟨_, rfl, rfl⟩
  refine ⟨e, List.mem_filterMap.mpr ⟨key l.identity, ?_, he⟩, by rw [hidentity, hkey]⟩
  exact List.mem_eraseDups.mpr (List.mem_map.mpr ⟨l, hl, rfl⟩)

/-- Merging by the text is merging by the app just if different apps have different texts. -/
theorem mergedBy_key_eq_iff :
    mergedBy AppIdentity.key ls = mergedBy id ls ↔
      ∀ l ∈ ls, ∀ m ∈ ls, l.key = m.key → l.identity = m.identity := by
  constructor
  · intro h l hl m hm hkey
    obtain ⟨e, he, hel : e.identity = l.identity⟩ := exists_mem_mergedBy id hl
    obtain ⟨e', he', hem : e'.identity = m.identity⟩ := exists_mem_mergedBy id hm
    have hsame : e = e' := by
      refine List.inj_on_of_nodup_map (nodup_key_mergedBy ls) (h ▸ he) (h ▸ he') ?_
      rw [ManifestEntry.key_eq_identity, ManifestEntry.key_eq_identity, hel, hem]
      exact hkey
    rw [← hel, ← hem, hsame]
  · intro h
    have hinj : ∀ a ∈ ls.map ManifestLine.identity, ∀ b ∈ ls.map ManifestLine.identity,
        a.key = b.key → a = b := by
      intro a ha b hb heq
      obtain ⟨l, hl, rfl⟩ := List.mem_map.mp ha
      obtain ⟨m, hm, rfl⟩ := List.mem_map.mp hb
      exact h l hl m hm heq
    have hmap : (ls.map fun l => l.identity.key) =
        (ls.map ManifestLine.identity).map AppIdentity.key := by
      rw [List.map_map]
      rfl
    rw [mergedBy, mergedBy, hmap, eraseDups_map hinj, List.filterMap_map]
    refine List.filterMap_congr fun a ha => entryWith_congr fun l hl => ?_
    exact ⟨hinj _ (List.mem_map.mpr ⟨l, hl, rfl⟩) _ (List.mem_eraseDups.mp ha),
      congrArg AppIdentity.key⟩

end Exact

/-- **How lines are merged.** The lines that count are those that are written as `type.name=uri` or
`type.name.metadata=uri`, in the order of the list. They are merged by the text made of type, name
and version, each entry with the links of the last lines that have its text. This merges the lines
of an app, and only those, if and only if no line is confused with another one. -/
theorem manifestOf_merges (d : Document) :
    (∀ l, l ∈ manifestLines d.lines ↔ ∃ n text, d.lineText n = some text ∧ l.Written n text) ∧
    (manifestLines d.lines).Pairwise
      (fun l m => l.link.keyRange.start.line < m.link.keyRange.start.line) ∧
    manifestOf d = mergedBy AppIdentity.key (manifestLines d.lines) ∧
    (manifestOf d = mergedBy id (manifestLines d.lines) ↔
      ∀ l ∈ manifestLines d.lines, ∀ m ∈ manifestLines d.lines, ¬ l.Confused m) := by
  have hdot : ∀ l ∈ manifestLines d.lines, '.' ∉ l.appType.toList := by
    intro l hl
    obtain ⟨n, text, -, hwritten⟩ := mem_manifestLines_iff.mp hl
    exact hwritten.appType.2
  have hmerged : manifestOf d = mergedBy AppIdentity.key (manifestLines d.lines) :=
    manifestOfLines_eq_mergedBy d.lines
  refine ⟨fun l => mem_manifestLines_iff, pairwise_manifestLines d.lines, hmerged, ?_⟩
  rw [hmerged, mergedBy_key_eq_iff]
  constructor
  · intro h l hl m hm hconfused
    exact hconfused.identity_ne (h l hl m hm hconfused.key_eq)
  · intro h l hl m hm hkey
    rcases (ManifestLine.key_eq_iff (hdot l hl) (hdot m hm)).mp hkey with
      hsame | hconfused | hconfused
    · exact hsame
    · exact absurd hconfused (h l hl m hm)
    · exact absurd hconfused (h m hm l hl)

/-- An app with its metadata, and another version of it. -/
def timeApps : Document where
  uri := "file:///apps.properties"
  version := 1
  text := "source.time=maven://g:time:1.0\nsource.time=maven://g:time:2.0\n" ++
    " source.time.metadata = maven://g:time:jar:1.0"

/-- Without a hash in a name, no line is confused with another one. -/
theorem timeApps_mergedBy_id :
    (manifestOf timeApps).map
        (fun e => (e.version, e.app.map (·.keyRange), e.metadata.map (·.keyRange))) =
      [("1.0", some (Range.onLine 0 0 11), some (Range.onLine 2 1 21)),
        ("2.0", some (Range.onLine 1 0 11), none)] ∧
    manifestOf timeApps = mergedBy id (manifestLines timeApps.lines) := by
  have hnames : ∀ l ∈ manifestLines timeApps.lines, '#' ∉ l.name.toList := by decide +kernel
  refine ⟨by decide +kernel, (manifestOf_merges timeApps).2.2.2.mpr ?_⟩
  rintro l - m hm ⟨-, part, hname, -⟩
  refine hnames m hm ?_
  rw [hname]
  exact List.mem_append_right _ List.mem_cons_self

/-- Two apps, the one with a hash in its name and the other with a hash in its version. -/
def hashedApps : Document where
  uri := "file:///apps.properties"
  version := 1
  text := "source.a#b=maven://g:x:c\nsource.a=maven://g:x:b#c"

/-- The two lines are about different apps, but there is one entry for both. -/
theorem hashedApps_not_mergedBy_id :
    (manifestLines hashedApps.lines).map ManifestLine.identity =
      [⟨"source", "a#b", "c"⟩, ⟨"source", "a", "b#c"⟩] ∧
    (manifestOf hashedApps).map (fun e => (e.identity, e.app.map (·.uri))) =
      [(⟨"source", "a#b", "c"⟩, some "maven://g:x:b#c")] ∧
    manifestOf hashedApps ≠ mergedBy id (manifestLines hashedApps.lines) := by
  refine ⟨?_, ?_, ?_⟩
  · decide +kernel
  · decide +kernel
  · decide +kernel

end Flowline
