import Flowline.Item.Segment
import Mathlib.Data.List.DropRight

/-!
# Lines by number

The words in which the items of a document are described: the lines of a document with their
numbers, and what stands right before a line, back to the last definition, to the last separating
line, or to the last line at which environment, name and description are given up.

* `Line`, `numbered`: the lines of a document;
* `sinceDefinition`, `sinceSeparator`, `sinceReset`: the lines right before a line;
* `tagged`, `lastTagged`: the metadata in some lines;
* `take_succ`, `sinceDefinition_succ`, `sinceSeparator_succ`, `sinceReset_succ`: how all this
  changes from one line to the next.
-/

namespace Flowline

/-- A line of a document and its number. -/
structure Line where
  number : Nat
  text : List Char
  deriving DecidableEq, Repr, Inhabited

/-- Texts as lines, numbered from zero on. -/
def numbered (texts : List (List Char)) : List Line :=
  texts.mapIdx Line.mk

/-- Every line has its index as its number. -/
def IsNumbered (lines : List Line) : Prop :=
  ∀ (n : Nat) (l : Line), lines[n]? = some l → l.number = n

theorem isNumbered_numbered (texts : List (List Char)) : IsNumbered (numbered texts) := by
  intro n l h
  rw [numbered, List.getElem?_mapIdx] at h
  obtain ⟨text, -, rfl⟩ := Option.map_eq_some_iff.mp h
  rfl

theorem IsNumbered.getElem? {lines : List Line} (h : IsNumbered lines) {l : Line} (hl : l ∈ lines) :
    lines[l.number]? = some l := by
  obtain ⟨n, hn⟩ := List.mem_iff_getElem?.mp hl
  rwa [h n l hn]

theorem IsNumbered.pairwise {lines : List Line} (h : IsNumbered lines) :
    lines.Pairwise (fun a b => a.number < b.number) := by
  rw [List.pairwise_iff_getElem]
  intro i j hi hj hij
  rw [h i _ (List.getElem?_eq_getElem hi), h j _ (List.getElem?_eq_getElem hj)]
  exact hij

theorem number_le_of_head? {ls : List Line} (hsorted : ls.Pairwise (fun a b => a.number < b.number))
    {first l : Line} (hfirst : ls.head? = some first) (hl : l ∈ ls) : first.number ≤ l.number := by
  obtain ⟨rest, rfl⟩ := List.head?_eq_some_iff.mp hfirst
  rcases List.mem_cons.mp hl with rfl | hl
  · exact Nat.le_refl _
  · exact Nat.le_of_lt ((List.pairwise_cons.mp hsorted).1 l hl)

theorem number_le_of_getLast? {ls : List Line}
    (hsorted : ls.Pairwise (fun a b => a.number < b.number)) {last l : Line}
    (hlast : ls.getLast? = some last) (hl : l ∈ ls) : l.number ≤ last.number := by
  obtain ⟨init, rfl⟩ := List.getLast?_eq_some_iff.mp hlast
  rcases List.mem_append.mp hl with hl | hl
  · exact Nat.le_of_lt ((List.pairwise_append.mp hsorted).2.2 l hl last
      (List.mem_singleton.mpr rfl))
  · rw [List.mem_singleton.mp hl]

theorem IsNumbered.mem_take {lines : List Line} (h : IsNumbered lines) {l : Line} {n : Nat} :
    l ∈ lines.take n ↔ l ∈ lines ∧ l.number < n := by
  constructor
  · intro hl
    obtain ⟨i, hi⟩ := List.mem_iff_getElem?.mp hl
    rw [List.getElem?_take] at hi
    split at hi
    · next hin => exact ⟨List.mem_of_mem_take hl, by rw [h i l hi]; exact hin⟩
    · cases hi
  · rintro ⟨hl, hn⟩
    apply List.mem_of_getElem? (i := l.number)
    rw [List.getElem?_take, if_pos hn]
    exact h.getElem? hl

def Document.numberedLines (document : Document) : List Line :=
  numbered document.lines

/-- What is left of a text at its start begins with the same character as the trimmed text. -/
theorem head?_trimStart_of_trim {text : List Char} {c : Char} {rest : List Char}
    (h : trim text = c :: rest) : (trimStart text).head? = some c := by
  obtain ⟨more, hmore⟩ : trim text <+: trimStart text := List.rdropWhile_prefix _ _
  rw [← hmore, h]
  rfl

/-- A line is taken for metadata if its first character is a marker and its content starts with a
tag. -/
theorem exists_of_classify_metadata {d : Dialect} {text : List Char} {tag : Tag}
    (h : LineKind.classify d text = .metadata tag) :
    ∃ start, contentStart text = some start ∧ tagOf (text.drop start) = some tag ∧
      ∃ c, (trimStart text).head? = some c ∧ isMarker c = true := by
  simp only [LineKind.classify] at h
  split at h
  · cases h
  · next first rest htrim =>
    split at h
    · cases h
    · split at h
      · cases h
      · next hmarker =>
        split at h
        · cases h
        · next found hfound =>
          split at h
          · cases h
            obtain ⟨start, hstart, htag⟩ := Option.bind_eq_some_iff.mp hfound
            refine ⟨start, hstart, htag, first, head?_trimStart_of_trim htrim, ?_⟩
            simp only [Bool.or_eq_true, Bool.not_eq_true', not_or, Bool.not_eq_false] at hmarker
            exact hmarker.1
          · cases h

namespace Line

/-- The whole line. -/
def range (l : Line) : Range :=
  Range.onLine l.number 0 l.text.length

def kind (d : Dialect) (l : Line) : LineKind :=
  LineKind.classify d l.text

def isDefinition (d : Dialect) (l : Line) : Bool :=
  decide (l.kind d = .definition)

def isBlank (d : Dialect) (l : Line) : Bool :=
  decide (l.kind d = .blank)

/-- Whether a run of metadata lines ends at a line. -/
def separates (d : Dialect) (l : Line) : Bool :=
  l.isDefinition d || l.isBlank d

def hasTag (d : Dialect) (tag : Tag) (l : Line) : Bool :=
  decide (l.kind d = .metadata tag)

def isMetadata (d : Dialect) (l : Line) : Bool :=
  Tag.all.any fun tag => l.hasTag d tag

/-- Whether a line holds a setting or an argument. -/
def isSetting (d : Dialect) (l : Line) : Bool :=
  l.hasTag d .prop || l.hasTag d .arg

/-- Whether a line holds an environment, a name or a description. -/
def isHolder (d : Dialect) (l : Line) : Bool :=
  l.hasTag d .env || l.hasTag d .name || l.hasTag d .desc

/-- Whether a line belongs to a comment that can be folded. -/
def isComment (d : Dialect) (l : Line) : Bool :=
  Scan.isCommentLine (l.kind d) l.text

/-- The line as metadata with a tag. -/
def metadata (tag : Tag) (l : Line) : Metadata :=
  ⟨tag, l.number, l.text, (contentStart l.text).getD 0⟩

theorem isDefinition_iff {d : Dialect} {l : Line} :
    l.isDefinition d = true ↔ l.kind d = .definition := by
  simp [isDefinition]

theorem isBlank_iff {d : Dialect} {l : Line} : l.isBlank d = true ↔ l.kind d = .blank := by
  simp [isBlank]

theorem hasTag_iff {d : Dialect} {tag : Tag} {l : Line} :
    l.hasTag d tag = true ↔ l.kind d = .metadata tag := by
  simp [hasTag]

theorem isMetadata_iff {d : Dialect} {l : Line} :
    l.isMetadata d = true ↔ ∃ tag, l.kind d = .metadata tag := by
  simp only [isMetadata, List.any_eq_true, hasTag_iff]
  constructor
  · rintro ⟨tag, -, h⟩
    exact ⟨tag, h⟩
  · rintro ⟨tag, h⟩
    exact ⟨tag, by cases tag <;> simp [Tag.all], h⟩

theorem isMetadata_of_hasTag {d : Dialect} {tag : Tag} {l : Line} (h : l.hasTag d tag = true) :
    l.isMetadata d = true :=
  isMetadata_iff.mpr ⟨tag, hasTag_iff.mp h⟩

theorem isMetadata_of_isSetting {d : Dialect} {l : Line} (h : l.isSetting d = true) :
    l.isMetadata d = true := by
  rcases Bool.or_eq_true_iff.mp h with h | h
  · exact isMetadata_of_hasTag h
  · exact isMetadata_of_hasTag h

theorem isMetadata_of_isHolder {d : Dialect} {l : Line} (h : l.isHolder d = true) :
    l.isMetadata d = true := by
  simp only [isHolder, Bool.or_eq_true] at h
  rcases h with (h | h) | h
  · exact isMetadata_of_hasTag h
  · exact isMetadata_of_hasTag h
  · exact isMetadata_of_hasTag h

theorem not_separates_of_kind {d : Dialect} {l : Line} (hd : l.kind d ≠ .definition)
    (hb : l.kind d ≠ .blank) :
    l.isDefinition d = false ∧ l.isBlank d = false ∧ l.separates d = false := by
  simp [separates, isDefinition, isBlank, hd, hb]

theorem not_isMetadata_of_kind {d : Dialect} {l : Line} (h : ∀ tag, l.kind d ≠ .metadata tag) :
    l.isMetadata d = false ∧ ∀ tag, l.hasTag d tag = false := by
  simp [isMetadata, hasTag, h]

/-- A metadata line has a content: its tag was found there. -/
theorem contentStart_of_kind {d : Dialect} {tag : Tag} {l : Line} (h : l.kind d = .metadata tag) :
    contentStart l.text = some ((contentStart l.text).getD 0) := by
  obtain ⟨start, hstart, -⟩ := exists_of_classify_metadata h
  rw [hstart]
  rfl

end Line

/-! ## Metadata in some lines -/

/-- The metadata with a tag, in the order of the lines. -/
def tagged (d : Dialect) (tag : Tag) (ls : List Line) : List Metadata :=
  (ls.filter (·.hasTag d tag)).map (Line.metadata tag)

/-- The last metadata with a tag. -/
def lastTagged (d : Dialect) (tag : Tag) (ls : List Line) : Option Metadata :=
  (tagged d tag ls).getLast?

/-- Whether some lines hold a setting or an argument. -/
def hasSetting (d : Dialect) (ls : List Line) : Bool :=
  ls.any (·.isSetting d)

def firstMetadata (d : Dialect) (ls : List Line) : Option Line :=
  ls.find? (·.isMetadata d)

def lastMetadata (d : Dialect) (ls : List Line) : Option Line :=
  (ls.filter (·.isMetadata d)).getLast?

section Concat

variable (d : Dialect) (tag : Tag) (ls : List Line) (l : Line)

theorem tagged_concat :
    tagged d tag (ls ++ [l]) =
      if l.hasTag d tag then tagged d tag ls ++ [l.metadata tag] else tagged d tag ls := by
  cases h : l.hasTag d tag <;> simp [tagged, h]

theorem lastTagged_concat :
    lastTagged d tag (ls ++ [l]) =
      if l.hasTag d tag then some (l.metadata tag) else lastTagged d tag ls := by
  rw [lastTagged, tagged_concat]
  split
  · exact List.getLast?_concat
  · rfl

theorem firstMetadata_concat :
    firstMetadata d (ls ++ [l]) =
      (firstMetadata d ls).or (if l.isMetadata d then some l else none) := by
  cases h : l.isMetadata d <;> simp [firstMetadata, h]

theorem lastMetadata_concat :
    lastMetadata d (ls ++ [l]) = if l.isMetadata d then some l else lastMetadata d ls := by
  cases h : l.isMetadata d <;> simp [lastMetadata, h]

theorem isSome_lastTagged : (lastTagged d tag ls).isSome = ls.any (·.hasTag d tag) := by
  rw [Bool.eq_iff_iff, lastTagged, List.getLast?_isSome, tagged]
  simp [List.filter_eq_nil_iff]

theorem any_isHolder :
    ls.any (·.isHolder d) =
      ((lastTagged d .env ls).isSome || (lastTagged d .name ls).isSome ||
        (lastTagged d .desc ls).isSome) := by
  simp only [isSome_lastTagged]
  induction ls with
  | nil => rfl
  | cons l ls ih =>
    simp only [List.any_cons]
    rw [ih, Line.isHolder]
    ac_rfl

theorem mem_tagged {d : Dialect} {tag : Tag} {ls : List Line} {m : Metadata} :
    m ∈ tagged d tag ls ↔ ∃ l ∈ ls, l.hasTag d tag = true ∧ m = l.metadata tag := by
  simp only [tagged, List.mem_map, List.mem_filter, and_assoc, eq_comm (a := m)]

theorem mem_of_lastTagged {d : Dialect} {tag : Tag} {ls : List Line} {m : Metadata}
    (h : lastTagged d tag ls = some m) : ∃ l ∈ ls, l.hasTag d tag = true ∧ m = l.metadata tag :=
  mem_tagged.mp (List.mem_of_getLast? h)

theorem exists_firstMetadata {d : Dialect} {ls : List Line} {l : Line} (hl : l ∈ ls)
    (hm : l.isMetadata d = true) : ∃ first, firstMetadata d ls = some first :=
  Option.isSome_iff_exists.mp (List.find?_isSome.mpr ⟨l, hl, hm⟩)

theorem exists_metadata_of_isSetting {d : Dialect} {ls : List Line}
    (h : hasSetting d ls = true) :
    ∃ first last, firstMetadata d ls = some first ∧ lastMetadata d ls = some last := by
  obtain ⟨l, hl, hs⟩ := List.any_eq_true.mp h
  have hm := Line.isMetadata_of_isSetting hs
  have hmem : l ∈ ls.filter (·.isMetadata d) := List.mem_filter.mpr ⟨hl, hm⟩
  obtain ⟨first, hfirst⟩ := exists_firstMetadata hl hm
  exact ⟨first, _, hfirst, List.getLast?_eq_getLast_of_ne_nil (List.ne_nil_of_mem hmem)⟩

theorem isEmpty_tagged_eq :
    ((tagged d .prop ls).isEmpty && (tagged d .arg ls).isEmpty) = !hasSetting d ls := by
  induction ls with
  | nil => rfl
  | cons l ls ih =>
    rw [hasSetting, List.any_cons, Bool.not_or, ← hasSetting, ← ih]
    simp only [tagged, List.filter_cons, Line.isSetting]
    cases l.hasTag d .prop <;> cases l.hasTag d .arg <;> simp

end Concat

/-! ## What stands before a line -/

/-- The lines right before line `n`, back to the last definition line, which is left out. -/
def sinceDefinition (d : Dialect) (lines : List Line) (n : Nat) : List Line :=
  (lines.take n).rtakeWhile (fun l => !l.isDefinition d)

/-- The lines right before line `n`, back to the last line that separates or is a definition. -/
def sinceSeparator (d : Dialect) (lines : List Line) (n : Nat) : List Line :=
  (lines.take n).rtakeWhile (fun l => !l.separates d)

/-- Whether environment, name and description are given up at line `n`: at a definition line, and at
a separating line that ends a run with a setting or an argument. -/
def isReset (d : Dialect) (lines : List Line) (n : Nat) : Bool :=
  match lines[n]? with
  | none => false
  | some l => l.isDefinition d || l.isBlank d && hasSetting d (sinceSeparator d lines n)

/-- The lines right before line `n`, back to the last reset. -/
def sinceReset (d : Dialect) (lines : List Line) (n : Nat) : List Line :=
  (lines.take n).rtakeWhile (fun l => !isReset d lines l.number)

/-- The runs of lines before line `n`: those since the last definition, cut at the separating
lines. -/
def runsBefore (d : Dialect) (lines : List Line) (n : Nat) : List (List Line) :=
  (sinceDefinition d lines n).splitOnP (·.isBlank d)

/-- The runs before line `n` that a separating line has ended. -/
def endedRuns (d : Dialect) (lines : List Line) (n : Nat) : List (List Line) :=
  (runsBefore d lines n).dropLast

theorem mem_of_mem_sinceDefinition {d : Dialect} {lines : List Line} {n : Nat} {l : Line}
    (h : l ∈ sinceDefinition d lines n) : l ∈ lines :=
  List.mem_of_mem_take ((List.rtakeWhile_suffix _ _).subset h)

theorem mem_of_mem_sinceReset {d : Dialect} {lines : List Line} {n : Nat} {l : Line}
    (h : l ∈ sinceReset d lines n) : l ∈ lines :=
  List.mem_of_mem_take ((List.rtakeWhile_suffix _ _).subset h)

/-! ## From one line to the next -/

section Succ

variable {d : Dialect} {lines : List Line} {n : Nat} {l : Line}

theorem take_succ (h : lines[n]? = some l) : lines.take (n + 1) = lines.take n ++ [l] := by
  rw [List.take_add_one, h]
  rfl

theorem sinceDefinition_succ (h : lines[n]? = some l) :
    sinceDefinition d lines (n + 1) =
      if l.isDefinition d then [] else sinceDefinition d lines n ++ [l] := by
  rw [sinceDefinition, take_succ h, List.rtakeWhile_concat]
  cases l.isDefinition d <;> rfl

theorem sinceSeparator_succ (h : lines[n]? = some l) :
    sinceSeparator d lines (n + 1) =
      if l.separates d then [] else sinceSeparator d lines n ++ [l] := by
  rw [sinceSeparator, take_succ h, List.rtakeWhile_concat]
  cases l.separates d <;> rfl

theorem isReset_eq (h : lines[n]? = some l) :
    isReset d lines n =
      (l.isDefinition d || l.isBlank d && hasSetting d (sinceSeparator d lines n)) := by
  rw [isReset, h]

theorem sinceReset_succ (h : lines[n]? = some l) (hn : l.number = n) :
    sinceReset d lines (n + 1) =
      if isReset d lines n then [] else sinceReset d lines n ++ [l] := by
  rw [sinceReset, take_succ h, List.rtakeWhile_concat, hn]
  cases isReset d lines n <;> rfl

end Succ

section Pieces

variable {α : Type*} {p : α → Bool}

theorem not_of_mem_getLast?_rdropWhile {q : α → Bool} {xs : List α} {x : α}
    (h : x ∈ (xs.rdropWhile q).getLast?) : q x = false := by
  have hne : xs.rdropWhile q ≠ [] := by
    intro hnil
    rw [hnil] at h
    cases h
  have hlast := List.rdropWhile_last_not q xs hne
  rw [List.getLast?_eq_getLast_of_ne_nil hne, Option.mem_def, Option.some.injEq] at h
  rw [h] at hlast
  simpa using hlast

/-- The last piece of a list is what stands after its last separator, and grows with the list until
the next separator. -/
theorem splitOnP_append (xs : List α) :
    ∃ ended : List (List α), ∀ more : List α, (∀ x ∈ more, p x = false) →
      (xs ++ more).splitOnP p = ended ++ [xs.rtakeWhile (fun x => !p x) ++ more] := by
  have hlast : ∀ x ∈ xs.rtakeWhile (fun x => !p x), p x = false := by
    intro x hx
    simpa using List.mem_rtakeWhile_imp hx
  have hcut := List.rdropWhile_append_rtakeWhile (p := fun x => !p x) (l := xs)
  rcases List.eq_nil_or_concat (xs.rdropWhile fun x => !p x) with hnil | ⟨init, sep, hinit⟩
  · -- no separator at all: there is one piece only
    rw [hnil, List.nil_append] at hcut
    refine ⟨[], fun more hmore => ?_⟩
    rw [hcut, List.nil_append]
    refine List.splitOnP_eq_singleton fun x hx => ?_
    rcases List.mem_append.mp hx with hx | hx
    · exact hlast x (hcut.symm ▸ hx)
    · exact hmore x hx
  · have hsep : p sep = true := by
      have hlast : sep ∈ (xs.rdropWhile fun x => !p x).getLast? := by simp [hinit]
      simpa using not_of_mem_getLast?_rdropWhile hlast
    refine ⟨init.splitOnP p, fun more hmore => ?_⟩
    have hsplit : xs ++ more = init ++ sep :: (xs.rtakeWhile (fun x => !p x) ++ more) := by
      conv_lhs => rw [← hcut, hinit]
      simp
    have hopen : ∀ x ∈ xs.rtakeWhile (fun x => !p x) ++ more, p x = false := by
      intro x hx
      rcases List.mem_append.mp hx with hx | hx
      · exact hlast x hx
      · exact hmore x hx
    rw [hsplit, List.splitOnP_append_cons _ _ hsep, List.splitOnP_eq_singleton hopen]

theorem splitOnP_eq_dropLast_append (xs : List α) :
    xs.splitOnP p = (xs.splitOnP p).dropLast ++ [xs.rtakeWhile (fun x => !p x)] := by
  obtain ⟨ended, h⟩ := splitOnP_append (p := p) xs
  have h0 := h [] (by simp)
  simp only [List.append_nil] at h0
  rw [h0, List.dropLast_concat]

/-- A separator ends the last piece; any other element is added to it. -/
theorem dropLast_splitOnP_concat (xs : List α) (x : α) :
    ((xs ++ [x]).splitOnP p).dropLast =
      if p x then xs.splitOnP p else (xs.splitOnP p).dropLast := by
  cases hx : p x with
  | true =>
    rw [List.splitOnP_append_cons xs [] hx, List.splitOnP_nil, List.dropLast_concat]
    rfl
  | false =>
    obtain ⟨ended, h⟩ := splitOnP_append (p := p) xs
    have h0 := h [] (by simp)
    have h1 := h [x] (by simp [hx])
    simp only [List.append_nil] at h0
    rw [h0, h1, List.dropLast_concat, List.dropLast_concat]
    rfl

end Pieces

section Runs

variable {d : Dialect} {lines : List Line} {n : Nat} {l : Line}

theorem sinceSeparator_eq :
    sinceSeparator d lines n = (sinceDefinition d lines n).rtakeWhile (fun l => !l.isBlank d) := by
  simp only [sinceSeparator, sinceDefinition, List.rtakeWhile, List.reverse_reverse,
    List.takeWhile_takeWhile]
  congr 2
  funext l
  simp only [Line.separates]
  cases l.isDefinition d <;> cases l.isBlank d <;> rfl

theorem runsBefore_eq :
    runsBefore d lines n = endedRuns d lines n ++ [sinceSeparator d lines n] := by
  rw [sinceSeparator_eq]
  exact splitOnP_eq_dropLast_append _

theorem endedRuns_succ (h : lines[n]? = some l) :
    endedRuns d lines (n + 1) =
      if l.isDefinition d then []
      else if l.isBlank d then runsBefore d lines n else endedRuns d lines n := by
  rw [endedRuns, runsBefore, sinceDefinition_succ h]
  split
  · rfl
  · exact dropLast_splitOnP_concat _ _

end Runs

end Flowline
