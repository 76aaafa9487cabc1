import Flowline.Proofs.StreamGrammar
import Flowline.Proofs.TaskGrammar
import Flowline.Proofs.Tiling

/-!
# Which lines are taken for definitions

A line is taken for a definition by its first character, which must be a letter or a digit. The
grammars allow more: names may also start with a dash or an underscore, a stream with the colon of
its source and a task with a split. So of the lines that can be read, exactly those are shown as
definitions that start with a letter or a digit.

* `classify_eq_definition_iff`: the lines that are taken for definitions;
* `StreamTerm.Written.opens`, `SequenceTerm.WrittenAlone.opens`: how texts that can be read start;
* `IsShown`: a line has an item with a definition;
* `isShown_iff_isAlphanumeric`: which lines that can be read are shown.
-/

namespace Flowline

open Character Input

/-! ## Lines that are taken for definitions -/

theorem trim_eq_cons {text rest : List Char} {c : Char} (h : trimStart text = c :: rest)
    (hc : isBlank c = false) : ∃ more, trim text = c :: more := by
  cases htrim : trim text with
  | nil =>
    -- then all that is left after the first blanks is blank
    have hall :=
      List.rdropWhile_eq_nil_iff.mp (show (trimStart text).rdropWhile isBlank = [] from htrim)
    rw [hall c (by rw [h]; exact List.mem_cons_self)] at hc
    cases hc
  | cons d more =>
    have hhead := head?_trimStart_of_trim htrim
    rw [h] at hhead
    cases hhead
    exact ⟨more, rfl⟩

theorem isBlank_of_isAlphanumeric {c : Char} (h : isAlphanumeric c = true) : isBlank c = false := by
  by_contra hblank
  rw [isAlphanumeric_of_isBlank (by simpa using hblank)] at h
  cases h

/-- A line is taken for a definition just if its first character is a letter or a digit. -/
theorem classify_eq_definition_iff {d : Dialect} {text : List Char} :
    LineKind.classify d text = .definition ↔
      ∃ c, (trimStart text).head? = some c ∧ isAlphanumeric c = true := by
  constructor
  · intro h
    simp only [LineKind.classify] at h
    split at h
    · cases h
    · next c rest htrim =>
      split at h
      · next hc => exact ⟨c, head?_trimStart_of_trim htrim, hc⟩
      · split at h
        · cases h
        · split at h
          · cases h
          · split at h <;> cases h
  · rintro ⟨c, hhead, hc⟩
    obtain ⟨rest, hrest⟩ := List.head?_eq_some_iff.mp hhead
    obtain ⟨more, htrim⟩ := trim_eq_cons hrest (isBlank_of_isAlphanumeric hc)
    simp only [LineKind.classify, htrim, hc, if_true]

/-! ## How texts that can be read start -/

/-- The first character of a text belongs to a name, or is a mark. -/
def Opens (mark : Char) (text : List Char) : Prop :=
  ∃ c, (trimStart text).head? = some c ∧ (isNameChar c = true ∨ c = mark)

theorem opens_of_stops {mark : Char} {lead rest : List Char} (hlead : IsBlanks lead)
    (hne : rest ≠ []) (hblank : Stops isBlank rest)
    (h : Stops (fun c => !(isNameChar c || c == mark)) rest) :
    Opens mark (lead ++ rest) := by
  obtain ⟨c, more, rfl⟩ := List.exists_cons_of_ne_nil hne
  rw [stops_cons, Bool.not_eq_false', Bool.or_eq_true, beq_iff_eq] at h
  refine ⟨c, ?_, h⟩
  rw [trimStart, hlead.dropWhile_append hblank]
  rfl

theorem StreamTerm.Written.opens {t : StreamTerm} {text : List Char} (h : t.Written text) :
    Opens ':' text := by
  obtain ⟨name, source, apps, sink⟩ := t
  obtain ⟨lead, declared, body, trail, hlead, hname, hbody, htrail, rfl⟩ := h
  dsimp only at hname hbody
  obtain ⟨hne, hblank, -⟩ := hbody.starts htrail
  have hword : ∀ c, isNameChar c = true → (!(isNameChar c || c == ':')) = false := by
    intro c hc
    rw [hc]
    rfl
  have hcolon : ∀ rest, Stops (fun c => !(isNameChar c || c == ':')) (':' :: rest) := fun rest =>
    stops_cons.mpr (by decide)
  refine opens_of_stops hlead ?_ (hname.stops hblank) ?_
  · exact fun hnil => hne (List.append_eq_nil_iff.mp (List.append_eq_nil_iff.mp hnil).2).1
  · cases hname with
    | present hname =>
      rw [List.append_assoc]
      exact hname.stops_append hword
    | absent =>
      rw [List.nil_append]
      cases hbody with
      | bridge hsource hsink =>
        cases hsource
        exact hcolon _
      | pipeline hsource happs hsink =>
        cases hsource with
        | present => exact hcolon _
        | absent =>
          rw [List.nil_append, List.append_assoc]
          exact happs.stops hword

theorem SequenceTerm.WrittenAlone.opens {t : SequenceTerm} {text : List Char}
    (h : t.WrittenAlone text) :
    Opens '<' text := by
  obtain ⟨lead, body, trail, hlead, hbody, -, rfl⟩ := h
  refine opens_of_stops hlead ?_ (hbody.stops (fun _ => isBlank_of_isNameChar) (by decide)) ?_
  · exact fun hnil => hbody.ne_nil (List.append_eq_nil_iff.mp hnil).1
  · refine hbody.stops (fun c hc => ?_) (by decide)
    rw [hc]
    rfl

/-! ## Lines that are shown -/

/-- A line is the definition line of an item whose definition could be read. -/
def IsShown (items : List Item) (line : Range) : Prop :=
  ∃ i ∈ items, i.definitionRange = some line ∧ i.parsed.isSome = true

instance (items : List Item) (line : Range) : Decidable (IsShown items line) :=
  inferInstanceAs (Decidable (∃ i ∈ items, _))

/-- A metadata line right above line `n` of a task document gives a name. -/
def NamedAbove (document : Document) (n : Nat) (name : String) : Prop :=
  ∃ k above, n = k + 1 ∧ document.lineText k = some above ∧
    LineKind.classify .task above = .metadata .name ∧
    ((Line.mk k above).metadata .name).value = some name

section Shown

variable {d : Dialect} {document : Document} {n : Nat} {text : List Char}

theorem getElem?_numberedLines (h : document.lineText n = some text) :
    document.numberedLines[n]? = some ⟨n, text⟩ := by
  rw [Document.numberedLines, getElem?_numbered, show document.lines[n]? = some text from h]
  rfl

/-- A line is shown just if it is taken for a definition and its definition can be read. -/
theorem isShown_iff_classify (htext : document.lineText n = some text)
    (hbody : ∃ p, (itemAt .standard d document.numberedLines ⟨n, text⟩).body = .parsed p) :
    IsShown (segment .standard d document) (Range.onLine n 0 text.length) ↔
      LineKind.classify d text = .definition := by
  have hget := getElem?_numberedLines htext
  constructor
  · rintro ⟨i, hi, hrange, -⟩
    obtain ⟨l, hl, hn, rfl⟩ := exists_itemAt hi (by rw [Item.line, hrange]; rfl)
    obtain ⟨hmem, hdef⟩ := mem_definitionLines.mp hl
    have hline := (isNumbered_numberedLines document).getElem? hmem
    rw [show l.number = n from hn, hget] at hline
    cases hline
    exact Line.isDefinition_iff.mp hdef
  · intro hkind
    obtain ⟨p, hp⟩ := hbody
    have hl : Line.mk n text ∈ definitionLines d document.numberedLines :=
      mem_definitionLines.mpr ⟨List.mem_of_getElem? hget, Line.isDefinition_iff.mpr hkind⟩
    refine ⟨_, mem_segment.mpr (.inl ⟨_, hl, rfl⟩), rfl, ?_⟩
    rw [Item.parsed, hp]
    rfl

theorem parsed_of_stream {s : StreamDefinition} (h : StreamDefinition.parse text = .ok s) :
    ∃ p, (itemAt .standard .stream document.numberedLines ⟨n, text⟩).body = .parsed p := by
  simp only [itemAt, Body.ofLine, Body.ofStreamLine, DefinitionReader.standard, h]
  exact ⟨_, rfl⟩

/-- The name right above a definition line is the one that counts there. -/
theorem name_of_namedAbove (text : List Char) {name : String} (h : NamedAbove document n name) :
    (itemAt .standard .task document.numberedLines ⟨n, text⟩).name.bind Metadata.value =
      some name := by
  obtain ⟨k, above, rfl, habove, hkind, hvalue⟩ := h
  have hget := getElem?_numberedLines habove
  have hkind' : (Line.mk k above).kind .task = .metadata .name := hkind
  obtain ⟨-, -, hsep⟩ := Line.not_separates_of_kind (d := .task) (l := ⟨k, above⟩)
    (by simp [hkind']) (by simp [hkind'])
  have hreset := isReset_of_not_separates hget hsep
  have htag : (Line.mk k above).hasTag .task .name = true := Line.hasTag_iff.mpr hkind'
  simp only [itemAt]
  rw [sinceReset_succ hget rfl, hreset, if_neg (by simp), lastTagged_concat, if_pos htag,
    Option.bind_some, hvalue]

theorem TaskDefinition.parse_rename {name : String} {t : TaskDefinition} {start : Nat}
    (h : TaskDefinition.parse name text start = .ok t) (other : String) :
    TaskDefinition.parse other text start = .ok { t with name := other } := by
  simp only [TaskDefinition.parse] at h ⊢
  split at h
  · cases h
  · next hne =>
    rw [if_neg hne]
    revert h
    cases readFlows 0 (ofText text start).skipBlanks with
    | error e =>
      intro h
      cases h
    | ok r =>
      intro h
      cases h
      rfl

theorem parsed_of_task {name : String} {t : TaskDefinition}
    (h : TaskDefinition.parse name text 0 = .ok t) (hinline : Dialect.task.inlineName text = none)
    {above : String} (habove : NamedAbove document n above) :
    ∃ p, (itemAt .standard .task document.numberedLines ⟨n, text⟩).body = .parsed p := by
  have hname := name_of_namedAbove text habove
  simp only [itemAt] at hname
  simp only [itemAt, Body.ofLine, Body.ofTaskLine, hinline, hname, Body.ofNamedTask,
    DefinitionReader.standard, TaskDefinition.parse_rename h above]
  exact ⟨_, rfl⟩

end Shown

/-- A line that can be read starts with a letter, a digit, a dash, an underscore or a mark, and it
is shown just if it starts with a letter or a digit. -/
def ShownByFirst (items : List Item) (n : Nat) (text : List Char) (mark : Char) : Prop :=
  ∃ c, (trimStart text).head? = some c ∧
    (isAlphanumeric c = true ∨ c = '-' ∨ c = '_' ∨ c = mark) ∧
    (IsShown items (Range.onLine n 0 text.length) ↔ isAlphanumeric c = true)

theorem Opens.shownByFirst {d : Dialect} {document : Document} {n : Nat} {text : List Char}
    {mark : Char} (h : Opens mark text)
    (hshown : IsShown (segment .standard d document) (Range.onLine n 0 text.length) ↔
      LineKind.classify d text = .definition) :
    ShownByFirst (segment .standard d document) n text mark := by
  obtain ⟨c, hhead, hc⟩ := h
  refine ⟨c, hhead, ?_, ?_⟩
  · simpa [isNameChar, or_assoc] using hc
  · rw [hshown, classify_eq_definition_iff, hhead]
    simp

/-- **Which lines that can be read are shown.** Of the lines of a stream document that can be read
as streams, exactly those are shown that start with a letter or a digit; the others start with a
dash, an underscore or a colon. The same holds for the lines of a task document that can be read as
tasks, have no name of their own and are named right above, with a split in the place of the
colon. -/
theorem isShown_iff_isAlphanumeric (document : Document) (n : Nat) (text : List Char)
    (htext : document.lineText n = some text) :
    (∀ s, StreamDefinition.parse text = .ok s →
      ShownByFirst (segment .standard .stream document) n text ':') ∧
    ∀ name t above, TaskDefinition.parse name text 0 = .ok t →
      Dialect.task.inlineName text = none → NamedAbove document n above →
      ShownByFirst (segment .standard .task document) n text '<' := by
  constructor
  · intro s hs
    exact (StreamDefinition.written_of_parse hs).opens.shownByFirst
      (isShown_iff_classify htext (parsed_of_stream hs))
  · intro name t above ht hinline habove
    obtain ⟨term, -, hterm⟩ := TaskDefinition.written_of_parse ht
    exact hterm.opens.shownByFirst (isShown_iff_classify htext (parsed_of_task ht hinline habove))

/-- A stream that reads from a destination, with a name and without one. -/
def tappedOrders : Document where
  uri := "file:///streams.scdfs"
  version := 1
  text := "tap = :orders > log\n:orders > log"

/-- A task that ends with a split, and one that starts with a split. -/
def splitTasks : Document where
  uri := "file:///tasks.scdft"
  version := 1
  text := "-- @name nightly\nload && <a || b>\n-- @name hourly\n<a || b> && load"

theorem exists_of_isOk {ε α : Type*} {r : Except ε α} (h : r.isOk = true) : ∃ a, r = .ok a := by
  cases r with
  | error e => cases h
  | ok a => exact ⟨a, rfl⟩

/-- With a name before the colon, and with the split at the end, the lines are shown. -/
theorem tappedOrders_isShown :
    (tappedOrders.lineText 0 = some "tap = :orders > log".toList ∧
      (StreamDefinition.parse "tap = :orders > log".toList).isOk = true ∧
      splitTasks.lineText 1 = some "load && <a || b>".toList ∧
      (TaskDefinition.parse "nightly" "load && <a || b>".toList 0).isOk = true ∧
      Dialect.task.inlineName "load && <a || b>".toList = none ∧
        NamedAbove splitTasks 1 "nightly") ∧
    IsShown (segment .standard .stream tappedOrders) (Range.onLine 0 0 19) ∧
      IsShown (segment .standard .task splitTasks) (Range.onLine 1 0 16) := by
  have hline : tappedOrders.lineText 0 = some "tap = :orders > log".toList := by decide +kernel
  have hline' : splitTasks.lineText 1 = some "load && <a || b>".toList := by decide +kernel
  have hstream : (StreamDefinition.parse "tap = :orders > log".toList).isOk = true := by
    decide +kernel
  have htask : (TaskDefinition.parse "nightly" "load && <a || b>".toList 0).isOk = true := by
    decide +kernel
  have hinline : Dialect.task.inlineName "load && <a || b>".toList = none := by decide +kernel
  have hnamed : NamedAbove splitTasks 1 "nightly" :=
    ⟨0, "-- @name nightly".toList, rfl, by decide +kernel, by decide +kernel, by decide +kernel⟩
  obtain ⟨s, hs⟩ := exists_of_isOk hstream
  obtain ⟨t, ht⟩ := exists_of_isOk htask
  obtain ⟨c, hc, -, hshown⟩ := (isShown_iff_isAlphanumeric tappedOrders 0 _ hline).1 s hs
  obtain ⟨c', hc', -, hshown'⟩ :=
    (isShown_iff_isAlphanumeric splitTasks 1 _ hline').2 _ t "nightly" ht hinline hnamed
  cases hc
  cases hc'
  exact ⟨⟨hline, hstream, hline', htask, hinline, hnamed⟩, hshown.mpr (by decide +kernel),
    hshown'.mpr (by decide +kernel)⟩

/-- Without the name, and with the split at the start, the lines can be read but are not shown,
though they start with neither a dash nor a hash. -/
theorem tappedOrders_not_isShown :
    (tappedOrders.lineText 1 = some ":orders > log".toList ∧
      (trimStart ":orders > log".toList).head? = some ':' ∧
      (StreamDefinition.parse ":orders > log".toList).isOk = true ∧
      ¬ IsShown (segment .standard .stream tappedOrders) (Range.onLine 1 0 13)) ∧
    splitTasks.lineText 3 = some "<a || b> && load".toList ∧
      (trimStart "<a || b> && load".toList).head? = some '<' ∧
      (TaskDefinition.parse "hourly" "<a || b> && load".toList 0).isOk = true ∧
      Dialect.task.inlineName "<a || b> && load".toList = none ∧ NamedAbove splitTasks 3 "hourly" ∧
      ¬ IsShown (segment .standard .task splitTasks) (Range.onLine 3 0 16) := by
  have hnamed : NamedAbove splitTasks 3 "hourly" :=
    ⟨2, "-- @name hourly".toList, rfl, by decide +kernel, by decide +kernel, by decide +kernel⟩
  refine ⟨⟨by decide +kernel, by decide +kernel, by decide +kernel, by decide +kernel⟩,
    by decide +kernel, by decide +kernel, by decide +kernel, by decide +kernel, hnamed, ?_⟩
  decide +kernel

end Flowline
