import Flowline.Editor.Completion
import Flowline.Proofs.NamePrefix
import Mathlib.Data.List.Forall2

/-!
# What a proposal shows and what it replaces

A proposal is shown without the part of it that is typed before the current word. That part is
looked for from the end of what is typed down to its second column, so a blank in the first column,
where it is the only one, is not taken into account.

A proposal replaces the line up to the cursor. In a task line the name before the equals sign and
the blanks behind it are not sent, but put in front of the proposal again. The name is looked for in
what is typed only; it is the name of the whole line if an equals sign is typed, and a line that
starts with what is kept has it still.

* `IsCommonStart`, `AddsTo`: a text without what it has in common with another one;
* `isBlank_of_lastBlankIndex`, `not_isBlank_of_lastBlankIndex`: the search for the last blank;
* `resultLabel_addsTo_iff`: when the label is what the proposal adds to the text before the current
  word;
* `inlineName_append`: a name does not depend on what stands behind the equals sign;
* `complete_keeps_name`: what is sent, what is inserted, and what it leaves of the line.
-/

namespace Flowline

open Character

/-! ## What a proposal adds -/

/-- The longest text that two texts both start with. -/
structure IsCommonStart (a b common : List Char) : Prop where
  left : common <+: a
  right : common <+: b
  longest : ∀ other, other <+: a → other <+: b → other <+: common

/-- The label is what is left of a proposal without the longest start that it has in common with a
text. -/
def AddsTo (before proposal label : List Char) : Prop :=
  ∃ common, IsCommonStart before proposal common ∧ proposal = common ++ label

theorem isCommonStart_take_commonLength (a b : List Char) :
    IsCommonStart a b (b.take (commonLength a b)) := by
  induction a generalizing b with
  | nil => exact ⟨by simp [commonLength], by simp [commonLength], by simp⟩
  | cons x a ih =>
    cases b with
    | nil => exact ⟨by simp, by simp, fun _ _ h => by simpa using h⟩
    | cons y b =>
      unfold commonLength
      split
      · next hxy =>
        subst hxy
        obtain ⟨hleft, hright, hlongest⟩ := ih b
        refine ⟨List.cons_prefix_cons.mpr ⟨rfl, hleft⟩, List.cons_prefix_cons.mpr ⟨rfl, hright⟩, ?_⟩
        intro other ha hb
        cases other with
        | nil => exact List.nil_prefix
        | cons z other =>
          obtain ⟨rfl, hrest⟩ := List.cons_prefix_cons.mp ha
          exact List.cons_prefix_cons.mpr
            ⟨rfl, hlongest other hrest (List.cons_prefix_cons.mp hb).2⟩
      · next hxy =>
        refine ⟨List.nil_prefix, List.nil_prefix, ?_⟩
        intro other ha hb
        cases other with
        | nil => exact List.nil_prefix
        | cons z other =>
          obtain ⟨rfl, -⟩ := List.cons_prefix_cons.mp ha
          exact absurd (List.cons_prefix_cons.mp hb).1 hxy

theorem addsTo_drop_commonLength (before proposal : List Char) :
    AddsTo before proposal (proposal.drop (commonLength before proposal)) :=
  ⟨_, isCommonStart_take_commonLength before proposal, (List.take_append_drop _ _).symm⟩

/-- A proposal adds all of itself just to a text that starts otherwise. -/
theorem addsTo_self_iff {before proposal : List Char} :
    AddsTo before proposal proposal ↔ ∀ c, before.head? = some c → proposal.head? ≠ some c := by
  constructor
  · rintro ⟨common, hcommon, hsplit⟩ c hbefore hproposal
    obtain ⟨_, rfl⟩ := List.head?_eq_some_iff.mp hbefore
    obtain ⟨_, rfl⟩ := List.head?_eq_some_iff.mp hproposal
    have hlonger := hcommon.longest [c] (by simp) (by simp)
    have hempty : common = [] := by simpa using hsplit
    simp [hempty] at hlonger
  · intro h
    refine ⟨[], ⟨List.nil_prefix, List.nil_prefix, ?_⟩, rfl⟩
    intro other hleft hright
    cases other with
    | nil => exact List.nil_prefix
    | cons c other =>
      obtain ⟨_, rfl⟩ := hleft
      obtain ⟨_, rfl⟩ := hright
      exact absurd rfl (h c rfl)

/-! ## Where the current word starts -/

/-- What is typed before the current word: all up to the last blank, and nothing where there is no
blank. -/
def beforeWord (typed : List Char) : List Char :=
  typed.rdropWhile fun c => !isBlank c

theorem beforeWord_append {before word : List Char}
    (hlast : ∀ c ∈ before.getLast?, isBlank c = true) (hword : ∀ c ∈ word, isBlank c = false) :
    beforeWord (before ++ word) = before := by
  have hdrop : word.reverse.dropWhile (fun c => !isBlank c) = [] := by
    simpa using hword
  have hkeep : before.rdropWhile (fun c => !isBlank c) = before := by
    rw [List.rdropWhile_eq_self_iff]
    intro hne
    simpa using hlast _ (List.getLast?_eq_getLast_of_ne_nil hne)
  rw [beforeWord, List.rdropWhile, List.reverse_append, List.dropWhile_append, hdrop]
  exact hkeep

section Search

variable {typed : List Char} {bound i j : Nat} {c : Char}

/-- What the search finds is a blank behind the first column. -/
theorem isBlank_of_lastBlankIndex (h : lastBlankIndex typed bound = some i) :
    0 < i ∧ ∃ c, typed[i]? = some c ∧ isBlank c = true := by
  fun_induction lastBlankIndex typed bound with
  | case1 => cases h
  | case2 k c hget hblank =>
    cases h
    exact ⟨Nat.succ_pos _, c, hget, hblank⟩
  | case3 k c hget hblank ih => exact ih h
  | case4 k hget ih => exact ih h

/-- There is no blank between what the search finds, or the first column if it fails, and where it
started. -/
theorem not_isBlank_of_lastBlankIndex (hlt : (lastBlankIndex typed bound).getD 0 < j)
    (hle : j ≤ bound) (hj : typed[j]? = some c) : isBlank c = false := by
  fun_induction lastBlankIndex typed bound with
  | case1 =>
    rw [Option.getD_none] at hlt
    omega
  | case2 k b hget hblank =>
    rw [Option.getD_some] at hlt
    omega
  | case3 k b hget hblank ih =>
    by_cases hend : j = k + 1
    · rw [hend, hget] at hj
      cases hj
      simpa using hblank
    · exact ih hlt (by omega)
  | case4 k hget ih =>
    by_cases hend : j = k + 1
    · rw [hend, hget] at hj
      cases hj
    · exact ih hlt (by omega)

end Search

/-- What is typed has no blank behind its first column. -/
def IsOneWord (typed : List Char) : Prop :=
  ∀ c ∈ typed.tail, isBlank c = false

/-- The text before the current word is found unless its only blank stands in the first column. -/
theorem take_wordStart (typed : List Char) :
    (typed.take (wordStart typed) = beforeWord typed ∧ ¬ IsOneWord typed) ∨
      (typed.take (wordStart typed) = [] ∧ IsOneWord typed) := by
  unfold wordStart
  cases hsearch : lastBlankIndex typed (typed.length - 1) with
  | none =>
    right
    refine ⟨rfl, fun c hc => ?_⟩
    obtain ⟨k, hk⟩ := List.mem_iff_getElem?.mp hc
    rw [List.getElem?_tail] at hk
    have hlt := (List.getElem?_eq_some_iff.mp hk).1
    have hle : k + 1 ≤ typed.length - 1 := by omega
    refine not_isBlank_of_lastBlankIndex ?_ hle hk
    rw [hsearch]
    exact Nat.succ_pos k
  | some i =>
    left
    obtain ⟨hpos, c, hget, hblank⟩ := isBlank_of_lastBlankIndex hsearch
    constructor
    · have hlast : ∀ b ∈ (typed.take (i + 1)).getLast?, isBlank b = true := by
        rw [List.take_add_one, hget, Option.toList_some, List.getLast?_concat]
        rintro b ⟨⟩
        exact hblank
      have hword : ∀ b ∈ typed.drop (i + 1), isBlank b = false := by
        intro b hb
        obtain ⟨k, hk⟩ := List.mem_iff_getElem?.mp hb
        rw [List.getElem?_drop] at hk
        have hlt := (List.getElem?_eq_some_iff.mp hk).1
        have hle : i + 1 + k ≤ typed.length - 1 := by omega
        refine not_isBlank_of_lastBlankIndex ?_ hle hk
        rw [hsearch, Option.getD_some]
        omega
      have hbefore := beforeWord_append hlast hword
      rw [List.take_append_drop] at hbefore
      exact hbefore.symm
    · intro hone
      have hmem : c ∈ typed.tail := by
        refine List.mem_of_getElem? (i := i - 1) ?_
        rwa [List.getElem?_tail, Nat.sub_add_cancel hpos]
      rw [hone c hmem] at hblank
      cases hblank

/-- The only blank that is typed stands in the first column, and the proposal starts with it. -/
def OpensWithBlank (typed proposal : List Char) : Prop :=
  ∃ c, typed.head? = some c ∧ isBlank c = true ∧ IsOneWord typed ∧ proposal.head? = some c

theorem beforeWord_of_isOneWord {typed : List Char} (h : IsOneWord typed) :
    beforeWord typed = (typed.head?.filter isBlank).toList := by
  cases typed with
  | nil => rfl
  | cons c word =>
    by_cases hc : isBlank c = true
    · have hlast : ∀ b ∈ [c].getLast?, isBlank b = true := by
        rintro b ⟨⟩
        exact hc
      simpa [Option.filter_some, hc] using beforeWord_append hlast h
    · have hall : ∀ b ∈ c :: word, isBlank b = false := by
        intro b hb
        rcases List.mem_cons.mp hb with rfl | hb
        · simpa using hc
        · exact h b hb
      have hnil : ∀ b ∈ ([] : List Char).getLast?, isBlank b = true := by simp
      simpa [Option.filter_some, hc] using beforeWord_append hnil hall

theorem head?_beforeWord {typed : List Char} {c : Char} (h : IsOneWord typed) :
    (beforeWord typed).head? = some c ↔ typed.head? = some c ∧ isBlank c = true := by
  rw [beforeWord_of_isOneWord h, Option.head?_toList, Option.filter_eq_some_iff]

/-- **Labels.** The label is what the proposal adds to all that is typed up to the last blank, just
if it is not the case that the only blank that is typed stands in the first column and the proposal
starts with it. In that case the label is the whole proposal. -/
theorem resultLabel_addsTo_iff (typed proposal : List Char) :
    (AddsTo (beforeWord typed) proposal (resultLabel typed proposal) ↔
      ¬ OpensWithBlank typed proposal) ∧
    (OpensWithBlank typed proposal → resultLabel typed proposal = proposal) := by
  have hadds := addsTo_drop_commonLength (typed.take (wordStart typed)) proposal
  rcases take_wordStart typed with ⟨hbefore, hmore⟩ | ⟨hnil, hone⟩
  · have hnot : ¬ OpensWithBlank typed proposal := fun ⟨_, _, _, hone, _⟩ => hmore hone
    rw [hbefore] at hadds
    rw [resultLabel, hbefore]
    exact ⟨⟨fun _ => hnot, fun _ => hadds⟩, fun hopens => absurd hopens hnot⟩
  · have hwhole : resultLabel typed proposal = proposal := by
      rw [resultLabel, hnil]
      rfl
    rw [hwhole, addsTo_self_iff]
    refine ⟨⟨?_, ?_⟩, fun _ => rfl⟩
    · rintro hother ⟨c, hhead, hc, -, hproposal⟩
      exact hother c ((head?_beforeWord hone).mpr ⟨hhead, hc⟩) hproposal
    · intro hnot c hbefore hproposal
      obtain ⟨hhead, hc⟩ := (head?_beforeWord hone).mp hbefore
      exact hnot ⟨c, hhead, hc, hone, hproposal⟩

/-- Behind an indented app and a pipe, the proposal is shown from the current word on. -/
theorem indentedPipe_addsTo :
    ¬ OpensWithBlank " time | l".toList " time | log".toList ∧
      AddsTo (beforeWord " time | l".toList) " time | log".toList "log".toList := by
  have hnot : ¬ OpensWithBlank " time | l".toList " time | log".toList := by
    rintro ⟨c, -, -, hone, -⟩
    exact absurd (hone ' ' (by decide)) (by decide)
  exact ⟨hnot, (resultLabel_addsTo_iff " time | l".toList " time | log".toList).1.mpr hnot⟩

/-- Behind an indent alone the blank is shown again: the label is the whole proposal, but what the
proposal adds to the blank is the word without it. -/
theorem indent_not_addsTo :
    resultLabel " l".toList " log".toList = " log".toList ∧
      AddsTo (beforeWord " l".toList) " log".toList "log".toList ∧
      ¬ AddsTo (beforeWord " l".toList) " log".toList (resultLabel " l".toList " log".toList) := by
  have hbefore : beforeWord " l".toList = [' '] := by decide
  have hlabel : resultLabel " l".toList " log".toList = " log".toList := by decide
  rw [hbefore, hlabel]
  exact ⟨rfl, addsTo_drop_commonLength [' '] " log".toList,
    fun h => addsTo_self_iff.mp h ' ' rfl rfl⟩

/-! ## The name of a line and of its start -/

section Scan

variable {start : Option Nat} {stop index first last bodyStart : Nat} {cs more : List Char}

/-- The pass over a line ends at the first equals sign, so nothing behind it counts. -/
theorem scanName_append (h : '=' ∈ cs) :
    scanName start stop index (cs ++ more) = scanName start stop index cs := by
  induction cs generalizing start stop index with
  | nil => cases h
  | cons c cs ih =>
    rw [List.cons_append, scanName, scanName]
    by_cases hc : c = '='
    · rw [if_pos hc, if_pos hc]
    · have hmem : '=' ∈ cs := by
        rcases List.mem_cons.mp h with heq | hmem
        · exact absurd heq.symm hc
        · exact hmem
      rw [if_neg hc, if_neg hc, ih hmem, ih hmem]

/-- The body starts right behind an equals sign. -/
theorem equals_of_scanName (h : scanName start stop index cs = some (first, last, bodyStart)) :
    ∃ before after, cs = before ++ '=' :: after ∧ bodyStart = index + (before.length + 1) := by
  fun_induction scanName start stop index cs with
  | case1 => cases h
  | case2 start stop index rest =>
    obtain ⟨s, -, heq⟩ := Option.map_eq_some_iff.mp h
    cases heq
    exact ⟨[], rest, rfl, rfl⟩
  | case3 start stop index c rest hc hb ih =>
    obtain ⟨before, after, rfl, hbody⟩ := ih h
    refine ⟨c :: before, after, rfl, ?_⟩
    rw [hbody, List.length_cons]
    omega
  | case4 => cases h
  | case5 start stop index c rest hc hb hn hgap ih =>
    obtain ⟨before, after, rfl, hbody⟩ := ih h
    refine ⟨c :: before, after, rfl, ?_⟩
    rw [hbody, List.length_cons]
    omega
  | case6 => cases h

end Scan

section Name

variable {d : Dialect} {text more : List Char} {inline : InlineName}

theorem slice_append {start stop : Nat} (h : stop ≤ text.length) :
    slice (text ++ more) start stop = slice text start stop := by
  unfold slice
  by_cases hle : start ≤ text.length
  · rw [List.drop_append_of_le_length hle, List.take_append_of_le_length]
    rw [List.length_drop]
    omega
  · rw [show stop - start = 0 by omega, List.take_zero, List.take_zero]

/-- A name does not depend on what stands behind the equals sign. -/
theorem inlineName_append (h : '=' ∈ text) : d.inlineName (text ++ more) = d.inlineName text := by
  unfold Dialect.inlineName
  split
  · rfl
  · rw [scanName_append h]
    cases hscan : scanName none 0 0 text with
    | none => rfl
    | some found =>
      obtain ⟨start, stop, bodyStart⟩ := found
      obtain ⟨-, hstop, hbody⟩ := scanName_bounds (by simp) hscan
      simp only [Option.map_some]
      rw [slice_append (by omega)]

/-- The equals sign stands before the body. -/
theorem equals_mem_of_inlineName (h : d.inlineName text = some inline) :
    '=' ∈ text.take inline.bodyStart := by
  unfold Dialect.inlineName at h
  split at h
  · cases h
  · obtain ⟨⟨start, stop, bodyStart⟩, hscan, rfl⟩ := Option.map_eq_some_iff.mp h
    obtain ⟨before, after, rfl, rfl⟩ := equals_of_scanName hscan
    rw [Nat.zero_add, List.append_cons, ← List.length_singleton (a := '='), ← List.length_append,
      List.take_left]
    simp

end Name

/-! ## What is kept and what is sent -/

section Split

variable {d : Dialect} {typed : List Char} {inline : InlineName}

theorem splitTyped_append (d : Dialect) (typed : List Char) :
    (splitTyped d typed).1 ++ (splitTyped d typed).2 = typed := by
  unfold splitTyped
  split
  · rfl
  · exact List.take_append_drop _ _

/-- The name is kept with its equals sign. -/
theorem equals_mem_splitTyped (h : d.inlineName typed = some inline) :
    '=' ∈ (splitTyped d typed).1 := by
  simp only [splitTyped, h]
  exact (List.take_prefix_take_left (by omega)).subset (equals_mem_of_inlineName h)

theorem drop_leadingBlanks (text : List Char) :
    text.drop (leadingBlanks text) = text.dropWhile isBlank := by
  have hsplit := List.takeWhile_append_dropWhile (p := isBlank) (l := text)
  calc text.drop (leadingBlanks text)
      = (text.takeWhile isBlank ++ text.dropWhile isBlank).drop
        (text.takeWhile isBlank).length := by
        rw [hsplit, leadingBlanks]
    _ = text.dropWhile isBlank := List.drop_left

/-- What is sent does not start with a blank, where a name is kept. -/
theorem stops_splitTyped (h : d.inlineName typed = some inline) :
    Stops isBlank (splitTyped d typed).2 := by
  simp only [splitTyped, h]
  rw [← List.drop_drop, drop_leadingBlanks]
  exact stops_dropWhile isBlank _

/-- Whatever follows what is kept, the name stays the same. -/
theorem inlineName_kept_append (h : d.inlineName typed = some inline) (more : List Char) :
    d.inlineName ((splitTyped d typed).1 ++ more) = some inline := by
  have hmem := equals_mem_splitTyped h
  have hkept : d.inlineName typed = d.inlineName (splitTyped d typed).1 := by
    conv_lhs => rw [← splitTyped_append d typed]
    exact inlineName_append hmem
  rw [inlineName_append hmem, ← hkept, h]

end Split

/-! ## What is inserted -/

/-- A line after an edit of some of its columns. Columns past its end stand for its end. -/
def TextEdit.applyTo (e : TextEdit) (line : List Char) : List Char :=
  line.take e.range.start.character ++ e.newText.toList ++ line.drop e.range.stop.character

/-- What is offered for a proposal puts it behind what is kept, in place of all columns up to the
cursor `p`. An editor receives these columns as they are if the cursor came from an editor. -/
structure CompletionItem.Inserts (p : Position) (kept : List Char) (q : Proposal)
    (c : CompletionItem) :
    Prop where
  newText : c.edit.newText = String.ofList (kept ++ q.text.toList)
  range : c.edit.range = Range.onLine p.line 0 p.character
  received : p.clamp = p → c.edit.range.clamp = c.edit.range

theorem CompletionItem.inserts_ofProposal (p : Position) (kept sent : List Char) (q : Proposal) :
    (CompletionItem.ofProposal (Range.onLine p.line 0 p.character) kept sent q).Inserts
      p kept q := by
  refine ⟨rfl, rfl, fun hp => ?_⟩
  have hline : min p.line Position.maxNumber = p.line := congrArg Position.line hp
  have hcharacter : min p.character Position.maxNumber = p.character :=
    congrArg Position.character hp
  simp only [ofProposal, Range.onLine, Range.clamp, Position.clamp, hline, hcharacter, Nat.zero_min]

theorem CompletionItem.Inserts.applyTo_eq {p : Position} {kept : List Char} {q : Proposal}
    {c : CompletionItem} (h : c.Inserts p kept q) (line : List Char) :
    c.edit.applyTo line = kept ++ (q.text.toList ++ line.drop p.character) := by
  rw [TextEdit.applyTo, h.range, h.newText]
  simp [Range.onLine]

/-- The answer to what is sent is offered proposal by proposal, and an error is passed on. -/
theorem complete_eq (client : Client) (e : Environment) (d : Dialect) (line : List Char)
    (p : Position) :
    complete client e d line p =
      (client.completions e d (String.ofList (splitTyped d (line.take p.character)).2)
        detailLevel).map
        (List.map (CompletionItem.ofProposal (Range.onLine p.line 0 p.character)
          (splitTyped d (line.take p.character)).1 (splitTyped d (line.take p.character)).2)) := by
  unfold complete
  obtain ⟨kept, sent⟩ := splitTyped d (line.take p.character)
  simp only
  cases client.completions e d (String.ofList sent) detailLevel with
  | error error => rfl
  | ok proposals => rfl

/-- **Completion keeps the name and the rest of a task line.** What is typed before the cursor is a
part that is kept and a part that is sent, and the client is asked about just that. For each
proposal one item is offered, in order, which puts the proposal behind the part that is kept, in
place of all columns up to the cursor. If an equals sign is typed, what is typed has the name of the
line. If it has a name, what is sent does not start with a blank, and after any of the edits the
line still has that name, with the same columns and the same start of its body, and ends as before.
The name would stay the same whatever came behind the part that is kept, as where a proposal breaks
the line. -/
theorem complete_keeps_name (client : Client) (e : Environment) (line : List Char) (p : Position) :
    let typed := line.take p.character
    ∃ kept sent, typed = kept ++ sent ∧
      completionCall e .task line p = ⟨e, .completions .task (String.ofList sent) detailLevel⟩ ∧
      (∀ proposals, client.completions e .task (String.ofList sent) detailLevel = .ok proposals →
        ∃ items, complete client e .task line p = .ok items ∧
          List.Forall₂ (CompletionItem.Inserts p kept) proposals items ∧
          List.Forall₂
            (fun q c => c.edit.applyTo line = kept ++ (q.text.toList ++ line.drop p.character))
            proposals items ∧
          ∀ inline, Dialect.task.inlineName typed = some inline →
            ∀ c ∈ items, Dialect.task.inlineName (c.edit.applyTo line) = some inline) ∧
      ('=' ∈ typed → Dialect.task.inlineName typed = Dialect.task.inlineName line) ∧
      ∀ inline, Dialect.task.inlineName typed = some inline →
        Stops isBlank sent ∧ ∀ more, Dialect.task.inlineName (kept ++ more) = some inline := by
  intro typed
  refine ⟨(splitTyped .task typed).1, (splitTyped .task typed).2, (splitTyped_append _ _).symm,
    rfl, ?_, ?_, fun inline hinline => ⟨stops_splitTyped hinline, inlineName_kept_append hinline⟩⟩
  · intro proposals hproposals
    have hinserts : ∀ q ∈ proposals, (CompletionItem.ofProposal (Range.onLine p.line 0 p.character)
        (splitTyped .task typed).1 (splitTyped .task typed).2 q).Inserts p
          (splitTyped .task typed).1 q :=
      fun q _ => CompletionItem.inserts_ofProposal p _ _ q
    refine ⟨_, by rw [complete_eq, hproposals]; rfl, ?_, ?_, ?_⟩
    · rw [List.forall₂_map_right_iff, List.forall₂_same]
      exact hinserts
    · rw [List.forall₂_map_right_iff, List.forall₂_same]
      exact fun q hq => (hinserts q hq).applyTo_eq line
    · intro inline hinline c hc
      obtain ⟨q, hq, rfl⟩ := List.mem_map.mp hc
      rw [(hinserts q hq).applyTo_eq line]
      exact inlineName_kept_append hinline _
  · intro hmem
    conv_rhs => rw [← List.take_append_drop p.character line]
    exact (inlineName_append hmem).symm

/-- A client with two proposals, one of which has an equals sign. -/
def echoClient : Client where
  completions _ _ _ _ := .ok [⟨"timestamp", ""⟩, ⟨"time --zone=utc", ""⟩]
  registeredTaskApps _ := .ok []
  perform _ _ := .ok ()

/-- The cursor stands behind the second equals sign of a task line with a name. -/
theorem namedTask_keeps_name :
    let line := " my-task =  time --x=1 && load".toList
    let p : Position := ⟨3, 21⟩
    let e : Environment := ⟨"local", "http://localhost:9393", .empty⟩
    (Dialect.task.inlineName (line.take p.character) = some ⟨"my-task", 1, 8, 10⟩ ∧
      '=' ∈ line.take p.character ∧ p.clamp = p) ∧
    Dialect.task.inlineName line = some ⟨"my-task", 1, 8, 10⟩ ∧
    ∃ items, complete echoClient e .task line p = .ok items ∧ items.length = 2 ∧
      ∀ c ∈ items, Dialect.task.inlineName (c.edit.applyTo line) = some ⟨"my-task", 1, 8, 10⟩ := by
  intro line p e
  have hname : Dialect.task.inlineName (line.take p.character) =
      some ⟨"my-task", 1, 8, 10⟩ := by
    decide
  have hmem : '=' ∈ line.take p.character := by decide
  obtain ⟨kept, sent, -, -, hitems, hline, -⟩ := complete_keeps_name echoClient e line p
  obtain ⟨items, hcomplete, hinserts, -, hkeeps⟩ := hitems _ rfl
  exact ⟨⟨hname, hmem, by decide⟩, (hline hmem).symm.trans hname, items, hcomplete,
    hinserts.length_eq.symm, hkeeps _ hname⟩

end Flowline
