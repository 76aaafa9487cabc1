import Flowline.Proofs.Tokens

/-!
# How apps are written

An app without its columns is a term. The relations here say which texts write a term: a value may
be bare or quoted, and blanks may stand before each option. They must stand there after a name or a
bare value, which would take in the dashes otherwise; so a text also has an ending, which says what
its last part is and thereby what may follow it.

* `AppTerm`, `AppTerm.Written`: apps and the texts that write them;
* `Ending.Closed`: the last part of a text is not continued by what follows;
* `readApp_of_written`: a text that writes an app is read as that app;
* `written_of_readApp`: what is read as an app is a text that writes it.
-/

namespace Flowline

open Character Input

/-- An app as it is meant, without the columns it was read from. -/
structure AppTerm where
  label : Option String
  name : String
  /-- The names and values of the options. -/
  options : List (String × String)
  deriving DecidableEq, Repr

def Argument.term (o : Argument) : String × String :=
  (o.name, o.value)

def App.term (a : App) : AppTerm :=
  ⟨a.label, a.name, a.arguments.map Argument.term⟩

/-! ## Values -/

/-- The characters, apart from blanks, that a bare value cannot hold. -/
def Grammar.delimiters : Grammar → List Char
  | stream => ['|']
  | task => ['|', '&', '>']

theorem Grammar.endsValue_iff {g : Grammar} {c : Char} :
    g.endsValue c = true ↔ isBlank c = true ∨ c ∈ g.delimiters := by
  cases g <;> simp [endsValue, delimiters, or_assoc]

def isQuote (c : Char) : Bool :=
  c == '"' || c == '\''

/-- A text in which every quote stands twice. -/
def doubled (quote : Char) (text : List Char) : List Char :=
  text.flatMap fun c => if c = quote then [c, c] else [c]

/-- What the last part of a text is. -/
inductive Ending where
  | name
  | bare
  | quoted
  deriving DecidableEq, Repr

/-- What follows a text does not continue its last part. -/
def Ending.Closed (g : Grammar) : Ending → List Char → Prop
  | name, rest => Stops isNameChar rest
  | bare, rest => Stops (fun c => !g.endsValue c) rest
  | quoted, _ => True

/-- The texts that write a value. -/
inductive ValueWritten (g : Grammar) : String → Ending → List Char → Prop
  | bare {value : String} (hne : value.toList ≠ []) (hquote : Stops isQuote value.toList)
      (hchars : ∀ c ∈ value.toList, isBlank c = false ∧ c ∉ g.delimiters) :
      ValueWritten g value .bare value.toList
  | quoted {value : String} {quote : Char} (hquote : isQuote quote = true) :
      ValueWritten g value .quoted (quote :: (doubled quote value.toList ++ [quote]))

section Quotes

variable {quote : Char} {value rest cs after : List Char}

theorem closeQuote_doubled (value : List Char) (h : Stops (· == quote) rest) :
    closeQuote quote (doubled quote value ++ quote :: rest) = some (value, rest) := by
  induction value with
  | nil =>
    cases rest with
    | nil => simp [doubled, closeQuote]
    | cons d more =>
      rw [stops_cons, beq_eq_false_iff_ne] at h
      simp [doubled, closeQuote, h]
  | cons c cs ih =>
    rw [doubled] at ih ⊢
    rw [List.flatMap_cons, List.append_assoc]
    by_cases hc : c = quote
    · simp [hc, closeQuote, ih]
    · rw [if_neg hc, List.cons_append, List.nil_append]
      unfold closeQuote
      rw [if_neg hc, ih, Option.map_some]

theorem eq_doubled_of_closeQuote (h : closeQuote quote cs = some (value, after)) :
    cs = doubled quote value ++ quote :: after := by
  fun_induction closeQuote quote cs generalizing value after with
  | case1 => cases h
  | case2 =>
    cases h
    rfl
  | case3 more ih =>
    -- a doubled quote
    obtain ⟨⟨v, a⟩, ha, he⟩ := Option.map_eq_some_iff.mp h
    cases he
    rw [ih ha]
    simp [doubled]
  | case4 d more hd =>
    cases h
    rfl
  | case5 c rest hc ih =>
    obtain ⟨⟨v, a⟩, ha, he⟩ := Option.map_eq_some_iff.mp h
    cases he
    rw [ih ha]
    simp [doubled, hc]

end Quotes

section Values

variable {g : Grammar} {i j : Input} {option value : String} {e : Ending} {text rest : List Char}

/-- A value that does not start with a quote is read up to the first character that ends it. -/
theorem readOptionValue_of_stops (h : Stops isQuote i.rest) :
    readOptionValue g option i =
      if (i.word fun c => !g.endsValue c).isEmpty then .error ⟨i.offset, .missingOptionValue option⟩
      else .ok (String.ofList (i.word fun c => !g.endsValue c),
        i.skipWhile fun c => !g.endsValue c) := by
  unfold readOptionValue
  split
  · rfl
  · next c rest hrest =>
    have hc : ¬ (c = '"' ∨ c = '\'') := by
      rw [hrest, stops_cons] at h
      simpa [isQuote] using h
    rw [if_neg hc]

/-- A value that starts with a quote is read up to the quote that closes it. -/
theorem readOptionValue_of_quote {quote : Char} (hquote : isQuote quote = true)
    (hrest : i.rest = quote :: rest) :
    readOptionValue g option i =
      match closeQuote quote rest with
      | none => .error ⟨i.offset, .unterminatedQuote⟩
      | some (value, after) => .ok (String.ofList value, i.moveTo after) := by
  have hor : quote = '"' ∨ quote = '\'' := by
    simpa [isQuote] using hquote
  unfold readOptionValue
  rw [hrest]
  exact if_pos hor

theorem readOptionValue_of_written (option : String) (h : ValueWritten g value e text)
    (hpass : i.Passes text j) (hclosed : e.Closed g j.rest) (hquote : Stops isQuote j.rest) :
    readOptionValue g option i = .ok (value, j) := by
  cases h with
  | bare hne hstart hchars =>
    have hall : ∀ c ∈ value.toList, (!g.endsValue c) = true := by
      intro c hc
      obtain ⟨hblank, hdelimiter⟩ := hchars c hc
      rw [Bool.not_eq_true', ← Bool.not_eq_true, Grammar.endsValue_iff, not_or]
      exact ⟨by simp [hblank], hdelimiter⟩
    have hhead : Stops isQuote i.rest := by
      rw [hpass.rest]
      obtain ⟨c, cs, hcs⟩ := List.exists_cons_of_ne_nil hne
      rw [hcs] at hstart ⊢
      exact hstart
    have hword := word_of_passes hpass hall hclosed
    rw [readOptionValue_of_stops hhead, hword, skipWhile_of_passes hpass hall hclosed,
      if_neg (by simpa using hne), String.ofList_toList]
  | @quoted quote hq =>
    have hrest : i.rest = quote :: (doubled quote value.toList ++ quote :: j.rest) := by
      rw [hpass.rest]
      simp
    have hnext : Stops (· == quote) j.rest := by
      intro c hc
      rw [beq_eq_false_iff_ne]
      rintro rfl
      rw [hquote c hc] at hq
      cases hq
    rw [readOptionValue_of_quote hq hrest, closeQuote_doubled _ hnext]
    simp only [String.ofList_toList, hpass.eq_moveTo]

theorem written_of_readOptionValue (h : readOptionValue g option i = .ok (value, j)) :
    ∃ e text, ValueWritten g value e text ∧ i.Passes text j ∧ e.Closed g j.rest := by
  by_cases hquote : Stops isQuote i.rest
  · rw [readOptionValue_of_stops hquote] at h
    split at h
    · cases h
    · next hne =>
      cases h
      have hword := isWord_word hne
      have hpass := passes_skipWhile (fun c => !g.endsValue c) i
      have hwritten : ValueWritten g (String.ofList (i.word fun c => !g.endsValue c)) .bare
          (String.ofList (i.word fun c => !g.endsValue c)).toList := by
        refine .bare ?_ ?_ ?_
        · rw [String.toList_ofList]
          exact hword.1
        · rw [String.toList_ofList]
          obtain ⟨c, cs, hcs⟩ := List.exists_cons_of_ne_nil hword.1
          rw [hpass.rest, hcs] at hquote
          rw [hcs]
          exact hquote
        · rw [String.toList_ofList]
          intro c hc
          have hends := hword.2 c hc
          rw [Bool.not_eq_true', ← Bool.not_eq_true, Grammar.endsValue_iff, not_or] at hends
          exact ⟨by simpa using hends.1, hends.2⟩
      rw [String.toList_ofList] at hwritten
      exact ⟨.bare, _, hwritten, hpass, stops_skipWhile _ i⟩
  · -- a quote comes next
    obtain ⟨quote, rest, hrest, hq⟩ := exists_cons_of_not_stops hquote
    rw [readOptionValue_of_quote hq hrest] at h
    split at h
    · cases h
    · next v after hclose =>
      cases h
      refine ⟨.quoted, _, .quoted hq, passes_moveTo ?_, trivial⟩
      rw [hrest, eq_doubled_of_closeQuote hclose, String.toList_ofList]
      simp

end Values

/-! ## Options -/

/-- The texts that write options after a text with one ending, and the ending after them. -/
inductive OptionsWritten (g : Grammar) : Ending → List (String × String) → Ending → List Char → Prop
  | nil (e : Ending) : OptionsWritten g e [] e []
  | cons {e e' last : Ending} {gap : List Char} {name value : String} {text : List Char}
      {options : List (String × String)} {more : List Char} (hgap : IsBlanks gap)
      (hne : e ≠ .quoted → gap ≠ []) (hname : IsWord isDottedChar name.toList)
      (hvalue : ValueWritten g value e' text) (hmore : OptionsWritten g e' options last more) :
      OptionsWritten g e ((name, value) :: options) last
        (gap ++ (['-', '-'] ++ (name.toList ++ (['='] ++ (text ++ more)))))

/-- What ends an app: its last part is closed, and neither a label nor another option follows. -/
structure Ending.Final (g : Grammar) (e : Ending) (rest : List Char) : Prop where
  closed : e.Closed g rest
  mark : Stops (fun c => isQuote c || c == ':') rest
  dash : Stops (· == '-') (rest.dropWhile isBlank)

section Options

variable {g : Grammar} {i j : Input} {e last : Ending} {text rest : List Char}

theorem stops_isQuote (h : Stops (fun c => isQuote c || c == ':') rest) : Stops isQuote rest :=
  fun c hc => (Bool.or_eq_false_iff.mp (h c hc)).1

theorem stops_colon (h : Stops (fun c => isQuote c || c == ':') rest) : Stops (· == ':') rest :=
  fun c hc => (Bool.or_eq_false_iff.mp (h c hc)).2

theorem not_mark_of_isBlank {c : Char} (h : isBlank c = true) :
    (isQuote c || c == ':') = false := by
  rw [isQuote, beq_of_isBlank (m := '"') (by decide) h, beq_of_isBlank (m := '\'') (by decide) h,
    beq_of_isBlank (m := ':') (by decide) h]
  rfl

theorem Ending.closed_blanks {gap : List Char} (e : Ending) (hgap : IsBlanks gap)
    (hne : e ≠ .quoted → gap ≠ []) : e.Closed g (gap ++ rest) := by
  cases e with
  | name => exact hgap.stops_append_of_ne_nil (hne (by simp)) fun _ => isNameChar_of_isBlank
  | bare =>
    refine hgap.stops_append_of_ne_nil (hne (by simp)) fun c hc => ?_
    simp [Grammar.endsValue, hc]
  | quoted => trivial

/-- A mark that belongs to no name, no quoted value and no option ends an app, and so does the end
of the text. A bare value needs a blank before a mark that it can hold. -/
theorem Ending.final_mark {gap : List Char} {c : Char} (e : Ending) (hgap : IsBlanks gap)
    (hname : isNameChar c = false) (hblank : isBlank c = false)
    (hmark : (isQuote c || c == ':') = false)
    (hbare : e = .bare → gap = [] → g.endsValue c = true) : e.Final g (gap ++ c :: rest) := by
  refine ⟨?_, hgap.stops_append (fun _ => not_mark_of_isBlank) (stops_cons.mpr hmark), ?_⟩
  · cases e with
    | name => exact hgap.stops_append (fun _ => isNameChar_of_isBlank) (stops_cons.mpr hname)
    | bare =>
      cases gap with
      | nil => exact stops_cons.mpr (by rw [hbare rfl rfl, Bool.not_true])
      | cons d gap => exact Ending.closed_blanks .bare hgap fun _ => List.cons_ne_nil d gap
    | quoted => trivial
  · refine hgap.stops_dropWhile hblank ?_
    rw [beq_eq_false_iff_ne]
    rintro rfl
    exact absurd hname (by decide)

theorem Ending.final_blanks (e : Ending) (h : IsBlanks rest) : e.Final g rest := by
  refine ⟨?_, h.stops fun _ => not_mark_of_isBlank, by rw [h.dropWhile_eq_nil]; exact stops_nil⟩
  cases e with
  | name => exact h.stops fun _ => isNameChar_of_isBlank
  | bare => exact h.stops fun c hc => by simp [Grammar.endsValue, hc]
  | quoted => trivial

/-- Options close what stands before them. -/
theorem OptionsWritten.closed {options : List (String × String)}
    (h : OptionsWritten g e options last text) (hclosed : last.Closed g rest)
    (hmark : Stops (fun c => isQuote c || c == ':') rest) :
    e.Closed g (text ++ rest) ∧ Stops (fun c => isQuote c || c == ':') (text ++ rest) := by
  cases h with
  | nil => exact ⟨hclosed, hmark⟩
  | cons hgap hne hname hvalue hmore =>
    rw [List.append_assoc]
    refine ⟨e.closed_blanks hgap hne, hgap.stops_append (fun _ => not_mark_of_isBlank) ?_⟩
    exact stops_cons.mpr (by decide)

theorem readArgument_of_written {name value : String} (hname : IsWord isDottedChar name.toList)
    (hvalue : ValueWritten g value e text)
    (hpass : i.Passes (['-', '-'] ++ (name.toList ++ (['='] ++ text))) j)
    (hclosed : e.Closed g j.rest) (hquote : Stops isQuote j.rest) :
    ∃ o, readArgument g i = .ok (o, j) ∧ o.term = (name, value) := by
  obtain ⟨k, hdashes, hpass⟩ := hpass.split
  obtain ⟨l, hword, hpass⟩ := hpass.split
  obtain ⟨m, hequals, hpass⟩ := hpass.split
  have hk : i.advance 2 = k := (passes_advance (startsWith_of_passes hdashes)).eq hdashes
  have hstops : Stops isDottedChar l.rest := by
    rw [hequals.rest]
    exact stops_cons.mpr (by decide)
  have hread := readOptionValue_of_written name hvalue hpass hclosed hquote
  refine ⟨⟨name, value, ⟨i.offset, j.offset⟩⟩, ?_, rfl⟩
  simp only [readArgument, hk, word_of_passes hword hname.2 hstops,
    skipWhile_of_passes hword hname.2 hstops, String.ofList_toList, eat?_of_passes hequals, hread]
  rw [if_neg (by simpa using hname.1)]

theorem written_of_readArgument {o : Argument} (hs : i.startsWith ['-', '-'] = true)
    (h : readArgument g i = .ok (o, j)) :
    IsWord isDottedChar o.name.toList ∧ ∃ e text, ValueWritten g o.value e text ∧
      i.Passes (['-', '-'] ++ (o.name.toList ++ (['='] ++ text))) j ∧ e.Closed g j.rest := by
  simp only [readArgument] at h
  split at h
  · cases h
  · next hne =>
    split at h
    · cases h
    · next k hk =>
      split at h
      · cases h
      · next value l hl =>
        cases h
        obtain ⟨e, text, hvalue, hpass, hclosed⟩ := written_of_readOptionValue hl
        have hname := passes_skipWhile isDottedChar (i.advance 2)
        simp only [String.toList_ofList]
        refine ⟨isWord_word hne, e, text, hvalue, ?_, hclosed⟩
        exact (passes_advance hs).trans (hname.trans ((passes_of_eat? hk).trans hpass))

theorem readArguments_cons {k : Input} {o : Argument} {arguments : List Argument}
    (hs : i.skipBlanks.startsWith ['-', '-'] = true) (ho : readArgument g i.skipBlanks = .ok (o, k))
    (hmore : readArguments g k = .ok (arguments, j)) :
    readArguments g i = .ok (o :: arguments, j) := by
  rw [readArguments, dif_pos hs]
  split
  · next e he =>
    rw [ho] at he
    cases he
  · next o' k' hk =>
    rw [ho] at hk
    cases hk
    rw [hmore]

theorem readArguments_nil (hs : i.skipBlanks.startsWith ['-', '-'] = false) :
    readArguments g i = .ok ([], i) := by
  rw [readArguments, dif_neg (by simp [hs])]

theorem readArguments_of_written {options : List (String × String)}
    (h : OptionsWritten g e options last text) (hpass : i.Passes text j)
    (hfinal : last.Final g j.rest) :
    ∃ arguments, readArguments g i = .ok (arguments, j) ∧
      arguments.map Argument.term = options := by
  induction h generalizing i with
  | nil e =>
    cases hpass.eq (Passes.refl i)
    exact ⟨[], readArguments_nil (startsWith_of_stops hfinal.dash), rfl⟩
  | @cons e e' last gap name value text options more hgap hne hname hvalue hmore ih =>
    obtain ⟨k, hblanks, hpass⟩ := hpass.split
    have hassoc : ['-', '-'] ++ (name.toList ++ (['='] ++ (text ++ more))) =
        (['-', '-'] ++ (name.toList ++ (['='] ++ text))) ++ more := by
      simp only [List.append_assoc]
    rw [hassoc] at hpass
    obtain ⟨l, hoption, hpass⟩ := hpass.split
    have hdash : k.startsWith ['-', '-'] = true := by
      rw [startsWith, hoption.rest]
      simp
    have hk : i.skipBlanks = k := by
      refine skipBlanks_of_passes hblanks hgap ?_
      rw [hoption.rest]
      exact stops_cons.mpr (by decide)
    have hnext := hmore.closed hfinal.closed hfinal.mark
    rw [← hpass.rest] at hnext
    obtain ⟨o, ho, hterm⟩ :=
      readArgument_of_written hname hvalue hoption hnext.1 (stops_isQuote hnext.2)
    obtain ⟨arguments, hread, hterms⟩ := ih hpass hfinal
    refine ⟨o :: arguments, readArguments_cons (by rwa [hk]) (by rwa [hk]) hread, ?_⟩
    rw [List.map_cons, hterm, hterms]

/-- A dash would continue a name or a bare value, so blanks stand before it. -/
theorem Ending.ne_nil_of_dash {gap : List Char} (hclosed : e.Closed g (gap ++ '-' :: rest))
    (he : e ≠ .quoted) : gap ≠ [] := by
  rintro rfl
  cases e with
  | name => exact absurd (stops_cons.mp hclosed) (by decide)
  | bare => exact absurd (stops_cons.mp hclosed) (by cases g <;> decide)
  | quoted => exact he rfl

theorem written_of_readArguments {arguments : List Argument} (hclosed : e.Closed g i.rest)
    (h : readArguments g i = .ok (arguments, j)) :
    ∃ last text, OptionsWritten g e (arguments.map Argument.term) last text ∧ i.Passes text j ∧
      last.Closed g j.rest := by
  fun_induction readArguments g i generalizing e arguments j with
  | case1 i hs error he => cases h
  | case2 i hs o k hk hlt error he => cases h
  | case3 i hs o k hk hlt more l hl ih =>
    cases h
    obtain ⟨hname, e', text, hvalue, hpass, hnext⟩ := written_of_readArgument hs hk
    obtain ⟨last, rest, hmore, hpass', hlast⟩ := ih hnext hl
    have hblanks := passes_skipBlanks i
    refine ⟨last, _, .cons (isBlanks_word i) ?_ hname hvalue hmore, ?_, hlast⟩
    · intro he
      rw [hblanks.rest, hpass.rest] at hclosed
      exact Ending.ne_nil_of_dash hclosed he
    · have hall := hblanks.trans (hpass.trans hpass')
      simpa only [List.append_assoc] using hall
  | case4 i hs =>
    cases h
    exact ⟨e, [], .nil e, Passes.refl i, hclosed⟩

end Options

/-! ## Apps -/

/-- The texts that write an app. -/
inductive AppTerm.Written (g : Grammar) : AppTerm → Ending → List Char → Prop
  | plain {name : String} {options : List (String × String)} {e : Ending} {text : List Char}
      (hname : IsWord isNameChar name.toList) (hoptions : OptionsWritten g .name options e text) :
      Written g ⟨none, name, options⟩ e (name.toList ++ text)
  | labelled {label name : String} {options : List (String × String)} {e : Ending}
    {text : List Char}
      (hlabel : IsWord isNameChar label.toList) (hname : IsWord isNameChar name.toList)
      (hoptions : OptionsWritten g .name options e text) :
      Written g ⟨some label, name, options⟩ e (label.toList ++ ([':'] ++ (name.toList ++ text)))

section Apps

variable {g : Grammar} {i j : Input} {e : Ending} {text rest : List Char} {a : AppTerm}

theorem readAppName_plain {name : String} (hname : IsWord isNameChar name.toList)
    (hpass : i.Passes name.toList j) (hstops : Stops isNameChar j.rest)
    (hcolon : Stops (· == ':') j.rest) :
    readAppName i = .ok ((none, name, ⟨i.offset, j.offset⟩), j) := by
  simp only [readAppName, word_of_passes hpass hname.2 hstops,
    skipWhile_of_passes hpass hname.2 hstops, eat?_of_stops hcolon, String.ofList_toList]
  rw [if_neg (by simpa using hname.1)]

theorem readAppName_labelled {k l : Input} {label name : String}
    (hlabel : IsWord isNameChar label.toList) (hname : IsWord isNameChar name.toList)
    (hfirst : i.Passes label.toList k) (hcolon : k.Passes [':'] l) (hpass : l.Passes name.toList j)
    (hstops : Stops isNameChar j.rest) :
    readAppName i = .ok ((some label, name, ⟨l.offset, j.offset⟩), j) := by
  have hend : Stops isNameChar k.rest := by
    rw [hcolon.rest]
    exact stops_cons.mpr (by decide)
  simp only [readAppName, word_of_passes hfirst hlabel.2 hend,
    skipWhile_of_passes hfirst hlabel.2 hend, eat?_of_passes hcolon,
    word_of_passes hpass hname.2 hstops, skipWhile_of_passes hpass hname.2 hstops,
    String.ofList_toList]
  rw [if_neg (by simpa using hlabel.1), if_neg (by simpa using hname.1)]

theorem readApp_of_parts {k : Input} {label : Option String} {name : String} {nameSpan : Span}
    {arguments : List Argument} (hname : readAppName i = .ok ((label, name, nameSpan), k))
    (harguments : readArguments g k = .ok (arguments, j)) :
    ∃ app, readApp g i = .ok (app, j) ∧ app.term = ⟨label, name, arguments.map Argument.term⟩ := by
  simp only [readApp, hname, harguments]
  exact ⟨_, rfl, rfl⟩

/-- A text that writes an app is read as that app. -/
theorem readApp_of_written (h : a.Written g e text) (hpass : i.Passes text j)
    (hfinal : e.Final g j.rest) : ∃ app, readApp g i = .ok (app, j) ∧ app.term = a := by
  cases h with
  | plain hname hoptions =>
    obtain ⟨k, hword, hpass⟩ := hpass.split
    have hnext := hoptions.closed hfinal.closed hfinal.mark
    rw [← hpass.rest] at hnext
    obtain ⟨arguments, hread, rfl⟩ := readArguments_of_written hoptions hpass hfinal
    exact readApp_of_parts (readAppName_plain hname hword hnext.1 (stops_colon hnext.2)) hread
  | labelled hlabel hname hoptions =>
    obtain ⟨k, hfirst, hpass⟩ := hpass.split
    obtain ⟨l, hcolon, hpass⟩ := hpass.split
    obtain ⟨m, hword, hpass⟩ := hpass.split
    have hnext := hoptions.closed hfinal.closed hfinal.mark
    rw [← hpass.rest] at hnext
    obtain ⟨arguments, hread, rfl⟩ := readArguments_of_written hoptions hpass hfinal
    exact readApp_of_parts (readAppName_labelled hlabel hname hfirst hcolon hword hnext.1) hread

theorem isWord_toList_ofList {p : Char → Bool} {word : List Char} (h : IsWord p word) :
    IsWord p (String.ofList word).toList := by
  rwa [String.toList_ofList]

/-- What is read as the label and the name of an app, once its options are known. -/
theorem written_of_readAppName {label : Option String} {name : String} {nameSpan : Span}
    (h : readAppName i = .ok ((label, name, nameSpan), j)) :
    Stops isNameChar j.rest ∧ ∃ word, i.Passes word j ∧ ∀ options e text,
      OptionsWritten g .name options e text →
        AppTerm.Written g ⟨label, name, options⟩ e (word ++ text) := by
  simp only [readAppName] at h
  have hfirst := passes_skipWhile isNameChar i
  split at h
  · cases h
  · next hne =>
    have hword := isWord_toList_ofList (isWord_word hne)
    split at h
    · cases h
      refine ⟨stops_skipWhile isNameChar i, _, hfirst, fun options e text hoptions => ?_⟩
      have hplain := AppTerm.Written.plain hword hoptions
      rwa [String.toList_ofList] at hplain
    · next k hk =>
      split at h
      · cases h
      · next hne' =>
        cases h
        have hname := isWord_toList_ofList (isWord_word hne')
        have hpass := hfirst.trans ((passes_of_eat? hk).trans (passes_skipWhile isNameChar k))
        refine ⟨stops_skipWhile isNameChar k, _, hpass, fun options e text hoptions => ?_⟩
        have hlabelled := AppTerm.Written.labelled hword hname hoptions
        rw [String.toList_ofList, String.toList_ofList] at hlabelled
        simpa only [List.append_assoc] using hlabelled

/-- What is read as an app is a text that writes it. -/
theorem written_of_readApp {app : App} (h : readApp g i = .ok (app, j)) :
    ∃ e text, app.term.Written g e text ∧ i.Passes text j ∧ e.Closed g j.rest := by
  simp only [readApp] at h
  split at h
  · cases h
  · next label name nameSpan k hk =>
    split at h
    · cases h
    · next arguments l hl =>
      cases h
      obtain ⟨hstops, word, hword, hwritten⟩ := written_of_readAppName hk
      obtain ⟨e, text, hoptions, hpass, hclosed⟩ := written_of_readArguments (e := .name) hstops hl
      exact ⟨e, _, hwritten _ e text hoptions, hword.trans hpass, hclosed⟩

/-- An app starts with a character of names. -/
theorem AppTerm.Written.stops {p : Char → Bool} (h : a.Written g e text)
    (hp : ∀ c, isNameChar c = true → p c = false) : Stops p (text ++ rest) := by
  cases h with
  | plain hname hoptions =>
    rw [List.append_assoc]
    exact hname.stops_append hp
  | labelled hlabel hname hoptions =>
    rw [List.append_assoc]
    exact hlabel.stops_append hp

end Apps

end Flowline
