import Flowline.Character.Alphanumeric
import Flowline.Definition.Input
import Flowline.Definition.SyntaxError
import Flowline.Definition.Tree

/-!
# Reading an app

An app is written `[label:]name` and followed by options `--name=value`. Nothing may stand between
the parts of an option, nor around the colon. A value is either bare, up to the first character that
ends it, or quoted; inside quotes everything counts, and a doubled quote stands for one.

* `readApp`: an app with its options, and the input after it;
* `readApp_length_lt`: reading an app uses up at least one character.
-/

namespace Flowline

open Character

/-- The kind of definition that an app stands in. It decides where a bare value ends. -/
inductive Grammar where
  | stream
  | task
  deriving DecidableEq, Repr, Inhabited

/-- Whether a character ends a bare value. -/
def Grammar.endsValue (g : Grammar) (c : Char) : Bool :=
  isBlank c ||
    match g with
    | stream => c == '|'
    | task => c == '|' || c == '&' || c == '>'

/-- The characters of names and labels. -/
def isNameChar (c : Char) : Bool :=
  isAlphanumeric c || c == '-' || c == '_'

/-- The characters of options and destinations. -/
def isDottedChar (c : Char) : Bool :=
  isNameChar c || c == '.'

/-- A reader gives what it has read and the input after it, or the first error. -/
abbrev Reading (α : Type) := Except SyntaxError (α × Input)

/-- The text up to the closing quote, with doubled quotes undone, and what follows that quote. -/
def closeQuote (quote : Char) : List Char → Option (List Char × List Char)
  | [] => none
  | c :: rest =>
    if c = quote then
      match rest with
      | [] => some ([], [])
      | d :: more =>
        if d = quote then (closeQuote quote more).map fun (value, after) => (quote :: value, after)
        else some ([], d :: more)
    else (closeQuote quote rest).map fun (value, after) => (c :: value, after)

/-- Reads the value of the option `option`. -/
def readOptionValue (g : Grammar) (option : String) (i : Input) : Reading String :=
  let bare :=
    let value := i.word fun c => !g.endsValue c
    if value.isEmpty then .error ⟨i.offset, .missingOptionValue option⟩
    else .ok (String.ofList value, i.skipWhile fun c => !g.endsValue c)
  match i.rest with
  | [] => bare
  | c :: rest =>
    if c = '"' ∨ c = '\'' then
      match closeQuote c rest with
      | none => .error ⟨i.offset, .unterminatedQuote⟩
      | some (value, after) => .ok (String.ofList value, i.moveTo after)
    else bare

/-- Reads an option from its two dashes on. -/
def readArgument (g : Grammar) (i : Input) : Reading Argument :=
  let j := i.advance 2
  let name := String.ofList (j.word isDottedChar)
  let k := j.skipWhile isDottedChar
  if (j.word isDottedChar).isEmpty then
    .error ⟨k.offset, .expectedOptionName⟩
  else
    match k.eat? ['='] with
    | none => .error ⟨k.offset, .expectedCharacter '='⟩
    | some l =>
      match readOptionValue g name l with
      | .error e => .error e
      | .ok (value, m) => .ok (⟨name, value, ⟨i.offset, m.offset⟩⟩, m)

/-! ## Readers go forward -/

theorem closeQuote_length_le {quote : Char} {cs value after : List Char}
    (h : closeQuote quote cs = some (value, after)) : after.length ≤ cs.length := by
  fun_induction closeQuote quote cs generalizing value after with
  | case1 => simp at h
  | case2 => simp_all
  | case3 more ih =>
    obtain ⟨⟨v, a⟩, ha, he⟩ := Option.map_eq_some_iff.1 h
    cases he
    have := ih ha
    simp only [List.length_cons]
    omega
  | case4 => simp_all
  | case5 c rest hc ih =>
    obtain ⟨⟨v, a⟩, ha, he⟩ := Option.map_eq_some_iff.1 h
    cases he
    have := ih ha
    simp only [List.length_cons]
    omega

theorem readOptionValue_length_le {g : Grammar} {option value : String} {i j : Input}
    (h : readOptionValue g option i = .ok (value, j)) : j.rest.length ≤ i.rest.length := by
  have hbare : ∀ {r : Reading String},
      r = (if (i.word fun c => !g.endsValue c).isEmpty then
          .error ⟨i.offset, .missingOptionValue option⟩
        else .ok (String.ofList (i.word fun c => !g.endsValue c),
          i.skipWhile fun c => !g.endsValue c)) →
      r = .ok (value, j) → j.rest.length ≤ i.rest.length := by
    intro r hr ho
    rw [hr] at ho
    split at ho
    · cases ho
    · cases ho
      exact Input.length_rest_skipWhile_le _ i
  unfold readOptionValue at h
  split at h
  · exact hbare rfl h
  · next c rest hrest =>
    split at h
    · split at h
      · cases h
      · next v after hq =>
        cases h
        have := closeQuote_length_le hq
        simp only [Input.rest_moveTo, hrest, List.length_cons]
        omega
    · exact hbare rfl h

theorem readArgument_length_lt {g : Grammar} {i j : Input} {a : Argument}
    (hi : i.rest ≠ []) (h : readArgument g i = .ok (a, j)) :
    j.rest.length < i.rest.length := by
  have hpos := List.length_pos_iff.2 hi
  have h1 : ((i.advance 2).skipWhile isDottedChar).rest.length ≤ i.rest.length - 2 := by
    rw [← Input.length_rest_advance]
    exact Input.length_rest_skipWhile_le _ _
  simp only [readArgument] at h
  split at h
  · cases h
  · split at h
    · cases h
    · next l hl =>
      split at h
      · cases h
      · next value m hv =>
        cases h
        have h2 := readOptionValue_length_le hv
        have h3 := Input.length_rest_of_eat? hl
        simp only [List.length_singleton] at h3
        omega

/-- Reading the option that follows some blanks uses up at least one character. -/
theorem readArgument_skipBlanks_length_lt {g : Grammar} {i j : Input} {a : Argument}
    (hs : i.skipBlanks.startsWith ['-', '-'] = true)
    (h : readArgument g i.skipBlanks = .ok (a, j)) : j.rest.length < i.rest.length := by
  have hne : i.skipBlanks.rest ≠ [] := by
    intro he
    simp [Input.startsWith, he] at hs
  exact Nat.lt_of_lt_of_le (readArgument_length_lt hne h) (Input.length_rest_skipBlanks_le i)

/-! ## Apps -/

/-- Reads options as long as they follow, with blanks before each of them. -/
def readArguments (g : Grammar) (i : Input) : Reading (List Argument) :=
  if hs : i.skipBlanks.startsWith ['-', '-'] = true then
    match h : readArgument g i.skipBlanks with
    | .error e => .error e
    | .ok (argument, j) =>
      have : j.rest.length < i.rest.length := readArgument_skipBlanks_length_lt hs h
      match readArguments g j with
      | .error e => .error e
      | .ok (arguments, k) => .ok (argument :: arguments, k)
  else .ok ([], i)
termination_by i.rest.length

/-- Reads a label, if a colon follows the first word, and the name. -/
def readAppName (i : Input) : Reading (Option String × String × Span) :=
  let first := i.word isNameChar
  let j := i.skipWhile isNameChar
  if first.isEmpty then .error ⟨i.offset, .expectedAppName⟩
  else
    match j.eat? [':'] with
    | none => .ok ((none, String.ofList first, ⟨i.offset, j.offset⟩), j)
    | some k =>
      let name := k.word isNameChar
      let l := k.skipWhile isNameChar
      if name.isEmpty then .error ⟨k.offset, .expectedAppName⟩
      else .ok ((some (String.ofList first), String.ofList name, ⟨k.offset, l.offset⟩), l)

/-- Reads an app and its options. -/
def readApp (g : Grammar) (i : Input) : Reading App :=
  match readAppName i with
  | .error e => .error e
  | .ok ((label, name, nameSpan), j) =>
    match readArguments g j with
    | .error e => .error e
    | .ok (arguments, k) =>
      let stop := (arguments.getLast?.map (·.span.stop)).getD nameSpan.stop
      .ok (⟨label, name, nameSpan, arguments, ⟨i.offset, stop⟩⟩, k)

theorem readArguments_length_le {g : Grammar} {i j : Input} {arguments : List Argument}
    (h : readArguments g i = .ok (arguments, j)) : j.rest.length ≤ i.rest.length := by
  fun_induction readArguments g i generalizing arguments j with
  | case1 i hs e he => cases h
  | case2 i hs argument k hk hlt e he => cases h
  | case3 i hs argument k hk hlt more l hl ih =>
    cases h
    have := ih hl
    omega
  | case4 i hs =>
    cases h
    exact Nat.le_refl _

theorem readAppName_length_lt {i j : Input} {r : Option String × String × Span}
    (h : readAppName i = .ok (r, j)) : j.rest.length < i.rest.length := by
  simp only [readAppName] at h
  split at h
  · cases h
  · next hfirst =>
    have h1 : (i.skipWhile isNameChar).rest.length < i.rest.length :=
      Input.length_rest_skipWhile_lt (by simpa using hfirst)
    split at h
    · cases h
      exact h1
    · next k hk =>
      have h2 := Input.length_rest_of_eat? hk
      split at h
      · cases h
      · cases h
        have h3 := Input.length_rest_skipWhile_le isNameChar k
        omega

theorem readApp_length_lt {g : Grammar} {i j : Input} {app : App}
    (h : readApp g i = .ok (app, j)) : j.rest.length < i.rest.length := by
  simp only [readApp] at h
  split at h
  · cases h
  · next label name nameSpan k hr =>
    split at h
    · cases h
    · next arguments l hs =>
      cases h
      have h1 := readAppName_length_lt hr
      have h2 := readArguments_length_le hs
      omega

end Flowline
