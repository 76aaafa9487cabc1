import Flowline.Proofs.ErrorColumn

/-!
# Moving columns

A reader takes the column it starts at from its input and counts on from there. It looks at nothing
else than the characters that are left, so from an input that starts further to the right it reads
the same, with all columns moved: those of the spans, of the input that is left, and of an error.

* `Span.moveRight`, `App.mapSpans`, `StreamDefinition.mapSpans`: moving the spans of a definition;
* `moveResult`, `moveReading`: what a reader gives, with its columns moved;
* `thenRead_moved`: one reader after another;
* `readApp_moved`, `readStreamBody_moved`, `readFlows_moved`: reading from a moved input;
* `TaskDefinition.parse_drop`: what stands before the start of a task only moves its columns.
-/

namespace Flowline

open Character Input

/-! ## Spans -/

namespace Span

def moveRight (n : Nat) (s : Span) : Span :=
  ⟨s.start + n, s.stop + n⟩

def moveLeft (n : Nat) (s : Span) : Span :=
  ⟨s.start - n, s.stop - n⟩

theorem moveLeft_moveRight (n : Nat) (s : Span) : (s.moveRight n).moveLeft n = s := by
  simp [moveRight, moveLeft]

end Span

def Argument.mapSpans (f : Span → Span) (o : Argument) : Argument :=
  { o with span := f o.span }

/-- Changes the span of an app, of its name and of its options. -/
def App.mapSpans (f : Span → Span) (a : App) : App :=
  { a with nameSpan := f a.nameSpan, arguments := a.arguments.map (·.mapSpans f), span := f a.span }

def Destination.mapSpans (f : Span → Span) (q : Destination) : Destination :=
  { q with span := f q.span }

def DeclaredName.mapSpans (f : Span → Span) (n : DeclaredName) : DeclaredName :=
  { n with span := f n.span }

/-- Changes every span in a stream. -/
def StreamDefinition.mapSpans (f : Span → Span) (s : StreamDefinition) : StreamDefinition :=
  { s with
    name := s.name.map (·.mapSpans f)
    source := s.source.map (·.mapSpans f)
    sink := s.sink.map (·.mapSpans f)
    apps := s.apps.map (·.mapSpans f)
    span := f s.span }

/-- Changes every span in a task. -/
def TaskDefinition.mapSpans (f : Span → Span) (t : TaskDefinition) : TaskDefinition :=
  { t with apps := t.apps.map (·.mapSpans f), span := f t.span }

section MapSpans

variable {f g : Span → Span}

theorem App.mapSpans_of_leftInverse (h : ∀ s, g (f s) = s) (a : App) :
    (a.mapSpans f).mapSpans g = a := by
  have harguments : (a.arguments.map (·.mapSpans f)).map (·.mapSpans g) = a.arguments := by
    rw [List.map_map]
    refine List.map_id'' (fun o => ?_) _
    simp [Argument.mapSpans, h]
  simp only [App.mapSpans, h, harguments]

theorem StreamDefinition.mapSpans_of_leftInverse (h : ∀ s, g (f s) = s) (s : StreamDefinition) :
    (s.mapSpans f).mapSpans g = s := by
  have hdestination : ∀ q : Option Destination, (q.map (·.mapSpans f)).map (·.mapSpans g) = q := by
    intro q
    cases q <;> simp [Destination.mapSpans, h]
  have hname : (s.name.map (·.mapSpans f)).map (·.mapSpans g) = s.name := by
    cases s.name <;> simp [DeclaredName.mapSpans, h]
  have happs : (s.apps.map (·.mapSpans f)).map (·.mapSpans g) = s.apps := by
    rw [List.map_map]
    exact List.map_id'' (App.mapSpans_of_leftInverse h) _
  simp only [StreamDefinition.mapSpans, hdestination, hname, happs, h]

theorem TaskDefinition.mapSpans_of_leftInverse (h : ∀ s, g (f s) = s) (t : TaskDefinition) :
    (t.mapSpans f).mapSpans g = t := by
  have happs : (t.apps.map (·.mapSpans f)).map (·.mapSpans g) = t.apps := by
    rw [List.map_map]
    exact List.map_id'' (App.mapSpans_of_leftInverse h) _
  simp only [TaskDefinition.mapSpans, happs, h]

end MapSpans

/-! ## Inputs and results -/

def SyntaxError.moveRight (n : Nat) (e : SyntaxError) : SyntaxError :=
  { e with position := e.position + n }

namespace Input

/-- The same characters, further to the right. -/
def moveRight (n : Nat) (i : Input) : Input :=
  { i with offset := i.offset + n }

variable {n : Nat} {i : Input}

@[simp] theorem rest_moveRight : (i.moveRight n).rest = i.rest := rfl

@[simp] theorem offset_moveRight : (i.moveRight n).offset = i.offset + n := rfl

@[simp] theorem word_moveRight (p : Char → Bool) : (i.moveRight n).word p = i.word p := rfl

@[simp] theorem startsWith_moveRight (token : List Char) :
    (i.moveRight n).startsWith token = i.startsWith token := rfl

theorem moveTo_moveRight (rest : List Char) :
    (i.moveRight n).moveTo rest = (i.moveTo rest).moveRight n := by
  simp only [moveTo, moveRight, Nat.add_right_comm]

@[simp] theorem skipWhile_moveRight (p : Char → Bool) :
    (i.moveRight n).skipWhile p = (i.skipWhile p).moveRight n :=
  moveTo_moveRight _

@[simp] theorem skipBlanks_moveRight : (i.moveRight n).skipBlanks = i.skipBlanks.moveRight n :=
  skipWhile_moveRight _

@[simp] theorem advance_moveRight (count : Nat) :
    (i.moveRight n).advance count = (i.advance count).moveRight n :=
  moveTo_moveRight _

@[simp] theorem eat?_moveRight (token : List Char) :
    (i.moveRight n).eat? token = (i.eat? token).map (·.moveRight n) := by
  rw [eat?, eat?, startsWith_moveRight, advance_moveRight]
  split <;> rfl

theorem ofText_zero (text : List Char) : ofText text 0 = ⟨0, text⟩ := by
  simp [ofText]

/-- A line from a column on is the end of the line, that far to the right. -/
theorem ofText_eq_moveRight {text : List Char} {start : Nat} (h : start ≤ text.length) :
    ofText text start = (ofText (text.drop start) 0).moveRight start := by
  rw [ofText_zero, ofText, moveRight, Nat.min_eq_left h, Nat.zero_add]

end Input

/-- What a reader gives, with errors moved and `move` for the rest. -/
def moveResult {β : Type} (n : Nat) (move : β → β) : Except SyntaxError β → Except SyntaxError β
  | .ok b => .ok (move b)
  | .error e => .error (e.moveRight n)

/-- What a reader gives, with the input after it moved, and `move` for what has been read. -/
def moveReading {α : Type} (n : Nat) (move : α → α) (r : Reading α) : Reading α :=
  moveResult n (fun (a, i) => (move a, i.moveRight n)) r

section Results

variable {α β : Type} {n : Nat} {move : α → α} {move' : β → β} {r r' : Reading α}
  {f f' : α → Input → Except SyntaxError β}

/-- Reading goes on from the moved input as it does from the other one. -/
theorem thenRead_moved (hr : r' = moveReading n move r)
    (hf : ∀ a k, r = .ok (a, k) → f' (move a) (k.moveRight n) = moveResult n move' (f a k)) :
    thenRead r' f' = moveResult n move' (thenRead r f) := by
  subst hr
  match r with
  | .error e => rfl
  | .ok (a, k) => exact hf a k rfl

end Results

/-! ## Words, marks and values -/

section Words

variable {n : Nat}

theorem readWord_moved (p : Char → Bool) (cause : SyntaxError.Cause) (i : Input) :
    readWord p cause (i.moveRight n) = moveReading n id (readWord p cause i) := by
  simp only [readWord, word_moveRight, skipWhile_moveRight]
  split <;> rfl

theorem readMark_moved (mark : Char) (i : Input) :
    readMark mark (i.moveRight n) = moveReading n id (readMark mark i) := by
  simp only [readMark, eat?_moveRight]
  cases i.eat? [mark] <;> rfl

theorem readOptionValue_moved (g : Grammar) (option : String) (i : Input) :
    readOptionValue g option (i.moveRight n) = moveReading n id (readOptionValue g option i) := by
  by_cases hquote : Stops isQuote i.rest
  · rw [readOptionValue_eq_thenRead hquote, readOptionValue_eq_thenRead (i := i.moveRight n) hquote]
    exact thenRead_moved (readWord_moved _ _ i) fun _ _ _ => rfl
  · obtain ⟨quote, rest, hrest, hq⟩ := exists_cons_of_not_stops hquote
    rw [readOptionValue_of_quote hq hrest, readOptionValue_of_quote (i := i.moveRight n) hq hrest]
    cases closeQuote quote rest with
    | none => rfl
    | some result =>
      simp only [moveTo_moveRight]
      rfl

end Words

/-! ## Apps -/

section Apps

variable {n : Nat}

theorem readArgument_moved (g : Grammar) (i : Input) :
    readArgument g (i.moveRight n) =
      moveReading n (Argument.mapSpans (Span.moveRight n)) (readArgument g i) := by
  rw [readArgument_eq_thenRead, readArgument_eq_thenRead, advance_moveRight]
  refine thenRead_moved (readWord_moved _ _ _) fun name k _ => ?_
  refine thenRead_moved (readMark_moved '=' k) fun _ l _ => ?_
  exact thenRead_moved (readOptionValue_moved g _ l) fun _ _ _ => rfl

theorem readArguments_moved (g : Grammar) (i : Input) :
    readArguments g (i.moveRight n) =
      moveReading n (List.map (Argument.mapSpans (Span.moveRight n))) (readArguments g i) := by
  induction hlength : i.rest.length using Nat.strongRecOn generalizing i with
  | ind length ih =>
    rw [readArguments_eq_thenRead, readArguments_eq_thenRead g i, skipBlanks_moveRight,
      startsWith_moveRight]
    split
    · next hs =>
      refine thenRead_moved (readArgument_moved g _) fun o k hk => ?_
      have hlt := readArgument_skipBlanks_length_lt hs hk
      exact thenRead_moved (ih _ (hlength ▸ hlt) k rfl) fun _ _ _ => rfl
    · rfl

theorem readAppName_moved (i : Input) :
    readAppName (i.moveRight n) =
      moveReading n (fun (label, name, span) => (label, name, span.moveRight n))
        (readAppName i) := by
  rw [readAppName_eq_thenRead, readAppName_eq_thenRead]
  refine thenRead_moved (readWord_moved _ _ i) fun first j _ => ?_
  rw [eat?_moveRight]
  cases j.eat? [':'] with
  | none => rfl
  | some k => exact thenRead_moved (readWord_moved _ _ k) fun _ _ _ => rfl

/-- The end of the last option, or of the name, moves with them. -/
theorem lastStop_moved (arguments : List Argument) (span : Span) :
    ((arguments.map (Argument.mapSpans (Span.moveRight n))).getLast?.map (·.span.stop)).getD
        (span.moveRight n).stop =
      (arguments.getLast?.map (·.span.stop)).getD span.stop + n := by
  rw [List.getLast?_map]
  cases arguments.getLast? <;> rfl

theorem readApp_moved (g : Grammar) (i : Input) :
    readApp g (i.moveRight n) =
      moveReading n (App.mapSpans (Span.moveRight n)) (readApp g i) := by
  rw [readApp_eq_thenRead, readApp_eq_thenRead]
  refine thenRead_moved (readAppName_moved i) fun (label, name, nameSpan) j _ => ?_
  refine thenRead_moved (readArguments_moved g j) fun arguments k _ => ?_
  simp only [lastStop_moved]
  rfl

end Apps

/-! ## Streams -/

section Streams

variable {n : Nat}

theorem readDestination_moved (i : Input) :
    readDestination (i.moveRight n) =
      moveReading n (Destination.mapSpans (Span.moveRight n)) (readDestination i) := by
  rw [readDestination_eq_thenRead, readDestination_eq_thenRead]
  refine thenRead_moved (readMark_moved ':' i) fun _ j _ => ?_
  exact thenRead_moved (readWord_moved _ _ j) fun _ _ _ => rfl

theorem readSource_moved (i : Input) :
    readSource (i.moveRight n) =
      moveReading n (Option.map (Destination.mapSpans (Span.moveRight n))) (readSource i) := by
  rw [readSource_eq_thenRead, readSource_eq_thenRead, startsWith_moveRight]
  split
  · refine thenRead_moved (readDestination_moved i) fun source j _ => ?_
    rw [skipBlanks_moveRight]
    refine thenRead_moved (readMark_moved '>' _) fun _ k _ => ?_
    rw [skipBlanks_moveRight]
    rfl
  · rfl

theorem readPipeline_moved (i : Input) :
    readPipeline (i.moveRight n) =
      moveReading n (List.map (App.mapSpans (Span.moveRight n))) (readPipeline i) := by
  induction hlength : i.rest.length using Nat.strongRecOn generalizing i with
  | ind length ih =>
    rw [readPipeline_eq_thenRead, readPipeline_eq_thenRead i]
    refine thenRead_moved (readApp_moved .stream i) fun app j hj => ?_
    simp only [skipBlanks_moveRight, startsWith_moveRight, eat?_moveRight]
    split
    · rfl
    · cases hk : j.skipBlanks.eat? ['|'] with
      | none => rfl
      | some k =>
        have hlt := length_lt_of_pipe hj hk
        simp only [Option.map_some, skipBlanks_moveRight]
        exact thenRead_moved (ih _ (hlength ▸ hlt) _ rfl) fun _ _ _ => rfl

theorem readSink_moved (i : Input) :
    readSink (i.moveRight n) =
      moveReading n (Option.map (Destination.mapSpans (Span.moveRight n))) (readSink i) := by
  rw [readSink_eq_thenRead, readSink_eq_thenRead, eat?_moveRight]
  cases i.eat? ['>'] with
  | none => rfl
  | some j =>
    simp only [Option.map_some, skipBlanks_moveRight]
    exact thenRead_moved (readDestination_moved _) fun _ _ _ => rfl

theorem readFlow_moved (source : Option Destination) (i : Input) :
    readFlow (source.map (Destination.mapSpans (Span.moveRight n))) (i.moveRight n) =
      moveReading n
        (fun (apps, sink) => (apps.map (App.mapSpans (Span.moveRight n)),
          sink.map (Destination.mapSpans (Span.moveRight n))))
        (readFlow source i) := by
  rw [readFlow_eq_thenRead, readFlow_eq_thenRead, startsWith_moveRight, Option.isSome_map]
  split
  · exact thenRead_moved (readDestination_moved i) fun _ _ _ => rfl
  · refine thenRead_moved (readPipeline_moved i) fun apps j _ => ?_
    exact thenRead_moved (readSink_moved j) fun _ _ _ => rfl

theorem flowStop_moved (start : Nat) (apps : List App) (sink : Option Destination) :
    flowStop (start + n) (apps.map (App.mapSpans (Span.moveRight n)))
        (sink.map (Destination.mapSpans (Span.moveRight n))) =
      flowStop start apps sink + n := by
  cases sink with
  | some q => rfl
  | none =>
    simp only [flowStop, Option.map_none, List.getLast?_map]
    cases apps.getLast? <;> rfl

theorem expectNothing_moved (i : Input) :
    expectNothing (i.moveRight n) = moveResult n id (expectNothing i) := by
  rw [expectNothing, expectNothing, skipBlanks_moveRight, rest_moveRight]
  split <;> rfl

/-- The body of a stream is read in the same way wherever it starts. -/
theorem readStreamBody_moved (name : Option DeclaredName) (i : Input) :
    readStreamBody (name.map (DeclaredName.mapSpans (Span.moveRight n))) (i.moveRight n) =
      moveResult n (StreamDefinition.mapSpans (Span.moveRight n)) (readStreamBody name i) := by
  by_cases hne : i.rest = []
  · have hempty : i.rest.isEmpty = true := List.isEmpty_iff.mpr hne
    rw [readStreamBody, readStreamBody, rest_moveRight, if_pos hempty, if_pos hempty]
    rfl
  · rw [readStreamBody_eq_thenRead name hne,
      readStreamBody_eq_thenRead (i := i.moveRight n) _ hne]
    refine thenRead_moved (readSource_moved i) fun source j _ => ?_
    refine thenRead_moved (readFlow_moved source j) ?_
    rintro ⟨apps, sink⟩ k -
    simp only [expectNothing_moved, offset_moveRight, flowStop_moved, Nat.add_sub_add_right,
      rest_moveRight]
    cases expectNothing k <;> rfl

end Streams

/-! ## Tasks -/

def AfterFlow.moveRight (n : Nat) : AfterFlow → AfterFlow
  | done stop => .done (stop + n)
  | flow depth input => .flow depth (input.moveRight n)

section Tasks

variable {n : Nat}

theorem afterFlow_moved (depth stop : Nat) (i : Input) :
    afterFlow depth (stop + n) (i.moveRight n) =
      moveResult n (AfterFlow.moveRight n) (afterFlow depth stop i) := by
  induction depth generalizing stop i with
  | zero =>
    rw [afterFlow, afterFlow]
    simp only [skipBlanks_moveRight, eat?_moveRight, startsWith_moveRight, rest_moveRight]
    cases i.skipBlanks.eat? ['&', '&'] with
    | some k =>
      simp only [Option.map_some, skipBlanks_moveRight]
      rfl
    | none =>
      simp only [Option.map_none]
      split
      · rfl
      · split <;> rfl
  | succ outer ih =>
    rw [afterFlow, afterFlow]
    simp only [skipBlanks_moveRight, eat?_moveRight]
    cases i.skipBlanks.eat? ['&', '&'] with
    | some k =>
      simp only [Option.map_some, skipBlanks_moveRight]
      rfl
    | none =>
      cases i.skipBlanks.eat? ['|', '|'] with
      | some k =>
        simp only [Option.map_none, Option.map_some, skipBlanks_moveRight]
        rfl
      | none =>
        cases i.skipBlanks.eat? ['>'] with
        | some k => exact ih k.offset k
        | none => rfl

/-- What follows a flow is read on in the same way wherever it starts, if this holds for the next
flow. -/
theorem resume_moved (apps : List App) (r : Except SyntaxError AfterFlow)
    (h : ∀ depth k, r = .ok (.flow depth k) → readFlows depth (k.moveRight n) =
      moveResult n (fun (apps, stop) => (apps.map (App.mapSpans (Span.moveRight n)), stop + n))
        (readFlows depth k)) :
    resume (apps.map (App.mapSpans (Span.moveRight n))) (moveResult n (AfterFlow.moveRight n) r) =
      moveResult n (fun (apps, stop) => (apps.map (App.mapSpans (Span.moveRight n)), stop + n))
        (resume apps r) := by
  match r with
  | .error e => rfl
  | .ok (.done stop) => rfl
  | .ok (.flow depth k) =>
    simp only [moveResult, AfterFlow.moveRight, resume, h depth k rfl]
    cases readFlows depth k with
    | error e => rfl
    | ok result => simp only [List.map_append]

/-- A task is read in the same way wherever it starts. -/
theorem readFlows_moved (depth : Nat) (i : Input) :
    readFlows depth (i.moveRight n) =
      moveResult n (fun (apps, stop) => (apps.map (App.mapSpans (Span.moveRight n)), stop + n))
        (readFlows depth i) := by
  induction hlength : i.rest.length using Nat.strongRecOn generalizing depth i with
  | ind length ih =>
    cases ho : i.eat? ['<'] with
    | some j =>
      have hlt := length_lt_of_split ho
      have hmoved : (i.moveRight n).eat? ['<'] = some (j.moveRight n) := by
        rw [eat?_moveRight, ho, Option.map_some]
      rw [readFlows_split (passes_of_eat? ho), readFlows_split (passes_of_eat? hmoved),
        skipBlanks_moveRight]
      exact ih _ (hlength ▸ hlt) _ _ rfl
    | none =>
      have hopen := stops_of_eat? ho
      cases happ : readApp .task i with
      | error e =>
        have hmoved : readApp .task (i.moveRight n) = .error (e.moveRight n) := by
          rw [readApp_moved, happ]
          rfl
        rw [readFlows_of_readApp_error hopen happ,
          readFlows_of_readApp_error (i := i.moveRight n) hopen hmoved]
        rfl
      | ok result =>
        obtain ⟨app, j⟩ := result
        have hmoved : readApp .task (i.moveRight n) =
            .ok (app.mapSpans (Span.moveRight n), j.moveRight n) := by
          rw [readApp_moved, happ]
          rfl
        rw [readFlows_app hopen happ, readFlows_app (i := i.moveRight n) hopen hmoved]
        have hafter := afterFlow_moved (n := n) depth app.span.stop j
        simp only [App.mapSpans, Span.moveRight, hafter]
        refine resume_moved [app] _ fun inner k hk => ?_
        have hlt := Nat.lt_trans (afterFlow_length_lt hk) (readApp_length_lt happ)
        exact ih _ (hlength ▸ hlt) inner k rfl

/-- **What stands before the start of a task.** Read from a column of a line on, a task is the one
that the end of the line gives on its own, with every span moved to the right by that column; and
where the end of the line gives an error, the line gives the same error, moved alike. -/
theorem TaskDefinition.parse_drop (name : String) (text : List Char) (start : Nat)
    (h : start ≤ text.length) :
    TaskDefinition.parse name text start =
      moveResult start (TaskDefinition.mapSpans (Span.moveRight start))
        (TaskDefinition.parse name (text.drop start) 0) := by
  simp only [TaskDefinition.parse, ofText_eq_moveRight h, skipBlanks_moveRight, rest_moveRight,
    offset_moveRight, readFlows_moved]
  generalize (ofText (text.drop start) 0).skipBlanks = i
  split
  · rfl
  · cases readFlows 0 i with
    | error e => rfl
    | ok result =>
      -- the text of the task is as long as before, as both of its ends have moved
      simp only [moveResult, TaskDefinition.mapSpans, Span.moveRight, Nat.add_sub_add_right]

/-- Behind a name with a character of two bytes: a task with a split and a quoted end of a split,
and a task whose split does not end. -/
theorem namedTask_parse_drop :
    (2 ≤ "ü= <a --x='>' || l:b> && c ".toList.length ∧
      TaskDefinition.parse "ü" " <a --x='>' || l:b> && c ".toList 0 =
        .ok ⟨"ü", [⟨none, "a", ⟨2, 3⟩, [⟨"x", ">", ⟨4, 11⟩⟩], ⟨2, 11⟩⟩,
          ⟨some "l", "b", ⟨17, 18⟩, [], ⟨15, 18⟩⟩, ⟨none, "c", ⟨23, 24⟩, [], ⟨23, 24⟩⟩], ⟨1, 24⟩,
          "<a --x='>' || l:b> && c"⟩ ∧
      TaskDefinition.parse "ü" "ü= <a --x='>' || l:b> && c ".toList 2 =
        .ok ⟨"ü", [⟨none, "a", ⟨4, 5⟩, [⟨"x", ">", ⟨6, 13⟩⟩], ⟨4, 13⟩⟩,
          ⟨some "l", "b", ⟨19, 20⟩, [], ⟨17, 20⟩⟩, ⟨none, "c", ⟨25, 26⟩, [], ⟨25, 26⟩⟩], ⟨3, 26⟩,
          "<a --x='>' || l:b> && c"⟩) ∧
    2 ≤ "ü=<a || b".toList.length ∧
      TaskDefinition.parse "ü" "<a || b".toList 0 = .error ⟨7, .expectedCharacter '>'⟩ ∧
      TaskDefinition.parse "ü" "ü=<a || b".toList 2 = .error ⟨9, .expectedCharacter '>'⟩ := by
  have hlength : 2 ≤ "ü= <a --x='>' || l:b> && c ".toList.length := by decide +kernel
  have hdrop : "ü= <a --x='>' || l:b> && c ".toList.drop 2 =
      " <a --x='>' || l:b> && c ".toList := by
    decide +kernel
  have htask : TaskDefinition.parse "ü" " <a --x='>' || l:b> && c ".toList 0 =
      .ok ⟨"ü", [⟨none, "a", ⟨2, 3⟩, [⟨"x", ">", ⟨4, 11⟩⟩], ⟨2, 11⟩⟩,
        ⟨some "l", "b", ⟨17, 18⟩, [], ⟨15, 18⟩⟩, ⟨none, "c", ⟨23, 24⟩, [], ⟨23, 24⟩⟩], ⟨1, 24⟩,
        "<a --x='>' || l:b> && c"⟩ := by
    decide +kernel
  have hlength' : 2 ≤ "ü=<a || b".toList.length := by decide +kernel
  have hdrop' : "ü=<a || b".toList.drop 2 = "<a || b".toList := by decide +kernel
  have herror : TaskDefinition.parse "ü" "<a || b".toList 0 =
      .error ⟨7, .expectedCharacter '>'⟩ := by
    decide +kernel
  refine ⟨⟨hlength, htask, ?_⟩, hlength', herror, ?_⟩
  · rw [TaskDefinition.parse_drop "ü" _ 2 hlength, hdrop, htask]
    rfl
  · rw [TaskDefinition.parse_drop "ü" _ 2 hlength', hdrop', herror]
    rfl

end Tasks

end Flowline
