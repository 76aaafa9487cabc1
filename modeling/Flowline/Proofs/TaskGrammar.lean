import Flowline.Proofs.AppGrammar

/-!
# The language of tasks

A task is meant as a tree: a sequence of flows, each of them an app or a split into sequences. The
reader keeps no tree, only the number of splits around it. So one half follows the tree and says how
reading goes on after each part of it, while the other half follows the reader and finds for every
text that is left a sequence and what closes the splits around that.

* `FlowTerm`, `SequenceTerm`, `BranchesTerm` and their `Written`: tasks and the texts that write
  them;
* `SequenceTerm.Written.read`: a text that writes a sequence is read, and reading goes on after it;
* `ClosingWritten`: the texts that close the splits around a sequence;
* `written_of_readFlows`: what is read is a sequence and what closes the splits around it;
* `SequenceTerm.exists_written_iff_parse`: the texts that are read are those that write a task.
-/

namespace Flowline

open Character Input

/-! ## Trees -/

mutual

/-- An app, or sequences side by side. -/
inductive FlowTerm where
  | app (app : AppTerm)
  | split (branches : BranchesTerm)

/-- Flows one after the other, at least one. -/
inductive SequenceTerm where
  | last (flow : FlowTerm)
  | next (flow : FlowTerm) (rest : SequenceTerm)

/-- Sequences side by side, at least one. -/
inductive BranchesTerm where
  | last (branch : SequenceTerm)
  | next (branch : SequenceTerm) (rest : BranchesTerm)

end

mutual

/-- The apps of a flow, from left to right. -/
def FlowTerm.apps : FlowTerm → List AppTerm
  | .app app => [app]
  | .split branches => branches.apps

def SequenceTerm.apps : SequenceTerm → List AppTerm
  | .last flow => flow.apps
  | .next flow rest => flow.apps ++ rest.apps

def BranchesTerm.apps : BranchesTerm → List AppTerm
  | .last branch => branch.apps
  | .next branch rest => branch.apps ++ rest.apps

end

mutual

/-- The texts that write a flow. -/
inductive FlowTerm.Written : FlowTerm → List Char → Prop
  | app {a : AppTerm} {e : Ending} {text : List Char} (h : a.Written .task e text) :
      FlowTerm.Written (.app a) text
  | split {branches : BranchesTerm} {gap text : List Char} (hgap : IsBlanks gap)
      (h : BranchesTerm.Written branches text) :
      FlowTerm.Written (.split branches) (['<'] ++ (gap ++ (text ++ ['>'])))

/-- The texts that write a sequence. -/
inductive SequenceTerm.Written : SequenceTerm → List Char → Prop
  | last {flow : FlowTerm} {text : List Char} (h : FlowTerm.Written flow text) :
      SequenceTerm.Written (.last flow) text
  | next {flow : FlowTerm} {rest : SequenceTerm} {text gap after more : List Char}
      (h : FlowTerm.Written flow text) (hgap : IsBlanks gap) (hafter : IsBlanks after)
      (hmore : SequenceTerm.Written rest more) :
      SequenceTerm.Written (.next flow rest) (text ++ (gap ++ (['&', '&'] ++ (after ++ more))))

/-- The texts that write branches, with the blanks after the last one. -/
inductive BranchesTerm.Written : BranchesTerm → List Char → Prop
  | last {branch : SequenceTerm} {text gap : List Char} (h : SequenceTerm.Written branch text)
      (hgap : IsBlanks gap) : BranchesTerm.Written (.last branch) (text ++ gap)
  | next {branch : SequenceTerm} {rest : BranchesTerm} {text gap after more : List Char}
      (h : SequenceTerm.Written branch text) (hgap : IsBlanks gap) (hafter : IsBlanks after)
      (hmore : BranchesTerm.Written rest more) :
      BranchesTerm.Written (.next branch rest) (text ++ (gap ++ (['|', '|'] ++ (after ++ more))))

end

/-- The texts that write a task: a sequence, with blanks around it. -/
def SequenceTerm.WrittenAlone (t : SequenceTerm) (text : List Char) : Prop :=
  ∃ lead body trail, IsBlanks lead ∧ t.Written body ∧ IsBlanks trail ∧
    text = lead ++ (body ++ trail)

/-! ## How texts start -/

section Starts

variable {p : Char → Bool} {rest : List Char}

theorem FlowTerm.Written.stops {f : FlowTerm} {text : List Char} (h : f.Written text)
    (hname : ∀ c, isNameChar c = true → p c = false) (hopen : p '<' = false) :
    Stops p (text ++ rest) := by
  cases h with
  | app h => exact h.stops hname
  | split => exact stops_cons.mpr hopen

theorem SequenceTerm.Written.stops {s : SequenceTerm} {text : List Char} (h : s.Written text)
    (hname : ∀ c, isNameChar c = true → p c = false) (hopen : p '<' = false) :
    Stops p (text ++ rest) := by
  cases h with
  | last h => exact h.stops hname hopen
  | next h =>
    rw [List.append_assoc]
    exact h.stops hname hopen

theorem BranchesTerm.Written.stops {b : BranchesTerm} {text : List Char} (h : b.Written text)
    (hname : ∀ c, isNameChar c = true → p c = false) (hopen : p '<' = false) :
    Stops p (text ++ rest) := by
  cases h with
  | last h hgap =>
    rw [List.append_assoc]
    exact h.stops hname hopen
  | next h =>
    rw [List.append_assoc]
    exact h.stops hname hopen

theorem SequenceTerm.Written.ne_nil {s : SequenceTerm} {text : List Char} (h : s.Written text) :
    text ≠ [] := by
  rintro rfl
  have hstops : Stops (fun c => !(isNameChar c || c == '<')) ([] ++ [' ']) :=
    h.stops (fun c hc => by rw [hc]; rfl) (by decide)
  exact absurd (stops_cons.mp hstops) (by decide)

end Starts

/-! ## After a flow -/

/-- What follows closes a part of a task, whatever that part ends with. -/
def Delimited (rest : List Char) : Prop :=
  ∀ e : Ending, e.Final .task rest

section Delimited

variable {gap rest : List Char}

theorem isMark_of_mem_delimiters {c : Char} (hc : c ∈ Grammar.task.delimiters) :
    isNameChar c = false ∧ isBlank c = false ∧ (isQuote c || c == ':') = false := by
  simp only [Grammar.delimiters, List.mem_cons, List.not_mem_nil, or_false] at hc
  rcases hc with rfl | rfl | rfl <;> decide

theorem delimited_mark {c : Char} (hgap : IsBlanks gap) (hc : c ∈ Grammar.task.delimiters) :
    Delimited (gap ++ c :: rest) := by
  have hends := Grammar.endsValue_iff.mpr (.inr hc)
  obtain ⟨hname, hblank, hmark⟩ := isMark_of_mem_delimiters hc
  exact fun e => e.final_mark hgap hname hblank hmark fun _ _ => hends

theorem delimited_blanks (h : IsBlanks rest) : Delimited rest :=
  fun e => e.final_blanks h

theorem Delimited.blanks_append (h : Delimited rest) (hgap : IsBlanks gap) :
    Delimited (gap ++ rest) := by
  intro e
  obtain ⟨hclosed, hmark, hdash⟩ := h e
  refine ⟨?_, hgap.stops_append (fun _ => not_mark_of_isBlank) hmark, ?_⟩
  · cases gap with
    | nil => exact hclosed
    | cons c gap => exact e.closed_blanks hgap fun _ => List.cons_ne_nil c gap
  · rwa [List.dropWhile_append_of_pos hgap]

end Delimited

section AfterFlow

variable {i j k : Input} {depth stop : Nat}

theorem skipBlanks_eq_of_passes {gap : List Char} (h : i.Passes gap j) (hgap : IsBlanks gap) :
    i.skipBlanks = j.skipBlanks := by
  refine skipBlanks_of_passes (h.trans (passes_skipBlanks j)) ?_ (stops_skipBlanks j)
  intro c hc
  rcases List.mem_append.mp hc with hc | hc
  · exact hgap c hc
  · exact isBlanks_word j c hc

theorem afterFlow_congr (h : i.skipBlanks = j.skipBlanks) :
    afterFlow depth stop i = afterFlow depth stop j := by
  cases depth with
  | zero => rw [afterFlow, afterFlow, h]
  | succ outer => rw [afterFlow, afterFlow, h]

theorem afterFlow_and (h : i.skipBlanks.Passes ['&', '&'] k) :
    afterFlow depth stop i = .ok (.flow depth k.skipBlanks) := by
  cases depth with
  | zero => rw [afterFlow, eat?_of_passes h]
  | succ outer => rw [afterFlow, eat?_of_passes h]

/-- A mark that is no ampersand is not taken for the start of `&&`. -/
theorem eat?_and_of_passes {c : Char} {token : List Char} (h : i.Passes (c :: token) k)
    (hc : (c == '&') = false) : i.eat? ['&', '&'] = none := by
  refine eat?_of_stops ?_
  rw [h.rest]
  exact stops_cons.mpr hc

theorem afterFlow_or (h : i.skipBlanks.Passes ['|', '|'] k) :
    afterFlow (depth + 1) stop i = .ok (.flow (depth + 1) k.skipBlanks) := by
  rw [afterFlow, eat?_and_of_passes h (by decide), eat?_of_passes h]

theorem afterFlow_close (h : i.skipBlanks.Passes ['>'] k) :
    afterFlow (depth + 1) stop i = afterFlow depth k.offset k := by
  have hor : i.skipBlanks.eat? ['|', '|'] = none := by
    refine eat?_of_stops ?_
    rw [h.rest]
    exact stops_cons.mpr (by decide)
  rw [afterFlow, eat?_and_of_passes h (by decide), hor, eat?_of_passes h]

theorem afterFlow_done (h : i.skipBlanks.rest = []) : afterFlow 0 stop i = .ok (.done stop) := by
  have hstops : ∀ {p : Char → Bool}, Stops p i.skipBlanks.rest := by
    intro p
    rw [h]
    exact stops_nil
  rw [afterFlow, eat?_of_stops hstops, startsWith_of_stops hstops, if_neg (by simp), h]

/-- What can stand after a flow: another flow of its sequence, the end of the task, another branch,
or the end of the split around it. -/
theorem afterFlow_cases {r : AfterFlow} (h : afterFlow depth stop i = .ok r) :
    (∃ k, i.skipBlanks.Passes ['&', '&'] k ∧ r = .flow depth k.skipBlanks) ∨
    (depth = 0 ∧ i.skipBlanks.rest = [] ∧ r = .done stop) ∨
    (∃ outer k, depth = outer + 1 ∧ i.skipBlanks.Passes ['|', '|'] k ∧
      r = .flow depth k.skipBlanks) ∨
    ∃ outer k, depth = outer + 1 ∧ i.skipBlanks.Passes ['>'] k ∧
      afterFlow outer k.offset k = .ok r := by
  cases depth with
  | zero =>
    rw [afterFlow] at h
    split at h
    · next k hk =>
      cases h
      exact .inl ⟨k, passes_of_eat? hk, rfl⟩
    · split at h
      · cases h
      · split at h
        · next hrest =>
          cases h
          exact .inr (.inl ⟨rfl, hrest, rfl⟩)
        · cases h
  | succ outer =>
    rw [afterFlow] at h
    split at h
    · next k hk =>
      cases h
      exact .inl ⟨k, passes_of_eat? hk, rfl⟩
    · split at h
      · next k hk =>
        cases h
        exact .inr (.inr (.inl ⟨outer, k, rfl, passes_of_eat? hk, rfl⟩))
      · split at h
        · next k hk => exact .inr (.inr (.inr ⟨outer, k, rfl, passes_of_eat? hk, h⟩))
        · cases h

end AfterFlow

/-! ## Texts that write tasks are read -/

/-- How reading goes on once some apps have been read and it is known what follows them. -/
def resume (apps : List App) : Except SyntaxError AfterFlow → Except SyntaxError (List App × Nat)
  | .error e => .error e
  | .ok (.done stop) => .ok (apps, stop)
  | .ok (.flow depth i) =>
    match readFlows depth i with
    | .error e => .error e
    | .ok (more, stop) => .ok (apps ++ more, stop)

section Read

variable {i j : Input} {depth : Nat}

theorem resume_flow {apps more : List App} {next : Except SyntaxError AfterFlow}
    (h : readFlows depth i = resume more next) :
    resume apps (.ok (.flow depth i)) = resume (apps ++ more) next := by
  rw [resume, h]
  match next with
  | .error e => rfl
  | .ok (.done stop) => rfl
  | .ok (.flow inner j) =>
    simp only [resume]
    cases readFlows inner j with
    | error e => rfl
    | ok r =>
      simp only [List.append_assoc]

theorem readFlows_app {app : App} (hopen : Stops (· == '<') i.rest)
    (h : readApp .task i = .ok (app, j)) :
    readFlows depth i = resume [app] (afterFlow depth app.span.stop j) := by
  rw [readFlows]
  split
  · next k hk =>
    rw [eat?_of_stops hopen] at hk
    cases hk
  · split
    · next e he =>
      rw [h] at he
      cases he
    · next app' j' hj =>
      rw [h] at hj
      cases hj
      split
      · next e he => rw [he, resume]
      · next stop hstop => rw [hstop, resume]
      · next inner k hk =>
        dsimp only
        rw [hk, resume]
        cases readFlows inner k with
        | error e => rfl
        | ok r => rfl

theorem readFlows_split (h : i.Passes ['<'] j) :
    readFlows depth i = readFlows (depth + 1) j.skipBlanks := by
  conv_lhs => rw [readFlows]
  split
  · next k hk =>
    rw [eat?_of_passes h] at hk
    cases hk
    rfl
  · next hnone =>
    rw [eat?_of_passes h] at hnone
    cases hnone

/-- What opens a split takes characters. -/
theorem length_lt_of_split (h : i.eat? ['<'] = some j) :
    j.skipBlanks.rest.length < i.rest.length := by
  have hopen := Input.length_rest_of_eat? h
  have hblanks := Input.length_rest_skipBlanks_le j
  simp only [List.length_cons, List.length_nil] at hopen
  omega

/-- A part of a task, a mark with blanks around it and what follows the mark: where reading stands
after each of them. -/
theorem passes_joint {text gap mark after more : List Char} {c : Char}
    (h : i.Passes (text ++ (gap ++ (c :: mark ++ (after ++ more)))) j)
    (hc : c ∈ Grammar.task.delimiters) (hgap : IsBlanks gap) (hafter : IsBlanks after)
    (hmore : Stops isBlank (more ++ j.rest)) :
    ∃ k m, i.Passes text k ∧ Delimited k.rest ∧ k.skipBlanks.Passes (c :: mark) m ∧
      m.skipBlanks.Passes more j := by
  obtain ⟨k, htext, h⟩ := h.split
  obtain ⟨l, hblanks, h⟩ := h.split
  obtain ⟨m, hmark, h⟩ := h.split
  obtain ⟨n, hblanks', h⟩ := h.split
  have hk : Delimited k.rest := by
    rw [hblanks.rest, hmark.rest]
    exact delimited_mark hgap hc
  have hl : k.skipBlanks = l := by
    refine skipBlanks_of_passes hblanks hgap ?_
    rw [hmark.rest]
    exact stops_cons.mpr (isMark_of_mem_delimiters hc).2.1
  have hn : m.skipBlanks = n := by
    refine skipBlanks_of_passes hblanks' hafter ?_
    rwa [h.rest]
  subst hl hn
  exact ⟨k, m, htext, hk, hmark, h⟩

end Read

mutual

/-- A text that writes a flow is read, and reading goes on after it. -/
theorem FlowTerm.Written.read {f : FlowTerm} {text : List Char} :
    f.Written text → ∀ {depth : Nat} {i j : Input}, i.Passes text j → Delimited j.rest →
      ∃ nodes stop, nodes.map App.term = f.apps ∧
        readFlows depth i = resume nodes (afterFlow depth stop j)
  | .app h, depth, i, j, hpass, hj => by
    obtain ⟨app, hread, hterm⟩ := readApp_of_written h hpass (hj _)
    have hopen : Stops (· == '<') i.rest := by
      rw [hpass.rest]
      refine h.stops fun c hc => ?_
      rw [beq_eq_false_iff_ne]
      rintro rfl
      exact absurd hc (by decide)
    refine ⟨[app], app.span.stop, ?_, readFlows_app hopen hread⟩
    rw [List.map_singleton, hterm, FlowTerm.apps]
  | .split hgap h, depth, i, j, hpass, hj => by
    obtain ⟨k, hopen, hpass⟩ := hpass.split
    obtain ⟨l, hblanks, hpass⟩ := hpass.split
    obtain ⟨m, hbranches, hclose⟩ := hpass.split
    have hl : k.skipBlanks = l := by
      refine skipBlanks_of_passes hblanks hgap ?_
      rw [hbranches.rest]
      exact h.stops (fun _ => isBlank_of_isNameChar) (by decide)
    have hm : Delimited m.rest := by
      rw [hclose.rest]
      exact delimited_mark isBlanks_nil (by decide)
    have hskip : m.skipBlanks = m := by
      refine skipBlanks_of_stops ?_
      rw [hclose.rest]
      exact stops_cons.mpr (by decide)
    obtain ⟨nodes, stop, hterms, hread⟩ := h.read hbranches hm
    refine ⟨nodes, j.offset, hterms, ?_⟩
    rw [readFlows_split hopen, hl, hread, afterFlow_close (by rwa [hskip])]

theorem SequenceTerm.Written.read {s : SequenceTerm} {text : List Char} :
    s.Written text → ∀ {depth : Nat} {i j : Input}, i.Passes text j → Delimited j.rest →
      ∃ nodes stop, nodes.map App.term = s.apps ∧
        readFlows depth i = resume nodes (afterFlow depth stop j)
  | .last h, depth, i, j, hpass, hj => h.read hpass hj
  | .next h hgap hafter hmore, depth, i, j, hpass, hj => by
    obtain ⟨k, m, hflow, hk, hmark, hpass⟩ := passes_joint hpass (by decide) hgap hafter
      (hmore.stops (fun _ => isBlank_of_isNameChar) (by decide))
    obtain ⟨nodes, stop, hterms, hread⟩ := h.read hflow hk
    obtain ⟨more, stop', hterms', hread'⟩ := hmore.read hpass hj
    refine ⟨nodes ++ more, stop', by rw [List.map_append, hterms, hterms', SequenceTerm.apps], ?_⟩
    rw [hread, afterFlow_and hmark, resume_flow hread']

/-- Branches stand inside at least one split. -/
theorem BranchesTerm.Written.read {b : BranchesTerm} {text : List Char} :
    b.Written text → ∀ {depth : Nat} {i j : Input}, i.Passes text j → Delimited j.rest →
      ∃ nodes stop, nodes.map App.term = b.apps ∧
        readFlows (depth + 1) i = resume nodes (afterFlow (depth + 1) stop j)
  | .last h hgap, depth, i, j, hpass, hj => by
    obtain ⟨k, hbranch, hblanks⟩ := hpass.split
    have hk : Delimited k.rest := by
      rw [hblanks.rest]
      exact hj.blanks_append hgap
    obtain ⟨nodes, stop, hterms, hread⟩ := h.read hbranch hk
    refine ⟨nodes, stop, hterms, ?_⟩
    rw [hread, afterFlow_congr (skipBlanks_eq_of_passes hblanks hgap)]
  | .next h hgap hafter hmore, depth, i, j, hpass, hj => by
    obtain ⟨k, m, hbranch, hk, hmark, hpass⟩ := passes_joint hpass (by decide) hgap hafter
      (hmore.stops (fun _ => isBlank_of_isNameChar) (by decide))
    obtain ⟨nodes, stop, hterms, hread⟩ := h.read hbranch hk
    obtain ⟨more, stop', hterms', hread'⟩ := hmore.read hpass hj
    refine ⟨nodes ++ more, stop', by rw [List.map_append, hterms, hterms', BranchesTerm.apps], ?_⟩
    rw [hread, afterFlow_or hmark, resume_flow hread']

end

/-- A text that writes a task is read as that task, whatever stands before it on the line. -/
theorem SequenceTerm.WrittenAlone.parse_append {t : SequenceTerm} {text : List Char}
    (h : t.WrittenAlone text) (name : String) (before : List Char) :
    ∃ task, TaskDefinition.parse name (before ++ text) before.length = .ok task ∧
      task.apps.map App.term = t.apps := by
  obtain ⟨lead, body, trail, hlead, hbody, htrail, rfl⟩ := h
  obtain ⟨i, hblanks, hpass⟩ := (passes_ofText_append before (lead ++ (body ++ trail))).split
  obtain ⟨j, hmain, hpass⟩ := hpass.split
  have hj : IsBlanks j.rest := by
    rw [hpass.rest, List.append_nil]
    exact htrail
  have hi : (ofText (before ++ (lead ++ (body ++ trail))) before.length).skipBlanks = i := by
    refine skipBlanks_of_passes hblanks hlead ?_
    rw [hmain.rest]
    exact hbody.stops (fun _ => isBlank_of_isNameChar) (by decide)
  have hne : ¬ i.rest.isEmpty = true := by
    rw [hmain.rest, List.isEmpty_iff]
    exact fun hnil => hbody.ne_nil (List.append_eq_nil_iff.mp hnil).1
  obtain ⟨nodes, stop, hterms, hread⟩ : ∃ nodes stop, nodes.map App.term = t.apps ∧
      readFlows 0 i = resume nodes (afterFlow 0 stop j) := hbody.read hmain (delimited_blanks hj)
  rw [afterFlow_done hj.dropWhile_eq_nil, resume] at hread
  simp only [TaskDefinition.parse, hi, hread]
  rw [if_neg hne]
  exact ⟨_, rfl, hterms⟩

theorem SequenceTerm.WrittenAlone.parse {t : SequenceTerm} {text : List Char} (name : String)
    (h : t.WrittenAlone text) :
    ∃ task, TaskDefinition.parse name text 0 = .ok task ∧ task.apps.map App.term = t.apps :=
  h.parse_append name []

/-! ## Texts that are read write tasks -/

/-- The texts that go on with a sequence after one of its flows, and the apps in them. -/
inductive ContinuationWritten : List AppTerm → List Char → Prop
  | nothing : ContinuationWritten [] []
  | next {s : SequenceTerm} {gap after text : List Char} (hgap : IsBlanks gap)
    (hafter : IsBlanks after)
      (h : s.Written text) :
      ContinuationWritten s.apps (gap ++ (['&', '&'] ++ (after ++ text)))

/-- The texts that close the splits around a sequence to the end of the task, and the apps in
them. -/
inductive ClosingWritten : Nat → List AppTerm → List Char → Prop
  | done {gap : List Char} (hgap : IsBlanks gap) : ClosingWritten 0 [] gap
  | branch {depth : Nat} {s : SequenceTerm} {apps : List AppTerm} {gap after text rest : List Char}
      (hgap : IsBlanks gap) (hafter : IsBlanks after) (h : s.Written text)
      (hrest : ClosingWritten (depth + 1) apps rest) :
      ClosingWritten (depth + 1) (s.apps ++ apps) (gap ++ (['|', '|'] ++ (after ++ (text ++ rest))))
  | close {depth : Nat} {more apps : List AppTerm} {gap text rest : List Char} (hgap : IsBlanks gap)
      (hmore : ContinuationWritten more text) (hrest : ClosingWritten depth apps rest) :
      ClosingWritten (depth + 1) (more ++ apps) (gap ++ (['>'] ++ (text ++ rest)))

/-- The texts that follow a flow inside some splits: the rest of its sequence and what closes the
splits. -/
def FollowWritten (depth : Nat) (apps : List AppTerm) (rest : List Char) : Prop :=
  ∃ more text others closing, ContinuationWritten more text ∧ ClosingWritten depth others closing ∧
    apps = more ++ others ∧ rest = text ++ closing

section Closing

variable {depth : Nat} {apps : List AppTerm} {rest text : List Char}

theorem ClosingWritten.follow (h : ClosingWritten depth apps rest) :
    FollowWritten depth apps rest :=
  ⟨[], [], apps, rest, .nothing, h, rfl, rfl⟩

/-- A flow and what goes on after it make a sequence. -/
theorem FlowTerm.Written.sequence {f : FlowTerm} (h : f.Written text)
    (hrest : FollowWritten depth apps rest) :
    ∃ (s : SequenceTerm) (read closing : List Char) (others : List AppTerm), s.Written read ∧
      ClosingWritten depth others closing ∧ f.apps ++ apps = s.apps ++ others ∧
      text ++ rest = read ++ closing := by
  obtain ⟨more, mid, others, closing, hmore, hclosing, rfl, rfl⟩ := hrest
  cases hmore with
  | nothing => exact ⟨.last f, text, closing, others, .last h, hclosing, rfl, rfl⟩
  | @next s gap after mid hgap hafter hs =>
    refine ⟨.next f s, _, closing, others, .next h hgap hafter hs, hclosing, ?_, ?_⟩
    · rw [SequenceTerm.apps, List.append_assoc]
    · simp only [List.append_assoc]

/-- What closes a split after its first branch gives the other branches, and what follows the
split. -/
theorem ClosingWritten.split {s : SequenceTerm} (hclosing : ClosingWritten (depth + 1) apps rest)
    (h : s.Written text) :
    ∃ (b : BranchesTerm) (read more : List Char) (others : List AppTerm), b.Written read ∧
      FollowWritten depth others more ∧ s.apps ++ apps = b.apps ++ others ∧
      text ++ rest = read ++ (['>'] ++ more) := by
  generalize hd : depth + 1 = inner at hclosing
  induction hclosing generalizing s text with
  | done => cases hd
  | @branch _ next apps gap after mid rest hgap hafter hnext hrest ih =>
    obtain ⟨b, read, more, others, hb, hfollow, happs, htext⟩ := ih hnext hd
    refine ⟨.next s b, _, more, others, .next h hgap hafter hb, hfollow, ?_, ?_⟩
    · rw [happs, BranchesTerm.apps, List.append_assoc]
    · simp only [List.append_assoc]
      rw [htext]
  | @close _ more apps gap mid rest hgap hmore hrest ih =>
    cases hd
    refine ⟨.last s, _, mid ++ rest, more ++ apps, .last h hgap,
      ⟨more, mid, apps, rest, hmore, hrest, rfl, rfl⟩, rfl, ?_⟩
    simp only [List.append_assoc]

end Closing

section Sound

variable {i j : Input} {depth stop : Nat}

theorem rest_eq_of_passes_skipBlanks {token : List Char} (h : i.skipBlanks.Passes token j) :
    i.rest = i.word isBlank ++ (token ++ j.rest) := by
  rw [(passes_skipBlanks i).rest, h.rest]

theorem closing_of_afterFlow_done {stop' : Nat} (h : afterFlow depth stop i = .ok (.done stop')) :
    ClosingWritten depth [] i.rest := by
  induction depth using Nat.strongRecOn generalizing stop i with
  | ind depth ih =>
    rcases afterFlow_cases h with
      ⟨k, -, hr⟩ | ⟨rfl, hrest, -⟩ | ⟨outer, k, -, -, hr⟩ | ⟨outer, k, rfl, hpass, hk⟩
    · cases hr
    · rw [(passes_skipBlanks i).rest, hrest, List.append_nil]
      exact .done (isBlanks_word i)
    · cases hr
    · rw [rest_eq_of_passes_skipBlanks hpass]
      exact .close (isBlanks_word i) .nothing (ih outer (by omega) hk)

/-- What stands between a flow and the next one makes, with a sequence and what closes the splits
around it, a text that can follow the flow. -/
theorem passes_of_afterFlow_flow {inner : Nat} (h : afterFlow depth stop i = .ok (.flow inner j)) :
    ∃ between, i.Passes between j ∧
      ∀ {s : SequenceTerm} {apps : List AppTerm} {text closing : List Char},
      s.Written text → ClosingWritten inner apps closing →
      FollowWritten depth (s.apps ++ apps) (between ++ (text ++ closing)) := by
  induction depth using Nat.strongRecOn generalizing stop i with
  | ind depth ih =>
    have hblanks := passes_skipBlanks i
    rcases afterFlow_cases h with
      ⟨k, hpass, hr⟩ | ⟨-, -, hr⟩ | ⟨outer, k, rfl, hpass, hr⟩ | ⟨outer, k, rfl, hpass, hk⟩
    · cases hr
      refine ⟨_, hblanks.trans (hpass.trans (passes_skipBlanks k)), fun hs hclosing => ?_⟩
      refine ⟨_, _, _, _, .next (isBlanks_word i) (isBlanks_word k) hs, hclosing, rfl, ?_⟩
      simp only [List.append_assoc]
    · cases hr
    · cases hr
      refine ⟨_, hblanks.trans (hpass.trans (passes_skipBlanks k)), fun hs hclosing => ?_⟩
      simp only [List.append_assoc]
      exact (ClosingWritten.branch (isBlanks_word i) (isBlanks_word k) hs hclosing).follow
    · -- the split around the flow is closed, and the rest follows that split
      obtain ⟨between, hbetween, hfollow⟩ := ih outer (by omega) hk
      refine ⟨_, hblanks.trans (hpass.trans hbetween), fun hs hclosing => ?_⟩
      obtain ⟨more, mid, others, rest, hmore, hothers, happs, hmid⟩ := hfollow hs hclosing
      simp only [List.append_assoc]
      rw [hmid, happs]
      exact (ClosingWritten.close (isBlanks_word i) hmore hothers).follow

/-- What is read inside some splits is a sequence and what closes the splits. -/
theorem written_of_readFlows {nodes : List App} (h : readFlows depth i = .ok (nodes, stop)) :
    ∃ (s : SequenceTerm) (text closing : List Char) (others : List AppTerm), s.Written text ∧
      ClosingWritten depth others closing ∧ nodes.map App.term = s.apps ++ others ∧
      i.rest = text ++ closing := by
  fun_induction readFlows depth i generalizing nodes stop with
  | case1 depth i j hj hlt ih =>
    -- a split opens: its first branch comes next
    obtain ⟨s, text, closing, others, hs, hclosing, hterms, hrest⟩ := ih h
    obtain ⟨b, read, more, rest, hb, hfollow, happs, htext⟩ := hclosing.split hs
    have hopen := passes_of_eat? hj
    obtain ⟨s', read', closing', others', hs', hclosing', happs', htext'⟩ :=
      (FlowTerm.Written.split (isBlanks_word j) hb).sequence hfollow
    refine ⟨s', read', closing', others', hs', hclosing', ?_, ?_⟩
    · rw [hterms, happs, ← happs', FlowTerm.apps]
    · rw [← htext', hopen.rest, (passes_skipBlanks j).rest, hrest, htext]
      simp only [List.append_assoc]
  | case2 depth i hopen e he => cases h
  | case3 depth i hopen a j hj e he => cases h
  | case4 depth i hopen a j hj stop' hdone =>
    cases h
    obtain ⟨e, text, hwritten, hpass, -⟩ := written_of_readApp hj
    refine ⟨.last (.app a.term), text, j.rest, [], .last (.app hwritten),
      closing_of_afterFlow_done hdone, ?_, hpass.rest⟩
    rw [List.map_singleton, SequenceTerm.apps, FlowTerm.apps, List.append_nil]
  | case5 depth i hopen a j hj next k hk hlt e he ih => cases h
  | case6 depth i hopen a j hj next k hk hlt more stop' hmore ih =>
    cases h
    obtain ⟨e, text, hwritten, hpass, -⟩ := written_of_readApp hj
    obtain ⟨s, text', closing, others, hs, hclosing, hterms, hrest⟩ := ih hmore
    obtain ⟨between, hbetween, hfollow⟩ := passes_of_afterFlow_flow hk
    obtain ⟨s', read, closing', others', hs', hclosing', happs, htext⟩ :=
      (FlowTerm.Written.app hwritten).sequence (hfollow hs hclosing)
    refine ⟨s', read, closing', others', hs', hclosing', ?_, ?_⟩
    · rw [List.map_cons, hterms, ← happs, FlowTerm.apps, List.singleton_append]
    · rw [hpass.rest, hbetween.rest, hrest, htext]

end Sound

theorem TaskDefinition.written_of_parse {name : String} {text : List Char} {task : TaskDefinition}
    (h : TaskDefinition.parse name text 0 = .ok task) :
    ∃ t : SequenceTerm, t.apps = task.apps.map App.term ∧ t.WrittenAlone text := by
  have hblanks := passes_skipBlanks (ofText text 0)
  simp only [TaskDefinition.parse] at h
  split at h
  · cases h
  · split at h
    · cases h
    · next nodes stop hread =>
      cases h
      obtain ⟨t, body, closing, others, ht, hclosing, hterms, hrest⟩ := written_of_readFlows hread
      cases hclosing with
      | done htrail =>
        refine ⟨t, by rw [hterms, List.append_nil],
          _, body, closing, isBlanks_word (ofText text 0), ht, htrail, ?_⟩
        rw [← hrest, ← hblanks.rest, (passes_ofText text).rest, List.append_nil]

/-- **The language of tasks.** A text writes a task with some apps, from left to right, just if it
is read as a task with these apps. -/
theorem SequenceTerm.exists_written_iff_parse (name : String) (apps : List AppTerm)
    (text : List Char) :
    (∃ t : SequenceTerm, t.apps = apps ∧ t.WrittenAlone text) ↔
      ∃ task, TaskDefinition.parse name text 0 = .ok task ∧ task.apps.map App.term = apps := by
  constructor
  · rintro ⟨t, rfl, h⟩
    exact h.parse name
  · rintro ⟨task, hparse, rfl⟩
    exact TaskDefinition.written_of_parse hparse

/-- Splits in a split, with as few blanks as there can be. -/
example :
    (TaskDefinition.parse "t" "<a --x=1||<b&&c:d>>&&e --y='>'".toList 0).toOption.map
        (·.apps.map App.term) =
      some [⟨none, "a", [("x", "1")]⟩, ⟨none, "b", []⟩, ⟨some "c", "d", []⟩,
        ⟨none, "e", [("y", ">")]⟩] := by
  decide +kernel

end Flowline
