import Flowline.Proofs.AppGrammar

/-!
# The language of streams

A stream without its columns is a term, and a relation says which texts write it: the parts in the
order `[name =] [:source >] app (| app)* [> :sink]`, or a source and a sink alone, with blanks
between them. Both ways a part is read just if it is written there, so the texts that are read are
those that write a stream.

* `StreamTerm`, `StreamTerm.Written`: streams and the texts that write them;
* `readPipeline_of_written`, `written_of_readPipeline`: apps and the pipes between them;
* `readStreamBody_of_written`, `written_of_readStreamBody`: what follows the name;
* `StreamTerm.written_iff_parse`: a text writes a stream just if it is read as that stream.
-/

namespace Flowline

open Character Input

/-- A stream as it is meant, without the columns it was read from. -/
structure StreamTerm where
  name : Option String
  source : Option String
  apps : List AppTerm
  sink : Option String
  deriving DecidableEq, Repr

def StreamDefinition.term (s : StreamDefinition) : StreamTerm :=
  ⟨s.name.map (·.text), s.source.map (·.name), s.apps.map App.term, s.sink.map (·.name)⟩

/-! ## Destinations -/

section Destinations

variable {i j : Input}

theorem readDestination_of_written {name : String} (hname : IsWord isDottedChar name.toList)
    (hpass : i.Passes ([':'] ++ name.toList) j) (hstops : Stops isDottedChar j.rest) :
    ∃ q, readDestination i = .ok (q, j) ∧ q.name = name := by
  obtain ⟨k, hcolon, hword⟩ := hpass.split
  refine ⟨⟨name, ⟨k.offset, j.offset⟩⟩, ?_, rfl⟩
  simp only [readDestination, eat?_of_passes hcolon, word_of_passes hword hname.2 hstops,
    skipWhile_of_passes hword hname.2 hstops, String.ofList_toList]
  rw [if_neg (by simpa using hname.1)]

theorem written_of_readDestination {q : Destination} (h : readDestination i = .ok (q, j)) :
    IsWord isDottedChar q.name.toList ∧ i.Passes ([':'] ++ q.name.toList) j := by
  simp only [readDestination] at h
  split at h
  · cases h
  · next k hk =>
    split at h
    · cases h
    · next hne =>
      cases h
      refine ⟨isWord_toList_ofList (isWord_word hne), ?_⟩
      rw [String.toList_ofList]
      exact (passes_of_eat? hk).trans (passes_skipWhile isDottedChar k)

end Destinations

/-! ## Names -/

/-- The texts that write the name of a stream and the blanks after it. -/
inductive NameWritten : Option String → List Char → Prop
  | absent : NameWritten none []
  | present {name : String} {gap after : List Char} (hname : IsWord isNameChar name.toList)
      (hgap : IsBlanks gap) (hafter : IsBlanks after) :
      NameWritten (some name) (name.toList ++ (gap ++ (['='] ++ after)))

/-- No equals sign follows the first word of a text. -/
def Unnamed (rest : List Char) : Prop :=
  Stops (· == '=') ((rest.dropWhile isNameChar).dropWhile isBlank)

section Names

variable {i j : Input} {name : Option String} {text : List Char}

theorem readName_of_unnamed (h : Unnamed i.rest) : readName i = (none, i) := by
  have hequals : Stops (· == '=') (i.skipWhile isNameChar).skipBlanks.rest := h
  simp only [readName, eat?_of_stops hequals]

/-- A name is read to the equals sign after it, and only where it is written. -/
theorem readName_of_written (h : NameWritten name text) (hpass : i.Passes text j)
    (hblank : Stops isBlank j.rest) (hunnamed : name = none → Unnamed j.rest) :
    ∃ declared k, readName i = (declared, k) ∧ k.skipBlanks = j ∧ declared.map (·.text) = name := by
  cases h with
  | absent =>
    cases hpass.eq (Passes.refl i)
    exact ⟨none, i, readName_of_unnamed (hunnamed rfl), skipBlanks_of_stops hblank, rfl⟩
  | @present name gap after hname hgap hafter =>
    obtain ⟨k, hword, hpass⟩ := hpass.split
    obtain ⟨l, hblanks, hpass⟩ := hpass.split
    obtain ⟨m, hequals, hpass⟩ := hpass.split
    have hstops : Stops isNameChar k.rest := by
      rw [hblanks.rest, hequals.rest]
      exact hgap.stops_append (fun _ => isNameChar_of_isBlank) (stops_cons.mpr (by decide))
    have hl : k.skipBlanks = l := by
      refine skipBlanks_of_passes hblanks hgap ?_
      rw [hequals.rest]
      exact stops_cons.mpr (by decide)
    refine ⟨some ⟨name, ⟨i.offset, k.offset⟩⟩, m, ?_, skipBlanks_of_passes hpass hafter hblank, rfl⟩
    simp only [readName, word_of_passes hword hname.2 hstops,
      skipWhile_of_passes hword hname.2 hstops, hl, eat?_of_passes hequals, String.ofList_toList]
    rw [if_neg (by simpa using hname.1)]

theorem written_of_readName {declared : Option DeclaredName} (h : readName i = (declared, j))
    (hi : Stops isBlank i.rest) :
    ∃ text, NameWritten (declared.map (·.text)) text ∧ i.Passes text j.skipBlanks := by
  have hnone : declared = none → i = j →
      ∃ text, NameWritten (declared.map (·.text)) text ∧ i.Passes text j.skipBlanks := by
    rintro rfl rfl
    refine ⟨[], .absent, ?_⟩
    rw [skipBlanks_of_stops hi]
    exact Passes.refl i
  simp only [readName] at h
  split at h
  · next k hk =>
    split at h
    · cases h
      exact hnone rfl rfl
    · next hne =>
      cases h
      have hword := isWord_toList_ofList (isWord_word hne)
      refine ⟨_, .present hword (isBlanks_word (i.skipWhile isNameChar)) (isBlanks_word j), ?_⟩
      rw [String.toList_ofList]
      exact (passes_skipWhile isNameChar i).trans ((passes_skipBlanks _).trans
        ((passes_of_eat? hk).trans (passes_skipBlanks j)))
  · cases h
    exact hnone rfl rfl

end Names

/-! ## Sources -/

/-- The texts that write the source of a stream, the arrow after it, and the blanks after that. -/
inductive SourceWritten : Option String → List Char → Prop
  | absent : SourceWritten none []
  | present {source : String} {gap after : List Char} (hsource : IsWord isDottedChar source.toList)
      (hgap : IsBlanks gap) (hafter : IsBlanks after) :
      SourceWritten (some source) ([':'] ++ (source.toList ++ (gap ++ (['>'] ++ after))))

section Sources

variable {i j : Input} {source : Option String} {text : List Char}

theorem readSource_of_written (h : SourceWritten source text) (hpass : i.Passes text j)
    (hblank : Stops isBlank j.rest) (hcolon : source = none → Stops (· == ':') j.rest) :
    ∃ destination, readSource i = .ok (destination, j) ∧ destination.map (·.name) = source := by
  cases h with
  | absent =>
    cases hpass.eq (Passes.refl i)
    refine ⟨none, ?_, rfl⟩
    rw [readSource, startsWith_of_stops (hcolon rfl), if_neg (by simp)]
  | @present source gap after hsource hgap hafter =>
    rw [← List.append_assoc] at hpass
    obtain ⟨k, hdestination, hpass⟩ := hpass.split
    obtain ⟨l, hblanks, hpass⟩ := hpass.split
    obtain ⟨m, harrow, hpass⟩ := hpass.split
    have hstart : i.startsWith [':'] = true := by
      rw [startsWith, hdestination.rest]
      simp
    have hstops : Stops isDottedChar k.rest := by
      rw [hblanks.rest, harrow.rest]
      exact hgap.stops_append (fun _ => isDottedChar_of_isBlank) (stops_cons.mpr (by decide))
    have hl : k.skipBlanks = l := by
      refine skipBlanks_of_passes hblanks hgap ?_
      rw [harrow.rest]
      exact stops_cons.mpr (by decide)
    obtain ⟨q, hq, hname⟩ := readDestination_of_written hsource hdestination hstops
    refine ⟨some q, ?_, by rw [Option.map_some, hname]⟩
    simp only [readSource, hstart, if_true, hq, hl, eat?_of_passes harrow,
      skipBlanks_of_passes hpass hafter hblank]

theorem written_of_readSource {destination : Option Destination}
    (h : readSource i = .ok (destination, j)) :
    ∃ text, SourceWritten (destination.map (·.name)) text ∧ i.Passes text j := by
  simp only [readSource] at h
  split at h
  · split at h
    · cases h
    · next q k hk =>
      split at h
      · cases h
      · next l hl =>
        cases h
        obtain ⟨hname, hpass⟩ := written_of_readDestination hk
        refine ⟨_, .present hname (isBlanks_word k) (isBlanks_word l), ?_⟩
        have hall := hpass.trans ((passes_skipBlanks k).trans
          ((passes_of_eat? hl).trans (passes_skipBlanks l)))
        simpa only [List.append_assoc] using hall
  · cases h
    exact ⟨[], .absent, Passes.refl i⟩

end Sources

/-! ## Pipelines -/

/-- The texts that write apps with pipes between them. -/
inductive PipelineWritten : List AppTerm → Ending → List Char → Prop
  | last {a : AppTerm} {e : Ending} {text : List Char} (h : a.Written .stream e text) :
      PipelineWritten [a] e text
  | pipe {a : AppTerm} {e last : Ending} {text gap after more : List Char} {apps : List AppTerm}
      (h : a.Written .stream e text) (hgap : IsBlanks gap) (hafter : IsBlanks after)
      (hmore : PipelineWritten apps last more) :
      PipelineWritten (a :: apps) last (text ++ (gap ++ (['|'] ++ (after ++ more))))

section Pipelines

variable {i j k l : Input} {e : Ending} {text rest : List Char} {apps : List AppTerm}

/-- A pipeline starts with a character of names. -/
theorem PipelineWritten.stops {p : Char → Bool} (h : PipelineWritten apps e text)
    (hp : ∀ c, isNameChar c = true → p c = false) : Stops p (text ++ rest) := by
  cases h with
  | last h => exact h.stops hp
  | pipe h hgap hafter hmore =>
    rw [List.append_assoc]
    exact h.stops hp

theorem PipelineWritten.ne_nil (h : PipelineWritten apps e text) : text ≠ [] := by
  rintro rfl
  have hstops : Stops (fun c => !isNameChar c) ([] ++ [' ']) := h.stops fun c hc => by rw [hc]; rfl
  exact absurd (stops_cons.mp hstops) (by decide)

theorem readPipeline_last {app : App} (h : readApp .stream i = .ok (app, j))
    (hpipe : Stops (· == '|') j.skipBlanks.rest) : readPipeline i = .ok ([app], j.skipBlanks) := by
  rw [readPipeline]
  split
  · next e he =>
    rw [h] at he
    cases he
  · next app' j' hj =>
    rw [h] at hj
    cases hj
    rw [startsWith_of_stops hpipe, if_neg (by simp)]
    split
    · rfl
    · next k hk =>
      rw [eat?_of_stops hpipe] at hk
      cases hk

theorem readPipeline_pipe {app : App} {more : List App} (h : readApp .stream i = .ok (app, j))
    (hpipe : j.skipBlanks.Passes ['|'] k) (hstops : Stops (· == '|') k.rest)
    (hmore : readPipeline k.skipBlanks = .ok (more, l)) :
    readPipeline i = .ok (app :: more, l) := by
  rw [readPipeline]
  split
  · next e he =>
    rw [h] at he
    cases he
  · next app' j' hj =>
    rw [h] at hj
    cases hj
    rw [startsWith_of_passes_stops hpipe hstops, if_neg (by simp)]
    split
    · next hnone =>
      rw [eat?_of_passes hpipe] at hnone
      cases hnone
    · next k' hk =>
      rw [eat?_of_passes hpipe] at hk
      cases hk
      rw [hmore]

/-- Apps are read to the last one, where no pipe follows. -/
theorem readPipeline_of_written (h : PipelineWritten apps e text) (hpass : i.Passes text j)
    (hfinal : e.Final .stream j.rest) (hpipe : Stops (· == '|') j.skipBlanks.rest) :
    ∃ nodes, readPipeline i = .ok (nodes, j.skipBlanks) ∧ nodes.map App.term = apps := by
  induction h generalizing i with
  | last h =>
    obtain ⟨app, hread, hterm⟩ := readApp_of_written h hpass hfinal
    exact ⟨[app], readPipeline_last hread hpipe, by rw [List.map_singleton, hterm]⟩
  | @pipe a e last text gap after more apps h hgap hafter hmore ih =>
    obtain ⟨k, happ, hpass⟩ := hpass.split
    obtain ⟨l, hblanks, hpass⟩ := hpass.split
    obtain ⟨m, hmark, hpass⟩ := hpass.split
    obtain ⟨n, hblanks', hpass⟩ := hpass.split
    have hk : e.Final .stream k.rest := by
      rw [hblanks.rest, hmark.rest]
      exact e.final_mark hgap (by decide) (by decide) (by decide) fun _ _ => by decide
    have hl : k.skipBlanks = l := by
      refine skipBlanks_of_passes hblanks hgap ?_
      rw [hmark.rest]
      exact stops_cons.mpr (by decide)
    have hn : m.skipBlanks = n := by
      refine skipBlanks_of_passes hblanks' hafter ?_
      rw [hpass.rest]
      exact hmore.stops fun _ => isBlank_of_isNameChar
    have hstops : Stops (· == '|') m.rest := by
      rw [hblanks'.rest, hpass.rest]
      refine hafter.stops_append (fun _ => beq_of_isBlank (by decide)) (hmore.stops ?_)
      intro c hc
      rw [beq_eq_false_iff_ne]
      rintro rfl
      exact absurd hc (by decide)
    obtain ⟨app, hread, hterm⟩ := readApp_of_written h happ hk
    obtain ⟨nodes, hnodes, hterms⟩ := ih hpass hfinal
    refine ⟨app :: nodes, readPipeline_pipe hread (by rwa [hl]) hstops (by rwa [hn]), ?_⟩
    rw [List.map_cons, hterm, hterms]

theorem written_of_readPipeline {nodes : List App} (h : readPipeline i = .ok (nodes, j)) :
    ∃ e text k, PipelineWritten (nodes.map App.term) e text ∧ i.Passes text k ∧
      e.Closed .stream k.rest ∧ j = k.skipBlanks := by
  fun_induction readPipeline i generalizing nodes j with
  | case1 i error he => cases h
  | case2 i app k hk hpipes => cases h
  | case3 i app k hk hpipes hend =>
    cases h
    obtain ⟨e, text, hwritten, hpass, hclosed⟩ := written_of_readApp hk
    exact ⟨e, text, k, .last hwritten, hpass, hclosed, rfl⟩
  | case4 i app k hk hpipes l hl hlt error he ih => cases h
  | case5 i app k hk hpipes l hl hlt more m hm ih =>
    cases h
    obtain ⟨e, text, hwritten, hpass, hclosed⟩ := written_of_readApp hk
    obtain ⟨last, rest, n, hmore, hpass', hlast, hj⟩ := ih hm
    refine ⟨last, _, n, .pipe hwritten (isBlanks_word k) (isBlanks_word l) hmore, ?_, hlast, hj⟩
    exact hpass.trans ((passes_skipBlanks k).trans ((passes_of_eat? hl).trans
      ((passes_skipBlanks l).trans hpass')))

end Pipelines

/-! ## Sinks -/

/-- The texts that write the sink of a stream after its apps, with the arrow before it. A bare value
would take in an arrow that no blank separates from it. -/
inductive SinkWritten (e : Ending) : Option String → List Char → Prop
  | absent : SinkWritten e none []
  | present {sink : String} {gap after : List Char} (hgap : IsBlanks gap) (hafter : IsBlanks after)
      (hne : e = .bare → gap ≠ []) (hsink : IsWord isDottedChar sink.toList) :
      SinkWritten e (some sink) (gap ++ (['>'] ++ (after ++ ([':'] ++ sink.toList))))

section Sinks

variable {i j : Input} {e : Ending} {sink : Option String} {text rest : List Char}

/-- A sink, or its absence, ends the app before it, and no pipe stands there. -/
theorem SinkWritten.final (h : SinkWritten e sink text) (hrest : IsBlanks rest) :
    e.Final .stream (text ++ rest) ∧ Stops (fun c => c == '|' || c == '=')
      ((text ++ rest).dropWhile isBlank) := by
  cases h with
  | absent =>
    rw [List.nil_append, hrest.dropWhile_eq_nil]
    exact ⟨e.final_blanks hrest, stops_nil⟩
  | present hgap hafter hne hsink =>
    rw [List.append_assoc]
    refine ⟨e.final_mark hgap (by decide) (by decide) (by decide)
      fun he hnil => absurd hnil (hne he), ?_⟩
    exact hgap.stops_dropWhile (by decide) (by decide)

theorem readSink_of_written (h : SinkWritten e sink text) (hpass : i.Passes text j)
    (hj : IsBlanks j.rest) :
    ∃ destination k, readSink i.skipBlanks = .ok (destination, k) ∧ k.skipBlanks.rest = [] ∧
      destination.map (·.name) = sink := by
  have hend : j.skipBlanks.rest = [] := hj.dropWhile_eq_nil
  cases h with
  | absent =>
    cases hpass.eq (Passes.refl i)
    refine ⟨none, i.skipBlanks, ?_, ?_, rfl⟩
    · rw [readSink, eat?_of_stops (by rw [hend]; exact stops_nil)]
    · rw [skipBlanks_of_stops (stops_skipBlanks i), hend]
  | @present sink gap after hgap hafter hne hsink =>
    obtain ⟨k, hblanks, hpass⟩ := hpass.split
    obtain ⟨l, harrow, hpass⟩ := hpass.split
    obtain ⟨m, hblanks', hpass⟩ := hpass.split
    have hk : i.skipBlanks = k := by
      refine skipBlanks_of_passes hblanks hgap ?_
      rw [harrow.rest]
      exact stops_cons.mpr (by decide)
    have hm : l.skipBlanks = m := by
      refine skipBlanks_of_passes hblanks' hafter ?_
      rw [hpass.rest]
      exact stops_cons.mpr (by decide)
    obtain ⟨q, hq, hname⟩ :=
      readDestination_of_written hsink hpass (hj.stops fun _ => isDottedChar_of_isBlank)
    refine ⟨some q, j, ?_, hend, by rw [Option.map_some, hname]⟩
    simp only [readSink, hk, eat?_of_passes harrow, hm, hq]

/-- Without a blank before it, an arrow would have gone into a bare value. -/
theorem ne_nil_of_arrow {gap : List Char} {k : Input} (hclosed : e.Closed .stream i.rest)
    (hgap : i.Passes gap j) (harrow : j.Passes ['>'] k) (he : e = .bare) : gap ≠ [] := by
  subst he
  rintro rfl
  rw [hgap.rest, harrow.rest] at hclosed
  exact absurd (stops_cons.mp hclosed) (by decide)

theorem written_of_readSink {destination : Option Destination} (hclosed : e.Closed .stream i.rest)
    (h : readSink i.skipBlanks = .ok (destination, j)) :
    ∃ text k, SinkWritten e (destination.map (·.name)) text ∧ i.Passes text k ∧
      k.skipBlanks = j.skipBlanks := by
  simp only [readSink] at h
  split at h
  · cases h
    exact ⟨[], i, .absent, Passes.refl i, (skipBlanks_of_stops (stops_skipBlanks i)).symm⟩
  · next k hk =>
    split at h
    · cases h
    · next q l hl =>
      cases h
      obtain ⟨hname, hpass⟩ := written_of_readDestination hl
      have hblanks := passes_skipBlanks i
      have harrow := passes_of_eat? hk
      exact ⟨_, j, .present (isBlanks_word i) (isBlanks_word k)
        (ne_nil_of_arrow hclosed hblanks harrow) hname,
        hblanks.trans (harrow.trans ((passes_skipBlanks k).trans hpass)), rfl⟩

end Sinks

/-! ## Bodies -/

/-- The texts that write a stream without its name. -/
inductive BodyWritten : Option String → List AppTerm → Option String → List Char → Prop
  | bridge {source sink : String} {text : List Char} (hsource : SourceWritten (some source) text)
      (hsink : IsWord isDottedChar sink.toList) :
      BodyWritten (some source) [] (some sink) (text ++ ([':'] ++ sink.toList))
  | pipeline {source sink : Option String} {apps : List AppTerm} {e : Ending}
      {first middle last : List Char} (hsource : SourceWritten source first)
      (happs : PipelineWritten apps e middle) (hsink : SinkWritten e sink last) :
      BodyWritten source apps sink (first ++ (middle ++ last))

section Bodies

variable {i j : Input} {source sink : Option String} {apps : List AppTerm} {text rest : List Char}

theorem AppTerm.Written.unnamed {a : AppTerm} {e : Ending} (h : a.Written .stream e text)
    (hfinal : e.Final .stream rest) (hequals : Stops (· == '=') (rest.dropWhile isBlank)) :
    Unnamed (text ++ rest) := by
  rw [Unnamed]
  cases h with
  | plain hname hoptions =>
    have hstops := (hoptions.closed hfinal.closed hfinal.mark).1
    rw [List.append_assoc, List.dropWhile_append_of_pos hname.2, dropWhile_of_stops hstops]
    cases hoptions with
    | nil => exact hequals
    | cons hgap hne hname hvalue hmore =>
      rw [List.append_assoc]
      exact hgap.stops_dropWhile (by decide) (by decide)
  | labelled hlabel hname hoptions =>
    have hcolon : ∀ more : List Char,
        (':' :: more).dropWhile isNameChar = ':' :: more := fun more =>
      dropWhile_of_stops (stops_cons.mpr (by decide))
    rw [List.append_assoc, List.dropWhile_append_of_pos hlabel.2, List.append_assoc,
      List.cons_append, hcolon, dropWhile_of_stops (stops_cons.mpr (by decide))]
    exact stops_cons.mpr (by decide)

theorem PipelineWritten.unnamed {e : Ending} (h : PipelineWritten apps e text)
    (hfinal : e.Final .stream rest) (hequals : Stops (· == '=') (rest.dropWhile isBlank)) :
    Unnamed (text ++ rest) := by
  cases h with
  | last h => exact h.unnamed hfinal hequals
  | @pipe a e last text gap after more apps h hgap hafter hmore =>
    rw [List.append_assoc]
    refine h.unnamed ?_ ?_
    · rw [List.append_assoc]
      exact e.final_mark hgap (by decide) (by decide) (by decide) fun _ _ => by decide
    · rw [List.append_assoc]
      exact hgap.stops_dropWhile (by decide) (by decide)

theorem unnamed_colon (rest : List Char) : Unnamed (':' :: rest) := by
  rw [Unnamed, dropWhile_of_stops (stops_cons.mpr (by decide)),
    dropWhile_of_stops (stops_cons.mpr (by decide))]
  exact stops_cons.mpr (by decide)

/-- A body starts with a colon or a character of names, and no equals sign follows its first
word. -/
theorem BodyWritten.starts (h : BodyWritten source apps sink text) (hrest : IsBlanks rest) :
    text ≠ [] ∧ Stops isBlank (text ++ rest) ∧ Unnamed (text ++ rest) := by
  have hcolon : ∀ more : List Char, ':' :: more ≠ [] ∧ Stops isBlank (':' :: more ++ rest) ∧
      Unnamed (':' :: more ++ rest) := fun more =>
    ⟨List.cons_ne_nil _ _, stops_cons.mpr (by decide), unnamed_colon _⟩
  cases h with
  | bridge hsource hsink =>
    cases hsource
    exact hcolon _
  | @pipeline _ _ _ e first middle last hsource happs hsink =>
    cases hsource with
    | present => exact hcolon _
    | absent =>
      obtain ⟨hfinal, hnext⟩ := hsink.final hrest
      have hequals : Stops (· == '=') ((last ++ rest).dropWhile isBlank) := fun c hc =>
        (Bool.or_eq_false_iff.mp (hnext c hc)).2
      rw [List.nil_append, List.append_assoc]
      refine ⟨?_, happs.stops fun _ => isBlank_of_isNameChar, happs.unnamed hfinal hequals⟩
      exact fun hnil => happs.ne_nil (List.append_eq_nil_iff.mp hnil).1

theorem readFlow_bridge {q destination : Destination} (hstart : i.startsWith [':'] = true)
    (h : readDestination i = .ok (q, j)) :
    readFlow (some destination) i = .ok (([], some q), j) := by
  rw [readFlow, hstart, Option.isSome_some, Bool.and_self, if_pos rfl, h]

theorem readFlow_pipeline {k : Input} {destination destination' : Option Destination}
    {nodes : List App} (hstart : i.startsWith [':'] = false)
    (happs : readPipeline i = .ok (nodes, j)) (hsink : readSink j = .ok (destination', k)) :
    readFlow destination i = .ok ((nodes, destination'), k) := by
  rw [readFlow, hstart, Bool.and_false, if_neg (by simp), happs]
  simp only [hsink]

theorem expectNothing_of_rest (h : i.skipBlanks.rest = []) : expectNothing i = .ok () := by
  rw [expectNothing, h]

theorem rest_of_expectNothing (h : expectNothing i = .ok ()) : i.skipBlanks.rest = [] := by
  rw [expectNothing] at h
  split at h
  · next hrest => exact hrest
  · cases h

theorem readStreamBody_of_parts {k : Input} {name : Option DeclaredName}
    {destination destination' : Option Destination} {nodes : List App} (hne : i.rest ≠ [])
    (hsource : readSource i = .ok (destination, j))
    (hflow : readFlow destination j = .ok ((nodes, destination'), k))
    (hend : k.skipBlanks.rest = []) :
    ∃ s, readStreamBody name i = .ok s ∧
      s.term = ⟨name.map (·.text), destination.map (·.name), nodes.map App.term,
        destination'.map (·.name)⟩ := by
  simp only [readStreamBody, hsource, hflow, expectNothing_of_rest hend]
  rw [if_neg (by simpa using hne)]
  exact ⟨_, rfl, rfl⟩

/-- A text that writes the body of a stream is read as that body. -/
theorem readStreamBody_of_written (name : Option DeclaredName)
    (h : BodyWritten source apps sink text) (hpass : i.Passes text j) (hj : IsBlanks j.rest) :
    ∃ s, readStreamBody name i = .ok s ∧ s.term = ⟨name.map (·.text), source, apps, sink⟩ := by
  have hne : i.rest ≠ [] := by
    rw [hpass.rest]
    exact fun hnil => (h.starts isBlanks_nil).1 (List.append_eq_nil_iff.mp hnil).1
  cases h with
  | @bridge source sink text hsource hsink =>
    obtain ⟨k, hfirst, hpass⟩ := hpass.split
    have hcolon : k.rest = ':' :: (sink.toList ++ j.rest) := hpass.rest
    obtain ⟨destination, hread, hname⟩ := readSource_of_written hsource hfirst
      (by rw [hcolon]; exact stops_cons.mpr (by decide)) (by simp)
    obtain ⟨d, rfl, -⟩ := Option.map_eq_some_iff.mp hname
    obtain ⟨q, hq, hqname⟩ :=
      readDestination_of_written hsink hpass (hj.stops fun _ => isDottedChar_of_isBlank)
    have hstart : k.startsWith [':'] = true := by
      rw [startsWith, hcolon]
      rfl
    obtain ⟨s, hs, hterm⟩ := readStreamBody_of_parts hne hread (readFlow_bridge hstart hq)
      hj.dropWhile_eq_nil
    refine ⟨s, hs, ?_⟩
    rw [hterm, hname, Option.map_some, hqname, List.map_nil]
  | @pipeline _ _ _ e first middle last hsource happs hsink =>
    obtain ⟨k, hfirst, hpass⟩ := hpass.split
    obtain ⟨l, hmiddle, hlast⟩ := hpass.split
    have hstops : Stops (· == ':') k.rest := by
      rw [hmiddle.rest]
      refine happs.stops fun c hc => ?_
      rw [beq_eq_false_iff_ne]
      rintro rfl
      exact absurd hc (by decide)
    obtain ⟨hfinal, hnext⟩ := hsink.final hj
    rw [← hlast.rest] at hfinal hnext
    have hpipe : Stops (· == '|') l.skipBlanks.rest := fun c hc =>
      (Bool.or_eq_false_iff.mp (hnext c hc)).1
    obtain ⟨destination, hread, hname⟩ := readSource_of_written hsource hfirst
      (by rw [hmiddle.rest]; exact happs.stops fun _ => isBlank_of_isNameChar) fun _ => hstops
    obtain ⟨nodes, hnodes, hterms⟩ := readPipeline_of_written happs hmiddle hfinal hpipe
    obtain ⟨destination', m, hread', hend, hname'⟩ := readSink_of_written hsink hlast hj
    obtain ⟨s, hs, hterm⟩ := readStreamBody_of_parts hne hread
      (readFlow_pipeline (startsWith_of_stops hstops) hnodes hread') hend
    exact ⟨s, hs, by rw [hterm, hname, hterms, hname']⟩

theorem isBlanks_of_skipBlanks (h : i.skipBlanks.rest = []) : IsBlanks i.rest := by
  rw [(passes_skipBlanks i).rest, h, List.append_nil]
  exact isBlanks_word i

/-- What is read as a source and what follows it is a text that writes the body of a stream, up to
blanks. -/
theorem written_of_readFlow {k : Input} {destination destination' : Option Destination}
    {nodes : List App} (hsource : readSource i = .ok (destination, j))
    (hflow : readFlow destination j = .ok ((nodes, destination'), k)) :
    ∃ text l,
      BodyWritten (destination.map (·.name)) (nodes.map App.term) (destination'.map (·.name)) text ∧
      i.Passes text l ∧ l.skipBlanks = k.skipBlanks := by
  obtain ⟨first, hfirst, hpass⟩ := written_of_readSource hsource
  simp only [readFlow] at hflow
  split at hflow
  · next hbridge =>
    obtain ⟨d, hd⟩ := Option.isSome_iff_exists.mp (Bool.and_eq_true_iff.mp hbridge).1
    subst hd
    split at hflow
    · cases hflow
    · next q l hq =>
      cases hflow
      obtain ⟨hsink, hpass'⟩ := written_of_readDestination hq
      exact ⟨_, k, .bridge hfirst hsink, hpass.trans hpass', rfl⟩
  · split at hflow
    · cases hflow
    · next nodes l hl =>
      split at hflow
      · cases hflow
      · next destination' m hm =>
        cases hflow
        obtain ⟨e, middle, n, happs, hmiddle, hclosed, rfl⟩ := written_of_readPipeline hl
        obtain ⟨last, o, hsink, hlast, heq⟩ := written_of_readSink hclosed hm
        exact ⟨_, o, .pipeline hfirst happs hsink, hpass.trans (hmiddle.trans hlast), heq⟩

/-- What is read as the body of a stream is a text that writes it, and blanks. -/
theorem written_of_readStreamBody {name : Option DeclaredName} {s : StreamDefinition}
    (h : readStreamBody name i = .ok s) :
    s.name = name ∧ ∃ text k, BodyWritten s.term.source s.term.apps s.term.sink text ∧
      i.Passes text k ∧ IsBlanks k.rest := by
  simp only [readStreamBody] at h
  split at h
  · cases h
  · split at h
    · cases h
    · next destination j hj =>
      split at h
      · cases h
      · next nodes destination' k hk =>
        split at h
        · cases h
        · next hend =>
          cases h
          obtain ⟨text, l, hbody, hpass, heq⟩ := written_of_readFlow hj hk
          refine ⟨rfl, text, l, hbody, hpass, isBlanks_of_skipBlanks ?_⟩
          rw [heq, rest_of_expectNothing hend]

end Bodies

/-! ## Streams -/

/-- The texts that write a stream: its name and its body, with blanks around them. -/
def StreamTerm.Written (t : StreamTerm) (text : List Char) : Prop :=
  ∃ lead name body trail, IsBlanks lead ∧ NameWritten t.name name ∧
    BodyWritten t.source t.apps t.sink body ∧ IsBlanks trail ∧
    text = lead ++ (name ++ (body ++ trail))

theorem NameWritten.stops {name : Option String} {text rest : List Char} (h : NameWritten name text)
    (hrest : Stops isBlank rest) : Stops isBlank (text ++ rest) := by
  cases h with
  | absent => exact hrest
  | present hname hgap hafter =>
    rw [List.append_assoc]
    exact hname.stops_append fun _ => isBlank_of_isNameChar

theorem StreamTerm.Written.parse {t : StreamTerm} {text : List Char} (h : t.Written text) :
    ∃ s, StreamDefinition.parse text = .ok s ∧ s.term = t := by
  obtain ⟨lead, name, body, trail, hlead, hname, hbody, htrail, rfl⟩ := h
  obtain ⟨i, hblanks, hpass⟩ := (passes_ofText (lead ++ (name ++ (body ++ trail)))).split
  obtain ⟨j, hdeclared, hpass⟩ := hpass.split
  obtain ⟨k, hmain, hpass⟩ := hpass.split
  have hk : IsBlanks k.rest := by
    rw [hpass.rest, List.append_nil]
    exact htrail
  obtain ⟨-, hblank, hunnamed⟩ := hbody.starts hk
  rw [← hmain.rest] at hblank hunnamed
  have hi : (ofText (lead ++ (name ++ (body ++ trail))) 0).skipBlanks = i := by
    refine skipBlanks_of_passes hblanks hlead ?_
    rw [hdeclared.rest]
    exact hname.stops hblank
  obtain ⟨declared, l, hread, hl, hdeclaredName⟩ :=
    readName_of_written hname hdeclared hblank fun _ => hunnamed
  obtain ⟨s, hs, hterm⟩ := readStreamBody_of_written declared hbody hmain hk
  refine ⟨s, ?_, ?_⟩
  · rw [StreamDefinition.parse, hi, hread, ← hs, ← hl]
  · rw [hterm, hdeclaredName]

theorem StreamDefinition.written_of_parse {s : StreamDefinition} {text : List Char}
    (h : StreamDefinition.parse text = .ok s) : s.term.Written text := by
  have hblanks := passes_skipBlanks (ofText text 0)
  rw [StreamDefinition.parse] at h
  cases hread : readName (ofText text 0).skipBlanks with
  | mk declared j =>
    rw [hread] at h
    obtain ⟨name, hname, hpass⟩ := written_of_readName hread (stops_skipBlanks _)
    obtain ⟨rfl, body, k, hbody, hpass', htrail⟩ := written_of_readStreamBody h
    refine ⟨_, name, body, k.rest, isBlanks_word (ofText text 0), hname, hbody, htrail, ?_⟩
    have hall := (hblanks.trans (hpass.trans hpass')).rest
    rw [(passes_ofText text).rest, List.append_nil] at hall
    simpa only [List.append_assoc] using hall

/-- **The language of streams.** A text writes a stream just if it is read as a stream, and then it
is read as the one it writes. -/
theorem StreamTerm.written_iff_parse (t : StreamTerm) (text : List Char) :
    t.Written text ↔ ∃ s, StreamDefinition.parse text = .ok s ∧ s.term = t := by
  constructor
  · exact StreamTerm.Written.parse
  · rintro ⟨s, hparse, rfl⟩
    exact StreamDefinition.written_of_parse hparse

/-- A bare value may hold the mark before a sink, and a quoted one may be followed by the next
option. -/
example :
    (StreamDefinition.parse "s =:in>a:f --x='it''s'--y=> | log --z=1 >:out.q".toList).toOption.map
        StreamDefinition.term =
      some ⟨some "s", some "in", [⟨some "a", "f", [("x", "it's"), ("y", ">")]⟩,
        ⟨none, "log", [("z", "1")]⟩], some "out.q"⟩ := by
  decide +kernel

end Flowline
