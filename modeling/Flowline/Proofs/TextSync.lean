import Flowline.Proofs.Freshness
import Flowline.Session.Basic

/-!
# The text that a session holds

An editor tells a session of every document that it opens, changes or closes. Each change is a whole
new text, so of the changes that come together the last one is what the editor shows. The session
takes the first one. So the two have the same text after every message just if of all changes that
came together the first and the last one are the same, as when there is only one.

* `Message.edit`, `shown`: what the editor shows;
* `Message.leaves?`, `shown_eq`: this is what the last notification about a document leaves;
* `Session.held`, `Session.held_handle`: what a session holds, and what one message makes of it;
* `Session.after`, `Session.held_after`: a run of messages;
* `held_eq_shown_iff`: when a session holds what the editor shows.
-/

namespace Flowline

/-! ## What the editor shows -/

/-- A text and its version. -/
structure Buffer where
  text : String
  version : Int
  deriving DecidableEq, Repr

namespace Message

/-- What the editor shows under a uri once it has sent a message: the changes are made one after the
other. -/
def edit (uri : String) (buffer : Option Buffer) : Message → Option Buffer
  | didOpen url _ text version => if url.render = uri then some ⟨text, version⟩ else buffer
  | didChange url version changes =>
    if url.render = uri then changes.foldl (fun _ text => some ⟨text, version⟩) buffer else buffer
  | didClose url => if url.render = uri then none else buffer
  | _ => buffer

/-- What a notification about a uri leaves there, if of the changes that come together only the one
that `pick` gives counts. A message that is not about the uri, or has no change, leaves nothing. -/
def leaves? (pick : List String → Option String) (uri : String) : Message → Option (Option Buffer)
  | didOpen url _ text version => if url.render = uri then some (some ⟨text, version⟩) else none
  | didChange url version changes =>
    if url.render = uri then (pick changes).map fun text => some ⟨text, version⟩ else none
  | didClose url => if url.render = uri then some none else none
  | _ => none

/-- Of changes that come together, the first and the last one are the same. -/
def ChangesOnce : Message → Prop
  | didChange _ _ changes => changes.head? = changes.getLast?
  | _ => True

instance (m : Message) : Decidable m.ChangesOnce :=
  match m with
  | didChange _ _ changes => inferInstanceAs (Decidable (changes.head? = changes.getLast?))
  | didOpen .. | didClose _ | environment _ | action _ | documentSymbol _ | workspaceSymbol _
  | codeLens _ | foldingRange _ | completion .. | prepareRename .. | rename .. | shutdown =>
    .isTrue trivial

end Message

/-- What the editor shows under a uri after some messages. -/
def shown (uri : String) (messages : List Message) : Option Buffer :=
  messages.foldl (Message.edit uri) none

/-- What the last notification about a uri leaves there. -/
def lastLeft (pick : List String → Option String) (uri : String) (messages : List Message) :
    Option Buffer :=
  (messages.filterMap (Message.leaves? pick uri)).getLast?.getD none

section Shown

variable {uri : String}

theorem foldl_changes (version : Int) (changes : List String) (buffer : Option Buffer) :
    changes.foldl (fun _ text => some ⟨text, version⟩) buffer =
      (changes.getLast?.map fun text => some (Buffer.mk text version)).getD buffer := by
  induction changes using List.reverseRecOn with
  | nil => rfl
  | append_singleton changes text ih => simp

theorem Message.edit_eq (m : Message) (buffer : Option Buffer) :
    m.edit uri buffer = (m.leaves? List.getLast? uri).getD buffer := by
  cases m with
  | didOpen url languageId text version =>
    simp only [edit, leaves?]
    split <;> rfl
  | didChange url version changes =>
    simp only [edit, leaves?]
    split
    · exact foldl_changes version changes buffer
    · rfl
  | didClose url =>
    simp only [edit, leaves?]
    split <;> rfl
  | _ => rfl

/-- Going through the messages, what is there in the end is what the last one that matters has
left. -/
theorem foldl_leaves (pick : List String → Option String) (messages : List Message)
    (buffer : Option Buffer) :
    messages.foldl (fun buffer m => (m.leaves? pick uri).getD buffer) buffer =
      (messages.filterMap (Message.leaves? pick uri)).getLast?.getD buffer := by
  induction messages generalizing buffer with
  | nil => rfl
  | cons m messages ih =>
    rw [List.foldl_cons, ih, List.filterMap_cons]
    cases m.leaves? pick uri with
    | none => rfl
    | some left =>
      simp only [Option.getD_some, List.getLast?_cons]

theorem shown_eq (messages : List Message) :
    shown uri messages = lastLeft List.getLast? uri messages := by
  have hedit : Message.edit uri = fun buffer m => (m.leaves? List.getLast? uri).getD buffer := by
    funext buffer m
    exact m.edit_eq buffer
  rw [shown, hedit, foldl_leaves, lastLeft]

end Shown

/-! ## What a session holds -/

namespace Workspace

variable (w : Workspace) (clock : Clock) (uri : String)

theorem documents_items : (w.items clock uri).2.documents = w.documents := by
  cases h : w.definitions? uri with
  | none => rw [items_of_none clock h]
  | some found => exact (items_of_some clock h).2.1

theorem documents_symbols : (w.symbols clock uri).2.documents = w.documents := by
  rw [symbols]
  split
  · rfl
  · rfl
  · exact documents_items w clock uri

end Workspace

namespace Session

variable (client : Option Client) (clock : Clock) (s : Session)

theorem documents_publish (uri : String) :
    (s.publish client clock uri).1.workspace.documents = s.workspace.documents := by
  rw [publish]
  split
  · rfl
  · exact Workspace.documents_items s.workspace clock uri

/-- Going through a list leaves the documents as they are if each step does. -/
theorem documents_foldl {β γ : Type} {f : Session × β → γ → Session × β}
    (hf : ∀ s b c, (f (s, b) c).1.workspace.documents = s.workspace.documents)
    (cs : List γ) (b : β) :
    (cs.foldl f (s, b)).1.workspace.documents = s.workspace.documents := by
  induction cs generalizing s b with
  | nil => rfl
  | cons c cs ih =>
    rw [List.foldl_cons]
    exact (ih (f (s, b) c).1 (f (s, b) c).2).trans (hf s b c)

theorem documents_publishAll (uris : List String) :
    (s.publishAll client clock uris).1.workspace.documents = s.workspace.documents :=
  documents_foldl s (fun s _ uri => documents_publish client clock s uri) uris _

theorem documents_workspaceSymbol (query : String) :
    (s.workspaceSymbol clock query).1.workspace.documents = s.workspace.documents :=
  documents_foldl s (fun s _ uri => Workspace.documents_symbols s.workspace clock uri)
    s.workspace.uris _

theorem documents_withSymbols (url : Url) (answer : SymbolTable → Answer) :
    (s.withSymbols clock url answer).1.workspace.documents = s.workspace.documents :=
  Workspace.documents_symbols s.workspace clock url.render

theorem documents_withItems (url : Url) (answer : List Item → Answer) :
    (s.withItems clock url answer).1.workspace.documents = s.workspace.documents :=
  Workspace.documents_items s.workspace clock url.render

theorem documents_codeLens (url : Url) :
    (s.codeLens clock url).1.workspace.documents = s.workspace.documents := by
  rw [codeLens]
  split
  · exact documents_withItems clock s url _
  · exact documents_withItems clock s url _
  · rfl
  · exact documents_withItems clock s url _
  · rfl

theorem documents_completion (url : Url) (p : Position) :
    (s.completion client clock url p).1.workspace.documents = s.workspace.documents := by
  simp only [completion]
  split
  · split
    · exact Workspace.documents_items s.workspace clock url.render
    · exact Workspace.documents_items s.workspace clock url.render
  · rfl

/-- The text and the version that are held under a uri. -/
def held (s : Session) (uri : String) : Option Buffer :=
  (s.workspace.find? uri).map fun d => ⟨d.document.text, d.document.version⟩

variable {s}

theorem held_congr {t : Session} (h : t.workspace.documents = s.workspace.documents)
    (uri : String) :
    t.held uri = s.held uri := by
  rw [held, held, Workspace.find?, Workspace.find?, h]

/-- Putting a document under its uri changes what is held there, and nothing else. -/
theorem held_insert {t : Session} {d : OpenDocument} {place : String}
    (h : t.workspace.documents = insertDocument place d s.workspace.documents) (uri : String) :
    t.held uri =
      if place = uri then some ⟨d.document.text, d.document.version⟩ else s.held uri := by
  rw [held, Workspace.find?, h, lookup_insertDocument]
  by_cases huri : place = uri
  · rw [if_pos huri.symm, if_pos huri]
    rfl
  · rw [if_neg (Ne.symm huri), if_neg huri]
    rfl

/-- A message leaves under a uri what the first of its changes says. -/
theorem held_handle (s : Session) (m : Message) (uri : String) :
    (s.handle client clock m).1.held uri = (m.leaves? List.head? uri).getD (s.held uri) := by
  cases m with
  | didOpen url languageId text version =>
    have hdocuments := documents_publish client clock
      { s with workspace := s.workspace.update url languageId text version } url.render
    rw [handle, didOpen, held_insert hdocuments]
    simp only [Message.leaves?]
    split <;> rfl
  | didChange url version changes =>
    cases changes with
    | nil =>
      simp only [Message.leaves?]
      split <;> rfl
    | cons text more =>
      have hdocuments := documents_publish client clock
        { s with workspace := (s.workspace.change url text version).evict clock.now } url.render
      rw [handle, didChange, held_insert hdocuments]
      simp only [Message.leaves?]
      cases s.workspace.find? url.render <;> split <;> rfl
  | didClose url =>
    simp only [handle, didClose, held, Workspace.find?, Workspace.remove, lookup_filter_ne,
      Message.leaves?]
    by_cases huri : url.render = uri
    · rw [if_pos huri.symm, if_pos huri]
      rfl
    · rw [if_neg (Ne.symm huri), if_neg huri]
      rfl
  | environment environments => exact held_congr (documents_publishAll client clock _ _) uri
  | action a => rfl
  | documentSymbol url => exact held_congr (documents_withSymbols clock s url _) uri
  | workspaceSymbol query => exact held_congr (documents_workspaceSymbol clock s query) uri
  | codeLens url => exact held_congr (documents_codeLens clock s url) uri
  | foldingRange url => exact held_congr (documents_withItems clock s url _) uri
  | completion url p => exact held_congr (documents_completion client clock s url p) uri
  | prepareRename url p => exact held_congr (documents_withSymbols clock s url _) uri
  | rename url p newName => exact held_congr (documents_withSymbols clock s url _) uri
  | shutdown => rfl

/-- The session after messages one after the other, each with its time. -/
def after (client : Option Client) (s : Session) (messages : List (Clock × Message)) : Session :=
  messages.foldl (fun s (clock, m) => (s.handle client clock m).1) s

/-- The run: what is held is what the last message that matters has left. -/
theorem held_after (s : Session) (messages : List (Clock × Message)) (uri : String) :
    (s.after client messages).held uri =
      (((messages.map (·.2)).filterMap (Message.leaves? List.head? uri)).getLast?).getD
        (s.held uri) := by
  rw [← foldl_leaves]
  induction messages generalizing s with
  | nil => rfl
  | cons timed messages ih =>
    obtain ⟨clock, m⟩ := timed
    rw [List.map_cons, List.foldl_cons, ← held_handle client clock s m uri]
    exact ih (s.handle client clock m).1

theorem held_after_ofSettings (settings : Settings) (messages : List (Clock × Message))
    (uri : String) :
    ((ofSettings settings).after client messages).held uri =
      lastLeft List.head? uri (messages.map (·.2)) :=
  held_after client (ofSettings settings) messages uri

end Session

/-! ## The two compared -/

section Compared

variable {m : Message} {uri : String}

theorem lastLeft_concat (pick : List String → Option String) (messages : List Message) :
    lastLeft pick uri (messages ++ [m]) =
      (m.leaves? pick uri).getD (lastLeft pick uri messages) := by
  rw [lastLeft, List.filterMap_append]
  cases h : m.leaves? pick uri with
  | none => simp [lastLeft, h]
  | some left => simp [h]

theorem Message.ChangesOnce.leaves?_eq (h : m.ChangesOnce) :
    m.leaves? List.head? uri = m.leaves? List.getLast? uri := by
  cases m with
  | didChange url version changes =>
    have hsame : changes.head? = changes.getLast? := h
    simp only [Message.leaves?, hsame]
  | _ => rfl

/-- Where the first and the last change leave the same, they are the same. -/
theorem Message.changesOnce_of_leaves? {before before' : String → Option Buffer}
    (h : ∀ uri, (m.leaves? List.head? uri).getD (before uri) =
      (m.leaves? List.getLast? uri).getD (before' uri)) : m.ChangesOnce := by
  cases m with
  | didChange url version changes =>
    have hleft := h url.render
    simp only [Message.leaves?, if_true] at hleft
    show changes.head? = changes.getLast?
    cases changes with
    | nil => rfl
    | cons first more =>
      rw [List.head?_cons, List.getLast?_cons, Option.map_some, Option.map_some, Option.getD_some,
        Option.getD_some, Option.some.injEq, Buffer.mk.injEq] at hleft
      rw [List.head?_cons, List.getLast?_cons, ← hleft.1]
  | _ => trivial

end Compared

/-- **When a session holds what the editor shows.** What the editor shows is what the last change of
the last notification about a document says, and what the session holds is what the first change of
that notification says. So after each of the messages, whatever else they ask, the session holds for
every document the text and the version that the editor shows if and only if of all changes that
came together the first and the last one are the same. -/
theorem held_eq_shown_iff (client : Option Client) (settings : Settings)
    (messages : List (Clock × Message)) :
    (∀ uri, shown uri (messages.map (·.2)) = lastLeft List.getLast? uri (messages.map (·.2))) ∧
    (∀ uri, ((Session.ofSettings settings).after client messages).held uri =
      lastLeft List.head? uri (messages.map (·.2))) ∧
    ((∀ n uri, ((Session.ofSettings settings).after client (messages.take n)).held uri =
        shown uri ((messages.take n).map (·.2))) ↔
      ∀ m ∈ messages, m.2.ChangesOnce) := by
  refine ⟨fun uri => shown_eq _,
    fun uri => Session.held_after_ofSettings client settings messages uri, ?_⟩
  constructor
  · intro h m hm
    -- the message makes the step from the messages before it to those up to it
    obtain ⟨n, hn, rfl⟩ := List.getElem_of_mem hm
    have htake : (messages.take (n + 1)).map (·.2) =
        (messages.take n).map (·.2) ++ [messages[n].2] := by
      rw [List.take_add_one, List.getElem?_eq_getElem hn, List.map_append]
      rfl
    have hnext : ∀ uri, (messages[n].2.leaves? List.head? uri).getD
          (lastLeft List.head? uri ((messages.take n).map (·.2))) =
        (messages[n].2.leaves? List.getLast? uri).getD
          (lastLeft List.getLast? uri ((messages.take n).map (·.2))) := by
      intro uri
      rw [← lastLeft_concat, ← lastLeft_concat, ← htake, ← shown_eq,
        ← Session.held_after_ofSettings client settings]
      exact h (n + 1) uri
    exact Message.changesOnce_of_leaves? hnext
  · intro h n uri
    rw [Session.held_after_ofSettings, shown_eq, lastLeft, lastLeft]
    have hleft : ((messages.take n).map (·.2)).filterMap (Message.leaves? List.head? uri) =
        ((messages.take n).map (·.2)).filterMap (Message.leaves? List.getLast? uri) := by
      refine List.filterMap_congr fun m hm => ?_
      obtain ⟨timed, htimed, rfl⟩ := List.mem_map.mp hm
      exact (h timed (List.mem_of_mem_take htimed)).leaves?_eq
    rw [hleft]

/-- The url of a document with streams. -/
def streamsUrl : Url :=
  ⟨"file", some ⟨"", "", "", none⟩, .segments ["streams.scdfs"], none, none⟩

/-- A document is opened, changed, closed, and changed again without being opened. -/
def reopenedStreams : List (Clock × Message) :=
  [(⟨0, 3⟩, .didOpen streamsUrl "scdfs" "a = time | log" 1),
    (⟨10, 12⟩, .didChange streamsUrl 2 ["b = time | log"]), (⟨20, 20⟩, .didChange streamsUrl 3 []),
    (⟨30, 30⟩, .didClose streamsUrl), (⟨40, 41⟩, .didChange streamsUrl 4 ["c = time | log"])]

/-- With one change at a time, the session follows the editor. -/
theorem reopenedStreams_held :
    (((Session.ofSettings Settings.default).after none (reopenedStreams.take 3)).held
      "file:///streams.scdfs" =
        some ⟨"b = time | log", 2⟩ ∧
      ((Session.ofSettings Settings.default).after none (reopenedStreams.take 4)).held
        "file:///streams.scdfs" =
        none) ∧
    ((Session.ofSettings Settings.default).after none (reopenedStreams.take 5)).held
      "file:///streams.scdfs" =
      some ⟨"c = time | log", 4⟩ := by
  have hheld := ((held_eq_shown_iff none Settings.default reopenedStreams).2.2.mpr (by decide))
  rw [hheld, hheld, hheld]
  decide +kernel

/-- Two changes come together. -/
def changedTwice : List (Clock × Message) :=
  [(⟨0, 3⟩, .didOpen streamsUrl "scdfs" "a = time | log" 1),
    (⟨10, 12⟩, .didChange streamsUrl 2 ["b = time | log", "c = time | log"])]

/-- The session holds the first change, with the version of the last one, which the editor shows. -/
theorem changedTwice_held_ne_shown :
    ((Session.ofSettings Settings.default).after none changedTwice).held "file:///streams.scdfs" =
      some ⟨"b = time | log", 2⟩ ∧
    shown "file:///streams.scdfs" (changedTwice.map (·.2)) = some ⟨"c = time | log", 2⟩ := by
  decide +kernel

end Flowline
