import Flowline.Proofs.LensEnvironment

/-!
# What a lens hands to its command

A lens carries the parameters of its command as an array, and the command reads them back by their
places. The array may be that of another command: above a definition the name and the environment
are all that is known, and the rest of what a command takes is left to its defaults. A document that
shows a deployed stream is not the place where the stream is defined; what its lenses name comes
from the uri of the document.

* `RoundTrips`, `RoundTrips.of_array`: what is written, as an object or as an array, is read back;
* `CommandParameters`, `Lens.offer?`: what the command of a lens reads from it;
* `Item.offers`, `ManifestEntry.offers`, `Item.deployedOffers`: what there is to hand over;
* `Url.ShowsStream`, `runtimeTarget_eq_ok_iff`: the urls of deployed streams;
* `lenses_hand_over`: every lens hands over what it was made for.
-/

namespace Flowline

open Json

/-! ## Reading back what is written -/

/-- Values that are written as an object or as an array are read back from both. -/
structure RoundTrips {α : Type} (encode : α → Json) (positional : α → List Json)
    (decode : Json → Option α) : Prop where
  object : ∀ p, decode (encode p) = some p
  array : ∀ p, decode (.arr (positional p)) = some p

section Values

theorem mapM_asString (values : List String) :
    (values.map Json.str).mapM asString = some values := by
  induction values with
  | nil => rfl
  | cons value values ih =>
    rw [List.map_cons, List.mapM_cons, ih]
    rfl

theorem mapM_memberOf (entries : List (String × String)) :
    (entries.map fun (key, value) => (key, Json.str value)).mapM (memberOf asString) =
      some entries := by
  induction entries with
  | nil => rfl
  | cons entry entries ih =>
    rw [List.map_cons, List.mapM_cons, ih]
    rfl

theorem asProperties_ofProperties (p : Properties) : asProperties (ofProperties p) = some p := by
  rw [ofProperties, asProperties, mapM_memberOf, Option.map_some, Properties.ofList_entries]

theorem orNull_ofProperties (p : Option Properties) :
    orNull asProperties (ofOption ofProperties p) = some p := by
  cases p with
  | none => rfl
  | some p => exact congrArg (Option.map some) (asProperties_ofProperties p)

theorem asListOf_ofList (values : List String) :
    asListOf asString (.ofList .str values) = some values :=
  mapM_asString values

end Values

section Slots

variable {keys : List String} {values : List Json}

theorem lookup_zip_of_notMem {key : String} (h : key ∉ keys) (values : List Json) :
    lookup key (keys.zip values) = none := by
  induction keys generalizing values with
  | nil => rfl
  | cons first keys ih =>
    cases values with
    | nil => rfl
    | cons value values =>
      rw [List.mem_cons, not_or] at h
      rw [List.zip_cons_cons, lookup, ih h.2 values]
      exact if_neg (Ne.symm h.1)

/-- A member with another name changes nothing. -/
theorem memberSlot_cons_of_ne {members : List (String × Json)} {first key : String} {value : Json}
    (h : first ≠ key) : memberSlot ((first, value) :: members) key = memberSlot members key := by
  rw [memberSlot, memberSlot, lookup]
  cases lookup key members with
  | none => rw [if_neg h]
  | some later => rfl

theorem map_memberSlot_zip (hkeys : keys.Nodup) (hlength : values.length = keys.length) :
    keys.map (memberSlot (keys.zip values)) = values.map Slot.value := by
  induction keys generalizing values with
  | nil =>
    rw [List.length_eq_zero_iff.mp hlength]
    rfl
  | cons key keys ih =>
    cases values with
    | nil => cases hlength
    | cons value values =>
      rw [List.nodup_cons] at hkeys
      have hfirst : memberSlot ((key, value) :: keys.zip values) key = .value value := by
        rw [memberSlot, lookup, lookup_zip_of_notMem hkeys.1]
        simp only [if_pos]
      have hrest : keys.map (memberSlot ((key, value) :: keys.zip values)) =
          keys.map (memberSlot (keys.zip values)) := by
        refine List.map_congr_left fun other hother => memberSlot_cons_of_ne ?_
        rintro rfl
        exact hkeys.1 hother
      rw [List.zip_cons_cons, List.map_cons, List.map_cons, hfirst, hrest,
        ih hkeys.2 (Nat.succ.inj hlength)]

/-- An object with all fields of a record is read as the array of their values. -/
theorem slots_zip (hkeys : keys.Nodup) (hlength : values.length = keys.length) :
    slots keys (.obj (keys.zip values)) = slots keys (.arr values) := by
  rw [slots, slots, map_memberSlot_zip hkeys hlength, if_pos (Nat.le_of_eq hlength), hlength,
    Nat.sub_self, List.replicate_zero, List.append_nil]

/-- A record that is read from what is written for its fields, from an array of all of them, and
from the array that lenses carry. -/
theorem RoundTrips.of_array {α : Type} {encode : α → Json} {positional : α → List Json}
    {decode : Json → Option α} (keys : List String) (values : α → List Json) (hkeys : keys.Nodup)
    (hlength : ∀ p, (values p).length = keys.length)
    (hencode : ∀ p, encode p = .obj (keys.zip (values p)))
    (hdecode : ∀ json json', slots keys json = slots keys json' → decode json = decode json')
    (hvalues : ∀ p, decode (.arr (values p)) = some p)
    (harray : ∀ p, decode (.arr (positional p)) = some p) :
    RoundTrips encode positional decode := by
  refine ⟨fun p => ?_, harray⟩
  rw [hencode, hdecode _ _ (slots_zip hkeys (hlength p)), hvalues]

/-- A record whose array has all of its fields. -/
theorem RoundTrips.of_positional {α : Type} {encode : α → Json} {positional : α → List Json}
    {decode : Json → Option α} (keys : List String) (hkeys : keys.Nodup)
    (hlength : ∀ p, (positional p).length = keys.length)
    (hencode : ∀ p, encode p = .obj (keys.zip (positional p)))
    (hdecode : ∀ json json', slots keys json = slots keys json' → decode json = decode json')
    (harray : ∀ p, decode (.arr (positional p)) = some p) : RoundTrips encode positional decode :=
  .of_array keys positional hkeys hlength hencode hdecode harray harray

end Slots

/-! ## The parameters of commands -/

theorem StreamCreate.roundTrips : RoundTrips encode positional decode := by
  refine .of_positional ["name", "server", "description", "definition"] (by decide) (fun _ => rfl)
    (fun _ => rfl) (fun _ _ h => by rw [decode, decode, h]) fun p => ?_
  simp [decode, positional, slots, nullable, required, orNull_ofStringOption, asString]

theorem StreamDeploy.roundTrips : RoundTrips encode positional decode := by
  refine .of_array ["name", "server", "properties"]
    (fun p => [ofStringOption p.name, ofStringOption p.server, ofOption ofProperties p.properties])
    (by decide) (fun _ => rfl) (fun _ => rfl) (fun _ _ h => by rw [decode, decode, h]) ?_ ?_
  · intro p
    simp [decode, slots, nullable, nullableWithDefault, withDefault, orNull_ofStringOption,
      orNull_ofProperties]
  · rintro ⟨name, server, properties⟩
    -- without properties the array ends before them, and this is their default
    cases properties with
    | none =>
      simp [decode, positional, slots, nullable, nullableWithDefault, withDefault,
        orNull_ofStringOption]
    | some p =>
      have hp := orNull_ofProperties (some p)
      simp only [ofOption] at hp
      simp [decode, positional, slots, nullable, nullableWithDefault, withDefault,
        orNull_ofStringOption, hp]

theorem StreamName.roundTrips : RoundTrips encode positional decode := by
  refine .of_positional ["name", "server"] (by decide) (fun _ => rfl)
    (fun _ => rfl) (fun _ _ h => by rw [decode, decode, h]) fun p => ?_
  simp [decode, positional, slots, nullable, orNull_ofStringOption]

theorem TaskCreate.roundTrips : RoundTrips encode positional decode := by
  refine .of_positional ["name", "server", "description", "definition"] (by decide) (fun _ => rfl)
    (fun _ => rfl) (fun _ _ h => by rw [decode, decode, h]) fun p => ?_
  simp [decode, positional, slots, nullable, required, orNull_ofStringOption, asString]

theorem TaskLaunch.roundTrips : RoundTrips encode positional decode := by
  refine .of_positional ["name", "server", "properties", "arguments"] (by decide) (fun _ => rfl)
    (fun _ => rfl) (fun _ _ h => by rw [decode, decode, h]) fun p => ?_
  simp [decode, positional, slots, nullable, nullableWithDefault, withDefault,
    orNull_ofStringOption, asProperties_ofProperties, asListOf_ofList]

theorem TaskName.roundTrips : RoundTrips encode positional decode := by
  refine .of_positional ["name", "server"] (by decide) (fun _ => rfl)
    (fun _ => rfl) (fun _ _ h => by rw [decode, decode, h]) fun p => ?_
  simp [decode, positional, slots, nullable, orNull_ofStringOption]

theorem AppRegister.roundTrips : RoundTrips encode positional decode := by
  refine .of_positional ["appType", "name", "appUri", "metadataUri"] (by decide) (fun _ => rfl)
    (fun _ => rfl) (fun _ _ h => by rw [decode, decode, h]) fun p => ?_
  simp [decode, positional, slots, nullable, required, orNull_ofStringOption, asString]

theorem AppUnregister.roundTrips : RoundTrips encode positional decode := by
  refine .of_positional ["appType", "name", "version"] (by decide) (fun _ => rfl)
    (fun _ => rfl) (fun _ _ h => by rw [decode, decode, h]) fun p => ?_
  simp [decode, positional, slots, required, asString]

/-- The name and the environment of a stream are enough to deploy it. -/
theorem StreamDeploy.decode_target (t : StreamName) :
    decode (.arr t.positional) = some ⟨t.name, t.server, none⟩ :=
  StreamDeploy.roundTrips.array ⟨t.name, t.server, none⟩

/-- The name and the environment of a task are enough to launch it. -/
theorem TaskLaunch.decode_target (t : TaskName) :
    decode (.arr t.positional) = some ⟨t.name, t.server, Properties.empty, []⟩ := by
  simp [decode, TaskName.positional, slots, nullable, nullableWithDefault, withDefault,
    orNull_ofStringOption]

/-! ## Lenses -/

/-- The commands with what they take. -/
inductive CommandParameters where
  | createStream (p : StreamCreate)
  | deployStream (p : StreamDeploy)
  | undeployStream (p : StreamName)
  | destroyStream (p : StreamName)
  | createTask (p : TaskCreate)
  | launchTask (p : TaskLaunch)
  | destroyTask (p : TaskName)
  | registerApp (p : AppRegister)
  | unregisterApp (p : AppUnregister)
  deriving DecidableEq

/-- What a command reads. -/
def LensCommand.decode (json : Json) : LensCommand → Option CommandParameters
  | createStream => (StreamCreate.decode json).map .createStream
  | deployStream => (StreamDeploy.decode json).map .deployStream
  | undeployStream => (StreamName.decode json).map .undeployStream
  | destroyStream => (StreamName.decode json).map .destroyStream
  | createTask => (TaskCreate.decode json).map .createTask
  | launchTask => (TaskLaunch.decode json).map .launchTask
  | destroyTask => (TaskName.decode json).map .destroyTask
  | registerApp => (AppRegister.decode json).map .registerApp
  | unregisterApp => (AppUnregister.decode json).map .unregisterApp

/-- What the command of a lens reads from the arguments of the lens, and where the lens stands. -/
def Lens.offer? (l : Lens) : Option (Range × CommandParameters) :=
  (l.command.decode (.arr l.arguments)).map fun p => (l.range, p)

namespace Item

/-- What is handed over above a deployment: its properties and arguments, with the name of the item
and the environment of the deployment or, failing that, of the item. -/
def deploymentOffer (i : Item) (b : Deployment) : Dialect → CommandParameters
  | .stream => .deployStream ⟨i.definitionName, b.envName.or i.envName, some b.propertyMap⟩
  | .task => .launchTask ⟨i.definitionName, b.envName.or i.envName, b.propertyMap, b.argumentValues⟩

/-- What is handed over above a definition: the name and the environment of the item, and its
description and its text to create it. -/
def definitionOffers (i : Item) (p : Parsed) : Dialect → List CommandParameters
  | .stream =>
    [.createStream ⟨i.definitionName, i.envName, i.description, p.definition.body⟩,
      .destroyStream ⟨i.definitionName, i.envName⟩,
      .deployStream ⟨i.definitionName, i.envName, none⟩,
      .undeployStream ⟨i.definitionName, i.envName⟩]
  | .task =>
    [.createTask ⟨i.definitionName, i.envName, i.description, p.definition.body⟩,
      .destroyTask ⟨i.definitionName, i.envName⟩,
      .launchTask ⟨i.definitionName, i.envName, Properties.empty, []⟩]

/-- Something to hand over above the definition line of an item, if that was read. -/
def aboveDefinition (offers : Parsed → List CommandParameters) (i : Item) :
    List (Range × CommandParameters) :=
  match i.parsed, i.definitionRange with
  | some p, some range => (offers p).map fun offer => (range, offer)
  | _, _ => []

/-- What is handed over above the lines of an item. -/
def offers (d : Dialect) (i : Item) : List (Range × CommandParameters) :=
  i.deployments.map (fun b => (b.startLineRange, i.deploymentOffer b d)) ++
    i.aboveDefinition fun p => i.definitionOffers p d

/-- What is handed over above the definition of a stream that is deployed as the uri of its document
says. -/
def deployedOffers (target : StreamName) (i : Item) : List (Range × CommandParameters) :=
  i.aboveDefinition fun _ =>
    [.deployStream ⟨target.name, target.server, none⟩, .undeployStream target]

end Item

/-- What is handed over above an app: its uris, or its version. -/
def ManifestEntry.offers (e : ManifestEntry) : List (Range × CommandParameters) :=
  match e.mainLink with
  | none => []
  | some link =>
    [(link.keyRange, .registerApp ⟨e.appType, e.name, e.app.map (·.uri), e.metadata.map (·.uri)⟩),
      (link.keyRange, .unregisterApp ⟨e.appType, e.name, e.version⟩)]

section Offers

theorem offer?_deploymentLens (d : Dialect) (i : Item) (b : Deployment) :
    (d.deploymentLens i b).offer? = some (b.startLineRange, i.deploymentOffer b d) := by
  cases d with
  | stream =>
    have hread :=
      StreamDeploy.roundTrips.array ⟨i.definitionName, deploymentServer i b, some b.propertyMap⟩
    simp only [Dialect.deploymentLens, streamDeploymentLens, Lens.offer?, LensCommand.decode, hread]
    rfl
  | task =>
    have hread := TaskLaunch.roundTrips.array
      ⟨i.definitionName, deploymentServer i b, b.propertyMap, b.argumentValues⟩
    simp only [Dialect.deploymentLens, taskDeploymentLens, Lens.offer?, LensCommand.decode, hread]
    rfl

theorem map_offer?_definitionLenses {lenses : Item → Parsed → Range → List Lens} {i : Item}
    {offers : Parsed → List CommandParameters}
    (h : ∀ p r, (lenses i p r).map Lens.offer? = (offers p).map fun offer => some (r, offer)) :
    (definitionLenses lenses i).map Lens.offer? = (i.aboveDefinition offers).map some := by
  rw [definitionLenses, Item.aboveDefinition]
  cases i.parsed with
  | none => rfl
  | some p =>
    cases i.definitionRange with
    | none => rfl
    | some r =>
      simp only [h, List.map_map]
      rfl

theorem map_offer?_lensesAtDefinition (d : Dialect) (i : Item) :
    (d.lensesAtDefinition i).map Lens.offer? =
      (i.aboveDefinition fun p => i.definitionOffers p d).map some := by
  cases d with
  | stream =>
    refine map_offer?_definitionLenses fun p r => ?_
    simp only [streamDefinitionLenses, List.map_cons, List.map_nil, Lens.offer?, LensCommand.decode,
      StreamCreate.roundTrips.array, StreamName.roundTrips.array, StreamDeploy.roundTrips.array]
    rfl
  | task =>
    refine map_offer?_definitionLenses fun p r => ?_
    simp only [taskDefinitionLenses, List.map_cons, List.map_nil, Lens.offer?, LensCommand.decode,
      TaskCreate.roundTrips.array, TaskName.roundTrips.array, TaskLaunch.decode_target]
    rfl

theorem map_offer?_itemLenses (d : Dialect) (i : Item) :
    (d.itemLenses i).map Lens.offer? = (i.offers d).map some := by
  have hdeployments : (i.deployments.map (d.deploymentLens i)).map Lens.offer? =
      (i.deployments.map fun b => (b.startLineRange, i.deploymentOffer b d)).map some := by
    rw [List.map_map, List.map_map]
    exact List.map_congr_left fun b _ => offer?_deploymentLens d i b
  rw [Dialect.itemLenses, Item.offers, List.map_append, List.map_append, hdeployments,
    map_offer?_lensesAtDefinition]

theorem map_offer?_entryLenses (e : ManifestEntry) :
    (entryLenses e).map Lens.offer? = e.offers.map some := by
  rw [entryLenses, ManifestEntry.offers]
  cases e.mainLink with
  | none => rfl
  | some link =>
    simp only [List.map_cons, List.map_nil, Lens.offer?, LensCommand.decode,
      AppRegister.roundTrips.array, AppUnregister.roundTrips.array]
    rfl

theorem map_offer?_deployedLenses (target : StreamName) (i : Item) :
    (definitionLenses (fun _ _ range =>
      [⟨range, .deployStream, target.positional⟩,
        ⟨range, .undeployStream, target.positional⟩]) i).map
        Lens.offer? = (i.deployedOffers target).map some := by
  refine map_offer?_definitionLenses fun p r => ?_
  simp only [List.map_cons, List.map_nil, Lens.offer?, LensCommand.decode,
    StreamDeploy.decode_target, StreamName.roundTrips.array]
  rfl

/-- What holds for the lenses of each part holds for all of them. -/
theorem map_offer?_flatMap {α : Type} {lenses : α → List Lens}
    {offers : α → List (Range × CommandParameters)}
    (h : ∀ a, (lenses a).map Lens.offer? = (offers a).map some) (as : List α) :
    (as.flatMap lenses).map Lens.offer? = (as.flatMap offers).map some := by
  rw [List.map_flatMap, List.map_flatMap]
  exact List.flatMap_congr fun a _ => h a

end Offers

/-! ## Deployed streams -/

/-- A document with this url shows a stream that is deployed. The host is the server, and the second
segment of the path is the name of the stream, or starts with the name and a dot. -/
structure Url.ShowsStream (url : Url) (server name : String) : Prop where
  host : ∃ authority, url.authority = some authority ∧ authority.host = server
  server_ne : server ≠ ""
  file : ∃ first file rest, url.path = .segments (first :: file :: rest) ∧ file ≠ "" ∧
    (file = name ∨ ∃ extension, file = name ++ "." ++ extension)
  undotted : '.' ∉ name.toList

theorem Url.host?_eq_some_iff {url : Url} {server : String} :
    url.host? = some server ↔
      (∃ authority, url.authority = some authority ∧ authority.host = server) ∧ server ≠ "" := by
  simp only [Url.host?, Option.bind_eq_some_iff, Option.ite_none_left_eq_some, String.isEmpty_iff,
    Option.some.injEq]
  constructor
  · rintro ⟨authority, hauthority, hne, rfl⟩
    exact ⟨⟨authority, hauthority, rfl⟩, hne⟩
  · rintro ⟨⟨authority, hauthority, rfl⟩, hne⟩
    exact ⟨authority, hauthority, hne, rfl⟩

theorem Url.second_segment_iff {url : Url} {file : String} :
    url.segments?.bind (·[1]?) = some file ↔
      ∃ first rest, url.path = .segments (first :: file :: rest) := by
  unfold Url.segments?
  cases url.path with
  | rootless text => simp
  | segments parts =>
    cases parts with
    | nil => simp
    | cons first parts => cases parts <;> simp

theorem takeWhile_ne_dot_iff {text name : List Char} :
    text.takeWhile (· != '.') = name ↔
      '.' ∉ name ∧ (text = name ∨ ∃ extension, text = name ++ '.' :: extension) := by
  constructor
  · rintro rfl
    refine ⟨fun hmem => by simpa using List.mem_takeWhile_imp hmem, ?_⟩
    have hsplit := (List.takeWhile_append_dropWhile (p := (· != '.')) (l := text)).symm
    cases hrest : text.dropWhile (· != '.') with
    | nil =>
      rw [hrest, List.append_nil] at hsplit
      exact .inl hsplit
    | cons c extension =>
      have hc : c = '.' := by
        have hhead := List.head?_dropWhile_not (· != '.') text
        rw [hrest] at hhead
        simpa using hhead
      rw [hrest, hc] at hsplit
      exact .inr ⟨extension, hsplit⟩
  · rintro ⟨hname, hsplit⟩
    have hpass : ∀ c ∈ name, (c != '.') = true := by
      intro c hc
      have hne : c ≠ '.' := by
        rintro rfl
        exact hname hc
      simpa using hne
    rcases hsplit with rfl | ⟨extension, rfl⟩
    · exact List.takeWhile_eq_self_iff.mpr hpass
    · rw [List.takeWhile_append_of_pos hpass]
      simp

/-- The text up to the first dot is what has no dot and is all of the text, or goes on with one. -/
theorem upTo_dot_iff {file name : String} :
    String.ofList (file.toList.takeWhile (· != '.')) = name ↔
      '.' ∉ name.toList ∧ (file = name ∨ ∃ extension, file = name ++ "." ++ extension) := by
  have hdot (extension : String) :
      (name ++ "." ++ extension).toList = name.toList ++ '.' :: extension.toList := by
    simp
  rw [← String.toList_inj, String.toList_ofList, takeWhile_ne_dot_iff, String.toList_inj]
  refine and_congr_right fun _ => or_congr_right ⟨?_, ?_⟩
  · rintro ⟨extension, h⟩
    refine ⟨String.ofList extension, String.toList_inj.mp ?_⟩
    rw [hdot, String.toList_ofList, h]
  · rintro ⟨extension, rfl⟩
    exact ⟨extension.toList, hdot extension⟩

/-- A target is found just for the urls that show a stream, and it is that stream. -/
theorem runtimeTarget_eq_ok_iff {url : Url} {target : StreamName} :
    runtimeTarget url = .ok target ↔
      ∃ server name, target = ⟨some name, some server⟩ ∧ url.ShowsStream server name := by
  constructor
  · intro h
    unfold runtimeTarget at h
    split at h
    · next server file hserver hfile =>
      split at h
      · cases h
      · next hne =>
        cases h
        obtain ⟨first, rest, hpath⟩ := Url.second_segment_iff.mp hfile
        obtain ⟨hhost, hserver⟩ := Url.host?_eq_some_iff.mp hserver
        obtain ⟨hundotted, hsplit⟩ := upTo_dot_iff.mp (Eq.refl _)
        exact ⟨server, _, rfl, hhost, hserver,
          ⟨first, file, rest, hpath, by simpa using hne, hsplit⟩, hundotted⟩
    · cases h
  · rintro ⟨server, name, rfl, hhost, hserver, ⟨first, file, rest, hpath, hne, hsplit⟩, hundotted⟩
    have hname := upTo_dot_iff.mpr ⟨hundotted, hsplit⟩
    rw [runtimeTarget, Url.host?_eq_some_iff.mpr ⟨hhost, hserver⟩,
      Url.second_segment_iff.mpr ⟨first, rest, hpath⟩]
    simp [hne, hname]

/-- A document whose url shows a stream has lenses, and they hand over the stream. -/
theorem exists_runtimeLenses {url : Url} {server name : String} (h : url.ShowsStream server name)
    (items : List Item) :
    ∃ lenses, runtimeLenses items url = .ok lenses ∧
      lenses.map Lens.offer? =
        (items.flatMap (Item.deployedOffers ⟨some name, some server⟩)).map some := by
  rw [runtimeLenses, runtimeTarget_eq_ok_iff.mpr ⟨server, name, rfl, h⟩]
  exact ⟨_, rfl, map_offer?_flatMap (map_offer?_deployedLenses _) items⟩

theorem exists_showsStream {items : List Item} {url : Url} {lenses : List Lens}
    (h : runtimeLenses items url = .ok lenses) : ∃ server name, url.ShowsStream server name := by
  rw [runtimeLenses] at h
  split at h
  · cases h
  · next target htarget =>
    obtain ⟨server, name, -, hshows⟩ := runtimeTarget_eq_ok_iff.mp htarget
    exact ⟨server, name, hshows⟩

/-- **Every lens hands over what it was made for.** The parameters of a command are read back from
the object and from the array that they are written as. From the arguments of a lens its command
reads what the item, the deployment or the app has to hand over, lens by lens. A document has the
lenses of a deployed stream just if its url shows one, and these hand over the name and the
environment of the url: the second segment of its path up to the first dot, and its host. -/
theorem lenses_hand_over :
    (RoundTrips StreamCreate.encode StreamCreate.positional StreamCreate.decode ∧
      RoundTrips StreamDeploy.encode StreamDeploy.positional StreamDeploy.decode ∧
      RoundTrips StreamName.encode StreamName.positional StreamName.decode ∧
      RoundTrips TaskCreate.encode TaskCreate.positional TaskCreate.decode ∧
      RoundTrips TaskLaunch.encode TaskLaunch.positional TaskLaunch.decode ∧
      RoundTrips TaskName.encode TaskName.positional TaskName.decode ∧
      RoundTrips AppRegister.encode AppRegister.positional AppRegister.decode ∧
      RoundTrips AppUnregister.encode AppUnregister.positional AppUnregister.decode) ∧
    (∀ (d : Dialect) (items : List Item),
      (d.lenses items).map Lens.offer? = (items.flatMap (Item.offers d)).map some) ∧
    (∀ entries,
      (appLenses entries).map Lens.offer? = (entries.flatMap ManifestEntry.offers).map some) ∧
    ∀ items url,
      ((∃ lenses, runtimeLenses items url = .ok lenses) ↔
        ∃ server name, url.ShowsStream server name) ∧
      ∀ lenses server name, runtimeLenses items url = .ok lenses → url.ShowsStream server name →
        lenses.map Lens.offer? =
          (items.flatMap (Item.deployedOffers ⟨some name, some server⟩)).map some := by
  refine ⟨⟨StreamCreate.roundTrips, StreamDeploy.roundTrips, StreamName.roundTrips,
    TaskCreate.roundTrips, TaskLaunch.roundTrips, TaskName.roundTrips, AppRegister.roundTrips,
    AppUnregister.roundTrips⟩, ?_, ?_, ?_⟩
  · intro d items
    rw [Dialect.lenses_eq]
    exact map_offer?_flatMap (map_offer?_itemLenses d) items
  · intro entries
    exact map_offer?_flatMap map_offer?_entryLenses entries
  · intro items url
    refine ⟨⟨?_, ?_⟩, ?_⟩
    · rintro ⟨lenses, h⟩
      exact exists_showsStream h
    · rintro ⟨server, name, hshows⟩
      obtain ⟨lenses, hlenses, -⟩ := exists_runtimeLenses hshows items
      exact ⟨lenses, hlenses⟩
    · intro lenses server name h hshows
      obtain ⟨found, hfound, hoffers⟩ := exists_runtimeLenses hshows items
      rw [h] at hfound
      cases hfound
      exact hoffers

/-- The url of a document that shows a deployed stream. -/
def deployedUrl : Url :=
  ⟨"scdfs", some ⟨"", "", "env1", none⟩, .segments ["streams", "ticktock.scdfsr"], none, none⟩

/-- A stream that is shown as deployed, under another name than the one it is deployed as. -/
def deployedStream : Document where
  uri := deployedUrl.render
  version := 1
  text := "other = time | log"

/-- What the lenses of the document hand over is what its uri tells. -/
theorem deployedStream_hands_over :
    deployedUrl.ShowsStream "env1" "ticktock" ∧
    ∃ lenses, runtimeLenses (segment .standard .stream deployedStream) deployedUrl = .ok lenses ∧
      lenses.map Lens.offer? =
        [some (Range.onLine 0 0 18, .deployStream ⟨some "ticktock", some "env1", none⟩),
          some (Range.onLine 0 0 18, .undeployStream ⟨some "ticktock", some "env1"⟩)] := by
  have hshows : deployedUrl.ShowsStream "env1" "ticktock" :=
    ⟨⟨_, rfl, rfl⟩, by decide, ⟨_, _, _, rfl, by decide, .inr ⟨"scdfsr", rfl⟩⟩, by decide⟩
  obtain ⟨hfound, hoffers⟩ :=
    lenses_hand_over.2.2.2 (segment .standard .stream deployedStream) deployedUrl
  obtain ⟨lenses, hlenses⟩ := hfound.mpr ⟨_, _, hshows⟩
  refine ⟨hshows, lenses, hlenses, (hoffers lenses _ _ hlenses hshows).trans ?_⟩
  decide +kernel

/-- The stream in the document has another name, and no environment. -/
theorem deployedStream_other_name :
    deployedUrl.render = "scdfs://env1/streams/ticktock.scdfsr" ∧
    (segment .standard .stream deployedStream).map (fun i => (i.definitionName, i.envName)) =
      [(some "other", none)] ∧
    (runtimeLenses (segment .standard .stream deployedStream) deployedUrl).toOption.map
        (·.map fun l => l.offer?.map (·.2)) =
      some [some (.deployStream ⟨some "ticktock", some "env1", none⟩),
        some (.undeployStream ⟨some "ticktock", some "env1"⟩)] := by
  refine ⟨?_, ?_, ?_⟩
  · decide +kernel
  · decide +kernel
  · decide +kernel

end Flowline
