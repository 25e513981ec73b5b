import PreviewSync.Proofs.Sync.Backing
import PreviewSync.Proofs.Sync.Frames
import PreviewSync.Proofs.Sync.Subjects

/-!
# Being up to date

When all sessions are for one destination, a recorded key stands for an object in the store, unless
a removal has been applied of which the change cache was not told: its answer was lost, or the
removal could not be recorded. If such a photo is back in the catalog, a pass is told to be up to
date although there is no object for it, and this is the only way in which that can happen.

## Main Definitions

* `present` — whether the store has an object at an address
* `unrecorded` — whether a removal was applied of which the change cache was not told
* `separate_address` — photos whose keys are names do not share objects
* `Cue.KeepsTo` — all sessions are for one destination, and all photos have names
* `Scene.present_of_upToDate` — what being up to date says about the store
-/

namespace PreviewSync.Sync

open Store (Client Dispatch Flight Registration Request)

/-- Whether there is an object at an address after a deed. Deeds at other addresses do not matter,
and reading changes nothing. -/
def Deed.holds (url : String) (held : Bool) : Deed → Bool
  | applied _ _ dispatch =>
    if dispatch.url = url then
      match dispatch.verb with
      | .put => true
      | .delete => false
      | _ => held
    else held
  | forgotten _ => held

/-- Whether a store that was empty at first has an object at an address. It is the last deed at the
address that counts. -/
def present (url : String) (deeds : List Deed) : Bool :=
  deeds.foldl (Deed.holds url) false

/-- Whether a removal of the object of a photo is to be recorded after a deed. An applied removal is
owed to the change cache until a worker has taken the key out, and an upload settles it. -/
def Deed.owes (key : String) (owed : Bool) : Deed → Bool
  | applied other _ dispatch =>
    if other = key then
      match dispatch.verb with
      | .put => false
      | .delete => true
      | _ => owed
    else owed
  | forgotten other => if other = key then false else owed

/-- Whether the object of a photo has been removed last, and its key was not taken out of the change
cache since. -/
def unrecorded (key : String) (deeds : List Deed) : Bool :=
  deeds.foldl (Deed.owes key) false

/-- A key that is one part of a path. Letters, digits and hyphens are always such a name. Keys with
slashes may share objects, and then the removal of one photo says nothing about its own. -/
def IsName (key : String) : Prop :=
  '/' ∉ key.toList

/-- A name has no slash in front. So slashes that do not count are no matter for photos with names.
-/
theorem IsName.trimStart_eq {key : String} (name : IsName key) :
    Text.trimStart Text.isSlash key = key := by
  refine Text.trimStart_of_head fun c first => beq_eq_false_iff_ne.2 ?_
  rintro rfl
  exact name (List.mem_of_mem_head? first)

/-- Photos whose keys are names do not share objects. Only then can an object be said to be that of
a photo. -/
def Separate (locate : String → String) : Prop :=
  ∀ key other, IsName key → IsName other → locate key = locate other → key = other

/-- At one destination, photos whose keys are names do not share objects. The identifiers that a
catalog gives to photos are such names. -/
theorem separate_address (endpoint : Option String) (destination : Destination) :
    Separate (address endpoint destination) := by
  intro key other name otherName same
  rwa [address_eq_iff, name.trimStart_eq, otherName.trimStart_eq] at same

section Deeds

variable {url key : String} {deeds : List Deed}

@[simp]
theorem present_append (deed : Deed) :
    present url (deeds ++ [deed]) = deed.holds url (present url deeds) := by
  rw [present, List.foldl_append]
  rfl

@[simp]
theorem unrecorded_append (deed : Deed) :
    unrecorded key (deeds ++ [deed]) = deed.owes key (unrecorded key deeds) := by
  rw [unrecorded, List.foldl_append]
  rfl

/-- A request for the object of a photo with a name, at its own address. -/
structure IsPlain (locate : String → String) (key : String) (dispatch : Dispatch) : Prop where
  name : IsName key
  url : dispatch.url = locate key
  verb : dispatch.verb = .put ∨ dispatch.verb = .delete

/-- A photo with a name has an object, unless a removal of it is to be recorded. This is what being
recorded amounts to: the exception is a request that was applied without the cache being told. -/
def Stands (locate : String → String) (deeds : List Deed) (key : String) : Prop :=
  IsName key ∧ (present (locate key) deeds = true ∨ unrecorded key deeds = true)

/-- There is no object whose removal is to be recorded. A removal that is applied but not recorded
is the dangerous case: the key is still recorded, and its object is gone. -/
def Removed (locate : String → String) (deeds : List Deed) : Prop :=
  ∀ key, IsName key → unrecorded key deeds = true → present (locate key) deeds = false

variable {locate : String → String} {other : String} {destination : Destination}
  {dispatch : Dispatch}

/-- The effect of a request on a photo: none on others, and on its own photo it is decided by the
verb. -/
theorem IsPlain.effect (plain : IsPlain locate other dispatch) (apart : Separate locate)
    (name : IsName key) (held owed : Bool) :
    (other ≠ key ∧ (Deed.applied other destination dispatch).holds (locate key) held = held ∧
      (Deed.applied other destination dispatch).owes key owed = owed) ∨
    other = key ∧ ∃ isPut : Bool,
      (Deed.applied other destination dispatch).holds (locate key) held = isPut ∧
      (Deed.applied other destination dispatch).owes key owed = !isPut := by
  by_cases same : other = key
  · subst same
    refine .inr ⟨rfl, ?_⟩
    rcases plain.verb with isPut | isDelete
    · exact ⟨true, by simp [Deed.holds, plain.url, isPut], by simp [Deed.owes, isPut]⟩
    · exact ⟨false, by simp [Deed.holds, plain.url, isDelete], by simp [Deed.owes, isDelete]⟩
  · have elsewhere : dispatch.url ≠ locate key := by
      rw [plain.url]
      exact fun shared => same (apart other key plain.name name shared)
    exact .inl ⟨same, if_neg elsewhere, if_neg same⟩

/-- A photo that was uploaded stands for an object, whatever is applied later. A removal of its
object owes the cache a record, and one of another photo is not for its object. -/
theorem lasting_stands (apart : Separate locate) :
    Lasting (Stands locate) fun key _ dispatch => IsPlain locate key dispatch where
  upload deeds key destination dispatch plain isPut := by
    refine ⟨plain.name, .inl ?_⟩
    rw [present_append]
    simp [Deed.holds, plain.url, isPut]
  applied deeds key other destination dispatch plain := by
    rintro ⟨name, here⟩
    refine ⟨name, ?_⟩
    rw [present_append, unrecorded_append]
    rcases plain.effect apart name (present (locate key) deeds) (unrecorded key deeds) with
      ⟨-, held, owed⟩ | ⟨-, isPut, held, owed⟩
    · rw [held, owed]
      exact here
    · rw [held, owed]
      cases isPut
      · exact .inr rfl
      · exact .inl rfl
  forgotten deeds key other different := by
    rintro ⟨name, here⟩
    refine ⟨name, ?_⟩
    rw [present_append, unrecorded_append, Deed.holds, Deed.owes, if_neg different]
    exact here

/-- A request that is applied leaves no object whose removal is to be recorded. An upload in between
makes the removal one that is not to be recorded any more. -/
theorem Removed.applied (h : Removed locate deeds) (plain : IsPlain locate other dispatch)
    (apart : Separate locate) :
    Removed locate (deeds ++ [.applied other destination dispatch]) := by
  intro key name
  rw [present_append, unrecorded_append]
  rcases plain.effect apart name (present (locate key) deeds) (unrecorded key deeds) with
    ⟨-, held, owed⟩ | ⟨-, isPut, held, owed⟩
  · rw [held, owed]
    exact h key name
  · rw [held, owed]
    cases isPut <;> simp

/-- Nothing becomes due when a key is forgotten. To forget a key is what records its removal. -/
theorem Removed.forgotten (h : Removed locate deeds) (keys : List String) :
    Removed locate (deeds ++ keys.map .forgotten) := by
  induction keys generalizing deeds with
  | nil => rwa [List.map_nil, List.append_nil]
  | cons other keys ih =>
    have first : Removed locate (deeds ++ [.forgotten other]) := by
      intro key name
      rw [present_append, unrecorded_append, Deed.holds, Deed.owes]
      split
      · exact nofun
      · exact h key name
    have all := ih first
    rwa [List.append_assoc] at all

end Deeds

/-- All sessions are for the destination of one name, and all photos of the catalog have names. The
destination may be registered again, but not with another bucket or key prefix. Other names may be
registered and removed at will. -/
def Cue.KeepsTo (identifier : String) (destination : Destination) : Cue → Prop
  | step (.call (.begin _ name)) => name = identifier
  | step (.register name _ other) => name = identifier → other = destination
  | edit catalog => ∀ key ∈ catalog, IsName key
  | _ => True

namespace Scene

/-- What holds of every scene on which all sessions are for one destination. -/
structure Accounted (identifier : String) (endpoint : Option String) (destination : Destination)
    (scene : Scene) : Prop where
  sound : scene.IsSound
  bound : scene.machine.KeptTo (· = identifier)
    (fun frame => frame.1.destination = destination ∧ frame.2 = endpoint) endpoint
  acts : scene.machine.ActsOn IsName
  named : ∀ key ∈ scene.catalog, IsName key
  backed : scene.Backed (Stands (address endpoint destination))
  removed : Removed (address endpoint destination) scene.deeds

namespace Accounted

variable {identifier : String} {endpoint : Option String} {destination : Destination}
  {scene scene' : Scene} {cue : Cue} {result : Option Return}

theorem start {config : Config} {client : Client} {cache : Cache} {disk : Disk}
    {catalog : List String}
    (known : ∀ registration, client.find? identifier = some registration →
      registration.destination = destination)
    (empty : ∀ key, ¬ cache.Recorded disk key) (named : ∀ key ∈ catalog, IsName key) :
    (Scene.start config client cache disk catalog).Accounted identifier client.endpoint
      destination where
  sound := .start
  bound := .make fun name registration same found => by
    subst same
    exact ⟨known registration found, rfl⟩
  acts := .make
  named := named
  backed := .start empty
  removed := nofun

/-- What is on the wire for a photo with a name is a request for its own object. So what is applied
later is an upload or a removal at that address. -/
theorem isPlain (h : scene.Accounted identifier endpoint destination) {number : Nat} {key : String}
    {dispatch : Dispatch} {flight : Flight}
    (exchange : scene.exchange? number = some (key, some dispatch, flight)) :
    IsPlain (address endpoint destination) key dispatch := by
  obtain ⟨⟨toDestination, belowEndpoint⟩, verb, url⟩ :=
    dispatch_of_exchange h.sound h.bound exchange
  obtain ⟨worker, action, rest, found, -, pending⟩ := exchange?_eq_some exchange
  have name := h.acts.workers number worker found (key, action) (by
    rw [pending]
    exact List.mem_cons_self)
  refine ⟨name, ?_, verb⟩
  rw [url, show flight.request.endpoint = endpoint from belowEndpoint,
    show flight.request.registration.destination = destination from toDestination]

/-- Every cue that keeps to the destination keeps the account. -/
theorem step (h : scene.Accounted identifier endpoint destination)
    (keeps : cue.KeepsTo identifier destination)
    (stepped : scene.step cue = some (scene', result)) :
    scene'.Accounted identifier endpoint destination := by
  have apart := separate_address endpoint destination
  have backed := h.backed.step h.sound (lasting_stands apart) stepped
    fun number key dispatch flight exchange => h.isPlain exchange
  have labels : ∀ label, cue = .step label →
      label.Keeps (· = identifier)
        (fun frame => frame.1.destination = destination ∧ frame.2 = endpoint) endpoint := by
    rintro label rfl
    cases label with
    | call call => cases call <;> exact keeps
    | register => exact fun same => ⟨keeps same, rfl⟩
    | _ => trivial
  have bound := keptTo_of_step h.bound labels stepped
  refine ⟨h.sound.step stepped, bound, ?_, ?_, backed, ?_⟩
  all_goals
    rcases step_cases stepped with
      ⟨label, machine, -, admitted, moved, rfl⟩ | ⟨catalog, rfl, -, rfl⟩ |
        ⟨number, key, dispatch, flight, -, -, exchange, rfl⟩
  · refine h.acts.step moved ?_ fun key member => (h.backed.recorded key (.inl member)).1
    rintro keys (rfl | rfl) <;> rw [beq_iff_eq.1 admitted] <;> exact h.named
  · exact h.acts
  · exact h.acts
  · exact h.named
  · exact keeps
  · exact h.named
  · exact h.removed.forgotten _
  · exact h.removed
  · exact h.removed.applied (h.isPlain exchange) apart

end Accounted

variable {config : Config} {client : Client} {cache : Cache} {disk : Disk} {catalog : List String}
  {cues : List Cue} {cue : Cue} {scene scene' : Scene}

/-- When nothing was recorded at the beginning, all sessions are for one destination and a pass is
told to be up to date, a photo of the catalog has an object in the store iff its object was not
removed by a request of which the change cache was not told. Such a request was applied, and then
its answer was lost, the batch was cancelled, or the cache could not be written. -/
theorem present_iff_of_upToDate {identifier : String} {destination : Destination}
    (known : ∀ registration, client.find? identifier = some registration →
      registration.destination = destination)
    (empty : ∀ key, ¬ cache.Recorded disk key) (named : ∀ key ∈ catalog, IsName key)
    (keep : ∀ cue ∈ cues, cue.KeepsTo identifier destination)
    (ran : (Scene.start config client cache disk catalog).run cues = some scene)
    (returned : scene.step cue = some (scene', some (.passed (.ok .upToDate)))) :
    ∀ key ∈ scene'.catalog,
      present (address client.endpoint destination key) scene'.deeds = true ↔
        unrecorded key scene'.deeds = false := by
  have before : scene.Accounted identifier client.endpoint destination :=
    run_induction ran (.start known empty named)
      fun _ _ cue _ member account stepped => account.step (keep cue member) stepped
  obtain ⟨⟨keys, rfl⟩, agreeing⟩ := upToDate_cases returned
  have keeps : (Cue.step (.owner (.catalog (.keys (.ok keys))))).KeepsTo identifier destination :=
    trivial
  have after := before.step keeps returned
  intro key listed
  obtain ⟨name, here⟩ := after.backed.recorded key (.inl ((agreeing key).1 listed))
  constructor
  · intro held
    refine Bool.eq_false_iff.2 fun owed => ?_
    rw [after.removed key name owed] at held
    cases held
  · intro noneOwed
    rw [noneOwed] at here
    simpa using here

/-- A client that knows one destination. -/
def clientOfOne : Client :=
  { registrations := [⟨"home", ⟨"AKID", "SECRET"⟩, ⟨"photos", ""⟩⟩]
    endpoint := some "http://localhost" }

/-- A photo is uploaded and leaves the catalog. The request that removes its object is applied, but
the connection breaks before the answer. Then the photo is back in the catalog. -/
def cuesOfLostAnswer : List Cue :=
  Cue.beginning "photos.lrcat" "home" ++ Cue.launching ["A"] ++
    Cue.uploading 0 ⟨"A", "A.lrprev", [⟨1, 220⟩]⟩ [1] ++
    [.edit [], .step (.call .trigger)] ++ Cue.comparing ++ Cue.launching [] ++
    Cue.worker 1 [.proceed, .proceed, .proceed, .proceed, .proceed, .time .epoch] ++ [.apply 1] ++
    Cue.worker 1 [.event (.fail "connection reset"), .proceed, .proceed, .proceed, .proceed] ++
    [.edit ["A"], .step (.call .trigger)] ++ Cue.comparing

/-- In the end a pass is told to be up to date. -/
theorem exists_upToDate_of_lostAnswer :
    ∃ scene scene', (Scene.start {} clientOfOne (Cache.inMemory []) {} ["A"]).run cuesOfLostAnswer =
        some scene ∧
      scene.step (.step (.owner (.catalog (.keys (.ok ["A"]))))) =
        some (scene', some (.passed (.ok .upToDate))) ∧
      (scene'.catalog, present (address clientOfOne.endpoint ⟨"photos", ""⟩ "A") scene'.deeds) =
        (["A"], false) :=
  exists_of_seen
    (fun scene =>
      (scene.catalog, present (address clientOfOne.endpoint ⟨"photos", ""⟩ "A") scene.deeds))
    (by decide +kernel)

/-- A pass is told to be up to date, and there is no object for a photo of the catalog. -/
theorem not_present_of_upToDate :
    ∃ scene scene', (Scene.start {} clientOfOne (Cache.inMemory []) {} ["A"]).run cuesOfLostAnswer =
        some scene ∧
      scene.step (.step (.owner (.catalog (.keys (.ok ["A"]))))) =
        some (scene', some (.passed (.ok .upToDate))) ∧
      "A" ∈ scene'.catalog ∧
      ¬ present (address clientOfOne.endpoint ⟨"photos", ""⟩ "A") scene'.deeds = true := by
  obtain ⟨scene, scene', ran, returned, seen⟩ := exists_upToDate_of_lostAnswer
  obtain ⟨listed, missing⟩ := Prod.mk.inj seen
  refine ⟨scene, scene', ran, returned, ?_, ?_⟩
  · rw [listed]
    exact List.mem_cons_self
  · rw [missing]
    decide

/-- After the lost answer, a photo of the catalog has an object iff no removal of it is to be
recorded. -/
theorem present_iff_of_lostAnswer :
    ∃ scene scene', (Scene.start {} clientOfOne (Cache.inMemory []) {} ["A"]).run cuesOfLostAnswer =
        some scene ∧
      scene.step (.step (.owner (.catalog (.keys (.ok ["A"]))))) =
        some (scene', some (.passed (.ok .upToDate))) ∧
      ∀ key ∈ scene'.catalog,
        present (address clientOfOne.endpoint ⟨"photos", ""⟩ key) scene'.deeds = true ↔
          unrecorded key scene'.deeds = false := by
  obtain ⟨scene, scene', ran, returned, -⟩ := exists_upToDate_of_lostAnswer
  have known : ∀ registration, clientOfOne.find? "home" = some registration →
      registration.destination = ⟨"photos", ""⟩ := by
    rintro _ ⟨⟩
    rfl
  have named : ∀ key ∈ ["A"], IsName key := by
    intro key member
    rw [List.mem_singleton.1 member, IsName]
    decide
  have keep : ∀ cue ∈ cuesOfLostAnswer, cue.KeepsTo "home" ⟨"photos", ""⟩ := by
    simp [cuesOfLostAnswer, Cue.beginning, Cue.launching, Cue.comparing, Cue.uploading, Cue.owner,
      Cue.worker, Cue.KeepsTo, IsName]
  exact ⟨scene, scene', ran, returned,
    present_iff_of_upToDate known Cache.not_recorded_inMemory_nil named keep ran returned⟩

end Scene

end PreviewSync.Sync
