import PreviewSync.Proofs.Cache.Recorded
import PreviewSync.Proofs.Catalog.Difference
import PreviewSync.Proofs.Runs
import PreviewSync.Proofs.Sync.Evidence
import PreviewSync.Proofs.Sync.SingleFlight

/-!
# A machine with its catalog and its store

A machine is put on a scene with the two others that it deals with. The catalog may be edited at any
time, and answers what it lists at the moment. A request that is under way may reach the store and
be applied there, whatever the machine is told about it later; only the status that means success is
never answered for a request that was not applied.

## Main Definitions

* `Deed` — what has been done to the store, and what has been forgotten about it
* `Scene`, `Cue`, `Scene.step`, `Scene.run` — the three together
* `Cue.beginning`, `Cue.uploading`, `Cue.stopping` — what happens when there is no trouble
* `Scene.IsSound` — the invariant of all scenes

## Design Notes

Deeds are a record for proofs: nothing on the scene depends on them. A key is forgotten when a
worker takes it out of the change cache, which is how a removal is recorded.
-/

namespace PreviewSync.Sync

open Store (Client Dispatch Flight)

/-- What has been done to the store, and what has been forgotten about it. The store itself is not
modelled: what it holds follows from the deeds, and how depends on what a statement needs to know.
-/
inductive Deed where
  /-- A request for an object of a photo, made for a destination, has been applied. -/
  | applied (key : String) (destination : Destination) (dispatch : Dispatch)
  /-- A key has been taken out of the change cache by a worker. -/
  | forgotten (key : String)

/-- A machine, its catalog, the deeds so far, and the numbers of the batches whose present request
has been applied. The numbers are what makes the store truthful: it confirms a request only if the
number is among them. -/
structure Scene where
  machine : Machine
  catalog : List String
  deeds : List Deed := []
  applied : List Nat := []

/-- What happens next on a scene. A request is applied at a moment of its own, between its start and
its answer, and it may be applied without ever being answered. -/
inductive Cue where
  /-- The machine takes a step. -/
  | step (label : Label)
  /-- The catalog is edited. -/
  | edit (catalog : List String)
  /-- The request that a batch has under way is applied by the store. -/
  | apply (number : Nat)

namespace Cue

/-- Steps of the owner. -/
def owner (answers : List OwnerAnswer) : List Cue :=
  answers.map fun answer => step (.owner answer)

/-- Steps of a worker. -/
def worker (number : Nat) (answers : List Answer) : List Cue :=
  answers.map fun answer => step (.worker number answer)

/-- A pass from its beginning as far as the keys of the catalog. The answer with the keys is left
out, as it decides what becomes of the pass. -/
def comparing : List Cue :=
  owner [.catalog .proceed, .catalog .proceed, .catalog (.opened (.ok ()))]

/-- The rest of a pass that starts a batch. -/
def launching (keys : List String) : List Cue :=
  owner [.catalog (.keys (.ok keys)), .catalog .proceed, .catalog .proceed]

/-- The beginning of a session, with a pass as far as the keys of the catalog. -/
def beginning (file destination : String) : List Cue :=
  step (.call (.begin file destination)) ::
    owner [.catalog (.opened (.ok ())), .load .absent, .status true none] ++ comparing

/-- The end of a session whose batch is over. -/
def stopping : List Cue :=
  step (.call .stop) :: owner [.proceed, .proceed, .proceed, .proceed, .proceed]

/-- The upload of a photo without any trouble. What the codec answers does not matter here, so it is
a single pixel. -/
def uploading (number : Nat) (entry : CatalogEntry) (file : Bytes) : List Cue :=
  worker number
      [.proceed, .entry (.ok (some entry)), .file (.ok file), .proceed,
        .image (.ok ⟨1, 1, [0, 0, 0]⟩), .file (.ok file), .proceed, .proceed, .proceed, .proceed,
        .time .epoch] ++
    apply number ::
      worker number
        [.event (.respond 200 []), .proceed, .proceed, .proceed, .record .absent, .proceed]

end Cue

namespace Scene

/-- The scene before the first call. The store is empty as far as the scene knows: it tells only
what has been done to it since. -/
def start (config : Config) (client : Client) (cache : Cache) (disk : Disk)
    (catalog : List String) : Scene :=
  { machine := Machine.make config client cache disk, catalog }

/-- The exchange that a batch has under way: the key of its item, what was put on the wire, and the
operation. -/
def exchange? (scene : Scene) (number : Nat) : Option (String × Option Dispatch × Flight) := do
  let worker ← scene.machine.hub.batch? number
  match worker.point, worker.pending with
  | .working (.exchanging dispatch flight), (key, _) :: _ => some (key, dispatch, flight)
  | _, _ => none

/-- Whether a step can happen: the catalog answers what it lists, and the store answers with the
expected status only when it has applied the request. Everything else that a catalog or a store may
do is left open, faults and broken connections included. -/
def admits (scene : Scene) : Label → Bool
  | .owner (.catalog (.keys (.ok keys))) => keys == scene.catalog
  | .watcher (.keys (.ok keys)) => keys == scene.catalog
  | .worker number (.event (.respond status _)) =>
    match scene.exchange? number with
    | some (_, _, flight) =>
      status != Store.expectedStatus flight.operation.verb || scene.applied.contains number
    | none => true
  | _ => true

/-- The keys that a worker takes out of the change cache by a step. Loading the cache may lose keys
as well, but it is no sign of a removal. -/
def forgottenKeys (before after : Machine) : Label → List String
  | .worker _ _ => before.hub.cache.keys.toList.filter fun key => !after.hub.cache.contains key
  | _ => []

/-- The batches whose present request has been applied. A batch that starts an operation is none of
them. -/
def stillApplied (scene : Scene) : Label → List Nat
  | .worker number (.time _) => scene.applied.filter (· != number)
  | _ => scene.applied

/-- The effect of a cue, and what a call returns. A step of the machine that the world does not
admit has no effect here, even if the machine could take it. -/
def step (scene : Scene) : Cue → Option (Scene × Option Return)
  | .step label =>
    if scene.admits label then
      (scene.machine.step label).map fun (machine, result) =>
        ({ scene with
            machine
            deeds := scene.deeds ++ (forgottenKeys scene.machine machine label).map .forgotten
            applied := scene.stillApplied label }, result)
    else none
  | .edit catalog => some ({ scene with catalog }, none)
  | .apply number =>
    match scene.exchange? number with
    | some (key, some dispatch, flight) =>
      some ({ scene with
          deeds := scene.deeds ++
            [.applied key flight.request.registration.destination dispatch]
          applied := number :: scene.applied }, none)
    | _ => none

/-- The effect of several cues. -/
def run (scene : Scene) (cues : List Cue) : Option Scene :=
  cues.foldlM (fun scene cue => (scene.step cue).map (·.1)) scene

variable {scene scene' : Scene} {cue : Cue} {result : Option Return}

/-- What holds at the start and is kept by every cue holds after a run. The cue is known to be one
of the run, so that a condition on all cues can be used at each of them. -/
theorem run_induction {p : Scene → Prop} {cues : List Cue} (ran : scene.run cues = some scene')
    (first : p scene)
    (kept : ∀ (scene scene' : Scene) (cue : Cue) (result : Option Return), cue ∈ cues →
      p scene → scene.step cue = some (scene', result) → p scene') : p scene' := by
  refine foldlM_induction ran first fun before after cue member here stepped => ?_
  obtain ⟨⟨next, result⟩, taken, rfl⟩ := Option.map_eq_some_iff.1 stepped
  exact kept before next cue result member here taken

/-- What a cue can do. There are three kinds: a step of the machine, a change of the catalog, and a
request that the store applies. -/
theorem step_cases (h : scene.step cue = some (scene', result)) :
    (∃ label machine, cue = .step label ∧ scene.admits label = true ∧
      scene.machine.Transition label machine result ∧
      scene' = { scene with
        machine
        deeds := scene.deeds ++ (forgottenKeys scene.machine machine label).map .forgotten
        applied := scene.stillApplied label }) ∨
    (∃ catalog, cue = .edit catalog ∧ result = none ∧ scene' = { scene with catalog }) ∨
    ∃ number key dispatch flight, cue = .apply number ∧ result = none ∧
      scene.exchange? number = some (key, some dispatch, flight) ∧
      scene' = { scene with
        deeds := scene.deeds ++ [.applied key flight.request.registration.destination dispatch]
        applied := number :: scene.applied } := by
  cases cue with
  | step label =>
    unfold Scene.step at h
    dsimp only at h
    split at h
    · rename_i admitted
      obtain ⟨⟨machine, result⟩, stepped, same⟩ := Option.map_eq_some_iff.1 h
      cases same
      exact .inl ⟨label, machine, rfl, admitted, Machine.transition_of_step stepped, rfl⟩
    · cases h
  | edit catalog =>
    cases h
    exact .inr (.inl ⟨catalog, rfl, rfl, rfl⟩)
  | apply number =>
    unfold Scene.step at h
    dsimp only at h
    split at h
    · rename_i key dispatch flight under
      cases h
      exact .inr (.inr ⟨number, key, dispatch, flight, rfl, rfl, under, rfl⟩)
    · cases h

/-- A step of the machine is taken on the scene. -/
theorem machine_of_step {label : Label} (h : scene.step (.step label) = some (scene', result)) :
    scene.machine.step label = some (scene'.machine, result) := by
  unfold Scene.step at h
  dsimp only at h
  split at h
  · obtain ⟨_, stepped, same⟩ := Option.map_eq_some_iff.1 h
    cases same
    exact stepped
  · cases h

/-- The owner is told to be up to date when the catalog lists exactly the keys in memory. That is
all the verdict rests on; nobody asks the store. -/
theorem upToDate_cases (h : scene.step cue = some (scene', some (.passed (.ok .upToDate)))) :
    (∃ keys, cue = .step (.owner (.catalog (.keys (.ok keys))))) ∧
      ∀ key, key ∈ scene'.catalog ↔ key ∈ scene'.machine.hub.cache.keys := by
  rcases step_cases h with
    ⟨label, machine, rfl, admitted, moved, rfl⟩ | ⟨_, -, none, -⟩ | ⟨_, _, _, _, -, none, -⟩
  · generalize returned : some (Return.passed (.ok .upToDate)) = answer at moved
    cases moved with
    | wander _ _ _ _ other => exact absurd returned.symm other
    | load _ _ _ other => exact absurd returned.symm other
    | pass atPass passed =>
      cases passed with
      | @agree keys agreeing =>
        have listed := beq_iff_eq.1 admitted
        rw [listed] at agreeing
        exact ⟨⟨keys, rfl⟩, difference_eq_nil_iff.1 agreeing⟩
      | _ => cases returned
    | _ => cases returned
  · cases none
  · cases none

/-- Whether a call returns that a pass is up to date. -/
def isUpToDate : Option Return → Bool
  | some (.passed (.ok .upToDate)) => true
  | _ => false

theorem eq_of_isUpToDate (h : isUpToDate result = true) :
    result = some (.passed (.ok .upToDate)) := by
  unfold isUpToDate at h
  split at h
  · rfl
  · cases h

/-- A run that is seen to be up to date in the end. Only what is looked at is computed, since whole
scenes cannot be compared. -/
theorem exists_of_seen {α : Type} {cues : List Cue} (look : Scene → α) {view : α}
    (seen : ((scene.run cues).bind (·.step cue)).map (fun (scene, result) =>
      (look scene, isUpToDate result)) = some (view, true)) :
    ∃ middle last, scene.run cues = some middle ∧
      middle.step cue = some (last, some (.passed (.ok .upToDate))) ∧ look last = view := by
  obtain ⟨⟨last, result⟩, reached, same⟩ := Option.map_eq_some_iff.1 seen
  obtain ⟨middle, ran, returned⟩ := Option.bind_eq_some_iff.1 reached
  obtain ⟨looked, told⟩ := Prod.mk.inj same
  cases eq_of_isUpToDate told
  exact ⟨middle, last, ran, returned, looked⟩

/-- The exchange of a batch is that of its item at work. A batch between two items has none. -/
theorem exchange?_eq_some {number : Nat} {key : String} {dispatch : Option Dispatch}
    {flight : Flight} (h : scene.exchange? number = some (key, dispatch, flight)) :
    ∃ worker action rest, scene.machine.hub.batch? number = some worker ∧
      worker.point = .working (.exchanging dispatch flight) ∧
      worker.pending = (key, action) :: rest := by
  obtain ⟨worker, found, h⟩ := Option.bind_eq_some_iff.1 h
  split at h
  · rename_i dispatch flight key action rest point pending
    cases h
    exact ⟨worker, action, rest, found, point, pending⟩
  · cases h

/-- What holds of every scene: at most one batch is under way, and every item at work is at a stage
of its action, with what was put on the wire belonging to it. It is the part that statements about
scenes have in common, whatever they say of the store. -/
structure IsSound (scene : Scene) : Prop where
  singleFlight : scene.machine.SingleFlight
  sound : ∀ number worker, scene.machine.hub.batch? number = some worker → worker.Sound
  launched : ∀ number worker, scene.machine.hub.batch? number = some worker →
    worker.AtWork fun key _ stage => stage.Launched key

/-- The stage of an item at work is one of its action. -/
theorem suits_of_sound {worker : Worker} (h : worker.Sound) :
    worker.AtWork fun _ action stage => stage.Suits action := by
  intro stage key action rest atWork pending
  rw [Worker.Sound, atWork] at h
  obtain ⟨-, key', action', rest', pending', suits⟩ := h
  rw [pending] at pending'
  cases pending'
  exact suits

namespace IsSound

theorem start {config : Config} {client : Client} {cache : Cache} {disk : Disk}
    {catalog : List String} : (Scene.start config client cache disk catalog).IsSound where
  singleFlight := .make
  sound number worker found := by simp [Scene.start, Machine.make, Hub.make, Hub.batch?] at found
  launched number worker found := by
    simp [Scene.start, Machine.make, Hub.make, Hub.batch?] at found

/-- Every cue keeps a scene sound. What is put on the wire belongs to its item from the start of the
operation, so an applied deed has the key of its photo. -/
theorem step (h : scene.IsSound) (stepped : scene.step cue = some (scene', result)) :
    scene'.IsSound := by
  rcases step_cases stepped with
    ⟨label, machine, -, -, moved, rfl⟩ | ⟨catalog, -, -, rfl⟩ | ⟨_, _, _, _, -, -, -, rfl⟩
  · refine ⟨h.singleFlight.step moved, fun number worker found => ?_,
      fun number worker found => ?_⟩
    · cases moved.origin found with
      | kept before => exact h.sound _ _ before
      | cancelled before => exact (h.sound _ _ before).cancel
      | stepped _ before worked => exact (h.sound _ _ before).step worked
      | launched => rfl
    · cases moved.origin found with
      | kept before => exact h.launched _ _ before
      | cancelled before =>
        exact (h.launched _ _ before).cancel fun _ _ _ => Stage.launched_cancel
      | stepped _ before worked =>
        refine (h.launched _ _ before).step worked
          (fun _ _ _ early => Stage.launched_of_isEarly (.inl early)) ?_
        intro key action rest stage next atWork pending move here
        exact move.launched (suits_of_sound (h.sound _ _ before) _ _ _ _ atWork pending) here rfl
      | launched => rintro _ _ _ _ ⟨⟩
  · exact ⟨h.singleFlight, h.sound, h.launched⟩
  · exact ⟨h.singleFlight, h.sound, h.launched⟩

/-- A batch at work is the only one under way. So a request that is applied can be traced to one
batch, and to one photo. -/
theorem unique (h : scene.IsSound) {n n' : Nat} {w w' : Worker} {stage stage' : Stage}
    (found : scene.machine.hub.batch? n = some w) (atWork : w.point = .working stage)
    (found' : scene.machine.hub.batch? n' = some w') (atWork' : w'.point = .working stage') :
    n = n' :=
  h.singleFlight.unique found (by rw [Worker.isOver, atWork]) found'
    (by rw [Worker.isOver, atWork'])

end IsSound

end Scene

end PreviewSync.Sync
