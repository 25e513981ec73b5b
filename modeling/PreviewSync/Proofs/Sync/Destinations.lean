import PreviewSync.Proofs.Sync.Backing
import PreviewSync.Proofs.Sync.Frames

/-!
# Sessions for several destinations

One change cache serves all sessions, whatever their destinations are. So a recorded key has been
uploaded somewhere, which need not be the destination of the present session: being up to date says
something about a destination only as far as no session of the run was for another one.

## Main Definitions

* `Uploaded` — a photo was uploaded to a destination
* `Cue.StaysWithin` — the destinations that the sessions of a run may be for
* `Scene.Traced` — what holds of every scene of such a run
* `Scene.uploaded_of_upToDate` — what being up to date says about destinations

## Design Notes

Sessions are begun for names, and a name may be registered again for another destination while
sessions for it are running. A run is therefore confined by two predicates: the names that its
sessions are begun for, and the destinations that these names stand for. With predicates that always
hold, every run is confined.
-/

namespace PreviewSync.Sync

open Store (Client Dispatch Flight)

/-- The preview of a photo was uploaded to the bucket and below the key prefix of a destination. The
request must have been applied by the store: one that was only put on the wire does not count. -/
def Uploaded (endpoint : Option String) (deeds : List Deed) (destination : Destination)
    (key : String) : Prop :=
  ∃ dispatch, .applied key destination dispatch ∈ deeds ∧ dispatch.verb = .put ∧
    dispatch.url = address endpoint destination key

/-- An upload within some destinations is never undone as a deed, not even by a removal: the deeds
are a history of what was done, and not the state of the store. -/
theorem lasting_uploaded (endpoint : Option String) (within : Destination → Prop) :
    Lasting
      (fun deeds key => ∃ destination, within destination ∧
        Uploaded endpoint deeds destination key)
      fun key destination dispatch =>
        within destination ∧ dispatch.url = address endpoint destination key where
  upload deeds key destination dispatch granted isPut :=
    ⟨destination, granted.1, dispatch, List.mem_append_right _ List.mem_cons_self, isPut,
      granted.2⟩
  applied deeds key _ _ _ _ := by
    rintro ⟨destination, inside, dispatch, member, uploaded⟩
    exact ⟨destination, inside, dispatch, List.mem_append_left _ member, uploaded⟩
  forgotten deeds key _ _ := by
    rintro ⟨destination, inside, dispatch, member, uploaded⟩
    exact ⟨destination, inside, dispatch, List.mem_append_left _ member, uploaded⟩

/-- Sessions are begun for names of concern only, and such a name is never registered for a
destination outside those that are given. -/
def Cue.StaysWithin (concern : String → Prop) (within : Destination → Prop) : Cue → Prop
  | step (.call (.begin _ name)) => concern name
  | step (.register name _ destination) => concern name → within destination
  | _ => True

/-- Every cue stays somewhere. So what is said of confined runs is said of all runs, if nothing is
asked of names and destinations. -/
theorem Cue.staysWithin_true (cue : Cue) : cue.StaysWithin (fun _ => True) fun _ => True := by
  unfold StaysWithin
  split <;> simp

/-- The catalog tells nothing about destinations. The step by which a pass is told to be up to date
can therefore be added to any run. -/
theorem Cue.staysWithin_keys {concern : String → Prop} {within : Destination → Prop}
    (keys : List String) :
    (Cue.step (.owner (.catalog (.keys (.ok keys))))).StaysWithin concern within :=
  trivial

namespace Scene

/-- What holds of every scene of a run that stays within some destinations: its requests are made
for these, and a recorded key has been uploaded to one of them. The key is recorded without the
destination, so it cannot be said to which one. -/
structure Traced (concern : String → Prop) (within : Destination → Prop)
    (endpoint : Option String) (scene : Scene) : Prop where
  sound : scene.IsSound
  bound : scene.machine.KeptTo concern
    (fun frame => within frame.1.destination ∧ frame.2 = endpoint) endpoint
  backed : scene.Backed fun deeds key =>
    ∃ destination, within destination ∧ Uploaded endpoint deeds destination key

variable {config : Config} {client : Client} {cache : Cache} {disk : Disk} {catalog : List String}
  {concern : String → Prop} {within : Destination → Prop} {endpoint : Option String}
  {cues : List Cue} {cue : Cue} {result : Option Return} {scene scene' : Scene}

namespace Traced

/-- Nothing is recorded at the beginning. -/
theorem start
    (known : ∀ name registration, concern name → client.find? name = some registration →
      within registration.destination)
    (empty : ∀ key, ¬ cache.Recorded disk key) :
    (Scene.start config client cache disk catalog).Traced concern within client.endpoint where
  sound := .start
  bound := .make fun name registration of found => ⟨known name registration of found, rfl⟩
  backed := .start empty

/-- What is put on the wire is for a destination within those of the run. -/
theorem granted (h : scene.Traced concern within endpoint) {number : Nat} {key : String}
    {dispatch : Dispatch} {flight : Flight}
    (exchange : scene.exchange? number = some (key, some dispatch, flight)) :
    within flight.request.registration.destination ∧
      dispatch.url = address endpoint flight.request.registration.destination key := by
  obtain ⟨⟨inside, located⟩, -, url⟩ := dispatch_of_exchange h.sound h.bound exchange
  refine ⟨inside, ?_⟩
  rw [url, show flight.request.endpoint = endpoint from located]

/-- Every cue that stays within the destinations keeps the trace. Only two kinds of cues name a
destination at all; of all others there is nothing to show. -/
theorem step (h : scene.Traced concern within endpoint) (stays : cue.StaysWithin concern within)
    (stepped : scene.step cue = some (scene', result)) :
    scene'.Traced concern within endpoint := by
  have labels : ∀ label, cue = .step label →
      label.Keeps concern (fun frame => within frame.1.destination ∧ frame.2 = endpoint)
        endpoint := by
    rintro label rfl
    cases label with
    | call call => cases call <;> exact stays
    | register => exact fun of => ⟨stays of, rfl⟩
    | _ => trivial
  refine ⟨h.sound.step stepped, keptTo_of_step h.bound labels stepped, ?_⟩
  exact h.backed.step h.sound (lasting_uploaded endpoint within) stepped
    fun _ _ _ _ exchange => h.granted exchange

/-- What holds of the scene in the end, by induction on the run. -/
theorem run
    (known : ∀ name registration, concern name → client.find? name = some registration →
      within registration.destination)
    (empty : ∀ key, ¬ cache.Recorded disk key)
    (stay : ∀ cue ∈ cues, cue.StaysWithin concern within)
    (ran : (Scene.start config client cache disk catalog).run cues = some scene) :
    scene.Traced concern within client.endpoint :=
  run_induction ran (.start known empty)
    fun _ _ cue _ member traced stepped => traced.step (stay cue member) stepped

/-- When a pass is told to be up to date, every photo of the catalog has been uploaded to a
destination of the run. -/
theorem uploaded (h : scene.Traced concern within endpoint)
    (returned : scene.step cue = some (scene', some (.passed (.ok .upToDate)))) :
    ∀ key ∈ scene'.catalog, ∃ destination, within destination ∧
      Uploaded endpoint scene'.deeds destination key := by
  obtain ⟨⟨keys, rfl⟩, agreeing⟩ := upToDate_cases returned
  have after := h.step (Cue.staysWithin_keys keys) returned
  intro key listed
  exact after.backed.recorded key (.inl ((agreeing key).1 listed))

end Traced

/-- When nothing was recorded at the beginning and a pass is told to be up to date, every photo of
the catalog has been uploaded to some destination. When all sessions of the run were for certain
destinations only, it has been uploaded to one of these, and the present session is for one of them
as well. So with a single destination all photos are at that of the present session. -/
theorem uploaded_of_upToDate (empty : ∀ key, ¬ cache.Recorded disk key)
    (ran : (Scene.start config client cache disk catalog).run cues = some scene)
    (returned : scene.step cue = some (scene', some (.passed (.ok .upToDate)))) :
    (∀ key ∈ scene'.catalog, ∃ destination,
      Uploaded client.endpoint scene'.deeds destination key) ∧
    ∀ (concern : String → Prop) (within : Destination → Prop),
      (∀ name registration, concern name → client.find? name = some registration →
        within registration.destination) →
      (∀ cue ∈ cues, cue.StaysWithin concern within) →
      (∀ session registration, scene'.machine.session = some session →
        scene'.machine.hub.client.find? session.destination = some registration →
          within registration.destination) ∧
      ∀ key ∈ scene'.catalog, ∃ destination, within destination ∧
        Uploaded client.endpoint scene'.deeds destination key := by
  constructor
  · intro key listed
    have traced := Traced.run (fun _ _ _ _ => trivial) empty (fun cue _ => cue.staysWithin_true) ran
    obtain ⟨destination, -, uploaded⟩ := traced.uploaded returned key listed
    exact ⟨destination, uploaded⟩
  · intro concern within known stay
    have traced := Traced.run known empty stay ran
    refine ⟨?_, traced.uploaded returned⟩
    obtain ⟨⟨keys, rfl⟩, -⟩ := upToDate_cases returned
    intro session registration running found
    have kept := (traced.step (Cue.staysWithin_keys keys) returned).bound
    exact (kept.known _ _ (kept.session session running) found).1

/-- A client that knows two destinations. They differ in their buckets, so nothing that is uploaded
to one is at the other. -/
def clientOfTwo : Client :=
  { registrations :=
      [⟨"home", ⟨"AKID", "SECRET"⟩, ⟨"photos", ""⟩⟩, ⟨"away", ⟨"AKID", "SECRET"⟩, ⟨"mirror", ""⟩⟩]
    endpoint := some "http://localhost" }

/-- A photo is uploaded to one destination, and then a session for another one is begun. -/
def cuesOfTwo : List Cue :=
  Cue.beginning "photos.lrcat" "home" ++ Cue.launching ["A"] ++
    Cue.uploading 0 ⟨"A", "A.lrprev", [⟨1, 220⟩]⟩ [1] ++ Cue.stopping ++
    Cue.beginning "photos.lrcat" "away"

/-- The destinations of the uploads. -/
def targets (deeds : List Deed) : List (String × Destination) :=
  deeds.filterMap fun
    | .applied key destination _ => some (key, destination)
    | .forgotten _ => none

/-- The second session is told to be up to date. -/
theorem exists_upToDate_of_two :
    ∃ scene scene', (Scene.start {} clientOfTwo (Cache.inMemory []) {} ["A"]).run cuesOfTwo =
        some scene ∧
      scene.step (.step (.owner (.catalog (.keys (.ok ["A"]))))) =
        some (scene', some (.passed (.ok .upToDate))) ∧
      (scene'.machine.session.map (·.destination), scene'.catalog, targets scene'.deeds) =
        (some "away", ["A"], [("A", ⟨"photos", ""⟩)]) :=
  exists_of_seen
    (fun scene => (scene.machine.session.map (·.destination), scene.catalog, targets scene.deeds))
    (by decide +kernel)

/-- What was uploaded to one destination is taken as synchronized to another. -/
theorem not_uploaded_of_upToDate :
    ∃ scene scene', (Scene.start {} clientOfTwo (Cache.inMemory []) {} ["A"]).run cuesOfTwo =
        some scene ∧
      scene.step (.step (.owner (.catalog (.keys (.ok ["A"]))))) =
        some (scene', some (.passed (.ok .upToDate))) ∧
      scene'.machine.session.map (·.destination) = some "away" ∧ "A" ∈ scene'.catalog ∧
      ¬ Uploaded clientOfTwo.endpoint scene'.deeds ⟨"mirror", ""⟩ "A" := by
  obtain ⟨scene, scene', ran, returned, seen⟩ := exists_upToDate_of_two
  obtain ⟨session, listed, uploads⟩ :
      scene'.machine.session.map (·.destination) = some "away" ∧ scene'.catalog = ["A"] ∧
        targets scene'.deeds = [("A", ⟨"photos", ""⟩)] := by
    simpa only [Prod.mk.injEq] using seen
  refine ⟨scene, scene', ran, returned, session, by rw [listed]; exact List.mem_cons_self, ?_⟩
  rintro ⟨dispatch, member, -⟩
  have target : ("A", (⟨"mirror", ""⟩ : Destination)) ∈ targets scene'.deeds :=
    List.mem_filterMap.2 ⟨_, member, rfl⟩
  rw [uploads] at target
  revert target
  decide

/-- The photo of the second session has been uploaded to one of the two destinations of the run. -/
theorem uploaded_of_upToDate_of_two :
    ∃ scene scene', (Scene.start {} clientOfTwo (Cache.inMemory []) {} ["A"]).run cuesOfTwo =
        some scene ∧
      scene.step (.step (.owner (.catalog (.keys (.ok ["A"]))))) =
        some (scene', some (.passed (.ok .upToDate))) ∧
      (∀ key ∈ scene'.catalog, ∃ destination,
        Uploaded clientOfTwo.endpoint scene'.deeds destination key) ∧
      ∀ key ∈ scene'.catalog, ∃ destination,
        (destination = ⟨"photos", ""⟩ ∨ destination = ⟨"mirror", ""⟩) ∧
          Uploaded clientOfTwo.endpoint scene'.deeds destination key := by
  obtain ⟨scene, scene', ran, returned, -⟩ := exists_upToDate_of_two
  obtain ⟨somewhere, confined⟩ :=
    uploaded_of_upToDate Cache.not_recorded_inMemory_nil ran returned
  refine ⟨scene, scene', ran, returned, somewhere, (confined (fun _ => True) _ ?_ ?_).2⟩
  · intro name registration _ found
    have member := List.mem_of_find?_eq_some found
    simp only [clientOfTwo, List.mem_cons, List.not_mem_nil, or_false] at member
    rcases member with rfl | rfl
    · exact .inl rfl
    · exact .inr rfl
  · simp [cuesOfTwo, Cue.beginning, Cue.launching, Cue.comparing, Cue.uploading, Cue.stopping,
      Cue.owner, Cue.worker, Cue.StaysWithin]

end Scene

end PreviewSync.Sync
