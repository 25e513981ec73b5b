import PreviewSync.Proofs.Sync.Scene

/-!
# What recorded keys stand for

A key enters the change cache only after its upload was answered with success, so whatever an
applied upload establishes can be said of every recorded key, as long as later deeds do not undo it
while the key is recorded.

## Main Definitions

* `Lasting` — what uploads establish and deeds do not undo
* `Scene.Vouches` — operations that succeed were applied, and something follows from that
* `Scene.Backed` — it is said of every recorded key, with `Scene.Backed.step`
* `Scene.forgottenKeys_spec` — the keys that a worker forgets are not recorded any more
-/

namespace PreviewSync.Sync

open Store (Client Dispatch Flight)

/-- What an applied upload establishes about its key, and what neither a request that is allowed nor
the end of another key undoes. It is a parameter because several things can be said of a recorded
key by one and the same argument. -/
structure Lasting (q : List Deed → String → Prop)
    (allowed : String → Destination → Dispatch → Prop) : Prop where
  upload : ∀ deeds key destination dispatch, allowed key destination dispatch →
    dispatch.verb = .put → q (deeds ++ [.applied key destination dispatch]) key
  applied : ∀ deeds key other destination dispatch, allowed other destination dispatch →
    q deeds key → q (deeds ++ [.applied other destination dispatch]) key
  forgotten : ∀ deeds key other, other ≠ key → q deeds key → q (deeds ++ [.forgotten other]) key

/-- The end of other keys undoes nothing. Keys are forgotten one by one or all at once, and this is
the second case. -/
theorem Lasting.forgotten_all {q : List Deed → String → Prop}
    {allowed : String → Destination → Dispatch → Prop} (h : Lasting q allowed) {key : String}
    {others : List String} (apart : ∀ other ∈ others, other ≠ key) {deeds : List Deed}
    (here : q deeds key) : q (deeds ++ others.map .forgotten) key := by
  induction others generalizing deeds with
  | nil => rwa [List.map_nil, List.append_nil]
  | cons other others ih =>
    have first := h.forgotten deeds key other (apart other List.mem_cons_self) here
    have all := ih (fun o member => apart o (List.mem_cons_of_mem _ member)) first
    rwa [List.append_assoc] at all

namespace Scene

variable {before after : Machine} {label : Label}

theorem mem_forgottenKeys {key : String} (h : key ∈ forgottenKeys before after label) :
    key ∈ before.hub.cache.keys ∧ key ∉ after.hub.cache.keys := by
  unfold forgottenKeys at h
  split at h
  · rw [List.mem_filter, Bool.not_eq_true', Bool.eq_false_iff, Ne, Cache.contains_iff] at h
    exact h
  · cases h

/-- No key is forgotten when the keys in memory stay there. Keys that come in are no matter. -/
theorem forgottenKeys_eq_nil
    (kept : ∀ key, key ∈ before.hub.cache.keys → key ∈ after.hub.cache.keys) :
    forgottenKeys before after label = [] := by
  refine List.eq_nil_iff_forall_not_mem.2 fun key member => ?_
  obtain ⟨old, gone⟩ := mem_forgottenKeys member
  exact gone (kept key old)

/-- The store answers with the expected status only when it has applied the request. This is what it
means for a store to answer truthfully, and the only thing that is asked of it. -/
theorem applied_of_admits {scene : Scene} {number : Nat} {worker : Worker} {key : String}
    {action : Action} {rest : List (String × Action)} {dispatch : Option Dispatch}
    {flight : Flight} {lines : List Store.HeaderLine}
    (admitted : scene.admits (.worker number
      (.event (.respond (Store.expectedStatus flight.operation.verb) lines))) = true)
    (found : scene.machine.hub.batch? number = some worker)
    (atWork : worker.point = .working (.exchanging dispatch flight))
    (pending : worker.pending = (key, action) :: rest) : number ∈ scene.applied := by
  have exchange : scene.exchange? number = some (key, dispatch, flight) := by
    rw [exchange?, found]
    dsimp only [Option.bind_eq_bind, Option.bind_some]
    rw [atWork, pending]
  rw [admits, exchange] at admitted
  simpa using admitted

/-- Only the start of an operation forgets that one was applied. From then on the request on the
wire is another one. -/
theorem stillApplied_of_ne_time {scene : Scene} {number : Nat} {answer : Answer}
    (h : ∀ now, answer ≠ .time now) :
    scene.stillApplied (.worker number answer) = scene.applied := by
  cases answer <;> first | rfl | exact absurd rfl (h _)

/-- Whoever is no worker forgets no key and starts no operation. -/
theorem still_of_other {scene : Scene} (other : ∀ number answer, label ≠ .worker number answer) :
    forgottenKeys before after label = [] ∧ scene.stillApplied label = scene.applied := by
  constructor <;> cases label <;> first | rfl | exact absurd rfl (other _ _)

/-- What the step of a worker does to the recorded keys: none is brought in but the one that the
worker records, and no key that is forgotten is left. The second is about the file as well, which a
change replaces as a whole. -/
theorem forgottenKeys_spec {m : Machine} {number : Nat} {answer : Answer} {w w' : Worker}
    {shared : Shared} {batches : List Worker} {key : String} (sound : w.Sound)
    (stepped : w.step m.hub.config m.hub.toShared answer = some (shared, w'))
    (recorded : shared.cache.Recorded shared.disk key) :
    (m.hub.cache.Recorded m.hub.disk key ∨ w.point = .working .recording ∧
      ∃ rest, w.pending = (key, .add) :: rest) ∧
    ∀ other ∈ forgottenKeys m { m with hub.toShared := shared, hub.batches := batches }
      (.worker number answer), other ≠ key := by
  -- While the cache stays as it is, no key comes in and none is forgotten.
  have quiet : shared.cache = m.hub.cache → shared.disk = m.hub.disk →
      m.hub.cache.Recorded m.hub.disk key ∧
        ∀ other ∈ forgottenKeys m { m with hub.toShared := shared, hub.batches := batches }
          (.worker number answer), other ≠ key := by
    intro sameCache sameDisk
    rw [sameCache, sameDisk] at recorded
    rw [forgottenKeys_eq_nil fun key member => by rw [sameCache]; exact member]
    exact ⟨recorded, by simp⟩
  rcases Worker.step_cases stepped with
    ⟨-, rfl, -⟩ | ⟨stage, item, action, rest, progress, atWork, pending, moved, -⟩
  · exact (quiet rfl rfl).imp_left .inl
  · rcases moved.cache_cases with ⟨-, sameCache, sameDisk⟩ | ⟨rfl, -, trouble, isChanged, changed⟩
    · exact (quiet sameCache sameDisk).imp_left .inl
    · unfold Stage.change at changed
      dsimp only at changed
      split at changed
      · -- A removal takes its own key away and no other.
        obtain ⟨old, gone⟩ := Cache.recorded_of_remove changed recorded
        refine ⟨.inl old, fun other forgotten => ?_⟩
        obtain ⟨present, absent⟩ := mem_forgottenKeys forgotten
        have same : other = item := by
          by_contra different
          exact absent ((Cache.remove_ok changed).2 ⟨present, different⟩)
        subst same
        exact (gone isChanged rfl present).symm
      · -- An upload forgets nothing, and brings in its own key at most.
        rename_i notRemoved
        have none : forgottenKeys m { m with hub.toShared := shared, hub.batches := batches }
            (.worker number answer) = [] :=
          forgottenKeys_eq_nil fun key member => (Cache.insert_ok changed).2 (.inr member)
        refine ⟨?_, by simp [none]⟩
        rcases Cache.recorded_of_insert changed recorded with rfl | old
        · refine .inr ⟨atWork, rest, ?_⟩
          have suits : action ≠ .update := suits_of_sound sound _ _ _ _ atWork pending
          rw [pending]
          cases action with
          | add => rfl
          | remove => exact absurd rfl notRemoved
          | update => exact absurd rfl suits
        · exact .inl old

/-- For actions of some kind, an operation of a batch that has succeeded was applied, and something
can be said of the photo of one that was applied. Between the answer of the store and the change of
the cache, this is where the knowledge is kept. -/
def Vouches (kind : Action → Prop) (q : List Deed → String → Prop) (scene : Scene) : Prop :=
  ∀ number worker, scene.machine.hub.batch? number = some worker →
    worker.AtWork fun key action stage => kind action →
      stage.Vouched (number ∈ scene.applied) (q scene.deeds key)

namespace Vouches

variable {kind : Action → Prop} {q : List Deed → String → Prop} {scene scene' : Scene}

/-- Before the first batch there is nothing to vouch for. No operation is under way that could
succeed. -/
theorem start {config : Config} {client : Client} {cache : Cache} {disk : Disk}
    {catalog : List String} : (Scene.start config client cache disk catalog).Vouches kind q := by
  intro number worker found
  simp [Scene.start, Machine.make, Hub.make, Hub.batch?] at found

/-- A request that is applied is the one of the batch at work, and there is no other. So the answer
that comes next is the answer to this one. -/
theorem apply (sound : scene.IsSound) {number : Nat} {key : String} {dispatch : Dispatch}
    {flight : Flight} (exchange : scene.exchange? number = some (key, some dispatch, flight))
    {destination : Destination}
    (reached : ∀ action, Serves flight.operation action → kind action →
      q (scene.deeds ++ [.applied key destination dispatch]) key) :
    Vouches kind q { scene with
      deeds := scene.deeds ++ [.applied key destination dispatch]
      applied := number :: scene.applied } := by
  obtain ⟨worker, action, rest, found, atWork, pending⟩ := exchange?_eq_some exchange
  intro number' worker' found' stage' key' action' rest' atWork' pending' ofKind
  have same := sound.unique found atWork found' atWork'
  subst same
  cases found.symm.trans found'
  cases atWork.symm.trans atWork'
  cases pending.symm.trans pending'
  have serves := suits_of_sound (sound.sound _ _ found) _ _ _ _ atWork pending
  exact ⟨fun _ => reached action serves ofKind, fun _ => List.mem_cons_self⟩

/-- Whoever is no worker lets no operation succeed. A cancellation makes one fail, at most. -/
theorem of_other (h : scene.Vouches kind q) {label : Label} {machine : Machine}
    {result : Option Return} (other : ∀ number answer, label ≠ .worker number answer)
    (moved : scene.machine.Transition label machine result) :
    Vouches kind q { scene with machine } := by
  intro number worker found
  cases moved.origin found with
  | kept before => exact h _ _ before
  | cancelled before =>
    refine (h _ _ before).cancel ?_
    intro key action stage here ofKind
    exact Stage.vouched_cancel (here ofKind)
  | stepped own => exact absurd own (other _ _)
  | launched => rintro _ _ _ _ ⟨⟩

/-- A worker is told of a success only when its request was applied. For other batches there is
nothing to see, as they are over. -/
theorem of_work (h : scene.Vouches kind q) (sound : scene.IsSound) {number : Nat} {answer : Answer}
    {worker worker' : Worker} {shared : Shared}
    (admitted : scene.admits (.worker number answer) = true)
    (found : scene.machine.hub.batch? number = some worker)
    (stepped : worker.step scene.machine.hub.config scene.machine.hub.toShared answer =
      some (shared, worker'))
    {machine : Machine} (next : machine = { scene.machine with
      hub.toShared := shared
      hub.batches := scene.machine.hub.batches.set number worker' }) :
    Vouches kind q { scene with
      machine
      deeds := scene.deeds ++
        (forgottenKeys scene.machine machine (.worker number answer)).map .forgotten
      applied := scene.stillApplied (.worker number answer) } := by
  subst next
  intro number' later found'
  change (scene.machine.hub.batches.set number worker')[number']? = some later at found'
  rw [List.getElem?_set] at found'
  split at found'
  · rename_i same
    subst same
    split at found'
    · cases found'
      -- For the batch itself this is the step of its item; no key is forgotten before the item is
      -- done.
      refine (h _ _ found).step stepped ?_ ?_
      · intro key action stage early _
        exact Stage.vouched_of_isEarly (.inl early)
      · intro key action rest stage next atWork pending move here ofKind
        have sameKeys : shared.cache.keys = scene.machine.hub.cache.keys :=
          move.keys_of_ne_done nofun
        rw [forgottenKeys_eq_nil fun key member => by rw [sameKeys]; exact member,
          List.map_nil, List.append_nil]
        have launched := sound.launched _ _ found _ _ _ _ atWork pending
        refine move.vouched launched (here ofKind) ?_ ?_ ?_ rfl
        · rintro dispatch flight lines rfl rfl
          exact applied_of_admits admitted found atWork pending
        · rintro now rfl
          simp [stillApplied]
        · intro noStart
          rw [stillApplied_of_ne_time noStart]
    · cases found'
  · -- Another batch is not at work while this one is.
    rename_i different
    intro stage key action rest atWork
    have active : later.isOver = false := by rw [Worker.isOver, atWork]
    exact absurd (sound.singleFlight.unique found (Worker.isOver_of_step stepped) found' active)
      different

/-- Every cue keeps what is vouched for, when a request that is applied establishes it. What is
established when a request is applied is remembered until the worker reads the answer. -/
theorem step (h : scene.Vouches kind q) (sound : scene.IsSound) {cue : Cue}
    {result : Option Return} (stepped : scene.step cue = some (scene', result))
    (reached : ∀ number key dispatch flight action,
      scene.exchange? number = some (key, some dispatch, flight) →
        Serves flight.operation action → kind action →
          q (scene.deeds ++ [.applied key flight.request.registration.destination dispatch]) key) :
    scene'.Vouches kind q := by
  rcases step_cases stepped with
    ⟨label, machine, -, admitted, moved, rfl⟩ | ⟨catalog, -, -, rfl⟩ |
      ⟨number, key, dispatch, flight, -, -, exchange, rfl⟩
  · rcases moved.worker_cases with
      ⟨number, answer, worker, shared, worker', rfl, found, worked, next⟩ | other
    · exact h.of_work sound admitted found worked next
    · obtain ⟨noneForgotten, sameApplied⟩ := still_of_other other
      rw [noneForgotten, sameApplied, List.map_nil, List.append_nil]
      exact h.of_other other moved
  · exact h
  · exact apply sound exchange fun action => reached number key dispatch flight action exchange

end Vouches

/-- Something is said of every recorded key, and vouched for by every upload that succeeds. The keys
are those that may be recorded, in memory or in the file, since a session may load the file again.
-/
structure Backed (q : List Deed → String → Prop) (scene : Scene) : Prop where
  recorded : ∀ key, scene.machine.hub.cache.Recorded scene.machine.hub.disk key → q scene.deeds key
  vouched : ∀ number worker, scene.machine.hub.batch? number = some worker →
    worker.AtWork fun key action stage => action = .add →
      stage.Vouched (number ∈ scene.applied) (q scene.deeds key)

namespace Backed

variable {q : List Deed → String → Prop} {allowed : String → Destination → Dispatch → Prop}
  {scene scene' : Scene}

/-- Nothing is said of an empty cache. This is where the cache at the beginning of a run is asked to
be empty. -/
theorem start {config : Config} {client : Client} {cache : Cache} {disk : Disk}
    {catalog : List String} (empty : ∀ key, ¬ cache.Recorded disk key) :
    (Scene.start config client cache disk catalog).Backed q where
  recorded key recorded := absurd recorded (empty key)
  vouched := Vouches.start

/-- An upload that is applied establishes what is vouched for. It is applied before it is answered,
and recorded only after that. -/
theorem apply (h : scene.Backed q) (sound : scene.IsSound) (lasting : Lasting q allowed)
    {number : Nat} {key : String} {dispatch : Dispatch} {flight : Flight}
    (exchange : scene.exchange? number = some (key, some dispatch, flight))
    (granted : allowed key flight.request.registration.destination dispatch) :
    Backed q { scene with
      deeds := scene.deeds ++ [.applied key flight.request.registration.destination dispatch]
      applied := number :: scene.applied } := by
  refine ⟨fun other recorded => lasting.applied _ _ _ _ _ granted (h.recorded other recorded),
    Vouches.apply sound exchange fun action serves isAdd => ?_⟩
  obtain ⟨worker, _, rest, found, atWork, pending⟩ := exchange?_eq_some exchange
  obtain ⟨verb, -⟩ := (sound.launched _ _ found _ _ _ _ atWork pending).2 dispatch rfl
  refine lasting.upload _ _ _ _ granted ?_
  rcases serves with ⟨isPut, -⟩ | ⟨-, isRemove⟩
  · rw [verb, isPut]
  · rw [isAdd] at isRemove
    cases isRemove

/-- Whoever is no worker brings in no key and confirms no upload. Loading the cache again brings
back the keys in its file, which were recorded before. -/
theorem of_other (h : scene.Backed q) {label : Label} {machine : Machine} {result : Option Return}
    (other : ∀ number answer, label ≠ .worker number answer)
    (moved : scene.machine.Transition label machine result) : Backed q { scene with machine } := by
  refine ⟨fun key recorded => h.recorded key ?_, Vouches.of_other h.vouched other moved⟩
  change machine.hub.cache.Recorded machine.hub.disk key at recorded
  rcases moved.cache_cases other with ⟨sameCache, sameDisk⟩ | ⟨trouble, ended, -, loaded⟩
  · rwa [sameCache, sameDisk] at recorded
  · exact Cache.recorded_of_load loaded recorded

/-- A worker records the key of an upload that was vouched for. Only a successful operation leads to
this stage. -/
theorem of_work (h : scene.Backed q) (sound : scene.IsSound) (lasting : Lasting q allowed)
    {number : Nat} {answer : Answer} {worker worker' : Worker} {shared : Shared}
    (admitted : scene.admits (.worker number answer) = true)
    (found : scene.machine.hub.batch? number = some worker)
    (stepped : worker.step scene.machine.hub.config scene.machine.hub.toShared answer =
      some (shared, worker'))
    {machine : Machine} (next : machine = { scene.machine with
      hub.toShared := shared
      hub.batches := scene.machine.hub.batches.set number worker' }) :
    Backed q { scene with
      machine
      deeds := scene.deeds ++
        (forgottenKeys scene.machine machine (.worker number answer)).map .forgotten
      applied := scene.stillApplied (.worker number answer) } := by
  refine ⟨fun key recorded => ?_, Vouches.of_work h.vouched sound admitted found stepped next⟩
  subst next
  obtain ⟨origin, apart⟩ := forgottenKeys_spec (sound.sound _ _ found) stepped recorded
  refine lasting.forgotten_all apart ?_
  rcases origin with before | ⟨atWork, rest, pending⟩
  · exact h.recorded key before
  · exact h.vouched _ _ found _ _ _ _ atWork pending rfl

/-- Every cue keeps what is said of recorded keys, when it is something that lasts. -/
theorem step (h : scene.Backed q) (sound : scene.IsSound) (lasting : Lasting q allowed) {cue : Cue}
    {result : Option Return} (stepped : scene.step cue = some (scene', result))
    (granted : ∀ number key dispatch flight,
      scene.exchange? number = some (key, some dispatch, flight) →
        allowed key flight.request.registration.destination dispatch) : scene'.Backed q := by
  rcases step_cases stepped with
    ⟨label, machine, -, admitted, moved, rfl⟩ | ⟨catalog, -, -, rfl⟩ |
      ⟨number, key, dispatch, flight, -, -, exchange, rfl⟩
  · rcases moved.worker_cases with
      ⟨number, answer, worker, shared, worker', rfl, found, worked, next⟩ | other
    · exact h.of_work sound lasting admitted found worked next
    · obtain ⟨noneForgotten, sameApplied⟩ := still_of_other other
      rw [noneForgotten, sameApplied, List.map_nil, List.append_nil]
      exact h.of_other other moved
  · exact ⟨h.recorded, h.vouched⟩
  · exact h.apply sound lasting exchange (granted _ _ _ _ exchange)

end Backed

end Scene

end PreviewSync.Sync
