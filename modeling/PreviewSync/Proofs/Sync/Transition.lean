import PreviewSync.Sync.Session

/-!
# The steps of a machine

Everything that a step of a pass and a step of the whole machine can do, said once. All that is
proved about runs is read off these lists.

## Main Definitions

* `Hub.PassMove` — what a step of a pass can do, with `Hub.passMove_of_pass`
* `OwnerPoint.holdsLock`, `OwnerPoint.destination?` — what a point of the owner tells
* `Machine.Transition` — what a step of a machine can do, with `Machine.transition_of_step`
* `Machine.Origin` — what a batch after a step was before it
* `Machine.Transition.worker_cases`, `Machine.Transition.cache_cases` — what workers do, and what
  others do to the change cache
-/

namespace PreviewSync.Sync

namespace Hub

/-- What a step of a pass can do: from hub, stage and answer to hub and progress. There is one
constructor for each thing that can happen, guards included, so no later proof has to take a pass
apart again. -/
inductive PassMove (hub : Hub) (party : Party) (destination : String) :
    Pass → CatalogAnswer → Hub → PassProgress → Prop
  | giveUp (taken : hub.lock ≠ none) :
      PassMove hub party destination .entering .proceed hub (.ended (.ok .busy))
  | enter (free : hub.lock = none) :
      PassMove hub party destination .entering .proceed { hub with lock := some party }
        (.reached .inspecting)
  | findEmpty (empty : hub.slot = none) :
      PassMove hub party destination .inspecting .proceed hub (.reached .reopening)
  | collect {number : Nat} {collected : Collected} (full : hub.slot = some number)
      (atEnd : hub.isOver number = true) (result : hub.result number = .ok collected) :
      PassMove hub party destination .inspecting .proceed
        { hub with slot := none, lastReport := some collected } (.reached .reopening)
  | lose {number : Nat} {fault : Fault} (full : hub.slot = some number)
      (atEnd : hub.isOver number = true) (result : hub.result number = .error fault) :
      PassMove hub party destination .inspecting .proceed { hub with slot := none, lock := none }
        (.ended (.error fault))
  | findActive {number : Nat} (full : hub.slot = some number)
      (active : hub.isOver number = false) :
      PassMove hub party destination .inspecting .proceed { hub with lock := none }
        (.ended (.ok .busy))
  | reopen :
      PassMove hub party destination .reopening (.opened (.ok ())) hub (.reached .listing)
  | failToOpen {fault : PreviewSync.Fault} :
      PassMove hub party destination .reopening (.opened (.error fault)) { hub with lock := none }
        (.ended (.error (.catalog fault)))
  | failToList {fault : PreviewSync.Fault} :
      PassMove hub party destination .listing (.keys (.error fault)) { hub with lock := none }
        (.ended (.error (.catalog fault)))
  | agree {keys : List String} (same : difference keys hub.cache.keys = []) :
      PassMove hub party destination .listing (.keys (.ok keys)) { hub with lock := none }
        (.ended (.ok .upToDate))
  | differ {keys : List String} (differing : difference keys hub.cache.keys ≠ []) :
      PassMove hub party destination .listing (.keys (.ok keys)) hub
        (.reached (.lowering (difference keys hub.cache.keys)))
  | lower {actions : List (String × Action)} :
      PassMove hub party destination (.lowering actions) .proceed { hub with cancel := false }
        (.reached (.launching actions))
  | launch {actions : List (String × Action)} :
      PassMove hub party destination (.launching actions) .proceed
        { hub with
          batches := hub.batches ++
            [{ number := hub.batches.length, destination, pending := actions }]
          slot := some hub.batches.length
          lock := none }
        (.ended (.ok (.started actions.length)))
  | failToLaunch {actions : List (String × Action)} {reason : String} :
      PassMove hub party destination (.launching actions) (.refused reason)
        { hub with lock := none } (.ended (.error (.spawn reason)))

variable {hub hub' : Hub} {party : Party} {destination : String} {pass : Pass}
  {answer : CatalogAnswer} {progress : PassProgress}

/-- A look at the slot. -/
theorem passMove_of_inspect (h : hub.inspect = (hub', progress)) :
    PassMove hub party destination .inspecting .proceed hub' progress := by
  unfold inspect at h
  split at h
  · cases h
    exact .findEmpty ‹_›
  · rename_i number full
    split at h
    · rename_i atEnd
      have result : ({ hub with slot := none } : Hub).result number = hub.result number := rfl
      dsimp only at h
      split at h
      · rename_i collected same
        cases h
        exact .collect full atEnd (result ▸ same)
      · rename_i fault same
        cases h
        exact .lose full atEnd (result ▸ same)
    · rename_i active
      cases h
      exact .findActive full (Bool.eq_false_iff.2 active)

/-- Every step of a pass is one of the moves. This is the only place where the stages of a pass are
gone through one by one. -/
theorem passMove_of_pass (h : hub.pass party destination pass answer = some (hub', progress)) :
    PassMove hub party destination pass answer hub' progress := by
  unfold Hub.pass at h
  split at h
  · split at h
    · rename_i taken
      cases h
      exact .giveUp (by simpa [isLocked, Option.isSome_iff_ne_none] using taken)
    · rename_i free
      cases h
      exact .enter (by simpa [isLocked] using free)
  · exact passMove_of_inspect (Option.some.inj h)
  · cases h
    exact .reopen
  · cases h
    exact .failToOpen
  · unfold Hub.compare at h
    split at h
    · cases h
      exact .agree ‹_›
    · rename_i differing
      cases h
      exact .differ differing
  · cases h
    exact .failToList
  · cases h
    exact .lower
  · cases h
    exact .launch
  · cases h
    exact .failToLaunch
  · cases h

/-- A batch after a cancellation of the request that is known. Which batch that is depends on what a
worker has made known, so either case may be that of any batch. -/
theorem batch?_of_cancelPublished {number : Nat} {worker' : Worker}
    (found : hub.cancelPublished.batch? number = some worker') :
    ∃ worker, hub.batch? number = some worker ∧ (worker' = worker ∨ worker' = worker.cancel) := by
  unfold cancelPublished at found
  split at found
  · rw [batch?, List.getElem?_modify] at found
    obtain ⟨worker, before, same⟩ := Option.map_eq_some_iff.1 found
    refine ⟨worker, before, ?_⟩
    split at same
    · exact .inr same.symm
    · exact .inl same.symm
  · exact ⟨worker', found, .inl rfl⟩

/-- A batch after a step of a pass was there before, or is the one that is started. So whatever is
kept by workers has to be shown of a new batch only, and of no other one again. -/
theorem PassMove.batch?_cases (moved : PassMove hub party destination pass answer hub' progress)
    {number : Nat} {worker : Worker} (found : hub'.batch? number = some worker) :
    hub.batch? number = some worker ∨ ∃ actions, pass = .launching actions ∧
      worker = { number := hub.batches.length, destination, pending := actions } := by
  cases moved with
  | @launch actions =>
    rw [batch?, List.getElem?_append] at found
    split at found
    · exact .inl found
    · have only := List.mem_of_getElem? found
      exact .inr ⟨actions, rfl, List.mem_singleton.1 only⟩
  | _ => exact .inl found

/-- A step of a pass leaves every batch as it is. Batches are added at the end of the list, so the
number of one is never given to another. -/
theorem PassMove.batch?_eq_some (moved : PassMove hub party destination pass answer hub' progress)
    {number : Nat} {worker : Worker} (found : hub.batch? number = some worker) :
    hub'.batch? number = some worker := by
  cases moved with
  | launch =>
    have bound : number < hub.batches.length := (List.getElem?_eq_some_iff.1 found).1
    exact (List.getElem?_append_left bound).trans found
  | _ => exact found

end Hub

/-- Whether an owner at a point holds the lock. A pass that is entering has asked for it and not got
it yet. -/
def OwnerPoint.holdsLock : OwnerPoint → Bool
  | passing _ .entering => false
  | passing _ _ | joining _ => true
  | _ => false

/-- Whether an owner at a point is about to start a session. At these points there is neither a
session nor a watcher yet, and the call can still fail without leaving anything behind. -/
def OwnerPoint.isBeginning : OwnerPoint → Bool
  | opening _ | loading _ | arming _ => true
  | _ => false

/-- The destination that an owner at a point is concerned with. An owner that waits, or ends a
session, makes no requests and is concerned with none. -/
def OwnerPoint.destination? : OwnerPoint → Option String
  | opening session | loading session | arming session => some session.destination
  | passing destination _ => some destination
  | _ => none

/-- Where a pass of the owner leads to. A pass that has ended leaves the owner at rest, with what it
returns told by `PassProgress.return?`. -/
def OwnerPoint.ofPass (destination : String) : PassProgress → OwnerPoint
  | .reached pass => passing destination pass
  | .ended _ => resting

/-- What a pass of the owner returns. -/
def PassProgress.return? : PassProgress → Option Return
  | reached _ => none
  | ended result => some (.passed result)

/-- The pass that is left to run, if it goes on. With this and `PassProgress.return?` the passes of
owner and watcher are told in one way, though only the owner's return anything. -/
def PassProgress.pass? : PassProgress → Option Pass
  | reached pass => some pass
  | ended _ => none

namespace Machine

/-- What a step of a machine can do: from machine and label to machine and what a call returns.
Points of the owner that invariants do not tell apart share a constructor, which names what they
have in common instead. -/
inductive Transition (m : Machine) : Label → Machine → Option Return → Prop
  /-- The owner goes from one point to another, or returns, and nothing else is changed. -/
  | wander {label : Label} {owner : OwnerPoint} {result : Option Return}
      (before : m.owner = .resting ∨ m.owner.isBeginning = true)
      (after : owner.holdsLock = false)
      (begins : owner.isBeginning = true → m.owner.isBeginning = true ∨ m.session = none)
      (aim : ∀ destination, owner.destination? = some destination →
        m.owner.destination? = some destination ∨
          (∃ file, label = .call (.begin file destination)) ∨
          ∃ session, m.session = some session ∧ session.destination = destination)
      (other : result ≠ some (.passed (.ok .upToDate)))
      (idle : ∀ number answer, label ≠ .worker number answer) :
      Transition m label { m with owner } result
  | leave {session : Session} (running : m.session = some session) (resting : m.owner = .resting) :
      Transition m (.call .stop) { m with session := none, owner := .halting } none
  | load {session : Session} {trouble : Disk.Trouble} {cache : Cache} {disk : Disk}
      {result : Except PreviewSync.Fault Unit} (atLoad : m.owner = .loading session)
      (loaded : m.hub.cache.load m.hub.disk trouble = (cache, disk, result)) {owner : OwnerPoint}
      (next : owner = .arming session ∨ owner = .resting) {answer : Option Return}
      (other : answer ≠ some (.passed (.ok .upToDate))) :
      Transition m (.owner (.load trouble))
        { m with hub.cache := cache, hub.disk := disk, owner } answer
  | arm {session : Session} {isValid : Bool} {refusal : Option String} {watcher : Watch.Watcher}
      (atArm : m.owner = .arming session) :
      Transition m (.owner (.status isValid refusal))
        { m with
          session := some session
          watching := some { watcher, destination := session.destination }
          owner := .passing session.destination .entering } none
  | pass {destination : String} {pass : Pass} {answer : CatalogAnswer} {hub : Hub}
      {progress : PassProgress} (atPass : m.owner = .passing destination pass)
      (moved : Hub.PassMove m.hub .owner destination pass answer hub progress) :
      Transition m (.owner (.catalog answer))
        { m with hub, owner := .ofPass destination progress } progress.return?
  | take {number : Nat} (waiting : m.owner = .waiting) (free : m.hub.lock = none)
      (full : m.hub.slot = some number) :
      Transition m (.owner .proceed)
        { m with
          hub.slot := none
          hub.lock := some .owner
          owner := .joining number } none
  | findNothing (waiting : m.owner = .waiting) (empty : m.hub.slot = none) :
      Transition m (.owner .proceed)
        { m with hub.slot := none, hub.lastReport := none, owner := .resting }
        (some (.collected (.ok m.hub.lastReport)))
  | join {number : Nat} (joining : m.owner = .joining number)
      (atEnd : m.hub.isOver number = true) :
      Transition m (.owner .proceed) { m with hub.lock := none, owner := .resting }
        (some (.collected ((m.hub.result number).map some)))
  | halt (halting : m.owner = .halting)
      (idle : ∀ watching, m.watching = some watching → watching.pass = none) :
      Transition m (.owner .proceed) { m with watching := none, owner := .raising } none
  | raise (raising : m.owner = .raising) :
      Transition m (.owner .proceed) { m with hub := m.hub.raise, owner := .cancelling } none
  | cancel (cancelling : m.owner = .cancelling) :
      Transition m (.owner .proceed)
        { m with hub := m.hub.cancelPublished, owner := .waiting } none
  | poll {watcher watcher' : Watch.Watcher} {destination : String} {pass : Option Pass}
      {reading : Option UInt64} (idle : m.watching = some ⟨watcher, destination, none⟩)
      (next : ∀ p, pass = some p → p = .entering) :
      Transition m (.poll reading)
        { m with watching := some ⟨watcher', destination, pass⟩ } none
  | watch {watcher : Watch.Watcher} {destination : String} {pass : Pass} {answer : CatalogAnswer}
      {hub : Hub} {progress : PassProgress}
      (atPass : m.watching = some ⟨watcher, destination, some pass⟩)
      (moved : Hub.PassMove m.hub .watcher destination pass answer hub progress) :
      Transition m (.watcher answer)
        { m with hub, watching := some ⟨watcher, destination, progress.pass?⟩ } none
  | work {number : Nat} {answer : Answer} {worker worker' : Worker} {shared : Shared}
      (found : m.hub.batch? number = some worker)
      (stepped : worker.step m.hub.config m.hub.toShared answer = some (shared, worker')) :
      Transition m (.worker number answer)
        { m with
          hub.toShared := shared
          hub.batches := m.hub.batches.set number worker' } none
  | register {identifier : String} {profile : AccessProfile} {destination : Destination}
      {client : Store.Client}
      (registered : m.hub.client.register identifier profile destination = .ok client) :
      Transition m (.register identifier profile destination) { m with hub.client := client } none
  | refuseRegister {identifier : String} {profile : AccessProfile} {destination : Destination} :
      Transition m (.register identifier profile destination) m none
  | unregister {identifier : String} :
      Transition m (.unregister identifier)
        { m with hub.client := m.hub.client.remove identifier } none

variable {m m' : Machine} {label : Label} {result : Option Return}

/-- The beginning of a call. It settles which point the owner goes to, and does nothing else that
others could notice. -/
theorem transition_of_call {call : Call} (resting : m.owner = .resting)
    (h : m.call call = (m', result)) : Transition m (.call call) m' result := by
  have before : m.owner = .resting ∨ m.owner.isBeginning = true := .inl resting
  unfold Machine.call at h
  split at h
  · rename_i file destination
    split at h
    · cases h
      exact .wander before rfl nofun nofun nofun nofun
    · rename_i idle
      have idle : m.session = none := by
        simpa [isSynchronizing, Option.not_isSome_iff_eq_none] using idle
      split at h
      · cases h
        refine .wander before rfl (fun _ => .inr idle) (fun other aim => ?_) nofun nofun
        cases aim
        exact .inr (.inl ⟨file, rfl⟩)
      · cases h
        exact .wander before rfl nofun nofun nofun nofun
  · split at h
    · rename_i session running
      cases h
      refine .wander before rfl nofun (fun other aim => ?_) nofun nofun
      cases aim
      exact .inr (.inr ⟨session, running, rfl⟩)
    · cases h
      exact .wander before rfl nofun nofun nofun nofun
  · cases h
    exact .wander before rfl nofun nofun nofun nofun
  · split at h
    · rename_i session running
      cases h
      exact .leave running resting
    · cases h
      exact .wander before rfl nofun nofun nofun nofun

/-- A step of the owner, by the points that it may start from. It is apart from the steps of watcher
and workers, as the owner has more points than both have together. -/
theorem transition_of_ownerStep {answer : OwnerAnswer}
    (h : m.ownerStep answer = some (m', result)) :
    Transition m (.owner answer) m' result := by
  unfold ownerStep at h
  -- The cases are the points of the owner with the answers that they wait for.
  split at h
  · rename_i session atPoint
    cases h
    refine .wander (by rw [atPoint]; exact .inr rfl) rfl (fun _ => by rw [atPoint]; exact .inl rfl)
      (fun other aim => ?_) nofun nofun
    rw [atPoint]
    exact .inl aim
  · rename_i session fault atPoint
    cases h
    exact .wander (by rw [atPoint]; exact .inr rfl) rfl nofun nofun nofun nofun
  · rename_i session trouble atPoint
    rcases loaded : m.hub.cache.load m.hub.disk trouble with ⟨cache, disk, fault | ⟨⟩⟩ <;>
      rw [Machine.load, loaded] at h <;> cases h
    · exact .load atPoint loaded (.inr rfl) nofun
    · exact .load atPoint loaded (.inl rfl) nofun
  · rename_i session fault atPoint
    cases h
    exact .wander (by rw [atPoint]; exact .inr rfl) rfl nofun nofun nofun nofun
  · rename_i session isValid refusal atPoint
    unfold Machine.arm at h
    split at h
    · cases h
      exact .arm atPoint
    · cases h
      exact .wander (by rw [atPoint]; exact .inr rfl) rfl nofun nofun nofun nofun
  · rename_i destination pass answer atPoint
    obtain ⟨⟨hub, progress⟩, moved, same⟩ := Option.map_eq_some_iff.1 h
    have move := Hub.passMove_of_pass moved
    cases progress <;> cases same <;> exact .pass atPoint move
  · rename_i atPoint
    unfold Machine.take Hub.take at h
    split at h
    · cases h
    · rename_i free
      have free : m.hub.lock = none := by simpa [Hub.isLocked] using free
      cases full : m.hub.slot with
      | some number =>
        rw [full] at h
        cases h
        exact .take atPoint free full
      | none =>
        rw [full] at h
        cases h
        exact .findNothing atPoint full
  · rename_i number atPoint
    unfold Machine.join at h
    split at h
    · rename_i atEnd
      cases h
      exact .join atPoint atEnd
    · cases h
  · rename_i atPoint
    unfold Machine.halt at h
    split at h
    · cases h
    · rename_i idle
      cases h
      refine .halt atPoint fun watching found => ?_
      rcases watching with ⟨watcher, destination, _ | pass⟩
      · rfl
      · exact absurd found (idle watcher destination pass)
  · rename_i atPoint
    cases h
    exact .raise atPoint
  · rename_i atPoint
    cases h
    exact .cancel atPoint
  · cases h

/-- Every step of a machine is one of the transitions. An invariant is proved by cases on them, and
a change of a step of the machine is taken up here and not in the invariants. -/
theorem transition_of_step (h : m.step label = some (m', result)) :
    Transition m label m' result := by
  cases label with
  | call call =>
    unfold Machine.step at h
    dsimp only at h
    split at h
    · rename_i resting
      exact transition_of_call resting (Option.some.inj h)
    · cases h
  | owner answer => exact transition_of_ownerStep h
  | poll reading =>
    obtain ⟨next, polled, same⟩ := Option.map_eq_some_iff.1 h
    cases same
    unfold Machine.poll at polled
    split at polled
    · rename_i watcher destination idle
      -- A reading that is reported makes the watcher enter a pass; it never takes one up half way.
      have onlyEntering : ∀ isReported p,
          (if isReported = true then some Pass.entering else none) = some p → p = .entering := by
        intro isReported p started
        cases isReported <;> cases started
        rfl
      cases polled
      exact .poll idle fun p started => onlyEntering _ p started
    · cases polled
  | watcher answer =>
    obtain ⟨next, stepped, same⟩ := Option.map_eq_some_iff.1 h
    cases same
    unfold Machine.watcherStep at stepped
    split at stepped
    · rename_i watcher destination pass atPass
      obtain ⟨⟨hub, progress⟩, moved, same⟩ := Option.map_eq_some_iff.1 stepped
      have move := Hub.passMove_of_pass moved
      cases progress <;> cases same <;> exact .watch atPass move
    · cases stepped
  | worker number answer =>
    obtain ⟨hub, worked, same⟩ := Option.map_eq_some_iff.1 h
    cases same
    obtain ⟨worker, found, worked⟩ := Option.bind_eq_some_iff.1 worked
    obtain ⟨⟨shared, worker'⟩, stepped, same⟩ := Option.bind_eq_some_iff.1 worked
    cases same
    exact .work found stepped
  | register identifier profile destination =>
    cases h
    unfold Machine.register
    split
    · exact .register ‹_›
    · exact .refuseRegister
  | unregister identifier =>
    cases h
    exact .unregister

/-- A pass that is about to start a batch of some actions for a destination, whichever party runs
it. Nothing else gives a batch its actions. -/
def Launching (m : Machine) (destination : String) (actions : List (String × Action)) : Prop :=
  m.owner = .passing destination (.launching actions) ∨
    ∃ watcher, m.watching = some ⟨watcher, destination, some (.launching actions)⟩

/-- What a batch after a step was before it. Batches are never taken off the list, so what is kept
of each from step to step holds of all that there ever were. -/
inductive Origin (m : Machine) (label : Label) (number : Nat) : Worker → Prop
  | kept {worker : Worker} (found : m.hub.batch? number = some worker) :
      Origin m label number worker
  | cancelled {worker : Worker} (found : m.hub.batch? number = some worker) :
      Origin m label number worker.cancel
  | stepped {worker worker' : Worker} {answer : Answer} {shared : Shared}
      (own : label = .worker number answer) (found : m.hub.batch? number = some worker)
      (stepped : worker.step m.hub.config m.hub.toShared answer = some (shared, worker')) :
      Origin m label number worker'
  | launched {destination : String} {actions : List (String × Action)}
      (launching : m.Launching destination actions) :
      Origin m label number { number := m.hub.batches.length, destination, pending := actions }

/-- Every batch comes from somewhere. This is what an invariant about single batches is kept by: it
need not be known which of the many steps was taken, but only which of four things it did to the
batch. -/
theorem Transition.origin (h : m.Transition label m' result) {number : Nat} {worker : Worker}
    (found : m'.hub.batch? number = some worker) : m.Origin label number worker := by
  cases h with
  | pass atPass moved =>
    rcases moved.batch?_cases found with before | ⟨actions, rfl, rfl⟩
    · exact .kept before
    · exact .launched (.inl atPass)
  | watch atPass moved =>
    rcases moved.batch?_cases found with before | ⟨actions, rfl, rfl⟩
    · exact .kept before
    · exact .launched (.inr ⟨_, atPass⟩)
  | cancel =>
    obtain ⟨worker, before, rfl | rfl⟩ := Hub.batch?_of_cancelPublished found
    · exact .kept before
    · exact .cancelled before
  | work there stepped =>
    rw [Hub.batch?, List.getElem?_set] at found
    split at found
    · rename_i same
      subst same
      split at found
      · cases found
        exact .stepped rfl there stepped
      · cases found
    · exact .kept found
  | _ => exact .kept found

/-- A step is one of a worker, or of somebody else. Only the first kind changes what workers share
with the world; of the second it is enough to know that it leaves all this alone. -/
theorem Transition.worker_cases (moved : m.Transition label m' result) :
    (∃ number answer worker shared worker', label = .worker number answer ∧
      m.hub.batch? number = some worker ∧
      worker.step m.hub.config m.hub.toShared answer = some (shared, worker') ∧
      m' = { m with
        hub.toShared := shared
        hub.batches := m.hub.batches.set number worker' }) ∨
    ∀ number answer, label ≠ .worker number answer := by
  cases moved with
  | wander _ _ _ _ _ idle => exact .inr idle
  | work found stepped => exact .inl ⟨_, _, _, _, _, rfl, found, stepped, rfl⟩
  | _ => exact .inr nofun

/-- Whoever is no worker changes the change cache and its disk only by loading the cache. So the
keys that are recorded in between are known from the steps of workers alone. -/
theorem Transition.cache_cases (moved : m.Transition label m' result)
    (other : ∀ number answer, label ≠ .worker number answer) :
    m'.hub.cache = m.hub.cache ∧ m'.hub.disk = m.hub.disk ∨
      ∃ trouble loaded, label = .owner (.load trouble) ∧
        m.hub.cache.load m.hub.disk trouble = (m'.hub.cache, m'.hub.disk, loaded) := by
  cases moved with
  | load atLoad loaded => exact .inr ⟨_, _, rfl, loaded⟩
  | pass atPass passed | watch atPass passed => cases passed <;> exact .inl ⟨rfl, rfl⟩
  | cancel =>
    refine .inl ?_
    show m.hub.cancelPublished.cache = _ ∧ m.hub.cancelPublished.disk = _
    unfold Hub.cancelPublished
    split <;> exact ⟨rfl, rfl⟩
  | work => exact absurd rfl (other _ _)
  | _ => exact .inl ⟨rfl, rfl⟩

end Machine

end PreviewSync.Sync
