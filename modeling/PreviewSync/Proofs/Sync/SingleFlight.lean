import PreviewSync.Proofs.Sync.Transition

/-!
# One batch at a time

The lock of the slot is held by the party that says so, and by nobody else. A batch that is under
way has its handle in the slot, or the owner has taken it out and waits for the end. A pass that has
looked at the slot has found it empty or emptied it, so it starts a batch only when none is under
way.

## Main Definitions

* `Hub.InFlight` — where the handles of the batches under way are
* `Machine.SingleFlight` — the invariant, with `Machine.SingleFlight.step`
* `Machine.SingleFlight.unique` — at most one batch is under way
-/

namespace PreviewSync.Sync

/-- Whether a pass has looked at the slot. From then on the slot is empty until the pass is over,
because the lock is held all the time. -/
def Pass.isPast : Pass → Bool
  | entering | inspecting => false
  | _ => true

/-- Whether the party that a pass belongs to holds the lock. The lock is asked for by the first
step, so a pass that has not taken it holds nothing. -/
def Pass.holdsLock : Pass → Bool
  | entering => false
  | _ => true

theorem Pass.holdsLock_of_isPast {pass : Pass} (h : pass.isPast = true) :
    pass.holdsLock = true := by
  cases pass <;> first | rfl | cases h

/-- The pass of an owner. -/
def OwnerPoint.pass? : OwnerPoint → Option Pass
  | passing _ pass => some pass
  | _ => none

/-- The batch that an owner waits for. Its handle is not in the slot any more, so this is the other
place where a batch under way is known. -/
def OwnerPoint.joining? : OwnerPoint → Option Nat
  | joining number => some number
  | _ => none

/-- A worker that is over takes no step. So a batch that is over stays so, and its number can be
told from that of any batch that moves. -/
theorem Worker.isOver_of_step {config : Config} {s s' : Shared} {w w' : Worker} {answer : Answer}
    (h : w.step config s answer = some (s', w')) : w.isOver = false := by
  unfold Worker.step at h
  split at h
  · rename_i atChoice
    rw [isOver, atChoice]
  · rename_i atWork _
    rw [isOver, atWork]
  · cases h

/-- A cancellation of its request does not end a worker. It takes a step of its own to notice. -/
theorem Worker.isOver_cancel (w : Worker) : w.cancel.isOver = w.isOver := by
  unfold cancel
  split
  · rename_i atWork
    rw [isOver, isOver, atWork]
  · rfl

/-- A batch that is over holds no request that could be cancelled. -/
theorem Worker.cancel_of_isOver {w : Worker} (atEnd : w.isOver = true) : w.cancel = w := by
  unfold cancel
  split
  · rename_i atWork
    rw [isOver, atWork] at atEnd
    cases atEnd
  · rfl

theorem Worker.isOver_of_result {w : Worker} {report : Report} (h : w.result? = some report) :
    w.isOver = true := by
  unfold result? at h
  split at h
  · rename_i atEnd
    rw [isOver, atEnd]
  · cases h

namespace Hub

variable {hub hub' : Hub} {party : Party} {destination : String} {pass : Pass}
  {answer : CatalogAnswer} {progress : PassProgress} {joining : Option Nat}

/-- Every batch under way has its handle in the slot, or somebody has taken it out. There is room
for one in either place, and the invariant below says that they are not both full. -/
def InFlight (hub : Hub) (joining : Option Nat) : Prop :=
  ∀ number worker, hub.batch? number = some worker → worker.isOver = false →
    hub.slot = some number ∨ joining = some number

/-- A batch that is over is none that is under way. It serves to tell two batches apart by their
numbers, where what is done to one must not matter to the other. -/
theorem ne_of_isOver {number other : Nat} {worker : Worker} (atEnd : hub.isOver number = true)
    (found : hub.batch? other = some worker) (active : worker.isOver = false) : number ≠ other := by
  rintro rfl
  rw [isOver, found] at atEnd
  dsimp only at atEnd
  rw [active] at atEnd
  cases atEnd

/-- A batch that is over has no handle to keep. So clearing the slot loses nobody: it is the one
case in which a handle may be dropped. -/
theorem InFlight.empty_slot {number : Nat} {lastReport : Option Collected} {lock : Option Party}
    (h : hub.InFlight joining) (full : hub.slot = some number) (atEnd : hub.isOver number = true) :
    InFlight { hub with slot := none, lastReport, lock } joining := by
  intro other worker found active
  rcases h other worker found active with handle | taken
  · have same : number = other := Option.some.inj (full.symm.trans handle)
    exact absurd same (ne_of_isOver atEnd found active)
  · exact .inr taken

/-- A pass starts a batch only when none is under way. The pass must have seen for itself that the
slot is empty and that nobody waits; a check before the lock was taken would not do. -/
theorem PassMove.inFlight (moved : PassMove hub party destination pass answer hub' progress)
    (h : hub.InFlight joining)
    (clear : pass.isPast = true → hub.slot = none ∧ joining = none) : hub'.InFlight joining := by
  cases moved with
  | giveUp | enter | findEmpty | findActive | reopen | failToOpen | failToList | agree | differ
  | lower | failToLaunch => exact h
  | collect full atEnd => exact h.empty_slot full atEnd
  | lose full atEnd => exact h.empty_slot full atEnd
  | launch =>
    intro number worker found active
    obtain ⟨empty, free⟩ := clear rfl
    rw [batch?, List.getElem?_append] at found
    split at found
    · rcases h number worker found active with handle | taken
      · rw [empty] at handle
        cases handle
      · rw [free] at taken
        cases taken
    · have bound := (List.getElem?_eq_some_iff.1 found).1
      rw [List.length_singleton] at bound
      have last : number = hub.batches.length := by omega
      exact .inl (by rw [last])

/-- A pass that has looked at the slot has left it empty. It stays so until the pass ends, since
nobody else writes to the slot without the lock. -/
theorem PassMove.slot_eq_none (moved : PassMove hub party destination pass answer hub' progress)
    (clear : pass.isPast = true → hub.slot = none) {next : Pass}
    (goesOn : progress.pass? = some next) (past : next.isPast = true) : hub'.slot = none := by
  cases moved <;> cases goesOn
  case enter => cases past
  case findEmpty empty => exact empty
  case collect => rfl
  all_goals exact clear rfl

/-- A pass holds the lock from its first step to its last. The only other outcome is that it finds
the lock taken, and then it changes nothing at all. -/
theorem PassMove.lock (moved : PassMove hub party destination pass answer hub' progress)
    (held : pass.holdsLock = true → hub.lock = some party) :
    (pass.holdsLock = false ∧ hub.lock ≠ none ∧ hub' = hub ∧ progress.pass? = none) ∨
      (pass.holdsLock = true ∨ hub.lock = none) ∧
        ((hub'.lock = none ∧ progress.pass? = none) ∨
          hub'.lock = some party ∧ ∃ next, progress.pass? = some next ∧ next.holdsLock = true) := by
  cases moved
  case giveUp taken => exact .inl ⟨rfl, taken, rfl, rfl⟩
  case enter free => exact .inr ⟨.inr free, .inr ⟨rfl, _, rfl, rfl⟩⟩
  case findEmpty | reopen | differ => exact .inr ⟨.inl rfl, .inr ⟨held rfl, _, rfl, rfl⟩⟩
  case collect | lower => exact .inr ⟨.inl rfl, .inr ⟨held rfl, _, rfl, rfl⟩⟩
  all_goals exact .inr ⟨.inl rfl, .inl ⟨rfl, rfl⟩⟩

/-- A lock that is free or held by a party is not held by another one. -/
theorem lock_ne {other : Party} (apart : party ≠ other)
    (lock : hub.lock = none ∨ hub.lock = some party) : hub.lock ≠ some other := by
  rintro theirs
  rcases lock with free | mine
  · rw [free] at theirs
    cases theirs
  · rw [mine] at theirs
    exact apart (Option.some.inj theirs)

end Hub

namespace Machine

/-- The pass that the watcher runs. It belongs to the watching thread, so there is none once the
thread is gone. -/
def watcherPass? (m : Machine) : Option Pass :=
  m.watching.bind (·.pass)

/-- The lock is held by whoever says so, and at most one batch is under way. The first two fields
tie the lock to the points of its parties, and the clear ones say what holding it means for the
slot. -/
structure SingleFlight (m : Machine) : Prop where
  ownerLock : m.hub.lock = some .owner ↔ m.owner.holdsLock = true
  watcherLock : m.hub.lock = some .watcher ↔
    ∃ pass, m.watcherPass? = some pass ∧ pass.holdsLock = true
  inFlight : m.hub.InFlight m.owner.joining?
  joiningClear : m.owner.joining? ≠ none → m.hub.slot = none
  ownerClear : ∀ pass, m.owner.pass? = some pass → pass.isPast = true → m.hub.slot = none
  watcherClear : ∀ pass, m.watcherPass? = some pass → pass.isPast = true → m.hub.slot = none
  watched : m.watching ≠ none → m.session ≠ none ∨ m.owner = .halting
  beginning : m.owner.isBeginning = true → m.session = none

namespace SingleFlight

variable {m m' : Machine} {label : Label} {result : Option Return}

/-- There are not two batches under way. This is what the whole invariant is for; its other parts
only keep it going. -/
theorem unique (h : m.SingleFlight) {n n' : Nat} {w w' : Worker} (found : m.hub.batch? n = some w)
    (active : w.isOver = false) (found' : m.hub.batch? n' = some w') (active' : w'.isOver = false) :
    n = n' := by
  rcases h.inFlight n w found active with handle | taken <;>
    rcases h.inFlight n' w' found' active' with handle' | taken'
  · rw [handle] at handle'
    exact Option.some.inj handle'
  · rw [h.joiningClear (by rw [taken']; nofun)] at handle
    cases handle
  · rw [h.joiningClear (by rw [taken]; nofun)] at handle'
    cases handle'
  · rw [taken] at taken'
    exact Option.some.inj taken'

/-- While the owner does not stop it, a watcher belongs to a session. In between the session is gone
already, and the watcher is waited for. -/
theorem session_ne_none (h : m.SingleFlight) (other : m.owner ≠ .halting)
    (watched : m.watching ≠ none) : m.session ≠ none := by
  rcases h.watched watched with running | halting
  · exact running
  · exact absurd halting other

/-- A watcher that does not hold the lock runs no pass that would. -/
theorem watcher_holdsLock (h : m.SingleFlight) (notTheirs : m.hub.lock ≠ some .watcher)
    {pass : Pass} (running : m.watcherPass? = some pass) : pass.holdsLock = false := by
  rw [Bool.eq_false_iff]
  intro held
  exact notTheirs (h.watcherLock.2 ⟨pass, running, held⟩)

/-- Before the first call there is no batch, and the lock is free. -/
theorem make {config : Config} {client : Store.Client} {cache : Cache} {disk : Disk} :
    (Machine.make config client cache disk).SingleFlight where
  ownerLock := by simp [Machine.make, Hub.make, OwnerPoint.holdsLock]
  watcherLock := by simp [Machine.make, Hub.make, watcherPass?]
  inFlight number worker found := by simp [Machine.make, Hub.make, Hub.batch?] at found
  joiningClear _ := rfl
  ownerClear _ _ _ := rfl
  watcherClear _ _ _ := rfl
  watched h := absurd rfl h
  beginning h := by cases h

/-- An owner that holds no lock runs no pass that has looked at the slot, and waits for no batch. -/
theorem not_holdsLock {owner : OwnerPoint} (free : owner.holdsLock = false) :
    owner.joining? = none ∧ ∀ pass, owner.pass? = some pass → pass = .entering := by
  refine ⟨?_, fun pass passing => ?_⟩
  · cases owner <;> first | rfl | cases free
  · cases owner <;> cases passing
    cases pass <;> first | rfl | cases free

/-- What an owner does without the lock. Most of its steps are of this kind, and they share the
proof that the watcher's side is left as it was. -/
theorem of_free (h : m.SingleFlight) (lock : m'.hub.lock = m.hub.lock)
    (slot : m.hub.slot = none → m'.hub.slot = none)
    (inFlight : m.hub.InFlight none → m'.hub.InFlight none) (free : m.owner.holdsLock = false)
    (free' : m'.owner.holdsLock = false)
    (pass : ∀ pass, pass.holdsLock = true →
      (m'.watcherPass? = some pass ↔ m.watcherPass? = some pass))
    (watched : m'.watching ≠ none → m'.session ≠ none ∨ m'.owner = .halting)
    (beginning : m'.owner.isBeginning = true → m'.session = none) : m'.SingleFlight where
  ownerLock := by rw [lock, h.ownerLock, free, free']
  watcherLock := by
    rw [lock, h.watcherLock]
    constructor
    · rintro ⟨p, running, held⟩
      exact ⟨p, (pass p held).2 running, held⟩
    · rintro ⟨p, running, held⟩
      exact ⟨p, (pass p held).1 running, held⟩
  inFlight := by
    have before := h.inFlight
    rw [(not_holdsLock free).1] at before
    rw [(not_holdsLock free').1]
    exact inFlight before
  joiningClear joining := absurd (not_holdsLock free').1 joining
  ownerClear p running past := by
    rw [(not_holdsLock free').2 p running] at past
    cases past
  watcherClear p running past :=
    slot (h.watcherClear p ((pass p (Pass.holdsLock_of_isPast past)).1 running) past)
  watched := watched
  beginning := beginning

/-- What is done to the batches, as long as none is started again. It covers every change of shared
state by workers, for which lock, slot and passes do not matter. -/
theorem of_batches (h : m.SingleFlight) {shared : Shared} {batches : List Worker}
    (atEnd : ∀ n w', batches[n]? = some w' → w'.isOver = false →
      ∃ w, m.hub.batch? n = some w ∧ w.isOver = false) :
    SingleFlight { m with hub.toShared := shared, hub.batches := batches } where
  ownerLock := h.ownerLock
  watcherLock := h.watcherLock
  inFlight n w' found active := by
    obtain ⟨w, found, active⟩ := atEnd n w' found active
    exact h.inFlight n w found active
  joiningClear := h.joiningClear
  ownerClear := h.ownerClear
  watcherClear := h.watcherClear
  watched := h.watched
  beginning := h.beginning

/-- A step of a pass of the owner. Either it did not get the lock and nothing is changed, or it has
the lock, and then the watcher has not. -/
theorem of_pass (h : m.SingleFlight) {destination : String} {pass : Pass} {answer : CatalogAnswer}
    {hub : Hub} {progress : PassProgress} (atPass : m.owner = .passing destination pass)
    (moved : Hub.PassMove m.hub .owner destination pass answer hub progress) :
    SingleFlight { m with hub, owner := .ofPass destination progress } := by
  have holds : ∀ pass, (OwnerPoint.passing destination pass).holdsLock = pass.holdsLock := by
    intro pass
    cases pass <;> rfl
  have ownerLock := h.ownerLock
  rw [atPass, holds] at ownerLock
  have watched : m.watching ≠ none → m.session ≠ none :=
    h.session_ne_none (by rw [atPass]; nofun)
  have notJoining : m.owner.joining? = none := by rw [atPass]; rfl
  have past : pass.isPast = true → m.hub.slot = none := h.ownerClear pass (by rw [atPass]; rfl)
  have inFlight := h.inFlight
  rw [notJoining] at inFlight
  -- A pass that does not get the lock has changed nothing; one that has it keeps the watcher out.
  rcases moved.lock ownerLock.2 with ⟨free, -, rfl, ended⟩ | ⟨mine, lock⟩
  · cases progress with
    | reached next => cases ended
    | ended result =>
      exact h.of_free rfl id id (by rw [atPass, holds, free]) rfl (fun _ _ => Iff.rfl)
        (fun there => .inl (watched there)) nofun
  · -- The watcher does not hold the lock, neither before nor after.
    have notTheirs : m.hub.lock ≠ some .watcher :=
      Hub.lock_ne (by nofun) (mine.symm.imp_right ownerLock.2)
    have notTheirs' : hub.lock ≠ some .watcher :=
      Hub.lock_ne (by nofun) (lock.imp And.left And.left)
    have after : hub.lock = some .owner ↔
        (OwnerPoint.ofPass destination progress).holdsLock = true := by
      rcases lock with ⟨free, ended⟩ | ⟨taken, next, reached, held⟩
      · cases progress with
        | reached next => cases ended
        | ended result => rw [free]; exact ⟨nofun, nofun⟩
      · cases progress with
        | ended result => cases reached
        | reached next' =>
          cases reached
          rw [taken, OwnerPoint.ofPass, holds, held]
          exact ⟨fun _ => rfl, fun _ => rfl⟩
    exact
      { ownerLock := after
        watcherLock := by
          refine ⟨fun theirs => absurd theirs notTheirs', ?_⟩
          rintro ⟨p, running, held⟩
          rw [h.watcher_holdsLock notTheirs running] at held
          cases held
        inFlight := by
          have joining : (OwnerPoint.ofPass destination progress).joining? = none := by
            cases progress <;> rfl
          rw [joining]
          exact moved.inFlight inFlight fun looked => ⟨past looked, rfl⟩
        joiningClear := fun joining => by cases progress <;> exact absurd rfl joining
        ownerClear := fun p running looked => by
          have goesOn : progress.pass? = some p := by
            cases progress <;> exact running
          exact moved.slot_eq_none past goesOn looked
        watcherClear := fun p running looked => by
          have held := h.watcher_holdsLock notTheirs running
          rw [Pass.holdsLock_of_isPast looked] at held
          cases held
        watched := fun there => .inl (watched there)
        beginning := fun there => by cases progress <;> cases there }

/-- A step of a pass of the watcher. It is the mirror image of one of the owner, but the owner has
more points at which it holds the lock. -/
theorem of_watch (h : m.SingleFlight) {watcher : Watch.Watcher} {destination : String} {pass : Pass}
    {answer : CatalogAnswer} {hub : Hub} {progress : PassProgress}
    (atPass : m.watching = some ⟨watcher, destination, some pass⟩)
    (moved : Hub.PassMove m.hub .watcher destination pass answer hub progress) :
    SingleFlight { m with hub, watching := some ⟨watcher, destination, progress.pass?⟩ } := by
  have running : m.watcherPass? = some pass := by rw [watcherPass?, atPass]; rfl
  have watcherLock : m.hub.lock = some .watcher ↔ pass.holdsLock = true := by
    rw [h.watcherLock, running]
    exact ⟨fun ⟨p, same, held⟩ => Option.some.inj same ▸ held, fun held => ⟨pass, rfl, held⟩⟩
  have past : pass.isPast = true → m.hub.slot = none := h.watcherClear pass running
  have watched := h.watched (by rw [atPass]; nofun)
  -- The same for the other party; only the fields of the watcher are concerned.
  rcases moved.lock watcherLock.2 with ⟨free, -, rfl, ended⟩ | ⟨mine, lock⟩
  · refine
      { h with
        watcherLock := ?_
        watcherClear := fun p there => ?_
        watched := fun _ => watched }
    · rw [watcherLock, free]
      refine ⟨nofun, ?_⟩
      rintro ⟨p, there, held⟩
      rw [watcherPass?, ended] at there
      cases there
    · rw [watcherPass?, ended] at there
      cases there
  · -- The owner does not hold the lock, neither before nor after.
    have idle : m.owner.holdsLock = false := by
      rw [Bool.eq_false_iff]
      intro held
      exact Hub.lock_ne (by nofun) (mine.symm.imp_right watcherLock.2)
        (h.ownerLock.2 held)
    have notTheirs : hub.lock ≠ some .owner :=
      Hub.lock_ne (by nofun) (lock.imp And.left And.left)
    refine
      { ownerLock := ?_
        watcherLock := ?_
        inFlight := moved.inFlight h.inFlight fun looked => ⟨past looked, (not_holdsLock idle).1⟩
        joiningClear := fun joining => absurd (not_holdsLock idle).1 joining
        ownerClear := fun p there looked => ?_
        watcherClear := fun p there looked => moved.slot_eq_none past there looked
        watched := fun _ => watched
        beginning := h.beginning }
    · rw [idle]
      exact ⟨fun theirs => absurd theirs notTheirs, nofun⟩
    · rcases lock with ⟨free, ended⟩ | ⟨taken, next, reached, held⟩
      · refine ⟨fun mine => ?_, ?_⟩
        · rw [free] at mine
          cases mine
        · rintro ⟨p, there, held⟩
          rw [watcherPass?, ended] at there
          cases there
      · exact ⟨fun _ => ⟨next, reached, held⟩, fun _ => taken⟩
    · rw [(not_holdsLock idle).2 p there] at looked
      cases looked

/-- The owner takes the handle out of the slot and keeps the lock until the batch is over. From now
on the batch is known by the one who waits for it, and passes find the lock taken. -/
theorem of_take (h : m.SingleFlight) {number : Nat} (waiting : m.owner = .waiting)
    (free : m.hub.lock = none) (full : m.hub.slot = some number) :
    SingleFlight
      { m with hub.slot := none, hub.lock := some .owner, owner := .joining number } where
  ownerLock := ⟨fun _ => rfl, fun _ => rfl⟩
  watcherLock := by
    refine ⟨nofun, ?_⟩
    rintro ⟨pass, running, held⟩
    rw [h.watcher_holdsLock (by rw [free]; nofun) running] at held
    cases held
  inFlight n w found active := by
    rcases h.inFlight n w found active with handle | taken
    · rw [full] at handle
      exact .inr handle
    · rw [waiting] at taken
      cases taken
  joiningClear _ := rfl
  ownerClear _ _ _ := rfl
  watcherClear _ _ _ := rfl
  watched there := .inl (h.session_ne_none (by rw [waiting]; nofun) there)
  beginning := nofun

/-- The owner has waited for the end of a batch and gives the lock back. Only now may a pass begin,
and there is no batch under way that it could miss. -/
theorem of_join (h : m.SingleFlight) {number : Nat} (joining : m.owner = .joining number)
    (atEnd : m.hub.isOver number = true) :
    SingleFlight { m with hub.lock := none, owner := .resting } where
  ownerLock := ⟨nofun, nofun⟩
  watcherLock := by
    have mine : m.hub.lock = some .owner := h.ownerLock.2 (by rw [joining]; rfl)
    refine ⟨nofun, ?_⟩
    rintro ⟨pass, running, held⟩
    rw [h.watcher_holdsLock (by rw [mine]; nofun) running] at held
    cases held
  inFlight n w found active := by
    rcases h.inFlight n w found active with handle | taken
    · exact .inl handle
    · rw [joining] at taken
      exact absurd (Option.some.inj taken) (Hub.ne_of_isOver atEnd found active)
  joiningClear there := absurd rfl there
  ownerClear := nofun
  watcherClear _ _ _ := h.joiningClear (by rw [joining]; nofun)
  watched there := .inl (h.session_ne_none (by rw [joining]; nofun) there)
  beginning := nofun

/-- A cancellation of the request that is known changes neither lock nor slot. -/
theorem of_cancel (h : m.SingleFlight) (cancelling : m.owner = .cancelling) :
    SingleFlight { m with hub := m.hub.cancelPublished, owner := .waiting } := by
  have same : m.hub.cancelPublished.lock = m.hub.lock ∧
      m.hub.cancelPublished.slot = m.hub.slot := by
    unfold Hub.cancelPublished
    split <;> exact ⟨rfl, rfl⟩
  refine h.of_free same.1 (fun empty => same.2.trans empty) (fun inFlight n w' found active => ?_)
    (by rw [cancelling]; rfl) rfl (fun _ _ => Iff.rfl)
    (fun there => .inl (h.session_ne_none (by rw [cancelling]; nofun) there)) nofun
  obtain ⟨w, before, kind⟩ := Hub.batch?_of_cancelPublished found
  have active' : w.isOver = false := by
    rcases kind with rfl | rfl
    · exact active
    · rwa [Worker.isOver_cancel] at active
  rw [same.2]
  exact inFlight n w before active'

/-- A look at the watched file leads to a new pass at most. Such a pass stands in front of the lock,
so nothing is said of it yet. -/
theorem of_poll (h : m.SingleFlight) {watcher watcher' : Watch.Watcher} {destination : String}
    {pass : Option Pass} (idle : m.watching = some ⟨watcher, destination, none⟩)
    (next : ∀ p, pass = some p → p = .entering) :
    SingleFlight { m with watching := some ⟨watcher', destination, pass⟩ } := by
  refine { h with watcherLock := ?_, watcherClear := ?_, watched := ?_ }
  · have before := h.watcherLock
    rw [watcherPass?, idle] at before
    rw [before]
    constructor
    · rintro ⟨p, running, held⟩
      cases running
    · rintro ⟨p, running, held⟩
      rw [next p running] at held
      cases held
  · intro p running past
    rw [next p running] at past
    cases past
  · intro _
    exact h.watched (by rw [idle]; nofun)

/-- A step of a batch starts no other one. Nor does it bring back one that is over. -/
theorem of_work (h : m.SingleFlight) {number : Nat} {answer : Answer} {worker worker' : Worker}
    {shared : Shared} (found : m.hub.batch? number = some worker)
    (stepped : worker.step m.hub.config m.hub.toShared answer = some (shared, worker')) :
    SingleFlight
      { m with hub.toShared := shared, hub.batches := m.hub.batches.set number worker' } := by
  refine h.of_batches fun n w' there active => ?_
  have started : worker.isOver = false := Worker.isOver_of_step stepped
  rw [List.getElem?_set] at there
  split at there
  · rename_i same
    subst same
    exact ⟨worker, found, started⟩
  · exact ⟨w', there, active⟩

/-- Every step keeps the batches apart. Each transition has its own lemma above, by what it does to
the lock and to the slot. -/
theorem step (h : m.SingleFlight) (stepped : m.Transition label m' result) : m'.SingleFlight := by
  cases stepped with
  | wander before after begins =>
    have free : m.owner.holdsLock = false := by
      rcases before with resting | beginning
      · rw [resting]
        rfl
      · cases owner : m.owner <;> rw [owner] at beginning <;> first | rfl | cases beginning
    have notHalting : m.owner ≠ .halting := by
      intro halting
      rw [halting] at before
      rcases before with ⟨⟨⟩⟩ | ⟨⟨⟩⟩
    refine h.of_free rfl id id free after (fun _ _ => Iff.rfl)
      (fun there => .inl (h.session_ne_none notHalting there)) (fun there => ?_)
    rcases begins there with here | idle
    · exact h.beginning here
    · exact idle
  | leave running resting =>
    refine h.of_free rfl id id (by rw [resting]; rfl) rfl (fun _ _ => Iff.rfl) (fun _ => .inr rfl)
      nofun
  | load atLoad loaded next other =>
    have idle : m.session = none := h.beginning (by rw [atLoad]; rfl)
    refine h.of_free rfl id id (by rw [atLoad]; rfl) ?_ (fun _ _ => Iff.rfl)
      (fun there => .inl (h.session_ne_none (by rw [atLoad]; nofun) there)) (fun _ => idle)
    rcases next with rfl | rfl <;> rfl
  | arm atArm =>
    -- No watcher is left over from a session before, since there is none without a session.
    have idle : m.session = none := h.beginning (by rw [atArm]; rfl)
    have unwatched : m.watching = none := by
      cases watching : m.watching with
      | none => rfl
      | some _ =>
        exact absurd idle (h.session_ne_none (by rw [atArm]; nofun) (by rw [watching]; nofun))
    refine h.of_free rfl id id (by rw [atArm]; rfl) rfl (fun p _ => ?_) (fun _ => .inl nofun)
      nofun
    rw [watcherPass?, watcherPass?, unwatched]
    rfl
  | pass atPass moved => exact h.of_pass atPass moved
  | take waiting free full => exact h.of_take waiting free full
  | findNothing waiting empty =>
    refine h.of_free rfl (fun _ => rfl) (fun inFlight n w found active => ?_) (by rw [waiting]; rfl)
      rfl (fun _ _ => Iff.rfl)
      (fun there => .inl (h.session_ne_none (by rw [waiting]; nofun) there)) nofun
    rcases inFlight n w found active with handle | taken
    · rw [empty] at handle
      cases handle
    · cases taken
  | join joining atEnd => exact h.of_join joining atEnd
  | halt halting idle =>
    refine h.of_free rfl id id (by rw [halting]; rfl) rfl (fun p held => ?_)
      (fun there => absurd rfl there) nofun
    have none : m.watcherPass? = none := by
      unfold watcherPass?
      cases watching : m.watching with
      | none => rfl
      | some watching' => exact idle watching' watching
    rw [none, watcherPass?]
    rfl
  | raise raising =>
    exact h.of_free rfl id id (by rw [raising]; rfl) rfl (fun _ _ => Iff.rfl)
      (fun there => .inl (h.session_ne_none (by rw [raising]; nofun) there)) nofun
  | cancel cancelling => exact h.of_cancel cancelling
  | poll idle next => exact h.of_poll idle next
  | watch atPass moved => exact h.of_watch atPass moved
  | work found stepped => exact h.of_work found stepped
  | register registered => exact { h with }
  | refuseRegister => exact h
  | unregister => exact { h with }

end SingleFlight

end Machine

end PreviewSync.Sync
