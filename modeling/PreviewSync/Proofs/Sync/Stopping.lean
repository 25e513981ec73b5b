import PreviewSync.Proofs.Sync.Handshake
import PreviewSync.Proofs.Sync.Quiescence

/-!
# The end of a session misses no request

A session is stopped in two steps once its watcher is gone: the flag is raised, and the request that
is known is cancelled. Workers act before, between and after them. A request is known from the
moment its worker makes it known until it is cleared, since no other batch is under way, so after
both steps every batch under way has been told to end. The flag stays up as long as it is under way,
because only a pass that has found all batches over lowers it.

## Main Definitions

* `Worker.InPlace` — a batch that stands as it has to, and whose request is known
* `Machine.IsStoppable` — all batches stand so, and the owner raises the flag before it cancels
* `Machine.Transition.batch?_cases` — what becomes of a batch by a step
* `Diary.windsDown_of_stop` — how a batch ends that is under way when its session is stopped
-/

namespace PreviewSync.Sync

open Store (Client)

/-- Whether an owner at a point is about to end a session, and has not cancelled the request yet. -/
def OwnerPoint.isStopping : OwnerPoint → Bool
  | halting | raising | cancelling => true
  | _ => false

namespace Worker

variable {config : Config} {s s' : Shared} {w w' : Worker} {answer : Answer}

/-- A worker keeps its number. By its number the request that is known is traced to its batch. -/
theorem number_of_step (h : w.step config s answer = some (s', w')) : w'.number = w.number := by
  rcases step_cases h with ⟨-, -, rfl⟩ | ⟨stage, key, action, rest, progress, -, -, -, rfl⟩
  · unfold choose
    split
    · rfl
    · split
      · rfl
      · split <;> rfl
  · cases progress with
    | failed fault => cases fault <;> rfl
    | _ => rfl

/-- A worker that is at work has something to work on. The item at work stays in front of those that
are pending until it is settled. -/
theorem Sound.pending_ne_nil (h : w.Sound) (stage : Stage) (atWork : w.point = .working stage) :
    w.pending ≠ [] := by
  rw [Sound, atWork] at h
  obtain ⟨-, key, action, rest, pending, -⟩ := h
  rw [pending]
  exact List.cons_ne_nil _ _

/-- A batch that is under way when its request is cancelled has been told to end. Here the flag is
up already, so an item without a request will see that instead. -/
theorem Sound.windsDown_cancel (h : w.Sound) (active : w.isOver = false) :
    w.cancel.WindsDown w.cancel := by
  refine .refl (w.isOver_cancel.trans active) ?_ h.cancel.pending_ne_nil
  unfold Worker.cancel
  split
  · rename_i stage _
    rintro _ key action rest ⟨⟩ -
    exact stage.isWarned_cancel
  · rename_i other
    exact fun stage _ _ _ atWork => absurd atWork (other stage)

/-- A batch with its own number, whose item at work stands as it has to, and whose request is known
for cancellation from the moment it is made known until it is cleared. The number is what the
cancellation goes by. -/
structure InPlace (number : Nat) (published : Option Nat) (w : Worker) : Prop where
  numbered : w.number = number
  sound : w.Sound
  orderly : w.AtWork fun _ _ stage => stage.IsOrderly
  known : w.AtWork fun _ _ stage => stage.isKnown = true → published = some number

namespace InPlace

variable {number : Nat} {published : Option Nat}

/-- A batch that is started. -/
theorem start {destination : String} {pending : List (String × Action)} :
    InPlace number published { number, destination, pending } where
  numbered := rfl
  sound := rfl
  orderly _ _ _ _ atWork := by cases atWork
  known _ _ _ _ atWork := by cases atWork

/-- A batch that is over does not care what is known. What is known may be the request of the next
batch by now. -/
theorem of_isOver (h : w.InPlace number published) (atEnd : w.isOver = true)
    {published' : Option Nat} : w.InPlace number published' where
  numbered := h.numbered
  sound := h.sound
  orderly := h.orderly
  known stage key action rest atWork := by
    rw [isOver, atWork] at atEnd
    cases atEnd

theorem cancel (h : w.InPlace number published) : w.cancel.InPlace number published where
  numbered := by
    obtain ⟨point, same⟩ := w.cancel_eq
    rw [same]
    exact h.numbered
  sound := h.sound.cancel
  orderly := h.orderly.cancel fun _ _ _ here => Stage.isOrderly_cancel here
  known := h.known.cancel fun _ _ stage here => by
    rw [stage.isKnown_cancel]
    exact here

/-- A worker makes its request known and clears it by its own steps. Nobody does either in its
place, so what is known can be relied on. -/
theorem step (h : w.InPlace number s.published)
    (stepped : w.step config s answer = some (s', w')) : w'.InPlace number s'.published where
  numbered := (number_of_step stepped).trans h.numbered
  sound := h.sound.step stepped
  orderly := h.orderly.step stepped
    (fun _ _ _ early => (Stage.plain_of_isEarly (.inl early)).2.1)
    fun _ _ _ _ _ _ _ moved here => moved.isOrderly here
  known := by
    refine h.known.step stepped (fun _ _ _ early known => ?_)
      fun _ _ _ _ _ _ _ moved here known => ?_
    · rw [(Stage.plain_of_isEarly (.inl early)).1] at known
      cases known
    · rw [← h.numbered] at here ⊢
      exact moved.published here known

/-- A batch whose request is not known has none that it has not to cancel itself. It will look at
the flag when it makes the request known. -/
theorem windsDown (h : w.InPlace number published) (active : w.isOver = false)
    (unknown : published ≠ some number) : w.WindsDown w := by
  refine .refl active (fun stage key action rest atWork pending => ?_) h.sound.pending_ne_nil
  refine Stage.isWarned_of_not_isKnown (Bool.eq_false_iff.2 fun known => ?_)
  exact unknown (h.known stage key action rest atWork pending known)

/-- An operation that is still to be started by a batch that was told to end is turned down, and
nothing is put on the wire. -/
theorem start_of_windsDown (h : w.InPlace number published) {origin : Worker}
    (told : origin.WindsDown w) {request : Store.Request} {operation : Store.Operation}
    (atStart : w.point = .working (.starting request operation)) (key : String) (now : Instant) :
    (request.start key operation now).2 = none ∧
      (request.Admits key operation now →
        (request.start key operation now).1.result? = some (.error .cancelled)) ∧
      (¬ request.Admits key operation now → ∃ rejection,
        (request.start key operation now).1.result? = some (.error (.rejected rejection))) := by
  obtain ⟨⟨first, action⟩, rest, pending⟩ :=
    List.exists_cons_of_ne_nil (h.sound.pending_ne_nil _ atStart)
  obtain ⟨-, stage, -, follows⟩ := told.working _ atStart
  have unstarted : stage.hasStarted = false := by
    rw [Bool.eq_false_iff]
    intro started
    cases follows.started started
  exact Store.Request.start_of_cancelled (h.orderly _ _ _ _ atStart pending)
    (follows.forestalled unstarted)

/-- An operation that is under way when its batch is told to end ends cancelled, whatever the
transport does. -/
theorem result?_of_windsDown (h : w.InPlace number published) (told : w.WindsDown w)
    {dispatch : Option Store.Dispatch} {flight : Store.Flight}
    (atExchange : w.point = .working (.exchanging dispatch flight))
    (underWay : flight.result? = none) (events : List Store.Event) :
    (flight.run (events ++ Store.Flight.closing)).result? = some (.error .cancelled) := by
  obtain ⟨⟨key, action⟩, rest, pending⟩ :=
    List.exists_cons_of_ne_nil (h.sound.pending_ne_nil _ atExchange)
  obtain ⟨-, first, working, follows⟩ := told.working _ atExchange
  cases atExchange.symm.trans working
  have called : flight.Called := follows.calledOff (Option.isNone_iff_eq_none.2 underWay)
  exact called.result?_closing (h.orderly _ _ _ _ atExchange pending underWay) events

end InPlace

end Worker

/-- A cancellation is for the batch whose request is known. All others stay as they are, so a late
cancellation does no harm to a batch that was started since. -/
theorem Hub.batch?_cancelPublished (hub : Hub) (number : Nat) :
    hub.cancelPublished.batch? number =
      if hub.published = some number then (hub.batch? number).map Worker.cancel
      else hub.batch? number := by
  unfold cancelPublished
  split
  · rename_i known published
    rw [batch?, List.getElem?_modify, published]
    by_cases same : known = number
    · simp [same, batch?]
    · simp [same, batch?]
  · rename_i published
    rw [published]
    rfl

namespace Machine

variable {m m' : Machine} {label : Label} {result : Option Return}

/-! ### What becomes of a batch -/

/-- A batch takes a step of its own, or it stays, with its request cancelled or not. There are no
other ways in which a batch changes. -/
theorem Transition.batch?_cases (moved : m.Transition label m' result) {number : Nat}
    {worker : Worker} (found : m.hub.batch? number = some worker) :
    ∃ worker', m'.hub.batch? number = some worker' ∧
      ((∃ answer, label = .worker number answer ∧
          worker.step m.hub.config m.hub.toShared answer = some (m'.hub.toShared, worker')) ∨
        (worker' = worker ∨ worker' = worker.cancel) ∧
          ∀ answer, label ≠ .worker number answer) := by
  cases moved with
  | pass atPass moved | watch atPass moved =>
    exact ⟨worker, moved.batch?_eq_some found, .inr ⟨.inl rfl, nofun⟩⟩
  | wander _ _ _ _ _ idle => exact ⟨worker, found, .inr ⟨.inl rfl, idle number⟩⟩
  | cancel =>
    dsimp only
    rw [Hub.batch?_cancelPublished, found]
    split
    · exact ⟨worker.cancel, rfl, .inr ⟨.inr rfl, nofun⟩⟩
    · exact ⟨worker, rfl, .inr ⟨.inl rfl, nofun⟩⟩
  | @work other answer before after shared there stepped =>
    by_cases same : other = number
    · subst same
      cases there.symm.trans found
      refine ⟨after, ?_, .inl ⟨answer, rfl, stepped⟩⟩
      exact List.getElem?_set_self (List.getElem?_eq_some_iff.1 found).1
    · refine ⟨worker, (List.getElem?_set_ne same).trans found, .inr ⟨.inl rfl, ?_⟩⟩
      rintro _ ⟨⟩
      exact same rfl
  | _ => exact ⟨worker, found, .inr ⟨.inl rfl, nofun⟩⟩

/-- A batch that was not there is one that has just been started. So what is to be shown of new
batches is shown of those that have not taken a step. -/
theorem Transition.eq_start_of_batch? (moved : m.Transition label m' result) {number : Nat}
    {worker : Worker} (absent : m.hub.batch? number = none)
    (found : m'.hub.batch? number = some worker) :
    ∃ destination pending, worker = { number, destination, pending } := by
  have launched : ∀ {party destination pass answer hub progress},
      Hub.PassMove m.hub party destination pass answer hub progress →
        hub.batch? number = some worker →
        ∃ destination pending, worker = { number, destination, pending } := by
    intro party destination pass answer hub progress moved found
    cases moved with
    | @launch actions =>
      have bound := List.getElem?_eq_none_iff.1 absent
      rw [Hub.batch?, List.getElem?_append_right bound] at found
      obtain ⟨last, here⟩ := List.getElem?_eq_some_iff.1 found
      rw [List.length_singleton] at last
      have only : number = m.hub.batches.length := by omega
      subst only
      refine ⟨destination, actions, ?_⟩
      rw [← here]
      simp
    | _ => cases absent.symm.trans found
  cases moved with
  | pass atPass moved | watch atPass moved => exact launched moved found
  | cancel =>
    obtain ⟨before, there, -⟩ := Hub.batch?_of_cancelPublished found
    cases absent.symm.trans there
  | @work other answer before after shared there stepped =>
    have apart : other ≠ number := by
      rintro rfl
      cases absent.symm.trans there
    cases absent.symm.trans ((List.getElem?_set_ne apart).symm.trans found)
  | _ => cases absent.symm.trans found

/-- Only workers make requests known. The owner reads what is known but does not change it. -/
theorem Transition.published_eq (moved : m.Transition label m' result)
    (other : ∀ number answer, label ≠ .worker number answer) :
    m'.hub.published = m.hub.published := by
  cases moved with
  | pass atPass moved | watch atPass moved => cases moved <;> rfl
  | cancel =>
    show m.hub.cancelPublished.published = _
    unfold Hub.cancelPublished
    split <;> rfl
  | work => exact absurd rfl (other _ _)
  | _ => rfl

/-- The flag is raised by the owner, and lowered by a pass that has found all batches over. If a
pass could lower it for a batch under way, that batch would go on against the wish of the owner. -/
theorem Transition.cancel_cases (moved : m.Transition label m' result) :
    m'.hub.cancel = m.hub.cancel ∨ m'.hub.cancel = true ∨
      ∃ party destination actions, m.passAt? party = some (destination, .lowering actions) := by
  have passed : ∀ {party destination pass answer hub progress},
      Hub.PassMove m.hub party destination pass answer hub progress →
        hub.cancel = m.hub.cancel ∨ ∃ actions, pass = .lowering actions := by
    intro party destination pass answer hub progress moved
    cases moved with
    | lower => exact .inr ⟨_, rfl⟩
    | _ => exact .inl rfl
  cases moved with
  | pass atPass moved =>
    rcases passed moved with same | ⟨actions, rfl⟩
    · exact .inl same
    · exact .inr (.inr ⟨.owner, _, actions, passAt?_owner.2 atPass⟩)
  | watch atPass moved =>
    rcases passed moved with same | ⟨actions, rfl⟩
    · exact .inl same
    · exact .inr (.inr ⟨.watcher, _, actions, passAt?_watcher.2 ⟨_, atPass⟩⟩)
  | raise => exact .inr (.inl rfl)
  | cancel =>
    refine .inl ?_
    show m.hub.cancelPublished.cancel = _
    unfold Hub.cancelPublished
    split <;> rfl
  | work found stepped =>
    refine .inl ?_
    rcases Worker.step_cases stepped with ⟨-, same, -⟩ | ⟨_, _, _, _, _, -, -, moved, -⟩
    · exact congrArg Shared.cancel same
    · exact moved.cancel_eq
  | _ => exact .inl rfl

/-! ### The owner -/

/-- An owner who is about to end a session was so before, or has just left the session. The flag is
up when the request is cancelled next. -/
theorem stopping_cases (h : m.step label = some (m', result))
    (stopping : m'.owner.isStopping = true) :
    m'.owner = m.owner ∨ m'.owner = .halting ∧ m'.session = none ∨
      m.owner.isStopping = true ∧ m'.session = m.session ∧
        (m'.owner = .cancelling → m'.hub.cancel = true) := by
  cases label with
  | call call =>
    unfold Machine.step at h
    dsimp only at h
    split at h
    · replace h := Option.some.inj h
      unfold Machine.call at h
      split at h
      · split at h
        · cases h
          cases stopping
        · split at h <;> cases h <;> cases stopping
      · split at h <;> cases h <;> cases stopping
      · cases h
        cases stopping
      · split at h <;> cases h
        · exact .inr (.inl ⟨rfl, rfl⟩)
        · cases stopping
    · cases h
  | owner told =>
    replace h : m.ownerStep told = some (m', result) := h
    unfold ownerStep at h
    split at h
    -- The owner goes from one of the three points of stopping to the next, and the flag goes up on
    -- the way.
    case h_9 halting =>
      unfold Machine.halt at h
      split at h <;> cases h
      exact .inr (.inr ⟨by rw [halting]; rfl, rfl, nofun⟩)
    case h_10 raising =>
      cases h
      exact .inr (.inr ⟨by rw [raising]; rfl, rfl, fun _ => rfl⟩)
    case h_3 =>
      rcases loaded : m.hub.cache.load m.hub.disk _ with ⟨cache, disk, fault | ⟨⟩⟩ <;>
        rw [Machine.load, loaded] at h <;> cases h <;> cases stopping
    case h_5 =>
      unfold Machine.arm at h
      split at h <;> cases h <;> cases stopping
    case h_6 =>
      obtain ⟨⟨hub, progress⟩, -, same⟩ := Option.map_eq_some_iff.1 h
      cases progress <;> cases same <;> cases stopping
    case h_7 =>
      unfold Machine.take at h
      split at h
      · cases h
      · split at h <;> cases h <;> cases stopping
    case h_8 =>
      unfold Machine.join at h
      split at h <;> cases h
      cases stopping
    -- At all other points the owner goes on to one of a beginning or of waiting, or returns.
    all_goals
      cases h <;> cases stopping
  | poll =>
    obtain ⟨next, polled, same⟩ := Option.map_eq_some_iff.1 h
    cases same
    unfold Machine.poll at polled
    split at polled <;> cases polled
    exact .inl rfl
  | watcher =>
    obtain ⟨next, stepped, same⟩ := Option.map_eq_some_iff.1 h
    cases same
    unfold Machine.watcherStep at stepped
    split at stepped
    · obtain ⟨_, -, same⟩ := Option.map_eq_some_iff.1 stepped
      cases same
      exact .inl rfl
    · cases stepped
  | worker =>
    obtain ⟨hub, -, same⟩ := Option.map_eq_some_iff.1 h
    cases same
    exact .inl rfl
  | register =>
    cases h
    unfold Machine.register
    split <;> exact .inl rfl
  | unregister =>
    cases h
    exact .inl rfl

/-- All batches stand as they have to, and an owner who ends a session has left it and raises the
flag before the request is cancelled. The order of these two is the owner's side of the handshake.
-/
structure IsStoppable (m : Machine) : Prop where
  sound : m.SingleFlight
  left : m.owner.isStopping = true → m.session = none
  raised : m.owner = .cancelling → m.hub.cancel = true
  inPlace : ∀ number worker, m.hub.batch? number = some worker →
    worker.InPlace number m.hub.published

namespace IsStoppable

/-- Before the first call there is no batch, and nothing to end. So a machine that was just made can
be ended. -/
theorem make {config : Config} {client : Client} {cache : Cache} {disk : Disk} :
    (Machine.make config client cache disk).IsStoppable where
  sound := .make
  left := nofun
  raised := nofun
  inPlace number worker found := by cases found

/-- While a session is being ended, and once its watcher is gone, no pass lowers the flag. The owner
is busy with the end, so it runs no pass itself. -/
theorem cancel_of_step (h : m.IsStoppable) (moved : m.Transition label m' result)
    (cancelling : m.owner = .cancelling) : m'.hub.cancel = true := by
  rcases moved.cancel_cases with same | raised | ⟨party, destination, actions, lowering⟩
  · rw [same]
    exact h.raised cancelling
  · exact raised
  · cases party with
    | owner =>
      rw [passAt?_owner.1 lowering] at cancelling
      cases cancelling
    | watcher =>
      obtain ⟨watcher, watching⟩ := passAt?_watcher.1 lowering
      have running : m.session ≠ none := by
        refine h.sound.session_ne_none ?_ ?_
        · rw [cancelling]
          exact nofun
        · rw [watching]
          exact nofun
      exact absurd (h.left (by rw [cancelling]; rfl)) running

/-- The flag stays up as long as a batch is under way. Only a pass lowers it, and a pass comes to
that only when no batch is. -/
theorem cancel_of_active (h : m.IsStoppable) (moved : m.Transition label m' result)
    (raised : m.hub.cancel = true) {number : Nat} {worker : Worker}
    (found : m.hub.batch? number = some worker) (active : worker.isOver = false) :
    m'.hub.cancel = true := by
  rcases moved.cancel_cases with same | again | ⟨party, destination, actions, lowering⟩
  · rw [same]
    exact raised
  · exact again
  · have atEnd := h.sound.isOver_of_isPast lowering rfl worker (List.mem_of_getElem? found)
    rw [active] at atEnd
    cases atEnd

/-- A batch stands as it has to after every step. This is the part of the invariant that ties
batches to the request that is known. -/
theorem inPlace_of_step (h : m.IsStoppable) (moved : m.Transition label m' result) {number : Nat}
    {worker' : Worker} (found' : m'.hub.batch? number = some worker') :
    worker'.InPlace number m'.hub.published := by
  cases found : m.hub.batch? number with
  | none =>
    obtain ⟨destination, pending, rfl⟩ := moved.eq_start_of_batch? found found'
    exact .start
  | some worker =>
    have before := h.inPlace number worker found
    obtain ⟨after, there, kind⟩ := moved.batch?_cases found
    cases there.symm.trans found'
    rcases kind with ⟨answer, -, stepped⟩ | ⟨kept, idle⟩
    · exact before.step stepped
    · -- No other batch is under way, so nobody else makes a request known or clears it.
      have here : worker.InPlace number m'.hub.published := by
        cases atEnd : worker.isOver with
        | true => exact before.of_isOver atEnd
        | false =>
          rcases moved.worker_cases with ⟨other, answer, _, _, _, own, there, stepped, -⟩ | others
          · have same := h.sound.unique there (Worker.isOver_of_step stepped) found atEnd
            rw [same] at own
            exact absurd own (idle answer)
          · rw [moved.published_eq others]
            exact before
      rcases kept with rfl | rfl
      · exact here
      · exact here.cancel

/-- Every step keeps a machine so that its session can be ended. -/
theorem step (h : m.IsStoppable) (stepped : m.step label = some (m', result)) :
    m'.IsStoppable where
  sound := h.sound.step (transition_of_step stepped)
  left stopping := by
    rcases stopping_cases stepped stopping with same | ⟨-, left⟩ | ⟨before, same, -⟩
    · rw [same] at stopping
      refine (transition_of_step stepped).session_eq_none (h.left stopping) ?_
      cases owner : m.owner <;> rw [owner] at stopping <;> first | rfl | cases stopping
    · exact left
    · rw [same]
      exact h.left before
  raised cancelling := by
    rcases stopping_cases stepped (by rw [cancelling]; rfl) with
      same | ⟨halting, -⟩ | ⟨-, -, raised⟩
    · exact h.cancel_of_step (transition_of_step stepped) (same.symm.trans cancelling)
    · rw [cancelling] at halting
      cases halting
    · exact raised cancelling
  inPlace _ _ found := h.inPlace_of_step (transition_of_step stepped) found

end IsStoppable

/-! ### A batch that is told to end -/

/-- A machine with a batch that was told to end. The flag stays up until the batch is over, as only
a pass that starts a batch takes it down, and none does while one is under way. -/
structure IsEnding (number : Nat) (origin : Worker) (m : Machine) : Prop where
  stoppable : m.IsStoppable
  ending : ∃ worker, m.hub.batch? number = some worker ∧ origin.WindsDown worker ∧
    (worker.isOver = false → m.hub.cancel = true)

/-- After the owner has cancelled the request that is known, whichever batch is under way has been
told to end. -/
theorem IsStoppable.isEnding (h : m.IsStoppable) (cancelling : m.owner = .cancelling)
    (stepped : m.step (.owner .proceed) = some (m', result)) {number : Nat} {worker : Worker}
    (found : m'.hub.batch? number = some worker) (active : worker.isOver = false) :
    m'.IsEnding number worker where
  stoppable := h.step stepped
  ending := by
    refine ⟨worker, found, ?_, fun _ => ?_⟩
    · replace stepped : m.ownerStep .proceed = some (m', result) := stepped
      unfold ownerStep at stepped
      rw [cancelling] at stepped
      cases stepped
      replace found : m.hub.cancelPublished.batch? number = some worker := found
      rw [Hub.batch?_cancelPublished] at found
      split at found
      · obtain ⟨before, there, rfl⟩ := Option.map_eq_some_iff.1 found
        rw [Worker.isOver_cancel] at active
        exact (h.inPlace number before there).sound.windsDown_cancel active
      · rename_i unknown
        exact (h.inPlace number worker found).windsDown active unknown
    · exact h.cancel_of_step (transition_of_step stepped) cancelling

namespace IsEnding

variable {number : Nat} {origin : Worker}

/-- The batch goes on to its end, whatever happens, and puts nothing more on the wire. Others may
start passes or calls in the meantime: none of them gives it back its flag. -/
theorem step (h : m.IsEnding number origin) (stepped : m.step label = some (m', result)) :
    m'.IsEnding number origin ∧
      ∀ answer, label = .worker number answer → Entry.sent ⟨m, label, m', result⟩ = [] := by
  have moved := transition_of_step stepped
  obtain ⟨worker, found, windsDown, raised⟩ := h.ending
  obtain ⟨worker', found', kind⟩ := moved.batch?_cases found
  have flag : worker.isOver = false → m'.hub.cancel = true := fun active =>
    h.stoppable.cancel_of_active moved (raised active) found active
  rcases kind with ⟨answer, rfl, worked⟩ | ⟨kept, idle⟩
  · have active := Worker.isOver_of_step worked
    have after := windsDown.step (raised active) (h.stoppable.inPlace number worker found).orderly
      worked
    refine ⟨⟨h.stoppable.step stepped, worker', found', after, fun _ => flag active⟩, ?_⟩
    rintro _ ⟨⟩
    rw [Entry.sent]
    dsimp only
    rw [found, found']
    dsimp only
    rw [windsDown.dispatched?_eq_none after]
    rfl
  · refine ⟨⟨h.stoppable.step stepped, worker', found', ?_⟩, fun answer own =>
      absurd own (idle answer)⟩
    rcases kept with rfl | rfl
    · exact ⟨windsDown, flag⟩
    · refine ⟨windsDown.cancel, fun active => flag ?_⟩
      rwa [Worker.isOver_cancel] at active

end IsEnding

end Machine

namespace Diary

variable {config : Config} {client : Client} {cache : Cache} {disk : Disk}
  {labels later : List Label} {diary diary' stopped : Diary}

/-- The end of a session cannot miss the request of a batch. When the flag has been raised and the
request that is known has been cancelled, an operation that a batch has yet to start is turned down
and one that is under way ends cancelled. The batch begins no further item, puts nothing more on the
wire, and is cancelled unless no action is left. -/
theorem windsDown_of_stop (ran : (start config client cache disk).run labels = some diary)
    (cancelling : diary.machine.owner = .cancelling)
    (done : diary.write (.owner .proceed) = some stopped) {number : Nat} {worker : Worker}
    (found : stopped.machine.hub.batch? number = some worker) (active : worker.isOver = false)
    (wentOn : stopped.run later = some diary') :
    ∃ worker' since, diary'.machine.hub.batch? number = some worker' ∧
      diary'.entries = stopped.entries ++ since ∧ worker.WindsDown worker' ∧
      (∀ request operation, worker'.point = .working (.starting request operation) → ∀ key now,
        (request.start key operation now).2 = none ∧
          (request.Admits key operation now →
            (request.start key operation now).1.result? = some (.error .cancelled)) ∧
          (¬ request.Admits key operation now → ∃ rejection,
            (request.start key operation now).1.result? =
              some (.error (.rejected rejection)))) ∧
      (∀ dispatch flight, worker.point = .working (.exchanging dispatch flight) →
        flight.result? = none → ∀ events,
          (flight.run (events ++ Store.Flight.closing)).result? = some (.error .cancelled)) ∧
      (∀ entry ∈ since, ∀ answer, entry.label = .worker number answer → entry.sent = []) ∧
      ∀ report, worker'.result? = some report →
        (report.cancelled = true ↔ worker'.pending ≠ []) := by
  have stoppable : diary.machine.IsStoppable :=
    run_induction (p := fun diary => diary.machine.IsStoppable) ran .make
      fun before after label _ held written => by
        obtain ⟨next, result, stepped, rfl⟩ := write_eq_some written
        exact held.step stepped
  obtain ⟨next, result, stepped, rfl⟩ := write_eq_some done
  have told := stoppable.isEnding cancelling stepped found active
  -- The entries that are written from now on are told apart from those before.
  obtain ⟨⟨stoppable', worker', found', windsDown, -⟩, since, entries, silent⟩ :
      diary'.machine.IsEnding number worker ∧ ∃ since,
        diary'.entries = (diary.entries ++ [⟨diary.machine, .owner .proceed, next, result⟩]) ++
          since ∧
        ∀ entry ∈ since, ∀ answer, entry.label = .worker number answer → entry.sent = [] := by
    refine run_induction (p := fun later => later.machine.IsEnding number worker ∧ ∃ since,
      later.entries = (diary.entries ++ [⟨diary.machine, .owner .proceed, next, result⟩]) ++
        since ∧ ∀ entry ∈ since, ∀ answer, entry.label = .worker number answer → entry.sent = [])
      wentOn ⟨told, [], (List.append_nil _).symm, by simp⟩ ?_
    rintro before after label - ⟨ending, since, entries, silent⟩ written
    obtain ⟨machine, answer, stepped, rfl⟩ := write_eq_some written
    obtain ⟨still, unsent⟩ := ending.step stepped
    refine ⟨still, since ++ [⟨before.machine, label, machine, answer⟩], ?_, ?_⟩
    · rw [entries, List.append_assoc]
    · intro entry member
      rcases List.mem_append.1 member with earlier | last
      · exact silent entry earlier
      · rw [List.mem_singleton.1 last]
        exact unsent
  have inPlace' := stoppable'.inPlace number worker' found'
  have inPlace := told.stoppable.inPlace number worker found
  obtain ⟨_, found'', refl, -⟩ := told.ending
  cases found.symm.trans found''
  refine ⟨worker', since, found', entries, windsDown, ?_, ?_, silent, fun report finished => ?_⟩
  · exact fun _ _ atStart => inPlace'.start_of_windsDown windsDown atStart
  · exact fun _ _ atExchange => inPlace.result?_of_windsDown refl atExchange
  · have sound := inPlace'.sound
    obtain ⟨atEnd, rfl⟩ := Worker.result?_eq_some.1 finished
    rw [Worker.Sound, atEnd] at sound
    exact sound

/-- Whether the owner is about to cancel the request that is known. It is the moment after which a
batch has been told to end in both ways. -/
def isCancelling (diary : Diary) : Bool :=
  match diary.machine.owner with
  | .cancelling => true
  | _ => false

/-- A session is stopped while its only photo is on the way to the store, so the batch ends
cancelled with its action left over. -/
theorem windsDown_of_stop_of_upload :
    ∃ diary stopped diary' worker worker' dispatch flight,
      (start {} Scene.clientOfOne (Cache.inMemory []) {}).run
        (labelsOfStop.take (labelsOfStop.length - 6)) = some diary ∧
      diary.machine.owner = .cancelling ∧ diary.write (.owner .proceed) = some stopped ∧
      stopped.machine.hub.batch? 0 = some worker ∧
      stopped.run (labelsOfStop.drop (labelsOfStop.length - 5)) = some diary' ∧
      worker.point = .working (.exchanging dispatch flight) ∧ flight.result? = none ∧
      (∀ events,
        (flight.run (events ++ Store.Flight.closing)).result? = some (.error .cancelled)) ∧
      diary'.machine.hub.batch? 0 = some worker' ∧ worker.WindsDown worker' ∧
      worker'.result? = some { cancelled := true } ∧ worker'.pending ≠ [] := by
  have seen : ((start {} Scene.clientOfOne (Cache.inMemory []) {}).run
      (labelsOfStop.take (labelsOfStop.length - 6))).bind (fun diary =>
        (diary.write (.owner .proceed)).bind fun stopped =>
          (stopped.machine.hub.batch? 0).bind fun worker =>
            (stopped.run (labelsOfStop.drop (labelsOfStop.length - 5))).bind fun diary' =>
              (diary'.machine.hub.batch? 0).map fun worker' =>
                (diary.isCancelling, worker.isUnderWay, worker'.result?)) =
      some (true, true, some { cancelled := true }) := by
    decide +kernel
  obtain ⟨diary, ran, seen⟩ := Option.bind_eq_some_iff.1 seen
  obtain ⟨stopped, done, seen⟩ := Option.bind_eq_some_iff.1 seen
  obtain ⟨worker, found, seen⟩ := Option.bind_eq_some_iff.1 seen
  obtain ⟨diary', wentOn, seen⟩ := Option.bind_eq_some_iff.1 seen
  obtain ⟨worker', found', same⟩ := Option.map_eq_some_iff.1 seen
  simp only [Prod.mk.injEq] at same
  obtain ⟨cancelling, underWay, finished⟩ := same
  have cancelling : diary.machine.owner = .cancelling := by
    unfold isCancelling at cancelling
    split at cancelling
    · assumption
    · cases cancelling
  obtain ⟨dispatch, flight, atExchange, underWay⟩ := Worker.exists_of_isUnderWay underWay
  have active : worker.isOver = false := by rw [Worker.isOver, atExchange]
  obtain ⟨_, since, there, -, windsDown, -, called, -, reported⟩ :=
    windsDown_of_stop ran cancelling done found active wentOn
  cases found'.symm.trans there
  exact ⟨diary, stopped, diary', worker, worker', dispatch, flight, ran, cancelling, done, found,
    wentOn, atExchange, underWay, called dispatch flight atExchange underWay, found', windsDown,
    finished, (reported _ finished).1 rfl⟩

end Diary

end PreviewSync.Sync
