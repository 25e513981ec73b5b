import PreviewSync.Proofs.Sync.Passes
import PreviewSync.Proofs.Sync.Reports

/-!
# The end of a session

When a session has been stopped, nothing of it is left: no batch is under way, the watcher is gone,
all requests that batches have made are released, and nothing is sent until the next session is
begun. It follows from an account of the requests that are held, and from what the calls so far tell
about the session.

## Main Definitions

* `Stage.isHolding`, `Hub.held` — the requests that batches have made and not released
* `Diary.lastCall?`, `Diary.sent` — the latest call, and what has been put on the wire
* `Machine.IsQuiet` — nothing is going on, with `Machine.IsQuiet.step`
* `Diary.singleFlight_of_run` — single flight and quiescence of all runs
-/

namespace PreviewSync.Sync

open Store (Client Dispatch)

/-! ### The requests that are held -/

/-- Whether an item at a stage has a request that is not released. Clearing and releasing are among
them: a request counts for the client until it has been given back. -/
def Stage.isHolding : Stage → Bool
  | publishing _ _ | heeding _ _ | starting _ _ => true
  | exchanging _ _ | clearing _ _ | releasing _ => true
  | _ => false

/-- Whether an item holds a request after a step. -/
def Progress.isHolding : Progress → Bool
  | reached stage => stage.isHolding
  | _ => false

/-- Whether a batch holds a request. A batch holds one at most, that of the item at work. -/
def Worker.isHolding (w : Worker) : Bool :=
  match w.point with
  | .working stage => stage.isHolding
  | _ => false

/-- How many batches hold a request. By single flight this is one at most, but the account does not
need that. -/
def Hub.held (hub : Hub) : Nat :=
  hub.batches.countP Worker.isHolding

theorem Stage.isHolding_of_isEarly {stage : Stage}
    (early : stage.IsEarly ∨ ∃ operation, stage = requesting operation) :
    stage.isHolding = false := by
  rcases early with early | ⟨operation, rfl⟩
  · cases stage <;> first | exact early.elim | rfl
  · rfl

theorem Stage.isHolding_cancel (stage : Stage) : stage.cancel.isHolding = stage.isHolding := by
  cases stage <;> rfl

/-- The client counts a request when an item makes it, and no longer when the item releases it. -/
theorem Stage.Move.live {config : Config} {item : Item} {s s' : Shared} {stage : Stage}
    {answer : Answer} {progress : Progress} (h : Move config item s stage answer s' progress)
    (counted : stage.isHolding = true → 0 < s.client.live) :
    s'.client.live + stage.isHolding.toNat = s.client.live + progress.isHolding.toNat := by
  cases h with
  | prepare early unsettled next =>
    have after : progress.isHolding = false := by
      cases progress with
      | reached stage' => exact isHolding_of_isEarly (next stage' rfl).1
      | _ => rfl
    rw [isHolding_of_isEarly (.inl early), after]
  | @create operation client request made =>
    unfold Client.create at made
    split at made <;> cases made
    rfl
  | @release result =>
    have after : (ofResult result).isHolding = false := by
      rcases ofResult_cases result with same | ⟨fault, same⟩ <;> rw [same] <;> rfl
    rw [after]
    exact Nat.sub_add_cancel (counted rfl)
  | @record trouble =>
    rcases record_cases item s trouble with ⟨fault, same⟩ | ⟨_, _, _, -, same⟩ <;> rw [same] <;> rfl
  | _ => rfl

namespace Worker

variable {w w' : Worker}

/-- A batch that is over holds no request. So when all batches are over, the client has back
whatever it gave them. -/
theorem isHolding_of_isOver (atEnd : w.isOver = true) : w.isHolding = false := by
  unfold isHolding
  split
  · rename_i atWork
    rw [isOver, atWork] at atEnd
    cases atEnd
  · rfl

theorem isHolding_cancel (w : Worker) : w.cancel.isHolding = w.isHolding := by
  unfold cancel
  split
  · rename_i stage atWork
    rw [isHolding, isHolding, atWork]
    exact stage.isHolding_cancel
  · rfl

/-- The client counts the request of a batch as long as the batch holds it. Written as a sum it says
at once what a request that is made, kept or released does to the count. -/
theorem live_of_step {config : Config} {s s' : Shared} {answer : Answer}
    (h : w.step config s answer = some (s', w'))
    (counted : w.isHolding = true → 0 < s.client.live) :
    s'.client.live + w.isHolding.toNat = s.client.live + w'.isHolding.toNat := by
  rcases step_cases h with
    ⟨atChoice, rfl, rfl⟩ | ⟨stage, key, action, rest, progress, atWork, pending, moved, rfl⟩
  · have before : w.isHolding = false := by rw [isHolding, atChoice]
    have after : (w.choose s'.cancel).isHolding = false := by
      unfold choose
      split
      · rfl
      · rename_i action rest pending
        split
        · rfl
        · split
          · rename_i first
            cases action <;> cases first <;> rfl
          · exact before
    rw [before, after]
  · have before : w.isHolding = stage.isHolding := by rw [isHolding, atWork]
    have after : (w.advance key action rest progress).isHolding = progress.isHolding := by
      cases progress with
      | failed fault => cases fault <;> rfl
      | _ => rfl
    rw [before] at counted ⊢
    rw [after]
    exact moved.live counted

end Worker

namespace Hub

variable {hub : Hub}

/-- One batch in place of another. The equation avoids a subtraction, which could hide that the
count was zero before. -/
theorem held_set {batches : List Worker} {number : Nat} {worker : Worker} (worker' : Worker)
    (found : batches[number]? = some worker) :
    (batches.set number worker').countP Worker.isHolding + worker.isHolding.toNat =
      batches.countP Worker.isHolding + worker'.isHolding.toNat := by
  obtain ⟨bound, here⟩ := List.getElem?_eq_some_iff.1 found
  have counted : worker.isHolding = true → 0 < batches.countP Worker.isHolding := fun holding =>
    List.countP_pos_iff.2 ⟨worker, List.mem_of_getElem? found, holding⟩
  rw [List.countP_set bound, here]
  cases before : worker.isHolding with
  | false => cases worker'.isHolding <;> simp
  | true =>
    have some := counted before
    cases worker'.isHolding <;> simp <;> omega

/-- A cancellation releases no request. It is released by the worker, at the end of its item. -/
theorem held_cancelPublished : hub.cancelPublished.held = hub.held := by
  unfold cancelPublished
  split
  · rename_i number _
    have all : ∀ (batches : List Worker) (number : Nat),
        (batches.modify number Worker.cancel).countP Worker.isHolding =
          batches.countP Worker.isHolding := by
      intro batches
      induction batches with
      | nil => intro number; cases number <;> rfl
      | cons worker rest ih =>
        intro number
        cases number with
        | zero => simp [List.countP_cons, Worker.isHolding_cancel]
        | succ number => simp [List.countP_cons, ih number]
    exact all hub.batches number
  · rfl

/-- A batch that is started holds no request yet. -/
theorem held_launch {batches : List Worker} {number : Nat} {destination : String}
    {pending : List (String × Action)} :
    (batches ++ [{ number, destination, pending : Worker }]).countP Worker.isHolding =
      batches.countP Worker.isHolding := by
  rw [List.countP_append]
  rfl

end Hub

namespace Machine

variable {m m' : Machine} {label : Label} {result : Option Return}

/-- The client counts the requests that batches hold, and those of others. The number of others
stays fixed, since nobody else makes or releases requests in a run. -/
theorem Transition.live (h : m.Transition label m' result) {others : Nat}
    (account : m.hub.client.live = others + m.hub.held) :
    m'.hub.client.live = others + m'.hub.held := by
  cases h with
  | pass atPass moved | watch atPass moved =>
    cases moved with
    | launch => exact account.trans (congrArg (others + ·) Hub.held_launch.symm)
    | _ => exact account
  -- A cancellation ends no request; the batch goes on holding it.
  | cancel =>
    have same : m.hub.cancelPublished.client = m.hub.client := by
      unfold Hub.cancelPublished
      split <;> rfl
    show m.hub.cancelPublished.client.live = others + m.hub.cancelPublished.held
    rw [same, Hub.held_cancelPublished]
    exact account
  | @work number answer worker worker' shared found stepped =>
    -- A request that is released was counted, so the count does not stop at zero.
    have counted : worker.isHolding = true → 0 < m.hub.client.live := by
      intro holding
      have some : 0 < m.hub.held :=
        List.countP_pos_iff.2 ⟨worker, List.mem_of_getElem? found, holding⟩
      omega
    have client := Worker.live_of_step stepped counted
    have held := Hub.held_set worker' found
    rw [Hub.held] at account
    show shared.client.live =
      others + (m.hub.batches.set number worker').countP Worker.isHolding
    omega
  | register registered =>
    unfold Client.register at registered
    split at registered
    · cases registered
    · split at registered <;> cases registered
      exact account
  | _ => exact account

/-! ### Quiet machines -/

/-- Nothing is going on: there is no session and no watcher, no batch is under way, and the owner is
about to do nothing for which a batch or a destination would be needed. It is kept by every step but
the beginning of a session. -/
structure IsQuiet (m : Machine) : Prop where
  session : m.session = none
  watching : m.watching = none
  slot : m.hub.slot = none
  aim : m.owner.destination? = none
  joining : m.owner.joining? = none
  allOver : ∀ worker ∈ m.hub.batches, worker.isOver = true

end Machine

/-- What a worker puts on the wire by a step. It is seen from the worker before and after, as a step
does not tell. -/
def Entry.sent (entry : Entry) : List Dispatch :=
  match entry.label with
  | .worker number _ =>
    match entry.before.hub.batch? number, entry.after.hub.batch? number with
    | some before, some after => (before.dispatched? after).toList.map (·.2)
    | _, _ => []
  | _ => []

/-- Only workers put anything on the wire. Passes ask the catalog, and calls ask nobody. -/
theorem Entry.sent_eq_nil {entry : Entry}
    (other : ∀ number answer, entry.label ≠ .worker number answer) : entry.sent = [] := by
  unfold sent
  split
  · rename_i own
    exact absurd own (other _ _)
  · rfl

/-- A step by which a call returns puts nothing on the wire. So it does not matter whether the last
step of a call is counted. -/
theorem Entry.sent_of_return {m m' : Machine} {label : Label} {answer : Return}
    (h : m.step label = some (m', some answer)) :
    Entry.sent ⟨m, label, m', some answer⟩ = [] := by
  refine sent_eq_nil ?_
  rintro number told rfl
  obtain ⟨next, -, same⟩ := Option.map_eq_some_iff.1 h
  cases same

/-- Everything that has been put on the wire. -/
def Diary.sent (diary : Diary) : List Dispatch :=
  diary.entries.flatMap Entry.sent

/-- Whether a label is the beginning of a session. -/
def Label.isBegin : Label → Bool
  | call (.begin _ _) => true
  | _ => false

namespace Machine

variable {m m' : Machine} {label : Label} {result : Option Return}

/-- Nothing goes on and nothing is sent until a session is begun. Most steps cannot even be taken by
a quiet machine: there is nobody to take them. -/
theorem IsQuiet.step (h : m.IsQuiet) (moved : m.Transition label m' result)
    (other : label.isBegin = false) :
    m'.IsQuiet ∧ Entry.sent ⟨m, label, m', result⟩ = [] := by
  have notBegin : ∀ file destination, label ≠ .call (.begin file destination) := by
    rintro file destination rfl
    cases other
  -- No party is about to start a batch, and all batches are over, so they stay as they are.
  have batches : m'.hub.batches = m.hub.batches := by
    refine moved.batches_eq h.allOver fun party destination actions launching => ?_
    cases party with
    | owner =>
      have aim := h.aim
      rw [passAt?_owner.1 launching] at aim
      cases aim
    | watcher =>
      obtain ⟨watcher, atPass⟩ := passAt?_watcher.1 launching
      rw [h.watching] at atPass
      cases atPass
  have allOver : ∀ worker ∈ m'.hub.batches, worker.isOver = true := by
    rw [batches]
    exact h.allOver
  cases moved with
  | @wander label owner result before after begins aim _ idle =>
    refine ⟨{ h with aim := ?_, joining := (SingleFlight.not_holdsLock after).1 }, ?_⟩
    · -- The owner could only turn to a destination that it had, that a beginning brings, or of a
      -- session.
      cases aimed : owner.destination? with
      | none => rfl
      | some destination =>
        rcases aim destination aimed with early | ⟨file, begun⟩ | ⟨session, running, -⟩
        · rw [h.aim] at early
          cases early
        · exact absurd begun (notBegin file destination)
        · rw [h.session] at running
          cases running
    · exact Entry.sent_eq_nil idle
  | leave running =>
    rw [h.session] at running
    cases running
  | load atLoad =>
    have aim := h.aim
    rw [atLoad] at aim
    cases aim
  | arm atArm =>
    have aim := h.aim
    rw [atArm] at aim
    cases aim
  | pass atPass =>
    have aim := h.aim
    rw [atPass] at aim
    cases aim
  | take waiting free full =>
    rw [h.slot] at full
    cases full
  | findNothing => exact ⟨{ h with slot := rfl, aim := rfl, joining := rfl }, rfl⟩
  | join joining =>
    have none := h.joining
    rw [joining] at none
    cases none
  | halt => exact ⟨{ h with watching := rfl, aim := rfl, joining := rfl }, rfl⟩
  | raise => exact ⟨{ h with aim := rfl, joining := rfl }, rfl⟩
  | cancel =>
    have slot : m.hub.cancelPublished.slot = m.hub.slot := by
      unfold Hub.cancelPublished
      split <;> rfl
    exact ⟨{ h with slot := slot.trans h.slot, aim := rfl, joining := rfl, allOver }, rfl⟩
  | poll idle =>
    rw [h.watching] at idle
    cases idle
  | watch atPass =>
    rw [h.watching] at atPass
    cases atPass
  -- A worker that is over takes no step.
  | work found stepped =>
    have atEnd := h.allOver _ (List.mem_of_getElem? found)
    rw [Worker.isOver_of_step stepped] at atEnd
    cases atEnd
  | register | unregister => exact ⟨{ h with }, rfl⟩
  | refuseRegister => exact ⟨h, rfl⟩

/-! ### The latest call -/

/-- An owner is about to start a session only when a call has asked for it. In particular the
watcher never starts one. -/
theorem Transition.isBeginning_cases (h : m.Transition label m' result)
    (beginning : m'.owner.isBeginning = true) :
    m.owner.isBeginning = true ∨ ∃ file destination, label = .call (.begin file destination) := by
  cases h with
  | @wander label owner result before after begins aim =>
    rcases before with resting | early
    · refine (begins beginning).imp_right fun idle => ?_
      obtain ⟨destination, aimed⟩ : ∃ destination, owner.destination? = some destination := by
        cases owner <;> first | exact ⟨_, rfl⟩ | cases beginning
      rcases aim destination aimed with earlier | ⟨file, begun⟩ | ⟨session, running, -⟩
      · rw [resting] at earlier
        cases earlier
      · exact ⟨file, destination, begun⟩
      · rw [idle] at running
        cases running
    · exact .inl early
  | load atLoad => exact .inl (by rw [atLoad]; rfl)
  | @pass destination pass answer hub progress => cases progress <;> cases beginning
  | leave | arm | take | findNothing | join | halt | raise | cancel => cases beginning
  | _ => exact .inl beginning

/-- A session starts only from an owner who is about to start one. So without such a call there is
none, however long the run goes on. -/
theorem Transition.session_eq_none (h : m.Transition label m' result) (idle : m.session = none)
    (other : m.owner.isBeginning = false) : m'.session = none := by
  cases h with
  | arm atArm =>
    rw [atArm] at other
    cases other
  | leave => rfl
  | _ => exact idle

/-- A call begins when the owner rests. So the calls of a run come one after the other, however many
steps of others lie between their own. -/
theorem resting_of_call {call : Call} (h : m.step (.call call) = some (m', result)) :
    m.owner = .resting := by
  unfold Machine.step at h
  dsimp only at h
  split at h
  · assumption
  · cases h

/-- A session is over when its end is called for. The session goes first, and its batch is waited
for afterwards. -/
theorem session_of_stop (h : m.step (.call .stop) = some (m', result)) : m'.session = none := by
  unfold Machine.step at h
  dsimp only at h
  split at h
  · cases running : m.session <;> rw [Machine.call, running] at h <;> cases h
    · exact running
    · rfl
  · cases h

end Machine

/-- The call that a label begins. -/
def Label.call? : Label → Option Call
  | .call begun => some begun
  | _ => none

namespace Diary

variable {diary diary' : Diary} {label : Label} {labels : List Label} {config : Config}
  {client : Client} {cache : Cache} {disk : Disk}

/-- The latest call, whether it has returned or not. It tells what the owner is doing when the owner
does not rest. -/
def lastCall? (diary : Diary) : Option Call :=
  (diary.entries.filterMap (·.label.call?)).getLast?

theorem lastCall?_write (entry : Entry) (entries : List Entry) (m m' : Machine) :
    lastCall? ⟨m', entries ++ [entry]⟩ = entry.label.call?.or (lastCall? ⟨m, entries⟩) := by
  unfold lastCall?
  rw [List.filterMap_append, List.getLast?_append]
  cases called : entry.label.call? <;> simp [called]

/-- What the latest call tells: the owner is about to start a session only if it asks for one, and
there is none if it is the end of one. The machine itself does not know which call it has returned
from. -/
structure IsCalled (diary : Diary) : Prop where
  beginning : diary.machine.owner.isBeginning = true →
    ∃ file destination, diary.lastCall? = some (.begin file destination)
  stopped : diary.lastCall? = some .stop → diary.machine.session = none

namespace IsCalled

theorem start : (Diary.start config client cache disk).IsCalled where
  beginning := nofun
  stopped := nofun

/-- Every step keeps what the latest call tells. A step of somebody else does not touch it. -/
theorem write (h : diary.IsCalled) (written : diary.write label = some diary') :
    diary'.IsCalled := by
  obtain ⟨after, result, stepped, rfl⟩ := write_eq_some written
  have moved := Machine.transition_of_step stepped
  have latest :=
    lastCall?_write ⟨diary.machine, label, after, result⟩ diary.entries diary.machine after
  have called : ∀ call, label.call? = some call → label = .call call := by
    intro call begun
    cases label <;> cases begun
    rfl
  refine ⟨fun beginning => ?_, fun stopped => ?_⟩
  · rw [latest]
    rcases moved.isBeginning_cases beginning with before | ⟨file, destination, rfl⟩
    · cases begun : label.call? with
      | none => exact h.beginning before
      | some call =>
        cases called call begun
        rw [Machine.resting_of_call stepped] at before
        cases before
    · exact ⟨file, destination, rfl⟩
  · -- After the end of a session there is none, until another call asks for one.
    rw [latest] at stopped
    cases begun : label.call? with
    | none =>
      rw [begun] at stopped
      refine moved.session_eq_none (h.stopped stopped) (Bool.eq_false_iff.2 fun beginning => ?_)
      obtain ⟨file, destination, other⟩ := h.beginning beginning
      rw [show diary.lastCall? = some .stop from stopped] at other
      cases other
    | some call =>
      rw [begun] at stopped
      cases stopped
      cases called .stop begun
      exact Machine.session_of_stop stepped

end IsCalled

/-- What holds of every diary: its passes and its latest call are as the steps tell, and the client
counts the requests that batches hold. The client may have counted others before, which are none of
the session's. -/
structure IsSettled (live : Nat) (diary : Diary) : Prop where
  passing : diary.IsPassing
  called : diary.IsCalled
  account : diary.machine.hub.client.live = live + diary.machine.hub.held

namespace IsSettled

theorem start : (Diary.start config client cache disk).IsSettled client.live where
  passing := .start
  called := .start
  account := rfl

theorem write {live : Nat} (h : diary.IsSettled live) (written : diary.write label = some diary') :
    diary'.IsSettled live where
  passing := h.passing.write written
  called := h.called.write written
  account := by
    obtain ⟨after, result, stepped, rfl⟩ := write_eq_some written
    exact (Machine.transition_of_step stepped).live h.account

end IsSettled

/-- A machine is quiet when the end of a session returns a report or that there is none. Not when
the call begins, for the watcher and the batch have to be waited for in between. -/
theorem isQuiet_of_stop {live : Nat} (h : diary.IsSettled live)
    (stopped : diary.lastCall? = some .stop) {after : Machine} {report : Option Collected}
    (returned : diary.machine.step label = some (after, some (.collected (.ok report)))) :
    after.IsQuiet := by
  have session := h.called.stopped stopped
  have sound := h.passing.sound
  have unwatched : diary.machine.owner ≠ .halting → diary.machine.watching = none := by
    intro other
    by_contra watched
    exact sound.session_ne_none other watched session
  -- The call returns when it finds the slot empty, or when the batch that it waited for is over.
  rcases Machine.collected_cases returned with
    ⟨waiting, empty, -, rfl⟩ | ⟨number, collected, joining, atEnd, -, -, rfl⟩
  · exact
      { session
        watching := unwatched (by rw [waiting]; nofun)
        slot := rfl
        aim := rfl
        joining := rfl
        allOver := sound.isOver_of_clear empty fun number taken => by
          rw [waiting] at taken
          cases taken }
  · have empty := sound.joiningClear (by rw [joining]; nofun)
    exact
      { session
        watching := unwatched (by rw [joining]; nofun)
        slot := empty
        aim := rfl
        joining := rfl
        allOver := sound.isOver_of_clear empty fun other taken => by
          rw [joining] at taken
          cases taken
          exact atEnd }

/-- Nothing is sent from a quiet machine until a session is begun. Other calls may come in any
number: each of them finds no session. -/
theorem sent_of_isQuiet (quiet : diary.machine.IsQuiet) (ran : diary.run labels = some diary')
    (other : ∀ label ∈ labels, label.isBegin = false) : diary'.sent = diary.sent := by
  have kept : diary'.machine.IsQuiet ∧ diary'.sent = diary.sent := by
    refine run_induction (p := fun later => later.machine.IsQuiet ∧ later.sent = diary.sent) ran
      ⟨quiet, rfl⟩ fun before after label member held written => ?_
    obtain ⟨next, result, stepped, rfl⟩ := write_eq_some written
    obtain ⟨quiet, sent⟩ := held
    obtain ⟨still, nothing⟩ :=
      quiet.step (Machine.transition_of_step stepped) (other label member)
    refine ⟨still, ?_⟩
    rw [Diary.sent, List.flatMap_append, List.flatMap_singleton, nothing, List.append_nil]
    exact sent
  exact kept.2

/-- Single flight and quiescence. At most one batch is under way, and its handle is in the slot or
with an owner who waits for its end. A verdict that a call returns is that of its pass. A pass that
gives up has touched nothing but the lock, and one that starts a batch has compared the catalog with
the change cache while none was under way and has launched the actions of that comparison. When the
end of a session has returned, there is no session and no watcher, all batches are over, no request
of theirs is left, and nothing is sent before a session is begun. -/
theorem singleFlight_of_run (ran : (start config client cache disk).run labels = some diary) :
    (∀ number number' worker worker',
      diary.machine.hub.batch? number = some worker → worker.isOver = false →
      diary.machine.hub.batch? number' = some worker' → worker'.isOver = false →
        number = number') ∧
    (∀ number worker, diary.machine.hub.batch? number = some worker → worker.isOver = false →
      diary.machine.hub.slot = some number ∨ diary.machine.owner = .joining number) ∧
    (∀ label after verdict,
      diary.machine.step label = some (after, some (.passed (.ok verdict))) →
        ∃ diary' last, diary.write label = some diary' ∧
          (diary'.pass .owner).getLast? = some last ∧ last.progress = .ended (.ok verdict)) ∧
    (∀ party last, (diary.pass party).getLast? = some last →
      (last.progress = .ended (.ok .busy) → ∀ step ∈ diary.pass party, step.IsSilent) ∧
        ∀ count, last.progress = .ended (.ok (.started count)) →
          Launches (diary.pass party) count) ∧
    ∀ label after report, diary.lastCall? = some .stop →
      diary.machine.step label = some (after, some (.collected (.ok report))) →
        after.isSynchronizing = false ∧ after.watching = none ∧
        (∀ worker ∈ after.hub.batches, worker.isOver = true ∧ worker.isHolding = false) ∧
        after.hub.client.live = client.live ∧
        ∀ later diary', (∀ label ∈ later, label.isBegin = false) →
          diary.run (label :: later) = some diary' → diary'.sent = diary.sent := by
  have settled : diary.IsSettled client.live :=
    run_induction ran .start fun _ _ _ _ before written => before.write written
  have sound := settled.passing.sound
  refine ⟨?_, ?_, ?_, ?_, ?_⟩
  · intro number number' worker worker' found active found' active'
    exact sound.unique found active found' active'
  · intro number worker found active
    refine (sound.inFlight number worker found active).imp_right fun taken => ?_
    cases owner : diary.machine.owner <;> rw [owner] at taken <;> cases taken
    rfl
  · intro label after verdict returned
    exact exists_pass_of_passed returned
  · intro party last found
    have passed := settled.passing.passed party
    exact ⟨passed.busy last found, fun count => passed.started last count found⟩
  · intro label after report stopped returned
    have quiet := isQuiet_of_stop settled stopped returned
    have allOver : ∀ worker ∈ after.hub.batches, worker.isOver = true ∧ worker.isHolding = false :=
      fun worker member => ⟨quiet.allOver worker member,
        Worker.isHolding_of_isOver (quiet.allOver worker member)⟩
    refine ⟨?_, quiet.watching, allOver, ?_, fun later diary' other ran' => ?_⟩
    · rw [Machine.isSynchronizing, quiet.session]
      rfl
    · have account := (Machine.transition_of_step returned).live settled.account
      have noneHeld : after.hub.held = 0 := List.countP_eq_zero.2 fun worker member =>
        Bool.not_eq_true _ ▸ (allOver worker member).2
      rw [account, noneHeld, Nat.add_zero]
    · rw [run, List.foldlM_cons] at ran'
      obtain ⟨next, written, ran'⟩ := Option.bind_eq_some_iff.1 ran'
      obtain ⟨after', result, stepped, rfl⟩ := write_eq_some written
      cases returned.symm.trans stepped
      rw [sent_of_isQuiet quiet ran' other, Diary.sent, List.flatMap_append,
        List.flatMap_singleton, Entry.sent_of_return returned, List.append_nil]
      rfl

/-- A session is stopped while its only photo is on the way to the store. -/
def labelsOfStop : List Label :=
  .call (.begin "photos.lrcat" "home") ::
      [.catalog (.opened (.ok ())), .load .absent, .status true none].map .owner ++ labelsOfPass ++
    [.proceed, .entry (.ok (some ⟨"A", "A.lrprev", [⟨1, 220⟩]⟩)), .file (.ok [1]), .proceed,
      .image (.ok ⟨1, 1, [0, 0, 0]⟩), .file (.ok [1]), .proceed, .proceed, .proceed, .proceed,
      .time .epoch].map (.worker 0) ++
    [.call .stop, .owner .proceed, .owner .proceed, .owner .proceed, .owner .proceed,
      .worker 0 (.event (.pull 1)), .worker 0 .proceed, .worker 0 .proceed, .worker 0 .proceed]

/-- How many actions a pass has started that ends with a step. -/
def startedBy (step : PassStep) : Option Nat :=
  match step.progress with
  | .ended (.ok (.started count)) => some count
  | _ => none

/-- In the end the report of the batch is returned, which was cancelled with its request sent. -/
theorem exists_returned_of_stop :
    ∃ diary after last report,
      (start {} Scene.clientOfOne (Cache.inMemory []) {}).run labelsOfStop = some diary ∧
      diary.lastCall? = some .stop ∧ diary.sent.length = 1 ∧
      (diary.pass .owner).getLast? = some last ∧
      last.progress = .ended (.ok (.started 1)) ∧
      diary.machine.step (.owner .proceed) = some (after, some (.collected (.ok report))) ∧
      report = some ⟨0, { cancelled := true }⟩ := by
  have seen : ((start {} Scene.clientOfOne (Cache.inMemory []) {}).run labelsOfStop).bind
      (fun diary => (diary.machine.step (.owner .proceed)).map fun stepped =>
        (diary.lastCall?, diary.sent.length, (diary.pass .owner).getLast?.bind startedBy,
          returnedReport stepped.2)) =
      some (some .stop, 1, some 1, some ⟨0, { cancelled := true }⟩) := by
    decide +kernel
  obtain ⟨diary, ran, stepped⟩ := Option.bind_eq_some_iff.1 seen
  obtain ⟨⟨after, result⟩, stepped, same⟩ := Option.map_eq_some_iff.1 stepped
  simp only [Prod.mk.injEq] at same
  obtain ⟨stopped, sent, started, report⟩ := same
  obtain ⟨last, found, started⟩ := Option.bind_eq_some_iff.1 started
  cases eq_of_returnedReport report
  unfold startedBy at started
  split at started
  · rename_i ended
    cases started
    exact ⟨diary, after, last, _, ran, stopped, sent, found, ended, stepped, rfl⟩
  · cases started

/-- After that the request is released, and nothing more is sent by whatever is no beginning. -/
theorem singleFlight_of_stop :
    ∃ diary after report,
      (start {} Scene.clientOfOne (Cache.inMemory []) {}).run labelsOfStop = some diary ∧
      diary.lastCall? = some .stop ∧ diary.sent.length = 1 ∧ Launches (diary.pass .owner) 1 ∧
      diary.machine.step (.owner .proceed) = some (after, some (.collected (.ok report))) ∧
      after.isSynchronizing = false ∧ after.watching = none ∧
      (∀ worker ∈ after.hub.batches, worker.isOver = true ∧ worker.isHolding = false) ∧
      after.hub.client.live = 0 ∧
      ∀ later diary', (∀ label ∈ later, label.isBegin = false) →
        diary.run (.owner .proceed :: later) = some diary' → diary'.sent = diary.sent := by
  obtain ⟨diary, after, last, report, ran, stopped, sent, found, started, returned, -⟩ :=
    exists_returned_of_stop
  obtain ⟨-, -, -, passed, rest⟩ := singleFlight_of_run ran
  obtain ⟨idle, unwatched, allOver, live, quiet⟩ := rest _ _ _ stopped returned
  exact ⟨diary, after, report, ran, stopped, sent, (passed .owner last found).2 1 started, returned,
    idle, unwatched, allOver, live, quiet⟩

end Diary

end PreviewSync.Sync
