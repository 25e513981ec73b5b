import PreviewSync.Proofs.Store.Cancellation
import PreviewSync.Proofs.Sync.Intent
import PreviewSync.Proofs.Sync.SingleFlight

/-!
# A worker that is told to end

Whoever ends a batch raises the flag first and cancels the request that is known then. A worker
makes its request known first and looks at the flag then. So one of them sees what the other has
done: a request that was known is cancelled by the one who ends the batch, and any other by the
worker itself. From then on no operation is started but to be turned down, one that is under way
ends cancelled, and no further item is begun.

## Main Definitions

* `Stage.isKnown` — the stages at which a request is known for cancellation
* `Stage.IsOrderly` — requests that have not been used are idle
* `Stage.Forestalled`, `Stage.CalledOff` — what is left of an operation that was not started, and of
  one that was under way
* `Worker.WindsDown` — how a batch ends that was told so, with `Worker.WindsDown.step`
-/

namespace PreviewSync

open Store (Dispatch Flight Operation)

namespace Store.Request

variable {request : Request} {key : String} {operation : Operation} {now : Instant}

/-- An operation that finds its request idle and cancelled is turned down, by validation or by the
cancellation, and nothing is put on the wire. -/
theorem start_of_cancelled (idle : request.state = .idle) (called : request.cancelled = true) :
    (request.start key operation now).2 = none ∧
      (request.Admits key operation now →
        (request.start key operation now).1.result? = some (.error .cancelled)) ∧
      (¬ request.Admits key operation now → ∃ rejection,
        (request.start key operation now).1.result? = some (.error (.rejected rejection))) := by
  have begins := request.begins_start key operation now
  generalize request.start key operation now = begun at begins ⊢
  cases begins with
  | busy busy => exact absurd idle busy
  | refused rejection _ invalid =>
    exact ⟨rfl, fun valid => absurd valid invalid, fun _ => ⟨rejection, rfl⟩⟩
  | forestalled _ valid => exact ⟨rfl, fun _ => rfl, fun invalid => absurd valid invalid⟩
  | launched body dispatch _ valid uncalled =>
    rw [called] at uncalled
    cases uncalled

/-- An operation that finds its request idle is under way only if it stands where its request
does. -/
theorem sound_start (idle : request.state = .idle)
    (underWay : (request.start key operation now).1.result? = none) :
    (request.start key operation now).1.Sound := by
  have begins := request.begins_start key operation now
  generalize request.start key operation now = begun at begins underWay ⊢
  cases begins with
  | busy busy => exact absurd idle busy
  | refused | forestalled => cases underWay
  | launched => exact sound_launched

end Store.Request

namespace Sync

/-! ### Items -/

/-- An operation has been turned down, by a cancellation or by validation. Validation comes first,
so a request that is cancelled and cannot be sent either is refused as one that cannot be sent. -/
def IsTurnedDown (result : Except Store.Fault Unit) : Prop :=
  result = .error .cancelled ∨ ∃ rejection, result = .error (.rejected rejection)

namespace Stage

/-- Whether the request of an item at a stage is known for cancellation. It is made known before the
worker looks at the flag for the last time, and that order is what the whole module rests on. -/
def isKnown : Stage → Bool
  | heeding _ _ | starting _ _ | exchanging _ _ | clearing _ _ => true
  | _ => false

/-- Whether an operation is under way that has not come to its end. One that has come to its end
cannot be called off any more, though its item is still at work. -/
def isUnderWay : Stage → Bool
  | exchanging _ flight => flight.result?.isNone
  | _ => false

/-- A request that has not been used is idle, and an operation under way stands where its request
does. -/
def IsOrderly : Stage → Prop
  | publishing request _ | heeding request _ | starting request _ => request.state = .idle
  | exchanging _ flight => flight.result? = none → flight.Sound
  | _ => True

/-- A cancellation has got through to the request of an item. At the stages before, it has nothing
to get through to, and the worker will look at the flag itself. -/
def IsWarned : Stage → Prop
  | starting request _ => request.cancelled = true
  | exchanging _ flight => flight.result? = none → flight.request.cancelled = true
  | _ => True

/-- The operation of an item has not been started, or it was turned down with nothing on the wire.
This is kept while the flag is up, whatever the item does. -/
def Forestalled : Stage → Prop
  | starting request _ => request.cancelled = true
  | exchanging dispatch flight =>
    dispatch = none ∧ ∃ result, flight.result? = some result ∧ IsTurnedDown result
  | clearing _ result | releasing result => IsTurnedDown result
  | recording => False
  | _ => True

/-- The operation of an item has ended cancelled, or it is under way and can only end so. Something
of it may have been sent before, and that cannot be taken back. -/
def CalledOff : Stage → Prop
  | exchanging _ flight => flight.Called
  | clearing _ result | releasing result => result = .error .cancelled
  | _ => False

variable {config : Config} {item : Item} {s s' : Shared} {stage next : Stage} {answer : Answer}
  {progress : Progress}

/-- An item that has no request, or has just got one, is as it has to be in any case. There is
nothing yet that a cancellation could have missed. -/
theorem plain_of_isEarly (early : stage.IsEarly ∨ ∃ operation, stage = requesting operation) :
    stage.isKnown = false ∧ stage.IsOrderly ∧ stage.Forestalled := by
  rcases early with early | ⟨operation, rfl⟩
  · cases stage <;> first | exact early.elim | exact ⟨rfl, trivial, trivial⟩
  · exact ⟨rfl, trivial, trivial⟩

/-- The end of an operation leads on only if it has succeeded. So a key is never recorded for an
operation that failed or was called off. -/
theorem eq_recording_of_ofResult {result : Except Store.Fault Unit}
    (h : ofResult result = .reached next) : result = .ok () ∧ next = recording := by
  rcases result with fault | ⟨⟩
  · rcases ofResult_cases (.error fault) with later | ⟨_, ended⟩
    · cases fault <;> cases later
    · rw [ended] at h
      cases h
  · cases h
    exact ⟨rfl, rfl⟩

/-- The change cache is the last thing that an item has to do with. Whether it can be written or
not, the item ends there. -/
theorem record_ne_reached {trouble : Disk.Trouble} :
    (record item s trouble).2 ≠ .reached next := by
  rcases record_cases item s trouble with ⟨fault, ended⟩ | ⟨_, _, _, -, ended⟩ <;>
    rw [ended] <;> exact nofun

namespace Move

/-- A worker neither raises nor lowers the flag. The flag is for others to tell the worker
something, and never the other way round. -/
theorem cancel_eq (h : Move config item s stage answer s' progress) : s'.cancel = s.cancel := by
  cases h with
  | @record trouble =>
    rcases record_cases item s trouble with ⟨fault, same⟩ | ⟨_, _, _, -, same⟩ <;> rw [same]
  | _ => rfl

/-- Requests stay as they have to be. A cancellation takes effect at the start because a request
that is known by then is still idle. -/
theorem isOrderly (h : Move config item s stage answer s' (.reached next))
    (here : stage.IsOrderly) : next.IsOrderly := by
  generalize reached : Progress.reached next = progress at h
  cases h with
  | prepare early unsettled steps =>
    exact (plain_of_isEarly (steps next reached.symm).1).2.1
  | create made =>
    cases reached
    unfold Store.Client.create at made
    split at made <;> cases made
    rfl
  | publish =>
    cases reached
    exact here
  | heed same =>
    cases reached
    rcases same with rfl | rfl <;> exact here
  | start =>
    cases reached
    exact Store.Request.sound_start here
  | @event dispatch flight event underWay =>
    cases reached
    exact fun _ => (here underWay).step event
  | conclude | clear =>
    cases reached
    trivial
  | release =>
    obtain ⟨-, rfl⟩ := eq_recording_of_ofResult reached.symm
    trivial
  | record => exact absurd reached.symm record_ne_reached
  | turnDown | refuse | breakDown => cases reached

/-- A request is known from the moment it is made known until it is cleared. So whoever looks for
the request to cancel finds this one or has come too late for it. -/
theorem published (h : Move config item s stage answer s' (.reached next))
    (here : stage.isKnown = true → s.published = some item.batch) (known : next.isKnown = true) :
    s'.published = some item.batch := by
  generalize reached : Progress.reached next = progress at h
  cases h with
  | prepare early unsettled steps =>
    rw [(plain_of_isEarly (steps next reached.symm).1).1] at known
    cases known
  | publish => rfl
  | heed | start | event | conclude => exact here rfl
  | create | clear =>
    cases reached
    cases known
  | release =>
    obtain ⟨-, rfl⟩ := eq_recording_of_ofResult reached.symm
    cases known
  | record => exact absurd reached.symm record_ne_reached
  | turnDown | refuse | breakDown => cases reached

/-- An operation that is called off goes on to its end, and the item is cancelled by it. It may
notice late, but it cannot succeed any more, as cancellation is looked at once more at the end. -/
theorem calledOff (h : Move config item s stage answer s' progress) (orderly : stage.IsOrderly)
    (here : stage.CalledOff) :
    (∃ next, progress = .reached next ∧ next.CalledOff) ∨ progress = .failed .cancelled := by
  cases h with
  | prepare early => cases stage <;> first | exact early.elim | exact here.elim
  | @event dispatch flight event underWay =>
    exact .inl ⟨_, rfl, Flight.Called.step here (orderly underWay) event⟩
  | @conclude dispatch flight result atEnd =>
    refine .inl ⟨_, rfl, ?_⟩
    rcases here.2 with none | cancelled
    · rw [none] at atEnd
      cases atEnd
    · rw [cancelled] at atEnd
      exact (Option.some.inj atEnd).symm
  | clear => exact .inl ⟨_, rfl, here⟩
  | release =>
    cases here
    exact .inr rfl
  | _ => exact here.elim

end Move

/-- A worker that has made its request known looks at the flag. This second look closes the gap:
whoever raises the flag before it is seen here, and whoever raises it later finds the request. -/
theorem eq_starting_of_heed {request : Store.Request} {operation : Operation}
    (h : (heeding request operation).step config item s answer = some (s', .reached next)) :
    next = starting (if s.cancel then request.cancel else request) operation := by
  cases answer <;> cases h
  rfl

/-- While the flag is up, an operation that was not started is turned down in the end. The worker
may look at the flag before or after it was raised; after, it cancels the request itself, and
before, the one who raised it has. -/
theorem forestalled_of_step (raised : s.cancel = true) (orderly : stage.IsOrderly)
    (here : stage.Forestalled)
    (h : stage.step config item s answer = some (s', .reached next)) : next.Forestalled := by
  have moved := move_of_step h
  generalize reached : Progress.reached next = progress at moved
  cases moved with
  | prepare early unsettled steps =>
    exact (plain_of_isEarly (steps next reached.symm).1).2.2
  | create | publish =>
    cases reached
    trivial
  -- The worker sees the flag and cancels the request itself.
  | heed =>
    rw [eq_starting_of_heed h, raised]
    rfl
  | @start request operation now =>
    cases reached
    obtain ⟨unsent, valid, invalid⟩ : _ ∧ (request.Admits (objectKey item.key) operation now → _) ∧
        _ := Store.Request.start_of_cancelled orderly here
    refine ⟨unsent, ?_⟩
    -- The request is turned down in any case; validation comes first and may have another reason.
    by_cases admitted : request.Admits (objectKey item.key) operation now
    · exact ⟨_, valid admitted, .inl rfl⟩
    · obtain ⟨rejection, rejected⟩ := invalid admitted
      exact ⟨_, rejected, .inr ⟨rejection, rfl⟩⟩
  | event underWay =>
    obtain ⟨-, result, ended, -⟩ := here
    rw [underWay] at ended
    cases ended
  | conclude atEnd =>
    cases reached
    obtain ⟨-, result, ended, turnedDown⟩ := here
    cases ended.symm.trans atEnd
    exact turnedDown
  | clear =>
    cases reached
    exact here
  -- A request that was turned down has not succeeded, so the item does not go on to the cache.
  | release =>
    obtain ⟨rfl, -⟩ := eq_recording_of_ofResult reached.symm
    rcases here with cancelled | ⟨rejection, rejected⟩
    · cases cancelled
    · cases rejected
  | record => exact absurd reached.symm record_ne_reached
  | turnDown | refuse | breakDown => cases reached

/-! A cancellation of the request of an item takes none of this back. -/

theorem isOrderly_cancel (here : stage.IsOrderly) : stage.cancel.IsOrderly := by
  cases stage with
  | exchanging dispatch flight => exact fun underWay => (here underWay).step .cancel
  | _ => exact here

theorem isKnown_cancel (stage : Stage) : stage.cancel.isKnown = stage.isKnown := by
  cases stage <;> rfl

theorem isWarned_cancel (stage : Stage) : stage.cancel.IsWarned := by
  cases stage <;> first | rfl | exact fun _ => rfl | trivial

theorem isWarned_of_not_isKnown (unknown : stage.isKnown = false) : stage.IsWarned := by
  cases stage <;> trivial

theorem forestalled_cancel (here : stage.Forestalled) : stage.cancel.Forestalled := by
  cases stage with
  | starting => rfl
  | _ => exact here

theorem calledOff_cancel (here : stage.CalledOff) : stage.cancel.CalledOff := by
  cases stage with
  | exchanging dispatch flight => exact ⟨rfl, here.2⟩
  | _ => exact here

/-- What has come of a stage since the batch was told to end: a later one, and no operation has gone
through that was not started or was under way. The two kinds are kept apart, because only one that
was under way can have been sent. -/
structure Follows (first stage : Stage) : Prop where
  started : first.hasStarted = true → stage.hasStarted = true
  forestalled : first.hasStarted = false → stage.Forestalled
  calledOff : first.isUnderWay = true → stage.CalledOff

namespace Follows

variable {first : Stage}

/-- A stage that a cancellation has got through to follows itself. This is where the account of what
happens after a cancellation begins. -/
theorem refl (warned : stage.IsWarned) : stage.Follows stage where
  started := id
  forestalled unstarted := by
    cases stage <;> first | exact warned | cases unstarted
  calledOff underWay := by
    cases stage with
    | exchanging dispatch flight =>
      have none : flight.result? = none := Option.isNone_iff_eq_none.1 underWay
      exact ⟨warned none, .inl none⟩
    | _ => cases underWay

theorem cancel (h : first.Follows stage) : first.Follows stage.cancel where
  started := by
    rw [hasStarted_cancel]
    exact h.started
  forestalled unstarted := forestalled_cancel (h.forestalled unstarted)
  calledOff underWay := calledOff_cancel (h.calledOff underWay)

/-- An item that goes on while the flag is up does so as it was told. The flag must be up all the
while, which the owner sees to by keeping passes away. -/
theorem step (h : first.Follows stage) (raised : s.cancel = true) (orderly : stage.IsOrderly)
    (stepped : stage.step config item s answer = some (s', .reached next)) :
    first.Follows next where
  started started := by
    rcases (move_of_step stepped).hasStarted rfl with same | ⟨_, _, _, _, -, rfl⟩
    · rw [same]
      exact h.started started
    · rfl
  forestalled unstarted := forestalled_of_step raised orderly (h.forestalled unstarted) stepped
  calledOff underWay := by
    rcases (move_of_step stepped).calledOff orderly (h.calledOff underWay) with
      ⟨later, same, called⟩ | ended
    · cases same
      exact called
    · cases ended

end Follows

end Stage

/-! ### Batches -/

namespace Worker

variable {config : Config} {s s' : Shared} {origin w w' : Worker} {answer : Answer}

/-- While the flag is up, a worker begins no item. With nothing left to do it ends as usual, and
then its report does not say that it was cancelled. -/
theorem choose_true (w : Worker) :
    w.choose true = { w with point := .finished } ∧ w.pending = [] ∨
      w.choose true = w.finishCancelled := by
  unfold choose
  split
  · exact .inl ⟨rfl, ‹_›⟩
  · exact .inr rfl

/-- Whether a batch has an operation under way that has not come to its end. -/
def isUnderWay (w : Worker) : Bool :=
  match w.point with
  | .working stage => stage.isUnderWay
  | _ => false

theorem exists_of_isUnderWay (h : w.isUnderWay = true) :
    ∃ dispatch flight, w.point = .working (.exchanging dispatch flight) ∧
      flight.result? = none := by
  unfold isUnderWay at h
  split at h
  · rename_i stage atWork
    cases stage with
    | exchanging dispatch flight =>
      exact ⟨dispatch, flight, atWork, Option.isNone_iff_eq_none.1 h⟩
    | _ => cases h
  · cases h

/-- What has come of a batch since it was told to end. No item is begun, the one at work is the
last, and its operation goes through only if it was past its last look at the flag. The batch at
that time stays in the statement, since what may still happen depends on it. -/
structure WindsDown (origin w : Worker) : Prop where
  choosing : w.point = .choosing → origin.isUnderWay = false ∧
    (origin.point = .choosing ∧ w.pending = origin.pending ∨
      (∃ first, origin.point = .working first) ∧ w.pending = origin.pending.tail)
  working : ∀ stage, w.point = .working stage → w.pending = origin.pending ∧
    ∃ first, origin.point = .working first ∧ first.Follows stage
  finished : ∀ report, w.result? = some report → report.cancelled = true ∨
    origin.isUnderWay = false ∧ w.pending = [] ∧ origin.pending.length ≤ 1
  broken : w.point = .broken → origin.isUnderWay = false

namespace WindsDown

/-- A batch that is under way when it is told to end. It need not have noticed anything yet. -/
theorem refl (active : w.isOver = false) (warned : w.AtWork fun _ _ stage => stage.IsWarned)
    (atWork : ∀ stage, w.point = .working stage → w.pending ≠ []) : w.WindsDown w where
  choosing atChoice := ⟨by rw [isUnderWay, atChoice], .inl ⟨atChoice, rfl⟩⟩
  working stage working := by
    refine ⟨rfl, stage, working, .refl ?_⟩
    obtain ⟨⟨key, action⟩, rest, pending⟩ := List.exists_cons_of_ne_nil (atWork stage working)
    exact warned stage key action rest working pending
  finished report finished := by
    rw [isOver_of_result finished] at active
    cases active
  broken broken := by
    rw [isOver, broken] at active
    cases active

theorem cancel (h : origin.WindsDown w) : origin.WindsDown w.cancel := by
  unfold Worker.cancel
  split
  · rename_i stage atWork
    obtain ⟨same, first, working, follows⟩ := h.working stage atWork
    exact
      { choosing := nofun
        working := by
          rintro _ ⟨⟩
          exact ⟨same, first, working, follows.cancel⟩
        finished := nofun
        broken := nofun }
  · exact h

/-- A batch that has come to its end. It was cancelled, or there was no more than its last item left
when it was told to. -/
theorem of_finished (atEnd : w.point = .finished)
    (ended : w.report.cancelled = true ∨
      origin.isUnderWay = false ∧ w.pending = [] ∧ origin.pending.length ≤ 1) :
    origin.WindsDown w where
  choosing atChoice := by
    rw [atEnd] at atChoice
    cases atChoice
  working stage atWork := by
    rw [atEnd] at atWork
    cases atWork
  finished report found := by
    rw [result?, atEnd] at found
    cases found
    exact ended
  broken broken := by
    rw [atEnd] at broken
    cases broken

/-- A batch whose item at work has ended otherwise than by a cancellation. That item is settled, and
what follows it is not begun. -/
theorem of_choosing (atChoice : w.point = .choosing) {first : Stage}
    (working : origin.point = .working first) (settled : origin.isUnderWay = false)
    (left : w.pending = origin.pending.tail) : origin.WindsDown w where
  choosing _ := ⟨settled, .inr ⟨⟨first, working⟩, left⟩⟩
  working stage atWork := by
    rw [atChoice] at atWork
    cases atWork
  finished report found := by
    rw [result?, atChoice] at found
    cases found
  broken broken := by
    rw [atChoice] at broken
    cases broken

/-- A worker that chooses while the flag is up comes to its end. The choice between items is the
other place where a worker looks at the flag. -/
theorem choose (h : origin.WindsDown w) (atChoice : w.point = .choosing) :
    origin.WindsDown (w.choose true) := by
  rcases w.choose_true with ⟨same, nothing⟩ | same <;> rw [same]
  · obtain ⟨settled, left⟩ := h.choosing atChoice
    refine of_finished rfl (.inr ⟨settled, nothing, ?_⟩)
    rw [nothing] at left
    rcases left with ⟨-, all⟩ | ⟨-, others⟩
    · rw [← all]
      exact Nat.zero_le _
    · have length := congrArg List.length others
      rw [List.length_tail] at length
      exact Nat.sub_eq_zero_iff_le.1 length.symm
  · exact of_finished rfl (.inl rfl)

/-- The end of the item at work is the end of the batch, or nothing but its end is left. Either the
item was cancelled, or the next choice sees the flag. -/
theorem advance (h : origin.WindsDown w) {stage : Stage} {key : String} {action : Action}
    {rest : List (String × Action)} {progress : Progress} (atWork : w.point = .working stage)
    (pending : w.pending = (key, action) :: rest) (orderly : stage.IsOrderly)
    (moved : Stage.Move config ⟨w.number, w.destination, key, action⟩ s stage answer s' progress)
    (ended : ∀ next, progress ≠ .reached next) :
    origin.WindsDown (w.advance key action rest progress) := by
  obtain ⟨same, first, working, follows⟩ := h.working stage atWork
  -- An operation that was under way ends the item by a cancellation.
  have settled : progress ≠ .failed .cancelled → origin.isUnderWay = false := by
    intro other
    rw [isUnderWay, working, Bool.eq_false_iff]
    intro underWay
    rcases moved.calledOff orderly (follows.calledOff underWay) with ⟨next, reached, -⟩ | cancelled
    · exact ended next reached
    · exact other cancelled
  have left : rest = origin.pending.tail := by
    rw [← same, pending]
    rfl
  cases progress with
  | reached next => exact absurd rfl (ended next)
  | done => exact of_choosing rfl working (settled nofun) left
  | broken =>
    exact
      { choosing := nofun
        working := fun _ atWork => by cases atWork
        finished := nofun
        broken := fun _ => settled nofun }
  | failed fault =>
    by_cases cancelled : fault = .cancelled
    · rw [cancelled]
      exact of_finished rfl (.inl rfl)
    · rw [advance_failed cancelled]
      exact of_choosing rfl working (settled fun same => cancelled (Progress.failed.inj same)) left

/-- While the flag is up, every step of a worker takes its batch towards the end. It is proved for
the batch as it was when it was told to end, so it can be used at any later time. -/
theorem step (h : origin.WindsDown w) (raised : s.cancel = true)
    (orderly : w.AtWork fun _ _ stage => stage.IsOrderly)
    (stepped : w.step config s answer = some (s', w')) : origin.WindsDown w' := by
  rcases step_cases stepped with
    ⟨atChoice, -, rfl⟩ | ⟨stage, key, action, rest, progress, atWork, pending, moved, rfl⟩
  · rw [raised]
    exact h.choose atChoice
  · have orderly := orderly stage key action rest atWork pending
    by_cases goesOn : ∃ next, progress = .reached next
    · obtain ⟨next, rfl⟩ := goesOn
      obtain ⟨same, first, working, follows⟩ := h.working stage atWork
      rcases stage_of_step stepped rfl with
        ⟨atChoice, -⟩ | ⟨stage', key', action', rest', atWork', pending', -, went⟩
      · rw [atWork] at atChoice
        cases atChoice
      · cases atWork.symm.trans atWork'
        exact
          { choosing := nofun
            working := by
              rintro _ ⟨⟩
              exact ⟨same, first, working, follows.step raised orderly went⟩
            finished := nofun
            broken := nofun }
    · exact h.advance atWork pending orderly moved fun next reached => goesOn ⟨next, reached⟩

/-- Once a batch has been told to end, it puts nothing more on the wire. A request that is on the
wire already is another matter: it may still be answered. -/
theorem dispatched?_eq_none (h : origin.WindsDown w) (h' : origin.WindsDown w') :
    w.dispatched? w' = none := by
  unfold dispatched?
  split
  · rename_i request operation item rest dispatch flight atStart pending atExchange
    obtain ⟨-, first, working, follows⟩ := h.working _ atStart
    obtain ⟨-, first', working', follows'⟩ := h'.working _ atExchange
    cases working.symm.trans working'
    -- The operation was not started before, and it has been turned down when it is.
    have unstarted : first.hasStarted = false := by
      rw [Bool.eq_false_iff]
      intro started
      cases follows.started started
    cases (follows'.forestalled unstarted).1
  · rfl

end WindsDown

end Worker

end Sync

end PreviewSync
