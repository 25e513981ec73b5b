import PreviewSync.Proofs.Store.Operation

/-!
# What an event does to an operation

An operation under way either goes on, ends with a result that its request shows, or gives up
because a cancellation was asked for; nothing but a cancellation raises the flag of its request.
Everything that holds of whole operations is derived from this one account of a step.

## Main Definitions

* `Request.Shows` — the state and the response of a request go with a result
* `Flight.Sound` — the request stands where its operation does
* `Flight.Move`, `Flight.move_of_step` — what an event does
* `Flight.Sound.run` — the request stands where its operation does after any events
* `Flight.run_of_ended` — an operation that is over takes no notice of events but cancellations
* `Flight.exists_result_of_closing` — an exchange that stops ends its operation
-/

namespace PreviewSync.Store

namespace Request

/-- The state and the response of a request go with the result of an operation that was under way.
No other result is shown. A body that breaks off leaves the answer to be seen, so a complete request
with the expected status need not be a success. -/
def Shows {α : Type} (request : Request) (verb : Verb) : Except Fault α → Prop
  | .ok _ => request.state = .complete ∧ request.statusCode = some (expectedStatus verb)
  | .error (.unexpectedStatus asked expected actual) =>
    asked = verb ∧ expected = expectedStatus verb ∧ actual ≠ expected ∧
      request.state = .complete ∧ request.statusCode = some actual
  | .error (.transport _) =>
    request.state = .complete ∧
      (request.response = none ∨
        verb = .get ∧ request.statusCode = some (expectedStatus verb))
  | .error .cancelled => request.state = .cancelled
  | .error _ => False

/-- The request after some events, as far as they ask for a cancellation. It is what is left of
events for a request that has nothing under way. -/
def calledBy (request : Request) (events : List Event) : Request :=
  if .cancel ∈ events then request.cancel else request

/-- The events count one after the other. Asking twice is no different from asking once. -/
theorem calledBy_cons (request : Request) (event : Event) (events : List Event) :
    request.calledBy (event :: events) =
      (if event = .cancel then request.cancel else request).calledBy events := by
  unfold calledBy
  by_cases here : event = .cancel
  · subst here
    simp [cancel]
  · have other : ¬ Event.cancel = event := fun same => here same.symm
    simp [here, other]

/-- Only the flag can be changed. The state is up to the operation, and there is none. -/
theorem calledBy_eq (request : Request) (events : List Event) :
    request.calledBy events =
      { request with cancelled := request.cancelled || decide (.cancel ∈ events) } := by
  unfold calledBy
  split
  · rename_i asked
    simp [cancel, asked]
  · rename_i silent
    simp [silent]

/-- Cancellations take nothing away from what is shown. State and metadata are as the operation has
left them. -/
theorem Shows.calledBy {α : Type} {request : Request} {verb : Verb} {result : Except Fault α}
    (h : request.Shows verb result) (events : List Event) :
    (request.calledBy events).Shows verb result := by
  rw [calledBy_eq]
  exact h

end Request

namespace Flight

/-- The request stands where its operation does: a body is only read for an object, behind the
expected status, and the end is shown. An event can only be understood where this holds, and every
event keeps it. -/
def Sound (flight : Flight) : Prop :=
  match flight.stage with
  | .sending _ => flight.request.phase = .opening ∨ flight.request.phase = .transferring
  | .receiving metadata _ =>
    flight.request.phase = .receiving ∧ flight.operation.verb = .get ∧
      metadata.status = expectedStatus flight.operation.verb
  | .finished result => flight.request.Shows flight.operation.verb result

/-- What an event does to an operation. A cancellation only raises the flag; any other event finds
the flag raised, so that the operation gives up, or it does not, and the operation advances. Later
modules go by these four and do not look into the events again. -/
inductive Move (flight : Flight) : Event → Flight → Prop
  | cancel : Move flight .cancel { flight with request := flight.request.cancel }
  | rest {event : Event} (other : event ≠ .cancel) : Move flight event flight
  | giveUp {event : Event} (other : event ≠ .cancel) (underWay : flight.result? = none)
      (called : flight.request.cancelled = true) : Move flight event flight.finishCancelled
  | advance {event : Event} {phase : Phase} {stage : Stage} (other : event ≠ .cancel)
      (underWay : flight.result? = none) (uncalled : flight.request.cancelled = false)
      (genuine : stage ≠ .finished (.error .cancelled))
      (sound : Sound ⟨{ flight.request with phase }, flight.operation, stage⟩) :
      Move flight event ⟨{ flight.request with phase }, flight.operation, stage⟩

variable {flight : Flight} {event : Event}

/-- An operation that comes to a conclusion gives up or shows its result. It gives up if the flag is
up, whatever it has come to. -/
theorem Move.of_conclude {phase : Phase} {result : Except Fault Bytes} (other : event ≠ .cancel)
    (underWay : flight.result? = none) (genuine : result ≠ .error .cancelled)
    (shows : Request.Shows { flight.request with phase } flight.operation.verb result) :
    flight.Move event (flight.conclude phase result) := by
  unfold conclude
  split
  · rename_i called
    exact .giveUp other underWay called
  · rename_i uncalled
    refine .advance other underWay (Bool.not_eq_true _ ▸ uncalled) ?_ shows
    intro same
    apply genuine
    injection same

/-- An operation that would go on gives up or does so. The flag is looked at between any two stages.
-/
theorem Move.of_proceed {stage : Stage} (phase : Phase) (other : event ≠ .cancel)
    (underWay : flight.result? = none) (genuine : stage ≠ .finished (.error .cancelled))
    (sound : Sound ⟨{ flight.request with phase }, flight.operation, stage⟩) :
    flight.Move event
      (proceed { flight with request := { flight.request with phase } } stage) := by
  unfold proceed
  split
  · rename_i called
    exact .giveUp other underWay called
  · rename_i uncalled
    exact .advance other underWay (Bool.not_eq_true _ ▸ uncalled) genuine sound

/-- The head of a response. It ends most operations; only reading an object goes on to a body, and
only after the expected status. -/
theorem move_of_respond {status : UInt16} {lines : List HeaderLine} (other : event ≠ .cancel)
    (underWay : flight.result? = none) : flight.Move event (flight.respond status lines) := by
  unfold respond
  dsimp only
  -- Whatever comes of the response replaces the phase of receiving it.
  split
  · rename_i unexpected
    exact @Move.of_conclude flight event _ _ other underWay nofun
      ⟨rfl, rfl, unexpected, rfl, rfl⟩
  · rename_i expected
    rw [ne_eq, Decidable.not_not] at expected
    split
    · rename_i reading
      exact Move.of_proceed .receiving other underWay nofun ⟨rfl, reading, expected⟩
    · exact @Move.of_conclude flight event _ _ other underWay nofun
        ⟨rfl, congrArg some expected⟩

/-- A step is a move, one case for each kind of event that finds the operation ready for it. Events
that come too early or too late change nothing but the flag. -/
theorem move_of_step (sound : flight.Sound) (event : Event) :
    flight.Move event (flight.step event) := by
  unfold step
  split
  case h_1 => exact .cancel
  case h_2 room rest sending =>
    have underWay : flight.result? = none := by rw [result?, sending]
    unfold Sound at sound
    rw [sending] at sound
    rw [pull_eq]
    split
    · rename_i called
      exact .giveUp nofun underWay called
    · rename_i uncalled
      refine .advance nofun underWay (Bool.not_eq_true _ ▸ uncalled) nofun ?_
      unfold Sound
      dsimp only
      split
      · exact .inr rfl
      · exact sound
  case h_3 detail rest sending =>
    have underWay : flight.result? = none := by rw [result?, sending]
    exact .of_conclude nofun underWay nofun ⟨rfl, .inl rfl⟩
  case h_4 status lines rest sending =>
    have underWay : flight.result? = none := by rw [result?, sending]
    exact move_of_respond nofun underWay
  case h_9 => exact .rest ‹_›
  -- What is left happens to a body that is being read.
  all_goals
    rename_i receiving
    have underWay : flight.result? = none := by rw [result?, receiving]
    unfold Sound at sound
    rw [receiving] at sound
    obtain ⟨phase, reading, status⟩ := sound
  case h_5 => exact .of_conclude nofun underWay nofun ⟨rfl, congrArg some status⟩
  case h_6 => exact .of_proceed flight.request.phase nofun underWay nofun ⟨phase, reading, status⟩
  case h_7 => exact .of_proceed flight.request.phase nofun underWay nofun ⟨phase, reading, status⟩
  case h_8 =>
    exact .of_conclude nofun underWay nofun ⟨rfl, .inr ⟨reading, congrArg some status⟩⟩

/-- After an event the request stands where its operation does. This is the invariant from which
everything about states is read off. -/
theorem Sound.step (sound : flight.Sound) (event : Event) : (flight.step event).Sound := by
  have move := move_of_step sound event
  generalize flight.step event = next at move ⊢
  cases move with
  | cancel => exact sound
  | rest other => exact sound
  | giveUp other underWay called => exact rfl
  | advance other underWay uncalled genuine sound => exact sound

/-- After any events the request stands where its operation does. -/
theorem Sound.run (sound : flight.Sound) (events : List Event) : (flight.run events).Sound :=
  List.foldlRecOn events Flight.step sound fun _ sound event _ => sound.step event

/-- An operation that is over shows its result. So whoever sees the request afterwards need not have
seen the operation. -/
theorem Sound.shows (sound : flight.Sound) {result : Except Fault Unit}
    (ended : flight.result? = some result) :
    flight.request.Shows flight.operation.verb result := by
  unfold result? at ended
  unfold Sound at sound
  split at ended
  · rename_i finished
    cases ended
    rw [finished] at sound
    exact sound
  · rename_i fault finished
    cases ended
    rw [finished] at sound
    cases fault <;> exact sound
  · cases ended

/-- Events do not change the operation of a flight. -/
theorem run_operation (flight : Flight) (events : List Event) :
    (flight.run events).operation = flight.operation :=
  List.foldlRecOn (motive := fun next => next.operation = flight.operation) events Flight.step rfl
    fun next same event _ => (next.step_operation event).trans same

/-- Events do not change the frame of the request. -/
theorem run_request_frame (flight : Flight) (events : List Event) :
    (flight.run events).request.frame = flight.request.frame :=
  List.foldlRecOn (motive := fun next => next.request.frame = flight.request.frame) events
    Flight.step rfl fun next same event _ => (next.step_request_frame event).trans same

/-- An event raises the flag of a request if it is a cancellation, and only then. In particular no
operation lowers it: that is left to a reset. -/
theorem Sound.cancelled_step (sound : flight.Sound) (event : Event) :
    (flight.step event).request.cancelled =
      (flight.request.cancelled || decide (event = .cancel)) := by
  have move := move_of_step sound event
  generalize flight.step event = next at move ⊢
  cases move with
  | cancel => simp [Request.cancel]
  | rest other => simp [other]
  | giveUp other underWay called => simp [other, finishCancelled, finish]
  | advance other underWay uncalled genuine sound => simp [other]

/-- Events raise the flag of a request if a cancellation is among them, and only then. -/
theorem Sound.cancelled_run (sound : flight.Sound) (events : List Event) :
    (flight.run events).request.cancelled =
      (flight.request.cancelled || decide (.cancel ∈ events)) := by
  induction events generalizing flight with
  | nil => simp [Flight.run]
  | cons event events ih =>
    show ((flight.step event).run events).request.cancelled = _
    rw [ih (sound.step event), sound.cancelled_step event, Bool.or_assoc]
    simp [List.mem_cons, eq_comm (a := event)]

/-- Several events may be taken in two parts. So a run can be looked at in the middle. -/
theorem run_append (flight : Flight) (events others : List Event) :
    flight.run (events ++ others) = (flight.run events).run others :=
  List.foldl_append

/-- An operation that is over takes no notice of an event but a cancellation. It raises the flag of
the request, but the result stands. -/
theorem step_of_ended (ended : flight.result? ≠ none) (event : Event) :
    flight.step event =
      { flight with
        request := if event = .cancel then flight.request.cancel else flight.request } := by
  obtain ⟨request, operation, stage⟩ := flight
  cases stage with
  | sending rest => exact absurd rfl ended
  | receiving metadata body => exact absurd rfl ended
  | finished result =>
    cases event with
    | arrive chunk => cases chunk <;> rfl
    | _ => rfl

/-- An operation that is over takes no notice of any events but cancellations. -/
theorem run_of_ended (ended : flight.result? ≠ none) (events : List Event) :
    flight.run events = { flight with request := flight.request.calledBy events } := by
  induction events generalizing flight with
  | nil => rfl
  | cons event events ih =>
    show (flight.step event).run events = _
    rw [step_of_ended ended, Request.calledBy_cons]
    exact ih ended

/-- The content of the output is as before unless the operation has succeeded. What was read of a
body that broke off is dropped. -/
theorem output_of_result? (failed : flight.result? ≠ some (.ok ())) :
    flight.output = flight.operation.output := by
  unfold output
  split
  · rename_i succeeded
    rw [result?, succeeded] at failed
    exact absurd rfl failed
  · rfl

/-- The events of an exchange that stops: no response comes any more, nor more of a body. Two are
enough: whatever an operation waits for, one of them ends it. -/
def closing : List Event :=
  [.fail "connection closed", .breakOff "connection closed"]

theorem cancel_not_mem_closing : Event.cancel ∉ closing := by
  simp [closing]

theorem result?_conclude (phase : Phase) (result : Except Fault Bytes) :
    (flight.conclude phase result).result? ≠ none := by
  unfold conclude
  split
  · exact nofun
  · cases result <;> exact nofun

/-- An exchange that stops ends its operation. So every operation comes to an end, which the model
has to show, as a list of events may stop anywhere. -/
theorem exists_result_of_closing (flight : Flight) :
    ∃ result, (flight.run closing).result? = some result := by
  rw [← Option.ne_none_iff_exists']
  obtain ⟨request, operation, stage⟩ := flight
  cases stage with
  | sending rest =>
    -- The first event concludes, and the second one comes too late to matter.
    let concluded := conclude ⟨request, operation, .sending rest⟩ (.complete none)
      (.error (.transport "connection closed"))
    have ended : concluded.result? ≠ none := result?_conclude _ _
    show (concluded.run [.breakOff "connection closed"]).result? ≠ none
    rwa [run_of_ended ended]
  | receiving metadata body => exact result?_conclude _ _
  | finished result => cases result <;> exact nofun

end Flight

end PreviewSync.Store
