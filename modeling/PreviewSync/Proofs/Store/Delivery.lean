import PreviewSync.Proofs.Store.Cancellation

/-!
# What an exchange brings

What an operation should give can be said of the exchange alone: the first answer has the status of
success, and when an object is read, the stream of the body behind it comes to its end; the object
is what the reads before that end gave, one after the other. An operation that is not called off
does exactly this, however the stream is cut, and reading hands over either the whole object or
nothing.

## Main Definitions

* `streamed?` — the bytes of a body stream, if it comes to its end
* `delivered?` — the body that an exchange delivers behind an answer
* `brought?` — what an exchange brings for an operation
* `Flight.yield?` — what an operation will have read after some events
* `Flight.yield?_step`, `Flight.yield?_run` — an operation ends with what is brought
* `Request.perform_eq_ok_iff` — when an operation succeeds
* `Request.perform_get` — the output after reading an object
-/

namespace PreviewSync.Store

/-- The bytes that an event brings. An interruption brings none and ends nothing. -/
def Event.bytes : Event → Bytes
  | arrive chunk => chunk
  | _ => []

/-- The bytes of a body stream up to its end. There are none if the stream breaks off before,
however many have arrived. -/
def streamed? : List Event → Option Bytes
  | [] => none
  | .arrive [] :: _ => some []
  | .breakOff _ :: _ => none
  | event :: events => (streamed? events).map (event.bytes ++ ·)

/-- The body that an exchange delivers behind an answer with the given status, whatever the header
lines of the answer say. -/
def delivered? (status : UInt16) : List Event → Option Bytes
  | [] => none
  | .respond actual _ :: events => if actual = status then streamed? events else none
  | .fail _ :: _ => none
  | _ :: events => delivered? status events

/-- The status that an exchange answers with. There is none when the transport gives up before. Of
several answers the first counts, since the operation does not wait for another. -/
def answered? : List Event → Option UInt16
  | [] => none
  | .respond status _ :: _ => some status
  | .fail _ :: _ => none
  | _ :: events => answered? events

/-- What an exchange brings for an operation with a given verb, if that is what the operation is
after: for reading the body that is delivered, and for any other verb nothing beyond the answer that
means success. Such an operation ends with the head of the answer, so whatever follows the head does
not count. -/
def brought? (verb : Verb) (events : List Event) : Option Bytes :=
  if verb = .get then delivered? (expectedStatus .get) events
  else if answered? events = some (expectedStatus verb) then some [] else none

/-- A stream that stops without an end has broken off. Its end is an event of its own, an arrival
without any bytes. -/
theorem streamed?_closing (events : List Event) :
    streamed? (events ++ Flight.closing) = streamed? events := by
  fun_induction streamed? events with
  | case1 => rfl
  | case2 => rfl
  | case3 => rfl
  | case4 event events notEnd notBreak ih =>
    rw [List.cons_append, streamed?.eq_4 _ _ notEnd notBreak, ih]

/-- An exchange that stops delivers no more. So it makes no difference whether events stop or are
stopped. -/
theorem delivered?_closing (status : UInt16) (events : List Event) :
    delivered? status (events ++ Flight.closing) = delivered? status events := by
  fun_induction delivered? status events with
  | case1 => rfl
  | case2 lines events =>
    rw [List.cons_append, delivered?.eq_2, if_pos rfl, streamed?_closing]
  | case3 actual lines events other =>
    rw [List.cons_append, delivered?.eq_2, if_neg other]
  | case4 => rfl
  | case5 event events notAnswer notFailure ih =>
    rw [List.cons_append, delivered?.eq_4 _ _ _ notAnswer notFailure, ih]

/-- An exchange that stops answers no more. -/
theorem answered?_closing (events : List Event) :
    answered? (events ++ Flight.closing) = answered? events := by
  fun_induction answered? events with
  | case1 => rfl
  | case2 => rfl
  | case3 => rfl
  | case4 event events notAnswer notFailure ih =>
    rw [List.cons_append, answered?.eq_4 _ _ notAnswer notFailure, ih]

theorem brought?_closing (verb : Verb) (events : List Event) :
    brought? verb (events ++ Flight.closing) = brought? verb events := by
  rw [brought?, brought?, delivered?_closing, answered?_closing]

/-- What is brought behind an answer. For operations other than reading the answer is all there is
to bring. -/
theorem brought?_respond (verb : Verb) (status : UInt16) (lines : List HeaderLine)
    (events : List Event) :
    brought? verb (.respond status lines :: events) =
      if status ≠ expectedStatus verb then none
      else if verb = .get then streamed? events else some [] := by
  rw [brought?, delivered?.eq_2, answered?.eq_2]
  by_cases reading : verb = .get
  · subst reading
    by_cases expected : status = expectedStatus .get <;> simp [expected]
  · by_cases expected : status = expectedStatus verb <;> simp [expected, reading]

namespace Flight

/-- What an operation will have read after some events, if it will have succeeded. It is the same
before and after each of the events, so it says from the beginning how the operation will end. -/
def yield? (flight : Flight) (events : List Event) : Option Bytes :=
  match flight.stage with
  | .sending _ => brought? flight.operation.verb events
  | .receiving _ read => (streamed? events).map (read ++ ·)
  | .finished result => result.toOption

variable {flight : Flight}

/-- A conclusion that is not cancelled stands. Later events cannot change it. -/
theorem yield?_conclude {phase : Phase} {result : Except Fault Bytes}
    (genuine : (flight.conclude phase result).result? ≠ some (.error .cancelled))
    (events : List Event) :
    (flight.conclude phase result).yield? events = result.toOption := by
  unfold conclude at genuine ⊢
  split at genuine
  · exact absurd rfl genuine
  · rename_i uncalled
    rw [if_neg uncalled]
    rfl

/-- An operation that goes on is at the next stage. What it will yield is what that stage yields of
the events to come. -/
theorem yield?_proceed {stage : Stage}
    (genuine : (flight.proceed stage).result? ≠ some (.error .cancelled)) (events : List Event) :
    (flight.proceed stage).yield? events = yield? { flight with stage } events := by
  unfold proceed at genuine ⊢
  split at genuine
  · exact absurd rfl genuine
  · rename_i uncalled
    rw [if_neg uncalled]

/-- An event before the answer leads to what is brought. Events that are no answer change nothing
about that; the answer decides whether there is a body to come. -/
theorem yield?_step_of_sending {rest : Bytes} (sending : flight.stage = .sending rest)
    {event : Event} (genuine : (flight.step event).result? ≠ some (.error .cancelled))
    (events : List Event) :
    (flight.step event).yield? events = brought? flight.operation.verb (event :: events) := by
  obtain ⟨request, operation, stage⟩ := flight
  cases sending
  cases event with
  | cancel => rfl
  | pull room =>
    change (pull _ room rest).result? ≠ _ at genuine
    change (pull _ room rest).yield? events = _
    rw [pull_eq] at genuine ⊢
    split at genuine
    · exact absurd rfl genuine
    · rename_i uncalled
      rw [if_neg uncalled]
      rfl
  | fail detail =>
    refine (yield?_conclude genuine events).trans ?_
    simp [brought?, delivered?, answered?, Except.toOption]
  -- The status decides: another one ends the operation, and the expected one does so unless a body
  -- is read.
  | respond status lines =>
    change (respond _ status lines).result? ≠ _ at genuine
    change (respond _ status lines).yield? events = _
    rw [brought?_respond]
    unfold respond at genuine ⊢
    dsimp only at genuine ⊢
    rw [Metadata.status_ofLines] at genuine ⊢
    split at genuine
    · rename_i other
      rw [if_pos other, if_pos other]
      exact yield?_conclude genuine events
    · rename_i expected
      rw [if_neg expected, if_neg expected]
      split at genuine
      · rename_i reading
        rw [if_pos reading, if_pos reading, yield?_proceed genuine]
        simp [yield?]
      · rename_i silent
        rw [if_neg silent, if_neg silent]
        exact yield?_conclude genuine events
  | arrive chunk => cases chunk <;> rfl
  | interrupt => rfl
  | breakOff detail => rfl

/-- An event behind the answer leads to what is streamed. The bytes that have arrived before stand
in front of it. -/
theorem yield?_step_of_receiving {metadata : Metadata} {read : Bytes}
    (receiving : flight.stage = .receiving metadata read) {event : Event}
    (genuine : (flight.step event).result? ≠ some (.error .cancelled)) (events : List Event) :
    (flight.step event).yield? events = (streamed? (event :: events)).map (read ++ ·) := by
  obtain ⟨request, operation, stage⟩ := flight
  cases receiving
  -- An event without bytes leaves the stage as it is.
  have silent : streamed? events = (streamed? events).map ([] ++ ·) := by simp
  cases event with
  | cancel | pull room | fail detail | respond status lines =>
    exact congrArg (Option.map (read ++ ·)) silent
  | arrive chunk =>
    cases chunk with
    | nil =>
      refine (yield?_conclude genuine events).trans ?_
      simp [streamed?, Except.toOption]
    | cons byte chunk =>
      refine (yield?_proceed genuine events).trans ?_
      simp [yield?, streamed?, Event.bytes, Function.comp_def]
  | interrupt =>
    exact (yield?_proceed genuine events).trans (congrArg (Option.map (read ++ ·)) silent)
  | breakOff detail => exact yield?_conclude genuine events

/-- An event takes nothing away from what an operation will have read, and adds nothing to it,
unless the operation is cancelled. -/
theorem yield?_step {event : Event}
    (genuine : (flight.step event).result? ≠ some (.error .cancelled)) (events : List Event) :
    (flight.step event).yield? events = flight.yield? (event :: events) := by
  obtain ⟨request, operation, stage⟩ := flight
  cases stage with
  | sending rest => exact yield?_step_of_sending rfl genuine events
  | receiving metadata read => exact yield?_step_of_receiving rfl genuine events
  | finished result =>
    have ended : result? ⟨request, operation, .finished result⟩ ≠ none := by
      cases result <;> simp [result?]
    rw [step_of_ended ended]
    rfl

/-- Unless it is cancelled, an operation ends with what an exchange brings, by induction on the
events. -/
theorem yield?_run {events : List Event}
    (genuine : (flight.run events).result? ≠ some (.error .cancelled)) :
    (flight.run events).yield? [] = flight.yield? events := by
  induction events generalizing flight with
  | nil => rfl
  | cons event events ih =>
    -- What has been cancelled stays so.
    have before : (flight.step event).result? ≠ some (.error .cancelled) := by
      intro cancelled
      apply genuine
      change ((flight.step event).run events).result? = _
      rw [run_of_ended (by rw [cancelled]; exact nofun)]
      exact cancelled
    exact (ih genuine).trans (yield?_step before events)

/-- An operation that is over has succeeded iff there is something for it. A result is compared with
the exchange here, and not with the state of a request. -/
theorem yield?_ne_none {result : Except Fault Unit} (ended : flight.result? = some result) :
    flight.yield? [] ≠ none ↔ result = .ok () := by
  obtain ⟨request, operation, stage⟩ := flight
  cases stage with
  | sending rest => cases ended
  | receiving metadata read => cases ended
  | finished outcome =>
    cases outcome <;> cases ended <;> simp [yield?, Except.toOption]

/-- What an operation has read once it is over is its output, if it has succeeded. -/
theorem yield?_of_result? {buffer body : Bytes} {result : Except Fault Unit}
    (reading : flight.operation = .get buffer) (ended : flight.result? = some result) :
    flight.yield? [] = some body ↔ result = .ok () ∧ flight.output = body := by
  obtain ⟨request, operation, stage⟩ := flight
  cases reading
  cases stage with
  | sending rest => cases ended
  | receiving metadata read => cases ended
  | finished outcome =>
    cases outcome <;> cases ended <;> simp [yield?, output, Except.toOption]

end Flight

namespace Request

variable {request : Request} {key : String} {operation : Operation} {buffer : Bytes}
  {now : Instant} {events : List Event}

/-- An operation that fails leaves its output as it was. The caller's buffer is cleared only when
there is something to put in its place. -/
theorem output_of_failed (failed : (request.perform key operation now events).result ≠ .ok ()) :
    (request.perform key operation now events).output = operation.output := by
  have begins := request.begins_start key operation now
  generalize start : request.start key operation now = begun at begins
  cases begins with
  | busy | refused | forestalled => rw [perform_of_ended start]
  | launched body dispatch =>
    obtain ⟨landing, rfl, -, result, ended, performed⟩ :=
      perform_of_launched events start sound_launched
    rw [performed] at failed ⊢
    have failed' : some result ≠ some (.ok ()) := fun same => failed (Option.some.inj same)
    rw [Flight.output_of_result? (ended ▸ failed'), Flight.run_operation]

/-- An operation that succeeds was valid, found its request idle and was not called off. These are
the conditions that have nothing to do with the exchange. -/
theorem launched_of_succeeded
    (succeeded : (request.perform key operation now events).result = .ok ()) :
    request.state = .idle ∧ request.Admits key operation now ∧
      ¬ request.CalledInTime key operation now events := by
  have begins := request.begins_start key operation now
  generalize start : request.start key operation now = begun at begins
  cases begins with
  | busy | refused | forestalled =>
    rw [perform_of_ended start] at succeeded
    cases succeeded
  | launched body dispatch idle valid =>
    refine ⟨idle, valid, fun called => ?_⟩
    have cancelled := result_perform_cancelled_iff.2 ⟨idle, valid, called⟩
    rw [succeeded] at cancelled
    cases cancelled

/-- An operation that is launched and not called off ends with what the exchange brings. What it is
launched with, and how often it is interrupted, makes no difference. -/
theorem exists_landing (idle : request.state = .idle) (valid : request.Admits key operation now)
    (uncalled : ¬ request.CalledInTime key operation now events) :
    ∃ (landing : Flight) (dispatch : Option Dispatch) (result : Except Fault Unit),
      landing.operation = operation ∧ landing.result? = some result ∧
        landing.yield? [] = brought? operation.verb events ∧
        request.perform key operation now events =
          ⟨landing.request, result, landing.output, dispatch⟩ := by
  have genuine : (request.perform key operation now events).result ≠ .error .cancelled :=
    fun cancelled => uncalled (result_perform_cancelled_iff.1 cancelled).2.2
  have begins := request.begins_start key operation now
  generalize start : request.start key operation now = begun at begins
  cases begins with
  | busy busy => exact absurd idle busy
  | refused rejection idle invalid => exact absurd valid invalid
  | forestalled idle valid called => exact absurd (.inl called) uncalled
  | launched rest dispatch =>
    obtain ⟨landing, landed, -, result, ended, performed⟩ :=
      perform_of_launched events start sound_launched
    rw [performed] at genuine
    have going : landing.result? ≠ some (.error .cancelled) := by
      rw [ended]
      exact fun same => genuine (Option.some.inj same)
    have brings : landing.yield? [] = brought? operation.verb events := by
      rw [landed] at going ⊢
      rw [Flight.yield?_run going]
      exact brought?_closing operation.verb events
    refine ⟨landing, some dispatch, result, ?_, ended, brings, performed⟩
    rw [landed, Flight.run_operation]

/-- An operation succeeds iff it is valid, finds its request idle, is not called off in time, and
the exchange brings what it is after. Nothing else plays a part: neither the header lines of the
answer, nor how a body is cut, nor what happens after the end. -/
theorem perform_eq_ok_iff :
    (request.perform key operation now events).result = .ok () ↔
      request.state = .idle ∧ request.Admits key operation now ∧
        ¬ request.CalledInTime key operation now events ∧
          brought? operation.verb events ≠ none := by
  constructor
  · intro succeeded
    obtain ⟨idle, valid, uncalled⟩ := launched_of_succeeded succeeded
    obtain ⟨landing, _, result, -, ended, brings, performed⟩ := exists_landing idle valid uncalled
    rw [performed] at succeeded
    refine ⟨idle, valid, uncalled, ?_⟩
    rw [← brings, Flight.yield?_ne_none ended]
    exact succeeded
  · rintro ⟨idle, valid, uncalled, something⟩
    obtain ⟨landing, _, result, -, ended, brings, performed⟩ := exists_landing idle valid uncalled
    rw [← brings, Flight.yield?_ne_none ended] at something
    rw [performed]
    exact something

/-- Reading an object that is launched and not called off succeeds iff the exchange delivers a body,
and hands over that body. -/
theorem perform_get_of_launched (idle : request.state = .idle)
    (valid : request.Admits key (.get buffer) now)
    (uncalled : ¬ request.CalledInTime key (.get buffer) now events) (body : Bytes) :
    delivered? 200 events = some body ↔
      (request.perform key (.get buffer) now events).result = .ok () ∧
        (request.perform key (.get buffer) now events).output = body := by
  obtain ⟨landing, _, result, reading, ended, brings, performed⟩ :=
    exists_landing idle valid uncalled
  have read : landing.yield? [] = delivered? 200 events := brings
  rw [performed, ← read, Flight.yield?_of_result? reading ended]

/-- Reading an object gives everything or nothing. It succeeds iff it is valid, finds its request
idle, is not called off in time, and the answer is a success whose body stream comes to its end.
Then the output was empty, and it holds exactly the bytes of that stream; otherwise it is as before.
-/
theorem perform_get (request : Request) (key : String) (buffer : Bytes) (now : Instant)
    (events : List Event) :
    let outcome := request.perform key (.get buffer) now events
    (outcome.result = .ok () → buffer = [] ∧ delivered? 200 events = some outcome.output) ∧
      (∀ fault, outcome.result = .error fault → outcome.output = buffer) ∧
      (outcome.result = .ok () ↔
        request.state = .idle ∧ request.Admits key (.get buffer) now ∧
          ¬ request.CalledInTime key (.get buffer) now events ∧
            delivered? 200 events ≠ none) := by
  intro outcome
  have delivered (succeeded : outcome.result = .ok ()) :
      delivered? 200 events = some outcome.output := by
    obtain ⟨idle, valid, uncalled⟩ := launched_of_succeeded succeeded
    exact (perform_get_of_launched idle valid uncalled _).2 ⟨succeeded, rfl⟩
  refine ⟨fun succeeded => ⟨(launched_of_succeeded succeeded).2.1.1, delivered succeeded⟩, ?_,
    perform_eq_ok_iff⟩
  intro fault failed
  apply output_of_failed
  rw [failed]
  exact nofun

/-- An object that arrives in several reads is handed over whole, though its answer states another
length; of one that breaks off between two reads nothing is handed over. -/
theorem perform_get_of_reads :
    let request : Request := ⟨Client.localRegistration, some "http://localhost", false, .idle⟩
    let reads : List Event := [.respond 200 [⟨"Content-Length", "9"⟩], .arrive [1, 2], .interrupt,
      .arrive [3]]
    let whole := request.perform "a" (.get []) .epoch (reads ++ [.arrive [], .cancel])
    let part := request.perform "a" (.get []) .epoch (reads ++ [.breakOff "reset"])
    whole.result = .ok () ∧ whole.output = [1, 2, 3] ∧
      ∃ fault, part.result = .error fault ∧ part.output = [] := by
  intro request reads whole part
  have succeeds : whole.result.isOk = true := by decide +kernel
  have fails : part.result.isOk = false := by decide +kernel
  obtain ⟨all, -, -⟩ := perform_get request "a" [] .epoch (reads ++ [.arrive [], .cancel])
  obtain ⟨-, nothing, -⟩ := perform_get request "a" [] .epoch (reads ++ [.breakOff "reset"])
  have given : delivered? 200 (reads ++ [.arrive [], .cancel]) = some [1, 2, 3] := rfl
  cases succeeded : whole.result with
  | error fault =>
    rw [succeeded] at succeeds
    cases succeeds
  | ok =>
    cases failed : part.result with
    | ok =>
      rw [failed] at fails
      cases fails
    | error fault =>
      have delivered := (all succeeded).2
      rw [given] at delivered
      exact ⟨rfl, (Option.some.inj delivered).symm, fault, rfl, nothing fault failed⟩

end Request

end PreviewSync.Store
