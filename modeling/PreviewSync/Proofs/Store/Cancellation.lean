import PreviewSync.Proofs.Store.Lifecycle

/-!
# Cancellations

A request has one flag, which all copies of its cancellation handle share, so it does not matter who
asks for a cancellation. The flag is looked at wherever an operation could go on or end. Hence an
operation ends cancelled iff the flag was raised before its end, and then it leaves nothing behind:
the flag stays up and every operation is refused until the request is reset.

## Main Definitions

* `Request.CalledInTime` — somebody asks for a cancellation before the operation has ended
* `Flight.Called`, `Flight.Uncalled` — an operation that can only end cancelled, and one that does
  not
* `Request.perform_cancelled_iff` — when an operation is cancelled, and what it leaves behind
-/

namespace PreviewSync.Store

namespace Flight

/-- The flag is up, so the operation has ended cancelled or will. No event takes an operation out of
this, as nothing lowers the flag before the next reset. -/
def Called (flight : Flight) : Prop :=
  flight.request.cancelled = true ∧
    (flight.result? = none ∨ flight.result? = some (.error .cancelled))

/-- The operation has not ended cancelled, and while it is under way the flag is down. A flag that
goes up after the end is too late for it. -/
def Uncalled (flight : Flight) : Prop :=
  flight.result? ≠ some (.error .cancelled) ∧
    (flight.result? = none → flight.request.cancelled = false)

variable {flight : Flight}

/-- Once the flag is up, no event leads to another end. Even an answer with the expected status
comes too late. -/
theorem Called.step (called : flight.Called) (sound : flight.Sound) (event : Event) :
    (flight.step event).Called := by
  have move := move_of_step sound event
  generalize flight.step event = next at move ⊢
  cases move with
  | cancel => exact ⟨rfl, called.2⟩
  | rest other => exact called
  | giveUp other underWay raised => exact ⟨raised, .inr rfl⟩
  | advance other underWay uncalled genuine =>
    rw [called.1] at uncalled
    cases uncalled

theorem Called.run (called : flight.Called) (sound : flight.Sound) (events : List Event) :
    (flight.run events).Called := by
  have both := List.foldlRecOn (motive := fun next => next.Sound ∧ next.Called) events Flight.step
    ⟨sound, called⟩ fun _ both event _ => ⟨both.1.step event, both.2.step both.1 event⟩
  exact both.2

/-- Once the flag is up, an operation ends cancelled whatever the transport does. It may take until
the transport gives up, as it is not interrupted. -/
theorem Called.result?_closing (called : flight.Called) (sound : flight.Sound)
    (events : List Event) :
    (flight.run (events ++ closing)).result? = some (.error .cancelled) := by
  have after := called.run sound (events ++ closing)
  obtain ⟨result, ended⟩ := exists_result_of_closing (flight.run events)
  rw [← run_append] at ended
  refine after.2.resolve_left ?_
  rw [ended]
  exact nofun

/-- An event does not end an operation cancelled while the flag is down. It only raises the flag
after the end. -/
theorem Uncalled.step (uncalled : flight.Uncalled) (sound : flight.Sound) {event : Event}
    (late : event = .cancel → flight.result? ≠ none) : (flight.step event).Uncalled := by
  have move := move_of_step sound event
  generalize flight.step event = next at move ⊢
  cases move with
  | cancel => exact ⟨uncalled.1, fun underWay => absurd underWay (late rfl)⟩
  | rest other => exact uncalled
  | giveUp other underWay raised =>
    rw [uncalled.2 underWay] at raised
    cases raised
  | @advance _ phase stage other underWay lowered genuine =>
    refine ⟨fun ended => genuine ?_, fun _ => lowered⟩
    unfold result? at ended
    dsimp only at ended
    split at ended
    · cases ended
    · cases ended
      rfl
    · cases ended

/-- Cancellations that come too late do not end an operation cancelled, by induction on the
events. -/
theorem Uncalled.run (uncalled : flight.Uncalled) (sound : flight.Sound) {events : List Event}
    (late : ∀ before after, events = before ++ .cancel :: after →
      (flight.run before).result? ≠ none) : (flight.run events).Uncalled := by
  induction events generalizing flight with
  | nil => exact uncalled
  | cons event events ih =>
    refine @ih (flight.step event) (uncalled.step sound ?_) (sound.step event) ?_
    · rintro rfl
      exact late [] events rfl
    · intro before after split
      exact late (event :: before) after (congrArg (event :: ·) split)

/-- An operation that begins with the flag down ends cancelled iff a cancellation is asked for while
it is under way. -/
theorem result?_cancelled_iff (sound : flight.Sound) (underWay : flight.result? = none)
    (lowered : flight.request.cancelled = false) (events : List Event) :
    (flight.run (events ++ closing)).result? = some (.error .cancelled) ↔
      ∃ before after, events = before ++ .cancel :: after ∧ (flight.run before).result? = none := by
  constructor
  · intro ended
    apply Classical.byContradiction
    intro late
    -- Every cancellation finds the operation over, and the end of the exchange is none.
    rw [run_append] at ended
    have start : flight.Uncalled := ⟨by rw [underWay]; exact nofun, fun _ => lowered⟩
    have uncalled : (flight.run events).Uncalled := start.run sound fun before after split open' =>
      late ⟨before, after, split, open'⟩
    have unasked : ∀ before after, closing = before ++ .cancel :: after →
        ((flight.run events).run before).result? ≠ none := by
      intro before after split
      exact absurd (split ▸ by simp) cancel_not_mem_closing
    exact (uncalled.run (sound.run events) unasked).1 ended
  · rintro ⟨before, after, rfl, open'⟩
    -- From the cancellation on there is no other end, and the exchange does come to one.
    have raised : ((flight.run before).step .cancel).Called := ⟨rfl, .inl open'⟩
    have whole : flight.run (before ++ .cancel :: after ++ closing) =
        ((flight.run before).step .cancel).run (after ++ closing) := by
      rw [List.append_assoc, run_append]
      rfl
    rw [whole]
    exact raised.result?_closing ((sound.run before).step .cancel) after

end Flight

namespace Request

/-- Somebody asks for a cancellation in time: before the operation begins, or while it is under way.
It is told by the events, and not by the flag, which may as well go up too late. -/
def CalledInTime (request : Request) (key : String) (operation : Operation) (now : Instant)
    (events : List Event) : Prop :=
  request.cancelled = true ∨
    ∃ before after, events = before ++ .cancel :: after ∧
      ((request.start key operation now).1.run before).result? = none

/-- The request as a cancelled operation leaves it. Both its flag and its state tell so, until it is
reset. -/
def abandoned (request : Request) : Request :=
  { request with cancelled := true, phase := .cancelled }

variable {request : Request} {key : String} {operation : Operation} {now : Instant}
  {events : List Event}

/-- A request in the same frame is abandoned if its flag is up and its state is cancelled. There is
nothing else about it that could differ. -/
theorem eq_abandoned {other : Request} (same : other.frame = request.frame)
    (raised : other.cancelled = true) (state : other.state = .cancelled) :
    other = request.abandoned := by
  obtain ⟨registration, endpoint, cancelled, phase⟩ := other
  cases same
  cases raised
  cases phase with
  | cancelled => rfl
  | _ => cases state

/-- An operation is cancelled iff it is valid, finds its request idle and is called off in time. -/
theorem result_perform_cancelled_iff :
    (request.perform key operation now events).result = .error .cancelled ↔
      request.state = .idle ∧ request.Admits key operation now ∧
        request.CalledInTime key operation now events := by
  have begins := request.begins_start key operation now
  unfold CalledInTime
  generalize start : request.start key operation now = begun at begins ⊢
  cases begins with
  | busy busy =>
    rw [perform_of_ended start]
    exact ⟨nofun, fun h => absurd h.1 busy⟩
  | refused rejection idle invalid =>
    rw [perform_of_ended start]
    exact ⟨nofun, fun h => absurd h.2.1 invalid⟩
  | forestalled idle valid called =>
    rw [perform_of_ended start]
    exact ⟨fun _ => ⟨idle, valid, .inl called⟩, fun _ => rfl⟩
  | launched body dispatch idle valid lowered =>
    obtain ⟨landing, rfl, -, result, ended, performed⟩ :=
      perform_of_launched events start sound_launched
    have sound : Flight.Sound ⟨{ request with phase := .opening }, operation, .sending body⟩ :=
      sound_launched
    have cancelled := Flight.result?_cancelled_iff sound rfl lowered events
    rw [ended, Option.some_inj] at cancelled
    rw [performed, cancelled]
    simp [idle, valid, lowered]

/-- A cancelled operation leaves nothing behind: its request is abandoned, its output is as before,
and nothing is on the wire if the flag was up from the beginning. -/
theorem perform_of_cancelled
    (cancelled : (request.perform key operation now events).result = .error .cancelled) :
    ∃ dispatch, request.perform key operation now events =
        ⟨request.abandoned, .error .cancelled, operation.output, dispatch⟩ ∧
      (request.cancelled = true → dispatch = none) := by
  have valid := (result_perform_cancelled_iff.1 cancelled).2.1
  have idle := (result_perform_cancelled_iff.1 cancelled).1
  have inTime := (result_perform_cancelled_iff.1 cancelled).2.2
  have begins := request.begins_start key operation now
  unfold CalledInTime at inTime
  generalize start : request.start key operation now = begun at begins inTime
  cases begins with
  | busy busy => exact absurd idle busy
  | refused rejection idle invalid => exact absurd valid invalid
  | forestalled idle valid called =>
    refine ⟨none, ?_, fun _ => rfl⟩
    rw [perform_of_ended start, calledBy_eq]
    simp [abandoned, called]
  | launched body dispatch idle valid lowered =>
    obtain ⟨landing, rfl, sound, result, ended, performed⟩ :=
      perform_of_launched events start sound_launched
    rw [performed] at cancelled
    cases cancelled
    refine ⟨some dispatch, ?_, fun raised => absurd raised (by simp [lowered])⟩
    have raised : Event.cancel ∈ events := by
      rcases inTime with raised | ⟨before, after, rfl, -⟩
      · rw [lowered] at raised
        cases raised
      · simp
    have failed : some (.error Fault.cancelled : Except Fault Unit) ≠ some (.ok ()) := nofun
    rw [performed, eq_abandoned (Flight.run_request_frame _ _) ?_ (sound.shows ended),
      Flight.output_of_result? (ended ▸ failed), Flight.run_operation]
    · rfl
    · rw [sound_launched.cancelled_run]
      simp [raised]

theorem calledBy_abandoned (request : Request) (events : List Event) :
    request.abandoned.calledBy events = request.abandoned := by
  rw [calledBy_eq]
  rfl

/-- An abandoned request refuses every operation. It says so by its state, and puts nothing on the
wire. -/
theorem perform_abandoned :
    request.abandoned.perform key operation now events =
      ⟨request.abandoned, .error (.notIdle .cancelled), operation.output, none⟩ := by
  have busy : request.abandoned.state ≠ .idle := nofun
  rw [perform_of_busy busy, calledBy_abandoned]
  rfl

/-- An abandoned request stays as it is until it is reset. -/
theorem after_abandoned {calls : List Call} (kept : Call.reset ∉ calls) :
    request.abandoned.after calls = request.abandoned := by
  induction calls with
  | nil => rfl
  | cons call calls ih =>
    rw [List.mem_cons, not_or] at kept
    have same : request.abandoned.apply call = request.abandoned := by
      cases call with
      | operate key operation now events =>
        show (request.abandoned.perform key operation now events).request = _
        rw [perform_abandoned]
      | cancel => rfl
      | reset => exact absurd rfl kept.1
    show (request.abandoned.apply call).after calls = _
    rw [same]
    exact ih kept.2

/-- A cancellation is never lost: a valid operation of an idle request is cancelled iff somebody
asks for it before the end, and without that no operation is. A cancelled one shows no response,
leaves its output alone and puts nothing on the wire if the flag was up from the beginning. The flag
stays up, and every operation is refused, until the request is reset. -/
theorem perform_cancelled_iff (request : Request) (key : String) (operation : Operation)
    (now : Instant) (events : List Event) :
    let outcome := request.perform key operation now events
    (outcome.result = .error .cancelled ↔
        request.state = .idle ∧ request.Admits key operation now ∧
          request.CalledInTime key operation now events) ∧
      (request.cancelled = false → .cancel ∉ events → outcome.result ≠ .error .cancelled) ∧
      (outcome.result = .error .cancelled →
        outcome.request.state = .cancelled ∧ outcome.request.response = none ∧
          outcome.request.statusCode = none ∧ outcome.output = operation.output ∧
          (request.cancelled = true → outcome.dispatch = none) ∧
          (∀ calls, .reset ∉ calls →
            (outcome.request.after calls).cancelled = true ∧
              ∀ key operation now events,
                ((outcome.request.after calls).perform key operation now events).result =
                  .error (.notIdle .cancelled)) ∧
          (outcome.request.apply .reset).cancelled = false) := by
  intro outcome
  refine ⟨result_perform_cancelled_iff, ?_, ?_⟩
  · intro lowered silent cancelled
    rcases (result_perform_cancelled_iff.1 cancelled).2.2 with raised | ⟨before, after, split, -⟩
    · rw [lowered] at raised
      cases raised
    · apply silent
      rw [split]
      simp
  · intro cancelled
    obtain ⟨dispatch, performed, unsent⟩ := perform_of_cancelled cancelled
    have left : outcome = ⟨request.abandoned, .error .cancelled, operation.output, dispatch⟩ :=
      performed
    rw [left]
    refine ⟨rfl, rfl, rfl, rfl, unsent, ?_, rfl⟩
    intro calls kept
    show (request.abandoned.after calls).cancelled = true ∧ _
    rw [after_abandoned kept]
    exact ⟨rfl, fun key operation now events => congrArg Outcome.result perform_abandoned⟩

/-- A cancellation after the last read of the body to send wins over an unexpected status. The
request has gone out in full, and its answer is still not looked at. -/
theorem perform_cancelled_of_read :
    let request : Request := ⟨Client.localRegistration, some "http://localhost", false, .idle⟩
    let payload : Payload := ⟨Bytes.ofText "x", Operation.defaultContentType⟩
    let outcome := request.perform "a" (.put payload) .epoch
      [.pull 8192, .pull 8192, .cancel, .respond 500 []]
    request.Admits "a" (.put payload) .epoch ∧ outcome.result = .error .cancelled ∧
      outcome.request.state = .cancelled ∧ outcome.request.response = none ∧
      ∀ events, ((outcome.request.after [.cancel]).perform "a" .delete .epoch events).result =
        .error (.notIdle .cancelled) := by
  intro request payload outcome
  have valid : request.Admits "a" (.put payload) .epoch := by
    have accepted : (request.prepare .put "a" (some payload) .epoch).isOk = true := by
      decide +kernel
    cases prepared : request.prepare .put "a" (some payload) .epoch with
    | error rejection =>
      rw [prepared] at accepted
      cases accepted
    | ok dispatch => exact ⟨rfl, dispatch, prepared⟩
  have inTime : request.CalledInTime "a" (.put payload) .epoch
      [.pull 8192, .pull 8192, .cancel, .respond 500 []] := by
    refine .inr ⟨[.pull 8192, .pull 8192], [.respond 500 []], rfl, ?_⟩
    rw [← Option.isNone_iff_eq_none]
    decide +kernel
  obtain ⟨iff, -, left⟩ :=
    perform_cancelled_iff request "a" (.put payload) .epoch
      [.pull 8192, .pull 8192, .cancel, .respond 500 []]
  have cancelled : outcome.result = .error .cancelled := iff.2 ⟨rfl, valid, inTime⟩
  obtain ⟨state, response, -, -, -, refused, -⟩ := left cancelled
  refine ⟨valid, cancelled, state, response, fun events => ?_⟩
  exact (refused [.cancel] (by simp)).2 "a" .delete .epoch events

end Request

end PreviewSync.Store
