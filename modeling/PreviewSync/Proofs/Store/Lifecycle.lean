import PreviewSync.Proofs.Store.Registry
import PreviewSync.Proofs.Store.Transition

/-!
# The life of a request

Between the calls of its owner a request is idle, complete or cancelled, whatever the transport does
and whenever somebody asks for a cancellation. An idle request shows how its operation ended; any
other one refuses every operation until it is reset.

## Main Definitions

* `Request.Admits` — an operation passes validation
* `Request.Begins`, `Request.begins_start` — the ways an operation begins
* `Request.perform_of_busy`, `Request.perform_of_not_admits` — operations that leave no trace
* `Request.shows_perform` — what is left of a valid operation
* `Call`, `Request.after` — what an owner does with a request, and what becomes of it
* `Client.shows_of_create` — the state of a request goes with every result
-/

namespace PreviewSync.Store

namespace Request

variable {request : Request} {key : String} {operation : Operation} {now : Instant}

/-- An operation passes validation: its output is empty, and all that goes on the wire can be
prepared. Neither the phase nor the flag counts for it, so it stays the same while the request is
used. -/
def Admits (request : Request) (key : String) (operation : Operation) (now : Instant) : Prop :=
  operation.output = [] ∧
    ∃ dispatch, request.prepare operation.verb key operation.payload now = .ok dispatch

/-- The ways an operation begins. Only the last one puts something on the wire. They are in the
order in which a request looks for them: busy before invalid, and invalid before cancelled. -/
inductive Begins (request : Request) (key : String) (operation : Operation) (now : Instant) :
    Flight × Option Dispatch → Prop
  | busy (busy : request.state ≠ .idle) :
      Begins request key operation now
        (⟨request, operation, .finished (.error (.notIdle request.state))⟩, none)
  | refused (rejection : Rejection) (idle : request.state = .idle)
      (invalid : ¬ request.Admits key operation now) :
      Begins request key operation now
        (⟨request, operation, .finished (.error (.rejected rejection))⟩, none)
  | forestalled (idle : request.state = .idle) (valid : request.Admits key operation now)
      (called : request.cancelled = true) :
      Begins request key operation now
        (⟨{ request with phase := .cancelled }, operation, .finished (.error .cancelled)⟩, none)
  | launched (body : Bytes) (dispatch : Dispatch) (idle : request.state = .idle)
      (valid : request.Admits key operation now) (uncalled : request.cancelled = false) :
      Begins request key operation now
        (⟨{ request with phase := .opening }, operation, .sending body⟩, some dispatch)

/-- An operation is launched from where its request stands. This is where the invariant of flights
begins. -/
theorem sound_launched {body : Bytes} :
    Flight.Sound ⟨{ request with phase := .opening }, operation, .sending body⟩ :=
  .inl rfl

theorem state_eq_idle : request.state = .idle ↔ request.phase = .idle := by
  unfold state Phase.state
  split <;> simp_all

/-- An operation begins in one of these ways. After the start no later proof has to go through the
checks again. -/
theorem begins_start (request : Request) (key : String) (operation : Operation) (now : Instant) :
    request.Begins key operation now (request.start key operation now) := by
  unfold start
  dsimp only
  -- The phase is looked at first, then the output and what is to be sent, and the flag at last.
  split
  · rename_i busy
    exact .busy (mt state_eq_idle.1 busy)
  · rename_i idle
    rw [ne_eq, Decidable.not_not, ← state_eq_idle] at idle
    split
    · rename_i full
      refine .refused _ idle fun valid => ?_
      rw [valid.1] at full
      cases full
    · rename_i empty
      have unused : operation.output = [] := by simpa using empty
      split
      · rename_i rejection prepared
        refine .refused rejection idle ?_
        rintro ⟨-, dispatch, accepted⟩
        rw [prepared] at accepted
        cases accepted
      · rename_i dispatch prepared
        split
        · rename_i called
          exact .forestalled idle ⟨unused, dispatch, prepared⟩ called
        · rename_i uncalled
          exact .launched _ dispatch idle ⟨unused, dispatch, prepared⟩
            (Bool.not_eq_true _ ▸ uncalled)

/-- The end of an exchange asks for no cancellation. So whoever looks for cancellations may look at
the given events only. -/
theorem calledBy_closing (request : Request) (events : List Event) :
    request.calledBy (events ++ Flight.closing) = request.calledBy events := by
  simp only [calledBy, List.mem_append, Flight.cancel_not_mem_closing, or_false]

variable {events : List Event}

/-- An operation is what becomes of its flight when the exchange stops after some events. An
operation is one call, which does not return before. -/
theorem perform_eq {flight landing : Flight} {dispatch : Option Dispatch}
    (start : request.start key operation now = (flight, dispatch))
    (landed : flight.run (events ++ Flight.closing) = landing) :
    request.perform key operation now events =
      ⟨landing.request, landing.result?.getD (.error (.transport "connection closed")),
        landing.output, dispatch⟩ := by
  rw [← landed, Flight.run_append, perform, start]
  rfl

/-- An operation that ends where it begins leaves its request as it has begun, up to cancellations.
How it may begin is said by `begins_start`. -/
theorem perform_of_ended {begun : Request} {fault : Fault} {dispatch : Option Dispatch}
    (start : request.start key operation now =
      (⟨begun, operation, .finished (.error fault)⟩, dispatch)) :
    request.perform key operation now events =
      ⟨begun.calledBy events, .error fault, operation.output, dispatch⟩ := by
  have ended : Flight.result? ⟨begun, operation, .finished (.error fault)⟩ ≠ none := nofun
  have landed := Flight.run_of_ended ended (events ++ Flight.closing)
  rw [calledBy_closing] at landed
  have failed : Flight.result? ⟨begun.calledBy events, operation, .finished (.error fault)⟩ ≠
      some (.ok ()) := nofun
  rw [perform_eq start landed, Flight.output_of_result? failed]
  rfl

/-- An operation that is put on the wire ends with what its flight ends with. Its request is left in
the state that goes with that. -/
theorem perform_of_launched (events : List Event) {flight : Flight} {dispatch : Option Dispatch}
    (start : request.start key operation now = (flight, dispatch)) (sound : flight.Sound) :
    ∃ landing : Flight, landing = flight.run (events ++ Flight.closing) ∧ landing.Sound ∧
      ∃ result, landing.result? = some result ∧
        request.perform key operation now events =
          ⟨landing.request, result, landing.output, dispatch⟩ := by
  obtain ⟨result, ended⟩ := Flight.exists_result_of_closing (flight.run events)
  rw [← Flight.run_append] at ended
  refine ⟨_, rfl, sound.run _, result, ended, ?_⟩
  rw [perform_eq start rfl, ended]
  rfl

/-- A request that is not idle refuses every operation, and only cancellations reach it. This covers
requests that have been used as well as those that were cancelled. -/
theorem perform_of_busy (busy : request.state ≠ .idle) :
    request.perform key operation now events =
      ⟨request.calledBy events, .error (.notIdle request.state), operation.output, none⟩ := by
  have begins := request.begins_start key operation now
  generalize start : request.start key operation now = begun at begins
  cases begins with
  | busy _ => exact perform_of_ended start
  | refused rejection idle => exact absurd idle busy
  | forestalled idle => exact absurd idle busy
  | launched body dispatch idle => exact absurd idle busy

/-- An idle request shows the result of a valid operation. What it shows is one of the four forms of
`Shows`. -/
theorem shows_perform (idle : request.state = .idle) (valid : request.Admits key operation now) :
    (request.perform key operation now events).request.Shows operation.verb
      (request.perform key operation now events).result := by
  have begins := request.begins_start key operation now
  generalize start : request.start key operation now = begun at begins
  cases begins with
  | busy busy => exact absurd idle busy
  | refused rejection idle invalid => exact absurd valid invalid
  | forestalled idle valid called =>
    rw [perform_of_ended start]
    have shown : Shows { request with phase := .cancelled } operation.verb
      (.error .cancelled : Except Fault Unit) := rfl
    exact shown.calledBy events
  | launched body dispatch idle valid uncalled =>
    obtain ⟨landing, rfl, sound, result, ended, performed⟩ :=
      perform_of_launched events start sound_launched
    rw [performed]
    have shows := sound.shows ended
    rwa [Flight.run_operation] at shows

/-- An invalid operation leaves an idle request as it was, up to cancellations, and puts nothing on
the wire. -/
theorem perform_of_not_admits (events : List Event) (idle : request.state = .idle)
    (invalid : ¬ request.Admits key operation now) :
    ∃ rejection, request.perform key operation now events =
      ⟨request.calledBy events, .error (.rejected rejection), operation.output, none⟩ := by
  have begins := request.begins_start key operation now
  generalize start : request.start key operation now = begun at begins
  cases begins with
  | busy busy => exact absurd idle busy
  | refused rejection => exact ⟨rejection, perform_of_ended start⟩
  | forestalled idle valid => exact absurd valid invalid
  | launched body dispatch idle valid => exact absurd valid invalid

/-- The request is as its owner sees it between two calls. The other states are those of an
operation under way, and an operation is over when its call returns. -/
def Settled (request : Request) : Prop :=
  request.state = .idle ∨ request.state = .complete ∨ request.state = .cancelled

/-- A request that shows a result is settled. So a caller who has seen the operation return never
finds it in between. -/
theorem Shows.settled {verb : Verb} {result : Except Fault Unit} (h : request.Shows verb result) :
    request.Settled := by
  unfold Shows at h
  split at h
  · exact .inr (.inl h.1)
  · exact .inr (.inl h.2.2.2.1)
  · exact .inr (.inl h.1)
  · exact .inr (.inr h)
  · exact h.elim

/-- Cancellations do not change the state of a request. Its state changes when an operation takes
notice of them. -/
theorem state_calledBy (request : Request) (events : List Event) :
    (request.calledBy events).state = request.state := by
  rw [calledBy_eq]
  rfl

/-- A response is only seen of a complete exchange. So metadata of a failed operation cannot be
mistaken for that of an object. -/
theorem state_of_response (some : request.response ≠ none) : request.state = .complete := by
  unfold response at some
  unfold state
  split at some
  · rename_i complete
    rw [complete]
    rfl
  · exact absurd rfl some

end Request

/-- What the owner of a request, or the holder of its cancellation handle, does with it. Whatever
happens while an operation is under way is part of the call that runs it. -/
inductive Call where
  /-- An operation is run to its end, during which some events happen. -/
  | operate (key : String) (operation : Operation) (now : Instant) (events : List Event)
  /-- Somebody asks for cancellation between two operations. -/
  | cancel
  /-- The request is made ready again. -/
  | reset

namespace Request

/-- The request after a call. -/
def apply (request : Request) : Call → Request
  | .operate key operation now events => (request.perform key operation now events).request
  | .cancel => request.cancel
  | .reset => request.reset

/-- The request after several calls. -/
def after (request : Request) (calls : List Call) : Request :=
  calls.foldl apply request

variable {request : Request}

/-- A call leaves the request settled. Calls are whole operations here, so no caller sees one under
way. -/
theorem Settled.apply (settled : request.Settled) (call : Call) :
    (request.apply call).Settled := by
  cases call with
  | operate key operation now events =>
    show (request.perform key operation now events).request.Settled
    by_cases idle : request.state = .idle
    · by_cases valid : request.Admits key operation now
      · exact (shows_perform idle valid).settled
      · obtain ⟨rejection, performed⟩ := perform_of_not_admits events idle valid
        rw [performed]
        exact .inl ((state_calledBy request events).trans idle)
    · rw [perform_of_busy idle, Settled, state_calledBy]
      exact settled
  | cancel => exact settled
  | reset => exact .inl rfl

/-- Any calls leave the request settled. -/
theorem Settled.after (settled : request.Settled) (calls : List Call) :
    (request.after calls).Settled :=
  List.foldlRecOn calls Request.apply settled fun _ settled call _ => settled.apply call

/-- A request that is not idle keeps its phase, and with it what it shows, until it is reset.
Refused operations leave no trace on it. -/
theorem phase_apply (busy : request.state ≠ .idle) {call : Call} (kept : call ≠ .reset) :
    (request.apply call).phase = request.phase := by
  cases call with
  | operate key operation now events =>
    show (request.perform key operation now events).request.phase = _
    rw [perform_of_busy busy, calledBy_eq]
  | cancel => rfl
  | reset => exact absurd rfl kept

end Request

/-- A new request and everything that its owner can do with it: between two calls it is idle,
complete or cancelled, and only a complete one has a response. If it is not idle, it refuses every
operation, puts nothing on the wire and keeps what it shows until it is reset. If it is idle, its
result is what the request shows after a valid operation, and an invalid one leaves no trace. -/
theorem Client.shows_of_create {client client' : Client} {identifier : String} {made : Request}
    (created : client.create identifier = .ok (client', made)) (calls : List Call) :
    let request := made.after calls
    (request.state = .idle ∨ request.state = .complete ∨ request.state = .cancelled) ∧
      (request.response ≠ none → request.state = .complete) ∧
      (request.statusCode ≠ none → request.state = .complete) ∧
      (∀ key operation now events,
        let outcome := request.perform key operation now events
        (request.state ≠ .idle →
          outcome = ⟨request.calledBy events, .error (.notIdle request.state),
            operation.output, none⟩) ∧
        (request.state = .idle → request.Admits key operation now →
          outcome.request.Shows operation.verb outcome.result) ∧
        (request.state = .idle → ¬ request.Admits key operation now →
          ∃ rejection, outcome = ⟨request.calledBy events, .error (.rejected rejection),
            operation.output, none⟩)) ∧
      (∀ call, request.state ≠ .idle → call ≠ .reset →
        (request.apply call).phase = request.phase) ∧
      (request.apply .reset).state = .idle := by
  intro request
  have new : made.Settled := by
    unfold create at created
    split at created
    · cases created
      exact .inl rfl
    · cases created
  refine ⟨new.after calls, Request.state_of_response, ?_, ?_, ?_, rfl⟩
  · intro status
    apply Request.state_of_response
    intro missing
    apply status
    rw [Request.statusCode, missing]
    rfl
  · intro key operation now events outcome
    refine ⟨fun busy => Request.perform_of_busy busy, fun idle valid => ?_, fun idle invalid => ?_⟩
    · exact Request.shows_perform idle valid
    · exact Request.perform_of_not_admits events idle invalid
  · intro call busy kept
    exact Request.phase_apply busy kept

/-- A destination of a server on the same machine. -/
def Client.localRegistration : Registration :=
  ⟨"d", ⟨"AKID", "SECRET"⟩, ⟨"photos", "lr"⟩⟩

/-- After an answer that there is no such object, a request shows that answer and refuses to remove
the object, while somebody cancels it. -/
theorem Client.shows_of_create_of_missing :
    let made : Request := ⟨localRegistration, some "http://localhost", false, .idle⟩
    let request := made.after [.operate "a" .head .epoch [.respond 404 []]]
    Client.create ⟨[localRegistration], some "http://localhost", 0⟩ "d" =
        .ok (⟨[localRegistration], some "http://localhost", 1⟩, made) ∧
      request.state = .complete ∧ request.statusCode = some 404 ∧
        request.perform "a" .delete .epoch [.cancel] =
          ⟨request.cancel, .error (.notIdle .complete), [], none⟩ := by
  intro made request
  have created : Client.create ⟨[localRegistration], some "http://localhost", 0⟩ "d" =
      .ok (⟨[localRegistration], some "http://localhost", 1⟩, made) := rfl
  have state : request.state = .complete := by decide +kernel
  obtain ⟨-, -, -, operate, -, -⟩ := Client.shows_of_create created
    [.operate "a" .head .epoch [.respond 404 []]]
  have busy : request.state ≠ .idle := by
    rw [state]
    exact nofun
  refine ⟨created, state, by decide +kernel, ?_⟩
  rw [← state]
  exact (operate "a" .delete .epoch [.cancel]).1 busy

end PreviewSync.Store
