import PreviewSync.Store.Operation

/-!
# Operations under way

An operation keeps the frame that it was started in: what it does, for which registration and below
which endpoint. Other than reading an object, it succeeds only by a response with the expected
status.

## Main Definitions

* `Request.frame`, `Flight.frame` — what an operation keeps
* `Flight.step_frame`, `Request.start_frame` — it is kept
* `Request.prepare_of_start`, `Request.prepare_ok` — what is put on the wire at the start
* `Flight.IsBodiless`, `Flight.respond_of_step` — how an operation without a body to read succeeds
-/

namespace PreviewSync.Store

/-- The registration and the endpoint of a request, which are never changed. Together with key and
operation they decide what is sent, so what is sent can be told when a request is made. -/
def Request.frame (request : Request) : Registration × Option String :=
  (request.registration, request.endpoint)

/-- The address of an object depends on the frame of a request only. Neither state nor flag have a
part in it. -/
theorem Request.url_eq {request request' : Request} (same : request.frame = request'.frame)
    (key : String) : request.url key = request'.url key := by
  rw [frame, frame, Prod.mk.injEq] at same
  unfold url base
  rw [same.1, same.2]

/-- Asking for cancellation leaves the frame as it is. -/
theorem Request.cancel_frame (request : Request) : request.cancel.frame = request.frame :=
  rfl

namespace Flight

/-- The operation, and the frame of its request. -/
def frame (flight : Flight) : Operation × Registration × Option String :=
  (flight.operation, flight.request.frame)

variable (flight : Flight)

/-- A read of the body to send, seen from the operation. It is written out here once, as the reader
is a type of its own and the flight only lends it its body. -/
theorem pull_eq (room : Nat) (rest : Bytes) :
    flight.pull room rest =
      if flight.request.cancelled then flight.finishCancelled
      else
        let phase := if flight.request.phase = .opening then .transferring else flight.request.phase
        { flight with
          request := { flight.request with phase }
          stage := .sending (rest.drop (min room chunkSize)) } := by
  unfold pull BodyReader.read
  by_cases called : flight.request.cancelled
  · rw [if_pos called, if_pos called]
  · rw [if_neg called, if_neg called, List.splitAt_eq]

theorem conclude_frame (phase : Phase) (result : Except Fault Bytes) :
    (flight.conclude phase result).frame = flight.frame := by
  unfold conclude
  split <;> rfl

theorem proceed_frame (stage : Stage) : (flight.proceed stage).frame = flight.frame := by
  unfold proceed
  split <;> rfl

/-- An event leaves the frame as it is. So whatever is known about addresses when an operation
starts is known at its end. -/
theorem step_frame (event : Event) : (flight.step event).frame = flight.frame := by
  unfold step
  split
  case h_2 =>
    rw [pull_eq]
    split <;> rfl
  case h_4 =>
    unfold respond
    dsimp only
    split
    · rw [conclude_frame]
      rfl
    · split
      · rw [proceed_frame]
        rfl
      · rw [conclude_frame]
        rfl
  all_goals first | rfl | apply conclude_frame | apply proceed_frame

/-- An event does not change the operation of a flight. -/
theorem step_operation (event : Event) : (flight.step event).operation = flight.operation :=
  congrArg Prod.fst (flight.step_frame event)

/-- An event does not change the frame of the request. -/
theorem step_request_frame (event : Event) :
    (flight.step event).request.frame = flight.request.frame :=
  congrArg Prod.snd (flight.step_frame event)

/-- No body is being read. It is so as long as no answer has come, and with a verb other than
reading at any time. -/
def IsBodiless (flight : Flight) : Prop :=
  ∀ metadata body, flight.stage ≠ .receiving metadata body

end Flight

/-- An operation is started in the frame of its request. -/
theorem Request.start_frame (request : Request) (key : String) (operation : Operation)
    (now : Instant) : (request.start key operation now).1.frame = (operation, request.frame) := by
  unfold start
  dsimp only
  repeat' split
  all_goals rfl

theorem Request.start_operation (request : Request) (key : String) (operation : Operation)
    (now : Instant) : (request.start key operation now).1.operation = operation :=
  congrArg Prod.fst (request.start_frame key operation now)

theorem Request.start_request_frame (request : Request) (key : String) (operation : Operation)
    (now : Instant) : (request.start key operation now).1.request.frame = request.frame :=
  congrArg Prod.snd (request.start_frame key operation now)

/-- An operation is started without a body to read, and not with a success. So a success must come
from an answer, which is what makes it evidence. -/
theorem Request.isBodiless_start (request : Request) (key : String) (operation : Operation)
    (now : Instant) :
    (request.start key operation now).1.IsBodiless ∧
      (request.start key operation now).1.result? ≠ some (.ok ()) := by
  unfold start
  dsimp only
  repeat' split
  all_goals exact ⟨nofun, nofun⟩

/-- What is put on the wire is what was prepared. Nothing is put there that did not pass validation.
-/
theorem Request.prepare_of_start {request : Request} {key : String} {operation : Operation}
    {now : Instant} {dispatch : Dispatch}
    (h : (request.start key operation now).2 = some dispatch) :
    request.prepare operation.verb key operation.payload now = .ok dispatch := by
  unfold start at h
  dsimp only at h
  split at h
  · cases h
  · split at h
    · cases h
    · split at h
      · cases h
      · rename_i prepared
        split at h
        · cases h
        · cases h
          exact prepared

/-- What is prepared is signed for the credentials of the request. These are the ones from when it
was made, even if the name stands for others now. -/
theorem Request.prepare_ok {request : Request} {verb : Verb} {key : String}
    {payload : Option Payload} {now : Instant} {dispatch : Dispatch}
    (h : request.prepare verb key payload now = .ok dispatch) :
    ∃ headers, Signature.Headers.make request.registration.profile
        request.registration.destination verb key payload now = .ok headers ∧
      dispatch = ⟨verb, request.url key, headers, payload⟩ := by
  unfold prepare at h
  dsimp only at h
  split at h
  · cases h
  · split at h
    · cases h
    · split at h
      · cases h
      · split at h
        · cases h
        · rename_i headers made
          cases h
          exact ⟨headers, made, rfl⟩

/-- What is put on the wire at the start has the verb and the address of the operation. -/
theorem Request.dispatch_of_start {request : Request} {key : String} {operation : Operation}
    {now : Instant} {dispatch : Dispatch}
    (h : (request.start key operation now).2 = some dispatch) :
    dispatch.verb = operation.verb ∧ dispatch.url = request.url key := by
  obtain ⟨headers, -, rfl⟩ := prepare_ok (prepare_of_start h)
  exact ⟨rfl, rfl⟩

/-- A header line does not change the status. The status has come before any line. -/
theorem Metadata.status_absorb (metadata : Metadata) (line : HeaderLine) :
    (metadata.absorb line).status = metadata.status := by
  unfold absorb
  dsimp only
  repeat' split
  all_goals rfl

/-- The status of a response is kept whatever its header lines are. -/
theorem Metadata.status_ofLines (status : UInt16) (lines : List HeaderLine) :
    (Metadata.ofLines status lines).status = status := by
  refine List.foldlRecOn (motive := fun metadata : Metadata => metadata.status = status) lines _ rfl
    fun metadata kept line _ => ?_
  split
  · rw [status_absorb, kept]
  · exact kept

namespace Flight

variable {flight : Flight}

theorem isBodiless_conclude (phase : Phase) (result : Except Fault Bytes) :
    (flight.conclude phase result).IsBodiless := by
  unfold conclude
  split <;> exact nofun

/-- Other than reading an object, an operation never comes to read a body. So its result is settled
by the head of the response. -/
theorem IsBodiless.step (h : flight.IsBodiless) (other : flight.operation.verb ≠ .get)
    (event : Event) : (flight.step event).IsBodiless := by
  unfold Flight.step
  split
  case h_1 => exact h
  case h_2 =>
    rw [pull_eq]
    split <;> exact nofun
  case h_3 => exact isBodiless_conclude _ _
  case h_4 =>
    unfold respond
    dsimp only
    split
    · exact isBodiless_conclude _ _
    · exact isBodiless_conclude _ _
  case h_9 => exact h
  all_goals
    rename_i receiving
    exact absurd receiving (h _ _)

/-- An operation without a body to read succeeds by a response with the expected status. There is no
other event that ends it well. -/
theorem respond_of_step {event : Event} (h : flight.IsBodiless) (underWay : flight.result? = none)
    (succeeded : (flight.step event).result? = some (.ok ())) :
    ∃ lines, event = .respond (expectedStatus flight.operation.verb) lines := by
  have concluded : ∀ (flight : Flight) phase fault,
      (flight.conclude phase (.error fault)).result? ≠ some (.ok ()) := by
    intro flight phase fault
    unfold conclude
    split <;> exact nofun
  unfold Flight.step at succeeded
  split at succeeded
  case h_1 =>
    have same : Flight.result? { flight with request := flight.request.cancel } =
        flight.result? := rfl
    rw [same, underWay] at succeeded
    cases succeeded
  case h_2 =>
    rw [pull_eq] at succeeded
    split at succeeded <;> cases succeeded
  case h_3 => exact absurd succeeded (concluded _ _ _)
  case h_4 status lines _ _ =>
    unfold respond at succeeded
    dsimp only at succeeded
    split at succeeded
    · exact absurd succeeded (concluded _ _ _)
    · rename_i expected
      rw [Metadata.status_ofLines, Decidable.not_not] at expected
      exact ⟨lines, by rw [expected]⟩
  case h_9 =>
    rw [underWay] at succeeded
    cases succeeded
  all_goals
    rename_i receiving
    exact absurd receiving (h _ _)

end Flight

end PreviewSync.Store
