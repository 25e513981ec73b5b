import PreviewSync.Proofs.Sync.Batch

/-!
# What an item knows about its request

From the start of its operation to the update of the change cache, an item carries along what it
has to know: where its request goes, what was put on the wire, and, once the store has confirmed the
operation, that it was applied.

## Main Definitions

* `Stage.BoundTo` — the kind of frame that the request of an item has
* `Stage.Launched` — what was put on the wire belongs to the item
* `Stage.Vouched` — a confirmed operation was applied
* `Stage.Move.boundTo`, `Stage.Move.launched`, `Stage.Move.vouched` — every step keeps them
* `Worker.AtWork` — what is said of the item at work of a batch
-/

namespace PreviewSync.Sync

open Store (Client Dispatch Flight Registration Request)

namespace Stage

/-- The request of an item, if it holds one, has a frame of some kind. The kind is left open: it may
fix the destination, the endpoint, or nothing. -/
def BoundTo (kind : Registration × Option String → Prop) (stage : Stage) : Prop :=
  ∀ request, stage.request? = some request → kind request.frame

/-- What was put on the wire has the verb of the operation and the address of the item's object. It
is said of the exchange only, because afterwards the dispatch is no longer at hand. -/
def Launched (key : String) : Stage → Prop
  | exchanging dispatch flight => flight.IsBodiless ∧ ∀ d, dispatch = some d →
      d.verb = flight.operation.verb ∧ d.url = flight.request.url (objectKey key)
  | _ => True

/-- An operation that has succeeded was applied, and one that was applied leads to a conclusion.
Once the exchange is over only the conclusion is left to know, up to the change of the cache. -/
def Vouched (applied conclusion : Prop) : Stage → Prop
  | exchanging _ flight =>
    (applied → conclusion) ∧ (flight.result? = some (.ok ()) → applied)
  | clearing _ (.ok ()) | releasing (.ok ()) | recording => conclusion
  | _ => True

/-- An item without a request is bound to frames of any kind. It has yet to ask the client for its
registration. -/
theorem boundTo_of_isEarly {kind : Registration × Option String → Prop} {stage : Stage}
    (early : stage.IsEarly ∨ ∃ operation, stage = requesting operation) : stage.BoundTo kind := by
  intro request holds
  rcases early with early | ⟨operation, rfl⟩
  · cases stage <;> first | exact early.elim | cases holds
  · cases holds

theorem launched_of_isEarly {key : String} {stage : Stage}
    (early : stage.IsEarly ∨ ∃ operation, stage = requesting operation) : stage.Launched key := by
  rcases early with early | ⟨operation, rfl⟩
  · cases stage <;> first | exact early.elim | trivial
  · trivial

theorem vouched_of_isEarly {applied conclusion : Prop} {stage : Stage}
    (early : stage.IsEarly ∨ ∃ operation, stage = requesting operation) :
    stage.Vouched applied conclusion := by
  rcases early with early | ⟨operation, rfl⟩
  · cases stage <;> first | exact early.elim | trivial
  · trivial

/-- An item begins at an early stage. So whatever holds at early stages holds when an item begins.
-/
theorem isEarly_of_first {action : Action} {stage : Stage} (h : first? action = some stage) :
    stage.IsEarly := by
  cases action <;> cases h <;> trivial

section Cancel

variable {kind : Registration × Option String → Prop} {key : String} {applied conclusion : Prop}
  {stage : Stage}

theorem boundTo_cancel (h : stage.BoundTo kind) : stage.cancel.BoundTo kind := by
  cases stage with
  | publishing request | heeding request | starting request | clearing request =>
    rintro _ ⟨⟩
    exact h request rfl
  | exchanging dispatch flight =>
    rintro _ ⟨⟩
    rw [flight.step_request_frame]
    exact h flight.request rfl
  | _ => exact h

theorem launched_cancel (h : stage.Launched key) : stage.cancel.Launched key := by
  cases stage with
  | exchanging dispatch flight =>
    refine ⟨h.1, fun d launched => ?_⟩
    obtain ⟨verb, url⟩ := h.2 d launched
    refine ⟨verb, ?_⟩
    rw [url]
    exact (Request.url_eq (flight.step_request_frame .cancel) _).symm
  | _ => exact h

theorem vouched_cancel (h : stage.Vouched applied conclusion) :
    stage.cancel.Vouched applied conclusion := by
  cases stage with
  | clearing request result => rcases result with fault | ⟨⟩ <;> exact h
  | _ => exact h

end Cancel

namespace Move

variable {config : Config} {item : Item} {s s' : Shared} {stage next : Stage} {answer : Answer}
  {progress : Progress}

/-- A request is made in the frame that the client gives it, and keeps it. What becomes of the name
meanwhile does not matter to it. -/
theorem boundTo {kind : Registration × Option String → Prop}
    (h : Move config item s stage answer s' progress) (here : stage.BoundTo kind)
    (created : ∀ client request, s.client.create item.destination = .ok (client, request) →
      kind request.frame)
    (reached : progress = .reached next) : next.BoundTo kind := by
  cases h with
  | prepare early unsettled steps => exact boundTo_of_isEarly (steps next reached).1
  | create made =>
    cases reached
    rintro _ ⟨⟩
    exact created _ _ made
  | publish =>
    cases reached
    exact here
  | heed same =>
    cases reached
    rintro _ ⟨⟩
    rcases same with rfl | rfl
    · exact here _ rfl
    · rw [Request.cancel_frame]
      exact here _ rfl
  | start =>
    cases reached
    rintro _ ⟨⟩
    rw [Request.start_request_frame]
    exact here _ rfl
  | event =>
    cases reached
    rintro _ ⟨⟩
    rw [Flight.step_request_frame]
    exact here _ rfl
  | conclude =>
    cases reached
    rintro _ ⟨⟩
    exact here _ rfl
  | clear =>
    cases reached
    nofun
  | @release result =>
    rcases ofResult_cases result with later | ⟨fault, ended⟩
    · rw [later] at reached
      cases reached
      nofun
    · rw [ended] at reached
      cases reached
  | @record trouble =>
    rcases record_cases item s trouble with ⟨fault, ended⟩ | ⟨_, _, _, -, ended⟩ <;>
      rw [ended] at reached <;> cases reached
  | turnDown | refuse | breakDown => cases reached

/-- What is put on the wire belongs to the item. Its verb is that of the action and its address that
of the photo, since no request is used for two items. -/
theorem launched (h : Move config item s stage answer s' progress)
    (suits : stage.Suits item.action) (here : stage.Launched item.key)
    (reached : progress = .reached next) : next.Launched item.key := by
  cases h with
  | prepare early unsettled steps => exact launched_of_isEarly (steps next reached).1
  | create | publish | heed | conclude | clear =>
    cases reached
    trivial
  | start =>
    cases reached
    refine ⟨(Request.isBodiless_start _ _ _ _).1, fun d launched => ?_⟩
    obtain ⟨verb, url⟩ := Request.dispatch_of_start launched
    refine ⟨?_, ?_⟩
    · rw [verb, Request.start_operation]
    · rw [url]
      exact (Request.url_eq (Request.start_request_frame _ _ _ _) _).symm
  -- An event changes neither the operation nor the frame of the request, so the dispatch still
  -- belongs.
  | @event dispatch flight event underWay =>
    cases reached
    refine ⟨here.1.step suits.ne_get event, fun d launched => ?_⟩
    obtain ⟨verb, url⟩ := here.2 d launched
    refine ⟨?_, ?_⟩
    · rw [verb, Flight.step_operation]
    · rw [url]
      exact (Request.url_eq (flight.step_request_frame event) _).symm
  | @release result =>
    rcases ofResult_cases result with later | ⟨fault, ended⟩
    · rw [later] at reached
      cases reached
      trivial
    · rw [ended] at reached
      cases reached
  | @record trouble =>
    rcases record_cases item s trouble with ⟨fault, ended⟩ | ⟨_, _, _, -, ended⟩ <;>
      rw [ended] at reached <;> cases reached
  | turnDown | refuse | breakDown => cases reached

/-- A success is vouched for, when the expected status is answered only after the operation was
applied. At the start of an operation nothing was applied. The hypotheses say what the store and the
other batches do; of the item itself nothing more is needed than where it stands. -/
theorem vouched {applied applied' conclusion : Prop}
    (h : Move config item s stage answer s' progress) (launched : stage.Launched item.key)
    (here : stage.Vouched applied conclusion)
    (truthful : ∀ dispatch flight lines, stage = exchanging dispatch flight →
      answer = .event (.respond (Store.expectedStatus flight.operation.verb) lines) → applied)
    (fresh : ∀ now, answer = .time now → ¬ applied')
    (kept : (∀ now, answer ≠ .time now) → (applied' ↔ applied))
    (reached : progress = .reached next) : next.Vouched applied' conclusion := by
  cases h with
  | prepare early unsettled steps => exact vouched_of_isEarly (steps next reached).1
  | create | publish | heed =>
    cases reached
    trivial
  -- The operation has just been started: nothing was applied yet, and it has not succeeded.
  | start =>
    cases reached
    exact ⟨fun done => absurd done (fresh _ rfl),
      fun succeeded => absurd succeeded (Request.isBodiless_start _ _ _ _).2⟩
  -- Only the expected status makes an operation without a body succeed, and the store is truthful
  -- about it.
  | @event dispatch flight event underWay =>
    cases reached
    rw [Vouched, kept nofun]
    refine ⟨here.1, fun succeeded => ?_⟩
    obtain ⟨lines, rfl⟩ := Flight.respond_of_step launched.1 underWay succeeded
    exact truthful dispatch flight lines rfl rfl
  | @conclude dispatch flight result atEnd =>
    cases reached
    rcases result with fault | ⟨⟩
    · trivial
    · exact here.1 (here.2 atEnd)
  | @clear request result =>
    cases reached
    rcases result with fault | ⟨⟩
    · trivial
    · exact here
  | @release result =>
    rcases result with fault | ⟨⟩
    · rcases ofResult_cases (.error fault) with later | ⟨_, ended⟩
      · cases fault <;> cases later
      · rw [ended] at reached
        cases reached
    · cases reached
      exact here
  | @record trouble =>
    rcases record_cases item s trouble with ⟨fault, ended⟩ | ⟨_, _, _, -, ended⟩ <;>
      rw [ended] at reached <;> cases reached
  | turnDown | refuse | breakDown => cases reached

end Move

end Stage

namespace Worker

/-- What is said of the item at work: its key, its action and its stage. Between items there is
nothing to say, so an invariant of items needs no case for the choice of the next. -/
def AtWork (w : Worker) (p : String → Action → Stage → Prop) : Prop :=
  ∀ stage key action rest, w.point = .working stage → w.pending = (key, action) :: rest →
    p key action stage

namespace AtWork

variable {w w' : Worker} {p p' : String → Action → Stage → Prop}

/-- What a cancellation of the request keeps is kept for the item at work. A cancellation may come
between any two steps, so every invariant of stages has to survive one. -/
theorem cancel (h : w.AtWork p)
    (kept : ∀ key action stage, p key action stage → p key action stage.cancel) :
    w.cancel.AtWork p := by
  unfold Worker.cancel
  split
  · rename_i stage atWork
    rintro _ key action rest ⟨⟩ pending
    exact kept _ _ _ (h stage key action rest atWork pending)
  · exact h

/-- What holds at every early stage, and is kept by every move, is kept for the item at work. -/
theorem step {config : Config} {s s' : Shared} {answer : Answer} (h : w.AtWork p)
    (stepped : w.step config s answer = some (s', w'))
    (early : ∀ key action stage, stage.IsEarly → p' key action stage)
    (move : ∀ key action rest stage next, w.point = .working stage →
      w.pending = (key, action) :: rest →
      Stage.Move config ⟨w.number, w.destination, key, action⟩ s stage answer s' (.reached next) →
        p key action stage → p' key action next) : w'.AtWork p' := by
  intro next key action rest atWork pending
  rcases step_cases stepped with
    ⟨atChoice, -, rfl⟩ | ⟨stage, key', action', rest', progress, atWork', pending', moved, rfl⟩
  · unfold choose at atWork pending
    split at atWork
    · cases atWork
    · split at atWork
      · cases atWork
      · split at atWork
        · rename_i first
          cases atWork
          exact early _ _ _ (Stage.isEarly_of_first first)
        · dsimp only at atWork
          rw [atChoice] at atWork
          cases atWork
  · cases progress with
    | reached later =>
      cases atWork
      rw [advance, pending'] at pending
      cases pending
      exact move key action rest stage next atWork' pending' moved (h _ _ _ _ atWork' pending')
    | done | broken => cases atWork
    | failed fault => cases fault <;> cases atWork

end AtWork

end Worker

end PreviewSync.Sync
