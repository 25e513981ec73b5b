import PreviewSync.Proofs.Cache.Basic
import PreviewSync.Proofs.Store.Operation
import PreviewSync.Sync.Item

/-!
# The steps of an item

Everything that a step of an item can do, said once. An item first prepares its request without
changing anything; then it makes one request, has it answered, and in the end updates the change
cache. All that is proved about batches and sessions is read off these moves.

## Main Definitions

* `Stage.IsEarly`, `Stage.hasStarted` — the stages before the request, and those after its start
* `Stage.Suits` — the stages of an action
* `Stage.Move` — what a step of an item can do, with `Stage.move_of_step`
* `Stage.Move.cache_cases`, `Stage.Move.keys` — the change cache before and after a step
-/

namespace PreviewSync.Sync

open Store (Client Dispatch Event Flight Operation Registration Request)

/-- Whether an operation is the one that an action asks for. An update is served by none, since no
worker takes one up. -/
def Serves (operation : Operation) (action : Action) : Prop :=
  operation.verb = .put ∧ action = .add ∨ operation.verb = .delete ∧ action = .remove

theorem Serves.ne_update {operation : Operation} {action : Action} (h : Serves operation action) :
    action ≠ .update := by
  rcases h with ⟨-, rfl⟩ | ⟨-, rfl⟩ <;> decide

theorem Serves.ne_get {operation : Operation} {action : Action} (h : Serves operation action) :
    operation.verb ≠ .get := by
  rcases h with ⟨verb, -⟩ | ⟨verb, -⟩ <;> rw [verb] <;> decide

namespace Stage

/-- A stage at which no request has been asked for. An item that ends at such a stage has touched
neither the store nor the change cache. -/
def IsEarly : Stage → Prop
  | removing | lookingUp | extracting _ _ | extracted _ | reencoding _ | reencoded _ => True
  | _ => False

/-- A stage at which the operation has been started, so its request may have been put on the wire.
An item comes to these stages once and does not go back. -/
def hasStarted : Stage → Bool
  | exchanging _ _ | clearing _ _ | releasing _ | recording => true
  | _ => false

/-- A stage that an item with the given action can be at. The stages say nothing of the action
themselves, so this is kept as an invariant. -/
def Suits (action : Action) : Stage → Prop
  | removing => action = .remove
  | lookingUp | extracting _ _ | extracted _ | reencoding _ | reencoded _ => action = .add
  | requesting operation | publishing _ operation | heeding _ operation | starting _ operation =>
    Serves operation action
  | exchanging _ flight => Serves flight.operation action
  | clearing _ _ | releasing _ | recording => action ≠ .update

theorem suits_of_first {action : Action} {stage : Stage} (h : first? action = some stage) :
    stage.Suits action := by
  cases action <;> cases h <;> rfl

theorem Suits.ne_update {action : Action} {stage : Stage} (h : stage.Suits action) :
    action ≠ .update := by
  cases stage <;> simp only [Suits] at h <;> first | exact h | exact h.ne_update | simp [h]

/-- What a step of an item can do: from shared state and stage, by an answer, to shared state and
progress. The stages before the request are one case, since they differ in what they wait for and
not in what they do to others. -/
inductive Move (config : Config) (item : Item) (s : Shared) :
    Stage → Answer → Shared → Progress → Prop
  /-- The request is prepared, or the item ends before there is one. -/
  | prepare {stage : Stage} {answer : Answer} {progress : Progress} (early : stage.IsEarly)
      (unsettled : progress ≠ .done)
      (next : ∀ stage', progress = .reached stage' →
        (stage'.IsEarly ∨ ∃ operation, stage' = requesting operation) ∧
          (stage.Suits item.action → stage'.Suits item.action)) :
      Move config item s stage answer s progress
  | create {operation : Operation} {client : Client} {request : Request}
      (made : s.client.create item.destination = .ok (client, request)) :
      Move config item s (requesting operation) .proceed { s with client }
        (.reached (publishing request operation))
  | turnDown {operation : Operation} {fault : Store.Fault} :
      Move config item s (requesting operation) .proceed s (.failed (.store fault))
  | publish {request : Request} {operation : Operation} :
      Move config item s (publishing request operation) .proceed
        { s with published := some item.batch } (.reached (heeding request operation))
  | heed {request request' : Request} {operation : Operation}
      (same : request' = request ∨ request' = request.cancel) :
      Move config item s (heeding request operation) .proceed s
        (.reached (starting request' operation))
  | start {request : Request} {operation : Operation} {now : Instant} :
      Move config item s (starting request operation) (.time now) s
        (.reached (exchanging (request.start (objectKey item.key) operation now).2
          (request.start (objectKey item.key) operation now).1))
  | event {dispatch : Option Dispatch} {flight : Flight} {event : Event}
      (underWay : flight.result? = none) :
      Move config item s (exchanging dispatch flight) (.event event) s
        (.reached (exchanging dispatch (flight.step event)))
  | conclude {dispatch : Option Dispatch} {flight : Flight} {result : Except Store.Fault Unit}
      (atEnd : flight.result? = some result) :
      Move config item s (exchanging dispatch flight) .proceed s
        (.reached (clearing flight.request result))
  | clear {request : Request} {result : Except Store.Fault Unit} :
      Move config item s (clearing request result) .proceed { s with published := none }
        (.reached (releasing result))
  | release {result : Except Store.Fault Unit} :
      Move config item s (releasing result) .proceed { s with client := s.client.release }
        (ofResult result)
  | record {trouble : Disk.Trouble} :
      Move config item s recording (.record trouble) (record item s trouble).1
        (record item s trouble).2
  | refuse {fault : PreviewSync.Fault} :
      Move config item s recording (.refuse fault) s (.failed (.cache fault))
  | breakDown :
      Move config item s recording .panic s .broken

section Preparing

variable {config : Config} {item : Item} {s : Shared} {stage : Stage} {answer : Answer}

/-- An item that ends before its request has failed or broken down. Nothing has to be undone then,
as nothing was made. -/
theorem Move.ofEarly_failed (early : stage.IsEarly) (fault : ItemFault) :
    Move config item s stage answer s (.failed fault) := by
  refine .prepare early (fun h => ?_) (fun _ h => ?_) <;> cases h

theorem Move.ofEarly_broken (early : stage.IsEarly) :
    Move config item s stage answer s .broken := by
  refine .prepare early (fun h => ?_) (fun _ h => ?_) <;> cases h

/-- An item that goes on to a stage of the same kind, or asks for its request. Up to that point only
files and the catalog are read. -/
theorem Move.ofEarly_reached (early : stage.IsEarly) {next : Stage}
    (place : next.IsEarly ∨ ∃ operation, next = requesting operation)
    (suits : stage.Suits item.action → next.Suits item.action) :
    Move config item s stage answer s (.reached next) := by
  refine .prepare early (fun h => ?_) (fun stage' h => ?_)
  · cases h
  · cases h
    exact ⟨place, suits⟩

theorem Move.ofEarly_unlessCancelled (early : stage.IsEarly) {next : Stage}
    (place : next.IsEarly ∨ ∃ operation, next = requesting operation)
    (suits : stage.Suits item.action → next.Suits item.action) :
    Move config item s stage answer s (Progress.unlessCancelled s next) := by
  unfold Progress.unlessCancelled
  split
  · exact .ofEarly_failed early _
  · exact .ofEarly_reached early place suits

theorem Move.ofEarly_ofResult {α : Type} (early : stage.IsEarly)
    {blame : PreviewSync.Fault → ItemFault} {next : α → Progress}
    {result : Except PreviewSync.Fault α}
    (value : ∀ a, Move config item s stage answer s (next a)) :
    Move config item s stage answer s (Progress.ofResult blame next result) := by
  cases result with
  | error fault => exact .ofEarly_failed early _
  | ok a => exact value a

/-- The answer of the catalog leads to an extraction, or ends the item. An item ends here when its
photo has left the catalog since, or has no preview to begin with. -/
theorem move_ofEntry {target : UInt32} (found : Option CatalogEntry) :
    Move config item s lookingUp answer s (ofEntry target found) := by
  unfold ofEntry
  cases found with
  | none => exact .ofEarly_failed (by trivial) _
  | some entry =>
    dsimp only
    split
    · exact .ofEarly_failed (by trivial) _
    · exact .ofEarly_reached (by trivial) (.inl (by trivial)) id

/-- A step of the re-encoding leads to the next one or past it, or ends the item. -/
theorem move_of_reencode {target : UInt32} {work : Reencoding} {progress : Progress}
    (h : reencode target work answer = some progress) :
    Move config item s (reencoding work) answer s progress := by
  unfold reencode at h
  split at h
  case h_5 => cases h
  case h_4 =>
    cases h
    exact .ofEarly_broken (by trivial)
  all_goals
    cases h
    exact .ofEarly_ofResult (by trivial) fun _ =>
      .ofEarly_reached (by trivial) (.inl (by trivial)) id

end Preparing

/-- The client makes a request, or turns the item down. It turns down an item whose destination is
not registered any more. -/
theorem move_of_request {config : Config} {item : Item} {s s' : Shared} {operation : Operation}
    {progress : Progress} (h : request item s operation = (s', progress)) :
    Move config item s (requesting operation) .proceed s' progress := by
  unfold request at h
  split at h
  · cases h
    exact .create ‹_›
  · cases h
    exact .turnDown

/-- An exchange goes on by an event until it has a result. How many events that takes is up to the
transport. -/
theorem move_of_exchange {config : Config} {item : Item} {s s' : Shared}
    {dispatch : Option Dispatch} {flight : Flight} {answer : Answer} {progress : Progress}
    (h : (exchanging dispatch flight).step config item s answer = some (s', progress)) :
    Move config item s (exchanging dispatch flight) answer s' progress := by
  unfold step at h
  dsimp only at h
  split at h
  · cases h
    exact .conclude ‹_›
  · split at h
    · cases h
    · cases h
      exact .event ‹_›
  · cases h

/-- Every step of an item is one of the moves. Later proofs go by the moves, whose guards say what
has been found out on the way. -/
theorem move_of_step {config : Config} {item : Item} {s s' : Shared} {stage : Stage}
    {answer : Answer} {progress : Progress}
    (h : stage.step config item s answer = some (s', progress)) :
    Move config item s stage answer s' progress := by
  unfold step at h
  split at h
  case h_1 =>
    cases h
    exact .ofEarly_unlessCancelled (by trivial) (.inr ⟨_, rfl⟩) fun action => .inr ⟨rfl, action⟩
  case h_2 =>
    cases h
    exact .ofEarly_ofResult (by trivial) fun found => move_ofEntry found
  case h_4 =>
    cases h
    exact .ofEarly_ofResult (by trivial) fun _ =>
      .ofEarly_reached (by trivial) (.inl (by trivial)) id
  case h_6 =>
    cases h
    exact .ofEarly_unlessCancelled (by trivial) (.inl (by trivial)) id
  case h_7 =>
    obtain ⟨next, reached, pair⟩ := Option.map_eq_some_iff.1 h
    cases pair
    exact move_of_reencode reached
  case h_8 =>
    cases h
    exact .ofEarly_unlessCancelled (by trivial) (.inr ⟨_, rfl⟩) fun action => .inl ⟨rfl, action⟩
  case h_9 => exact move_of_request (Option.some.inj h)
  case h_10 => cases h; exact .publish
  case h_11 =>
    cases h
    refine .heed ?_
    split
    · exact .inr rfl
    · exact .inl rfl
  case h_12 => cases h; exact .start
  case h_13 => exact move_of_exchange h
  case h_14 => cases h; exact .clear
  case h_15 => cases h; exact .release
  case h_16 => cases h; exact .record
  case h_17 => cases h; exact .refuse
  case h_18 => cases h; exact .breakDown
  case h_19 => cases h
  -- What is left are the breakdowns of the catalog and of the extractor.
  all_goals
    cases h
    exact .ofEarly_broken (by trivial)

/-- The end of an operation leads to the change cache, or ends the item. The request is released
either way. -/
theorem ofResult_cases (result : Except Store.Fault Unit) :
    ofResult result = .reached recording ∨ ∃ fault, ofResult result = .failed fault := by
  unfold ofResult
  split
  · exact .inl rfl
  · exact .inr ⟨_, rfl⟩
  · exact .inr ⟨_, rfl⟩

/-- The change that is recorded for an item. It is the one thing in which the end of an upload
differs from that of a removal. -/
def change (item : Item) (s : Shared) (trouble : Disk.Trouble) :
    Cache × Disk × Except PreviewSync.Fault Bool :=
  if item.action = .remove then s.cache.remove item.key s.disk trouble
  else s.cache.insert item.key s.disk trouble

/-- A change that was not kept leaves everything as it was. So an item that fails at the very end is
tried again as a whole. -/
theorem change_error {item : Item} {s : Shared} {trouble : Disk.Trouble} {cache : Cache}
    {disk : Disk} {fault : PreviewSync.Fault}
    (h : change item s trouble = (cache, disk, .error fault)) :
    cache = s.cache ∧ disk = s.disk := by
  unfold change at h
  split at h
  · exact Cache.remove_error h
  · exact Cache.insert_error h

/-- The change cache decides about the item: it has failed and nothing is changed, or it is done. -/
theorem record_cases (item : Item) (s : Shared) (trouble : Disk.Trouble) :
    (∃ fault, record item s trouble = (s, .failed (.cache fault))) ∨
      ∃ cache disk isChanged, change item s trouble = (cache, disk, .ok isChanged) ∧
        record item s trouble = ({ s with cache, disk }, .done) := by
  have unfolded : record item s trouble =
      ({ s with cache := (change item s trouble).1, disk := (change item s trouble).2.1 },
        Progress.ofResult .cache (fun _ => .done) (change item s trouble).2.2) := by
    unfold record change
    cases item.action <;> rfl
  rcases changed : change item s trouble with ⟨cache, disk, fault | isChanged⟩
  · obtain ⟨rfl, rfl⟩ := change_error changed
    rw [changed] at unfolded
    exact .inl ⟨fault, unfolded⟩
  · rw [changed] at unfolded
    exact .inr ⟨cache, disk, isChanged, rfl, unfolded⟩

namespace Move

variable {config : Config} {item : Item} {s s' : Shared} {stage : Stage} {answer : Answer}
  {progress : Progress}

/-- An item stays at the stages of its action. A removal never comes to encode a preview. -/
theorem suits (h : Move config item s stage answer s' progress) (here : stage.Suits item.action) :
    ∀ next, progress = .reached next → next.Suits item.action := by
  intro next reached
  cases h with
  | prepare early unsettled steps => exact (steps next reached).2 here
  | create | publish | heed =>
    cases reached
    exact here
  | start =>
    cases reached
    rw [Suits, Request.start_operation]
    exact here
  | event =>
    cases reached
    rw [Suits, Flight.step_operation]
    exact here
  | conclude =>
    cases reached
    exact here.ne_update
  | clear =>
    cases reached
    exact here
  | @release result =>
    rcases ofResult_cases result with next | ⟨fault, ended⟩
    · rw [next] at reached
      cases reached
      exact here
    · rw [ended] at reached
      cases reached
  | @record trouble =>
    rcases record_cases item s trouble with ⟨fault, ended⟩ | ⟨_, _, _, -, ended⟩ <;>
      rw [ended] at reached <;> cases reached
  | turnDown | refuse | breakDown => cases reached

/-- Nothing but the beginning of an operation leads past it, and nothing leads back. So an item
starts one operation at most. -/
theorem hasStarted (h : Move config item s stage answer s' progress) {next : Stage}
    (reached : progress = .reached next) :
    next.hasStarted = stage.hasStarted ∨ ∃ request operation dispatch flight,
      stage = starting request operation ∧ next = exchanging dispatch flight := by
  cases h with
  | prepare early unsettled steps =>
    have before : stage.hasStarted = false := by
      cases stage <;> first | rfl | exact early.elim
    rw [before]
    rcases (steps next reached).1 with early | ⟨operation, rfl⟩
    · cases next <;> first | exact .inl rfl | exact early.elim
    · exact .inl rfl
  | create | publish | heed | event | conclude | clear =>
    cases reached
    exact .inl rfl
  | start =>
    cases reached
    exact .inr ⟨_, _, _, _, rfl, rfl⟩
  | @release result =>
    rcases ofResult_cases result with later | ⟨fault, ended⟩
    · rw [later] at reached
      cases reached
      exact .inl rfl
    · rw [ended] at reached
      cases reached
  | @record trouble =>
    rcases record_cases item s trouble with ⟨fault, ended⟩ | ⟨_, _, _, -, ended⟩ <;>
      rw [ended] at reached <;> cases reached
  | turnDown | refuse | breakDown => cases reached

/-- An item that is done has changed the cache; any other step leaves cache and disk alone. What is
recorded can thus be traced to the last step of an item. -/
theorem cache_cases (h : Move config item s stage answer s' progress) :
    (progress ≠ .done ∧ s'.cache = s.cache ∧ s'.disk = s.disk) ∨
      (stage = recording ∧ progress = .done ∧ ∃ trouble isChanged,
        change item s trouble = (s'.cache, s'.disk, .ok isChanged)) := by
  cases h with
  | prepare early unsettled => exact .inl ⟨unsettled, rfl, rfl⟩
  | @release result =>
    refine .inl ⟨?_, rfl, rfl⟩
    rcases ofResult_cases result with next | ⟨fault, next⟩ <;> rw [next] <;> exact nofun
  | @record trouble =>
    rcases record_cases item s trouble with
      ⟨fault, ended⟩ | ⟨cache, disk, isChanged, changed, ended⟩ <;> rw [ended]
    · exact .inl ⟨nofun, rfl, rfl⟩
    · exact .inr ⟨rfl, rfl, trouble, isChanged, changed⟩
  | _ => exact .inl ⟨nofun, rfl, rfl⟩

/-- An item that is done has been recorded or forgotten; any other step leaves the keys alone. -/
theorem keys (h : Move config item s stage answer s' progress) :
    progress ≠ .done ∧ s'.cache.keys = s.cache.keys ∨
      progress = .done ∧ ∀ key, key ∈ s'.cache.keys ↔
        if item.action = .remove then key ∈ s.cache.keys ∧ key ≠ item.key
        else key = item.key ∨ key ∈ s.cache.keys := by
  rcases h.cache_cases with ⟨undone, same, -⟩ | ⟨-, done, trouble, isChanged, changed⟩
  · exact .inl ⟨undone, by rw [same]⟩
  · refine .inr ⟨done, fun key => ?_⟩
    unfold change at changed
    split at changed
    · rw [if_pos ‹_›]
      exact Cache.remove_ok changed
    · rw [if_neg ‹_›]
      exact Cache.insert_ok changed

/-- An item that is not done has left the keys alone. -/
theorem keys_of_ne_done (h : Move config item s stage answer s' progress)
    (unsettled : progress ≠ .done) : s'.cache.keys = s.cache.keys := by
  rcases h.keys with ⟨-, same⟩ | ⟨done, -⟩
  · exact same
  · exact absurd done unsettled

end Move

section Cancel

variable {action : Action} {stage : Stage}

/-- A cancellation does not take an item to another stage. It only marks the request that the stage
holds. -/
theorem suits_cancel (here : stage.Suits action) : stage.cancel.Suits action := by
  cases stage <;> exact here

theorem hasStarted_cancel : stage.cancel.hasStarted = stage.hasStarted := by
  cases stage <;> rfl

end Cancel

end Stage

end PreviewSync.Sync
