import PreviewSync.Proofs.Sync.Evidence

/-!
# What an item is heading for

When it is known beforehand which operation each photo needs, and the preview of a photo never comes
out in another way, every request is for that operation, and what is put on the wire has its body.

## Main Definitions

* `Stage.Intends` — an item is heading for an operation
* `Stage.intends_of_step` — every step of an item keeps it
* `Worker.intends_of_step` — every step of a worker keeps it for the item at work
-/

namespace PreviewSync.Sync

open Store (Dispatch Flight Operation Request)

namespace Progress

variable {next : Stage}

/-- An item that goes on has not found the flag raised. So whoever follows an item stage by stage
need not look at the flag. -/
theorem eq_of_unlessCancelled {s : Shared} {stage : Stage}
    (h : unlessCancelled s stage = .reached next) : next = stage := by
  unfold unlessCancelled at h
  split at h
  · cases h
  · exact (Progress.reached.inj h).symm

/-- An item that goes on has been given a result. -/
theorem exists_of_ofResult {α : Type} {blame : PreviewSync.Fault → ItemFault} {f : α → Progress}
    {result : Except PreviewSync.Fault α} (h : ofResult blame f result = .reached next) :
    ∃ value, result = .ok value ∧ f value = .reached next := by
  cases result with
  | error fault => cases h
  | ok value => exact ⟨value, rfl, h⟩

end Progress

namespace Stage

/-- An item is heading for an operation: a removal for the deletion, an encoded file for its upload,
and a request for nothing else. What is put on the wire has the body of the operation. Before a file
is encoded an upload is heading for whatever it comes to. -/
def Intends (operation : Operation) : Stage → Prop
  | removing => operation = .delete
  | reencoded file => operation = .put ⟨file, previewContentType⟩
  | requesting next | publishing _ next | heeding _ next | starting _ next => next = operation
  | exchanging dispatch flight => flight.operation = operation ∧
      ∀ d, dispatch = some d → d.payload = operation.payload
  | _ => True

variable {operation : Operation} {stage next : Stage}

theorem intends_cancel (h : stage.Intends operation) : stage.cancel.Intends operation := by
  cases stage with
  | exchanging dispatch flight =>
    refine ⟨?_, h.2⟩
    rw [flight.step_operation]
    exact h.1
  | _ => exact h

/-- An encoded file is the only thing that the steps of the re-encoding bring in. Everything else
about the operation is known when the item begins. -/
theorem intends_of_reencode {target : UInt32} {work : Reencoding} {answer : Answer}
    (h : reencode target work answer = some (.reached next))
    (encoded : ∀ image file, work = .encoding image → answer = .file (.ok file) →
      operation = .put ⟨file, previewContentType⟩) : next.Intends operation := by
  unfold reencode at h
  split at h
  · obtain ⟨image, -, reached⟩ := Progress.exists_of_ofResult (Option.some.inj h)
    cases reached
    trivial
  · obtain ⟨image, -, reached⟩ := Progress.exists_of_ofResult (Option.some.inj h)
    cases reached
    trivial
  · rename_i image result
    obtain ⟨file, rfl, reached⟩ := Progress.exists_of_ofResult (Option.some.inj h)
    cases reached
    exact encoded image file rfl rfl
  · cases h
  · cases h

/-- The steps before the request lead to the request for the operation. None of them asks for
anything else in between. -/
theorem intends_of_early {config : Config} {item : Item} {s s' : Shared} {answer : Answer}
    (early : stage.IsEarly) (h : stage.step config item s answer = some (s', .reached next))
    (here : stage.Intends operation)
    (encoded : ∀ image file, stage = reencoding (.encoding image) → answer = .file (.ok file) →
      operation = .put ⟨file, previewContentType⟩) : next.Intends operation := by
  unfold step at h
  split at h
  case h_1 =>
    rw [Progress.eq_of_unlessCancelled (Prod.mk.inj (Option.some.inj h)).2]
    exact here.symm
  case h_2 =>
    obtain ⟨found, -, reached⟩ :=
      Progress.exists_of_ofResult (Prod.mk.inj (Option.some.inj h)).2
    unfold ofEntry at reached
    split at reached
    · cases reached
    · split at reached <;> cases reached
      trivial
  case h_4 =>
    obtain ⟨file, -, reached⟩ :=
      Progress.exists_of_ofResult (Prod.mk.inj (Option.some.inj h)).2
    cases reached
    trivial
  case h_6 =>
    rw [Progress.eq_of_unlessCancelled (Prod.mk.inj (Option.some.inj h)).2]
    trivial
  case h_7 =>
    obtain ⟨progress, reached, same⟩ := Option.map_eq_some_iff.1 h
    cases same
    exact intends_of_reencode reached fun image file atWork => encoded image file (by rw [atWork])
  case h_8 =>
    rw [Progress.eq_of_unlessCancelled (Prod.mk.inj (Option.some.inj h)).2]
    exact here.symm
  case h_3 | h_5 | h_19 => cases h
  -- The other stages come after the request has been asked for.
  all_goals exact early.elim

/-- An item is heading for the same operation after a step, if a file that is encoded is the one to
upload. -/
theorem intends_of_step {config : Config} {item : Item} {s s' : Shared} {answer : Answer}
    (h : stage.step config item s answer = some (s', .reached next))
    (here : stage.Intends operation)
    (encoded : ∀ image file, stage = reencoding (.encoding image) → answer = .file (.ok file) →
      operation = .put ⟨file, previewContentType⟩) : next.Intends operation := by
  have move := move_of_step h
  generalize same : Progress.reached next = progress at move
  cases move with
  | prepare early => exact intends_of_early early h here encoded
  | create | publish | heed =>
    cases same
    exact here
  | @start request _ now =>
    cases same
    refine ⟨?_, fun d launched => ?_⟩
    · rw [Request.start_operation]
      exact here
    · obtain ⟨headers, -, rfl⟩ := Request.prepare_ok (Request.prepare_of_start launched)
      exact congrArg Operation.payload here
  | event =>
    cases same
    refine ⟨?_, here.2⟩
    rw [Flight.step_operation]
    exact here.1
  | conclude | clear =>
    cases same
    trivial
  | @release result =>
    rcases ofResult_cases result with later | ⟨fault, ended⟩
    · rw [later] at same
      cases same
      trivial
    · rw [ended] at same
      cases same
  | @record trouble =>
    rcases record_cases item s trouble with ⟨fault, ended⟩ | ⟨_, _, _, -, ended⟩ <;>
      rw [ended] at same <;> cases same
  | turnDown | refuse | breakDown => cases same

end Stage

namespace Worker

variable {config : Config} {s s' : Shared} {w w' : Worker} {answer : Answer}

/-- A worker that stays at work has taken a step of its item, or has just begun one. A worker that
ends an item is at no stage afterwards. -/
theorem stage_of_step (h : w.step config s answer = some (s', w')) {next : Stage}
    (goesOn : w'.point = .working next) :
    (w.point = .choosing ∧ ∃ key action rest, w.pending = (key, action) :: rest ∧
      w'.pending = w.pending ∧ Stage.first? action = some next) ∨
    ∃ stage key action rest, w.point = .working stage ∧ w.pending = (key, action) :: rest ∧
      w'.pending = w.pending ∧
      stage.step config ⟨w.number, w.destination, key, action⟩ s answer =
        some (s', .reached next) := by
  unfold step at h
  split at h
  · rename_i atChoice
    obtain ⟨rfl, rfl⟩ := Prod.mk.inj (Option.some.inj h)
    refine .inl ⟨atChoice, ?_⟩
    unfold choose at goesOn ⊢
    split at goesOn
    · cases goesOn
    · rename_i key action rest pending
      split at goesOn
      · cases goesOn
      · rename_i unraised
        split at goesOn
        · rename_i stage first
          cases goesOn
          refine ⟨key, action, rest, pending, ?_, first⟩
          simp only [unraised]
          rfl
        · rw [show w.point = .working next from goesOn] at atChoice
          cases atChoice
  · rename_i stage key action rest atWork pending
    obtain ⟨⟨shared, progress⟩, moved, same⟩ := Option.map_eq_some_iff.1 h
    obtain ⟨rfl, rfl⟩ := Prod.mk.inj same
    cases progress with
    | reached later =>
      cases goesOn
      exact .inr ⟨stage, key, action, rest, atWork, pending, rfl, moved⟩
    | done | broken => cases goesOn
    | failed fault => cases fault <;> cases goesOn
  · cases h

/-- The item at work is heading for the operation of its photo after every step, if a file that is
encoded is the one to upload, and items that remove are to delete. -/
theorem intends_of_step {operation : String → Operation}
    (h : w.AtWork fun key _ stage => stage.Intends (operation key))
    (stepped : w.step config s answer = some (s', w'))
    (removes : ∀ key, (key, .remove) ∈ w.pending → operation key = .delete)
    (encoded : ∀ key action rest image file, w.pending = (key, action) :: rest →
      w.point = .working (.reencoding (.encoding image)) → answer = .file (.ok file) →
        operation key = .put ⟨file, previewContentType⟩) :
    w'.AtWork fun key _ stage => stage.Intends (operation key) := by
  intro next key action rest goesOn pending
  rcases stage_of_step stepped goesOn with
    ⟨-, key', action', rest', pending', same, first⟩ |
      ⟨stage, key', action', rest', atWork, pending', same, moved⟩
  · cases (pending.symm.trans same).trans pending'
    cases action <;> cases first
    · trivial
    · refine removes key ?_
      rw [pending']
      exact List.mem_cons_self
  · cases (pending.symm.trans same).trans pending'
    refine Stage.intends_of_step moved (h stage key action rest atWork pending') ?_
    rintro image file rfl
    exact encoded key action rest image file pending' atWork

end Worker

end PreviewSync.Sync
