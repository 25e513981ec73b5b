import PreviewSync.Proofs.Sync.Stopping

/-!
# Threads that are not started

The system may refuse to start the thread of a batch, or that of a watcher. By then a pass has
lowered the flag and emptied the slot, and it leaves both so: the next pass finds neither a batch
nor a request to end one. A watcher that is refused its thread is not there at all, and no session
begins with it.

## Main Definitions

* `Machine.IsLowered` — the flag is down while a batch is about to be started
* `Diary.isLowered_of_run` — this holds after every run
* `Diary.refuse_launch` — what a pass leaves behind that gets no thread for its batch
* `Diary.refuse_arm` — what is left of a session whose watcher gets no thread

## Design Notes

That the flag is down follows from no single step: the pass lowers it one step before. In between
the owner of a session could raise it only if it were ending the session, but then the watcher is
gone, and the owner itself runs no pass.
-/

namespace PreviewSync.Sync

open Store (Client)

namespace Machine

variable {m m' : Machine} {label : Label} {result : Option Return}

/-- The flag is up after a step because it was before, or because the owner has just raised it. -/
theorem Transition.cancel_of_cancel (moved : m.Transition label m' result)
    (raised : m'.hub.cancel = true) : m.hub.cancel = true ∨ m.owner = .raising := by
  cases moved with
  | pass atPass moved | watch atPass moved =>
    cases moved with
    | lower => cases raised
    | _ => exact .inl raised
  | raise raising => exact .inr raising
  | cancel =>
    have same : m.hub.cancelPublished.cancel = m.hub.cancel := by
      unfold Hub.cancelPublished
      split <;> rfl
    exact .inl (same ▸ raised)
  | work found stepped =>
    rcases Worker.step_cases stepped with ⟨-, same, -⟩ | ⟨_, _, _, _, _, -, -, moved, -⟩
    · exact .inl ((congrArg Shared.cancel same).symm.trans raised)
    · exact .inl (moved.cancel_eq.symm.trans raised)
  | _ => exact .inl raised

/-- While a pass is about to start a batch, the flag is down. The pass has lowered it one step
before, and an owner that ends a session raises it only when no pass is running. -/
structure IsLowered (m : Machine) : Prop where
  stoppable : m.IsStoppable
  lowered : ∀ party destination actions,
    m.passAt? party = some (destination, .launching actions) → m.hub.cancel = false

namespace IsLowered

theorem make {config : Config} {client : Client} {cache : Cache} {disk : Disk} :
    (Machine.make config client cache disk).IsLowered where
  stoppable := .make
  lowered party _ _ running := by cases party <;> cases running

/-- An owner who raises the flag leaves no pass behind. The owner runs none meanwhile, and the
watcher has been waited for. -/
theorem passAt?_of_raising (h : m.IsLowered) (raising : m.owner = .raising) (party : Party) :
    m.passAt? party = none := by
  refine Option.eq_none_iff_forall_ne_some.2 fun there running => ?_
  cases party with
  | owner => cases raising.symm.trans (passAt?_owner.1 running)
  | watcher =>
    obtain ⟨watcher, watched⟩ := passAt?_watcher.1 running
    have other : m.owner ≠ .halting := by
      rw [raising]
      exact nofun
    have running : m.session ≠ none :=
      h.stoppable.sound.session_ne_none other (by rw [watched]; exact nofun)
    exact running (h.stoppable.left (by rw [raising]; rfl))

/-- The flag stays down: a pass comes to this stage by lowering it, and nobody raises it then. The
other party may take any number of steps before the batch is started. -/
theorem step (h : m.IsLowered) (stepped : m.step label = some (m', result)) : m'.IsLowered where
  stoppable := h.stoppable.step stepped
  lowered party destination actions after := by
    have moved := transition_of_step stepped
    cases running : m.passAt? party with
    | none =>
      rcases moved.passAt?_cases (.inl running) after with first | before
      · cases first
      · cases running.symm.trans before
    | some there =>
      obtain ⟨destination', pass⟩ := there
      cases told : label.passAnswer? party with
      | none =>
        rcases moved.passAt?_cases (.inr told) after with first | before
        · cases first
        · rw [Bool.eq_false_iff]
          intro raised
          rcases moved.cancel_of_cancel raised with up | raising
          · rw [h.lowered party destination actions before] at up
            cases up
          · cases running.symm.trans (h.passAt?_of_raising raising party)
      | some answer =>
        obtain ⟨progress, -, passed, next, -⟩ := passStep?_of_running stepped running told
        rw [next] at after
        obtain ⟨stage, goesOn, same⟩ := Option.map_eq_some_iff.1 after
        cases same
        generalize m'.hub = hub at passed ⊢
        cases passed <;> cases goesOn
        rfl

end IsLowered

end Machine

namespace Diary

variable {config : Config} {client : Client} {cache : Cache} {disk : Disk} {labels : List Label}
  {diary : Diary} {party : Party} {destination : String} {actions : List (String × Action)}

/-- In every run the flag is down while a batch is about to be started. -/
theorem isLowered_of_run (ran : (start config client cache disk).run labels = some diary) :
    diary.machine.IsLowered := by
  refine run_induction (p := fun diary => diary.machine.IsLowered) ran .make ?_
  intro before after label _ here written
  obtain ⟨machine, result, stepped, rfl⟩ := write_eq_some written
  exact here.step stepped

/-- After every run, a pass that gets no thread for its batch ends with the reason. It leaves the
flag down, the slot empty and the lock free, and batches, change cache and last report as they were;
the session goes on. -/
theorem refuse_launch (ran : (start config client cache disk).run labels = some diary)
    (running : diary.machine.passAt? party = some (destination, .launching actions))
    {label : Label} {reason : String} (refused : label.passAnswer? party = some (.refused reason)) :
    ∃ m' result, diary.machine.step label = some (m', result) ∧
      m'.hub = { diary.machine.hub with lock := none } ∧ m'.hub.cancel = false ∧
      m'.hub.slot = none ∧ m'.session = diary.machine.session ∧ m'.passAt? party = none ∧
      (party = .owner → result = some (.passed (.error (.spawn reason)))) := by
  obtain ⟨stoppable, lowered⟩ := isLowered_of_run ran
  have down := lowered party destination actions running
  cases party with
  | owner =>
    have atPass := Machine.passAt?_owner.1 running
    cases Machine.passAnswer?_owner.1 refused
    have empty : diary.machine.hub.slot = none :=
      stoppable.sound.ownerClear (.launching actions) (by rw [atPass]; rfl) rfl
    refine ⟨{ diary.machine with hub.lock := none, owner := .resting }, _, ?_, rfl, down, empty,
      rfl, rfl, fun _ => rfl⟩
    simp only [Machine.step, Machine.ownerStep, atPass, Machine.pass, Hub.pass, Hub.endPass,
      Option.map_some, Machine.finish]
  | watcher =>
    obtain ⟨watcher, watched⟩ := Machine.passAt?_watcher.1 running
    cases Machine.passAnswer?_watcher.1 refused
    have empty : diary.machine.hub.slot = none :=
      stoppable.sound.watcherClear (.launching actions) (by rw [Machine.watcherPass?, watched]; rfl)
        rfl
    have notOwner : Party.watcher ≠ .owner := by decide
    refine ⟨{ diary.machine with
      hub.lock := none, watching := some ⟨watcher, destination, none⟩ }, none, ?_, rfl, down, empty,
      rfl, rfl, fun owner => absurd owner notOwner⟩
    simp only [Machine.step, Machine.watcherStep, watched, Hub.pass, Hub.endPass, Option.map_some]

/-- After every run, a watcher that gets no thread is not there, and no session begins with it. -/
theorem refuse_arm (ran : (start config client cache disk).run labels = some diary)
    {session : Session} (arming : diary.machine.owner = .arming session)
    (positive : diary.machine.hub.config.pollInterval ≠ 0) (reason : String) :
    diary.machine.step (.owner (.status true (some reason))) =
        some ({ diary.machine with owner := .resting },
          some (.passed (.error (.watch (.spawn reason))))) ∧
      diary.machine.session = none ∧ diary.machine.watching = none := by
  have sound := (isLowered_of_run ran).stoppable.sound
  have idle : diary.machine.session = none := sound.beginning (by rw [arming]; rfl)
  have unwatched : diary.machine.watching = none := by
    by_contra watched
    exact sound.session_ne_none (by rw [arming]; exact nofun) watched idle
  refine ⟨?_, idle, unwatched⟩
  have absent : ¬ (⟨session.file, .absent⟩ : Watch.Watcher).isWatching = true := Bool.false_ne_true
  simp only [Machine.step, Machine.ownerStep, arming, Machine.arm, Watch.Watcher.begin]
  rw [if_neg absent, if_neg positive]
  rfl

end Diary

end PreviewSync.Sync
