import PreviewSync.Proofs.Sync.Passes

/-!
# A session and the file that it watches

The file of a catalog may be modified at any time, and each modification gives it a later time.
What a session that has begun sees of it is noted with the number of modifications so far: the
readings of the watcher, and the keys that the passes read.

## Main Definitions

* `Vigil` — a machine, the file that it watches, and what has been seen of the file
* `Happening`, `Vigil.step`, `Vigil.run` — modifications, and steps of the machine
* `Vigil.Move` — what can happen, with `Vigil.move_of_step`

## Design Notes

Versions are a record for proofs: the machine is told times only. The owner has begun a session and
makes no further call, so passes are run by that call and by the watcher.
-/

namespace PreviewSync.Sync

/-- Whether an answer tells the keys of the catalog. A reading that fails tells nothing, and the
pass ends with it. -/
def CatalogAnswer.isListing : CatalogAnswer → Bool
  | keys (.ok _) => true
  | _ => false

/-- What a pass has come to, if it has ended. A fault is something to have come to as well. -/
def PassProgress.verdict? : PassProgress → Option (Except Fault Verdict)
  | reached _ => none
  | ended result => some result

/-- Whether a label is a reading of the watcher. -/
def Label.isPoll : Label → Bool
  | poll _ => true
  | _ => false

/-- The steps that passes take by a step of the machine; there is one at most. As a list they can be
put behind one another without a case for none. -/
def Entry.passSteps (entry : Entry) : List PassStep :=
  [Party.owner, Party.watcher].filterMap entry.passStep?

/-- A machine and the file of a catalog, with what has been seen of the file. The version is the
number of modifications; readings and reads are noted by the version that they have found. A later
modification has both a higher version and a later time, so versions can stand for times. -/
structure Vigil where
  machine : Machine
  time : UInt64
  version : Nat := 0
  polls : List Nat := []
  reads : List Nat := []
  verdicts : List (Except Fault Verdict) := []

/-- What happens next. The file is no part of the machine, so its modifications are told apart from
steps. -/
inductive Happening where
  /-- The machine takes a step. -/
  | step (label : Label)
  /-- The file is modified, by which it gets a later time. -/
  | modify (time : UInt64)

namespace Vigil

/-- Whether a step can be taken: the watcher reads the time of the file, and the owner makes no
further call. A session that is stopped and begun again has another watcher, which knows nothing of
the first. -/
def admits (v : Vigil) : Label → Bool
  | .call _ => false
  | .poll reading => reading == some v.time
  | _ => true

/-- What is noted when the machine takes a step. Versions are noted and not times, since a version
says which modifications a reading has seen. -/
def note (v : Vigil) (entry : Entry) : Vigil :=
  { v with
    machine := entry.after
    polls := v.polls ++ if entry.label.isPoll then [v.version] else []
    reads := v.reads ++ (entry.passSteps.filter (·.answer.isListing)).map fun _ => v.version
    verdicts := v.verdicts ++ entry.passSteps.filterMap (·.progress.verdict?) }

/-- The effect of what happens. There is none when it cannot happen. -/
def step (v : Vigil) : Happening → Option Vigil
  | .step label =>
    if v.admits label then
      (v.machine.step label).map fun (after, result) => v.note ⟨v.machine, label, after, result⟩
    else none
  | .modify time => if v.time < time then some { v with time, version := v.version + 1 } else none

/-- The effect of all that happens. -/
def run (v : Vigil) (happenings : List Happening) : Option Vigil :=
  happenings.foldlM step v

/-! ### What can happen -/

/-- The vigil after a step of a pass. It does not matter whose pass it is. -/
def afterPass (v : Vigil) (machine : Machine) (answer : CatalogAnswer) (progress : PassProgress) :
    Vigil :=
  { v with
    machine
    reads := v.reads ++ if answer.isListing then [v.version] else []
    verdicts := v.verdicts ++ progress.verdict?.toList }

/-- What can happen: from vigil to vigil. Steps that neither read the file nor belong to a pass are
one case, since they leave everything that is noted as it is. -/
inductive Move (v : Vigil) : Vigil → Prop
  | modify {time : UInt64} (later : v.time < time) :
      Move v { v with time, version := v.version + 1 }
  | poll {watcher : Watch.Watcher} {destination : String}
      (idle : v.machine.watching = some ⟨watcher, destination, none⟩) :
      Move v { v with
        machine.watching := some ⟨(watcher.poll (some v.time)).1, destination,
          if (watcher.poll (some v.time)).2 then some .entering else none⟩
        polls := v.polls ++ [v.version] }
  | own {destination : String} {pass : Pass} {answer : CatalogAnswer} {hub : Hub}
      {progress : PassProgress} (running : v.machine.owner = .passing destination pass)
      (moved : Hub.PassMove v.machine.hub .owner destination pass answer hub progress) :
      Move v (v.afterPass { v.machine with hub, owner := .ofPass destination progress } answer
        progress)
  | watch {watcher : Watch.Watcher} {destination : String} {pass : Pass} {answer : CatalogAnswer}
      {hub : Hub} {progress : PassProgress}
      (running : v.machine.watching = some ⟨watcher, destination, some pass⟩)
      (moved : Hub.PassMove v.machine.hub .watcher destination pass answer hub progress) :
      Move v (v.afterPass
        { v.machine with hub, watching := some ⟨watcher, destination, progress.pass?⟩ } answer
        progress)
  /-- The watcher is started, and the owner is about to run the first pass. -/
  | arm {session : Session}
      (atArm : v.machine.owner = .arming session) :
      Move v { v with
        machine := { v.machine with
          session := some session
          watching := some ⟨⟨session.file, .polling none⟩, session.destination, none⟩
          owner := .passing session.destination .entering } }
  /-- The owner takes another step on the way there. -/
  | prepare {machine : Machine} (before : v.machine.owner.isBeginning = true)
      (after : machine.owner.isBeginning = true ∨ machine.owner = .resting)
      (watching : machine.watching = v.machine.watching) : Move v { v with machine }
  /-- The owner is in another call. -/
  | elsewhere {machine : Machine} (before : v.machine.owner.isBeginning = false)
      (running : ∀ destination pass, v.machine.owner ≠ .passing destination pass)
      (called : v.machine.owner ≠ .resting) : Move v { v with machine }
  /-- Neither owner nor watcher takes a step. -/
  | aside {machine : Machine} (owner : machine.owner = v.machine.owner)
      (watching : machine.watching = v.machine.watching) : Move v { v with machine }

variable {v v' : Vigil} {m m' : Machine} {label : Label} {result : Option Return}

/-- A step that is none of a pass leaves reads and verdicts as they are. This is most steps, so they
are dealt with at once. -/
theorem passSteps_eq_nil (h : ∀ party, m.passAt? party = none ∨ label.passAnswer? party = none) :
    Entry.passSteps ⟨m, label, m', result⟩ = [] := by
  have none : ∀ party, Entry.passStep? ⟨m, label, m', result⟩ party = none := by
    intro party
    rcases h party with here | here <;> simp [Entry.passStep?, here]
  simp [Entry.passSteps, none]

/-- What is noted of such a step. -/
theorem note_of_other (h : ∀ party, v.machine.passAt? party = none ∨ label.passAnswer? party = none)
    (other : label.isPoll = false) :
    v.note ⟨v.machine, label, m', result⟩ = { v with machine := m' } := by
  simp [note, passSteps_eq_nil h, other]

/-- What is noted of a step of a pass. -/
theorem note_of_pass {step : PassStep} (h : Entry.passSteps ⟨v.machine, label, m', result⟩ = [step])
    (other : label.isPoll = false) :
    v.note ⟨v.machine, label, m', result⟩ = v.afterPass m' step.answer step.progress := by
  have reads : ([step].filter (·.answer.isListing)).map (fun _ => v.version) =
      if step.answer.isListing then [v.version] else [] := by
    cases listed : step.answer.isListing <;> simp [listed]
  have verdicts : [step].filterMap (·.progress.verdict?) = step.progress.verdict?.toList := by
    cases ended : step.progress.verdict? <;> simp [ended]
  rw [note, h, reads, verdicts, other]
  simp [afterPass]

/-- The watcher is started with nothing to remember, unless it is refused. A watcher that is refused
leaves no session behind. -/
theorem arm_cases {session : Session} {isValid : Bool} {refusal : Option String}
    (h : m.arm session isValid refusal = (m', result)) :
    m' = { m with
      session := some session
      watching := some ⟨⟨session.file, .polling none⟩, session.destination, none⟩
      owner := .passing session.destination .entering } ∨ m' = { m with owner := .resting } := by
  have absent : ¬ (⟨session.file, .absent⟩ : Watch.Watcher).isWatching = true := Bool.false_ne_true
  unfold Machine.arm Watch.Watcher.begin at h
  rw [if_neg absent] at h
  by_cases zero : m.hub.config.pollInterval = 0
  · rw [if_pos zero] at h
    cases h
    exact .inr rfl
  · rw [if_neg zero] at h
    cases isValid with
    | false =>
      cases h
      exact .inr rfl
    | true =>
      cases refusal <;> cases h
      · exact .inl rfl
      · exact .inr rfl

/-- Whether or not the change cache is loaded, there is no watcher yet. If it cannot be loaded, the
call ends here. -/
theorem load_cases {session : Session} {trouble : Disk.Trouble}
    (h : m.load session trouble = (m', result)) :
    m'.watching = m.watching ∧ (m'.owner.isBeginning = true ∨ m'.owner = .resting) := by
  rcases loaded : m.hub.cache.load m.hub.disk trouble with ⟨cache, disk, fault | ⟨⟩⟩ <;>
    rw [Machine.load, loaded] at h <;> cases h
  · exact ⟨rfl, .inr rfl⟩
  · exact ⟨rfl, .inl rfl⟩

/-- A step of the owner. Calls are left out by then, so it is on the way to a session, in its first
pass, or still in the call that it was in. -/
theorem move_of_ownerStep {answer : OwnerAnswer}
    (h : v.machine.ownerStep answer = some (m', result)) :
    Move v (v.note ⟨v.machine, .owner answer, m', result⟩) := by
  have silent : (∀ destination pass, v.machine.owner ≠ .passing destination pass) →
      v.note ⟨v.machine, .owner answer, m', result⟩ = { v with machine := m' } := by
    intro other
    refine note_of_other (fun party => ?_) rfl
    cases party with
    | owner =>
      refine .inl (Option.eq_none_iff_forall_ne_some.2 fun there running => ?_)
      exact other _ _ (Machine.passAt?_owner.1 running)
    | watcher => exact .inr rfl
  unfold Machine.ownerStep at h
  split at h
  case h_6 destination pass told running =>
    obtain ⟨⟨hub, progress⟩, moved, same⟩ := Option.map_eq_some_iff.1 h
    have next : m' = { v.machine with hub, owner := .ofPass destination progress } := by
      cases progress <;> cases same <;> rfl
    have steps : Entry.passSteps ⟨v.machine, .owner (.catalog told), m', result⟩ =
        [⟨v.machine.hub, destination, pass, told, hub, progress⟩] := by
      simp [Entry.passSteps, Entry.passStep?, Machine.passAt?_owner.2 running, Label.passAnswer?,
        moved]
    rw [note_of_pass steps rfl, next]
    exact .own running (Hub.passMove_of_pass moved)
  case h_12 => cases h
  case h_1 atPoint | h_2 atPoint | h_4 atPoint =>
    cases h
    rw [silent (by simp [atPoint])]
    refine .prepare (by rw [atPoint]; rfl) ?_ rfl
    first | exact .inl rfl | exact .inr rfl
  case h_3 trouble atPoint =>
    rw [silent (by simp [atPoint])]
    obtain ⟨watching, owner⟩ := load_cases (Option.some.inj h)
    exact .prepare (by rw [atPoint]; rfl) owner watching
  case h_5 session isValid refusal atPoint =>
    rw [silent (by simp [atPoint])]
    rcases arm_cases (Option.some.inj h) with rfl | rfl
    · exact .arm atPoint
    · exact .prepare (by rw [atPoint]; rfl) (.inr rfl) rfl
  all_goals
    rename_i atPoint
    rw [silent (by simp [atPoint])]
    exact .elsewhere (by rw [atPoint]; rfl) (by simp [atPoint]) (by simp [atPoint])

/-- A reading of the watcher. -/
theorem move_of_poll (h : v.machine.poll (some v.time) = some m') :
    Move v (v.note ⟨v.machine, .poll (some v.time), m', none⟩) := by
  have steps : Entry.passSteps ⟨v.machine, .poll (some v.time), m', none⟩ = [] :=
    passSteps_eq_nil fun party => .inr (by cases party <;> rfl)
  unfold Machine.poll at h
  split at h
  · rename_i watcher destination idle
    cases h
    rw [note, steps, List.filter_nil, List.map_nil, List.filterMap_nil, List.append_nil,
      List.append_nil]
    exact .poll idle
  · cases h

/-- A step of the watcher's pass. -/
theorem move_of_watcherStep {answer : CatalogAnswer}
    (h : v.machine.watcherStep answer = some m') :
    Move v (v.note ⟨v.machine, .watcher answer, m', none⟩) := by
  unfold Machine.watcherStep at h
  split at h
  · rename_i watcher destination pass running
    obtain ⟨⟨hub, progress⟩, moved, same⟩ := Option.map_eq_some_iff.1 h
    have next : m' =
        { v.machine with hub, watching := some ⟨watcher, destination, progress.pass?⟩ } := by
      cases progress <;> cases same <;> rfl
    have steps : Entry.passSteps ⟨v.machine, .watcher answer, m', none⟩ =
        [⟨v.machine.hub, destination, pass, answer, hub, progress⟩] := by
      simp [Entry.passSteps, Entry.passStep?, Machine.passAt?_watcher.2 ⟨_, running⟩,
        Label.passAnswer?, moved]
    rw [note_of_pass steps rfl, next]
    exact .watch running (Hub.passMove_of_pass moved)
  · cases h

/-- All that can happen. What is noted is the same for both parties' passes, so the later proof is
made once for either. -/
theorem move_of_step {happening : Happening} (h : v.step happening = some v') : v.Move v' := by
  cases happening with
  | modify time =>
    obtain ⟨later, same⟩ := Option.ite_none_right_eq_some.1 h
    cases same
    exact .modify later
  | step label =>
    obtain ⟨admitted, h⟩ := Option.ite_none_right_eq_some.1 h
    obtain ⟨⟨after, result⟩, stepped, rfl⟩ := Option.map_eq_some_iff.1 h
    show v.Move (v.note ⟨v.machine, label, after, result⟩)
    cases label with
    | call => cases admitted
    | owner => exact move_of_ownerStep stepped
    | poll =>
      cases beq_iff_eq.1 admitted
      obtain ⟨next, polled, same⟩ := Option.map_eq_some_iff.1 stepped
      cases same
      exact move_of_poll polled
    | watcher =>
      obtain ⟨next, taken, same⟩ := Option.map_eq_some_iff.1 stepped
      cases same
      exact move_of_watcherStep taken
    | worker =>
      obtain ⟨hub, -, same⟩ := Option.map_eq_some_iff.1 stepped
      cases same
      rw [note_of_other (fun party => .inr (by cases party <;> rfl)) rfl]
      exact .aside rfl rfl
    | register =>
      cases stepped
      rw [note_of_other (fun party => .inr (by cases party <;> rfl)) rfl]
      unfold Machine.register
      split <;> exact .aside rfl rfl
    | unregister =>
      cases stepped
      rw [note_of_other (fun party => .inr (by cases party <;> rfl)) rfl]
      exact .aside rfl rfl

end Vigil

end PreviewSync.Sync
