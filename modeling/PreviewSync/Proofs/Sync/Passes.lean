import PreviewSync.Proofs.Sync.Diary
import PreviewSync.Proofs.Sync.SingleFlight

/-!
# The passes of a run

Owner and watcher run their passes step by step, with steps of all others in between. A pass that is
told that the other party or a batch is busy has asked the catalog for nothing and has touched
nothing but the lock. One that starts a batch has compared the catalog with the change cache while
no batch was under way, and launches what that comparison came to.

## Main Definitions

* `PassStep`, `Entry.passStep?` — a step of a pass with the hub before and after it
* `Diary.pass` — the latest pass of a party
* `Machine.SingleFlight.isOver_of_isPast` — no batch is under way once a pass has looked at the slot
* `PassStep.IsSilent`, `Launches` — what a pass that gives up, or that starts a batch, has done
* `Diary.IsPassing` — what holds of the latest passes, with `Diary.IsPassing.write`
-/

namespace PreviewSync.Sync

/-- A step of a pass, with the hub before and after it. What others did in between is seen from the
gap between the hubs of two steps. -/
structure PassStep where
  before : Hub
  destination : String
  pass : Pass
  answer : CatalogAnswer
  after : Hub
  progress : PassProgress

namespace Machine

/-- The pass that a party runs, with its destination. The destination is carried along from the
beginning, for the session may be gone when the pass ends. -/
def passAt? (m : Machine) : Party → Option (String × Pass)
  | .owner =>
    match m.owner with
    | .passing destination pass => some (destination, pass)
    | _ => none
  | .watcher => m.watching.bind fun watching => watching.pass.map (watching.destination, ·)

end Machine

/-- What a label tells to the pass of a party. Labels that tell it nothing leave its pass where it
is. -/
def Label.passAnswer? : Party → Label → Option CatalogAnswer
  | .owner, owner (.catalog answer) => some answer
  | .watcher, watcher answer => some answer
  | _, _ => none

/-- The step that a party's pass takes by a step of the machine. It is taken from the entry and not
recorded by the machine, so the machine is not changed for the sake of what is said of it. -/
def Entry.passStep? (entry : Entry) (party : Party) : Option PassStep := do
  let (destination, pass) ← entry.before.passAt? party
  let answer ← entry.label.passAnswer? party
  let (after, progress) ← entry.before.hub.pass party destination pass answer
  some ⟨entry.before.hub, destination, pass, answer, after, progress⟩

/-- The latest pass after one more step; a new one begins at the lock. Steps of earlier passes are
forgotten, since a verdict rests on its own pass only. -/
def PassStep.follow (step : PassStep) (steps : List PassStep) : List PassStep :=
  if step.pass = .entering then [step] else steps ++ [step]

/-- The steps of the latest pass of a party. Earlier passes are dropped when a new one begins, since
a verdict is about the pass that it ends. -/
def Diary.pass (diary : Diary) (party : Party) : List PassStep :=
  (diary.entries.filterMap (·.passStep? party)).foldl (fun steps step => step.follow steps) []

namespace Machine

variable {m m' : Machine} {label : Label} {result : Option Return} {party : Party}

theorem passAt?_owner {destination : String} {pass : Pass} :
    m.passAt? .owner = some (destination, pass) ↔ m.owner = .passing destination pass := by
  rw [passAt?]
  split
  · rename_i atPass
    rw [atPass]
    simp
  · rename_i other
    exact ⟨nofun, fun atPass => absurd atPass (other _ _)⟩

theorem passAt?_watcher {destination : String} {pass : Pass} :
    m.passAt? .watcher = some (destination, pass) ↔
      ∃ watcher, m.watching = some ⟨watcher, destination, some pass⟩ := by
  rw [passAt?]
  rcases m.watching with _ | ⟨watcher, destination', _ | pass'⟩
  · simp
  · simp
  · simp [eq_comm]

theorem passAnswer?_owner {answer : CatalogAnswer} :
    label.passAnswer? .owner = some answer ↔ label = .owner (.catalog answer) := by
  unfold Label.passAnswer?
  split <;> simp_all

theorem passAnswer?_watcher {answer : CatalogAnswer} :
    label.passAnswer? .watcher = some answer ↔ label = .watcher answer := by
  unfold Label.passAnswer?
  split <;> simp_all

/-- A step that is none of a party's pass leaves the pass where it is, or begins or ends one. So the
steps of a pass follow one another without a gap in its stages. -/
theorem Transition.passAt?_cases (moved : m.Transition label m' result)
    (other : m.passAt? party = none ∨ label.passAnswer? party = none) {destination : String}
    {pass : Pass} (after : m'.passAt? party = some (destination, pass)) :
    pass = .entering ∨ m.passAt? party = some (destination, pass) := by
  cases party with
  | owner =>
    rw [passAt?_owner] at after
    cases moved with
    | wander before free =>
      exact .inl ((SingleFlight.not_holdsLock free).2 pass (congrArg OwnerPoint.pass? after))
    | load atLoad loaded next =>
      rcases next with rfl | rfl <;> cases after
    | arm =>
      cases after
      exact .inl rfl
    | pass atPass =>
      rcases other with none | none
      · rw [passAt?_owner.2 atPass] at none
        cases none
      · cases none
    | leave | take | findNothing | join | halt | raise | cancel => cases after
    | poll | watch | work | register | refuseRegister | unregister =>
      exact .inr (passAt?_owner.2 after)
  | watcher =>
    obtain ⟨watcher, after⟩ := passAt?_watcher.1 after
    cases moved with
    | poll idle next =>
      cases after
      exact .inl (next pass rfl)
    | watch atPass =>
      rcases other with none | none
      · rw [passAt?_watcher.2 ⟨_, atPass⟩] at none
        cases none
      · cases none
    | arm | halt => cases after
    | _ => exact .inr (passAt?_watcher.2 ⟨watcher, after⟩)

/-- A step of a party's pass. When the pass of the owner ends, the call returns what it has come
to. -/
theorem passStep?_of_running (h : m.step label = some (m', result)) {destination : String}
    {pass : Pass} {answer : CatalogAnswer} (running : m.passAt? party = some (destination, pass))
    (told : label.passAnswer? party = some answer) :
    ∃ progress, Entry.passStep? ⟨m, label, m', result⟩ party =
        some ⟨m.hub, destination, pass, answer, m'.hub, progress⟩ ∧
      Hub.PassMove m.hub party destination pass answer m'.hub progress ∧
      m'.passAt? party = progress.pass?.map (destination, ·) ∧
      (party = .owner → result = progress.return?) := by
  have found : ∀ hub progress,
      m.hub.pass party destination pass answer = some (hub, progress) →
        Entry.passStep? ⟨m, label, m', result⟩ party =
          some ⟨m.hub, destination, pass, answer, hub, progress⟩ := by
    intro hub progress moved
    simp [Entry.passStep?, running, told, moved]
  cases party with
  | owner =>
    have atPass := passAt?_owner.1 running
    cases passAnswer?_owner.1 told
    have stepped : m.pass destination pass answer = some (m', result) := by
      simpa only [Machine.step, ownerStep, atPass] using h
    obtain ⟨⟨hub, progress⟩, moved, same⟩ := Option.map_eq_some_iff.1 stepped
    cases progress <;> cases same <;>
      exact ⟨_, found _ _ moved, Hub.passMove_of_pass moved, rfl, fun _ => rfl⟩
  | watcher =>
    obtain ⟨watcher, atPass⟩ := passAt?_watcher.1 running
    cases passAnswer?_watcher.1 told
    obtain ⟨next, stepped, same⟩ := Option.map_eq_some_iff.1 h
    cases same
    rw [watcherStep, atPass] at stepped
    obtain ⟨⟨hub, progress⟩, moved, same⟩ := Option.map_eq_some_iff.1 stepped
    cases progress <;> cases same <;>
      exact ⟨_, found _ _ moved, Hub.passMove_of_pass moved, rfl, nofun⟩

/-- A party whose pass is past the lock holds it. So the two parties are never both past it. -/
theorem SingleFlight.lock_of_passAt (h : m.SingleFlight) {destination : String} {pass : Pass}
    (running : m.passAt? party = some (destination, pass)) (held : pass.holdsLock = true) :
    m.hub.lock = some party := by
  cases party with
  | owner =>
    refine h.ownerLock.2 ?_
    rw [passAt?_owner.1 running]
    cases pass <;> first | rfl | cases held
  | watcher =>
    obtain ⟨watcher, atPass⟩ := passAt?_watcher.1 running
    exact h.watcherLock.2 ⟨pass, by rw [watcherPass?, atPass]; rfl, held⟩

/-- No batch is under way when the slot is empty and the batch that the owner waits for is over. -/
theorem SingleFlight.isOver_of_clear (h : m.SingleFlight) (empty : m.hub.slot = none)
    (joined : ∀ number, m.owner.joining? = some number → m.hub.isOver number = true) :
    ∀ worker ∈ m.hub.batches, worker.isOver = true := by
  intro worker member
  obtain ⟨number, found⟩ := List.getElem?_of_mem member
  rw [← Bool.not_eq_false]
  intro active
  rcases h.inFlight number worker found active with handle | taken
  · rw [empty] at handle
    cases handle
  · exact Hub.ne_of_isOver (joined number taken) found active rfl

/-- No batch is under way once a pass has looked at the slot. The batch whose handle was in the slot
was over, and there was no other one. -/
theorem SingleFlight.isOver_of_isPast (h : m.SingleFlight) {destination : String} {pass : Pass}
    (running : m.passAt? party = some (destination, pass)) (past : pass.isPast = true) :
    ∀ worker ∈ m.hub.batches, worker.isOver = true := by
  have lock := h.lock_of_passAt running (Pass.holdsLock_of_isPast past)
  have clear : m.hub.slot = none ∧ m.owner.joining? = none := by
    cases party with
    | owner =>
      have atPass := passAt?_owner.1 running
      exact ⟨h.ownerClear pass (by rw [atPass]; rfl) past, by rw [atPass]; rfl⟩
    | watcher =>
      obtain ⟨watcher, atPass⟩ := passAt?_watcher.1 running
      refine ⟨h.watcherClear pass (by rw [watcherPass?, atPass]; rfl) past, ?_⟩
      refine (not_holdsLock (Bool.eq_false_iff.2 fun mine => ?_)).1
      rw [h.ownerLock.2 mine] at lock
      cases lock
  refine h.isOver_of_clear clear.1 fun number taken => ?_
  rw [clear.2] at taken
  cases taken

/-- When no batch is under way, the batches stay as they are until a pass starts one. That is why
what a pass has seen still holds when it acts on it. -/
theorem Transition.batches_eq (moved : m.Transition label m' result)
    (allOver : ∀ worker ∈ m.hub.batches, worker.isOver = true)
    (idle : ∀ party destination actions, m.passAt? party = some (destination, .launching actions) →
      label.passAnswer? party = none) : m'.hub.batches = m.hub.batches := by
  cases moved with
  | pass atPass moved =>
    cases moved with
    | launch => cases idle .owner _ _ (passAt?_owner.2 atPass)
    | _ => rfl
  | watch atPass moved =>
    cases moved with
    | launch => cases idle .watcher _ _ (passAt?_watcher.2 ⟨_, atPass⟩)
    | _ => rfl
  | cancel =>
    refine List.ext_getElem? fun number => ?_
    show m.hub.cancelPublished.batches[number]? = m.hub.batches[number]?
    unfold Hub.cancelPublished
    split
    · rw [List.getElem?_modify]
      cases found : m.hub.batches[number]? with
      | none => rfl
      | some worker =>
        rw [Option.map_eq_map, Option.map_some,
          Worker.cancel_of_isOver (allOver worker (List.mem_of_getElem? found)), ite_self]
    · rfl
  | work found stepped =>
    have atEnd := allOver _ (List.mem_of_getElem? found)
    rw [Worker.isOver_of_step stepped] at atEnd
    cases atEnd
  | _ => rfl

end Machine

/-- A step of a pass that asks the catalog for nothing and touches nothing but the lock. Giving up
at the lock is such a step as well. -/
def PassStep.IsSilent (step : PassStep) : Prop :=
  step.answer = .proceed ∧ ∃ lock, step.after = { step.before with lock }

/-- What a pass has done that has found some actions. No batch has been started since its beginning
and none is under way, and there was one comparison of the catalog with the change cache. So the
actions are those of the cache as all batches have left it. -/
structure Compared (steps : List PassStep) (actions : List (String × Action))
    (batches : List Worker) : Prop where
  ne_nil : actions ≠ []
  allOver : ∀ worker ∈ batches, worker.isOver = true
  still : ∀ step ∈ steps, step.after.batches = step.before.batches
  comparison : ∃ step ∈ steps, ∃ keys, step.answer = .keys (.ok keys) ∧
    step.before.batches = batches ∧ actions = difference keys step.before.cache.keys ∧
    ∀ other ∈ steps, ∀ keys', other.answer = .keys (.ok keys') → other = step

/-- What a pass has done that has started a batch of some number of actions: it has added one batch,
by its last step, and the actions are those of its comparison. -/
def Launches (steps : List PassStep) (count : Nat) : Prop :=
  ∃ earlier launch actions, steps = earlier ++ [launch] ∧
    Compared earlier actions launch.before.batches ∧ 0 < count ∧ count = actions.length ∧
    launch.after.batches = launch.before.batches ++
      [{ number := launch.before.batches.length
         destination := launch.destination
         pending := actions }]

/-- What the steps so far tell about a pass that is to go on. It is by stage, as each stage has more
behind it than the one before. -/
def Pass.Told (steps : List PassStep) (batches : List Worker) : Pass → Prop
  | entering => True
  | inspecting => ∀ step ∈ steps, step.IsSilent
  | reopening | listing => ∀ step ∈ steps, step.after.batches = step.before.batches ∧
      ∀ keys, step.answer ≠ .keys (.ok keys)
  | lowering actions | launching actions => Compared steps actions batches

theorem PassStep.getLast?_follow (step : PassStep) (steps : List PassStep) :
    (step.follow steps).getLast? = some step := by
  unfold follow
  split <;> simp

/-- A pass that has found some actions goes on without another comparison. It acts on the actions
that it has found, even if the catalog has changed since. -/
theorem Compared.concat {steps : List PassStep} {actions : List (String × Action)}
    {batches : List Worker} {step : PassStep} (h : Compared steps actions batches)
    (still : step.after.batches = step.before.batches)
    (other : ∀ keys, step.answer ≠ .keys (.ok keys)) :
    Compared (steps ++ [step]) actions batches := by
  obtain ⟨compare, member, keys, answer, before, difference, only⟩ := h.comparison
  refine ⟨h.ne_nil, h.allOver, ?_, compare, List.mem_append_left _ member, keys, answer, before,
    difference, ?_⟩
  · exact List.forall_mem_append.2 ⟨h.still, List.forall_mem_singleton.2 still⟩
  · exact List.forall_mem_append.2 ⟨only, List.forall_mem_singleton.2 fun keys' told =>
      absurd told (other keys')⟩

/-- A step of a pass goes on as its stages tell, or ends the pass in accordance with its verdict.
The comparison is found at the one step that reads the keys, and the later stages carry it along. -/
theorem Hub.PassMove.told {hub hub' : Hub} {party : Party} {destination : String} {pass : Pass}
    {answer : CatalogAnswer} {progress : PassProgress} {steps : List PassStep} {step : PassStep}
    (moved : PassMove hub party destination pass answer hub' progress)
    (same : step = ⟨hub, destination, pass, answer, hub', progress⟩)
    (told : pass.Told steps hub.batches)
    (allOver : pass.isPast = true → ∀ worker ∈ hub.batches, worker.isOver = true) :
    (∀ next, progress.pass? = some next → next.Told (step.follow steps) hub'.batches) ∧
      (progress = .ended (.ok .busy) → ∀ s ∈ step.follow steps, s.IsSilent) ∧
      ∀ count, progress = .ended (.ok (.started count)) → Launches (step.follow steps) count := by
  subst same
  have begins : pass = .entering →
      PassStep.follow ⟨hub, destination, pass, answer, hub', progress⟩ steps =
        [⟨hub, destination, pass, answer, hub', progress⟩] := fun first => if_pos first
  have goesOn : pass ≠ .entering →
      PassStep.follow ⟨hub, destination, pass, answer, hub', progress⟩ steps =
        steps ++ [⟨hub, destination, pass, answer, hub', progress⟩] := fun later => if_neg later
  -- A silent step is one of those that leave the batches alone.
  have calm : ∀ s : PassStep, s.IsSilent →
      s.after.batches = s.before.batches ∧ ∀ keys, s.answer ≠ .keys (.ok keys) := by
    rintro s ⟨proceed, lock, after⟩
    rw [proceed, after]
    exact ⟨rfl, nofun⟩
  cases moved with
  | giveUp =>
    rw [begins rfl]
    exact ⟨nofun, fun _ => List.forall_mem_singleton.2 ⟨rfl, hub.lock, rfl⟩, nofun⟩
  | enter =>
    rw [begins rfl]
    refine ⟨?_, nofun, nofun⟩
    rintro _ ⟨⟩
    exact List.forall_mem_singleton.2 ⟨rfl, some party, rfl⟩
  | findEmpty | collect =>
    rw [goesOn nofun]
    refine ⟨?_, nofun, nofun⟩
    rintro _ ⟨⟩
    exact List.forall_mem_append.2 ⟨fun s member => calm s (told s member),
      List.forall_mem_singleton.2 ⟨rfl, nofun⟩⟩
  | findActive =>
    rw [goesOn nofun]
    refine ⟨nofun, fun _ => ?_, nofun⟩
    exact List.forall_mem_append.2 ⟨told, List.forall_mem_singleton.2 ⟨rfl, none, rfl⟩⟩
  | reopen =>
    rw [goesOn nofun]
    refine ⟨?_, nofun, nofun⟩
    rintro _ ⟨⟩
    exact List.forall_mem_append.2 ⟨told, List.forall_mem_singleton.2 ⟨rfl, nofun⟩⟩
  | lose | failToOpen | failToList | failToLaunch | agree => exact ⟨nofun, nofun, nofun⟩
  | @differ keys differing =>
    rw [goesOn nofun]
    refine ⟨?_, nofun, nofun⟩
    rintro _ ⟨⟩
    refine ⟨differing, allOver rfl, ?_, _, List.mem_append_right _ (List.mem_singleton_self _),
      keys, rfl, rfl, rfl, ?_⟩
    · exact List.forall_mem_append.2
        ⟨fun s member => (told s member).1, List.forall_mem_singleton.2 rfl⟩
    · exact List.forall_mem_append.2 ⟨fun s member keys' asked =>
        absurd asked ((told s member).2 keys'), List.forall_mem_singleton.2 fun _ _ => rfl⟩
  | lower =>
    rw [goesOn nofun]
    refine ⟨?_, nofun, nofun⟩
    rintro _ ⟨⟩
    exact Compared.concat told rfl nofun
  | @launch actions =>
    rw [goesOn nofun]
    refine ⟨nofun, nofun, ?_⟩
    rintro _ ⟨⟩
    have compared : Compared steps actions hub.batches := told
    exact ⟨steps, _, actions, rfl, compared, List.length_pos_iff.2 compared.ne_nil, rfl, rfl⟩

namespace Machine

variable {m m' : Machine} {label : Label} {result : Option Return} {party : Party}
  {steps : List PassStep}

/-- What the steps of a party's latest pass tell, whether it goes on or has ended. A pass that has
ended is kept until the next one begins, for its verdict is asked about afterwards. -/
structure HasPassed (m : Machine) (party : Party) (steps : List PassStep) : Prop where
  told : ∀ destination pass, m.passAt? party = some (destination, pass) →
    pass.Told steps m.hub.batches
  busy : ∀ last, steps.getLast? = some last → last.progress = .ended (.ok .busy) →
    ∀ step ∈ steps, step.IsSilent
  started : ∀ last count, steps.getLast? = some last →
    last.progress = .ended (.ok (.started count)) → Launches steps count

namespace HasPassed

/-- A step of the party's pass. -/
theorem follow (h : m.HasPassed party steps) (sound : m.SingleFlight) {step : PassStep}
    {destination : String} {pass : Pass} {answer : CatalogAnswer} {progress : PassProgress}
    (same : step = ⟨m.hub, destination, pass, answer, m'.hub, progress⟩)
    (running : m.passAt? party = some (destination, pass))
    (moved : Hub.PassMove m.hub party destination pass answer m'.hub progress)
    (after : m'.passAt? party = progress.pass?.map (destination, ·)) :
    m'.HasPassed party (step.follow steps) := by
  obtain ⟨told, busy, started⟩ := moved.told same (h.told destination pass running)
    (sound.isOver_of_isPast running)
  have last : ∀ last, (step.follow steps).getLast? = some last → last.progress = progress := by
    intro last found
    rw [step.getLast?_follow] at found
    cases found
    rw [same]
  refine ⟨fun destination' pass' there => ?_, fun s found ended => ?_,
    fun s count found ended => ?_⟩
  · rw [after] at there
    obtain ⟨next, goesOn, pair⟩ := Option.map_eq_some_iff.1 there
    cases pair
    exact told pass' goesOn
  · exact busy ((last s found).symm.trans ended)
  · exact started count ((last s found).symm.trans ended)

/-- A step that is none of the party's pass. It may be one of the other party's pass, or of a
worker; the lock keeps these from mattering. -/
theorem stay (h : m.HasPassed party steps) (sound : m.SingleFlight)
    (moved : m.Transition label m' result)
    (other : m.passAt? party = none ∨ label.passAnswer? party = none) :
    m'.HasPassed party steps := by
  refine ⟨fun destination pass there => ?_, h.busy, h.started⟩
  rcases moved.passAt?_cases other there with rfl | running
  · trivial
  · have before := h.told destination pass running
    -- Only what is to be launched is told with the batches, and those stay as they are meanwhile.
    have same : pass.isPast = true → m'.hub.batches = m.hub.batches := by
      intro past
      refine moved.batches_eq (sound.isOver_of_isPast running past) ?_
      intro party' destination' actions launching
      have mine := sound.lock_of_passAt running (Pass.holdsLock_of_isPast past)
      have theirs := sound.lock_of_passAt launching rfl
      rw [mine] at theirs
      cases theirs
      rcases other with none | none
      · rw [running] at none
        cases none
      · exact none
    cases pass with
    | lowering actions | launching actions =>
      show Compared steps actions m'.hub.batches
      rw [same rfl]
      exact before
    | _ => exact before

end HasPassed

end Machine

namespace Diary

variable {diary diary' : Diary} {label : Label} {labels : List Label} {config : Config}
  {client : Store.Client} {cache : Cache} {disk : Disk}

theorem pass_start (party : Party) : (start config client cache disk).pass party = [] :=
  rfl

/-- The latest pass goes on when its party takes a step of it. -/
theorem pass_write {entry : Entry} {entries : List Entry} {m m' : Machine} (party : Party) :
    pass ⟨m', entries ++ [entry]⟩ party =
      match entry.passStep? party with
      | some step => step.follow (pass ⟨m, entries⟩ party)
      | none => pass ⟨m, entries⟩ party := by
  unfold pass
  rw [List.filterMap_append, List.foldl_append]
  cases found : entry.passStep? party <;> simp [found]

/-- What holds of every diary: the latest passes are as their steps tell. Owner and watcher are
treated alike, since a pass is the same for both. -/
structure IsPassing (diary : Diary) : Prop where
  sound : diary.machine.SingleFlight
  passed : ∀ party, diary.machine.HasPassed party (diary.pass party)

namespace IsPassing

theorem start : (Diary.start config client cache disk).IsPassing where
  sound := .make
  passed party := by
    rw [pass_start]
    refine ⟨fun destination pass running => ?_, fun last found => ?_, fun last count found => ?_⟩
    · cases party <;> cases running
    · cases found
    · cases found

/-- Every step keeps what holds of the latest passes. -/
theorem write (h : diary.IsPassing) (written : diary.write label = some diary') :
    diary'.IsPassing := by
  obtain ⟨after, result, stepped, rfl⟩ := write_eq_some written
  have moved := Machine.transition_of_step stepped
  refine ⟨h.sound.step moved, fun party => ?_⟩
  have passed := h.passed party
  rw [pass_write party]
  cases running : diary.machine.passAt? party with
  | none =>
    have none : Entry.passStep? ⟨diary.machine, label, after, result⟩ party = none := by
      simp [Entry.passStep?, running]
    rw [none]
    exact passed.stay h.sound moved (.inl running)
  | some there =>
    obtain ⟨destination, pass⟩ := there
    cases told : label.passAnswer? party with
    | none =>
      have none : Entry.passStep? ⟨diary.machine, label, after, result⟩ party = none := by
        simp [Entry.passStep?, running, told]
      rw [none]
      exact passed.stay h.sound moved (.inr told)
    | some answer =>
      obtain ⟨progress, found, move, after, -⟩ :=
        Machine.passStep?_of_running stepped running told
      rw [found]
      exact passed.follow h.sound rfl running move after

end IsPassing

/-- A call that returns a verdict has run a pass that has come to it. The pass may have begun many
steps before, with workers and the watcher in between. -/
theorem exists_pass_of_passed {after : Machine} {verdict : Verdict}
    (returned : diary.machine.step label = some (after, some (.passed (.ok verdict)))) :
    ∃ diary' last, diary.write label = some diary' ∧
      (diary'.pass .owner).getLast? = some last ∧ last.progress = .ended (.ok verdict) := by
  have owner : ∃ destination pass told, diary.machine.owner = .passing destination pass ∧
      label = .owner (.catalog told) := by
    rcases Machine.return_cases returned with
      ⟨fault, other | other⟩ | ⟨destination, pass, told, _, atPass, own, -⟩ | ⟨-, _, other⟩
    · cases other
    · cases other
    · exact ⟨destination, pass, told, atPass, own⟩
    · cases other
  obtain ⟨destination, pass, told, atPass, rfl⟩ := owner
  obtain ⟨progress, found, -, -, same⟩ :=
    Machine.passStep?_of_running returned (Machine.passAt?_owner.2 atPass) rfl
  refine ⟨_, ⟨diary.machine.hub, destination, pass, told, after.hub, progress⟩,
    by rw [write, returned]; rfl, ?_, ?_⟩
  · rw [pass_write .owner, found]
    exact PassStep.getLast?_follow _ (Diary.pass ⟨diary.machine, diary.entries⟩ .owner)
  · have ended := same rfl
    cases progress with
    | reached => cases ended
    | ended result =>
      cases ended
      rfl

end Diary

end PreviewSync.Sync
