import PreviewSync.Proofs.Sync.Diary
import PreviewSync.Proofs.Sync.UpToDate

/-!
# The order of the reports

A report is where its batch is: under way or over with its handle in the slot, taken out by an owner
who waits for it, or put aside by a pass that found the batch over. It leaves each of these places
for one other place only, so it is returned once at most. The place aside holds one report and keeps
it while later batches are started and collected, so the report of an earlier batch can come after
that of a later one.

## Main Definitions

* `Mark`, `Diary.marks` — batches that are started, reports that are put aside or returned
* `Handles`, `Handles.Move` — the places of the reports, and what can be done to them
* `Handles.InOrder` — what the places tell about the marks, with `Handles.InOrder.move`
* `Machine.handles_of_step` — every step of a machine is a move of its handles
* `Diary.report_of_collected` — which report a call returns
-/

namespace PreviewSync.Sync

open Store (Client)

/-- Something that concerns the report of a batch. Batches are numbered in the order of their
beginning, so the marks of a run tell which report is the latest. -/
inductive Mark where
  /-- The batch is started. -/
  | started (number : Nat)
  /-- A pass puts the report aside. -/
  | shelved (number : Nat)
  /-- A call returns the report. -/
  | returned (number : Nat)
deriving Repr, DecidableEq

namespace Hub

/-- The batch that is started from one moment to the next. Batches are never taken away, so a
growing number of them means a start. -/
def started (before after : Hub) : List Mark :=
  if before.batches.length < after.batches.length then [.started before.batches.length] else []

/-- The report that is put aside from one moment to the next. A report that stays where it was put
leaves no second mark. -/
def shelved (before after : Hub) : List Mark :=
  match after.lastReport with
  | some collected =>
    if before.lastReport = some collected then [] else [.shelved collected.number]
  | none => []

/-- The marks of a change of the hub. A step may both put a report aside and return one, so there
can be several. -/
def marks (before after : Hub) : List Mark :=
  before.started after ++ before.shelved after

end Hub

/-- The report that a call returns. -/
def Return.marks : Return → List Mark
  | .collected (.ok (some report)) => [.returned report.number]
  | _ => []

/-- The marks of a step. -/
def Entry.marks (entry : Entry) : List Mark :=
  entry.before.hub.marks entry.after.hub ++ (entry.result.map Return.marks).getD []

/-- The marks of all steps in order. The order of starts and of returns is read off here, and not
off the machine. -/
def Diary.marks (diary : Diary) : List Mark :=
  diary.entries.flatMap Entry.marks

/-! ### The places of the reports -/

/-- How many batches have been started, and where the reports are that were not returned: in the
slot, with an owner who waits for the end of the batch, or aside. It is all of a machine that the
order of reports depends on. -/
structure Handles where
  started : Nat
  slot : Option Nat
  joining : Option Nat
  aside : Option Nat

/-- The places of the reports of a hub, and the batch that the owner waits for. -/
def Hub.handles (hub : Hub) (joining : Option Nat) : Handles where
  started := hub.batches.length
  slot := hub.slot
  joining := joining
  aside := hub.lastReport.map (·.number)

/-- The places of the reports of a machine. -/
def Machine.handles (m : Machine) : Handles :=
  m.hub.handles m.owner.joining?

namespace Handles

/-- What can be done to the places of the reports, and the marks that it leaves. A machine has many
more steps, and all others keep the places as they are. -/
inductive Move (h : Handles) : List Mark → Handles → Prop
  | keep : Move h [] h
  | start (empty : h.slot = none) (free : h.joining = none) :
      Move h [.started h.started] { h with started := h.started + 1, slot := some h.started }
  | shelve {number : Nat} (full : h.slot = some number) (free : h.joining = none) :
      Move h [.shelved number] { h with slot := none, aside := some number }
  | lose : Move h [] { h with slot := none }
  | take {number : Nat} (full : h.slot = some number) :
      Move h [] { h with slot := none, joining := some number }
  | pickUp (empty : h.slot = none) (free : h.joining = none) :
      Move h (h.aside.map .returned).toList { h with aside := none }
  | join {number : Nat} (full : h.joining = some number) (empty : h.slot = none) :
      Move h [.returned number] { h with joining := none }
  | loseJoined : Move h [] { h with joining := none }

/-- What the places of the reports tell about the marks so far. The report aside was put there after
all others that were, and the batches after its own have been started since. So a report that is
returned from aside is the latest that was put there, and may still be older than one that was
returned. -/
structure InOrder (h : Handles) (marks : List Mark) : Prop where
  returned : ∀ n, .returned n ∈ marks → n < h.started
  slot : ∀ n, h.slot = some n → n + 1 = h.started ∧ .returned n ∉ marks
  joining : ∀ n, h.joining = some n → n + 1 = h.started ∧ .returned n ∉ marks
  aside : ∀ n, h.aside = some n →
    n < h.started ∧ .returned n ∉ marks ∧ h.slot ≠ some n ∧ h.joining ≠ some n ∧
      ∃ before since, marks = before ++ .shelved n :: since ∧ (∀ k, .shelved k ∉ since) ∧
        ∀ k, n < k → k < h.started → .started k ∈ since

namespace InOrder

variable {h h' : Handles} {marks new : List Mark}

/-- Before the first batch there is nothing to tell. -/
theorem start : InOrder ⟨0, none, none, none⟩ [] where
  returned := nofun
  slot := nofun
  joining := nofun
  aside := nofun

/-- The report aside is still the last one that was put there when it is not the report of a batch
that is started, put aside or returned. -/
theorem since_append {n started : Nat} {new : List Mark}
    (h : ∃ before since, marks = before ++ .shelved n :: since ∧ (∀ k, .shelved k ∉ since) ∧
      ∀ k, n < k → k < started → .started k ∈ since) (noneAside : ∀ k, .shelved k ∉ new)
    {started' : Nat} (newer : ∀ k, started ≤ k → k < started' → .started k ∈ new) :
    ∃ before since, marks ++ new = before ++ .shelved n :: since ∧ (∀ k, .shelved k ∉ since) ∧
      ∀ k, n < k → k < started' → .started k ∈ since := by
  obtain ⟨before, since, rfl, last, all⟩ := h
  refine ⟨before, since ++ new, ?_, fun k member => ?_, fun k later bound => ?_⟩
  · rw [List.append_assoc, List.cons_append]
  · rcases List.mem_append.1 member with old | recent
    · exact last k old
    · exact noneAside k recent
  · by_cases known : k < started
    · exact List.mem_append_left _ (all k later known)
    · exact List.mem_append_right _ (newer k (Nat.le_of_not_lt known) bound)

/-- Every move keeps the places and the marks in order. Only the beginning of a batch adds to the
numbers there are, and only a report put aside changes which one is there, so these two cases carry
the proof. -/
theorem move (order : h.InOrder marks) (moved : h.Move new h') : h'.InOrder (marks ++ new) := by
  cases moved with
  | keep =>
    rw [List.append_nil]
    exact order
  -- The new batch has the largest number of all, so no report returned or put aside is its own.
  | start empty free =>
    refine ⟨fun n member => ?_, fun n full => ?_, fun n full => ?_, fun n full => ?_⟩
    · have earlier := order.returned n (by simpa using member)
      exact Nat.lt_succ_of_lt earlier
    · cases full
      refine ⟨rfl, fun member => ?_⟩
      have earlier := order.returned h.started (by simpa using member)
      exact Nat.lt_irrefl _ earlier
    · rw [show h.joining = some n from full] at free
      cases free
    · obtain ⟨bound, unread, -, apart, since⟩ := order.aside n full
      refine ⟨Nat.lt_succ_of_lt bound, by simpa using unread, ?_, apart,
        since_append since (by simp) fun k least most => ?_⟩
      · rintro ⟨⟩
        exact Nat.lt_irrefl _ bound
      · rw [Nat.le_antisymm (Nat.le_of_lt_succ most) least]
        exact List.mem_singleton_self _
  -- The report in the slot is that of the latest batch, so nothing is started since it is put
  -- aside.
  | @shelve number full free =>
    obtain ⟨last, unread⟩ := order.slot number full
    refine ⟨fun n member => order.returned n (by simpa using member), nofun, fun n joins => ?_,
      fun n rests => ?_⟩
    · rw [show h.joining = some n from joins] at free
      cases free
    · cases rests
      refine ⟨Nat.lt_of_succ_le (Nat.le_of_eq last), by simpa using unread, nofun, ?_,
        marks, [], rfl, nofun, fun k later bound => ?_⟩
      · rw [free]
        nofun
      · rw [← last] at bound
        exact absurd later (Nat.not_lt.2 (Nat.le_of_lt_succ bound))
  | lose =>
    rw [List.append_nil]
    refine ⟨order.returned, nofun, order.joining, fun n rests => ?_⟩
    obtain ⟨bound, unread, -, apart, since⟩ := order.aside n rests
    exact ⟨bound, unread, nofun, apart, since⟩
  -- The report is only moved: as it was not aside while in the slot, it is not aside now.
  | @take number full =>
    rw [List.append_nil]
    refine ⟨order.returned, nofun, fun n joins => ?_, fun n rests => ?_⟩
    · cases joins
      exact order.slot number full
    · obtain ⟨bound, unread, apart, -, since⟩ := order.aside n rests
      refine ⟨bound, unread, nofun, ?_, since⟩
      rwa [full] at apart
  | pickUp empty free =>
    refine ⟨fun n member => ?_, fun n full => ?_, fun n joins => ?_, nofun⟩
    · rcases List.mem_append.1 member with old | recent
      · exact order.returned n old
      · have rests : h.aside = some n := by simpa using recent
        exact (order.aside n rests).1
    · rw [show h.slot = some n from full] at empty
      cases empty
    · rw [show h.joining = some n from joins] at free
      cases free
  -- What is returned is the report of the latest batch, and the one aside is another.
  | @join number full empty =>
    obtain ⟨last, unread⟩ := order.joining number full
    refine ⟨fun n member => ?_, fun n held => ?_, nofun, fun n rests => ?_⟩
    · rcases List.mem_append.1 member with old | recent
      · exact order.returned n old
      · cases List.mem_singleton.1 recent
        exact Nat.lt_of_succ_le (Nat.le_of_eq last)
    · rw [show h.slot = some n from held] at empty
      cases empty
    · obtain ⟨bound, unread', notSlot, apart, since⟩ := order.aside n rests
      refine ⟨bound, ?_, notSlot, nofun,
        since_append since (by simp) fun k least most => absurd most (Nat.not_lt.2 least)⟩
      have other : n ≠ number := by
        rintro rfl
        exact apart full
      simpa [other] using unread'
  | loseJoined =>
    rw [List.append_nil]
    refine ⟨order.returned, order.slot, nofun, fun n rests => ?_⟩
    obtain ⟨bound, unread, notSlot, -, since⟩ := order.aside n rests
    exact ⟨bound, unread, notSlot, nofun, since⟩

end InOrder

end Handles

/-! ### The steps of a machine -/

namespace Hub

variable {hub hub' : Hub} {joining joining' : Option Nat}

/-- A report has the number of its batch. -/
theorem result_eq_ok {number : Nat} {collected : Collected}
    (h : hub.result number = .ok collected) :
    collected.number = number ∧
      ∃ worker, hub.batch? number = some worker ∧ worker.result? = some collected.report := by
  unfold result at h
  split at h
  · rename_i report left
    cases h
    obtain ⟨worker, found, ended⟩ := Option.bind_eq_some_iff.1 left
    exact ⟨rfl, worker, found, ended⟩
  · cases h

/-- Without a new batch and a new report aside there are no marks. -/
theorem marks_eq_nil (length : hub'.batches.length = hub.batches.length)
    (report : hub'.lastReport = hub.lastReport ∨ hub'.lastReport = none) :
    hub.marks hub' = [] := by
  have noneStarted : hub.started hub' = [] := by
    rw [started, if_neg (Nat.not_lt.2 (Nat.le_of_eq length))]
  have noneShelved : hub.shelved hub' = [] := by
    unfold shelved
    split
    · rename_i collected aside
      rcases report with kept | gone
      · rw [if_pos (kept.symm.trans aside)]
      · rw [gone] at aside
        cases aside
    · rfl
  rw [marks, noneStarted, noneShelved]
  rfl

/-- What moves the handles without a mark. -/
theorem move_of_kept (length : hub'.batches.length = hub.batches.length)
    (report : hub'.lastReport = hub.lastReport)
    (moved : (hub.handles joining).Move [] (hub'.handles joining')) :
    (hub.handles joining).Move (hub.marks hub') (hub'.handles joining') := by
  rw [marks_eq_nil length (.inl report)]
  exact moved

/-- A step of a pass moves the handle in the slot to the place aside, or starts a batch when neither
the slot nor the owner has one. A report that is put aside replaces the one that was there, which is
then never returned. -/
theorem PassMove.handles {party : Party} {destination : String} {pass : Pass}
    {answer : CatalogAnswer} {progress : PassProgress}
    (moved : PassMove hub party destination pass answer hub' progress)
    (free : pass.holdsLock = true → joining = none) (clear : pass.isPast = true → hub.slot = none)
    (apart : ∀ number, hub.slot = some number → (hub.handles joining).aside ≠ some number) :
    (hub.handles joining).Move (hub.marks hub') (hub'.handles joining) := by
  cases moved with
  | @collect number collected full atEnd result =>
    obtain ⟨rfl, -⟩ := result_eq_ok result
    -- The batch in the slot is not that of the report aside, so putting its report aside leaves a
    -- mark.
    have fresh : hub.lastReport ≠ some collected := by
      intro aside
      refine apart collected.number full ?_
      rw [Hub.handles, aside]
      rfl
    have mark : hub.marks { hub with slot := none, lastReport := some collected } =
        [.shelved collected.number] := by
      simp [marks, started, shelved, fresh]
    rw [mark]
    exact .shelve full (free rfl)
  | lose => exact move_of_kept rfl rfl .lose
  | @launch actions =>
    have mark : hub.marks
        { hub with
          batches := hub.batches ++
            [{ number := hub.batches.length, destination, pending := actions }]
          slot := some hub.batches.length
          lock := none } = [.started hub.batches.length] := by
      cases aside : hub.lastReport <;> simp [marks, started, shelved, aside]
    have one : (hub.batches ++
        [({ number := hub.batches.length, destination, pending := actions } : Worker)]).length =
          hub.batches.length + 1 := List.length_append
    rw [mark, Hub.handles, Hub.handles]
    dsimp only
    rw [one]
    exact .start (clear rfl) (free rfl)
  | _ => exact move_of_kept rfl rfl .keep

end Hub

namespace Machine

variable {m m' : Machine} {label : Label} {result : Option Return}

/-- A report is returned only to an owner who waits for the lock or for the end of a batch. -/
theorem owner_of_collected {report : Option Collected}
    (h : m.step label = some (m', some (.collected (.ok report)))) :
    m.owner = .waiting ∨ ∃ number, m.owner = .joining number := by
  rcases return_cases h with ⟨fault, other | other⟩ | ⟨_, _, _, _, -, -, other⟩ | ⟨here, -⟩
  · cases other
  · cases other
  · cases other
  · exact here

/-- What a call returns is the report aside, or that of the batch whose end was waited for. An owner
that has taken a handle never looks aside, so an older report stays there until the next call. -/
theorem collected_cases {report : Option Collected}
    (h : m.step label = some (m', some (.collected (.ok report)))) :
    (m.owner = .waiting ∧ m.hub.slot = none ∧ report = m.hub.lastReport ∧
      m' = { m with hub.slot := none, hub.lastReport := none, owner := .resting }) ∨
    ∃ number collected, m.owner = .joining number ∧ m.hub.isOver number = true ∧
      m.hub.result number = .ok collected ∧ report = some collected ∧
      m' = { m with hub.lock := none, owner := .resting } := by
  have late : m.owner ≠ .resting ∧ m.owner.isBeginning = false ∧
      ∀ destination pass, m.owner ≠ .passing destination pass := by
    rcases owner_of_collected h with waiting | ⟨number, joining⟩
    · rw [waiting]
      exact ⟨nofun, rfl, nofun⟩
    · rw [joining]
      exact ⟨nofun, rfl, nofun⟩
  obtain ⟨notResting, notBeginning, notPassing⟩ := late
  have moved := transition_of_step h
  generalize returned : some (Return.collected (.ok report)) = answer at moved
  cases moved with
  | wander before =>
    rw [notBeginning] at before
    exact absurd before (not_or_intro notResting nofun)
  | load atLoad =>
    rw [atLoad] at notBeginning
    cases notBeginning
  | pass atPass => exact absurd atPass (notPassing _ _)
  | findNothing waiting empty =>
    cases returned
    exact .inl ⟨waiting, empty, rfl, rfl⟩
  | @join number joining atEnd =>
    cases ended : m.hub.result number with
    | ok collected =>
      rw [ended] at returned
      cases returned
      exact .inr ⟨number, collected, joining, atEnd, ended, rfl, rfl⟩
    | error fault =>
      rw [ended] at returned
      cases returned
  | _ => cases returned

/-- Without a report that is returned all marks come from the hub. -/
theorem move_of_silent (silent : (result.map Return.marks).getD [] = [])
    (moved : m.handles.Move (m.hub.marks m'.hub) m'.handles) :
    m.handles.Move (Entry.marks ⟨m, label, m', result⟩) m'.handles := by
  rw [Entry.marks, silent, List.append_nil]
  exact moved

/-- What leaves all reports where they are. -/
theorem move_of_still (length : m'.hub.batches.length = m.hub.batches.length)
    (report : m'.hub.lastReport = m.hub.lastReport) (slot : m'.hub.slot = m.hub.slot)
    (joining : m'.owner.joining? = m.owner.joining?) :
    m.handles.Move (m.hub.marks m'.hub) m'.handles := by
  have same : m'.handles = m.handles := by
    rw [handles, handles, Hub.handles, Hub.handles, length, report, slot, joining]
  rw [Hub.marks_eq_nil length (.inl report), same]
  exact .keep

/-- Every step of a machine is a move of its handles. What is proved of the order of reports
afterwards is proved of the moves, which are eight, and not of the steps. -/
theorem handles_of_step (sound : m.SingleFlight)
    (apart : ∀ number, m.hub.slot = some number → m.handles.aside ≠ some number)
    (h : m.step label = some (m', result)) :
    m.handles.Move (Entry.marks ⟨m, label, m', result⟩) m'.handles := by
  -- Elsewhere than at the two points where a report is returned there is none.
  have silent : m.owner ≠ .waiting → (∀ number, m.owner ≠ .joining number) →
      (result.map Return.marks).getD [] = [] := by
    intro notWaiting notJoining
    cases result with
    | none => rfl
    | some result =>
      rcases result with _ | fault | _ | report
      all_goals try rfl
      rcases owner_of_collected h with waiting | ⟨number, joining⟩
      · exact absurd waiting notWaiting
      · exact absurd joining (notJoining number)
  cases transition_of_step h with
  -- A point between calls, or of a beginning, is none of the two where a report is returned.
  | wander before after =>
    have notWaiting : m.owner ≠ .waiting := by
      intro waiting
      rw [waiting] at before
      rcases before with ⟨⟨⟩⟩ | ⟨⟨⟩⟩
    have notJoining : ∀ number, m.owner ≠ .joining number := by
      intro number joining
      rw [joining] at before
      rcases before with ⟨⟨⟩⟩ | ⟨⟨⟩⟩
    have free : m.owner.joining? = none := by
      cases owner : m.owner <;> first | rfl | exact absurd owner (notJoining _)
    refine move_of_silent (silent notWaiting notJoining) (move_of_still rfl rfl rfl ?_)
    rw [free]
    exact (SingleFlight.not_holdsLock after).1
  | leave running resting =>
    exact move_of_silent rfl (move_of_still rfl rfl rfl (by rw [resting]; rfl))
  | load atLoad loaded next other =>
    refine move_of_silent (silent (by rw [atLoad]; nofun) (by rw [atLoad]; nofun))
      (move_of_still rfl rfl rfl ?_)
    rw [atLoad]
    rcases next with rfl | rfl <;> rfl
  | arm atArm => exact move_of_silent rfl (move_of_still rfl rfl rfl (by rw [atArm]; rfl))
  | @pass destination pass answer hub progress atPass moved =>
    refine move_of_silent (by cases progress <;> rfl) ?_
    have joining : (OwnerPoint.ofPass destination progress).joining? = m.owner.joining? := by
      rw [atPass]
      cases progress <;> rfl
    have free : m.owner.joining? = none := by
      rw [atPass]
      rfl
    rw [handles, handles, joining]
    exact moved.handles (fun _ => free)
      (sound.ownerClear pass (by rw [atPass]; rfl)) apart
  | take waiting free full =>
    refine move_of_silent rfl (Hub.move_of_kept rfl rfl ?_)
    exact .take full
  -- The owner finds the slot empty and picks up what has been put aside, if anything.
  | findNothing waiting empty =>
    have noMark : m.hub.marks { m.hub with slot := none, lastReport := none } = [] :=
      Hub.marks_eq_nil rfl (.inr rfl)
    have returned : (Option.map Return.marks (some (.collected (.ok m.hub.lastReport)))).getD [] =
        (m.handles.aside.map .returned).toList := by
      rw [handles, Hub.handles]
      cases m.hub.lastReport <;> rfl
    have after : handles { m with hub.slot := none, hub.lastReport := none, owner := .resting } =
        { m.handles with aside := none } := by
      rw [handles, handles, Hub.handles, Hub.handles, waiting, empty]
      rfl
    rw [Entry.marks, noMark, returned, after]
    exact .pickUp empty (by rw [handles, Hub.handles, waiting]; rfl)
  -- A batch that broke down leaves no report, so there is nothing to return and nothing to keep.
  | @join number joining atEnd =>
    have noMark : m.hub.marks { m.hub with lock := none } = [] := Hub.marks_eq_nil rfl (.inl rfl)
    have mine : m.handles.joining = some number := by
      rw [handles, Hub.handles, joining]
      rfl
    rw [Entry.marks, noMark]
    cases ended : m.hub.result number with
    | ok collected =>
      obtain ⟨rfl, -⟩ := Hub.result_eq_ok ended
      exact .join mine (sound.joiningClear (by rw [joining]; nofun))
    | error fault => exact .loseJoined
  | halt halting =>
    exact move_of_silent rfl (move_of_still rfl rfl rfl (by rw [halting]; rfl))
  | raise raising =>
    exact move_of_silent rfl (move_of_still rfl rfl rfl (by rw [raising]; rfl))
  | cancel cancelling =>
    refine move_of_silent rfl ?_
    have same : m.hub.cancelPublished.batches.length = m.hub.batches.length ∧
        m.hub.cancelPublished.lastReport = m.hub.lastReport ∧
        m.hub.cancelPublished.slot = m.hub.slot := by
      unfold Hub.cancelPublished
      split
      · exact ⟨List.length_modify _ _ _, rfl, rfl⟩
      · exact ⟨rfl, rfl, rfl⟩
    exact move_of_still same.1 same.2.1 same.2.2 (by rw [cancelling]; rfl)
  | poll idle => exact move_of_silent rfl (move_of_still rfl rfl rfl rfl)
  | @watch watcher destination pass answer hub progress atPass moved =>
    have running : m.watcherPass? = some pass := by rw [watcherPass?, atPass]; rfl
    have clear := sound.watcherClear pass running
    refine move_of_silent rfl (moved.handles (fun held => ?_) clear apart)
    have theirs : m.hub.lock = some .watcher := sound.watcherLock.2 ⟨pass, running, held⟩
    refine (SingleFlight.not_holdsLock (Bool.eq_false_iff.2 fun mine => ?_)).1
    rw [sound.ownerLock.2 mine] at theirs
    cases theirs
  | work found stepped =>
    exact move_of_silent rfl (move_of_still List.length_set rfl rfl rfl)
  | register => exact move_of_silent rfl (move_of_still rfl rfl rfl rfl)
  | refuseRegister => exact move_of_silent rfl (move_of_still rfl rfl rfl rfl)
  | unregister => exact move_of_silent rfl (move_of_still rfl rfl rfl rfl)

/-- A report that is put aside is that of a batch that is over. -/
theorem Transition.lastReport_cases (h : m.Transition label m' result) {collected : Collected}
    (aside : m'.hub.lastReport = some collected) :
    m.hub.lastReport = some collected ∨ ∃ number, m.hub.result number = .ok collected := by
  cases h with
  | pass atPass moved | watch atPass moved =>
    cases moved with
    | @collect number other full atEnd ended =>
      cases aside
      exact .inr ⟨number, ended⟩
    | _ => exact .inl aside
  | findNothing => cases aside
  | cancel =>
    refine .inl ?_
    have same : m.hub.cancelPublished.lastReport = m.hub.lastReport := by
      unfold Hub.cancelPublished
      split <;> rfl
    exact same.symm.trans aside
  | _ => exact .inl aside

/-- A batch that is over stays as it is. So its report does not change between its end and its
return. -/
theorem Transition.batch?_of_isOver (h : m.Transition label m' result) {number : Nat}
    {worker : Worker} (found : m.hub.batch? number = some worker) (atEnd : worker.isOver = true) :
    m'.hub.batch? number = some worker := by
  cases h with
  | pass atPass moved | watch atPass moved => exact moved.batch?_eq_some found
  | cancel =>
    unfold Hub.cancelPublished
    split
    · rename_i published _
      rw [Hub.batch?, List.getElem?_modify, show m.hub.batches[number]? = some worker from found]
      rw [Option.map_eq_map, Option.map_some, Worker.cancel_of_isOver atEnd, ite_self]
    · exact found
  | @work other answer before after' shared there stepped =>
    have apart : other ≠ number := by
      rintro rfl
      cases there.symm.trans found
      rw [Worker.isOver_of_step stepped] at atEnd
      cases atEnd
    exact (List.getElem?_set_ne apart).trans found
  | _ => exact found

end Machine

namespace Diary

variable {diary diary' : Diary} {label : Label} {labels : List Label} {config : Config}
  {client : Client} {cache : Cache} {disk : Disk}

/-- What holds of every diary: the places of the reports and the marks are in order, and the report
aside is that of a batch that is over. -/
structure IsOrderly (diary : Diary) : Prop where
  sound : diary.machine.SingleFlight
  order : diary.machine.handles.InOrder diary.marks
  aside : ∀ collected, diary.machine.hub.lastReport = some collected →
    ∃ worker, diary.machine.hub.batch? collected.number = some worker ∧
      worker.result? = some collected.report

namespace IsOrderly

theorem start : (Diary.start config client cache disk).IsOrderly where
  sound := .make
  order := .start
  aside := nofun

/-- Every step keeps a diary orderly. -/
theorem write (h : diary.IsOrderly) (written : diary.write label = some diary') :
    diary'.IsOrderly := by
  obtain ⟨after, result, stepped, rfl⟩ := write_eq_some written
  have moved := Machine.transition_of_step stepped
  have apart : ∀ number, diary.machine.hub.slot = some number →
      diary.machine.handles.aside ≠ some number := by
    intro number full rests
    obtain ⟨-, -, notSlot, -⟩ := h.order.aside number rests
    exact notSlot full
  refine ⟨h.sound.step moved, ?_, fun collected rests => ?_⟩
  · have more : marks ⟨after, diary.entries ++ [⟨diary.machine, label, after, result⟩]⟩ =
        diary.marks ++ Entry.marks ⟨diary.machine, label, after, result⟩ := by
      simp [marks, List.flatMap_append]
    rw [more]
    exact h.order.move (Machine.handles_of_step h.sound apart stepped)
  · have before : ∃ worker, diary.machine.hub.batch? collected.number = some worker ∧
        worker.result? = some collected.report := by
      rcases moved.lastReport_cases rests with earlier | ⟨number, ended⟩
      · exact h.aside collected earlier
      · obtain ⟨rfl, worker, found, report⟩ := Hub.result_eq_ok ended
        exact ⟨worker, found, report⟩
    obtain ⟨worker, found, report⟩ := before
    exact ⟨worker, moved.batch?_of_isOver found (Worker.isOver_of_result report), report⟩

end IsOrderly

/-- A call returns the report of a batch that is over, and never the same one twice. When the report
of a later batch has been returned already, the report was put aside before that batch was started,
and none was put aside since. Once the report of the latest batch has been returned, all there is to
return is the report aside. -/
theorem report_of_collected {after : Machine} {report : Option Collected}
    (ran : (start config client cache disk).run labels = some diary)
    (returned : diary.machine.step label = some (after, some (.collected (.ok report)))) :
    (∀ collected, report = some collected →
      (∃ worker, diary.machine.hub.batch? collected.number = some worker ∧
        worker.result? = some collected.report) ∧
      .returned collected.number ∉ diary.marks ∧
      ∀ later, collected.number < later → .returned later ∈ diary.marks →
        ∃ before since, diary.marks = before ++ .shelved collected.number :: since ∧
          .started later ∈ since ∧ ∀ number, .shelved number ∉ since) ∧
    ∀ latest, latest + 1 = diary.machine.hub.batches.length → .returned latest ∈ diary.marks →
      report = diary.machine.hub.lastReport := by
  have orderly : diary.IsOrderly :=
    run_induction ran .start fun _ _ _ _ before written => before.write written
  rcases Machine.collected_cases returned with
    ⟨-, -, rfl, -⟩ | ⟨number, collected, joining, -, ended, rfl, -⟩
  · refine ⟨fun collected rests => ?_, fun _ _ _ => rfl⟩
    have aside : diary.machine.handles.aside = some collected.number := by
      rw [Machine.handles, Hub.handles, rests]
      rfl
    obtain ⟨-, unread, -, -, before, since, marks, last, all⟩ :=
      orderly.order.aside collected.number aside
    refine ⟨orderly.aside collected rests, unread, fun later least member => ?_⟩
    exact ⟨before, since, marks, all later least (orderly.order.returned later member), last⟩
  · -- The owner waits for the end of the latest batch, so there is no later one.
    obtain ⟨rfl, known⟩ := Hub.result_eq_ok ended
    obtain ⟨last, unread⟩ := orderly.order.joining collected.number (by
      rw [Machine.handles, Hub.handles, joining]
      rfl)
    refine ⟨?_, fun latest most member => ?_⟩
    · rintro _ ⟨⟩
      refine ⟨known, unread, fun later least member => ?_⟩
      have bound := orderly.order.returned later member
      omega
    · have same : latest = collected.number := Nat.succ.inj (most.trans last.symm)
      rw [same] at member
      exact absurd member unread

/-- A pass of the owner that finds one photo to upload, from its first step to its last. -/
def labelsOfPass : List Label :=
  [.catalog .proceed, .catalog .proceed, .catalog (.opened (.ok ())), .catalog (.keys (.ok ["A"])),
    .catalog .proceed, .catalog .proceed].map .owner

/-- A batch whose only photo has left the catalog. It needs no request, so it is the shortest batch
with something to report. -/
def labelsOfBatch (number : Nat) : List Label :=
  [.proceed, .entry (.ok none), .proceed].map (.worker number)

/-- The first batch is over when the second one is started. Its owner waits for the second batch,
and then stops the session. -/
def labelsOfTwo : List Label :=
  .call (.begin "photos.lrcat" "home") ::
      [.catalog (.opened (.ok ())), .load .absent, .status true none].map .owner ++
    labelsOfPass ++ labelsOfBatch 0 ++ [.call .trigger] ++ labelsOfPass ++ labelsOfBatch 1 ++
    [.call .wait, .owner .proceed, .owner .proceed, .call .stop, .owner .proceed, .owner .proceed,
      .owner .proceed]

/-- The report that a call returns. -/
def returnedReport : Option Return → Option Collected
  | some (.collected (.ok report)) => report
  | _ => none

theorem eq_of_returnedReport {result : Option Return} {collected : Collected}
    (h : returnedReport result = some collected) :
    result = some (.collected (.ok (some collected))) := by
  unfold returnedReport at h
  split at h
  · rw [h]
  · cases h

/-- In the end the report of the first batch is returned. -/
theorem exists_returned_of_two :
    ∃ diary after, (start {} Scene.clientOfOne (Cache.inMemory []) {}).run labelsOfTwo =
        some diary ∧
      diary.machine.step (.owner .proceed) = some (after, some (.collected (.ok
        (some ⟨0, { failures := [("A", .notInCatalog)] }⟩)))) ∧
      diary.marks = [.started 0, .shelved 0, .started 1, .returned 1] ∧
      diary.machine.hub.batches.length = 2 := by
  have seen : ((start {} Scene.clientOfOne (Cache.inMemory []) {}).run labelsOfTwo).bind
      (fun diary => (diary.machine.step (.owner .proceed)).map fun stepped =>
        (diary.marks, diary.machine.hub.batches.length, returnedReport stepped.2)) =
      some ([.started 0, .shelved 0, .started 1, .returned 1], 2,
        some ⟨0, { failures := [("A", .notInCatalog)] }⟩) := by
    decide +kernel
  obtain ⟨diary, ran, stepped⟩ := Option.bind_eq_some_iff.1 seen
  obtain ⟨⟨after, result⟩, stepped, same⟩ := Option.map_eq_some_iff.1 stepped
  obtain ⟨marks, rest⟩ := Prod.mk.inj same
  obtain ⟨length, report⟩ := Prod.mk.inj rest
  cases eq_of_returnedReport report
  exact ⟨diary, after, ran, stepped, marks, length⟩

/-- The report of the second batch is returned before that of the first one, and the end of the
session still has a report to return after that of the latest batch. -/
theorem not_inOrder_of_two :
    ∃ diary after collected,
      (start {} Scene.clientOfOne (Cache.inMemory []) {}).run labelsOfTwo = some diary ∧
      diary.machine.step (.owner .proceed) =
        some (after, some (.collected (.ok (some collected)))) ∧
      1 + 1 = diary.machine.hub.batches.length ∧ .returned 1 ∈ diary.marks ∧
      collected.number < 1 := by
  obtain ⟨diary, after, ran, returned, marks, length⟩ := exists_returned_of_two
  refine ⟨diary, after, _, ran, returned, length.symm, ?_, Nat.one_pos⟩
  rw [marks]
  decide

/-- The report of the first batch was put aside before the second one was started, and is returned
for the first time. -/
theorem report_of_collected_of_two :
    ∃ diary after collected,
      (start {} Scene.clientOfOne (Cache.inMemory []) {}).run labelsOfTwo = some diary ∧
      diary.machine.step (.owner .proceed) =
        some (after, some (.collected (.ok (some collected)))) ∧
      .returned 1 ∈ diary.marks ∧ collected.number < 1 ∧
      (∃ worker, diary.machine.hub.batch? collected.number = some worker ∧
        worker.result? = some collected.report) ∧
      .returned collected.number ∉ diary.marks ∧
      (∃ before since, diary.marks = before ++ .shelved collected.number :: since ∧
        .started 1 ∈ since ∧ ∀ number, .shelved number ∉ since) ∧
      diary.machine.hub.lastReport = some collected := by
  obtain ⟨diary, after, ran, returned, marks, length⟩ := exists_returned_of_two
  have later : .returned 1 ∈ diary.marks := by
    rw [marks]
    decide
  obtain ⟨known, rest⟩ := report_of_collected ran returned
  obtain ⟨batch, unread, order⟩ := known _ rfl
  exact ⟨diary, after, _, ran, returned, later, Nat.one_pos, batch, unread,
    order 1 Nat.one_pos later, (rest 1 length.symm later).symm⟩

end Diary

end PreviewSync.Sync
