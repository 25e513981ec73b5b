import PreviewSync.Proofs.Sync.Vigil

/-!
# What a session sees of its file

The first reading of a watcher is only remembered, and the watcher's thread takes it on its own
while the first pass runs. So what the watcher misses are exactly the modifications before its first
reading, and whether the first pass has seen them depends on when it has read the keys.

## Main Definitions

* `Hub.PassMove.reading_cases` — where a pass reads the keys of the catalog
* `Vigil.Remembers` — what a watcher remembers of its readings
* `Vigil.IsAwake` — what holds once the watcher has been started, with `Vigil.Move.isAwake`
* `Vigil.caughtUp_iff` — when the most recent modification has been seen
-/

namespace PreviewSync.Sync

/-- Whether a pass has yet to read the keys of the catalog. A pass that is early when the file is
modified will see the modification. -/
def Pass.isEarly : Pass → Bool
  | entering | inspecting | reopening | listing => true
  | lowering _ | launching _ => false

/-- Whether a pass with a verdict has done its work: it has neither given up nor failed. A pass that
gives up does so because another one runs or a batch is under way, and then a modification may be
missed. -/
def isServed : Except Fault Verdict → Bool
  | .ok .upToDate | .ok (.started _) => true
  | .ok .busy | .error _ => false

/-- A pass that neither gives up nor fails goes on to the keys of the catalog, reads them, or has
read them already. -/
theorem Hub.PassMove.reading_cases {hub hub' : Hub} {party : Party} {destination : String}
    {pass : Pass} {answer : CatalogAnswer} {progress : PassProgress}
    (moved : PassMove hub party destination pass answer hub' progress)
    (served : ∀ verdict ∈ progress.verdict?, isServed verdict = true) :
    (pass.isEarly = true ∧ answer.isListing = false ∧
      ∃ next, progress = .reached next ∧ next.isEarly = true) ∨
    (pass.isEarly = true ∧ answer.isListing = true ∨
        pass.isEarly = false ∧ answer.isListing = false) ∧
      ∀ next, progress.pass? = some next → next.isEarly = false := by
  cases moved with
  | giveUp | findActive => cases served _ rfl
  | lose | failToOpen | failToList | failToLaunch => cases served _ rfl
  | enter | findEmpty | collect | reopen => exact .inl ⟨rfl, rfl, _, rfl, rfl⟩
  | agree => exact .inr ⟨.inl ⟨rfl, rfl⟩, nofun⟩
  | differ =>
    refine .inr ⟨.inl ⟨rfl, rfl⟩, ?_⟩
    rintro _ ⟨⟩
    rfl
  | lower =>
    refine .inr ⟨.inr ⟨rfl, rfl⟩, ?_⟩
    rintro _ ⟨⟩
    rfl
  | launch => exact .inr ⟨.inr ⟨rfl, rfl⟩, nofun⟩

namespace Vigil

variable {v v' : Vigil} {m m' : Machine} {label : Label} {result : Option Return}

/-- A party runs a pass that has yet to read the keys of the catalog. Then nothing is missed so far,
whatever has been modified. -/
def IsAhead (v : Vigil) (party : Party) : Prop :=
  ∃ destination pass, v.machine.passAt? party = some (destination, pass) ∧ pass.isEarly = true

/-- What a watcher remembers: nothing before its first reading, and then the time that the latest
one has found, which is that of the file unless it has been modified since. A modification always
makes the time later, so the times tell the versions apart. -/
def Remembers (v : Vigil) (remembered : Option UInt64) : Prop :=
  match v.polls.getLast? with
  | none => remembered = none
  | some last => ∃ time, remembered = some time ∧
      (last = v.version ∧ time = v.time ∨ last < v.version ∧ time < v.time)

/-- Before the watcher is started. Nothing has been read yet, so there is nothing to compare a
modification with. -/
structure IsOpening (v : Vigil) : Prop where
  watching : v.machine.watching = none
  owner : v.machine.owner = .resting ∨ v.machine.owner.isBeginning = true
  polls : v.polls = []
  reads : v.reads = []

/-- Once the watcher has been started. Unless two of its readings have found different versions it
has reported nothing, and there is only the first pass. Otherwise the version that its latest
reading has found was read by a pass, or is about to be. These are the two sides of the equivalence
that is proved in the end. -/
structure IsAwake (v : Vigil) : Prop where
  watching : ∃ path remembered destination pass,
    v.machine.watching = some ⟨⟨path, .polling remembered⟩, destination, pass⟩ ∧
      v.Remembers remembered
  owner : v.machine.owner = .resting ∨
    ∃ destination pass, v.machine.owner = .passing destination pass
  polled : ∀ poll ∈ v.polls, poll ≤ v.version
  read : ∀ read ∈ v.reads, read ≤ v.version
  unreported : (∀ poll ∈ v.polls, v.polls.getLast? = some poll) →
    v.machine.passAt? .watcher = none ∧
      (v.IsAhead .owner ∧ v.reads = [] ∨ ¬ v.IsAhead .owner ∧ ∃ read, v.reads = [read])
  reported : ∀ poll ∈ v.polls, ∀ last, v.polls.getLast? = some last → poll < last →
    v.IsAhead .watcher ∨ ∃ read, v.reads.getLast? = some read ∧ last ≤ read

/-- After a modification the time of the file is later than what the watcher remembers. This is
where times that only grow are needed: a file that is put back to an earlier time would look
unchanged. -/
theorem Remembers.modify {remembered : Option UInt64} {time : UInt64}
    (h : v.Remembers remembered) (later : v.time < time) :
    Remembers { v with time, version := v.version + 1 } remembered := by
  unfold Remembers at h ⊢
  dsimp only
  split at h
  · exact h
  · obtain ⟨t, same, here | before⟩ := h
    · exact ⟨t, same, .inr ⟨by omega, by rw [here.2]; exact later⟩⟩
    · exact ⟨t, same, .inr ⟨by omega, UInt64.lt_trans before.2 later⟩⟩

/-- After a reading the watcher remembers the time of the file. It remembers it whether or not the
reading was reported. -/
theorem remembers_time {m : Machine} :
    Remembers { v with machine := m, polls := v.polls ++ [v.version] } (some v.time) := by
  unfold Remembers
  dsimp only
  rw [List.getLast?_concat]
  exact ⟨v.time, rfl, .inl ⟨rfl, rfl⟩⟩

/-- A reading is reported iff the one before has found an earlier version. So the first reading of a
watcher is never reported, whatever has happened before it. -/
theorem Remembers.isReported_iff {remembered : Option UInt64} (h : v.Remembers remembered) :
    Watch.isReported remembered (some v.time) = true ↔
      ∃ poll, v.polls.getLast? = some poll ∧ poll < v.version := by
  unfold Remembers at h
  split at h
  · rename_i none
    rw [h, none]
    simp [Watch.isReported]
  · rename_i last found
    obtain ⟨time, rfl, ⟨same, sameTime⟩ | ⟨earlier, earlierTime⟩⟩ := h
    · rw [found, same, sameTime]
      simp [Watch.isReported]
    · rw [found]
      simp [Watch.isReported, earlier, earlierTime]

/-- A party that runs another pass, or none, is ahead of a reading iff that pass is. The other
party's pass does not matter for it. -/
theorem isAhead_iff {party : Party} {destination : String} {pass : Pass}
    (running : v.machine.passAt? party = some (destination, pass)) :
    v.IsAhead party ↔ pass.isEarly = true := by
  constructor
  · rintro ⟨destination', pass', running', early⟩
    cases running.symm.trans running'
    exact early
  · exact fun early => ⟨destination, pass, running, early⟩

namespace Move

theorem isOpening (moved : v.Move v') (h : v.IsOpening) : v'.IsOpening ∨ v'.IsAwake := by
  obtain ⟨watching, owner, polls, reads⟩ := h
  cases moved with
  | modify => exact .inl ⟨watching, owner, polls, reads⟩
  | poll idle =>
    rw [watching] at idle
    cases idle
  | own running =>
    rw [running] at owner
    rcases owner with resting | beginning
    · cases resting
    · cases beginning
  | watch running =>
    rw [watching] at running
    cases running
  -- The watcher is started, and with it the first pass, which has yet to read the keys.
  | @arm session atArm =>
    refine .inr ⟨⟨_, _, _, _, rfl, ?_⟩, .inr ⟨_, _, rfl⟩, ?_, ?_, fun _ => ⟨rfl, .inl ⟨?_, reads⟩⟩,
      ?_⟩
    · show Remembers _ none
      rw [Remembers, polls]
      rfl
    · rw [polls]
      nofun
    · rw [reads]
      nofun
    · exact ⟨_, _, rfl, rfl⟩
    · rw [polls]
      nofun
  | prepare before after same =>
    exact .inl ⟨same.trans watching, after.symm, polls, reads⟩
  | elsewhere before running called =>
    rcases owner with resting | beginning
    · exact absurd resting called
    · rw [beginning] at before
      cases before
  | aside sameOwner sameWatching =>
    exact .inl ⟨sameWatching.trans watching, by rw [sameOwner]; exact owner, polls, reads⟩

/-- After a reading that is reported the watcher is about to run a pass. That pass reads the keys
later than the reading, which is all that is needed of it. -/
theorem isAwake_of_reported (h : v.IsAwake) {path destination : String} {poll : Nat}
    (last : v.polls.getLast? = some poll) (earlier : poll < v.version) :
    IsAwake { v with
      machine.watching := some ⟨⟨path, .polling (some v.time)⟩, destination, some .entering⟩
      polls := v.polls ++ [v.version] } where
  watching := ⟨path, some v.time, destination, _, rfl, remembers_time⟩
  owner := h.owner
  polled := List.forall_mem_append.2 ⟨h.polled, List.forall_mem_singleton.2 (Nat.le_refl _)⟩
  read := h.read
  unreported same := by
    have there := same poll (List.mem_append_left _ (List.mem_of_getLast? last))
    rw [List.getLast?_concat, Option.some.injEq] at there
    omega
  reported _ _ _ _ _ := .inl ⟨destination, .entering, rfl, rfl⟩

/-- After a reading that is not reported nothing else has changed. The file is as it was at the
reading before, so what held then still holds. -/
theorem isAwake_of_unreported (h : v.IsAwake) {path : String} {remembered : Option UInt64}
    {destination : String}
    (idle : v.machine.watching = some ⟨⟨path, .polling remembered⟩, destination, none⟩)
    (current : ∀ poll, v.polls.getLast? = some poll → poll = v.version) :
    IsAwake { v with
      machine.watching := some ⟨⟨path, .polling (some v.time)⟩, destination, none⟩
      polls := v.polls ++ [v.version] } where
  watching := ⟨path, some v.time, destination, _, rfl, remembers_time⟩
  owner := h.owner
  polled := List.forall_mem_append.2 ⟨h.polled, List.forall_mem_singleton.2 (Nat.le_refl _)⟩
  read := h.read
  unreported same := by
    refine ⟨rfl, (h.unreported fun poll member => ?_).2⟩
    have there := same poll (List.mem_append_left _ member)
    rw [List.getLast?_concat, Option.some.injEq] at there
    have found := List.getLast?_eq_some_getLast (List.ne_nil_of_mem member)
    rw [found, current _ found, there]
  reported poll member last found less := by
    rw [List.getLast?_concat, Option.some.injEq] at found
    subst found
    have inside : poll ∈ v.polls := by
      rcases List.mem_append.1 member with before | same
      · exact before
      · rw [List.mem_singleton.1 same] at less
        exact absurd less (Nat.lt_irrefl _)
    have found := List.getLast?_eq_some_getLast (List.ne_nil_of_mem inside)
    have same := current _ found
    rcases h.reported poll inside _ found (by rw [same]; exact less) with ahead | read
    · obtain ⟨destination', pass, running, -⟩ := ahead
      rw [Machine.passAt?, idle] at running
      cases running
    · rw [← same]
      exact .inr read

end Move

/-- What a step of a party's pass leaves alone: the pass of the other party, what the watcher
remembers, and that the owner is in no other call. -/
structure LeavesOthers (v : Vigil) (party : Party) (machine : Machine) : Prop where
  others : ∀ other, other ≠ party → machine.passAt? other = v.machine.passAt? other
  watching : ∃ path remembered destination pass,
    machine.watching = some ⟨⟨path, .polling remembered⟩, destination, pass⟩ ∧
      v.Remembers remembered
  owner : machine.owner = .resting ∨ ∃ destination pass, machine.owner = .passing destination pass

section Pass

variable {party : Party} {machine : Machine} {destination : String} {pass : Pass}
  {reads : List Nat} {verdicts : List (Except Fault Verdict)}

/-- While no reading has been reported there is only the pass of the owner. For the watcher runs
passes because of reports only. -/
theorem LeavesOthers.eq_owner (frame : v.LeavesOthers party machine) (h : v.IsAwake)
    (running : v.machine.passAt? party = some (destination, pass))
    (same : ∀ poll ∈ v.polls, v.polls.getLast? = some poll) :
    party = .owner ∧ machine.passAt? .watcher = none := by
  have noWatcher := (h.unreported same).1
  cases party with
  | owner => exact ⟨rfl, (frame.others .watcher nofun).trans noWatcher⟩
  | watcher =>
    rw [running] at noWatcher
    cases noWatcher

theorem LeavesOthers.isAhead_watcher (frame : v.LeavesOthers .owner machine)
    (theirs : v.IsAhead .watcher) : IsAhead { v with machine, reads, verdicts } .watcher := by
  rwa [IsAhead, frame.others .watcher nofun]

/-- A pass goes on, and has yet to read the keys. As long as it does, it will see whatever has been
modified until then. -/
theorem LeavesOthers.isAwake_of_early (frame : v.LeavesOthers party machine) (h : v.IsAwake)
    (running : v.machine.passAt? party = some (destination, pass)) (early : pass.isEarly = true)
    (ahead : IsAhead { v with machine, reads := v.reads, verdicts } party) :
    IsAwake { v with machine, reads := v.reads, verdicts } where
  watching := frame.watching
  owner := frame.owner
  polled := h.polled
  read := h.read
  unreported same := by
    obtain ⟨rfl, noWatcher⟩ := frame.eq_owner h running same
    rcases (h.unreported same).2 with ⟨-, none⟩ | ⟨not, -⟩
    · exact ⟨noWatcher, .inl ⟨ahead, none⟩⟩
    · exact absurd ((isAhead_iff running).2 early) not
  reported poll member last found less := by
    refine (h.reported poll member last found less).imp_left fun theirs => ?_
    cases party with
    | owner => exact frame.isAhead_watcher theirs
    | watcher => exact ahead

/-- A pass reads the keys. Here the version that it acts on is settled. -/
theorem LeavesOthers.isAwake_of_read (frame : v.LeavesOthers party machine) (h : v.IsAwake)
    (running : v.machine.passAt? party = some (destination, pass)) (early : pass.isEarly = true)
    (notAhead : ¬ IsAhead { v with machine, reads := v.reads ++ [v.version], verdicts } party) :
    IsAwake { v with machine, reads := v.reads ++ [v.version], verdicts } where
  watching := frame.watching
  owner := frame.owner
  polled := h.polled
  read := List.forall_mem_append.2 ⟨h.read, List.forall_mem_singleton.2 (Nat.le_refl _)⟩
  unreported same := by
    obtain ⟨rfl, noWatcher⟩ := frame.eq_owner h running same
    rcases (h.unreported same).2 with ⟨-, none⟩ | ⟨not, -⟩
    · exact ⟨noWatcher, .inr ⟨notAhead, v.version, by rw [none]; rfl⟩⟩
    · exact absurd ((isAhead_iff running).2 early) not
  reported poll member last found less :=
    .inr ⟨v.version, List.getLast?_concat, h.polled last (List.mem_of_getLast? found)⟩

/-- A pass that has read the keys goes on, or ends. It reads no keys a second time, so its end adds
nothing to what was read. -/
theorem LeavesOthers.isAwake_of_late (frame : v.LeavesOthers party machine) (h : v.IsAwake)
    (running : v.machine.passAt? party = some (destination, pass)) (late : pass.isEarly = false)
    (notAhead : ¬ IsAhead { v with machine, reads := v.reads, verdicts } party) :
    IsAwake { v with machine, reads := v.reads, verdicts } := by
  have notBefore : ¬ v.IsAhead party := by
    rw [isAhead_iff running, late]
    exact Bool.false_ne_true
  refine ⟨frame.watching, frame.owner, h.polled, h.read, fun same => ?_,
    fun poll member last found less => ?_⟩
  · obtain ⟨rfl, noWatcher⟩ := frame.eq_owner h running same
    rcases (h.unreported same).2 with ⟨ahead, -⟩ | ⟨-, once⟩
    · exact absurd ahead notBefore
    · exact ⟨noWatcher, .inr ⟨notAhead, once⟩⟩
  · refine (h.reported poll member last found less).imp_left fun theirs => ?_
    cases party with
    | owner => exact frame.isAhead_watcher theirs
    | watcher => exact absurd theirs notBefore

/-- After a step of a pass that has neither given up nor failed. The three cases are those of a pass
before, at and after its reading of the keys. -/
theorem LeavesOthers.isAwake (frame : v.LeavesOthers party machine) (h : v.IsAwake)
    {answer : CatalogAnswer} {progress : PassProgress}
    (running : v.machine.passAt? party = some (destination, pass))
    (moved : Hub.PassMove v.machine.hub party destination pass answer machine.hub progress)
    (served : ∀ verdict ∈ progress.verdict?, isServed verdict = true)
    (next : machine.passAt? party = progress.pass?.map (destination, ·)) :
    (v.afterPass machine answer progress).IsAwake := by
  unfold afterPass
  rcases moved.reading_cases served with
    ⟨early, listing, later, rfl, stillEarly⟩ | ⟨reading, done⟩
  · rw [listing, if_neg Bool.false_ne_true, List.append_nil]
    exact frame.isAwake_of_early h running early ⟨destination, later, next, stillEarly⟩
  · have notAhead : ∀ reads verdicts, ¬ IsAhead { v with machine, reads, verdicts } party := by
      rintro reads verdicts ⟨destination', pass', running', early'⟩
      obtain ⟨later, goesOn, pair⟩ := Option.map_eq_some_iff.1 (next.symm.trans running')
      cases pair
      rw [done _ goesOn] at early'
      cases early'
    rcases reading with ⟨early, listing⟩ | ⟨late, listing⟩
    · rw [listing, if_pos rfl]
      exact frame.isAwake_of_read h running early (notAhead _ _)
    · rw [listing, if_neg Bool.false_ne_true, List.append_nil]
      exact frame.isAwake_of_late h running late (notAhead _ _)

end Pass

namespace Move

/-- Whatever happens keeps what holds once the watcher has been started, unless a pass gives up or
fails. A pass that gives up leaves its modification to another pass, which may have read the keys
before it. -/
theorem isAwake (moved : v.Move v') (h : v.IsAwake)
    (served : ∀ verdict ∈ v'.verdicts, isServed verdict = true) : v'.IsAwake := by
  obtain ⟨path, remembered, destination, pass, watching, remembers⟩ := h.watching
  have past : v.machine.owner.isBeginning = false := by
    rcases h.owner with resting | ⟨_, _, running⟩
    · rw [resting]
      rfl
    · rw [running]
      rfl
  cases moved with
  | modify later =>
    exact ⟨⟨path, remembered, destination, pass, watching, remembers.modify later⟩, h.owner,
      fun poll member => Nat.le_succ_of_le (h.polled poll member),
      fun read member => Nat.le_succ_of_le (h.read read member), h.unreported, h.reported⟩
  -- A reading is reported or not, and this is where the two halves of the invariant part.
  | @poll watcher destination' idle =>
    cases watching.symm.trans idle
    have polled : Watch.Watcher.poll ⟨path, .polling remembered⟩ (some v.time) =
        (⟨path, .polling (some v.time)⟩, Watch.isReported remembered (some v.time)) := by
      cases remembered <;> rfl
    rw [polled]
    cases reported : Watch.isReported remembered (some v.time) with
    | true =>
      obtain ⟨poll, last, earlier⟩ := remembers.isReported_iff.1 reported
      exact isAwake_of_reported h last earlier
    | false =>
      refine isAwake_of_unreported h idle fun poll last => ?_
      have bound := h.polled poll (List.mem_of_getLast? last)
      have same : ¬ poll < v.version := by
        intro earlier
        rw [remembers.isReported_iff.2 ⟨poll, last, earlier⟩] at reported
        cases reported
      omega
  -- A step of either party's pass leaves the other party alone, and that is all that has to be seen
  -- here.
  | @own destination' pass' answer hub progress running moved =>
    have frame : v.LeavesOthers .owner
        { v.machine with hub, owner := .ofPass destination' progress } := by
      refine ⟨?_, ⟨path, remembered, destination, pass, watching, remembers⟩, ?_⟩
      · rintro (_ | _) apart
        · exact absurd rfl apart
        · rfl
      · cases progress
        · exact .inr ⟨_, _, rfl⟩
        · exact .inl rfl
    refine frame.isAwake h (Machine.passAt?_owner.2 running) moved ?_ (by cases progress <;> rfl)
    exact fun verdict ended =>
      served verdict (List.mem_append_right _ (Option.mem_toList.2 ended))
  | @watch watcher destination' pass' answer hub progress running moved =>
    cases watching.symm.trans running
    have frame : v.LeavesOthers .watcher { v.machine with
        hub, watching := some ⟨⟨path, .polling remembered⟩, destination, progress.pass?⟩ } := by
      refine ⟨?_, ⟨path, remembered, destination, _, rfl, remembers⟩, h.owner⟩
      rintro (_ | _) apart
      · rfl
      · exact absurd rfl apart
    refine frame.isAwake h (Machine.passAt?_watcher.2 ⟨_, running⟩) moved ?_
      (by cases progress <;> rfl)
    exact fun verdict ended =>
      served verdict (List.mem_append_right _ (Option.mem_toList.2 ended))
  -- The session has begun already, so its owner is not about to start one.
  | arm atArm =>
    rw [atArm] at past
    cases past
  | prepare before =>
    rw [before] at past
    cases past
  | elsewhere before running called =>
    rcases h.owner with resting | ⟨_, _, passing⟩
    · exact absurd resting called
    · exact absurd passing (running _ _)
  -- Nothing that the invariant speaks of is touched.
  | @aside machine owner same =>
    have passAt : machine.passAt? = v.machine.passAt? := by
      funext party
      cases party
      · rw [Machine.passAt?, Machine.passAt?, owner]
      · rw [Machine.passAt?, Machine.passAt?, same]
    have isAhead : IsAhead { v with machine } = v.IsAhead := by
      funext party
      rw [IsAhead, IsAhead, passAt]
    refine ⟨⟨path, remembered, destination, pass, same.trans watching, remembers⟩,
      by rw [owner]; exact h.owner, h.polled, h.read, ?_, ?_⟩
    · rw [isAhead, passAt]
      exact h.unreported
    · rw [isAhead]
      exact h.reported

end Move

/-- What holds when a session begins: there is no watcher of an earlier one. Otherwise the new
session could inherit what another watcher remembers. -/
theorem isOpening_of_begin {file destination : String} {time : UInt64} (sound : m.SingleFlight)
    (begun : m.step (.call (.begin file destination)) = some (m', none)) :
    IsOpening { machine := m', time } := by
  have begins : m.owner = .resting ∧ m.session = none ∧
      m' = { m with owner := .opening ⟨file, destination⟩ } := by
    unfold Machine.step at begun
    dsimp only at begun
    split at begun
    · rename_i resting
      unfold Machine.call at begun
      dsimp only at begun
      split at begun
      · cases begun
      · rename_i idle
        split at begun <;> cases begun
        exact ⟨resting, by simpa [Machine.isSynchronizing] using idle, rfl⟩
    · cases begun
  obtain ⟨resting, idle, rfl⟩ := begins
  have unwatched : m.watching = none := Classical.byContradiction fun watched =>
    sound.session_ne_none (by simp [resting]) watched idle
  exact ⟨unwatched, .inr rfl, rfl, rfl⟩

/-- What holds of every session, as long as no pass gives up or fails. The first alternative ends
for good when the watcher is started. -/
theorem isOpening_or_isAwake_of_run {happenings : List Happening} (first : v.IsOpening)
    (ran : v.run happenings = some v')
    (served : ∀ verdict ∈ v'.verdicts, isServed verdict = true) : v'.IsOpening ∨ v'.IsAwake := by
  refine foldlM_induction (p := fun v =>
    (∀ verdict ∈ v.verdicts, isServed verdict = true) → v.IsOpening ∨ v.IsAwake) ran
    (fun _ => .inl first) ?_ served
  intro before after happening _ kept stepped served
  have moved := move_of_step stepped
  have earlier : ∀ verdict ∈ before.verdicts, verdict ∈ after.verdicts := by
    intro verdict member
    cases moved with
    | own | watch => exact List.mem_append_left _ member
    | _ => exact member
  rcases kept fun verdict member => served verdict (earlier verdict member) with opening | awake
  · exact moved.isOpening opening
  · exact .inr (moved.isAwake awake served)

section Session

variable {config : Config} {client : Store.Client} {cache : Cache} {disk : Disk}
  {labels : List Label} {diary : Diary} {file destination : String} {time : UInt64}
  {happenings : List Happening}

/-- A session begins after any run, and the file is modified while it starts. When the watcher has
read the time of the file after the most recent modification, and the pass that it may have begun is
over, the most recent pass has read the keys of the catalog after that modification too iff the
watcher had read the time once before the modification, or the first pass has read the keys after
it. Without any pass that has read them the first one has yet to do so. This holds for every order
of modifications, readings and steps of passes in which no pass gives up or fails. -/
theorem caughtUp_iff (ran : (Diary.start config client cache disk).run labels = some diary)
    (begun : diary.machine.step (.call (.begin file destination)) = some (m, none))
    (watched : run { machine := m, time } happenings = some v)
    (served : ∀ verdict ∈ v.verdicts, isServed verdict = true)
    (polled : v.polls.getLast? = some v.version) (done : v.machine.passAt? .watcher = none) :
    (v.reads.getLast? = some v.version ↔
      (∃ poll ∈ v.polls, poll < v.version) ∨ v.reads.head? = some v.version) ∧
    (v.reads = [] → v.IsAhead .owner) := by
  have sound : diary.machine.SingleFlight :=
    Diary.run_induction (p := fun diary => diary.machine.SingleFlight) ran .make
      fun before after label _ here written => by
        obtain ⟨machine, result, stepped, rfl⟩ := Diary.write_eq_some written
        exact here.step (Machine.transition_of_step stepped)
  rcases isOpening_or_isAwake_of_run (isOpening_of_begin sound begun) watched served with
    opening | awake
  · -- Before the watcher is started there is no reading that could have found the latest version.
    rw [opening.polls] at polled
    cases polled
  by_cases reported : ∃ poll ∈ v.polls, poll < v.version
  · -- The version of the latest reading was reported, so a pass of the watcher has read it.
    obtain ⟨poll, member, earlier⟩ := reported
    obtain ⟨read, last, current⟩ : ∃ read, v.reads.getLast? = some read ∧ v.version ≤ read := by
      rcases awake.reported poll member _ polled earlier with ⟨_, _, running, -⟩ | read
      · rw [done] at running
        cases running
      · exact read
    have same : read = v.version :=
      Nat.le_antisymm (awake.read read (List.mem_of_getLast? last)) current
    rw [same] at last
    refine ⟨⟨fun _ => .inl ⟨poll, member, earlier⟩, fun _ => last⟩, fun none => ?_⟩
    rw [none] at last
    cases last
  · -- Nothing was reported, so there is only the first pass.
    have allSame : ∀ poll ∈ v.polls, v.polls.getLast? = some poll := by
      intro poll member
      have bound := awake.polled poll member
      have notEarlier : ¬ poll < v.version := fun earlier => reported ⟨poll, member, earlier⟩
      rw [polled, Nat.le_antisymm bound (Nat.le_of_not_lt notEarlier)]
    rcases (awake.unreported allSame).2 with ⟨ahead, none⟩ | ⟨-, read, once⟩
    · rw [none]
      exact ⟨⟨nofun, fun seen => absurd seen (by simpa using reported)⟩, fun _ => ahead⟩
    · rw [once]
      refine ⟨⟨fun last => .inr last, fun seen => ?_⟩, nofun⟩
      exact seen.resolve_left reported

end Session

/-- A client that knows one destination. -/
def clientOfHome : Store.Client :=
  { registrations := [⟨"home", ⟨"AKID", "SECRET"⟩, ⟨"photos", ""⟩⟩] }

/-- The owner's steps from the beginning of a session until the watcher is started. The watched file
is there, and the change cache is loaded without trouble. -/
def starting : List Happening :=
  [.catalog (.opened (.ok ())), .load .absent, .status true none].map fun answer =>
    .step (.owner answer)

/-- The steps of a pass of the owner that finds nothing to do. -/
def firstPass : List Happening :=
  [.proceed, .proceed, .opened (.ok ()), .keys (.ok [])].map fun answer =>
    .step (.owner (.catalog answer))

/-- The steps of a pass of the watcher that starts a batch. -/
def laterPass : List Happening :=
  [.proceed, .proceed, .opened (.ok ()), .keys (.ok ["A"]), .proceed, .proceed].map fun answer =>
    .step (.watcher answer)

/-- What is looked at after a session of a new machine has begun and more has happened: whether the
call goes on, the version, the readings and the reads, whether every pass has done its work, and
whether the watcher runs none. -/
def look (happenings : List Happening) :
    Option (Bool × Nat × List Nat × List Nat × Bool × Bool) := do
  let (machine, result) ← (Machine.make {} clientOfHome (Cache.inMemory []) {}).step
    (.call (.begin "photos.lrcat" "home"))
  let v ← run { machine, time := 10 } happenings
  some (result.isNone, v.version, v.polls, v.reads, v.verdicts.all isServed,
    (v.machine.passAt? .watcher).isNone)

/-- A session that is seen to have begun, with what has happened since. It is stated for what is
looked at only, so that the machines need not be written out. -/
theorem exists_of_look {happenings : List Happening} {version : Nat} {polls reads : List Nat}
    (seen : look happenings = some (true, version, polls, reads, true, true)) :
    ∃ machine v, (Machine.make {} clientOfHome (Cache.inMemory []) {}).step
        (.call (.begin "photos.lrcat" "home")) = some (machine, none) ∧
      run { machine, time := 10 } happenings = some v ∧
      (∀ verdict ∈ v.verdicts, isServed verdict = true) ∧ v.machine.passAt? .watcher = none ∧
      v.version = version ∧ v.polls = polls ∧ v.reads = reads := by
  unfold look at seen
  obtain ⟨⟨machine, result⟩, begun, seen⟩ := Option.bind_eq_some_iff.1 seen
  dsimp only at seen
  obtain ⟨v, watched, same⟩ := Option.bind_eq_some_iff.1 seen
  simp only [Option.some.injEq, Prod.mk.injEq, Option.isNone_iff_eq_none, List.all_eq_true] at same
  obtain ⟨rfl, version, polls, reads, served, done⟩ := same
  exact ⟨machine, v, begun, watched, served, done, version, polls, reads⟩

/-- The watcher reads the time, the first pass reads the keys, and then the file is modified: the
modification is reported, and read by the pass of the watcher. -/
theorem caughtUp_iff_of_report :
    ∃ machine v, (Machine.make {} clientOfHome (Cache.inMemory []) {}).step
        (.call (.begin "photos.lrcat" "home")) = some (machine, none) ∧
      run { machine, time := 10 } (starting ++ [.step (.poll (some 10))] ++ firstPass ++
        [.modify 20, .step (.poll (some 20))] ++ laterPass) = some v ∧
      v.version = 1 ∧ v.polls.getLast? = some v.version ∧ v.reads.getLast? = some v.version := by
  have seen : look (starting ++ [.step (.poll (some 10))] ++ firstPass ++
      [.modify 20, .step (.poll (some 20))] ++ laterPass) =
        some (true, 1, [0, 1], [0, 1], true, true) := by
    decide +kernel
  obtain ⟨machine, v, begun, watched, served, done, version, polls, reads⟩ := exists_of_look seen
  have ran : (Diary.start {} clientOfHome (Cache.inMemory []) {}).run [] =
      some (Diary.start {} clientOfHome (Cache.inMemory []) {}) := rfl
  have polled : v.polls.getLast? = some v.version := by
    rw [polls, version]
    rfl
  have earlier : ∃ poll ∈ v.polls, poll < v.version := by
    rw [polls, version]
    exact ⟨0, List.mem_cons_self, Nat.one_pos⟩
  exact ⟨machine, v, begun, watched, version, polled,
    (caughtUp_iff ran begun watched served polled done).1.2 (.inl earlier)⟩

/-- The first pass reads the keys, then the file is modified, and only then does the watcher read
the time for the first time: the modification is not reported, and no pass has read the keys since.
-/
theorem not_caughtUp_of_lateReading :
    ∃ machine v, (Machine.make {} clientOfHome (Cache.inMemory []) {}).step
        (.call (.begin "photos.lrcat" "home")) = some (machine, none) ∧
      run { machine, time := 10 } (starting ++ firstPass ++ [.modify 20, .step (.poll (some 20))]) =
        some v ∧
      (∀ verdict ∈ v.verdicts, isServed verdict = true) ∧ v.machine.passAt? .watcher = none ∧
      v.polls.getLast? = some v.version ∧ v.reads.getLast? = some 0 ∧ 0 < v.version := by
  have seen : look (starting ++ firstPass ++ [.modify 20, .step (.poll (some 20))]) =
      some (true, 1, [1], [0], true, true) := by
    decide +kernel
  obtain ⟨machine, v, begun, watched, served, done, version, polls, reads⟩ := exists_of_look seen
  refine ⟨machine, v, begun, watched, served, done, ?_, ?_, ?_⟩
  · rw [polls, version]
    rfl
  · rw [reads]
    rfl
  · rw [version]
    exact Nat.one_pos

end Vigil

end PreviewSync.Sync
