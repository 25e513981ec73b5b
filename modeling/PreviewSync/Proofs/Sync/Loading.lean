import PreviewSync.Proofs.Cache.Renewal
import PreviewSync.Proofs.Sync.Batch
import PreviewSync.Proofs.Sync.Passes

/-!
# The keys that passes and batches act by

No pass is run and no batch is started before the change cache has been loaded. From then on the
keys in memory are those that are written, and only workers change them. So the actions of a pass
are due until its batch is started with them.

## Main Definitions

* `Machine.written` — the keys that the next program would begin with
* `Machine.IsUntouched` — nothing has been done that depends on the change cache
* `Machine.Remembers` — after that the keys in memory are written, with `Machine.Remembers.step`
* `Pass.Carries`, `Machine.carries_of_step` — the actions that a pass has found are due
* `Machine.Transition.single_cases` — where the only batch comes from
-/

namespace PreviewSync.Sync

/-- A worker leaves a cache that is kept as one that is kept. It changes the cache by recording and
forgetting, and each of these writes the file or changes nothing. -/
theorem Worker.isKept_of_step {config : Config} {s s' : Shared} {w w' : Worker} {answer : Answer}
    (h : w.step config s answer = some (s', w')) (kept : s.cache.IsKept s.disk) :
    s'.cache.IsKept s'.disk := by
  rcases step_cases h with ⟨-, rfl, -⟩ | ⟨stage, key, action, rest, progress, -, -, moved, -⟩
  · exact kept
  · rcases moved.cache_cases with ⟨-, sameCache, sameDisk⟩ | ⟨-, -, trouble, isChanged, changed⟩
    · rwa [sameCache, sameDisk]
    · unfold Stage.change at changed
      split at changed
      · exact kept.remove changed
      · exact kept.insert changed

/-- Whether the owner has not come as far as starting a session. Up to then the change cache may
never have been loaded. -/
def OwnerPoint.isUnarmed : OwnerPoint → Bool
  | resting | opening _ | loading _ | waiting => true
  | _ => false

namespace Machine

/-- The keys that are left when the program ends now. A program that follows knows these and nothing
else. -/
def written (m : Machine) : KeySet :=
  m.hub.cache.written m.hub.disk

/-- Nothing has been done that depends on the keys of the change cache. As long as that is so they
may differ from what the file holds. -/
structure IsUntouched (m : Machine) : Prop where
  session : m.session = none
  watching : m.watching = none
  slot : m.hub.slot = none
  batches : m.hub.batches = []
  owner : m.owner.isUnarmed = true

variable {m m' : Machine} {label : Label} {result : Option Return} {party : Party}

namespace IsUntouched

theorem make {config : Config} {client : Store.Client} {cache : Cache} {disk : Disk} :
    (Machine.make config client cache disk).IsUntouched :=
  ⟨rfl, rfl, rfl, rfl, rfl⟩

theorem batch?_eq_none (h : m.IsUntouched) (number : Nat) : m.hub.batch? number = none := by
  rw [Hub.batch?, h.batches]
  rfl

theorem passAt?_eq_none (h : m.IsUntouched) (party : Party) : m.passAt? party = none := by
  cases party with
  | owner =>
    have unarmed := h.owner
    rw [passAt?]
    split
    · rename_i atPass
      rw [atPass] at unarmed
      cases unarmed
    · rfl
  | watcher =>
    rw [passAt?, h.watching]
    rfl

/-- A call that begins leaves everything untouched. Only its later steps do anything to files. -/
theorem call (h : m.IsUntouched) {call : Call} (called : m.call call = (m', result)) :
    m'.IsUntouched := by
  have idle : m.isSynchronizing = false := by rw [isSynchronizing, h.session]; rfl
  unfold Machine.call at called
  split at called
  · rw [idle] at called
    simp only [Bool.false_eq_true, if_false] at called
    split at called <;> cases called <;> exact ⟨h.session, h.watching, h.slot, h.batches, rfl⟩
  · rw [h.session] at called
    cases called
    exact ⟨h.session, h.watching, h.slot, h.batches, rfl⟩
  · cases called
    exact ⟨h.session, h.watching, h.slot, h.batches, rfl⟩
  · rw [h.session] at called
    cases called
    exact ⟨h.session, h.watching, h.slot, h.batches, rfl⟩

/-- A step of the owner leaves everything untouched, unless the change cache is loaded. -/
theorem ownerStep (h : m.IsUntouched) {answer : OwnerAnswer}
    (stepped : m.ownerStep answer = some (m', result)) :
    m'.IsUntouched ∨ ∃ trouble, answer = .load trouble ∧
      m.hub.cache.load m.hub.disk trouble = (m'.hub.cache, m'.hub.disk, .ok ()) := by
  have unarmed := h.owner
  unfold Machine.ownerStep at stepped
  split at stepped
  case h_1 | h_2 | h_4 =>
    cases stepped
    exact .inl ⟨h.session, h.watching, h.slot, h.batches, rfl⟩
  case h_3 session trouble atPoint =>
    rcases loaded : m.hub.cache.load m.hub.disk trouble with ⟨cache, disk, fault | ⟨⟩⟩ <;>
      rw [Machine.load, loaded] at stepped <;> cases stepped
    · exact .inl ⟨h.session, h.watching, h.slot, h.batches, rfl⟩
    · exact .inr ⟨trouble, rfl, loaded⟩
  case h_7 waiting =>
    unfold take Hub.take at stepped
    split at stepped
    · cases stepped
    · rw [h.slot] at stepped
      cases stepped
      exact .inl ⟨h.session, h.watching, rfl, h.batches, rfl⟩
  case h_12 => cases stepped
  -- At the other points the owner would have started a session before.
  all_goals
    rename_i atPoint
    rw [atPoint] at unarmed
    cases unarmed

/-- A step leaves everything untouched, unless the change cache is loaded. -/
theorem step (h : m.IsUntouched) (stepped : m.step label = some (m', result)) :
    m'.IsUntouched ∨ ∃ trouble, label = .owner (.load trouble) ∧
      m.hub.cache.load m.hub.disk trouble = (m'.hub.cache, m'.hub.disk, .ok ()) := by
  cases label with
  | call call =>
    unfold Machine.step at stepped
    dsimp only at stepped
    split at stepped
    · exact .inl (h.call (Option.some.inj stepped))
    · cases stepped
  | owner answer =>
    refine (h.ownerStep stepped).imp_right ?_
    rintro ⟨trouble, rfl, loaded⟩
    exact ⟨trouble, rfl, loaded⟩
  | poll reading =>
    obtain ⟨next, polled, -⟩ := Option.map_eq_some_iff.1 stepped
    rw [poll, h.watching] at polled
    cases polled
  | watcher answer =>
    obtain ⟨next, stepped, -⟩ := Option.map_eq_some_iff.1 stepped
    rw [watcherStep, h.watching] at stepped
    cases stepped
  | worker number answer =>
    obtain ⟨hub, worked, -⟩ := Option.map_eq_some_iff.1 stepped
    obtain ⟨worker, found, -⟩ := Option.bind_eq_some_iff.1 worked
    rw [h.batch?_eq_none] at found
    cases found
  | register identifier profile destination =>
    cases stepped
    unfold Machine.register
    split <;> exact .inl ⟨h.session, h.watching, h.slot, h.batches, h.owner⟩
  | unregister identifier =>
    cases stepped
    exact .inl ⟨h.session, h.watching, h.slot, h.batches, h.owner⟩

end IsUntouched

/-- Keys that are written stay so: loading brings nothing new, and workers write what they
change. -/
theorem Transition.isKept (moved : m.Transition label m' result)
    (there : ∀ trouble, label = .owner (.load trouble) → trouble .read ≠ some .notFound)
    (kept : m.hub.cache.IsKept m.hub.disk) : m'.hub.cache.IsKept m'.hub.disk := by
  rcases moved.worker_cases with
    ⟨number, answer, worker, shared, worker', rfl, found, worked, rfl⟩ | other
  · exact Worker.isKept_of_step worked kept
  · rcases moved.cache_cases other with ⟨sameCache, sameDisk⟩ | ⟨trouble, ended, rfl, loaded⟩
    · rwa [sameCache, sameDisk]
    · obtain ⟨sameCache, sameDisk⟩ := kept.load (there trouble rfl) loaded
      rwa [sameCache, sameDisk]

/-- The file of the change cache can be read if it is there, and the keys in memory are written as
soon as anything depends on them. A session loads the cache before it makes its first pass, and that
is where the one turns into the other. -/
structure Remembers (m : Machine) : Prop where
  reachable : m.hub.cache.IsReachable m.hub.disk
  kept : m.IsUntouched ∨ m.hub.cache.IsKept m.hub.disk

namespace Remembers

/-- The keys that a batch acts by are written. So what it leaves undone is found undone after a
restart as well. -/
theorem isKept_of_batch (h : m.Remembers) {number : Nat} {worker : Worker}
    (found : m.hub.batch? number = some worker) : m.hub.cache.IsKept m.hub.disk := by
  refine h.kept.resolve_left fun untouched => ?_
  rw [untouched.batch?_eq_none] at found
  cases found

/-- The keys that a pass acts by are written. -/
theorem isKept_of_passAt (h : m.Remembers) {destination : String} {pass : Pass}
    (running : m.passAt? party = some (destination, pass)) : m.hub.cache.IsKept m.hub.disk := by
  refine h.kept.resolve_left fun untouched => ?_
  rw [untouched.passAt?_eq_none] at running
  cases running

/-- A step keeps the keys in memory written, and only workers change them. A change that cannot be
written is not kept, so memory and file never part. -/
theorem step (h : m.Remembers) (stepped : m.step label = some (m', result))
    (there : ∀ trouble, label = .owner (.load trouble) → trouble .read ≠ some .notFound) :
    m'.Remembers ∧
      ((∀ number answer, label ≠ .worker number answer) → m'.written = m.written) := by
  have moved := transition_of_step stepped
  have kept : m'.IsUntouched ∨ m'.hub.cache.IsKept m'.hub.disk := by
    rcases h.kept with untouched | kept
    · refine (untouched.step stepped).imp_right ?_
      rintro ⟨trouble, rfl, loaded⟩
      have after := Cache.loaded_of_load h.reachable (there trouble rfl)
      rw [loaded] at after
      exact after.kept rfl
    · exact .inr (moved.isKept there kept)
  rcases moved.worker_cases with
    ⟨number, answer, worker, shared, worker', rfl, found, worked, rfl⟩ | other
  · refine ⟨⟨?_, kept⟩, fun other => absurd rfl (other number answer)⟩
    exact (Worker.isKept_of_step worked (h.isKept_of_batch found)).isReachable
  · rcases moved.cache_cases other with ⟨sameCache, sameDisk⟩ | ⟨trouble, ended, rfl, loaded⟩
    · refine ⟨⟨?_, kept⟩, fun _ => ?_⟩
      · rw [sameCache, sameDisk]
        exact h.reachable
      · rw [written, written, sameCache, sameDisk]
    · have after := Cache.loaded_of_load h.reachable (there trouble rfl)
      rw [loaded] at after
      exact ⟨⟨after.reachable, kept⟩, fun _ => after.written⟩

end Remembers

end Machine

/-- The actions that a pass has found, if it has come as far as that. Before its comparison, a pass
carries nothing that could be wrong. -/
def Pass.Carries (actions : List (String × Action)) : Pass → Prop
  | lowering carried | launching carried => carried = actions
  | _ => True

/-- A pass carries what its comparison has come to. -/
theorem Hub.PassMove.carries {hub hub' : Hub} {party : Party} {destination : String}
    {pass next : Pass} {answer : CatalogAnswer} {progress : PassProgress}
    {actions : List (String × Action)}
    (moved : PassMove hub party destination pass answer hub' progress) (here : pass.Carries actions)
    (compared : ∀ keys, answer = .keys (.ok keys) → difference keys hub.cache.keys = actions)
    (goesOn : progress.pass? = some next) : next.Carries actions := by
  cases moved <;> cases goesOn
  case differ keys differing => exact compared keys rfl
  case lower => exact here
  all_goals trivial

/-- No worker takes a step once a pass has looked at the slot. This is why the change cache is the
same when actions are compared and when they are handed to a batch. -/
theorem Machine.SingleFlight.ne_worker_of_isPast {m m' : Machine} {label : Label}
    {result : Option Return} (h : m.SingleFlight) (moved : m.Transition label m' result)
    {party : Party} {destination : String} {pass : Pass}
    (running : m.passAt? party = some (destination, pass)) (past : pass.isPast = true) :
    ∀ number answer, label ≠ .worker number answer := by
  refine moved.worker_cases.resolve_left ?_
  rintro ⟨number, answer, worker, shared, worker', -, found, worked, -⟩
  have atEnd := h.isOver_of_isPast running past _ (List.mem_of_getElem? found)
  rw [Worker.isOver_of_step worked] at atEnd
  cases atEnd

/-- The actions that a pass carries are those that are due, since no worker takes a step while a
pass is that far. -/
theorem Machine.carries_of_step {m m' : Machine} {label : Label} {result : Option Return}
    {catalog : List String} {party : Party} {destination : String} {pass : Pass}
    (h : ∀ party destination pass, m.passAt? party = some (destination, pass) →
      pass.Carries (difference catalog m.written))
    (sound : m.SingleFlight) (remembers : m.Remembers) (stepped : m.step label = some (m', result))
    (same : (∀ number answer, label ≠ .worker number answer) → m'.written = m.written)
    (listed : ∀ party keys, label.passAnswer? party = some (.keys (.ok keys)) → keys = catalog)
    (after : m'.passAt? party = some (destination, pass)) :
    pass.Carries (difference catalog m'.written) := by
  by_cases own : m.passAt? party = none ∨ label.passAnswer? party = none
  · rcases (transition_of_step stepped).passAt?_cases own after with rfl | before
    · trivial
    · have carries := h party destination pass before
      by_cases past : pass.isPast = true
      · rwa [same (sound.ne_worker_of_isPast (transition_of_step stepped) before past)]
      · cases pass <;> trivial
  · -- A step of the pass itself, which may be its comparison.
    rw [not_or] at own
    obtain ⟨⟨destination', before⟩, running⟩ := Option.ne_none_iff_exists'.1 own.1
    obtain ⟨answer, told⟩ := Option.ne_none_iff_exists'.1 own.2
    obtain ⟨progress, -, moved, next, -⟩ := passStep?_of_running stepped running told
    rw [next] at after
    obtain ⟨_, goesOn, pair⟩ := Option.map_eq_some_iff.1 after
    cases pair
    have idle : ∀ number answer, label ≠ .worker number answer := by
      rintro number answer rfl
      cases party <;> cases told
    rw [same idle]
    refine moved.carries (h party _ before running) ?_ goesOn
    rintro keys rfl
    rw [listed party keys told, written, (remembers.isKept_of_passAt running).written_eq]

/-- Where the only batch comes from that there is after a step of someone else than a worker: it was
the only one before, or it is started. A program that has started one batch only is told by that
batch. -/
theorem Machine.Transition.single_cases {m m' : Machine} {label : Label} {result : Option Return}
    (moved : m.Transition label m' result) (other : ∀ number answer, label ≠ .worker number answer)
    {only : Worker} (single : m'.hub.batches = [only]) :
    (∃ worker, m.hub.batches = [worker] ∧ only.pending = worker.pending ∧
      only.report = worker.report) ∨
    ∃ destination, m.Launching destination only.pending := by
  have kept : m.hub.batches = [only] → (∃ worker, m.hub.batches = [worker] ∧
      only.pending = worker.pending ∧ only.report = worker.report) ∨
      ∃ destination, m.Launching destination only.pending :=
    fun before => .inl ⟨only, before, rfl, rfl⟩
  -- One batch more is the only one only if there was none before.
  have launched : ∀ destination actions, m.Launching destination actions →
      m.hub.batches ++ [{ number := m.hub.batches.length, destination, pending := actions }] =
        [only] → ∃ destination, m.Launching destination only.pending := by
    intro destination actions launching grown
    rw [List.append_eq_singleton_iff] at grown
    rcases grown with ⟨-, last⟩ | ⟨-, ⟨⟩⟩
    cases last
    exact ⟨destination, launching⟩
  cases moved with
  | @pass destination pass answer hub progress atPass passed =>
    cases passed with
    | launch => exact .inr (launched _ _ (.inl atPass) single)
    | _ => exact kept single
  | watch atPass passed =>
    cases passed with
    | launch => exact .inr (launched _ _ (.inr ⟨_, atPass⟩) single)
    | _ => exact kept single
  -- A cancellation changes the point of a worker, but neither what it has left nor its report.
  | cancel =>
    replace single : m.hub.cancelPublished.batches = [only] := single
    unfold Hub.cancelPublished at single
    split at single
    · rename_i number known
      replace single : m.hub.batches.modify number Worker.cancel = [only] := single
      obtain ⟨worker, before⟩ : ∃ worker, m.hub.batches = [worker] := by
        rw [← List.length_eq_one_iff, ← List.length_modify Worker.cancel m.hub.batches, single]
        rfl
      refine .inl ⟨worker, before, ?_⟩
      rw [before] at single
      cases number with
      | zero =>
        cases single
        obtain ⟨point, same⟩ := worker.cancel_eq
        rw [same]
        exact ⟨rfl, rfl⟩
      | succ number =>
        rw [List.modify_succ_cons, List.modify_nil] at single
        cases single
        exact ⟨rfl, rfl⟩
    · exact kept single
  | work => exact absurd rfl (other _ _)
  | _ => exact kept single

end PreviewSync.Sync
