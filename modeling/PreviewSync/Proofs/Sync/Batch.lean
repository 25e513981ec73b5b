import PreviewSync.Proofs.Catalog.Difference
import PreviewSync.Proofs.Runs
import PreviewSync.Proofs.Sync.Item
import PreviewSync.Sync.Batch

/-!
# The account of a batch

A worker goes through the actions of its batch in order, and others act between any two of its
steps. When it is over, each action either has been settled, by success or by a fault, or is left
over, and the report, the change cache and what was put on the wire all agree with that split. So a
comparison of the same catalog with the cache that the batch leaves asks for the failed actions and
those left over, and for nothing else.

## Main Definitions

* `Worker.step_cases` — what a step of a worker can do
* `Course` — a worker with what it shares and what it has put on the wire
* `Settled` — an action that a batch is done with
* `Account` — the account that a course gives of its actions
* `Course.run_account`, `Account.difference_eq` — every course keeps it, and the next pass

## Design Notes

The account is kept at every moment, not only at the end. While an item is at work its action counts
as left over; it is moved to the settled ones by the step that ends it.
-/

namespace PreviewSync.Sync

open Store (Client Dispatch)

namespace Worker

variable {config : Config} {s s' : Shared} {w w' : Worker} {answer : Answer}

/-- A step of a worker is a choice, or a move of the first item that is left. All that is proved of
workers goes by these two cases, and by the moves of the item in the second. -/
theorem step_cases (h : w.step config s answer = some (s', w')) :
    (w.point = .choosing ∧ s' = s ∧ w' = w.choose s.cancel) ∨
      ∃ stage key action rest progress,
        w.point = .working stage ∧ w.pending = (key, action) :: rest ∧
        Stage.Move config ⟨w.number, w.destination, key, action⟩ s stage answer s' progress ∧
        w' = w.advance key action rest progress := by
  unfold step at h
  split at h
  · rename_i atChoice
    cases h
    exact .inl ⟨atChoice, rfl, rfl⟩
  · rename_i stage key action rest atWork pending
    obtain ⟨⟨shared, progress⟩, moved, pair⟩ := Option.map_eq_some_iff.1 h
    cases pair
    exact .inr ⟨stage, key, action, rest, progress, atWork, pending, Stage.move_of_step moved, rfl⟩
  · cases h

/-- A fault other than a cancellation is noted. The batch goes on with the next item, so one photo
cannot keep the others from being settled. -/
theorem advance_failed {key : String} {action : Action} {rest : List (String × Action)}
    {fault : ItemFault} (h : fault ≠ .cancelled) :
    w.advance key action rest (.failed fault) =
      { w with pending := rest, point := .choosing, report := w.report.note key fault } := by
  cases fault <;> first | rfl | exact absurd rfl h

/-- A worker leaves a report iff it has finished. One that broke down leaves none, whatever it had
counted until then. -/
theorem result?_eq_some {report : Report} :
    w.result? = some report ↔ w.point = .finished ∧ w.report = report := by
  unfold result?
  split
  · rename_i atEnd
    simp [atEnd]
  · rename_i elsewhere
    constructor
    · nofun
    · rintro ⟨atEnd, -⟩
      exact absurd atEnd elsewhere

/-- Where a worker can stand: an item at work is at a stage of its action, and a batch is cancelled
iff it is over with actions left. Before that the report is never marked as cancelled, so the mark
can be read off the end alone. -/
def Sound (w : Worker) : Prop :=
  match w.point with
  | .working stage => w.report.cancelled = false ∧
      ∃ key action rest, w.pending = (key, action) :: rest ∧ stage.Suits action
  | .finished => w.report.cancelled = true ↔ w.pending ≠ []
  | _ => w.report.cancelled = false

namespace Sound

/-- A cancellation of the request leaves the worker where it is. -/
theorem cancel (h : w.Sound) : w.cancel.Sound := by
  unfold Worker.cancel
  split
  · rename_i stage atWork
    rw [Sound, atWork] at h
    obtain ⟨uncancelled, key, action, rest, pending, suits⟩ := h
    exact ⟨uncancelled, key, action, rest, pending, Stage.suits_cancel suits⟩
  · exact h

/-- The choice of the next item is sound. It is the place where a batch finds out that it is
cancelled, or that nothing is left. -/
theorem choose (h : w.Sound) (atChoice : w.point = .choosing) (flag : Bool) :
    (w.choose flag).Sound := by
  rw [Sound, atChoice] at h
  unfold Worker.choose
  split
  · rename_i nothing
    simp [Sound, nothing, h]
  · rename_i key action rest pending
    split
    · simp [Sound, finishCancelled, pending]
    · split
      · rename_i first
        exact ⟨h, key, action, rest, pending, Stage.suits_of_first first⟩
      · rw [Sound, atChoice]
        exact h

/-- A move of the item at work is sound. Either the item stays at work, or it is settled and the
next one is to be chosen, or the batch has ended by it. -/
theorem advance (h : w.Sound) {stage : Stage} {key : String} {action : Action}
    {rest : List (String × Action)} {progress : Progress} (atWork : w.point = .working stage)
    (pending : w.pending = (key, action) :: rest)
    (moved : Stage.Move config ⟨w.number, w.destination, key, action⟩ s stage answer s' progress) :
    (w.advance key action rest progress).Sound := by
  rw [Sound, atWork] at h
  obtain ⟨uncancelled, key', action', rest', pending', suits⟩ := h
  rw [pending] at pending'
  cases pending'
  cases progress with
  | reached next => exact ⟨uncancelled, key, action, rest, pending, moved.suits suits next rfl⟩
  | done => cases action <;> exact uncancelled
  | broken => exact uncancelled
  | failed fault =>
    by_cases cancelled : fault = .cancelled
    · rw [cancelled]
      simp [Worker.advance, Sound, finishCancelled, pending]
    · rw [advance_failed cancelled]
      exact uncancelled

/-- Every step of a worker is sound. Soundness ties the point of a worker to what is pending, so
that nothing is at work without an item. -/
theorem step (h : w.Sound) (stepped : w.step config s answer = some (s', w')) : w'.Sound := by
  rcases step_cases stepped with
    ⟨atChoice, -, rfl⟩ | ⟨stage, key, action, rest, progress, atWork, pending, moved, rfl⟩
  · exact h.choose atChoice s.cancel
  · exact h.advance atWork pending moved

end Sound

/-- The choice of the next item leaves the account alone, unless an update is passed over.
Comparisons never come to updates, so in a batch none is passed over. -/
theorem choose_eq (noUpdate : ∀ item ∈ w.pending, item.2 ≠ .update) (flag : Bool) :
    ∃ point cancelled,
      w.choose flag = { w with point, report := { w.report with cancelled } } := by
  unfold choose
  split
  · exact ⟨.finished, w.report.cancelled, rfl⟩
  · rename_i key action rest pending
    split
    · exact ⟨.finished, true, rfl⟩
    · split
      · rename_i stage _
        exact ⟨.working stage, w.report.cancelled, rfl⟩
      · rename_i none
        have known := noUpdate (key, action) (by rw [pending]; exact List.mem_cons_self)
        cases action <;> first | exact absurd rfl known | cases none

/-- What a worker has put on the wire by a step: the first item that is left, with the dispatch of
its operation. It is told by the points before and after, as a worker keeps no record of it once the
operation is over. -/
def dispatched? (before after : Worker) : Option ((String × Action) × Dispatch) :=
  match before.point, before.pending, after.point with
  | .working (.starting _ _), item :: _, .working (.exchanging (some dispatch) _) =>
    some (item, dispatch)
  | _, _, _ => none

/-- A move that ends the item at work puts nothing on the wire. Its request was put there before, if
it came to that. -/
theorem dispatched?_advance {key : String} {action : Action} {rest : List (String × Action)}
    {progress : Progress} (ended : ∀ next, progress ≠ .reached next) :
    w.dispatched? (w.advance key action rest progress) = none := by
  have elsewhere : ∀ stage, (w.advance key action rest progress).point ≠ .working stage := by
    intro stage there
    cases progress with
    | reached next => exact ended next rfl
    | done | broken => cases there
    | failed fault => cases fault <;> cases there
  unfold dispatched?
  split
  · rename_i atExchange
    exact absurd atExchange (elsewhere _)
  · rfl

/-- The item at work, as soon as its operation has started. From then on its request may be on the
wire although the action is not settled, so the requests that were sent are those of settled actions
and, at most, of this one. A worker that is over keeps it: the item that was cancelled, or in which
it broke down, is left over and may have been sent all the same. -/
def front (w : Worker) : List (String × Action) :=
  match w.point with
  | .choosing => []
  | .working stage => if stage.hasStarted then w.pending.take 1 else []
  | _ => w.pending.take 1

theorem front_sublist (w : Worker) : w.front.Sublist (w.pending.take 1) := by
  unfold front
  split
  · exact List.nil_sublist _
  · split
    · exact List.Sublist.refl _
    · exact List.nil_sublist _
  · exact List.Sublist.refl _

/-- A cancellation of the request leaves the worker where it is. -/
theorem cancel_eq (w : Worker) : ∃ point, w.cancel = { w with point } := by
  unfold cancel
  split
  · rename_i stage _
    exact ⟨.working stage.cancel, rfl⟩
  · exact ⟨w.point, rfl⟩

theorem front_cancel (w : Worker) : w.cancel.front = w.front := by
  unfold cancel
  split
  · rename_i stage atWork
    rw [front, front, atWork]
    dsimp only
    rw [Stage.hasStarted_cancel]
  · rfl

end Worker

/-- A worker with what it shares, and what it has put on the wire so far. It is a batch on its own,
without the parties around it: what these may do to it is part of the turns. -/
structure Course where
  shared : Shared
  worker : Worker
  sent : List ((String × Action) × Dispatch) := []

/-- What happens next to a batch. Others may raise or lower the flag, cancel its request, and change
the registrations and the disk; only the worker changes the cache. This allows for all that owner
and watcher do to a batch, and for more. -/
inductive Turn where
  | work (answer : Answer)
  | flag (value : Bool)
  | cancel
  | others (client : Client) (disk : Disk)

namespace Course

/-- A batch that is about to begin. -/
def start (number : Nat) (destination : String) (actions : List (String × Action))
    (shared : Shared) : Course :=
  ⟨shared, { number, destination, pending := actions }, []⟩

/-- The effect of a turn. There is none when the worker cannot take the step. What is put on the
wire is noted together with the item that it is for, since a dispatch does not name it. -/
def step (config : Config) (c : Course) : Turn → Option Course
  | .work answer =>
    (c.worker.step config c.shared answer).map fun (shared, worker) =>
      ⟨shared, worker, c.sent ++ (c.worker.dispatched? worker).toList⟩
  | .flag value => some { c with shared.cancel := value }
  | .cancel => some { c with worker := c.worker.cancel }
  | .others client disk => some { c with shared.client := client, shared.disk := disk }

/-- The effect of several turns. A course may stop anywhere, and so the account has to be true at
every point of it. -/
def run (config : Config) (c : Course) (turns : List Turn) : Option Course :=
  turns.foldlM (step config) c

end Course

/-- An action that a batch is done with, and the fault of a failed one. The order in which actions
are settled is that of the batch, so a list of these is a prefix of it with its outcomes. -/
structure Settled where
  key : String
  action : Action
  fault : Option ItemFault
deriving DecidableEq

namespace Settled

/-- The action itself. -/
def item (settled : Settled) : String × Action :=
  (settled.key, settled.action)

/-- Whether an action has failed. -/
def isFailed (settled : Settled) : Bool :=
  settled.fault.isSome

/-- Whether an action of some kind has succeeded. It is in the change cache then, since an action
succeeds by changing it. -/
def isDone (action : Action) (settled : Settled) : Bool :=
  settled.action == action && settled.fault.isNone

/-- The note on a failed action. -/
def note? (settled : Settled) : Option (String × ItemFault) :=
  settled.fault.map fun fault => (settled.key, fault)

end Settled

/-- The account that a course gives of its actions, when it began with some synchronized keys and
has settled a part of the actions. Report, cache and wire are each told by the same list of settled
actions, so they cannot disagree. -/
structure Account (actions : List (String × Action)) (synchronized : KeySet)
    (settled : List Settled) (c : Course) : Prop where
  /-- Each action is settled or left over, in order. -/
  split : actions = settled.map Settled.item ++ c.worker.pending
  /-- The report counts the uploads, -/
  uploaded : c.worker.report.uploaded = settled.countP (Settled.isDone .add)
  /-- and the removals, -/
  removed : c.worker.report.removed = settled.countP (Settled.isDone .remove)
  /-- and lists the failed actions in order, -/
  failures : c.worker.report.failures = settled.filterMap Settled.note?
  /-- and that is all that is settled. -/
  total : c.worker.report.uploaded + c.worker.report.removed + c.worker.report.failures.length =
    settled.length
  /-- An action that was cancelled is left over. -/
  uncancelled : ∀ entry ∈ settled, entry.fault ≠ some .cancelled
  /-- The keys of the cache are the old ones with those added and without those removed. -/
  keys : ∀ key, key ∈ c.shared.cache.keys ↔
    ⟨key, .add, none⟩ ∈ settled ∨ key ∈ synchronized ∧ ⟨key, .remove, none⟩ ∉ settled
  /-- The settled actions, and the one at work, have put at most one request each on the wire. -/
  sent : (c.sent.map (·.1)).Sublist (settled.map Settled.item ++ c.worker.front)
  /-- The worker stands where it can. -/
  sound : c.worker.Sound

namespace Account

variable {config : Config} {actions : List (String × Action)} {synchronized : KeySet}
  {settled : List Settled} {c : Course}

/-- A batch begins with nothing settled. -/
theorem start {number : Nat} {destination : String} {s : Shared} :
    Account actions s.cache.keys [] (Course.start number destination actions s) where
  split := rfl
  uploaded := rfl
  removed := rfl
  failures := rfl
  total := rfl
  uncancelled := by simp
  keys key := by simp [Course.start]
  sent := List.nil_sublist _
  sound := rfl

/-- The account is kept as long as no action is settled. Most steps only bring the item at work
forward. -/
theorem of_same (h : Account actions synchronized settled c) {s : Shared} {point : Point}
    {cancelled : Bool} {sent : List ((String × Action) × Dispatch)}
    (keys : s.cache.keys = c.shared.cache.keys)
    (part : (sent.map (·.1)).Sublist (settled.map Settled.item ++
      Worker.front { c.worker with point }))
    (sound : Worker.Sound { c.worker with
      point, report := { c.worker.report with cancelled } }) :
    Account actions synchronized settled
      ⟨s, { c.worker with point, report := { c.worker.report with cancelled } }, sent⟩ where
  split := h.split
  uploaded := h.uploaded
  removed := h.removed
  failures := h.failures
  total := h.total
  uncancelled := h.uncancelled
  keys key := by rw [keys, h.keys key]
  sent := part
  sound := sound

/-- The account moves on by one settled action when its item ends other than by a cancellation. The
key is a new one among those settled, since the actions are in strictly increasing order of keys,
and that is why the cache can be told by the list. -/
theorem settle (h : Account actions synchronized settled c) (order : Increasing actions)
    {key : String} {action : Action} {rest : List (String × Action)} {s : Shared}
    {report : Report} (pending : c.worker.pending = (key, action) :: rest)
    (known : action ≠ .update) (fault : Option ItemFault) (uncancelled : fault ≠ some .cancelled)
    (counted : report = match fault with
      | none => c.worker.report.count action
      | some fault => c.worker.report.note key fault)
    (sound : report.cancelled = false)
    (keys : ∀ other, other ∈ s.cache.keys ↔
      if fault = none then
        if action = .remove then other ∈ c.shared.cache.keys ∧ other ≠ key
        else other = key ∨ other ∈ c.shared.cache.keys
      else other ∈ c.shared.cache.keys) :
    Account actions synchronized (settled ++ [⟨key, action, fault⟩])
      { c with
        shared := s
        worker := { c.worker with pending := rest, point := .choosing, report } } where
  split := by
    rw [h.split, pending]
    simp [Settled.item]
  uploaded := by
    rw [counted, List.countP_append, ← h.uploaded]
    cases fault <;> cases action <;> rfl
  removed := by
    rw [counted, List.countP_append, ← h.removed]
    cases fault <;> cases action <;> rfl
  failures := by
    rw [counted, List.filterMap_append, ← h.failures]
    cases fault <;> cases action <;>
      first | rfl | exact (List.append_nil _).symm
  total := by
    rw [counted, List.length_append, ← h.total]
    cases fault <;> cases action <;> simp [Report.count, Report.note] <;>
      first | omega | exact absurd rfl known
  uncancelled := by
    intro entry member
    rcases List.mem_append.1 member with member | member
    · exact h.uncancelled entry member
    · rw [List.mem_singleton.1 member]
      exact uncancelled
  keys other := by
    have member : (key, action) ∈ actions := by
      rw [h.split, pending]
      exact List.mem_append_right _ List.mem_cons_self
    -- A key that is removed has not been added before, since it has one action only.
    have noAdd : action = .remove → ⟨key, .add, none⟩ ∉ settled := by
      rintro rfl found
      have earlier : (key, Action.add) ∈ actions := by
        rw [h.split]
        exact List.mem_append_left _ (List.mem_map_of_mem found)
      exact absurd (order.action_unique earlier member) (by decide)
    rw [keys, h.keys]
    simp only [List.mem_append, List.mem_singleton, Settled.mk.injEq]
    by_cases same : other = key
    · subst same
      cases fault <;> cases action <;> simp_all
    · cases fault <;> cases action <;> simp_all
  sent := by
    have before := h.sent.trans (List.Sublist.append_left (Worker.front_sublist c.worker) _)
    rw [pending] at before
    simpa [Worker.front, Settled.item] using before
  sound := sound

/-- The choice of the next item settles nothing. So a batch that is cancelled here leaves the next
item to a later pass. -/
theorem choose (h : Account actions synchronized settled c)
    (noUpdate : ∀ item ∈ actions, item.2 ≠ .update) (atChoice : c.worker.point = .choosing) :
    Account actions synchronized settled
      { c with worker := c.worker.choose c.shared.cancel } := by
  have left : ∀ item ∈ c.worker.pending, item.2 ≠ .update := by
    intro item member
    refine noUpdate item ?_
    rw [h.split]
    exact List.mem_append_right _ member
  have sound := h.sound.choose atChoice c.shared.cancel
  have before := h.sent
  rw [Worker.front, atChoice, List.append_nil] at before
  obtain ⟨point, cancelled, chosen⟩ := Worker.choose_eq left c.shared.cancel
  rw [chosen] at sound ⊢
  exact h.of_same rfl (before.trans (List.sublist_append_left _ _)) sound

/-- A cancellation of the request settles nothing. It is settled or left over by the worker, once it
notices. -/
theorem cancel (h : Account actions synchronized settled c) :
    Account actions synchronized settled { c with worker := c.worker.cancel } := by
  have sent := h.sent
  have sound := h.sound.cancel
  rw [← Worker.front_cancel] at sent
  obtain ⟨point, same⟩ := c.worker.cancel_eq
  rw [same] at sent sound ⊢
  exact h.of_same rfl sent sound

/-- What the item at work has put on the wire after a move that leads to another stage. It has put
one request there at most, and nothing before its operation has started. -/
theorem sent_of_reached (h : Account actions synchronized settled c) {stage next : Stage}
    {key : String} {action : Action} {rest : List (String × Action)} {s : Shared} {answer : Answer}
    (atWork : c.worker.point = .working stage) (pending : c.worker.pending = (key, action) :: rest)
    (moved : Stage.Move config ⟨c.worker.number, c.worker.destination, key, action⟩ c.shared stage
      answer s (.reached next)) :
    ((c.sent ++ (c.worker.dispatched? { c.worker with point := .working next }).toList).map
      (·.1)).Sublist
        (settled.map Settled.item ++ Worker.front { c.worker with point := .working next }) := by
  have before := h.sent
  rw [Worker.front, atWork] at before
  rcases moved.hasStarted rfl with same | ⟨request, operation, dispatch, flight, rfl, rfl⟩
  · have nothing : c.worker.dispatched? { c.worker with point := .working next } = none := by
      unfold Worker.dispatched?
      split
      · rename_i atStart _ atExchange
        rw [atWork] at atStart
        cases atStart
        cases atExchange
        cases same
      · rfl
    have front : Worker.front { c.worker with point := .working next } =
        if stage.hasStarted then c.worker.pending.take 1 else [] := by
      rw [← same]
      rfl
    rw [nothing, Option.toList_none, List.append_nil, front]
    exact before
  · -- The operation starts, so its item may be sent for the first time.
    have unsent : (c.sent.map (·.1)).Sublist (settled.map Settled.item) := by
      simpa [Stage.hasStarted] using before
    have front : Worker.front { c.worker with
        point := .working (.exchanging dispatch flight) } = [(key, action)] := by
      simp [Worker.front, Stage.hasStarted, pending]
    rw [front, List.map_append]
    refine List.Sublist.append unsent ?_
    cases dispatch <;> simp [Worker.dispatched?, atWork, pending]

/-- A move of the item at work settles its action at most. The cases are the ways in which an item
can go on or end. -/
theorem advance (h : Account actions synchronized settled c) (order : Increasing actions)
    (noUpdate : ∀ item ∈ actions, item.2 ≠ .update) {stage : Stage} {key : String}
    {action : Action} {rest : List (String × Action)} {progress : Progress} {s : Shared}
    {answer : Answer} (atWork : c.worker.point = .working stage)
    (pending : c.worker.pending = (key, action) :: rest)
    (moved : Stage.Move config ⟨c.worker.number, c.worker.destination, key, action⟩ c.shared stage
      answer s progress) :
    ∃ settled', Account actions synchronized settled'
      ⟨s, c.worker.advance key action rest progress,
        c.sent ++ (c.worker.dispatched? (c.worker.advance key action rest progress)).toList⟩ := by
  have sound := h.sound.advance atWork pending moved
  have uncancelled : c.worker.report.cancelled = false := by
    have here := h.sound
    rw [Worker.Sound, atWork] at here
    exact here.1
  -- Updates are the only actions that a worker passes over without settling them.
  have known : action ≠ .update := by
    refine noUpdate (key, action) ?_
    rw [h.split, pending]
    exact List.mem_append_right _ List.mem_cons_self
  have counted := h.sent.trans (List.Sublist.append_left (Worker.front_sublist c.worker) _)
  cases progress with
  | reached next =>
    have same := moved.keys_of_ne_done nofun
    exact ⟨settled, h.of_same same (h.sent_of_reached atWork pending moved) sound⟩
  | done =>
    rw [Worker.dispatched?_advance (by rintro _ ⟨⟩), Option.toList_none, List.append_nil]
    refine ⟨_, h.settle order pending known none nofun rfl ?_ fun other => ?_⟩
    · cases action <;> exact uncancelled
    · rcases moved.keys with ⟨undone, -⟩ | ⟨-, keys⟩
      · exact absurd rfl undone
      · exact keys other
  -- A worker that breaks down settles nothing: its item is left over, sent or not.
  | broken =>
    have same := moved.keys_of_ne_done nofun
    rw [Worker.dispatched?_advance (by rintro _ ⟨⟩), Option.toList_none, List.append_nil]
    exact ⟨settled, h.of_same same counted sound⟩
  | failed fault =>
    have same := moved.keys_of_ne_done nofun
    by_cases cancelled : fault = .cancelled
    · subst cancelled
      rw [Worker.dispatched?_advance (by rintro _ ⟨⟩), Option.toList_none, List.append_nil]
      exact ⟨settled, h.of_same same counted sound⟩
    · rw [Worker.dispatched?_advance (by rintro _ ⟨⟩), Option.toList_none, List.append_nil,
        Worker.advance_failed cancelled]
      refine ⟨_, h.settle order pending known (some fault) ?_ rfl uncancelled
        fun other => ?_⟩
      · simpa using cancelled
      · rw [same]
        rfl

/-- Every turn keeps the account. Turns of others touch neither the keys nor what the worker has
done, so only the steps of the worker are looked at. -/
theorem step (h : Account actions synchronized settled c) (order : Increasing actions)
    (noUpdate : ∀ item ∈ actions, item.2 ≠ .update) {turn : Turn} {c' : Course}
    (stepped : c.step config turn = some c') :
    ∃ settled', Account actions synchronized settled' c' := by
  cases turn with
  | flag value =>
    cases stepped
    exact ⟨settled, h.of_same rfl h.sent h.sound⟩
  | others client disk =>
    cases stepped
    exact ⟨settled, h.of_same rfl h.sent h.sound⟩
  | cancel =>
    cases stepped
    exact ⟨settled, h.cancel⟩
  | work answer =>
    obtain ⟨⟨s, worker⟩, worked, same⟩ := Option.map_eq_some_iff.1 stepped
    cases same
    rcases Worker.step_cases worked with
      ⟨atChoice, rfl, rfl⟩ | ⟨stage, key, action, rest, progress, atWork, pending, moved, rfl⟩
    · have nothing : c.worker.dispatched? (c.worker.choose c.shared.cancel) = none := by
        rw [Worker.dispatched?, atChoice]
      dsimp only
      rw [nothing, Option.toList_none, List.append_nil]
      exact ⟨settled, h.choose noUpdate atChoice⟩
    · exact h.advance order noUpdate atWork pending moved

/-- Every course keeps the account, by induction on its turns. The settled actions grow at their
end, in the order in which the comparison lists them. -/
theorem run (h : Account actions synchronized settled c) (order : Increasing actions)
    (noUpdate : ∀ item ∈ actions, item.2 ≠ .update) {turns : List Turn} {c' : Course}
    (ran : c.run config turns = some c') :
    ∃ settled', Account actions synchronized settled' c' := by
  refine foldlM_induction (p := fun c => ∃ settled, Account actions synchronized settled c) ran
    ⟨settled, h⟩ fun before after turn member here stepped => ?_
  obtain ⟨settled, h⟩ := here
  exact h.step order noUpdate stepped

/-- An action is left to do iff it has not been done. As keys are listed once, the outcome of an
action is not mixed up with that of another. -/
theorem mem_left_iff (h : Account actions synchronized settled c) (order : Increasing actions)
    {item : String × Action} (member : item ∈ actions) :
    item ∈ (settled.filter Settled.isFailed).map Settled.item ++ c.worker.pending ↔
      ⟨item.1, item.2, none⟩ ∉ settled := by
  have nodup : (settled.map Settled.item ++ c.worker.pending).Nodup := by
    rw [← h.split]
    exact order.nodup_keys.of_map _
  rw [List.nodup_append] at nodup
  obtain ⟨settledOnce, -, apart⟩ := nodup
  rw [List.mem_append, List.mem_map]
  constructor
  · -- An action is settled once, so it cannot have failed and been done, nor be done and left over.
    rintro (⟨entry, failed, rfl⟩ | left) done
    · rw [List.mem_filter] at failed
      have same := List.inj_on_of_nodup_map settledOnce failed.1 done rfl
      rw [same] at failed
      cases failed.2
    · exact apart _ (List.mem_map_of_mem done) _ left rfl
  · intro undone
    rw [h.split, List.mem_append, List.mem_map] at member
    rcases member with ⟨entry, found, rfl⟩ | left
    · refine .inl ⟨entry, List.mem_filter.2 ⟨found, ?_⟩, rfl⟩
      rw [Settled.isFailed, Option.isSome_iff_ne_none]
      intro succeeded
      have same : (⟨entry.item.1, entry.item.2, none⟩ : Settled) = entry := by
        rw [← succeeded]
        rfl
      rw [same] at undone
      exact undone found
    · exact .inr left

/-- What is left to do after a batch are the failed actions and those left over, in order. It is
here that the change cache and the report are shown to agree. -/
theorem difference_eq {catalog : List String}
    (h : Account (difference catalog synchronized) synchronized settled c) :
    difference catalog c.shared.cache.keys =
      (settled.filter Settled.isFailed).map Settled.item ++ c.worker.pending := by
  refine difference_eq_of_sublist (fun item => ⟨item.1, item.2, none⟩ ∈ settled) ?_
    (fun item member => h.mem_left_iff increasing_difference member) (fun item done => ?_) h.keys
  · rw [h.split]
    exact (List.filter_sublist.map _).append (List.Sublist.refl _)
  · rw [h.split]
    exact List.mem_append_left _ (List.mem_map_of_mem done)

end Account

/-- A batch that has ended, as a whole: the actions between a catalog and a cache split into settled
ones and a rest, and the report, the cache, the wire and the next comparison agree with it. -/
theorem Course.run_account {config : Config} {catalog : List String} {s : Shared} {number : Nat}
    {destination : String} {turns : List Turn} {c : Course}
    (ran : (Course.start number destination (difference catalog s.cache.keys) s).run config turns =
      some c)
    (atEnd : c.worker.point = .finished) :
    ∃ (settled : List Settled) (rest : List (String × Action)),
      difference catalog s.cache.keys = settled.map Settled.item ++ rest ∧
      (rest ≠ [] ↔ c.worker.report.cancelled = true) ∧
      (∀ entry ∈ settled, entry.fault ≠ some .cancelled) ∧
      c.worker.report.uploaded = settled.countP (Settled.isDone .add) ∧
      c.worker.report.removed = settled.countP (Settled.isDone .remove) ∧
      c.worker.report.failures = settled.filterMap Settled.note? ∧
      c.worker.report.uploaded + c.worker.report.removed + c.worker.report.failures.length =
        settled.length ∧
      (∀ key, key ∈ c.shared.cache.keys ↔
        ⟨key, .add, none⟩ ∈ settled ∨ key ∈ s.cache.keys ∧ ⟨key, .remove, none⟩ ∉ settled) ∧
      (c.sent.map (·.1)).Sublist (settled.map Settled.item ++ rest.take 1) ∧
      Increasing (c.sent.map (·.1)) ∧
      difference catalog c.shared.cache.keys =
        (settled.filter Settled.isFailed).map Settled.item ++ rest := by
  have noUpdate : ∀ item ∈ difference catalog s.cache.keys, item.2 ≠ .update := by
    rintro ⟨key, action⟩ member rfl
    rcases mem_difference.1 member with ⟨⟨⟩, -⟩ | ⟨⟨⟩, -⟩
  obtain ⟨settled, account⟩ := Account.start.run increasing_difference noUpdate ran
  have sent := account.sent.trans (List.Sublist.append_left (Worker.front_sublist _) _)
  have all : (settled.map Settled.item ++ c.worker.pending.take 1).Sublist
      (difference catalog s.cache.keys) := by
    rw [account.split]
    exact List.Sublist.append_left (List.take_sublist _ _) _
  have ended := account.sound
  rw [Worker.Sound, atEnd] at ended
  exact ⟨settled, c.worker.pending, account.split, ended.symm, account.uncancelled,
    account.uploaded, account.removed, account.failures, account.total, account.keys, sent,
    increasing_difference.sublist (sent.trans all), account.difference_eq⟩

namespace Course

/-- Steps of the worker, with what it is answered. -/
def answered (answers : List Answer) : List Turn :=
  answers.map .work

/-- A batch of four actions: a preview is uploaded, an object is removed, a photo has no entry in
the catalog any more, and the batch is cancelled before the last removal. -/
def turnsOfFour : List Turn :=
  answered
      [.proceed, .entry (.ok (some ⟨"A", "A.lrprev", [⟨1, 220⟩]⟩)), .file (.ok [1]), .proceed,
        .image (.ok ⟨1, 1, [0, 0, 0]⟩), .file (.ok [1]), .proceed, .proceed, .proceed, .proceed,
        .time .epoch, .event (.respond 200 []), .proceed, .proceed, .proceed, .record .absent] ++
    answered
      [.proceed, .proceed, .proceed, .proceed, .proceed, .time .epoch, .event (.respond 204 []),
        .proceed, .proceed, .proceed, .record .absent] ++
    answered [.proceed, .entry (.ok none)] ++ [.flag true] ++ answered [.proceed]

/-- The client, the cache and the disk of that batch. -/
def sharedOfFour : Shared where
  client :=
    { registrations := [⟨"home", ⟨"AKID", "SECRET"⟩, ⟨"photos", ""⟩⟩]
      endpoint := some "http://localhost" }
  cache := Cache.inMemory ["B", "D"]
  disk := {}

/-- One upload and one removal have succeeded and are in the cache, one upload has failed, and one
removal is left: all four are accounted for, and the last two are what the next pass retries. -/
theorem run_account_of_four :
    ∃ c, (start 0 "home" (difference ["A", "C"] sharedOfFour.cache.keys) sharedOfFour).run {}
        turnsOfFour = some c ∧
      c.worker.point = .finished ∧
      c.worker.report = ⟨1, 1, [("C", .notInCatalog)], true⟩ ∧
      c.shared.cache.keys.toList = ["A", "D"] ∧
      ∃ (settled : List Settled) (rest : List (String × Action)),
        difference ["A", "C"] sharedOfFour.cache.keys = settled.map Settled.item ++ rest ∧
        rest ≠ [] ∧
        settled.countP (Settled.isDone .add) = 1 ∧
        settled.countP (Settled.isDone .remove) = 1 ∧
        settled.filterMap Settled.note? = [("C", .notInCatalog)] ∧
        settled.length = 3 ∧
        (∀ key, key ∈ c.shared.cache.keys ↔
          ⟨key, .add, none⟩ ∈ settled ∨
            key ∈ sharedOfFour.cache.keys ∧ ⟨key, .remove, none⟩ ∉ settled) ∧
        (c.sent.map (·.1)).Sublist (settled.map Settled.item ++ rest.take 1) ∧
        difference ["A", "C"] c.shared.cache.keys =
          (settled.filter Settled.isFailed).map Settled.item ++ rest := by
  have seen : ((start 0 "home" (difference ["A", "C"] sharedOfFour.cache.keys) sharedOfFour).run {}
      turnsOfFour).map (fun c => (c.worker.result?, c.shared.cache.keys.toList)) =
        some (some ⟨1, 1, [("C", .notInCatalog)], true⟩, ["A", "D"]) := by
    decide +kernel
  obtain ⟨c, ran, same⟩ := Option.map_eq_some_iff.1 seen
  obtain ⟨ended, keys⟩ := Prod.mk.inj same
  obtain ⟨atEnd, report⟩ := Worker.result?_eq_some.1 ended
  obtain ⟨settled, rest, split, cancelled, -, uploaded, removed, failures, total, recorded, sent, -,
    left⟩ := run_account ran atEnd
  rw [report] at cancelled uploaded removed failures total
  exact ⟨c, ran, atEnd, report, keys, settled, rest, split, cancelled.2 rfl, uploaded.symm,
    removed.symm, failures.symm, total.symm, recorded, sent, left⟩

end Course

end PreviewSync.Sync
