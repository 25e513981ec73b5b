import PreviewSync.Proofs.Catalog.Difference
import PreviewSync.Proofs.Sync.Frames
import PreviewSync.Proofs.Sync.SingleFlight

/-!
# What the actions of a run are about

A pass takes the keys of its actions from the catalog and from the change cache, and a batch takes
them from its pass. So what holds of the keys of both holds of all keys that are acted on.

## Main Definitions

* `Pass.actions` — the actions that a pass carries along
* `Machine.ActsOn` — all keys that are acted on, with `Machine.ActsOn.step`
-/

namespace PreviewSync.Sync

/-- The actions that a pass carries along. Only the two stages after a comparison have any. -/
def Pass.actions : Pass → List (String × Action)
  | lowering actions | launching actions => actions
  | _ => []

/-- A pass at its beginning or outside the lock carries no actions. -/
theorem Pass.actions_of_not_holdsLock {pass : Pass} (h : pass.holdsLock = false) :
    pass.actions = [] := by
  cases pass <;> first | rfl | cases h

namespace Hub

variable {hub hub' : Hub} {party : Party} {destination : String} {pass : Pass}
  {answer : CatalogAnswer} {progress : PassProgress} {p : String → Prop}

/-- A pass takes its actions from the catalog and from the change cache. There is no third source,
so a kind of keys that both keep to is kept to by every action. -/
theorem PassMove.actions (moved : PassMove hub party destination pass answer hub' progress)
    (here : ∀ item ∈ pass.actions, p item.1)
    (listed : ∀ keys, answer = .keys (.ok keys) → ∀ key ∈ keys, p key)
    (recorded : ∀ key ∈ hub.cache.keys, p key) {next : Pass} (goesOn : progress.pass? = some next) :
    ∀ item ∈ next.actions, p item.1 := by
  cases moved <;> cases goesOn
  case differ keys differing =>
    rintro ⟨key, action⟩ member
    rcases mem_difference.1 member with ⟨-, inCatalog, -⟩ | ⟨-, inCache, -⟩
    · exact listed keys rfl key inCatalog
    · exact recorded key inCache
  case lower => exact here
  all_goals exact nofun

end Hub

namespace Machine

/-- All keys that are acted on, by the owner, the watcher or a batch, are of some kind. Keys come
from the catalog and from the change cache, so it is enough to know these. -/
structure ActsOn (p : String → Prop) (m : Machine) : Prop where
  owner : ∀ pass, m.owner.pass? = some pass → ∀ item ∈ pass.actions, p item.1
  watcher : ∀ pass, m.watcherPass? = some pass → ∀ item ∈ pass.actions, p item.1
  workers : ∀ number worker, m.hub.batch? number = some worker → ∀ item ∈ worker.pending, p item.1

namespace ActsOn

variable {p : String → Prop} {m m' : Machine} {label : Label} {result : Option Return}

theorem make {config : Config} {client : Store.Client} {cache : Cache} {disk : Disk} :
    (Machine.make config client cache disk).ActsOn p where
  owner pass running := by cases running
  watcher pass running := by cases running
  workers number worker found := by simp [Machine.make, Hub.make, Hub.batch?] at found

/-- A batch that is about to be started acts on keys of the kind. It need not be known which party
starts it. -/
theorem of_launching (h : m.ActsOn p) {destination : String} {actions : List (String × Action)}
    (launching : m.Launching destination actions) : ∀ item ∈ actions, p item.1 := by
  rcases launching with atPass | ⟨watcher, atPass⟩
  · exact h.owner (.launching actions) (by rw [atPass]; rfl)
  · exact h.watcher (.launching actions) (by rw [watcherPass?, atPass]; rfl)

/-- Every step acts on keys of the kind only, when the catalog and the change cache have no others.
A comparison brings in keys of these two and of no other origin. -/
theorem step (h : m.ActsOn p) (moved : m.Transition label m' result)
    (listed : ∀ keys, label = .owner (.catalog (.keys (.ok keys))) ∨
      label = .watcher (.keys (.ok keys)) → ∀ key ∈ keys, p key)
    (recorded : ∀ key ∈ m.hub.cache.keys, p key) : m'.ActsOn p := by
  refine ⟨fun pass running => ?_, fun pass running => ?_, fun number worker found => ?_⟩
  · cases moved with
    | @wander label owner result before after =>
      have outside : pass.actions = [] := by
        cases owner <;> cases running
        exact Pass.actions_of_not_holdsLock (by cases pass <;> first | rfl | cases after)
      rw [outside]
      exact nofun
    | load atLoad loaded next => rcases next with rfl | rfl <;> cases running
    | arm =>
      cases running
      exact nofun
    | @pass destination before answer hub progress atPass passed =>
      have goesOn : progress.pass? = some pass := by
        cases progress <;> exact running
      refine passed.actions (h.owner before (by rw [atPass]; rfl)) ?_ recorded goesOn
      rintro keys rfl
      exact listed keys (.inl rfl)
    | leave | take | findNothing | join | halt | raise | cancel => cases running
    | _ => exact h.owner pass running
  · cases moved with
    | arm | halt => cases running
    | poll idle next =>
      rw [next pass running]
      exact nofun
    | @watch watcher destination before answer hub progress atPass passed =>
      refine passed.actions (h.watcher before (by rw [watcherPass?, atPass]; rfl)) ?_ recorded
        running
      rintro keys rfl
      exact listed keys (.inr rfl)
    | _ => exact h.watcher pass running
  · cases moved.origin found with
    | kept before => exact h.workers number worker before
    | @cancelled worker before =>
      obtain ⟨point, same⟩ := worker.cancel_eq
      rw [same]
      exact h.workers number worker before
    | stepped _ before worked =>
      intro item member
      obtain ⟨-, fewer, -⟩ := Worker.kept_of_step worked
      exact h.workers number _ before item (fewer member)
    | launched launching => exact h.of_launching launching

end ActsOn

end Machine

end PreviewSync.Sync
