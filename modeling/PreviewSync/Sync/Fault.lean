import PreviewSync.Fault
import PreviewSync.Store.Fault
import PreviewSync.Watch.Watcher

/-!
# Faults of synchronization

## Main Definitions

* `Sync.ItemFault` — why an item of a batch is not done; other items go on
* `Sync.Fault` — why a call on a session fails
-/

namespace PreviewSync.Sync

/-- Why an item of a batch is not done. It says which collaborator failed, for the words alone would
not. -/
inductive ItemFault where
  | notInCatalog
  | noPreviewLevel (target : UInt32)
  | catalog (fault : PreviewSync.Fault)
  | extraction (fault : PreviewSync.Fault)
  | codec (fault : PreviewSync.Fault)
  | cache (fault : PreviewSync.Fault)
  | store (fault : Store.Fault)
  | cancelled
deriving Repr, DecidableEq

/-- The wording of an item's fault. A fault of the store has words of its own, which are passed on
unchanged. -/
def ItemFault.message : ItemFault → String
  | notInCatalog => "entry not found in catalog"
  | noPreviewLevel target => "no preview level available for dimension " ++ Nat.repr target.toNat
  | catalog fault => "catalog lookup failed: " ++ fault.message
  | extraction fault => "preview extraction failed: " ++ fault.message
  | codec fault => "re-encode failed: " ++ fault.message
  | cache fault => "change cache update failed: " ++ fault.message
  | store fault => fault.message
  | cancelled => "cancelled"

/-- Why a call on a session fails. -/
inductive Fault where
  | alreadySynchronizing
  | notSynchronizing
  | unknownDestination (identifier : String)
  | catalog (fault : PreviewSync.Fault)
  | cache (fault : PreviewSync.Fault)
  | watch (fault : Watch.Fault)
  | spawn (reason : String)
  | workerPanicked
deriving Repr, DecidableEq

/-- The wording of a fault. -/
def Fault.message : Fault → String
  | alreadySynchronizing => "already synchronizing"
  | notSynchronizing => "not synchronizing"
  | unknownDestination identifier => "unknown destination: " ++ identifier
  | catalog fault => "catalog error: " ++ fault.message
  | cache fault => "change cache error: " ++ fault.message
  | watch fault => fault.message
  | spawn reason => "failed to spawn worker thread: " ++ reason
  | workerPanicked => "worker thread panicked"

end PreviewSync.Sync
