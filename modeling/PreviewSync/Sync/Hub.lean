import PreviewSync.Sync.Batch

/-!
# The hub of a session

The hub is what the owner of a session, its watcher and its workers have in common. It has a slot
for the handle of one batch, under a lock. A pass compares the catalog with the change cache and
starts a batch if there is anything to do; it gives up at once when the lock is taken or a batch is
under way.

## Main Definitions

* `Sync.Hub` — shared state, batches, slot, lock and the last report
* `Sync.Pass` — how far a pass has come
* `Sync.Hub.pass` — one step of a pass
* `Sync.Hub.take`, `Sync.Hub.join` — the end of a batch is collected
-/

namespace PreviewSync.Sync

/-- Who may hold the lock of the slot. Workers never take it: they are the ones that its holders
wait for. -/
inductive Party where
  | owner
  | watcher
deriving Repr, DecidableEq

/-- A report with the number of its batch. The number is not part of what a caller sees; it says
which batch a report is about when two batches have equal reports. -/
structure Collected where
  number : Nat
  report : Report
deriving Repr, DecidableEq

/-- What the owner of a session, its watcher and its workers have in common. Batches keep their
numbers for ever; the slot holds the number of the one that has not been collected. -/
structure Hub extends Shared where
  config : Config
  batches : List Worker := []
  slot : Option Nat := none
  lock : Option Party := none
  lastReport : Option Collected := none

/-- What a pass comes to. Being busy is no fault: whoever holds the slot will be followed by another
pass if there is anything left to do. -/
inductive Verdict where
  | started (count : Nat)
  | upToDate
  | busy
deriving Repr, DecidableEq

/-- How far a pass has come. From the second stage on it holds the lock. A pass looks at the slot,
at the catalog and at the flag in different steps, since a worker or the owner may act between any
two of them. -/
inductive Pass where
  /-- The lock is tried. -/
  | entering
  /-- The slot is looked at. -/
  | inspecting
  /-- The catalog is opened again. -/
  | reopening
  /-- The catalog lists its keys. -/
  | listing
  /-- The flag is about to be lowered. -/
  | lowering (actions : List (String × Action))
  /-- The batch is about to be started. -/
  | launching (actions : List (String × Action))
deriving Repr, DecidableEq

/-- What comes from outside to a pass: from the catalog, or from the system that is asked for the
thread of a batch and may refuse it. -/
inductive CatalogAnswer where
  | proceed
  | opened (result : Except PreviewSync.Fault Unit)
  | keys (result : Except PreviewSync.Fault (List String))
  | refused (reason : String)

/-- What a step of a pass leads to. A pass that has ended holds no lock any more. -/
inductive PassProgress where
  | reached (pass : Pass)
  | ended (result : Except Fault Verdict)

namespace Hub

/-- A hub without batches. The lock is free and there is no report to be collected. -/
def make (config : Config) (client : Store.Client) (cache : Cache) (disk : Disk) : Hub :=
  { config, client, cache, disk }

/-- A batch by number. -/
def batch? (hub : Hub) (number : Nat) : Option Worker :=
  hub.batches[number]?

/-- Whether a batch is over. A number that stands for no batch counts as one that is over, so that
nobody waits for it. -/
def isOver (hub : Hub) (number : Nat) : Bool :=
  match hub.batch? number with
  | some worker => worker.isOver
  | none => true

/-- Whether a batch that was not collected is under way. -/
def isActive (hub : Hub) : Bool :=
  match hub.slot with
  | some number => !hub.isOver number
  | none => false

/-- The report of a batch that is over, unless it broke down. What a broken batch has done until
then is lost with its report. -/
def result (hub : Hub) (number : Nat) : Except Fault Collected :=
  match (hub.batch? number).bind (·.result?) with
  | some report => .ok ⟨number, report⟩
  | none => .error .workerPanicked

/-- Whether a pass that comes now gives up: the lock is taken. -/
def isLocked (hub : Hub) : Bool :=
  hub.lock.isSome

/-- The end of a pass that holds the lock. The lock is free again, whatever the pass comes to. -/
def endPass (hub : Hub) (result : Except Fault Verdict) : Hub × PassProgress :=
  ({ hub with lock := none }, .ended result)

/-- A look at the slot: a batch under way ends the pass, one that is over is collected first. Its
report is kept for a later call, for no caller of the pass asks for it; a batch that broke down ends
the pass with that fault. -/
def inspect (hub : Hub) : Hub × PassProgress :=
  match hub.slot with
  | none => (hub, .reached .reopening)
  | some number =>
    if hub.isOver number then
      let hub := { hub with slot := none }
      match hub.result number with
      | .ok collected => ({ hub with lastReport := some collected }, .reached .reopening)
      | .error fault => hub.endPass (.error fault)
    else hub.endPass (.ok .busy)

/-- The keys of the catalog are compared with the change cache. -/
def compare (hub : Hub) (keys : List String) : Hub × PassProgress :=
  match difference keys hub.cache.keys with
  | [] => hub.endPass (.ok .upToDate)
  | actions => (hub, .reached (.lowering actions))

/-- The start of a batch. The number of the new batch is the number of those before it, so numbers
follow the order of starts, and the slot holds the newest. -/
def launch (hub : Hub) (destination : String) (actions : List (String × Action)) :
    Hub × PassProgress :=
  let number := hub.batches.length
  let worker : Worker := { number, destination, pending := actions }
  { hub with batches := hub.batches ++ [worker], slot := some number }.endPass
    (.ok (.started actions.length))

/-- One step of a pass. There is none when the answer is not what was asked for. -/
def pass (hub : Hub) (party : Party) (destination : String) (pass : Pass)
    (answer : CatalogAnswer) : Option (Hub × PassProgress) :=
  match pass, answer with
  | .entering, .proceed =>
    if hub.isLocked then some (hub, .ended (.ok .busy))
    else some ({ hub with lock := some party }, .reached .inspecting)
  | .inspecting, .proceed => some hub.inspect
  | .reopening, .opened (.ok ()) => some (hub, .reached .listing)
  | .reopening, .opened (.error fault) => some (hub.endPass (.error (.catalog fault)))
  | .listing, .keys (.ok keys) => some (hub.compare keys)
  | .listing, .keys (.error fault) => some (hub.endPass (.error (.catalog fault)))
  | .lowering actions, .proceed =>
    some ({ hub with cancel := false }, .reached (.launching actions))
  | .launching actions, .proceed => some (hub.launch destination actions)
  | .launching _, .refused reason => some (hub.endPass (.error (.spawn reason)))
  | _, _ => none

/-- The handle is taken out of the slot under the lock. Without a handle the last report is all
there is to collect, and the lock is free again. -/
def take (hub : Hub) (party : Party) : Hub × Option Nat × Option Collected :=
  match hub.slot with
  | some number => ({ hub with slot := none, lock := some party }, some number, none)
  | none => ({ hub with lastReport := none }, none, hub.lastReport)

/-- The report of a batch is collected, and the lock is free again. -/
def join (hub : Hub) (number : Nat) : Hub × Except Fault Collected :=
  ({ hub with lock := none }, hub.result number)

/-- The flag that asks for the end of the batch is raised. It stays up until the next pass lowers
it, so a batch that has not begun an item yet sees it as well. -/
def raise (hub : Hub) : Hub :=
  { hub with cancel := true }

/-- The request that is known for cancellation is cancelled. A request is known only between its
publication and its end; outside of that there is nothing to cancel, and the flag alone does it. -/
def cancelPublished (hub : Hub) : Hub :=
  match hub.published with
  | some number => { hub with batches := hub.batches.modify number Worker.cancel }
  | none => hub

/-- One step of a worker. It changes what is shared and its own batch, and no other one. -/
def work (hub : Hub) (number : Nat) (answer : Answer) : Option Hub := do
  let worker ← hub.batch? number
  let (shared, worker) ← worker.step hub.config hub.toShared answer
  some { hub with toShared := shared, batches := hub.batches.set number worker }

end Hub

end PreviewSync.Sync
