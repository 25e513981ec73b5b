import PreviewSync.Sync.Hub

/-!
# Sessions

A session keeps one destination in line with a catalog whose file is watched. Its owner begins it,
may ask for passes, waits for batches and stops it. The watcher runs a pass whenever it reports a
change, and workers go through batches meanwhile.

## Main Definitions

* `Sync.Machine` — everything at one moment
* `Sync.Label` — a call of the owner, or a step of the owner, the watcher or a worker
* `Sync.Machine.step` — the effect of a label
* `Sync.Machine.run` — the effect of several labels, with what the calls return

## Design Notes

All steps that another party could come in between are separate, so a statement about all runs is a
statement about all interleavings. A call begins with a label of its own and ends at the step that
returns something; in between the owner makes no other call.
-/

namespace PreviewSync.Sync

/-- A session: the watched file and the destination. The destination is a name, so a request asks
what the name stands for when it is made, and not when the session was begun. -/
structure Session where
  file : String
  destination : String
deriving Repr, DecidableEq

/-- A watcher with the pass that it is running. The destination is kept with it, since the session
may be gone from the owner's view while the watcher is still at work on its last pass. -/
structure Watching where
  watcher : Watch.Watcher
  destination : String
  pass : Option Pass := none

/-- A call of the owner. There is no call for the watcher: what it does, it does without being
asked. -/
inductive Call where
  | begin (file destination : String)
  | trigger
  | wait
  | stop
deriving Repr, DecidableEq

/-- What a call returns. Calls that run a pass return its verdict, and calls that collect a batch
return its report, if there is one. -/
inductive Return where
  | passed (result : Except Fault Verdict)
  | collected (result : Except Fault (Option Collected))

/-- Where the owner stands. A point lies wherever another party may come in between, so the points
of `stop` are the halt of the watcher, the raising of the flag, the cancellation of the request and
the wait for the batch, one by one. -/
inductive OwnerPoint where
  /-- Outside all calls. -/
  | resting
  /-- The catalog is opened. -/
  | opening (session : Session)
  /-- The change cache is loaded. -/
  | loading (session : Session)
  /-- The watcher is started. -/
  | arming (session : Session)
  /-- A pass is run. -/
  | passing (destination : String) (pass : Pass)
  /-- The lock is waited for. -/
  | waiting
  /-- The end of a batch is waited for. -/
  | joining (number : Nat)
  /-- The end of the watcher is waited for. -/
  | halting
  /-- The flag is about to be raised. -/
  | raising
  /-- The request under way is about to be cancelled. -/
  | cancelling

/-- What comes from outside to the owner. An answer that was not asked for is not taken, so there is
no need to say which answers may come when. -/
inductive OwnerAnswer where
  | catalog (answer : CatalogAnswer)
  /-- The change cache is loaded, with some trouble of the disk. -/
  | load (trouble : Disk.Trouble)
  /-- The change cache refuses. -/
  | refuse (fault : PreviewSync.Fault)
  /-- Whether the file can be watched, and why the system starts no thread, if it does not. -/
  | status (isValid : Bool) (refusal : Option String)
  | proceed

/-- A label of a step. Registrations are labels of their own, because the client is shared and may
be changed by anybody at any time. -/
inductive Label where
  | call (call : Call)
  | owner (answer : OwnerAnswer)
  /-- The watcher reads a modification time. -/
  | poll (reading : Option UInt64)
  /-- A step of the pass that the watcher runs. -/
  | watcher (answer : CatalogAnswer)
  /-- A step of a worker. -/
  | worker (number : Nat) (answer : Answer)
  | register (identifier : String) (profile : AccessProfile) (destination : Destination)
  | unregister (identifier : String)

/-- Everything at one moment. The watcher is kept apart from the session: it is halted after the
session has been taken away, and in between it is still there. -/
structure Machine where
  hub : Hub
  session : Option Session := none
  watching : Option Watching := none
  owner : OwnerPoint := .resting

namespace Machine

/-- The machine before the first call. -/
def make (config : Config) (client : Store.Client) (cache : Cache) (disk : Disk) : Machine :=
  { hub := Hub.make config client cache disk }

/-- Whether a session is running. It is running from the moment when its watcher has started, and
not yet while the catalog is opened and the cache is loaded. -/
def isSynchronizing (m : Machine) : Bool :=
  m.session.isSome

/-- The owner returns from a call. Only a step by which a call returns has a result. -/
def finish (m : Machine) (result : Return) : Machine × Option Return :=
  ({ m with owner := .resting }, some result)

/-- The owner goes on to a point. The call has not returned yet, so there is no result. -/
def goOn (m : Machine) (owner : OwnerPoint) : Machine × Option Return :=
  ({ m with owner }, none)

/-- A pass of the owner fails. -/
def fail (m : Machine) (fault : Fault) : Machine × Option Return :=
  m.finish (.passed (.error fault))

/-- The beginning of a call. What can be refused at once is refused here; everything else is left to
later steps. A stop takes the session away before anything else, so none is running from then on. -/
def call (m : Machine) : Call → Machine × Option Return
  | .begin file destination =>
    if m.isSynchronizing then m.fail .alreadySynchronizing
    else if m.hub.client.has destination then m.goOn (.opening ⟨file, destination⟩)
    else m.fail (.unknownDestination destination)
  | .trigger =>
    match m.session with
    | some session => m.goOn (.passing session.destination .entering)
    | none => m.fail .notSynchronizing
  | .wait => m.goOn .waiting
  | .stop =>
    match m.session with
    | some _ => { m with session := none }.goOn .halting
    | none => m.finish (.collected (.error .notSynchronizing))

/-- The change cache is loaded. A cache that cannot be loaded ends the call, and no session begins.
-/
def load (m : Machine) (session : Session) (trouble : Disk.Trouble) : Machine × Option Return :=
  let (cache, disk, result) := m.hub.cache.load m.hub.disk trouble
  let m := { m with hub.cache := cache, hub.disk := disk }
  match result with
  | .ok () => m.goOn (.arming session)
  | .error fault => m.fail (.cache fault)

/-- The watcher is started; from then on the session is running. The session is entered last, so
that a call that fails on the way leaves none. -/
def arm (m : Machine) (session : Session) (isValid : Bool) (refusal : Option String) :
    Machine × Option Return :=
  match (Watch.Watcher.mk session.file .absent).begin m.hub.config.pollInterval isValid refusal with
  | (watcher, .ok ()) =>
    { m with
      session := some session
      watching := some { watcher, destination := session.destination } }.goOn
      (.passing session.destination .entering)
  | (_, .error fault) => m.fail (.watch fault)

/-- A step of the owner's pass. The end of the pass is the end of the call that it is run for. -/
def pass (m : Machine) (destination : String) (pass : Pass) (answer : CatalogAnswer) :
    Option (Machine × Option Return) :=
  (m.hub.pass .owner destination pass answer).map fun (hub, progress) =>
    match progress with
    | .reached pass => { m with hub }.goOn (.passing destination pass)
    | .ended result => { m with hub }.finish (.passed result)

/-- The lock is taken if it is free. The owner waits for it, unlike a pass, which gives up; so there
is simply no step while another party holds it. -/
def take (m : Machine) : Option (Machine × Option Return) :=
  if m.hub.isLocked then none
  else
    match m.hub.take .owner with
    | (hub, some number, _) => some ({ m with hub }.goOn (.joining number))
    | (hub, none, report) => some ({ m with hub }.finish (.collected (.ok report)))

/-- The end of a batch is collected if it is over. The owner keeps the lock while it waits, so no
pass can start another batch meanwhile. -/
def join (m : Machine) (number : Nat) : Option (Machine × Option Return) :=
  if m.hub.isOver number then
    let (hub, result) := m.hub.join number
    some ({ m with hub }.finish (.collected (result.map some)))
  else none

/-- The watcher is gone when it runs no pass. It is not interrupted in a pass, so the owner waits
for the end of that pass. -/
def halt (m : Machine) : Option (Machine × Option Return) :=
  match m.watching with
  | some ⟨_, _, some _⟩ => none
  | _ => some ({ m with watching := none }.goOn .raising)

/-- A step of the owner. Each point takes one kind of answer. Others may take steps between any two
of these, which is all that is kept of their running at the same time. -/
def ownerStep (m : Machine) (answer : OwnerAnswer) : Option (Machine × Option Return) :=
  match m.owner, answer with
  | .opening session, .catalog (.opened (.ok ())) => some (m.goOn (.loading session))
  | .opening _, .catalog (.opened (.error fault)) => some (m.fail (.catalog fault))
  | .loading session, .load trouble => some (m.load session trouble)
  | .loading _, .refuse fault => some (m.fail (.cache fault))
  | .arming session, .status isValid refusal => some (m.arm session isValid refusal)
  | .passing destination pass, .catalog answer => m.pass destination pass answer
  | .waiting, .proceed => m.take
  | .joining number, .proceed => m.join number
  | .halting, .proceed => m.halt
  | .raising, .proceed => some ({ m with hub := m.hub.raise }.goOn .cancelling)
  | .cancelling, .proceed => some ({ m with hub := m.hub.cancelPublished }.goOn .waiting)
  | _, _ => none

/-- The watcher reads a modification time. It does so only when it runs no pass. -/
def poll (m : Machine) (reading : Option UInt64) : Option Machine :=
  match m.watching with
  | some ⟨watcher, destination, none⟩ =>
    let (watcher, isReported) := watcher.poll reading
    some { m with
      watching := some ⟨watcher, destination, if isReported then some .entering else none⟩ }
  | _ => none

/-- A step of the pass that the watcher runs. What it comes to is told to nobody. -/
def watcherStep (m : Machine) (answer : CatalogAnswer) : Option Machine :=
  match m.watching with
  | some ⟨watcher, destination, some pass⟩ =>
    (m.hub.pass .watcher destination pass answer).map fun (hub, progress) =>
      let next := match progress with
        | .reached pass => some pass
        | .ended _ => none
      { m with hub, watching := some ⟨watcher, destination, next⟩ }
  | _ => none

/-- Registers a destination with the client; a refusal changes nothing. -/
def register (m : Machine) (identifier : String) (profile : AccessProfile)
    (destination : Destination) : Machine :=
  match m.hub.client.register identifier profile destination with
  | .ok client => { m with hub.client := client }
  | .error _ => m

/-- Removes a destination from the client. Sessions for it are not told: they find out at their next
request. -/
def unregister (m : Machine) (identifier : String) : Machine :=
  { m with hub.client := m.hub.client.remove identifier }

/-- The effect of a label, and what a call returns. There is none when the step cannot be taken. -/
def step (m : Machine) (label : Label) : Option (Machine × Option Return) :=
  match label with
  | .call call =>
    match m.owner with
    | .resting => some (m.call call)
    | _ => none
  | .owner answer => m.ownerStep answer
  | .poll reading => (m.poll reading).map (·, none)
  | .watcher answer => (m.watcherStep answer).map (·, none)
  | .worker number answer => (m.hub.work number answer).map fun hub => ({ m with hub }, none)
  | .register identifier profile destination =>
    some (m.register identifier profile destination, none)
  | .unregister identifier => some (m.unregister identifier, none)

/-- The effect of several labels, with what the calls return. The returns are in the order of the
calls, as the owner makes one call at a time. -/
def run (m : Machine) : List Label → Option (Machine × List Return)
  | [] => some (m, [])
  | label :: rest => do
    let (m, first) ← m.step label
    let (m, others) ← m.run rest
    some (m, first.toList ++ others)

/-- A form for messages. -/
def describe (m : Machine) : String :=
  Quoted.openRecord "SyncOrchestrator"
    [("state", if m.isSynchronizing then "Synchronizing" else "Idle"),
      ("catalog_file", Quoted.option (fun s => Quoted.text s.file) m.session),
      ("destination", Quoted.option (fun s => Quoted.text s.destination) m.session)]

end Machine

end PreviewSync.Sync
