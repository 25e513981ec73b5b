import PreviewSync.Rehearsal.Surroundings

/-!
# Rehearsed sessions

A session among scripted surroundings. Workers go on as far as they can whenever the owner has done
something; a worker that is held at a barrier waits for its release.

## Main Definitions

* `Rehearsal.Play` — the session and its surroundings
* `Rehearsal.Play.work` — a worker goes on as far as it can
* `Rehearsal.Play.call` — a call of the owner, up to its return
* `Rehearsal.Play.touch` — the watched file is modified
-/

namespace PreviewSync.Rehearsal

open Sync (Call Label Machine OwnerAnswer Pass Return Stage Verdict Worker)

/-- The session and its surroundings. A held worker has come to its barrier; what is going to happen
to an operation under way is due. Owner, watcher and worker take turns here in one fixed way, out of
the many that the machine allows. -/
structure Play where
  machine : Machine
  store : ScriptedStore
  surroundings : Surroundings := {}
  barrier : Option Barrier := none
  isHeld : Bool := false
  due : Option (List Store.Event) := none
  isWatchable : Bool := true
  reading : UInt64 := 0
  isOpen : Bool := true

namespace Play

/-- The batch that is under way. -/
def current? (p : Play) : Option Worker :=
  p.machine.hub.batches.getLast?.filter fun worker => !worker.isOver

/-- Whether a worker waits at its barrier. -/
def isBlocked (p : Play) : Bool :=
  p.isHeld && p.barrier.isSome

/-- A step of the machine; whether it could be taken. -/
def take (p : Play) (label : Label) : Play × Bool :=
  match p.machine.step label with
  | some (machine, _) => ({ p with machine }, true)
  | none => (p, false)

/-- A worker comes by a place; whether it may go on. -/
def passBarrier (p : Play) (place : Option Place) : Play × Bool :=
  match p.barrier with
  | some barrier =>
    if some barrier.place ≠ place then (p, true)
    else if barrier.skip = 0 then ({ p with isHeld := true }, false)
    else ({ p with barrier := some { barrier with skip := barrier.skip - 1 } }, true)
  | none => (p, true)

/-- A step of an operation under way. What it has put on the wire arrives first. -/
def exchange (p : Play) (number : Nat) (dispatch : Option Store.Dispatch) (flight : Store.Flight) :
    Play × Bool :=
  match flight.result?, p.due, dispatch with
  | some _, _, _ => { p with due := none }.take (.worker number .proceed)
  | none, some (event :: due), _ => { p with due := some due }.take (.worker number (.event event))
  | none, none, some dispatch =>
    match p.store.accept dispatch with
    | (store, none) => ({ p with store, due := some ScriptedStore.unreachable }, true)
    | (store, some reply) =>
      let due := (reply.events flight.operation).filter (· ≠ .cancel)
      { p with store, due := some due }.passBarrier (some .server)
  | _, _, _ => (p, false)

/-- A step that asks for something outside the transport. A worker that has been let go has asked
already. -/
def ask (p : Play) (wasHeld : Bool) (number : Nat) (key : String) (action : Action)
    (stage : Stage) : Play × Bool :=
  let (p, isFree) :=
    if wasHeld then (p, true)
    else { p with surroundings := p.surroundings.ask stage }.passBarrier (Surroundings.place? stage)
  if isFree then
    p.take (.worker number (p.surroundings.reply p.machine.hub.config key action stage))
  else (p, false)

/-- A step of the batch that is under way; whether there was one. -/
def workOnce (p : Play) : Play × Bool :=
  match p.current? with
  | none => (p, false)
  | some worker =>
    if p.isBlocked then (p, false)
    else
      let wasHeld := p.isHeld
      let p := { p with isHeld := false }
      match worker.point, worker.pending with
      | .working (.exchanging dispatch flight), _ => p.exchange worker.number dispatch flight
      | .working stage, (key, action) :: _ => p.ask wasHeld worker.number key action stage
      | _, _ => p.take (.worker worker.number .proceed)

/-- A limited number of steps of the batch that is under way. -/
def workSteps : Nat → Play → Play
  | 0, p => p
  | steps + 1, p =>
    match p.workOnce with
    | (p, true) => workSteps steps p
    | (p, false) => p

/-- More steps than one item takes. -/
def stepsPerItem : Nat :=
  64

/-- The batch that is under way goes on as far as it can. -/
def work (p : Play) : Play :=
  match p.current? with
  | some worker => p.workSteps (stepsPerItem * (worker.pending.length + 1))
  | none => p

/-- A held worker is let go, for good. -/
def release (p : Play) : Play :=
  { p with barrier := none }.work

/-- The result of a call of the catalog. A breakdown counts as a fault here. -/
def catalogResult {α : Type} (p : Play) (name : String) (value : α) :
    Except PreviewSync.Fault α :=
  match p.surroundings.mishaps.lookup name with
  | none => .ok value
  | some (.fault fault) => .error fault
  | some .panic => .error (.invalidData "panic")

/-- The answer to a pass. Openings of the catalog are counted. -/
def passAnswer (p : Play) : Pass → Play × Sync.CatalogAnswer
  | .reopening =>
    let surroundings := { p.surroundings with openings := p.surroundings.openings + 1 }
    ({ p with surroundings }, .opened (p.catalogResult "reopen" ()))
  | .listing => (p, .keys (p.catalogResult "keys" p.surroundings.keys))
  | _ => (p, .proceed)

/-- The answer to the owner. An owner who waits for a held worker lets it go. -/
def ownerAnswer (p : Play) : Play × OwnerAnswer :=
  match p.machine.owner with
  | .opening _ => (p, .catalog (.opened (p.catalogResult "open" ())))
  | .loading _ =>
    match p.catalogResult "load" () with
    | .ok () => (p, .load .absent)
    | .error fault => (p, .refuse fault)
  | .arming _ => (p, .status p.isWatchable none)
  | .passing _ pass =>
    let (p, answer) := p.passAnswer pass
    (p, .catalog answer)
  | .joining _ => (p.release, .proceed)
  | _ => (p, .proceed)

/-- A limited number of steps of the owner, up to the return of the call. -/
def ownerSteps : Nat → Play → Play × Option Return
  | 0, p => (p, none)
  | steps + 1, p =>
    let (p, answer) := p.ownerAnswer
    match p.machine.step (.owner answer) with
    | some (machine, some result) => ({ p with machine }, some result)
    | some (machine, none) => ownerSteps steps { p with machine }
    | none => (p, none)

/-- More steps than the owner takes for one call. -/
def stepsPerCall : Nat :=
  16

/-- A call of the owner, up to its return; a batch goes on as far as it can afterwards. -/
def call (p : Play) (call : Call) : Play × Option Return :=
  match p.machine.step (.call call) with
  | some (machine, some result) => ({ p with machine }, some result)
  | some (machine, none) =>
    let (p, result) := ownerSteps stepsPerCall { p with machine }
    (p.work, result)
  | none => (p, none)

/-- What a call that asks for a pass returns. -/
def passed : Option Return → Except Sync.Fault Verdict
  | some (.passed result) => result
  | _ => .ok .busy

/-- What a call that collects a report returns, without the number of the batch. -/
def collected : Option Return → Except Sync.Fault (Option Sync.Report)
  | some (.collected result) => result.map fun report => report.map (·.report)
  | _ => .ok none

/-- The beginning of a session. -/
def begin (p : Play) (file destination : String) (isWatchable : Bool) :
    Play × Except Sync.Fault Verdict :=
  let (p, result) := { p with isWatchable }.call (.begin file destination)
  (p, passed result)

/-- A pass that the owner asks for. -/
def trigger (p : Play) : Play × Except Sync.Fault Verdict :=
  let (p, result) := p.call .trigger
  (p, passed result)

/-- The end of a batch. -/
def wait (p : Play) : Play × Except Sync.Fault (Option Sync.Report) :=
  let (p, result) := p.call .wait
  (p, collected result)

/-- The end of a session. -/
def stop (p : Play) : Play × Except Sync.Fault (Option Sync.Report) :=
  let (p, result) := p.call .stop
  (p, collected result)

/-- The end of everything; a session that is running is stopped first. -/
def close (p : Play) : Play :=
  let p := if p.machine.isSynchronizing then p.stop.1 else p
  { p with isOpen := false }

/-- What a pass comes to that another party begins now. -/
def passBeside (p : Play) : Except Sync.Fault Verdict :=
  match p.machine.session with
  | none => .error .notSynchronizing
  | some session =>
    match p.machine.hub.pass .watcher session.destination .entering .proceed with
    | some (_, .ended result) => result
    | _ => .ok .busy

/-- A limited number of steps of the owner, up to the moment when it waits for a batch. -/
def stepsToJoin : Nat → Play → Play
  | 0, p => p
  | steps + 1, p =>
    match p.machine.owner with
    | .waiting => (p.take (.owner .proceed)).1.stepsToJoin steps
    | _ => p

/-- While the owner waits for a held worker, another party asks for a pass; then the worker is let
go. -/
def triggerDuringWait (p : Play) :
    Play × Except Sync.Fault Verdict × Except Sync.Fault (Option Sync.Report) :=
  if p.isBlocked then
    let p := (p.take (.call .wait)).1.stepsToJoin 2
    let verdict := p.passBeside
    let (p, result) := ownerSteps stepsPerCall p
    (p.work, verdict, collected result)
  else
    let (p, report) := p.wait
    let (p, verdict) := p.trigger
    (p, verdict, report)

/-- The watcher reads a time. -/
def poll (p : Play) : Play :=
  let reading := p.reading + 1
  ({ p with reading }.take (.poll (some reading))).1

/-- A limited number of steps of the pass that the watcher runs. -/
def watcherSteps : Nat → Play → Play
  | 0, p => p
  | steps + 1, p =>
    match p.machine.watching with
    | some ⟨_, _, some pass⟩ =>
      let (p, answer) := p.passAnswer pass
      (p.take (.watcher answer)).1.watcherSteps steps
    | _ => p

/-- The watched file is modified: the watcher reads a time, then a later one, and runs a pass. -/
def touch (p : Play) : Play :=
  (watcherSteps stepsPerCall p.poll.poll).work

/-- The content of the file of the change cache, if it has one that is there. -/
def cacheFile? (p : Play) : Option Bytes :=
  match p.machine.hub.cache.file with
  | none => none
  | some file => (p.machine.hub.disk.read .absent (Path.ofText file)).toOption

/-- Whether a destination is registered; it is removed. -/
def unregister (p : Play) (identifier : String) : Play × Bool :=
  let wasThere := p.machine.hub.client.has identifier
  ((p.take (.unregister identifier)).1, wasThere)

/-- Registers a destination; whether that worked. -/
def register (p : Play) (identifier : String) (profile : AccessProfile)
    (destination : Destination) : Play × Bool :=
  let isNew := (p.machine.hub.client.register identifier profile destination).toBool
  ((p.take (.register identifier profile destination)).1, isNew)

end Play

end PreviewSync.Rehearsal
