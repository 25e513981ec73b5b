import PreviewSync.Watch.Watcher

/-!
# Scripted modification times

A watcher in a rehearsal reads its times from a script. When the script is used up, the last time is
read again and again.

## Main Definitions

* `Rehearsal.Observation` — a watcher, the script, and the times that were reported
* `Rehearsal.Observation.begin`, `run`, `stop` — the steps of a rehearsal
-/

namespace PreviewSync.Rehearsal

open Watch (Watcher)

/-- A watcher and the script it reads from. Handling the report of `breaksAt` fails. There is no
thread here: readings are taken when somebody waits for them. -/
structure Observation where
  watcher : Watcher
  breaksAt : Option UInt64 := none
  isValid : Bool := true
  script : List (Option UInt64) := []
  latest : Option UInt64 := none
  heard : List UInt64 := []
deriving Repr, DecidableEq

namespace Observation

/-- One reading that has been taken from the script already. -/
def read (o : Observation) (reading : Option UInt64) : Observation :=
  let (watcher, isReported) := o.watcher.poll reading
  let o := { o with watcher, latest := reading }
  if isReported then
    let o := { o with heard := o.heard ++ reading.toList }
    if reading = o.breaksAt then { o with watcher := o.watcher.breakDown } else o
  else o

/-- One reading: the next one of the script, or the latest one again. -/
def readNext (o : Observation) : Observation :=
  match o.script with
  | reading :: rest => { o with script := rest }.read reading
  | [] => o.read o.latest

/-- Readings until the script is used up or the thread has ended. -/
def readAll (o : Observation) : List (Option UInt64) → Observation
  | [] => { o with script := [] }
  | reading :: rest =>
    if o.watcher.isWatching then readAll (o.read reading) rest
    else { o with script := reading :: rest }

/-- Starts the watcher and waits for its first reading. -/
def begin (o : Observation) (interval : UInt64) : Observation × Except Watch.Fault Unit :=
  let (watcher, result) := o.watcher.begin interval o.isValid none
  let o := { o with watcher }
  match result with
  | .ok () => (o.readNext, .ok ())
  | .error fault => (o, .error fault)

/-- Waits until the script is used up or the thread has ended; the times reported since the last
run. -/
def run (o : Observation) : Observation × List UInt64 :=
  let o := o.readAll o.script
  ({ o with heard := [] }, o.heard)

/-- Stops the watcher. -/
def stop (o : Observation) : Observation :=
  { o with watcher := o.watcher.stop }

end Observation

end PreviewSync.Rehearsal
