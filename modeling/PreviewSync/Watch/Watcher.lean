import PreviewSync.Text.Quoted

/-!
# Watching for modifications

A watcher reads a modification time again and again. It reports every time that is later than the
one read before; the first one read is only remembered. A time that cannot be read changes nothing.

## Main Definitions

* `Watch.isReported` — whether a reading is reported
* `Watch.remember` — the time that the next reading is compared with
* `Watch.reported` — the times reported during a run of readings
* `Watch.Watcher` — a watcher with the thread that does the reading
* `Watch.Watcher.begin`, `stop`, `poll` — its steps
-/

namespace PreviewSync.Watch

/-- Whether a reading is reported: it and the remembered time are known, and it is later. A first
reading has nothing to be compared with, so it is never reported. -/
def isReported : Option UInt64 → Option UInt64 → Bool
  | some remembered, some time => remembered < time
  | _, _ => false

/-- The time that the next reading is compared with: the last readable one, also if it is earlier
than those before. -/
def remember : Option UInt64 → Option UInt64 → Option UInt64
  | _, some time => some time
  | remembered, none => remembered

/-- The times reported during a run of readings. This is what a watcher reports, told by its
readings alone. -/
def reported (remembered : Option UInt64) : List (Option UInt64) → List UInt64
  | [] => []
  | reading :: rest =>
    (if isReported remembered reading then reading.toList else [])
      ++ reported (remember remembered reading) rest

/-- Why a watcher does not start. The file is asked for only when there is no other reason, and the
system only when there is a file. -/
inductive Fault where
  | invalidFile (path : String)
  | alreadyWatching
  | zeroInterval
  | spawn (reason : String)
deriving Repr, DecidableEq

/-- The wording of a fault. -/
def Fault.message : Fault → String
  | invalidFile path => "cannot watch " ++ path ++ ": file does not exist"
  | alreadyWatching => "watcher is already running"
  | zeroInterval => "poll interval must be positive"
  | spawn reason => "failed to spawn watcher thread: " ++ reason

/-- The thread that does the reading. A thread that has ended by itself remains until the watcher is
stopped or begins again. -/
inductive Thread where
  | absent
  | polling (remembered : Option UInt64)
  | ended
deriving Repr, DecidableEq

/-- A watcher of one path. -/
structure Watcher where
  path : String
  thread : Thread := .absent
deriving Repr, DecidableEq

namespace Watcher

/-- Whether the thread is running. A thread that has ended by itself is there, but it does not run.
-/
def isWatching (w : Watcher) : Bool :=
  match w.thread with
  | .polling _ => true
  | _ => false

/-- Ends the thread, if there is one. What it remembers is lost: after a new start the first reading
is only remembered again. -/
def stop (w : Watcher) : Watcher :=
  { w with thread := .absent }

/-- Starts the thread. The interval is looked at before the file, and a thread that has ended is
cleared away in between, so none is left when the file cannot be watched, or when the system refuses
to start a thread and says why. -/
def begin (w : Watcher) (interval : UInt64) (isValid : Bool) (refusal : Option String) :
    Watcher × Except Fault Unit :=
  if w.isWatching then (w, .error .alreadyWatching)
  else if interval = 0 then (w, .error .zeroInterval)
  else if isValid then
    match refusal with
    | none => ({ w with thread := .polling none }, .ok ())
    | some reason => (w.stop, .error (.spawn reason))
  else (w.stop, .error (.invalidFile w.path))

/-- One reading by the thread, and whether it is reported. Without a running thread nothing is read.
-/
def poll (w : Watcher) (reading : Option UInt64) : Watcher × Bool :=
  match w.thread with
  | .polling remembered =>
    ({ w with thread := .polling (remember remembered reading) }, isReported remembered reading)
  | _ => (w, false)

/-- The thread ends because a report could not be handled. -/
def breakDown (w : Watcher) : Watcher :=
  if w.isWatching then { w with thread := .ended } else w

/-- A form for messages. -/
def describe (w : Watcher) : String :=
  Quoted.openRecord "ChangeWatcher"
    [("path", Quoted.text w.path), ("watching", if w.isWatching then "true" else "false")]

end Watcher

end PreviewSync.Watch
