import PreviewSync.Sync.Item

/-!
# Batches

A batch is a list of actions that one worker goes through in order. Before each item the worker
looks at the flag that asks for its end. A failed item is noted and the next one follows; an item
that ends by a cancellation ends the batch, and is among those left over.

## Main Definitions

* `Sync.Report` — what a batch has done
* `Sync.Worker` — a batch under way
* `Sync.Worker.step` — one step of a worker
* `Sync.Worker.cancel` — the effect of a cancellation on the request of a worker
-/

namespace PreviewSync.Sync

/-- What a batch has done: how many previews were uploaded and objects removed, the failed items in
order, and whether it was ended before its time. The keys of the items that were done are not
listed; they are in the change cache, or out of it. -/
structure Report where
  uploaded : Nat := 0
  removed : Nat := 0
  failures : List (String × ItemFault) := []
  cancelled : Bool := false
deriving Repr, DecidableEq

namespace Report

/-- The report with one more action done. -/
def count (report : Report) : Action → Report
  | .add => { report with uploaded := report.uploaded + 1 }
  | .remove => { report with removed := report.removed + 1 }
  | .update => report

/-- The report with one more failed item. -/
def note (report : Report) (key : String) (fault : ItemFault) : Report :=
  { report with failures := report.failures ++ [(key, fault)] }

end Report

/-- Where a worker stands. A worker that is over stays in the hub until its handle has been
collected. -/
inductive Point where
  /-- Before the next item. -/
  | choosing
  /-- At work on the first of the items left. -/
  | working (stage : Stage)
  /-- At the end. -/
  | finished
  /-- Broken down. -/
  | broken

/-- A batch under way: its number, where it goes, the actions that are not accounted for, and the
report so far. The actions leave the list one by one when they are accounted for, so an item at work
is still its first one. -/
structure Worker where
  number : Nat
  destination : String
  pending : List (String × Action)
  point : Point := .choosing
  report : Report := {}

namespace Worker

/-- Whether the worker is over, in whatever way. -/
def isOver (w : Worker) : Bool :=
  match w.point with
  | .finished => true
  | .broken => true
  | _ => false

/-- What the worker leaves behind: its report, unless it broke down. A batch that was cancelled
leaves its report as well. -/
def result? (w : Worker) : Option Report :=
  match w.point with
  | .finished => some w.report
  | _ => none

/-- The end of a batch by a cancellation. The item at work stays on the list, for it has not been
accounted for. -/
def finishCancelled (w : Worker) : Worker :=
  { w with point := .finished, report := { w.report with cancelled := true } }

/-- The choice of the next item. The flag is looked at before each item and not only while one is at
work, so a batch with the flag up ends without a further item. -/
def choose (w : Worker) (cancel : Bool) : Worker :=
  match w.pending with
  | [] => { w with point := .finished }
  | (_, action) :: rest =>
    if cancel then w.finishCancelled
    else
      match Stage.first? action with
      | some stage => { w with point := .working stage }
      | none => { w with pending := rest }

/-- The effect of a step of the item at work. An item that is done or has failed leaves the list; a
cancelled one stays on it. -/
def advance (w : Worker) (key : String) (action : Action) (rest : List (String × Action)) :
    Progress → Worker
  | .reached stage => { w with point := .working stage }
  | .done => { w with pending := rest, point := .choosing, report := w.report.count action }
  | .failed .cancelled => w.finishCancelled
  | .failed fault =>
    { w with pending := rest, point := .choosing, report := w.report.note key fault }
  | .broken => { w with point := .broken }

/-- One step of a worker. There is none when it is over, or the answer is not what was asked for. -/
def step (config : Config) (s : Shared) (w : Worker) (answer : Answer) :
    Option (Shared × Worker) :=
  match w.point, w.pending, answer with
  | .choosing, _, .proceed => some (s, w.choose s.cancel)
  | .working stage, (key, action) :: rest, answer =>
    (stage.step config ⟨w.number, w.destination, key, action⟩ s answer).map fun (s, progress) =>
      (s, w.advance key action rest progress)
  | _, _, _ => none

/-- The effect of a cancellation on the request of a worker, if it holds one. Outside of an item
there is nothing to cancel, and the flag will be seen at the next choice. -/
def cancel (w : Worker) : Worker :=
  match w.point with
  | .working stage => { w with point := .working stage.cancel }
  | _ => w

end Worker

end PreviewSync.Sync
