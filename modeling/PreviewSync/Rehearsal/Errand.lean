import PreviewSync.CommandLine.Run
import PreviewSync.Rehearsal.Store

/-!
# Errands

A run of the command line against a scripted store.

## Main Definitions

* `Rehearsal.ScriptedStore.errand` — the run, and the store with its receipts
-/

namespace PreviewSync.Rehearsal.ScriptedStore

/-- What happens to an operation whose dispatch comes to the store. -/
def respond (s : ScriptedStore) (operation : Store.Operation) (dispatch : Store.Dispatch) :
    List Store.Event :=
  match (s.accept dispatch).2 with
  | some reply => reply.events operation
  | none => unreachable

/-- A run of the command line, and the store with its receipts. Time stands still. -/
def errand (s : ScriptedStore) (env : Config.Environment) (disk : Disk)
    (invocation : CommandLine.Invocation) : ScriptedStore × CommandLine.Result :=
  let result := CommandLine.run env disk invocation .epoch s.respond .unbroken
  match result.dispatch with
  | some dispatch => ((s.accept dispatch).1, result)
  | none => (s, result)

end PreviewSync.Rehearsal.ScriptedStore
