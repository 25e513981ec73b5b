import PreviewSync.Rehearsal.Reply
import PreviewSync.Wire.Message

/-!
# Scripted store

The store of a rehearsal answers requests from a script and keeps a receipt of each.

## Main Definitions

* `Rehearsal.Receipt` — what the store notes about a request
* `Rehearsal.ScriptedStore` — the replies to come, the secrets it knows and the receipts
* `Rehearsal.ScriptedStore.receive` — the arrival of a request
* `Rehearsal.ScriptedStore.serve` — a whole operation against the store
-/

namespace PreviewSync.Rehearsal

open Store (Event Operation Outcome Request)

/-- What the store notes about a request; without its header lines and body when the connection was
closed before they were read. -/
structure Receipt where
  message : Wire.Message
  accepted : Option Bool
  headOnly : Bool
deriving Repr, DecidableEq

/-- The replies to come, the secrets the store knows by access key, and the receipts. -/
structure ScriptedStore where
  suffix : String := ""
  replies : List Reply := []
  secrets : List (String × String) := []
  receipts : List Receipt := []
deriving Repr, DecidableEq, Inhabited

namespace ScriptedStore

/-- The server that the store can be reached at. -/
def host : String :=
  "127.0.0.1"

/-- The number of the service that the store offers. -/
def service : Nat :=
  40000

/-- The address of the server. -/
def server : String :=
  "http://" ++ host ++ ":" ++ Nat.repr service

/-- The endpoint of a client that talks to the store. -/
def endpoint (s : ScriptedStore) : String :=
  server ++ s.suffix

/-- The path of the endpoint, without slashes at its end. -/
def base (s : ScriptedStore) : String :=
  Text.trimEnd Text.isSlash s.suffix

/-- Whether the signature of a message is right; unknown without a secret for its access key. -/
def judge (s : ScriptedStore) (message : Wire.Message) : Option Bool := do
  let keyId ← message.keyId?
  let secret ← s.secrets.lookup keyId
  some (message.check s.base ⟨keyId, secret⟩)

/-- The store with a request noted, and the reply to it. An exhausted script answers plainly. -/
def receive (s : ScriptedStore) (message : Wire.Message) : ScriptedStore × Reply :=
  let reply := s.replies.headD {}
  let receipt : Receipt :=
    ⟨message, s.judge message, reply.interruption = some .duringUpload⟩
  ({ s with replies := s.replies.drop 1, receipts := s.receipts ++ [receipt] }, reply)

/-- What happens when a client sends a request: it arrives if it is for the store's server, and the
transport fails otherwise. -/
def accept (s : ScriptedStore) (dispatch : Store.Dispatch) : ScriptedStore × Option Reply :=
  match Wire.Message.ofDispatch? dispatch with
  | none => (s, none)
  | some (address, message) =>
    if address.secure || address.host != host || address.service != some service then (s, none)
    else
      let (s, reply) := s.receive message
      (s, some reply)

/-- What the transport says when it does not reach a server. -/
def unreachable : List Event :=
  [.fail "connection failed"]

/-- A whole operation against the store, at the given time. -/
def serve (s : ScriptedStore) (r : Request) (key : String) (operation : Operation)
    (now : Instant) : ScriptedStore × Outcome :=
  match (r.start key operation now).2 with
  | none => (s, r.perform key operation now [])
  | some dispatch =>
    match s.accept dispatch with
    | (s, none) => (s, r.perform key operation now unreachable)
    | (s, some reply) => (s, r.perform key operation now (reply.events operation))

/-- The receipts since the last call. -/
def collect (s : ScriptedStore) : ScriptedStore × List Receipt :=
  ({ s with receipts := [] }, s.receipts)

end ScriptedStore

end PreviewSync.Rehearsal
