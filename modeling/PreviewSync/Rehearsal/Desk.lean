import PreviewSync.Rehearsal.Store
import PreviewSync.Store.Profiles

/-!
# Client at a desk

A client with requests in named slots, which talks to a scripted store.

## Main Definitions

* `Rehearsal.Desk` — the store, the client unless it is gone, and the requests by slot
* `Rehearsal.Desk.create`, `free`, `forget`, `change` — requests in slots
* `Rehearsal.Desk.operate` — an operation of a request
* `Rehearsal.Desk.dropClient` — the end of the client
-/

namespace PreviewSync.Rehearsal

open Store (Client Operation Outcome Request)

/-- The store, the client unless it is gone, and the requests by slot. A request in a slot outlives
the client, as a program may hold on to one. -/
structure Desk where
  store : ScriptedStore
  client : Option Client
  slots : List (String × Request) := []

namespace Desk

/-- The request in a slot. -/
def request? (desk : Desk) (slot : String) : Option Request :=
  desk.slots.lookup slot

/-- The slots without one. -/
def slotsWithout (desk : Desk) (slot : String) : List (String × Request) :=
  desk.slots.filter (·.1 != slot)

/-- A slot is emptied, but its request is not released. -/
def forget (desk : Desk) (slot : String) : Desk :=
  { desk with slots := desk.slotsWithout slot }

/-- A slot is emptied and its request is released. -/
def free (desk : Desk) (slot : String) : Desk :=
  if (desk.request? slot).isSome then
    { desk.forget slot with client := desk.client.map Client.release }
  else desk

/-- A request for a destination is put into a slot; one that was there is released. -/
def create (desk : Desk) (client : Client) (slot identifier : String) :
    Desk × Except Store.Fault Unit :=
  match client.create identifier with
  | .error fault => (desk, .error fault)
  | .ok (client, request) =>
    let desk := { desk with client := some client }.free slot
    ({ desk with slots := (slot, request) :: desk.slots }, .ok ())

/-- The request of a slot is changed. -/
def change (desk : Desk) (slot : String) (request : Request) : Desk :=
  { desk with slots := (slot, request) :: desk.slotsWithout slot }

/-- An operation of the request in a slot. Time stands still. -/
def operate (desk : Desk) (slot : String) (request : Request) (key : String)
    (operation : Operation) : Desk × Outcome :=
  let (store, outcome) := desk.store.serve request key operation .epoch
  ({ desk with store }.change slot outcome.request, outcome)

/-- The end of the client. Its requests remain. -/
def dropClient (desk : Desk) (client : Client) : Desk × Except String Unit :=
  ({ desk with client := none }, client.close)

/-- A profiles file is loaded. -/
def loadProfiles (desk : Desk) (client : Client) (content : Except Disk.Fault Bytes) :
    Desk × Store.Loading :=
  let loading := client.loadProfiles content
  ({ desk with client := some loading.client }, loading)

end Desk

end PreviewSync.Rehearsal
