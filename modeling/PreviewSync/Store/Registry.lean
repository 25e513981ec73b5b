import PreviewSync.Config.Basic
import PreviewSync.Store.Operation

/-!
# Registered destinations

A client knows destinations by name and makes requests that are bound to one of them. A request
keeps the registration that it was made with, whatever happens to the name later.

## Main Definitions

* `Store.Client` — the registrations, the endpoint and the number of live requests
* `Store.Client.register`, `remove`, `removeAll`, `find?` — the registry as a map
* `Store.Client.create`, `release`, `close` — requests, and the end of a client
-/

namespace PreviewSync.Store

/-- The registrations, the endpoint and the number of requests that were made and not released.
Requests are only counted: they belong to their callers, and none of them is changed by what happens
to the client. -/
structure Client where
  registrations : List Registration := []
  endpoint : Option String := none
  live : Nat := 0
deriving Repr, DecidableEq, Inhabited

namespace Client

/-- A client without registrations. Slashes at the end of the endpoint do not count, since one is
put between the endpoint and the bucket. -/
def ofConfig (config : Config) : Client :=
  { endpoint := config.endpoint.map (Text.trimEnd Text.isSlash) }

/-- The registration of a name. There is one at most, so the first is the only one. -/
def find? (client : Client) (identifier : String) : Option Registration :=
  client.registrations.find? (·.identifier == identifier)

/-- Whether a name is registered. -/
def has (client : Client) (identifier : String) : Bool :=
  (client.find? identifier).isSome

/-- The number of registered names. -/
def count (client : Client) : Nat :=
  client.registrations.length

/-- Registers a destination under a name that is free. Credentials and bucket must not be empty, so
no request is ever made that could not be signed. -/
def register (client : Client) (identifier : String) (profile : AccessProfile)
    (destination : Destination) : Except Fault Client :=
  match Signature.checkIdentity profile destination.bucket with
  | .error fault => .error (.rejected (.signing fault))
  | .ok () =>
    if client.has identifier then .error (.duplicateDestination identifier)
    else
      .ok { client with
        registrations := client.registrations ++ [⟨identifier, profile, destination⟩] }

/-- Removes a name. Requests that were made for it go on with the registration that they have. -/
def remove (client : Client) (identifier : String) : Client :=
  { client with
    registrations := client.registrations.filter (·.identifier != identifier) }

/-- Removes every name. Requests that were made keep their copies. -/
def removeAll (client : Client) : Client :=
  { client with registrations := [] }

/-- Makes a request for a registered name. It is counted here and nowhere else, and `release` takes
it off again. -/
def create (client : Client) (identifier : String) : Except Fault (Client × Request) :=
  match client.find? identifier with
  | some registration =>
    .ok ({ client with live := client.live + 1 },
      { registration, endpoint := client.endpoint })
  | none => .error (.unknownDestination identifier)

/-- Releases a request. Only the number is kept, as the client need not know which one. -/
def release (client : Client) : Client :=
  { client with live := client.live - 1 }

/-- A form for messages. -/
def describe (client : Client) : String :=
  Quoted.openRecord "ObjectStoreClient"
    [("destinations", Nat.repr client.count),
      ("endpoint", Quoted.option Quoted.text client.endpoint), ("live", Nat.repr client.live)]

/-- The end of a client. All its requests must have been released; otherwise there is a complaint
that counts them. A caller that has lost a request is wrong, and this is where it is found out. -/
def close (client : Client) : Except String Unit :=
  if client.live = 0 then .ok ()
  else .error ("object store client dropped with " ++ Nat.repr client.live ++ " live request(s)")

end Client

end PreviewSync.Store
