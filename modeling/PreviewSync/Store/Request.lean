import PreviewSync.Signature.Headers
import PreviewSync.Store.Fault
import PreviewSync.Store.Metadata

/-!
# Requests

A request belongs to one registered destination and runs one operation at a time. After an operation
it must be reset before the next one.

## Main Definitions

* `Store.Registration` — a destination with its credentials under a name
* `Store.Phase` — where a request stands; metadata is only there once an exchange is complete
* `Store.Request` — a registration, a cancellation flag and a phase
* `Store.Request.url` — the address of an object
* `Store.Request.prepare` — everything an operation puts on the wire, or why it is refused
-/

namespace PreviewSync.Store

/-- A destination with its credentials under a name. It is one record, which a request takes along
whole: what a request does cannot depend on what the name stands for later. -/
structure Registration where
  identifier : String
  profile : AccessProfile
  destination : Destination
deriving Repr, DecidableEq, Inhabited

/-- Where a request stands. A complete exchange without metadata failed before any response. The
metadata is part of the phase, so there is none in any other phase and `reset` cannot leave any
behind. -/
inductive Phase where
  | idle
  | opening
  | transferring
  | receiving
  | complete (response : Option Metadata)
  | cancelled
deriving Repr, DecidableEq

/-- The state that a phase shows. States are what callers see; phases hold the metadata as well. -/
def Phase.state : Phase → State
  | idle => .idle
  | opening => .opening
  | transferring => .transferring
  | receiving => .receiving
  | complete _ => .complete
  | cancelled => .cancelled

/-- A form for messages. -/
def Phase.describe : Phase → String
  | complete response => "Complete(" ++ Quoted.option Metadata.describe response ++ ")"
  | phase => phase.state.name

/-- A registration, a cancellation flag and a phase. The flag is apart from the phase because
cancellation may be asked for at any time, also of an idle request, and is only looked at by the
next operation. -/
structure Request where
  registration : Registration
  endpoint : Option String
  cancelled : Bool := false
  phase : Phase := .idle
deriving Repr, DecidableEq

namespace Request

/-- The state of a request. -/
def state (r : Request) : State :=
  r.phase.state

/-- The metadata of a complete exchange that got a response. An exchange may be complete without
one, when its operation has failed. -/
def response (r : Request) : Option Metadata :=
  match r.phase with
  | .complete response => response
  | _ => none

/-- The status of a complete exchange that got a response. -/
def statusCode (r : Request) : Option UInt16 :=
  r.response.map (·.status)

/-- Asks for cancellation of the present or next operation. It can be asked for at any time, by
whoever holds the flag. -/
def cancel (r : Request) : Request :=
  { r with cancelled := true }

/-- Makes the request ready again; the metadata and the cancellation are dropped. -/
def reset (r : Request) : Request :=
  { r with cancelled := false, phase := .idle }

/-- A form for messages. Of the registration it shows the name only, so it is the same whatever the
credentials are. -/
def describe (r : Request) : String :=
  Quoted.openRecord "ObjectStoreRequest"
    [("destination", Quoted.text r.registration.identifier), ("phase", r.phase.describe),
      ("cancelled", if r.cancelled then "true" else "false")]

/-- The address of the objects of a destination: below the endpoint, or on the bucket's own host.
With an endpoint the bucket is the first segment of the path, since the endpoint names a host
already. -/
def base (r : Request) : String :=
  let bucket := r.registration.destination.bucket
  match r.endpoint with
  | some endpoint => endpoint ++ "/" ++ bucket
  | none => "https://" ++ bucket ++ ".s3.amazonaws.com"

/-- The address of an object. The path is encoded as it is in the signed resource, so that a server
that decodes the target finds what was signed. -/
def url (r : Request) (key : String) : String :=
  r.base ++ "/" ++ ObjectPath.encode (r.registration.destination.objectPath key)

end Request

/-- What an operation puts on the wire, as the transport is told to send it. What becomes of its
address is up to the transport, which reads it on its own. -/
structure Dispatch where
  verb : Verb
  url : String
  headers : Signature.Headers
  payload : Option Payload
deriving Repr, DecidableEq

/-- The header lines of a dispatch. A body brings its type, length and digest. -/
def Dispatch.lines (d : Dispatch) : List HeaderLine :=
  let identity : List HeaderLine :=
    [⟨"Date", d.headers.date⟩, ⟨"Authorization", d.headers.authorization⟩]
  match d.payload with
  | none => identity
  | some payload =>
    identity ++ [⟨"Content-Type", payload.contentType⟩,
      ⟨"Content-Length", Nat.repr payload.body.length⟩]
      ++ (d.headers.contentMd5.map fun value => ⟨"Content-MD5", value⟩).toList

namespace Request

/-- Everything an operation puts on the wire, or why it is refused: the length of the key is checked
first, then that of the address, then the credentials. -/
def prepare (r : Request) (verb : Verb) (key : String) (payload : Option Payload) (now : Instant) :
    Except Rejection Dispatch :=
  let keyLength := key.utf8ByteSize
  let url := r.url key
  let urlLength := url.utf8ByteSize
  if maxKeyLength < keyLength then .error (.keyTooLong keyLength)
  else if maxUrlLength < urlLength then .error (.urlTooLong urlLength)
  else
    match Signature.checkIdentity r.registration.profile r.registration.destination.bucket with
    | .error fault => .error (.signing fault)
    | .ok () =>
      match Signature.Headers.make r.registration.profile r.registration.destination verb key
        payload now with
      | .error fault => .error (.signing fault)
      | .ok headers => .ok ⟨verb, url, headers, payload⟩

end Request

end PreviewSync.Store
