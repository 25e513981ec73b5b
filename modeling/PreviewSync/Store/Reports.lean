import PreviewSync.Store.Profiles

/-!
# Reports in full

Whatever goes wrong in a client is told to its log, with the names and the reason. The reasons of
the disk and of the reader of documents are in words of their own.

## Main Definitions

* `Store.Client.registerReports`, `createReports`, `closeReports` — what a client reports
* `Store.Outcome.reports` — what is reported about an operation
* `Store.Complaints`, `Store.ProfilesDocument.ofFile` — a profiles file, or the reason in words
* `Store.Client.loadReports` — what is reported while a profiles file is loaded
-/

namespace PreviewSync.Store

/-- The reason why the registry refuses a destination, in full. A report names the destination as
well as the fault, so it can be understood by itself. -/
def Fault.refusalReport (identifier : String) : Fault → Log.Entry
  | .duplicateDestination _ =>
    ⟨.warning, "destination already created", [("identifier", identifier)]⟩
  | .rejected rejection =>
    ⟨.warning, "rejecting destination",
      [("identifier", identifier), ("error", rejection.message)]⟩
  | fault =>
    ⟨.warning, "rejecting destination", [("identifier", identifier), ("error", fault.message)]⟩

namespace Client

/-- What is reported about a registration: why it is refused. A registration that succeeds is not
reported here. -/
def registerReports (client : Client) (identifier : String) (profile : AccessProfile)
    (destination : Destination) : List Log.Entry :=
  match client.register identifier profile destination with
  | .ok _ => []
  | .error fault => [fault.refusalReport identifier]

/-- What is reported about a new request: that its name is not registered. -/
def createReports (client : Client) (identifier : String) : List Log.Entry :=
  if client.has identifier then []
  else [⟨.warning, "unknown destination", [("identifier", identifier)]⟩]

/-- What is reported at the end of a client: how many requests were not released. -/
def closeReports (client : Client) : List Log.Entry :=
  if client.live = 0 then []
  else
    [⟨.error, "object store client dropped with live requests",
      [("live", Nat.repr client.live)]⟩]

end Client

/-- What is reported about an operation. A fault of the transport is one of the response if there
has been a response. A cancellation is no fault to report, since it was asked for. -/
def Outcome.reports (outcome : Outcome) (key : String) (verb : Verb) : List Log.Entry :=
  let identifier := outcome.request.registration.identifier
  match outcome.result with
  | .error (.notIdle state) =>
    [⟨.warning, "request is not idle", [("destination", identifier), ("state", state.name)]⟩]
  | .error (.rejected rejection) =>
    [⟨.warning, "request validation failed",
      [("destination", identifier), ("error", rejection.message)]⟩]
  | .error (.transport detail) =>
    let message :=
      if outcome.request.response.isSome then "failed to read response body"
      else "transport failure"
    [⟨.error, message, [("verb", verb.name), ("key", key), ("error", detail)]⟩]
  | .error (.unexpectedStatus verb expected actual) =>
    [⟨.error, "unexpected status code",
      [("verb", verb.name), ("key", key), ("expected", Nat.repr expected.toNat),
        ("actual", Nat.repr actual.toNat)]⟩]
  | _ => []

/-! ### Profiles files -/

/-- How the disk and the reader of documents put what is wrong. The words are their own and are
passed on as they are. They are left open here: the reader may name any place in the document and
quote what stands there, so its words depend on every byte of the file, the secrets included. -/
structure Complaints where
  disk : Disk.Fault → String
  document : Bytes → String

/-- Why there is no profiles document, with the complaint about it. The fault tells what callers can
tell apart, and the complaint is for people only. -/
structure Unreadable where
  fault : ProfilesFault
  complaint : String
deriving Repr, DecidableEq

/-- The wording of it. -/
def Unreadable.message (unreadable : Unreadable) : String :=
  match unreadable.fault with
  | .disk _ => "failed to read profiles file: " ++ unreadable.complaint
  | .document => "failed to parse profiles file: " ++ unreadable.complaint

/-- What is reported about it. -/
def Unreadable.report (unreadable : Unreadable) (path : String) : Log.Entry :=
  let details := [("path", path), ("error", unreadable.complaint)]
  match unreadable.fault with
  | .disk _ => ⟨.error, "failed to read profiles file", details⟩
  | .document => ⟨.error, "failed to parse profiles file", details⟩

/-- The document of a profiles file, given what reading the file ended with. It is read apart from
its use, so that what is reported about a file can be said by the document in it. -/
def ProfilesDocument.ofFile (complaints : Complaints) (content : Except Disk.Fault Bytes) :
    Except Unreadable ProfilesDocument :=
  match content with
  | .error fault => .error ⟨.disk fault, complaints.disk fault⟩
  | .ok content =>
    if content.toText?.isNone then .error ⟨.disk .notText, complaints.disk .notText⟩
    else
      match ProfilesDocument.read? content with
      | none => .error ⟨.document, complaints.document content⟩
      | some document => .ok document

/-- What is reported about one entry, with the reason in full if the registry refuses it. -/
def Client.entryReports (client : Client) (document : ProfilesDocument) (name : String)
    (entry : DestinationEntry) : List Log.Entry :=
  match entry.bucket, entry.keyPrefix, entry.profile with
  | some bucket, some keyPrefix, some profileName =>
    match document.profile? profileName with
    | none =>
      [⟨.error, "failed to find access profile for destination",
        [("destination", name), ("profile", profileName)]⟩]
    | some profile => client.registerReports name profile ⟨bucket, keyPrefix⟩
  | bucket, keyPrefix, profile =>
    requireField name "bucket" bucket ++ requireField name "key" keyPrefix
      ++ requireField name "profile" profile

/-- What is reported about the entries that are left. Whether an entry is refused depends on those
before it, since a name is taken only once, so the registration goes along. -/
def Registering.entriesReports (document : ProfilesDocument) (r : Registering) :
    List (String × DestinationEntry) → List Log.Entry
  | [] => []
  | (name, entry) :: rest =>
    r.client.entryReports document name entry
      ++ (r.entry document name entry).entriesReports document rest

/-- What is reported while a profiles file is loaded. -/
def Client.loadReports (client : Client) (path : String) :
    Except Unreadable ProfilesDocument → List Log.Entry
  | .error unreadable => [unreadable.report path]
  | .ok document =>
    let r : Registering := { client, reports := document.profileReports }
    document.profileReports ++ r.entriesReports document document.destinations.toList

end PreviewSync.Store
