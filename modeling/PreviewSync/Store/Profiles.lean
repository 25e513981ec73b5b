import PreviewSync.Disk.Basic
import PreviewSync.Log
import PreviewSync.Store.ProfilesDocument
import PreviewSync.Store.Registry

/-!
# Loading destinations

A client registers the destinations of a profiles document. An entry with a missing field or an
unknown profile is reported and passed over, and so is one that the registry refuses.

## Main Definitions

* `Store.ProfilesDocument.complete` — the complete profiles of a document
* `Store.Client.registerEntry` — the registration of one entry
* `Store.Client.registerAll` — the registration of a document
* `Store.Client.loadProfiles` — the same from a file
-/

namespace PreviewSync.Store

/-- What is reported about a missing field. It names the field and the entry, and holds no value. -/
def missingField (object field : String) : Log.Entry :=
  ⟨.warning, "missing field, skipping entry", [("object", object), ("field", field)]⟩

/-- A field, or the report that it is missing. It is a list, so that the reports of several fields
can be put together. -/
def requireField (object field : String) (value : Option String) : List Log.Entry :=
  if value.isSome then [] else [missingField object field]

/-- The profile of an entry, if it is complete. Only the first missing field is reported, since the
check stops there. -/
def ProfileEntry.profile? (entry : ProfileEntry) (name : String) :
    Option AccessProfile × List Log.Entry :=
  match entry.keyId, entry.secret with
  | some keyId, some secret => (some ⟨keyId, secret⟩, [])
  | some _, none => (none, [missingField name "secretAccessKey"])
  | none, _ => (none, [missingField name "accessKeyId"])

namespace ProfilesDocument

/-- The profile that a name stands for, if its entry is complete. -/
def profile? (document : ProfilesDocument) (name : String) : Option AccessProfile :=
  (document.profiles.find? name).bind fun entry => (entry.profile? name).1

/-- What is reported about the profiles. It comes before anything about destinations, because all
profiles are gone through first, also those that no destination names. -/
def profileReports (document : ProfilesDocument) : List Log.Entry :=
  document.profiles.toList.flatMap fun (name, entry) => (entry.profile? name).2

end ProfilesDocument

/-- What is reported when the registry refuses a destination. -/
def Fault.registrationReport (identifier : String) : Fault → Log.Entry
  | .duplicateDestination _ =>
    ⟨.warning, "destination already created", [("identifier", identifier)]⟩
  | _ => ⟨.warning, "rejecting destination", [("identifier", identifier)]⟩

/-- A state of the registration: the client, the number of destinations registered so far, and the
reports. The number is counted and not taken from the client, which may know other destinations
already. -/
structure Registering where
  client : Client
  count : Nat := 0
  reports : List Log.Entry := []

namespace Registering

/-- Adds a report. -/
def report (r : Registering) (entries : List Log.Entry) : Registering :=
  { r with reports := r.reports ++ entries }

/-- The registration of one entry. All its missing fields are reported. Whatever is wrong with it,
the client stays as it was and the next entry is looked at. -/
def entry (document : ProfilesDocument) (r : Registering) (name : String)
    (entry : DestinationEntry) : Registering :=
  match entry.bucket, entry.keyPrefix, entry.profile with
  | some bucket, some keyPrefix, some profileName =>
    match document.profile? profileName with
    | none =>
      r.report [⟨.error, "failed to find access profile for destination",
        [("destination", name), ("profile", profileName)]⟩]
    | some profile =>
      match r.client.register name profile ⟨bucket, keyPrefix⟩ with
      | .ok client => { r with client, count := r.count + 1 }
      | .error fault => r.report [fault.registrationReport name]
  | bucket, keyPrefix, profile =>
    r.report (requireField name "bucket" bucket ++ requireField name "key" keyPrefix
      ++ requireField name "profile" profile)

end Registering

/-- The registration of a document, in increasing order of names. The order shows in the reports
only. -/
def Client.registerAll (client : Client) (document : ProfilesDocument) : Registering :=
  document.destinations.toList.foldl
    (fun r (name, entry) => r.entry document name entry)
    { client, reports := document.profileReports }

/-- Why a profiles file cannot be loaded. What the system or the reader says about it is no part of
it. -/
inductive ProfilesFault where
  | disk (fault : Disk.Fault)
  | document
deriving Repr, DecidableEq

/-- What loading a profiles file ends with. There is a client after a fault as well, and it is the
one from before. -/
structure Loading where
  client : Client
  result : Except ProfilesFault Nat
  reports : List Log.Entry

/-- The loading of a profiles file, given what reading it as text ended with. -/
def Client.loadProfiles (client : Client) (content : Except Disk.Fault Bytes) : Loading :=
  let unread (fault : Disk.Fault) : Loading :=
    ⟨client, .error (.disk fault), [⟨.error, "failed to read profiles file", []⟩]⟩
  match content with
  | .error fault => unread fault
  | .ok content =>
    if content.toText?.isNone then unread .notText
    else
      match ProfilesDocument.read? content with
      | none =>
        ⟨client, .error .document, [⟨.error, "failed to parse profiles file", []⟩]⟩
      | some document =>
        let r := client.registerAll document
        ⟨r.client, .ok r.count, r.reports⟩

end PreviewSync.Store
