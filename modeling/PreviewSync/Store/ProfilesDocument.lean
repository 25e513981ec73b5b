import PreviewSync.Json.NameTable
import PreviewSync.Json.Record

/-!
# Profiles documents

A JSON document that names access profiles, and destinations that refer to them. Any field of an
entry may be missing; what is missing is found out when the document is used.

## Main Definitions

* `Store.ProfileEntry`, `Store.DestinationEntry` — the entries as they stand in the document
* `Store.ProfilesDocument` — the entries by name
* `Store.ProfilesDocument.read?` — the entries of a written document
-/

namespace PreviewSync.Store

/-- Credentials, as far as they are given. A missing field is no fault of the document, which may
hold entries that nobody uses. -/
structure ProfileEntry where
  keyId : Option String
  secret : Option String
deriving Repr, DecidableEq

/-- The entry of a profile in a document. Fields may be missing, which is reported when the entry is
used. -/
def ProfileEntry.ofJson? (document : Json.Value) : Option ProfileEntry := do
  match ← Json.Record.fields? ["accessKeyId", "secretAccessKey"] document with
  | [keyId, secret] => some ⟨← keyId.optional (·.text?), ← secret.optional (·.text?)⟩
  | _ => none

/-- A destination and the name of its profile, as far as they are given. That the profile exists is
not required either before the destination is registered. -/
structure DestinationEntry where
  bucket : Option String
  keyPrefix : Option String
  profile : Option String
deriving Repr, DecidableEq

/-- The entry of a destination in a document. Fields that are not known are passed over. -/
def DestinationEntry.ofJson? (document : Json.Value) : Option DestinationEntry := do
  match ← Json.Record.fields? ["bucket", "key", "profile"] document with
  | [bucket, keyPrefix, profile] =>
    some ⟨← bucket.optional (·.text?), ← keyPrefix.optional (·.text?),
      ← profile.optional (·.text?)⟩
  | _ => none

/-- The entries by name. The tables are in increasing order of names whatever the order in the
document, and so destinations are registered, and reported about, in that order. -/
structure ProfilesDocument where
  profiles : Json.NameTable ProfileEntry
  destinations : Json.NameTable DestinationEntry

namespace ProfilesDocument

/-- The table of the members of an object. -/
def table? {α : Type} (read : Json.Value → Option α) (document : Json.Value) :
    Option (Json.NameTable α) :=
  (document.entries? read).map Json.NameTable.ofList

/-- The entries of a document; either table may be left out. -/
def ofJson? (document : Json.Value) : Option ProfilesDocument := do
  match ← Json.Record.fields? ["accessProfiles", "destinations"] document with
  | [profiles, destinations] =>
    some ⟨← profiles.withDefault .empty (table? ProfileEntry.ofJson?),
      ← destinations.withDefault .empty (table? DestinationEntry.ofJson?)⟩
  | _ => none

/-- The entries of a written document. -/
def read? (document : Bytes) : Option ProfilesDocument := do
  ofJson? (← Json.Value.ofBytes? document)

end ProfilesDocument

end PreviewSync.Store
