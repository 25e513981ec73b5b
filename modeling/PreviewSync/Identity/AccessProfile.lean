import PreviewSync.Json.Record
import PreviewSync.Text.Quoted

/-!
# Access profiles

A pair of credentials: the public key id and the secret that signs.

## Main Definitions

* `AccessProfile` — the credentials
* `AccessProfile.isComplete` — whether both parts are present
* `AccessProfile.describe` — a form for messages, which never shows the secret
* `AccessProfile.write`, `AccessProfile.read?` — the JSON document and back
-/

namespace PreviewSync

/-- A pair of credentials. Either part may be empty, which is found out when the pair is to be used.
-/
structure AccessProfile where
  keyId : String
  secret : String
deriving Repr, DecidableEq, Inhabited

namespace AccessProfile

/-- Whether both parts are present. -/
def isComplete (profile : AccessProfile) : Bool :=
  !profile.keyId.isEmpty && !profile.secret.isEmpty

/-- A form for messages, which never shows the secret. It has the same words in its place whatever
the secret is, so not even its length can be told. -/
def describe (profile : AccessProfile) : String :=
  Quoted.record "AccessProfile"
    [("access_key_id", Quoted.text profile.keyId),
      ("secret_access_key", Quoted.text "<redacted>")]

/-- The document of a profile. -/
def toJson (profile : AccessProfile) : Json.Value :=
  Json.object
    [("accessKeyId", Json.text profile.keyId), ("secretAccessKey", Json.text profile.secret)]

/-- The written document of a profile. -/
def write (profile : AccessProfile) : String :=
  profile.toJson.write

/-- The profile of a document; both fields must be given. -/
def ofJson? (document : Json.Value) : Option AccessProfile := do
  match ← Json.Record.fields? ["accessKeyId", "secretAccessKey"] document with
  | [keyId, secret] => some ⟨← keyId.required (·.text?), ← secret.required (·.text?)⟩
  | _ => none

/-- The profile of a written document. -/
def read? (document : Bytes) : Option AccessProfile := do
  ofJson? (← Json.Value.ofBytes? document)

end AccessProfile

end PreviewSync
