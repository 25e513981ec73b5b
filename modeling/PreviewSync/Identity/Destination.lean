import PreviewSync.Json.Record
import PreviewSync.Text.Trim

/-!
# Destinations

Where objects go: a bucket and a prefix that is put in front of every object key.

## Main Definitions

* `Destination` — bucket and key prefix
* `Destination.objectPath` — prefix and key joined by one slash
* `Destination.write`, `Destination.read?` — the JSON document and back
-/

namespace PreviewSync

/-- A bucket and a prefix for object keys, which may be empty. They are kept as they were given;
slashes are dealt with where a path is made from them. -/
structure Destination where
  bucket : String
  keyPrefix : String
deriving Repr, DecidableEq, Inhabited

namespace Destination

/-- Prefix and key joined by one slash. Slashes around the prefix and in front of the key do not
count, and an empty part leaves no slash behind. Slashes at the end of a key and within it are part
of the path. -/
def objectPath (destination : Destination) (key : String) : String :=
  let outer := Text.trim Text.isSlash destination.keyPrefix
  let inner := Text.trimStart Text.isSlash key
  if outer.isEmpty then inner
  else if inner.isEmpty then outer
  else outer ++ "/" ++ inner

/-- The document of a destination. -/
def toJson (destination : Destination) : Json.Value :=
  Json.object
    [("bucket", Json.text destination.bucket), ("keyPrefix", Json.text destination.keyPrefix)]

/-- The written document of a destination. -/
def write (destination : Destination) : String :=
  destination.toJson.write

/-- The destination of a document; the prefix may be left out. -/
def ofJson? (document : Json.Value) : Option Destination := do
  match ← Json.Record.fields? ["bucket", "keyPrefix"] document with
  | [bucket, keyPrefix] =>
    some ⟨← bucket.required (·.text?), ← keyPrefix.withDefault "" (·.text?)⟩
  | _ => none

/-- The destination of a written document. -/
def read? (document : Bytes) : Option Destination := do
  ofJson? (← Json.Value.ofBytes? document)

end Destination

end PreviewSync
