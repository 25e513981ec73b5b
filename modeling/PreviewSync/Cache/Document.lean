import PreviewSync.Catalog.KeySet
import PreviewSync.Json.Record

/-!
# Cache documents

The keys of a change cache are kept in a JSON object with a version number and a list.

## Main Definitions

* `CacheDocument.write` — the document of a set of keys
* `CacheDocument.read?` — the set of keys of a document; any version is accepted
-/

namespace PreviewSync.CacheDocument

/-- The document of a set of keys. -/
def toJson (keys : KeySet) : Json.Value :=
  Json.object [("version", Json.natural 1), ("keys", .array (keys.toList.map Json.text))]

/-- The written document of a set of keys. -/
def write (keys : KeySet) : Bytes :=
  Bytes.ofText (toJson keys).write

/-- The set of keys of a document. The order and repetitions of the list do not count. The version
must be a number and is not looked at otherwise. -/
def ofJson? (document : Json.Value) : Option KeySet := do
  match ← Json.Record.fields? ["version", "keys"] document with
  | [version, keys] =>
    let _ ← version.required (·.natural? UInt32.size)
    some (KeySet.ofList (← keys.required (·.texts?)))
  | _ => none

/-- The set of keys of a written document. -/
def read? (document : Bytes) : Option KeySet := do
  ofJson? (← Json.Value.ofBytes? document)

end PreviewSync.CacheDocument
