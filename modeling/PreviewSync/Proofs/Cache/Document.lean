import PreviewSync.Cache.Document
import PreviewSync.Proofs.Catalog.Difference
import PreviewSync.Proofs.Json.RoundTrip

/-!
# Reading back cache documents

A set of keys is what its document is read as.

## Main Definitions

* `CacheDocument.read?_write` — the keys that are read from a written document
-/

namespace PreviewSync.CacheDocument

/-- The list of keys is read back. -/
theorem texts?_map_text (keys : List String) :
    (Json.Value.array (keys.map Json.text)).texts? = some keys := by
  show (keys.map Json.text).mapM Json.Value.text? = some keys
  induction keys with
  | nil => rfl
  | cons key keys ih =>
    rw [List.map_cons, List.mapM_cons, ih]
    rfl

/-- The set of the keys of a set is that set. Keys are written in their order, and without
repetition. -/
theorem ofList_toList (keys : KeySet) : KeySet.ofList keys.toList = keys :=
  KeySet.ext fun _ => by rw [KeySet.mem_ofList, KeySet.mem_toList]

/-- The keys of a document of keys. -/
theorem ofJson?_toJson (keys : KeySet) : ofJson? (toJson keys) = some keys := by
  have fields : Json.Record.fields? ["version", "keys"] (toJson keys) =
      some [.given (Json.natural 1), .given (.array (keys.toList.map Json.text))] := by
    rfl
  have version : (Json.natural 1).natural? UInt32.size = some 1 := by rfl
  rw [ofJson?, fields]
  simp only [Option.bind_eq_bind, Option.bind_some, Json.Field.required, version,
    texts?_map_text, ofList_toList]

/-- A written set of keys is read back. Any text may be a key, so this rests on the writing of
texts. -/
theorem read?_write (keys : KeySet) : read? (write keys) = some keys := by
  have plain : (toJson keys).IsPlain := by
    refine Json.Value.isPlain_object fun entry member => ?_
    rcases List.mem_cons.1 member with rfl | member
    · exact Json.Value.isPlain_natural 1
    · rw [List.mem_singleton.1 member]
      refine Json.Value.isPlain_array fun item member => ?_
      obtain ⟨key, -, rfl⟩ := List.mem_map.1 member
      exact Json.Value.isPlain_text key
  rw [read?, write, Json.Value.ofBytes?_write plain]
  exact ofJson?_toJson keys

end PreviewSync.CacheDocument
