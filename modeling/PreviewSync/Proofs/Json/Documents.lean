import PreviewSync.Config.Document
import PreviewSync.Identity.AccessProfile
import PreviewSync.Identity.Destination
import PreviewSync.Proofs.Json.RoundTrip

/-!
# Documents of settings and identities

Configurations, access profiles and destinations are written as JSON objects and read back as what
they were: texts of any characters, numbers up to the limits of their types, and an endpoint that is
set or not.

## Main Definitions

* `IsFaithful` — a kind of document in which nothing is lost
* `IsFaithful.of_ofJson?` — it is enough that a plain value is read back from its tree
* `isFaithful_documents` — the documents of configurations, profiles and destinations
-/

namespace PreviewSync.Json

/-- A kind of document in which nothing is lost: what is written is a JSON text of the value that
stands for it, what is read from it is what was written, and nothing else is written alike. That is
what a program relies on that keeps its settings in such a document. -/
structure IsFaithful {α : Type} (toJson : α → Value) (write : α → String)
    (read? : Bytes → Option α) : Prop where
  document : ∀ x, Value.ofBytes? (Bytes.ofText (write x)) = some (toJson x)
  read?_write : ∀ x, read? (Bytes.ofText (write x)) = some x
  injective : Function.Injective write

/-- Documents are faithful if everything in them is plain and read back from the tree of its value.
-/
theorem IsFaithful.of_ofJson? {α : Type} {toJson : α → Value} {ofJson? : Value → Option α}
    (plain : ∀ x, (toJson x).IsPlain) (back : ∀ x, ofJson? (toJson x) = some x) :
    IsFaithful toJson (fun x => (toJson x).write)
      (fun document => (Value.ofBytes? document).bind ofJson?) := by
  have document (x : α) : Value.ofBytes? (Bytes.ofText (toJson x).write) = some (toJson x) :=
    Value.ofBytes?_write (plain x)
  have read (x : α) : (Value.ofBytes? (Bytes.ofText (toJson x).write)).bind ofJson? = some x := by
    rw [document x, Option.bind_some, back x]
  refine ⟨document, read, fun x y same => ?_⟩
  have both : some x = some y := by
    rw [← read x, ← read y, same]
  exact Option.some.inj both

theorem Value.isPlain_textOrNull (text : Option String) : (textOrNull text).IsPlain := by
  cases text with
  | none => simp [IsPlain, textOrNull, tokens, Token.IsPlain]
  | some text => exact isPlain_text text

/-! ### Fields -/

namespace Field

/-- A number is read back if it is below the bound. -/
theorem required_natural {n bound : Nat} (below : n < bound) :
    (given (natural n)).required (·.natural? bound) = some n :=
  if_pos below

theorem required_text (text : String) : (given (Json.text text)).required (·.text?) = some text :=
  rfl

/-- A text that may be missing is read back, and so is that it is missing. It is written as a null
then, and not left out. -/
theorem optional_textOrNull (text : Option String) :
    (given (textOrNull text)).optional (·.text?) = some text := by
  cases text <;> rfl

end Field

end PreviewSync.Json

namespace PreviewSync

open Json (Field IsFaithful Value)

/-- A configuration is read back from its fields. Every number is within the limits of its type. -/
theorem Config.ofJson?_toJson (config : Config) : ofJson? config.toJson = some config := by
  have fields : Json.Record.fields? fieldNames config.toJson =
      some [.given (Json.natural config.pollInterval.toNat),
        .given (Json.natural config.longestEdge.toNat),
        .given (Json.natural config.quality.toNat), .given (Json.text config.cacheDirectory),
        .given (Json.text config.profilesPath), .given (Json.textOrNull config.endpoint),
        .given (Json.natural config.connectTimeout.toNat),
        .given (Json.natural config.transferTimeout.toNat), .given (Json.text config.logLevel)] :=
    rfl
  rw [ofJson?, fields]
  simp only [Option.bind_eq_bind, Option.bind_some, Field.required_text,
    Field.optional_textOrNull, Field.required_natural (UInt64.toNat_lt_size _),
    Field.required_natural (UInt32.toNat_lt_size _), Field.required_natural (UInt8.toNat_lt_size _),
    UInt64.ofNat_toNat, UInt32.ofNat_toNat, UInt8.ofNat_toNat]

theorem Config.isPlain_toJson (config : Config) : config.toJson.IsPlain := by
  apply Value.isPlain_object
  simp [Value.isPlain_natural, Value.isPlain_text, Value.isPlain_textOrNull]

theorem AccessProfile.isPlain_toJson (profile : AccessProfile) : profile.toJson.IsPlain := by
  apply Value.isPlain_object
  simp [Value.isPlain_text]

theorem Destination.isPlain_toJson (destination : Destination) : destination.toJson.IsPlain := by
  apply Value.isPlain_object
  simp [Value.isPlain_text]

/-- Nothing is lost in the documents of configurations, of access profiles and of destinations:
every one is read back as it was written, in all its fields, and no two are written alike. -/
theorem Json.isFaithful_documents :
    IsFaithful Config.toJson Config.write Config.read? ∧
      IsFaithful AccessProfile.toJson AccessProfile.write AccessProfile.read? ∧
      IsFaithful Destination.toJson Destination.write Destination.read? := by
  have profile (profile : AccessProfile) :
      AccessProfile.ofJson? profile.toJson = some profile := rfl
  have destination (destination : Destination) :
      Destination.ofJson? destination.toJson = some destination := rfl
  exact ⟨.of_ofJson? Config.isPlain_toJson Config.ofJson?_toJson,
    .of_ofJson? AccessProfile.isPlain_toJson profile,
    .of_ofJson? Destination.isPlain_toJson destination⟩

end PreviewSync
