import PreviewSync.Config.Basic
import PreviewSync.Json.Record

/-!
# Configuration documents

A configuration is written as a JSON object in a fixed order of fields. Reading asks for every field
but the endpoint.

## Main Definitions

* `Config.toJson`, `Config.write` — the document of a configuration
* `Config.ofJson?`, `Config.read?` — the configuration of a document
-/

namespace PreviewSync.Config

/-- The document of a configuration. -/
def toJson (config : Config) : Json.Value :=
  Json.object
    [("pollIntervalMs", Json.natural config.pollInterval.toNat),
      ("previewLongestDimension", Json.natural config.longestEdge.toNat),
      ("previewQuality", Json.natural config.quality.toNat),
      ("cacheDir", Json.text config.cacheDirectory),
      ("profilesPath", Json.text config.profilesPath),
      ("endpoint", Json.textOrNull config.endpoint),
      ("connectTimeoutMs", Json.natural config.connectTimeout.toNat),
      ("ioTimeoutMs", Json.natural config.transferTimeout.toNat),
      ("logLevel", Json.text config.logLevel)]

/-- The written document of a configuration. -/
def write (config : Config) : String :=
  config.toJson.write

/-- The names of the fields, in order. -/
def fieldNames : List String :=
  ["pollIntervalMs", "previewLongestDimension", "previewQuality", "cacheDir", "profilesPath",
    "endpoint", "connectTimeoutMs", "ioTimeoutMs", "logLevel"]

/-- The configuration of a document. There are no defaults here: a document is written as a whole,
and one with a field missing is not one that was written. -/
def ofJson? (document : Json.Value) : Option Config := do
  match ← Json.Record.fields? fieldNames document with
  | [poll, edge, quality, cache, profiles, endpoint, connect, transfer, level] =>
    some
      { pollInterval := UInt64.ofNat (← poll.required (·.natural? UInt64.size))
        longestEdge := UInt32.ofNat (← edge.required (·.natural? UInt32.size))
        quality := UInt8.ofNat (← quality.required (·.natural? UInt8.size))
        cacheDirectory := ← cache.required (·.text?)
        profilesPath := ← profiles.required (·.text?)
        endpoint := ← endpoint.optional (·.text?)
        connectTimeout := UInt64.ofNat (← connect.required (·.natural? UInt64.size))
        transferTimeout := UInt64.ofNat (← transfer.required (·.natural? UInt64.size))
        logLevel := ← level.required (·.text?) }
  | _ => none

/-- The configuration of a written document. -/
def read? (document : Bytes) : Option Config := do
  ofJson? (← Json.Value.ofBytes? document)

end PreviewSync.Config
