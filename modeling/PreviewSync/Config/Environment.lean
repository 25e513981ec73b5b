import PreviewSync.Config.Basic
import PreviewSync.Log
import PreviewSync.Text.Decimal

/-!
# Configuration from environment variables

Every variable may be absent. A number that cannot be read leaves the setting as it is and is
reported.

## Main Definitions

* `Config.Environment` — the values of variables
* `Config.ofEnvironment` — the configuration, and the malformed settings in the order of reading
-/

namespace PreviewSync.Config

/-- The values of environment variables. A variable that is not set has none, which is not the same
as an empty one. -/
abbrev Environment := String → Option String

/-- A variable whose value is no number of the required size. The value is kept as it stands, so
that the report shows what was there. -/
structure Malformed where
  name : String
  value : String
deriving Repr, DecidableEq

/-- The wording of a malformed setting. -/
def Malformed.message (m : Malformed) : String :=
  "invalid value for " ++ m.name ++ ": " ++ m.value

/-- The log entry of a malformed setting. -/
def Malformed.entry (m : Malformed) : Log.Entry :=
  ⟨.warning, "ignoring malformed setting", [("error", m.message)]⟩

/-- What a numeric variable says. A malformed one is not an absent one: both leave the setting as it
is, and only one of them is reported. -/
inductive Reading where
  | absent
  | number (value : Nat)
  | malformed (fault : Malformed)
deriving Repr, DecidableEq

/-- Reads a numeric variable; blanks around the number do not matter. -/
def readNumber (env : Environment) (bound : Nat) (name : String) : Reading :=
  match env name with
  | none => .absent
  | some raw =>
    match Decimal.read? bound (Text.trim Text.isBlank raw) with
    | some n => .number n
    | none => .malformed ⟨name, raw⟩

/-- The number read, or a value to fall back to. A malformed value is reported and then treated as
if there were none. -/
def Reading.getD (default : Nat) : Reading → Nat
  | number n => n
  | _ => default

/-- The fault found, as a list. So the faults of all settings can be put together in their order. -/
def Reading.faults : Reading → List Malformed
  | malformed m => [m]
  | _ => []

/-- The endpoint that a value names: blanks around it and slashes at its end are removed, and an
empty rest names none. So a variable that is set to nothing is the same as none. -/
def readEndpoint (raw : String) : Option String :=
  let trimmed := Text.trimEnd Text.isSlash (Text.trim Text.isBlank raw)
  if trimmed.isEmpty then none else some trimmed

/-- The variables that the configuration is read from. -/
def variableNames : List String :=
  ["PRISM_POLL_INTERVAL_MS", "PRISM_PREVIEW_LONGEST_DIMENSION", "PRISM_PREVIEW_QUALITY",
    "PRISM_CACHE_DIR", "PRISM_PROFILES_PATH", "PRISM_ENDPOINT", "PRISM_CONNECT_TIMEOUT_MS",
    "PRISM_IO_TIMEOUT_MS", "LOG_LEVEL"]

/-- The configuration, and the malformed settings in the order of reading. A quality above 100
counts as 100; it is read as a larger number for that, so 300 is no malformed setting. -/
def ofEnvironment (env : Environment) : Config × List Malformed :=
  let defaults : Config := {}
  let poll := readNumber env UInt64.size "PRISM_POLL_INTERVAL_MS"
  let edge := readNumber env UInt32.size "PRISM_PREVIEW_LONGEST_DIMENSION"
  let quality := readNumber env UInt32.size "PRISM_PREVIEW_QUALITY"
  let connect := readNumber env UInt64.size "PRISM_CONNECT_TIMEOUT_MS"
  let transfer := readNumber env UInt64.size "PRISM_IO_TIMEOUT_MS"
  let config : Config :=
    { pollInterval := UInt64.ofNat (poll.getD defaults.pollInterval.toNat)
      longestEdge := UInt32.ofNat (edge.getD defaults.longestEdge.toNat)
      quality := UInt8.ofNat (min (quality.getD defaults.quality.toNat) 100)
      cacheDirectory := (env "PRISM_CACHE_DIR").getD defaults.cacheDirectory
      profilesPath := (env "PRISM_PROFILES_PATH").getD defaults.profilesPath
      endpoint := (env "PRISM_ENDPOINT").bind readEndpoint
      connectTimeout := UInt64.ofNat (connect.getD defaults.connectTimeout.toNat)
      transferTimeout := UInt64.ofNat (transfer.getD defaults.transferTimeout.toNat)
      logLevel := (env "LOG_LEVEL").getD defaults.logLevel }
  (config, [poll, edge, quality, connect, transfer].flatMap Reading.faults)

end PreviewSync.Config
