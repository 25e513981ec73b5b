import PreviewSync.Text.Trim

/-!
# Configuration

## Main Definitions

* `Config` — the settings, with their defaults
* `Config.clampedQuality` — the re-encoding quality that is used, from 1 to 100
* `Config.validate` — the check that every run starts with
* `Config.Rejection` — why a configuration is refused
-/

namespace PreviewSync

/-- The settings. Durations are in milliseconds. Numbers have the widths that they are kept in,
since what is too large for them is found out when a setting is read. -/
structure Config where
  pollInterval : UInt64 := 5000
  longestEdge : UInt32 := 220
  quality : UInt8 := 40
  cacheDirectory : String := "."
  profilesPath : String := "awsprofiles.json"
  endpoint : Option String := none
  connectTimeout : UInt64 := 10000
  transferTimeout : UInt64 := 60000
  logLevel : String := "info"
deriving Repr, DecidableEq, Inhabited

namespace Config

/-- Why a configuration is refused. There is no rejection for the quality, which is moved into its
range where it is used. -/
inductive Rejection where
  | zeroPollInterval
  | zeroLongestEdge
  | zeroTimeout
  | endpointScheme (endpoint : String)
deriving Repr, DecidableEq

/-- The wording of a rejection. -/
def Rejection.message : Rejection → String
  | zeroPollInterval => "configuration error: poll interval must be positive"
  | zeroLongestEdge => "configuration error: preview longest dimension must be positive"
  | zeroTimeout => "configuration error: transport timeouts must be positive"
  | endpointScheme endpoint =>
    "configuration error: endpoint " ++ endpoint ++ " must start with http:// or https://"

/-- The quality that is used: the setting, moved into the range from 1 to 100. -/
def clampedQuality (config : Config) : UInt8 :=
  if config.quality < 1 then 1 else if 100 < config.quality then 100 else config.quality

/-- An address that begins with one of the two known schemes. What follows the scheme is not looked
at, and may be nothing at all. -/
def hasScheme (endpoint : String) : Bool :=
  "http://".toList.isPrefixOf endpoint.toList || "https://".toList.isPrefixOf endpoint.toList

/-- The check that every run starts with. The first fault in the order of the settings counts. A
configuration may come from variables, from a document or from a caller, and this is the one place
where all three are checked. -/
def validate (config : Config) : Except Rejection Unit :=
  if config.pollInterval = 0 then .error .zeroPollInterval
  else if config.longestEdge = 0 then .error .zeroLongestEdge
  else if config.connectTimeout = 0 ∨ config.transferTimeout = 0 then .error .zeroTimeout
  else
    match config.endpoint with
    | some endpoint => if hasScheme endpoint then .ok () else .error (.endpointScheme endpoint)
    | none => .ok ()

end Config

end PreviewSync
