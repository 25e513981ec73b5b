import PreviewSync.CommandLine.ValuePattern
import PreviewSync.Text.Alphanumeric
import PreviewSync.Text.Trim

/-!
# Log filters

A log filter is a list of directives, parted by commas. A directive is a level for everything, or a
target, a span with fields, and a level:

    target[span{field=pattern}]=level

## Main Definitions

* `CommandLine.LogFilter.Flaw` — why a directive is not accepted
* `CommandLine.LogFilter.step` — the effect of one character of a directive
* `CommandLine.LogFilter.flaw?` — what is wrong with a directive
* `CommandLine.LogFilter.isValid` — whether a text is a log filter
* `CommandLine.LogFilter.notices` — what is said about a log filter whose flaws are passed over
-/

namespace PreviewSync.CommandLine.LogFilter

/-- Why a directive is not accepted. A filter from the configuration must have no flaw at all, and
one from the environment is told about each and goes without it. -/
inductive Flaw where
  | form
  | level
  | pattern
deriving Repr, DecidableEq

/-- The wording of a flaw. -/
def Flaw.message : Flaw → String
  | form => "invalid filter directive"
  | level =>
    "error parsing level filter: expected one of \"off\", \"error\", \"warn\", \"info\", "
      ++ "\"debug\", \"trace\", or a number 0-5"
  | pattern => "invalid field filter: error building NFA"

/-- The names of levels. -/
def levelNames : List String :=
  ["off", "error", "warn", "info", "debug", "trace"]

/-- The number of levels. -/
def levelCount : Nat :=
  6

/-- A level, by name or number, or nothing, which stands for the last one. -/
def isLevel (text : List Char) : Bool :=
  text.isEmpty || levelNames.contains (String.ofList (text.map Char.toLower))
    || (Decimal.read? levelCount (String.ofList text)).isSome

/-- Where in a directive the next character stands; parts that are being read begin at a position.
-/
inductive Place where
  | start
  | word
  | span
  | field (first : Nat)
  | behindFields
  | behindSpan
  | level (first : Nat)
deriving Repr, DecidableEq

/-- A directive begins with a letter or digit, or one of these signs. -/
def isStart (c : Char) : Bool :=
  Text.isAlphanumeric c || c == '-' || c == ':' || c == '_'

/-- The pattern of a field, which stands behind an equals sign. -/
def patternOf? (field : List Char) : Option (List Char) :=
  match field.dropWhile (· != '=') with
  | _ :: rest => some (rest.takeWhile (· != '='))
  | [] => none

/-- What is wrong with a field. -/
def checkField (field : List Char) : Except Flaw Place :=
  if field.isEmpty then .error .form
  else if ((patternOf? field).map ValuePattern.isValid).getD true then .ok .behindFields
  else .error .pattern

/-- The effect of one character of a directive at a position. -/
def step (directive : List Char) (place : Place) (entry : Char × Nat) : Except Flaw Place :=
  let (c, i) := entry
  match place, c with
  | .start, '[' => .ok .span
  | .start, c => if isStart c then .ok .word else .error .form
  | .word, '=' => .ok (.level (i + 1))
  | .word, '[' => .ok .span
  | .word, _ => .ok .word
  | .span, ']' => .ok .behindSpan
  | .span, '{' => .ok (.field (i + 1))
  | .span, _ => .ok .span
  | .field first, '}' => checkField ((directive.take i).drop first)
  | .field first, _ => .ok (.field first)
  | .behindFields, ']' => .ok .behindSpan
  | .behindFields, _ => .error .form
  | .behindSpan, '=' => .ok (.level (i + 1))
  | .behindSpan, _ => .error .form
  | .level first, _ => .ok (.level first)

/-- Where a directive may end. -/
def finish (directive : List Char) : Place → Except Flaw Unit
  | .word => .ok ()
  | .behindSpan => .ok ()
  | .level first => if isLevel (directive.drop first) then .ok () else .error .level
  | _ => .error .form

/-- What is wrong with a directive. Blanks around it are not read, but its parts are cut out by
position as if it began with what is read. -/
def flaw? (directive : String) : Option Flaw :=
  let entries := (Text.trim Text.isBlank directive).toList.zipIdx
  match entries.foldlM (step directive.toList) .start >>= finish directive.toList with
  | .ok () => none
  | .error flaw => some flaw

/-- The directives of a log filter. Empty ones do not count. -/
def directives (text : String) : List String :=
  (text.splitOn ",").filter fun directive => !directive.isEmpty

/-- Whether a text is a log filter. -/
def isValid (text : String) : Bool :=
  (directives text).all fun directive => (flaw? directive).isNone

/-- What is said about a log filter whose flaws are passed over. -/
def notices (text : String) : List String :=
  (directives text).filterMap fun directive =>
    (flaw? directive).map fun flaw => "ignoring `" ++ directive ++ "`: " ++ flaw.message

end PreviewSync.CommandLine.LogFilter
