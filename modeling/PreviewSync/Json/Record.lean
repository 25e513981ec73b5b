import PreviewSync.Json.Reader

/-!
# Records in JSON documents

A record is written as an object.  It is read from an object, in which unknown members are passed
over and no known member may be repeated, or from an array that lists its fields in order.

## Main Definitions

* `Json.Record.fields?` — the field values of a record
* `Json.Field.required`, `Json.Field.optional`, `Json.Field.withDefault` — what a missing field
  means
* `Json.Value.natural?`, `Json.Value.text?`, … — the values of single fields
-/

namespace PreviewSync.Json

/-- The value given for a field. A field may be left out of an object, or stand beyond the end of an
array. The two differ for a field that may be `null`, which an object may leave out and an array may
not. -/
inductive Field where
  | given (value : Value)
  | leftOut
  | beyondEnd
deriving Repr

namespace Record

/-- The names of the members of an object; every name must be a text. -/
def names? : List (Option String × Value) → Option (List String)
  | [] => some []
  | (none, _) :: _ => none
  | (some name, _) :: rest => (names? rest).map (name :: ·)

/-- A member of an object by name. -/
def member (members : List (Option String × Value)) (name : String) : Field :=
  match members.find? (fun m => m.1 == some name) with
  | some (_, value) => .given value
  | none => .leftOut

/-- The values of named fields, in the order of the names. -/
def fields? (names : List String) : Value → Option (List Field)
  | .object members => do
    let given ← names? members
    if names.all (fun name => given.count name ≤ 1) then some (names.map (member members)) else none
  | .array items =>
    if items.length ≤ names.length then
      some (items.map .given ++ List.replicate (names.length - items.length) .beyondEnd)
    else none
  | _ => none

end Record

namespace Field

/-- A field that must be given. -/
def required {α : Type} (read : Value → Option α) : Field → Option α
  | .given value => read value
  | _ => none

/-- A field that may be `null` or be left out of an object, but must have its place in an array. -/
def optional {α : Type} (read : Value → Option α) : Field → Option (Option α)
  | .given .null => some none
  | .given value => (read value).map some
  | .leftOut => some none
  | .beyondEnd => none

/-- A field that may be left out anywhere. -/
def withDefault {α : Type} (default : α) (read : Value → Option α) : Field → Option α
  | .given value => read value
  | _ => some default

end Field

namespace Value

/-- A natural number below a bound. -/
def natural? (bound : Nat) : Value → Option Nat
  | .number (some n) => if n < bound then some n else none
  | _ => none

/-- A text. -/
def text? : Value → Option String
  | .string s => s
  | _ => none

/-- A list of texts. -/
def texts? : Value → Option (List String)
  | .array items => items.mapM text?
  | _ => none

/-- Reads the values of the members of an object; every name must be a text. -/
def entries? {α : Type} (read : Value → Option α) : Value → Option (List (String × α))
  | .object members => members.mapM fun (name, value) => do some (← name, ← read value)
  | _ => none

end Value

end PreviewSync.Json
