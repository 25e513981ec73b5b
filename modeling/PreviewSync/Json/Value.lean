import PreviewSync.Json.Token

/-!
# JSON values

## Main Definitions

* `Json.Value` — a value, with object members in the order of the document, repeated names included
* `Json.Value.tokens` — the tokens of a value
* `Json.Value.write` — the written form without blanks
* `Json.text`, `Json.natural`, `Json.object` — values as this library writes them
-/

namespace PreviewSync.Json

/-- A value. As in tokens, the text of a string is absent when an unpaired surrogate stands in it,
and a number that is not written as digits alone has no value. A document may hold such values where
nobody looks at them, so they do not make it unreadable. -/
inductive Value where
  | null
  | bool (value : Bool)
  | number (natural : Option Nat)
  | string (text : Option String)
  | array (items : List Value)
  | object (members : List (Option String × Value))
deriving Repr

/-- A string value. -/
def text (s : String) : Value :=
  .string (some s)

/-- A number value. -/
def natural (n : Nat) : Value :=
  .number (some n)

/-- A string value, or `null`. -/
def textOrNull : Option String → Value
  | none => .null
  | some s => text s

/-- An object value. -/
def object (members : List (String × Value)) : Value :=
  .object (members.map fun (name, value) => (some name, value))

namespace Value

mutual

/-- The tokens of a value. -/
def tokens : Value → List Token
  | null => [.null]
  | bool b => [.bool b]
  | number n => [.number n]
  | string s => [.string s]
  | array [] => [.bracketOpen, .bracketClose]
  | array (item :: items) => .bracketOpen :: (tokens item ++ tokensOfItems items)
  | object [] => [.braceOpen, .braceClose]
  | object ((name, value) :: members) =>
    .braceOpen :: .string name :: .colon :: (tokens value ++ tokensOfMembers members)

/-- The tokens of the further items of an array, the closing bracket included. -/
def tokensOfItems : List Value → List Token
  | [] => [.bracketClose]
  | item :: items => .comma :: (tokens item ++ tokensOfItems items)

/-- The tokens of the further members of an object, the closing brace included. -/
def tokensOfMembers : List (Option String × Value) → List Token
  | [] => [.braceClose]
  | (name, value) :: members =>
    .comma :: .string name :: .colon :: (tokens value ++ tokensOfMembers members)

end

/-- The written form without blanks. -/
def write (value : Value) : String :=
  String.ofList (value.tokens.flatMap Token.write)

end Value

end PreviewSync.Json
