import PreviewSync.Json.Value

/-!
# Reading JSON documents

The reader takes one token after the other and keeps the unfinished arrays and objects on a stack,
so documents may be nested to any depth.

## Main Definitions

* `Json.Reader` — what has been read so far and what may follow
* `Json.Reader.step` — the effect of one token
* `Json.Value.read?` — the value of a document
-/

namespace PreviewSync.Json

/-- An array or object that is not finished; what it holds so far is kept in reverse. A member whose
value is still to come is kept apart. With a stack of frames, reading goes by one token at a time
and needs no bound on the depth. -/
inductive Frame where
  | array (items : List Value)
  | object (members : List (Option String × Value)) (name : Option String)
deriving Repr

/-- What may follow. -/
inductive Expected where
  | value
  | itemOrEnd
  | memberOrEnd
  | member
  | colon
  | separator
  | nothing
deriving Repr, DecidableEq

/-- What has been read so far and what may follow. -/
structure Reader where
  stack : List Frame
  expected : Expected
  result : Option Value
deriving Repr

namespace Reader

/-- Before the first token. -/
def start : Reader :=
  ⟨[], .value, none⟩

/-- A value is finished: it belongs to the innermost unfinished array or object, or it is the whole
document. -/
def finish (value : Value) : List Frame → Reader
  | [] => ⟨[], .nothing, some value⟩
  | .array items :: outer => ⟨.array (value :: items) :: outer, .separator, none⟩
  | .object members name :: outer =>
    ⟨.object ((name, value) :: members) none :: outer, .separator, none⟩

/-- The first token of a value. -/
def begin (stack : List Frame) : Token → Option Reader
  | .null => some (finish .null stack)
  | .bool b => some (finish (.bool b) stack)
  | .number n => some (finish (.number n) stack)
  | .string s => some (finish (.string s) stack)
  | .bracketOpen => some ⟨.array [] :: stack, .itemOrEnd, none⟩
  | .braceOpen => some ⟨.object [] none :: stack, .memberOrEnd, none⟩
  | _ => none

/-- The effect of one token; there is none when the token may not stand here. -/
def step (r : Reader) (token : Token) : Option Reader :=
  match r.expected, r.stack, token with
  | .value, stack, token => begin stack token
  | .itemOrEnd, .array items :: outer, .bracketClose => some (finish (.array items.reverse) outer)
  | .itemOrEnd, stack, token => begin stack token
  | .memberOrEnd, .object members _ :: outer, .braceClose =>
    some (finish (.object members.reverse) outer)
  | .memberOrEnd, .object members _ :: outer, .string name =>
    some ⟨.object members name :: outer, .colon, none⟩
  | .member, .object members _ :: outer, .string name =>
    some ⟨.object members name :: outer, .colon, none⟩
  | .colon, stack, .colon => some ⟨stack, .value, none⟩
  | .separator, .array items :: outer, .comma => some ⟨.array items :: outer, .value, none⟩
  | .separator, .array items :: outer, .bracketClose => some (finish (.array items.reverse) outer)
  | .separator, .object members name :: outer, .comma =>
    some ⟨.object members name :: outer, .member, none⟩
  | .separator, .object members _ :: outer, .braceClose =>
    some (finish (.object members.reverse) outer)
  | _, _, _ => none

/-- The effect of several tokens. -/
def run (r : Reader) : List Token → Option Reader
  | [] => some r
  | token :: rest =>
    match r.step token with
    | some r' => run r' rest
    | none => none

end Reader

namespace Value

/-- The value of a document. Nothing but blanks may stand around it. -/
def read? (document : String) : Option Value := do
  let tokens ← Token.scanAll? document
  let r ← Reader.start.run tokens
  r.result

/-- The value of a document given as bytes, which must be UTF-8. -/
def ofBytes? (document : Bytes) : Option Value := do
  read? (← document.toText?)

end Value

end PreviewSync.Json
