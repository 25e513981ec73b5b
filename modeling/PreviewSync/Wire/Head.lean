import PreviewSync.Bytes.Hex
import PreviewSync.Store.Metadata
import PreviewSync.Wire.Message

/-!
# Heads of responses

The part of a response in front of its body: a line with the status, and fields up to an empty line.

## Main Definitions

* `Wire.takeLine?` — the first line of some bytes
* `Wire.Field` — a header as a client gets to see it
* `Wire.Head.take?` — the head that some bytes begin with
* `Wire.Head.value?` — the value of the first field of a name
* `Wire.Head.lines` — the header lines whose values can be seen
-/

namespace PreviewSync.Wire

open Store (HeaderLine)

/-- The most bytes of a line, its end included. A server may send any amount, and a transport must
give up somewhere. -/
def maxLineBytes : Nat :=
  102400

/-- The first line of some bytes and what follows it. A line ends with a line feed; a carriage
return in front of that is no part of the line. -/
def takeLine? (bytes : Bytes) : Option (Bytes × Bytes) :=
  match bytes.dropWhile (· != 10) with
  | _ :: rest =>
    let line := bytes.takeWhile (· != 10)
    if maxLineBytes ≤ line.length then none
    else some (if line.getLast? = some 13 then line.dropLast else line, rest)
  | [] => none

/-- A line and its end take up at least one byte. -/
theorem length_lt_of_takeLine? {bytes line rest : Bytes}
    (h : takeLine? bytes = some (line, rest)) : rest.length < bytes.length := by
  unfold takeLine? at h
  split at h
  · rename_i b tail heq
    dsimp only at h
    split at h
    · simp at h
    · rw [Option.some.injEq, Prod.mk.injEq] at h
      have hle := (List.dropWhile_sublist (· != (10 : UInt8)) (l := bytes)).length_le
      rw [heq, h.2, List.length_cons] at hle
      omega
  · simp at h

/-- A header as a client gets to see it. A value that is not plain text cannot be seen, though its
name can. -/
structure Field where
  name : String
  value : Option String
deriving Repr, DecidableEq

namespace Field

/-- The marks that the name of a field may hold beside letters and digits. -/
def nameMarks : List UInt8 :=
  [33, 35, 36, 37, 38, 39, 42, 43, 45, 46, 94, 95, 96, 124, 126]

/-- What the name of a field may hold. -/
def isNameByte (b : UInt8) : Bool :=
  (48 ≤ b && b ≤ 57) || (65 ≤ b && b ≤ 90) || (97 ≤ b && b ≤ 122) || nameMarks.contains b

/-- The plain text in the value of a field, once the blanks around it are gone. -/
def readValue? (value : Bytes) : Option String :=
  (value.toText?.map (Text.trim Text.isBlank)).filter fun text =>
    text.toList.all Message.isFieldChar

/-- The field in a line: a name, a colon and a value. -/
def read? (line : Bytes) : Option Field :=
  let name := line.takeWhile (· != 58)
  match line.dropWhile (· != 58) with
  | _ :: value =>
    if !name.isEmpty && name.all isNameByte then
      some ⟨String.ofList (name.map fun b => Char.ofNat b.toNat), readValue? value⟩
    else none
  | [] => none

end Field

/-- The part of a response in front of its body. -/
structure Head where
  status : UInt16
  isFirstVersion : Bool
  fields : List Field
deriving Repr, DecidableEq

namespace Head

/-- The most fields of a head. -/
def maxFields : Nat :=
  100

/-- The fields up to the first empty line, and what follows that. There is room for a number of
fields; lines without a field in them are passed over and take no room. -/
def takeFields? (room : Nat) (bytes : Bytes) : Option (List Field × Bytes) :=
  match h : takeLine? bytes with
  | none => none
  | some (line, rest) =>
    have := length_lt_of_takeLine? h
    if line.isEmpty then some ([], rest)
    else
      match Field.read? line, room with
      | none, room => takeFields? room rest
      | some _, 0 => none
      | some field, room + 1 =>
        (takeFields? room rest).map fun (fields, rest) => (field :: fields, rest)
termination_by bytes.length

/-- Whether the first word of a response names the version that knows no chunks. -/
def isFirstVersionName (word : String) : Bool :=
  Store.lowerName word == "http/1.0"

/-- The version and status in the first line of a response: words with single blanks between them,
the first of at least five characters and the second of exactly three. -/
def readStatus? (line : Bytes) : Option (Bool × UInt16) :=
  if line.all (· < 128) then
    match (line.map fun b => Char.ofNat b.toNat).splitOn ' ' with
    | version :: status :: _ =>
      if 5 ≤ version.length ∧ status.length = 3 then
        (Decimal.read? UInt16.size (String.ofList status)).map fun n =>
          (isFirstVersionName (String.ofList version), UInt16.ofNat n)
      else none
    | _ => none
  else none

/-- The head that some bytes begin with, and what follows it. -/
def take? (bytes : Bytes) : Option (Head × Bytes) := do
  let (first, rest) ← takeLine? bytes
  let (isFirstVersion, status) ← readStatus? first
  let (fields, rest) ← takeFields? maxFields rest
  some (⟨status, isFirstVersion, fields⟩, rest)

/-- The value of the first field of a name, if it can be seen. A later field of the name does not
stand in for a first one that cannot. -/
def value? (head : Head) (name : String) : Option String :=
  (head.fields.find? fun field => Store.lowerName field.name == Store.lowerName name).bind (·.value)

/-- The header lines whose values can be seen, each with the value of the first of its name. -/
def lines (head : Head) : List HeaderLine :=
  head.fields.filterMap fun field => (head.value? field.name).map fun value => ⟨field.name, value⟩

end Head

end PreviewSync.Wire
