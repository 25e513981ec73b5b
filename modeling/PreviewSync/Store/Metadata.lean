import PreviewSync.Text.Decimal
import PreviewSync.Text.Quoted
import PreviewSync.Text.Trim

/-!
# Response metadata

What is kept of a response: its status and three of its headers. Header names are compared without
regard to the case of ASCII letters.

## Main Definitions

* `Store.HeaderLine` — a header as it arrives
* `Store.Metadata` — the status and the headers that are kept
* `Store.Metadata.absorb` — the effect of one header line
* `Store.Metadata.ofLines` — the metadata of a whole response, in which the first line of a name
  counts
-/

namespace PreviewSync.Store

/-- A header as it arrives, with the blanks and the case of letters that it was sent with. What
these count for is settled where it is read, in one place. -/
structure HeaderLine where
  name : String
  value : String
deriving Repr, DecidableEq

/-- A name with its ASCII letters in lower case. Two names are the same header iff they agree in
this form. -/
def lowerName (name : String) : String :=
  String.ofList (name.toList.map Char.toLower)

/-- The status and the headers that are kept. A header that is missing or does not make sense is
absent; no header is a reason for an operation to fail, since the status alone decides that. -/
structure Metadata where
  status : UInt16
  contentLength : Option UInt64 := none
  contentType : Option String := none
  etag : Option String := none
deriving Repr, DecidableEq

namespace Metadata

/-- A value without one pair of quotes around it; a single quote sign is no pair. -/
def withoutQuotes (value : String) : String :=
  match value.toList with
  | '"' :: rest =>
    if rest.getLast? == some '"' then String.ofList rest.dropLast else value
  | _ => value

/-- The length that a value states, if it states one. It is only told to the caller: where a body
ends is found out by the transport on its own. -/
def readLength (value : String) : Option UInt64 :=
  (Decimal.read? UInt64.size value).map UInt64.ofNat

/-- The effect of one header line. Blanks around the value do not count. A line always replaces what
an earlier one of its name has said, so of lines absorbed one by one the last counts; that the first
counts in a response is due to the values that `ofLines` takes them with. -/
def absorb (metadata : Metadata) (line : HeaderLine) : Metadata :=
  let value := Text.trim Text.isBlank line.value
  let name := lowerName line.name
  if name = "content-length" then { metadata with contentLength := readLength value }
  else if name = "content-type" then { metadata with contentType := some value }
  else if name = "etag" then { metadata with etag := some (withoutQuotes value) }
  else metadata

/-- The effect of several header lines, one after the other. So a later line of a name counts more
than an earlier one. -/
def absorbAll (metadata : Metadata) (lines : List HeaderLine) : Metadata :=
  lines.foldl absorb metadata

/-- The value of the first line with a name. Names are compared without regard to case. -/
def firstValue? (lines : List HeaderLine) (name : String) : Option String :=
  (lines.find? fun line => lowerName line.name == lowerName name).map (·.value)

/-- The metadata of a whole response. Every line is taken with the value of the first line of its
name, so a repeated name has no effect of its own. A transport hands out values by name and has the
first of them, and the lines are gone through by their names. -/
def ofLines (status : UInt16) (lines : List HeaderLine) : Metadata :=
  lines.foldl
    (fun metadata line =>
      match firstValue? lines line.name with
      | some value => metadata.absorb ⟨lowerName line.name, value⟩
      | none => metadata)
    { status }

/-- A form for messages. -/
def describe (metadata : Metadata) : String :=
  Quoted.record "ResponseMetadata"
    [("status", Nat.repr metadata.status.toNat),
      ("content_length", Quoted.option (fun n => Nat.repr n.toNat) metadata.contentLength),
      ("content_type", Quoted.option Quoted.text metadata.contentType),
      ("etag", Quoted.option Quoted.text metadata.etag)]

end Metadata

end PreviewSync.Store
