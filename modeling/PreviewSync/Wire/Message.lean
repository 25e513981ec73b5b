import PreviewSync.Calendar.HttpDate
import PreviewSync.Store.Request
import PreviewSync.Wire.Address

/-!
# Request messages

What arrives at a server, and what it makes of it.

## Main Definitions

* `Wire.Message` — verb, target, header lines and body
* `Wire.Message.ofDispatch?` — the message of a dispatch
* `Wire.Message.toBytes` — what is sent over a connection
* `Wire.Message.resource?` — the bucket and object path that a server reads from the target
* `Wire.Message.check` — the check of a message's signature
-/

namespace PreviewSync.Wire

/-- Verb, target, header lines and body. It is what both sides agree on: a client makes it from a
dispatch, and a server reads it without knowing the dispatch. -/
structure Message where
  verb : Verb
  target : String
  lines : List Store.HeaderLine
  body : Option Bytes
deriving Repr, DecidableEq

namespace Message

/-- What may stand in the value of a header: visible ASCII characters, blanks and tabs. -/
def isFieldChar (c : Char) : Bool :=
  c == '\t' || (32 ≤ c.toNat && c.toNat ≤ 126)

/-- The blanks that do not count around the value of a header. -/
def isFieldBlank (c : Char) : Bool :=
  c == ' ' || c == '\t'

/-- The message of a dispatch and the address it goes to. There is none when the address cannot be
read or the value of a header cannot be sent; a transport then fails before it connects. -/
def ofDispatch? (dispatch : Store.Dispatch) : Option (Address × Message) := do
  let address ← Address.read? dispatch.url
  let lines := dispatch.lines
  if lines.all fun line => line.value.toList.all isFieldChar then
    some (address, ⟨dispatch.verb, address.target, lines, dispatch.payload.map (·.body)⟩)
  else none

/-- The bytes of a message for a server that closes the connection after its answer. -/
def toBytes (message : Message) (address : Address) : Bytes :=
  let service := (address.service.map fun n => ":" ++ Nat.repr n).getD ""
  let first := message.verb.name ++ " " ++ message.target ++ " HTTP/1.1"
  let own := ["Host: " ++ address.host ++ service, "Connection: close"]
  let others := message.lines.map fun line => line.name ++ ": " ++ line.value
  Bytes.ofText (String.join ((first :: own ++ others).map (· ++ "\r\n")) ++ "\r\n")
    ++ message.body.getD []

/-- The value of a header as it arrives. -/
def value? (message : Message) (name : String) : Option String :=
  (Store.Metadata.firstValue? message.lines name).map (Text.trim isFieldBlank)

/-- The bucket and object path in a decoded target: what stands in front of the first slash, one at
the beginning apart, and what follows it. The target is decoded before it is parted, so an encoded
slash parts it as well. -/
def splitResource (decoded : String) : String × String :=
  let cs := match decoded.toList with
    | '/' :: rest => rest
    | cs => cs
  (String.ofList (cs.takeWhile (· != '/')), String.ofList ((cs.dropWhile (· != '/')).drop 1))

/-- The target behind the path of the endpoint. -/
def targetBelow (message : Message) (base : String) : String :=
  let target := message.target.toList
  if base.toList.isPrefixOf target then String.ofList (target.drop base.length)
  else message.target

/-- The bucket and object path that a server reads from a target, if that is text. -/
def resource? (message : Message) (base : String) : Option (String × String) :=
  (ObjectPath.decode (Bytes.ofText (message.targetBelow base))).toText?.map splitResource

/-- What the signature of a message covers, as the server sees it. Nothing in it is taken from the
client but what arrived, so a target that was changed on the way is signed no more. -/
def input? (message : Message) (base : String) : Option Signature.Input :=
  (message.resource? base).map fun (bucket, path) =>
    { verb := message.verb
      contentMd5 := message.value? "Content-MD5"
      contentType := message.value? "Content-Type"
      date := (message.value? "Date").getD ""
      bucket, path }

/-- The check of a message's signature against credentials. -/
def check (message : Message) (base : String) (profile : AccessProfile) : Bool :=
  match message.input? base with
  | some input =>
    match Signature.verify ((message.value? "Authorization").getD "") input profile with
    | .ok () => true
    | .error _ => false
  | none => false

/-- The access key that a message names, if it names one. It is read up to the last colon, since the
signature behind that has none. -/
def keyId? (message : Message) : Option String := do
  match (← message.value? "Authorization").toList with
  | 'A' :: 'W' :: 'S' :: ' ' :: rest => some (Signature.beforeLastColon (String.ofList rest))
  | _ => none

/-- Whether the date of a message is the written form of a second. -/
def hasDate (message : Message) : Bool :=
  ((message.value? "Date").map HttpDate.isWritten).getD false

end Message

end PreviewSync.Wire
