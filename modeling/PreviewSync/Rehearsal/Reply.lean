import PreviewSync.Store.Operation
import PreviewSync.Wire.Response

/-!
# Scripted replies

A rehearsal replaces the store by a script of replies. A reply says how the store answers one
request, and when somebody cancels the operation meanwhile.

## Main Definitions

* `Rehearsal.Reply` — status, headers, body, how they are sent, and the moment of a cancellation
* `Rehearsal.Reply.toBytes` — what is sent over the connection
* `Rehearsal.Reply.events` — what happens to the operation that gets the reply
-/

namespace PreviewSync.Rehearsal

open Store (Event HeaderLine Operation)

/-- How a reply is sent. -/
inductive Delivery where
  /-- With the length of the body in front. -/
  | whole
  /-- In chunks, without a length. -/
  | chunked
  /-- Without a length, up to the end of the connection. -/
  | untilEnd
  /-- With the length of the body in front, but only its first half follows. -/
  | half
  /-- Not at all: the connection is closed. -/
  | closed
  /-- As something that is no response. -/
  | garbage
deriving Repr, DecidableEq

/-- The moment of a cancellation. -/
inductive Interruption where
  /-- After the head of the request has arrived; no answer follows. -/
  | duringUpload
  /-- After the whole request has arrived. -/
  | beforeAnswer
  /-- After half of the response body was sent. -/
  | duringAnswer
deriving Repr, DecidableEq

/-- How the store answers one request. Without a status the answer is a success. A status is sent as
it is written, even if it is none. Header lines come in the order in which they are given. -/
structure Reply where
  status : Option Int := none
  headers : List HeaderLine := []
  body : Bytes := []
  delivery : Delivery := .whole
  interruption : Option Interruption := none
deriving Repr, DecidableEq

namespace Reply

/-- The bytes that the transport has room for when it reads from the body to send. It is less than
the reader would give, so bodies are sent in pieces. -/
def room : Nat :=
  8192

/-- The reads of a body to send, the last of which finds its end. -/
def pulls : Operation → List Event
  | .put payload => List.replicate (payload.body.length / room + 1) (.pull room)
  | _ => []

/-- The status that is sent. -/
def sentStatus (reply : Reply) (verb : Verb) : Int :=
  reply.status.getD (Store.expectedStatus verb).toNat

/-- Whether a body is sent. -/
def hasBody (reply : Reply) (verb : Verb) : Bool :=
  let status := reply.sentStatus verb
  verb != .head && status != 204 && status != 304

/-- The header lines that are sent. How the end of the body is found stands behind the reply's own
headers. -/
def lines (reply : Reply) (verb : Verb) : List HeaderLine :=
  let framing : List HeaderLine :=
    match reply.delivery with
    | .chunked => [⟨"Transfer-Encoding", "chunked"⟩]
    | .untilEnd => []
    | _ => [⟨"Content-Length", Nat.repr reply.body.length⟩]
  ⟨"Connection", "close"⟩ :: reply.headers ++ if reply.hasBody verb then framing else []

/-- The head that is sent. -/
def head (reply : Reply) (verb : Verb) : String :=
  let first := "HTTP/1.1 " ++ Int.repr (reply.sentStatus verb) ++ " Scripted"
  let others := (reply.lines verb).map fun line => line.name ++ ": " ++ line.value
  String.join ((first :: others).map (· ++ "\r\n")) ++ "\r\n"

/-- A chunk with its size in front. No bytes make no chunk, since it would be the last one. -/
def chunk (bytes : Bytes) : Bytes :=
  if bytes.isEmpty then []
  else Bytes.ofText (Hex.ofNat bytes.length ++ "\r\n") ++ bytes ++ Bytes.ofText "\r\n"

/-- The body as it is sent, in two halves where that can be told. -/
def sentBody (reply : Reply) : Bytes :=
  let (front, back) := reply.body.splitAt (reply.body.length / 2)
  match reply.delivery with
  | .half => front
  | .chunked => chunk front ++ chunk back ++ Bytes.ofText "0\r\n\r\n"
  | _ => reply.body

/-- What is sent over the connection. -/
def toBytes (reply : Reply) (verb : Verb) : Bytes :=
  match reply.delivery with
  | .closed => []
  | .garbage => Bytes.ofText "garbage\r\n\r\n"
  | _ => Bytes.ofText (reply.head verb) ++ if reply.hasBody verb then reply.sentBody else []

/-- What the answer means for the operation. -/
def answer (reply : Reply) (operation : Operation) : List Event :=
  Wire.answer operation.verb (reply.toBytes operation.verb)

/-- A cancellation while the answer is sent: it comes between the head and a body that the operation
reads, and before any other answer. -/
def interrupted (verb : Verb) : List Event → List Event
  | .respond status lines :: others =>
    if verb = .get ∧ status = Store.expectedStatus .get then
      .respond status lines :: .cancel :: others
    else .cancel :: .respond status lines :: others
  | events => .cancel :: events

/-- What happens to the operation up to the moment when the request has arrived. -/
def upload (reply : Reply) (operation : Operation) : List Event :=
  match reply.interruption with
  | some .duringUpload => .cancel :: (pulls operation).take 1
  | _ => pulls operation

/-- What happens to the operation after the request has arrived. -/
def download (reply : Reply) (operation : Operation) : List Event :=
  match reply.interruption with
  | some .duringUpload => [.fail "connection closed"]
  | some .beforeAnswer => .cancel :: reply.answer operation
  | some .duringAnswer => interrupted operation.verb (reply.answer operation)
  | none => reply.answer operation

/-- What happens to the operation that gets the reply. -/
def events (reply : Reply) (operation : Operation) : List Event :=
  reply.upload operation ++ reply.download operation

end Reply

end PreviewSync.Rehearsal
