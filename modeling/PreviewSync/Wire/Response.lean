import PreviewSync.Store.Operation
import PreviewSync.Wire.Body

/-!
# Responses

What a transport makes of the bytes that a server sends up to the end of the connection.

## Main Definitions

* `Wire.answer` — what the bytes of a connection mean for the operation that waits for a response
-/

namespace PreviewSync.Wire

open Store (Event)

/-- The reads of a body with this content, the last of which finds its end. -/
def arrivals (content : Bytes) : List Event :=
  if content.isEmpty then [.arrive []] else [.arrive content, .arrive []]

/-- What the head of a response and the bytes behind it mean for the operation that waits for it. A
body that cannot be had is a read that fails, after the response has been seen. -/
def Head.events (head : Head) (verb : Verb) (bytes : Bytes) : List Event :=
  .respond head.status head.decompressed.lines ::
    match head.content? verb bytes with
    | some content => arrivals content
    | none => [.breakOff "unexpected end of body"]

/-- What the bytes of a connection mean for the operation that waits for a response. Without a head
that can be read there is no response at all. -/
def answer (verb : Verb) (bytes : Bytes) : List Event :=
  match Head.take? bytes with
  | some (head, rest) => head.events verb rest
  | none => [.fail "no response"]

end PreviewSync.Wire
