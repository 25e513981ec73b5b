import PreviewSync.Calendar.HttpDate
import PreviewSync.Identity.Destination
import PreviewSync.Signature.Token

/-!
# Signed headers

The header values that a request for an object of a destination must carry.

## Main Definitions

* `Payload` — a body with its type
* `Signature.Headers` — the header values
* `Signature.Headers.make` — the header values of a request
-/

namespace PreviewSync

/-- A body with its type. They are one record because a request that has a body must state its type,
and one that has none must not. -/
structure Payload where
  body : Bytes
  contentType : String
deriving Repr, DecidableEq

namespace Signature

/-- The header values of a signed request; the digest stands for a body. The date is among them
because it is signed: the request has to carry the very text that the signature covers. -/
structure Headers where
  authorization : String
  date : String
  contentMd5 : Option String
deriving Repr, DecidableEq

/-- The parts to sign of a request for an object of a destination. The path is the one that the
address is made from, not yet encoded. -/
def inputFor (destination : Destination) (verb : Verb) (key : String) (payload : Option Payload)
    (now : Instant) : Input :=
  { verb := verb
    contentMd5 := payload.map fun p => Signature.contentMd5 p.body
    contentType := payload.map (·.contentType)
    date := HttpDate.write now
    bucket := destination.bucket
    path := destination.objectPath key }

/-- The header values of a request for an object of a destination at a given time. -/
def Headers.make (profile : AccessProfile) (destination : Destination) (verb : Verb) (key : String)
    (payload : Option Payload) (now : Instant) : Except Fault Headers :=
  let input := inputFor destination verb key payload now
  match sign input profile with
  | .ok authorization => .ok ⟨authorization, input.date, input.contentMd5⟩
  | .error fault => .error fault

end Signature

end PreviewSync
