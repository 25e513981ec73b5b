import PreviewSync.Signature.Token

/-!
# Faults of the object store client

## Main Definitions

* `Store.State` — the states of a request that a caller can be told about
* `Store.Rejection` — why an operation is refused before anything is sent
* `Store.Fault` — why a client call fails
-/

namespace PreviewSync.Store

/-- The states of a request. They are the phases without the response that a complete one may hold,
so a caller can ask for them at any time. -/
inductive State where
  | idle
  | opening
  | transferring
  | receiving
  | complete
  | cancelled
deriving Repr, DecidableEq

/-- The word for a state. -/
def State.name : State → String
  | idle => "Idle"
  | opening => "Opening"
  | transferring => "Transferring"
  | receiving => "Receiving"
  | complete => "Complete"
  | cancelled => "Cancelled"

/-- The longest object key, in bytes. It is the key of the caller that is measured, without the
prefix of the destination. -/
def maxKeyLength : Nat :=
  1024

/-- The longest request address, in bytes. The address is measured as it is written, where a
percent-encoded byte takes three. -/
def maxUrlLength : Nat :=
  2048

/-- Why an operation is refused before anything is sent. Each of these depends on the request and
the arguments only, so the caller can mend it and try again with the same request. -/
inductive Rejection where
  | signing (fault : Signature.Fault)
  | keyTooLong (length : Nat)
  | urlTooLong (length : Nat)
  | outputNotEmpty
deriving Repr, DecidableEq

/-- The wording of a rejection. -/
def Rejection.message : Rejection → String
  | signing fault => fault.message
  | keyTooLong length =>
    "object key is " ++ Nat.repr length ++ " bytes, maximum is " ++ Nat.repr maxKeyLength
  | urlTooLong length =>
    "request URL is " ++ Nat.repr length ++ " bytes, maximum is " ++ Nat.repr maxUrlLength
  | outputNotEmpty => "output buffer must be empty"

/-- Why a client call fails. The words of a transport are kept as a text, since nothing is decided
by them; a refusal and an unexpected status are kept apart in full, for callers that tell them
apart. -/
inductive Fault where
  | rejected (rejection : Rejection)
  | notIdle (state : State)
  | unknownDestination (identifier : String)
  | duplicateDestination (identifier : String)
  | transport (detail : String)
  | unexpectedStatus (verb : Verb) (expected actual : UInt16)
  | cancelled
deriving Repr, DecidableEq

/-- The wording of a fault. -/
def Fault.message : Fault → String
  | rejected rejection => "validation failed: " ++ rejection.message
  | notIdle state => "request is " ++ state.name ++ ", expected Idle"
  | unknownDestination identifier => "unknown destination: " ++ identifier
  | duplicateDestination identifier => "destination " ++ identifier ++ " already created"
  | transport detail => "transport error: " ++ detail
  | unexpectedStatus verb expected actual =>
    verb.name ++ " returned status " ++ Nat.repr actual.toNat ++ ", expected "
      ++ Nat.repr expected.toNat
  | cancelled => "request cancelled"

end PreviewSync.Store
