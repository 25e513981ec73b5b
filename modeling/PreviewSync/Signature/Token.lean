import PreviewSync.Bytes.Base64
import PreviewSync.Digest.Md5
import PreviewSync.Digest.Sha1
import PreviewSync.Identity.AccessProfile
import PreviewSync.Signature.Resource

/-!
# Authorization tokens

A token names an access key and carries a keyed digest of the request's essential parts.

## Main Definitions

* `Signature.Input` — the parts of a request that a signature covers
* `Signature.stringToSign` — these parts as one text
* `Signature.sign` — the token of a request
* `Signature.verify` — the check of a token against a request
* `Signature.Fault` — why a token is not issued or not accepted
-/

namespace PreviewSync

/-- What a request does to an object. -/
inductive Verb where
  | head
  | get
  | put
  | delete
deriving Repr, DecidableEq

/-- The word for a verb in a request. -/
def Verb.name : Verb → String
  | head => "HEAD"
  | get => "GET"
  | put => "PUT"
  | delete => "DELETE"

namespace Signature

/-- The parts of a request that a signature covers. A body brings its digest and its type. The body
itself is no part of it: the server compares it with the digest. -/
structure Input where
  verb : Verb
  contentMd5 : Option String
  contentType : Option String
  date : String
  bucket : String
  path : String
deriving Repr, DecidableEq

/-- Why a token is not issued or not accepted. Both share one type because the check issues a token
of its own to compare with, and passes on why it cannot. -/
inductive Fault where
  | missingKeyId
  | missingSecret
  | missingBucket
  | invalidContentMd5 (value : String)
  | invalidAuthorization
  | keyMismatch (keyId : String)
  | mismatch
deriving Repr, DecidableEq

/-- The wording of a fault. -/
def Fault.message : Fault → String
  | missingKeyId => "missing access key id"
  | missingSecret => "missing secret access key"
  | missingBucket => "missing bucket"
  | invalidContentMd5 value =>
    "Content-MD5 must be the base64 encoding of a binary MD5 digest: " ++ Quoted.text value
  | invalidAuthorization => "invalid Authorization header format"
  | keyMismatch keyId => "access key mismatch: " ++ keyId
  | mismatch => "signature does not match"

/-- The digest of a body as a header value. -/
def contentMd5 (body : Bytes) : String :=
  Base64.encode (Md5.digest body)

/-- A header value that is the written form of some digest. Of which body it is the digest cannot be
told here. -/
def isContentMd5 (value : String) : Bool :=
  match Base64.decode? value with
  | some bytes => bytes.length == 16
  | none => false

/-- The parts of a request as one text, a line each. An absent part is an empty line, so that the
other parts keep their places. -/
def stringToSign (input : Input) : String :=
  input.verb.name ++ "\n" ++ input.contentMd5.getD "" ++ "\n" ++ input.contentType.getD "" ++ "\n"
    ++ input.date ++ "\n" ++ resource input.bucket input.path

/-- The written form of the keyed digest of a text. It is all of a token that depends on the secret.
-/
def signatureOf (secret text : String) : String :=
  Base64.encode (Sha1.keyed (Bytes.ofText secret) (Bytes.ofText text))

/-- Credentials and bucket must not be empty. They are looked at in this order, and the first that
is empty is named. -/
def checkIdentity (profile : AccessProfile) (bucket : String) : Except Fault Unit :=
  if profile.keyId.isEmpty then .error .missingKeyId
  else if profile.secret.isEmpty then .error .missingSecret
  else if bucket.isEmpty then .error .missingBucket
  else .ok ()

/-- A digest of the body, if there is one, must be the written form of a digest. -/
def checkContentMd5 : Option String → Except Fault Unit
  | none => .ok ()
  | some value => if isContentMd5 value then .ok () else .error (.invalidContentMd5 value)

/-- A token is written as `AWS`, a blank, the key id, a colon and the signature. -/
def token (keyId signature : String) : String :=
  "AWS " ++ keyId ++ ":" ++ signature

/-- The token of a request. -/
def sign (input : Input) (profile : AccessProfile) : Except Fault String := do
  checkIdentity profile input.bucket
  checkContentMd5 input.contentMd5
  .ok (token profile.keyId (signatureOf profile.secret (stringToSign input)))

/-- Key id and signature of a token, parted at the first colon. Neither may be empty. A signature
has no colon in it, but a key id may, and is then cut short. -/
def parts? (authorization : String) : Option (String × String) :=
  match authorization.toList with
  | 'A' :: 'W' :: 'S' :: ' ' :: rest =>
    let keyId := rest.takeWhile (· != ':')
    match rest.dropWhile (· != ':') with
    | _ :: signature =>
      if keyId.isEmpty || signature.isEmpty then none
      else some (String.ofList keyId, String.ofList signature)
    | [] => none
  | _ => none

/-- What stands behind the last colon, or nothing if there is no colon. -/
def afterLastColon (text : String) : String :=
  let cs := text.toList
  if cs.contains ':' then String.ofList (cs.reverse.takeWhile (· != ':')).reverse else ""

/-- What stands in front of the last colon, or everything if there is no colon. -/
def beforeLastColon (text : String) : String :=
  let cs := text.toList
  if cs.contains ':' then String.ofList ((cs.reverse.dropWhile (· != ':')).drop 1).reverse else text

/-- The check of a token against a request: it must name the profile's key and carry the signature
that would be issued. The signature to compare with is taken from a token that is issued for the
purpose, behind its last colon. -/
def verify (authorization : String) (input : Input) (profile : AccessProfile) :
    Except Fault Unit :=
  match parts? authorization with
  | none => .error .invalidAuthorization
  | some (keyId, signature) =>
    if keyId ≠ profile.keyId then .error (.keyMismatch keyId)
    else
      match sign input profile with
      | .error fault => .error fault
      | .ok expected =>
        if signature = afterLastColon expected then .ok () else .error .mismatch

end Signature

end PreviewSync
