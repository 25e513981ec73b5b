import PreviewSync.Bytes.Hex
import PreviewSync.Text.Trim

/-!
# Signed resources

Object paths are percent-encoded byte by byte. Letters, digits, `-`, `.`, `_`, `~` and the slash
stand for themselves; every other byte of the UTF-8 form is a percent sign with two upper-case
hexadecimal digits.

## Main Definitions

* `ObjectPath.encode` — the encoding of a path
* `ObjectPath.decode` — its inverse on bytes, which leaves stray percent signs alone
* `Signature.resource` — the resource that a signature covers
-/

namespace PreviewSync

namespace ObjectPath

/-- The bytes that stand for themselves. The slash is one of them, since a path is encoded as a
whole and keeps its segments. -/
def isPlain (b : UInt8) : Bool :=
  (65 ≤ b && b ≤ 90) || (97 ≤ b && b ≤ 122) || (48 ≤ b && b ≤ 57)
    || b == 45 || b == 46 || b == 95 || b == 126 || b == 47

/-- The encoding of one byte. It does not depend on what is around it, so an encoding can be taken
apart byte by byte. -/
def encodeByte (b : UInt8) : List Char :=
  if isPlain b then [Char.ofNat b.toNat]
  else ['%', Hex.upper (b.toNat / 16), Hex.upper (b.toNat % 16)]

/-- The encoding of bytes. -/
def encodeBytes (bytes : Bytes) : List Char :=
  bytes.flatMap encodeByte

/-- The encoding of a path. The same text is signed and sent. -/
def encode (path : String) : String :=
  String.ofList (encodeBytes (Bytes.ofText path))

/-- Replaces each percent sign that is followed by two hexadecimal digits, in either case, by the
byte they name. The bytes decided so far are kept in reverse. A percent sign without digits stands
for itself, so every text can be decoded. -/
def decodeFrom (read : Bytes) : Bytes → Bytes
  | [] => read.reverse
  | 37 :: a :: b :: rest =>
    match Hex.value? (Char.ofNat a.toNat), Hex.value? (Char.ofNat b.toNat) with
    | some x, some y => decodeFrom (UInt8.ofNat (16 * x + y) :: read) rest
    | _, _ => decodeFrom (37 :: read) (a :: b :: rest)
  | b :: rest => decodeFrom (b :: read) rest

/-- The bytes that an encoded path stands for. -/
def decode (bytes : Bytes) : Bytes :=
  decodeFrom [] bytes

end ObjectPath

namespace Signature

/-- The resource that a signature covers: the bucket and the encoded path without slashes in front,
each after a slash. It is made from the object path alone and does not mention the endpoint, which
the server cannot know. -/
def resource (bucket path : String) : String :=
  let inner := Text.trimStart Text.isSlash path
  if inner.isEmpty then "/" ++ bucket ++ "/" else "/" ++ bucket ++ "/" ++ ObjectPath.encode inner

end Signature

end PreviewSync
