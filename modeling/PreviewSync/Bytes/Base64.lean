import PreviewSync.Bytes

/-!
# Base64

The standard alphabet with padding.  Every byte sequence has exactly one written form: the reader
asks for the padding, refuses blanks, and refuses a last digit whose unused bits are not zero.

## Main Definitions

* `Base64.encode` — the written form of bytes
* `Base64.decode?` — the bytes of a written form
-/

namespace PreviewSync.Base64

/-- The digit of a value below sixty-four. -/
def digit (value : Nat) : Char :=
  if value < 26 then Char.ofNat (65 + value)
  else if value < 52 then Char.ofNat (71 + value)
  else if value < 62 then Char.ofNat (value - 4)
  else if value = 62 then '+'
  else '/'

/-- The value of a digit; the padding sign is no digit. -/
def value? (c : Char) : Option Nat :=
  let n := c.toNat
  if 65 ≤ n ∧ n ≤ 90 then some (n - 65)
  else if 97 ≤ n ∧ n ≤ 122 then some (n - 71)
  else if 48 ≤ n ∧ n ≤ 57 then some (n + 4)
  else if c = '+' then some 62
  else if c = '/' then some 63
  else none

/-- Three bytes become four digits; one or two bytes at the end are padded to four signs. The bits
that a last digit has left over are zero. -/
def encodeChars : Bytes → List Char
  | [] => []
  | [a] => [digit (a.toNat / 4), digit (a.toNat % 4 * 16), '=', '=']
  | [a, b] =>
    [digit (a.toNat / 4), digit (a.toNat % 4 * 16 + b.toNat / 16), digit (b.toNat % 16 * 4), '=']
  | a :: b :: c :: rest =>
    digit (a.toNat / 4) :: digit (a.toNat % 4 * 16 + b.toNat / 16)
      :: digit (b.toNat % 16 * 4 + c.toNat / 64) :: digit (c.toNat % 64) :: encodeChars rest

/-- The written form of bytes. -/
def encode (bytes : Bytes) : String :=
  String.ofList (encodeChars bytes)

/-- The byte that stands for two digits, when the second one has no bits left over. With bits left
over, several texts would stand for the same byte, so they are refused. -/
def decodePair? (a b : Char) : Option Bytes := do
  let x ← value? a
  let y ← value? b
  if y % 16 = 0 then some [UInt8.ofNat (x * 4 + y / 16)] else none

/-- The two bytes that stand for three digits, when the third one has no bits left over. -/
def decodeTriple? (a b c : Char) : Option Bytes := do
  let x ← value? a
  let y ← value? b
  let z ← value? c
  if z % 4 = 0 then
    some [UInt8.ofNat (x * 4 + y / 16), UInt8.ofNat (y % 16 * 16 + z / 4)]
  else none

/-- The three bytes that stand for four digits. -/
def decodeQuad? (a b c d : Char) : Option Bytes := do
  let x ← value? a
  let y ← value? b
  let z ← value? c
  let w ← value? d
  some [UInt8.ofNat (x * 4 + y / 16), UInt8.ofNat (y % 16 * 16 + z / 4),
    UInt8.ofNat (z % 4 * 64 + w)]

/-- Reads groups of four signs; the padding sign may stand in the last group only. -/
def decodeChars? : List Char → Option Bytes
  | [] => some []
  | [a, b, '=', '='] => decodePair? a b
  | [a, b, c, '='] => decodeTriple? a b c
  | a :: b :: c :: d :: rest => do
    let head ← decodeQuad? a b c d
    let tail ← decodeChars? rest
    some (head ++ tail)
  | _ => none

/-- The bytes of a written form. -/
def decode? (text : String) : Option Bytes :=
  decodeChars? text.toList

end PreviewSync.Base64
