import PreviewSync.Bytes

/-!
# Hexadecimal digits

## Main Definitions

* `Hex.upper`, `Hex.lower` — the digit of a value below sixteen
* `Hex.value?` — the value of a digit in either case
* `Hex.ofBytes` — two lower-case digits per byte
-/

namespace PreviewSync.Hex

/-- The digit of a value below sixteen, letters in upper case. -/
def upper (value : Nat) : Char :=
  if value < 10 then Char.ofNat (48 + value) else Char.ofNat (55 + value)

/-- The digit of a value below sixteen, letters in lower case. -/
def lower (value : Nat) : Char :=
  if value < 10 then Char.ofNat (48 + value) else Char.ofNat (87 + value)

/-- The value of a hexadecimal digit in either case. -/
def value? (c : Char) : Option Nat :=
  let n := c.toNat
  if 48 ≤ n ∧ n ≤ 57 then some (n - 48)
  else if 65 ≤ n ∧ n ≤ 70 then some (n - 55)
  else if 97 ≤ n ∧ n ≤ 102 then some (n - 87)
  else none

/-- Two lower-case digits per byte. -/
def ofBytes (bytes : Bytes) : String :=
  String.ofList (bytes.flatMap fun b => [lower (b.toNat / 16), lower (b.toNat % 16)])

/-- Lower-case digits of a number without leading zeros; zero is a single digit. -/
def ofNat (n : Nat) : String :=
  String.ofList (Nat.toDigits 16 n)

end PreviewSync.Hex
