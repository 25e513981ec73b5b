/-!
# Unsigned decimals

## Main Definitions

* `Decimal.digits?` — the value of a non-empty sequence of ASCII digits
* `Decimal.read?` — the same with an optional plus sign in front, below a bound
-/

namespace PreviewSync.Decimal

/-- An ASCII digit. -/
def isDigit (c : Char) : Bool :=
  '0' ≤ c && c ≤ '9'

/-- The value of a sequence of digits, continuing a value read so far. -/
def valueFrom (value : Nat) (digits : List Char) : Nat :=
  digits.foldl (fun v c => 10 * v + (c.toNat - '0'.toNat)) value

/-- The value of a non-empty sequence of digits with nothing else in it. -/
def digits? (cs : List Char) : Option Nat :=
  if cs.isEmpty || cs.any (fun c => !isDigit c) then none else some (valueFrom 0 cs)

/-- An unsigned number below a bound: digits, with an optional plus sign in front. Leading zeros are
no matter, and a number that is too large is refused rather than cut. -/
def read? (bound : Nat) (text : String) : Option Nat :=
  let cs := text.toList
  let unsigned := match cs with
    | '+' :: rest => rest
    | _ => cs
  (digits? unsigned).filter (· < bound)

end PreviewSync.Decimal
