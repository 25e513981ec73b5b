import PreviewSync.Calendar.Instant
import PreviewSync.Text.Decimal

/-!
# Dates in message headers

The fixed form `Tue, 27 Mar 2007 19:36:42 GMT`.

## Main Definitions

* `HttpDate.write` — the written form of an instant
* `HttpDate.read?` — the second that a written form names, for years of four digits
* `HttpDate.isWritten` — whether a text is the written form of a second
-/

namespace PreviewSync.HttpDate

/-- The names of the weekdays, beginning with that of 1 January 1970. -/
def weekdays : List String :=
  ["Thu", "Fri", "Sat", "Sun", "Mon", "Tue", "Wed"]

/-- The names of the months. -/
def months : List String :=
  ["Jan", "Feb", "Mar", "Apr", "May", "Jun", "Jul", "Aug", "Sep", "Oct", "Nov", "Dec"]

/-- A number with zeros in front up to a width. -/
def padded (width n : Nat) : String :=
  let digits := Nat.repr n
  String.ofList (List.replicate (width - digits.length) '0') ++ digits

/-- A year with at least four digits; those before year 0 and after 9999 carry a sign. -/
def year (y : Int) : String :=
  if y < 0 then "-" ++ padded 4 y.natAbs
  else if y > 9999 then "+" ++ padded 4 y.natAbs
  else padded 4 y.natAbs

/-- The written form of an instant. It has no smaller unit than a second, so two instants may have
one form. -/
def write (t : Instant) : String :=
  let date := Date.ofDays t.day
  let (hour, minute, second) := t.time
  weekdays.getD (t.day % 7).toNat "" ++ ", " ++ padded 2 date.day ++ " "
    ++ months.getD (date.month - 1) "" ++ " " ++ year date.year ++ " "
    ++ padded 2 hour ++ ":" ++ padded 2 minute ++ ":" ++ padded 2 second ++ " GMT"

/-- The second that a written form names, for years of four digits. The weekday is not looked at
here: a text with a wrong one is not the written form of the second that it names, and is found out
by writing that. -/
def read? (text : String) : Option Instant :=
  match text.toList with
  | [_, _, _, ',', ' ', d₁, d₂, ' ', m₁, m₂, m₃, ' ', y₁, y₂, y₃, y₄, ' ',
      h₁, h₂, ':', n₁, n₂, ':', s₁, s₂, ' ', 'G', 'M', 'T'] => do
    let day ← Decimal.digits? [d₁, d₂]
    let month ← months.findIdx? (· == String.ofList [m₁, m₂, m₃])
    let year ← Decimal.digits? [y₁, y₂, y₃, y₄]
    let hour ← Decimal.digits? [h₁, h₂]
    let minute ← Decimal.digits? [n₁, n₂]
    let second ← Decimal.digits? [s₁, s₂]
    Instant.ofUnix?
      (Date.toDays ⟨year, month + 1, day⟩ * 86400 + hour * 3600 + minute * 60 + second) 0
  | _ => none

/-- Whether a text is the written form of a second. -/
def isWritten (text : String) : Bool :=
  match read? text with
  | some t => write t == text
  | none => false

end PreviewSync.HttpDate
