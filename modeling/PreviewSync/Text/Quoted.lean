import PreviewSync.Bytes.Hex
import PreviewSync.Text.Hidden

/-!
# Quoted text and records for people to read

The written form of values in messages: a text stands between double quotes with its special
characters escaped, an optional value is `Some(…)` or `None`, a record lists its fields by name.

## Main Definitions

* `Quoted.text` — a text between double quotes
* `Quoted.option` — an optional value
* `Quoted.record`, `Quoted.openRecord` — a record, the latter with fields left out
-/

namespace PreviewSync.Quoted

/-- The written form of one character.  The double quote and the backslash are escaped, an
apostrophe is not; hidden characters are shown by their number. -/
def char (c : Char) : List Char :=
  if c = '\x00' then ['\\', '0']
  else if c = '\t' then ['\\', 't']
  else if c = '\r' then ['\\', 'r']
  else if c = '\n' then ['\\', 'n']
  else if c = '\\' then ['\\', '\\']
  else if c = '"' then ['\\', '"']
  else if Text.isHidden c then
    ['\\', 'u', '\x7b'] ++ (Hex.ofNat c.toNat).toList ++ ['\x7d']
  else [c]

/-- A text between double quotes. Characters that cannot be seen are written as numbers, so nothing
is hidden in a message. -/
def text (s : String) : String :=
  String.ofList ('"' :: s.toList.flatMap char ++ ['"'])

/-- An optional value. -/
def option {α : Type} (write : α → String) : Option α → String
  | none => "None"
  | some a => "Some(" ++ write a ++ ")"

/-- The fields of a record, each with its name. -/
def fields (items : List (String × String)) : String :=
  ", ".intercalate (items.map fun (name, value) => name ++ ": " ++ value)

/-- A record with all its fields. -/
def record (name : String) (items : List (String × String)) : String :=
  name ++ " \x7b " ++ fields items ++ " \x7d"

/-- A record that shows some of its fields. The two dots tell that there are others, whose values
are no part of the form. -/
def openRecord (name : String) (items : List (String × String)) : String :=
  name ++ " \x7b " ++ fields items ++ ", .. \x7d"

end PreviewSync.Quoted
