import PreviewSync.Bytes.Hex
import PreviewSync.Text.Decimal

/-!
# Value patterns

A directive may ask for fields whose values match a pattern: a number, or a regular expression.

## Main Definitions

* `CommandLine.ValuePattern.Scan` — how far a regular expression has been read
* `CommandLine.ValuePattern.step` — the effect of one character
* `CommandLine.ValuePattern.isValid` — whether a text is a pattern

## Design Notes

Only the form of an expression matters here, so it is read by an automaton that counts open groups
and classes and knows whether there is something to repeat.
-/

namespace PreviewSync.CommandLine.ValuePattern

/-- Where in an expression the next character stands. -/
inductive Place where
  /-- Between pieces; there may be one in front that can be repeated. -/
  | piece (isRepeatable : Bool)
  /-- Behind a backslash. -/
  | escape
  /-- Behind a backslash and a letter that takes hexadecimal digits. -/
  | hex (digits : Nat)
  /-- Behind the parenthesis that opens a group. -/
  | group
  /-- Among the flags of a group. -/
  | flags (hasFlags : Bool)
  /-- Behind the letter in front of the name of a group. -/
  | nameMark
  /-- In the name of a group. -/
  | name (isEmpty : Bool)
  /-- Behind the bracket that opens a class, and perhaps the sign that turns it around. -/
  | bracket (mayTurn : Bool)
  /-- In a class, behind a character that may begin a range. -/
  | inside (last : Option Char)
  /-- In a class, behind the hyphen of a range. -/
  | range (low : Char)
  /-- In a class, behind a backslash. -/
  | insideEscape
deriving Repr, DecidableEq

/-- How far an expression has been read: where the next character stands, and how many groups and
classes are open. A count is enough, because groups can only be closed in the reverse order in which
they were opened. -/
structure Scan where
  place : Place
  groups : Nat := 0
  classes : Nat := 0
deriving Repr, DecidableEq

/-- The characters that may follow a backslash to stand for a class or a control character, or to
ask for the beginning or the end of the text. -/
def escapeLetters : List Char :=
  ['d', 's', 'w', 'D', 'S', 'W', 'a', 'f', 't', 'n', 'r', 'v', 'A', 'z']

/-- The flags of a group, and the hyphen that takes flags away. -/
def flagLetters : List Char :=
  ['i', 'm', 's', 'U', 'u', 'x', 'R', '-']

/-- The letters behind a backslash that take a number of hexadecimal digits. -/
def hexDigits? (c : Char) : Option Nat :=
  if c = 'x' then some 2 else if c = 'u' then some 4 else if c = 'U' then some 8 else none

/-- Whether a sign may follow a backslash to stand for itself. -/
def isEscapable (c : Char) : Bool :=
  c.toNat < 128 && !c.isAlphanum && c != '<' && c != '>'

/-- The end of a group, which may then be repeated unless it only sets flags. -/
def closeGroup? (scan : Scan) (isRepeatable : Bool) : Option Scan :=
  if scan.groups = 0 then none
  else some { scan with place := .piece isRepeatable, groups := scan.groups - 1 }

/-- The end of a class, which may then be repeated unless it lies in another one. -/
def closeClass (scan : Scan) : Scan :=
  if scan.classes ≤ 1 then { scan with place := .piece true, classes := 0 }
  else { scan with place := .inside none, classes := scan.classes - 1 }

/-- The effect of a character in a class. -/
def stepInside (scan : Scan) (last : Option Char) (c : Char) : Scan :=
  match c, last with
  | ']', _ => closeClass scan
  | '[', _ => { scan with place := .bracket true, classes := scan.classes + 1 }
  | '\\', _ => { scan with place := .insideEscape }
  | '-', some low => { scan with place := .range low }
  | c, _ => { scan with place := .inside (some c) }

/-- The effect of a character between pieces. -/
def stepPiece? (scan : Scan) (isRepeatable : Bool) (c : Char) : Option Scan :=
  match c with
  | '\\' => some { scan with place := .escape }
  | '(' => some { scan with place := .group, groups := scan.groups + 1 }
  | ')' => closeGroup? scan true
  | '[' => some { scan with place := .bracket true, classes := 1 }
  | '|' => some { scan with place := .piece false }
  | '*' | '+' | '?' => if isRepeatable then some scan else none
  | '{' => none
  | _ => some { scan with place := .piece true }

/-- The effect of a character. -/
def step (scan : Scan) (c : Char) : Option Scan :=
  match scan.place with
  | .piece isRepeatable => stepPiece? scan isRepeatable c
  | .escape =>
    match hexDigits? c with
    | some digits => some { scan with place := .hex digits }
    | none =>
      if escapeLetters.contains c || isEscapable c then some { scan with place := .piece true }
      else none
  | .hex digits =>
    if (Hex.value? c).isNone then none
    else if digits ≤ 1 then some { scan with place := .piece true }
    else some { scan with place := .hex (digits - 1) }
  | .group =>
    if c = '?' then some { scan with place := .flags false } else stepPiece? scan false c
  | .flags hasFlags =>
    if flagLetters.contains c then some { scan with place := .flags true }
    else if c = ':' then some { scan with place := .piece false }
    else if c = ')' then if hasFlags then closeGroup? scan false else none
    else if c = 'P' && !hasFlags then some { scan with place := .nameMark }
    else if c = '<' && !hasFlags then some { scan with place := .name true }
    else none
  | .nameMark => if c = '<' then some { scan with place := .name true } else none
  | .name isEmpty =>
    if c = '>' then if isEmpty then none else some { scan with place := .piece false }
    else if c = '_' || c.isAlpha || (c.isAlphanum && !isEmpty) then
      some { scan with place := .name false }
    else none
  | .bracket mayTurn =>
    match c with
    | '^' => some { scan with place := if mayTurn then .bracket false else .inside (some c) }
    | ']' | '-' => some { scan with place := .inside (some c) }
    | c => some (stepInside scan none c)
  | .inside last => some (stepInside scan last c)
  | .range low =>
    match c with
    | ']' => some (closeClass scan)
    | '-' => some { scan with place := .inside none }
    | '\\' => some { scan with place := .insideEscape }
    | '[' => none
    | c => if low ≤ c then some { scan with place := .inside none } else none
  | .insideEscape =>
    if escapeLetters.contains c || isEscapable c then some { scan with place := .inside none }
    else none

/-- Whether an expression may end here. -/
def Scan.isComplete (scan : Scan) : Bool :=
  match scan.place with
  | .piece _ => scan.groups == 0
  | _ => false

/-- Whether a text is a regular expression. -/
def isExpression (text : List Char) : Bool :=
  ((text.foldlM step { place := .piece false }).map Scan.isComplete).getD false

/-- Digits at the beginning of a text, and what follows them. -/
def splitDigits (text : List Char) : List Char × List Char :=
  (text.takeWhile Decimal.isDigit, text.dropWhile Decimal.isDigit)

/-- Whether a text is nothing, or an exponent. -/
def isExponent (text : List Char) : Bool :=
  let digits (rest : List Char) : Bool := !rest.isEmpty && rest.all Decimal.isDigit
  match text with
  | [] => true
  | e :: rest =>
    (e == 'e' || e == 'E') &&
      match rest with
      | '+' :: rest => digits rest
      | '-' :: rest => digits rest
      | rest => digits rest

/-- Whether a text is a number without a sign. -/
def isUnsigned (text : List Char) : Bool :=
  let (whole, rest) := splitDigits text
  let (fraction, rest) := match rest with
    | '.' :: rest => splitDigits rest
    | rest => ([], rest)
  (!(whole.isEmpty && fraction.isEmpty) && isExponent rest)
    || ["inf", "infinity", "nan"].contains (String.ofList (text.map Char.toLower))

/-- Whether a text is a pattern: a regular expression, or a number with a plus sign in front, which
would have nothing to repeat in an expression. -/
def isValid (text : List Char) : Bool :=
  match text with
  | '+' :: number => isUnsigned number
  | _ => isExpression text

end PreviewSync.CommandLine.ValuePattern
