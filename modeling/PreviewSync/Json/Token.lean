import PreviewSync.Bytes.Hex
import PreviewSync.Text.Decimal

/-!
# JSON tokens

The lexical level of JSON documents.  A scanned token keeps no more than a reader of this library
can ask for: of a number whether it is a plain natural number, of a string its text unless an escape
in it names half of a surrogate pair.

## Main Definitions

* `Json.Token` — the tokens
* `Json.Token.scanAll?` — the tokens of a document
* `Json.Token.write` — the written form of a token

## Design Notes

Scanning is lenient where nothing is kept: a number of any size and a string with a lone surrogate
are tokens.  Whoever wants the value refuses them.
-/

namespace PreviewSync.Json

/-- A token. The text of a string is absent when an unpaired surrogate stands in it; the value of a
number is absent unless it is written as digits alone. -/
inductive Token where
  | braceOpen
  | braceClose
  | bracketOpen
  | bracketClose
  | colon
  | comma
  | null
  | bool (value : Bool)
  | number (natural : Option Nat)
  | string (text : Option String)
deriving Repr, DecidableEq

/-- A part of a string: a character that stands for itself, or a code unit given by number. -/
inductive Piece where
  | char (c : Char)
  | unit (value : Nat)
deriving Repr, DecidableEq

namespace Token

/-- The four characters that may stand around tokens. -/
def isSpace (c : Char) : Bool :=
  c == ' ' || c == '\t' || c == '\n' || c == '\r'

/-- The character that a one-letter escape stands for. -/
def escaped? : Char → Option Char
  | '"' => some '"'
  | '\\' => some '\\'
  | '/' => some '/'
  | 'b' => some '\x08'
  | 'f' => some '\x0c'
  | 'n' => some '\n'
  | 'r' => some '\r'
  | 't' => some '\t'
  | _ => none

/-- The code unit written with four hexadecimal digits. -/
def unit? (a b c d : Char) : Option Nat := do
  some (4096 * (← Hex.value? a) + 256 * (← Hex.value? b) + 16 * (← Hex.value? c) + (← Hex.value? d))

/-- Reads a string after its opening quote, up to and with the closing one. Control characters must
be escaped. The parts read so far are kept in reverse. -/
def scanString (read : List Piece) : List Char → Option (List Piece × List Char)
  | [] => none
  | '"' :: rest => some (read.reverse, rest)
  | '\\' :: 'u' :: a :: b :: c :: d :: rest =>
    match unit? a b c d with
    | some u => scanString (.unit u :: read) rest
    | none => none
  | '\\' :: e :: rest =>
    match escaped? e with
    | some c => scanString (.char c :: read) rest
    | none => none
  | c :: rest => if c.toNat < 32 || c == '\\' then none else scanString (.char c :: read) rest

/-- Half of a surrogate pair that comes first. -/
def isHighUnit (u : Nat) : Bool :=
  0xd800 ≤ u && u < 0xdc00

/-- Half of a surrogate pair that comes second. -/
def isLowUnit (u : Nat) : Bool :=
  0xdc00 ≤ u && u < 0xe000

/-- The text of a string; there is none when a surrogate has no partner. The characters decided so
far are kept in reverse. -/
def textOf (read : List Char) : List Piece → Option String
  | [] => some (String.ofList read.reverse)
  | .char c :: rest => textOf (c :: read) rest
  | .unit h :: .unit l :: rest =>
    if isHighUnit h then
      if isLowUnit l then
        textOf (Char.ofNat (0x10000 + (h - 0xd800) * 0x400 + (l - 0xdc00)) :: read) rest
      else none
    else if isLowUnit h then none
    else textOf (Char.ofNat h :: read) (.unit l :: rest)
  | .unit u :: rest =>
    if isHighUnit u || isLowUnit u then none else textOf (Char.ofNat u :: read) rest

/-- Splits off the digits in front. -/
def scanDigits (cs : List Char) : List Char × List Char :=
  (cs.takeWhile Decimal.isDigit, cs.dropWhile Decimal.isDigit)

/-- Passes over a fraction, if there is one: whether there was, and the rest. -/
def scanFraction (cs : List Char) : Option (Bool × List Char) :=
  match cs with
  | '.' :: rest =>
    match scanDigits rest with
    | ([], _) => none
    | (_, rest) => some (true, rest)
  | _ => some (false, cs)

/-- Passes over an exponent, if there is one: whether there was, and the rest. -/
def scanExponent (cs : List Char) : Option (Bool × List Char) :=
  match cs with
  | e :: rest =>
    if e == 'e' || e == 'E' then
      let digits := match rest with
        | s :: rest' => if s == '+' || s == '-' then rest' else rest
        | [] => rest
      match scanDigits digits with
      | ([], _) => none
      | (_, rest) => some (true, rest)
    else some (false, cs)
  | [] => some (false, cs)

/-- Reads a number without its sign. Leading zeros are refused. -/
def scanUnsigned (cs : List Char) : Option (Option Nat × List Char) := do
  let (digits, rest) := scanDigits cs
  if digits.isEmpty || (digits.head? == some '0' && digits.length != 1) then none
  else
    let (fraction, rest) ← scanFraction rest
    let (exponent, rest) ← scanExponent rest
    some (if fraction || exponent then none else some (Decimal.valueFrom 0 digits), rest)

/-- Reads one token; blanks in front must have been passed over. -/
def scan (cs : List Char) : Option (Token × List Char) :=
  match cs with
  | '\x7b' :: rest => some (braceOpen, rest)
  | '\x7d' :: rest => some (braceClose, rest)
  | '[' :: rest => some (bracketOpen, rest)
  | ']' :: rest => some (bracketClose, rest)
  | ':' :: rest => some (colon, rest)
  | ',' :: rest => some (comma, rest)
  | '"' :: rest => (scanString [] rest).map fun (pieces, rest) => (string (textOf [] pieces), rest)
  | 'n' :: 'u' :: 'l' :: 'l' :: rest => some (null, rest)
  | 't' :: 'r' :: 'u' :: 'e' :: rest => some (bool true, rest)
  | 'f' :: 'a' :: 'l' :: 's' :: 'e' :: rest => some (bool false, rest)
  | '-' :: rest => (scanUnsigned rest).map fun (_, rest) => (number none, rest)
  | _ => (scanUnsigned cs).map fun (n, rest) => (number n, rest)

/-- What follows a string is shorter than what began with it. -/
theorem length_scanString {read : List Piece} {cs : List Char} {result : List Piece × List Char}
    (h : scanString read cs = some result) : result.2.length < cs.length := by
  fun_induction scanString read cs <;> simp_all <;> grind

/-- What follows digits is no longer than what began with them. -/
theorem length_scanDigits (cs : List Char) :
    (scanDigits cs).1.length + (scanDigits cs).2.length = cs.length := by
  rw [scanDigits, ← List.length_append, List.takeWhile_append_dropWhile]

/-- What follows a fraction is no longer than what began with it. -/
theorem length_scanFraction {cs : List Char} {result : Bool × List Char}
    (h : scanFraction cs = some result) : result.2.length ≤ cs.length := by
  unfold scanFraction at h
  split at h
  · rename_i rest
    have := length_scanDigits rest
    split at h <;> grind
  · grind

/-- What follows an exponent is no longer than what began with it. -/
theorem length_scanExponent {cs : List Char} {result : Bool × List Char}
    (h : scanExponent cs = some result) : result.2.length ≤ cs.length := by
  unfold scanExponent at h
  split at h
  · rename_i e rest
    split at h
    · have h₁ := length_scanDigits rest
      have h₂ := length_scanDigits rest.tail
      cases rest <;> grind
    · grind
  · grind

/-- A number takes at least one character. -/
theorem length_scanUnsigned {cs : List Char} {result : Option Nat × List Char}
    (h : scanUnsigned cs = some result) : result.2.length < cs.length := by
  have hd := length_scanDigits cs
  simp only [scanUnsigned, Option.bind_eq_bind] at h
  split at h
  · simp at h
  · rename_i hne
    obtain ⟨⟨f, rest₁⟩, h₁, h⟩ := Option.bind_eq_some_iff.1 h
    obtain ⟨⟨e, rest₂⟩, h₂, h⟩ := Option.bind_eq_some_iff.1 h
    have hf := length_scanFraction h₁
    have he := length_scanExponent h₂
    have : (scanDigits cs).1 ≠ [] := by
      intro hnil
      simp [hnil] at hne
    have := List.length_pos_iff.2 this
    simp only [Option.some.injEq] at h
    subst h
    simp only at hf he ⊢
    omega

/-- A token takes at least one character. -/
theorem length_scan {cs : List Char} {result : Token × List Char}
    (h : scan cs = some result) : result.2.length < cs.length := by
  unfold scan at h
  split at h <;> simp only [Option.some.injEq, Option.map_eq_some_iff] at h
  case h_7 =>
    obtain ⟨r, hr, rfl⟩ := h
    have := length_scanString hr
    simp only [List.length_cons]
    omega
  case h_11 =>
    obtain ⟨r, hr, rfl⟩ := h
    have := length_scanUnsigned hr
    simp only [List.length_cons]
    omega
  case h_12 =>
    obtain ⟨r, hr, rfl⟩ := h
    exact length_scanUnsigned hr
  all_goals
    subst h
    simp only [List.length_cons]
    omega

/-- Reads all tokens of a document; those read so far are kept in reverse. -/
def scanFrom (read : List Token) (cs : List Char) : Option (List Token) :=
  match cs with
  | [] => some read.reverse
  | c :: rest =>
    if isSpace c then scanFrom read rest
    else
      match _h : scan (c :: rest) with
      | some (token, rest') => scanFrom (token :: read) rest'
      | none => none
termination_by cs.length
decreasing_by
  · simp
  · exact length_scan ‹_›

/-- The tokens of a document. -/
def scanAll? (text : String) : Option (List Token) :=
  scanFrom [] text.toList

/-- The written form of one character inside a string. -/
def escape (c : Char) : List Char :=
  if c = '"' then ['\\', '"']
  else if c = '\\' then ['\\', '\\']
  else if c = '\x08' then ['\\', 'b']
  else if c = '\x0c' then ['\\', 'f']
  else if c = '\n' then ['\\', 'n']
  else if c = '\r' then ['\\', 'r']
  else if c = '\t' then ['\\', 't']
  else if c.toNat < 32 then
    ['\\', 'u', '0', '0', Hex.lower (c.toNat / 16), Hex.lower (c.toNat % 16)]
  else [c]

/-- The written form of a token. Every string that is written has a text and every number is
natural; the other cases are written as `null`. -/
def write : Token → List Char
  | braceOpen => ['\x7b']
  | braceClose => ['\x7d']
  | bracketOpen => ['[']
  | bracketClose => [']']
  | colon => [':']
  | comma => [',']
  | null => ['n', 'u', 'l', 'l']
  | bool true => ['t', 'r', 'u', 'e']
  | bool false => ['f', 'a', 'l', 's', 'e']
  | number (some n) => (Nat.repr n).toList
  | number none => ['n', 'u', 'l', 'l']
  | string (some s) => '"' :: s.toList.flatMap escape ++ ['"']
  | string none => ['n', 'u', 'l', 'l']

end Token

end PreviewSync.Json
