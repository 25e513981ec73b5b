/-!
# Trimming

Removal of leading and trailing characters of a class, and the class of blank characters.

## Main Definitions

* `Text.trimStart`, `Text.trimEnd`, `Text.trim` — removal at one end or at both
* `Text.isBlank` — the characters with the Unicode property White_Space
-/

namespace PreviewSync.Text

/-- Removes the leading characters of a class. -/
def trimStart (drop : Char → Bool) (text : String) : String :=
  String.ofList (text.toList.dropWhile drop)

/-- Removes the trailing characters of a class. -/
def trimEnd (drop : Char → Bool) (text : String) : String :=
  String.ofList (text.toList.reverse.dropWhile drop).reverse

/-- Removes the characters of a class at both ends. The class is a parameter, since blanks, slashes
and margins are removed in the same way. -/
def trim (drop : Char → Bool) (text : String) : String :=
  trimEnd drop (trimStart drop text)

/-- The slash, as a class of one character. -/
def isSlash (c : Char) : Bool :=
  c == '/'

/-- The ranges of the Unicode property White_Space. -/
def blankRanges : List (Nat × Nat) :=
  [(0x9, 0xd), (0x20, 0x20), (0x85, 0x85), (0xa0, 0xa0), (0x1680, 0x1680), (0x2000, 0x200a),
    (0x2028, 0x2029), (0x202f, 0x202f), (0x205f, 0x205f), (0x3000, 0x3000)]

/-- A character with the Unicode property White_Space. -/
def isBlank (c : Char) : Bool :=
  blankRanges.any fun (lo, hi) => lo ≤ c.toNat && c.toNat ≤ hi

end PreviewSync.Text
