import PreviewSync.Bytes

/-!
# Prefix codes

Numbers and code words in a stream of bits.

## Main Definitions

* `Deflate.Bits` — a stream, the least significant bit of each byte first
* `Deflate.Stop` — why a stream cannot be read any further
* `Deflate.Code` — a canonical prefix code
* `Deflate.Code.take` — takes the symbol of the code word that a stream begins with

## Design Notes

A stream that ends too early is told apart from one that is wrong, since the content of the first
may still be complete.
-/

namespace PreviewSync.Deflate

/-- The bits of a stream, the least significant bit of each byte first. -/
abbrev Bits := List Bool

/-- Why a stream cannot be read any further. A stream that is cut may be the beginning of one that
can be read, and that makes a difference to whoever takes what there is. -/
inductive Stop where
  /-- The stream ends too early. -/
  | cut
  /-- No longer stream with this beginning can be read. -/
  | wrong
deriving Repr, DecidableEq

/-- The bits of bytes. -/
def bitsOf (bytes : Bytes) : Bits :=
  bytes.flatMap fun b => (List.range 8).map fun i => b.toNat.testBit i

/-- Takes a number of the given width, its least significant bit first. -/
def takeNumber : Nat → Bits → Except Stop (Nat × Bits)
  | 0, bits => .ok (0, bits)
  | _ + 1, [] => .error .cut
  | n + 1, b :: rest => do
    let (high, rest) ← takeNumber n rest
    .ok (2 * high + b.toNat, rest)

/-- Takes several numbers of the same width. -/
def takeNumbers (width : Nat) : Nat → Bits → Except Stop (List Nat × Bits)
  | 0, bits => .ok ([], bits)
  | n + 1, bits => do
    let (first, bits) ← takeNumber width bits
    let (others, bits) ← takeNumbers width n bits
    .ok (first :: others, bits)

/-- A canonical prefix code: how many code words there are of each length from 1 up to the longest,
and the symbols in the order of their code words. The code words themselves follow from the counts,
so they are not kept. -/
structure Code where
  counts : List Nat
  symbols : Array Nat
deriving Repr, DecidableEq

namespace Code

/-- The longest code word that a code may have. -/
def maxLength : Nat :=
  15

/-- How many code words there are of each length from 1 up to the longest, where each symbol has a
code word of the given length and length 0 leaves the symbol out. -/
def countsOf (lengths : List Nat) : List Nat :=
  (List.range (min maxLength (lengths.foldl max 0))).map fun i => lengths.count (i + 1)

/-- The room that is left for further code words of the last length. Nothing is said if there was
too little room. Each length has twice the room that the one before has left. -/
def roomLeft? : Nat → List Nat → Option Nat
  | room, [] => some room
  | room, count :: rest =>
    if count ≤ 2 * room then roomLeft? (2 * room - count) rest else none

/-- Whether the code words with these lengths fill all the room there is. -/
def isComplete (lengths : List Nat) : Bool :=
  roomLeft? 1 (countsOf lengths) == some 0

/-- The number of symbols that have a code word. -/
def used (lengths : List Nat) : Nat :=
  lengths.countP (· ≠ 0)

/-- The code with these lengths. Among code words of one length, symbols are in increasing order. -/
def ofLengths (lengths : List Nat) : Code :=
  let counts := countsOf lengths
  let numbered := lengths.zipIdx
  let symbols := (List.range counts.length).flatMap fun i =>
    (numbered.filter fun entry => entry.1 == i + 1).map (·.2)
  ⟨counts, symbols.toArray⟩

/-- Walks down the lengths: `code` is what has been read, `first` the first code word of this
length, and `index` the number of shorter code words. Code words of one length follow one another,
so a comparison with the last of them decides. -/
def walk (symbols : Array Nat) : List Nat → Nat → Nat → Nat → Bits → Except Stop (Nat × Bits)
  | [], _, _, _, _ => .error .wrong
  | _ :: _, _, _, _, [] => .error .cut
  | count :: counts, code, first, index, b :: bits =>
    let code := code + b.toNat
    if code < first + count then
      match symbols[index + (code - first)]? with
      | some symbol => .ok (symbol, bits)
      | none => .error .wrong
    else walk symbols counts (2 * code) (2 * (first + count)) (index + count) bits

/-- Takes the symbol of the code word that the stream begins with. -/
def take (c : Code) (bits : Bits) : Except Stop (Nat × Bits) :=
  walk c.symbols c.counts 0 0 0 bits

end Code

end PreviewSync.Deflate
