import PreviewSync.Jpeg.Table
import PreviewSync.Preview.Image

/-!
# Writing JPEG files

Baseline files with three components in full resolution.

## Main Definitions

* `Jpeg.transform` — the frequencies of a block of eight by eight samples
* `Jpeg.Bit` packing — code words as bytes
* `Jpeg.encode?` — the file of an image

## Design Notes

The cosines are integers with twelve fractional bits, so the only rounding is the one to
quantisation steps.
-/

namespace PreviewSync.Jpeg

/-- The cosine of a number of sixteenths of a half turn, times `2 ^ 12`. -/
def cosine (k : Nat) : Int :=
  let quarter : Array Int := #[4096, 4017, 3784, 3406, 2896, 2276, 1567, 799, 0]
  let k := k % 32
  if k ≤ 8 then quarter.getD k 0
  else if k ≤ 16 then -quarter.getD (16 - k) 0
  else if k ≤ 24 then -quarter.getD (k - 16) 0
  else quarter.getD (32 - k) 0

/-- The share of sample `x` in frequency `u`, times `2 ^ 13`. Shares are whole numbers, so a file
does not depend on how a machine rounds. -/
def share (u x : Nat) : Int :=
  if u = 0 then 2896 else cosine ((2 * x + 1) * u)

/-- All shares, frequency by frequency. -/
def shares : Array Int :=
  ((List.range 8).flatMap fun u => (List.range 8).map fun x => share u x).toArray

/-- The frequencies of every row of a block; they become columns. -/
def transformRows (block : Array Int) : Array Int :=
  ((List.range 8).flatMap fun u => (List.range 8).map fun y =>
    (List.range 8).foldl
      (fun sum x => sum + block.getD (8 * y + x) 0 * shares.getD (8 * u + x) 0) 0).toArray

/-- The frequencies of a block of eight by eight samples, times `2 ^ 26`. Rows are transformed first
and columns then, which takes fewer products than both at once. -/
def transform (block : Array Int) : Array Int :=
  transformRows (transformRows block)

/-- A quotient rounded to the nearest number, a half away from zero. -/
def divideToNearest (numerator : Int) (denominator : Nat) : Int :=
  let size := (2 * numerator.natAbs + denominator) / (2 * denominator)
  if numerator < 0 then -(size : Int) else size

/-- The coefficients of a block in the order of writing. This is the step in which most is lost:
the steps are larger for the frequencies an eye sees worst. -/
def coefficients (steps : Array Nat) (block : Array Int) : List Int :=
  let frequencies := transform block
  zigzag.map fun i =>
    let c := divideToNearest (frequencies.getD i 0) (67108864 * steps.getD i 1)
    max (-1023) (min 1023 c)

/-- The bits of a number, the most significant one first. -/
def bitsOf : Nat → Nat → List Bool
  | 0, _ => []
  | n + 1, value => value.testBit n :: bitsOf n value

/-- The number of bits of a coefficient without its sign. -/
def size (c : Int) : Nat :=
  if c = 0 then 0 else c.natAbs.log2 + 1

/-- The bits that tell a coefficient among those of its size. -/
def magnitudeBits (c : Int) : List Bool :=
  let n := size c
  bitsOf n (if c < 0 then (c + (1 <<< n : Nat) - 1).toNat else c.toNat)

/-- The code word of a symbol. -/
def wordBits (words : Array (Nat × Nat)) (symbol : Nat) : List Bool :=
  let (length, code) := words.getD symbol (0, 0)
  bitsOf length code

/-- The coefficients after the first one; runs of zeros go with the coefficient that ends them.
Zeros at the end are written as one symbol. -/
def otherBits (words : Array (Nat × Nat)) : Nat → List Int → List Bool
  | zeros, [] => if zeros = 0 then [] else wordBits words 0
  | zeros, c :: rest =>
    if c = 0 then otherBits words (zeros + 1) rest
    else
      (List.replicate (zeros / 16) (wordBits words 0xf0)).flatten
        ++ wordBits words (16 * (zeros % 16) + size c) ++ magnitudeBits c ++ otherBits words 0 rest

/-- The code words that belong to a kind of component, and its quantisation steps. -/
structure Coder where
  first : Array (Nat × Nat)
  other : Array (Nat × Nat)
  steps : Array Nat

/-- The coder of a kind of component at a quality. -/
def Coder.make (kind : Kind) (quality : Nat) : Coder :=
  ⟨kind.firstTable.words, kind.otherTable.words, quantisation kind quality⟩

/-- The bits of a block after one with a given first coefficient, and its own first coefficient.
First coefficients are written as differences, since they change little from one block to the next.
-/
def Coder.blockBits (coder : Coder) (previous : Int) (block : Array Int) : List Bool × Int :=
  match coefficients coder.steps block with
  | [] => ([], previous)
  | first :: others =>
    let change := first - previous
    (wordBits coder.first (size change) ++ magnitudeBits change
      ++ otherBits coder.other 0 others, first)

/-- The luminance and the two chrominances of a pixel, moved to lie around zero. -/
def components (r g b : UInt8) : Int × Int × Int :=
  let r : Int := r.toNat
  let g : Int := g.toNat
  let b : Int := b.toNat
  (divideToNearest (299 * r + 587 * g + 114 * b) 1000 - 128,
    divideToNearest (-168736 * r - 331264 * g + 500000 * b) 1000000,
    divideToNearest (500000 * r - 418688 * g - 81312 * b) 1000000)

/-- The three component blocks at a place of an image. Beyond its edges the last pixels go on, which
costs the fewest bits and is cut off by whoever decodes the file. -/
def blocksAt (samples : Array UInt8) (width height left top : Nat) :
    Array Int × Array Int × Array Int :=
  (List.range 64).foldl
    (fun (a, b, c) i =>
      let x := min (left + i % 8) (width - 1)
      let y := min (top + i / 8) (height - 1)
      let place := 3 * (y * width + x)
      let (l, u, v) := components (samples.getD place 0) (samples.getD (place + 1) 0)
        (samples.getD (place + 2) 0)
      (a.push l, b.push u, c.push v))
    (#[], #[], #[])

/-- The bits of all blocks, row by row. -/
def scanBits (samples : Array UInt8) (width height quality : Nat) : List Bool :=
  let luminance := Coder.make .luminance quality
  let chrominance := Coder.make .chrominance quality
  let places := (List.range ((height + 7) / 8)).flatMap fun row =>
    (List.range ((width + 7) / 8)).map fun column => (8 * column, 8 * row)
  let start : List (List Bool) × Int × Int × Int := ([], 0, 0, 0)
  let (bits, _) := places.foldl
    (fun (bits, p, q, r) (left, top) =>
      let (a, b, c) := blocksAt samples width height left top
      let (aBits, p) := luminance.blockBits p a
      let (bBits, q) := chrominance.blockBits q b
      let (cBits, r) := chrominance.blockBits r c
      (cBits :: bBits :: aBits :: bits, p, q, r))
    start
  bits.reverse.flatten

/-- Bits as bytes. The last byte is filled up with ones, and a byte of ones is followed by a zero
byte, without which it would be taken for the beginning of a marker. The bytes so far are kept in
reverse. -/
def packBits (done : Bytes) : List Bool → Bytes
  | [] => done.reverse
  | bit :: rest =>
    let group := bit :: rest.take 7
    let value := (group ++ List.replicate (8 - group.length) true).foldl
      (fun v b => 2 * v + b.toNat) 0
    packBits (if value = 255 then 0 :: 255 :: done else UInt8.ofNat value :: done) (rest.drop 7)
termination_by bits => bits.length
decreasing_by simp only [List.length_drop, List.length_cons]; omega

/-- A number in two bytes, the more significant one first. -/
def twoBytes (n : Nat) : Bytes :=
  [UInt8.ofNat (n / 256), UInt8.ofNat (n % 256)]

/-- A segment: its marker, its length and its content. -/
def segment (marker : UInt8) (content : Bytes) : Bytes :=
  0xff :: marker :: twoBytes (content.length + 2) ++ content

/-- The segment of a quantisation table, in the order of writing. -/
def quantisationSegment (kind : Kind) (quality : Nat) : Bytes :=
  let steps := quantisation kind quality
  segment 0xdb (kind.number :: zigzag.map fun i => UInt8.ofNat (steps.getD i 1))

/-- The segment of a code table. -/
def codeSegment (number : UInt8) (table : CodeTable) : Bytes :=
  segment 0xc4 (number :: table.counts.map UInt8.ofNat ++ table.symbols.map UInt8.ofNat)

/-- The segment that states dimensions and components. -/
def frameSegment (width height : Nat) : Bytes :=
  segment 0xc0 (8 :: twoBytes height ++ twoBytes width
    ++ [3, 1, 0x11, 0, 2, 0x11, 1, 3, 0x11, 1])

/-- The segments in front of the blocks. -/
def head (width height quality : Nat) : Bytes :=
  [0xff, 0xd8]
    ++ segment 0xe0 [0x4a, 0x46, 0x49, 0x46, 0, 1, 2, 0, 0, 1, 0, 1, 0, 0]
    ++ quantisationSegment .luminance quality
    ++ quantisationSegment .chrominance quality
    ++ frameSegment width height
    ++ codeSegment 0x00 (Kind.firstTable .luminance)
    ++ codeSegment 0x10 (Kind.otherTable .luminance)
    ++ codeSegment 0x01 (Kind.firstTable .chrominance)
    ++ codeSegment 0x11 (Kind.otherTable .chrominance)
    ++ segment 0xda [3, 1, 0x00, 2, 0x11, 3, 0x11, 0, 63, 0]

/-- The longest edge that a file can state, in its two bytes. -/
def maxEdge : Nat :=
  65535

/-- The file of an image at a quality from 1 to 100. There is none for an image without pixels or
with an edge that is too long, since no file could state its dimensions. -/
def encode? (image : Image) (quality : Nat) : Option Bytes :=
  let width := image.width.toNat
  let height := image.height.toNat
  if width = 0 ∨ height = 0 ∨ maxEdge < width ∨ maxEdge < height then none
  else
    some (head width height quality
      ++ packBits [] (scanBits image.pixels.toArray width height quality) ++ [0xff, 0xd9])

end PreviewSync.Jpeg
