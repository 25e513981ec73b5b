import PreviewSync.Png.Chunk

/-!
# Headers of PNG files

Dimensions, the form of pixels, and the grids of pixels that are stored together.

## Main Definitions

* `Png.Header` — dimensions, sample depth, colour type and interlacing
* `Png.Pass` — a grid of pixels that is stored together
* `Png.Header.contentSize` — the number of bytes that the grids take
-/

namespace PreviewSync.Png

/-- How the samples of a pixel are to be read. Grey values and entries of a palette become three
bytes in the end, like any others. -/
inductive Colour where
  | grey
  | rgb
  | palette
  | greyAlpha
  | rgbAlpha
deriving Repr, DecidableEq

/-- The number of samples of a pixel. -/
def Colour.samples : Colour → Nat
  | grey => 1
  | rgb => 3
  | palette => 1
  | greyAlpha => 2
  | rgbAlpha => 4

/-- The colour type of a number, for the sample depths that go with it. -/
def Colour.ofNumbers? (kind depth : Nat) : Option Colour :=
  match kind with
  | 0 => if [1, 2, 4, 8, 16].contains depth then some grey else none
  | 2 => if [8, 16].contains depth then some rgb else none
  | 3 => if [1, 2, 4, 8].contains depth then some palette else none
  | 4 => if [8, 16].contains depth then some greyAlpha else none
  | 6 => if [8, 16].contains depth then some rgbAlpha else none
  | _ => none

/-- Dimensions, sample depth, colour type and interlacing. -/
structure Header where
  width : Nat
  height : Nat
  depth : Nat
  colour : Colour
  interlaced : Bool
deriving Repr, DecidableEq

/-- The most bytes of pixels that are decoded. The dimensions of a header are no more than a claim,
so the bound is looked at before any pixel is. -/
def maxImageBytes : Nat :=
  536870912

/-- The header in the data of a chunk. What follows its thirteen bytes does not count. -/
def Header.read? : Bytes → Option Header
  | w₁ :: w₂ :: w₃ :: w₄ :: h₁ :: h₂ :: h₃ :: h₄ :: depth :: kind :: 0 :: 0 :: interlace :: _ => do
    let width := number [w₁, w₂, w₃, w₄]
    let height := number [h₁, h₂, h₃, h₄]
    let colour ← Colour.ofNumbers? kind.toNat depth.toNat
    if width = 0 ∨ height = 0 ∨ 1 < interlace.toNat then none
    else if maxImageBytes < width * height * 3 then none
    else some ⟨width, height, depth.toNat, colour, interlace == 1⟩
  | _ => none

/-- A grid of pixels that is stored together: its first column and row, and the steps between
columns and rows. A plain image is one grid with steps of one, so interlacing makes no further
difference. -/
structure Pass where
  x : Nat
  y : Nat
  dx : Nat
  dy : Nat
deriving Repr, DecidableEq

/-- The seven grids of an interlaced image, or the one of a plain image. -/
def Header.passes (header : Header) : List Pass :=
  if header.interlaced then
    [⟨0, 0, 8, 8⟩, ⟨4, 0, 8, 8⟩, ⟨0, 4, 4, 8⟩, ⟨2, 0, 4, 4⟩, ⟨0, 2, 2, 4⟩, ⟨1, 0, 2, 2⟩,
      ⟨0, 1, 1, 2⟩]
  else [⟨0, 0, 1, 1⟩]

/-- The number of columns of a grid. -/
def Pass.columns (pass : Pass) (header : Header) : Nat :=
  (header.width + pass.dx - 1 - pass.x) / pass.dx

/-- The number of rows of a grid, none if it has no columns. -/
def Pass.rows (pass : Pass) (header : Header) : Nat :=
  if pass.columns header = 0 then 0 else (header.height + pass.dy - 1 - pass.y) / pass.dy

/-- The number of bytes of a row of a grid, without the one that names its filter. -/
def Pass.rowBytes (pass : Pass) (header : Header) : Nat :=
  (pass.columns header * header.colour.samples * header.depth + 7) / 8

/-- The number of bytes that the grids take. -/
def Header.contentSize (header : Header) : Nat :=
  header.passes.foldl (fun size pass => size + pass.rows header * (1 + pass.rowBytes header)) 0

end PreviewSync.Png
