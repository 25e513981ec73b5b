import PreviewSync.Fault

/-!
# Images

Decoded images are rows of pixels of three bytes each.

## Main Definitions

* `Image` — dimensions and pixels
* `Image.fullCount`, `Image.byteCount` — the bytes that the dimensions ask for, exactly and in 64
  bits
* `Image.check` — whether there are as many bytes by the count in 64 bits
* `Image.isWhole` — whether there are exactly as many
-/

namespace PreviewSync

/-- Dimensions and pixels, row by row, each pixel a red, a green and a blue byte. The buffer comes
from a caller and need not match the dimensions; `check` is there for that. -/
structure Image where
  width : UInt32
  height : UInt32
  pixels : Bytes
deriving Repr, DecidableEq

namespace Image

/-- The number of bytes that the dimensions ask for. -/
def fullCount (image : Image) : Nat :=
  image.width.toNat * image.height.toNat * 3

/-- The number of bytes that the dimensions ask for, computed in 64 bits. Three times the product of
two edges of 32 bits may be more than these hold, and then the number is too small. -/
def byteCount (image : Image) : UInt64 :=
  image.width.toUInt64 * image.height.toUInt64 * 3

/-- The text of dimensions. -/
def sizeText (width height : UInt32) : String :=
  Nat.repr width.toNat ++ "x" ++ Nat.repr height.toNat

/-- The fault of a buffer that does not match the dimensions. -/
def mismatch (image : Image) : Fault :=
  .invalidData ("RGB buffer of " ++ Nat.repr image.pixels.length
    ++ " bytes does not match " ++ sizeText image.width image.height)

/-- There must be as many bytes as the dimensions ask for, by the count in 64 bits. A buffer passes
by mistake when that count has wrapped around to its length. -/
def check (image : Image) : Except Fault Unit :=
  if image.pixels.length = image.byteCount.toNat then .ok () else .error image.mismatch

/-- Whether there are exactly as many bytes as the dimensions ask for. -/
def isWhole (image : Image) : Bool :=
  image.pixels.length == image.fullCount

end Image

end PreviewSync
