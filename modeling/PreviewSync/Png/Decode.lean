import PreviewSync.Deflate.Block
import PreviewSync.Png.Contents
import PreviewSync.Preview.Image

/-!
# PNG images

Decoding to pixels of three bytes: grey is repeated, transparency is dropped, palettes are looked
up, and samples are brought to eight bits.

## Main Definitions

* `Png.unfilter` — undoes the filter of a row
* `Png.pixelAt` — the pixel at a position of a row
* `Png.decode?` — the image of a file
-/

namespace PreviewSync.Png

/-- The neighbour, left, above or above left, that is closest to their linear prediction. -/
def predict (left above aboveLeft : Nat) : Nat :=
  let estimate : Int := left + above - aboveLeft
  let toLeft := (estimate - left).natAbs
  let toAbove := (estimate - above).natAbs
  let toAboveLeft := (estimate - aboveLeft).natAbs
  if toLeft ≤ toAbove ∧ toLeft ≤ toAboveLeft then left
  else if toAbove ≤ toAboveLeft then above
  else aboveLeft

/-- Undoes one of the five filters on a row. Neighbours outside the image are zero. A filter works
on bytes and not on samples, so neither depth nor colour type matter here. -/
def unfilter (filter : UInt8) (pixelBytes : Nat) (above : Array UInt8) (row : Array UInt8) :
    Option (Array UInt8) :=
  let neighbour (cells : Array UInt8) (i : Nat) : Nat :=
    if i < pixelBytes then 0 else (cells.getD (i - pixelBytes) 0).toNat
  let restore (predicted : Array UInt8 → Nat → Nat) : Array UInt8 :=
    row.foldl (fun done b => done.push (b + UInt8.ofNat (predicted done done.size))) #[]
  match filter.toNat with
  | 0 => some row
  | 1 => some (restore fun done i => neighbour done i)
  | 2 => some (restore fun _ i => (above.getD i 0).toNat)
  | 3 => some (restore fun done i => (neighbour done i + (above.getD i 0).toNat) / 2)
  | 4 => some (restore fun done i =>
      predict (neighbour done i) (above.getD i 0).toNat (neighbour above i))
  | _ => none

/-- The sample at a position of a row. -/
def sampleAt (depth : Nat) (row : Array UInt8) (i : Nat) : Nat :=
  let byte (j : Nat) : Nat := (row.getD j 0).toNat
  if depth = 16 then byte (2 * i) * 256 + byte (2 * i + 1)
  else if depth = 8 then byte i
  else (byte (i * depth / 8) >>> (8 - depth - i * depth % 8)) % (1 <<< depth)

/-- A sample brought to eight bits, to the nearest value. -/
def toEightBits (depth sample : Nat) : UInt8 :=
  if depth = 16 then UInt8.ofNat ((sample + 128) / 257)
  else UInt8.ofNat (sample * (255 / ((1 <<< depth) - 1)))

/-- The red, green and blue bytes of the pixel at a position of a row. A palette without an entry
for the pixel makes it black. What is said about its transparency is dropped. -/
def pixelAt (header : Header) (palette : Array UInt8) (row : Array UInt8) (i : Nat) :
    UInt8 × UInt8 × UInt8 :=
  let sample (k : Nat) : Nat := sampleAt header.depth row (i * header.colour.samples + k)
  let value (k : Nat) : UInt8 := toEightBits header.depth (sample k)
  match header.colour with
  | .grey | .greyAlpha => (value 0, value 0, value 0)
  | .rgb | .rgbAlpha => (value 0, value 1, value 2)
  | .palette =>
    let part (k : Nat) : UInt8 := palette.getD (3 * sample 0 + k) 0
    (part 0, part 1, part 2)

/-- Puts the pixels of a row at their places in the image. -/
def placeRow (header : Header) (palette : Array UInt8) (pass : Pass) (y : Nat) (row : Array UInt8)
    (image : Array UInt8) : Array UInt8 :=
  (List.range (pass.columns header)).foldl
    (fun image i =>
      let place := 3 * (y * header.width + pass.x + i * pass.dx)
      let (r, g, b) := pixelAt header palette row i
      ((image.setIfInBounds place r).setIfInBounds (place + 1) g).setIfInBounds (place + 2) b)
    image

/-- Decodes a number of rows of a grid: the position behind them, and the image with them. -/
def placeRows (header : Header) (palette : Array UInt8) (content : Array UInt8) (pass : Pass) :
    Nat → Nat → Nat → Array UInt8 → Array UInt8 → Option (Nat × Array UInt8)
  | 0, _, position, _, image => some (position, image)
  | n + 1, k, position, above, image =>
    let size := pass.rowBytes header
    let pixelBytes := max 1 (header.colour.samples * header.depth / 8)
    match unfilter (content.getD position 0) pixelBytes above
      (content.extract (position + 1) (position + 1 + size)) with
    | none => none
    | some row =>
      placeRows header palette content pass n (k + 1) (position + 1 + size) row
        (placeRow header palette pass (pass.y + k * pass.dy) row image)

/-- Decodes all grids, one after the other. -/
def placePasses (header : Header) (palette content : Array UInt8) :
    List Pass → Nat → Array UInt8 → Option (Array UInt8)
  | [], _, image => some image
  | pass :: rest, position, image =>
    match placeRows header palette content pass (pass.rows header) 0 position #[] image with
    | none => none
    | some (position, image) => placePasses header palette content rest position image

/-- The content of compressed image data. The two bytes in front must name this method, no larger
window than 32 kibibytes and no preset dictionary; the checksum behind it is not looked at. A stream
that ends early is good for what it has put out, as long as that suffices for all pixels. -/
def decompress? : Bytes → Option (Array UInt8)
  | method :: flags :: rest =>
    if method.toNat % 16 = 8 ∧ method.toNat / 16 ≤ 7 ∧ number [method, flags] % 31 = 0
        ∧ flags.toNat / 32 % 2 = 0 then
      let outcome := Deflate.inflate .strict rest
      match outcome.rest with
      | .error .wrong => none
      | _ => some outcome.output
    else none
  | _ => none

/-- The image of a file. A palette must be there if pixels refer to one, and the image data must
suffice for all pixels. An image is whole or none: pixels that are missing are not made up. -/
def decode? (file : Bytes) : Option Image := do
  let contents ← Contents.read? file
  let header := contents.preface.header
  if header.colour = .palette ∧ contents.preface.palette.isNone then none
  else
    let content ← decompress? contents.data
    if content.size < header.contentSize then none
    else
      let blank := Array.replicate (header.width * header.height * 3) (0 : UInt8)
      let palette := (contents.preface.palette.getD []).toArray
      let pixels ← placePasses header palette content header.passes 0 blank
      some ⟨UInt32.ofNat header.width, UInt32.ofNat header.height, pixels.toList⟩

end PreviewSync.Png
