import PreviewSync.Jpeg.Encode
import PreviewSync.Png.Decode
import PreviewSync.Preview.Resample

/-!
# Re-encoding previews

A preview is decoded, brought to the wanted size if it is larger, and encoded again.

## Main Definitions

* `Dimensions.fit` — the dimensions of a preview whose longer edge is limited
* `Codec` — decoding, rescaling and encoding
* `Reencoding` — the step that a preview is waiting for
* `reencode` — the whole way, with the calls that were made
* `Codec.standard` — the codec that reads PNG and writes JPEG files
-/

namespace PreviewSync

/-- Width and height. -/
structure Dimensions where
  width : UInt32
  height : UInt32
deriving Repr, DecidableEq

namespace Dimensions

/-- The shorter edge when the longer one becomes `longest`: the exact quotient rounded to the
nearest number, a half upwards, but at least one pixel. The product is formed in 64 bits, which hold
it for all edges of 32 bits. -/
def scaleEdge (short long longest : UInt32) : UInt32 :=
  let scaled :=
    (short.toUInt64 * longest.toUInt64 + long.toUInt64 / 2) / long.toUInt64
  let narrowed : UInt32 := if scaled ≤ 4294967295 then scaled.toUInt32 else 4294967295
  if narrowed < 1 then 1 else narrowed

/-- The dimensions of a preview whose longer edge is limited. The aspect ratio is kept; a limit of
zero means none. A preview that is small enough is left alone, so nothing is ever made larger. -/
def fit (size : Dimensions) (longest : UInt32) : Dimensions :=
  if (size.width ≤ longest ∧ size.height ≤ longest) ∨ longest = 0 then size
  else if size.height ≤ size.width then ⟨longest, scaleEdge size.height size.width longest⟩
  else ⟨scaleEdge size.width size.height longest, longest⟩

end Dimensions

/-- The dimensions of an image. -/
def Image.size (image : Image) : Dimensions :=
  ⟨image.width, image.height⟩

/-- Decoding, rescaling and encoding. What a session does with a preview is told for any three of
them; which formats there are is the matter of `Codec.standard` alone. -/
structure Codec where
  decode : Bytes → Except Fault Image
  rescale : Image → Dimensions → Except Fault Image
  encode : Image → UInt8 → Except Fault Bytes

/-- A call of a codec. The calls are part of what is told about re-encoding, since which of them are
made says that a preview is not rescaled without need. -/
inductive Codec.Call where
  | decode (file : Bytes)
  | rescale (image : Image) (size : Dimensions)
  | encode (image : Image) (quality : UInt8)
deriving Repr, DecidableEq

/-- The step that a preview is waiting for. Re-encoding takes its time, and the session that owns
the preview may be stopped between any two steps. -/
inductive Reencoding where
  | decoding (file : Bytes)
  | rescaling (image : Image) (size : Dimensions)
  | encoding (image : Image)
deriving Repr, DecidableEq

namespace Reencoding

/-- The step after decoding: rescaling, unless the image has the wanted dimensions already. -/
def afterDecoding (image : Image) (longest : UInt32) : Reencoding :=
  let size := image.size.fit longest
  if size = image.size then encoding image else rescaling image size

/-- The call that a step makes. -/
def call (quality : UInt8) : Reencoding → Codec.Call
  | decoding file => .decode file
  | rescaling image size => .rescale image size
  | encoding image => .encode image quality

end Reencoding

/-- The last step of re-encoding. -/
def encodeStep (codec : Codec) (image : Image) (quality : UInt8) (calls : List Codec.Call) :
    List Codec.Call × Except Fault Bytes :=
  (calls ++ [.encode image quality], codec.encode image quality)

/-- The calls that were made, the failing one included, and the new file. -/
def reencode (codec : Codec) (file : Bytes) (longest : UInt32) (quality : UInt8) :
    List Codec.Call × Except Fault Bytes :=
  match codec.decode file with
  | .error fault => ([.decode file], .error fault)
  | .ok image =>
    match Reencoding.afterDecoding image longest with
    | .rescaling image size =>
      match codec.rescale image size with
      | .error fault => ([.decode file, .rescale image size], .error fault)
      | .ok rescaled => encodeStep codec rescaled quality [.decode file, .rescale image size]
    | _ => encodeStep codec image quality [.decode file]

namespace Codec

/-- Rescaling by weighted means. No dimension may be zero, and the buffer must match. The count of
the check may have wrapped around; then there are no rows to take the pixels from. -/
def rescaleImage (image : Image) (size : Dimensions) : Except Fault Image :=
  if size.width = 0 ∨ size.height = 0 then
    .error (.invalidData ("cannot rescale to " ++ Image.sizeText size.width size.height))
  else
    match image.check with
    | .error fault => .error fault
    | .ok () =>
      if image.isWhole then .ok (Resample.image image size.width size.height)
      else
        .error (.invalidData
          ("cannot build " ++ Image.sizeText image.width image.height ++ " image"))

/-- Encoding as a JPEG file. The buffer must match; the quality is moved into the range from 1 to
100. The encoder counts the bytes once more, without wrapping around, and breaks down when there are
not as many. -/
def encodeImage (image : Image) (quality : UInt8) : Except Fault Bytes :=
  match image.check with
  | .error fault => .error fault
  | .ok () =>
    if image.isWhole then
      match Jpeg.encode? image (min 100 (max 1 quality.toNat)) with
      | some file => .ok file
      | none => .error .image
    else .error .breakdown

/-- The codec that reads PNG and writes JPEG files. -/
def standard : Codec where
  decode file :=
    match Png.decode? file with
    | some image => .ok image
    | none => .error .image
  rescale := rescaleImage
  encode := encodeImage

end Codec

end PreviewSync
