import PreviewSync.Preview.Codec

/-!
# Scripted codec

A codec that gives the same image for every file. The image has a single pixel byte: 1 after
decoding and 2 after rescaling.

## Main Definitions

* `Rehearsal.scriptedCodec` — the codec, with the faults of its steps
-/

namespace PreviewSync.Rehearsal

/-- The result of a step: its fault, if one is given. -/
def unlessFault {α : Type} (fault : Option Fault) (value : α) : Except Fault α :=
  match fault with
  | some fault => .error fault
  | none => .ok value

/-- A codec that gives an image of the given size for every file, and the text of an image's size
and quality when it encodes. So what is uploaded tells which calls were made with what. -/
def scriptedCodec (size : Dimensions) (decoding rescaling encoding : Option Fault) : Codec where
  decode _ := unlessFault decoding ⟨size.width, size.height, [1]⟩
  rescale _ size := unlessFault rescaling ⟨size.width, size.height, [2]⟩
  encode image quality :=
    unlessFault encoding
      (Bytes.ofText (Image.sizeText image.width image.height ++ "@" ++ Nat.repr quality.toNat))

end PreviewSync.Rehearsal
