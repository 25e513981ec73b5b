import PreviewSync.Png.Header

/-!
# Contents of PNG files

What the chunks of a file say up to the end of its image data.

## Main Definitions

* `Png.Preface` — what is known when the image data begins
* `Png.Preface.add?` — the effect of a chunk in front of the image data
* `Png.Contents.read?` — preface and image data of a file

## Design Notes

Most chunks that are not needed for the image are passed over, even if their data make no sense. The
exceptions are announcements of frames, and data about colours that are longer than they should be
or name a way to mix colours.
-/

namespace PreviewSync.Png

/-- What is known when the image data begins: the header, the palette, whether a space of colours
was named, and the number of the last announcement of a frame. A chunk may be wrong because of what
came before it, and this is what has to be remembered for that. -/
structure Preface where
  header : Header
  palette : Option Bytes := none
  hasSpace : Bool := false
  frame : Option Nat := none
deriving Repr, DecidableEq

/-- The most bytes of a palette. -/
def maxPaletteBytes : Nat :=
  768

/-- Whether data can be a palette: up to 256 entries of three bytes. -/
def isPalette (data : Bytes) : Bool :=
  !data.isEmpty && data.length ≤ maxPaletteBytes && data.length % 3 == 0

namespace Preface

/-- The announcement of a frame in front of the image data. Announcements are numbered from 0 on,
and a frame there is the whole image. -/
def addFrame? (preface : Preface) : Bytes → Option Preface
  | n₁ :: n₂ :: n₃ :: n₄ :: w₁ :: w₂ :: w₃ :: w₄ :: h₁ :: h₂ :: h₃ :: h₄
    :: x₁ :: x₂ :: x₃ :: x₄ :: y₁ :: y₂ :: y₃ :: y₄ :: _ :: _ :: _ :: _
    :: disposal :: blending :: _ =>
    let frame := number [n₁, n₂, n₃, n₄]
    let width := number [w₁, w₂, w₃, w₄]
    let height := number [h₁, h₂, h₃, h₄]
    let x := number [x₁, x₂, x₃, x₄]
    let y := number [y₁, y₂, y₃, y₄]
    if frame = (preface.frame.map (· + 1)).getD 0 ∧ disposal ≤ 2 ∧ blending ≤ 1
        ∧ width = preface.header.width ∧ height = preface.header.height ∧ x = 0 ∧ y = 0 then
      some { preface with frame := some frame }
    else none
  | _ => none

/-- The name of a space of colours: the way to mix colours must be the plain one, and the range of
samples is one of two. Data that end early do not count. -/
def addSpace? (preface : Preface) : Bytes → Option Preface
  | _ :: _ :: mixing :: range :: rest =>
    if mixing = 0 ∧ range ≤ 1 ∧ rest.isEmpty then some { preface with hasSpace := true } else none
  | _ => some preface

/-- The effect of a chunk in front of the image data, if the file can still be read. Most chunks
have none. -/
def add? (preface : Preface) (chunk : Chunk) : Option Preface :=
  if !chunk.isSound then if chunk.isCritical then none else some preface
  else
    match chunk.name with
    | "PLTE" =>
      if preface.palette.isNone && isPalette chunk.data then
        some { preface with palette := some chunk.data }
      else none
    | "fcTL" => preface.addFrame? chunk.data
    | "cICP" =>
      if preface.palette.isNone && !preface.hasSpace then preface.addSpace? chunk.data
      else some preface
    | "mDCV" => if preface.palette.isNone && 24 < chunk.data.length then none else some preface
    | "cLLI" => if preface.palette.isNone && 8 < chunk.data.length then none else some preface
    | _ => if chunk.isCritical then none else some preface

/-- The preface and the bytes from the first chunk with image data on. Data of a frame must have
been announced. -/
def take? (preface : Preface) (bytes : Bytes) : Option (Preface × Bytes) :=
  match Chunk.nextName? bytes with
  | some "IDAT" => some (preface, bytes)
  | some "fdAT" => if preface.frame.isSome then some (preface, bytes) else none
  | some "IEND" => none
  | some _ =>
    match h : Chunk.take? bytes with
    | some (chunk, rest) =>
      have := Chunk.length_lt_of_take? h
      (preface.add? chunk).bind fun preface => take? preface rest
    | none => none
  | none => none
termination_by bytes.length

end Preface

/-- The data in consecutive chunks of the image. The chunk behind them must at least begin. -/
def takeImageData? (bytes : Bytes) : Option Bytes :=
  match Chunk.nextName? bytes with
  | some "IDAT" =>
    match h : Chunk.take? bytes with
    | some (chunk, rest) =>
      have := Chunk.length_lt_of_take? h
      if chunk.isSound then (takeImageData? rest).map (chunk.data ++ ·) else none
    | none => none
  | some _ => some []
  | none => none
termination_by bytes.length

/-- The data in consecutive chunks of a frame, each of which begins with the next number. -/
def takeFrameData? (last : Nat) (bytes : Bytes) : Option Bytes :=
  match Chunk.nextName? bytes with
  | some "fdAT" =>
    match h : Chunk.take? bytes with
    | some (chunk, rest) =>
      have := Chunk.length_lt_of_take? h
      if 4 ≤ chunk.data.length ∧ number (chunk.data.take 4) = last + 1 then
        (takeFrameData? (last + 1) rest).map (chunk.data.drop 4 ++ ·)
      else none
    | none => none
  | some _ => some []
  | none => none
termination_by bytes.length

/-- Preface and image data of a file. -/
structure Contents where
  preface : Preface
  data : Bytes
deriving Repr, DecidableEq

/-- Preface and image data of a file, whose first chunk is the header. Data of a frame that come
before those of the image take their place. -/
def Contents.read? (file : Bytes) : Option Contents :=
  if signature.isPrefixOf file && Chunk.nextName? (file.drop 8) == some "IHDR" then do
    let (first, rest) ← Chunk.take? (file.drop 8)
    let header ← if first.isSound then Header.read? first.data else none
    let (preface, rest) ← Preface.take? { header } rest
    let data ←
      if Chunk.nextName? rest = some "IDAT" then takeImageData? rest
      else takeFrameData? (preface.frame.getD 0) rest
    some ⟨preface, data⟩
  else none

end PreviewSync.Png
