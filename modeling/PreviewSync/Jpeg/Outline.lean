import PreviewSync.Bytes

/-!
# Outlines of JPEG files

What the segments in front of the blocks say.

## Main Definitions

* `Jpeg.Outline` — dimensions, sampling and quantisation tables of a file
* `Jpeg.Outline.read` — the outline of a file
-/

namespace PreviewSync.Jpeg

/-- Width, height and the sampling of each component. -/
structure Frame where
  width : Nat
  height : Nat
  sampling : List Nat
deriving Repr, DecidableEq

/-- What is found in a file: its first and last markers, its frame and its quantisation tables. It
is enough to tell the dimensions and the quality that a file was made with. -/
structure Outline where
  opened : Bool
  closed : Bool
  frame : Option Frame
  tables : List Bytes
deriving Repr, DecidableEq

/-- Every third byte, beginning with the second one: the samplings in a list of components. -/
def samplings : Bytes → List Nat
  | _ :: sampling :: _ :: rest => sampling.toNat :: samplings rest
  | _ => []

/-- The frame that a segment states. -/
def Frame.read? : Bytes → Option Frame
  | _ :: h₁ :: h₂ :: w₁ :: w₂ :: _ :: components =>
    some ⟨256 * w₁.toNat + w₂.toNat, 256 * h₁.toNat + h₂.toNat, samplings components⟩
  | _ => none

/-- Goes through the segments up to the one that is followed by blocks. -/
def Outline.readSegments : Nat → Outline → Bytes → Outline
  | steps + 1, outline, 0xff :: marker :: l₁ :: l₂ :: rest =>
    let length := 256 * l₁.toNat + l₂.toNat - 2
    let content := rest.take length
    if marker = 0xda then outline
    else
      let outline :=
        if marker = 0xdb then { outline with tables := outline.tables ++ [content] }
        else if marker = 0xc0 then { outline with frame := Frame.read? content }
        else outline
      readSegments steps outline (rest.drop length)
  | _, outline, _ => outline

/-- The outline of a file. -/
def Outline.read (file : Bytes) : Outline :=
  let outline : Outline :=
    { opened := [0xff, 0xd8].isPrefixOf file
      closed := [0xd9, 0xff].isPrefixOf file.reverse
      frame := none
      tables := [] }
  outline.readSegments file.length (file.drop 2)

end PreviewSync.Jpeg
