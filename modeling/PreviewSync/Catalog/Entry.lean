/-!
# Catalog entries

A catalog lists photos by key. Each has a file of previews in several sizes.

## Main Definitions

* `PreviewLevel` — one of the sizes
* `CatalogEntry` — a photo with its previews
* `PreviewLevel.closest?` — the size to upload
* `objectKey` — the object key of a photo's preview
-/

namespace PreviewSync

/-- One of the sizes in a preview file, with the length of its longer edge in pixels. -/
structure PreviewLevel where
  index : UInt32
  longestEdge : UInt32
deriving Repr, DecidableEq

namespace PreviewLevel

/-- The first level with the shortest edge. Of levels with the same edge the first is taken here and
the last by `longest?`, and both decide which picture is sent. -/
def shortest? : List PreviewLevel → Option PreviewLevel
  | [] => none
  | level :: rest =>
    match shortest? rest with
    | some best => if best.longestEdge < level.longestEdge then some best else some level
    | none => some level

/-- The last level with the longest edge. -/
def longest? : List PreviewLevel → Option PreviewLevel
  | [] => none
  | level :: rest =>
    match longest? rest with
    | some best => if best.longestEdge < level.longestEdge then some level else some best
    | none => some level

/-- The level to use for a target length: the first of the shortest that are long enough, or else
the last of the longest. A preview is made smaller where possible and never larger, and there is a
level unless there are none at all. -/
def closest? (levels : List PreviewLevel) (target : UInt32) : Option PreviewLevel :=
  match shortest? (levels.filter fun level => target ≤ level.longestEdge) with
  | some level => some level
  | none => longest? levels

end PreviewLevel

/-- A photo with its previews. The list of levels may be empty; then there is nothing to upload for
the photo. -/
structure CatalogEntry where
  key : String
  previewPath : String
  levels : List PreviewLevel
deriving Repr, DecidableEq

/-- The object key of a photo's preview. The key of the photo stands in it as it is, slashes and
dots included. -/
def objectKey (key : String) : String :=
  key ++ ".jpg"

end PreviewSync
