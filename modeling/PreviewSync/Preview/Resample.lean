import PreviewSync.Preview.Image

/-!
# Resampling

Images are brought to other dimensions by weighted means, first along columns and then along rows.
The weight of a sample falls linearly with its distance from the point that is asked for and
vanishes at one sample's width, or at one result's width where that is larger.

## Main Definitions

* `Resample.weight` — the weight of a sample
* `Resample.window` — the samples with a weight
* `Resample.image` — the image with other dimensions

## Design Notes

All weights of one point have a common denominator, which drops out of the mean. So weights are
natural numbers, means are quotients of natural numbers, and rounding happens once, at the end.
-/

namespace PreviewSync.Resample

/-- The weight of sample `i` of `n` for result `o` of `m`, times twice the larger of `n` and `m`.
Sample and result are taken at their middles, so an image is not shifted by a change of its size. -/
def weight (n m o i : Nat) : Nat :=
  let sampleAt : Int := (2 * i + 1) * m
  let resultAt : Int := (2 * o + 1) * n
  2 * max n m - (sampleAt - resultAt).natAbs

/-- The samples that have a weight for a result, with it. -/
def window (n m o : Nat) : List (Nat × Nat) :=
  let reach := 2 * max n m
  let middle := (2 * o + 1) * n
  let first := (middle - reach) / (2 * m)
  let last := min n ((middle + reach) / (2 * m) + 1)
  ((List.range (last - first)).map (· + first)).filterMap fun i =>
    let w := weight n m o i
    if w = 0 then none else some (i, w)

/-- A quotient rounded to the nearest number, a half upwards. -/
def roundQuotient (numerator denominator : Nat) : Nat :=
  (2 * numerator + denominator) / (2 * denominator)

/-- The weighted sum of samples. -/
def sum (samples : Nat → Nat) (weights : List (Nat × Nat)) : Nat :=
  weights.foldl (fun s (i, w) => s + w * samples i) 0

/-- The sum of weights. -/
def total (weights : List (Nat × Nat)) : Nat :=
  weights.foldl (fun s (_, w) => s + w) 0

/-- Sums along columns: the result has the rows asked for and still all columns. `stride` is the
number of samples of a row. -/
def columns (samples : Array UInt8) (stride height toHeight : Nat) : Array Nat :=
  ((List.range toHeight).flatMap fun y =>
    let weights := window height toHeight y
    (List.range stride).map fun x =>
      sum (fun i => (samples.getD (i * stride + x) 0).toNat) weights).toArray

/-- The pixels of an image brought to other dimensions. -/
def pixels (samples : Array UInt8) (width height toWidth toHeight : Nat) : Bytes :=
  let stride := 3 * width
  let sums := columns samples stride height toHeight
  let across := (List.range toWidth).map fun x => window width toWidth x
  (List.range toHeight).flatMap fun y =>
    let down := total (window height toHeight y)
    across.flatMap fun weights =>
      let all := down * total weights
      (List.range 3).map fun c =>
        UInt8.ofNat
          (roundQuotient (sum (fun i => sums.getD (y * stride + 3 * i + c) 0) weights) all)

/-- An image brought to other dimensions, which must not be zero. An image without pixels becomes
black. -/
def image (source : Image) (width height : UInt32) : Image :=
  if source.width = width ∧ source.height = height then source
  else if source.width = 0 ∨ source.height = 0 then
    ⟨width, height, List.replicate (width.toNat * height.toNat * 3) 0⟩
  else
    ⟨width, height,
      pixels source.pixels.toArray source.width.toNat source.height.toNat width.toNat height.toNat⟩

end PreviewSync.Resample
