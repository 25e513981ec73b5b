import PreviewSync.Preview.Codec

/-!
# Buffers and dimensions

A buffer is checked before it is rescaled or encoded, by a count in 64 bits. A width times a height
fits into 64 bits, but the three bytes of a pixel need not: the count may wrap around, once or
twice, and then it is not the number of bytes that the dimensions ask for.

So the check is exact as long as the dimensions ask for less than `2 ^ 64` bytes. Beyond that it
lets the buffers through that are shorter by one or two turns, some of which are short enough to
exist. Rescaling counts once more and still refuses such a buffer. Encoding counts once more, too,
but relies on the check: it breaks down.

## Main Definitions

* `Image.product_lt`, `Image.fullCount_lt` — how large the counts are
* `Image.toNat_byteCount` — the count in 64 bits
* `Image.check_eq_ok_iff` — the buffers that pass
* `Codec.IsGuarded`, `Codec.isGuarded` — what becomes of a buffer that does not match
-/

namespace PreviewSync

namespace Image

/-- A width times a height fits into 64 bits. -/
theorem product_lt (image : Image) : image.width.toNat * image.height.toNat < UInt64.size := by
  have product : image.width.toNat * image.height.toNat ≤ 4294967295 * 4294967295 :=
    Nat.mul_le_mul (Nat.le_of_lt_succ image.width.toNat_lt)
      (Nat.le_of_lt_succ image.height.toNat_lt)
  unfold UInt64.size
  omega

/-- The count wraps around twice at most. So only three counts of bytes are told apart by the check
at all. -/
theorem fullCount_lt (image : Image) : image.fullCount < 3 * UInt64.size := by
  have := image.product_lt
  unfold fullCount
  omega

/-- The count in 64 bits is what is left of the count without its turns. This is where the
arithmetic of machines is turned into that of numbers. -/
theorem toNat_byteCount (image : Image) :
    image.byteCount.toNat = image.fullCount % UInt64.size := by
  have three : (3 : UInt64).toNat = 3 := rfl
  rw [byteCount, UInt64.toNat_mul, UInt64.toNat_mul, UInt32.toNat_toUInt64, UInt32.toNat_toUInt64,
    three, Nat.mod_eq_of_lt image.product_lt, fullCount, UInt64.size]

theorem check_eq_ok_iff {image : Image} :
    image.check = .ok () ↔ image.pixels.length = image.fullCount % UInt64.size := by
  rw [← toNat_byteCount, check]
  split
  · rename_i same
    exact iff_of_true rfl same
  · rename_i other
    exact iff_of_false nofun other

/-- A buffer that does not pass is reported. The report names its length and the dimensions, since
neither can be told to be the wrong one. -/
theorem check_eq_error {image : Image}
    (other : image.pixels.length ≠ image.fullCount % UInt64.size) :
    image.check = .error image.mismatch := by
  rw [← toNat_byteCount] at other
  exact if_neg other

theorem isWhole_eq_false {image : Image} (other : image.pixels.length ≠ image.fullCount) :
    image.isWhole = false :=
  beq_eq_false_iff_ne.2 other

end Image

namespace Codec

/-- What becomes of a buffer that does not match the dimensions of its image. The check is made in
64 bits, so for the largest dimensions it lets some buffers through that it should not. -/
structure IsGuarded (image : Image) : Prop where
  /-- The count is exact iff the dimensions ask for less than `2 ^ 64` bytes. -/
  counted : image.byteCount.toNat = image.fullCount ↔ image.fullCount < UInt64.size
  /-- Then exactly the buffers that match pass. -/
  exact : image.fullCount < UInt64.size →
    (image.check = .ok () ↔ image.pixels.length = image.fullCount)
  /-- In general those pass that match up to the turns of the count. -/
  passed : image.check = .ok () ↔ image.pixels.length < UInt64.size ∧
    ∃ turns < 3, image.pixels.length + turns * UInt64.size = image.fullCount
  /-- Encoding reports a buffer that does not match, or breaks down. -/
  encoded (quality : UInt8) : image.pixels.length ≠ image.fullCount →
    encodeImage image quality = .error
      (if image.pixels.length = image.fullCount % UInt64.size then .breakdown else image.mismatch)
  /-- Rescaling reports it in any case. -/
  rescaled (size : Dimensions) : size.width ≠ 0 → size.height ≠ 0 →
    image.pixels.length ≠ image.fullCount →
    rescaleImage image size = .error
      (if image.pixels.length = image.fullCount % UInt64.size then
        .invalidData ("cannot build " ++ Image.sizeText image.width image.height ++ " image")
      else image.mismatch)

variable {image : Image}

/-- A remainder of the count is the count less its turns. It says which buffers pass without
matching. -/
theorem eq_mod_iff_turns (image : Image) :
    image.pixels.length = image.fullCount % UInt64.size ↔ image.pixels.length < UInt64.size ∧
      ∃ turns < 3, image.pixels.length + turns * UInt64.size = image.fullCount := by
  have bound := image.fullCount_lt
  unfold UInt64.size at bound ⊢
  constructor
  · intro same
    exact ⟨by omega, image.fullCount / 18446744073709551616, by omega, by omega⟩
  · rintro ⟨small, turns, few, total⟩
    omega

theorem encodeImage_of_mismatch (quality : UInt8)
    (other : image.pixels.length ≠ image.fullCount) :
    encodeImage image quality = .error
      (if image.pixels.length = image.fullCount % UInt64.size then .breakdown
      else image.mismatch) := by
  unfold encodeImage
  by_cases passes : image.pixels.length = image.fullCount % UInt64.size
  · rw [if_pos passes, Image.check_eq_ok_iff.2 passes, Image.isWhole_eq_false other]
    rfl
  · rw [if_neg passes, Image.check_eq_error passes]

theorem rescaleImage_of_mismatch {size : Dimensions} (wide : size.width ≠ 0)
    (high : size.height ≠ 0) (other : image.pixels.length ≠ image.fullCount) :
    rescaleImage image size = .error
      (if image.pixels.length = image.fullCount % UInt64.size then
        .invalidData ("cannot build " ++ Image.sizeText image.width image.height ++ " image")
      else image.mismatch) := by
  unfold rescaleImage
  rw [if_neg (not_or.2 ⟨wide, high⟩)]
  by_cases passes : image.pixels.length = image.fullCount % UInt64.size
  · rw [if_pos passes, Image.check_eq_ok_iff.2 passes, Image.isWhole_eq_false other]
    rfl
  · rw [if_neg passes, Image.check_eq_error passes]

/-- A buffer that does not match the dimensions passes the check only where the count has wrapped
around. Rescaling refuses every such buffer, and encoding all but those that pass, which break it
down. -/
theorem isGuarded (image : Image) : IsGuarded image where
  counted := by
    rw [Image.toNat_byteCount]
    exact ⟨fun same => same ▸ Nat.mod_lt _ (by decide), Nat.mod_eq_of_lt⟩
  exact small := by
    rw [Image.check_eq_ok_iff, Nat.mod_eq_of_lt small]
  passed := by
    rw [Image.check_eq_ok_iff, eq_mod_iff_turns]
  encoded quality other := encodeImage_of_mismatch quality other
  rescaled _ wide high other := rescaleImage_of_mismatch wide high other

/-- Twelve bytes are no ten rows of ten pixels. -/
theorem isGuarded_of_short :
    let image : Image := ⟨10, 10, List.replicate 12 0⟩
    image.fullCount = 300 ∧ image.check ≠ .ok () ∧
      encodeImage image 40 =
        .error (.invalidData "RGB buffer of 12 bytes does not match 10x10") ∧
      rescaleImage image ⟨5, 5⟩ =
        .error (.invalidData "RGB buffer of 12 bytes does not match 10x10") := by
  intro image
  have other : image.pixels.length ≠ image.fullCount := by decide
  have refused : image.pixels.length ≠ image.fullCount % UInt64.size := by decide
  have text : image.mismatch =
      .invalidData "RGB buffer of 12 bytes does not match 10x10" := by decide +kernel
  have guarded := isGuarded image
  refine ⟨by decide, fun passes => other ((guarded.exact (by decide)).1 passes), ?_, ?_⟩
  · rw [guarded.encoded 40 other, if_neg refused, text]
  · rw [guarded.rescaled ⟨5, 5⟩ (by decide) (by decide) other, if_neg refused, text]

/-- Thirteen bytes pass for more than `2 ^ 65` bytes, and encoding them breaks down instead of
reporting them. -/
theorem not_reported_of_turns :
    let image : Image := ⟨2900561549, 4239809835, Bytes.ofText "Hello, world!"⟩
    image.fullCount = 36893488147419103245 ∧ ¬ image.fullCount < UInt64.size ∧
      image.byteCount = 13 ∧ image.pixels.length = 13 ∧ image.check = .ok () ∧
      ∀ text, encodeImage image 40 ≠ .error (.invalidData text) := by
  intro image
  have count : image.fullCount = 36893488147419103245 := by decide +kernel
  have length : image.pixels.length = 13 := by decide +kernel
  have passes : image.pixels.length = image.fullCount % UInt64.size := by decide +kernel
  refine ⟨count, by decide +kernel, by decide +kernel, length, Image.check_eq_ok_iff.2 passes, ?_⟩
  intro text reported
  rw [encodeImage_of_mismatch 40 (by rw [length, count]; decide), if_pos passes] at reported
  cases reported

end Codec

end PreviewSync
