import PreviewSync.Proofs.Preview.Dimensions
import PreviewSync.Rehearsal.Codec

/-!
# Re-encoded previews

A preview is decoded, rescaled if it is not within the limit, and encoded, in this order and each at
most once. The first call that fails is the last one. What is encoded has the dimensions of the
decoded image brought to the limit.

## Main Definitions

* `Codec.Course`, `Codec.course_reencode` — the ways a re-encoding goes
* `Codec.IsFaithful` — what a codec promises about the dimensions of its images
* `Codec.IsReencoding` — what calls and result of a re-encoding are
* `Codec.isReencoding_reencode` — previews are fitted and re-encoded
-/

namespace PreviewSync.Codec

/-- The fault of a result, if it has one. It forgets what kind of value was hoped for, so that calls
of different kinds can be compared. -/
def failure? {α : Type} : Except Fault α → Option Fault
  | .ok _ => none
  | .error fault => some fault

/-- The fault that a codec answers a call with, if it does. -/
def fault? (codec : Codec) : Call → Option Fault
  | .decode file => failure? (codec.decode file)
  | .rescale image size => failure? (codec.rescale image size)
  | .encode image quality => failure? (codec.encode image quality)

/-- The place of a call in the order of the steps. A re-encoding may leave out the second of them.
-/
def Call.place : Call → Nat
  | .decode _ => 0
  | .rescale _ _ => 1
  | .encode _ _ => 2

variable {codec : Codec} {file : Bytes} {longest : UInt32} {quality : UInt8}

/-- The ways a re-encoding goes: its calls and its result. What is said of the calls and of the
result is read off these, for any codec. -/
inductive Course (codec : Codec) (file : Bytes) (longest : UInt32) (quality : UInt8) :
    List Call × Except Fault Bytes → Prop
  | undecoded {fault : Fault} (decoding : codec.decode file = .error fault) :
      Course codec file longest quality ([.decode file], .error fault)
  | kept {image : Image} (decoding : codec.decode file = .ok image)
      (same : image.size.fit longest = image.size) :
      Course codec file longest quality
        ([.decode file, .encode image quality], codec.encode image quality)
  | unscaled {image : Image} {fault : Fault} (decoding : codec.decode file = .ok image)
      (other : image.size.fit longest ≠ image.size)
      (rescaling : codec.rescale image (image.size.fit longest) = .error fault) :
      Course codec file longest quality
        ([.decode file, .rescale image (image.size.fit longest)], .error fault)
  | scaled {image result : Image} (decoding : codec.decode file = .ok image)
      (other : image.size.fit longest ≠ image.size)
      (rescaling : codec.rescale image (image.size.fit longest) = .ok result) :
      Course codec file longest quality
        ([.decode file, .rescale image (image.size.fit longest), .encode result quality],
          codec.encode result quality)

/-- A re-encoding goes one of these ways. They differ in whether decoding and rescaling succeed, and
in whether there is anything to rescale. -/
theorem course_reencode (codec : Codec) (file : Bytes) (longest : UInt32) (quality : UInt8) :
    Course codec file longest quality (reencode codec file longest quality) := by
  unfold reencode
  split
  · rename_i fault decoding
    exact .undecoded decoding
  · rename_i image decoding
    unfold Reencoding.afterDecoding
    dsimp only
    by_cases same : image.size.fit longest = image.size
    · rw [if_pos same]
      exact .kept decoding same
    · rw [if_neg same]
      dsimp only
      split
      · rename_i fault rescaling
        exact .unscaled decoding same rescaling
      · rename_i result rescaling
        exact .scaled decoding same rescaling

/-- A codec that decodes no image without pixels, and rescales to the dimensions asked for. What the
pixels are does not matter here. -/
structure IsFaithful (codec : Codec) : Prop where
  decoded {file : Bytes} {image : Image} (made : codec.decode file = .ok image) :
    0 < image.width ∧ 0 < image.height
  rescaled {image result : Image} {size : Dimensions}
    (made : codec.rescale image size = .ok result) : result.size = size

/-- The calls of a re-encoding and its result. Calls are listed in full, since it matters which of
them are made and with what. -/
structure IsReencoding (codec : Codec) (file : Bytes) (longest : UInt32) (quality : UInt8)
    (calls : List Call) (result : Except Fault Bytes) : Prop where
  /-- The file is decoded first. -/
  first : calls.head? = some (.decode file)
  /-- No step comes twice, or before an earlier one. -/
  inOrder : calls.Pairwise fun call next => call.place < next.place
  /-- The decoded image is rescaled iff it is not within the limit. -/
  rescaled (image : Image) (size : Dimensions) :
    .rescale image size ∈ calls ↔ codec.decode file = .ok image ∧
      size = image.size.fit longest ∧ size ≠ image.size
  /-- What is encoded has the dimensions of the decoded image brought to the limit. -/
  encoded (image : Image) (used : UInt8) (member : .encode image used ∈ calls) :
    used = quality ∧ ∃ decoded, codec.decode file = .ok decoded ∧
      image.size = decoded.size.fit longest ∧ decoded.size.IsFitted longest image.size
  /-- The result is the first fault, if there is one. -/
  firstFault : calls.findSome? codec.fault? = failure? result
  /-- Nothing is called after a fault. -/
  stopped : ∀ call ∈ calls.dropLast, codec.fault? call = none
  /-- Otherwise the result is what encoding gives. -/
  made (new : Bytes) (done : result = .ok new) :
    ∃ image, .encode image quality ∈ calls ∧ codec.encode image quality = .ok new

/-- The decoded image is rescaled to its dimensions within the limit, and nothing else is. An image
that is within the limit is encoded as it was decoded. -/
theorem rescale_mem_iff {image : Image} (decoding : codec.decode file = .ok image)
    (other : image.size.fit longest ≠ image.size) {rest : List Call}
    (noMore : ∀ image size, Call.rescale image size ∉ rest) (source : Image) (size : Dimensions) :
    .rescale source size ∈ .decode file :: .rescale image (image.size.fit longest) :: rest ↔
      codec.decode file = .ok source ∧ size = source.size.fit longest ∧ size ≠ source.size := by
  constructor
  · intro member
    obtain ⟨rfl, rfl⟩ : source = image ∧ size = image.size.fit longest := by
      simpa [noMore] using member
    exact ⟨decoding, rfl, other⟩
  · rintro ⟨decoding', rfl, -⟩
    rw [decoding] at decoding'
    cases decoding'
    simp

/-- However a re-encoding by a faithful codec goes, these are its calls and its result. With a codec
that is not, the dimensions of the encoded image could be any. -/
theorem Course.isReencoding {calls : List Call} {result : Except Fault Bytes}
    (faithful : codec.IsFaithful) (course : Course codec file longest quality (calls, result)) :
    codec.IsReencoding file longest quality calls result := by
  -- The decoded image has no empty edge, so its dimensions are fitted.
  have fitted {image : Image} (decoding : codec.decode file = .ok image) :
      image.size.IsFitted longest (image.size.fit longest) :=
    Dimensions.isFitted_fit (faithful.decoded decoding).1 (faithful.decoded decoding).2 longest
  cases course with
  | undecoded decoding =>
    exact
      { first := rfl
        inOrder := by simp
        rescaled := by simp [decoding]
        encoded := by simp
        firstFault := by simp [fault?, decoding, failure?]
        stopped := by simp
        made := nofun }
  | @kept image decoding same =>
    refine
      { first := rfl
        inOrder := by simp [Call.place]
        rescaled := fun source size => ⟨by simp, ?_⟩
        encoded := ?_
        firstFault := by simp [fault?, decoding, failure?]
        stopped := by simp [fault?, decoding, failure?]
        made := fun new done => ⟨image, by simp, done⟩ }
    · rintro ⟨decoding', rfl, other⟩
      rw [decoding] at decoding'
      cases decoding'
      exact absurd same other
    · intro source used member
      obtain ⟨rfl, rfl⟩ : source = image ∧ used = quality := by simpa using member
      have whole := fitted decoding
      rw [same] at whole
      exact ⟨rfl, source, decoding, same.symm, whole⟩
  | @unscaled image fault decoding other rescaling =>
    exact
      { first := rfl
        inOrder := by simp [Call.place]
        rescaled := rescale_mem_iff decoding other (by simp)
        encoded := by simp
        firstFault := by simp [fault?, decoding, rescaling, failure?]
        stopped := by simp [fault?, decoding, failure?]
        made := nofun }
  | @scaled image result decoding other rescaling =>
    refine
      { first := rfl
        inOrder := by simp [Call.place]
        rescaled := rescale_mem_iff decoding other (by simp)
        encoded := ?_
        firstFault := by simp [fault?, decoding, rescaling, failure?]
        stopped := by simp [fault?, decoding, rescaling, failure?]
        made := fun new done => ⟨result, by simp, done⟩ }
    intro source used member
    obtain ⟨rfl, rfl⟩ : source = result ∧ used = quality := by simpa using member
    have asked := faithful.rescaled rescaling
    have whole := fitted decoding
    rw [← asked] at whole
    exact ⟨rfl, image, decoding, asked, whole⟩

/-- Dimensions without a zero are brought to a limit: nothing grows or vanishes, and the ratio of
the edges is kept up to the rounding. A re-encoding by a faithful codec encodes an image of exactly
these dimensions, rescales iff they are not those of the decoded image, and gives back the first
fault of its steps. -/
theorem isReencoding_reencode :
    (∀ (size : Dimensions) (longest : UInt32), 0 < size.width → 0 < size.height →
        size.IsFitted longest (size.fit longest)) ∧
      ∀ (codec : Codec), codec.IsFaithful → ∀ file longest quality,
        codec.IsReencoding file longest quality (reencode codec file longest quality).1
          (reencode codec file longest quality).2 :=
  ⟨fun _ longest wide high => Dimensions.isFitted_fit wide high longest,
    fun codec faithful file longest quality =>
      (course_reencode codec file longest quality).isReencoding faithful⟩

/-- Dimensions that are nearly the largest there are. -/
def largeSize : Dimensions :=
  ⟨4294967295, 4294967294⟩

/-- With one pixel of the width goes one of the height, and the image is rescaled to what is left.
-/
theorem isReencoding_reencode_of_largest :
    let codec := Rehearsal.scriptedCodec largeSize none none none
    largeSize.fit 4294967294 = ⟨4294967294, 4294967293⟩ ∧
      (4294967293 : ℤ) = max 1 (round ((4294967294 * 4294967294 : ℕ) / ((4294967295 : ℕ) : ℚ))) ∧
      Call.rescale ⟨4294967295, 4294967294, [1]⟩ ⟨4294967294, 4294967293⟩ ∈
        (reencode codec [] 4294967294 40).1 := by
  intro codec
  have fitted : largeSize.fit 4294967294 = ⟨4294967294, 4294967293⟩ := by decide +kernel
  have faithful : codec.IsFaithful := by
    constructor
    · intro file image made
      cases made
      decide
    · intro image result size made
      cases made
      rfl
  have scaled := (isReencoding_reencode.1 largeSize 4294967294 (by decide) (by decide)).wide
    (by decide) (by decide) (by decide)
  have rescaled := (isReencoding_reencode.2 codec faithful [] 4294967294 40).rescaled
    ⟨4294967295, 4294967294, [1]⟩ ⟨4294967294, 4294967293⟩
  rw [fitted] at scaled
  exact ⟨fitted, scaled.2.rounded, rescaled.2 ⟨rfl, fitted.symm, by decide⟩⟩

end PreviewSync.Codec
