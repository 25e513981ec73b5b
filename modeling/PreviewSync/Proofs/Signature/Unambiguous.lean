import PreviewSync.Proofs.Signature.Token
import PreviewSync.Proofs.Wire.Resource

/-!
# What a string to sign stands for

The parts of a request are joined by line breaks, and the type of a body may have line breaks of its
own. The other parts have none, so a string to sign is parted from both ends: verb and digest are
found at its front, resource and date at its back, and what is left is the type. The resource is
parted at the first slash behind the bucket, and percent-encoding loses nothing.

## Main Definitions

* `Text.part_front`, `Text.part_back` — a text is parted at its first or at its last separator
* `Base64.isSign_of_mem_decodable` — the characters of a text that can be read
* `Signature.Input.IsTidy` — dates without line breaks, buckets without line breaks and slashes
* `Signature.resource_eq_iff` — which resources are the same
* `Signature.stringToSign_eq_iff` — which strings to sign are the same
-/

namespace PreviewSync

namespace Text

variable {α : Type} {separator : α} {x₁ x₂ y₁ y₂ : List α}

/-- A text is parted at its first separator. -/
theorem part_front (h : x₁ ++ separator :: y₁ = x₂ ++ separator :: y₂) (solid₁ : separator ∉ x₁)
    (solid₂ : separator ∉ x₂) : x₁ = x₂ ∧ y₁ = y₂ := by
  induction x₁ generalizing x₂ with
  | nil =>
    cases x₂ with
    | nil =>
      cases h
      exact ⟨rfl, rfl⟩
    | cons c rest =>
      cases h
      exact absurd List.mem_cons_self solid₂
  | cons c rest ih =>
    cases x₂ with
    | nil =>
      cases h
      exact absurd List.mem_cons_self solid₁
    | cons d others =>
      rw [List.cons_append, List.cons_append, List.cons.injEq] at h
      rw [List.mem_cons, not_or] at solid₁ solid₂
      obtain ⟨rfl, same⟩ := ih h.2 solid₁.2 solid₂.2
      exact ⟨by rw [h.1], same⟩

/-- A text is parted at its last separator. -/
theorem part_back (h : x₁ ++ separator :: y₁ = x₂ ++ separator :: y₂) (solid₁ : separator ∉ y₁)
    (solid₂ : separator ∉ y₂) : x₁ = x₂ ∧ y₁ = y₂ := by
  have reversed := congrArg List.reverse h
  simp only [List.reverse_append, List.reverse_cons, List.append_assoc, List.singleton_append]
    at reversed
  obtain ⟨back, front⟩ := part_front reversed (by rwa [List.mem_reverse])
    (by rwa [List.mem_reverse])
  exact ⟨List.reverse_injective front, List.reverse_injective back⟩

end Text

namespace Base64

/-- A text that can be read has no other characters than a written form. -/
theorem isSign_of_mem_decodable {cs : List Char} {bytes : Bytes}
    (h : decodeChars? cs = some bytes) : ∀ c ∈ cs, isSign c = true := by
  rw [← encodeChars_of_decodeChars? h]
  exact isSign_of_mem_encodeChars bytes

end Base64

namespace Signature

/-- A digest that is accepted has no line break. So it cannot be mistaken for the end of its line.
-/
theorem newline_notMem_of_checkContentMd5 {value : Option String}
    (h : checkContentMd5 value = .ok ()) : '\n' ∉ (value.getD "").toList := by
  intro member
  cases value with
  | none => cases member
  | some text =>
    rw [checkContentMd5, isContentMd5] at h
    cases read : Base64.decode? text with
    | none =>
      rw [read] at h
      cases h
    | some bytes => exact absurd (Base64.isSign_of_mem_decodable read _ member) (by decide)

/-- The word for a verb has no line break, and verbs have different words. -/
theorem newline_notMem_name (verb : Verb) : '\n' ∉ verb.name.toList := by
  cases verb <;> decide

theorem name_injective {v w : Verb} (h : v.name = w.name) : v = w := by
  revert h
  cases v <;> cases w <;> decide

/-- The characters of a resource: a slash, the bucket, a slash, and the encoded path without slashes
in front. -/
theorem toList_resource (bucket path : String) :
    (resource bucket path).toList = '/' :: (bucket.toList ++
      '/' :: (ObjectPath.encode (Text.trimStart Text.isSlash path)).toList) := by
  rw [Wire.resource_eq]
  simp [String.toList_append]

/-- A resource has no line break unless its bucket has one. Paths are encoded, and buckets are not.
-/
theorem newline_notMem_resource {bucket path : String} (solid : '\n' ∉ bucket.toList) :
    '\n' ∉ (resource bucket path).toList := by
  rw [toList_resource, List.mem_cons, List.mem_append, List.mem_cons]
  rintro (slash | inBucket | slash | inPath)
  · exact absurd slash (by decide)
  · exact solid inBucket
  · exact absurd slash (by decide)
  · exact absurd (ObjectPath.lt_of_isPathChar (ObjectPath.isPathChar_of_mem_encode inPath))
      (by decide)

/-- Resources are the same iff the buckets are, and the paths without slashes in front. Without the
condition on buckets, a slash could belong to either part. -/
theorem resource_eq_iff {bucket₁ bucket₂ path₁ path₂ : String} (solid₁ : '/' ∉ bucket₁.toList)
    (solid₂ : '/' ∉ bucket₂.toList) :
    resource bucket₁ path₁ = resource bucket₂ path₂ ↔
      bucket₁ = bucket₂ ∧
        Text.trimStart Text.isSlash path₁ = Text.trimStart Text.isSlash path₂ := by
  constructor
  · intro same
    have chars := congrArg String.toList same
    rw [toList_resource, toList_resource, List.cons_inj_right] at chars
    obtain ⟨bucket, path⟩ := Text.part_front chars solid₁ solid₂
    exact ⟨String.toList_injective bucket,
      ObjectPath.encode_injective (String.toList_injective path)⟩
  · rintro ⟨rfl, path⟩
    rw [Wire.resource_eq, Wire.resource_eq, path]

/-- The date has no line break, and the bucket has neither a line break nor a slash. Nothing is
asked of the type, which may hold line breaks: the lines in front of it and behind it hold none, so
it is what is left between them. -/
structure Input.IsTidy (input : Input) : Prop where
  date : '\n' ∉ input.date.toList
  bucket : '\n' ∉ input.bucket.toList
  segment : '/' ∉ input.bucket.toList

theorem toList_stringToSign (input : Input) :
    (stringToSign input).toList =
      input.verb.name.toList ++ '\n' :: ((input.contentMd5.getD "").toList ++
        '\n' :: ((input.contentType.getD "").toList ++
          '\n' :: (input.date.toList ++
            '\n' :: (resource input.bucket input.path).toList))) := by
  simp [stringToSign, String.toList_append]

variable {a b : Input} {p q : AccessProfile} {s t : String}

/-- A string to sign stands for one request only, whatever the type of its body and its path. Two
requests that are signed have the same string to sign iff they agree in the verb, the digest, the
type, the date, the bucket and the path without slashes in front, where an absent digest or type
counts as an empty one. -/
theorem stringToSign_eq_iff (signed : sign a p = .ok s) (signed' : sign b q = .ok t)
    (tidy : a.IsTidy) (tidy' : b.IsTidy) :
    stringToSign a = stringToSign b ↔
      a.verb = b.verb ∧ a.contentMd5.getD "" = b.contentMd5.getD "" ∧
        a.contentType.getD "" = b.contentType.getD "" ∧ a.date = b.date ∧ a.bucket = b.bucket ∧
          Text.trimStart Text.isSlash a.path = Text.trimStart Text.isSlash b.path := by
  obtain ⟨-, digest, -⟩ := sign_eq_ok.1 signed
  obtain ⟨-, digest', -⟩ := sign_eq_ok.1 signed'
  constructor
  · intro same
    have chars := congrArg String.toList same
    rw [toList_stringToSign, toList_stringToSign] at chars
    -- From the front: verb and digest.
    obtain ⟨verb, chars⟩ := Text.part_front chars (newline_notMem_name _) (newline_notMem_name _)
    obtain ⟨md5, chars⟩ := Text.part_front chars (newline_notMem_of_checkContentMd5 digest)
      (newline_notMem_of_checkContentMd5 digest')
    -- From the back: resource and date. Only the type is left.
    have regroup : ∀ x y z : List Char,
        x ++ '\n' :: (y ++ '\n' :: z) = (x ++ '\n' :: y) ++ '\n' :: z := by
      intro x y z
      rw [List.append_assoc, List.cons_append]
    rw [regroup, regroup] at chars
    obtain ⟨chars, place⟩ := Text.part_back chars (newline_notMem_resource tidy.bucket)
      (newline_notMem_resource tidy'.bucket)
    obtain ⟨type, date⟩ := Text.part_back chars tidy.date tidy'.date
    obtain ⟨bucket, path⟩ := (resource_eq_iff tidy.segment tidy'.segment).1
      (String.toList_injective place)
    exact ⟨name_injective (String.toList_injective verb), String.toList_injective md5,
      String.toList_injective type, String.toList_injective date, bucket, path⟩
  · rintro ⟨verb, md5, type, date, bucket, path⟩
    rw [stringToSign, stringToSign, verb, md5, type, date,
      (resource_eq_iff tidy.segment tidy'.segment).2 ⟨bucket, path⟩]

/-- A request that writes an object; its type has a line break that looks like the end of a date. -/
def writing (path : String) : Input :=
  ⟨.put, some "1B2M2Y8AsgTpgAmY7PhCfg==", some "image/jpeg\nTue, 27 Mar 2007 19:36:42 GMT",
    "Tue, 27 Mar 2007 21:15:45 GMT", "photos", path⟩

/-- Two requests that differ in the slashes in front of their paths have the same string to sign,
and they agree in everything else. -/
theorem stringToSign_eq_iff_of_slashes :
    (stringToSign (writing "lr/a b.jpg") = stringToSign (writing "//lr/a b.jpg")) ∧
      writing "lr/a b.jpg" ≠ writing "//lr/a b.jpg" ∧
        Text.trimStart Text.isSlash "lr/a b.jpg" = Text.trimStart Text.isSlash "//lr/a b.jpg" := by
  have signed : ∀ path, ∃ s, sign (writing path) ⟨"AKID", "SECRET"⟩ = .ok s := by
    intro path
    refine ⟨_, sign_eq_ok.2 ⟨rfl, ?_, rfl⟩⟩
    dsimp only [writing]
    decide +kernel
  have tidy : ∀ path, (writing path).IsTidy := by
    intro path
    constructor <;> dsimp only [writing] <;> decide
  have same : stringToSign (writing "lr/a b.jpg") = stringToSign (writing "//lr/a b.jpg") := by
    decide +kernel
  obtain ⟨s, first⟩ := signed "lr/a b.jpg"
  obtain ⟨t, second⟩ := signed "//lr/a b.jpg"
  have agree := (stringToSign_eq_iff first second (tidy _) (tidy _)).1 same
  exact ⟨same, by decide +kernel, agree.2.2.2.2.2⟩

end Signature

end PreviewSync
