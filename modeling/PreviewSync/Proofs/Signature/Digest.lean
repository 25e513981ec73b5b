import PreviewSync.Proofs.Signature.Token

/-!
# Digests that are signed

The digest of a body is signed as the header writes it, so it is checked before: it must be the
written form of sixteen bytes. Whatever can be read is written in one way only, so a digest has one
spelling that is accepted. A digest that is not written at all, such as its bare bytes, is refused.

## Main Definitions

* `Signature.IsDigestForm` — the form of a written digest, sign by sign
* `Signature.isContentMd5_iff`, `isDigestForm_iff` — the values that pass the check
* `Signature.sign_iff_of_contentMd5` — when a request with a digest is signed
-/

namespace PreviewSync.Signature

variable {input : Input} {profile : AccessProfile} {value : String}

/-- The form of a written digest: twenty-one digits, one more of which four bits are left over and
zero, and two padding signs. Sixteen bytes are one more than a multiple of three, which is where the
last digit comes from. -/
def IsDigestForm (value : String) : Prop :=
  ∃ digits last, value.toList = digits ++ [last, '=', '='] ∧ digits.length = 21 ∧
    (∀ c ∈ digits, Base64.isDigit c = true) ∧ last ∈ ['A', 'Q', 'g', 'w']

/-- A value passes iff it is the written form of sixteen bytes. -/
theorem isContentMd5_iff :
    isContentMd5 value = true ↔
      ∃ digest : Bytes, digest.length = 16 ∧ Base64.encode digest = value := by
  unfold isContentMd5
  constructor
  · intro passes
    split at passes
    · rename_i digest read
      exact ⟨digest, beq_iff_eq.1 passes, Base64.decode?_eq_some_iff.1 read⟩
    · cases passes
  · rintro ⟨digest, length, rfl⟩
    rw [Base64.decode?_encode]
    exact beq_iff_eq.2 length

/-- The written forms of sixteen bytes, sign by sign. -/
theorem isDigestForm_iff :
    IsDigestForm value ↔ ∃ digest : Bytes, digest.length = 16 ∧ Base64.encode digest = value := by
  have written : ∀ digest : Bytes,
      Base64.encode digest = value ↔ Base64.encodeChars digest = value.toList := by
    intro digest
    rw [Base64.encode, ← String.toList_inj, String.toList_ofList]
  have form : ∀ digits last, Base64.IsOneOver 5 digits last ↔ digits.length = 21 ∧
      (∀ c ∈ digits, Base64.isDigit c = true) ∧ last ∈ ['A', 'Q', 'g', 'w'] := by
    intro digits last
    constructor
    · intro h
      exact ⟨h.length, h.digits, h.last⟩
    · rintro ⟨length, all, unused⟩
      exact ⟨length, all, unused⟩
  simp only [written, IsDigestForm, ← form]
  exact Base64.exists_encodeChars_iff.symm

/-- A request with a digest is signed, or refused for the digest, when the identity is complete. -/
theorem sign_of_contentMd5 (given : input.contentMd5 = some value)
    (identity : checkIdentity profile input.bucket = .ok ()) :
    sign input profile =
      if isContentMd5 value then
        .ok (token profile.keyId (signatureOf profile.secret (stringToSign input)))
      else .error (.invalidContentMd5 value) := by
  rw [sign, identity, given, checkContentMd5]
  split <;> rfl

/-- With complete credentials and a bucket, a request with a digest is signed iff the value is the
written form of sixteen bytes. Such a value has a definite form, it is read as these bytes and
written again as it was, and it is the only one that is read as they are. Otherwise no token is
issued, and the fault tells the value. -/
theorem sign_iff_of_contentMd5 (given : input.contentMd5 = some value)
    (named : profile.keyId ≠ "") (secret : profile.secret ≠ "") (bucket : input.bucket ≠ "") :
    ((∃ authorization, sign input profile = .ok authorization) ↔
        ∃ digest : Bytes, digest.length = 16 ∧ Base64.encode digest = value) ∧
      ((∃ authorization, sign input profile = .ok authorization) ↔ IsDigestForm value) ∧
      (∀ authorization, sign input profile = .ok authorization →
        ∃ digest, Base64.decode? value = some digest ∧ digest.length = 16 ∧
          Base64.encode digest = value ∧
            ∀ other, Base64.decode? other = some digest → other = value) ∧
      ((∀ authorization, sign input profile ≠ .ok authorization) →
        sign input profile = .error (.invalidContentMd5 value)) := by
  have decided := sign_of_contentMd5 given (checkIdentity_eq_ok.2 ⟨named, secret, bucket⟩)
  have signed : (∃ authorization, sign input profile = .ok authorization) ↔
      ∃ digest : Bytes, digest.length = 16 ∧ Base64.encode digest = value := by
    rw [decided, ← isContentMd5_iff]
    split
    · rename_i passes
      exact iff_of_true ⟨_, rfl⟩ passes
    · rename_i fails
      exact iff_of_false nofun fails
  refine ⟨signed, signed.trans isDigestForm_iff.symm, ?_, ?_⟩
  · intro authorization issued
    obtain ⟨digest, length, rfl⟩ := signed.1 ⟨authorization, issued⟩
    refine ⟨digest, Base64.decode?_encode digest, length, rfl, fun other read => ?_⟩
    exact (Base64.decode?_eq_some_iff.1 read).symm
  · intro refused
    rw [decided] at refused ⊢
    split
    · rename_i passes
      rw [if_pos passes] at refused
      exact absurd rfl (refused _)
    · rfl

/-- The digest of an empty body is signed. The same spelling with a bit set that is left over is
refused. -/
theorem sign_iff_of_contentMd5_of_empty :
    let input (digest : String) : Input :=
      ⟨.put, some digest, some "image/jpeg", "Tue, 27 Mar 2007 19:36:42 GMT", "photos", "a.jpg"⟩
    let profile : AccessProfile := ⟨"AKID", "SECRET"⟩
    (∃ authorization, sign (input "1B2M2Y8AsgTpgAmY7PhCfg==") profile = .ok authorization) ∧
      sign (input "1B2M2Y8AsgTpgAmY7PhCfh==") profile =
        .error (.invalidContentMd5 "1B2M2Y8AsgTpgAmY7PhCfh==") := by
  intro input profile
  have decided (digest : String) := @sign_iff_of_contentMd5 (input digest) profile digest rfl
    (by decide) (by decide) (show "photos" ≠ "" by decide)
  obtain ⟨signed, -, -, -⟩ := decided "1B2M2Y8AsgTpgAmY7PhCfg=="
  obtain ⟨other, -, -, refused⟩ := decided "1B2M2Y8AsgTpgAmY7PhCfh=="
  refine ⟨signed.2 (isContentMd5_iff.1 (by decide +kernel)), refused fun authorization issued => ?_⟩
  have passes := isContentMd5_iff.2 (other.1 ⟨authorization, issued⟩)
  exact absurd passes (by decide +kernel)

end PreviewSync.Signature
