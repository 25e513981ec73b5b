import PreviewSync.Proofs.Signature.Token

/-!
# Checking a token right after its issue

A token is put together with one colon and parted at its first one. So a check finds the profile's
own key id in a token that was issued for it iff that id has no colon. An id with a colon is cut at
the first one, and the check takes what stands before it for the id of somebody else.

## Main Definitions

* `Signature.parts?_token_of_colon` — where a token is parted if its key id has a colon
* `Signature.verify_of_sign` — what a check says about a token that was just issued
-/

namespace PreviewSync.Signature

variable {input : Input} {profile : AccessProfile} {keyId signature : String}
  {before behind : List Char}

/-- A key id with a colon is cut at its first one. What follows is taken as a part of the signature.
-/
theorem parts?_token_of_colon (split : keyId.toList = before ++ ':' :: behind)
    (solid : ':' ∉ before) :
    parts? (token keyId signature) =
      if before = [] then none
      else some (String.ofList before, String.ofList (behind ++ ':' :: signature.toList)) := by
  have whole : (token keyId signature).toList =
      'A' :: 'W' :: 'S' :: ' ' :: (before ++ ':' :: (behind ++ ':' :: signature.toList)) := by
    rw [toList_token, split, List.append_assoc, List.cons_append]
  rw [parts?_eq whole solid]
  cases before <;> simp

/-- A token for a key id with a colon is refused, as malformed or as one for another key. It is
refused for the very key that it was issued for. -/
theorem verify_token_of_colon (split : profile.keyId.toList = before ++ ':' :: behind)
    (solid : ':' ∉ before) :
    verify (token profile.keyId signature) input profile =
      .error (if before = [] then .invalidAuthorization
        else .keyMismatch (String.ofList before)) := by
  rw [verify, parts?_token_of_colon split solid]
  by_cases empty : before = []
  · rw [if_pos empty, if_pos empty]
  · rw [if_neg empty, if_neg empty]
    dsimp only
    -- What was cut off is shorter than the id.
    have shorter : String.ofList before ≠ profile.keyId := by
      intro same
      have length := congrArg (fun text => text.toList.length) same
      simp [split] at length
    rw [if_pos shorter]

/-- The check of a token that was issued for the same request and profile: it is accepted iff the
key id has no colon; otherwise it counts as malformed or as a token for another key. -/
theorem verify_of_sign {authorization : String}
    (signed : sign input profile = .ok authorization) :
    (verify authorization input profile = .ok () ↔ ':' ∉ profile.keyId.toList) ∧
      ∀ before behind, profile.keyId.toList = before ++ ':' :: behind → ':' ∉ before →
        verify authorization input profile =
          .error (if before = [] then .invalidAuthorization
            else .keyMismatch (String.ofList before)) := by
  obtain ⟨identity, digest, rfl⟩ := sign_eq_ok.1 signed
  refine ⟨⟨?_, ?_⟩, ?_⟩
  · intro accepted member
    obtain ⟨before, behind, split, solid⟩ := List.eq_append_cons_of_mem member
    rw [verify_token_of_colon split solid] at accepted
    cases accepted
  · intro solid
    exact (verify_token solid (checkIdentity_eq_ok.1 identity).1).2 ⟨identity, digest, rfl⟩
  · intro before behind split solid
    exact verify_token_of_colon split solid

/-- A request for reading an object. -/
def reading : Input :=
  ⟨.get, none, none, "Tue, 27 Mar 2007 19:36:42 GMT", "photos", "lr/a.jpg"⟩

/-- A token is issued for any complete profile. -/
theorem sign_reading (profile : AccessProfile)
    (identity : checkIdentity profile "photos" = .ok ()) :
    sign reading profile =
      .ok (token profile.keyId (signatureOf profile.secret (stringToSign reading))) :=
  sign_eq_ok.2 ⟨identity, rfl, rfl⟩

/-- With a plain key id the token of a request is accepted for it. -/
theorem verify_of_sign_of_plain :
    ∃ authorization, sign reading ⟨"AKID", "SECRET"⟩ = .ok authorization ∧
      verify authorization reading ⟨"AKID", "SECRET"⟩ = .ok () := by
  have signed := sign_reading ⟨"AKID", "SECRET"⟩ rfl
  exact ⟨_, signed, (verify_of_sign signed).1.2 (by decide)⟩

/-- With a colon in the key id a token is issued, and then refused for the request and the profile
that it was issued for. -/
theorem not_verify_of_colon :
    ∃ authorization, sign reading ⟨"A:B", "SECRET"⟩ = .ok authorization ∧
      verify authorization reading ⟨"A:B", "SECRET"⟩ = .error (.keyMismatch "A") := by
  have signed := sign_reading ⟨"A:B", "SECRET"⟩ rfl
  have split : "A:B".toList = ['A'] ++ ':' :: ['B'] := rfl
  refine ⟨_, signed, ?_⟩
  rw [verify_token_of_colon split (by decide)]
  rfl

end PreviewSync.Signature
