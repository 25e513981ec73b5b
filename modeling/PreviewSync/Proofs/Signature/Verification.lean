import PreviewSync.Proofs.Signature.RoundTrip

/-!
# What a check says about any text

A text is read as a token in one way only: the first colon parts it, and both parts must be there.
The key id is looked at before anything else. For the profile's own key the check issues the token
anew, so it fails where the issue does, and it accepts no other text than the token that is issued.

## Main Definitions

* `Signature.IsToken` — a text is written as a token
* `Signature.parts?_eq_some_iff` — it is read as it is written
* `Signature.verify_of_isToken` — the check of a text that is written as a token
* `Signature.verify_cases` — the check of any text
-/

namespace PreviewSync.Signature

/-- A text is written as a token: `AWS`, a blank, a key id without colons, a colon and a signature.
Key id and signature are not empty. With a colon in the key id there would be several ways to part
it. -/
structure IsToken (authorization keyId signature : String) : Prop where
  written : authorization = "AWS " ++ keyId ++ ":" ++ signature
  named : keyId ≠ ""
  signed : signature ≠ ""
  solid : ':' ∉ keyId.toList

variable {authorization keyId signature : String} {input : Input} {profile : AccessProfile}

/-- What stands behind the part without colons begins with a colon. -/
theorem eq_append_colon {chars behind : List Char} {first : Char}
    (dropped : chars.dropWhile (· != ':') = first :: behind) :
    chars = chars.takeWhile (· != ':') ++ ':' :: behind := by
  have stopped := List.head?_dropWhile_not (· != ':') chars
  rw [dropped] at stopped
  have colon : first = ':' := by simpa using stopped
  subst colon
  rw [← dropped, List.takeWhile_append_dropWhile]

/-- The part in front of the first colon has none. -/
theorem colon_not_mem_takeWhile (chars : List Char) : ':' ∉ chars.takeWhile (· != ':') := by
  intro member
  have all := List.all_eq_true.1 (List.all_takeWhile (p := (· != ':')) (l := chars)) _ member
  cases all

/-- What is read as a token is written as one. It is the first colon that parts it, even if there
are others. -/
theorem isToken_of_parts? (parted : parts? authorization = some (keyId, signature)) :
    IsToken authorization keyId signature := by
  unfold parts? at parted
  split at parted
  · rename_i rest chars
    dsimp only at parted
    have solid := colon_not_mem_takeWhile rest
    split at parted
    · rename_i first behind dropped
      have whole := eq_append_colon dropped
      generalize rest.takeWhile (· != ':') = before at parted solid whole
      split at parted
      · cases parted
      · rename_i both
        cases parted
        rw [Bool.or_eq_true, not_or, List.isEmpty_iff, List.isEmpty_iff] at both
        have written : authorization = token (String.ofList before) (String.ofList behind) := by
          apply String.toList_injective
          rw [chars, whole, toList_token, String.toList_ofList, String.toList_ofList]
        refine ⟨written, ?_, ?_, ?_⟩
        · simpa using both.1
        · simpa using both.2
        · rwa [String.toList_ofList]
    · cases parted
  · cases parted

/-- A text is read as a token iff it is written as one. -/
theorem parts?_eq_some_iff :
    parts? authorization = some (keyId, signature) ↔ IsToken authorization keyId signature := by
  refine ⟨isToken_of_parts?, ?_⟩
  rintro ⟨rfl, named, signed, solid⟩
  apply parts?_token solid
  · simpa using named
  · simpa using signed

/-- The token that is issued for a request has the signature of the request behind its last
colon. -/
theorem afterLastColon_of_sign {issued : String} (made : sign input profile = .ok issued) :
    issued = token profile.keyId (afterLastColon issued) := by
  obtain ⟨-, -, rfl⟩ := sign_eq_ok.1 made
  have solid : ':' ∉ (signatureOf profile.secret (stringToSign input)).toList := by
    intro member
    exact absurd (isSign_of_mem_signatureOf member) (by decide)
  rw [afterLastColon_token solid]

/-- Tokens for the same key are equal iff their signatures are. -/
theorem token_inj {keyId signature signature' : String} :
    token keyId signature = token keyId signature' ↔ signature = signature' := by
  rw [token, token, String.append_right_inj]

/-- The check of a text that is written as a token: the key id decides first, then the issue of the
token that is due, and then whether the text is that token. -/
theorem verify_of_isToken (isToken : IsToken authorization keyId signature) :
    verify authorization input profile =
      if keyId ≠ profile.keyId then .error (.keyMismatch keyId)
      else
        match sign input profile with
        | .error fault => .error fault
        | .ok issued => if authorization = issued then .ok () else .error .mismatch := by
  rw [verify, parts?_eq_some_iff.2 isToken]
  dsimp only
  split
  · rfl
  · rename_i own
    rw [ne_eq, Decidable.not_not] at own
    cases made : sign input profile with
    | error fault => rfl
    | ok issued =>
      have same : authorization = issued ↔ signature = afterLastColon issued := by
        rw [isToken.written, own]
        conv => lhs; rhs; rw [afterLastColon_of_sign made]
        exact token_inj
      simp only [same]

/-- A text that is not written as a token is malformed. Nothing else about it is looked at. -/
theorem verify_of_not_isToken
    (malformed : ¬ ∃ keyId signature, IsToken authorization keyId signature) :
    verify authorization input profile = .error .invalidAuthorization := by
  cases parted : parts? authorization with
  | none => rw [verify, parted]
  | some parts =>
    obtain ⟨keyId, signature⟩ := parts
    exact absurd ⟨keyId, signature, parts?_eq_some_iff.1 parted⟩ malformed

/-- A check accepts a text iff it is the very token that is issued, and the key id has no colon. The
text is parted at the first colon and the issued token at the last, and these are one only then. -/
theorem verify_eq_ok_iff :
    verify authorization input profile = .ok () ↔
      sign input profile = .ok authorization ∧ ':' ∉ profile.keyId.toList := by
  constructor
  · intro accepted
    by_cases written : ∃ keyId signature, IsToken authorization keyId signature
    · obtain ⟨keyId, signature, isToken⟩ := written
      rw [verify_of_isToken isToken] at accepted
      split at accepted
      · cases accepted
      · rename_i own
        rw [ne_eq, Decidable.not_not] at own
        split at accepted
        · cases accepted
        · rename_i issued made
          split at accepted
          · rename_i same
            rw [made, same]
            exact ⟨rfl, own ▸ isToken.solid⟩
          · cases accepted
    · rw [verify_of_not_isToken written] at accepted
      cases accepted
  · rintro ⟨made, solid⟩
    obtain ⟨identity, digest, rfl⟩ := sign_eq_ok.1 made
    exact (verify_token solid (checkIdentity_eq_ok.1 identity).1).2 ⟨identity, digest, rfl⟩

/-- What a check says about any text. It accepts the token that is issued for the request, byte for
byte, and nothing else; that token is accepted if its key id has no colon. A text that is written as
a token for another key is refused for that key, whatever else is wrong. One for the profile's key
is refused for the reason for which no token is issued, and otherwise as another text than the token
that is. A text that is not written as a token is malformed. -/
theorem verify_cases (authorization : String) (input : Input) (profile : AccessProfile) :
    (verify authorization input profile = .ok () ↔
        sign input profile = .ok authorization ∧ ':' ∉ profile.keyId.toList) ∧
      (∀ keyId signature, IsToken authorization keyId signature →
        (keyId ≠ profile.keyId →
          verify authorization input profile = .error (.keyMismatch keyId)) ∧
        (keyId = profile.keyId →
          (∀ fault, sign input profile = .error fault →
            verify authorization input profile = .error fault) ∧
          ∀ issued, sign input profile = .ok issued → authorization ≠ issued →
            verify authorization input profile = .error .mismatch)) ∧
      ((¬ ∃ keyId signature, IsToken authorization keyId signature) →
        verify authorization input profile = .error .invalidAuthorization) := by
  refine ⟨verify_eq_ok_iff, fun keyId signature isToken => ⟨?_, ?_⟩, verify_of_not_isToken⟩
  · intro other
    rw [verify_of_isToken isToken, if_pos other]
  · intro own
    rw [verify_of_isToken isToken, if_neg (Decidable.not_not.2 own)]
    constructor
    · intro fault refused
      rw [refused]
    · intro issued made forged
      rw [made]
      exact if_neg forged

/-- A forged token is refused, and so is one for another key by a profile without a secret, by which
nothing is issued for its own key either. A text without a colon is malformed. -/
theorem verify_cases_of_forged :
    verify "AWS AKID:!" reading ⟨"AKID", "SECRET"⟩ = .error .mismatch ∧
      verify "AWS OTHER:!" reading ⟨"AKID", ""⟩ = .error (.keyMismatch "OTHER") ∧
      verify "AWS AKID:!" reading ⟨"AKID", ""⟩ = .error .missingSecret ∧
      verify "AWS AKID" reading ⟨"AKID", "SECRET"⟩ = .error .invalidAuthorization := by
  have own : IsToken "AWS AKID:!" "AKID" "!" := ⟨rfl, by decide, by decide, by decide⟩
  have other : IsToken "AWS OTHER:!" "OTHER" "!" := ⟨rfl, by decide, by decide, by decide⟩
  have made := sign_reading ⟨"AKID", "SECRET"⟩ rfl
  have forged : token "AKID" "!" ≠
      token "AKID" (signatureOf "SECRET" (stringToSign reading)) := by
    intro same
    have signed : "!" = signatureOf "SECRET" (stringToSign reading) := token_inj.1 same
    have member : '!' ∈ (signatureOf "SECRET" (stringToSign reading)).toList := by
      rw [← signed]
      decide
    exact absurd (isSign_of_mem_signatureOf member) (by decide)
  refine ⟨?_, ?_, ?_, ?_⟩
  · obtain ⟨-, cases, -⟩ := verify_cases "AWS AKID:!" reading ⟨"AKID", "SECRET"⟩
    exact ((cases "AKID" "!" own).2 rfl).2 _ made forged
  · obtain ⟨-, cases, -⟩ := verify_cases "AWS OTHER:!" reading ⟨"AKID", ""⟩
    exact (cases "OTHER" "!" other).1 (by decide)
  · obtain ⟨-, cases, -⟩ := verify_cases "AWS AKID:!" reading ⟨"AKID", ""⟩
    exact ((cases "AKID" "!" own).2 rfl).1 _ rfl
  · obtain ⟨-, -, malformed⟩ := verify_cases "AWS AKID" reading ⟨"AKID", "SECRET"⟩
    refine malformed ?_
    rintro ⟨keyId, signature, isToken⟩
    have parted := parts?_eq_some_iff.2 isToken
    cases parted

end PreviewSync.Signature
