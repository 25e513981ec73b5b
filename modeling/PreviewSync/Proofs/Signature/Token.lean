import PreviewSync.Proofs.Bytes.Base64
import PreviewSync.Signature.Headers

/-!
# Tokens that are checked

A token is parted where it was put together, since neither a key id of letters and digits nor a
written digest has a colon. So a token is accepted by whoever computes the same keyed digest, and by
nobody else.

## Main Definitions

* `Base64.isSign` — the characters of a written form, with `Base64.isSign_of_mem_encode`
* `Signature.parts?_token` — the parts of a token
* `Signature.Headers.make_eq`, `Signature.headers_ok` — the header values of a request
* `Signature.verify_token` — when a token is accepted
-/

namespace PreviewSync

namespace Base64

/-- The characters of a written form. -/
def isSign (c : Char) : Bool :=
  c.isAlphanum || c == '+' || c == '/' || c == '='

theorem isSign_digit (value : Nat) : isSign (digit value) = true := by
  by_cases small : value < 63
  · have all : ∀ value < 63, isSign (digit value) = true := by decide +kernel
    exact all value small
  · have last : digit value = '/' := by
      unfold digit
      rw [if_neg (by omega), if_neg (by omega), if_neg (by omega), if_neg (by omega)]
    rw [last]
    decide

theorem isSign_of_mem_encodeChars (bytes : Bytes) : ∀ c ∈ encodeChars bytes, isSign c = true := by
  have padding : isSign '=' = true := by decide
  fun_induction encodeChars bytes with
  | case1 => simp
  | case2 a => simp [isSign_digit, padding]
  | case3 a b => simp [isSign_digit, padding]
  | case4 a b c rest ih => simpa [isSign_digit] using ih

/-- A written form has no other characters. In particular it has no colon, so a signature can be
told from what stands in front of it. -/
theorem isSign_of_mem_encode {bytes : Bytes} {c : Char} (h : c ∈ (encode bytes).toList) :
    isSign c = true := by
  rw [encode, String.toList_ofList] at h
  exact isSign_of_mem_encodeChars bytes c h

/-- The written form of some bytes is not empty. -/
theorem encode_ne_nil {bytes : Bytes} (h : bytes ≠ []) : (encode bytes).toList ≠ [] := by
  rw [encode, String.toList_ofList]
  fun_cases encodeChars bytes with
  | case1 => exact absurd rfl h
  | case2 | case3 | case4 => exact List.cons_ne_nil _ _

end Base64

namespace Signature

/-- A signature consists of the characters of a written form. -/
theorem isSign_of_mem_signatureOf {secret text : String} {c : Char}
    (h : c ∈ (signatureOf secret text).toList) : Base64.isSign c = true :=
  Base64.isSign_of_mem_encode h

theorem signatureOf_ne_nil (secret text : String) : (signatureOf secret text).toList ≠ [] := by
  refine Base64.encode_ne_nil fun empty => ?_
  have length := Sha1.length_keyed (Bytes.ofText secret) (Bytes.ofText text)
  rw [empty] at length
  cases length

theorem toList_token (keyId signature : String) :
    (token keyId signature).toList =
      'A' :: 'W' :: 'S' :: ' ' :: (keyId.toList ++ ':' :: signature.toList) := by
  simp [token, String.toList_append]

/-- A token is parted at its first colon. Both parts must be there. What follows may have further
ones. -/
theorem parts?_eq {authorization : String} {before behind : List Char}
    (split : authorization.toList = 'A' :: 'W' :: 'S' :: ' ' :: (before ++ ':' :: behind))
    (solid : ':' ∉ before) :
    parts? authorization =
      if before.isEmpty || behind.isEmpty then none
      else some (String.ofList before, String.ofList behind) := by
  have inside : ∀ c ∈ before, (c != ':') = true := by
    intro c member
    rw [bne_iff_ne]
    rintro rfl
    exact solid member
  have front : (before ++ ':' :: behind).takeWhile (· != ':') = before := by
    rw [List.takeWhile_append_of_pos inside, List.takeWhile_cons_of_neg (by decide),
      List.append_nil]
  have rest : (before ++ ':' :: behind).dropWhile (· != ':') = ':' :: behind := by
    rw [List.dropWhile_append_of_pos inside, List.dropWhile_cons_of_neg (by decide)]
  unfold parts?
  rw [split]
  split
  · rename_i chars same
    cases same
    dsimp only
    rw [front, rest]
  · rename_i other
    exact absurd rfl (other _)

/-- A token is parted where it was put together. For that the key id must not have a colon. -/
theorem parts?_token {keyId signature : String} (solid : ':' ∉ keyId.toList)
    (named : keyId.toList ≠ []) (signed : signature.toList ≠ []) :
    parts? (token keyId signature) = some (keyId, signature) := by
  rw [parts?_eq (toList_token keyId signature) solid, if_neg (by simp [named, signed]),
    String.ofList_toList, String.ofList_toList]

/-- A token from its end: the signature up to the last colon, if the signature has none. -/
theorem reverse_token (keyId signature : String) :
    (token keyId signature).toList.reverse =
      signature.toList.reverse ++ ':' :: ("AWS " ++ keyId).toList.reverse := by
  simp [token, String.toList_append]

theorem ne_colon_of_mem_reverse {signature : String} (solid : ':' ∉ signature.toList) :
    ∀ c ∈ signature.toList.reverse, (c != ':') = true := by
  intro c member
  rw [bne_iff_ne]
  rintro rfl
  exact solid (List.mem_reverse.1 member)

theorem contains_token (keyId signature : String) :
    (token keyId signature).toList.contains ':' = true := by
  rw [toList_token]
  simp

/-- The signature of a token is what stands behind its last colon. The key id may have colons of its
own. -/
theorem afterLastColon_token {keyId signature : String} (solid : ':' ∉ signature.toList) :
    afterLastColon (token keyId signature) = signature := by
  rw [afterLastColon, if_pos (contains_token keyId signature), reverse_token,
    List.takeWhile_append_of_pos (ne_colon_of_mem_reverse solid)]
  show String.ofList (signature.toList.reverse ++ []).reverse = _
  rw [List.append_nil, List.reverse_reverse, String.ofList_toList]

/-- What stands in front of the last colon tells the key id, and nothing of the secret. -/
theorem beforeLastColon_token {keyId signature : String} (solid : ':' ∉ signature.toList) :
    beforeLastColon (token keyId signature) = "AWS " ++ keyId := by
  rw [beforeLastColon, if_pos (contains_token keyId signature), reverse_token,
    List.dropWhile_append_of_pos (ne_colon_of_mem_reverse solid)]
  show String.ofList ("AWS " ++ keyId).toList.reverse.reverse = _
  rw [List.reverse_reverse, String.ofList_toList]

/-- When a token is issued, and which. Nothing but the two checks can stand in the way. -/
theorem sign_eq_ok {input : Input} {profile : AccessProfile} {authorization : String} :
    sign input profile = .ok authorization ↔
      checkIdentity profile input.bucket = .ok () ∧ checkContentMd5 input.contentMd5 = .ok () ∧
        authorization = token profile.keyId (signatureOf profile.secret (stringToSign input)) := by
  unfold sign
  cases checkIdentity profile input.bucket with
  | error => simp [bind, Except.bind]
  | ok =>
    cases checkContentMd5 input.contentMd5 with
    | error => simp [bind, Except.bind]
    | ok => simp [bind, Except.bind, eq_comm]

/-- Credentials and a bucket are there when they are accepted. -/
theorem checkIdentity_eq_ok {profile : AccessProfile} {bucket : String} :
    checkIdentity profile bucket = .ok () ↔
      profile.keyId ≠ "" ∧ profile.secret ≠ "" ∧ bucket ≠ "" := by
  unfold checkIdentity
  simp only [String.isEmpty_iff]
  repeat' split
  all_goals simp_all

/-- The digest of a body is the written form of a digest. -/
theorem isContentMd5_contentMd5 (body : Bytes) : isContentMd5 (contentMd5 body) = true := by
  rw [isContentMd5, contentMd5, Base64.decode?_encode]
  exact beq_iff_eq.2 (Md5.length_digest body)

/-- The digest that is computed for a request is always accepted. So a request is never refused for
its digest. -/
theorem checkContentMd5_map (payload : Option Payload) :
    checkContentMd5 (payload.map fun sent => contentMd5 sent.body) = .ok () := by
  cases payload with
  | none => rfl
  | some sent => exact if_pos (isContentMd5_contentMd5 sent.body)

/-- The header values of a request depend on the identity being complete, and on nothing else that
could fail. -/
theorem Headers.make_eq (profile : AccessProfile) (destination : Destination) (verb : Verb)
    (key : String) (payload : Option Payload) (now : Instant) :
    let input := inputFor destination verb key payload now
    Headers.make profile destination verb key payload now =
      (checkIdentity profile destination.bucket).map fun _ =>
        ⟨token profile.keyId (signatureOf profile.secret (stringToSign input)), input.date,
          input.contentMd5⟩ := by
  intro input
  have digest : checkContentMd5 input.contentMd5 = .ok () := checkContentMd5_map payload
  have signed : sign input profile = (checkIdentity profile destination.bucket).map fun _ =>
      token profile.keyId (signatureOf profile.secret (stringToSign input)) := by
    rw [sign, digest]
    show checkIdentity profile destination.bucket >>= _ = _
    cases checkIdentity profile destination.bucket <;> rfl
  unfold Headers.make
  dsimp only
  rw [signed]
  cases checkIdentity profile destination.bucket <;> rfl

/-- The header values of a request: its token, its date, and the digest of its body. -/
theorem headers_ok {profile : AccessProfile} {destination : Destination} {verb : Verb}
    {key : String} {payload : Option Payload} {now : Instant} {headers : Headers}
    (h : Headers.make profile destination verb key payload now = .ok headers) :
    let input := inputFor destination verb key payload now
    checkIdentity profile input.bucket = .ok () ∧ checkContentMd5 input.contentMd5 = .ok () ∧
      headers = ⟨token profile.keyId (signatureOf profile.secret (stringToSign input)),
        input.date, input.contentMd5⟩ := by
  rw [Headers.make_eq] at h
  cases identity : checkIdentity profile destination.bucket with
  | error fault =>
    rw [identity] at h
    cases h
  | ok =>
    rw [identity] at h
    cases h
    exact ⟨identity, checkContentMd5_map payload, rfl⟩

/-- The same parts of a request for another resource. It is what a server sees that reads another
resource off the target. -/
def Input.onResource (input : Input) (other : String × String) : Input :=
  { input with bucket := other.1, path := other.2 }

section Resource

variable {destination : Destination} {verb : Verb} {key : String} {payload : Option Payload}
  {now : Instant}

/-- The text that is signed for an object ends with its resource. -/
theorem stringToSign_inputFor :
    stringToSign (inputFor destination verb key payload now) =
      verb.name ++ "\n" ++ (payload.map fun sent => contentMd5 sent.body).getD "" ++ "\n"
        ++ (payload.map fun sent => sent.contentType).getD "" ++ "\n" ++ HttpDate.write now ++ "\n"
        ++ resource destination.bucket (destination.objectPath key) := by
  unfold stringToSign inputFor
  dsimp only

theorem onResource_inputFor :
    (inputFor destination verb key payload now).onResource
      (destination.bucket, destination.objectPath key) =
      inputFor destination verb key payload now := by
  unfold Input.onResource inputFor
  dsimp only

/-- Requests for resources of different lengths are signed for different texts. -/
theorem stringToSign_onResource_ne {other : String × String}
    (length : (resource other.1 other.2).toList.length ≠
      (resource destination.bucket (destination.objectPath key)).toList.length) :
    stringToSign ((inputFor destination verb key payload now).onResource other) ≠
      stringToSign (inputFor destination verb key payload now) := by
  intro same
  apply length
  rw [stringToSign, stringToSign, Input.onResource, String.append_right_inj] at same
  rw [same, inputFor]

end Resource

/-- A token is accepted for a request by whoever computes the same signature for it. The text need
not be the same, as digests may collide. -/
theorem verify_token {input : Input} {profile : AccessProfile} {text : String}
    (solid : ':' ∉ profile.keyId.toList) (named : profile.keyId ≠ "") :
    verify (token profile.keyId (signatureOf profile.secret text)) input profile = .ok () ↔
      checkIdentity profile input.bucket = .ok () ∧ checkContentMd5 input.contentMd5 = .ok () ∧
        signatureOf profile.secret text = signatureOf profile.secret (stringToSign input) := by
  have noColon : ':' ∉ (signatureOf profile.secret (stringToSign input)).toList := by
    intro member
    exact absurd (isSign_of_mem_signatureOf member) (by decide)
  have filled : profile.keyId.toList ≠ [] := by
    rw [Ne, String.toList_eq_nil_iff]
    exact named
  rw [verify, parts?_token solid filled (signatureOf_ne_nil _ _)]
  dsimp only
  rw [if_neg (by simp)]
  -- A check issues the token anew, so it fails where the issue does.
  cases signed : sign input profile with
  | error fault =>
    refine ⟨nofun, ?_⟩
    rintro ⟨identity, digest, -⟩
    rw [sign_eq_ok.2 ⟨identity, digest, rfl⟩] at signed
    cases signed
  | ok expected =>
    obtain ⟨identity, digest, rfl⟩ := sign_eq_ok.1 signed
    dsimp only
    rw [afterLastColon_token noColon]
    constructor
    · intro accepted
      split at accepted
      · rename_i same
        exact ⟨identity, digest, same⟩
      · cases accepted
    · rintro ⟨-, -, same⟩
      rw [if_pos same]

end Signature

end PreviewSync
