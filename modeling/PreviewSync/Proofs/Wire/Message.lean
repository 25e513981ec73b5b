import PreviewSync.Proofs.Calendar.HttpDate
import PreviewSync.Proofs.Signature.Token
import PreviewSync.Proofs.Store.Operation
import PreviewSync.Proofs.Text.Ascii
import PreviewSync.Proofs.Wire.Address
import PreviewSync.Proofs.Wire.Resource

/-!
# Signatures that arrive

A server checks the signature of a message against what it has received. The header values arrive as
they were sent, so it is the resource that decides: it is the one that was signed iff the object
path has no dot segments.

## Main Definitions

* `Wire.Message.IsField` — the values that arrive as they were sent
* `Wire.Message.exists_message_of_prepare` — what a server finds in the message of a request
* `Wire.Message.check_iff_of_prepare` — when it accepts the signature

## Design Notes

With dot segments the resource that arrives is shorter than the one that was signed, so the texts to
sign differ. That their keyed digests differ as well is more than can be proved of a digest, which
is why a collision stands in the statement as the one way in which such a signature is accepted.
-/

namespace PreviewSync.Wire.Message

open ObjectPath (encodeChars)
open Signature (inputFor resource signatureOf stringToSign)
open Store (Dispatch Operation Request)

/-- A header value that can be sent, without blanks at its ends. Blanks at the ends would not
arrive, and a value with a line break in it would end the header. -/
structure IsField (value : String) : Prop where
  chars : ∀ c ∈ value.toList, isFieldChar c = true
  first : ∀ c ∈ value.toList.head?, isFieldBlank c = false
  last : ∀ c ∈ value.toList.getLast?, isFieldBlank c = false

/-- Such a value arrives as it was sent. Blanks around a value would be dropped on the way. -/
theorem IsField.trim_eq {value : String} (h : IsField value) :
    Text.trim isFieldBlank value = value := by
  rw [Text.trim, Text.trimStart_of_head h.first, Text.trimEnd_of_last h.last]

/-- The characters of a written form can stand in a header, and are no blanks. -/
theorem isFieldChar_of_isSign {c : Char} (h : Base64.isSign c = true) :
    isFieldChar c = true ∧ isFieldBlank c = false := by
  have all : ∀ c : Char, c.toNat < 128 → Base64.isSign c = true →
      isFieldChar c = true ∧ isFieldBlank c = false :=
    Text.forall_ascii (by decide +kernel)
  refine all c ?_ h
  simp only [Base64.isSign, Bool.or_eq_true, beq_iff_eq] at h
  rcases h with ((alphanumeric | rfl) | rfl) | rfl
  · exact Text.ascii_of_isAlphanum alphanumeric
  all_goals decide

/-- A value without blanks can be sent. -/
theorem isField_of_solid {value : String}
    (h : ∀ c ∈ value.toList, isFieldChar c = true ∧ isFieldBlank c = false) : IsField value where
  chars c member := (h c member).1
  first c member := (h c (List.mem_of_mem_head? member)).2
  last c member := (h c (List.mem_of_getLast? member)).2

/-- A written form can be sent. -/
theorem isField_of_isSign {value : String} (h : ∀ c ∈ value.toList, Base64.isSign c = true) :
    IsField value :=
  isField_of_solid fun c member => isFieldChar_of_isSign (h c member)

/-- A date can be sent. -/
theorem isField_write (now : Instant) : IsField (HttpDate.write now) where
  chars c member := by
    rw [isFieldChar, Bool.or_eq_true]
    exact .inr (HttpDate.isVisible_of_mem_write now c member)
  first c member := by
    obtain ⟨notBlank, notTab⟩ := HttpDate.ne_blank_of_head?_write member
    rw [isFieldBlank, Bool.or_eq_false_iff, beq_eq_false_iff_ne, beq_eq_false_iff_ne]
    exact ⟨notBlank, notTab⟩
  last c member := by
    rw [HttpDate.getLast?_write] at member
    cases member
    decide

/-- A token can be sent. -/
theorem isField_token {keyId signature : String}
    (named : ∀ c ∈ keyId.toList, Base64.isSign c = true)
    (signed : ∀ c ∈ signature.toList, Base64.isSign c = true) (filled : signature.toList ≠ []) :
    IsField (Signature.token keyId signature) where
  chars := by
    rw [Signature.toList_token]
    have front : ∀ c ∈ ['A', 'W', 'S', ' ', ':'], isFieldChar c = true :=
      Text.forall_mem_of_all (by decide)
    simp only [List.mem_cons, List.mem_append]
    rintro c (rfl | rfl | rfl | rfl | member | rfl | member)
    · exact front _ (by decide)
    · exact front _ (by decide)
    · exact front _ (by decide)
    · exact front _ (by decide)
    · exact (isFieldChar_of_isSign (named c member)).1
    · exact front _ (by decide)
    · exact (isFieldChar_of_isSign (signed c member)).1
  first c member := by
    rw [Signature.toList_token] at member
    cases member
    decide
  last c member := by
    rw [Signature.toList_token] at member
    have inSignature : c ∈ signature.toList.getLast? := by
      obtain ⟨d, rest, chars⟩ := List.exists_cons_of_ne_nil filled
      rw [chars] at member ⊢
      simpa [List.getLast?_cons, List.getLast?_append] using member
    exact (isFieldChar_of_isSign (signed c (List.mem_of_getLast? inSignature))).2

/-- A number can be sent. -/
theorem isField_repr (n : Nat) : IsField (Nat.repr n) := by
  refine isField_of_isSign fun c member => ?_
  rw [Nat.toList_repr] at member
  have digit := Nat.isDigit_of_mem_toDigits (by decide) (by decide) member
  rw [Base64.isSign, Char.isAlphanum, digit]
  simp

section Lines

/-- The values of the header lines of a dispatch. They are looked up by name, as a server does. -/
theorem firstValue?_lines (verb : Verb) (url authorization date : String)
    (digest : Payload → String) (payload : Option Payload) :
    let lines := Dispatch.lines ⟨verb, url, ⟨authorization, date, payload.map digest⟩, payload⟩
    Store.Metadata.firstValue? lines "Date" = some date ∧
      Store.Metadata.firstValue? lines "Authorization" = some authorization ∧
      Store.Metadata.firstValue? lines "Content-Type" = payload.map (·.contentType) ∧
      Store.Metadata.firstValue? lines "Content-MD5" = payload.map digest := by
  have other : ∀ names, names ∈ [("Date", "Authorization"), ("Date", "Content-Type"),
      ("Date", "Content-MD5"), ("Authorization", "Content-Type"), ("Authorization", "Content-MD5"),
      ("Content-Type", "Content-MD5"), ("Content-Length", "Content-MD5")] →
      (Store.lowerName names.1 == Store.lowerName names.2) = false := by decide
  simp only [List.forall_mem_cons] at other
  cases payload <;>
    simp [Store.Metadata.firstValue?, Dispatch.lines, other]

/-- The header lines of a dispatch can be sent when its parts can. Lines with a fixed value need no
condition. -/
theorem isField_of_mem_lines {dispatch : Dispatch} (date : IsField dispatch.headers.date)
    (authorization : IsField dispatch.headers.authorization)
    (digest : ∀ value ∈ dispatch.headers.contentMd5, IsField value)
    (kind : ∀ payload ∈ dispatch.payload, IsField payload.contentType) :
    ∀ line ∈ dispatch.lines, IsField line.value := by
  intro line member
  unfold Dispatch.lines at member
  dsimp only at member
  split at member
  · simp only [List.mem_cons, List.not_mem_nil, or_false] at member
    rcases member with rfl | rfl
    · exact date
    · exact authorization
  · rename_i payload sent
    simp only [List.mem_append, List.mem_cons, List.not_mem_nil, or_false, Option.mem_toList,
      Option.map_eq_some_iff] at member
    rcases member with ((rfl | rfl) | rfl | rfl) | ⟨value, given, rfl⟩
    · exact date
    · exact authorization
    · exact kind payload sent
    · exact isField_repr _
    · exact digest value given

/-- Such header lines arrive as they were sent. Their order does not matter to a lookup by name. -/
theorem value?_eq {message : Message} (h : ∀ line ∈ message.lines, IsField line.value)
    (name : String) : message.value? name = Store.Metadata.firstValue? message.lines name := by
  rw [value?, Store.Metadata.firstValue?, Option.map_map]
  refine Option.map_congr fun line found => ?_
  exact (h line (List.mem_of_find?_eq_some found)).trim_eq

/-- A dispatch with such header lines is sent to the address it states. Otherwise nothing is sent at
all. -/
theorem ofDispatch?_eq {dispatch : Dispatch} {address : Address}
    (read : Address.read? dispatch.url = some address)
    (h : ∀ line ∈ dispatch.lines, IsField line.value) :
    ofDispatch? dispatch = some (address,
      ⟨dispatch.verb, address.target, dispatch.lines, dispatch.payload.map (·.body)⟩) := by
  have all : (dispatch.lines.all fun line => line.value.toList.all isFieldChar) = true := by
    rw [List.all_eq_true]
    intro line member
    rw [List.all_eq_true]
    exact (h line member).chars
  rw [ofDispatch?, read]
  show (if (dispatch.lines.all fun line => line.value.toList.all isFieldChar) = true then _
    else _) = _
  rw [if_pos all]

end Lines

section Target

/-- A server that decodes a target finds the parts that were encoded. This holds of any parts
without slashes, even of empty ones. -/
theorem resource?_eq {message : Message} {parts : List (List Char)}
    (target : message.target = String.ofList (encodeChars (parts.flatMap fun part => '/' :: part)))
    (solid : ∀ part ∈ parts, '/' ∉ part) : message.resource? "" = some (received parts) := by
  have below : message.targetBelow "" = message.target := by
    rw [targetBelow]
    exact String.ofList_toList
  rw [resource?, below, target, ← ObjectPath.encode_ofList, ObjectPath.decode_encode,
    Bytes.toText?_ofText, Option.map_some, splitResource_flatMap solid]

/-- What stands behind the endpoint in an address is the encoding of bucket and object path. -/
theorem toList_below {bucket path : String} (plain : encodeChars bucket.toList = bucket.toList) :
    (bucket ++ "/" ++ ObjectPath.encode path).toList =
      encodeChars (bucket.toList ++ '/' :: path.toList) := by
  have slash : "/".toList = ['/'] := rfl
  rw [ObjectPath.encodeChars_append, plain, ObjectPath.encodeChars_slash, String.toList_append,
    String.toList_append, ObjectPath.toList_encode, slash, List.append_assoc, List.singleton_append]

variable {request : Request} {scheme server : String}

/-- The address of an object is below the server of the endpoint, and its target states the parts
that are left of bucket and object path. -/
theorem exists_target (endpoint : request.endpoint = some (scheme ++ "://" ++ server))
    (isScheme : scheme = "http" ∨ scheme = "https") (isServer : IsServer server)
    (plain : encodeChars request.registration.destination.bucket.toList =
      request.registration.destination.bucket.toList) (key : String) :
    let bucket := request.registration.destination.bucket
    let path := request.registration.destination.objectPath key
    ∃ (address : Address) (parts : List (List Char)),
      Address.read? (request.url key) = some address ∧ (∀ part ∈ parts, '/' ∉ part) ∧
      resolve [] (((bucket.toList ++ '/' :: path.toList).splitOn '/').map encodeChars) =
        parts.map encodeChars ∧
      address.target = String.ofList (encodeChars (parts.flatMap fun part => '/' :: part)) := by
  intro bucket path
  have url : request.url key =
      scheme ++ "://" ++ server ++ "/" ++ (bucket ++ "/" ++ ObjectPath.encode path) := by
    rw [Request.url, Request.base, endpoint]
    simp only [String.append_assoc]
    rfl
  have text : (bucket ++ "/" ++ ObjectPath.encode path).toList =
      encodeChars (bucket.toList ++ '/' :: path.toList) := toList_below plain
  have solid : ∀ c ∈ (bucket ++ "/" ++ ObjectPath.encode path).toList, 32 < c.toNat := by
    rw [text]
    intro c member
    exact ObjectPath.lt_of_isPathChar (ObjectPath.isPathChar_of_mem_encodeBytes member)
  obtain ⟨address, read, target⟩ := Address.read?_of_isServer isScheme isServer solid
  obtain ⟨parts, solids, left⟩ := exists_parts (bucket.toList ++ '/' :: path.toList)
  refine ⟨address, parts, by rw [url, read], solids, left, ?_⟩
  rw [target, text, readTarget_encodeChars, left, encodeChars_flatMap]

end Target

section Check

variable {request : Request} {scheme server key : String} {verb : Verb} {payload : Option Payload}
  {now : Instant} {dispatch : Dispatch}

/-- Letters, digits and hyphens stand for themselves, and neither part a path nor make up a dot
segment. -/
theorem isPlain_of_isAlphanum {c : Char} (h : c.isAlphanum = true ∨ c = '-') :
    (c.toNat < 128 ∧ ObjectPath.isPlain (UInt8.ofNat c.toNat) = true) ∧ c ≠ '/' ∧ c ≠ '.' := by
  have ascii : c.toNat < 128 := by
    rcases h with alphanumeric | rfl
    · exact Text.ascii_of_isAlphanum alphanumeric
    · decide
  have all : ∀ c : Char, c.toNat < 128 → (c.isAlphanum = true ∨ c = '-') →
      ObjectPath.isPlain (UInt8.ofNat c.toNat) = true ∧ c ≠ '/' ∧ c ≠ '.' :=
    Text.forall_ascii (by decide +kernel)
  exact ⟨⟨ascii, (all c ascii h).1⟩, (all c ascii h).2⟩

/-- A bucket of letters, digits and hyphens is a part of the address as it is. A bucket is not
encoded in an address, so this has to be asked of it. -/
theorem bucket_of_isAlphanum {bucket : String}
    (h : ∀ c ∈ bucket.toList, c.isAlphanum = true ∨ c = '-') :
    encodeChars bucket.toList = bucket.toList ∧ '/' ∉ bucket.toList ∧ ¬ IsDots bucket.toList := by
  have dot : '.' ∉ bucket.toList := fun member => (isPlain_of_isAlphanum (h _ member)).2.2 rfl
  refine ⟨ObjectPath.encodeChars_of_plain fun c member => (isPlain_of_isAlphanum (h c member)).1,
    fun member => (isPlain_of_isAlphanum (h _ member)).2.1 rfl, ?_⟩
  rintro (single | double)
  · exact dot (by rw [single]; decide)
  · exact dot (by rw [double]; decide)

/-- What is prepared has credentials and a bucket. Signing has looked at them. -/
theorem complete_of_prepare (prepared : request.prepare verb key payload now = .ok dispatch) :
    request.registration.profile.keyId ≠ "" ∧ request.registration.profile.secret ≠ "" ∧
      request.registration.destination.bucket ≠ "" := by
  obtain ⟨headers, made, -⟩ := Request.prepare_ok prepared
  obtain ⟨identity, -, -⟩ := Signature.headers_ok made
  exact Signature.checkIdentity_eq_ok.1 identity

/-- The values of a signed request arrive as they were sent. -/
theorem isField_of_prepare
    (lettered : ∀ c ∈ request.registration.profile.keyId.toList, c.isAlphanum = true)
    (kind : ∀ sent ∈ payload, IsField sent.contentType)
    (prepared : request.prepare verb key payload now = .ok dispatch) :
    ∀ line ∈ dispatch.lines, IsField line.value := by
  obtain ⟨headers, made, rfl⟩ := Request.prepare_ok prepared
  obtain ⟨-, -, rfl⟩ := Signature.headers_ok made
  refine isField_of_mem_lines (isField_write now) (isField_token ?_ ?_ ?_) ?_ kind
  · intro c member
    rw [Base64.isSign, lettered c member]
    rfl
  · intro c member
    exact Signature.isSign_of_mem_signatureOf member
  · exact Signature.signatureOf_ne_nil _ _
  · intro value digest
    rw [Option.mem_def, inputFor, Option.map_eq_some_iff] at digest
    obtain ⟨sent, -, rfl⟩ := digest
    exact isField_of_isSign fun c member => Base64.isSign_of_mem_encode member

/-- A server reads off the target of a dispatch what is left of bucket and object path. What is left
is all of it, if there are no dot segments. -/
theorem exists_message (fields : ∀ line ∈ dispatch.lines, IsField line.value)
    (located : dispatch.url = request.url key)
    (endpoint : request.endpoint = some (scheme ++ "://" ++ server))
    (isScheme : scheme = "http" ∨ scheme = "https") (isServer : IsServer server)
    (plain : encodeChars request.registration.destination.bucket.toList =
      request.registration.destination.bucket.toList) :
    let bucket := request.registration.destination.bucket
    let path := request.registration.destination.objectPath key
    ∃ (address : Address) (message : Message) (parts : List (List Char)),
      ofDispatch? dispatch = some (address, message) ∧ message.verb = dispatch.verb ∧
      message.lines = dispatch.lines ∧ message.resource? "" = some (received parts) ∧
      resolve [] (((bucket.toList ++ '/' :: path.toList).splitOn '/').map encodeChars) =
        parts.map encodeChars := by
  intro bucket path
  obtain ⟨address, parts, read, solid, left, target⟩ :=
    exists_target endpoint isScheme isServer plain key
  rw [← located] at read
  exact ⟨address, ⟨dispatch.verb, address.target, dispatch.lines, dispatch.payload.map (·.body)⟩,
    parts, ofDispatch?_eq read fields, rfl, rfl, resource?_eq target solid, left⟩

/-- A server sees all parts that were signed, but reads bucket and object path off the target. So
the resource is the only part that may differ from what was signed. -/
theorem input?_eq {url authorization date : String} {message : Message} {bucket path : String}
    (lines : message.lines = Dispatch.lines ⟨verb, url, ⟨authorization, date,
      payload.map fun sent => Signature.contentMd5 sent.body⟩, payload⟩)
    (fields : ∀ line ∈ message.lines, IsField line.value) (same : message.verb = verb)
    (resource : message.resource? "" = some (bucket, path)) :
    message.value? "Authorization" = some authorization ∧
      message.input? "" = some ⟨verb, payload.map fun sent => Signature.contentMd5 sent.body,
        payload.map (·.contentType), date, bucket, path⟩ := by
  obtain ⟨sentDate, token, kind, digest⟩ := firstValue?_lines verb url authorization date
    (fun sent => Signature.contentMd5 sent.body) payload
  rw [← lines] at sentDate token kind digest
  refine ⟨by rw [value?_eq fields, token], ?_⟩
  rw [input?, resource, Option.map_some, value?_eq fields, value?_eq fields, value?_eq fields,
    sentDate, kind, digest, same]
  rfl

/-- A token is accepted for a resource that is read off a target by whoever computes the same
signature for it. -/
theorem check_iff {message : Message} {base text : String} {profile : AccessProfile}
    {input : Signature.Input}
    (token : message.value? "Authorization" =
      some (Signature.token profile.keyId (signatureOf profile.secret text)))
    (arrived : message.input? base = some input) (solid : ':' ∉ profile.keyId.toList)
    (named : profile.keyId ≠ "") (secret : profile.secret ≠ "")
    (digest : Signature.checkContentMd5 input.contentMd5 = .ok ()) :
    message.check base profile = true ↔
      input.bucket ≠ "" ∧
        signatureOf profile.secret (stringToSign input) = signatureOf profile.secret text := by
  have verified := @Signature.verify_token input profile text solid named
  rw [Signature.checkIdentity_eq_ok] at verified
  unfold check
  simp only [arrived, token, Option.getD_some]
  constructor
  · intro accepted
    split at accepted
    · rename_i ok
      obtain ⟨⟨-, -, bucket⟩, -, same⟩ := verified.1 ok
      exact ⟨bucket, same.symm⟩
    · cases accepted
  · rintro ⟨bucket, same⟩
    rw [verified.2 ⟨⟨named, secret, bucket⟩, digest, same.symm⟩]

/-- What a server finds in the message of a request, and when it accepts the signature. -/
theorem exists_message_of_prepare
    (lettered : ∀ c ∈ request.registration.profile.keyId.toList, c.isAlphanum = true)
    (plain : encodeChars request.registration.destination.bucket.toList =
      request.registration.destination.bucket.toList)
    (endpoint : request.endpoint = some (scheme ++ "://" ++ server))
    (isScheme : scheme = "http" ∨ scheme = "https") (isServer : IsServer server)
    (kind : ∀ sent ∈ payload, IsField sent.contentType)
    (prepared : request.prepare verb key payload now = .ok dispatch) :
    let profile := request.registration.profile
    let bucket := request.registration.destination.bucket
    let path := request.registration.destination.objectPath key
    let signed := inputFor request.registration.destination verb key payload now
    ∃ address message parts, ofDispatch? dispatch = some (address, message) ∧
      resolve [] (((bucket.toList ++ '/' :: path.toList).splitOn '/').map encodeChars) =
        parts.map encodeChars ∧
      message.input? "" = some (signed.onResource (received parts)) ∧
      (message.check "" profile = true ↔
        (received parts).1 ≠ "" ∧
          signatureOf profile.secret (stringToSign (signed.onResource (received parts))) =
            signatureOf profile.secret (stringToSign signed)) := by
  intro profile bucket path signed
  have fields := isField_of_prepare lettered kind prepared
  obtain ⟨named, secret, -⟩ := complete_of_prepare prepared
  obtain ⟨headers, made, rfl⟩ := Request.prepare_ok prepared
  obtain ⟨-, digest, rfl⟩ := Signature.headers_ok made
  have noColon : ':' ∉ profile.keyId.toList := fun member =>
    absurd (lettered _ member) (by decide)
  obtain ⟨address, message, parts, sent, same, lines, resource, left⟩ :=
    exists_message fields rfl endpoint isScheme isServer plain
  rw [← lines] at fields
  obtain ⟨token, input⟩ := input?_eq lines fields same resource
  exact ⟨address, message, parts, sent, left, input,
    check_iff token input noColon named secret digest⟩

/-- A server accepts the signature of a request iff its object path has no dot segments, unless the
texts for two different resources have the same keyed digest. -/
theorem check_iff_of_prepare
    (lettered : ∀ c ∈ request.registration.profile.keyId.toList, c.isAlphanum = true)
    (hyphened : ∀ c ∈ request.registration.destination.bucket.toList, c.isAlphanum = true ∨ c = '-')
    (endpoint : request.endpoint = some (scheme ++ "://" ++ server))
    (isScheme : scheme = "http" ∨ scheme = "https") (isServer : IsServer server)
    (kind : ∀ sent ∈ payload, IsField sent.contentType)
    (prepared : request.prepare verb key payload now = .ok dispatch) :
    let profile := request.registration.profile
    let path := request.registration.destination.objectPath key
    let signed := inputFor request.registration.destination verb key payload now
    ∃ address message arrived, ofDispatch? dispatch = some (address, message) ∧
      message.input? "" = some arrived ∧ (¬ HasDots path → arrived = signed) ∧
      (message.check "" profile = true ↔
        ¬ HasDots path ∨
          arrived.bucket ≠ "" ∧ stringToSign arrived ≠ stringToSign signed ∧
            signatureOf profile.secret (stringToSign arrived) =
              signatureOf profile.secret (stringToSign signed)) := by
  intro profile path signed
  obtain ⟨plain, solid, noDots⟩ := bucket_of_isAlphanum hyphened
  obtain ⟨address, message, parts, sent, left, input, accepted⟩ :=
    exists_message_of_prepare lettered plain endpoint isScheme isServer kind prepared
  -- Every other part arrives as it was signed, so the resource alone decides.
  have intact : ¬ HasDots path → signed.onResource (received parts) = signed := by
    intro without
    rw [received_of_noDots solid noDots without left, Signature.onResource_inputFor]
  refine ⟨address, message, _, sent, input, intact, accepted.trans ?_⟩
  constructor
  · rintro ⟨found, collision⟩
    by_cases dots : HasDots path
    · have shorter := length_received_lt solid plain (dropWhile_objectPath _ key) dots left found
      exact .inr ⟨found, Signature.stringToSign_onResource_ne (Nat.ne_of_lt shorter), collision⟩
    · exact .inl dots
  · rintro (without | ⟨found, -, collision⟩)
    · rw [intact without, received_of_noDots solid noDots without left]
      exact ⟨(complete_of_prepare prepared).2.2, rfl⟩
    · exact ⟨found, collision⟩

end Check

section Local

/-- A request to a server of the same machine. -/
def localRequest : Request :=
  { registration := ⟨"d", ⟨"AKID", "SECRET"⟩, ⟨"photos", "lr"⟩⟩
    endpoint := some ("http" ++ "://" ++ "localhost") }

/-- A body of one letter, of the type that stands for any. -/
def letter : Payload :=
  ⟨Bytes.ofText "x", Operation.defaultContentType⟩

theorem isServer_localhost : IsServer "localhost" :=
  ⟨Text.forall_mem_of_all (by decide), _, _, rfl⟩

theorem isField_of_letter : ∀ sent ∈ some letter, IsField sent.contentType := by
  rintro sent ⟨⟩
  exact isField_of_solid (Text.forall_mem_of_all (by decide))

/-- With dot segments that lead out of the bucket, a server finds no bucket and refuses. The request
is prepared without any fault, as nothing looks at dots before. -/
theorem not_check_of_dots :
    ∃ dispatch address message arrived,
      localRequest.prepare .put "../.." (some letter) ⟨0, 0⟩ = .ok dispatch ∧
      ofDispatch? dispatch = some (address, message) ∧ message.input? "" = some arrived ∧
      arrived.bucket = "" ∧ message.check "" localRequest.registration.profile = false := by
  have accepted : (localRequest.prepare .put "../.." (some letter) ⟨0, 0⟩).isOk = true := by
    decide +kernel
  cases prepared : localRequest.prepare .put "../.." (some letter) ⟨0, 0⟩ with
  | error rejection =>
    rw [prepared] at accepted
    cases accepted
  | ok dispatch =>
    obtain ⟨address, message, parts, sent, left, input, checked⟩ :=
      exists_message_of_prepare (Text.forall_mem_of_all (by decide)) (by decide +kernel) rfl
        (.inl rfl) isServer_localhost isField_of_letter prepared
    have resolved : parts = [[]] :=
      List.map_injective_iff.2 (fun _ _ => ObjectPath.encodeChars_injective)
        (left.symm.trans (by decide +kernel))
    rw [resolved] at input checked
    refine ⟨dispatch, address, message, _, rfl, sent, input, rfl, ?_⟩
    rw [Bool.eq_false_iff, Ne, checked]
    rintro ⟨found, -⟩
    exact found rfl

/-- A key with a slash in front, blanks and percent signs arrives as it was signed. -/
theorem check_of_escaped_key :
    ∃ dispatch address message,
      localRequest.prepare .put "/é 100%/..a?.jpg" (some letter) ⟨0, 0⟩ = .ok dispatch ∧
      ofDispatch? dispatch = some (address, message) ∧
      message.check "" localRequest.registration.profile = true := by
  have accepted :
      (localRequest.prepare .put "/é 100%/..a?.jpg" (some letter) ⟨0, 0⟩).isOk = true := by
    decide +kernel
  have noDots :
      ¬ HasDots (localRequest.registration.destination.objectPath "/é 100%/..a?.jpg") := by
    decide +kernel
  cases prepared : localRequest.prepare .put "/é 100%/..a?.jpg" (some letter) ⟨0, 0⟩ with
  | error rejection =>
    rw [prepared] at accepted
    cases accepted
  | ok dispatch =>
    obtain ⟨address, message, arrived, sent, -, -, checked⟩ :=
      check_iff_of_prepare (Text.forall_mem_of_all (by decide))
        (Text.forall_mem_of_all (by decide)) rfl (.inl rfl) isServer_localhost isField_of_letter
        prepared
    exact ⟨dispatch, address, message, rfl, sent, checked.2 (.inl noDots)⟩

end Local

end PreviewSync.Wire.Message
