import PreviewSync.Catalog.Entry
import PreviewSync.Proofs.Identity.Destination
import PreviewSync.Proofs.Signature.Token
import PreviewSync.Proofs.Wire.Site
import PreviewSync.Store.Registry

/-!
# Where objects are

The address of an object and the resource that is signed for it are put together apart, and only the
resource drops slashes in front of the object path. Since an object path never begins with a slash,
they agree: an address is the resource below the endpoint, or on the bucket's own host the resource
without its bucket.

What two keys have in common at one destination is decided by their object paths. Slashes in front
of a key do not count there, and nothing else is lost. So far for the text of an address: a
transport resolves the dot segments in it, and without them reads different addresses as different
ones.

## Main Definitions

* `Store.Request.url_eq_iff` — when two keys share an object
* `trimStart_objectKey` — the object key of a photo without the slashes in front
* `Store.IsPlainBase`, `Store.Request.read?_url_eq_iff` — when two keys are sent to one target
* `Store.Request.url_append_resource` — the address of an object by the resource that is signed
-/

namespace PreviewSync

open Text (isSlash trimStart)

/-! ### Shared objects -/

/-- The object key of a photo ends as it does whatever slashes are in front. The ending is no slash,
so there is something left even of a key that is nothing but slashes. -/
theorem trimStart_objectKey (key : String) :
    trimStart isSlash (objectKey key) = objectKey (trimStart isSlash key) := by
  have ending : ".jpg".toList.dropWhile isSlash = ".jpg".toList := by decide
  rw [trimStart, objectKey, objectKey, String.toList_append, List.dropWhile_append, trimStart]
  split
  · rename_i empty
    rw [List.isEmpty_iff.1 empty, ending]
    rfl
  · rw [String.ofList_append, String.ofList_toList]

/-- Two photos have object keys that are the same behind their slashes in front iff their own keys
are. -/
theorem trimStart_objectKey_eq_iff {key other : String} :
    trimStart isSlash (objectKey key) = trimStart isSlash (objectKey other) ↔
      trimStart isSlash key = trimStart isSlash other := by
  rw [trimStart_objectKey, trimStart_objectKey, objectKey, objectKey, String.append_left_inj]

/-- An endpoint, if there is one, and a bucket below which a transport reads the address of every
object as one. An endpoint may have a path of its own, but neither blanks nor a query, since object
paths are put behind it as it stands; nor is a bucket encoded, so it has to be plain itself. Whether
there is a server at such an address is another matter. -/
structure Store.IsPlainBase (endpoint : Option String) (bucket : String) : Prop where
  chars : ∀ site ∈ endpoint, ∀ c ∈ site.toList, 32 < c.toNat ∧ c ≠ '?' ∧ c ≠ '#'
  letters : ∀ c ∈ bucket.toList, c.isAlphanum = true ∨ c = '-' ∨ c = '.'
  filled : bucket ≠ ""

namespace Store.Request

variable {key other : String}

/-- Two keys share an address iff they are the same behind their slashes in front. Slashes inside a
key and at its end do count. -/
theorem url_eq_iff (request : Request) :
    request.url key = request.url other ↔ trimStart isSlash key = trimStart isSlash other := by
  rw [← request.registration.destination.objectPath_eq_iff, url, url, String.append_right_inj]
  exact ⟨ObjectPath.encode_injective, congrArg _⟩

/-- Two photos share an address iff their keys are the same behind their slashes in front. -/
theorem url_objectKey_eq_iff (request : Request) :
    request.url (objectKey key) = request.url (objectKey other) ↔
      trimStart isSlash key = trimStart isSlash other := by
  rw [url_eq_iff, trimStart_objectKey_eq_iff]

/-- A plain base is a site: below an endpoint it ends with the bucket, and otherwise with the host,
and both are made of what stands in the names of servers. -/
theorem isSite_base {request : Request}
    (plain : IsPlainBase request.endpoint request.registration.destination.bucket) :
    Wire.IsSite request.base := by
  have bucket : ∀ c ∈ request.registration.destination.bucket.toList, Wire.IsNameChar c :=
    plain.letters
  unfold base
  dsimp only
  cases located : request.endpoint with
  -- Here the bucket is the end of the base, which is why it must not be empty.
  | some site =>
    refine .of_name plain.filled bucket fun c member => ?_
    rw [String.toList_append, List.mem_append] at member
    rcases member with inSite | slash
    · exact plain.chars site located c inSite
    · obtain rfl : c = '/' := by simpa using slash
      decide
  | none =>
    refine .of_name (by decide) (Text.forall_mem_of_all (by decide)) fun c member => ?_
    rw [String.toList_append, List.mem_append] at member
    rcases member with scheme | inBucket
    · exact Text.forall_mem_of_all (p := fun c => 32 < c.toNat ∧ c ≠ '?' ∧ c ≠ '#') (by decide) c
        scheme
    · exact (Wire.plain_of_isNameChar (bucket c inBucket)).1

/-- Below a plain base, two keys whose object paths have no dot segments are sent to one target iff
they are the same behind their slashes in front. -/
theorem read?_url_eq_iff {request : Request}
    (plain : IsPlainBase request.endpoint request.registration.destination.bucket)
    (noDots : ¬ Wire.HasDots (request.registration.destination.objectPath key))
    (noDots' : ¬ Wire.HasDots (request.registration.destination.objectPath other))
    {address : Wire.Address} (read : Wire.Address.read? (request.url key) = some address) :
    Wire.Address.read? (request.url other) = some address ↔
      trimStart isSlash other = trimStart isSlash key := by
  rw [← request.registration.destination.objectPath_eq_iff]
  exact Wire.read?_eq_iff (isSite_base plain) noDots noDots' read

/-! ### The signed resource -/

/-- The resource that is signed for an object, in one piece. It is made from bucket and object path
in the same way for both forms of addresses. -/
theorem resource_objectPath (destination : Destination) (key : String) :
    Signature.resource destination.bucket (destination.objectPath key) =
      "/" ++ destination.bucket ++ ("/" ++ ObjectPath.encode (destination.objectPath key)) := by
  rw [Wire.resource_eq, trimStart, Wire.dropWhile_objectPath, String.ofList_toList,
    String.append_assoc]

/-- Below an endpoint, an address ends with the whole resource. -/
theorem url_of_endpoint {request : Request} {site : String}
    (located : request.endpoint = some site) (key : String) :
    request.url key = site ++ Signature.resource request.registration.destination.bucket
      (request.registration.destination.objectPath key) := by
  rw [resource_objectPath, url, base, located]
  simp only [String.append_assoc]

/-- On the bucket's own host, an address ends with what stands behind the bucket. -/
theorem url_of_host {request : Request} (hosted : request.endpoint = none) (key : String) :
    ∃ path : String,
      Signature.resource request.registration.destination.bucket
          (request.registration.destination.objectPath key) =
        "/" ++ request.registration.destination.bucket ++ path ∧
      request.url key =
        "https://" ++ request.registration.destination.bucket ++ ".s3.amazonaws.com" ++ path := by
  refine ⟨_, resource_objectPath _ key, ?_⟩
  rw [url, base, hosted, String.append_assoc]

/-- The address of an object names exactly the resource that is signed for it: that with which the
signed text ends. Below an endpoint, whose slashes at the end do not count, the address ends with
the whole resource; on the bucket's own host, with what stands behind the bucket. Both are made from
the object path by one encoding, so they cannot differ in an escape. -/
theorem url_append_resource (config : Config) (registration : Registration) (cancelled : Bool)
    (phase : Phase) (verb : Verb) (key : String) (payload : Option Payload) (now : Instant) :
    let request : Request :=
      { registration, endpoint := (Client.ofConfig config).endpoint, cancelled, phase }
    let profile := registration.profile
    let destination := registration.destination
    let resource := Signature.resource destination.bucket (destination.objectPath key)
    let text := verb.name ++ "\n"
      ++ ((payload.map fun sent => Signature.contentMd5 sent.body).getD "") ++ "\n"
      ++ ((payload.map fun sent => sent.contentType).getD "") ++ "\n"
      ++ HttpDate.write now ++ "\n" ++ resource
    (Signature.Headers.make profile destination verb key payload now).map (·.authorization) =
        (Signature.checkIdentity profile destination.bucket).map (fun _ =>
          Signature.token profile.keyId (Signature.signatureOf profile.secret text)) ∧
      match config.endpoint with
      | some endpoint =>
        ∃ site slashes : String, endpoint = site ++ slashes ∧
          (∀ c ∈ slashes.toList, c = '/') ∧ site.toList.getLast? ≠ some '/' ∧
          request.url key = site ++ resource
      | none =>
        ∃ path : String, resource = "/" ++ destination.bucket ++ path ∧
          request.url key = "https://" ++ destination.bucket ++ ".s3.amazonaws.com" ++ path := by
  intro request profile destination resource text
  constructor
  · have signed : Signature.stringToSign (Signature.inputFor destination verb key payload now) =
        text := Signature.stringToSign_inputFor
    rw [Signature.Headers.make_eq, ← signed]
    cases Signature.checkIdentity profile destination.bucket <;> rfl
  · cases setting : config.endpoint with
    | none =>
      have hosted : request.endpoint = none := congrArg (Option.map _) setting
      exact url_of_host hosted key
    | some endpoint =>
      have located : request.endpoint = some (Text.trimEnd isSlash endpoint) :=
        congrArg (Option.map _) setting
      obtain ⟨slashes, parts, trimmed, last⟩ := Text.exists_trimEnd isSlash endpoint
      refine ⟨Text.trimEnd isSlash endpoint, slashes, parts,
        fun c member => beq_iff_eq.1 (trimmed c member), ?_, url_of_endpoint located key⟩
      intro slash
      exact Bool.noConfusion (last '/' slash)

end Store.Request

end PreviewSync
