import Mathlib.Data.List.Basic
import PreviewSync.Config.Environment
import PreviewSync.Proofs.Signature.Resource
import PreviewSync.Proofs.Wire.Authority
import PreviewSync.Store.Registry

/-!
# Servers of an endpoint

The check of a configuration looks at the beginning of an endpoint, and a client removes the slashes
at its end. If nothing stands between the two, the slashes of the scheme are removed as well: the
base is then a scheme with a colon, and a transport takes the bucket behind it for the server. A
variable of the environment is trimmed before the check, which refuses what is left of such a value.

Whose server a request goes to is decided by what stands behind the scheme. If there is anything but
slashes of either kind, tabs and line breaks, the authority is read there and ends there at the
latest. Otherwise all of it is read off bucket and key.

## Main Definitions

* `Config.hasScheme_iff` — the endpoints that are accepted
* `Store.IsBase` — a scheme, and something else than slashes behind it
* `Store.Client.Derives` — what a client makes of an endpoint
* `Store.Client.derives_of_validate` — for every endpoint that is accepted
-/

namespace PreviewSync

open Text (isSlash trimEnd)

variable {config : Config} {endpoint scheme rest : String}

/-! ### Accepted endpoints -/

/-- Behind one of the known schemes and its slashes, an endpoint may be anything. That includes
nothing at all. -/
theorem Config.hasScheme_iff :
    hasScheme endpoint = true ↔
      ∃ scheme rest : String, (scheme = "http" ∨ scheme = "https") ∧
        endpoint = scheme ++ "://" ++ rest := by
  rw [hasScheme, Bool.or_eq_true, List.isPrefixOf_iff_prefix, List.isPrefixOf_iff_prefix]
  constructor
  · rintro (⟨rest, chars⟩ | ⟨rest, chars⟩)
    · refine ⟨"http", String.ofList rest, .inl rfl, ?_⟩
      rw [← String.ofList_toList (s := endpoint), ← chars, String.ofList_append]
      rfl
    · refine ⟨"https", String.ofList rest, .inr rfl, ?_⟩
      rw [← String.ofList_toList (s := endpoint), ← chars, String.ofList_append]
      rfl
  · rintro ⟨scheme, rest, rfl | rfl, rfl⟩
    · exact .inl ⟨rest.toList, String.toList_append.symm⟩
    · exact .inr ⟨rest.toList, String.toList_append.symm⟩

/-- An endpoint that passes the check begins with a scheme. The check asks for nothing else. -/
theorem Config.hasScheme_of_validate (set : config.endpoint = some endpoint)
    (valid : config.validate = .ok ()) : hasScheme endpoint = true := by
  unfold validate at valid
  rw [set] at valid
  split at valid
  · cases valid
  split at valid
  · cases valid
  split at valid
  · cases valid
  dsimp only at valid
  split at valid
  · assumption
  · cases valid

/-- An endpoint that is read from the environment does not end with a slash. -/
theorem Config.last_of_ofEnvironment {env : Environment}
    (set : (ofEnvironment env).1.endpoint = some endpoint) :
    ∀ c ∈ endpoint.toList.getLast?, isSlash c = false := by
  obtain ⟨raw, -, read⟩ := Option.bind_eq_some_iff.1 set
  obtain ⟨-, -, -, last⟩ := Text.exists_trimEnd isSlash (Text.trim Text.isBlank raw)
  rw [readEndpoint] at read
  split at read
  · exact absurd read (Option.some_ne_none _).symm
  · rwa [← Option.some.inj read]

/-! ### Bases -/

theorem scheme_slashes (scheme rest : String) :
    scheme ++ "://" ++ rest = scheme ++ ":" ++ ("//" ++ rest) := by
  have slashes : "://" = ":" ++ "//" := rfl
  rw [slashes, String.append_assoc, String.append_assoc, String.append_assoc]

/-- Behind the colon of a scheme, only the rest is trimmed. The slashes of the scheme are part of
that rest, so they go as well when only slashes follow. -/
theorem trimEnd_scheme (scheme rest : String) :
    trimEnd isSlash (scheme ++ ":" ++ rest) = scheme ++ ":" ++ trimEnd isSlash rest := by
  refine Text.trimEnd_append ?_ rest
  intro c last
  rw [Wire.eq_colon_of_last last]
  decide

/-- Without the slashes at its end, an endpoint still has its scheme and the colon. The slashes of
the scheme are at the end if only slashes follow. -/
theorem trimEnd_endpoint (scheme rest : String) :
    trimEnd isSlash (scheme ++ "://" ++ rest) =
      if rest.toList.all isSlash then scheme ++ ":"
      else scheme ++ "://" ++ trimEnd isSlash rest := by
  split
  · rename_i all
    have slashes : ∀ c ∈ ("//" ++ rest).toList, isSlash c = true := by
      rw [String.toList_append, List.forall_mem_append]
      exact ⟨Text.forall_mem_of_all (by decide), List.all_eq_true.1 all⟩
    rw [scheme_slashes, trimEnd_scheme, Text.trimEnd_eq_empty slashes, String.append_empty]
  · rename_i notAll
    exact Text.trimEnd_append_of_exists _ (by simpa using notAll)

namespace Store

open Wire (IsAuthority authorityOf opensAuthority unbroken)

/-- A known scheme with its slashes, and something else than slashes behind them. -/
def IsBase (site : String) : Prop :=
  ∃ scheme rest : String, (scheme = "http" ∨ scheme = "https") ∧ site = scheme ++ "://" ++ rest ∧
    ∃ c ∈ rest.toList, isSlash c = false

/-- A scheme with its colon is no base. It is what is left of an endpoint without a server. -/
theorem not_isBase_of_scheme (isScheme : scheme = "http" ∨ scheme = "https") :
    ¬ IsBase (scheme ++ ":") := by
  rintro ⟨other, rest, isOther, same, c, member, -⟩
  have short : (scheme ++ ":").length ≤ 6 := by
    rcases isScheme with rfl | rfl <;> decide
  have long : 7 ≤ (other ++ "://").length := by
    rcases isOther with rfl | rfl <;> decide
  rw [same, String.length_append] at short
  omega

/-- What is left of an endpoint is a base iff there is something else than slashes. The check does
not see to that. -/
theorem isBase_trimEnd_iff (isScheme : scheme = "http" ∨ scheme = "https") :
    IsBase (trimEnd isSlash (scheme ++ "://" ++ rest)) ↔ ∃ c ∈ rest.toList, isSlash c = false := by
  rw [trimEnd_endpoint]
  split
  · rename_i all
    refine iff_of_false (not_isBase_of_scheme isScheme) ?_
    rintro ⟨c, member, solid⟩
    rw [List.all_eq_true.1 all c member] at solid
    cases solid
  · rename_i notAll
    have some : ∃ c ∈ rest.toList, isSlash c = false := by simpa using notAll
    refine iff_of_true ?_ some
    obtain ⟨c, member, solid⟩ := some
    exact ⟨scheme, _, isScheme, rfl, c, Text.mem_trimEnd member solid, solid⟩

/-! ### Authorities -/

/-- What is put behind a base: bucket and object path. It is the signed resource without its first
slash, so the base has nothing to do with what is signed. -/
def Request.location (request : Request) (key : String) : String :=
  request.registration.destination.bucket ++ "/" ++
    ObjectPath.encode (request.registration.destination.objectPath key)

/-- An address does not end with a blank or a control character. -/
theorem Request.last_of_location (request : Request) (front key : String) :
    ∀ c ∈ (front ++ request.location key).toList.getLast?, Wire.isMargin c = false := by
  intro c last
  have chars : (front ++ request.location key).toList =
      (front ++ request.registration.destination.bucket).toList ++ '/' ::
        (ObjectPath.encode (request.registration.destination.objectPath key)).toList := by
    simp [location]
  rw [chars, List.getLast?_append_cons] at last
  have visible : 32 < c.toNat := by
    rcases List.mem_cons.1 (List.mem_of_getLast? last) with rfl | inPath
    · decide
    · exact ObjectPath.lt_of_isPathChar (ObjectPath.isPathChar_of_mem_encode inPath)
  rw [Wire.isMargin, decide_eq_false_iff_not]
  omega

variable {request : Request}

/-- The address below what is left of an endpoint. -/
theorem Request.url_of_scheme
    (located : request.endpoint = some (trimEnd isSlash (scheme ++ "://" ++ rest)))
    (key : String) :
    request.url key =
      scheme ++ ":" ++ (trimEnd isSlash ("//" ++ rest) ++ "/" ++ request.location key) := by
  rw [url, base, located, scheme_slashes, trimEnd_scheme, location]
  simp only [String.append_assoc]

/-- What is read as the authority of an address below what is left of an endpoint. -/
theorem Request.isAuthority_of_scheme (isScheme : scheme = "http" ∨ scheme = "https")
    (located : request.endpoint = some (trimEnd isSlash (scheme ++ "://" ++ rest)))
    (key : String) :
    IsAuthority (request.url key)
      (authorityOf (unbroken
        (if rest.toList.any opensAuthority then rest else request.location key))) := by
  -- The slashes of the scheme are skipped where an authority is looked for.
  have slash : opensAuthority '/' = false := by decide
  have kept : (∃ c ∈ (trimEnd isSlash ("//" ++ rest)).toList, opensAuthority c = true) ↔
      rest.toList.any opensAuthority = true := by
    rw [Wire.opens_trimEnd_iff, String.toList_append, List.any_eq_true]
    simp [slash]
  have read := Wire.isAuthority_of_scheme isScheme (request.last_of_location
    (trimEnd isSlash ("//" ++ rest) ++ "/") key)
  rw [request.url_of_scheme located]
  split
  · rename_i opens
    have skipped : authorityOf (unbroken ("//" ++ rest)) = authorityOf (unbroken rest) := by
      rw [Wire.unbroken_append]
      exact Wire.authorityOf_append_of_separators (Text.forall_mem_of_all (by decide)) _
    rwa [Wire.authorityOf_of_opens (kept.2 opens),
      Wire.authorityOf_trimEnd (Wire.opens_trimEnd_iff.1 (kept.2 opens)), skipped] at read
  · rename_i none
    rwa [Wire.authorityOf_of_not_opens (mt kept.1 none)] at read

/-- A bucket without special characters is read as a whole. It takes the place of a missing server.
-/
theorem Request.authorityOf_location (filled : request.registration.destination.bucket ≠ "")
    (inside : ∀ c ∈ request.registration.destination.bucket.toList,
      Wire.endsAuthority c = false ∧ Wire.isBreak c = false) (key : String) :
    authorityOf (unbroken (request.location key)) =
      request.registration.destination.bucket.toList := by
  have slash : unbroken "/" = ['/'] := rfl
  have whole : unbroken request.registration.destination.bucket =
      request.registration.destination.bucket.toList := by
    rw [unbroken, List.filter_eq_self]
    intro c member
    rw [(inside c member).2]
    rfl
  rw [location, Wire.unbroken_append, Wire.unbroken_append, slash, whole, List.append_assoc]
  refine Wire.authorityOf_name ?_ (fun c member => (inside c member).1) _
  rwa [Ne, String.toList_eq_nil_iff]

/-! ### What a client makes of an endpoint -/

/-- What a client makes of an endpoint with a scheme and something behind it. -/
structure Client.Derives (client : Client) (scheme rest : String) : Prop where
  /-- Slashes at the end are removed, and those of the scheme with them if only slashes follow. -/
  base : client.endpoint = some
    (if rest.toList.all isSlash then scheme ++ ":"
      else scheme ++ "://" ++ trimEnd isSlash rest)
  isBase_iff : (∃ site, client.endpoint = some site ∧ IsBase site) ↔
    ∃ c ∈ rest.toList, isSlash c = false
  /-- The authority comes from the endpoint if there is one to be found in it. -/
  own : (∃ c ∈ rest.toList, opensAuthority c = true) →
    ∀ request : Request, request.endpoint = client.endpoint →
      ∀ key, IsAuthority (request.url key) (authorityOf (unbroken rest))
  /-- Otherwise it comes from bucket and key. -/
  foreign : (¬ ∃ c ∈ rest.toList, opensAuthority c = true) →
    ∀ request : Request, request.endpoint = client.endpoint →
      ∀ key, IsAuthority (request.url key) (authorityOf (unbroken (request.location key)))

theorem Client.derives_of_scheme (isScheme : scheme = "http" ∨ scheme = "https")
    (set : config.endpoint = some (scheme ++ "://" ++ rest)) :
    (Client.ofConfig config).Derives scheme rest := by
  have site : (Client.ofConfig config).endpoint =
      some (trimEnd isSlash (scheme ++ "://" ++ rest)) := by
    rw [ofConfig, set]
    rfl
  refine ⟨?_, ?_, ?_, ?_⟩
  · rw [site, trimEnd_endpoint]
  · rw [site, ← isBase_trimEnd_iff isScheme]
    simp
  · intro opens request located key
    have read := request.isAuthority_of_scheme isScheme (located.trans site) key
    rwa [if_pos (List.any_eq_true.2 opens)] at read
  · intro none request located key
    have read := request.isAuthority_of_scheme isScheme (located.trans site) key
    rwa [if_neg (mt List.any_eq_true.1 none)] at read

/-- Of an endpoint that is read from the environment and has a scheme, a base is left. Trimming
comes before the check there, so an endpoint without a server fails it. -/
theorem Client.isBase_of_ofEnvironment {env : Config.Environment}
    (set : (Config.ofEnvironment env).1.endpoint = some (scheme ++ "://" ++ rest)) :
    ∃ c ∈ rest.toList, isSlash c = false := by
  have same := Text.trimEnd_of_last (Config.last_of_ofEnvironment set)
  rw [trimEnd_endpoint] at same
  split at same
  · -- The slashes of the scheme would have been removed when the variable was read.
    have lengths := congrArg String.length same
    have colon : ":".length = 1 := rfl
    have slashes : "://".length = 3 := rfl
    rw [String.length_append, String.length_append, String.length_append] at lengths
    omega
  · rename_i notAll
    simpa using notAll

/-- Every endpoint that is accepted has a scheme, and what stands behind it decides what a client
makes of the endpoint. Of one that is read from the environment, a base is always left. -/
theorem Client.derives_of_validate (set : config.endpoint = some endpoint)
    (valid : config.validate = .ok ()) :
    ∃ scheme rest : String, (scheme = "http" ∨ scheme = "https") ∧
      endpoint = scheme ++ "://" ++ rest ∧ (Client.ofConfig config).Derives scheme rest ∧
      ∀ env, (Config.ofEnvironment env).1 = config →
        ∃ site, (Client.ofConfig config).endpoint = some site ∧ IsBase site := by
  obtain ⟨scheme, rest, isScheme, rfl⟩ :=
    Config.hasScheme_iff.1 (Config.hasScheme_of_validate set valid)
  have derives := Client.derives_of_scheme isScheme set
  refine ⟨scheme, rest, isScheme, rfl, derives, ?_⟩
  rintro env rfl
  exact derives.isBase_iff.2 (Client.isBase_of_ofEnvironment set)

/-- A server on the same machine, with a slash behind it. -/
theorem Client.derives_of_local :
    let config : Config := { endpoint := some "http://127.0.0.1:9000/" }
    config.validate = .ok () ∧
      ∃ scheme rest : String, (scheme = "http" ∨ scheme = "https") ∧
        "http://127.0.0.1:9000/" = scheme ++ "://" ++ rest ∧
        (Client.ofConfig config).Derives scheme rest ∧
        ∀ env, (Config.ofEnvironment env).1 = config →
          ∃ site, (Client.ofConfig config).endpoint = some site ∧ IsBase site := by
  intro config
  have valid : config.validate = .ok () := by decide
  exact ⟨valid, Client.derives_of_validate rfl valid⟩

/-- A scheme alone is accepted as well. No base is left of it, and the bucket is read as the
authority, so a transport connects to a server of that name. -/
theorem Client.not_isBase_of_validate :
    let config : Config := { endpoint := some "http://" }
    config.validate = .ok () ∧ (Client.ofConfig config).endpoint = some "http:" ∧
      ¬ IsBase "http:" ∧
      ∀ request : Request, request.endpoint = some "http:" →
        request.registration.destination.bucket = "photos" → ∀ key,
          IsAuthority (request.url key) "photos".toList ∧
            Wire.readServer? "photos".toList = some ("photos", none) := by
  intro config
  have derives : (Client.ofConfig config).Derives "http" "" :=
    Client.derives_of_scheme (.inl rfl) rfl
  have noBase : ¬ IsBase ("http" ++ ":") := not_isBase_of_scheme (.inl rfl)
  refine ⟨by decide, by decide, noBase, ?_⟩
  intro request located bucket key
  have base : request.endpoint = (Client.ofConfig config).endpoint := located
  have read := derives.foreign (by simp) request base key
  have filled : request.registration.destination.bucket ≠ "" := by
    rw [bucket]
    decide
  have inside : ∀ c ∈ request.registration.destination.bucket.toList,
      Wire.endsAuthority c = false ∧ Wire.isBreak c = false := by
    rw [bucket]
    exact Text.forall_mem_of_all (by decide)
  rw [request.authorityOf_location filled inside key, bucket] at read
  exact ⟨read, rfl⟩

end Store

end PreviewSync
