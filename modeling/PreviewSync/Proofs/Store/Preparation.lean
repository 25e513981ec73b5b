import PreviewSync.Proofs.Store.Bindings

/-!
# What a request is refused for

A client registers complete destinations only, so whatever is done, names stand for complete
destinations and requests are made with such. Nothing is then left that a token could be refused
for: the digest of a body is always the written form of a digest, and a keyed digest takes secrets
of any length. So what is put on the wire is refused for its length only.

## Main Definitions

* `Request.prepare_cases` — the preparation of an operation, by the two lengths alone
* `Book.IsComplete` — everything that is written down is complete, with `Book.IsComplete.after`
* `Fleet.prepare_of_run` — what the requests of a run are refused for
-/

namespace PreviewSync.Store

/-- With complete credentials, the preparation of an operation depends on the lengths of key and
address only. What is put on the wire then carries the token of the request. -/
theorem Request.prepare_cases {request : Request} (h : request.registration.IsComplete)
    (verb : Verb) (key : String) (payload : Option Payload) (now : Instant) :
    let prepared := request.prepare verb key payload now
    let keyLength := key.utf8ByteSize
    let urlLength := (request.url key).utf8ByteSize
    let profile := request.registration.profile
    let input := Signature.inputFor request.registration.destination verb key payload now
    (maxKeyLength < keyLength ∧ prepared = .error (.keyTooLong keyLength)) ∨
    (keyLength ≤ maxKeyLength ∧ maxUrlLength < urlLength ∧
      prepared = .error (.urlTooLong urlLength)) ∨
    (keyLength ≤ maxKeyLength ∧ urlLength ≤ maxUrlLength ∧
      prepared = .ok ⟨verb, request.url key,
        ⟨Signature.token profile.keyId
            (Signature.signatureOf profile.secret (Signature.stringToSign input)),
          input.date, input.contentMd5⟩, payload⟩) := by
  have accepted : Signature.checkIdentity request.registration.profile
      request.registration.destination.bucket = .ok () := Signature.checkIdentity_eq_ok.2 h
  have issued := Signature.Headers.make_eq request.registration.profile
    request.registration.destination verb key payload now
  dsimp only at issued ⊢
  rw [accepted] at issued
  unfold prepare
  dsimp only
  rw [accepted, issued]
  by_cases longKey : maxKeyLength < key.utf8ByteSize
  · exact .inl ⟨longKey, if_pos longKey⟩
  rw [if_neg longKey]
  by_cases longUrl : maxUrlLength < (request.url key).utf8ByteSize
  · exact .inr (.inl ⟨Nat.le_of_not_lt longKey, longUrl, if_pos longUrl⟩)
  rw [if_neg longUrl]
  exact .inr (.inr ⟨Nat.le_of_not_lt longKey, Nat.le_of_not_lt longUrl, rfl⟩)

/-! ### Everything that is registered is complete -/

namespace Book

/-- Names stand for complete destinations, and requests were made with such. It is the reason why no
request of a run is refused for what a token could be refused for. -/
structure IsComplete (book : Book) : Prop where
  bound : ∀ name meaning, book.bound name = some meaning →
    (Registration.ofMeaning name meaning).IsComplete
  made : ∀ registration ∈ book.made, registration.IsComplete

namespace IsComplete

variable {book : Book}

theorem empty : IsComplete {} where
  bound := nofun
  made := nofun

/-- A name may be bound to anything that is complete, or to nothing. To be bound to nothing is
complete in itself. -/
theorem bind (h : book.IsComplete) {identifier : String}
    {meaning : Option (AccessProfile × Destination)}
    (complete : ∀ new ∈ meaning, (Registration.ofMeaning identifier new).IsComplete) :
    (book.bind identifier meaning).IsComplete where
  bound name other found := by
    unfold Book.bind at found
    dsimp only at found
    split at found
    · rename_i same
      rw [same]
      exact complete other found
    · exact h.bound name other found
  made := h.made

/-- What is admitted is complete. -/
theorem register (h : book.IsComplete) (identifier : String) (profile : AccessProfile)
    (destination : Destination) : (book.register identifier profile destination).IsComplete := by
  unfold Book.register
  split
  · rename_i admitted
    obtain ⟨keyId, secret, bucket, -⟩ := admitted
    refine h.bind ?_
    rintro _ ⟨⟩
    exact ⟨keyId, secret, bucket⟩
  · exact h

theorem enter (h : book.IsComplete) (document : ProfilesDocument)
    (named : String × DestinationEntry) : (book.enter document named).IsComplete := by
  unfold Book.enter
  split
  · exact h.register _ _ _
  · exact h

/-- Whatever document is loaded, its entries are admitted one by one. So an incomplete entry is
never bound, whatever else the document holds. -/
theorem load (h : book.IsComplete) (content : Except Disk.Fault Bytes) :
    (book.load content).IsComplete := by
  unfold Book.load
  split
  · exact h
  · split
    · exact h
    · split
      · exact h
      · exact List.foldlRecOn _ _ h fun next complete named _ => complete.enter _ named

/-- A request is made with what its name stands for. -/
theorem create (h : book.IsComplete) (identifier : String) :
    (book.create identifier).IsComplete := by
  unfold Book.create
  split
  · rename_i profile destination meaning
    refine ⟨h.bound, fun registration member => ?_⟩
    rcases List.mem_append.1 member with before | new
    · exact h.made registration before
    · rw [List.mem_singleton.1 new]
      exact h.bound identifier (profile, destination) meaning
  · exact h

theorem step (h : book.IsComplete) (turn : Turn) : (book.step turn).IsComplete := by
  cases turn with
  | register identifier profile destination => exact h.register identifier profile destination
  | remove identifier => exact h.bind nofun
  | removeAll => exact ⟨nofun, h.made⟩
  | load content => exact h.load content
  | create identifier => exact h.create identifier
  | free | leak | call | drop => exact ⟨h.bound, h.made⟩

/-- Whatever is done, nothing incomplete is written down. -/
theorem after (turns : List Turn) : (Book.after turns).IsComplete :=
  List.foldlRecOn turns Book.step empty fun _ h turn _ => h.step turn

end IsComplete

end Book

namespace Fleet

variable {fleet : Fleet} {turns : List Turn} {config : Config} {number : Nat} {request : Request}

/-- In every run, a request has complete credentials and a bucket. So faults of signing cannot
occur, and only lengths are left to be checked. -/
theorem isComplete_of_run (ran : (start config).run turns = some fleet)
    (found : fleet.request? number = some request) : request.registration.IsComplete := by
  have follows : fleet.Follows (Book.after turns) (Client.ofConfig config).endpoint :=
    (Follows.start config).run ran
  obtain ⟨⟨registration, made, frame⟩, -⟩ := follows.request number request found
  rw [show request.registration = registration from congrArg Prod.fst frame]
  exact (Book.IsComplete.after turns).made registration (List.mem_of_getElem? made)

/-- In every run, what a request puts on the wire is refused for the length of the key, or else for
that of the address, and for nothing else: never for what a token could be refused for. Otherwise it
carries the token of its credentials, whatever the secret is, and a digest that anybody with
complete credentials issues a token for. -/
theorem prepare_of_run (ran : (start config).run turns = some fleet)
    (found : fleet.request? number = some request) (verb : Verb) (key : String)
    (payload : Option Payload) (now : Instant) :
    let prepared := request.prepare verb key payload now
    let keyLength := key.utf8ByteSize
    let urlLength := (request.url key).utf8ByteSize
    (∀ length, prepared = .error (.keyTooLong length) ↔ 1024 < keyLength ∧ length = keyLength) ∧
    (∀ length, prepared = .error (.urlTooLong length) ↔
      keyLength ≤ 1024 ∧ 2048 < urlLength ∧ length = urlLength) ∧
    ((∃ dispatch, prepared = .ok dispatch) ↔ keyLength ≤ 1024 ∧ urlLength ≤ 2048) ∧
    (∀ rejection, prepared = .error rejection →
      rejection = .keyTooLong keyLength ∨ rejection = .urlTooLong urlLength) ∧
    (∀ fault, prepared ≠ .error (.signing fault)) ∧
    ∀ dispatch, prepared = .ok dispatch →
      dispatch.headers.authorization = Signature.token request.registration.profile.keyId
        (Signature.signatureOf request.registration.profile.secret (Signature.stringToSign
          (Signature.inputFor request.registration.destination verb key payload now))) ∧
      dispatch.headers.contentMd5 = payload.map (fun sent => Signature.contentMd5 sent.body) ∧
      ∀ (input : Signature.Input) (profile : AccessProfile),
        input.contentMd5 = dispatch.headers.contentMd5 →
        Signature.checkIdentity profile input.bucket = .ok () →
        ∃ authorization, Signature.sign input profile = .ok authorization := by
  have ended := Request.prepare_cases (isComplete_of_run ran found) verb key payload now
  dsimp only [maxKeyLength, maxUrlLength] at ended ⊢
  generalize request.prepare verb key payload now = prepared at ended ⊢
  generalize key.utf8ByteSize = keyLength at ended ⊢
  generalize (request.url key).utf8ByteSize = urlLength at ended ⊢
  rcases ended with ⟨long, rfl⟩ | ⟨short, long, rfl⟩ | ⟨shortKey, shortUrl, rfl⟩
  · have notShort : ¬ keyLength ≤ 1024 := Nat.not_le_of_lt long
    simp [long, notShort, eq_comm]
  · have notLong : ¬ 1024 < keyLength := Nat.not_lt_of_le short
    have notShort : ¬ urlLength ≤ 2048 := Nat.not_le_of_lt long
    simp [short, long, notLong, notShort, eq_comm]
  · have notLong : ¬ 1024 < keyLength := Nat.not_lt_of_le shortKey
    have notLongUrl : ¬ 2048 < urlLength := Nat.not_lt_of_le shortUrl
    refine ⟨by simp [notLong], by simp [notLongUrl], by simp [shortKey, shortUrl], nofun, nofun, ?_⟩
    rintro _ ⟨⟩
    refine ⟨rfl, rfl, fun input profile carried identity => ?_⟩
    have digest : Signature.checkContentMd5 input.contentMd5 = .ok () := by
      rw [carried]
      exact Signature.checkContentMd5_map payload
    exact ⟨_, Signature.sign_eq_ok.2 ⟨identity, digest, rfl⟩⟩

/-- A request that outlives the registration of its name. -/
def turnsOfOne : List Turn :=
  [.register "home" ⟨"AKID", "SECRET"⟩ ⟨"photos", "lr"⟩, .create "home", .remove "home"]

/-- A request whose destination is gone still puts a short key on the wire. -/
theorem prepare_of_one :
    ∃ fleet request, (start {}).run turnsOfOne = some fleet ∧ fleet.request? 0 = some request ∧
      ∃ dispatch, request.prepare .put "a.jpg" (some ⟨[1], "image/jpeg"⟩) .epoch = .ok dispatch ∧
        Signature.checkContentMd5 dispatch.headers.contentMd5 = .ok () := by
  have seen : (((start {}).run turnsOfOne).bind (·.request? 0)).map
      (fun request => (request.url "a.jpg").utf8ByteSize) = some 40 := by
    decide +kernel
  obtain ⟨request, there, length⟩ := Option.map_eq_some_iff.1 seen
  obtain ⟨fleet, ran, found⟩ := Option.bind_eq_some_iff.1 there
  obtain ⟨-, -, ready, -, -, digest⟩ :=
    prepare_of_run ran found .put "a.jpg" (some ⟨[1], "image/jpeg"⟩) .epoch
  obtain ⟨dispatch, prepared⟩ := ready.2 ⟨by decide, by omega⟩
  refine ⟨fleet, request, ran, found, dispatch, prepared, ?_⟩
  rw [(digest dispatch prepared).2.1]
  exact Signature.checkContentMd5_map _

end Fleet

end PreviewSync.Store
