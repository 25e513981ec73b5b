import PreviewSync.Proofs.Signature.Token
import PreviewSync.Proofs.Store.Operation
import PreviewSync.Store.Reports

/-!
# Redaction

A client whose secrets have been blotted out, so that nothing of them is left but whether they are
empty, does the same as before: what it answers, reports and shows is the same, and what it sends is
the same but for the signature. So none of it tells anything about the secrets.

## Main Definitions

* `AccessProfile.redacted`, `Client.redacted`, `Request.redacted`, `ProfilesDocument.redacted` —
  what is left when the secrets are blotted out
* `Dispatch.withoutSignature` — what is sent, up to the last colon of the token
* `Request.perform_redacted`, `Client.registerAll_redacted` — operations and loading do the same
-/

namespace PreviewSync

/-- What is left of a secret that is blotted out: whether it is empty. That much has to be left,
since an empty secret is refused and another is not. -/
def blot (secret : String) : String :=
  if secret.isEmpty then "" else "*"

theorem isEmpty_blot (secret : String) : (blot secret).isEmpty = secret.isEmpty := by
  unfold blot
  split
  · rename_i empty
    rw [empty]
    rfl
  · rename_i filled
    rw [Bool.not_eq_true] at filled
    rw [filled]
    decide

theorem blot_eq_blot {secret secret' : String} :
    blot secret = blot secret' ↔ (secret = "" ↔ secret' = "") := by
  rw [← String.isEmpty_iff, ← String.isEmpty_iff, blot, blot]
  cases secret.isEmpty <;> cases secret'.isEmpty <;> decide

namespace AccessProfile

/-- Credentials with the secret blotted out. That a secret is empty stays visible, as validation
tells it anyway. -/
def redacted (profile : AccessProfile) : AccessProfile :=
  { profile with secret := blot profile.secret }

/-- Credentials that differ in their secrets only, which are empty in neither or in both. This is
how two runs with different secrets are compared: both with a third one, in which the secrets are
blotted out. -/
theorem redacted_eq_iff {profile profile' : AccessProfile} :
    profile.redacted = profile'.redacted ↔
      profile.keyId = profile'.keyId ∧ (profile.secret = "" ↔ profile'.secret = "") := by
  rw [← blot_eq_blot, redacted, redacted, AccessProfile.mk.injEq]

end AccessProfile

/-! ### Signatures -/

namespace Signature

/-- Header values up to the last colon of the token. What follows it is the signature, which is
meant to depend on the secret. -/
def Headers.withoutSignature (headers : Headers) : Headers :=
  { headers with authorization := beforeLastColon headers.authorization }

theorem checkIdentity_redacted (profile : AccessProfile) (bucket : String) :
    checkIdentity profile.redacted bucket = checkIdentity profile bucket := by
  unfold checkIdentity AccessProfile.redacted
  rw [isEmpty_blot]

/-- Up to its last colon, a token does not depend on the secret. The key identifier may have colons
of its own, so the last one has to be taken. -/
theorem sign_redacted (input : Input) (profile : AccessProfile) :
    (sign input profile.redacted).map beforeLastColon =
      (sign input profile).map beforeLastColon := by
  have hidden : ∀ secret text, beforeLastColon (token profile.keyId (signatureOf secret text)) =
      "AWS " ++ profile.keyId := fun secret text =>
    beforeLastColon_token fun member => by
      have sign := isSign_of_mem_signatureOf member
      cases sign
  unfold sign
  rw [checkIdentity_redacted]
  cases checkIdentity profile input.bucket with
  | error => simp only [bind, Except.bind, Except.map]
  | ok =>
    cases checkContentMd5 input.contentMd5 with
    | error => simp only [bind, Except.bind, Except.map]
    | ok =>
      simp only [bind, Except.bind, Except.map]
      rw [show profile.redacted.keyId = profile.keyId from rfl, hidden, hidden]

/-- The header values of a request are the token and others that do not depend on the secret. -/
theorem Headers.make_withoutSignature (profile : AccessProfile) (destination : Destination)
    (verb : Verb) (key : String) (payload : Option Payload) (now : Instant) :
    (make profile destination verb key payload now).map withoutSignature =
      let input := inputFor destination verb key payload now
      ((sign input profile).map beforeLastColon).map fun authorization =>
        ⟨authorization, input.date, input.contentMd5⟩ := by
  unfold make
  dsimp only
  cases sign (inputFor destination verb key payload now) profile <;> rfl

theorem Headers.make_redacted (profile : AccessProfile) (destination : Destination) (verb : Verb)
    (key : String) (payload : Option Payload) (now : Instant) :
    (make profile.redacted destination verb key payload now).map withoutSignature =
      (make profile destination verb key payload now).map withoutSignature := by
  rw [make_withoutSignature, make_withoutSignature]
  dsimp only
  rw [sign_redacted]

end Signature

namespace Json.NameTable

variable {α β : Type}

/-- The table with every value changed. -/
def map (f : α → β) (t : NameTable α) : NameTable β :=
  ⟨t.toList.map fun entry => (entry.1, f entry.2), List.pairwise_map.2 t.sorted⟩

theorem find?_map (f : α → β) (t : NameTable α) (name : String) :
    (t.map f).find? name = (t.find? name).map f := by
  unfold find? map
  rw [List.find?_map, Option.map_map, Option.map_map]
  rfl

end Json.NameTable

namespace Store

/-! ### Requests -/

/-- What is sent, up to the last colon of the token. Behind it stands the signature, which must
depend on the secret. -/
def Dispatch.withoutSignature (dispatch : Dispatch) : Dispatch :=
  { dispatch with headers := dispatch.headers.withoutSignature }

/-- A registration with its secret blotted out. -/
def Registration.redacted (registration : Registration) : Registration :=
  { registration with profile := registration.profile.redacted }

namespace Request

/-- A request with its secret blotted out. It is a request like any other, and goes through the same
steps as the one that it was made from. -/
def redacted (request : Request) : Request :=
  { request with registration := request.registration.redacted }

/-- Whether an operation is refused, and what it would send, is the same up to the signature.
Signing is refused for an empty secret, and blotting keeps that apart. -/
theorem prepare_redacted (request : Request) (verb : Verb) (key : String)
    (payload : Option Payload) (now : Instant) :
    (request.redacted.prepare verb key payload now).map Dispatch.withoutSignature =
      (request.prepare verb key payload now).map Dispatch.withoutSignature := by
  have url : request.redacted.url key = request.url key := rfl
  have identity : Signature.checkIdentity request.redacted.registration.profile
      request.redacted.registration.destination.bucket = Signature.checkIdentity
        request.registration.profile request.registration.destination.bucket :=
    Signature.checkIdentity_redacted _ _
  have headers : (Signature.Headers.make request.redacted.registration.profile
      request.redacted.registration.destination verb key payload now).map _ = _ :=
    Signature.Headers.make_redacted request.registration.profile
      request.registration.destination verb key payload now
  unfold prepare
  dsimp only
  rw [url, identity]
  split
  · rfl
  · split
    · rfl
    · split
      · rfl
      · generalize Signature.Headers.make request.redacted.registration.profile _ verb key payload
          now = redacted at headers
        generalize Signature.Headers.make request.registration.profile _ verb key payload now =
          made at headers
        cases redacted <;> cases made
        · cases headers
          rfl
        · cases headers
        · cases headers
        · let sent (headers : Signature.Headers) : Except Rejection Dispatch :=
            .ok ⟨verb, request.url key, headers, payload⟩
          exact congrArg sent (Except.ok.inj headers)

end Request

namespace Flight

/-- An operation under way with the secret of its request blotted out. -/
def redacted (flight : Flight) : Flight :=
  { flight with request := flight.request.redacted }

variable (flight : Flight)

theorem conclude_redacted (phase : Phase) (result : Except Fault Bytes) :
    flight.redacted.conclude phase result = (flight.conclude phase result).redacted := by
  unfold conclude
  rw [apply_ite redacted]
  rfl

theorem proceed_redacted (stage : Stage) :
    flight.redacted.proceed stage = (flight.proceed stage).redacted := by
  unfold proceed
  rw [apply_ite redacted]
  rfl

theorem pull_redacted (room : Nat) (rest : Bytes) :
    flight.redacted.pull room rest = (flight.pull room rest).redacted := by
  rw [pull_eq, pull_eq]
  rw [apply_ite redacted]
  rfl

theorem respond_redacted (status : UInt16) (lines : List HeaderLine) :
    flight.redacted.respond status lines = (flight.respond status lines).redacted := by
  unfold respond
  dsimp only
  rw [apply_ite redacted, apply_ite redacted, ← conclude_redacted, ← proceed_redacted,
    ← conclude_redacted]
  rfl

/-- No event looks at the secret. Once an operation is under way, its request is signed already. -/
theorem step_redacted (event : Event) :
    flight.redacted.step event = (flight.step event).redacted := by
  obtain ⟨request, operation, stage⟩ := flight
  cases event with
  | cancel => rfl
  | pull room =>
    cases stage with
    | sending rest => exact pull_redacted _ room rest
    | _ => rfl
  | fail detail =>
    cases stage with
    | sending rest => exact conclude_redacted _ _ _
    | _ => rfl
  | respond status lines =>
    cases stage with
    | sending rest => exact respond_redacted _ status lines
    | _ => rfl
  | arrive chunk =>
    cases stage with
    | receiving metadata body =>
      cases chunk with
      | nil => exact conclude_redacted _ _ _
      | cons => exact proceed_redacted _ _
    | _ => cases chunk <;> rfl
  | interrupt =>
    cases stage with
    | receiving metadata body => exact proceed_redacted _ _
    | _ => rfl
  | breakOff detail =>
    cases stage with
    | receiving metadata body => exact conclude_redacted _ _ _
    | _ => rfl

theorem run_redacted (events : List Event) :
    flight.redacted.run events = (flight.run events).redacted := by
  induction events generalizing flight with
  | nil => rfl
  | cons event rest ih =>
    show (flight.redacted.step event).run rest = ((flight.step event).run rest).redacted
    rw [step_redacted, ih]

end Flight

namespace Request

/-- An operation begins in the same way, and sends the same up to the signature. This is the one
place where something is signed with a secret. -/
theorem start_redacted (request : Request) (key : String) (operation : Operation)
    (now : Instant) :
    (request.redacted.start key operation now).1 =
        (request.start key operation now).1.redacted ∧
      (request.redacted.start key operation now).2.map Dispatch.withoutSignature =
        (request.start key operation now).2.map Dispatch.withoutSignature := by
  have prepared := request.prepare_redacted operation.verb key operation.payload now
  have phase : request.redacted.phase = request.phase := rfl
  unfold start
  dsimp only
  rw [phase]
  split
  · exact ⟨rfl, rfl⟩
  · split
    · exact ⟨rfl, rfl⟩
    · generalize request.redacted.prepare operation.verb key operation.payload now = redacted
        at prepared
      generalize request.prepare operation.verb key operation.payload now = made at prepared
      cases redacted <;> cases made
      · cases prepared
        exact ⟨rfl, rfl⟩
      · cases prepared
      · cases prepared
      · have cancelled : request.redacted.cancelled = request.cancelled := rfl
        dsimp only
        rw [cancelled]
        split
        · exact ⟨rfl, rfl⟩
        · exact ⟨rfl, congrArg some (Except.ok.inj prepared)⟩

/-- An operation ends in the same way. -/
theorem perform_redacted (request : Request) (key : String) (operation : Operation)
    (now : Instant) (events : List Event) :
    let outcome := request.perform key operation now events
    let outcome' := request.redacted.perform key operation now events
    outcome'.request = outcome.request.redacted ∧ outcome'.result = outcome.result ∧
      outcome'.output = outcome.output ∧
      outcome'.dispatch.map Dispatch.withoutSignature =
        outcome.dispatch.map Dispatch.withoutSignature := by
  obtain ⟨begun, sent⟩ := request.start_redacted key operation now
  unfold perform
  dsimp only
  rw [begun, Flight.run_redacted, Flight.run_redacted]
  exact ⟨rfl, rfl, rfl, sent⟩

/-- What is reported about an operation does not depend on the secret either. -/
theorem reports_redacted (request : Request) (key : String) (operation : Operation)
    (now : Instant) (events : List Event) :
    (request.redacted.perform key operation now events).reports key operation.verb =
      (request.perform key operation now events).reports key operation.verb := by
  obtain ⟨left, result, -, -⟩ := request.perform_redacted key operation now events
  unfold Outcome.reports
  rw [left, result]
  rfl

end Request

/-! ### Clients -/

namespace Client

/-- A client with all secrets blotted out. -/
def redacted (client : Client) : Client :=
  { client with registrations := client.registrations.map Registration.redacted }

variable (client : Client) (identifier : String)

theorem find?_redacted :
    client.redacted.find? identifier = (client.find? identifier).map Registration.redacted := by
  unfold find? redacted
  rw [List.find?_map]
  rfl

theorem has_redacted : client.redacted.has identifier = client.has identifier := by
  unfold has
  rw [find?_redacted, Option.isSome_map]

theorem describe_redacted : client.redacted.describe = client.describe := by
  unfold describe count redacted
  rw [List.length_map]

/-- A registration succeeds or is refused whatever the secret is, if only it is not empty. The
secret is kept as it stands and is compared with nothing else. -/
theorem register_redacted (profile : AccessProfile) (destination : Destination) :
    client.redacted.register identifier profile.redacted destination =
      (client.register identifier profile destination).map redacted := by
  unfold register
  rw [Signature.checkIdentity_redacted, has_redacted]
  split
  · rfl
  · split
    · rfl
    · simp [Except.map, redacted, Registration.redacted]

theorem registerReports_redacted (profile : AccessProfile) (destination : Destination) :
    client.redacted.registerReports identifier profile.redacted destination =
      client.registerReports identifier profile destination := by
  unfold registerReports
  rw [register_redacted]
  cases client.register identifier profile destination <;> rfl

theorem remove_redacted :
    client.redacted.remove identifier = (client.remove identifier).redacted := by
  unfold remove redacted
  rw [List.filter_map]
  rfl

/-- A request is made with the secret of its registration blotted out. -/
theorem create_redacted :
    client.redacted.create identifier =
      (client.create identifier).map fun made => (made.1.redacted, made.2.redacted) := by
  unfold create
  rw [find?_redacted]
  cases client.find? identifier <;> rfl

theorem createReports_redacted :
    client.redacted.createReports identifier = client.createReports identifier := by
  unfold createReports
  rw [has_redacted]

end Client

/-! ### Profiles documents -/

/-- An entry with its secret blotted out. -/
def ProfileEntry.redacted (entry : ProfileEntry) : ProfileEntry :=
  { entry with secret := entry.secret.map blot }

/-- An entry is complete, or a field is reported, whatever the secret is. The report names the field
and not its value. -/
theorem ProfileEntry.profile?_redacted (entry : ProfileEntry) (name : String) :
    entry.redacted.profile? name =
      ((entry.profile? name).1.map AccessProfile.redacted, (entry.profile? name).2) := by
  obtain ⟨_ | keyId, _ | secret⟩ := entry <;> rfl

namespace ProfilesDocument

/-- A document with all secrets blotted out. -/
def redacted (document : ProfilesDocument) : ProfilesDocument :=
  { document with profiles := document.profiles.map ProfileEntry.redacted }

variable (document : ProfilesDocument)

theorem profile?_redacted (name : String) :
    document.redacted.profile? name = (document.profile? name).map AccessProfile.redacted := by
  unfold profile? redacted
  dsimp only
  rw [Json.NameTable.find?_map]
  cases document.profiles.find? name with
  | none => rfl
  | some entry =>
    show (entry.redacted.profile? name).1 = _
    rw [ProfileEntry.profile?_redacted]
    rfl

theorem profileReports_redacted :
    document.redacted.profileReports = document.profileReports := by
  unfold profileReports redacted Json.NameTable.map
  dsimp only
  rw [List.flatMap_map]
  congr 1
  funext ⟨name, entry⟩
  show (entry.redacted.profile? name).2 = (entry.profile? name).2
  rw [ProfileEntry.profile?_redacted]

end ProfilesDocument

namespace Registering

/-- A registration under way with all secrets blotted out. -/
def redacted (r : Registering) : Registering :=
  { r with client := r.client.redacted }

variable (r : Registering) (document : ProfilesDocument)

/-- An entry is registered, passed over or refused whatever the secrets are. So the reports of a
document are the same as well. -/
theorem entry_redacted (name : String) (entry : DestinationEntry) :
    r.redacted.entry document.redacted name entry = (r.entry document name entry).redacted := by
  obtain ⟨_ | bucket, _ | keyPrefix, _ | profileName⟩ := entry
  case some.some.some =>
    unfold Registering.entry
    dsimp only
    rw [ProfilesDocument.profile?_redacted]
    cases document.profile? profileName with
    | none => rfl
    | some profile =>
      have registered : r.redacted.client.register name profile.redacted ⟨bucket, keyPrefix⟩ = _ :=
        r.client.register_redacted name profile ⟨bucket, keyPrefix⟩
      simp only [Option.map_some, registered]
      cases r.client.register name profile ⟨bucket, keyPrefix⟩ <;> rfl
  all_goals rfl

theorem entryReports_redacted (client : Client) (name : String) (entry : DestinationEntry) :
    client.redacted.entryReports document.redacted name entry =
      client.entryReports document name entry := by
  obtain ⟨_ | bucket, _ | keyPrefix, _ | profileName⟩ := entry
  case some.some.some =>
    unfold Client.entryReports
    dsimp only
    rw [ProfilesDocument.profile?_redacted]
    cases document.profile? profileName with
    | none => rfl
    | some profile => exact client.registerReports_redacted name profile ⟨bucket, keyPrefix⟩
  all_goals rfl

/-- The reports on the entries are the same, by induction on the entries. -/
theorem entriesReports_redacted (entries : List (String × DestinationEntry)) :
    r.redacted.entriesReports document.redacted entries = r.entriesReports document entries := by
  induction entries generalizing r with
  | nil => rfl
  | cons named rest ih =>
    obtain ⟨name, entry⟩ := named
    unfold entriesReports
    rw [entry_redacted, ih]
    exact congrArg (· ++ _) (entryReports_redacted document r.client name entry)

end Registering

namespace Client

variable (client : Client) (document : ProfilesDocument)

/-- A document is registered with the same count and the same reports. -/
theorem registerAll_redacted :
    client.redacted.registerAll document.redacted = (client.registerAll document).redacted := by
  have kept : ∀ (entries : List (String × DestinationEntry)) (r : Registering),
      entries.foldl (fun r named => r.entry document.redacted named.1 named.2) r.redacted =
        (entries.foldl (fun r named => r.entry document named.1 named.2) r).redacted := by
    intro entries
    induction entries with
    | nil => exact fun _ => rfl
    | cons named rest ih =>
      intro r
      rw [List.foldl_cons, List.foldl_cons, Registering.entry_redacted, ih]
  unfold registerAll
  rw [ProfilesDocument.profileReports_redacted]
  exact kept document.destinations.toList { client, reports := document.profileReports }

end Client

end Store

end PreviewSync
