import Mathlib.Data.List.Basic
import PreviewSync.Proofs.Json.RoundTrip
import PreviewSync.Proofs.Store.Observation

/-!
# What a profiles document declares

A destination of a profiles document may lack fields, refer to a profile that is not there or lacks
fields itself, be refused for an empty text, or have a name that is taken. All of these are passed
over one by one in the course of the loading. What comes of it is said here without any course: the
registrations that the document declares, under names that were free before.

That the entries do not get in each other's way rests on the order of the document. Its names are
different, so a name that is free at first is still free when its turn comes.

## Main Definitions

* `ProfilesDocument.Declares` — the registrations that a document declares
* `Client.newcomers` — those of them whose names are free, in the order of the document
* `Client.registerAll_eq` — a document brings in its newcomers, and nothing else
* `Client.TakesIn` — what a document does to a registry
* `Client.registry_of_loadProfiles` — what loading a profiles file does to a registry
* `ProfilesDocument.fileOfOne` — a profiles file in writing, with what it is read as
-/

namespace PreviewSync

/-- In a list of different names, what is found under a name is what has it. Without the condition
only the first one with a name would be found. -/
theorem find?_eq_some_iff_of_pairwise {α : Type} {nameOf : α → String} {entries : List α}
    (different : entries.Pairwise fun a b => nameOf a ≠ nameOf b) {name : String} {entry : α} :
    entries.find? (nameOf · == name) = some entry ↔ entry ∈ entries ∧ nameOf entry = name := by
  induction entries with
  | nil => simp
  | cons first rest ih =>
    obtain ⟨apart, different⟩ := List.pairwise_cons.1 different
    by_cases here : nameOf first = name
    · rw [List.find?_cons, here, beq_self_eq_true, Option.some_inj, List.mem_cons]
      constructor
      · rintro rfl
        exact ⟨.inl rfl, here⟩
      · rintro ⟨rfl | later, named⟩
        · rfl
        · exact absurd (here.trans named.symm) (apart entry later)
    · rw [List.find?_cons, beq_false_of_ne here, ih different, List.mem_cons]
      constructor
      · rintro ⟨later, named⟩
        exact ⟨.inr later, named⟩
      · rintro ⟨rfl | later, named⟩
        · exact absurd named here
        · exact ⟨later, named⟩

namespace Json.NameTable

variable {α : Type} {table : NameTable α}

/-- No name is listed twice in a table. This comes from the order in which a table keeps its names.
-/
theorem different (table : NameTable α) : table.toList.Pairwise fun a b => a.1 ≠ b.1 :=
  table.sorted.imp fun less => String.ne_of_lt less

/-- What stands in a table under a name is what is listed there. -/
theorem find?_eq_some_iff {name : String} {value : α} :
    table.find? name = some value ↔ (name, value) ∈ table.toList := by
  rw [find?, Option.map_eq_some_iff]
  constructor
  · rintro ⟨entry, found, rfl⟩
    obtain ⟨member, rfl⟩ := (find?_eq_some_iff_of_pairwise table.different).1 found
    exact member
  · intro member
    exact ⟨_, (find?_eq_some_iff_of_pairwise table.different).2 ⟨member, rfl⟩, rfl⟩

end Json.NameTable

namespace Store

/-! ### What a document declares -/

namespace ProfilesDocument

/-- A document declares a destination when the entry of its name has all fields, the profile that it
refers to has both fields, and neither the credentials nor the bucket are empty. The key prefix may
be empty, and then objects lie at the top of the bucket. -/
def Declares (document : ProfilesDocument) (registration : Registration) : Prop :=
  ∃ profileName,
    document.destinations.find? registration.identifier =
      some ⟨some registration.destination.bucket, some registration.destination.keyPrefix,
        some profileName⟩ ∧
    document.profiles.find? profileName =
      some ⟨some registration.profile.keyId, some registration.profile.secret⟩ ∧
    registration.IsComplete

/-- The registration of an entry, if nothing is missing. It may still be refused, when something is
empty or the name is taken. -/
def registration? (document : ProfilesDocument) (named : String × DestinationEntry) :
    Option Registration :=
  (document.meaning? named.2).map (.ofMeaning named.1)

variable {document : ProfilesDocument}

/-- A profile is one that has both fields. A field that is there may be empty; that is looked at
when it is registered. -/
theorem profile?_eq_some_iff {name : String} {profile : AccessProfile} :
    document.profile? name = some profile ↔
      document.profiles.find? name = some ⟨some profile.keyId, some profile.secret⟩ := by
  rw [profile?, Option.bind_eq_some_iff]
  constructor
  · rintro ⟨⟨_ | keyId, _ | secret⟩, found, complete⟩ <;> cases complete
    exact found
  · intro found
    exact ⟨_, found, rfl⟩

/-- An entry stands for something when it has all fields and refers to a profile. -/
theorem meaning?_eq_some_iff {entry : DestinationEntry} {profile : AccessProfile}
    {destination : Destination} :
    document.meaning? entry = some (profile, destination) ↔
      ∃ profileName,
        entry = ⟨some destination.bucket, some destination.keyPrefix, some profileName⟩ ∧
        document.profile? profileName = some profile := by
  constructor
  · intro meaning
    obtain ⟨_ | bucket, _ | keyPrefix, _ | profileName⟩ := entry
    case some.some.some =>
      obtain ⟨profile, known, same⟩ := Option.bind_eq_some_iff.1 meaning
      cases same
      exact ⟨profileName, rfl, known⟩
    all_goals cases meaning
  · rintro ⟨profileName, rfl, known⟩
    exact Option.bind_eq_some_iff.2 ⟨profile, known, rfl⟩

theorem registration?_eq_some_iff {named : String × DestinationEntry}
    {registration : Registration} :
    document.registration? named = some registration ↔
      named.1 = registration.identifier ∧
        document.meaning? named.2 = some (registration.profile, registration.destination) := by
  rw [registration?, Option.map_eq_some_iff]
  constructor
  · rintro ⟨meaning, found, rfl⟩
    exact ⟨rfl, found⟩
  · rintro ⟨same, found⟩
    exact ⟨_, found, by rw [same]; rfl⟩

/-- What the entries stand for is what is declared, as far as it is not empty. It connects what is
said about documents with what is done with entries. -/
theorem declares_iff {registration : Registration} :
    document.Declares registration ↔
      (∃ named ∈ document.destinations.toList,
        document.registration? named = some registration) ∧ registration.IsComplete := by
  constructor
  · rintro ⟨profileName, entry, profile, complete⟩
    refine ⟨⟨_, Json.NameTable.find?_eq_some_iff.1 entry, ?_⟩, complete⟩
    exact registration?_eq_some_iff.2 ⟨rfl,
      meaning?_eq_some_iff.2 ⟨profileName, rfl, profile?_eq_some_iff.2 profile⟩⟩
  · rintro ⟨⟨⟨name, entry⟩, listed, meant⟩, complete⟩
    obtain ⟨rfl, meaning⟩ := registration?_eq_some_iff.1 meant
    obtain ⟨profileName, rfl, known⟩ := meaning?_eq_some_iff.1 meaning
    exact ⟨profileName, Json.NameTable.find?_eq_some_iff.2 listed, profile?_eq_some_iff.1 known,
      complete⟩

end ProfilesDocument

/-! ### What a document brings in -/

namespace Client

/-- The registration of an entry, if it is complete and its name is free. Whether the name is free
can be asked of the client at the beginning, because no other entry of the document has that name.
-/
def newcomer? (client : Client) (document : ProfilesDocument)
    (named : String × DestinationEntry) : Option Registration :=
  (document.registration? named).filter fun registration =>
    registration.IsComplete ∧ client.find? registration.identifier = none

/-- The registrations that a document brings in. They are found without registering anything, so
what the loader does entry by entry is told all at once. -/
def newcomers (client : Client) (document : ProfilesDocument) : List Registration :=
  document.destinations.toList.filterMap (client.newcomer? document)

/-- A client with more registrations. -/
def adding (client : Client) (new : List Registration) : Client :=
  { client with registrations := client.registrations ++ new }

variable {client : Client} {document : ProfilesDocument} {new : List Registration}

theorem adding_nil : client.adding [] = client := by
  rw [adding, List.append_nil]

theorem adding_adding (more : List Registration) :
    (client.adding new).adding more = client.adding (new ++ more) := by
  unfold adding
  rw [List.append_assoc]

/-- Under a name of which nothing is added, nothing changes. In particular nothing that is added
hides what was there before. -/
theorem find?_adding {name : String} (apart : ∀ added ∈ new, added.identifier ≠ name) :
    (client.adding new).find? name = client.find? name := by
  have none : new.find? (·.identifier == name) = none :=
    List.find?_eq_none.2 fun added member same => apart added member (beq_iff_eq.1 same)
  rw [find?, adding, List.find?_append, none, Option.or_none]
  rfl

theorem newcomer?_eq_some_iff {named : String × DestinationEntry} {registration : Registration} :
    client.newcomer? document named = some registration ↔
      document.registration? named = some registration ∧ registration.IsComplete ∧
        client.find? registration.identifier = none := by
  rw [newcomer?, Option.filter_eq_some_iff, decide_eq_true_iff]

/-- An entry is not concerned with what is added under other names. That is why the entries of a
document can be judged before any of them is registered. -/
theorem newcomer?_adding {named : String × DestinationEntry}
    (apart : ∀ added ∈ new, added.identifier ≠ named.1) :
    (client.adding new).newcomer? document named = client.newcomer? document named := by
  ext registration
  rw [newcomer?_eq_some_iff, newcomer?_eq_some_iff]
  refine and_congr_right fun meant => ?_
  obtain ⟨same, -⟩ := ProfilesDocument.registration?_eq_some_iff.1 meant
  rw [find?_adding (same ▸ apart)]

/-- What is registered is added, if it is complete and its name is free. -/
theorem register_cases (client : Client) (registration : Registration) :
    let registered := client.register registration.identifier registration.profile
      registration.destination
    (registration.IsComplete ∧ client.find? registration.identifier = none ∧
        registered = .ok (client.adding [registration])) ∨
      ¬ (registration.IsComplete ∧ client.find? registration.identifier = none) ∧
        ∃ fault, registered = .error fault := by
  intro registered
  cases result : registered with
  | ok client' =>
    obtain ⟨⟨keyId, secret, bucket, free⟩, rfl⟩ := register_eq_ok.1 result
    exact .inl ⟨⟨keyId, secret, bucket⟩, free, rfl⟩
  | error fault =>
    refine .inr ⟨?_, fault, rfl⟩
    rintro ⟨⟨keyId, secret, bucket⟩, free⟩
    have accepted := register_eq_ok.2 ⟨⟨keyId, secret, bucket, free⟩, rfl⟩
    exact absurd (accepted.symm.trans result) nofun

end Client

namespace Registering

open Client (newcomer?_eq_some_iff)

variable {document : ProfilesDocument}

/-- An entry brings in its newcomer, or is passed over and reported. -/
theorem entry_cases (r : Registering) (named : String × DestinationEntry) :
    let after := r.entry document named.1 named.2
    (∃ new, r.client.newcomer? document named = some new ∧
        after = { r with client := r.client.adding [new], count := r.count + 1 }) ∨
      r.client.newcomer? document named = none ∧ ∃ reports, after = r.report reports := by
  obtain ⟨name, _ | bucket, _ | keyPrefix, _ | profileName⟩ := named
  case some.some.some =>
    unfold Registering.entry
    dsimp only
    cases known : document.profile? profileName with
    | none =>
      refine .inr ⟨?_, _, rfl⟩
      simp [Client.newcomer?, ProfilesDocument.registration?, ProfilesDocument.meaning?, known]
    | some profile =>
      have meant : document.registration?
          (name, ⟨some bucket, some keyPrefix, some profileName⟩) =
            some ⟨name, profile, ⟨bucket, keyPrefix⟩⟩ :=
        ProfilesDocument.registration?_eq_some_iff.2
          ⟨rfl, ProfilesDocument.meaning?_eq_some_iff.2 ⟨profileName, rfl, known⟩⟩
      rcases r.client.register_cases ⟨name, profile, ⟨bucket, keyPrefix⟩⟩ with
        ⟨complete, free, registered⟩ | ⟨refused, fault, registered⟩
      · refine .inl ⟨_, newcomer?_eq_some_iff.2 ⟨meant, complete, free⟩, ?_⟩
        dsimp only at registered ⊢
        rw [registered]
      · refine .inr ⟨?_, [fault.registrationReport name], ?_⟩
        · rw [Client.newcomer?, meant, Option.filter_some, if_neg (by simpa using refused)]
        · dsimp only at registered ⊢
          rw [registered]
  all_goals exact .inr ⟨rfl, _, rfl⟩

theorem entry_eq (r : Registering) (named : String × DestinationEntry) :
    let after := r.entry document named.1 named.2
    let new := (r.client.newcomer? document named).toList
    after.client = r.client.adding new ∧ after.count = r.count + new.length := by
  rcases r.entry_cases named with ⟨new, newcomer, same⟩ | ⟨nobody, reports, same⟩
  · rw [newcomer, same]
    exact ⟨rfl, rfl⟩
  · rw [nobody, same]
    exact ⟨Client.adding_nil.symm, rfl⟩

/-- Entries with different names bring in the newcomers that each of them would bring in alone. -/
theorem foldl_entry {entries : List (String × DestinationEntry)}
    (different : entries.Pairwise fun a b => a.1 ≠ b.1) (r : Registering) :
    let after := entries.foldl (fun r named => r.entry document named.1 named.2) r
    let new := entries.filterMap (r.client.newcomer? document)
    after.client = r.client.adding new ∧ after.count = r.count + new.length := by
  induction entries generalizing r with
  | nil => exact ⟨Client.adding_nil.symm, rfl⟩
  | cons named rest ih =>
    obtain ⟨apart, different⟩ := List.pairwise_cons.1 different
    obtain ⟨client, count⟩ := @entry_eq document r named
    obtain ⟨client', count'⟩ := ih different (r.entry document named.1 named.2)
    have same : rest.filterMap ((r.entry document named.1 named.2).client.newcomer? document) =
        rest.filterMap (r.client.newcomer? document) := by
      refine List.filterMap_congr fun later member => ?_
      rw [client]
      refine Client.newcomer?_adding fun added new => ?_
      obtain ⟨meant, -⟩ := newcomer?_eq_some_iff.1 (Option.mem_toList.1 new)
      obtain ⟨named, -⟩ := ProfilesDocument.registration?_eq_some_iff.1 meant
      rw [← named]
      exact apart later member
    rw [same] at client' count'
    have split : (named :: rest).filterMap (r.client.newcomer? document) =
        (r.client.newcomer? document named).toList ++
          rest.filterMap (r.client.newcomer? document) := by
      rw [List.filterMap_cons]
      cases r.client.newcomer? document named <;> rfl
    dsimp only
    rw [split, List.foldl_cons, client', client, Client.adding_adding, count', count,
      List.length_append, Nat.add_assoc]
    exact ⟨rfl, rfl⟩

end Registering

namespace Client

variable {client : Client} {document : ProfilesDocument}

/-- A document brings in its newcomers, and nothing else. The registry in the end is thus given by
what it was at the start, without the steps in between. -/
theorem registerAll_eq :
    (client.registerAll document).client = client.adding (client.newcomers document) ∧
      (client.registerAll document).count = (client.newcomers document).length := by
  obtain ⟨after, count⟩ := @Registering.foldl_entry document _ document.destinations.different
    { client, reports := document.profileReports }
  exact ⟨after, count.trans (Nat.zero_add _)⟩

/-- The newcomers are what is declared under names that are free. They are free at the start, for no
entry makes use of the name of another one. -/
theorem mem_newcomers {registration : Registration} :
    registration ∈ client.newcomers document ↔
      document.Declares registration ∧ client.find? registration.identifier = none := by
  rw [newcomers, List.mem_filterMap, ProfilesDocument.declares_iff]
  simp only [newcomer?_eq_some_iff]
  constructor
  · rintro ⟨named, listed, meant, complete, free⟩
    exact ⟨⟨⟨named, listed, meant⟩, complete⟩, free⟩
  · rintro ⟨⟨⟨named, listed, meant⟩, complete⟩, free⟩
    exact ⟨named, listed, meant, complete, free⟩

/-- The newcomers are in increasing order of names. It is the order of the document, which lists its
names so. -/
theorem sorted_newcomers :
    (client.newcomers document).Pairwise fun a b => a.identifier < b.identifier := by
  refine List.pairwise_filterMap.2 (document.destinations.sorted.imp ?_)
  intro first second less a newcomer b newcomer'
  obtain ⟨named, -⟩ :=
    ProfilesDocument.registration?_eq_some_iff.1 (newcomer?_eq_some_iff.1 newcomer).1
  obtain ⟨named', -⟩ :=
    ProfilesDocument.registration?_eq_some_iff.1 (newcomer?_eq_some_iff.1 newcomer').1
  rwa [← named, ← named']

/-- What a name stands for once the newcomers are there. -/
theorem find?_newcomers {name : String} {registration : Registration} :
    (client.adding (client.newcomers document)).find? name = some registration ↔
      client.find? name = some registration ∨
        client.find? name = none ∧ registration.identifier = name ∧
          document.Declares registration := by
  have different : (client.newcomers document).Pairwise fun a b => a.identifier ≠ b.identifier :=
    sorted_newcomers.imp fun less => String.ne_of_lt less
  have new : (client.newcomers document).find? (·.identifier == name) = some registration ↔ _ :=
    find?_eq_some_iff_of_pairwise different
  rw [mem_newcomers] at new
  rw [find?, adding, List.find?_append, Option.or_eq_some_iff, new]
  refine or_congr_right (and_congr_right fun free => ?_)
  constructor
  · rintro ⟨⟨declared, -⟩, named⟩
    exact ⟨named, declared⟩
  · rintro ⟨rfl, declared⟩
    exact ⟨⟨declared, free⟩, rfl⟩

/-- What a document does to a registry, told by the registry before and after and by the number that
is returned. Nothing is said about the order in which the entries are gone through, nor about those
that are passed over. -/
structure TakesIn (client : Client) (document : ProfilesDocument) (after : Client) (count : Nat) :
    Prop where
  /-- A name stands for what it stood for before, and a free one for what is declared under it. -/
  bindings : ∀ name registration, after.find? name = some registration ↔
    client.find? name = some registration ∨
      client.find? name = none ∧ registration.identifier = name ∧ document.Declares registration
  /-- The registrations from before stay in front, and nothing but the registry changes. -/
  grown : ∃ new : List Registration,
    after = { client with registrations := client.registrations ++ new } ∧
    (∀ registration, registration ∈ new ↔
      document.Declares registration ∧ client.find? registration.identifier = none) ∧
    new.Pairwise (fun a b => a.identifier < b.identifier) ∧
    count = new.length
  /-- The number that is returned is that by which the registry has grown. -/
  counted : after.count = client.count + count

/-- A registry that has taken in a document stays as it is when it takes it in again. -/
theorem TakesIn.again {after : Client} {count : Nat} (h : client.TakesIn document after count) :
    (after.registerAll document).client = after ∧ (after.registerAll document).count = 0 := by
  obtain ⟨again, counted⟩ := @registerAll_eq after document
  have nobody : after.newcomers document = [] := by
    refine List.eq_nil_iff_forall_not_mem.2 fun registration member => ?_
    obtain ⟨declared, free⟩ := mem_newcomers.1 member
    have there : after.find? registration.identifier ≠ none := by
      cases before : client.find? registration.identifier with
      | none =>
        rw [(h.bindings _ _).2 (.inr ⟨before, rfl, declared⟩)]
        nofun
      | some known =>
        rw [(h.bindings _ _).2 (.inl before)]
        nofun
    exact there free
  rw [nobody] at again counted
  exact ⟨again.trans adding_nil, counted⟩

/-- Every document is taken in, whatever the registry is. So nothing about a document has to be
known beforehand. -/
theorem takesIn_registerAll :
    client.TakesIn document (client.registerAll document).client
      (client.registerAll document).count := by
  obtain ⟨after, count⟩ := @registerAll_eq client document
  rw [after, count]
  exact {
    bindings := fun _ _ => find?_newcomers
    grown := ⟨client.newcomers document, rfl, fun _ => mem_newcomers, sorted_newcomers, rfl⟩
    counted := List.length_append }

/-- Loading a file with a document in it registers the document. -/
theorem loadProfiles_of_ok {complaints : Complaints} {content : Except Disk.Fault Bytes}
    (file : ProfilesDocument.ofFile complaints content = .ok document) :
    (client.loadProfiles content).client = (client.registerAll document).client ∧
      (client.loadProfiles content).result = .ok (client.registerAll document).count := by
  rw [client.loadProfiles_eq complaints "" content, file]
  exact ⟨rfl, rfl⟩

/-- A document adds to a registry what it declares under names that were free before, and changes
nothing else about the client; the number that is returned is that by which the registry has grown.
So taking in the same document again adds nothing. Loading a profiles file takes in the document of
the file, whatever file it is, and one that cannot be read, or not as a document, changes nothing.
-/
theorem registry_of_loadProfiles (client : Client) :
    (∀ document : ProfilesDocument,
      let registering := client.registerAll document
      client.TakesIn document registering.client registering.count ∧
        (registering.client.registerAll document).client = registering.client ∧
        (registering.client.registerAll document).count = 0) ∧
    ∀ (complaints : Complaints) (content : Except Disk.Fault Bytes),
      let loading := client.loadProfiles content
      match ProfilesDocument.ofFile complaints content with
      | .error unreadable =>
        loading.client = client ∧ loading.result = .error unreadable.fault
      | .ok document =>
        (∃ count, loading.result = .ok count ∧ client.TakesIn document loading.client count) ∧
        (loading.client.loadProfiles content).client = loading.client ∧
        (loading.client.loadProfiles content).result = .ok 0 := by
  constructor
  · intro document registering
    exact ⟨takesIn_registerAll, takesIn_registerAll.again⟩
  · intro complaints content loading
    cases file : ProfilesDocument.ofFile complaints content with
    | error unreadable =>
      have unread : loading = _ := client.loadProfiles_eq complaints "" content
      rw [file] at unread
      rw [unread]
      exact ⟨rfl, rfl⟩
    | ok document =>
      obtain ⟨after, result⟩ := @loadProfiles_of_ok client _ _ _ file
      obtain ⟨again, result'⟩ := @loadProfiles_of_ok loading.client _ _ _ file
      have taken : client.TakesIn document loading.client (client.registerAll document).count := by
        rw [after]
        exact takesIn_registerAll
      obtain ⟨same, nothing⟩ := taken.again
      exact ⟨⟨_, result, taken⟩, again.trans same, result'.trans (congrArg Except.ok nothing)⟩

end Client

/-! ### Documents in writing -/

namespace ProfilesDocument

/-- A profiles document with one profile. Secret and destinations may be any values, so that it need
not be a document that can be read. -/
def jsonOfOne (secret destinations : Json.Value) : Json.Value :=
  Json.object
    [("accessProfiles", Json.object [("main", Json.object
      [("accessKeyId", Json.text "AKID"), ("secretAccessKey", secret)])]),
      ("destinations", destinations)]

/-- The content of a file with that document. -/
def fileOfOne (secret destinations : Json.Value) : Bytes :=
  Bytes.ofText (jsonOfOne secret destinations).write

/-- One destination with that profile. -/
def jsonOfHome : Json.Value :=
  Json.object [("home", Json.object
    [("bucket", Json.text "photos"), ("key", Json.text ""), ("profile", Json.text "main")])]

/-- The entries of one profile and one destination. -/
def ofOne (secret : String) : ProfilesDocument where
  profiles := Json.NameTable.empty.put "main" ⟨some "AKID", some secret⟩
  destinations := Json.NameTable.empty.put "home" ⟨some "photos", some "", some "main"⟩

theorem isPlain_jsonOfOne {secret destinations : Json.Value} (plainSecret : secret.IsPlain)
    (plain : destinations.IsPlain) : (jsonOfOne secret destinations).IsPlain := by
  have profile : ∀ field ∈ [("accessKeyId", Json.text "AKID"), ("secretAccessKey", secret)],
      field.2.IsPlain := by
    simp [Json.Value.isPlain_text, plainSecret]
  have profiles : ∀ entry ∈ [("main", Json.object
      [("accessKeyId", Json.text "AKID"), ("secretAccessKey", secret)])], entry.2.IsPlain := by
    simpa using Json.Value.isPlain_object profile
  apply Json.Value.isPlain_object
  simpa [plain] using Json.Value.isPlain_object profiles

/-- A file is read by the document in it. -/
theorem ofFile_fileOfOne (complaints : Complaints) {secret destinations : Json.Value}
    (plainSecret : secret.IsPlain) (plain : destinations.IsPlain) :
    ofFile complaints (.ok (fileOfOne secret destinations)) =
      match ofJson? (jsonOfOne secret destinations) with
      | none => .error ⟨.document, complaints.document (fileOfOne secret destinations)⟩
      | some document => .ok document := by
  have isText : (fileOfOne secret destinations).toText? = some _ := Bytes.toText?_ofText _
  have read : read? (fileOfOne secret destinations) = ofJson? (jsonOfOne secret destinations) := by
    rw [read?, fileOfOne, Json.Value.ofBytes?_write (isPlain_jsonOfOne plainSecret plain)]
    rfl
  unfold ofFile
  dsimp only
  rw [isText, read]
  rfl

theorem isPlain_jsonOfHome : jsonOfHome.IsPlain := by
  have fields : ∀ field ∈ [("bucket", Json.text "photos"), ("key", Json.text ""),
      ("profile", Json.text "main")], field.2.IsPlain := by
    simp [Json.Value.isPlain_text]
  apply Json.Value.isPlain_object
  simpa using Json.Value.isPlain_object fields

/-- A file with one profile and one destination is read. -/
theorem ofFile_of_home (complaints : Complaints) (secret : String) :
    ofFile complaints (.ok (fileOfOne (Json.text secret) jsonOfHome)) = .ok (ofOne secret) := by
  rw [ofFile_fileOfOne complaints (Json.Value.isPlain_text secret) isPlain_jsonOfHome]
  rfl

/-- A file with a number for its destinations is not read, whatever the secret is. -/
theorem ofFile_of_number (complaints : Complaints) (secret : String) (number : Nat) :
    ofFile complaints (.ok (fileOfOne (Json.text secret) (Json.natural number))) =
      .error ⟨.document,
        complaints.document (fileOfOne (Json.text secret) (Json.natural number))⟩ := by
  rw [ofFile_fileOfOne complaints (Json.Value.isPlain_text secret)
    (Json.Value.isPlain_natural number)]
  rfl

end ProfilesDocument

end Store

end PreviewSync
