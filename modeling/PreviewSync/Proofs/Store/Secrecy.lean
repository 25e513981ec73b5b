import Mathlib.Data.List.Forall2
import PreviewSync.Proofs.Store.Observation
import PreviewSync.Proofs.Store.Profiles
import PreviewSync.Proofs.Store.Redaction

/-!
# Secrets are kept

Two runs of a client that differ in nothing but the secrets, which are empty in neither or in both,
look the same to everybody, but for the words of a complaint about a profiles file that cannot be
read. What the transport does is given, so it does not depend on what is sent.

## Main Definitions

* `Step.Alike` — steps that differ in secrets only
* `Fleet.observe_of_alike`, `Fleet.watch_of_alike` — such steps, and runs, do and show the same
* `Fleet.watch_of_differing_secrets` — what is seen of a run tells nothing about the secrets
* `Fleet.watch_of_longer_secret` — what a complaint may tell about them

## Design Notes

A profiles file has secrets as far as it can be read as a document. Two files are alike when their
documents differ in secrets only, or when neither can be read. The words about a file that cannot be
read are the reader's own. A reader that names a place in the file tells how long the secrets in
front of it are, and one that quotes what it has found instead of a text may quote a secret. So the
words are left to the reader, and set apart from all else that is seen.
-/

namespace PreviewSync

namespace Store

/-! ### Blotting out the secrets changes nothing that is seen -/

namespace Client

variable (client : Client)

/-- A file is loaded in the same way whatever the secrets in it are. -/
theorem loaded_redacted (path : String) (file : Except Unreadable ProfilesDocument) :
    client.redacted.loaded (file.map ProfilesDocument.redacted) = (client.loaded file).redacted ∧
      client.redacted.loadResult (file.map ProfilesDocument.redacted) = client.loadResult file ∧
      client.redacted.loadReports path (file.map ProfilesDocument.redacted) =
        client.loadReports path file := by
  cases file with
  | error unreadable => exact ⟨rfl, rfl, rfl⟩
  | ok document =>
    have registered := client.registerAll_redacted document
    have reports := Registering.entriesReports_redacted
      { client, reports := document.profileReports } document document.destinations.toList
    have count : (client.redacted.registerAll document.redacted).count =
        (client.registerAll document).count := by
      rw [registered]
      rfl
    refine ⟨congrArg Registering.client registered, congrArg Except.ok count, ?_⟩
    show document.redacted.profileReports ++ Registering.entriesReports document.redacted
      { client := client.redacted, reports := document.redacted.profileReports }
      document.destinations.toList = _
    rw [ProfilesDocument.profileReports_redacted]
    exact congrArg (document.profileReports ++ ·) reports

theorem registered_redacted (identifier : String) (profile : AccessProfile)
    (destination : Destination) :
    client.redacted.registered identifier profile.redacted destination =
      (client.registered identifier profile destination).redacted := by
  unfold registered
  rw [register_redacted]
  cases client.register identifier profile destination <;> rfl

end Client

namespace Request

variable (request : Request) (call : Call)

theorem apply_redacted : request.redacted.apply call = (request.apply call).redacted := by
  cases call with
  | operate key operation now events =>
    exact (request.perform_redacted key operation now events).1
  | cancel | reset => rfl

theorem seen_redacted : request.redacted.seen call = request.seen call := by
  cases call with
  | operate key operation now events =>
    obtain ⟨left, result, output, sent⟩ := request.perform_redacted key operation now events
    have reports := request.reports_redacted key operation now events
    unfold seen
    dsimp only
    rw [result, output, reports, sent, left]
    rfl
  | cancel | reset => rfl

end Request

/-- A turn with its secret blotted out, unless it is in a file. In a file there is no telling a
secret from the rest before it is read. -/
def Turn.redacted : Turn → Turn
  | .register identifier profile destination => .register identifier profile.redacted destination
  | turn => turn

/-- A question with its secret blotted out. -/
def Question.redacted : Question → Question
  | .profile credentials => .profile credentials.redacted
  | question => question

/-- A step with its secret blotted out, unless it is in a file. -/
def Step.redacted : Step → Step
  | .act turn path => .act turn.redacted path
  | .ask question => .ask question.redacted

/-- A file is loaded with its secrets as they are. -/
theorem Step.eq_load {content : Except Disk.Fault Bytes} {path : String} {step : Step}
    (h : step.redacted = .act (.load content) path) : step = .act (.load content) path := by
  cases step with
  | act turn path' =>
    cases turn <;> cases h
    rfl
  | ask question => cases h

/-- Steps that differ in secrets only, which are empty in neither or in both. Two files are alike if
this holds of the documents in them, or if neither can be read, for the same reason. What is wrong
with the text of a file that is no document does not count, since there are no secrets to tell from
the rest of it. -/
inductive Step.Alike : Step → Step → Prop
  | load {content content' : Except Disk.Fault Bytes} {path : String}
      (same : (ProfilesDocument.ofFile .silent content).map ProfilesDocument.redacted =
        (ProfilesDocument.ofFile .silent content').map ProfilesDocument.redacted) :
      Alike (.act (.load content) path) (.act (.load content') path)
  | other {step step' : Step} (same : step.redacted = step'.redacted) : Alike step step'

namespace Fleet

variable (complaints : Complaints)

/-- A client and its requests with all secrets blotted out. Two runs that differ in secrets only go
through the same states in this form, and that is the invariant. -/
def redacted (fleet : Fleet) : Fleet :=
  { fleet with
    client := fleet.client.redacted
    requests := fleet.requests.map fun request => request.map Request.redacted }

variable (fleet : Fleet)

theorem client_redacted : fleet.redacted.client = fleet.client.redacted := rfl

theorem isOpen_redacted : fleet.redacted.isOpen = fleet.isOpen := rfl

theorem request?_redacted (number : Nat) :
    fleet.redacted.request? number = (fleet.request? number).map Request.redacted := by
  unfold request? redacted
  rw [List.getElem?_map]
  cases fleet.requests[number]? with
  | none => rfl
  | some request => cases request <;> rfl

/-- What is done to a client in the same way is done in the same way as long as it is there. -/
theorem use_redacted (f g : Client → Client)
    (same : ∀ client : Client, g client.redacted = (f client).redacted) :
    fleet.redacted.use g = (fleet.use f).map redacted := by
  unfold use
  rw [isOpen_redacted]
  split
  · exact congrArg (fun client => some { fleet.redacted with client }) (same fleet.client)
  · rfl

/-- A turn that reads no file has the same effect. A file is left out because its secrets can only
be blotted out once it has been read. -/
theorem step_redacted {turn : Turn} (other : ∀ content, turn ≠ .load content) :
    fleet.redacted.step turn.redacted = (fleet.step turn).map redacted := by
  cases turn with
  | register identifier profile destination =>
    exact fleet.use_redacted (·.registered identifier profile destination)
      (·.registered identifier profile.redacted destination)
      fun client => client.registered_redacted identifier profile destination
  | remove identifier =>
    exact fleet.use_redacted (·.remove identifier) (·.remove identifier)
      fun client => client.remove_redacted identifier
  | removeAll => exact fleet.use_redacted Client.removeAll Client.removeAll fun _ => rfl
  | load content => exact absurd rfl (other content)
  | create identifier =>
    show fleet.redacted.create identifier = (fleet.create identifier).map redacted
    unfold create
    rw [isOpen_redacted, client_redacted, Client.create_redacted]
    split
    · cases fleet.client.create identifier with
      | error fault => rfl
      | ok made => simp [Except.map, redacted]
    · rfl
  -- These go by the number of a request alone, which is the same in both runs.
  | free number | leak number =>
    show Option.map _ (fleet.redacted.request? number) =
      (Option.map _ (fleet.request? number)).map redacted
    rw [request?_redacted]
    cases fleet.request? number with
    | none => rfl
    | some request => simp [redacted, List.map_set, Client.release, Client.redacted]
  | call number call =>
    show Option.map _ (fleet.redacted.request? number) =
      (Option.map _ (fleet.request? number)).map redacted
    rw [request?_redacted]
    cases fleet.request? number with
    | none => rfl
    | some request => simp [redacted, List.map_set, Request.apply_redacted]
  | drop =>
    unfold step Turn.redacted
    dsimp only
    rw [isOpen_redacted]
    split <;> rfl

/-- A turn that reads no file shows the same. -/
theorem seen_redacted {turn : Turn} (other : ∀ content, turn ≠ .load content) (path : String) :
    fleet.redacted.seen complaints path turn.redacted = fleet.seen complaints path turn := by
  cases turn with
  | register identifier profile destination =>
    unfold seen Turn.redacted
    dsimp only
    rw [client_redacted, Client.register_redacted, Client.registerReports_redacted]
    cases fleet.client.register identifier profile destination <;> rfl
  | remove identifier =>
    exact congrArg (fun wasThere => { answer := .removed wasThere : Seen })
      (fleet.client.has_redacted identifier)
  | load content => exact absurd rfl (other content)
  | create identifier =>
    unfold seen Turn.redacted
    dsimp only
    rw [client_redacted, Client.create_redacted, Client.createReports_redacted]
    cases fleet.client.create identifier <;> rfl
  | call number call =>
    unfold seen Turn.redacted
    dsimp only
    rw [request?_redacted]
    cases fleet.request? number with
    | none => rfl
    | some request => exact request.seen_redacted call
  | removeAll | free number | leak number | drop => rfl

theorem answer_redacted (question : Question) :
    fleet.redacted.answer question.redacted = fleet.answer question := by
  cases question with
  | client =>
    unfold answer Question.redacted
    dsimp only
    rw [isOpen_redacted, client_redacted, Client.describe_redacted]
  | request number =>
    unfold answer Question.redacted
    dsimp only
    rw [request?_redacted]
    cases fleet.request? number <;> rfl
  | profile profile => rfl

/-- A step that reads no file has the same effect and shows the same. -/
theorem observe_redacted {step : Step}
    (other : ∀ content path, step ≠ .act (.load content) path) :
    fleet.redacted.observe complaints step.redacted =
      ((fleet.observe complaints step).1.redacted, (fleet.observe complaints step).2) := by
  cases step with
  | act turn path =>
    have noLoad : ∀ content, turn ≠ .load content := fun content load =>
      other content path (by rw [load])
    unfold observe Step.redacted
    dsimp only
    rw [fleet.step_redacted noLoad, fleet.seen_redacted complaints noLoad]
    cases fleet.step turn <;> rfl
  | ask question =>
    unfold observe Step.redacted
    dsimp only
    rw [answer_redacted]

theorem load_redacted (path : String) (file : Except Unreadable ProfilesDocument) :
    fleet.redacted.load path (file.map ProfilesDocument.redacted) =
      ((fleet.load path file).1.redacted, (fleet.load path file).2) := by
  obtain ⟨client, result, reports⟩ := fleet.client.loaded_redacted path file
  unfold load
  rw [isOpen_redacted, client_redacted, client, result, reports]
  split <;> rfl

variable {complaints} {fleet} {fleet' : Fleet}

/-- What is the same about two steps that differ in secrets only: the clients they lead to, and what
is seen of them but for the words of a complaint, which decide about the rest. The words are left
out and not assumed to be equal, as they need not be. -/
structure SameButWords (after after' : Fleet × Seen) : Prop where
  client : after.1.redacted = after'.1.redacted
  silenced : after.2.silenced = after'.2.silenced
  eq_of_words : after.2.words? = after'.2.words? → after.2 = after'.2

/-- What is shown alike is the same, words and all. -/
theorem SameButWords.of_eq {after after' : Fleet × Seen}
    (client : after.1.redacted = after'.1.redacted) (seen : after.2 = after'.2) :
    SameButWords after after' :=
  ⟨client, by rw [seen], fun _ => seen⟩

/-- A file that cannot be read leaves everything as it was, and shows why. -/
theorem load_error (path : String) (unreadable : Unreadable) :
    fleet.load path (.error unreadable) =
      (fleet, if fleet.isOpen then
          { answer := .loaded (.error unreadable), reports := [unreadable.report path] }
        else { answer := .gone }) := by
  unfold load
  split <;> rfl

/-- Files are loaded in the same way if their documents differ in secrets only, or if there is the
same reason not to load them. What the two files look like does not matter any more. -/
theorem load_of_alike (same : fleet.redacted = fleet'.redacted)
    {file file' : Except Unreadable ProfilesDocument} (path : String)
    (files : (file.mapError Unreadable.silenced).map ProfilesDocument.redacted =
      (file'.mapError Unreadable.silenced).map ProfilesDocument.redacted) :
    SameButWords (fleet.load path file) (fleet'.load path file') := by
  have isOpen : fleet.isOpen = fleet'.isOpen := by
    rw [← fleet.isOpen_redacted, same, isOpen_redacted]
  cases file with
  | ok document =>
    cases file' with
    -- Of two files that cannot be read only the words may differ, and these are left out or
    -- compared.
    | error unreadable => cases files
    | ok document' =>
      have before := fleet.load_redacted path (.ok document)
      have after := fleet'.load_redacted path (.ok document')
      have blotted : (Except.ok document).map ProfilesDocument.redacted =
          (Except.ok document' : Except Unreadable _).map ProfilesDocument.redacted :=
        congrArg Except.ok (Except.ok.inj files)
      rw [same, blotted] at before
      obtain ⟨client, seen⟩ := Prod.mk.inj (before.symm.trans after)
      exact .of_eq client seen
  | error unreadable =>
    cases file' with
    | ok document => cases files
    | error unreadable' =>
      have silenced : unreadable.silenced = unreadable'.silenced := Except.error.inj files
      rw [load_error, load_error, isOpen]
      refine ⟨same, ?_, ?_⟩
      · by_cases opened : fleet'.isOpen = true
        · simp only [opened, if_true, Seen.silenced, List.map_cons, List.map_nil]
          rw [← unreadable.withoutReason_report_silenced, silenced,
            unreadable'.withoutReason_report_silenced]
        · rw [if_neg opened, if_neg opened]
      · intro words
        by_cases opened : fleet'.isOpen = true
        · rw [if_pos opened, if_pos opened] at words
          rw [unreadable.eq_of_silenced silenced (Option.some.inj words)]
        · rw [if_neg opened, if_neg opened]

/-- Steps that differ in secrets only do the same to clients that do, and show the same but for the
words of a complaint. Files are compared after they are read, since one is loaded with the secrets
in it. -/
theorem observe_of_alike (same : fleet.redacted = fleet'.redacted) {step step' : Step}
    (alike : step.Alike step') :
    SameButWords (fleet.observe complaints step) (fleet'.observe complaints step') := by
  cases alike with
  | load files =>
    rw [ProfilesDocument.ofFile_silent complaints,
      ProfilesDocument.ofFile_silent complaints] at files
    rw [observe_load, observe_load]
    exact load_of_alike same _ files
  | other steps =>
    by_cases reads : ∃ content path, step = .act (.load content) path
    · obtain ⟨content, path, rfl⟩ := reads
      rw [Step.eq_load steps.symm, observe_load, observe_load]
      exact load_of_alike same path rfl
    · have before := fleet.observe_redacted complaints fun content path load =>
        reads ⟨content, path, load⟩
      have after := fleet'.observe_redacted complaints fun content path load =>
        reads ⟨content, path, Step.eq_load (steps.trans (congrArg Step.redacted load))⟩
      rw [same, steps] at before
      obtain ⟨client, seen⟩ := Prod.mk.inj (before.symm.trans after)
      exact .of_eq client seen

/-- Clients that differ in secrets only show the same in runs that do, but for the words of the
complaints, by induction on the steps. -/
theorem watch_of_alike (same : fleet.redacted = fleet'.redacted) {steps steps' : List Step}
    (alike : List.Forall₂ Step.Alike steps steps') :
    (fleet.watch complaints steps).map Seen.silenced =
        (fleet'.watch complaints steps').map Seen.silenced ∧
      ((fleet.watch complaints steps).map Seen.words? =
          (fleet'.watch complaints steps').map Seen.words? →
        fleet.watch complaints steps = fleet'.watch complaints steps') := by
  induction alike generalizing fleet fleet' with
  | nil => exact ⟨rfl, fun _ => rfl⟩
  | cons step rest ih =>
    obtain ⟨next, silenced, seen⟩ := @observe_of_alike complaints _ _ same _ _ step
    obtain ⟨others, all⟩ := ih next
    unfold watch
    dsimp only
    simp only [List.map_cons, List.cons.injEq]
    exact ⟨⟨silenced, others⟩, fun words => ⟨seen words.1, all words.2⟩⟩

/-- Without a complaint in one of two runs that show the same but for words, there is none in the
other. -/
theorem map_words?_of_silenced {seen seen' : List Seen}
    (same : seen.map Seen.silenced = seen'.map Seen.silenced)
    (quiet : ∀ step ∈ seen, step.words? = none) : seen.map Seen.words? = seen'.map Seen.words? := by
  induction seen generalizing seen' with
  | nil => rw [List.map_eq_nil_iff.1 same.symm]
  | cons step rest ih =>
    obtain ⟨step', rest', rfl, first, others⟩ := List.map_eq_cons_iff.1 same.symm
    rw [List.forall_mem_cons] at quiet
    have none : step'.words? = none := by
      rw [← Option.not_isSome_iff_eq_none, ← step'.isSome_words?_silenced, first,
        step.isSome_words?_silenced, quiet.1]
      exact Bool.false_ne_true
    rw [List.map_cons, List.map_cons, ih others.symm quiet.2, quiet.1, none]

/-- Secrets do not leak, except into the words of a reader. Two runs of a client that differ only in
the values of the secrets, which are empty in neither or in both, give the same results, show the
same states, responses and forms for messages, report the same, and send the same up to the last
colon of each token, but for the words of a complaint about a profiles file that cannot be read.
They are the same to the letter iff these words are, and so whenever there is no complaint. -/
theorem watch_of_differing_secrets (config : Config) (complaints : Complaints)
    {steps steps' : List Step} (alike : List.Forall₂ Step.Alike steps steps') :
    let seen := (start config).watch complaints steps
    let seen' := (start config).watch complaints steps'
    seen.map Seen.silenced = seen'.map Seen.silenced ∧
      (seen = seen' ↔ seen.map Seen.words? = seen'.map Seen.words?) ∧
      ((∀ step ∈ seen, step.words? = none) → seen = seen') := by
  intro seen seen'
  obtain ⟨silenced, all⟩ : seen.map Seen.silenced = seen'.map Seen.silenced ∧
      (seen.map Seen.words? = seen'.map Seen.words? → seen = seen') :=
    watch_of_alike rfl alike
  exact ⟨silenced, ⟨congrArg _, all⟩, fun quiet => all (map_words?_of_silenced silenced quiet)⟩

end Fleet

/-! ### Two runs -/

namespace ProfilesDocument

theorem redacted_ofOne {secret secret' : String} (same : blot secret = blot secret') :
    (ofOne secret).redacted = (ofOne secret').redacted := by
  let blotted (secret : String) : ProfilesDocument :=
    ⟨Json.NameTable.empty.put "main" ⟨some "AKID", some secret⟩, (ofOne secret).destinations⟩
  exact congrArg blotted same

end ProfilesDocument

namespace Fleet

/-- A profiles file is loaded, more credentials are registered, an object is sent with those of the
file, everything is shown, and the client is given up. -/
def stepsOfOne (secret : String) (other : AccessProfile) : List Step :=
  [.act (.load (.ok (ProfilesDocument.fileOfOne (Json.text secret) ProfilesDocument.jsonOfHome)))
      "profiles.json",
    .act (.register "away" other ⟨"archive", ""⟩) "",
    .act (.create "home") "",
    .act (.call 0 (.operate "a" (.put ⟨Bytes.ofText "body", "text/plain"⟩) .epoch
      [.pull 8192, .respond 200 []])) "",
    .ask .client, .ask (.request 0), .ask (.profile other), .act (.free 0) "", .act .drop ""]

theorem alike_stepsOfOne {secret secret' : String} {other other' : AccessProfile}
    (blotted : blot secret = blot secret') (redacted : other.redacted = other'.redacted) :
    List.Forall₂ Step.Alike (stepsOfOne secret other) (stepsOfOne secret' other') := by
  let file (secret : String) : Bytes :=
    ProfilesDocument.fileOfOne (Json.text secret) ProfilesDocument.jsonOfHome
  have files : (ProfilesDocument.ofFile .silent (.ok (file secret))).map
      ProfilesDocument.redacted =
        (ProfilesDocument.ofFile .silent (.ok (file secret'))).map ProfilesDocument.redacted := by
    rw [ProfilesDocument.ofFile_of_home, ProfilesDocument.ofFile_of_home]
    exact congrArg Except.ok (ProfilesDocument.redacted_ofOne blotted)
  let register (profile : AccessProfile) : Step :=
    .act (.register "away" profile ⟨"archive", ""⟩) ""
  let ask (profile : AccessProfile) : Step := .ask (.profile profile)
  exact .cons (.load files) <| .cons (.other (congrArg register redacted)) <|
    .cons (.other rfl) <| .cons (.other rfl) <| .cons (.other rfl) <| .cons (.other rfl) <|
    .cons (.other (congrArg ask redacted)) <| .cons (.other rfl) <| .cons (.other rfl) .nil

/-- What is seen of such a run, once the file has been read. -/
theorem watch_stepsOfOne (complaints : Complaints) (secret : String) (other : AccessProfile) :
    let loaded := (start {}).load "profiles.json" (.ok (ProfilesDocument.ofOne secret))
    (start {}).watch complaints (stepsOfOne secret other) =
      loaded.2 :: loaded.1.watch complaints (stepsOfOne secret other).tail := by
  intro loaded
  have first : (start {}).observe complaints (.act (.load (.ok
      (ProfilesDocument.fileOfOne (Json.text secret) ProfilesDocument.jsonOfHome)))
        "profiles.json") = loaded := by
    rw [observe_load, ProfilesDocument.ofFile_of_home]
  rw [stepsOfOne, watch, first]
  rfl

/-- Two runs with other secrets, of other lengths, in which one object is sent. No complaint is
made, so they look the same to the letter. -/
theorem watch_of_differing_secrets_of_one :
    let complaints : Complaints := ⟨fun _ => "unreadable", fun _ => "not a document"⟩
    let steps := stepsOfOne "SECRET" ⟨"OTHER", "WORD"⟩
    let steps' := stepsOfOne "ANOTHER SECRET" ⟨"OTHER", "ANOTHER WORD"⟩
    List.Forall₂ Step.Alike steps steps' ∧
      (start {}).watch complaints steps = (start {}).watch complaints steps' ∧
      ((start {}).watch complaints steps).filterMap (fun seen => seen.sent.map (·.verb)) =
        [.put] := by
  intro complaints steps steps'
  have blotted : blot "SECRET" = blot "ANOTHER SECRET" := blot_eq_blot.2 (by decide)
  have redacted : AccessProfile.redacted ⟨"OTHER", "WORD"⟩ =
      AccessProfile.redacted ⟨"OTHER", "ANOTHER WORD"⟩ :=
    AccessProfile.redacted_eq_iff.2 ⟨rfl, by decide⟩
  have alike : List.Forall₂ Step.Alike steps steps' := alike_stepsOfOne blotted redacted
  obtain ⟨-, -, same⟩ := watch_of_differing_secrets {} complaints alike
  refine ⟨alike, same ?_, ?_⟩
  · have quiet : ((start {}).watch complaints steps).all (·.words?.isNone) = true := by
      rw [watch_stepsOfOne]
      decide +kernel
    intro step member
    exact Option.isNone_iff_eq_none.1 (List.all_eq_true.1 quiet step member)
  · rw [watch_stepsOfOne]
    decide +kernel

/-- A profiles file that is no document is loaded: where the destinations should be, behind the
secret, there is a number. -/
def stepsOfNumber (secret : String) : List Step :=
  [.act (.load (.ok (ProfilesDocument.fileOfOne (Json.text secret) (Json.natural 5))))
    "profiles.json"]

/-- What is seen of such a run is the complaint. -/
theorem watch_stepsOfNumber (complaints : Complaints) (secret : String) :
    ((start {}).watch complaints (stepsOfNumber secret)).map Seen.words? =
      [some (complaints.document
        (ProfilesDocument.fileOfOne (Json.text secret) (Json.natural 5)))] := by
  unfold stepsOfNumber watch
  dsimp only
  rw [observe_load, ProfilesDocument.ofFile_of_number, load_error]
  rfl

/-- Two runs that differ only in a secret, which is empty in neither, and do not look the same. The
reader says at which byte of a file it has given up, and so tells how long the secret is. And a
secret that is written as a number is not taken for one, so the same file is loaded with a secret in
quotes and not without them. -/
theorem watch_of_longer_secret :
    let complaints : Complaints :=
      ⟨fun _ => "unreadable", fun content =>
        "invalid type: integer `5`, expected a map at line 1 column "
          ++ Nat.repr (content.length - 1)⟩
    let content (secret destinations : Json.Value) : Except Disk.Fault Bytes :=
      .ok (ProfilesDocument.fileOfOne secret destinations)
    List.Forall₂ Step.Alike (stepsOfNumber "SECRET") (stepsOfNumber "LONGER SECRET") ∧
      ((start {}).watch complaints (stepsOfNumber "SECRET")).map Seen.words? =
        [some "invalid type: integer `5`, expected a map at line 1 column 93"] ∧
      ((start {}).watch complaints (stepsOfNumber "LONGER SECRET")).map Seen.words? =
        [some "invalid type: integer `5`, expected a map at line 1 column 100"] ∧
      (start {}).watch complaints (stepsOfNumber "SECRET") ≠
        (start {}).watch complaints (stepsOfNumber "LONGER SECRET") ∧
      (Client.loadProfiles {} (content (Json.text "12345") ProfilesDocument.jsonOfHome)).result =
        .ok 1 ∧
      (Client.loadProfiles {} (content (Json.natural 12345) ProfilesDocument.jsonOfHome)).result =
        .error .document := by
  intro complaints content
  let sentence (column : Nat) : String :=
    "invalid type: integer `5`, expected a map at line 1 column " ++ Nat.repr column
  have words (secret : String) {length : Nat}
      (long : (ProfilesDocument.fileOfOne (Json.text secret) (Json.natural 5)).length = length) :
      ((start {}).watch complaints (stepsOfNumber secret)).map Seen.words? =
        [some (sentence (length - 1))] := by
    rw [watch_stepsOfNumber, ← long]
  have short := words "SECRET" (by decide +kernel : _ = 94)
  have long := words "LONGER SECRET" (by decide +kernel : _ = 101)
  refine ⟨.cons (.load ?_) .nil, short, long, fun same => ?_, ?_, ?_⟩
  · rw [ProfilesDocument.ofFile_of_number, ProfilesDocument.ofFile_of_number]
    rfl
  · rw [same, long] at short
    exact absurd short (by decide)
  · rw [Client.loadProfiles_eq {} complaints "profiles.json", ProfilesDocument.ofFile_of_home]
    rfl
  · rw [Client.loadProfiles_eq {} complaints "profiles.json", ProfilesDocument.ofFile_fileOfOne
      complaints (Json.Value.isPlain_natural 12345) ProfilesDocument.isPlain_jsonOfHome]
    rfl

end Fleet

end Store

end PreviewSync
