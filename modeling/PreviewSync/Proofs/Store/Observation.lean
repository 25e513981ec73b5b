import PreviewSync.Proofs.Store.Bindings
import PreviewSync.Proofs.Store.Redaction

/-!
# What is seen of a client

Everything that others get to see of a client, step by step: what the calls return, the states and
responses of its requests, the forms for messages, the reports, and what is sent up to the last
colon of the token.

## Main Definitions

* `Client.loadProfiles_eq` — what is reported in full is what the loader reports, with the reasons
* `Step`, `Seen` — what is done to a client or asked of it, and what is seen of it
* `Fleet.observe`, `Fleet.watch` — what is seen of one step, and of several
* `Seen.silenced`, `Seen.words?` — the words of a complaint about a profiles file, and all else
-/

namespace PreviewSync

/-- An entry without its reason and without the path that it is about. -/
def Log.Entry.brief (entry : Log.Entry) : Log.Entry :=
  { entry with details := entry.details.filter fun detail =>
      detail.1 != "path" && detail.1 != "error" }

/-- An entry without its reason. The reason holds the words of the reader, of which nothing is known
here. -/
def Log.Entry.withoutReason (entry : Log.Entry) : Log.Entry :=
  { entry with details := entry.details.filter fun detail => detail.1 != "error" }

namespace Store

/-! ### The reports in full are those of the loader -/

theorem Fault.brief_refusalReport (fault : Fault) (identifier : String) :
    (fault.refusalReport identifier).brief = fault.registrationReport identifier := by
  cases fault <;> simp [refusalReport, registrationReport, Log.Entry.brief]

theorem brief_missingField (object field : String) :
    (missingField object field).brief = missingField object field := by
  simp [missingField, Log.Entry.brief]

theorem brief_requireField (object field : String) (value : Option String) :
    (requireField object field value).map Log.Entry.brief = requireField object field value := by
  cases value with
  | none => exact congrArg (· :: []) (brief_missingField object field)
  | some => rfl

theorem ProfilesDocument.brief_profileReports (document : ProfilesDocument) :
    document.profileReports.map Log.Entry.brief = document.profileReports := by
  unfold profileReports
  rw [List.map_flatMap]
  congr 1
  funext ⟨name, entry⟩
  obtain ⟨_ | keyId, _ | secret⟩ := entry <;>
    simp [ProfileEntry.profile?, brief_missingField]

namespace Registering

/-- The registration of an entry reports what is reported about it in full, without the reason. -/
theorem reports_entry (document : ProfilesDocument) (r : Registering) (name : String)
    (entry : DestinationEntry) :
    (r.entry document name entry).reports =
      r.reports ++ (r.client.entryReports document name entry).map Log.Entry.brief := by
  obtain ⟨_ | bucket, _ | keyPrefix, _ | profileName⟩ := entry
  case some.some.some =>
    unfold Registering.entry Client.entryReports Client.registerReports
    dsimp only
    cases document.profile? profileName with
    | none => simp [report, Log.Entry.brief]
    | some profile =>
      dsimp only
      cases r.client.register name profile ⟨bucket, keyPrefix⟩ with
      | ok client => exact (List.append_nil _).symm
      | error fault => simp [report, Fault.brief_refusalReport]
  all_goals
    simp [Registering.entry, Client.entryReports, report, brief_requireField]

/-- The same for all entries, by induction on them. -/
theorem reports_foldl (document : ProfilesDocument) (entries : List (String × DestinationEntry))
    (r : Registering) :
    (entries.foldl (fun r named => r.entry document named.1 named.2) r).reports =
      r.reports ++ (r.entriesReports document entries).map Log.Entry.brief := by
  induction entries generalizing r with
  | nil => exact (List.append_nil _).symm
  | cons named rest ih =>
    obtain ⟨name, entry⟩ := named
    rw [List.foldl_cons, ih, reports_entry, entriesReports, List.map_append, List.append_assoc]

end Registering

namespace Client

variable (client : Client) (complaints : Complaints) (path : String)
  (content : Except Disk.Fault Bytes)

/-- A client after a profiles file has been loaded. -/
def loaded (file : Except Unreadable ProfilesDocument) : Client :=
  match file with
  | .error _ => client
  | .ok document => (client.registerAll document).client

/-- What loading a profiles file ends with. -/
def loadResult (file : Except Unreadable ProfilesDocument) : Except Unreadable Nat :=
  file.map fun document => (client.registerAll document).count

/-- The loader does with a file what is to be done with the document in it, and reports the same
without the reasons. -/
theorem loadProfiles_eq :
    let file := ProfilesDocument.ofFile complaints content
    client.loadProfiles content =
      { client := client.loaded file
        result := (client.loadResult file).mapError Unreadable.fault
        reports := (client.loadReports path file).map Log.Entry.brief } := by
  have unread : ∀ fault, (Unreadable.report ⟨.disk fault, complaints.disk fault⟩ path).brief =
      ⟨.error, "failed to read profiles file", []⟩ := by
    simp [Unreadable.report, Log.Entry.brief]
  have unparsed : ∀ complaint, (Unreadable.report ⟨.document, complaint⟩ path).brief =
      ⟨.error, "failed to parse profiles file", []⟩ := by
    simp [Unreadable.report, Log.Entry.brief]
  let failed (fault : ProfilesFault) (report : Log.Entry) : Loading :=
    ⟨client, .error fault, [report]⟩
  unfold loadProfiles ProfilesDocument.ofFile
  cases content with
  | error fault => exact congrArg (failed (.disk fault)) (unread fault).symm
  | ok content =>
    dsimp only
    split
    · exact congrArg (failed (.disk .notText)) (unread .notText).symm
    · cases ProfilesDocument.read? content with
      | none => exact congrArg (failed .document) (unparsed _).symm
      | some document =>
        let registered := client.registerAll document
        have reports : registered.reports =
            (client.loadReports path (.ok document)).map Log.Entry.brief := by
          unfold loadReports
          rw [List.map_append, document.brief_profileReports]
          exact Registering.reports_foldl document document.destinations.toList
            { client, reports := document.profileReports }
        exact congrArg (Loading.mk registered.client (.ok registered.count)) reports

end Client

/-! ### What is seen of a client -/

/-- What others can tell of a request. Of its registration that is the name alone. Credentials are
not among it, since no method of a request hands them out. -/
structure Glimpse where
  identifier : String
  state : State
  response : Option Metadata
  statusCode : Option UInt16
  cancelled : Bool
deriving Repr, DecidableEq

/-- What a step answers. A fault stands for its message, which is made from the fault alone. -/
inductive Answer where
  /-- The client or the request is not there any more. -/
  | gone
  | done
  | removed (wasThere : Bool)
  | ended (result : Except Fault Unit)
  | loaded (result : Except Unreadable Nat)
  | operated (result : Except Fault Unit) (output : Bytes)
  | closed (result : Except String Unit)
  | shown (text : String)

/-- What is seen of a step: its answer, the request that it is about, the reports, and what is sent
up to the last colon of the token. It is everything that comes out of a client, so what does not
show here does not show at all. -/
structure Seen where
  answer : Answer
  request : Option Glimpse := none
  reports : List Log.Entry := []
  sent : Option Dispatch := none

namespace Request

/-- What others can tell of a request. -/
def glimpse (request : Request) : Glimpse :=
  ⟨request.registration.identifier, request.state, request.response, request.statusCode,
    request.cancelled⟩

/-- What is seen of a call. -/
def seen (request : Request) : Call → Seen
  | .operate key operation now events =>
    let outcome := request.perform key operation now events
    { answer := .operated outcome.result outcome.output
      request := some outcome.request.glimpse
      reports := outcome.reports key operation.verb
      sent := outcome.dispatch.map Dispatch.withoutSignature }
  | .cancel => { answer := .done, request := some request.cancel.glimpse }
  | .reset => { answer := .done, request := some request.reset.glimpse }

end Request

/-- What is asked of a client without any effect: its form for messages, that of a request, or that
of some credentials. Credentials are asked for by themselves, since a client hands none out. -/
inductive Question where
  | client
  | request (number : Nat)
  | profile (profile : AccessProfile)

/-- A step of a run: something is done or asked. If a profiles file is loaded, it has the given
path, which is named in reports. The file itself may hold anything. -/
inductive Step where
  | act (turn : Turn) (path : String)
  | ask (question : Question)

namespace Fleet

/-- What is seen of a turn that can be taken. For turns that answer nothing it says so, since not to
answer is the same for everyone. -/
def seen (complaints : Complaints) (fleet : Fleet) (path : String) : Turn → Seen
  | .register identifier profile destination =>
    { answer := .ended ((fleet.client.register identifier profile destination).map fun _ => ())
      reports := fleet.client.registerReports identifier profile destination }
  | .remove identifier => { answer := .removed (fleet.client.has identifier) }
  | .load content =>
    let file := ProfilesDocument.ofFile complaints content
    { answer := .loaded (fleet.client.loadResult file)
      reports := fleet.client.loadReports path file }
  | .create identifier =>
    let made := fleet.client.create identifier
    { answer := .ended (made.map fun _ => ())
      request := made.toOption.map fun made => made.2.glimpse
      reports := fleet.client.createReports identifier }
  | .call number call =>
    match fleet.request? number with
    | some request => request.seen call
    | none => { answer := .gone }
  | .drop => { answer := .closed fleet.client.close, reports := fleet.client.closeReports }
  | .removeAll | .free _ | .leak _ => { answer := .done }

/-- What is answered to a question. To ask has no effect, so a run may ask anything at any time. -/
def answer (fleet : Fleet) : Question → Answer
  | .client => if fleet.isOpen then .shown fleet.client.describe else .gone
  | .request number =>
    match fleet.request? number with
    | some request => .shown request.describe
    | none => .gone
  | .profile profile => .shown profile.describe

/-- The effect of a step, and what is seen of it. A step that cannot be taken is seen as well: that
something is gone is an answer too. -/
def observe (complaints : Complaints) (fleet : Fleet) : Step → Fleet × Seen
  | .act turn path =>
    match fleet.step turn with
    | some next => (next, fleet.seen complaints path turn)
    | none => (fleet, { answer := .gone })
  | .ask question => (fleet, { answer := fleet.answer question })

/-- What is seen of several steps. It is a list with one member for each step, so that two runs are
compared step by step. -/
def watch (complaints : Complaints) (fleet : Fleet) : List Step → List Seen
  | [] => []
  | step :: rest =>
    let (next, seen) := fleet.observe complaints step
    seen :: next.watch complaints rest

variable (complaints : Complaints) (fleet : Fleet)

/-- The effect of loading a file by the document in it, and what is seen of it. -/
def load (path : String) (file : Except Unreadable ProfilesDocument) : Fleet × Seen :=
  if fleet.isOpen then
    ({ fleet with client := fleet.client.loaded file },
      { answer := .loaded (fleet.client.loadResult file)
        reports := fleet.client.loadReports path file })
  else (fleet, { answer := .gone })

theorem observe_load (content : Except Disk.Fault Bytes) (path : String) :
    fleet.observe complaints (.act (.load content) path) =
      fleet.load path (ProfilesDocument.ofFile complaints content) := by
  have loaded : (fleet.client.loadProfiles content).client = _ :=
    congrArg Loading.client (fleet.client.loadProfiles_eq complaints path content)
  have stepped : fleet.step (.load content) =
      if fleet.isOpen then some { fleet with client := (fleet.client.loadProfiles content).client }
      else none := rfl
  unfold observe load
  dsimp only
  rw [stepped, loaded]
  split
  · rename_i next taken
    split at taken <;> cases taken
    rename_i opened
    rw [if_pos opened]
    rfl
  · rename_i untaken
    split at untaken
    · cases untaken
    · rename_i closed
      rw [if_neg closed]

end Fleet

/-! ### The words of a complaint -/

/-- A reader that makes no words about what is wrong. What is seen with it is what is seen with any
other reader, less the words. -/
def Complaints.silent : Complaints :=
  ⟨fun _ => "", fun _ => ""⟩

/-- A fault of a profiles file without the words about it. Which kind of fault it is remains. -/
def Unreadable.silenced (unreadable : Unreadable) : Unreadable :=
  { unreadable with complaint := "" }

theorem Unreadable.eq_of_silenced {unreadable unreadable' : Unreadable}
    (silenced : unreadable.silenced = unreadable'.silenced)
    (complaint : unreadable.complaint = unreadable'.complaint) : unreadable = unreadable' := by
  obtain ⟨fault, words⟩ := unreadable
  obtain ⟨fault', words'⟩ := unreadable'
  obtain ⟨rfl, -⟩ := Unreadable.mk.inj silenced
  exact congrArg _ complaint

/-- What is seen, but for the words of a complaint about a profiles file. They stand in the answer
and once more in the report. -/
def Seen.silenced (seen : Seen) : Seen :=
  match seen.answer with
  | .loaded (.error unreadable) =>
    { seen with
      answer := .loaded (.error unreadable.silenced)
      reports := seen.reports.map Log.Entry.withoutReason }
  | _ => seen

/-- The words of the complaint about a profiles file, if there is one. They are the only words in
what is seen that the reader makes. -/
def Seen.words? (seen : Seen) : Option String :=
  match seen.answer with
  | .loaded (.error unreadable) => some unreadable.complaint
  | _ => none

/-- Whether there are words is no matter of the words. -/
theorem Seen.isSome_words?_silenced (seen : Seen) :
    seen.silenced.words?.isSome = seen.words?.isSome := by
  unfold silenced
  split
  · rename_i answer
    simp [words?, answer]
  · rfl

theorem Unreadable.withoutReason_report_silenced (unreadable : Unreadable) (path : String) :
    (unreadable.silenced.report path).withoutReason = (unreadable.report path).withoutReason := by
  obtain ⟨_ | _, complaint⟩ := unreadable <;> rfl

theorem ProfilesDocument.ofFile_silent (complaints : Complaints)
    (content : Except Disk.Fault Bytes) :
    ofFile .silent content = (ofFile complaints content).mapError Unreadable.silenced := by
  unfold ofFile
  cases content with
  | error fault => rfl
  | ok content =>
    dsimp only
    split
    · rfl
    · cases read? content <;> rfl

end Store

end PreviewSync
