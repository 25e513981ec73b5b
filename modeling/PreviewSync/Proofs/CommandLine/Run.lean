import Mathlib
import PreviewSync.CommandLine.Run
import PreviewSync.Proofs.Disk.Place
import PreviewSync.Proofs.Store.Delivery
import PreviewSync.Proofs.Store.Preparation
import PreviewSync.Proofs.Store.Profiles

/-!
# One exchange or none

A run of the command line goes through stages that may fail for reasons of their own. A request is
sent iff all of them succeed, and then the run is the one operation of its command: what it writes,
says and ends with is decided by the answer to that request. A run that sends nothing writes
nothing. Whatever happens, the request is released before the client ends.

## Main Definitions

* `CommandLine.IsSetUp`, `CommandLine.IsReady` — what has to be in order before a request is sent
* `CommandLine.runFrom_of_operation` — a run on a tree, once its command has an operation
* `CommandLine.Course`, `CommandLine.course_runFrom` — the ways a run may go
* `CommandLine.Result.Concludes` — what a run makes of the outcome of its operation
* `CommandLine.IsOneExchange`, `CommandLine.isOneExchange_run` — what every run keeps to
-/

namespace PreviewSync.CommandLine

open Store (Client Dispatch Event Operation Outcome)

namespace Command

/-- The verb of a command. -/
def verb : Command → Verb
  | head _ => .head
  | get _ _ => .get
  | put _ _ => .put
  | delete _ => .delete

variable {command : Command} {files : Files} {operation : Operation}

/-- There is an operation for an upload iff its file can be read; it sends what is in the file. -/
theorem operation_put_eq_ok {key file : String} :
    (put key file).operation files = .ok operation ↔
      ∃ body, files file = .ok body ∧ operation = .put ⟨body, contentTypeFor file⟩ := by
  unfold Command.operation
  cases read : files file with
  | error fault => simp [read]
  | ok body => simp [read, eq_comm]

/-- The operation of a command has its verb, and nothing has been read for it yet. -/
theorem verb_of_operation (made : command.operation files = .ok operation) :
    operation.verb = command.verb ∧ operation.output = [] := by
  cases command with
  | head key | get key file | delete key =>
    cases made
    exact ⟨rfl, rfl⟩
  | put key file =>
    obtain ⟨body, -, rfl⟩ := operation_put_eq_ok.1 made
    exact ⟨rfl, rfl⟩

/-- The output of a command is written, as far as it has any. A command without output has nothing
that could go wrong here. -/
def Writes (disk : Disk) (outlet : Outlet) (body : Bytes) : Command → Prop
  | get _ (some file) =>
    outlet body = none ∧ ∃ disk', disk.write (Path.ofText file) body = .ok disk'
  | get _ none => outlet body = none
  | _ => True

end Command

/-! ### Setting up -/

/-- The profiles file of the configuration, as a new client loads it. -/
def loading (env : Config.Environment) (files : Files) : Store.Loading :=
  let config := (Config.ofEnvironment env).1
  (Client.ofConfig config).loadProfiles (files config.profilesPath)

/-- The configuration is valid. So is its log filter, unless the environment brings one of its
own. -/
def IsConfigured (env : Config.Environment) : Prop :=
  let config := (Config.ofEnvironment env).1
  (env logOverride ≠ none ∨ LogFilter.isValid config.logLevel = true) ∧ config.validate = .ok ()

/-- What has to be in order before there is a request. Each of these is the matter of one stage, and
the first that is not in order ends the run. -/
structure IsSetUp (env : Config.Environment) (files : Files) (destination : String)
    (registration : Store.Registration) : Prop where
  configured : IsConfigured env
  loaded : ∃ count, (loading env files).result = .ok count
  registered : (loading env files).client.find? destination = some registration

variable {env : Config.Environment} {files : Files} {destination : String} {disk : Disk}

/-- There is a configuration iff it is in order. The log filter is looked at as well, if the
environment does not bring its own. -/
theorem configure_cases (env : Config.Environment) :
    (IsConfigured env ∧ configure env = .ok (Config.ofEnvironment env).1) ∨
      (¬ IsConfigured env ∧ ∃ fault, configure env = .error fault) := by
  unfold configure IsConfigured
  dsimp only
  split
  · rename_i flawed
    rw [Bool.and_eq_true, Option.isNone_iff_eq_none, Bool.not_eq_true'] at flawed
    obtain ⟨unset, invalid⟩ := flawed
    refine .inr ⟨?_, _, rfl⟩
    rintro ⟨set | valid, -⟩
    · exact set unset
    · exact Bool.false_ne_true (invalid.symm.trans valid)
  · rename_i sound
    rw [Bool.and_eq_true, Option.isNone_iff_eq_none, Bool.not_eq_true',
      Decidable.not_and_iff_not_or_not, Bool.not_eq_false] at sound
    split
    · rename_i valid
      exact .inl ⟨⟨sound, valid⟩, rfl⟩
    · rename_i rejection invalid
      refine .inr ⟨?_, _, rfl⟩
      rintro ⟨-, valid⟩
      rw [invalid] at valid
      cases valid

/-- There is a client for use iff the profiles can be loaded. How many destinations they declare
does not matter here. -/
theorem connect_cases (env : Config.Environment) (files : Files) :
    (∃ count, (loading env files).result = .ok count ∧
      connect (Config.ofEnvironment env).1 files = .ok (loading env files).client) ∨
    ∃ fault, (∀ count, (loading env files).result ≠ .ok count) ∧
      connect (Config.ofEnvironment env).1 files =
        .error ⟨fault, some (loading env files).client⟩ := by
  have load : (Client.ofConfig (Config.ofEnvironment env).1).loadProfiles
      (files (Config.ofEnvironment env).1.profilesPath) = loading env files := rfl
  unfold connect
  dsimp only
  rw [load]
  cases result : (loading env files).result with
  | ok count => exact .inl ⟨count, rfl, rfl⟩
  | error fault =>
    exact .inr ⟨.profiles (Config.ofEnvironment env).1.profilesPath, nofun, rfl⟩

/-- A client that has loaded its profiles has no requests yet, it has the endpoint of the
configuration, and its destinations are complete. -/
theorem client_loading (env : Config.Environment) (files : Files) :
    (loading env files).client.live = 0 ∧
      (loading env files).client.endpoint =
        (Client.ofConfig (Config.ofEnvironment env).1).endpoint ∧
      ∀ name registration, (loading env files).client.find? name = some registration →
        registration.IsComplete := by
  have follows := (Store.Fleet.Follows.start (Config.ofEnvironment env).1).client.load
    (files (Config.ofEnvironment env).1.profilesPath)
  have complete := Store.Book.IsComplete.empty.load
    (files (Config.ofEnvironment env).1.profilesPath)
  refine ⟨?_, follows.endpoint, fun name registration found => ?_⟩
  · refine follows.live.trans ?_
    rw [(Store.Book.rebinds_load _ _).2]
    rfl
  · have bound := (follows.bound name).symm.trans found
    obtain ⟨meaning, there, rfl⟩ := Option.map_eq_some_iff.1 bound
    exact complete.bound name meaning there

/-- There is a request iff everything is in order before. If not, no client is left with one. A
setback may leave a client behind, which must have nothing to complain about. -/
theorem setUp_cases (env : Config.Environment) (files : Files) (destination : String) :
    (∃ registration, IsSetUp env files destination registration ∧
      setUp env files destination = .ok ({ (loading env files).client with live := 1 },
        { registration, endpoint := (loading env files).client.endpoint })) ∨
    ∃ setback, (∀ registration, ¬ IsSetUp env files destination registration) ∧
      setUp env files destination = .error setback ∧ closing setback.client = .ok () := by
  obtain ⟨noRequests, -, -⟩ := client_loading env files
  have closes : (loading env files).client.close = .ok () := Client.close_eq_ok.2 noRequests
  unfold setUp
  rcases configure_cases env with ⟨configured, done⟩ | ⟨unconfigured, fault, done⟩
  case inr =>
    rw [done]
    exact .inr ⟨_, fun _ setUp => unconfigured setUp.configured, rfl, rfl⟩
  rw [done]
  dsimp only
  rcases connect_cases env files with ⟨count, loaded, done⟩ | ⟨fault, unloaded, done⟩
  case inr =>
    rw [done]
    exact .inr ⟨_, fun _ setUp => unloaded _ setUp.loaded.choose_spec, rfl, closes⟩
  rw [done]
  dsimp only
  unfold Client.create
  cases registered : (loading env files).client.find? destination with
  | none =>
    refine .inr ⟨_, fun _ setUp => ?_, rfl, closes⟩
    rw [setUp.registered] at registered
    cases registered
  | some registration =>
    refine .inl ⟨registration, ⟨configured, ⟨count, loaded⟩, registered⟩, ?_⟩
    dsimp only
    rw [noRequests]

/-! ### The stages of a run on a tree -/

/-- The result of a run whose operation has an outcome. It is what the last stages make of it,
without the stages before. -/
def finish (command : Command) (outcome : Outcome) (disk : Disk) (client : Client)
    (outlet : Outlet) : Result :=
  let (fault, traces) := (conclude command outcome).carryOut outlet { disk }
  .of { fault, dispatch := outcome.dispatch, client := some client }
    { traces with report := report outcome.request }

/-- What comes back for what was put on the wire. -/
def answersOf (respond : Operation → Dispatch → List Event) (operation : Operation) :
    Option Dispatch → List Event
  | some dispatch => respond operation dispatch
  | none => []

section Stages

variable {invocation : Invocation} {now : Instant} {respond : Operation → Dispatch → List Event}
  {outlet : Outlet}

/-- On a tree the answer is known beforehand, and asking for it changes nothing. That is what makes
the stages on a tree a plain function of what is given. -/
theorem answers_onTree {operation : Operation} (sent : Option Dispatch) :
    (Surroundings.onTree now respond outlet).answers operation sent =
      return answersOf respond operation sent := by
  cases sent <;> rfl

/-- A run that comes to a setback before there is a request ends with it. Neither is the time asked
for, nor the store. -/
theorem runFrom_of_setback {setback : Setback}
    (done : setUp env (filesOf disk) invocation.destination = .error setback) :
    runFrom env disk invocation now respond outlet =
      { fault := some setback.fault, disk, client := setback.client } := by
  unfold runFrom Surroundings.stages
  rw [done]
  rfl

/-- A run whose command has no operation reports on its request and releases it. The file to upload
cannot be read, which is found out before anything is sent. -/
theorem runFrom_of_unreadable {client : Client} {request : Store.Request} {fault : Fault}
    (done : setUp env (filesOf disk) invocation.destination = .ok (client, request))
    (unreadable : invocation.command.operation (filesOf disk) = .error fault) :
    runFrom env disk invocation now respond outlet =
      { fault := some fault, report := report request, disk, client := some client.release } := by
  unfold runFrom Surroundings.stages
  rw [done]
  dsimp only
  rw [unreadable]
  rfl

/-- A run whose command has an operation ends with the outcome of that operation. The request is
released whether that is a success or a fault. -/
theorem runFrom_of_operation {client : Client} {request : Store.Request} {operation : Operation}
    (done : setUp env (filesOf disk) invocation.destination = .ok (client, request))
    (made : invocation.command.operation (filesOf disk) = .ok operation) :
    runFrom env disk invocation now respond outlet =
      finish invocation.command
        (request.perform invocation.command.key operation now
          (answersOf respond operation (request.start invocation.command.key operation now).2))
        disk client.release outlet := by
  unfold runFrom Surroundings.stages
  simp only [done, made, answers_onTree]
  rfl

end Stages

/-! ### The ways a run may go -/

/-- Everything that has to be in order before a request is sent, that request, and the operation
that it is sent for. The limits of key and address are said as numbers, so that nobody has to know
how a request is prepared. -/
structure IsReady (env : Config.Environment) (files : Files) (invocation : Invocation)
    (request : Store.Request) (operation : Operation) : Prop
    extends IsSetUp env files invocation.destination request.registration where
  /-- The request is a new one. -/
  made : request =
    { registration := request.registration, endpoint := (loading env files).client.endpoint }
  /-- A file to upload can be read. -/
  operation : invocation.command.operation files = .ok operation
  key : invocation.command.key.utf8ByteSize ≤ 1024
  address : (request.url invocation.command.key).utf8ByteSize ≤ 2048

/-- The ways a run may go. Whichever stage it ends at, a run that sends nothing has this in common:
some condition is not met, and the client has nothing to complain about. -/
inductive Course (env : Config.Environment) (disk : Disk) (invocation : Invocation) (now : Instant)
    (respond : Operation → Dispatch → List Event) (outlet : Outlet) : Result → Prop
  /-- Something is not in order, and the run stops without sending a request. -/
  | stopped (fault : Fault) (said : List String) (client : Option Client)
      (closes : closing client = .ok ())
      (unready : ∀ request operation, ¬ IsReady env (filesOf disk) invocation request operation) :
      Course env disk invocation now respond outlet
        { fault := some fault, report := said, disk, client }
  /-- The operation of the command is run. -/
  | sent (request : Store.Request) (operation : Operation) (dispatch : Dispatch) (client : Client)
      (closes : client.close = .ok ())
      (ready : IsReady env (filesOf disk) invocation request operation)
      (sent : (request.start invocation.command.key operation now).2 = some dispatch) :
      Course env disk invocation now respond outlet
        (finish invocation.command
          (request.perform invocation.command.key operation now (respond operation dispatch))
          disk client outlet)

variable {invocation : Invocation} {now : Instant} {respond : Operation → Dispatch → List Event}
  {outlet : Outlet}

/-- A new request of a complete destination sends what is within the limits, and nothing else.
Faults of signing do not occur with complete credentials. -/
theorem start_cases (request : Store.Request) (key : String) {operation : Operation}
    (complete : request.registration.IsComplete) (idle : request.state = .idle)
    (uncancelled : request.cancelled = false) (unused : operation.output = []) (now : Instant) :
    (key.utf8ByteSize ≤ 1024 ∧ (request.url key).utf8ByteSize ≤ 2048 ∧
      ∃ dispatch, (request.start key operation now).2 = some dispatch) ∨
    (¬ (key.utf8ByteSize ≤ 1024 ∧ (request.url key).utf8ByteSize ≤ 2048) ∧
      (request.start key operation now).2 = none ∧
      ∃ rejection, request.perform key operation now [] =
        ⟨request, .error (.rejected rejection), operation.output, none⟩) := by
  have prepared := Store.Request.prepare_cases complete operation.verb key operation.payload now
  dsimp only [Store.maxKeyLength, Store.maxUrlLength] at prepared
  have begins := request.begins_start key operation now
  generalize start : request.start key operation now = begun at begins
  cases begins with
  | busy busy => exact absurd idle busy
  | forestalled idle valid called => exact absurd (uncancelled.symm.trans called) Bool.false_ne_true
  | refused rejection idle invalid =>
    refine .inr ⟨?_, rfl, rejection, Store.Request.perform_of_ended start⟩
    rintro ⟨shortKey, shortAddress⟩
    rcases prepared with ⟨long, -⟩ | ⟨-, long, -⟩ | ⟨-, -, accepted⟩
    · exact Nat.not_le_of_lt long shortKey
    · exact Nat.not_le_of_lt long shortAddress
    · exact invalid ⟨unused, _, accepted⟩
  | launched body dispatch idle valid =>
    obtain ⟨-, dispatch', accepted⟩ := valid
    rcases prepared with ⟨-, refused⟩ | ⟨-, -, refused⟩ | ⟨shortKey, shortAddress, -⟩
    · exact nomatch refused.symm.trans accepted
    · exact nomatch refused.symm.trans accepted
    · exact .inl ⟨shortKey, shortAddress, dispatch, rfl⟩

/-- Every run goes one of these ways. The stages are gone through here once, in the order in which
they stand. -/
theorem course_runFrom (env : Config.Environment) (disk : Disk) (invocation : Invocation)
    (now : Instant) (respond : Operation → Dispatch → List Event) (outlet : Outlet) :
    Course env disk invocation now respond outlet
      (runFrom env disk invocation now respond outlet) := by
  rcases setUp_cases env (filesOf disk) invocation.destination with
    ⟨registration, set, done⟩ | ⟨setback, unset, done, closes⟩
  case inr =>
    rw [runFrom_of_setback done]
    exact .stopped setback.fault [] setback.client closes fun _ _ ready => unset _ ready.toIsSetUp
  cases made : invocation.command.operation (filesOf disk) with
  | error fault =>
    rw [runFrom_of_unreadable done made]
    refine .stopped fault _ _ rfl fun request operation ready => ?_
    exact nomatch made.symm.trans ready.operation
  | ok operation =>
    rw [runFrom_of_operation done made]
    have complete := (client_loading env (filesOf disk)).2.2 _ _ set.registered
    have unused := (Command.verb_of_operation made).2
    let request : Store.Request :=
      { registration, endpoint := (loading env (filesOf disk)).client.endpoint }
    rcases start_cases request invocation.command.key complete rfl rfl unused now with
      ⟨shortKey, shortAddress, dispatch, sent⟩ | ⟨long, unsent, rejection, refused⟩
    · have ready : IsReady env (filesOf disk) invocation request operation :=
        ⟨set, rfl, made, shortKey, shortAddress⟩
      rw [sent]
      exact .sent request operation dispatch _ rfl ready sent
    · rw [unsent, answersOf, refused]
      refine .stopped (.store (.rejected rejection)) _ _ rfl fun request' operation' ready => ?_
      have same : request' = request := by
        rw [ready.made, Option.some.inj (ready.registered.symm.trans set.registered)]
      rw [← same] at long
      exact long ⟨ready.key, ready.address⟩

/-! ### What is made of the outcome -/

/-- What a run makes of the outcome of its operation, given what has come back for its request.
Whether somebody calls the operation off in time is given as well: a run never does that to its own
request, but nothing here depends on it. -/
structure Result.Concludes (result : Result) (disk : Disk) (command : Command) (outcome : Outcome)
    (reply : List Event) (called : Prop) (outlet : Outlet) : Prop where
  /-- The operation has succeeded iff the reply is what the command is after: an answer with the
  status that means success for its verb, and for reading a whole body behind it. -/
  succeeded : outcome.result = .ok () ↔ ¬ called ∧ Store.brought? command.verb reply ≠ none
  /-- What the request shows in the end is reported. -/
  said : result.report = CommandLine.report outcome.request
  /-- An operation that fails leaves every file as it was, and nothing is printed. -/
  failed : ∀ fault, outcome.result = .error fault →
    result.fault = some (.store fault) ∧ result.disk = disk ∧ result.printed = []
  /-- A command other than reading writes nothing either. -/
  silent : command.verb ≠ .get → result.disk = disk ∧ result.printed = []
  /-- Reading that succeeds has received that body. -/
  received : command.verb = .get → outcome.result = .ok () →
    Store.delivered? 200 reply = some outcome.output
  /-- That body is printed, or as much of it as gets through. -/
  printed : ∀ key, command = .get key none → outcome.result = .ok () →
    result.disk = disk ∧ result.printed <+: outcome.output ∧
      (result.exitCode = 0 → result.printed = outcome.output)
  /-- Or it is written to the file, or as much of it as gets through, and to no other place. -/
  written : ∀ key file, command = .get key (some file) → outcome.result = .ok () →
    result.printed = [] ∧
      (∀ place ≠ (Path.ofText file).place, result.disk.node? place = disk.node? place) ∧
      (result.disk = disk ∨ ∃ part, part <+: outcome.output ∧
        filesOf result.disk file = .ok part) ∧
      (result.exitCode = 0 → filesOf result.disk file = .ok outcome.output)
  /-- The run succeeds iff the operation does and its output is written. -/
  exit : result.exitCode = 0 ↔
    outcome.result = .ok () ∧ command.Writes disk outlet outcome.output

/-- A run whose client ends without complaint succeeds iff it has no fault. The exit code is that of
the fault, then. -/
theorem exitCode_eq_zero {client : Client} (closes : client.close = .ok ())
    (fault : Option Fault) : exitCode fault (some client) = 0 ↔ fault = none := by
  unfold exitCode closing
  dsimp only
  rw [closes]
  cases fault <;> simp

/-- What gets through is the beginning of what is written, and all of it unless writing breaks
off. -/
theorem passed_prefix (breakage : Option Breakage) (content : Bytes) :
    passed breakage content <+: content := by
  cases breakage with
  | none => exact List.prefix_refl content
  | some breakage => exact List.take_prefix _ _

/-- What is said before anything else does not matter. Notices about the environment come first and
change nothing. -/
theorem Result.Concludes.notice {result : Result} {command : Command} {outcome : Outcome}
    {reply : List Event} {called : Prop}
    (h : result.Concludes disk command outcome reply called outlet) (notices : List String) :
    { result with notices }.Concludes disk command outcome reply called outlet :=
  ⟨h.succeeded, h.said, h.failed, h.silent, h.received, h.printed, h.written, h.exit⟩

section Finish

variable {command : Command} {outcome : Outcome} {client : Client} {reply : List Event}
  {called : Prop}

/-- A run ends with the fault of its operation. Nothing has been written by then. -/
theorem concludes_of_failed (closes : client.close = .ok ())
    (meant : outcome.result = .ok () ↔ ¬ called ∧ Store.brought? command.verb reply ≠ none)
    {fault : Store.Fault} (failed : outcome.result = .error fault) :
    (finish command outcome disk client outlet).Concludes disk command outcome reply called
      outlet := by
  have ended : finish command outcome disk client outlet =
      { fault := some (.store fault), report := report outcome.request, disk
        dispatch := outcome.dispatch, client := some client } := by
    unfold finish conclude
    rw [failed]
    rfl
  have unsuccessful : outcome.result ≠ .ok () := by
    rw [failed]
    exact nofun
  rw [ended]
  refine ⟨meant, rfl, fun other same => ?_, fun _ => ⟨rfl, rfl⟩, fun _ => (absurd · unsuccessful),
    fun _ _ => (absurd · unsuccessful), fun _ _ _ => (absurd · unsuccessful), ?_⟩
  · cases failed.symm.trans same
    exact ⟨rfl, rfl, rfl⟩
  · refine (exitCode_eq_zero closes _).trans ⟨nofun, fun success => ?_⟩
    exact absurd success.1 unsuccessful

/-- A run of a command that reads nothing ends when its operation has succeeded. -/
theorem concludes_of_silent (closes : client.close = .ok ())
    (meant : outcome.result = .ok () ↔ ¬ called ∧ Store.brought? command.verb reply ≠ none)
    (succeeded : outcome.result = .ok ()) (silent : command.verb ≠ .get) :
    (finish command outcome disk client outlet).Concludes disk command outcome reply called
      outlet := by
  have ended : finish command outcome disk client outlet =
      { fault := none, report := report outcome.request, disk, dispatch := outcome.dispatch
        client := some client } := by
    unfold finish conclude
    rw [succeeded]
    cases command with
    | head key | put key file | delete key => rfl
    | get key file => exact absurd rfl silent
  have writes : command.Writes disk outlet outcome.output := by
    cases command with
    | head key | put key file | delete key => trivial
    | get key file => exact absurd rfl silent
  have other {key : String} {file : Option String} (reading : command = .get key file) : False :=
    silent (congrArg Command.verb reading)
  rw [ended]
  refine ⟨meant, rfl, fun fault failed => ?_, fun _ => ⟨rfl, rfl⟩, (absurd · silent),
    fun _ reading => (other reading).elim, fun _ _ reading => (other reading).elim, ?_⟩
  · cases succeeded.symm.trans failed
  · exact (exitCode_eq_zero closes _).trans ⟨fun _ => ⟨succeeded, writes⟩, fun _ => rfl⟩

/-- A body that was received is printed. Printing may break off, and then only a part has got
through. -/
theorem concludes_of_print {key : String} (closes : client.close = .ok ())
    (meant : outcome.result = .ok () ↔ ¬ called ∧ Store.brought? .get reply ≠ none)
    (succeeded : outcome.result = .ok ())
    (received : Store.delivered? 200 reply = some outcome.output) :
    (finish (.get key none) outcome disk client outlet).Concludes disk (.get key none) outcome
      reply called outlet := by
  have ended : finish (.get key none) outcome disk client outlet =
      { fault := (outlet outcome.output).map fun breakage => .unprintable breakage.detail
        report := report outcome.request, printed := passed (outlet outcome.output) outcome.output
        disk, dispatch := outcome.dispatch, client := some client } := by
    unfold finish conclude
    rw [succeeded]
    rfl
  have exits := exitCode_eq_zero closes
    ((outlet outcome.output).map fun breakage => .unprintable breakage.detail)
  rw [Option.map_eq_none_iff] at exits
  rw [ended]
  refine ⟨meant, rfl, fun fault failed => ?_, (absurd rfl ·), fun _ _ => received,
    fun _ _ _ => ⟨rfl, passed_prefix _ _, fun success => ?_⟩, fun _ _ => nofun, ?_⟩
  · cases succeeded.symm.trans failed
  · dsimp only
    rw [exits.1 success]
    rfl
  · exact exits.trans ⟨fun unbroken => ⟨succeeded, unbroken⟩, fun success => success.2⟩

/-- A body that was received is written to its file, as far as it gets through. -/
theorem concludes_of_written {key file : String} (closes : client.close = .ok ())
    (meant : outcome.result = .ok () ↔ ¬ called ∧ Store.brought? .get reply ≠ none)
    (succeeded : outcome.result = .ok ())
    (received : Store.delivered? 200 reply = some outcome.output) {disk' : Disk}
    (written : disk.write (Path.ofText file) (passed (outlet outcome.output) outcome.output) =
      .ok disk') :
    (finish (.get key (some file)) outcome disk client outlet).Concludes disk
      (.get key (some file)) outcome reply called outlet := by
  have ended : finish (.get key (some file)) outcome disk client outlet =
      { fault := (outlet outcome.output).map fun _ => .unwritable file
        report := report outcome.request, disk := disk', dispatch := outcome.dispatch
        client := some client } := by
    unfold finish conclude Conclusion.carryOut
    rw [succeeded]
    dsimp only
    rw [written]
    rfl
  have exits := exitCode_eq_zero closes ((outlet outcome.output).map fun _ => .unwritable file)
  rw [Option.map_eq_none_iff] at exits
  have there : filesOf disk' file = .ok (passed (outlet outcome.output) outcome.output) :=
    Disk.read_of_write written
  rw [ended]
  refine ⟨meant, rfl, fun fault failed => ?_, (absurd rfl ·), fun _ _ => received, fun _ => nofun,
    ?_, ?_⟩
  · cases succeeded.symm.trans failed
  · intro _ _ same _
    cases same
    refine ⟨rfl, fun place elsewhere => Disk.node?_of_write written elsewhere,
      .inr ⟨_, passed_prefix _ _, there⟩, fun success => ?_⟩
    rw [exits.1 success] at there
    exact there
  · refine exits.trans ⟨fun unbroken => ?_, fun success => success.2.1⟩
    rw [unbroken] at written
    exact ⟨succeeded, unbroken, disk', written⟩

/-- A body that was received is not written if the file is no place to write to. That does not
depend on how much of the body gets through. -/
theorem concludes_of_unwritten {key file : String} (closes : client.close = .ok ())
    (meant : outcome.result = .ok () ↔ ¬ called ∧ Store.brought? .get reply ≠ none)
    (succeeded : outcome.result = .ok ())
    (received : Store.delivered? 200 reply = some outcome.output) {trouble : Disk.Fault}
    (unwritten : disk.write (Path.ofText file) (passed (outlet outcome.output) outcome.output) =
      .error trouble) :
    (finish (.get key (some file)) outcome disk client outlet).Concludes disk
      (.get key (some file)) outcome reply called outlet := by
  have ended : finish (.get key (some file)) outcome disk client outlet =
      { fault := some (.unwritable file), report := report outcome.request, disk
        dispatch := outcome.dispatch, client := some client } := by
    unfold finish conclude Conclusion.carryOut
    rw [succeeded]
    dsimp only
    rw [unwritten]
    rfl
  have exits := exitCode_eq_zero closes (some (.unwritable file))
  rw [ended]
  refine ⟨meant, rfl, fun fault failed => ?_, (absurd rfl ·), fun _ _ => received, fun _ => nofun,
    ?_, ?_⟩
  · cases succeeded.symm.trans failed
  · intro _ _ same _
    cases same
    exact ⟨rfl, fun _ _ => rfl, .inl rfl, fun success => nomatch exits.1 success⟩
  · refine exits.trans ⟨nofun, ?_⟩
    rintro ⟨-, -, disk', wrote⟩
    obtain ⟨disk'', could⟩ :=
      Disk.exists_write wrote (passed (outlet outcome.output) outcome.output)
    cases unwritten.symm.trans could

end Finish

/-- The end of a run makes of the outcome what it should. Commands differ in what is done with a
success, and not in what is done with a fault. -/
theorem concludes_finish {command : Command} {outcome : Outcome} {client : Client}
    {reply : List Event} {called : Prop} (closes : client.close = .ok ())
    (meant : outcome.result = .ok () ↔ ¬ called ∧ Store.brought? command.verb reply ≠ none)
    (received : command.verb = .get → outcome.result = .ok () →
      Store.delivered? 200 reply = some outcome.output) :
    (finish command outcome disk client outlet).Concludes disk command outcome reply called
      outlet := by
  cases result : outcome.result with
  | error fault => exact concludes_of_failed closes meant result
  | ok =>
    cases command with
    | head key | put key file | delete key => exact concludes_of_silent closes meant result nofun
    | get key file =>
      cases file with
      | none => exact concludes_of_print closes meant result (received rfl result)
      | some file =>
        let part := passed (outlet outcome.output) outcome.output
        cases written : disk.write (Path.ofText file) part with
        | ok disk' => exact concludes_of_written closes meant result (received rfl result) written
        | error trouble =>
          exact concludes_of_unwritten closes meant result (received rfl result) written

/-! ### Every run -/

/-- What every run keeps to: at most one request is sent, for the operation of its command, and only
when everything before is in order; what is written is what came back. -/
structure IsOneExchange (env : Config.Environment) (disk : Disk) (invocation : Invocation)
    (now : Instant) (respond : Operation → Dispatch → List Event) (outlet : Outlet)
    (result : Result) : Prop where
  /-- A request is sent iff everything before is in order. -/
  sent : (∃ dispatch, result.dispatch = some dispatch) ↔
    ∃ request operation, IsReady env (filesOf disk) invocation request operation
  /-- Then the run is one operation, that of its command, on the answer to what was sent. -/
  once : ∀ dispatch, result.dispatch = some dispatch → ∃ request operation,
    IsReady env (filesOf disk) invocation request operation ∧
    operation.verb = invocation.command.verb ∧ dispatch.verb = invocation.command.verb ∧
    dispatch.url = request.url invocation.command.key ∧ dispatch.payload = operation.payload ∧
    result.Concludes disk invocation.command
      (request.perform invocation.command.key operation now (respond operation dispatch))
      (respond operation dispatch)
      (request.CalledInTime invocation.command.key operation now (respond operation dispatch))
      outlet
  /-- Nothing else is asked of the store. -/
  asked : ∀ respond',
    (∀ operation dispatch, result.dispatch = some dispatch →
      respond' operation dispatch = respond operation dispatch) →
    run env disk invocation now respond' outlet = result
  /-- A run that sends nothing writes nothing and fails. -/
  unsent : result.dispatch = none →
    result.disk = disk ∧ result.printed = [] ∧ result.exitCode = 1
  /-- The client that there is in the end has no request left. -/
  released : closing result.client = .ok ()

/-- The end of a run keeps what was sent, and the client. -/
theorem dispatch_finish (command : Command) (outcome : Outcome) (disk : Disk) (client : Client)
    (outlet : Outlet) :
    (finish command outcome disk client outlet).dispatch = outcome.dispatch ∧
      (finish command outcome disk client outlet).client = some client :=
  ⟨rfl, rfl⟩

/-- A run asks for the answer to what it sends, and for no other. So a store that answers other
requests differently makes no difference. -/
theorem runFrom_congr {respond' : Operation → Dispatch → List Event}
    (same : ∀ operation dispatch,
      (runFrom env disk invocation now respond outlet).dispatch = some dispatch →
        respond' operation dispatch = respond operation dispatch) :
    runFrom env disk invocation now respond' outlet =
      runFrom env disk invocation now respond outlet := by
  cases done : setUp env (filesOf disk) invocation.destination with
  | error setback => rw [runFrom_of_setback done, runFrom_of_setback done]
  | ok found =>
    cases made : invocation.command.operation (filesOf disk) with
    | error fault => rw [runFrom_of_unreadable done made, runFrom_of_unreadable done made]
    | ok operation =>
      rw [runFrom_of_operation done made] at same ⊢
      rw [runFrom_of_operation done made]
      cases sent : (found.2.start invocation.command.key operation now).2 with
      | none => rfl
      | some dispatch =>
        have answer := same operation dispatch ((dispatch_finish _ _ _ _ _).1.trans sent)
        rw [answersOf, answersOf, answer]

/-- A command that reads an object receives the body that is delivered. The whole of it: a body that
breaks off is no success. -/
theorem received_of_get {command : Command} {operation : Operation}
    (made : command.operation files = .ok operation) (request : Store.Request) (now : Instant)
    (reply : List Event) (reading : command.verb = .get)
    (succeeded : (request.perform command.key operation now reply).result = .ok ()) :
    Store.delivered? 200 reply =
      some (request.perform command.key operation now reply).output := by
  cases command with
  | head key | put key file | delete key => cases reading
  | get key file =>
    cases made
    exact ((request.perform_get key [] now reply).1 succeeded).2

/-- Once a request is sent, its operation succeeds iff it is not called off and the reply is what
the command is after. -/
theorem meant_of_sent {command : Command} {operation : Operation}
    (made : command.operation files = .ok operation) {request : Store.Request} {now : Instant}
    {dispatch : Dispatch} (sent : (request.start command.key operation now).2 = some dispatch)
    (reply : List Event) :
    (request.perform command.key operation now reply).result = .ok () ↔
      ¬ request.CalledInTime command.key operation now reply ∧
        Store.brought? command.verb reply ≠ none := by
  have begins := request.begins_start command.key operation now
  generalize start : request.start command.key operation now = begun at begins sent
  cases begins with
  | busy | refused | forestalled => cases sent
  | launched body _ idle valid =>
    rw [Store.Request.perform_eq_ok_iff, (Command.verb_of_operation made).1]
    simp [idle, valid]

/-- A run makes one exchange or none. A request is sent iff the log filter and the configuration are
in order, the profiles file can be loaded, the destination is registered, a file to upload can be
read, and key and address are within their limits; then exactly one operation is run, with the verb
of the command. It succeeds iff the reply is what the command is after, and only what it has
received is written, and only if it has succeeded. The run succeeds iff its operation has succeeded
and what it received is written, and on every way to its end the client has got back the request. -/
theorem isOneExchange_run (env : Config.Environment) (disk : Disk) (invocation : Invocation)
    (now : Instant) (respond : Operation → Dispatch → List Event) (outlet : Outlet) :
    IsOneExchange env disk invocation now respond outlet
      (run env disk invocation now respond outlet) := by
  have course := course_runFrom env disk invocation now respond outlet
  have asked : ∀ respond', (∀ operation dispatch,
      (runFrom env disk invocation now respond outlet).dispatch = some dispatch →
        respond' operation dispatch = respond operation dispatch) →
      run env disk invocation now respond' outlet =
        { runFrom env disk invocation now respond outlet with notices := notices env } :=
    fun respond' same => by rw [run, runFrom_congr same]
  unfold run
  generalize runFrom env disk invocation now respond outlet = result at course asked
  cases course with
  | stopped fault said client closes unready =>
    refine ⟨⟨nofun, ?_⟩, nofun, asked, fun _ => ⟨rfl, rfl, ?_⟩, closes⟩
    · rintro ⟨request, operation, ready⟩
      exact absurd ready (unready request operation)
    · change exitCode (some fault) client = 1
      unfold exitCode
      rw [closes]
  | sent request operation dispatch client closes ready sent =>
    obtain ⟨verb, -⟩ := Command.verb_of_operation ready.operation
    obtain ⟨sameVerb, address⟩ := Store.Request.dispatch_of_start sent
    have payload : dispatch.payload = operation.payload := by
      obtain ⟨headers, -, rfl⟩ := Store.Request.prepare_ok (Store.Request.prepare_of_start sent)
      rfl
    have received := received_of_get ready.operation request now (respond operation dispatch)
    have meant := meant_of_sent ready.operation sent (respond operation dispatch)
    generalize performed : request.perform invocation.command.key operation now
      (respond operation dispatch) = outcome at received meant asked
    have dispatched : outcome.dispatch = some dispatch := by
      rw [← performed]
      exact sent
    obtain ⟨sends, client'⟩ := dispatch_finish invocation.command outcome disk client outlet
    refine ⟨⟨fun _ => ⟨request, operation, ready⟩, fun _ => ⟨dispatch, ?_⟩⟩, ?_, asked, ?_, ?_⟩
    · exact sends.trans dispatched
    · intro dispatch' same
      cases (sends.trans dispatched).symm.trans same
      refine ⟨request, operation, ready, verb, sameVerb.trans verb, address, payload, ?_⟩
      rw [performed]
      exact (concludes_finish closes meant received).notice (notices env)
    · exact fun none => nomatch (sends.trans dispatched).symm.trans none
    · change closing (finish invocation.command outcome disk client outlet).client = .ok ()
      rw [client']
      exact closes

/-! ### A run that reads an object -/

/-- The variables of the run. It brings a log filter of its own. -/
def envOfReading : Config.Environment
  | "RUST_LOG" => some "warn"
  | "PRISM_PROFILES_PATH" => some "p"
  | "PRISM_ENDPOINT" => some "http://localhost"
  | _ => none

/-- The profiles file of the run. -/
def profilesOfReading : Bytes :=
  Store.ProfilesDocument.fileOfOne (Json.text "SECRET") Store.ProfilesDocument.jsonOfHome

/-- The tree of the run, with its profiles file and an older object in the file to write. -/
def diskOfReading : Disk where
  nodes := [(["work", "p"], .file profilesOfReading), (["work", "o"], .file [0])]

/-- An object is to be read into a file. -/
def invocationOfReading : Invocation :=
  ⟨"home", .get "a" (some "o")⟩

/-- The object arrives in two reads, with an interruption between them. -/
def replyOfReading : List Event :=
  [.respond 200 [], .arrive [1, 2], .interrupt, .arrive [3], .arrive []]

/-- The destination of the run. -/
def registrationOfReading : Store.Registration :=
  ⟨"home", ⟨"AKID", "SECRET"⟩, ⟨"photos", ""⟩⟩

theorem filesOf_of_reading : filesOf diskOfReading "p" = .ok profilesOfReading := by
  have path : Path.ofText "p" = ⟨false, ["p"], false⟩ := by cbv
  rw [filesOf, path]
  unfold diskOfReading
  generalize profilesOfReading = content
  cbv

/-- The file to write can be written. -/
theorem write_of_reading :
    ∃ disk, diskOfReading.write (Path.ofText "o") [1, 2, 3] = .ok disk := by
  have path : Path.ofText "o" = ⟨false, ["o"], false⟩ := by cbv
  have target : diskOfReading.target? ⟨false, ["o"], false⟩ = .ok (some ["work", "o"]) := by
    unfold diskOfReading
    generalize profilesOfReading = content
    cbv
  have file : diskOfReading.node? ["work", "o"] = some (.file [0]) := rfl
  rw [path, Disk.write, target]
  simp [bind, Except.bind, pure, Except.pure, file]

/-- The profiles file of the run is loaded, with its destination. -/
theorem loading_of_reading :
    let loading := loading envOfReading (filesOf diskOfReading)
    loading.result = .ok 1 ∧ loading.client.find? "home" = some registrationOfReading ∧
      loading.client.endpoint = some "http://localhost" := by
  have path : (Config.ofEnvironment envOfReading).1.profilesPath = "p" := rfl
  unfold loading
  dsimp only
  rw [path, filesOf_of_reading, Client.loadProfiles_eq _ ⟨fun _ => "", fun _ => ""⟩ "p",
    profilesOfReading, Store.ProfilesDocument.ofFile_of_home]
  decide +kernel

/-- Everything is in order for the run. -/
theorem isReady_of_reading :
    IsReady envOfReading (filesOf diskOfReading) invocationOfReading
      { registration := registrationOfReading, endpoint := some "http://localhost" }
      (.get []) := by
  obtain ⟨loaded, registered, endpoint⟩ := loading_of_reading
  exact {
    configured := ⟨.inl (by decide), by decide +kernel⟩
    loaded := ⟨1, loaded⟩
    registered
    made := by rw [endpoint]
    operation := rfl
    key := by decide +kernel
    address := by decide +kernel }

/-- A run that reads an object sends one request for it and succeeds, and the file holds the object
in the end instead of what was there before. -/
theorem run_of_reading :
    let result := run envOfReading diskOfReading invocationOfReading .epoch
      (fun _ _ => replyOfReading) .unbroken
    (∃ dispatch, result.dispatch = some dispatch ∧ dispatch.verb = .get ∧
      dispatch.url = "http://localhost/photos/a") ∧
      filesOf result.disk "o" = .ok [1, 2, 3] ∧ result.printed = [] ∧
      result.exitCode = 0 ∧ closing result.client = .ok () := by
  intro result
  obtain ⟨sends, once, -, -, released⟩ : IsOneExchange envOfReading diskOfReading
      invocationOfReading .epoch (fun _ _ => replyOfReading) .unbroken result :=
    isOneExchange_run _ _ _ _ _ _
  obtain ⟨dispatch, sent⟩ := sends.2 ⟨_, _, isReady_of_reading⟩
  obtain ⟨request, operation, ready, -, verb, url, -, concludes⟩ := once dispatch sent
  have same : request =
      { registration := registrationOfReading, endpoint := some "http://localhost" } := by
    obtain ⟨-, registered, endpoint⟩ := loading_of_reading
    rw [ready.made, Option.some.inj (ready.registered.symm.trans registered), endpoint]
  have uncalled : ¬ request.CalledInTime invocationOfReading.command.key operation .epoch
      replyOfReading := by
    rintro (called | ⟨before, after, split, -⟩)
    · rw [same] at called
      cases called
    · have member : Event.cancel ∈ replyOfReading := by
        rw [split]
        simp
      revert member
      decide
  have succeeded := concludes.succeeded.2 ⟨uncalled, by decide⟩
  have whole := concludes.received rfl succeeded
  have delivered : Store.delivered? 200 replyOfReading = some [1, 2, 3] := rfl
  rw [delivered, Option.some_inj] at whole
  have writes : invocationOfReading.command.Writes diskOfReading .unbroken [1, 2, 3] :=
    ⟨rfl, write_of_reading⟩
  have exit := concludes.exit.2 ⟨succeeded, whole ▸ writes⟩
  obtain ⟨printed, -, -, written⟩ := concludes.written _ _ rfl succeeded
  refine ⟨⟨dispatch, sent, verb, ?_⟩, ?_, printed, exit, released⟩
  · rw [url, same]
    decide +kernel
  · rw [whole]
    exact written exit

end PreviewSync.CommandLine
