import PreviewSync.CommandLine.Arguments
import PreviewSync.CommandLine.LogFilter
import PreviewSync.Config.Environment
import PreviewSync.Store.Profiles

/-!
# A run of the command line

A run checks the configuration, loads the profiles, makes one request, and reports on it. The order
of its stages is laid down once, whatever it takes place in: the program goes through them in the
world, and a run on a tree of files goes through the same ones with everything that comes from
outside given beforehand.

## Main Definitions

* `CommandLine.Fault` — why a run fails
* `CommandLine.notices` — what is said before anything else
* `CommandLine.setUp` — everything up to the request, or the setback
* `CommandLine.Command.operation` — the operation of a command
* `CommandLine.report` — what is said about a request
* `CommandLine.conclude` — what is done with the outcome
* `CommandLine.exitCode` — how a run ends
* `CommandLine.Surroundings`, `CommandLine.Surroundings.stages` — the stages of a run
* `CommandLine.Outlet` — whether writing breaks off
* `CommandLine.run` — a whole run on a tree of files
-/

namespace PreviewSync.CommandLine

open Store (Client Dispatch Event Operation)

/-- Why a run fails. There is a fault for each stage that can fail, with what the user has to look
at: a setting, a file, or what the store said. -/
inductive Fault where
  | logFilter (level : String)
  | config (rejection : Config.Rejection)
  | profiles (path : String)
  | store (fault : Store.Fault)
  | unreadable (file : String)
  | unwritable (file : String)
  | unprintable (detail : String)
deriving Repr, DecidableEq

/-- The wording of a fault. -/
def Fault.message : Fault → String
  | logFilter level => "invalid log level filter: " ++ level
  | config rejection => rejection.message
  | profiles path => "cannot load profiles from " ++ path
  | store fault => fault.message
  | unreadable file => "cannot read " ++ file
  | unwritable file => "cannot write " ++ file
  | unprintable detail => detail

/-- The variable that brings a log filter of its own, so that the level of the configuration is not
looked at. -/
def logOverride : String :=
  "RUST_LOG"

/-- What is said before anything else: a log filter from the environment is taken without its flawed
directives. -/
def notices (env : Config.Environment) : List String :=
  ((env logOverride).map LogFilter.notices).getD []

/-- What reading files ends with. A run reads the profiles and at most one more file, and asks for
each of them once, so it makes no difference when they are read. -/
abbrev Files := String → Except Disk.Fault Bytes

/-- The configuration, if it is in order. The log filter is looked at first, because whatever is
found out later may be told to the log. -/
def configure (env : Config.Environment) : Except Fault Config :=
  let config := (Config.ofEnvironment env).1
  if (env logOverride).isNone && !LogFilter.isValid config.logLevel then
    .error (.logFilter config.logLevel)
  else
    match config.validate with
    | .ok () => .ok config
    | .error rejection => .error (.config rejection)

/-- Why a run ends before there is a request, and the client that there is by then. The client is
kept because it may complain at its end, on this way as on any other. -/
structure Setback where
  fault : Fault
  client : Option Client := none
deriving Repr, DecidableEq

/-- A client with the destinations of the profiles file. It is the only client of a run. -/
def connect (config : Config) (files : Files) : Except Setback Client :=
  let loading := (Client.ofConfig config).loadProfiles (files config.profilesPath)
  match loading.result with
  | .ok _ => .ok loading.client
  | .error _ => .error ⟨.profiles config.profilesPath, some loading.client⟩

/-- Everything up to the request. None of it depends on the command, so all four operations have
their setbacks in common. -/
def setUp (env : Config.Environment) (files : Files) (destination : String) :
    Except Setback (Client × Store.Request) :=
  match configure env with
  | .error fault => .error { fault }
  | .ok config =>
    match connect config files with
    | .error setback => .error setback
    | .ok client =>
      match client.create destination with
      | .ok made => .ok made
      | .error fault => .error ⟨.store fault, some client⟩

/-- What follows the last dot in a name, unless the dot begins the name. -/
def extension? (name : String) : Option String :=
  let cs := name.toList.reverse
  match cs.dropWhile (· != '.') with
  | _ :: _ :: _ => some (String.ofList (cs.takeWhile (· != '.')).reverse)
  | _ => none

/-- The content type that goes with the name of a file. -/
def contentTypeFor (path : String) : String :=
  let lower (name : String) : String := String.ofList (name.toList.map Char.toLower)
  match ((Path.ofText path).fileName?.bind extension?).map lower with
  | some "jpg" => "image/jpeg"
  | some "jpeg" => "image/jpeg"
  | some "png" => "image/png"
  | some "json" => "application/json"
  | some "txt" => "text/plain"
  | _ => Operation.defaultContentType

namespace Command

/-- The object key of a command. -/
def key : Command → String
  | head key => key
  | get key _ => key
  | put key _ => key
  | delete key => key

/-- The operation of a command. A file to upload is read first, so a file that cannot be read keeps
everything off the wire. -/
def operation (files : Files) : Command → Except Fault Operation
  | head _ => .ok .head
  | get _ _ => .ok (.get [])
  | put _ file =>
    match files file with
    | .ok body => .ok (.put ⟨body, contentTypeFor file⟩)
    | .error _ => .error (.unreadable file)
  | delete _ => .ok .delete

end Command

/-- What is said about a request: its state, and the metadata that it got. -/
def report (request : Store.Request) : List String :=
  ("state: " ++ request.state.name) ::
    match request.response with
    | none => []
    | some metadata =>
      ["status: " ++ Nat.repr metadata.status.toNat]
        ++ (metadata.contentLength.map fun n => "content-length: " ++ Nat.repr n.toNat).toList
        ++ (metadata.contentType.map fun value => "content-type: " ++ value).toList
        ++ (metadata.etag.map fun value => "etag: " ++ value).toList

/-- What is done with the outcome of an operation. It is worked out before any of it is done, so
that what is written can be told without a place to write to. -/
inductive Conclusion where
  | nothing
  | print (content : Bytes)
  | write (file : String) (content : Bytes)
  | fail (fault : Fault)
deriving Repr, DecidableEq

/-- What is done with the outcome of an operation: only what a successful reading brought is written
anywhere. -/
def conclude (command : Command) (outcome : Store.Outcome) : Conclusion :=
  match outcome.result with
  | .error fault => .fail (.store fault)
  | .ok () =>
    match command with
    | .get _ (some file) => .write file outcome.output
    | .get _ none => .print outcome.output
    | _ => .nothing

/-- The end of a client, if there is one. It is a complaint exactly when a request was lost on the
way. -/
def closing (client : Option Client) : Except String Unit :=
  match client with
  | some client => client.close
  | none => .ok ()

/-- The exit code of a run: a client that complains at its end counts more than a fault. -/
def exitCode (fault : Option Fault) (client : Option Client) : Nat :=
  match closing client, fault with
  | .error _, _ => 101
  | .ok (), some _ => 1
  | .ok (), none => 0

/-! ### The stages of a run -/

/-- What a run takes from where it takes place. Files are not among it: those that a run needs are
known from its arguments and its configuration, so they are given to it from the start. -/
structure Surroundings (m : Type → Type) where
  /-- The present time. -/
  clock : m Instant
  /-- What happens to an operation whose request has been put on the wire. -/
  respond : Operation → Dispatch → m (List Event)
  /-- Carries a conclusion out, as far as that is possible. -/
  settle : Conclusion → m (Option Fault)
  /-- Says what became of a request. -/
  announce : List String → m Unit

/-- How a run ends. The client is the one at its end, if there ever was one. The dispatch is what
has been put on the wire, if anything: a run makes one request, so there is no more than one. -/
structure Ending where
  fault : Option Fault
  dispatch : Option Dispatch := none
  client : Option Client

namespace Surroundings

variable {m : Type → Type} [Monad m]

/-- What comes back for what an operation has put on the wire. An operation that was turned down has
put nothing there, and nobody is asked. -/
def answers (around : Surroundings m) (operation : Operation) :
    Option Dispatch → m (List Event)
  | some dispatch => around.respond operation dispatch
  | none => return []

/-- The stages of a run, from the profiles on. On every way to its end a request that was made has
been released, and what it shows is said after its outcome has been settled. -/
def stages (around : Surroundings m) (env : Config.Environment) (files : Files)
    (invocation : Invocation) : m Ending := do
  match setUp env files invocation.destination with
  | .error setback => return { fault := some setback.fault, client := setback.client }
  | .ok (client, request) =>
    let command := invocation.command
    match command.operation files with
    | .error fault =>
      around.announce (report request)
      return { fault := some fault, client := some client.release }
    | .ok operation =>
      let now ← around.clock
      let events ← around.answers operation (request.start command.key operation now).2
      let outcome := request.perform command.key operation now events
      let fault ← around.settle (conclude command outcome)
      around.announce (report outcome.request)
      return { fault, dispatch := outcome.dispatch, client := some client.release }

end Surroundings

/-! ### Runs on a tree of files -/

/-- How writing breaks off: only some bytes have been written, and the system says why. That a file
is no place to write to is told by the tree and is no breakage. -/
structure Breakage where
  written : Nat
  detail : String
deriving Repr, DecidableEq

/-- Where output is written to, beyond what can be told from the tree: whether writing some bytes
breaks off. -/
abbrev Outlet := Bytes → Option Breakage

/-- An outlet that takes everything. It is what a run usually meets. -/
def Outlet.unbroken : Outlet :=
  fun _ => none

/-- The bytes that get through when writing may have broken off. They stay written: nobody takes
them back. -/
def passed (breakage : Option Breakage) (content : Bytes) : Bytes :=
  match breakage with
  | some breakage => content.take breakage.written
  | none => content

/-- What a run leaves in its surroundings. It begins with the tree that the run finds and nothing
else. -/
structure Traces where
  report : List String := []
  printed : Bytes := []
  disk : Disk

/-- Carries a conclusion out on a tree of files. A file that is written in part is changed all the
same. -/
def Conclusion.carryOut (outlet : Outlet) (traces : Traces) : Conclusion → Option Fault × Traces
  | .nothing => (none, traces)
  | .print content =>
    let breakage := outlet content
    (breakage.map fun breakage => .unprintable breakage.detail,
      { traces with printed := passed breakage content })
  | .write file content =>
    let breakage := outlet content
    match traces.disk.write (Path.ofText file) (passed breakage content) with
    | .ok disk => (breakage.map fun _ => .unwritable file, { traces with disk })
    | .error _ => (some (.unwritable file), traces)
  | .fail fault => (some fault, traces)

/-- A tree of files as the surroundings of a run. The time, what the transport does with a request
and whether writing breaks off are given. -/
def Surroundings.onTree (now : Instant) (respond : Operation → Dispatch → List Event)
    (outlet : Outlet) : Surroundings (StateM Traces) where
  clock := return now
  respond operation dispatch := return respond operation dispatch
  settle conclusion := fun traces => conclusion.carryOut outlet traces
  announce lines := modify fun traces => { traces with report := lines }

/-- What a run leaves behind, and how it ends: the ending and the traces in one record, which
statements about runs speak of. -/
structure Result where
  notices : List String := []
  fault : Option Fault
  report : List String := []
  printed : Bytes := []
  disk : Disk
  dispatch : Option Dispatch := none
  client : Option Client

namespace Result

/-- The exit code. -/
def exitCode (result : Result) : Nat :=
  CommandLine.exitCode result.fault result.client

/-- The result of a run, by how it ends and what it leaves behind. -/
def of (ending : Ending) (traces : Traces) : Result where
  fault := ending.fault
  report := traces.report
  printed := traces.printed
  disk := traces.disk
  dispatch := ending.dispatch
  client := ending.client

end Result

/-- The files of a tree. A file is read when it is needed, without any trouble from outside. -/
def filesOf (disk : Disk) : Files :=
  fun path => disk.read .absent (Path.ofText path)

/-- A run on a tree of files, from the profiles on. It is what theorems are about, while the program
goes through the same stages in the world. -/
def runFrom (env : Config.Environment) (disk : Disk) (invocation : Invocation) (now : Instant)
    (respond : Operation → Dispatch → List Event) (outlet : Outlet) : Result :=
  let around := Surroundings.onTree now respond outlet
  let (ending, traces) := (around.stages env (filesOf disk) invocation).run { disk }
  .of ending traces

/-- A whole run on a tree of files. What the transport does with a request is given, and whether
writing breaks off. -/
def run (env : Config.Environment) (disk : Disk) (invocation : Invocation) (now : Instant)
    (respond : Operation → Dispatch → List Event) (outlet : Outlet) : Result :=
  { runFrom env disk invocation now respond outlet with notices := notices env }

end PreviewSync.CommandLine
