import PreviewSync.CommandLine.Arguments
import PreviewSync.CommandLine.Run
import PreviewSync.Wire.Response
import Std.Async.DNS
import Std.Async.TCP
import Std.Async.Timer
import Std.Time.DateTime.Timestamp

/-!
# The program

The outer layer of the command line: it reads variables and files, exchanges bytes with a server and
writes results. Everything that is decided is decided elsewhere.

## Main Definitions

* `CommandLine.exchange` — the passage of a request to a server and back
* `CommandLine.perform` — a run for given arguments
* `main` — the program
-/

namespace PreviewSync.CommandLine

open Std.Async Std.Net

/-- The environment of the process. -/
def readEnvironment : IO Config.Environment := do
  let values ← (logOverride :: Config.variableNames).mapM fun name =>
    return (name, ← IO.getEnv name)
  return fun name => (values.lookup name).bind id

/-- What the system says about a file. Only the kinds that a run tells apart are kept. -/
def readFault : IO.Error → Disk.Fault
  | .noFileOrDirectory .. => .notFound
  | .inappropriateType .. => .isDirectory
  | _ => .other

/-- The contents of some files. They are read before the run, so that the stages need not read any.
-/
def readFiles (paths : List String) : IO Files := do
  let contents ← paths.mapM fun (path : String) => do
    match ← (IO.FS.readBinFile path).toBaseIO with
    | .ok content => return (path, Except.ok content.toList)
    | .error error => return (path, Except.error (readFault error))
  return fun path => (contents.lookup path).getD (.error .notFound)

/-- The files that a command reads. What it writes is not among them. -/
def Command.inputs : Command → List String
  | put _ file => [file]
  | _ => []

/-- The present time. -/
def readClock : IO Instant := do
  let nanoseconds := (← Std.Time.Timestamp.now).toNanosecondsSinceUnixEpoch.toInt
  return ⟨nanoseconds.fdiv 1000000000, (nanoseconds.fmod 1000000000).toNat⟩

/-- An action that fails when it takes longer than some milliseconds. -/
def within {α : Type} [Inhabited α] (limit : UInt64) (action : Async α) : Async α :=
  Async.race action do
    Std.Async.Sleep.wait (← Std.Async.Sleep.mk (.ofNat limit.toNat))
    throw (.userError "timed out")

/-- The socket address for an address that a name stands for. -/
def socketAddress (service : UInt16) : IPAddr → SocketAddress
  | .v4 addr => .v4 ⟨addr, service⟩
  | .v6 addr => .v6 ⟨addr, service⟩

/-- Everything a server sends up to the end of the connection, or until reading fails. -/
partial def receive (socket : TCP.Socket.Client) (limit : UInt64) (received : ByteArray) :
    Async ByteArray := do
  let next ← try within limit (socket.recv? 65536) catch _ => pure none
  match next with
  | some bytes => receive socket limit (received ++ bytes)
  | none => return received

/-- Sends a message to a server and receives what comes back. -/
def converse (config : Config) (address : Wire.Address) (message : Wire.Message) :
    Async ByteArray := do
  let host := (address.host.dropPrefix "[").toString
  let host := (host.dropSuffix "]").toString
  let service := address.service.getD 80
  let found ← DNS.getAddrInfo host (Nat.repr service)
  match found[0]? with
  | none => throw (.userError "unknown host")
  | some addr =>
    let socket ← TCP.Socket.Client.mk
    within config.connectTimeout (socket.connect (socketAddress (UInt16.ofNat service) addr))
    within config.transferTimeout (socket.send (message.toBytes address).toByteArray)
    receive socket config.transferTimeout .empty

/-- The passage of a request to a server and back. Only plain connections are made. -/
def exchange (config : Config) (dispatch : Store.Dispatch) : IO (List Store.Event) := do
  match Wire.Message.ofDispatch? dispatch with
  | none => return [.fail "malformed request"]
  | some (address, message) =>
    if address.secure then return [.fail "secure connections are not supported"]
    try
      let received ← (converse config address message).block
      return Wire.answer dispatch.verb received.toList
    catch error =>
      return [.fail (toString error)]

/-- Carries a conclusion out in the world. It is told apart from the conclusion itself, which is the
same wherever it is carried out. -/
def writeOut : Conclusion → IO (Option Fault)
  | .nothing => return none
  | .fail fault => return some fault
  | .print content => do
    match ← ((← IO.getStdout).write content.toByteArray).toBaseIO with
    | .ok () => return none
    | .error error => return some (.unprintable (toString error))
  | .write file content => do
    match ← (IO.FS.writeBinFile file content.toByteArray).toBaseIO with
    | .ok () => return none
    | .error _ => return some (.unwritable file)

/-- The world as the surroundings of a run. There is nothing about the order of stages here. -/
def Surroundings.inWorld (config : Config) : Surroundings IO where
  clock := readClock
  respond _ dispatch := exchange config dispatch
  settle := writeOut
  announce lines := lines.forM IO.eprintln

/-- Ends a run. A client that complains at its end has the last word. -/
def leave (ending : Ending) : IO UInt32 := do
  match closing ending.client, ending.fault with
  | .error complaint, _ => IO.eprintln complaint
  | .ok (), some fault => IO.eprintln ("Error: " ++ fault.message)
  | .ok (), none => pure ()
  return UInt32.ofNat (exitCode ending.fault ending.client)

/-- A run for given arguments. Everything before the stages is reading: the environment and the
files. -/
def perform (invocation : Invocation) : IO UInt32 := do
  let env ← readEnvironment
  (notices env).forM IO.eprintln
  let config := (Config.ofEnvironment env).1
  let files ← readFiles (config.profilesPath :: invocation.command.inputs)
  leave (← (Surroundings.inWorld config).stages env files invocation)

end PreviewSync.CommandLine

open PreviewSync.CommandLine in
/-- The program: a run, its version, or its usage. -/
def main (arguments : List String) : IO UInt32 := do
  match Intent.parse arguments with
  | .run invocation => perform invocation
  | .version =>
    IO.print versionText
    return 0
  | .help topic =>
    IO.print topic.page
    return 0
  | .wrongUsage =>
    IO.eprint Topic.program.page
    return 2
