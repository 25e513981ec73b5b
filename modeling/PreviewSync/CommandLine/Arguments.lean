import PreviewSync.CommandLine.Manual

/-!
# Arguments

The command line names a destination, an operation and its operands:

    <destination> head <key>
    <destination> get <key> [file]
    <destination> put <key> <file>
    <destination> delete <key>

## Main Definitions

* `CommandLine.Command`, `CommandLine.Invocation` — what is asked for
* `CommandLine.Intent.parse` — what a list of arguments asks for
-/

namespace PreviewSync.CommandLine

/-- An operation with its operands. It holds no more than the arguments say; what the files hold and
where the object lies is found out by the run. -/
inductive Command where
  | head (key : String)
  | get (key : String) (file : Option String)
  | put (key file : String)
  | delete (key : String)
deriving Repr, DecidableEq

/-- An operation for a destination. -/
structure Invocation where
  destination : String
  command : Command
deriving Repr, DecidableEq

/-- What a list of arguments asks for. The first argument that settles it ends the reading, so a
page is shown also when what follows makes no sense. -/
inductive Intent where
  | run (invocation : Invocation)
  | version
  | help (topic : Topic)
  | wrongUsage
deriving Repr, DecidableEq

/-- An option is a hyphen with something behind it. -/
def isOption (argument : String) : Bool :=
  match argument.toList with
  | '-' :: _ :: _ => true
  | _ => false

/-- The letters of an option in short form. -/
def shortLetters (argument : String) : List Char :=
  match argument.toList with
  | '-' :: '-' :: _ => []
  | '-' :: letters => letters
  | _ => []

/-- What an option asks for where a topic is at hand; only the first of several letters counts,
since it is the only one that is looked at. Operations have no version of their own, and asking them
for it is wrong usage. -/
def readOption (topic : Topic) (argument : String) : Intent :=
  let ifKnown : Intent := if topic = .program then .version else .wrongUsage
  if argument = "--help" then .help topic
  else if argument = "--version" then ifKnown
  else
    match shortLetters argument with
    | 'h' :: _ => .help topic
    | 'V' :: _ => ifKnown
    | _ => .wrongUsage

/-- The operands of an operation. Options are looked for up to a double hyphen. The operands read so
far are in reverse. -/
def readOperands (topic : Topic) (read : List String) : List String → Except Intent (List String)
  | [] => .ok read.reverse
  | "--" :: rest =>
    if read.length + rest.length ≤ topic.arguments.length then .ok (read.reverse ++ rest)
    else .error .wrongUsage
  | argument :: rest =>
    if isOption argument then .error (readOption topic argument)
    else if read.length < topic.arguments.length then readOperands topic (argument :: read) rest
    else .error .wrongUsage

/-- The operation of a topic with its operands. A file must have a name. -/
def makeCommand? (topic : Topic) (operands : List String) : Option Command :=
  match topic, operands with
  | .head, [key] => some (.head key)
  | .get, [key] => some (.get key none)
  | .get, [key, file] => if file.isEmpty then none else some (.get key (some file))
  | .put, [key, file] => if file.isEmpty then none else some (.put key file)
  | .delete, [key] => some (.delete key)
  | _, _ => none

/-- An operation with the arguments behind it. -/
def readCommand (destination : Option String) (topic : Topic) (rest : List String) : Intent :=
  match readOperands topic [] rest with
  | .error intent => intent
  | .ok operands =>
    match destination, makeCommand? topic operands with
    | some destination, some command => .run ⟨destination, command⟩
    | _, _ => .wrongUsage

/-- A request for help, perhaps about one operation or about help itself. -/
def readHelp : List String → Intent
  | [] => .help .program
  | [command] => ((Topic.ofCommand? command).map Intent.help).getD .wrongUsage
  | _ => .wrongUsage

/-- The arguments from the one behind those that were read. The name of an operation is one wherever
it stands, so no destination can be named like an operation. -/
def readFrom (destination : Option String) : List String → Intent
  | [] => .wrongUsage
  | argument :: rest =>
    match Topic.ofCommand? argument with
    | some .help => readHelp rest
    | some topic => readCommand destination topic rest
    | none =>
      if argument = "--" then .wrongUsage
      else if isOption argument then readOption .program argument
      else if destination.isNone then readFrom (some argument) rest
      else .wrongUsage

/-- What a list of arguments asks for. -/
def Intent.parse (arguments : List String) : Intent :=
  readFrom none arguments

end PreviewSync.CommandLine
