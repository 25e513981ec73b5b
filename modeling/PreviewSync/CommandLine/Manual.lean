/-!
# The manual

The pages that explain the program and its operations.

## Main Definitions

* `CommandLine.Topic` — what a page explains
* `CommandLine.Topic.page` — the page of a topic
* `CommandLine.versionText` — the name and number of the version
-/

namespace PreviewSync.CommandLine

/-- What a page explains: the whole program, one of its operations, or the manual itself. -/
inductive Topic where
  | program
  | head
  | get
  | put
  | delete
  | help
deriving Repr, DecidableEq

/-- An entry of a list: a name and what it stands for. -/
structure Entry where
  name : String
  meaning : String
deriving Repr, DecidableEq

/-- A list with a heading. All meanings begin in one column. -/
def listText (heading : String) (entries : List Entry) : String :=
  let width := entries.foldl (fun width entry => max width entry.name.length) 0
  let line (entry : Entry) : String :=
    "  " ++ entry.name.pushn ' ' (width - entry.name.length) ++ "  " ++ entry.meaning ++ "\n"
  if entries.isEmpty then "" else "\n" ++ heading ++ ":\n" ++ String.join (entries.map line)

namespace Topic

/-- The names that topics have as commands. -/
def commands : List (String × Topic) :=
  [("head", head), ("get", get), ("put", put), ("delete", delete), ("help", help)]

/-- The topic of a command. -/
def ofCommand? (command : String) : Option Topic :=
  commands.lookup command

/-- What a topic is about. -/
def summary : Topic → String
  | program => "Run one object-store operation against a configured destination"
  | head => "Fetch an object's metadata"
  | get => "Download an object to a file, or to stdout when no file is given"
  | put => "Upload a file"
  | delete => "Delete an object"
  | help => "Print this message or the help of the given subcommand(s)"

/-- What stands behind the destination. -/
def pattern : Topic → String
  | program => "<COMMAND>"
  | head => "head <KEY>"
  | get => "get <KEY> [FILE]"
  | put => "put <KEY> <FILE>"
  | delete => "delete <KEY>"
  | help => "help [COMMAND]..."

/-- The arguments that a page lists. -/
def arguments : Topic → List Entry
  | program => [⟨"<DESTINATION>", "Destination name from the profiles file"⟩]
  | head | delete => [key]
  | get => [key, ⟨"[FILE]", "Output file"⟩]
  | put => [key, ⟨"<FILE>", "Input file"⟩]
  | help => [⟨"[COMMAND]...", "Print help for the subcommand(s)"⟩]
where
  /-- The key of an object. -/
  key : Entry := ⟨"<KEY>", "Object key, relative to the destination prefix"⟩

/-- The options that a page lists. -/
def options : Topic → List Entry
  | program => [askHelp, ⟨"-V, --version", "Print version"⟩]
  | help => []
  | _ => [askHelp]
where
  /-- The option that asks for a page. -/
  askHelp : Entry := ⟨"-h, --help", "Print help"⟩

/-- The page of a topic. -/
def page (topic : Topic) : String :=
  let operations : List Entry :=
    if topic = program then commands.map fun command => ⟨command.1, command.2.summary⟩ else []
  topic.summary ++ "\n\nUsage: prism-cli <DESTINATION> " ++ topic.pattern ++ "\n"
    ++ listText "Commands" operations
    ++ listText "Arguments" topic.arguments
    ++ listText "Options" topic.options

end Topic

/-- The name and number of the version. -/
def versionText : String :=
  "prism-cli 0.3.0\n"

end PreviewSync.CommandLine
