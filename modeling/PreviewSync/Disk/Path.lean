/-!
# Paths

A path names a way through a tree of files: from the root or from the working directory, by one name
after the other. Doubled slashes do not count, single and double dots do: what they lead to depends
on the tree.

## Main Definitions

* `Path` — a path, and `Path.ofText` for the path that a text names
* `Path.components` — the names that make a difference when a path is taken apart
* `Path.parent?`, `Path.ancestors`, `Path.holder` — the paths on the way
* `Path.fileName?` — the name of a file without the directories on the way to it
* `Path.join` — the text of a file in a directory
-/

namespace PreviewSync

/-- A path: the names on the way, and whether a slash follows the last of them. Texts that differ in
doubled slashes only are one path, and no path that comes from a text holds an empty name. -/
structure Path where
  isAbsolute : Bool
  names : List String
  endsInSlash : Bool
deriving Repr, DecidableEq, Inhabited

namespace Path

/-- The path that a text names. -/
def ofText (text : String) : Path where
  isAbsolute := text.startsWith "/"
  names := (text.splitOn "/").filter fun name => !name.isEmpty
  endsInSlash := text.endsWith "/"

/-- The text of a path, without doubled slashes. -/
def toText (path : Path) : String :=
  let start := if path.isAbsolute then "/" else ""
  let finish := if path.endsInSlash && !path.names.isEmpty then "/" else ""
  start ++ "/".intercalate path.names ++ finish

/-- The path of no name at all. -/
def isEmpty (path : Path) : Bool :=
  !path.isAbsolute && path.names.isEmpty

/-- The working directory. -/
def here : Path :=
  ⟨false, ["."], false⟩

/-- The names that make a difference when a path is taken apart: a single dot does only at the
beginning of a path from the working directory. Double dots stay, because what they lead to depends
on the tree. -/
def components (path : Path) : List String :=
  match path.isAbsolute, path.names with
  | false, "." :: rest => "." :: rest.filter (· != ".")
  | _, names => names.filter (· != ".")

/-- The path of the first components of a path. -/
def upTo (path : Path) (n : Nat) : Path :=
  ⟨path.isAbsolute, path.components.take n, false⟩

/-- The path without its last component, unless there is none. -/
def parent? (path : Path) : Option Path :=
  match path.components.length with
  | 0 => none
  | n + 1 => some (path.upTo n)

/-- The parent of a path, the parent of that, and so on, down to the root or the empty path. -/
def ancestors (path : Path) : List Path :=
  (List.range path.components.length).reverse.map path.upTo

/-- The path of the directory that holds a file. A file that is named without a directory is in the
working directory. -/
def holder (path : Path) : Path :=
  match path.parent? with
  | some parent => if parent.isEmpty then here else parent
  | none => here

/-- Whether a name stands for a directory that has another name already. -/
def isDots (name : String) : Bool :=
  name == "." || name == ".."

/-- The name of a file without the directories on the way to it. -/
def fileName? (path : Path) : Option String :=
  path.components.getLast?.filter fun name => !isDots name

/-- The text of a file in a directory. -/
def join (directory name : String) : String :=
  if directory.isEmpty || directory.endsWith "/" then directory ++ name
  else directory ++ "/" ++ name

end Path

end PreviewSync
