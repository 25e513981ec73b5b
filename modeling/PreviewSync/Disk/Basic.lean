import PreviewSync.Bytes
import PreviewSync.Disk.Path

/-!
# A tree of files

Directories and files, and the steps that change them. A path is followed name by name: what a name
leads to depends on the tree, and so does the reason why a way ends early. Any step may also fail
for a reason outside the tree; such trouble is an input of the step.

## Main Definitions

* `Disk` — the directories and files, by place
* `Disk.Fault` — why a step fails
* `Disk.Step`, `Disk.Trouble` — the kinds of steps, and the faults that come from outside
* `Disk.find` — the place that a path leads to
* `Disk.target?` — the place that a path would give a name to
* `Disk.read`, `Disk.createDirectories`, `Disk.replace` — the steps of a program that keeps a file
-/

namespace PreviewSync

namespace Disk

/-- Why a step fails. These are the reasons that the tree itself gives and that somebody tells
apart; whatever else a system may say is `other`. -/
inductive Fault where
  | notFound
  | isDirectory
  | notDirectory
  | alreadyExists
  | inUse
  | nameTooLong
  | nameWithNul
  | notText
  | other
deriving Repr, DecidableEq

/-- A place in the tree, as the names from the root to it. There is one for everything in the tree,
whereas many paths may lead there. -/
abbrev Place := List String

/-- A file or a directory. -/
inductive Node where
  | file (content : Bytes)
  | directory
deriving Repr, DecidableEq

/-- The kinds of steps that may fail for a reason outside the tree. A full disk or a lack of rights
are such reasons, about which a tree knows nothing. -/
inductive Step where
  | read
  | createDirectory
  | createTemporary
  | write
  | rename
deriving Repr, DecidableEq

/-- The faults that come from outside, by kind of step. A full disk or a missing right shows at a
step of some kind, and a statement about all troubles is one about every place where a program may
be cut short. -/
abbrev Trouble := Step → Option Fault

/-- No faults from outside. -/
def Trouble.absent : Trouble :=
  fun _ => none

/-- Raises the fault that comes from outside, if there is one. -/
def Trouble.check (trouble : Trouble) (step : Step) : Except Fault Unit :=
  match trouble step with
  | some fault => .error fault
  | none => .ok ()

end Disk

/-- The directories and files. It is a plain list with the newest entry of a place in front, so that
runs on fixed trees can be computed. -/
structure Disk where
  nodes : List (Disk.Place × Disk.Node) := []
deriving Repr, Inhabited

namespace Disk

/-- The place of the working directory. -/
def home : Place :=
  ["work"]

/-- What is at a place. The working directory is always there, and so is what it is in, so every
tree has a place for paths to begin at. -/
def node? (disk : Disk) (place : Place) : Option Node :=
  if place.isPrefixOf home then some .directory
  else (disk.nodes.find? fun entry => entry.1 == place).map (·.2)

/-- Puts a file or directory in place of what was there before. It is up to those who use it that
this keeps the tree one. -/
def put (disk : Disk) (place : Place) (node : Node) : Disk :=
  ⟨(place, node) :: disk.nodes.filter fun entry => entry.1 != place⟩

/-- Takes everything below a place away. -/
def clear (disk : Disk) (place : Place) : Disk :=
  ⟨disk.nodes.filter fun entry => entry.1 == place || !place.isPrefixOf entry.1⟩

/-- Takes what is at a place away, and everything below it. -/
def drop (disk : Disk) (place : Place) : Disk :=
  ⟨disk.nodes.filter fun entry => !place.isPrefixOf entry.1⟩

/-- The number of files and directories directly below a place. -/
def countBelow (disk : Disk) (place : Place) : Nat :=
  disk.nodes.countP fun entry => !entry.1.isEmpty && entry.1.dropLast == place

/-! ### Following paths -/

/-- The most bytes in a name. -/
def maxNameBytes : Nat :=
  255

/-- The most bytes in a path. -/
def maxPathBytes : Nat :=
  4095

/-- The form of a path, which is looked at before the tree is. A system refuses such paths as a
whole, whatever they might lead to. -/
def checkForm (path : Path) : Except Fault Unit :=
  if path.names.any fun name => name.contains (Char.ofNat 0) then .error .nameWithNul
  else if path.isEmpty then .error .notFound
  else if path.toText.utf8ByteSize > maxPathBytes then .error .nameTooLong
  else .ok ()

/-- There must be a directory at a place. A file on the way ends a path, whatever its content is. -/
def checkDirectory (disk : Disk) (place : Place) : Except Fault Unit :=
  if disk.node? place = some .directory then .ok () else .error .notDirectory

/-- The place of a name in a directory, whether or not there is something. -/
def below (place : Place) (name : String) : Except Fault Place :=
  if name.utf8ByteSize > maxNameBytes then .error .nameTooLong else .ok (place ++ [name])

/-- Follows one name from a place where there is something. Dots are followed in the tree and not
taken out of the path, so a way through a missing directory fails also when it comes back. -/
def enter (disk : Disk) (place : Place) (name : String) : Except Fault Place := do
  disk.checkDirectory place
  if name = "." then return place
  else if name = ".." then return place.dropLast
  else
    let next ← below place name
    if (disk.node? next).isSome then return next else throw .notFound

/-- Follows names, one after the other, from where a path begins. Every name needs a directory to
stand in, dots included. -/
def follow (disk : Disk) (path : Path) (names : List String) : Except Fault Place :=
  names.foldlM disk.enter (if path.isAbsolute then [] else home)

/-- The place that a path leads to; there is something. A slash at the end of a path asks for a
directory. -/
def find (disk : Disk) (path : Path) : Except Fault Place := do
  checkForm path
  let place ← disk.follow path path.names
  if path.endsInSlash then disk.checkDirectory place
  return place

/-- The place in a directory that the last name of a path is given to, whether or not there is
something. The root and dots are no names to give. Only the way up to that name has to exist, since
what is to be made is not there yet. -/
def target? (disk : Disk) (path : Path) : Except Fault (Option Place) := do
  checkForm path
  match path.names.getLast? with
  | none => return none
  | some name =>
    let place ← disk.follow path path.names.dropLast
    disk.checkDirectory place
    if Path.isDots name then return none
    return some (← below place name)

/-- Whether a path leads to a directory. -/
def isDirectory (disk : Disk) (path : Path) : Bool :=
  match disk.find path with
  | .ok place => disk.node? place = some .directory
  | .error _ => false

/-- The number of files and directories directly in a directory. -/
def entryCount? (disk : Disk) (path : Path) : Option Nat :=
  match disk.find path with
  | .ok place => if disk.node? place = some .directory then some (disk.countBelow place) else none
  | .error _ => none

/-! ### Files -/

/-- The content of a file. -/
def read (disk : Disk) (trouble : Trouble) (path : Path) : Except Fault Bytes := do
  trouble.check .read
  match disk.node? (← disk.find path) with
  | some (.file content) => return content
  | some .directory => throw .isDirectory
  | none => throw .notFound

/-- Writes a file in place. It is not there in part for anybody who looks later, as a step is taken
as a whole; breaking off is told apart. -/
def write (disk : Disk) (path : Path) (content : Bytes) : Except Fault Disk := do
  match ← disk.target? path with
  | none => throw .isDirectory
  | some place =>
    if path.endsInSlash || disk.node? place = some .directory then throw .isDirectory
    return disk.put place (.file content)

/-- The path of a temporary file in the directory that holds a file. It is a path from the root, and
only the number of characters counts of the name: they decide whether the path is too long. -/
def temporary (path : Path) : Path :=
  let start := if path.holder.isAbsolute then [] else home
  ⟨true, start ++ path.holder.names ++ [".tmpXXXXXX"], false⟩

/-- Replaces a file as a whole: the content goes into a temporary file of the same directory, which
then takes the place of the old one. A fault leaves the tree as it was, and nobody who reads the
file meanwhile finds a part of it. -/
def replace (disk : Disk) (trouble : Trouble) (path : Path) (content : Bytes) :
    Except Fault Disk := do
  trouble.check .createTemporary
  checkForm (temporary path)
  disk.checkDirectory (← disk.find path.holder)
  trouble.check .write
  trouble.check .rename
  match ← disk.target? path with
  | none => throw .inUse
  | some place =>
    if path.endsInSlash then throw .notDirectory
    if disk.node? place = some .directory then throw .isDirectory
    return disk.put place (.file content)

/-- Removes a file. -/
def removeFile (disk : Disk) (path : Path) : Except Fault Disk := do
  match ← disk.target? path with
  | none => throw .isDirectory
  | some place =>
    match disk.node? place with
    | some (.file _) => if path.endsInSlash then throw .notDirectory else return disk.drop place
    | some .directory => throw .isDirectory
    | none => throw .notFound

/-! ### Directories -/

/-- Makes a directory where nothing is yet. The one that holds it must be there. -/
def makeDirectory (disk : Disk) (trouble : Trouble) (path : Path) : Except Fault Disk := do
  match ← disk.target? path with
  | none => throw .alreadyExists
  | some place =>
    if (disk.node? place).isSome then throw .alreadyExists
    trouble.check .createDirectory
    return disk.put place .directory

/-- Makes a directory unless there is one. That it is there already is found out by a fault, of
whatever kind, and not by looking first. -/
def ensureDirectory (disk : Disk) (trouble : Trouble) (path : Path) : Disk × Except Fault Unit :=
  match disk.makeDirectory trouble path with
  | .ok disk => (disk, .ok ())
  | .error fault => (disk, if disk.isDirectory path then .ok () else .error fault)

/-- Makes the first of some directories, after those that it is in as far as they are missing. The
path itself is tried first, and its ancestors only when it has no place to be made in. -/
def ensureFirst (trouble : Trouble) : Disk → List Path → Disk × Except Fault Unit
  | disk, [] => (disk, .error .other)
  | disk, path :: ancestors =>
    if path.isEmpty then (disk, .ok ())
    else
      match disk.ensureDirectory trouble path with
      | (disk, .error .notFound) =>
        match ensureFirst trouble disk ancestors with
        | (disk, .ok ()) => disk.ensureDirectory trouble path
        | failed => failed
      | ended => ended

/-- Makes a directory and those on the way to it. What was made before a fault remains. -/
def createDirectories (disk : Disk) (trouble : Trouble) (path : Path) : Disk × Except Fault Unit :=
  ensureFirst trouble disk (path :: path.ancestors)

/-- Removes a directory with everything in it. The content goes first, also when the directory
itself cannot be removed by the path; a path that led through the content is no fault, since the
directory may be gone by then. -/
def removeDirectory (disk : Disk) (path : Path) : Disk × Except Fault Unit :=
  match disk.find path with
  | .error fault => (disk, .error fault)
  | .ok place =>
    match disk.checkDirectory place with
    | .error fault => (disk, .error fault)
    | .ok () =>
      let cleared := disk.clear place
      match cleared.target? path with
      | .ok (some place) => (cleared.drop place, .ok ())
      | .ok none => (cleared, .error .inUse)
      | .error .notFound => (cleared, .ok ())
      | .error fault => (cleared, .error fault)

end Disk

end PreviewSync
