import PreviewSync.Cache.Document
import PreviewSync.Fault

/-!
# Change caches

A change cache records the keys that have been synchronized. It is kept in memory only, or in a file
that is replaced as a whole after every change.

## Main Definitions

* `Cache` — the recorded keys, and the file that keeps them
* `Cache.load` — reads the file, or makes it
* `Cache.insert`, `Cache.remove` — changes, which are undone when the file cannot be replaced
-/

namespace PreviewSync

/-- The recorded keys, and the file that keeps them, if there is one. Only keys are recorded:
neither where a photo was sent to nor what it looked like is known afterwards. -/
structure Cache where
  keys : KeySet
  file : Option String
deriving Inhabited

namespace Cache

/-- The name of a cache file in a directory. -/
def fileName : String :=
  "previewscache.json"

/-- A cache in memory. It is lost with the program, and none of its changes can fail. -/
def inMemory (keys : List String) : Cache :=
  ⟨KeySet.ofList keys, none⟩

/-- A cache in a file, which is not read yet. Until it is loaded it records nothing, whatever the
file holds. -/
def atPath (file : String) : Cache :=
  ⟨.empty, some file⟩

/-- A cache in the file of the usual name, which is not read yet. -/
def inDirectory (directory : String) : Cache :=
  atPath (Path.join directory fileName)

/-- Whether a key is recorded. Only the keys in memory are asked; the file is read by loading and at
no other time. -/
def contains (cache : Cache) (key : String) : Bool :=
  cache.keys.contains key

/-- The number of recorded keys. -/
def count (cache : Cache) : Nat :=
  cache.keys.size

/-- Replaces the file by one with the recorded keys. All of them are written every time, so what one
change has left out of the file the next one brings along. -/
def persist (cache : Cache) (disk : Disk) (trouble : Disk.Trouble) : Except Fault Disk :=
  match cache.file with
  | none => .ok disk
  | some file =>
    match disk.replace trouble (Path.ofText file) (CacheDocument.write cache.keys) with
    | .ok disk => .ok disk
    | .error fault => .error (.disk fault)

/-- Makes the file and the directories on the way to it; there are no keys then. The keys are
dropped before the file is written, and they do not come back when it cannot be. -/
def make (cache : Cache) (file : String) (disk : Disk) (trouble : Disk.Trouble) :
    Cache × Disk × Except Fault Unit :=
  match disk.createDirectories trouble (Path.ofText file).holder with
  | (disk, .error fault) => (cache, disk, .error (.disk fault))
  | (disk, .ok ()) =>
    let cache := { cache with keys := .empty }
    match cache.persist disk trouble with
    | .ok disk => (cache, disk, .ok ())
    | .error fault => (cache, disk, .error fault)

/-- Reads the file, or makes it when there is none. A file that is no cache document is left alone,
and so are the keys. It is not taken for an empty one, which would send everything once more. -/
def load (cache : Cache) (disk : Disk) (trouble : Disk.Trouble) :
    Cache × Disk × Except Fault Unit :=
  match cache.file with
  | none => (cache, disk, .ok ())
  | some file =>
    match disk.read trouble (Path.ofText file) with
    | .ok content =>
      match CacheDocument.read? content with
      | some keys => ({ cache with keys }, disk, .ok ())
      | none => (cache, disk, .error .document)
    | .error .notFound => cache.make file disk trouble
    | .error fault => (cache, disk, .error (.disk fault))

/-- Keeps a changed set of keys if the file can be replaced, and otherwise the old one. So what the
cache answers is what its file says. -/
def change (cache : Cache) (keys : KeySet) (disk : Disk) (trouble : Disk.Trouble) :
    Cache × Disk × Except Fault Bool :=
  let changed := { cache with keys }
  match changed.persist disk trouble with
  | .ok disk => (changed, disk, .ok true)
  | .error fault => (cache, disk, .error fault)

/-- Records a key; tells whether it was new. A key that was recorded already is no change, and the
file is not touched. -/
def insert (cache : Cache) (key : String) (disk : Disk) (trouble : Disk.Trouble) :
    Cache × Disk × Except Fault Bool :=
  if cache.contains key then (cache, disk, .ok false)
  else cache.change (cache.keys.insert key) disk trouble

/-- Forgets a key; tells whether it was there. If it was not, the file is not touched. -/
def remove (cache : Cache) (key : String) (disk : Disk) (trouble : Disk.Trouble) :
    Cache × Disk × Except Fault Bool :=
  if cache.contains key then cache.change (cache.keys.erase key) disk trouble
  else (cache, disk, .ok false)

end Cache

end PreviewSync
