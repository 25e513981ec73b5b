/-!
# Modification times of files

## Main Definitions

* `Watch.FileStatus` — what a path names, with its modification time
* `Watch.FileStatus.isValid` — whether the path can be watched
* `Watch.FileStatus.lastModified` — the modification time in nanoseconds, if it is readable
-/

namespace PreviewSync.Watch

/-- What a path names, with the modification time in seconds and nanoseconds since 1970. -/
inductive FileStatus where
  | missing
  | directory (seconds : Int) (nanoseconds : Nat)
  | file (seconds : Int) (nanoseconds : Nat)
deriving Repr, DecidableEq

namespace FileStatus

/-- Only a file can be watched. A directory has a modification time too, but it tells nothing about
the contents of a catalog. -/
def isValid : FileStatus → Bool
  | file _ _ => true
  | _ => false

/-- A modification time in nanoseconds since 1970, unless it lies before that or is too large. Such
a time counts as unreadable, and is not rounded to a bound: a bound would look like a change of the
file. -/
def toNanoseconds (seconds : Int) (nanoseconds : Nat) : Option UInt64 :=
  let total := seconds * 1000000000 + nanoseconds
  if 0 ≤ total ∧ total < UInt64.size then some (UInt64.ofNat total.toNat) else none

/-- The modification time in nanoseconds, if it is readable. -/
def lastModified : FileStatus → Option UInt64
  | missing => none
  | directory seconds nanoseconds => toNanoseconds seconds nanoseconds
  | file seconds nanoseconds => toNanoseconds seconds nanoseconds

end FileStatus

end PreviewSync.Watch
