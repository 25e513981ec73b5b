import PreviewSync.Disk.Basic

/-!
# Faults of a session's surroundings

## Main Definitions

* `Fault` — why the catalog, the change cache, the extractor or the codec fails

## Design Notes

A breakdown is not handed out like the other faults: who asked breaks down as well. A worker that
asks is told so in another way, so that no item of a batch fails with a breakdown.
-/

namespace PreviewSync

/-- Why the catalog, the change cache, the extractor or the codec fails. They have one type because
an item of a batch fails by any of them, and a report only passes the fault on. -/
inductive Fault where
  | notFound (what : String)
  | invalidData (what : String)
  | disk (fault : Disk.Fault)
  | image
  | document
  | breakdown
deriving Repr, DecidableEq

/-- The wording of a fault. -/
def Fault.message : Fault → String
  | notFound what => "not found: " ++ what
  | invalidData what => "invalid data: " ++ what
  | disk .notFound => "no such file or directory"
  | disk .isDirectory => "is a directory"
  | disk .notDirectory => "not a directory"
  | disk .alreadyExists => "already exists"
  | disk .inUse => "in use"
  | disk .nameTooLong => "name too long"
  | disk .nameWithNul => "name with a NUL"
  | disk .notText => "not valid UTF-8"
  | disk .other => "input or output failed"
  | image => "not a usable image"
  | document => "not a usable document"
  | breakdown => "broken down"

end PreviewSync
