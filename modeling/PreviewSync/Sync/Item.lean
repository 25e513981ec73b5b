import PreviewSync.Cache.Basic
import PreviewSync.Catalog.Difference
import PreviewSync.Catalog.Entry
import PreviewSync.Preview.Codec
import PreviewSync.Store.Registry
import PreviewSync.Sync.Fault

/-!
# Items of a batch

An item is one key with what is to be done about it. It is worked on in small steps, so that others
can act between any two of them. Whatever comes from outside (catalog, extractor, codec, clock,
transport, disk) is an answer given to a step.

## Main Definitions

* `Sync.Shared` — what the steps read and change
* `Sync.Stage` — how far an item has come
* `Sync.Answer` — what comes from outside
* `Sync.Stage.step` — one step of an item
* `Sync.Stage.cancel` — the effect of a cancellation on the request of an item
-/

namespace PreviewSync.Sync

open Store (Client Dispatch Event Flight Operation Request)

/-- What the workers of a session share with it: the client, the change cache and its disk, the flag
that asks for the end of the batch, and the number of the batch whose request can be cancelled. The
cache is in memory and on a disk at once, and both are changed together; that the two may differ
after a fault is why the disk is part of the state. -/
structure Shared where
  client : Client
  cache : Cache
  disk : Disk
  cancel : Bool := false
  published : Option Nat := none

/-- The type of uploaded previews. Previews are re-encoded before they are sent, so it does not
depend on the entry. -/
def previewContentType : String :=
  "image/jpeg"

/-- The batch that an item belongs to, and the item itself. The number of the batch is needed to
make its request known for cancellation. -/
structure Item where
  batch : Nat
  destination : String
  key : String
  action : Action
deriving Repr, DecidableEq

/-- How far an item has come. Removals begin at their own stage and skip extraction and re-encoding;
from the request on, uploads and removals go through the same stages, as one helper does it for
both. -/
inductive Stage where
  /-- A removal looks at the flag. -/
  | removing
  /-- The catalog is asked for the entry. -/
  | lookingUp
  /-- The extractor is asked for a level of a preview file. -/
  | extracting (path : String) (level : UInt32)
  /-- The flag is looked at after the extraction. -/
  | extracted (file : Bytes)
  /-- The codec is asked for a step of the re-encoding. -/
  | reencoding (step : Reencoding)
  /-- The flag is looked at after the re-encoding. -/
  | reencoded (file : Bytes)
  /-- The client is asked for a request. -/
  | requesting (operation : Operation)
  /-- The request is about to be made known for cancellation. -/
  | publishing (request : Request) (operation : Operation)
  /-- The flag is looked at, which may have been raised before the request was known. -/
  | heeding (request : Request) (operation : Operation)
  /-- The operation is about to start. -/
  | starting (request : Request) (operation : Operation)
  /-- The operation is under way; something was put on the wire unless it ended at once. -/
  | exchanging (dispatch : Option Dispatch) (flight : Flight)
  /-- The request is about to be forgotten for cancellation. -/
  | clearing (request : Request) (result : Except Store.Fault Unit)
  /-- The request is about to be released. -/
  | releasing (result : Except Store.Fault Unit)
  /-- The change cache is about to be updated. -/
  | recording

/-- What comes from outside. One type serves all stages, so an answer can be one that was not asked
for; such an answer leads to no step. -/
inductive Answer where
  /-- Nothing is asked for. -/
  | proceed
  /-- The catalog's entry for a key. -/
  | entry (result : Except PreviewSync.Fault (Option CatalogEntry))
  /-- An extracted or encoded file. -/
  | file (result : Except PreviewSync.Fault Bytes)
  /-- A decoded or rescaled image. -/
  | image (result : Except PreviewSync.Fault Image)
  /-- The present time. -/
  | time (now : Instant)
  /-- Something happens to the operation. -/
  | event (event : Event)
  /-- The change cache does its work, with some trouble of the disk. -/
  | record (trouble : Disk.Trouble)
  /-- The change cache refuses. -/
  | refuse (fault : PreviewSync.Fault)
  /-- What was asked breaks down. -/
  | panic

/-- What a step of an item leads to. A failed item is noted and the next one follows, while a broken
one takes its batch with it. -/
inductive Progress where
  | reached (stage : Stage)
  | done
  | failed (fault : ItemFault)
  | broken

namespace Progress

/-- Goes on unless the flag is raised. An item looks at the flag after each part that takes time,
and ends cancelled without having done anything that would have to be undone. -/
def unlessCancelled (s : Shared) (stage : Stage) : Progress :=
  if s.cancel then failed .cancelled else reached stage

/-- Goes on with a result, or ends with its fault. The blame says which of the collaborators the
fault came from. -/
def ofResult {α : Type} (blame : PreviewSync.Fault → ItemFault) (next : α → Progress) :
    Except PreviewSync.Fault α → Progress
  | .ok value => next value
  | .error fault => failed (blame fault)

end Progress

namespace Stage

/-- The first stage of an item. An update has none. A comparison never asks for updates; if one
comes all the same, it is passed over. -/
def first? : Action → Option Stage
  | .add => some lookingUp
  | .remove => some removing
  | .update => none

/-- The request that an item holds. It holds one from the moment the client has made it until it is
released, and there is no way to an end that leaves the release out. -/
def request? : Stage → Option Request
  | publishing request _ => some request
  | heeding request _ => some request
  | starting request _ => some request
  | exchanging _ flight => some flight.request
  | clearing request _ => some request
  | _ => none

/-- The effect of a cancellation on the request of an item, if it holds one. The request keeps its
stage; what comes of the cancellation is seen when the operation looks at it. -/
def cancel : Stage → Stage
  | publishing request operation => publishing request.cancel operation
  | heeding request operation => heeding request.cancel operation
  | starting request operation => starting request.cancel operation
  | exchanging dispatch flight => exchanging dispatch (flight.step .cancel)
  | clearing request result => clearing request.cancel result
  | stage => stage

/-- The answer of the catalog decides what to extract. An entry that has gone in the meantime is a
fault of this item only. -/
def ofEntry (target : UInt32) : Option CatalogEntry → Progress
  | none => .failed .notInCatalog
  | some entry =>
    match PreviewLevel.closest? entry.levels target with
    | none => .failed (.noPreviewLevel target)
    | some level => .reached (extracting entry.previewPath level.index)

/-- One step of the re-encoding. The codec may break down in any of its parts, so each of them is a
step. -/
def reencode (target : UInt32) : Reencoding → Answer → Option Progress
  | .decoding _, .image result =>
    some <| Progress.ofResult .codec
      (fun image => .reached (reencoding (Reencoding.afterDecoding image target))) result
  | .rescaling _ _, .image result =>
    some <| Progress.ofResult .codec (fun image => .reached (reencoding (.encoding image))) result
  | .encoding _, .file result =>
    some <| Progress.ofResult .codec (fun file => .reached (reencoded file)) result
  | _, .panic => some .broken
  | _, _ => none

/-- Asks the client for a request. The name is looked up now; a destination that was removed in the
meantime is a fault of the item. -/
def request (item : Item) (s : Shared) (operation : Operation) : Shared × Progress :=
  match s.client.create item.destination with
  | .ok (client, request) => ({ s with client }, .reached (publishing request operation))
  | .error fault => (s, .failed (.store fault))

/-- The end of an operation decides about the item. Only a cancellation ends the batch; any other
fault of the store leaves the other items alone. -/
def ofResult : Except Store.Fault Unit → Progress
  | .ok () => .reached recording
  | .error .cancelled => .failed .cancelled
  | .error fault => .failed (.store fault)

/-- Updates the change cache. This is the last step, so a key is recorded only after the store has
confirmed. -/
def record (item : Item) (s : Shared) (trouble : Disk.Trouble) : Shared × Progress :=
  let change := match item.action with
    | .remove => Cache.remove
    | _ => Cache.insert
  let (cache, disk, result) := change s.cache item.key s.disk trouble
  ({ s with cache, disk }, Progress.ofResult .cache (fun _ => .done) result)

/-- One step of an item. There is none when the answer is not what was asked for. -/
def step (config : Config) (item : Item) (s : Shared) (stage : Stage) (answer : Answer) :
    Option (Shared × Progress) :=
  match stage, answer with
  | removing, .proceed => some (s, Progress.unlessCancelled s (requesting .delete))
  | lookingUp, .entry result =>
    some (s, Progress.ofResult .catalog (ofEntry config.longestEdge) result)
  | lookingUp, .panic => some (s, .broken)
  | extracting _ _, .file result =>
    some (s, Progress.ofResult .extraction (fun file => .reached (extracted file)) result)
  | extracting _ _, .panic => some (s, .broken)
  | extracted file, .proceed => some (s, Progress.unlessCancelled s (reencoding (.decoding file)))
  | reencoding step, answer => (reencode config.longestEdge step answer).map fun next => (s, next)
  | reencoded file, .proceed =>
    some (s, Progress.unlessCancelled s (requesting (.put ⟨file, previewContentType⟩)))
  | requesting operation, .proceed => some (request item s operation)
  | publishing request operation, .proceed =>
    some ({ s with published := some item.batch }, .reached (heeding request operation))
  | heeding request operation, .proceed =>
    let request := if s.cancel then request.cancel else request
    some (s, .reached (starting request operation))
  | starting request operation, .time now =>
    let (flight, dispatch) := request.start (objectKey item.key) operation now
    some (s, .reached (exchanging dispatch flight))
  | exchanging dispatch flight, answer =>
    match flight.result?, answer with
    | some result, .proceed => some (s, .reached (clearing flight.request result))
    | none, .event event =>
      if event = .cancel then none
      else some (s, .reached (exchanging dispatch (flight.step event)))
    | _, _ => none
  | clearing _ result, .proceed => some ({ s with published := none }, .reached (releasing result))
  | releasing result, .proceed => some ({ s with client := s.client.release }, ofResult result)
  | recording, .record trouble => some (record item s trouble)
  | recording, .refuse fault => some (s, .failed (.cache fault))
  | recording, .panic => some (s, .broken)
  | _, _ => none

end Stage

end PreviewSync.Sync
