import PreviewSync.Rehearsal.Store
import PreviewSync.Sync.Session

/-!
# Scripted surroundings

The catalog, the extractor and the codec of a rehearsed session. Each of their calls can be made to
fail, and a worker can be held at three places until it is released.

## Main Definitions

* `Rehearsal.Surroundings` — the catalog and the images behind it, the failures, and the calls made
* `Rehearsal.Mishap` — how a call fails
* `Rehearsal.Barrier` — where a worker is held
* `Rehearsal.ImageText` — images written as their dimensions
-/

namespace PreviewSync.Rehearsal

/-- An entry of the catalog. A ghost is listed, but the catalog has no entry for it. -/
structure CatalogLine where
  key : String
  levels : List PreviewLevel
  isGhost : Bool := false
deriving Repr, DecidableEq

/-- How a call fails. -/
inductive Mishap where
  | fault (fault : Fault)
  | panic
deriving Repr, DecidableEq

/-- The way that a text names: a breakdown, something that is not found, or invalid data. -/
def Mishap.ofText (text : String) : Mishap :=
  if text = "panic" then panic
  else if "notfound:".toList.isPrefixOf text.toList then
    fault (.notFound (String.ofList (text.toList.drop "notfound:".length)))
  else fault (.invalidData text)

/-- The places where a worker can be held. -/
inductive Place where
  | server
  | extractor
  | codec
deriving Repr, DecidableEq

/-- The place where a worker is held, and how often it may pass before that. -/
structure Barrier where
  place : Place
  skip : Nat
deriving Repr, DecidableEq

/-- A call that is noted. -/
inductive NotedCall where
  | extract (path : String) (level : UInt32)
  | rescale (source target : Dimensions)
deriving Repr, DecidableEq

namespace ImageText

/-- The image of a text of dimensions, parted at the first `x`. It has no pixels. -/
def decode (file : Bytes) : Except Fault Image :=
  let text := file.toText?.getD ""
  let cs := text.toList
  let height := (cs.dropWhile (· != 'x')).drop 1
  match Decimal.read? UInt32.size (String.ofList (cs.takeWhile (· != 'x'))),
      Decimal.read? UInt32.size (String.ofList height) with
  | some width, some height => .ok ⟨UInt32.ofNat width, UInt32.ofNat height, []⟩
  | _, _ => .error (.invalidData ("bad image " ++ text))

/-- The file of an image: its dimensions and the quality. -/
def encode (image : Image) (quality : UInt8) : Bytes :=
  Bytes.ofText
    (Image.sizeText image.width image.height ++ "@" ++ Nat.repr quality.toNat)

end ImageText

/-- The catalog and the images behind it, the failures by the name of the call, and the calls made.
-/
structure Surroundings where
  lines : List CatalogLine := []
  images : List (String × String) := []
  mishaps : List (String × Mishap) := []
  calls : List NotedCall := []
  openings : Nat := 0
deriving Repr, Inhabited

namespace Surroundings

/-- The image of photos that none is stated for. -/
def defaultImage : String :=
  "640x480"

/-- The name of a photo's preview file. -/
def previewPath (key : String) : String :=
  key ++ ".lrprev"

/-- How a call fails, if it does: by its own name, or by that of the call with an argument. -/
def mishap? (s : Surroundings) (call argument : String) : Option Mishap :=
  match s.mishaps.lookup call with
  | some mishap => some mishap
  | none => s.mishaps.lookup (call ++ ":" ++ argument)

/-- Makes a call fail, or work again. -/
def setMishap (s : Surroundings) (name : String) (mishap : Option Mishap) : Surroundings :=
  { s with
    mishaps := (mishap.map fun m => (name, m)).toList ++ s.mishaps.filter (·.1 != name) }

/-- Puts an entry into the catalog, in place of one with the same key. An image that is not stated
stays as it was. -/
def putLine (s : Surroundings) (line : CatalogLine) (image : Option String) : Surroundings :=
  let lines :=
    if s.lines.any (·.key == line.key) then
      s.lines.map fun other => if other.key == line.key then line else other
    else s.lines ++ [line]
  let images := match image with
    | some image => (line.key, image) :: s.images.filter (·.1 != line.key)
    | none => s.images
  { s with lines, images }

/-- Takes an entry out of the catalog. -/
def dropLine (s : Surroundings) (key : String) : Surroundings :=
  { s with lines := s.lines.filter (·.key != key) }

/-- The keys that the catalog lists. -/
def keys (s : Surroundings) : List String :=
  s.lines.map (·.key)

/-- The entry that the catalog has for a key. -/
def entry? (s : Surroundings) (key : String) : Option CatalogEntry :=
  (s.lines.find? fun line => line.key == key && !line.isGhost).map fun line =>
    ⟨line.key, previewPath line.key, line.levels⟩

/-- The image behind a key. -/
def image (s : Surroundings) (key : String) : String :=
  (s.images.lookup key).getD defaultImage

/-- Notes a call. -/
def note (s : Surroundings) (call : NotedCall) : Surroundings :=
  { s with calls := s.calls ++ [call] }

/-- The result of a call that works unless a mishap is due; a breakdown has none. -/
def attempt {α : Type} (mishap : Option Mishap) (value : α) : Option (Except Fault α) :=
  match mishap with
  | none => some (.ok value)
  | some (.fault fault) => some (.error fault)
  | some .panic => none

/-- The answer to a worker: the result of a call, wrapped up, or the breakdown. -/
def answer {α : Type} (wrap : Except Fault α → Sync.Answer) (mishap : Option Mishap)
    (value : Except Fault α) : Sync.Answer :=
  match mishap with
  | none => wrap value
  | some (.fault fault) => wrap (.error fault)
  | some .panic => .panic

/-- The key of a preview file. -/
def keyOfPath (path : String) : String :=
  String.ofList (path.toList.take (path.length - (previewPath "").length))

/-- What a stage asks for, before its call is made. -/
def ask (s : Surroundings) : Sync.Stage → Surroundings
  | .extracting path level => s.note (.extract path level)
  | .reencoding (.rescaling image size) => s.note (.rescale image.size size)
  | _ => s

/-- The place that a stage passes. -/
def place? : Sync.Stage → Option Place
  | .extracting _ _ => some .extractor
  | .reencoding (.encoding _) => some .codec
  | _ => none

/-- The answer to a stage that asks for something outside the transport. Time stands still. -/
def reply (s : Surroundings) (config : Config) (key : String) (action : Action) :
    Sync.Stage → Sync.Answer
  | .lookingUp => answer .entry (s.mishap? "entry" key) (.ok (s.entry? key))
  | .extracting path _ =>
    let key := keyOfPath path
    answer .file (s.mishap? "extract" key) (.ok (Bytes.ofText (s.image key)))
  | .reencoding (.decoding file) => answer .image none (ImageText.decode file)
  | .reencoding (.rescaling _ size) =>
    answer .image (s.mishaps.lookup "rescale") (.ok ⟨size.width, size.height, []⟩)
  | .reencoding (.encoding image) =>
    answer .file (s.mishaps.lookup "encode") (.ok (ImageText.encode image config.clampedQuality))
  | .starting _ _ => .time .epoch
  | .recording =>
    let mishap := match action with
      | .remove => s.mishaps.lookup "remove"
      | _ => s.mishap? "insert" key
    match mishap with
    | none => .record .absent
    | some (.fault fault) => .refuse fault
    | some .panic => .panic
  | _ => .proceed

end Surroundings

end PreviewSync.Rehearsal
