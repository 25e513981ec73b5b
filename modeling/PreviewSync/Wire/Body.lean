import PreviewSync.Deflate.Gzip
import PreviewSync.Wire.Head

/-!
# Bodies of responses

How the end of a body is found, and what the body holds.

## Main Definitions

* `Wire.Framing` — how the end of a body is found
* `Wire.Chunk.take` — what stands at the beginning of a body in chunks
* `Wire.Framing.read?` — the bytes of a body
* `Wire.Head.content?` — the content of a body, decompressed if the head says so
-/

namespace PreviewSync.Wire

/-- How the end of a body is found. It is settled by the head before any of the body is read, and it
decides whether a connection that ends is a fault. -/
inductive Framing where
  | sized (length : Nat)
  | chunked
  | untilEnd
deriving Repr, DecidableEq

/-- The size that stands in front of a chunk: hexadecimal digits, perhaps with a plus sign in front
and blanks around them. -/
def readChunkSize? (size : Bytes) : Option Nat :=
  size.toText?.bind fun text =>
    let cs := (Text.trim Text.isBlank text).toList
    let digits := match cs with
      | '+' :: rest => rest
      | _ => cs
    if digits.isEmpty then none
    else
      (digits.foldl (fun n c => n.bind fun n => (Hex.value? c).map (16 * n + ·)) (some 0)).filter
        (· < UInt64.size)

/-- Takes the size of a chunk with the end of its line. What follows a semicolon does not count. -/
def takeChunkSize? (bytes : Bytes) : Option (Nat × Bytes) :=
  let size := bytes.takeWhile fun b => b != 13 && b != 59
  match bytes.dropWhile (· != 13) with
  | 13 :: 10 :: rest => (readChunkSize? size).map fun n => (n, rest)
  | _ => none

/-- A size takes up at least one byte. -/
theorem length_lt_of_takeChunkSize? {bytes rest : Bytes} {n : Nat}
    (h : takeChunkSize? bytes = some (n, rest)) : rest.length < bytes.length := by
  unfold takeChunkSize? at h
  dsimp only at h
  split at h
  · rename_i tail heq
    obtain ⟨m, _, hm⟩ := Option.map_eq_some_iff.1 h
    rw [Prod.mk.injEq] at hm
    have hle := (List.dropWhile_sublist (· != (13 : UInt8)) (l := bytes)).length_le
    rw [heq, hm.2, List.length_cons, List.length_cons] at hle
    omega
  · simp at h

/-- What stands at the beginning of a body in chunks. The four are what a reader has to tell apart:
it stops, goes on, makes do with what there is, or fails. -/
inductive Chunk where
  /-- The empty chunk that ends the body. -/
  | last
  /-- A chunk and the bytes behind it. -/
  | full (content rest : Bytes)
  /-- The part of a chunk that arrived. The end of the connection then ends the body as well. -/
  | cut (content : Bytes)
  /-- Something that is no chunk. -/
  | wrong
deriving Repr, DecidableEq

/-- What stands at the beginning of a body in chunks. Behind the content of a chunk there is the end
of a line; only the last chunk may do without. -/
def Chunk.take (bytes : Bytes) : Chunk :=
  match takeChunkSize? bytes with
  | none => .wrong
  | some (0, rest) =>
    match rest with
    | [] => .last
    | 13 :: 10 :: _ => .last
    | _ => .wrong
  | some (size, rest) =>
    if rest.length < size then .cut rest
    else
      match rest.drop size with
      | 13 :: 10 :: others => .full (rest.take size) others
      | _ => .wrong

/-- A full chunk takes up at least one byte. -/
theorem length_lt_of_chunkTake {bytes content rest : Bytes}
    (h : Chunk.take bytes = .full content rest) : rest.length < bytes.length := by
  unfold Chunk.take at h
  split at h
  · simp at h
  · split at h <;> simp at h
  · rename_i size tail _ heq
    have hlt := length_lt_of_takeChunkSize? heq
    split at h
    · simp at h
    · split at h
      · rename_i hdrop
        rw [Chunk.full.injEq] at h
        have hlen := congrArg List.length hdrop
        rw [List.length_drop, h.2, List.length_cons, List.length_cons] at hlen
        omega
      · simp at h

/-- The bytes of a body in chunks. -/
def readChunks? (bytes : Bytes) : Option Bytes :=
  match h : Chunk.take bytes with
  | .last => some []
  | .cut content => some content
  | .wrong => none
  | .full content rest =>
    have := length_lt_of_chunkTake h
    (readChunks? rest).map (content ++ ·)
termination_by bytes.length

/-- The bytes of a body, which stand behind the head, if its end is found. -/
def Framing.read? (framing : Framing) (bytes : Bytes) : Option Bytes :=
  match framing with
  | .sized length => if length ≤ bytes.length then some (bytes.take length) else none
  | .chunked => readChunks? bytes
  | .untilEnd => some bytes

namespace Head

/-- Whether a response to a verb has a body. -/
def hasBody (head : Head) (verb : Verb) : Bool :=
  verb != .head && head.status != 204 && head.status != 304

/-- How the end of the body is found in a response to a verb. Any stated way of transfer stands for
chunks, since a transport does not look at which one it is. A stated length that is no number is as
good as none. -/
def framing (head : Head) (verb : Verb) : Framing :=
  let transfer := (head.value? "Transfer-Encoding").getD ""
  if !head.hasBody verb then .sized 0
  else if !transfer.isEmpty && !head.isFirstVersion then .chunked
  else
    match (head.value? "Content-Length").bind (Decimal.read? UInt64.size) with
    | some length => .sized length
    | none => .untilEnd

/-- Whether the body is compressed. -/
def isCompressed (head : Head) : Bool :=
  match head.value? "Content-Encoding" with
  | some "gzip" => true
  | some "x-gzip" => true
  | _ => false

/-- The names of the fields that describe the compressed form of a body. -/
def compressedFormNames : List String :=
  ["content-encoding", "content-length"]

/-- The head of the body once it is decompressed: what was said about its compressed form is gone.
So the metadata of such a response has no length. -/
def decompressed (head : Head) : Head :=
  if head.isCompressed then
    { head with
      fields := head.fields.filter fun field =>
        !compressedFormNames.contains (Store.lowerName field.name) }
  else head

/-- The content of the body in the bytes behind the head, if it is complete. A body that breaks off,
or that does not decompress, is none at all, since all of it is read before any of it is used. -/
def content? (head : Head) (verb : Verb) (bytes : Bytes) : Option Bytes :=
  ((head.framing verb).read? bytes).bind fun body =>
    if head.isCompressed then Deflate.Gzip.decode? body else some body

end Head

end PreviewSync.Wire
