import PreviewSync.Digest.Crc32

/-!
# Chunks of PNG files

A file is a signature and a sequence of chunks, each with a name, data and a checksum.

## Main Definitions

* `Png.Chunk` — a chunk, and whether its checksum is right
* `Png.Chunk.nextName?` — the name of the chunk that some bytes begin with
* `Png.Chunk.take?` — the whole chunk that some bytes begin with
-/

namespace PreviewSync.Png

/-- The bytes that every file begins with. -/
def signature : Bytes :=
  [137, 80, 78, 71, 13, 10, 26, 10]

/-- The number written with bytes, the most significant one first. -/
def number (bytes : Bytes) : Nat :=
  bytes.foldl (fun n b => n * 256 + b.toNat) 0

/-- A chunk, and whether its checksum is right. A wrong checksum makes a file unreadable only where
the chunk is needed, so it is kept as a fact about the chunk. -/
structure Chunk where
  name : String
  data : Bytes
  isSound : Bool
deriving Repr, DecidableEq

namespace Chunk

/-- The name written with bytes. -/
def nameOf (bytes : Bytes) : String :=
  String.ofList (bytes.map fun b => Char.ofNat b.toNat)

/-- A chunk without which the image cannot be read has a name that begins with a capital. Chunks
that are not known can be passed over by this alone. -/
def isCritical (chunk : Chunk) : Bool :=
  match chunk.name.toList with
  | first :: _ => first.toNat / 32 % 2 == 0
  | [] => false

/-- The name of the chunk that some bytes begin with. -/
def nextName? : Bytes → Option String
  | _ :: _ :: _ :: _ :: n₁ :: n₂ :: n₃ :: n₄ :: _ => some (nameOf [n₁, n₂, n₃, n₄])
  | _ => none

/-- The whole chunk that some bytes begin with, and what follows it. -/
def take? : Bytes → Option (Chunk × Bytes)
  | l₁ :: l₂ :: l₃ :: l₄ :: n₁ :: n₂ :: n₃ :: n₄ :: rest =>
    let length := number [l₁, l₂, l₃, l₄]
    match rest.drop length with
    | c₁ :: c₂ :: c₃ :: c₄ :: after =>
      let named := n₁ :: n₂ :: n₃ :: n₄ :: rest.take length
      let isSound := (Digest.crc32 named).toNat == number [c₁, c₂, c₃, c₄]
      some (⟨nameOf [n₁, n₂, n₃, n₄], rest.take length, isSound⟩, after)
    | _ => none
  | _ => none

/-- A chunk takes up at least one byte. -/
theorem length_lt_of_take? {bytes rest : Bytes} {chunk : Chunk}
    (h : take? bytes = some (chunk, rest)) : rest.length < bytes.length := by
  unfold take? at h
  split at h
  · rename_i l₁ l₂ l₃ l₄ _ _ _ _ tail
    dsimp only at h
    split at h
    · rename_i heq
      rw [Option.some.injEq, Prod.mk.injEq] at h
      have hdrop := congrArg List.length heq
      rw [List.length_drop, h.2] at hdrop
      simp only [List.length_cons] at hdrop ⊢
      omega
    · simp at h
  · simp at h

end Chunk

end PreviewSync.Png
