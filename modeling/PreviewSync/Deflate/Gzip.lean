import PreviewSync.Deflate.Block
import PreviewSync.Digest.Crc32

/-!
# Compressed content

Compressed content is a sequence of members. Each has a header, a compressed stream, and the
checksum and size of what the stream holds.

## Main Definitions

* `Deflate.Gzip.skipHeader?` — the bytes behind the header of a member
* `Deflate.Gzip.member?` — the content of the first member, and what follows it
* `Deflate.Gzip.decode?` — the content of all members, one after the other
-/

namespace PreviewSync.Deflate.Gzip

/-- The number written with these bytes, the least significant one first. -/
def littleEndian (bytes : Bytes) : Nat :=
  bytes.foldr (fun b n => n * 256 + b.toNat) 0

/-- What may stand in a header behind its fixed part. None of it matters for the content, but its
end has to be found. -/
inductive Field where
  | extra
  | name
  | comment
  | checksum
deriving Repr, DecidableEq

/-- The fields of a header in their order, with the numbers of the flags that announce them. -/
def fields : List (Nat × Field) :=
  [(2, .extra), (3, .name), (4, .comment), (1, .checksum)]

/-- The most bytes of a name or comment. -/
def maxTextBytes : Nat :=
  65535

/-- The bytes behind a text that a zero ends. -/
def skipText? (bytes : Bytes) : Option Bytes :=
  match bytes.dropWhile (· != 0) with
  | _ :: rest => if (bytes.takeWhile (· != 0)).length ≤ maxTextBytes then some rest else none
  | [] => none

/-- The bytes behind a field. The checksum is the low half of that of the header in front of it. -/
def skipField? (whole : Bytes) (field : Field) (bytes : Bytes) : Option Bytes :=
  match field with
  | .name | .comment => skipText? bytes
  | .extra =>
    match bytes with
    | a :: b :: rest =>
      let size := littleEndian [a, b]
      if size ≤ rest.length then some (rest.drop size) else none
    | _ => none
  | .checksum =>
    match bytes with
    | a :: b :: rest =>
      let header := whole.take (whole.length - bytes.length)
      if (Digest.crc32 header).toNat % 65536 = littleEndian [a, b] then some rest else none
    | _ => none

/-- The bytes behind the fields that are announced. -/
def skipFields? (whole : Bytes) (flags : UInt8) : List (Nat × Field) → Bytes → Option Bytes
  | [], bytes => some bytes
  | (flag, field) :: others, bytes =>
    if flags.toNat.testBit flag then
      (skipField? whole field bytes).bind (skipFields? whole flags others)
    else skipFields? whole flags others bytes

/-- The bytes behind the header of a member. Flags without a meaning must not be set. -/
def skipHeader? (bytes : Bytes) : Option Bytes :=
  match bytes with
  | 31 :: 139 :: 8 :: flags :: _ :: _ :: _ :: _ :: _ :: _ :: rest =>
    if flags < 32 then skipFields? bytes flags fields rest else none
  | _ => none

/-- The bytes that are left of a stream when these bits are. -/
def bytesLeft (bytes : Bytes) (bits : Bits) : Bytes :=
  bytes.drop (bytes.length - bits.length / 8)

/-- The content of the first member, and what follows it. -/
def member? (bytes : Bytes) : Option (Bytes × Bytes) :=
  (skipHeader? bytes).bind fun stream =>
    let outcome := inflate .tolerant stream
    match outcome.rest with
    | .error _ => none
    | .ok bits =>
      match bytesLeft stream bits with
      | c₁ :: c₂ :: c₃ :: c₄ :: s₁ :: s₂ :: s₃ :: s₄ :: rest =>
        let content := outcome.output.toList
        if (Digest.crc32 content).toNat = littleEndian [c₁, c₂, c₃, c₄]
            ∧ content.length % UInt32.size = littleEndian [s₁, s₂, s₃, s₄] then
          some (content, rest)
        else none
      | _ => none

theorem length_le_of_skipText? {bytes rest : Bytes} (h : skipText? bytes = some rest) :
    rest.length ≤ bytes.length := by
  unfold skipText? at h
  split at h
  · rename_i b tail heq
    have hle := (List.dropWhile_sublist (· != (0 : UInt8)) (l := bytes)).length_le
    rw [heq, List.length_cons] at hle
    split at h
    · rw [Option.some.injEq] at h
      rw [← h]
      omega
    · simp at h
  · simp at h

theorem length_le_of_skipField? {whole bytes rest : Bytes} {field : Field}
    (h : skipField? whole field bytes = some rest) : rest.length ≤ bytes.length := by
  unfold skipField? at h
  split at h
  · exact length_le_of_skipText? h
  · exact length_le_of_skipText? h
  · split at h
    · dsimp only at h
      split at h
      · rw [Option.some.injEq] at h
        rw [← h, List.length_drop, List.length_cons, List.length_cons]
        omega
      · simp at h
    · simp at h
  · split at h
    · dsimp only at h
      split at h
      · rw [Option.some.injEq] at h
        rw [← h, List.length_cons, List.length_cons]
        omega
      · simp at h
    · simp at h

theorem length_le_of_skipFields? {whole rest : Bytes} {flags : UInt8} :
    ∀ {announced : List (Nat × Field)} {bytes : Bytes},
      skipFields? whole flags announced bytes = some rest → rest.length ≤ bytes.length
  | [], bytes, h => by
    rw [skipFields?, Option.some.injEq] at h
    exact h ▸ Nat.le_refl _
  | (flag, field) :: others, bytes, h => by
    rw [skipFields?] at h
    split at h
    · obtain ⟨middle, hfield, hothers⟩ := Option.bind_eq_some_iff.1 h
      exact Nat.le_trans (length_le_of_skipFields? hothers) (length_le_of_skipField? hfield)
    · exact length_le_of_skipFields? h

theorem length_le_of_skipHeader? {bytes rest : Bytes} (h : skipHeader? bytes = some rest) :
    rest.length ≤ bytes.length := by
  unfold skipHeader? at h
  split at h
  · split at h
    · refine Nat.le_trans (length_le_of_skipFields? h) ?_
      simp only [List.length_cons]
      omega
    · simp at h
  · simp at h

/-- A member takes up at least one byte. -/
theorem length_lt_of_member? {bytes content rest : Bytes}
    (h : member? bytes = some (content, rest)) : rest.length < bytes.length := by
  obtain ⟨stream, hheader, hstream⟩ := Option.bind_eq_some_iff.1 h
  have hle := length_le_of_skipHeader? hheader
  dsimp only at hstream
  split at hstream
  · simp at hstream
  · rename_i bits _
    split at hstream
    · rename_i heq
      have hleft : (bytesLeft stream bits).length ≤ stream.length := by
        rw [bytesLeft, List.length_drop]
        omega
      rw [heq] at hleft
      simp only [List.length_cons] at hleft
      split at hstream
      · rw [Option.some.injEq, Prod.mk.injEq] at hstream
        rw [← hstream.2]
        omega
      · simp at hstream
    · simp at hstream

/-- The content of all members, one after the other. There is at least one, and nothing but members.
Files that are put together are read as one. -/
def decode? (bytes : Bytes) : Option Bytes :=
  match h : member? bytes with
  | none => none
  | some (content, rest) =>
    have := length_lt_of_member? h
    if rest.isEmpty then some content else (decode? rest).map (content ++ ·)
termination_by bytes.length

end PreviewSync.Deflate.Gzip
