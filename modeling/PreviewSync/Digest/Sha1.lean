import PreviewSync.Bytes

/-!
# SHA-1 and its keyed form

## Main Definitions

* `Sha1.digest` — the digest of a message, always twenty bytes (`Sha1.length_digest`)
* `Sha1.keyed` — the keyed digest: two nested digests under a padded key
-/

namespace PreviewSync.Sha1

/-- The five chaining words. -/
structure State where
  a : UInt32
  b : UInt32
  c : UInt32
  d : UInt32
  e : UInt32
deriving Repr, DecidableEq

/-- The chaining words before the first block. -/
def State.initial : State :=
  ⟨0x67452301, 0xefcdab89, 0x98badcfe, 0x10325476, 0xc3d2e1f0⟩

/-- Rotation of a word to the left, for amounts from 1 to 31. -/
def rotate (word amount : UInt32) : UInt32 :=
  (word <<< amount) ||| (word >>> (32 - amount))

/-- Words of four bytes, the most significant byte first. -/
def words : Bytes → List UInt32
  | a :: b :: c :: d :: rest =>
    ((a.toUInt32 <<< 24) ||| (b.toUInt32 <<< 16) ||| (c.toUInt32 <<< 8) ||| d.toUInt32)
      :: words rest
  | _ => []

/-- The next word of the message schedule, from the words so far. -/
def extend (schedule : Array UInt32) : Array UInt32 :=
  let n := schedule.size
  schedule.push (rotate (schedule.getD (n - 3) 0 ^^^ schedule.getD (n - 8) 0
    ^^^ schedule.getD (n - 14) 0 ^^^ schedule.getD (n - 16) 0) 1)

/-- One of the eighty operations on a block. -/
def State.mix (schedule : Array UInt32) (s : State) (i : Nat) : State :=
  let (blend, constant) : UInt32 × UInt32 :=
    match i / 20 with
    | 0 => ((s.b &&& s.c) ||| (~~~s.b &&& s.d), 0x5a827999)
    | 1 => (s.b ^^^ s.c ^^^ s.d, 0x6ed9eba1)
    | 2 => ((s.b &&& s.c) ||| (s.b &&& s.d) ||| (s.c &&& s.d), 0x8f1bbcdc)
    | _ => (s.b ^^^ s.c ^^^ s.d, 0xca62c1d6)
  ⟨rotate s.a 5 + blend + s.e + constant + schedule.getD i 0, s.a, rotate s.b 30, s.c, s.d⟩

/-- The chaining words after a block of sixty-four bytes. -/
def State.compress (s : State) (block : Bytes) : State :=
  let schedule := (List.range 64).foldl (fun w _ => extend w) (words block).toArray
  let r := (List.range 80).foldl (State.mix schedule) s
  ⟨s.a + r.a, s.b + r.b, s.c + r.c, s.d + r.d, s.e + r.e⟩

/-- The chaining words after all blocks of a padded message. -/
def State.absorb (s : State) : Bytes → State
  | [] => s
  | b :: rest => State.absorb (s.compress (b :: rest.take 63)) (rest.drop 63)
termination_by bytes => bytes.length
decreasing_by simp only [List.length_drop, List.length_cons]; omega

/-- The bytes of a word, the most significant one first. -/
def wordBytes (w : UInt32) : Bytes :=
  [(w >>> 24).toUInt8, (w >>> 16).toUInt8, (w >>> 8).toUInt8, w.toUInt8]

/-- A one bit, as many zeros as fill the block up to its last eight bytes, and the length in bits
modulo `2 ^ 64`, most significant byte first. -/
def padding (length : Nat) : Bytes :=
  let bits := UInt64.ofNat (8 * length)
  (0x80 : UInt8) :: List.replicate ((119 - length % 64) % 64) (0 : UInt8)
    ++ (wordBytes (bits >>> 32).toUInt32 ++ wordBytes bits.toUInt32)

/-- The digest of a message. -/
def digest (message : Bytes) : Bytes :=
  let s := State.initial.absorb (message ++ padding message.length)
  wordBytes s.a ++ wordBytes s.b ++ wordBytes s.c ++ wordBytes s.d ++ wordBytes s.e

/-- A digest has twenty bytes. -/
theorem length_digest (message : Bytes) : (digest message).length = 20 := by
  simp [digest, wordBytes]

/-- A key of at most one block is filled up with zeros; a longer one is replaced by its digest
first. -/
def blockKey (key : Bytes) : Bytes :=
  let short := if key.length ≤ 64 then key else digest key
  short ++ List.replicate (64 - short.length) 0

/-- The keyed digest of a message. The key goes in twice, masked in two ways, so a digest cannot be
continued by somebody who does not have it. -/
def keyed (key message : Bytes) : Bytes :=
  let k := blockKey key
  digest (k.map (· ^^^ 0x5c) ++ digest (k.map (· ^^^ 0x36) ++ message))

/-- A keyed digest has twenty bytes. -/
theorem length_keyed (key message : Bytes) : (keyed key message).length = 20 := by
  simp [keyed, length_digest]

end PreviewSync.Sha1
