import PreviewSync.Bytes

/-!
# MD5

The message digest of sixteen bytes that accompanies an upload.

## Main Definitions

* `Md5.digest` — the digest of a message, always sixteen bytes (`Md5.length_digest`)
-/

namespace PreviewSync.Md5

/-- The four chaining words. Words of 32 bits add modulo `2 ^ 32`, which is what the definition of
the digest asks for. -/
structure State where
  a : UInt32
  b : UInt32
  c : UInt32
  d : UInt32
deriving Repr, DecidableEq

/-- The chaining words before the first block. -/
def State.initial : State :=
  ⟨0x67452301, 0xefcdab89, 0x98badcfe, 0x10325476⟩

/-- The integer parts of `2 ^ 32 * |sin i|` for `i` from 1 to 64. -/
def sines : Array UInt32 := #[
  0xd76aa478, 0xe8c7b756, 0x242070db, 0xc1bdceee, 0xf57c0faf, 0x4787c62a, 0xa8304613, 0xfd469501,
  0x698098d8, 0x8b44f7af, 0xffff5bb1, 0x895cd7be, 0x6b901122, 0xfd987193, 0xa679438e, 0x49b40821,
  0xf61e2562, 0xc040b340, 0x265e5a51, 0xe9b6c7aa, 0xd62f105d, 0x02441453, 0xd8a1e681, 0xe7d3fbc8,
  0x21e1cde6, 0xc33707d6, 0xf4d50d87, 0x455a14ed, 0xa9e3e905, 0xfcefa3f8, 0x676f02d9, 0x8d2a4c8a,
  0xfffa3942, 0x8771f681, 0x6d9d6122, 0xfde5380c, 0xa4beea44, 0x4bdecfa9, 0xf6bb4b60, 0xbebfbc70,
  0x289b7ec6, 0xeaa127fa, 0xd4ef3085, 0x04881d05, 0xd9d4d039, 0xe6db99e5, 0x1fa27cf8, 0xc4ac5665,
  0xf4292244, 0x432aff97, 0xab9423a7, 0xfc93a039, 0x655b59c3, 0x8f0ccc92, 0xffeff47d, 0x85845dd1,
  0x6fa87e4f, 0xfe2ce6e0, 0xa3014314, 0x4e0811a1, 0xf7537e82, 0xbd3af235, 0x2ad7d2bb, 0xeb86d391]

/-- The rotation amounts of the four rounds, each a cycle of four. -/
def rotations : Array (Array UInt32) :=
  #[#[7, 12, 17, 22], #[5, 9, 14, 20], #[4, 11, 16, 23], #[6, 10, 15, 21]]

/-- Rotation of a word to the left, for amounts from 1 to 31. -/
def rotate (word amount : UInt32) : UInt32 :=
  (word <<< amount) ||| (word >>> (32 - amount))

/-- One of the sixty-four operations on a block of sixteen words. -/
def State.mix (words : Array UInt32) (s : State) (i : Nat) : State :=
  let (blend, index) :=
    match i / 16 with
    | 0 => ((s.b &&& s.c) ||| (~~~s.b &&& s.d), i % 16)
    | 1 => ((s.d &&& s.b) ||| (~~~s.d &&& s.c), (5 * i + 1) % 16)
    | 2 => (s.b ^^^ s.c ^^^ s.d, (3 * i + 5) % 16)
    | _ => (s.c ^^^ (s.b ||| ~~~s.d), (7 * i) % 16)
  let sum := s.a + blend + sines.getD i 0 + words.getD index 0
  let amount := (rotations.getD (i / 16) #[]).getD (i % 4) 0
  ⟨s.d, s.b + rotate sum amount, s.b, s.c⟩

/-- Words of four bytes, the least significant byte first. -/
def words : Bytes → List UInt32
  | a :: b :: c :: d :: rest =>
    (a.toUInt32 ||| (b.toUInt32 <<< 8) ||| (c.toUInt32 <<< 16) ||| (d.toUInt32 <<< 24))
      :: words rest
  | _ => []

/-- The chaining words after a block of sixty-four bytes. -/
def State.compress (s : State) (block : Bytes) : State :=
  let input := (words block).toArray
  let r := (List.range 64).foldl (State.mix input) s
  ⟨s.a + r.a, s.b + r.b, s.c + r.c, s.d + r.d⟩

/-- The chaining words after all blocks of a padded message. -/
def State.absorb (s : State) : Bytes → State
  | [] => s
  | b :: rest => State.absorb (s.compress (b :: rest.take 63)) (rest.drop 63)
termination_by bytes => bytes.length
decreasing_by simp only [List.length_drop, List.length_cons]; omega

/-- The bytes of a word, the least significant one first. -/
def wordBytes (w : UInt32) : Bytes :=
  [w.toUInt8, (w >>> 8).toUInt8, (w >>> 16).toUInt8, (w >>> 24).toUInt8]

/-- A one bit, as many zeros as fill the block up to its last eight bytes, and the length in bits
modulo `2 ^ 64`, least significant byte first. -/
def padding (length : Nat) : Bytes :=
  let bits := UInt64.ofNat (8 * length)
  (0x80 : UInt8) :: List.replicate ((119 - length % 64) % 64) (0 : UInt8)
    ++ (wordBytes bits.toUInt32 ++ wordBytes (bits >>> 32).toUInt32)

/-- The digest of a message. It always has sixteen bytes, four of each chaining word. -/
def digest (message : Bytes) : Bytes :=
  let s := State.initial.absorb (message ++ padding message.length)
  wordBytes s.a ++ wordBytes s.b ++ wordBytes s.c ++ wordBytes s.d

/-- A digest has sixteen bytes. -/
theorem length_digest (message : Bytes) : (digest message).length = 16 := by
  simp [digest, wordBytes]

end PreviewSync.Md5
