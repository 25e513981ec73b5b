import PreviewSync.Deflate.Code

/-!
# Blocks

A compressed stream is a sequence of blocks that are stored, or coded with the fixed or with
transmitted prefix codes.

## Main Definitions

* `Deflate.Rule` — which transmitted codes are accepted
* `Deflate.Outcome` — the output of a stream, and what follows it
* `Deflate.inflate` — reads blocks up to the last one

## Design Notes

What a stream has put out before it stops is kept, so that a reader who needs no more can go on.
Every symbol takes at least one bit, so the number of bits bounds the number of steps.
-/

namespace PreviewSync.Deflate

/-- Which transmitted codes are accepted, beyond having no more code words than there is room for.
-/
inductive Rule where
  /-- Codes fill all the room there is and the end of a block has a code word. Only the code for
  distances may be empty, or have a single code word of one bit. -/
  | strict
  /-- The codes for literals and distances may also have no more than one code word. -/
  | tolerant
deriving Repr, DecidableEq

namespace Rule

/-- Whether a code for literals and lengths is accepted. The symbol 256 ends a block, so without a
code word for it no block would end. -/
def acceptsLiterals (rule : Rule) (lengths : List Nat) : Bool :=
  match rule with
  | .strict => Code.isComplete lengths && lengths.getD 256 0 != 0
  | .tolerant => Code.isComplete lengths || Code.used lengths ≤ 1

/-- Whether a code for distances is accepted. A block of literals alone needs none, and one with a
single distance cannot fill the room. -/
def acceptsDistances (rule : Rule) (lengths : List Nat) : Bool :=
  match rule with
  | .strict =>
    Code.isComplete lengths || Code.used lengths == 0
      || (Code.used lengths == 1 && lengths.contains 1)
  | .tolerant => Code.isComplete lengths || Code.used lengths ≤ 1

end Rule

/-- The shortest lengths of the length symbols, with the number of further bits. -/
def lengthBases : Array (Nat × Nat) := #[
  (3, 0), (4, 0), (5, 0), (6, 0), (7, 0), (8, 0), (9, 0), (10, 0), (11, 1), (13, 1), (15, 1),
  (17, 1), (19, 2), (23, 2), (27, 2), (31, 2), (35, 3), (43, 3), (51, 3), (59, 3), (67, 4),
  (83, 4), (99, 4), (115, 4), (131, 5), (163, 5), (195, 5), (227, 5), (258, 0)]

/-- The shortest distances of the distance symbols, with the number of further bits. -/
def distanceBases : Array (Nat × Nat) := #[
  (1, 0), (2, 0), (3, 0), (4, 0), (5, 1), (7, 1), (9, 2), (13, 2), (17, 3), (25, 3), (33, 4),
  (49, 4), (65, 5), (97, 5), (129, 6), (193, 6), (257, 7), (385, 7), (513, 8), (769, 8),
  (1025, 9), (1537, 9), (2049, 10), (3073, 10), (4097, 11), (6145, 11), (8193, 12), (12289, 12),
  (16385, 13), (24577, 13)]

/-- Takes the further bits of a length or distance. -/
def takeBased (bases : Array (Nat × Nat)) (symbol : Nat) (bits : Bits) :
    Except Stop (Nat × Bits) :=
  match bases[symbol]? with
  | none => .error .wrong
  | some (base, width) => do
    let (extra, bits) ← takeNumber width bits
    .ok (base + extra, bits)

/-- Repeats what was written a distance ago, byte by byte. The distance may be shorter than the
length, and then bytes are repeated that were written by the same call. -/
def copyBack (distance : Nat) : Nat → Array UInt8 → Array UInt8
  | 0, out => out
  | n + 1, out => copyBack distance n (out.push (out.getD (out.size - distance) 0))

/-- The output of a stream, and what follows it unless the stream stops before that. Output and stop
are apart, since one reader of streams makes do with what there is and another does not. -/
structure Outcome where
  output : Array UInt8
  rest : Except Stop Bits

/-- Takes a length and a distance. -/
def takeMatch (distances : Code) (symbol : Nat) (bits : Bits) :
    Except Stop (Nat × Nat × Bits) := do
  let (length, bits) ← takeBased lengthBases (symbol - 257) bits
  let (symbol, bits) ← distances.take bits
  let (distance, bits) ← takeBased distanceBases symbol bits
  .ok (length, distance, bits)

/-- Takes symbols up to the end of a block. The steps are counted by the bits that are left, of
which each symbol takes one at least, so they never run out. -/
def takeSymbols (literals distances : Code) : Nat → Array UInt8 → Bits → Outcome
  | 0, out, _ => ⟨out, .error .cut⟩
  | steps + 1, out, bits =>
    match literals.take bits with
    | .error stop => ⟨out, .error stop⟩
    | .ok (symbol, bits) =>
      if symbol < 256 then
        takeSymbols literals distances steps (out.push (UInt8.ofNat symbol)) bits
      else if symbol = 256 then ⟨out, .ok bits⟩
      else
        match takeMatch distances symbol bits with
        | .error stop => ⟨out, .error stop⟩
        | .ok (length, distance, bits) =>
          if out.size < distance then ⟨out, .error .wrong⟩
          else takeSymbols literals distances steps (copyBack distance length out) bits

/-- Takes the bytes of a stored block. -/
def takeStored : Nat → Array UInt8 → Bits → Outcome
  | 0, out, bits => ⟨out, .ok bits⟩
  | n + 1, out, bits =>
    match takeNumber 8 bits with
    | .ok (b, bits) => takeStored n (out.push (UInt8.ofNat b)) bits
    | .error stop => ⟨out, .error stop⟩

/-- The fixed code for literals and lengths. -/
def fixedLiterals : Code :=
  .ofLengths <|
    List.replicate 144 8 ++ List.replicate 112 9 ++ List.replicate 24 7 ++ List.replicate 8 8

/-- The fixed code for distances. -/
def fixedDistances : Code :=
  .ofLengths (List.replicate 30 5)

/-- The order in which the lengths of the code for lengths are transmitted. -/
def lengthOrder : List Nat :=
  [16, 17, 18, 0, 8, 7, 9, 6, 10, 5, 11, 4, 12, 3, 13, 2, 14, 1, 15]

/-- Takes transmitted lengths, of which three symbols are repetitions. The lengths taken so far are
kept in reverse. -/
def takeLengths (code : Code) : Nat → Nat → List Nat → Bits → Except Stop (List Nat × Bits)
  | 0, _, _, _ => .error .cut
  | steps + 1, wanted, read, bits =>
    if read.length = wanted then .ok (read.reverse, bits)
    else if wanted < read.length then .error .wrong
    else
      match code.take bits with
      | .error stop => .error stop
      | .ok (symbol, bits) =>
        if symbol < 16 then takeLengths code steps wanted (symbol :: read) bits
        else
          let (value, base, width) : Option Nat × Nat × Nat :=
            if symbol = 16 then (read.head?, 3, 2)
            else if symbol = 17 then (some 0, 3, 3)
            else (some 0, 11, 7)
          match value, takeNumber width bits with
          | some value, .ok (extra, bits) =>
            takeLengths code steps wanted (List.replicate (base + extra) value ++ read) bits
          | none, .ok _ => .error .wrong
          | _, .error stop => .error stop

/-- The most symbols that transmitted codes have for literals and lengths. -/
def maxLiterals : Nat :=
  286

/-- The most symbols that transmitted codes have for distances. -/
def maxDistances : Nat :=
  30

/-- Takes the transmitted codes of a block. -/
def takeCodes (rule : Rule) (bits : Bits) : Except Stop (Code × Code × Bits) := do
  let (literals, bits) ← takeNumber 5 bits
  let (distances, bits) ← takeNumber 5 bits
  let (sizes, bits) ← takeNumber 4 bits
  let literals := literals + 257
  let distances := distances + 1
  if maxLiterals < literals ∨ maxDistances < distances then .error .wrong
  else
    let (given, bits) ← takeNumbers 3 (sizes + 4) bits
    let order := lengthOrder.zip given
    let sizes := (List.range 19).map fun symbol => (order.lookup symbol).getD 0
    if !Code.isComplete sizes then .error .wrong
    else
      let wanted := literals + distances
      let (lengths, bits) ← takeLengths (.ofLengths sizes) (wanted + 1) wanted [] bits
      let (forLiterals, forDistances) := lengths.splitAt literals
      if rule.acceptsLiterals forLiterals && rule.acceptsDistances forDistances then
        .ok (.ofLengths forLiterals, .ofLengths forDistances, bits)
      else .error .wrong

/-- Takes the length of a stored block from the next whole byte on. The total number of bits tells
where bytes begin. The length is followed by its complement, which has to match. -/
def takeStoredSize (total : Nat) (bits : Bits) : Except Stop (Nat × Bits) := do
  let (size, bits) ← takeNumber 16 (bits.drop ((8 - (total - bits.length) % 8) % 8))
  let (check, bits) ← takeNumber 16 bits
  if size + check = 65535 then .ok (size, bits) else .error .wrong

/-- Takes the content of a block of the given kind. -/
def takeContent (rule : Rule) (total kind : Nat) (out : Array UInt8) (bits : Bits) : Outcome :=
  match kind with
  | 0 =>
    match takeStoredSize total bits with
    | .ok (size, bits) => takeStored size out bits
    | .error stop => ⟨out, .error stop⟩
  | 1 => takeSymbols fixedLiterals fixedDistances (bits.length + 1) out bits
  | 2 =>
    match takeCodes rule bits with
    | .ok (literals, distances, bits) =>
      takeSymbols literals distances (bits.length + 1) out bits
    | .error stop => ⟨out, .error stop⟩
  | _ => ⟨out, .error .wrong⟩

/-- Takes what stands in front of a block: whether it is the last one, and its kind. -/
def takeStart (bits : Bits) : Except Stop (Bool × Nat × Bits) := do
  let (last, bits) ← takeNumber 1 bits
  let (kind, bits) ← takeNumber 2 bits
  .ok (last == 1, kind, bits)

/-- Takes blocks up to the last one. A distance may lead back into an earlier block, so the output
so far goes along. -/
def takeBlocks (rule : Rule) (total : Nat) : Nat → Array UInt8 → Bits → Outcome
  | 0, out, _ => ⟨out, .error .cut⟩
  | steps + 1, out, bits =>
    match takeStart bits with
    | .error stop => ⟨out, .error stop⟩
    | .ok (last, kind, bits) =>
      let outcome := takeContent rule total kind out bits
      match last, outcome.rest with
      | false, .ok bits => takeBlocks rule total steps outcome.output bits
      | _, _ => outcome

/-- Reads blocks up to the last one. -/
def inflate (rule : Rule) (bytes : Bytes) : Outcome :=
  let bits := bitsOf bytes
  takeBlocks rule bits.length (bits.length + 1) #[] bits

end PreviewSync.Deflate
