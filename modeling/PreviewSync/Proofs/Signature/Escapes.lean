import PreviewSync.Proofs.Wire.Target

/-!
# The grammar of encoded paths

An encoded path is a sequence of characters that stand for themselves and of escapes. It names the
bytes of the path, so nothing is lost, whatever the path looks like: a percent sign of the path is
escaped itself. No escape holds a slash, so the parts of an encoded path are the encoded parts of
the path.

## Main Definitions

* `ObjectPath.isKept` — the characters that stand for themselves
* `ObjectPath.IsEscaped` — sequences of such characters and of escapes
* `ObjectPath.encode_of_isKept` — paths that are their own encoding
* `ObjectPath.isEscaped_encode` — the grammar of encoded paths
* `ObjectPath.parts_encode` — the parts of encoded paths
* `ObjectPath.isLossless_encode` — what is relied on, in one statement
-/

namespace PreviewSync.ObjectPath

/-- ASCII letters and digits, a few marks, and the slash. These are the characters that need no
escape; the slash keeps the parts of a path apart. -/
def isKept (c : Char) : Bool :=
  c.isAlphanum || ['-', '.', '_', '~', '/'].contains c

/-- An upper-case hexadecimal digit. -/
def isUpperHex (c : Char) : Bool :=
  c.isDigit || ('A' ≤ c && c ≤ 'F')

/-- A sequence of characters that stand for themselves and of escapes. It is the grammar of encoded
paths, and it leaves no choice in how one is parted. -/
inductive IsEscaped : List Char → Prop where
  | nil : IsEscaped []
  | kept {c : Char} {rest : List Char} (here : isKept c = true) (others : IsEscaped rest) :
      IsEscaped (c :: rest)
  | escape {high low : Char} {rest : List Char} (first : isUpperHex high = true)
      (second : isUpperHex low = true) (others : IsEscaped rest) :
      IsEscaped ('%' :: high :: low :: rest)

/-- The characters that stand for themselves are those of the bytes that do. Encoding goes by bytes,
and what is said about it by characters. -/
theorem isKept_iff {c : Char} :
    isKept c = true ↔ c.toNat < 128 ∧ isPlain (UInt8.ofNat c.toNat) = true := by
  have ascii : ∀ c : Char, c.toNat < 128 →
      (isKept c = true ↔ isPlain (UInt8.ofNat c.toNat) = true) :=
    Text.forall_ascii (by decide +kernel)
  constructor
  · intro kept
    have small : c.toNat < 128 := by
      rw [isKept, Bool.or_eq_true, List.contains_iff_mem] at kept
      rcases kept with alphanumeric | mark
      · exact Text.ascii_of_isAlphanum alphanumeric
      · exact Text.forall_mem_of_all (p := fun c => c.toNat < 128) (by decide) c mark
    exact ⟨small, (ascii c small).1 kept⟩
  · rintro ⟨small, plain⟩
    exact (ascii c small).2 plain

/-- A path of such characters is its own encoding. -/
theorem encode_of_isKept {path : String} (kept : ∀ c ∈ path.toList, isKept c = true) :
    encode path = path := by
  refine String.toList_injective ?_
  rw [toList_encode]
  exact encodeChars_of_plain fun c member => isKept_iff.1 (kept c member)

/-- A byte is written as one such character or as an escape. -/
theorem IsEscaped.encodeByte_append (b : UInt8) {rest : List Char} (others : IsEscaped rest) :
    IsEscaped (encodeByte b ++ rest) := by
  rw [encodeByte]
  split
  · rename_i plain
    have named : ∀ b : UInt8, isPlain b = true → isKept (Char.ofNat b.toNat) = true :=
      forall_byte (by decide +kernel)
    exact .kept (named b plain) others
  · have digit : ∀ d < 16, isUpperHex (Hex.upper d) = true := by decide
    have small := b.toNat_lt
    exact .escape (digit _ (by omega)) (digit _ (by omega)) others

theorem isEscaped_encodeBytes (bytes : Bytes) : IsEscaped (encodeBytes bytes) := by
  induction bytes with
  | nil => exact .nil
  | cons b bytes ih => exact ih.encodeByte_append b

/-- An encoded path consists of characters that stand for themselves and of escapes. Its grammar can
thus be checked without decoding it. -/
theorem isEscaped_encode (path : String) : IsEscaped (encode path).toList := by
  rw [encode, String.toList_ofList]
  exact isEscaped_encodeBytes _

/-- The parts of a path between its slashes. Empty parts are among them. -/
def parts (path : String) : List String :=
  (path.toList.splitOn '/').map String.ofList

/-- The parts of an encoded path are the encoded parts. -/
theorem parts_encode (path : String) : parts (encode path) = (parts path).map encode := by
  rw [parts, toList_encode, Wire.splitOn_encodeChars, parts, List.map_map, List.map_map]
  refine List.map_congr_left fun part _ => ?_
  exact (encode_ofList part).symm

/-- What signer, transport and server rely on when a path is written into an address. The signer
needs one spelling, the transport that nothing has to be encoded again, and the server that it gets
the path back. -/
structure IsLossless (encode : String → String) : Prop where
  decode_eq (path : String) : decode (Bytes.ofText (encode path)) = Bytes.ofText path
  isEscaped (path : String) : IsEscaped (encode path).toList
  eq_of_isKept (path : String) : (∀ c ∈ path.toList, isKept c = true) → encode path = path
  parts_eq (path : String) : parts (encode path) = (parts path).map encode
  injective : Function.Injective encode

/-- Encoding loses nothing, writes nothing but the grammar allows, and goes part by part. -/
theorem isLossless_encode : IsLossless encode where
  decode_eq := decode_encode
  isEscaped := isEscaped_encode
  eq_of_isKept _ := encode_of_isKept
  parts_eq := parts_encode
  injective _ _ := encode_injective

end PreviewSync.ObjectPath
