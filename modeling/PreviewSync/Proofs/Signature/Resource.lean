import PreviewSync.Proofs.Bytes
import PreviewSync.Proofs.Text.Ascii
import PreviewSync.Signature.Resource

/-!
# Encoded object paths

Percent-encoding loses nothing: an encoded path is decoded to the bytes that it was made from. It
consists of unreserved characters, slashes and escapes only, so nothing in an address can change it,
and since slashes stand for themselves it is parted at the same places as the path.

## Main Definitions

* `ObjectPath.decode_encode`, `ObjectPath.encode_injective` — nothing is lost
* `ObjectPath.isPathChar` — the characters of an encoded path
* `ObjectPath.isPathChar_of_mem_encode` — there are no others
* `ObjectPath.encodeChars` — the encoding character by character
* `ObjectPath.slash_mem_encodeChars` — slashes stand for themselves
-/

namespace PreviewSync.ObjectPath

/-- The characters of an encoded path: what stands for itself, and the percent sign. -/
def isPathChar (c : Char) : Bool :=
  c == '%' || (c.toNat < 128 && isPlain (UInt8.ofNat c.toNat))

theorem ascii_of_isPathChar {c : Char} (h : isPathChar c = true) : c.toNat < 128 := by
  rw [isPathChar, Bool.or_eq_true, Bool.and_eq_true] at h
  rcases h with percent | ⟨ascii, -⟩
  · rw [beq_iff_eq] at percent
    rw [percent]
    decide
  · exact of_decide_eq_true ascii

/-- None of them is a blank or a control character. -/
theorem lt_of_isPathChar {c : Char} (h : isPathChar c = true) : 32 < c.toNat := by
  have all : ∀ c : Char, c.toNat < 128 → isPathChar c = true → 32 < c.toNat :=
    Text.forall_ascii (by decide +kernel)
  exact all c (ascii_of_isPathChar h) h

/-- What is said of all bytes can be checked number by number. There are few enough of them. -/
theorem forall_byte {p : UInt8 → Prop} (h : ∀ n < 256, p (UInt8.ofNat n)) : ∀ b, p b := by
  intro b
  have here := h b.toNat b.toNat_lt
  rwa [UInt8.ofNat_toNat] at here

/-- The encoding of a byte has no other characters. -/
theorem isPathChar_of_mem_encodeByte (b : UInt8) : ∀ c ∈ encodeByte b, isPathChar c = true := by
  have all : ∀ b : UInt8, (encodeByte b).all isPathChar = true := forall_byte (by decide +kernel)
  exact List.all_eq_true.1 (all b)

theorem isPathChar_of_mem_encodeBytes {bytes : Bytes} {c : Char} (h : c ∈ encodeBytes bytes) :
    isPathChar c = true := by
  obtain ⟨b, -, member⟩ := List.mem_flatMap.1 h
  exact isPathChar_of_mem_encodeByte b c member

/-- An encoded path has no other characters. -/
theorem isPathChar_of_mem_encode {path : String} {c : Char} (h : c ∈ (encode path).toList) :
    isPathChar c = true := by
  rw [encode, String.toList_ofList] at h
  exact isPathChar_of_mem_encodeBytes h

/-- The bytes of an encoded byte. Decoding goes by bytes. -/
def written (b : UInt8) : Bytes :=
  (encodeByte b).map fun c => UInt8.ofNat c.toNat

theorem ofText_encodeBytes (bytes : Bytes) :
    Bytes.ofText (String.ofList (encodeBytes bytes)) = bytes.flatMap written := by
  rw [Bytes.ofText_ofList_of_ascii fun c h => ascii_of_isPathChar (isPathChar_of_mem_encodeBytes h),
    encodeBytes, List.map_flatMap]
  rfl

/-- A byte that stands for itself is no percent sign, and an escape names the byte. So decoding can
tell the two apart. -/
theorem written_cases (b : UInt8) :
    written b = [b] ∧ b ≠ 37 ∨
      ∃ x y, written b = [37, x, y] ∧
        ∃ high low, Hex.value? (Char.ofNat x.toNat) = some high ∧
          Hex.value? (Char.ofNat y.toNat) = some low ∧ UInt8.ofNat (16 * high + low) = b := by
  by_cases plain : isPlain b = true
  · refine .inl ⟨?_, ?_⟩
    · have all : ∀ b : UInt8, isPlain b = true → UInt8.ofNat (Char.ofNat b.toNat).toNat = b :=
        forall_byte (by decide +kernel)
      rw [written, encodeByte, if_pos plain, List.map_singleton, all b plain]
    · rintro rfl
      exact absurd plain (by decide)
  · have digit : ∀ d < 16, Hex.value? (Char.ofNat (UInt8.ofNat (Hex.upper d).toNat).toNat) =
        some d := by decide
    have small := b.toNat_lt
    refine .inr ⟨_, _, by rw [written, encodeByte, if_neg plain]; rfl, b.toNat / 16, b.toNat % 16,
      digit _ (by omega), digit _ (by omega), ?_⟩
    rw [Nat.div_add_mod, UInt8.ofNat_toNat]

/-- An encoded byte is decoded. -/
theorem decodeFrom_written (read rest : Bytes) (b : UInt8) :
    decodeFrom read (written b ++ rest) = decodeFrom (b :: read) rest := by
  rcases written_cases b with ⟨same, solid⟩ | ⟨x, y, escape, high, low, hx, hy, named⟩
  · rw [same]
    show decodeFrom read (b :: rest) = _
    rw [decodeFrom.eq_def]
    split
    · rename_i h
      cases h
    · rename_i h
      cases h
      exact absurd rfl solid
    · rename_i h
      cases h
      rfl
  · rw [escape]
    show decodeFrom read (37 :: x :: y :: rest) = _
    rw [decodeFrom, hx, hy]
    dsimp only
    rw [named]

/-- Encoded bytes are decoded, one after the other. -/
theorem decodeFrom_flatMap_written (read bytes : Bytes) :
    decodeFrom read (bytes.flatMap written) = read.reverse ++ bytes := by
  induction bytes generalizing read with
  | nil =>
    rw [List.flatMap_nil, decodeFrom, List.append_nil]
  | cons b bytes ih =>
    rw [List.flatMap_cons, decodeFrom_written, ih, List.reverse_cons, List.append_assoc]
    rfl

/-- An encoded path is decoded to its bytes. These are the bytes of a text, so the path can be read
off them. -/
theorem decode_encode (path : String) :
    decode (Bytes.ofText (encode path)) = Bytes.ofText path := by
  rw [decode, encode, ofText_encodeBytes, decodeFrom_flatMap_written]
  rfl

/-- Different paths have different encodings. So objects with different paths have different
resources. -/
theorem encode_injective {s t : String} (h : encode s = encode t) : s = t := by
  have same : decode (Bytes.ofText (encode s)) = decode (Bytes.ofText (encode t)) := by rw [h]
  rw [decode_encode, decode_encode] at same
  exact Bytes.ofText_injective same

/-- The encoding of characters. -/
def encodeChars (cs : List Char) : List Char :=
  encodeBytes (cs.flatMap String.utf8EncodeChar)

theorem toList_encode (path : String) : (encode path).toList = encodeChars path.toList := by
  rw [encode, String.toList_ofList]
  rfl

theorem encode_ofList (cs : List Char) :
    encode (String.ofList cs) = String.ofList (encodeChars cs) := by
  rw [encode, Bytes.ofText, String.toList_ofList]
  rfl

/-- An encoding is that of its parts. It goes byte by byte, and bytes of different characters do not
mix. -/
theorem encodeChars_append (cs ds : List Char) :
    encodeChars (cs ++ ds) = encodeChars cs ++ encodeChars ds := by
  rw [encodeChars, encodeBytes, List.flatMap_append, List.flatMap_append]
  rfl

/-- The slash stands for itself. -/
theorem encodeChars_slash (cs : List Char) : encodeChars ('/' :: cs) = '/' :: encodeChars cs := by
  rw [← List.singleton_append, encodeChars_append]
  rfl

theorem encodeChars_injective {cs ds : List Char} (h : encodeChars cs = encodeChars ds) :
    cs = ds := by
  have same : encode (String.ofList cs) = encode (String.ofList ds) := by
    rw [encode_ofList, encode_ofList, h]
  exact String.ofList_injective (encode_injective same)

/-- A text whose characters stand for themselves is its own encoding. -/
theorem encodeChars_of_plain {cs : List Char}
    (plain : ∀ c ∈ cs, c.toNat < 128 ∧ isPlain (UInt8.ofNat c.toNat) = true) :
    encodeChars cs = cs := by
  induction cs with
  | nil => rfl
  | cons c cs ih =>
    rw [List.forall_mem_cons] at plain
    obtain ⟨⟨ascii, here⟩, rest⟩ := plain
    have one : encodeChars [c] = [c] := by
      rw [encodeChars, List.flatMap_singleton, Bytes.utf8EncodeChar_of_ascii ascii, encodeBytes,
        List.flatMap_singleton, encodeByte, if_pos here, UInt8.toNat_ofNat']
      rw [Nat.mod_eq_of_lt (by omega), Char.ofNat_toNat]
    rw [← List.singleton_append, encodeChars_append, one, ih rest]

/-- An encoding is not shorter than the text. -/
theorem length_le_encodeChars (cs : List Char) : cs.length ≤ (encodeChars cs).length := by
  have one : ∀ b : UInt8, 1 ≤ (encodeByte b).length := forall_byte (by decide +kernel)
  induction cs with
  | nil => exact Nat.zero_le _
  | cons c cs ih =>
    have here : 1 ≤ (encodeChars [c]).length := by
      rw [encodeChars, List.flatMap_singleton]
      obtain ⟨b, rest, bytes⟩ := List.exists_cons_of_length_pos
        (by rw [String.length_utf8EncodeChar]; exact c.utf8Size_pos)
      rw [bytes, encodeBytes, List.flatMap_cons, List.length_append]
      have := one b
      omega
    rw [← List.singleton_append, encodeChars_append, List.length_append, List.length_append]
    exact Nat.add_le_add here ih

/-- The slashes of an encoding are those of the text. -/
theorem slash_mem_encodeChars {cs : List Char} : '/' ∈ encodeChars cs ↔ '/' ∈ cs := by
  constructor
  · intro member
    obtain ⟨b, inBytes, inByte⟩ := List.mem_flatMap.1 member
    have isSlash : ∀ b : UInt8, '/' ∈ encodeByte b → b = 47 := forall_byte (by decide +kernel)
    obtain ⟨c, inText, inChar⟩ := List.mem_flatMap.1 inBytes
    rw [isSlash b inByte] at inChar
    by_cases ascii : c.toNat < 128
    · rw [Bytes.utf8EncodeChar_of_ascii ascii, List.mem_singleton] at inChar
      have number : c.toNat = 47 := by
        have same := congrArg UInt8.toNat inChar
        rw [UInt8.toNat_ofNat', Nat.mod_eq_of_lt (by omega)] at same
        exact same.symm
      have same : c = '/' := by
        rw [← Char.ofNat_toNat c, number]
      rwa [← same]
    · have wide := Bytes.le_of_mem_utf8EncodeChar (Nat.le_of_not_lt ascii) inChar
      exact absurd wide (by decide)
  · intro member
    obtain ⟨front, back, rfl⟩ := List.append_of_mem member
    rw [encodeChars_append, encodeChars_slash]
    exact List.mem_append_right _ List.mem_cons_self

end PreviewSync.ObjectPath
