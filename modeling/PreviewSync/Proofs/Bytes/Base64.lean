import PreviewSync.Bytes.Base64
import PreviewSync.Proofs.Text.Ascii

/-!
# Reading back written bytes

The written form of bytes is read as these bytes. A reader looks for padding first, so the groups of
digits in the middle must not be taken for padded ones: no digit is a padding sign.

Nothing else is read. Digits that have a value are determined by it, and the bits that a last digit
has left over must be zero, so whatever can be read is the written form of what it is read as.

## Main Definitions

* `Base64.value?_digit`, `digit_of_value?` — values and digits determine each other
* `Base64.decodePair?_digits`, `decodeTriple?_digits`, `decodeQuad?_digits` — single groups
* `Base64.decode?_encode` — bytes are read back
* `Base64.decode?_eq_some_iff` — what is read is what is written
* `Base64.exists_encodeChars_iff` — the written forms of one byte behind some groups of three, sign
  by sign
-/

namespace PreviewSync.Base64

/-- A digit has the value that it was written for. -/
theorem value?_digit {value : Nat} (small : value < 64) : value? (digit value) = some value := by
  have all : ∀ value < 64, value? (digit value) = some value := by decide
  exact all value small

/-- A digit is no padding sign. So padding can be told from digits. -/
theorem digit_ne_padding {value : Nat} (small : value < 64) : digit value ≠ '=' := by
  intro padding
  have here := value?_digit small
  rw [padding] at here
  cases here

variable (a b c : UInt8)

/-- One byte is read back from its two digits. -/
theorem decodePair?_digits :
    decodePair? (digit (a.toNat / 4)) (digit (a.toNat % 4 * 16)) = some [a] := by
  have := a.toNat_lt
  have first : a.toNat / 4 * 4 + a.toNat % 4 * 16 / 16 = a.toNat := by omega
  rw [decodePair?, value?_digit (by omega), value?_digit (by omega)]
  simp only [Option.bind_eq_bind, Option.bind_some]
  rw [if_pos (by omega), first, UInt8.ofNat_toNat]

/-- Two bytes are read back from their three digits. -/
theorem decodeTriple?_digits :
    decodeTriple? (digit (a.toNat / 4)) (digit (a.toNat % 4 * 16 + b.toNat / 16))
      (digit (b.toNat % 16 * 4)) = some [a, b] := by
  have := a.toNat_lt
  have := b.toNat_lt
  have first : a.toNat / 4 * 4 + (a.toNat % 4 * 16 + b.toNat / 16) / 16 = a.toNat := by omega
  have second : (a.toNat % 4 * 16 + b.toNat / 16) % 16 * 16 + b.toNat % 16 * 4 / 4 = b.toNat := by
    omega
  rw [decodeTriple?, value?_digit (by omega), value?_digit (by omega), value?_digit (by omega)]
  simp only [Option.bind_eq_bind, Option.bind_some]
  rw [if_pos (by omega), first, second, UInt8.ofNat_toNat, UInt8.ofNat_toNat]

/-- Three bytes are read back from their four digits. -/
theorem decodeQuad?_digits :
    decodeQuad? (digit (a.toNat / 4)) (digit (a.toNat % 4 * 16 + b.toNat / 16))
      (digit (b.toNat % 16 * 4 + c.toNat / 64)) (digit (c.toNat % 64)) = some [a, b, c] := by
  have := a.toNat_lt
  have := b.toNat_lt
  have := c.toNat_lt
  have first : a.toNat / 4 * 4 + (a.toNat % 4 * 16 + b.toNat / 16) / 16 = a.toNat := by omega
  have second : (a.toNat % 4 * 16 + b.toNat / 16) % 16 * 16 +
      (b.toNat % 16 * 4 + c.toNat / 64) / 4 = b.toNat := by omega
  have third : (b.toNat % 16 * 4 + c.toNat / 64) % 4 * 64 + c.toNat % 64 = c.toNat := by omega
  rw [decodeQuad?, value?_digit (by omega), value?_digit (by omega), value?_digit (by omega),
    value?_digit (by omega)]
  simp only [Option.bind_eq_bind, Option.bind_some]
  rw [first, second, third, UInt8.ofNat_toNat, UInt8.ofNat_toNat, UInt8.ofNat_toNat]

/-- Bytes are read back group by group, by induction along the way they are written. -/
theorem decodeChars?_encodeChars (bytes : Bytes) :
    decodeChars? (encodeChars bytes) = some bytes := by
  fun_induction encodeChars bytes with
  | case1 => rfl
  | case2 a => exact decodePair?_digits a
  | case3 a b =>
    have solid : digit (b.toNat % 16 * 4) ≠ '=' := digit_ne_padding (by omega)
    rw [decodeChars?]
    · exact decodeTriple?_digits a b
    · exact solid
  | case4 a b c rest ih =>
    have solid : digit (c.toNat % 64) ≠ '=' := digit_ne_padding (by omega)
    rw [decodeChars?, decodeQuad?_digits, ih]
    · rfl
    · exact fun _ padding _ => solid padding
    · exact fun padding _ => solid padding

/-- Bytes are read back. -/
theorem decode?_encode (bytes : Bytes) : decode? (encode bytes) = some bytes := by
  rw [decode?, encode, String.toList_ofList, decodeChars?_encodeChars]

/-! ### Nothing else is read -/

/-- A digit is determined by its value. -/
theorem digit_of_value? {c : Char} {value : Nat} (h : value? c = some value) :
    value < 64 ∧ digit value = c := by
  have named : ∀ n, n = c.toNat → Char.ofNat n = c := by
    rintro _ rfl
    exact Char.ofNat_toNat c
  unfold value? at h
  dsimp only at h
  unfold digit
  split at h
  · cases h
    rw [if_pos (by omega)]
    exact ⟨by omega, named _ (by omega)⟩
  · split at h
    · cases h
      rw [if_neg (by omega), if_pos (by omega)]
      exact ⟨by omega, named _ (by omega)⟩
    · split at h
      · cases h
        rw [if_neg (by omega), if_neg (by omega), if_pos (by omega)]
        exact ⟨by omega, named _ (by omega)⟩
      · split at h
        · rename_i plus
          cases h
          exact ⟨by decide, plus.symm⟩
        · split at h
          · rename_i slash
            cases h
            exact ⟨by decide, slash.symm⟩
          · cases h

variable {p q r s : Char} {bytes : Bytes}

/-- Two digits that are read are those of the byte they are read as. -/
theorem encodeChars_of_decodePair? (h : decodePair? p q = some bytes) :
    encodeChars bytes = [p, q, '=', '='] := by
  simp only [decodePair?, bind, Option.bind_eq_some_iff, Option.ite_none_right_eq_some] at h
  obtain ⟨x, hx, y, hy, unused, ⟨⟩⟩ := h
  obtain ⟨smallX, rfl⟩ := digit_of_value? hx
  obtain ⟨smallY, rfl⟩ := digit_of_value? hy
  have byte := UInt8.toNat_ofNat_of_lt' (show x * 4 + y / 16 < 256 by omega)
  have high : (x * 4 + y / 16) / 4 = x := by omega
  have low : (x * 4 + y / 16) % 4 * 16 = y := by omega
  rw [encodeChars, byte, high, low]

/-- Three digits that are read are those of the bytes they are read as. -/
theorem encodeChars_of_decodeTriple? (h : decodeTriple? p q r = some bytes) :
    encodeChars bytes = [p, q, r, '='] := by
  simp only [decodeTriple?, bind, Option.bind_eq_some_iff, Option.ite_none_right_eq_some] at h
  obtain ⟨x, hx, y, hy, z, hz, unused, ⟨⟩⟩ := h
  obtain ⟨smallX, rfl⟩ := digit_of_value? hx
  obtain ⟨smallY, rfl⟩ := digit_of_value? hy
  obtain ⟨smallZ, rfl⟩ := digit_of_value? hz
  have first := UInt8.toNat_ofNat_of_lt' (show x * 4 + y / 16 < 256 by omega)
  have second := UInt8.toNat_ofNat_of_lt' (show y % 16 * 16 + z / 4 < 256 by omega)
  have high : (x * 4 + y / 16) / 4 = x := by omega
  have middle : (x * 4 + y / 16) % 4 * 16 + (y % 16 * 16 + z / 4) / 16 = y := by omega
  have low : (y % 16 * 16 + z / 4) % 16 * 4 = z := by omega
  rw [encodeChars, first, second, high, middle, low]

/-- Four digits that are read are those of the bytes they are read as, whatever follows. -/
theorem encodeChars_of_decodeQuad? (h : decodeQuad? p q r s = some bytes) (rest : Bytes) :
    encodeChars (bytes ++ rest) = p :: q :: r :: s :: encodeChars rest := by
  simp only [decodeQuad?, bind, Option.bind_eq_some_iff] at h
  obtain ⟨x, hx, y, hy, z, hz, w, hw, ⟨⟩⟩ := h
  obtain ⟨smallX, rfl⟩ := digit_of_value? hx
  obtain ⟨smallY, rfl⟩ := digit_of_value? hy
  obtain ⟨smallZ, rfl⟩ := digit_of_value? hz
  obtain ⟨smallW, rfl⟩ := digit_of_value? hw
  have first := UInt8.toNat_ofNat_of_lt' (show x * 4 + y / 16 < 256 by omega)
  have second := UInt8.toNat_ofNat_of_lt' (show y % 16 * 16 + z / 4 < 256 by omega)
  have third := UInt8.toNat_ofNat_of_lt' (show z % 4 * 64 + w < 256 by omega)
  have digit₁ : (x * 4 + y / 16) / 4 = x := by omega
  have digit₂ : (x * 4 + y / 16) % 4 * 16 + (y % 16 * 16 + z / 4) / 16 = y := by omega
  have digit₃ : (y % 16 * 16 + z / 4) % 16 * 4 + (z % 4 * 64 + w) / 64 = z := by omega
  have digit₄ : (z % 4 * 64 + w) % 64 = w := by omega
  rw [List.cons_append, List.cons_append, List.cons_append, List.nil_append, encodeChars, first,
    second, third, digit₁, digit₂, digit₃, digit₄]

/-- What is read is written again as it was, group by group along the way it is read. This is where
spare bits that are not zero are turned down. -/
theorem encodeChars_of_decodeChars? {cs : List Char} (h : decodeChars? cs = some bytes) :
    encodeChars bytes = cs := by
  fun_induction decodeChars? cs generalizing bytes with
  | case1 =>
    cases h
    rfl
  | case2 => exact encodeChars_of_decodePair? h
  | case3 => exact encodeChars_of_decodeTriple? h
  | case4 p q r s rest _ _ ih =>
    simp only [bind, Option.bind_eq_some_iff] at h
    obtain ⟨head, read, tail, others, ⟨⟩⟩ := h
    rw [encodeChars_of_decodeQuad? read, ih others]
  | case5 => cases h

/-- What is read is what is written: no bytes have two written forms. So a text that is compared as
a text is compared as bytes. -/
theorem decode?_eq_some_iff {text : String} : decode? text = some bytes ↔ encode bytes = text := by
  constructor
  · intro h
    rw [encode, encodeChars_of_decodeChars? h, String.ofList_toList]
  · rintro rfl
    exact decode?_encode bytes

/-! ### The signs of a written form -/

/-- The signs that stand for six bits. There are sixty-four of them. -/
def isDigit (c : Char) : Bool :=
  c.isAlphanum || c == '+' || c == '/'

/-- They are those that have a value. -/
theorem isDigit_iff {c : Char} : isDigit c = true ↔ ∃ value, value? c = some value := by
  constructor
  · intro sign
    have ascii : c.toNat < 128 := by
      rw [isDigit, Bool.or_eq_true, Bool.or_eq_true, beq_iff_eq, beq_iff_eq] at sign
      rcases sign with (alphanumeric | rfl) | rfl
      · exact Text.ascii_of_isAlphanum alphanumeric
      · decide
      · decide
    have all : ∀ c : Char, c.toNat < 128 → isDigit c = true → (value? c).isSome = true :=
      Text.forall_ascii (by decide +kernel)
    exact Option.isSome_iff_exists.1 (all c ascii sign)
  · rintro ⟨value, known⟩
    obtain ⟨small, rfl⟩ := digit_of_value? known
    have all : ∀ value < 64, isDigit (digit value) = true := by decide +kernel
    exact all value small

theorem isDigit_digit {value : Nat} (small : value < 64) : isDigit (digit value) = true :=
  isDigit_iff.2 ⟨value, value?_digit small⟩

/-- Digits for groups of three bytes, and for one byte more, whose last digit has four bits left
over. These are zero in the form that is written, so only four digits can stand there. -/
structure IsOneOver (groups : Nat) (digits : List Char) (last : Char) : Prop where
  length : digits.length = 4 * groups + 1
  digits : ∀ c ∈ digits, isDigit c = true
  last : last ∈ ['A', 'Q', 'g', 'w']

/-- The digits of such bytes, by induction on the groups. -/
theorem exists_isOneOver {groups : Nat} (length : bytes.length = 3 * groups + 1) :
    ∃ digits last, encodeChars bytes = digits ++ [last, '=', '='] ∧
      IsOneOver groups digits last := by
  induction groups generalizing bytes with
  | zero =>
    obtain ⟨a, rfl⟩ := List.length_eq_one_iff.1 length
    have small := a.toNat_lt
    have unused : ∀ two < 4, digit (two * 16) ∈ ['A', 'Q', 'g', 'w'] := by decide
    refine ⟨[digit (a.toNat / 4)], digit (a.toNat % 4 * 16), rfl, rfl, ?_,
      unused _ (Nat.mod_lt _ (by decide))⟩
    intro c member
    rw [List.mem_singleton.1 member]
    exact isDigit_digit (by omega)
  | succ groups ih =>
    match bytes, length with
    | a :: b :: c :: rest, length =>
      have := a.toNat_lt
      have := b.toNat_lt
      have := c.toNat_lt
      have shorter : rest.length = 3 * groups + 1 := by
        simp only [List.length_cons] at length
        omega
      obtain ⟨digits, last, written, form⟩ := ih shorter
      refine ⟨digit (a.toNat / 4) :: digit (a.toNat % 4 * 16 + b.toNat / 16)
        :: digit (b.toNat % 16 * 4 + c.toNat / 64) :: digit (c.toNat % 64) :: digits, last, ?_, ?_,
        ?_, form.last⟩
      · rw [encodeChars, written]
        rfl
      · simp only [List.length_cons, form.length]
        omega
      · simp only [List.forall_mem_cons]
        exact ⟨isDigit_digit (by omega), isDigit_digit (by omega), isDigit_digit (by omega),
          isDigit_digit (by omega), form.digits⟩

/-- Four digits stand for three bytes. -/
theorem exists_decodeQuad? (hp : isDigit p = true) (hq : isDigit q = true) (hr : isDigit r = true)
    (hs : isDigit s = true) : ∃ a b c, decodeQuad? p q r s = some [a, b, c] := by
  obtain ⟨x, hx⟩ := isDigit_iff.1 hp
  obtain ⟨y, hy⟩ := isDigit_iff.1 hq
  obtain ⟨z, hz⟩ := isDigit_iff.1 hr
  obtain ⟨w, hw⟩ := isDigit_iff.1 hs
  have read : decodeQuad? p q r s = some [UInt8.ofNat (x * 4 + y / 16),
      UInt8.ofNat (y % 16 * 16 + z / 4), UInt8.ofNat (z % 4 * 64 + w)] := by
    rw [decodeQuad?, hx, hy, hz, hw]
    rfl
  exact ⟨_, _, _, read⟩

/-- Such digits are those of some bytes, by induction on the groups. -/
theorem IsOneOver.exists_bytes {groups : Nat} {digits : List Char} {last : Char}
    (form : IsOneOver groups digits last) :
    ∃ bytes : Bytes, bytes.length = 3 * groups + 1 ∧
      encodeChars bytes = digits ++ [last, '=', '='] := by
  induction groups generalizing digits with
  | zero =>
    obtain ⟨p, rfl⟩ := List.length_eq_one_iff.1 form.length
    obtain ⟨x, hx⟩ := isDigit_iff.1 (form.digits p List.mem_cons_self)
    have unused : ∀ last ∈ ['A', 'Q', 'g', 'w'], ∃ y, value? last = some y ∧ y % 16 = 0 := by
      intro last member
      simp only [List.mem_cons, List.not_mem_nil, or_false] at member
      rcases member with rfl | rfl | rfl | rfl <;> exact ⟨_, rfl, rfl⟩
    obtain ⟨y, hy, zero⟩ := unused last form.last
    have read : decodePair? p last = some [UInt8.ofNat (x * 4 + y / 16)] := by
      rw [decodePair?, hx, hy]
      exact if_pos zero
    exact ⟨_, rfl, encodeChars_of_decodePair? read⟩
  | succ groups ih =>
    match digits, form with
    | p :: q :: r :: s :: rest, form =>
      have length := form.length
      have signs := form.digits
      simp only [List.length_cons] at length
      simp only [List.forall_mem_cons] at signs
      obtain ⟨hp, hq, hr, hs, others⟩ := signs
      obtain ⟨a, b, c, read⟩ := exists_decodeQuad? hp hq hr hs
      obtain ⟨bytes, count, written⟩ := ih ⟨by omega, others, form.last⟩
      refine ⟨[a, b, c] ++ bytes, ?_, ?_⟩
      · rw [List.length_append, count]
        show 3 + (3 * groups + 1) = _
        omega
      · rw [encodeChars_of_decodeQuad? read, written]
        rfl
    | [], form | [_], form | [_, _], form | [_, _, _], form =>
      have length := form.length
      simp only [List.length_cons, List.length_nil] at length
      omega

/-- The written forms of one byte behind some groups of three, sign by sign. It is the case that is
needed for digests, whose length leaves one byte over. -/
theorem exists_encodeChars_iff {groups : Nat} {cs : List Char} :
    (∃ bytes : Bytes, bytes.length = 3 * groups + 1 ∧ encodeChars bytes = cs) ↔
      ∃ digits last, cs = digits ++ [last, '=', '='] ∧ IsOneOver groups digits last := by
  constructor
  · rintro ⟨bytes, length, rfl⟩
    exact exists_isOneOver length
  · rintro ⟨digits, last, rfl, form⟩
    exact form.exists_bytes

end PreviewSync.Base64
