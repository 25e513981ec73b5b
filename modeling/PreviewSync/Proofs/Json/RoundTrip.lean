import PreviewSync.Json.Reader
import PreviewSync.Proofs.Bytes

/-!
# Writing and reading JSON

A value that is written is read back, as long as all its numbers are natural and all its strings are
texts. Written values hold no blanks, so no token runs into the next: a number is always followed by
a bracket, a brace or a comma.

## Main Definitions

* `Token.IsPlain` — the tokens that this library writes
* `Token.scanFrom_write` — a written token is scanned
* `Reader.run_tokens` — the tokens of a value are read
* `Value.read?_write`, `Value.ofBytes?_write` — a written value is read back
-/

namespace PreviewSync.Json

namespace Token

/-- The value of a digit that was written. -/
theorem value?_lower {d : Nat} (h : d < 16) : Hex.value? (Hex.lower d) = some d := by
  have all : ∀ d < 16, Hex.value? (Hex.lower d) = some d := by decide
  exact all d h

/-- A written character is scanned as one part of a string. Control characters come back as numbers,
which texts are made of in the next step. -/
theorem scanString_escape (read : List Piece) (c : Char) (rest : List Char) :
    ∃ part, (part = .char c ∨ part = .unit c.toNat ∧ c.toNat < 32) ∧
      scanString read (escape c ++ rest) = scanString (part :: read) rest := by
  unfold escape
  -- Seven characters have an escape of one letter.
  iterate 7
    split
    · exact ⟨.char c, .inl rfl, by subst_vars; rfl⟩
  split
  · rename_i control
    refine ⟨.unit c.toNat, .inr ⟨rfl, control⟩, ?_⟩
    have high : Hex.value? (Hex.lower (c.toNat / 16)) = some (c.toNat / 16) :=
      value?_lower (by omega)
    have low : Hex.value? (Hex.lower (c.toNat % 16)) = some (c.toNat % 16) :=
      value?_lower (by omega)
    have zero : Hex.value? '0' = some 0 := by decide
    have unit : unit? '0' '0' (Hex.lower (c.toNat / 16)) (Hex.lower (c.toNat % 16)) =
        some c.toNat := by
      unfold unit?
      rw [zero, high, low]
      show some _ = some _
      congr 1
      omega
    show scanString read ('\\' :: 'u' :: '0' :: '0' :: _ :: _ :: rest) = _
    rw [scanString, unit]
  · rename_i quote backslash _ _ _ _ _ plain
    refine ⟨.char c, .inl rfl, ?_⟩
    show scanString read (c :: rest) = _
    rw [scanString.eq_def]
    -- The patterns for a quote and a backslash do not apply to a plain character.
    split
    case h_5 =>
      rename_i same
      cases same
      simp [plain, backslash]
    all_goals simp_all

/-- A written text is scanned as its characters, some of them given by number. -/
theorem scanString_write (read : List Piece) (cs rest : List Char) :
    ∃ parts, scanString read (cs.flatMap escape ++ '"' :: rest) =
        some (read.reverse ++ parts, rest) ∧
      ∀ before, textOf before parts = some (String.ofList (before.reverse ++ cs)) := by
  induction cs generalizing read with
  | nil =>
    refine ⟨[], ?_, fun before => ?_⟩
    · simp [scanString]
    · simp [textOf]
  | cons c cs ih =>
    obtain ⟨part, kind, scanned⟩ := scanString_escape read c (cs.flatMap escape ++ '"' :: rest)
    obtain ⟨parts, later, text⟩ := ih (part :: read)
    refine ⟨part :: parts, ?_, fun before => ?_⟩
    · rw [List.flatMap_cons, List.append_assoc, scanned, later]
      simp
    · have continued : textOf before (part :: parts) = textOf (c :: before) parts := by
        rcases kind with rfl | ⟨rfl, control⟩
        · rw [textOf]
        · have noHigh : isHighUnit c.toNat = false := by
            simp only [isHighUnit, Bool.and_eq_false_imp, decide_eq_true_eq]
            omega
          have noLow : isLowUnit c.toNat = false := by
            simp only [isLowUnit, Bool.and_eq_false_imp, decide_eq_true_eq]
            omega
          cases parts with
          | nil => simp [textOf, noHigh, noLow]
          | cons next parts => cases next <;> simp [textOf, noHigh, noLow]
      rw [continued, text]
      simp

/-! ### Numbers -/

/-- A written number consists of digits. -/
theorem isDigit_of_mem_toDigits {n : Nat} {c : Char} (h : c ∈ Nat.toDigits 10 n) :
    Decimal.isDigit c = true := by
  have digit := Nat.isDigit_of_mem_toDigits (by decide) (by decide) h
  simpa [Decimal.isDigit, Char.isDigit, Char.le_def] using digit

/-- The value of a written number. -/
theorem valueFrom_toDigits (n : Nat) : Decimal.valueFrom 0 (Nat.toDigits 10 n) = n :=
  Nat.ofDigitChars_ten_toDigits

/-- A written number does not begin with a zero, unless it is zero. Numbers with zeros in front are
not allowed. -/
theorem head?_toDigits {n : Nat} (pos : 0 < n) : (Nat.toDigits 10 n).head? ≠ some '0' := by
  induction n using Nat.strongRecOn with
  | ind n ih =>
    by_cases small : n < 10
    · rw [Nat.toDigits_of_lt_base small]
      have all : ∀ n < 10, 0 < n → [Nat.digitChar n].head? ≠ some '0' := by decide
      exact all n small pos
    · have earlier := ih (n / 10) (by omega) (by omega)
      rw [Nat.toDigits_of_base_le (by decide) (by omega), List.head?_append]
      cases first : (Nat.toDigits 10 (n / 10)).head? with
      | none => exact absurd (List.head?_eq_none_iff.1 first) Nat.toDigits_ne_nil
      | some c => rwa [first] at earlier

/-- The characters after a number, none of which could belong to it. A number has no sign at its
end, so what follows has to be known to tell where it ends. -/
def Ends (rest : List Char) : Prop :=
  ∀ c ∈ rest.head?, Decimal.isDigit c = false ∧ c ≠ '.' ∧ c ≠ 'e' ∧ c ≠ 'E'

/-- Digits are split off up to the first other character. So a number has to be followed by
something else. -/
theorem scanDigits_append {digits rest : List Char}
    (all : ∀ c ∈ digits, Decimal.isDigit c = true) (ends : Ends rest) :
    scanDigits (digits ++ rest) = (digits, rest) := by
  have none : rest.takeWhile Decimal.isDigit = [] ∧ rest.dropWhile Decimal.isDigit = rest := by
    cases rest with
    | nil => exact ⟨rfl, rfl⟩
    | cons c rest =>
      have other := (ends c rfl).1
      simp [other]
  rw [scanDigits, List.takeWhile_append_of_pos all, List.dropWhile_append_of_pos all, none.1,
    none.2, List.append_nil]

/-- A written number is scanned. -/
theorem scanUnsigned_toDigits (n : Nat) {rest : List Char} (ends : Ends rest) :
    scanUnsigned (Nat.toDigits 10 n ++ rest) = some (some n, rest) := by
  have split := scanDigits_append (fun c h => isDigit_of_mem_toDigits (n := n) h) ends
  have leading : ((Nat.toDigits 10 n).isEmpty ||
      (Nat.toDigits 10 n).head? == some '0' && (Nat.toDigits 10 n).length != 1) = false := by
    rcases Nat.eq_zero_or_pos n with rfl | pos
    · decide
    · have head := head?_toDigits pos
      simp [head]
  have noFraction : scanFraction rest = some (false, rest) := by
    unfold scanFraction
    split
    · exact absurd rfl (ends '.' rfl).2.1
    · rfl
  have noExponent : scanExponent rest = some (false, rest) := by
    unfold scanExponent
    split
    · rename_i e rest
      have other := (ends e rfl).2.2
      simp [other]
    · rfl
  unfold scanUnsigned
  rw [split]
  simp [leading, noFraction, noExponent, valueFrom_toDigits]

/-! ### All tokens -/

/-- The tokens that this library writes: every number is natural, and every string has a text. Other
tokens can be read, but are never written. -/
def IsPlain : Token → Prop
  | number none | string none => False
  | _ => True

/-- A written token is scanned, if no digit follows a number. What follows a number in a document is
a comma or a bracket. -/
theorem scan_write {token : Token} (plain : token.IsPlain) {rest : List Char}
    (ends : ∀ n, token = number n → Ends rest) :
    scan (token.write ++ rest) = some (token, rest) := by
  cases token with
  | braceOpen | braceClose | bracketOpen | bracketClose | colon | comma | null => rfl
  | bool value => cases value <;> rfl
  | string text =>
    cases text with
    | none => exact plain.elim
    | some text =>
      obtain ⟨parts, scanned, same⟩ := scanString_write [] text.toList rest
      have written : write (string (some text)) ++ rest =
          '"' :: (text.toList.flatMap escape ++ '"' :: rest) := by
        simp [write]
      rw [written, scan, scanned, Option.map_some, List.reverse_nil, List.nil_append]
      dsimp only
      rw [same, List.reverse_nil, List.nil_append, String.ofList_toList]
  | number natural =>
    cases natural with
    | none => exact plain.elim
    | some n =>
      have scanned := scanUnsigned_toDigits n (ends _ rfl)
      obtain ⟨d, ds, digits⟩ := List.exists_cons_of_ne_nil (Nat.toDigits_ne_nil (n := n) (b := 10))
      have digit : Decimal.isDigit d = true :=
        isDigit_of_mem_toDigits (n := n) (by rw [digits]; exact List.mem_cons_self)
      rw [digits, List.cons_append] at scanned
      rw [write, Nat.toList_repr, digits, List.cons_append, scan.eq_def]
      -- No other token begins with a digit.
      split
      case h_12 => rw [scanned, Option.map_some]
      all_goals
        rename_i same
        injection same with first
        rw [first] at digit
        exact absurd digit (by decide)

/-- A written token does not begin with a blank. -/
theorem exists_write_eq {token : Token} (plain : token.IsPlain) :
    ∃ c cs, token.write = c :: cs ∧ isSpace c = false := by
  cases token with
  | braceOpen | braceClose | bracketOpen | bracketClose | colon | comma | null =>
    exact ⟨_, _, rfl, by decide⟩
  | bool value => cases value <;> exact ⟨_, _, rfl, by decide⟩
  | string text =>
    cases text with
    | none => exact plain.elim
    | some text => exact ⟨_, _, rfl, by decide⟩
  | number natural =>
    cases natural with
    | none => exact plain.elim
    | some n =>
      obtain ⟨d, ds, digits⟩ := List.exists_cons_of_ne_nil (Nat.toDigits_ne_nil (n := n) (b := 10))
      have digit : Decimal.isDigit d = true :=
        isDigit_of_mem_toDigits (n := n) (by rw [digits]; exact List.mem_cons_self)
      refine ⟨d, ds, by rw [write, Nat.toList_repr, digits], ?_⟩
      rw [Bool.eq_false_iff]
      intro blank
      simp only [isSpace, Bool.or_eq_true, beq_iff_eq] at blank
      rcases blank with ((rfl | rfl) | rfl) | rfl <;> cases digit

/-- A written token is the next one of a document. -/
theorem scanFrom_write (read : List Token) {token : Token} (plain : token.IsPlain)
    {rest : List Char} (ends : ∀ n, token = number n → Ends rest) :
    scanFrom read (token.write ++ rest) = scanFrom (token :: read) rest := by
  obtain ⟨c, cs, written, solid⟩ := exists_write_eq plain
  have scanned := scan_write plain ends
  rw [written, List.cons_append] at scanned ⊢
  rw [scanFrom, if_neg (by rw [solid]; decide)]
  split
  · rename_i found
    rw [scanned] at found
    cases found
    rfl
  · rename_i missing
    rw [scanned] at missing
    cases missing

end Token

namespace Value

open Token

/-- What this library can write and read back: all numbers are natural, all strings are texts. It is
a condition on tokens, so that it is inherited by the parts of a value. -/
def IsPlain (value : Value) : Prop :=
  ∀ token ∈ value.tokens, token.IsPlain

/-- The further items of an array begin with a comma or a bracket. -/
theorem ends_tokensOfItems (items : List Value) (rest : List Char) :
    Ends ((tokensOfItems items).flatMap Token.write ++ rest) := by
  cases items with
  | nil => rintro c ⟨⟩; decide
  | cons item items => rw [tokensOfItems]; rintro c ⟨⟩; decide

/-- The further members of an object begin with a comma or a brace. -/
theorem ends_tokensOfMembers (members : List (Option String × Value)) (rest : List Char) :
    Ends ((tokensOfMembers members).flatMap Token.write ++ rest) := by
  cases members with
  | nil => rintro c ⟨⟩; decide
  | cons member members => rw [tokensOfMembers]; rintro c ⟨⟩; decide

/-- Written tokens in front of a document are scanned one by one. -/
theorem scanFrom_cons {read tokens : List Token} {rest : List Char} (token : Token)
    (plain : token.IsPlain) (solid : ∀ n, token ≠ .number n) :
    scanFrom read ((token :: tokens).flatMap Token.write ++ rest) =
      scanFrom (token :: read) (tokens.flatMap Token.write ++ rest) := by
  rw [List.flatMap_cons, List.append_assoc]
  exact scanFrom_write read plain fun n same => absurd same (solid n)

mutual

/-- The tokens of a value are scanned, by induction on the value. A number at the end of one value
needs to know what the next one begins with, so the rest of the text is part of the statement. -/
theorem scanFrom_tokens (read : List Token) (rest : List Char) (ends : Ends rest) :
    ∀ value : Value, (∀ token ∈ value.tokens, token.IsPlain) →
      scanFrom read (value.tokens.flatMap Token.write ++ rest) =
        scanFrom (value.tokens.reverse ++ read) rest
  | .null, plain => by
    rw [tokens, scanFrom_cons .null trivial nofun]
    rfl
  | .bool b, plain => by
    rw [tokens, scanFrom_cons (.bool b) trivial nofun]
    rfl
  | .string s, plain => by
    rw [tokens] at plain ⊢
    rw [scanFrom_cons (.string s) (plain _ List.mem_cons_self) nofun]
    rfl
  | .number n, plain => by
    rw [tokens] at plain ⊢
    rw [List.flatMap_cons, List.flatMap_nil, List.append_nil,
      scanFrom_write read (plain _ List.mem_cons_self) fun _ _ => ends]
    rfl
  | .array [], plain => by
    rw [tokens, scanFrom_cons .bracketOpen trivial nofun, scanFrom_cons .bracketClose trivial nofun]
    rfl
  | .array (item :: items), plain => by
    rw [tokens] at plain ⊢
    simp only [List.forall_mem_cons, List.forall_mem_append] at plain
    rw [scanFrom_cons .bracketOpen trivial nofun, List.flatMap_append, List.append_assoc,
      scanFrom_tokens _ _ (ends_tokensOfItems items rest) item plain.2.1,
      scanFrom_items _ _ items plain.2.2]
    simp
  | .object [], plain => by
    rw [tokens, scanFrom_cons .braceOpen trivial nofun, scanFrom_cons .braceClose trivial nofun]
    rfl
  | .object ((name, value) :: members), plain => by
    rw [tokens] at plain ⊢
    simp only [List.forall_mem_cons, List.forall_mem_append] at plain
    rw [scanFrom_cons .braceOpen trivial nofun, scanFrom_cons (.string name) plain.2.1 nofun,
      scanFrom_cons .colon trivial nofun, List.flatMap_append, List.append_assoc,
      scanFrom_tokens _ _ (ends_tokensOfMembers members rest) value plain.2.2.2.1,
      scanFrom_members _ _ members plain.2.2.2.2]
    simp

/-- The tokens of the further items of an array are scanned. -/
theorem scanFrom_items (read : List Token) (rest : List Char) :
    ∀ items : List Value, (∀ token ∈ tokensOfItems items, token.IsPlain) →
      scanFrom read ((tokensOfItems items).flatMap Token.write ++ rest) =
        scanFrom ((tokensOfItems items).reverse ++ read) rest
  | [], plain => by
    rw [tokensOfItems, scanFrom_cons .bracketClose trivial nofun]
    rfl
  | item :: items, plain => by
    rw [tokensOfItems] at plain ⊢
    simp only [List.forall_mem_cons, List.forall_mem_append] at plain
    rw [scanFrom_cons .comma trivial nofun, List.flatMap_append, List.append_assoc,
      scanFrom_tokens _ _ (ends_tokensOfItems items rest) item plain.2.1,
      scanFrom_items _ _ items plain.2.2]
    simp

/-- The tokens of the further members of an object are scanned. -/
theorem scanFrom_members (read : List Token) (rest : List Char) :
    ∀ members : List (Option String × Value),
      (∀ token ∈ tokensOfMembers members, token.IsPlain) →
        scanFrom read ((tokensOfMembers members).flatMap Token.write ++ rest) =
          scanFrom ((tokensOfMembers members).reverse ++ read) rest
  | [], plain => by
    rw [tokensOfMembers, scanFrom_cons .braceClose trivial nofun]
    rfl
  | (name, value) :: members, plain => by
    rw [tokensOfMembers] at plain ⊢
    simp only [List.forall_mem_cons, List.forall_mem_append] at plain
    rw [scanFrom_cons .comma trivial nofun, scanFrom_cons (.string name) plain.2.1 nofun,
      scanFrom_cons .colon trivial nofun, List.flatMap_append, List.append_assoc,
      scanFrom_tokens _ _ (ends_tokensOfMembers members rest) value plain.2.2.2.1,
      scanFrom_members _ _ members plain.2.2.2.2]
    simp

end

end Value

namespace Reader

/-- After an opening bracket a value is read as anywhere else. The bracket may also be closed at
once, but no value begins with that. -/
theorem run_itemOrEnd (stack : List Frame) (value : Value) (rest : List Token) :
    run ⟨stack, .itemOrEnd, none⟩ (value.tokens ++ rest) =
      run ⟨stack, .value, none⟩ (value.tokens ++ rest) := by
  have first : ∀ token tokens, token ≠ .bracketClose →
      run ⟨stack, .itemOrEnd, none⟩ (token :: tokens) =
        run ⟨stack, .value, none⟩ (token :: tokens) := by
    intro token tokens solid
    have same : step ⟨stack, .itemOrEnd, none⟩ token = step ⟨stack, .value, none⟩ token := by
      unfold step
      split <;> simp_all
    rw [run, run, same]
  rcases value with _ | _ | _ | _ | (_ | _) | (_ | ⟨⟨_, _⟩, _⟩)
  all_goals
    rw [Value.tokens]
    exact first _ _ nofun

mutual

/-- The tokens of a value are read as that value. -/
theorem run_tokens (stack : List Frame) (rest : List Token) :
    ∀ value : Value,
      run ⟨stack, .value, none⟩ (value.tokens ++ rest) = run (finish value stack) rest
  | .null | .bool _ | .number _ | .string _ | .array [] | .object [] => by
    rw [Value.tokens]
    rfl
  | .array (item :: items) => by
    rw [Value.tokens, List.cons_append, List.append_assoc]
    show run ⟨.array [] :: stack, .itemOrEnd, none⟩ _ = _
    rw [run_itemOrEnd, run_tokens _ _ item]
    show run ⟨.array [item] :: stack, .separator, none⟩ _ = _
    rw [run_items stack rest [item] items]
    rfl
  | .object ((name, value) :: members) => by
    rw [Value.tokens, List.cons_append, List.cons_append, List.cons_append, List.append_assoc]
    show run ⟨.object [] name :: stack, .value, none⟩ _ = _
    rw [run_tokens _ _ value]
    show run ⟨.object [(name, value)] none :: stack, .separator, none⟩ _ = _
    rw [run_members stack rest [(name, value)] members]
    rfl

/-- The tokens of the further items of an array are read as these items. -/
theorem run_items (stack : List Frame) (rest : List Token) (read : List Value) :
    ∀ items : List Value,
      run ⟨.array read :: stack, .separator, none⟩ (Value.tokensOfItems items ++ rest) =
        run (finish (.array (read.reverse ++ items)) stack) rest
  | [] => by
    rw [Value.tokensOfItems, List.append_nil]
    rfl
  | item :: items => by
    rw [Value.tokensOfItems, List.cons_append, List.append_assoc]
    show run ⟨.array read :: stack, .value, none⟩ _ = _
    rw [run_tokens _ _ item]
    show run ⟨.array (item :: read) :: stack, .separator, none⟩ _ = _
    rw [run_items stack rest (item :: read) items, List.reverse_cons, List.append_assoc]
    rfl

/-- The tokens of the further members of an object are read as these members. -/
theorem run_members (stack : List Frame) (rest : List Token)
    (read : List (Option String × Value)) :
    ∀ members : List (Option String × Value),
      run ⟨.object read none :: stack, .separator, none⟩ (Value.tokensOfMembers members ++ rest) =
        run (finish (.object (read.reverse ++ members)) stack) rest
  | [] => by
    rw [Value.tokensOfMembers, List.append_nil]
    rfl
  | (name, value) :: members => by
    rw [Value.tokensOfMembers, List.cons_append, List.cons_append, List.cons_append,
      List.append_assoc]
    show run ⟨.object read name :: stack, .value, none⟩ _ = _
    rw [run_tokens _ _ value]
    show run ⟨.object ((name, value) :: read) none :: stack, .separator, none⟩ _ = _
    rw [run_members stack rest ((name, value) :: read) members, List.reverse_cons,
      List.append_assoc]
    rfl

end

end Reader

namespace Value

theorem isPlain_text (text : String) : (Json.text text).IsPlain := by
  simp [IsPlain, Json.text, tokens, Token.IsPlain]

theorem isPlain_natural (n : Nat) : (Json.natural n).IsPlain := by
  simp [IsPlain, Json.natural, tokens, Token.IsPlain]

/-- An array of plain values is plain. -/
theorem isPlain_array {items : List Value} (plain : ∀ item ∈ items, item.IsPlain) :
    (array items).IsPlain := by
  have further : ∀ items : List Value, (∀ item ∈ items, item.IsPlain) →
      ∀ token ∈ tokensOfItems items, token.IsPlain := by
    intro items
    induction items with
    | nil => simp [tokensOfItems, Token.IsPlain]
    | cons item items ih =>
      intro plain
      rw [List.forall_mem_cons] at plain
      simp only [tokensOfItems, List.forall_mem_cons, List.forall_mem_append]
      exact ⟨trivial, plain.1, ih plain.2⟩
  cases items with
  | nil => simp [IsPlain, tokens, Token.IsPlain]
  | cons item items =>
    rw [List.forall_mem_cons] at plain
    simp only [IsPlain, tokens, List.forall_mem_cons, List.forall_mem_append]
    exact ⟨trivial, plain.1, further items plain.2⟩

/-- An object with plain values is plain. -/
theorem isPlain_object {members : List (String × Value)}
    (plain : ∀ entry ∈ members, entry.2.IsPlain) : (Json.object members).IsPlain := by
  have further : ∀ members : List (String × Value), (∀ entry ∈ members, entry.2.IsPlain) →
      ∀ token ∈ tokensOfMembers (members.map fun entry => (some entry.1, entry.2)),
        token.IsPlain := by
    intro members
    induction members with
    | nil => simp [tokensOfMembers, Token.IsPlain]
    | cons entry members ih =>
      intro plain
      rw [List.forall_mem_cons] at plain
      simp only [List.map_cons, tokensOfMembers, List.forall_mem_cons, List.forall_mem_append]
      exact ⟨trivial, trivial, trivial, plain.1, ih plain.2⟩
  cases members with
  | nil => simp [IsPlain, Json.object, tokens, Token.IsPlain]
  | cons entry members =>
    rw [List.forall_mem_cons] at plain
    simp only [IsPlain, Json.object, List.map_cons, tokens, List.forall_mem_cons,
      List.forall_mem_append]
    exact ⟨trivial, trivial, trivial, plain.1, further members plain.2⟩

/-- A written value is read back. There is nothing in front of it and nothing behind it. -/
theorem read?_write {value : Value} (plain : value.IsPlain) : read? value.write = some value := by
  have scanned : Token.scanAll? value.write = some value.tokens := by
    have all := scanFrom_tokens [] [] nofun value plain
    rw [List.append_nil, List.append_nil] at all
    rw [Token.scanAll?, write, String.toList_ofList, all, Token.scanFrom, List.reverse_reverse]
  have ran : Reader.start.run value.tokens = some ⟨[], .nothing, some value⟩ := by
    have all := Reader.run_tokens [] [] value
    rw [List.append_nil] at all
    exact all
  rw [read?, scanned]
  show (Reader.start.run value.tokens).bind (·.result) = some value
  rw [ran]
  rfl

/-- A written value is read back from its bytes. -/
theorem ofBytes?_write {value : Value} (plain : value.IsPlain) :
    ofBytes? (Bytes.ofText value.write) = some value := by
  rw [ofBytes?, Bytes.toText?_ofText]
  exact read?_write plain

end Value

end PreviewSync.Json
