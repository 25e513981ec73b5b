import Mathlib.Data.List.TakeWhile
import PreviewSync.Proofs.Wire.Address

/-!
# Authorities

The authority of an address is the part that names the server. It begins behind the scheme and all
the slashes that follow, however many there are and whether or not they lean backwards, and it ends
at the next one. Tabs and line breaks do not count anywhere.

Text that is put behind an address with a slash therefore leaves the authority alone if the address
has one. If it has none, what is put behind it is read as the authority.

## Main Definitions

* `Wire.unbroken` — what is left of a text without tabs and line breaks
* `Wire.authority?` — the authority of an address
* `Wire.IsAuthority` — a transport connects to the authority
* `Wire.isAuthority_of_scheme` — the authority behind a scheme
* `Wire.opensAuthority` — what an authority begins with
* `Wire.authorityOf_of_opens`, `Wire.authorityOf_of_not_opens` — what is put behind an authority,
  and behind none
-/

namespace PreviewSync.Wire

/-- A text without its tabs and line breaks. They are dropped wherever they stand, even inside a
name. -/
def unbroken (text : String) : List Char :=
  text.toList.filter fun c => !isBreak c

theorem unbroken_append (s t : String) : unbroken (s ++ t) = unbroken s ++ unbroken t := by
  rw [unbroken, String.toList_append, List.filter_append]
  rfl

theorem mem_unbroken {text : String} {c : Char} :
    c ∈ unbroken text ↔ c ∈ text.toList ∧ isBreak c = false := by
  rw [unbroken, List.mem_filter, Bool.not_eq_true']

/-- The signs of a text that count. Everything about an address is read off these, so a text can be
cut and still be the same address. -/
def signs (text : String) : List Char :=
  unbroken (Text.trim isMargin text)

/-- What an authority begins with where it is looked for: neither a slash of either kind nor a tab
or line break. -/
def opensAuthority (c : Char) : Bool :=
  !isSeparator c && !isBreak c

/-- What is read as the authority behind the colon of a scheme. Any number of slashes may stand in
front of it, of either kind. -/
def authorityOf (rest : List Char) : List Char :=
  (rest.dropWhile isSeparator).takeWhile fun c => !endsAuthority c

/-- The authority of an address. -/
def authority? (text : String) : Option (List Char) :=
  (readScheme? (signs text)).map fun (_, rest) => authorityOf rest

/-- A transport connects to the host and the service that the authority names. Nothing else of an
address decides about that. -/
theorem Address.server_eq (text : String) :
    (Address.read? text).map (fun address => (address.host, address.service)) =
      (authority? text).bind readServer? := by
  unfold Address.read? authority?
  show ((readScheme? (signs text)).bind _).map _ = _
  cases readScheme? (signs text) with
  | none => rfl
  | some parts =>
    show ((readServer? (authorityOf parts.2)).bind _).map _ = readServer? (authorityOf parts.2)
    cases readServer? (authorityOf parts.2) <;> rfl

/-- A transport reads an authority off an address and connects to the server that it names. If it
names none, there is no address. -/
def IsAuthority (text : String) (authority : List Char) : Prop :=
  authority? text = some authority ∧
    (Address.read? text).map (fun address => (address.host, address.service)) =
      readServer? authority

theorem isAuthority_of_eq {text : String} {authority : List Char}
    (read : authority? text = some authority) : IsAuthority text authority := by
  refine ⟨read, ?_⟩
  rw [Address.server_eq, read]
  rfl

variable {scheme : String} {front : List Char}

theorem eq_colon_of_last {c : Char} (last : c ∈ (scheme ++ ":").toList.getLast?) : c = ':' := by
  have chars : (scheme ++ ":").toList = scheme.toList ++ [':'] := String.toList_append
  rw [chars, List.getLast?_concat] at last
  exact (Option.some.inj last).symm

/-- The signs of a text behind a scheme. -/
theorem signs_of_scheme (isScheme : scheme = "http" ∨ scheme = "https") {rest : String}
    (solid : ∀ c ∈ rest.toList.getLast?, isMargin c = false) :
    signs (scheme ++ ":" ++ rest) = scheme.toList ++ ':' :: unbroken rest := by
  have first : ∀ c ∈ (scheme ++ ":" ++ rest).toList.head?, isMargin c = false := by
    rcases isScheme with rfl | rfl <;>
    · rw [String.toList_append]
      rintro c ⟨⟩
      decide
  have last : ∀ c ∈ (scheme ++ ":").toList.getLast?, isMargin c = false := by
    intro c last
    rw [eq_colon_of_last last]
    decide
  have kept : unbroken (scheme ++ ":") = scheme.toList ++ [':'] := by
    rcases isScheme with rfl | rfl <;> decide
  rw [signs, Text.trim, Text.trimStart_of_head first, Text.trimEnd_append last,
    Text.trimEnd_of_last solid, unbroken_append, kept, List.append_assoc, List.singleton_append]

/-- The authority of a text behind a scheme. -/
theorem isAuthority_of_scheme (isScheme : scheme = "http" ∨ scheme = "https") {rest : String}
    (solid : ∀ c ∈ rest.toList.getLast?, isMargin c = false) :
    IsAuthority (scheme ++ ":" ++ rest) (authorityOf (unbroken rest)) := by
  obtain ⟨secure, known⟩ := readScheme?_of_isScheme isScheme (unbroken rest)
  refine isAuthority_of_eq ?_
  rw [authority?, signs_of_scheme isScheme solid, known]
  rfl

/-- Where something else than slashes is read, the next slash ends the authority. So what follows
can change nothing about the server. -/
theorem authorityOf_append_slash (named : ∃ c ∈ front, isSeparator c = false)
    (rest : List Char) : authorityOf (front ++ '/' :: rest) = authorityOf front := by
  have some : (front.dropWhile isSeparator).isEmpty = false := by
    rw [List.isEmpty_eq_false_iff, Ne, List.dropWhile_eq_nil_iff]
    obtain ⟨c, member, solid⟩ := named
    intro all
    rw [all c member] at solid
    cases solid
  have ended : ('/' :: rest).takeWhile (fun c => !endsAuthority c) = [] :=
    List.takeWhile_cons_of_neg (by decide)
  rw [authorityOf, List.dropWhile_append, some, if_neg Bool.false_ne_true, List.takeWhile_append,
    ended, List.append_nil, authorityOf]
  split
  · rename_i whole
    exact (List.takeWhile_prefix _).eq_of_length whole |>.symm
  · rfl

/-- Slashes in front do not count. This is how a missing server is passed over. -/
theorem authorityOf_append_of_separators (separators : ∀ c ∈ front, isSeparator c = true)
    (rest : List Char) : authorityOf (front ++ rest) = authorityOf rest := by
  rw [authorityOf, List.dropWhile_append_of_pos separators, authorityOf]

/-- A name that nothing in it ends is read up to the slash behind it. -/
theorem authorityOf_name {name : List Char} (filled : name ≠ [])
    (inside : ∀ c ∈ name, endsAuthority c = false) (rest : List Char) :
    authorityOf (name ++ '/' :: rest) = name := by
  obtain ⟨c, others, rfl⟩ := List.exists_cons_of_ne_nil filled
  have first : isSeparator c = false := by
    have notEnd := inside c List.mem_cons_self
    rw [endsAuthority, Bool.or_eq_false_iff, Bool.or_eq_false_iff] at notEnd
    exact notEnd.1.1
  have taken : ∀ d ∈ c :: others, (!endsAuthority d) = true := by
    intro d member
    rw [inside d member]
    rfl
  rw [authorityOf, List.cons_append, List.dropWhile_cons_of_neg (by simp [first]),
    ← List.cons_append, List.takeWhile_append_of_pos taken, List.takeWhile_cons_of_neg (by decide),
    List.append_nil]

/-- Behind something with which an authority begins, nothing that follows a slash is read. An
endpoint with a server keeps the bucket out of it. -/
theorem authorityOf_of_opens {text : String} (opens : ∃ c ∈ text.toList, opensAuthority c = true)
    (other : String) :
    authorityOf (unbroken (text ++ "/" ++ other)) = authorityOf (unbroken text) := by
  obtain ⟨c, member, first⟩ := opens
  rw [opensAuthority, Bool.and_eq_true, Bool.not_eq_true', Bool.not_eq_true'] at first
  have slash : unbroken "/" = ['/'] := rfl
  rw [unbroken_append, unbroken_append, slash, List.append_assoc]
  exact authorityOf_append_slash ⟨c, mem_unbroken.2 ⟨member, first.2⟩, first.1⟩ _

theorem opens_trimEnd_iff {text : String} :
    (∃ c ∈ (Text.trimEnd Text.isSlash text).toList, opensAuthority c = true) ↔
      ∃ c ∈ text.toList, opensAuthority c = true := by
  constructor
  · rintro ⟨c, member, first⟩
    exact ⟨c, Text.mem_of_mem_trimEnd member, first⟩
  · rintro ⟨c, member, first⟩
    refine ⟨c, Text.mem_trimEnd member ?_, first⟩
    rw [Text.isSlash, beq_eq_false_iff_ne]
    rintro rfl
    cases first

/-- Slashes at the end do not count there. -/
theorem authorityOf_trimEnd {text : String} (opens : ∃ c ∈ text.toList, opensAuthority c = true) :
    authorityOf (unbroken (Text.trimEnd Text.isSlash text)) = authorityOf (unbroken text) := by
  obtain ⟨trimmed, parts, slashes, -⟩ := Text.exists_trimEnd Text.isSlash text
  have whole : authorityOf (unbroken text) =
      authorityOf (unbroken (Text.trimEnd Text.isSlash text ++ trimmed)) := by rw [← parts]
  rw [whole]
  cases chars : trimmed.toList with
  | nil => rw [String.toList_eq_nil_iff.1 chars, String.append_empty]
  | cons c others =>
    have slash : c = '/' := by
      refine beq_iff_eq.1 (slashes c ?_)
      rw [chars]
      exact List.mem_cons_self
    have written : trimmed = "/" ++ String.ofList others := by
      rw [← String.ofList_toList (s := trimmed), chars, slash]
      exact @String.ofList_append ['/'] others
    rw [written, ← String.append_assoc, authorityOf_of_opens (opens_trimEnd_iff.2 opens)]

/-- Without anything like it, all is read off what follows. Then it is the bucket that is taken for
the server. -/
theorem authorityOf_of_not_opens {text : String}
    (none : ¬ ∃ c ∈ text.toList, opensAuthority c = true) (other : String) :
    authorityOf (unbroken (text ++ "/" ++ other)) = authorityOf (unbroken other) := by
  have slash : unbroken "/" = ['/'] := rfl
  rw [unbroken_append, unbroken_append, slash]
  refine authorityOf_append_of_separators ?_ _
  intro c member
  rcases List.mem_append.1 member with inText | isSlash
  · obtain ⟨member, solid⟩ := mem_unbroken.1 inText
    by_contra other
    refine none ⟨c, member, ?_⟩
    rw [opensAuthority, solid, Bool.eq_false_iff.2 other]
    rfl
  · rw [List.mem_singleton.1 isSlash]
    rfl

end PreviewSync.Wire
