import PreviewSync.Proofs.Wire.Address
import PreviewSync.Proofs.Wire.Resource

/-!
# Addresses below a site

A site is the part of an address in front of an object path: scheme, server, and whatever the path
begins with. A transport reads it in one way whatever follows, and what follows is sent as it is
written unless it has dot segments. So paths without dot segments that differ are sent to different
targets, below any site.

## Main Definitions

* `Wire.IsSite` — the texts that object paths are put behind, with `Wire.IsSite.of_name` for those
  that end with the name of a server
* `Wire.exists_resolve_append`, `Wire.exists_readTarget_append` — a path below other segments
* `Wire.exists_read?_append` — an address by its site and its path
* `Wire.read?_eq_iff` — when two paths below a site are read as one address

## Design Notes

A question mark or a number sign in a site would take the object path into the query, or out of what
is sent, and a site that ends with its colon or with a slash would let the path begin the name of
the server. `IsSite` rules out just that, besides blanks. Whether a site can be read as an address
at all is left open: below one that cannot, no path has an address.
-/

namespace PreviewSync.Wire

open ObjectPath (encode encodeChars isPathChar)

/-- A text that object paths are put behind, with a slash in between. Neither a blank nor a control
character stands in it, nor what begins a query or what is not sent, and it ends neither with a
slash nor with a colon. Dot segments may stand in it, since they are resolved before any that
follow. -/
structure IsSite (site : String) : Prop where
  chars : ∀ c ∈ site.toList, 32 < c.toNat ∧ c ≠ '?' ∧ c ≠ '#'
  last : ∃ c, site.toList.getLast? = some c ∧ isSeparator c = false ∧ c ≠ ':'

/-- A character that stands in the names of servers. A name may hold others, but these are always
read as part of it. -/
def IsNameChar (c : Char) : Prop :=
  c.isAlphanum = true ∨ c = '-' ∨ c = '.'

instance (c : Char) : Decidable (IsNameChar c) :=
  inferInstanceAs (Decidable (_ ∨ _))

/-- What stands in the name of a server may stand in a site, and at its end as well. All of it lies
in ASCII, where the rest can be decided. -/
theorem plain_of_isNameChar {c : Char} (h : IsNameChar c) :
    (32 < c.toNat ∧ c ≠ '?' ∧ c ≠ '#') ∧ isSeparator c = false ∧ c ≠ ':' := by
  have decided : ∀ c : Char, c.toNat < 128 → IsNameChar c →
      (32 < c.toNat ∧ c ≠ '?' ∧ c ≠ '#') ∧ isSeparator c = false ∧ c ≠ ':' :=
    Text.forall_ascii (by decide +kernel)
  refine decided c ?_ h
  rcases h with alphanumeric | rfl | rfl
  · exact Text.ascii_of_isAlphanum alphanumeric
  · decide
  · decide

/-- A text that ends with a name is a site, if what stands in front of the name may stand in one. -/
theorem IsSite.of_name {front name : String} (filled : name ≠ "")
    (letters : ∀ c ∈ name.toList, IsNameChar c)
    (chars : ∀ c ∈ front.toList, 32 < c.toNat ∧ c ≠ '?' ∧ c ≠ '#') : IsSite (front ++ name) where
  chars c member := by
    rw [String.toList_append, List.mem_append] at member
    rcases member with inFront | inName
    · exact chars c inFront
    · exact (plain_of_isNameChar (letters c inName)).1
  last := by
    have some : name.toList ≠ [] := fun empty => filled (String.toList_eq_nil_iff.1 empty)
    refine ⟨_, ?_, (plain_of_isNameChar (letters _ (List.getLast_mem some))).2⟩
    rw [String.toList_append, List.getLast?_append, List.getLast?_eq_some_getLast some,
      Option.some_or]

/-! ### A part of a text -/

section Parts

variable {p : Char → Bool} {c d : Char} {cs front back : List Char}

/-- What stops at a character does not look behind it. -/
theorem takeWhile_append_cons (stop : p d = false) :
    (front ++ d :: back).takeWhile p = front.takeWhile p := by
  induction front with
  | nil => simp [stop]
  | cons c front ih => simp only [List.cons_append, List.takeWhile_cons, ih]

theorem dropWhile_append_cons (stop : p d = false) :
    (front ++ d :: back).dropWhile p = front.dropWhile p ++ d :: back := by
  induction front with
  | nil => simp [stop]
  | cons c front ih =>
    simp only [List.cons_append, List.dropWhile_cons, ih]
    split <;> rfl

/-- What is dropped in front of a text that ends otherwise does not reach what follows it. -/
theorem dropWhile_append_of_last (last : cs.getLast? = some c) (stop : p c = false) :
    (cs ++ back).dropWhile p = cs.dropWhile p ++ back := by
  obtain ⟨front, rfl⟩ := List.getLast?_eq_some_iff.1 last
  rw [dropWhile_append_cons stop, List.append_assoc, List.singleton_append,
    dropWhile_append_cons stop, List.append_assoc, List.singleton_append]

/-- What stands in front of the first colon is known as a scheme or not, whatever follows. So this
is settled by the site. -/
theorem exists_readScheme? {scheme : List Char} (solid : ':' ∉ scheme) :
    ∃ known : Option Bool, ∀ rest, readScheme? (scheme ++ ':' :: rest) = known.map (·, rest) := by
  let name := String.ofList (scheme.map Char.toLower)
  refine ⟨if name = "http" then some false else if name = "https" then some true else none,
    fun rest => ?_⟩
  have inside : ∀ c ∈ scheme, (c != ':') = true := by
    intro c member
    rw [bne_iff_ne]
    rintro rfl
    exact solid member
  have front : (scheme ++ ':' :: rest).takeWhile (· != ':') = scheme := by
    rw [takeWhile_append_cons (by decide), List.takeWhile_eq_self_iff.2 inside]
  have behind : (scheme ++ ':' :: rest).dropWhile (· != ':') = ':' :: rest := by
    rw [dropWhile_append_cons (by decide), List.dropWhile_eq_nil_iff.2 inside, List.nil_append]
  rw [readScheme?, front, behind]
  show (if name = "http" then _ else _) = _
  split
  · rfl
  · split <;> rfl

/-- A text without a colon has no scheme. -/
theorem readScheme?_eq_none (solid : ':' ∉ cs) : readScheme? cs = none := by
  have behind : cs.dropWhile (· != ':') = [] := by
    rw [List.dropWhile_eq_nil_iff]
    intro c member
    rw [bne_iff_ne]
    rintro rfl
    exact solid member
  rw [readScheme?, behind]

/-- A text is parted at every slash in it. -/
theorem splitSegments_append_cons :
    splitSegments (front ++ '/' :: back) = splitSegments front ++ splitSegments back := by
  have some : ∀ cs, splitSegments cs ≠ [] := by
    intro cs
    induction cs with
    | nil => exact List.cons_ne_nil _ _
    | cons c cs ih =>
      rw [splitSegments]
      split
      · exact List.cons_ne_nil _ _
      · split <;> exact List.cons_ne_nil _ _
  induction front with
  | nil => rfl
  | cons c front ih =>
    rw [List.cons_append, splitSegments, splitSegments, ih]
    split
    · rfl
    · cases parts : splitSegments front with
      | nil => exact absurd parts (some front)
      | cons segment segments => rfl

end Parts

theorem isPathChar_of_mem_encodeChars {cs : List Char} {c : Char} (h : c ∈ encodeChars cs) :
    isPathChar c = true :=
  ObjectPath.isPathChar_of_mem_encodeBytes h

/-! ### The target below a site -/

section Target

variable {text : List Char}

/-- Whatever becomes of the segments in front, what follows them is left as it is. Segments without
dots take nothing away from those in front of them. -/
theorem exists_resolve_append (read segments : List (List Char)) :
    ∃ front, ∀ back ≠ [], (∀ s ∈ back, isDoubleDot s = false ∧ isSingleDot s = false) →
      resolve read (segments ++ back) = front ++ back := by
  induction segments generalizing read with
  | nil => exact ⟨read.reverse, fun back _ noDots => resolve_of_noDots noDots⟩
  | cons segment segments ih =>
    -- A dot segment is not the last one, since something follows.
    let next := if isDoubleDot segment then read.drop 1
      else if isSingleDot segment then read else segment :: read
    obtain ⟨front, all⟩ := ih next
    refine ⟨front, fun back filled noDots => ?_⟩
    have goesOn : (segments ++ back).isEmpty = false := by
      simp [filled]
    rw [← all back filled noDots, List.cons_append, resolve, goesOn]
    rfl

/-- The encoded segments of a path without dot segments are none. -/
theorem noDots_encodeChars {path : String} (noDots : ¬ HasDots path) :
    ∀ s ∈ (path.toList.splitOn '/').map encodeChars,
      isDoubleDot s = false ∧ isSingleDot s = false := by
  intro s member
  obtain ⟨part, inPath, rfl⟩ := List.mem_map.1 member
  have plain : ¬ IsDots part := fun dots => noDots ⟨part, inPath, dots⟩
  rw [IsDots, not_or] at plain
  rw [Bool.eq_false_iff, Bool.eq_false_iff, Ne, Ne, isDoubleDot_encodeChars,
    isSingleDot_encodeChars]
  exact plain.symm

/-- A path below a text has the segments of the text in front of its own. This holds even of a text
that begins with no slash. -/
theorem exists_readPath_append (text : List Char) :
    ∃ segments, ∀ back, readPath (text ++ '/' :: back) =
      (resolve [] (segments ++ splitSegments back)).flatMap fun segment =>
        '/' :: encodeOutside isReservedInPath segment := by
  cases text with
  | nil => exact ⟨[], fun back => rfl⟩
  | cons c rest =>
    by_cases slash : isSeparator c = true
    · refine ⟨splitSegments rest, fun back => ?_⟩
      rw [← splitSegments_append_cons, List.cons_append, readPath, if_pos slash]
    · refine ⟨splitSegments (c :: rest), fun back => ?_⟩
      rw [← splitSegments_append_cons, List.cons_append, readPath, if_neg slash]

/-- An encoded path is made up of its segments. -/
theorem flatMap_splitSegments_encodeChars (path : List Char) :
    ((splitSegments (encodeChars path)).flatMap fun segment =>
      '/' :: encodeOutside isReservedInPath segment) = '/' :: encodeChars path := by
  have outside : ∀ segment ∈ splitSegments (encodeChars path),
      '/' :: encodeOutside isReservedInPath segment = '/' :: segment := by
    intro segment member
    rw [splitSegments_encodeChars] at member
    obtain ⟨part, -, rfl⟩ := List.mem_map.1 member
    rw [encodeOutside_of_isPathChar fun c inPart => isPathChar_of_mem_encodeChars inPart]
  rw [List.flatMap_congr outside, splitSegments_encodeChars, ← splitOn_encodeChars, flatMap_splitOn]

/-- An encoded path neither begins a query nor ends what is sent. -/
theorem noMark_append (plain : ∀ c ∈ text, c ≠ '?' ∧ c ≠ '#') (path : List Char) :
    ∀ c ∈ text ++ '/' :: encodeChars path, c ≠ '?' ∧ c ≠ '#' := by
  have inPath : ∀ c, c.toNat < 128 → isPathChar c = true → c ≠ '?' ∧ c ≠ '#' :=
    Text.forall_ascii (by decide +kernel)
  intro c member
  rcases List.mem_append.1 member with inText | below
  · exact plain c inText
  · rcases List.mem_cons.1 below with rfl | encoded
    · decide
    · have isPath := isPathChar_of_mem_encodeChars encoded
      exact inPath c (ObjectPath.ascii_of_isPathChar isPath) isPath

/-- Below a text that begins no query, a path without dot segments is sent as it is written. The
front may have dot segments, which are resolved in the same way for every path. -/
theorem exists_readTarget_append (plain : ∀ c ∈ text, c ≠ '?' ∧ c ≠ '#') :
    ∃ front, ∀ path : String, ¬ HasDots path →
      readTarget (text ++ '/' :: encodeChars path.toList) =
        front ++ '/' :: encodeChars path.toList := by
  obtain ⟨segments, parted⟩ := exists_readPath_append text
  obtain ⟨front, resolved⟩ := exists_resolve_append [] segments
  refine ⟨front.flatMap fun segment => '/' :: encodeOutside isReservedInPath segment,
    fun path noDots => ?_⟩
  have whole := noMark_append plain path.toList
  have noMark : ∀ c ∈ text ++ '/' :: encodeChars path.toList, (c != '?') = true :=
    fun c member => bne_iff_ne.2 (whole c member).1
  have sent : (text ++ '/' :: encodeChars path.toList).takeWhile (· != '#') = _ :=
    List.takeWhile_eq_self_iff.2 fun c member => bne_iff_ne.2 (whole c member).2
  have noQuery : (text ++ '/' :: encodeChars path.toList).dropWhile (· != '?') = [] :=
    List.dropWhile_eq_nil_iff.2 noMark
  have segmentsOfPath := splitSegments_encodeChars path.toList
  have filled : splitSegments (encodeChars path.toList) ≠ [] := by
    rw [segmentsOfPath]
    simp
  rw [readTarget, sent, List.takeWhile_eq_self_iff.2 noMark, noQuery]
  show readPath _ = _
  rw [parted, resolved _ filled (by rw [segmentsOfPath]; exact noDots_encodeChars noDots),
    List.flatMap_append, flatMap_splitSegments_encodeChars]

end Target

/-! ### The address below a site -/

section Address

variable {site : String}

/-- The text of an address below a site. -/
theorem toList_append_encode (site path : String) :
    (site ++ "/" ++ encode path).toList = site.toList ++ '/' :: encodeChars path.toList := by
  rw [String.toList_append, String.toList_append, ObjectPath.toList_encode, List.append_assoc]
  rfl

/-- What follows the scheme of a site ends as the site does. A site does not end with its colon, so
something follows. -/
theorem getLast?_of_site {scheme rest : List Char} {c : Char}
    (last : (scheme ++ ':' :: rest).getLast? = some c) (other : c ≠ ':') :
    rest.getLast? = some c := by
  rw [List.getLast?_append, List.getLast?_cons, Option.some_or, Option.some.injEq] at last
  cases found : rest.getLast? with
  | none =>
    rw [found] at last
    exact absurd last.symm other
  | some d =>
    rw [found] at last
    exact congrArg some last

/-- There is no blank in an address below a site. -/
theorem IsSite.solid (isSite : IsSite site) (path : String) :
    ∀ c ∈ (site ++ "/" ++ encode path).toList, 32 < c.toNat := by
  intro c member
  rw [toList_append_encode] at member
  rcases List.mem_append.1 member with inSite | below
  · exact (isSite.chars c inSite).1
  · rcases List.mem_cons.1 below with rfl | encoded
    · decide
    · exact ObjectPath.lt_of_isPathChar (isPathChar_of_mem_encodeChars encoded)

/-- Below a site without a colon nothing is an address, for there is no colon in a path. -/
theorem IsSite.read?_of_not_mem (isSite : IsSite site) (colon : ':' ∉ site.toList)
    (path : String) : Address.read? (site ++ "/" ++ encode path) = none := by
  have noColon : ':' ∉ site.toList ++ '/' :: encodeChars path.toList := by
    rw [List.mem_append, List.mem_cons, not_or, not_or]
    refine ⟨colon, by decide, fun encoded => ?_⟩
    exact absurd (isPathChar_of_mem_encodeChars encoded) (by decide)
  rw [Address.read?, filter_trim_of_solid (isSite.solid path), toList_append_encode,
    readScheme?_eq_none noColon]
  rfl

/-- What follows the scheme of a site is parted in one way, whatever path is below it: the name of
the server begins behind the slashes, and ends before the path at the latest. -/
theorem exists_server_append {rest : List Char} {c : Char} (last : rest.getLast? = some c)
    (solid : isSeparator c = false) (plain : ∀ c ∈ rest, c ≠ '?' ∧ c ≠ '#') :
    ∃ server front, ∀ path : String, ¬ HasDots path →
      let named := (rest ++ '/' :: encodeChars path.toList).dropWhile isSeparator
      named.takeWhile (fun c => !endsAuthority c) = server ∧
        readTarget (named.dropWhile fun c => !endsAuthority c) =
          front ++ '/' :: encodeChars path.toList := by
  let named := rest.dropWhile isSeparator
  let text := named.dropWhile fun c => !endsAuthority c
  have inRest : text ⊆ rest := fun c member =>
    (List.dropWhile_suffix _).subset ((List.dropWhile_suffix _).subset member)
  obtain ⟨front, target⟩ := exists_readTarget_append fun c member => plain c (inRest member)
  refine ⟨named.takeWhile fun c => !endsAuthority c, front, fun path noDots => ?_⟩
  have slash : (!endsAuthority '/') = false := by decide
  dsimp only
  rw [dropWhile_append_of_last last solid, takeWhile_append_cons slash,
    dropWhile_append_cons slash]
  exact ⟨rfl, target path noDots⟩

/-- A site is read in one way, whatever path without dot segments is below it, and the path stands
at the end of the target as it is written. -/
theorem exists_read?_append (isSite : IsSite site) :
    ∃ above : Option Address, ∀ path, ¬ HasDots path →
      Address.read? (site ++ "/" ++ encode path) =
        above.map fun address =>
          { address with target := address.target ++ "/" ++ encode path } := by
  by_cases colon : ':' ∈ site.toList
  case neg => exact ⟨none, fun path _ => isSite.read?_of_not_mem colon path⟩
  obtain ⟨scheme, rest, parts, first⟩ := List.eq_append_cons_of_mem colon
  obtain ⟨known, schemes⟩ := exists_readScheme? first
  obtain ⟨c, last, notSeparator, notColon⟩ := isSite.last
  have plain : ∀ c ∈ rest, c ≠ '?' ∧ c ≠ '#' := by
    intro c member
    have inSite : c ∈ site.toList := by
      rw [parts]
      exact List.mem_append_right _ (List.mem_cons_of_mem _ member)
    exact (isSite.chars c inSite).2
  obtain ⟨server, front, parted⟩ :=
    exists_server_append (getLast?_of_site (parts ▸ last) notColon) notSeparator plain
  refine ⟨known.bind fun secure => (readServer? server).map fun host =>
    ⟨secure, host.1, host.2, String.ofList front⟩, fun path noDots => ?_⟩
  obtain ⟨named, target⟩ := parted path noDots
  have written : String.ofList (front ++ '/' :: encodeChars path.toList) =
      String.ofList front ++ "/" ++ encode path := by
    apply String.toList_injective
    rw [toList_append_encode, String.toList_ofList, String.toList_ofList]
  rw [Address.read?, filter_trim_of_solid (isSite.solid path), toList_append_encode, parts,
    List.append_assoc, List.cons_append, schemes]
  cases known with
  | none => rfl
  | some secure =>
    simp only [Option.map_some, Option.bind_eq_bind, Option.bind_some]
    rw [named, target, written]
    cases readServer? server <;> rfl

/-- Paths without dot segments below a site are read as one address iff they are the same. If the
site cannot be read, there is no address that both could have. -/
theorem read?_eq_iff (isSite : IsSite site) {path other : String} (noDots : ¬ HasDots path)
    (noDots' : ¬ HasDots other) {address : Address}
    (read : Address.read? (site ++ "/" ++ encode path) = some address) :
    Address.read? (site ++ "/" ++ encode other) = some address ↔ other = path := by
  obtain ⟨above, all⟩ := exists_read?_append isSite
  refine ⟨fun same => ?_, fun same => by rw [same, read]⟩
  rw [all path noDots] at read
  rw [all other noDots'] at same
  obtain ⟨address', rfl, rfl⟩ := Option.map_eq_some_iff.1 read
  have targets := congrArg Address.target (Option.some.inj same)
  exact ObjectPath.encode_injective ((String.append_right_inj _).1 targets)

end Address

end PreviewSync.Wire
