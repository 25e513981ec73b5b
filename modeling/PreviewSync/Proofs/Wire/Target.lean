import Mathlib.Data.List.Basic
import Mathlib.Data.List.TakeWhile
import PreviewSync.Proofs.Signature.Resource
import PreviewSync.Wire.Address

/-!
# Targets of encoded paths

A transport changes nothing about an encoded path but its dot segments. A path without dot segments
arrives as it was written, and one with dot segments arrives as a shorter one.

## Main Definitions

* `Wire.IsDots` — the dot segments
* `Wire.splitSegments_encodeChars` — the segments of an encoded path
* `Wire.resolve_of_noDots`, `Wire.weight_resolve` — the effect of resolving dot segments
* `Wire.readTarget_encodeChars` — the target that an encoded path is sent as
-/

namespace PreviewSync.Wire

open ObjectPath (encodeByte encodeBytes encodeChars)

/-- A dot segment. -/
def IsDots (segment : List Char) : Prop :=
  segment = ['.'] ∨ segment = ['.', '.']

instance (segment : List Char) : Decidable (IsDots segment) :=
  inferInstanceAs (Decidable (_ ∨ _))

section Split

variable {cs : List Char}

/-- Without backslashes, a text is parted at its slashes. Backslashes count as slashes, but there
are none in an encoded path. -/
theorem splitSegments_eq_splitOn (solid : '\\' ∉ cs) : splitSegments cs = cs.splitOn '/' := by
  induction cs with
  | nil => rfl
  | cons c rest ih =>
    rw [List.mem_cons, not_or] at solid
    rw [splitSegments, ih solid.2, List.splitOn_cons_eq_if_modifyHead]
    by_cases slash : c = '/'
    · subst slash
      rfl
    · have other : isSeparator c = false := by
        simp [isSeparator, slash, Ne.symm solid.1]
      rw [other, if_neg (by simp), if_neg (by simpa using slash)]
      cases parts : rest.splitOn '/' with
      | nil => exact absurd parts (List.splitOn_ne_nil _ _)
      | cons => rfl

/-- The parts of a text do not hold what it is parted at. -/
theorem not_mem_of_mem_splitOn {c : Char} {part : List Char} (h : part ∈ cs.splitOn c) :
    c ∉ part := by
  induction cs generalizing part with
  | nil =>
    rw [List.mem_singleton.1 h]
    exact List.not_mem_nil
  | cons d rest ih =>
    rw [List.splitOn_cons_eq_if_modifyHead] at h
    split at h
    · rcases List.mem_cons.1 h with rfl | inRest
      · exact List.not_mem_nil
      · exact ih inRest
    · rename_i other
      cases parts : rest.splitOn c with
      | nil => exact absurd parts (List.splitOn_ne_nil _ _)
      | cons first others =>
        rw [parts] at h ih
        rcases List.mem_cons.1 h with rfl | inOthers
        · rw [List.mem_cons, not_or]
          refine ⟨?_, ih List.mem_cons_self⟩
          rintro rfl
          simp at other
        · exact ih (List.mem_cons_of_mem _ inOthers)

/-- A front without slashes belongs to the first part. -/
theorem splitOn_append_of_not_mem {front : List Char} (h : '/' ∉ front) :
    (front ++ cs).splitOn '/' = (cs.splitOn '/').modifyHead (front ++ ·) := by
  induction front with
  | nil =>
    rw [List.nil_append]
    cases cs.splitOn '/' <;> rfl
  | cons c front ih =>
    rw [List.mem_cons, not_or] at h
    rw [List.cons_append, List.splitOn_cons_eq_if_modifyHead, ih h.2,
      if_neg (by simpa using Ne.symm h.1)]
    cases cs.splitOn '/' <;> rfl

/-- An encoded path is parted where the path is parted. A slash stands for itself and for nothing
else. -/
theorem splitOn_encodeChars (cs : List Char) :
    (encodeChars cs).splitOn '/' = (cs.splitOn '/').map encodeChars := by
  induction cs with
  | nil => rfl
  | cons c rest ih =>
    -- A slash stands for itself; the signs for any other character have no slash among them.
    by_cases slash : c = '/'
    · subst slash
      rw [ObjectPath.encodeChars_slash, List.splitOn_cons_eq_if_modifyHead,
        List.splitOn_cons_eq_if_modifyHead, ih]
      rfl
    · have front : '/' ∉ encodeChars [c] := by
        rw [ObjectPath.slash_mem_encodeChars, List.mem_singleton]
        exact Ne.symm slash
      rw [← List.singleton_append, ObjectPath.encodeChars_append, splitOn_append_of_not_mem front,
        ih, splitOn_append_of_not_mem (by simpa using Ne.symm slash)]
      cases rest.splitOn '/' with
      | nil => rfl
      | cons first others =>
        rw [List.map_cons, List.modifyHead_cons, List.modifyHead_cons, List.map_cons,
          ObjectPath.encodeChars_append]

theorem backslash_not_mem_encodeChars (cs : List Char) : '\\' ∉ encodeChars cs := by
  intro member
  exact absurd (ObjectPath.isPathChar_of_mem_encodeBytes member) (by decide)

/-- The segments of an encoded path are the encoded parts of the path. -/
theorem splitSegments_encodeChars (cs : List Char) :
    splitSegments (encodeChars cs) = (cs.splitOn '/').map encodeChars := by
  rw [splitSegments_eq_splitOn (backslash_not_mem_encodeChars cs), splitOn_encodeChars]

end Split

section Dots

theorem writeDots_cons {c : Char} (solid : c ≠ '%') (rest : List Char) :
    writeDots (c :: rest) = c :: writeDots rest := by
  rw [writeDots.eq_def]
  split
  · rename_i h
    cases h
    exact absurd rfl solid
  · rename_i h
    cases h
    rfl
  · rename_i h
    cases h

theorem writeDots_escape {x y : Char} (other : ¬ (x = '2' ∧ (y = 'e' ∨ y = 'E')))
    (rest : List Char) : writeDots ('%' :: x :: y :: rest) = '%' :: writeDots (x :: y :: rest) := by
  rw [writeDots.eq_def]
  split
  · rename_i h
    cases h
    rw [if_neg fun e => other ⟨rfl, e⟩]
  · rename_i h
    cases h
    rfl
  · rename_i h
    cases h

/-- An encoded path has no dots that are not written out. Dots stand for themselves, so no escape
names one. -/
theorem writeDots_encodeBytes (bytes : Bytes) :
    writeDots (encodeBytes bytes) = encodeBytes bytes := by
  have solid : ∀ b : UInt8, ObjectPath.isPlain b = true → Char.ofNat b.toNat ≠ '%' :=
    ObjectPath.forall_byte (by decide +kernel)
  have digits : ∀ b : UInt8, ObjectPath.isPlain b = false →
      Hex.upper (b.toNat / 16) ≠ '%' ∧ Hex.upper (b.toNat % 16) ≠ '%' ∧
        ¬ (Hex.upper (b.toNat / 16) = '2' ∧
          (Hex.upper (b.toNat % 16) = 'e' ∨ Hex.upper (b.toNat % 16) = 'E')) :=
    ObjectPath.forall_byte (by decide +kernel)
  induction bytes with
  | nil => rw [encodeBytes, List.flatMap_nil, writeDots]
  | cons b bytes ih =>
    have parts : encodeBytes (b :: bytes) = encodeByte b ++ encodeBytes bytes := List.flatMap_cons
    rw [parts, encodeByte]
    split
    · rename_i plain
      rw [List.singleton_append, writeDots_cons (solid b plain), ih]
    · rename_i escaped
      obtain ⟨high, low, other⟩ := digits b (Bool.eq_false_iff.2 escaped)
      show writeDots ('%' :: _ :: _ :: encodeBytes bytes) = _
      rw [writeDots_escape other, writeDots_cons high, writeDots_cons low, ih]
      rfl

/-- The dot segments of an encoded path are the encoded dot segments. So whether a path has any can
be told before it is encoded. -/
theorem isDoubleDot_encodeChars {segment : List Char} :
    isDoubleDot (encodeChars segment) = true ↔ segment = ['.', '.'] := by
  have same : encodeChars ['.', '.'] = ['.', '.'] := by decide +kernel
  rw [isDoubleDot, encodeChars, writeDots_encodeBytes, beq_iff_eq]
  refine ⟨fun h => ObjectPath.encodeChars_injective (h.trans same.symm), ?_⟩
  rintro rfl
  exact same

theorem isSingleDot_encodeChars {segment : List Char} :
    isSingleDot (encodeChars segment) = true ↔ segment = ['.'] := by
  have same : encodeChars ['.'] = ['.'] := by decide +kernel
  rw [isSingleDot, encodeChars, writeDots_encodeBytes, beq_iff_eq]
  refine ⟨fun h => ObjectPath.encodeChars_injective (h.trans same.symm), ?_⟩
  rintro rfl
  exact same

end Dots

section Resolve

variable {read segments : List (List Char)}

/-- Writing out dots does not make a segment longer. -/
theorem length_writeDots_le (segment : List Char) :
    (writeDots segment).length ≤ segment.length := by
  fun_induction writeDots segment with
  | case1 e rest isE ih =>
    simp only [List.length_cons]
    omega
  | case2 e rest notE ih =>
    simp only [List.length_cons] at ih ⊢
    omega
  | case3 c rest _ ih =>
    simp only [List.length_cons]
    omega
  | case4 => exact Nat.le_refl _

theorem two_le_of_isDoubleDot {segment : List Char} (h : isDoubleDot segment = true) :
    2 ≤ segment.length := by
  have shorter := length_writeDots_le segment
  rwa [beq_iff_eq.1 h] at shorter

theorem one_le_of_isSingleDot {segment : List Char} (h : isSingleDot segment = true) :
    1 ≤ segment.length := by
  have shorter := length_writeDots_le segment
  rwa [beq_iff_eq.1 h] at shorter

/-- Other segments are left as they are. It is dot segments alone that a target loses. -/
theorem resolve_of_noDots (h : ∀ s ∈ segments, isDoubleDot s = false ∧ isSingleDot s = false) :
    resolve read segments = read.reverse ++ segments := by
  induction segments generalizing read with
  | nil => rw [resolve, List.append_nil]
  | cons segment rest ih =>
    rw [List.forall_mem_cons] at h
    obtain ⟨⟨notDouble, notSingle⟩, others⟩ := h
    rw [resolve, notDouble, notSingle]
    rw [if_neg (by simp), if_neg (by simp), ih others, List.reverse_cons, List.append_assoc]
    rfl

/-- No segment is made up but the empty one. It stands for a dot segment at the end. -/
theorem mem_resolve {segment : List Char} (h : segment ∈ resolve read segments) :
    segment ∈ read ∨ segment ∈ segments ∨ segment = [] := by
  induction segments generalizing read with
  | nil =>
    rw [resolve] at h
    exact .inl (List.mem_reverse.1 h)
  | cons first rest ih =>
    rw [resolve] at h
    rcases ih h with inRead | inRest | empty
    · split at inRead
      · split at inRead
        · rcases List.mem_cons.1 inRead with empty | inRead
          · exact .inr (.inr empty)
          · exact .inl (List.mem_of_mem_drop inRead)
        · exact .inl (List.mem_of_mem_drop inRead)
      · split at inRead
        · split at inRead
          · rcases List.mem_cons.1 inRead with empty | inRead
            · exact .inr (.inr empty)
            · exact .inl inRead
          · exact .inl inRead
        · rcases List.mem_cons.1 inRead with here | inRead
          · exact .inr (.inl (by rw [here]; exact List.mem_cons_self))
          · exact .inl inRead
    · exact .inr (.inl (List.mem_cons_of_mem _ inRest))
    · exact .inr (.inr empty)

/-- The number of characters of segments, with a slash in front of each. Resolving takes a segment
away for every dot segment, so a path that has any gets shorter and cannot come back as it was. -/
def weight : List (List Char) → Nat
  | [] => 0
  | segment :: segments => segment.length + 1 + weight segments

@[simp]
theorem weight_nil : weight [] = 0 :=
  rfl

@[simp]
theorem weight_cons (segment : List Char) (segments : List (List Char)) :
    weight (segment :: segments) = segment.length + 1 + weight segments :=
  rfl

@[simp]
theorem weight_append (front back : List (List Char)) :
    weight (front ++ back) = weight front + weight back := by
  induction front with
  | nil => simp
  | cons segment front ih =>
    rw [List.cons_append, weight_cons, weight_cons, ih]
    omega

@[simp]
theorem weight_reverse : weight segments.reverse = weight segments := by
  induction segments with
  | nil => rfl
  | cons segment segments ih =>
    rw [List.reverse_cons, weight_append, weight_cons, weight_cons, weight_nil, ih]
    omega

/-- Dot segments make a path shorter: every segment that is gone had a slash and at least one more
character, or two of them had three, and a dot segment at the end is replaced by the empty one. -/
theorem weight_resolve :
    (resolve read segments).length ≤ read.length + segments.length ∧
    weight (resolve read segments) + 2 * (read.length + segments.length) ≤
      weight read + weight segments + 2 * (resolve read segments).length ∧
    ((∃ s ∈ segments, isDoubleDot s = true ∨ isSingleDot s = true) →
      weight (resolve read segments) < weight read + weight segments) := by
  -- A segment that is lost may be empty, but then it is lost together with the two dots behind it.
  -- So the number of segments is counted along with the weight.
  induction segments generalizing read with
  | nil => simp [resolve]
  | cons first rest ih =>
    rw [resolve]
    by_cases double : isDoubleDot first = true
    · have long := two_le_of_isDoubleDot double
      rw [if_pos double]
      cases rest with
      | nil => cases read <;> simp [resolve] <;> omega
      | cons second others =>
        rw [if_neg (by simp)]
        obtain ⟨fewer, lighter, -⟩ := @ih (read.drop 1)
        cases read <;> simp at fewer lighter ⊢ <;> omega
    · rw [if_neg double]
      by_cases single : isSingleDot first = true
      · have long := one_le_of_isSingleDot single
        rw [if_pos single]
        cases rest with
        | nil => simp [resolve]; omega
        | cons second others =>
          rw [if_neg (by simp)]
          obtain ⟨fewer, lighter, -⟩ := @ih read
          simp at fewer lighter ⊢
          omega
      · rw [if_neg single]
        obtain ⟨fewer, lighter, strictly⟩ := @ih (first :: read)
        simp only [List.length_cons, weight_cons] at fewer lighter strictly ⊢
        refine ⟨by omega, by omega, ?_⟩
        rintro ⟨s, member, dots⟩
        rcases List.mem_cons.1 member with rfl | inRest
        · rcases dots with isDouble | isSingle
          · exact absurd isDouble double
          · exact absurd isSingle single
        · have := strictly ⟨s, inRest, dots⟩
          omega

end Resolve

/-- What may stand in an encoded path is left alone. -/
theorem encodeOutside_of_isPathChar {text : List Char}
    (h : ∀ c ∈ text, ObjectPath.isPathChar c = true) :
    encodeOutside isReservedInPath text = text := by
  have one : ∀ c : Char, c.toNat < 128 → ObjectPath.isPathChar c = true →
      (let b := UInt8.ofNat c.toNat
        if b ≤ 32 ∨ 127 ≤ b ∨ isReservedInPath (Char.ofNat b.toNat) then
          ['%', Hex.upper (b.toNat / 16), Hex.upper (b.toNat % 16)]
        else [Char.ofNat b.toNat]) = [c] :=
    Text.forall_ascii (by decide +kernel)
  rw [encodeOutside,
    Bytes.ofText_ofList_of_ascii fun c member => ObjectPath.ascii_of_isPathChar (h c member)]
  induction text with
  | nil => rfl
  | cons c rest ih =>
    rw [List.forall_mem_cons] at h
    have here := one c (ObjectPath.ascii_of_isPathChar h.1) h.1
    rw [List.map_cons, List.flatMap_cons, ih h.2, here]
    rfl

/-- The target that an encoded path is sent as: its segments without the dot segments. Encoded once
more it stays as it is. -/
theorem readTarget_encodeChars (cs : List Char) :
    readTarget ('/' :: encodeChars cs) =
      (resolve [] ((cs.splitOn '/').map encodeChars)).flatMap fun segment => '/' :: segment := by
  -- There is neither a question mark nor a number sign, so all of it is sent, and all as a path.
  have without : ∀ c : Char, ObjectPath.isPathChar c = false → c ≠ '/' →
      ∀ d ∈ '/' :: encodeChars cs, d ≠ c := by
    intro c notPath notSlash d member same
    subst same
    rcases List.mem_cons.1 member with slash | inPath
    · exact notSlash slash
    · rw [ObjectPath.isPathChar_of_mem_encodeBytes inPath] at notPath
      cases notPath
  have noMark := without '?' (by decide) (by decide)
  have sent : ('/' :: encodeChars cs).takeWhile (· != '#') = '/' :: encodeChars cs :=
    List.takeWhile_eq_self_iff.2 fun d member =>
      bne_iff_ne.2 (without '#' (by decide) (by decide) d member)
  have path : ('/' :: encodeChars cs).takeWhile (· != '?') = '/' :: encodeChars cs :=
    List.takeWhile_eq_self_iff.2 fun d member => bne_iff_ne.2 (noMark d member)
  have query : ('/' :: encodeChars cs).dropWhile (· != '?') = [] :=
    List.dropWhile_eq_nil_iff.2 fun d member => bne_iff_ne.2 (noMark d member)
  rw [readTarget, sent, path, query]
  show readPath ('/' :: encodeChars cs) = _
  rw [readPath]
  show (resolve [] (splitSegments (encodeChars cs))).flatMap _ = _
  rw [splitSegments_encodeChars]
  refine List.flatMap_congr fun segment member => ?_
  rw [encodeOutside_of_isPathChar]
  intro c inSegment
  rcases mem_resolve member with inRead | inPath | empty
  · cases inRead
  · obtain ⟨part, -, rfl⟩ := List.mem_map.1 inPath
    exact ObjectPath.isPathChar_of_mem_encodeBytes inSegment
  · rw [empty] at inSegment
    cases inSegment

/-- A target is the encoding of the parts that are left of a path. So a server that decodes it finds
these parts. -/
theorem exists_parts (cs : List Char) :
    ∃ parts : List (List Char), (∀ part ∈ parts, '/' ∉ part) ∧
      resolve [] ((cs.splitOn '/').map encodeChars) = parts.map encodeChars := by
  -- The empty segment that a dot segment at the end leaves behind is the encoding of nothing.
  have all : ∀ segments : List (List Char),
      (∀ segment ∈ segments, ∃ part, '/' ∉ part ∧ segment = encodeChars part) →
        ∃ parts : List (List Char), (∀ part ∈ parts, '/' ∉ part) ∧
          segments = parts.map encodeChars := by
    intro segments each
    induction segments with
    | nil => exact ⟨[], nofun, rfl⟩
    | cons segment rest ih =>
      rw [List.forall_mem_cons] at each
      obtain ⟨⟨part, solid, rfl⟩, others⟩ := each
      obtain ⟨parts, solids, rfl⟩ := ih others
      exact ⟨part :: parts, List.forall_mem_cons.2 ⟨solid, solids⟩, rfl⟩
  refine all _ fun segment member => ?_
  rcases mem_resolve member with inRead | inPath | rfl
  · cases inRead
  · obtain ⟨part, inParts, rfl⟩ := List.mem_map.1 inPath
    exact ⟨part, not_mem_of_mem_splitOn inParts, rfl⟩
  · exact ⟨[], List.not_mem_nil, rfl⟩

/-- The encoding of parts with a slash in front of each. -/
theorem encodeChars_flatMap (parts : List (List Char)) :
    encodeChars (parts.flatMap fun part => '/' :: part) =
      (parts.map encodeChars).flatMap fun segment => '/' :: segment := by
  induction parts with
  | nil => rfl
  | cons part parts ih =>
    rw [List.flatMap_cons, ObjectPath.encodeChars_append, ObjectPath.encodeChars_slash, ih,
      List.map_cons, List.flatMap_cons]

theorem length_flatMap_slash (segments : List (List Char)) :
    (segments.flatMap fun segment => '/' :: segment).length = weight segments := by
  induction segments with
  | nil => rfl
  | cons segment segments ih =>
    rw [List.flatMap_cons, List.length_append, ih, List.length_cons, weight_cons]

/-- A path that is parted at its slashes has the weight of all its characters. -/
theorem weight_splitOn (cs : List Char) : weight (cs.splitOn '/') = cs.length + 1 := by
  induction cs with
  | nil => rfl
  | cons c rest ih =>
    rw [List.splitOn_cons_eq_if_modifyHead]
    split
    · rw [weight_cons, ih, List.length_nil, List.length_cons]
      omega
    · cases parts : rest.splitOn '/' with
      | nil => exact absurd parts (List.splitOn_ne_nil _ _)
      | cons first others =>
        rw [parts, weight_cons] at ih
        rw [List.modifyHead_cons, weight_cons, List.length_cons, List.length_cons]
        omega

end PreviewSync.Wire
