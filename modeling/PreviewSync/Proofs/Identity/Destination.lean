import PreviewSync.Identity.Destination
import PreviewSync.Proofs.Text.Trim

/-!
# Object paths of a destination

A prefix and a key are joined by one slash, after the slashes around the prefix and in front of the
key have been removed. So an object path tells the key apart from all others, up to the slashes in
front of it: below a prefix an empty key has no slash behind it, and every other key brings one.

## Main Definitions

* `Destination.objectPath_of_isTrimmed` — the object path by what is left of prefix and key
* `Destination.isSlash_of_head?_objectPath` — an object path does not begin with a slash
* `Destination.objectPath_eq_iff` — when two keys share an object path
* `Destination.IsUnambiguous`, `Destination.isUnambiguous` — all that is relied on
-/

namespace PreviewSync.Destination

open Text (IsTrimmed IsTrimmedStart isSlash trim trimStart)

variable {destination : Destination} {key other outer inner : String}

/-- The object path by what is left of prefix and key. -/
theorem objectPath_of_isTrimmed (prefixPart : IsTrimmed isSlash destination.keyPrefix outer)
    (keyPart : IsTrimmedStart isSlash key inner) :
    destination.objectPath key =
      if outer = "" then inner else if inner = "" then outer else outer ++ "/" ++ inner := by
  rw [objectPath, Text.isTrimmed_iff.1 prefixPart, Text.isTrimmedStart_iff.1 keyPart]
  simp only [String.isEmpty_iff]

/-- An object path does not begin with a slash. The slash in front of it in an address is therefore
the only one. -/
theorem isSlash_of_head?_objectPath {c : Char}
    (h : c ∈ (destination.objectPath key).toList.head?) : isSlash c = false := by
  have prefixPart := Text.isTrimmed_trim isSlash destination.keyPrefix
  have keyPart := Text.isTrimmedStart_trimStart isSlash key
  rw [objectPath_of_isTrimmed prefixPart keyPart] at h
  split at h
  · exact keyPart.head c h
  · split at h
    · exact prefixPart.head c h
    · -- The first character is that of the prefix.
      rename_i filled _
      rw [← String.toList_eq_nil_iff] at filled
      obtain ⟨d, rest, chars⟩ := List.exists_cons_of_ne_nil filled
      rw [String.toList_append, String.toList_append, chars] at h
      refine prefixPart.head c ?_
      rw [chars]
      exact h

/-- Two keys share an object path iff they are the same behind their slashes in front. The joining
slash cannot be mistaken for one of the key, since the key has none left in front. -/
theorem objectPath_eq_iff (destination : Destination) {key other : String} :
    destination.objectPath key = destination.objectPath other ↔
      trimStart isSlash key = trimStart isSlash other := by
  constructor
  · -- Below a prefix, an empty key is told from the others by the slash that they bring.
    have longer : ∀ outer inner : String, outer ≠ outer ++ "/" ++ inner := by
      intro outer inner same
      have length := congrArg String.length same
      rw [String.length_append, String.length_append] at length
      have slash : "/".length = 1 := rfl
      omega
    unfold objectPath
    dsimp only
    intro same
    split at same
    · exact same
    · split at same <;> split at same
      · rename_i empty otherEmpty
        rw [String.isEmpty_iff.1 empty, String.isEmpty_iff.1 otherEmpty]
      · exact absurd same (longer _ _)
      · exact absurd same.symm (longer _ _)
      · exact (String.append_right_inj _).1 same
  · intro same
    unfold objectPath
    rw [same]

/-- What is relied on when keys are joined to the prefix of a destination. It is about one
destination and all keys, because a prefix is fixed long before any key is known. -/
structure IsUnambiguous (destination : Destination) : Prop where
  /-- No object path begins with a slash. -/
  head (key : String) : (destination.objectPath key).toList.head? ≠ some '/'
  /-- Of every prefix something is left without the slashes around it, and of every key without
  those in front, -/
  parted (key : String) : (∃ outer, IsTrimmed isSlash destination.keyPrefix outer) ∧
    ∃ inner, IsTrimmedStart isSlash key inner
  /-- and these are joined as they are, by one slash, unless one of them is empty. -/
  joined {key outer inner : String} : IsTrimmed isSlash destination.keyPrefix outer →
    IsTrimmedStart isSlash key inner →
    destination.objectPath key =
      if outer = "" then inner else if inner = "" then outer else outer ++ "/" ++ inner
  /-- More slashes in front of the key do not count, -/
  front {slashes : String} (key : String) : (∀ c ∈ slashes.toList, c = '/') →
    destination.objectPath (slashes ++ key) = destination.objectPath key
  /-- nor do more slashes around the prefix. -/
  around {before behind : String} (key : String) : (∀ c ∈ before.toList, c = '/') →
    (∀ c ∈ behind.toList, c = '/') →
    ({ destination with keyPrefix := before ++ destination.keyPrefix ++ behind } :
      Destination).objectPath key = destination.objectPath key
  /-- Two keys share an object path iff the same is left of them. -/
  eq_iff (key other : String) : destination.objectPath key = destination.objectPath other ↔
    ∃ inner, IsTrimmedStart isSlash key inner ∧ IsTrimmedStart isSlash other inner

/-- Slashes are of the class that is removed. -/
theorem isSlash_of_all {slashes : String} (all : ∀ c ∈ slashes.toList, c = '/') :
    ∀ c ∈ slashes.toList, isSlash c = true :=
  fun c member => beq_iff_eq.2 (all c member)

/-- Prefixes and keys are joined unambiguously at every destination. -/
theorem isUnambiguous (destination : Destination) : destination.IsUnambiguous where
  head key slash := Bool.noConfusion (isSlash_of_head?_objectPath (c := '/') slash)
  parted key := ⟨⟨_, Text.isTrimmed_trim isSlash _⟩, _, Text.isTrimmedStart_trimStart isSlash key⟩
  joined := objectPath_of_isTrimmed
  front key all := by
    rw [objectPath_eq_iff]
    exact Text.trimStart_append_of_all (isSlash_of_all all)
  around key before behind := by
    unfold objectPath
    dsimp only
    rw [Text.trim_append_of_all (isSlash_of_all before) (isSlash_of_all behind)]
  eq_iff key other := by
    simp only [objectPath_eq_iff, Text.isTrimmedStart_iff]
    constructor
    · intro same
      exact ⟨_, same, rfl⟩
    · rintro ⟨inner, left, right⟩
      rw [left, right]

/-- A prefix and a key with slashes at their ends keep those inside, and the empty key of this
prefix has an object path of its own. -/
theorem isUnambiguous_of_slashes :
    let destination : Destination := ⟨"photos", "/nested//prefix/"⟩
    IsTrimmed isSlash destination.keyPrefix "nested//prefix" ∧
      IsTrimmedStart isSlash "//a//b.jpg" "a//b.jpg" ∧
      destination.objectPath "//a//b.jpg" = "nested//prefix/a//b.jpg" ∧
      destination.objectPath ("//" ++ "") = destination.objectPath "" ∧
      destination.objectPath "//a//b.jpg" ≠ destination.objectPath "" := by
  intro destination
  have prefixPart : IsTrimmed isSlash destination.keyPrefix "nested//prefix" :=
    Text.isTrimmed_iff.2 (by decide +kernel)
  have keyPart : IsTrimmedStart isSlash "//a//b.jpg" "a//b.jpg" :=
    Text.isTrimmedStart_iff.2 (by decide +kernel)
  have noPart : IsTrimmedStart isSlash "" "" := Text.isTrimmedStart_iff.2 (by decide +kernel)
  have relied := isUnambiguous destination
  have long := relied.joined prefixPart keyPart
  have short := relied.joined prefixPart noPart
  refine ⟨prefixPart, keyPart, long, relied.front "" (by simp), ?_⟩
  rw [long, short]
  decide

end PreviewSync.Destination
