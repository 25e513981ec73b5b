import PreviewSync.Text.Trim

/-!
# Trimmed texts

A text that does not begin, or does not end, with a character of a class is left alone by trimming.

## Main Definitions

* `Text.trimStart_of_head`, `Text.trimEnd_of_last` — when nothing is trimmed
* `Text.trimEnd_append`, `Text.trimEnd_append_of_exists` — only the last of two parts is trimmed
* `Text.drop_of_head?_trim` — how a trimmed text begins
* `Text.exists_trimEnd` — what is trimmed, and how a trimmed text ends
* `Text.trimEnd_eq_empty`, `Text.mem_trimEnd` — what is left
* `Text.IsTrimmedStart`, `Text.IsTrimmed` — what trimming leaves, said by what it removes
-/

namespace PreviewSync.Text

variable {drop : Char → Bool} {text : String}

/-- A text that does not begin with a character of the class is left alone. -/
theorem trimStart_of_head (h : ∀ c ∈ text.toList.head?, drop c = false) :
    trimStart drop text = text := by
  have kept : text.toList.dropWhile drop = text.toList := by
    cases chars : text.toList with
    | nil => rfl
    | cons c rest =>
      rw [chars] at h
      rw [List.dropWhile_cons_of_neg]
      rw [h c rfl]
      decide
  rw [trimStart, kept, String.ofList_toList]

/-- A text that does not end with a character of the class is left alone. -/
theorem trimEnd_of_last (h : ∀ c ∈ text.toList.getLast?, drop c = false) :
    trimEnd drop text = text := by
  have kept : text.toList.reverse.dropWhile drop = text.toList.reverse := by
    cases chars : text.toList.reverse with
    | nil => rfl
    | cons c rest =>
      rw [← List.head?_reverse, chars] at h
      rw [List.dropWhile_cons_of_neg]
      rw [h c rfl]
      decide
  rw [trimEnd, kept, List.reverse_reverse, String.ofList_toList]

/-- Behind a text that does not end with a character of the class, only the rest is trimmed. If
nothing is left of the rest, trimming stops there. -/
theorem trimEnd_append {front : String} (h : ∀ c ∈ front.toList.getLast?, drop c = false)
    (rest : String) : trimEnd drop (front ++ rest) = front ++ trimEnd drop rest := by
  rw [trimEnd, String.toList_append, List.reverse_append, List.dropWhile_append]
  split
  · rename_i empty
    show trimEnd drop front = _
    rw [trimEnd_of_last h, trimEnd, List.isEmpty_iff.1 empty]
    simp
  · rw [List.reverse_append, List.reverse_reverse, String.ofList_append, String.ofList_toList]
    rfl

/-- What is left does not begin with a character of the class. -/
theorem drop_of_head?_trimStart {c : Char} (h : c ∈ (trimStart drop text).toList.head?) :
    drop c = false := by
  rw [trimStart, String.toList_ofList] at h
  have first := List.head?_dropWhile_not drop text.toList
  rw [h] at first
  exact Bool.eq_false_iff.2 (by simpa using first)

/-- What is left at both ends does not begin with a character of the class. -/
theorem drop_of_head?_trim {c : Char} (h : c ∈ (trim drop text).toList.head?) : drop c = false := by
  refine @drop_of_head?_trimStart drop text c ?_
  rw [trim, trimEnd, String.toList_ofList] at h
  have front : ((trimStart drop text).toList.reverse.dropWhile drop).reverse <+:
      (trimStart drop text).toList := by
    rw [← List.reverse_suffix, List.reverse_reverse]
    exact List.dropWhile_suffix drop
  obtain ⟨rest, chars⟩ := front
  rw [← chars]
  cases left : ((trimStart drop text).toList.reverse.dropWhile drop).reverse with
  | nil =>
    rw [left] at h
    cases h
  | cons d others =>
    rw [left] at h
    exact h

/-- What is trimmed at the end are characters of the class, and what is left does not end with
one. -/
theorem exists_trimEnd (drop : Char → Bool) (text : String) :
    ∃ trimmed : String, text = trimEnd drop text ++ trimmed ∧
      (∀ c ∈ trimmed.toList, drop c = true) ∧
      ∀ c ∈ (trimEnd drop text).toList.getLast?, drop c = false := by
  refine ⟨String.ofList (text.toList.reverse.takeWhile drop).reverse, ?_, ?_, ?_⟩
  · rw [trimEnd, ← String.ofList_append, ← List.reverse_append, List.takeWhile_append_dropWhile,
      List.reverse_reverse, String.ofList_toList]
  · rw [String.toList_ofList]
    intro c member
    exact List.all_eq_true.1 (List.all_takeWhile) c (List.mem_reverse.1 member)
  · rw [trimEnd, String.toList_ofList, List.getLast?_reverse]
    intro c last
    have first := List.head?_dropWhile_not drop text.toList.reverse
    rw [last] at first
    exact Bool.eq_false_iff.2 (by simpa using first)

/-- What is left was there before. -/
theorem mem_of_mem_trimEnd {c : Char} (member : c ∈ (trimEnd drop text).toList) :
    c ∈ text.toList := by
  obtain ⟨trimmed, parts, -, -⟩ := exists_trimEnd drop text
  rw [parts, String.toList_append]
  exact List.mem_append_left _ member

/-- What is not of the class is not trimmed. -/
theorem mem_trimEnd {c : Char} (member : c ∈ text.toList) (solid : drop c = false) :
    c ∈ (trimEnd drop text).toList := by
  obtain ⟨trimmed, parts, all, -⟩ := exists_trimEnd drop text
  rw [parts, String.toList_append, List.mem_append] at member
  rcases member with kept | lost
  · exact kept
  · rw [all c lost] at solid
    cases solid

/-- Of a text of the class nothing is left. -/
theorem trimEnd_eq_empty (all : ∀ c ∈ text.toList, drop c = true) : trimEnd drop text = "" := by
  have none : text.toList.reverse.dropWhile drop = [] := by
    have kept : (text.toList.reverse ++ []).dropWhile drop = [] :=
      List.dropWhile_append_of_pos fun c member => all c (List.mem_reverse.1 member)
    rwa [List.append_nil] at kept
  rw [trimEnd, none]
  rfl

/-- In front of a text with something that is not of the class, nothing is trimmed. It is not even
looked at. -/
theorem trimEnd_append_of_exists (front : String) (some : ∃ c ∈ text.toList, drop c = false) :
    trimEnd drop (front ++ text) = front ++ trimEnd drop text := by
  have filled : (text.toList.reverse.dropWhile drop).isEmpty = false := by
    obtain ⟨c, member, solid⟩ := some
    have kept := mem_trimEnd member solid
    rw [trimEnd, String.toList_ofList, List.mem_reverse] at kept
    rw [List.isEmpty_eq_false_iff]
    exact List.ne_nil_of_mem kept
  rw [trimEnd, String.toList_append, List.reverse_append, List.dropWhile_append, filled,
    if_neg Bool.false_ne_true, List.reverse_append, List.reverse_reverse, String.ofList_append,
    String.ofList_toList]
  rfl

/-! ### What trimming leaves -/

/-- What is left of a text when characters of a class are removed in front of it until there is none
any more. -/
structure IsTrimmedStart (drop : Char → Bool) (text rest : String) : Prop where
  parts : ∃ front : String, text = front ++ rest ∧ ∀ c ∈ front.toList, drop c = true
  head : ∀ c ∈ rest.toList.head?, drop c = false

/-- What is left of a text when the same is done at both ends. For a text of that class only nothing
is left, and it does not matter from which end it was removed. -/
structure IsTrimmed (drop : Char → Bool) (text core : String) : Prop where
  parts : ∃ front back : String, text = front ++ core ++ back ∧
    (∀ c ∈ front.toList, drop c = true) ∧ ∀ c ∈ back.toList, drop c = true
  head : ∀ c ∈ core.toList.head?, drop c = false
  last : ∀ c ∈ core.toList.getLast?, drop c = false

variable {front back rest core : String}

/-- Characters of the class in front of a text do not count. -/
theorem trimStart_append_of_all (all : ∀ c ∈ front.toList, drop c = true) :
    trimStart drop (front ++ text) = trimStart drop text := by
  rw [trimStart, String.toList_append, List.dropWhile_append_of_pos all]
  rfl

/-- Characters of the class behind a text do not count. -/
theorem trimEnd_append_of_all (all : ∀ c ∈ back.toList, drop c = true) :
    trimEnd drop (text ++ back) = trimEnd drop text := by
  have reversed : ∀ c ∈ back.toList.reverse, drop c = true :=
    fun c member => all c (List.mem_reverse.1 member)
  rw [trimEnd, String.toList_append, List.reverse_append, List.dropWhile_append_of_pos reversed]
  rfl

/-- Characters of the class around a text do not count. -/
theorem trim_append_of_all (before : ∀ c ∈ front.toList, drop c = true)
    (behind : ∀ c ∈ back.toList, drop c = true) :
    trim drop (front ++ text ++ back) = trim drop text := by
  rw [String.append_assoc, trim, trim, trimStart_append_of_all before, trimStart,
    String.toList_append, List.dropWhile_append]
  split
  · -- Nothing else is in the text, so nothing is left of either.
    rename_i nothing
    have none : back.toList.dropWhile drop = [] := by
      have kept : (back.toList ++ []).dropWhile drop = [] :=
        List.dropWhile_append_of_pos behind
      rwa [List.append_nil] at kept
    rw [none, trimStart, List.isEmpty_iff.1 nothing]
  · rw [String.ofList_append, String.ofList_toList, trimEnd_append_of_all behind]
    rfl

/-- What is trimmed in front are characters of the class, and what is left does not begin with
one. -/
theorem isTrimmedStart_trimStart (drop : Char → Bool) (text : String) :
    IsTrimmedStart drop text (trimStart drop text) where
  parts := by
    refine ⟨String.ofList (text.toList.takeWhile drop), ?_, ?_⟩
    · rw [trimStart, ← String.ofList_append, List.takeWhile_append_dropWhile, String.ofList_toList]
    · rw [String.toList_ofList]
      exact List.all_eq_true.1 List.all_takeWhile
  head _ := drop_of_head?_trimStart

/-- The same at both ends. -/
theorem isTrimmed_trim (drop : Char → Bool) (text : String) :
    IsTrimmed drop text (trim drop text) where
  parts := by
    obtain ⟨⟨front, whole, before⟩, -⟩ := isTrimmedStart_trimStart drop text
    obtain ⟨back, kept, behind, -⟩ := exists_trimEnd drop (trimStart drop text)
    refine ⟨front, back, ?_, before, behind⟩
    rw [String.append_assoc, trim, ← kept, ← whole]
  head _ := drop_of_head?_trim
  last := by
    obtain ⟨-, -, -, last⟩ := exists_trimEnd drop (trimStart drop text)
    exact last

/-- Trimming in front leaves one text only. So trimming can be described without saying how it is
done. -/
theorem isTrimmedStart_iff : IsTrimmedStart drop text rest ↔ trimStart drop text = rest := by
  constructor
  · rintro ⟨⟨front, rfl, before⟩, head⟩
    rw [trimStart_append_of_all before, trimStart_of_head head]
  · rintro rfl
    exact isTrimmedStart_trimStart drop text

/-- Trimming at both ends leaves one text only. It does not matter at which end one begins. -/
theorem isTrimmed_iff : IsTrimmed drop text core ↔ trim drop text = core := by
  constructor
  · rintro ⟨⟨front, back, rfl, before, behind⟩, head, last⟩
    rw [trim_append_of_all before behind, trim, trimStart_of_head head, trimEnd_of_last last]
  · rintro rfl
    exact isTrimmed_trim drop text

end PreviewSync.Text
