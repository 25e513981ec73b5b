import PreviewSync.Calendar.HttpDate
import PreviewSync.Proofs.Text.Ascii

/-!
# Written dates

A written date can stand in a header: it consists of visible characters and blanks, and neither
begins nor ends with a blank.

## Main Definitions

* `HttpDate.isVisible_of_mem_write` — the characters of a written date
* `HttpDate.ne_blank_of_head?_write`, `HttpDate.getLast?_write` — its ends
-/

namespace PreviewSync.HttpDate

/-- A visible character or a blank. -/
def isVisible (c : Char) : Bool :=
  32 ≤ c.toNat && c.toNat ≤ 126

/-- What holds of all names holds of a name that is looked up, if there is one. -/
theorem forall_getD (names : List String) {p : Char → Prop} [DecidablePred p]
    (h : ∀ name ∈ names, (name.toList.all fun c => decide (p c)) = true) (n : Nat) :
    ∀ c ∈ (names.getD n "").toList, p c := by
  rw [List.getD_eq_getElem?_getD]
  cases found : names[n]? with
  | none => exact nofun
  | some name => exact Text.forall_mem_of_all (h name (List.mem_of_getElem? found))

theorem isVisible_of_mem_padded {width n : Nat} :
    ∀ c ∈ (padded width n).toList, isVisible c = true := by
  intro c member
  rw [padded, String.toList_append, String.toList_ofList, List.mem_append] at member
  rcases member with zero | digit
  · rw [List.eq_of_mem_replicate zero]
    decide
  · rw [Nat.toList_repr] at digit
    have isDigit := Nat.isDigit_of_mem_toDigits (by decide) (by decide) digit
    rw [Char.isDigit, Bool.and_eq_true, decide_eq_true_iff, decide_eq_true_iff] at isDigit
    have low : 48 ≤ c.toNat := isDigit.1
    have high : c.toNat ≤ 57 := isDigit.2
    rw [isVisible, Bool.and_eq_true, decide_eq_true_iff, decide_eq_true_iff]
    omega

theorem isVisible_of_mem_year {y : Int} : ∀ c ∈ (year y).toList, isVisible c = true := by
  have minus : isVisible '-' = true := by decide
  have plus : isVisible '+' = true := by decide
  unfold year
  split
  · rw [String.toList_append]
    exact List.forall_mem_cons.2 ⟨minus, isVisible_of_mem_padded⟩
  · split
    · rw [String.toList_append]
      exact List.forall_mem_cons.2 ⟨plus, isVisible_of_mem_padded⟩
    · exact isVisible_of_mem_padded

/-- A written date consists of visible characters and blanks. -/
theorem isVisible_of_mem_write (t : Instant) : ∀ c ∈ (write t).toList, isVisible c = true := by
  have weekday := forall_getD weekdays (p := fun c => isVisible c = true) (by decide)
  have month := forall_getD months (p := fun c => isVisible c = true) (by decide)
  have plain : ∀ text : String, text.toList.all isVisible = true →
      ∀ c ∈ text.toList, isVisible c = true := fun _ => List.all_eq_true.1
  have comma := plain ", " (by decide)
  have blank := plain " " (by decide)
  have colon := plain ":" (by decide)
  have zone := plain " GMT" (by decide)
  unfold write
  rcases t.time with ⟨hour, minute, second⟩
  simp only [String.toList_append, List.forall_mem_append, and_assoc]
  exact ⟨weekday _, comma, isVisible_of_mem_padded, blank, month _, blank, isVisible_of_mem_year,
    blank, isVisible_of_mem_padded, colon, isVisible_of_mem_padded, colon, isVisible_of_mem_padded,
    zone⟩

/-- A written date begins with the name of a weekday and a comma. -/
theorem exists_toList_write_eq (t : Instant) :
    ∃ rest, (write t).toList = (weekdays.getD (t.day % 7).toNat "").toList ++ ',' :: rest := by
  unfold write
  rcases t.time with ⟨hour, minute, second⟩
  simp only [String.toList_append, List.append_assoc]
  exact ⟨_, rfl⟩

/-- A written date does not begin with a blank. -/
theorem ne_blank_of_head?_write {t : Instant} {c : Char} (h : c ∈ (write t).toList.head?) :
    c ≠ ' ' ∧ c ≠ '\t' := by
  have weekday := forall_getD weekdays (p := fun c => c ≠ ' ' ∧ c ≠ '\t') (by decide)
    (t.day % 7).toNat
  obtain ⟨rest, chars⟩ := exists_toList_write_eq t
  rw [chars] at h
  cases name : (weekdays.getD (t.day % 7).toNat "").toList with
  | nil =>
    rw [name] at h
    cases h
    decide
  | cons d others =>
    rw [name] at h weekday
    cases h
    exact weekday c List.mem_cons_self

/-- A written date ends with a letter. -/
theorem getLast?_write (t : Instant) : (write t).toList.getLast? = some 'T' := by
  unfold write
  rcases t.time with ⟨hour, minute, second⟩
  dsimp only
  rw [String.toList_append, List.getLast?_append]
  rfl

end PreviewSync.HttpDate
