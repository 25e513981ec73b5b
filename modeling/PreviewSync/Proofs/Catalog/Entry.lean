import PreviewSync.Catalog.Entry

/-!
# The level to use

Of the levels that are long enough the shortest is used, and the first of them if there are several.
If none is long enough, the longest is used, and there it is the last one. Both searches go through
a list from its end with one level in hand, and differ only in when the level in front of it gives
way to it. So what a search finds is said once for any preference, and read off for the two.

## Main Definitions

* `PreviewLevel.IsPreference`, `pick?` — what a search relies on, and the search
* `PreviewLevel.IsPicked`, `pick?_eq_some_iff` — the level that a preference leads to is found
* `PreviewLevel.IsFirstShortest`, `IsLastLongest` — the levels that the two searches are for
* `PreviewLevel.IsClosest`, `closest?_eq_iff` — the level for a target, and that it is found
-/

namespace PreviewSync.PreviewLevel

variable {levels rest : List PreviewLevel} {level best : PreviewLevel} {target : UInt32}

/-! ### Preferences -/

/-- What a search relies on. Giving way is transitive, and when one level gives way to another, any
third one either is given way to by the former or gives way to the latter. Longer and shorter edges
are both of this kind, so the two searches are one. -/
structure IsPreference (givesWay : PreviewLevel → PreviewLevel → Prop) : Prop where
  trans {a b c : PreviewLevel} : givesWay a b → givesWay b c → givesWay a c
  split {a c : PreviewLevel} (b : PreviewLevel) : givesWay a c → givesWay a b ∨ givesWay b c

/-- The search with one level in hand, to which the level in front of it may give way. -/
def pick? (givesWay : PreviewLevel → PreviewLevel → Prop) [DecidableRel givesWay] :
    List PreviewLevel → Option PreviewLevel
  | [] => none
  | level :: rest =>
    match pick? givesWay rest with
    | some best => if givesWay level best then some best else some level
    | none => some level

/-- The level of a list that a preference leads to: every level in front of it gives way to it, and
it gives way to none behind it. So it is the first of its equals or the last, depending on whether
equals give way. -/
def IsPicked (givesWay : PreviewLevel → PreviewLevel → Prop) (levels : List PreviewLevel)
    (level : PreviewLevel) : Prop :=
  ∃ before after, levels = before ++ level :: after ∧ (∀ other ∈ before, givesWay other level) ∧
    ∀ other ∈ after, ¬ givesWay level other

variable {givesWay : PreviewLevel → PreviewLevel → Prop}

theorem IsPicked.ne_nil (h : IsPicked givesWay levels level) : levels ≠ [] := by
  obtain ⟨before, after, rfl, -, -⟩ := h
  simp

/-- A preference leads to one level only. So the search need not be looked into once its result is
known to be picked. -/
theorem IsPicked.unique (h : IsPicked givesWay levels level) (h' : IsPicked givesWay levels best) :
    level = best := by
  obtain ⟨before, after, rfl, front, back⟩ := h
  obtain ⟨before', after', same, front', back'⟩ := h'
  rcases List.append_eq_append_iff.1 same with ⟨between, rfl, split⟩ | ⟨between, rfl, split⟩
  · cases between with
    | nil => exact (List.cons.inj split).1
    | cons _ between =>
      obtain ⟨rfl, rfl⟩ := List.cons.inj split
      exact absurd (front' _ (by simp)) (back _ (by simp))
  · cases between with
    | nil => exact (List.cons.inj split).1.symm
    | cons _ between =>
      obtain ⟨rfl, rfl⟩ := List.cons.inj split
      exact absurd (front _ (by simp)) (back' _ (by simp))

/-- One more level in front gives way, or is picked itself. This is the step of the search, which
goes from the end of the list. -/
theorem IsPicked.cons (h : IsPicked givesWay rest best) (preference : IsPreference givesWay)
    (first : PreviewLevel) :
    (givesWay first best → IsPicked givesWay (first :: rest) best) ∧
      (¬ givesWay first best → IsPicked givesWay (first :: rest) first) := by
  obtain ⟨before, after, rfl, front, back⟩ := h
  constructor
  · intro less
    exact ⟨first :: before, after, rfl, List.forall_mem_cons.2 ⟨less, front⟩, back⟩
  · intro kept
    refine ⟨[], _, rfl, nofun, fun other member less => kept ?_⟩
    rcases List.mem_append.1 member with inFront | behind
    · exact preference.trans less (front other inFront)
    · rcases List.mem_cons.1 behind with rfl | behind
      · exact less
      · exact (preference.split best less).resolve_right (back other behind)

theorem pick?_eq_none_iff [DecidableRel givesWay] :
    pick? givesWay levels = none ↔ levels = [] := by
  cases levels with
  | nil => exact iff_of_true rfl rfl
  | cons level rest =>
    refine iff_of_false ?_ (List.cons_ne_nil _ _)
    rw [pick?]
    split
    · split <;> exact nofun
    · exact nofun

/-- What is found is picked, by induction on the list. -/
theorem isPicked_of_pick? [DecidableRel givesWay] (preference : IsPreference givesWay)
    (h : pick? givesWay levels = some level) : IsPicked givesWay levels level := by
  induction levels generalizing level with
  | nil => cases h
  | cons first rest ih =>
    rw [pick?] at h
    cases found : pick? givesWay rest with
    | none =>
      rw [found] at h
      cases h
      rw [pick?_eq_none_iff.1 found]
      exact ⟨[], [], rfl, nofun, nofun⟩
    | some best =>
      rw [found] at h
      dsimp only at h
      have step := (ih found).cons preference first
      split at h <;> cases h
      · exact step.1 ‹_›
      · exact step.2 ‹_›

/-- A level is found iff it is picked, since something is found in every list with a level. It
answers both what is found and what could be found. -/
theorem pick?_eq_some_iff [DecidableRel givesWay] (preference : IsPreference givesWay) :
    pick? givesWay levels = some level ↔ IsPicked givesWay levels level := by
  refine ⟨isPicked_of_pick? preference, fun here => ?_⟩
  cases found : pick? givesWay levels with
  | none => exact absurd (pick?_eq_none_iff.1 found) here.ne_nil
  | some best => rw [(isPicked_of_pick? preference found).unique here]

/-- The picked level of those of a kind, in the list of all. Levels of the other kind may stand
anywhere in between. -/
theorem isPicked_filter {p : PreviewLevel → Bool} :
    IsPicked givesWay (levels.filter p) level ↔
      ∃ before after, levels = before ++ level :: after ∧ p level = true ∧
        (∀ other ∈ before, p other = true → givesWay other level) ∧
        ∀ other ∈ after, p other = true → ¬ givesWay level other := by
  constructor
  · rintro ⟨before, after, kept, front, back⟩
    obtain ⟨before', others, rfl, rfl, later⟩ := List.filter_eq_append_iff.1 kept
    obtain ⟨skipped, after', rfl, none, here, rfl⟩ := List.filter_eq_cons_iff.1 later
    refine ⟨before' ++ skipped, after', by simp, here, fun other member passes => ?_, ?_⟩
    · rcases List.mem_append.1 member with inFront | between
      · exact front other (List.mem_filter.2 ⟨inFront, passes⟩)
      · exact absurd passes (none other between)
    · exact fun other member passes => back other (List.mem_filter.2 ⟨member, passes⟩)
  · rintro ⟨before, after, rfl, here, front, back⟩
    refine ⟨before.filter p, after.filter p, ?_, fun other member => ?_, fun other member => ?_⟩
    · rw [List.filter_append, List.filter_cons_of_pos here]
    · obtain ⟨inside, passes⟩ := List.mem_filter.1 member
      exact front other inside passes
    · obtain ⟨inside, passes⟩ := List.mem_filter.1 member
      exact back other inside passes

/-! ### The two searches -/

/-- A level gives way to a shorter one. Of two that are as long, the first one is kept. -/
theorem isPreference_shorter : IsPreference fun a b => b.longestEdge < a.longestEdge where
  trans less less' := UInt32.lt_trans less' less
  split b less := by
    simp only [UInt32.lt_iff_toNat_lt] at less ⊢
    omega

/-- A level gives way to one that is as long. Of two that are as long, it is thus the last one that
is kept. -/
theorem isPreference_longer : IsPreference fun a b => a.longestEdge ≤ b.longestEdge where
  trans := UInt32.le_trans
  split b less := by
    simp only [UInt32.le_iff_toNat_le] at less ⊢
    omega

theorem shortest?_eq_pick? :
    shortest? levels = pick? (fun a b => b.longestEdge < a.longestEdge) levels := by
  induction levels with
  | nil => rfl
  | cons level rest ih =>
    rw [shortest?, ih]
    rfl

theorem longest?_eq_pick? :
    longest? levels = pick? (fun a b => a.longestEdge ≤ b.longestEdge) levels := by
  induction levels with
  | nil => rfl
  | cons level rest ih =>
    rw [longest?, pick?, ih]
    cases pick? (fun a b => a.longestEdge ≤ b.longestEdge) rest with
    | none => rfl
    | some best =>
      by_cases less : best.longestEdge < level.longestEdge
      · simp only [if_pos less, if_neg (UInt32.not_le.2 less)]
      · simp only [if_neg less, if_pos (UInt32.not_lt.1 less)]

/-! ### The level for a target -/

/-- The first in a list of the shortest among the levels that are long enough. Its edges have to be
scaled down least. -/
def IsFirstShortest (levels : List PreviewLevel) (target : UInt32) (level : PreviewLevel) : Prop :=
  ∃ before after, levels = before ++ level :: after ∧ target ≤ level.longestEdge ∧
    (∀ other ∈ before, target ≤ other.longestEdge → level.longestEdge < other.longestEdge) ∧
    ∀ other ∈ after, target ≤ other.longestEdge → level.longestEdge ≤ other.longestEdge

/-- The last in a list of the longest levels. It is taken when no level is long enough. -/
def IsLastLongest (levels : List PreviewLevel) (level : PreviewLevel) : Prop :=
  ∃ before after, levels = before ++ level :: after ∧
    (∀ other ∈ before, other.longestEdge ≤ level.longestEdge) ∧
    ∀ other ∈ after, other.longestEdge < level.longestEdge

/-- The level for a target. There is none only if there is no level at all. -/
def IsClosest (levels : List PreviewLevel) (target : UInt32) : Option PreviewLevel → Prop
  | none => levels = []
  | some level =>
    if ∃ other ∈ levels, target ≤ other.longestEdge then IsFirstShortest levels target level
    else IsLastLongest levels level

/-- The search for the shortest among the levels that are long enough. -/
theorem shortest?_filter_eq_some_iff :
    shortest? (levels.filter fun level => target ≤ level.longestEdge) = some level ↔
      IsFirstShortest levels target level := by
  rw [shortest?_eq_pick?, pick?_eq_some_iff isPreference_shorter, isPicked_filter]
  simp only [IsFirstShortest, decide_eq_true_eq, UInt32.not_lt]

/-- The search for the longest. -/
theorem longest?_eq_some_iff : longest? levels = some level ↔ IsLastLongest levels level := by
  rw [longest?_eq_pick?, pick?_eq_some_iff isPreference_longer]
  simp only [IsPicked, IsLastLongest, UInt32.not_le]

theorem closest?_eq_none_iff : closest? levels target = none ↔ levels = [] := by
  unfold closest?
  split
  · rename_i level found
    refine iff_of_false nofun ?_
    obtain ⟨before, after, rfl, -⟩ := shortest?_filter_eq_some_iff.1 found
    simp
  · rw [longest?_eq_pick?, pick?_eq_none_iff]

/-- The level for a target is found. -/
theorem closest?_eq_iff {result : Option PreviewLevel} :
    closest? levels target = result ↔ IsClosest levels target result := by
  cases result with
  | none => exact closest?_eq_none_iff
  | some level =>
    unfold closest? IsClosest
    dsimp only
    split
    · rename_i best found
      have covered : ∃ other ∈ levels, target ≤ other.longestEdge := by
        obtain ⟨before, after, rfl, long, -⟩ := shortest?_filter_eq_some_iff.1 found
        exact ⟨best, by simp, long⟩
      rw [if_pos covered, ← shortest?_filter_eq_some_iff, found]
    · rename_i none
      have uncovered : ¬ ∃ other ∈ levels, target ≤ other.longestEdge := by
        rintro ⟨other, member, long⟩
        have some : other ∈ levels.filter fun level => target ≤ level.longestEdge :=
          List.mem_filter.2 ⟨member, decide_eq_true long⟩
        rw [pick?_eq_none_iff.1 (shortest?_eq_pick?.symm.trans none)] at some
        cases some
      rw [if_neg uncovered, longest?_eq_some_iff]

end PreviewSync.PreviewLevel
