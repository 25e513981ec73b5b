import Mathlib.Data.List.Sort
import Mathlib.Data.String.Basic
import PreviewSync.Catalog.Difference
import PreviewSync.Proofs.Bytes.Order

/-!
# The difference of two sets of keys

The actions between a catalog and a set of synchronized keys are determined by membership alone: a
key is added iff it is in the catalog only, and removed iff it is synchronized only. Since they come
out in strictly increasing order of keys, no two lists of actions have the same members.

## Main Definitions

* `KeySet.ext` — a set of keys is determined by its members
* `mem_difference`, `increasing_difference` — what the difference holds, and in which order
* `IsSymmetricDifference`, `isSymmetricDifference_iff` — the symmetric difference by the bytes of
  the keys, and that it is the only one
* `difference_eq_of_sublist` — the difference after some of the actions have been carried out
-/

namespace PreviewSync

/-- A set of keys is determined by its members. So two sets need not be compared as lists. -/
theorem KeySet.ext {s t : KeySet} (same : ∀ key, key ∈ s ↔ key ∈ t) : s = t := by
  have lists : s.toList = t.toList := s.sorted.eq_of_mem_iff t.sorted same
  cases s
  cases t
  cases lists
  rfl

/-- Actions in strictly increasing order of their keys. It is a property of lists, so that parts of
a comparison have it as well. -/
def Increasing (actions : List (String × Action)) : Prop :=
  actions.Pairwise fun a b => a.1 < b.1

namespace Increasing

variable {actions others : List (String × Action)}

theorem sublist (h : Increasing actions) (part : others.Sublist actions) : Increasing others :=
  List.Pairwise.sublist part h

/-- No key occurs twice. -/
theorem nodup_keys (h : Increasing actions) : (actions.map (·.1)).Nodup := by
  rw [List.nodup_iff_pairwise_ne, List.pairwise_map]
  exact h.imp fun before => ne_of_lt before

/-- The action of a key is determined. -/
theorem action_unique (h : Increasing actions) {key : String} {a b : Action}
    (ha : (key, a) ∈ actions) (hb : (key, b) ∈ actions) : a = b := by
  have := List.inj_on_of_nodup_map h.nodup_keys ha hb rfl
  exact congrArg Prod.snd this

/-- Increasing lists with the same members are equal. So a comparison is determined by what it has
to name. -/
theorem eq_of_mem_iff (h : Increasing actions) (h' : Increasing others)
    (same : ∀ item, item ∈ actions ↔ item ∈ others) : actions = others := by
  have irrefl : Std.Irrefl fun a b : String × Action => a.1 < b.1 := ⟨fun a => lt_irrefl a.1⟩
  have antisymm : Std.Antisymm fun a b : String × Action => a.1 < b.1 :=
    ⟨fun _ _ before after => absurd after before.asymm⟩
  exact List.Pairwise.eq_of_mem_iff h h' same

end Increasing

/-- A key that is smaller than the first of an increasing list is not in it. This is what allows a
merge to settle a key at its first sight. -/
theorem not_mem_of_lt_head {key first : String} {rest : List String}
    (sorted : (first :: rest).Pairwise (· < ·)) (before : key < first) : key ∉ first :: rest := by
  intro member
  rcases List.mem_cons.1 member with rfl | member
  · exact lt_irrefl _ before
  · exact lt_asymm before (List.rel_of_pairwise_cons sorted member)

/-- A key is added iff it is wanted only, and removed iff it is known only. Both lists have to be in
order, since each of them is gone through once. -/
theorem mem_mergeKeys {wanted known : List String} (hw : wanted.Pairwise (· < ·))
    (hk : known.Pairwise (· < ·)) {key : String} {action : Action} :
    (key, action) ∈ mergeKeys wanted known ↔
      action = .add ∧ key ∈ wanted ∧ key ∉ known ∨
        action = .remove ∧ key ∈ known ∧ key ∉ wanted := by
  -- The induction follows the merge: one case for each of its branches.
  induction wanted, known using mergeKeys.induct with
  | case1 known =>
    rw [mergeKeys.eq_1, List.mem_map]
    grind
  | case2 wanted nonempty =>
    rw [mergeKeys.eq_2 _ nonempty, List.mem_map]
    grind
  | case3 w wanted k known before ih =>
    have absent := not_mem_of_lt_head hk before
    have fresh : w ∉ wanted := fun member => lt_irrefl w (List.rel_of_pairwise_cons hw member)
    rw [mergeKeys, if_pos before, List.mem_cons, ih hw.of_cons hk]
    grind
  | case4 w wanted k known after before ih =>
    have absent := not_mem_of_lt_head hw before
    have fresh : k ∉ known := fun member => lt_irrefl k (List.rel_of_pairwise_cons hk member)
    rw [mergeKeys, if_neg after, if_pos before, List.mem_cons, ih hw hk.of_cons]
    grind
  | case5 w wanted k known after before ih =>
    have equal : w = k := le_antisymm (not_lt.1 before) (not_lt.1 after)
    subst equal
    have freshWanted : w ∉ wanted := fun member =>
      lt_irrefl w (List.rel_of_pairwise_cons hw member)
    have freshKnown : w ∉ known := fun member =>
      lt_irrefl w (List.rel_of_pairwise_cons hk member)
    rw [mergeKeys, if_neg after, if_neg before, ih hw.of_cons hk.of_cons]
    grind

/-- Every key of a merge is wanted or known. -/
theorem mem_or_mem_of_mem_mergeKeys {wanted known : List String} (hw : wanted.Pairwise (· < ·))
    (hk : known.Pairwise (· < ·)) {item : String × Action} (h : item ∈ mergeKeys wanted known) :
    item.1 ∈ wanted ∨ item.1 ∈ known := by
  rcases (mem_mergeKeys hw hk).1 h with ⟨-, member, -⟩ | ⟨-, member, -⟩
  · exact .inl member
  · exact .inr member

/-- A merge comes out in increasing order. -/
theorem increasing_mergeKeys {wanted known : List String} (hw : wanted.Pairwise (· < ·))
    (hk : known.Pairwise (· < ·)) : Increasing (mergeKeys wanted known) := by
  induction wanted, known using mergeKeys.induct with
  | case1 known =>
    rw [mergeKeys.eq_1, Increasing, List.pairwise_map]
    exact hk
  | case2 wanted nonempty =>
    rw [mergeKeys.eq_2 _ nonempty, Increasing, List.pairwise_map]
    exact hw
  | case3 w wanted k known before ih =>
    rw [mergeKeys, if_pos before]
    refine List.Pairwise.cons (fun item member => ?_) (ih hw.of_cons hk)
    rcases mem_or_mem_of_mem_mergeKeys hw.of_cons hk member with later | later
    · exact List.rel_of_pairwise_cons hw later
    · rcases List.mem_cons.1 later with equal | later
      · rw [equal]
        exact before
      · exact lt_trans before (List.rel_of_pairwise_cons hk later)
  | case4 w wanted k known after before ih =>
    rw [mergeKeys, if_neg after, if_pos before]
    refine List.Pairwise.cons (fun item member => ?_) (ih hw hk.of_cons)
    rcases mem_or_mem_of_mem_mergeKeys hw hk.of_cons member with later | later
    · rcases List.mem_cons.1 later with equal | later
      · rw [equal]
        exact before
      · exact lt_trans before (List.rel_of_pairwise_cons hw later)
    · exact List.rel_of_pairwise_cons hk later
  | case5 w wanted k known after before ih =>
    rw [mergeKeys, if_neg after, if_neg before]
    exact ih hw.of_cons hk.of_cons

section Difference

variable {catalog : List String} {synchronized : KeySet}

/-- A key is added iff it is in the catalog only, and removed iff it is synchronized only. -/
theorem mem_difference {key : String} {action : Action} :
    (key, action) ∈ difference catalog synchronized ↔
      action = .add ∧ key ∈ catalog ∧ key ∉ synchronized ∨
        action = .remove ∧ key ∈ synchronized ∧ key ∉ catalog := by
  rw [difference, mem_mergeKeys (KeySet.sorted _) (KeySet.sorted _)]
  simp only [KeySet.mem_toList, KeySet.mem_ofList]

/-- The actions come out in strictly increasing order of keys. -/
theorem increasing_difference : Increasing (difference catalog synchronized) :=
  increasing_mergeKeys (KeySet.sorted _) (KeySet.sorted _)

/-- There is nothing to do iff the catalog lists exactly the synchronized keys. In what order the
catalog lists them, and how often, does not count. -/
theorem difference_eq_nil_iff :
    difference catalog synchronized = [] ↔ ∀ key, key ∈ catalog ↔ key ∈ synchronized := by
  constructor
  · intro nothing key
    have noAdd : (key, Action.add) ∉ difference catalog synchronized := by
      rw [nothing]
      exact List.not_mem_nil
    have noRemove : (key, Action.remove) ∉ difference catalog synchronized := by
      rw [nothing]
      exact List.not_mem_nil
    rw [mem_difference] at noAdd noRemove
    simp at noAdd noRemove
    tauto
  · intro same
    rw [List.eq_nil_iff_forall_not_mem]
    intro item member
    have := mem_difference.1 member
    grind

/-- Two catalogs ask for the same actions iff they list the same keys. So the actions tell all about
the keys of a catalog. -/
theorem difference_eq_difference_iff {others : List String} :
    difference others synchronized = difference catalog synchronized ↔
      ∀ key, key ∈ others ↔ key ∈ catalog := by
  constructor
  · intro same key
    have added : (key, .add) ∈ difference others synchronized ↔ _ := mem_difference
    have removed : (key, .remove) ∈ difference others synchronized ↔ _ := mem_difference
    rw [same, mem_difference] at added removed
    simp at added removed
    tauto
  · intro same
    refine increasing_difference.eq_of_mem_iff increasing_difference ?_
    rintro ⟨key, action⟩
    rw [mem_difference, mem_difference, same]

/-- The actions that are left when some of the actions of a difference have been carried out are the
difference of the catalog and the changed set. -/
theorem difference_eq_of_sublist {changed : KeySet} {left : List (String × Action)}
    (isDone : String × Action → Prop)
    (part : left.Sublist (difference catalog synchronized))
    (rest : ∀ item ∈ difference catalog synchronized, item ∈ left ↔ ¬ isDone item)
    (known : ∀ item, isDone item → item ∈ difference catalog synchronized)
    (effect : ∀ key, key ∈ changed ↔
      isDone (key, .add) ∨ key ∈ synchronized ∧ ¬ isDone (key, .remove)) :
    difference catalog changed = left := by
  refine increasing_difference.eq_of_mem_iff (increasing_difference.sublist part) ?_
  rintro ⟨key, action⟩
  have inside : (key, action) ∈ left → (key, action) ∈ difference catalog synchronized :=
    fun member => part.subset member
  have left_iff : (key, action) ∈ left ↔
      (key, action) ∈ difference catalog synchronized ∧ ¬ isDone (key, action) :=
    ⟨fun member => ⟨inside member, (rest _ (inside member)).1 member⟩,
      fun ⟨member, undone⟩ => (rest _ member).2 undone⟩
  have added := fun done => mem_difference.1 (known (key, .add) done)
  have removed := fun done => mem_difference.1 (known (key, .remove) done)
  rw [left_iff, mem_difference, mem_difference, effect]
  cases action <;> simp at added removed ⊢ <;> tauto

end Difference

/-- Actions that make up the symmetric difference of a catalog and a set of synchronized keys, in
strictly increasing order of the bytes of their keys. The order is by bytes because that is what
others see of keys; that it is the order of texts as well is a fact about UTF-8. -/
structure IsSymmetricDifference (catalog : List String) (synchronized : KeySet)
    (actions : List (String × Action)) : Prop where
  ordered : actions.Pairwise fun a b => Bytes.ofText a.1 < Bytes.ofText b.1
  added (key : String) : (key, .add) ∈ actions ↔ key ∈ catalog ∧ key ∉ synchronized
  removed (key : String) : (key, .remove) ∈ actions ↔ key ∈ synchronized ∧ key ∉ catalog
  nothingElse (key : String) : (key, .update) ∉ actions

/-- The order by bytes is the order in which the actions come out. -/
theorem increasing_iff_bytes {actions : List (String × Action)} :
    Increasing actions ↔ actions.Pairwise fun a b => Bytes.ofText a.1 < Bytes.ofText b.1 := by
  simp only [Increasing, Bytes.ofText_lt_ofText_iff]

/-- The actions between a catalog, in any order and with any repetitions, and a set of synchronized
keys are their symmetric difference, and no other list is. There are none iff the two hold the same
keys. Two catalogs ask for the same actions iff they list the same keys, so neither order nor
repetitions count. -/
theorem isSymmetricDifference_iff (catalog : List String) (synchronized : KeySet) :
    (∀ actions, IsSymmetricDifference catalog synchronized actions ↔
        difference catalog synchronized = actions) ∧
      (difference catalog synchronized = [] ↔ ∀ key, key ∈ catalog ↔ key ∈ synchronized) ∧
      ∀ others, difference others synchronized = difference catalog synchronized ↔
        ∀ key, key ∈ others ↔ key ∈ catalog := by
  refine ⟨fun actions => ⟨fun symmetric => ?_, ?_⟩, difference_eq_nil_iff,
    fun others => difference_eq_difference_iff⟩
  · refine increasing_difference.eq_of_mem_iff (increasing_iff_bytes.2 symmetric.ordered) ?_
    rintro ⟨key, action⟩
    rw [mem_difference]
    cases action with
    | add => simp [symmetric.added]
    | remove => simp [symmetric.removed]
    | update => simp [symmetric.nothingElse]
  · rintro rfl
    refine ⟨increasing_iff_bytes.1 increasing_difference, fun key => ?_, fun key => ?_,
      fun key => ?_⟩
    all_goals simp [mem_difference]

end PreviewSync
