/-!
# Sets of keys

Finite sets of texts, listed in increasing order.  The order of texts by code points is that of
their UTF-8 forms by bytes.

## Main Definitions

* `KeySet` — a strictly increasing list of keys
* `KeySet.insert`, `KeySet.erase`, `KeySet.ofList` — changes
* `KeySet.mem_insert`, `KeySet.mem_erase`, `KeySet.mem_ofList` — their effect on membership
-/

namespace PreviewSync

/-- A strictly increasing list of keys. The order is part of the set, so equal sets are equal lists
and the difference of two can be found by walking along both. -/
structure KeySet where
  toList : List String
  sorted : toList.Pairwise (· < ·)

namespace KeySet

/-- The set without keys. -/
def empty : KeySet :=
  ⟨[], .nil⟩

instance : Inhabited KeySet :=
  ⟨empty⟩

instance : Membership String KeySet :=
  ⟨fun s k => k ∈ s.toList⟩

instance (k : String) (s : KeySet) : Decidable (k ∈ s) :=
  inferInstanceAs (Decidable (k ∈ s.toList))

instance : DecidableEq KeySet := fun s t =>
  if h : s.toList = t.toList then
    isTrue (by cases s; cases t; cases h; rfl)
  else isFalse (fun e => h (e ▸ rfl))

/-- Membership is membership in the list. -/
theorem mem_toList {k : String} {s : KeySet} : k ∈ s.toList ↔ k ∈ s :=
  Iff.rfl

/-- Whether a key is in the set. It can be decided, since texts can be compared. -/
def contains (s : KeySet) (key : String) : Bool :=
  decide (key ∈ s)

/-- The number of keys. -/
def size (s : KeySet) : Nat :=
  s.toList.length

/-- Puts a key at its place in an increasing list, unless it is there. -/
def insertInto (key : String) : List String → List String
  | [] => [key]
  | k :: rest =>
    if key < k then key :: k :: rest
    else if key = k then k :: rest
    else k :: insertInto key rest

/-- A list with a key put in holds that key and the others. -/
theorem mem_insertInto {a key : String} {keys : List String} :
    a ∈ insertInto key keys ↔ a = key ∨ a ∈ keys := by
  induction keys with
  | nil => simp [insertInto]
  | cons k rest ih => grind [insertInto]

/-- Putting a key at its place keeps the order. -/
theorem sorted_insertInto {key : String} {keys : List String} (h : keys.Pairwise (· < ·)) :
    (insertInto key keys).Pairwise (· < ·) := by
  induction keys with
  | nil => simp [insertInto]
  | cons k rest ih =>
    have hr := List.pairwise_cons.1 h
    unfold insertInto
    split
    · rename_i hlt
      refine List.pairwise_cons.2 ⟨fun a ha => ?_, h⟩
      rcases List.mem_cons.1 ha with rfl | ha
      · exact hlt
      · exact String.lt_trans hlt (hr.1 a ha)
    · split
      · exact h
      · rename_i hge hne
        refine List.pairwise_cons.2 ⟨fun a ha => ?_, ih hr.2⟩
        rcases mem_insertInto.1 ha with rfl | ha
        · grind
        · exact hr.1 a ha

/-- The set with a key added. A key that is there already is put in its own place. -/
def insert (s : KeySet) (key : String) : KeySet :=
  ⟨insertInto key s.toList, sorted_insertInto s.sorted⟩

/-- The set with a key taken away. -/
def erase (s : KeySet) (key : String) : KeySet :=
  ⟨s.toList.filter (· != key), s.sorted.filter _⟩

/-- The set of the keys of a list. -/
def ofList (keys : List String) : KeySet :=
  keys.foldl insert empty

/-- Adding a key adds that key. -/
@[simp] theorem mem_insert {a key : String} {s : KeySet} : a ∈ s.insert key ↔ a = key ∨ a ∈ s :=
  mem_insertInto

/-- Taking a key away leaves the others. -/
@[simp] theorem mem_erase {a key : String} {s : KeySet} : a ∈ s.erase key ↔ a ∈ s ∧ a ≠ key := by
  simp only [← mem_toList, erase, List.mem_filter, bne_iff_ne]

/-- Nothing is in the set without keys. -/
@[simp] theorem not_mem_empty {a : String} : ¬ a ∈ empty := by
  simp [← mem_toList, empty]

/-- Adding the keys of a list one by one adds them all. -/
theorem mem_foldl_insert {a : String} {keys : List String} {s : KeySet} :
    a ∈ keys.foldl insert s ↔ a ∈ keys ∨ a ∈ s := by
  induction keys generalizing s with
  | nil => simp
  | cons k rest ih => simp only [List.foldl_cons, ih, mem_insert, List.mem_cons]; grind

/-- The set of the keys of a list holds exactly these. -/
@[simp] theorem mem_ofList {a : String} {keys : List String} : a ∈ ofList keys ↔ a ∈ keys := by
  simp [ofList, mem_foldl_insert]

end KeySet

end PreviewSync
