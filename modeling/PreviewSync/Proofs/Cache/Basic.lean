import PreviewSync.Cache.Basic

/-!
# Changes of a cache

A change either is kept as a whole or leaves the cache and the disk as they were.

## Main Definitions

* `Cache.insert_ok`, `Cache.remove_ok` — the keys after a change that was kept
* `Cache.insert_error`, `Cache.remove_error` — a change that was not kept
-/

namespace PreviewSync.Cache

variable {cache cache' : Cache} {disk disk' : Disk} {trouble : Disk.Trouble} {key : String}
  {keys : KeySet} {fault : Fault} {isChanged : Bool}

/-- Whether a key is recorded is whether it is among the keys. -/
theorem contains_iff : cache.contains key = true ↔ key ∈ cache.keys := by
  rw [contains, KeySet.contains, decide_eq_true_iff]

/-- A change that is kept leads to the changed keys. The file has been replaced by then: a change is
kept on both sides or on none. -/
theorem change_ok (h : cache.change keys disk trouble = (cache', disk', .ok isChanged)) :
    cache' = { cache with keys } ∧ persist { cache with keys } disk trouble = .ok disk' := by
  unfold change at h
  dsimp only at h
  split at h
  · rename_i written
    cases h
    exact ⟨rfl, written⟩
  · cases h

/-- A change that is not kept leaves everything as it was. The tree is the same as well, for a file
is replaced as a whole or not at all. -/
theorem change_error (h : cache.change keys disk trouble = (cache', disk', .error fault)) :
    cache' = cache ∧ disk' = disk := by
  unfold change at h
  dsimp only at h
  split at h <;> cases h
  exact ⟨rfl, rfl⟩

/-- A recorded key is among the keys, with those that were there. -/
theorem insert_ok (h : cache.insert key disk trouble = (cache', disk', .ok isChanged))
    {other : String} : other ∈ cache'.keys ↔ other = key ∨ other ∈ cache.keys := by
  unfold insert at h
  split at h
  · rename_i present
    cases h
    have member := contains_iff.1 present
    exact ⟨.inr, fun found => found.elim (fun same => same ▸ member) id⟩
  · rw [(change_ok h).1, KeySet.mem_insert]

/-- A key that could not be recorded leaves everything as it was. So it can simply be tried again.
-/
theorem insert_error (h : cache.insert key disk trouble = (cache', disk', .error fault)) :
    cache' = cache ∧ disk' = disk := by
  unfold insert at h
  split at h
  · cases h
  · exact change_error h

/-- A forgotten key is gone, and the others are still there. -/
theorem remove_ok (h : cache.remove key disk trouble = (cache', disk', .ok isChanged))
    {other : String} : other ∈ cache'.keys ↔ other ∈ cache.keys ∧ other ≠ key := by
  unfold remove at h
  split at h
  · rw [(change_ok h).1, KeySet.mem_erase]
  · rename_i absent
    cases h
    have noMember := mt contains_iff.2 absent
    refine ⟨fun found => ⟨found, fun same => ?_⟩, And.left⟩
    rw [same] at found
    exact noMember found

/-- A key that could not be forgotten leaves everything as it was. -/
theorem remove_error (h : cache.remove key disk trouble = (cache', disk', .error fault)) :
    cache' = cache ∧ disk' = disk := by
  unfold remove at h
  split at h
  · exact change_error h
  · cases h

end PreviewSync.Cache
