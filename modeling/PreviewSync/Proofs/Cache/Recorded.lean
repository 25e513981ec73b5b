import PreviewSync.Proofs.Cache.Basic
import PreviewSync.Proofs.Cache.Document
import PreviewSync.Proofs.Disk.Place

/-!
# Keys that are recorded anywhere

A key may be recorded in memory or in the file of a cache, and a file that was written earlier may
be read again later. So what a cache can ever come back to is told by both together. No operation
brings in a key but the one that records it.

## Main Definitions

* `Cache.Recorded` — a key is recorded in memory or in the file
* `Cache.recorded_of_load` — loading brings in no key
* `Cache.recorded_of_insert`, `Cache.recorded_of_remove` — the effect of a change
-/

namespace PreviewSync.Cache

/-- A key is recorded in memory, or in the document at the place of the file. Either may become what
a session goes by: the one if it goes on, the other if it loads the file. -/
def Recorded (cache : Cache) (disk : Disk) (key : String) : Prop :=
  key ∈ cache.keys ∨ ∃ file content keys, cache.file = some file ∧
    disk.node? (Path.ofText file).place = some (.file content) ∧
    CacheDocument.read? content = some keys ∧ key ∈ keys

variable {cache cache' : Cache} {disk disk' : Disk} {trouble : Disk.Trouble} {key other : String}

/-- A cache in memory has its keys there only. It has no file in which there could be others. -/
theorem recorded_inMemory {keys : List String} :
    (inMemory keys).Recorded disk other ↔ other ∈ keys := by
  refine ⟨?_, fun member => .inl (KeySet.mem_ofList.2 member)⟩
  rintro (member | ⟨file, content, keys, here, -⟩)
  · exact KeySet.mem_ofList.1 member
  · cases here

/-- In an empty cache in memory nothing is recorded. -/
theorem not_recorded_inMemory_nil (key : String) : ¬ (inMemory []).Recorded disk key :=
  fun recorded => List.not_mem_nil (recorded_inMemory.1 recorded)

/-- After the file has been replaced, the keys in memory are all there are. Whatever the file held
before is gone. -/
theorem mem_of_recorded_of_persist (h : cache.persist disk trouble = .ok disk')
    (recorded : cache.Recorded disk' other) : other ∈ cache.keys := by
  rcases recorded with member | ⟨file, content, keys, here, node, read, member⟩
  · exact member
  · unfold persist at h
    rw [here] at h
    dsimp only at h
    split at h
    · rename_i replaced
      rw [← Except.ok.inj h, Disk.node?_of_replace replaced] at node
      split at node
      · cases node
      · rw [if_pos rfl] at node
        cases node
        rw [CacheDocument.read?_write] at read
        cases read
        exact member
    · cases h

/-- What is recorded depends on the files of a tree only. Directories may come in between. -/
theorem recorded_of_sameFiles (same : Disk.SameFiles disk disk')
    (recorded : cache.Recorded disk' other) : cache.Recorded disk other := by
  rcases recorded with member | ⟨file, content, keys, here, node, read, member⟩
  · exact .inl member
  · exact .inr ⟨file, content, keys, here, (same _ _).1 node, read, member⟩

/-- A new file holds no key. -/
theorem recorded_of_make {file : String} {result : Except Fault Unit}
    (h : cache.make file disk trouble = (cache', disk', result))
    (recorded : cache'.Recorded disk' other) : cache.Recorded disk other := by
  unfold make at h
  split at h
  · rename_i made
    cases h
    exact recorded_of_sameFiles (Disk.sameFiles_of_createDirectories made) recorded
  · rename_i made
    dsimp only at h
    split at h
    · rename_i persisted
      cases h
      exact absurd (mem_of_recorded_of_persist persisted recorded) KeySet.not_mem_empty
    · cases h
      -- The keys in memory are gone, but an old file may still be there.
      rcases recorded with member | onDisk
      · exact absurd member KeySet.not_mem_empty
      · exact recorded_of_sameFiles (Disk.sameFiles_of_createDirectories made) (.inr onDisk)

/-- Loading brings in no key. -/
theorem recorded_of_load {result : Except Fault Unit}
    (h : cache.load disk trouble = (cache', disk', result))
    (recorded : cache'.Recorded disk' other) : cache.Recorded disk other := by
  unfold load at h
  split at h
  · cases h
    exact recorded
  · rename_i file here
    split at h
    · rename_i content found
      split at h
      · rename_i keys read
        cases h
        have node := Disk.node?_of_read found
        rcases recorded with member | onDisk
        · exact .inr ⟨file, content, keys, here, node, read, member⟩
        · exact .inr onDisk
      · cases h
        exact recorded
    · exact recorded_of_make h recorded
    · cases h
      exact recorded

/-- A change that is kept leaves its keys only. -/
theorem mem_of_recorded_of_change {keys : KeySet} {isChanged : Bool}
    (h : cache.change keys disk trouble = (cache', disk', .ok isChanged))
    (recorded : cache'.Recorded disk' other) : other ∈ keys := by
  obtain ⟨rfl, persisted⟩ := change_ok h
  exact mem_of_recorded_of_persist persisted recorded

/-- Recording a key brings in no other. If it fails, it brings in none at all. -/
theorem recorded_of_insert {result : Except Fault Bool}
    (h : cache.insert key disk trouble = (cache', disk', result))
    (recorded : cache'.Recorded disk' other) : other = key ∨ cache.Recorded disk other := by
  cases result with
  | error fault =>
    obtain ⟨rfl, rfl⟩ := insert_error h
    exact .inr recorded
  | ok isChanged =>
    unfold insert at h
    split at h
    · cases h
      exact .inr recorded
    · have member := mem_of_recorded_of_change h recorded
      exact (KeySet.mem_insert.1 member).imp_right Or.inl

/-- Forgetting a key brings in none, and takes it away if it was among the keys in memory. -/
theorem recorded_of_remove {result : Except Fault Bool}
    (h : cache.remove key disk trouble = (cache', disk', result))
    (recorded : cache'.Recorded disk' other) :
    cache.Recorded disk other ∧
      (∀ isChanged, result = .ok isChanged → key ∈ cache.keys → other ≠ key) := by
  cases result with
  | error fault =>
    obtain ⟨rfl, rfl⟩ := remove_error h
    exact ⟨recorded, nofun⟩
  | ok isChanged =>
    unfold remove at h
    split at h
    · have member := mem_of_recorded_of_change h recorded
      have kept := KeySet.mem_erase.1 member
      exact ⟨.inl kept.1, fun _ _ _ => kept.2⟩
    · rename_i absent
      cases h
      exact ⟨recorded, fun _ _ present => absurd (contains_iff.2 present) absent⟩

end PreviewSync.Cache
