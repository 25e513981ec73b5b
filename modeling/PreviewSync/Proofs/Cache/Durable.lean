import Mathlib
import PreviewSync.Proofs.Cache.Basic
import PreviewSync.Proofs.Cache.Document
import PreviewSync.Proofs.Disk.Place

/-!
# A cache that outlives its program

A cache that keeps its keys in a file answers like one in memory, and a new cache for the same file
starts with exactly its keys: after every task, whether it succeeded or failed at any step, and
whatever others do to the tree as long as they leave the file alone. The invariant is that the file
is a document of the keys in memory; a task that fails undoes its change on both sides.

## Main Definitions

* `Cache.Stored` — the file holds the keys in memory
* `Cache.Task`, `Cache.perform` — what a program does with its cache
* `Cache.Life` — a cache in a file that nobody else writes
* `Cache.replay` — tasks of a cache in memory
* `Cache.Life.mirrors` — a cache in a file agrees with one in memory, and with what is reloaded
-/

namespace PreviewSync.Cache

/-- The file of a cache is a document of its keys. It is said of reading the file by its path, so it
does not matter by which way the path leads there. -/
def Stored (cache : Cache) (disk : Disk) : Prop :=
  ∃ file content, cache.file = some file ∧
    disk.read .absent (Path.ofText file) = .ok content ∧
    CacheDocument.read? content = some cache.keys

variable {cache cache' : Cache} {disk disk' : Disk} {trouble : Disk.Trouble} {keys : KeySet}
  {file : String}

/-- A cache that was written is stored. -/
theorem stored_of_persist (h : cache.persist disk trouble = .ok disk')
    (inFile : cache.file = some file) : cache.Stored disk' := by
  unfold persist at h
  rw [inFile] at h
  dsimp only at h
  split at h
  · rename_i replaced
    rw [← Except.ok.inj h]
    exact ⟨file, _, inFile, Disk.read_of_replace replaced, CacheDocument.read?_write cache.keys⟩
  · cases h

/-- A cache that was loaded is stored: either the file was read, or one was made. So there is always
a file after a load, even of a cache without keys. -/
theorem stored_of_load (h : cache.load disk trouble = (cache', disk', .ok ()))
    (inFile : cache.file = some file) : cache'.Stored disk' ∧ cache'.file = some file := by
  obtain ⟨keys, _⟩ := cache
  cases inFile
  unfold load at h
  dsimp only at h
  split at h
  · rename_i content found
    split at h
    · -- What was read is still there.
      rename_i keys read
      cases h
      exact ⟨⟨file, content, rfl, Disk.read_absent_of_read found, read⟩, rfl⟩
    · cases h
  · -- There was no file, and a new one is written.
    unfold make at h
    split at h
    · cases h
    · dsimp only at h
      split at h
      · rename_i written
        cases h
        exact ⟨stored_of_persist written rfl, rfl⟩
      · cases h
  · cases h

/-- Loading a stored cache once more brings nothing new, as long as the file is not denied. If it is
denied, the file seems to be missing, and loading starts over. -/
theorem load_of_stored (stored : cache.Stored disk) (there : trouble .read ≠ some .notFound) :
    cache.load disk trouble =
      (cache, disk, match trouble .read with
        | some fault => .error (.disk fault)
        | none => .ok ()) := by
  obtain ⟨file, content, inFile, found, read⟩ := stored
  obtain ⟨keys, _⟩ := cache
  cases inFile
  unfold load
  dsimp only
  rw [Disk.read_eq]
  cases troubled : trouble .read with
  | none =>
    dsimp only
    rw [found]
    dsimp only
    rw [read]
  | some fault =>
    cases fault with
    | notFound => exact absurd troubled there
    | _ => rfl

/-- A new cache for the file of a stored one starts with its keys. This is what a restart of the
program comes to. -/
theorem load_atPath_of_stored (stored : cache.Stored disk) (inFile : cache.file = some file) :
    (atPath file).load disk .absent = (cache, disk, .ok ()) := by
  obtain ⟨other, content, sameFile, found, read⟩ := stored
  obtain ⟨keys, _⟩ := cache
  cases inFile
  cases sameFile
  unfold load atPath
  dsimp only
  rw [found]
  dsimp only
  rw [read]

/-! ### Tasks -/

/-- What a program does with its cache. Looking up keys is none of it: it changes nothing and cannot
fail. -/
inductive Task where
  | load
  | insert (key : String)
  | remove (key : String)
deriving Repr, DecidableEq

/-- Does a task. A change answers whether there was anything to change. A task to load answers
nothing but whether it has succeeded. -/
def perform (cache : Cache) (task : Task) (disk : Disk) (trouble : Disk.Trouble) :
    Cache × Disk × Except Fault (Option Bool) :=
  match task with
  | .load =>
    let (cache, disk, result) := cache.load disk trouble
    (cache, disk, result.map fun _ => none)
  | .insert key =>
    let (cache, disk, result) := cache.insert key disk trouble
    (cache, disk, result.map some)
  | .remove key =>
    let (cache, disk, result) := cache.remove key disk trouble
    (cache, disk, result.map some)

/-- What a task that succeeds does to the keys, and its answer. Files have no part in it, so it is
what a cache in memory does. -/
def Task.effect : Task → KeySet → KeySet × Option Bool
  | load, keys => (keys, none)
  | insert key, keys =>
    if key ∈ keys then (keys, some false) else (keys.insert key, some true)
  | remove key, keys => if key ∈ keys then (keys.erase key, some true) else (keys, some false)

/-- What comes of a task on a stored cache: it is stored in the same file, and the task either took
effect or changed nothing. There is no third way, such as an effect in memory that the file does not
have. -/
structure Kept (task : Task) (cache : Cache) (file : String)
    (ended : Cache × Disk × Except Fault (Option Bool)) : Prop where
  stored : ended.1.Stored ended.2.1
  inFile : ended.1.file = some file
  taken : ∀ answer, ended.2.2 = .ok answer → (ended.1.keys, answer) = task.effect cache.keys
  undone : ∀ fault, ended.2.2 = .error fault → ended.1 = cache

section Kept

variable {task : Task} (stored : cache.Stored disk) (inFile : cache.file = some file)
include stored inFile

/-- A task without anything to change. It is answered without a look at the file. -/
theorem kept_of_effect {answer : Option Bool} (h : task.effect cache.keys = (cache.keys, answer)) :
    Kept task cache file (cache, disk, .ok answer) where
  stored := stored
  inFile := inFile
  taken _ same := by
    rw [h, Except.ok.inj same]
  undone := nofun

/-- A task that fails before anything is changed, such as a load that cannot read its file. -/
theorem kept_of_error (fault : Fault) : Kept task cache file (cache, disk, .error fault) where
  stored := stored
  inFile := inFile
  taken := nofun
  undone _ _ := rfl

/-- A task that changes the keys; they are the old ones again if the file cannot be replaced. The
keys are changed in memory first, and the change is undone there when it cannot be written. -/
theorem kept_of_change (h : task.effect cache.keys = (keys, some true)) :
    Kept task cache file (match cache.change keys disk trouble with
      | (cache, disk, result) => (cache, disk, result.map some)) := by
  unfold change
  dsimp only
  cases written : persist { cache with keys } disk trouble with
  | ok disk' =>
    exact {
      stored := stored_of_persist written inFile
      inFile := inFile
      taken := fun _ same => by rw [h, ← Except.ok.inj same]
      undone := nofun }
  | error fault => exact kept_of_error stored inFile fault

/-- A task keeps a stored cache stored, by cases on the task. -/
theorem kept_of_perform (task : Task) (there : trouble .read ≠ some .notFound) :
    Kept task cache file (cache.perform task disk trouble) := by
  cases task with
  | load =>
    rw [perform, load_of_stored stored there]
    cases trouble .read with
    | none => exact kept_of_effect stored inFile rfl
    | some fault => exact kept_of_error stored inFile (.disk fault)
  | insert key =>
    by_cases member : key ∈ cache.keys
    · rw [perform, insert, if_pos (contains_iff.2 member)]
      exact kept_of_effect stored inFile (by rw [Task.effect, if_pos member])
    · rw [perform, insert, if_neg (mt contains_iff.1 member)]
      exact kept_of_change stored inFile (by rw [Task.effect, if_neg member])
  | remove key =>
    by_cases member : key ∈ cache.keys
    · rw [perform, remove, if_pos (contains_iff.2 member)]
      exact kept_of_change stored inFile (by rw [Task.effect, if_pos member])
    · rw [perform, remove, if_neg (mt contains_iff.1 member)]
      exact kept_of_effect stored inFile (by rw [Task.effect, if_neg member])

end Kept

/-- A task in memory always succeeds. That makes it fit to compare with. -/
theorem perform_inMemory (keys : KeySet) (task : Task) (disk : Disk) (trouble : Disk.Trouble) :
    perform ⟨keys, none⟩ task disk trouble =
      (⟨(task.effect keys).1, none⟩, disk, .ok (task.effect keys).2) := by
  cases task with
  | load => rfl
  | insert key =>
    unfold perform insert Task.effect contains KeySet.contains
    by_cases member : key ∈ keys
    · simp [member, Except.map]
    · simp [member, change, persist, Except.map]
  | remove key =>
    unfold perform remove Task.effect contains KeySet.contains
    by_cases member : key ∈ keys
    · simp [member, change, persist, Except.map]
    · simp [member, Except.map]

/-! ### Lives -/

/-- Tasks with their results, in order. Failed tasks are among them, since a comparison has to leave
them out. -/
abbrev Journal := List (Task × Except Fault (Option Bool))

/-- The tasks that succeeded. -/
def Journal.succeeded (journal : Journal) : Journal :=
  journal.filter fun entry => entry.2.isOk

@[simp] theorem Journal.succeeded_ok (journal : Journal) (task : Task) (answer : Option Bool) :
    succeeded (journal ++ [(task, .ok answer)]) = journal.succeeded ++ [(task, .ok answer)] := by
  rw [succeeded, List.filter_append]
  rfl

@[simp] theorem Journal.succeeded_error (journal : Journal) (task : Task) (fault : Fault) :
    succeeded (journal ++ [(task, .error fault)]) = journal.succeeded := by
  rw [succeeded, List.filter_append]
  exact List.append_nil _

/-- Tasks of a cache in memory, one after the other. It gives the results as well, which are
compared with those of the cache in the file. -/
def replay (memory : Cache) (tasks : List Task) : Cache × Journal :=
  tasks.foldl
    (fun (memory, journal) task =>
      let (memory, _, result) := memory.perform task {} .absent
      (memory, journal ++ [(task, result)]))
    (memory, [])

/-- The last task of a cache in memory takes effect. -/
theorem replay_concat {memory : Cache} {tasks : List Task} {journal : Journal}
    (h : memory.replay tasks = (⟨keys, none⟩, journal)) (task : Task) :
    memory.replay (tasks ++ [task]) =
      (⟨(task.effect keys).1, none⟩, journal ++ [(task, .ok (task.effect keys).2)]) := by
  unfold replay at h ⊢
  rw [List.foldl_append, h, List.foldl_cons, List.foldl_nil]
  dsimp only
  rw [perform_inMemory]

/-- The life of a cache in a file that nobody else writes: the cache is new and loaded, and then
does tasks, while others change the tree elsewhere. Trouble never makes the file look missing, which
would be the same as if somebody had removed it. The keys at the beginning and the tasks since then
are told. -/
inductive Life (file : String) : KeySet → Journal → Cache → Disk → Prop where
  | begin {disk disk' : Disk} {trouble : Disk.Trouble} {cache : Cache} :
      (atPath file).load disk trouble = (cache, disk', .ok ()) →
      Life file cache.keys [] cache disk'
  | perform {initial : KeySet} {journal : Journal} {cache cache' : Cache} {disk disk' : Disk}
      {trouble : Disk.Trouble} {task : Task} {result : Except Fault (Option Bool)} :
      Life file initial journal cache disk → trouble .read ≠ some .notFound →
      cache.perform task disk trouble = (cache', disk', result) →
      Life file initial (journal ++ [(task, result)]) cache' disk'
  | elsewhere {initial : KeySet} {journal : Journal} {cache : Cache} {disk disk' : Disk} :
      Life file initial journal cache disk →
      disk'.read .absent (Path.ofText file) = disk.read .absent (Path.ofText file) →
      Life file initial journal cache disk'

/-- The file is a document of the keys throughout a life. So a life may end at any moment without a
loss. -/
theorem Life.stored {initial : KeySet} {journal : Journal}
    (life : Life file initial journal cache disk) :
    cache.Stored disk ∧ cache.file = some file := by
  induction life with
  | begin loaded => exact stored_of_load loaded rfl
  | @perform _ _ _ _ _ _ _ task _ _ there performed ih =>
    have kept := kept_of_perform ih.1 ih.2 task there
    rw [performed] at kept
    exact ⟨kept.stored, kept.inFile⟩
  | elsewhere _ same ih =>
    obtain ⟨⟨other, content, inFile, found, read⟩, inFile'⟩ := ih
    cases inFile.symm.trans inFile'
    exact ⟨⟨file, content, inFile, same.trans found, read⟩, inFile⟩

/-- The tasks that succeeded come to the same in memory, by induction on the life. -/
theorem Life.replay_eq {initial : KeySet} {journal : Journal}
    (life : Life file initial journal cache disk) :
    (inMemory initial.toList).replay (journal.succeeded.map (·.1)) =
      (⟨cache.keys, none⟩, journal.succeeded) := by
  induction life with
  | begin _ => rw [inMemory, CacheDocument.ofList_toList]; rfl
  | @perform initial journal cache cache' disk disk' trouble task result life there performed ih =>
    have kept := kept_of_perform life.stored.1 life.stored.2 task there
    rw [performed] at kept
    -- The journal in memory grows only by tasks that succeed, and only these change the keys.
    cases result with
    | ok answer =>
      have taken := kept.taken answer rfl
      rw [Journal.succeeded_ok, List.map_append, List.map_singleton, replay_concat ih task,
        ← taken]
    | error fault =>
      have undone : cache' = cache := kept.undone fault rfl
      rw [Journal.succeeded_error, undone]
      exact ih
  | elsewhere _ _ ih => exact ih

/-- A cache in a file that nobody else writes answers every task that succeeds like a cache in
memory, which does those tasks only, and has the same keys. A new cache for the file starts with
these keys. -/
theorem Life.mirrors {initial : KeySet} {journal : Journal}
    (life : Life file initial journal cache disk) :
    let replayed := (inMemory initial.toList).replay (journal.succeeded.map (·.1))
    replayed.2 = journal.succeeded ∧ cache.keys = replayed.1.keys ∧
      cache.count = replayed.1.count ∧ (∀ key, cache.contains key = replayed.1.contains key) ∧
      (atPath file).load disk .absent = (cache, disk, .ok ()) := by
  intro replayed
  have same : replayed = (⟨cache.keys, none⟩, journal.succeeded) := life.replay_eq
  rw [same]
  exact ⟨rfl, rfl, rfl, fun _ => rfl, load_atPath_of_stored life.stored.1 life.stored.2⟩

/-- A key is recorded in a new file, and then it cannot be forgotten because the file is not
replaced. -/
theorem Life.mirrors_of_failed_rename :
    let keys := KeySet.empty.insert "𝄞\n"
    let disk : Disk := ⟨[(["work", "c"], .file (CacheDocument.write keys))]⟩
    let journal : Journal :=
      [(.insert "𝄞\n", .ok (some true)), (.remove "𝄞\n", .error (.disk .other))]
    let replayed := (inMemory KeySet.empty.toList).replay (journal.succeeded.map (·.1))
    Life "c" .empty journal ⟨keys, some "c"⟩ disk ∧
      replayed.2 = journal.succeeded ∧ keys = replayed.1.keys ∧
      Cache.count ⟨keys, some "c"⟩ = replayed.1.count ∧
      (∀ key, Cache.contains ⟨keys, some "c"⟩ key = replayed.1.contains key) ∧
      (atPath "c").load disk .absent = (⟨keys, some "c"⟩, disk, .ok ()) := by
  have loaded : (atPath "c").load {} .absent =
      (⟨.empty, some "c"⟩, ⟨[(["work", "c"], .file (CacheDocument.write .empty))]⟩, .ok ()) := by
    cbv
  have inserted :
      Cache.perform ⟨.empty, some "c"⟩ (.insert "𝄞\n")
          ⟨[(["work", "c"], .file (CacheDocument.write .empty))]⟩ .absent =
        (⟨KeySet.empty.insert "𝄞\n", some "c"⟩,
          ⟨[(["work", "c"], .file (CacheDocument.write (KeySet.empty.insert "𝄞\n")))]⟩,
          .ok (some true)) := by
    cbv
  have kept :
      Cache.perform ⟨KeySet.empty.insert "𝄞\n", some "c"⟩ (.remove "𝄞\n")
          ⟨[(["work", "c"], .file (CacheDocument.write (KeySet.empty.insert "𝄞\n")))]⟩
          (fun step => if step = .rename then some .other else none) =
        (⟨KeySet.empty.insert "𝄞\n", some "c"⟩,
          ⟨[(["work", "c"], .file (CacheDocument.write (KeySet.empty.insert "𝄞\n")))]⟩,
          .error (.disk .other)) := by
    cbv
  have life := ((Life.begin loaded).perform (by decide) inserted).perform (by decide) kept
  exact ⟨life, life.mirrors⟩

end PreviewSync.Cache
