import PreviewSync.Proofs.Cache.Durable

/-!
# What a program leaves in its change cache

A program that ends leaves its change cache behind, and the next one begins with what is written
there. Loading a cache changes nothing about that, whether or not it succeeds. Once a cache has been
loaded, what is written are the keys in memory, after every change that is kept and every one that
is not.

## Main Definitions

* `Cache.written` — the keys that the next program begins with
* `Cache.renew` — the change cache of the next program
* `Cache.IsReachable` — a file that is there can be read
* `Cache.IsKept` — the keys in memory are written, with `Cache.IsKept.written_eq`
* `Cache.Loaded`, `Cache.loaded_of_load` — what loading leaves behind
-/

namespace PreviewSync.Cache

/-- The keys that are left when a program ends: those of the document in the file, or those in
memory when there is no file. A file that is no cache document holds none. -/
def written (cache : Cache) (disk : Disk) : KeySet :=
  match cache.file with
  | none => cache.keys
  | some file =>
    match disk.node? (Path.ofText file).place with
    | some (.file content) => (CacheDocument.read? content).getD .empty
    | _ => .empty

/-- The change cache of the next program: a file is not read yet. A cache without a file is handed
on as it is, as if it were kept by the caller. -/
def renew (cache : Cache) : Cache :=
  match cache.file with
  | none => cache
  | some file => atPath file

/-- A file at the place of the cache's file can be read: it is not behind a directory that is
missing on the way to it. A path with double dots may pass through such a directory and still name a
place where there is a file. -/
def IsReachable (cache : Cache) (disk : Disk) : Prop :=
  ∀ file content, cache.file = some file →
    disk.node? (Path.ofText file).place = some (.file content) →
    disk.read .absent (Path.ofText file) = .ok content

/-- The keys in memory are in the file, if there is one. A cache in memory is kept in any case. -/
def IsKept (cache : Cache) (disk : Disk) : Prop :=
  ∀ file, cache.file = some file → cache.Stored disk

variable {cache cache' : Cache} {disk disk' : Disk} {trouble : Disk.Trouble} {key file : String}
  {keys : KeySet}

@[simp]
theorem renew_file (cache : Cache) : cache.renew.file = cache.file := by
  unfold renew
  split
  · rfl
  · rename_i file here
    exact here.symm

@[simp]
theorem written_renew (cache : Cache) (disk : Disk) :
    cache.renew.written disk = cache.written disk := by
  unfold renew
  split
  · rfl
  · rename_i file here
    unfold written
    rw [here]
    rfl

theorem isReachable_renew (h : cache.IsReachable disk) : cache.renew.IsReachable disk := by
  intro file content here
  rw [renew_file] at here
  exact h file content here

/-- What is written depends on the file at the place only. So changes elsewhere in the tree are no
matter. -/
theorem written_of_file (here : cache.file = some file) :
    cache.written disk = match disk.node? (Path.ofText file).place with
      | some (.file content) => (CacheDocument.read? content).getD .empty
      | _ => .empty := by
  unfold written
  rw [here]

/-- Where there is no file, there is nothing to read and no key is written. A directory at the place
counts as no file. -/
theorem written_of_noFile (here : cache.file = some file)
    (nothing : ∀ content, disk.node? (Path.ofText file).place ≠ some (.file content)) :
    cache.IsReachable disk ∧ cache.written disk = .empty := by
  constructor
  · intro other content sameFile node
    cases here.symm.trans sameFile
    exact absurd node (nothing content)
  · rw [written_of_file here]
    split
    · rename_i content node
      exact absurd node (nothing content)
    · rfl

/-! ### Caches that are kept -/

theorem isKept_inMemory (here : cache.file = none) : cache.IsKept disk := by
  intro file inFile
  rw [here] at inFile
  cases inFile

theorem isKept_of_persist (h : cache.persist disk trouble = .ok disk') : cache.IsKept disk' :=
  fun _ inFile => stored_of_persist h inFile

namespace IsKept

/-- What is written of a cache that is kept are the keys in memory. -/
theorem written_eq (h : cache.IsKept disk) : cache.written disk = cache.keys := by
  unfold written
  split
  · rfl
  · rename_i file here
    obtain ⟨other, content, sameFile, found, read⟩ := h file here
    cases here.symm.trans sameFile
    rw [Disk.node?_of_read found]
    dsimp only
    rw [read]
    rfl

theorem isReachable (h : cache.IsKept disk) : cache.IsReachable disk := by
  intro file content here node
  obtain ⟨other, content', sameFile, found, -⟩ := h file here
  cases here.symm.trans sameFile
  cases node.symm.trans (Disk.node?_of_read found)
  exact found

/-- Loading a cache that is kept brings nothing new. It may fail, and then nothing is lost either.
-/
theorem load (h : cache.IsKept disk) (there : trouble .read ≠ some .notFound)
    {result : Except Fault Unit} (loaded : cache.load disk trouble = (cache', disk', result)) :
    cache' = cache ∧ disk' = disk := by
  cases here : cache.file with
  | none =>
    unfold Cache.load at loaded
    rw [here] at loaded
    cases loaded
    exact ⟨rfl, rfl⟩
  | some file =>
    rw [load_of_stored (h file here) there] at loaded
    cases loaded
    exact ⟨rfl, rfl⟩

/-- A change is written, or undone on both sides. So a cache that was kept is kept whatever comes of
the change. -/
theorem change (h : cache.IsKept disk) {result : Except Fault Bool}
    (changed : cache.change keys disk trouble = (cache', disk', result)) : cache'.IsKept disk' := by
  cases result with
  | ok isChanged =>
    obtain ⟨rfl, persisted⟩ := change_ok changed
    exact isKept_of_persist persisted
  | error fault =>
    obtain ⟨rfl, rfl⟩ := change_error changed
    exact h

theorem insert (h : cache.IsKept disk) {result : Except Fault Bool}
    (changed : cache.insert key disk trouble = (cache', disk', result)) : cache'.IsKept disk' := by
  unfold Cache.insert at changed
  split at changed
  · cases changed
    exact h
  · exact h.change changed

theorem remove (h : cache.IsKept disk) {result : Except Fault Bool}
    (changed : cache.remove key disk trouble = (cache', disk', result)) : cache'.IsKept disk' := by
  unfold Cache.remove at changed
  split at changed
  · exact h.change changed
  · cases changed
    exact h

end IsKept

/-! ### Loading -/

/-- What loading leaves behind: the same keys are written, and they are in memory if it succeeds. -/
structure Loaded (cache : Cache) (disk : Disk) (ended : Cache × Disk × Except Fault Unit) :
    Prop where
  file : ended.1.file = cache.file
  reachable : ended.1.IsReachable ended.2.1
  written : ended.1.written ended.2.1 = cache.written disk
  kept : ended.2.2 = .ok () → ended.1.IsKept ended.2.1

/-- A load that changes nothing and fails. What is written is as it was, and may be loaded later. -/
theorem loaded_of_error (reachable : cache.IsReachable disk) (fault : Fault) :
    Loaded cache disk (cache, disk, .error fault) where
  file := rfl
  reachable := reachable
  written := rfl
  kept := nofun

/-- When there is no file, no key is written, and so it is after a new file has been made. -/
theorem loaded_of_make (here : cache.file = some file)
    (nothing : ∀ content, disk.node? (Path.ofText file).place ≠ some (.file content)) :
    Loaded cache disk (cache.make file disk trouble) := by
  have before := (written_of_noFile here nothing).2
  -- Directories that were made on the way to the file do not count.
  have failed : ∀ (keys : KeySet) (disk' : Disk) (fault : Fault), Disk.SameFiles disk disk' →
      Loaded cache disk ({ cache with keys }, disk', .error fault) := by
    intro keys disk' fault same
    obtain ⟨reachable, after⟩ :
        IsReachable { cache with keys } disk' ∧ written { cache with keys } disk' = .empty :=
      written_of_noFile here fun content node => nothing content ((same _ _).1 node)
    exact ⟨rfl, reachable, after.trans before.symm, nofun⟩
  unfold make
  split
  · rename_i made
    exact failed cache.keys _ _ (Disk.sameFiles_of_createDirectories made)
  · rename_i made
    dsimp only
    split
    · rename_i persisted
      have kept := isKept_of_persist persisted
      exact ⟨rfl, kept.isReachable, kept.written_eq.trans before.symm, fun _ => kept⟩
    · exact failed .empty _ _ (Disk.sameFiles_of_createDirectories made)

/-- Loading leaves what is written, and a load that succeeds brings it into memory. What was in
memory before does not matter. -/
theorem loaded_of_load (reachable : cache.IsReachable disk)
    (there : trouble .read ≠ some .notFound) : Loaded cache disk (cache.load disk trouble) := by
  unfold load
  split
  · rename_i here
    exact ⟨rfl, reachable, rfl, fun _ => isKept_inMemory here⟩
  · rename_i file here
    split
    · rename_i content found
      split
      · rename_i keys read
        have kept : IsKept { cache with keys } disk := by
          intro other sameFile
          cases here.symm.trans sameFile
          exact ⟨file, content, here, Disk.read_absent_of_read found, read⟩
        have after : written { cache with keys } disk = cache.written disk := by
          unfold written
          dsimp only
          rw [here]
        exact ⟨rfl, kept.isReachable, after, fun _ => kept⟩
      · exact loaded_of_error reachable _
    · rename_i missing
      refine loaded_of_make here fun content node => ?_
      -- The file is not only denied, so it would have been read.
      rw [Disk.read_eq] at missing
      split at missing
      · rename_i fault troubled
        cases missing
        exact there troubled
      · rw [reachable file content here node] at missing
        cases missing
    · exact loaded_of_error reachable _

end PreviewSync.Cache
