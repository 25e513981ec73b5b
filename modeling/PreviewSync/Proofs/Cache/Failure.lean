import PreviewSync.Proofs.Cache.Durable

/-!
# Tasks of a cache that fail

A task that fails changes no file, and it leaves the keys in memory as they were, with one
exception. Recording and forgetting a key undo their change when the file cannot be replaced.
Loading does not: when there is no file and the directories on the way to it could be made, the keys
are dropped before the new file is written, and they stay dropped when it is not.

So what has to be known about a failed task is whether it was such a start over. Everything else is
traceless, whichever steps fail and however many of them.

## Main Definitions

* `Cache.StartsOver` — loading has got as far as writing a new file
* `Cache.load_error` — what a load that fails leaves behind
* `Cache.perform_error` — the same for every task
* `Cache.traceless_iff` — when a task that fails leaves no trace
-/

namespace PreviewSync.Cache

/-- Loading finds no file and can make the directories on the way to it: all that is left to do is
to write a new file without keys. The keys in memory are gone from that moment, whether or not it
can be written. -/
def StartsOver (cache : Cache) (disk : Disk) (trouble : Disk.Trouble) : Prop :=
  ∃ file, cache.file = some file ∧ disk.read trouble (Path.ofText file) = .error .notFound ∧
    (disk.createDirectories trouble (Path.ofText file).holder).2 = .ok ()

variable {cache cache' : Cache} {disk disk' : Disk} {trouble : Disk.Trouble} {task : Task}
  {file : String} {fault : Fault}

/-- Whether loading starts over is decided by the file of the cache alone. It starts over when the
file is not there and its directories can be made. -/
theorem startsOver_iff (here : cache.file = some file) :
    cache.StartsOver disk trouble ↔
      disk.read trouble (Path.ofText file) = .error .notFound ∧
        (disk.createDirectories trouble (Path.ofText file).holder).2 = .ok () := by
  constructor
  · rintro ⟨other, there, missing, made⟩
    cases here.symm.trans there
    exact ⟨missing, made⟩
  · rintro ⟨missing, made⟩
    exact ⟨file, here, missing, made⟩

/-- What a failed task leaves behind: the same files, and either the same keys or none. Directories
may have been made on the way, and they remain. -/
structure LeftBehind (startsOver : Prop) (cache : Cache) (disk : Disk) (cache' : Cache)
    (disk' : Disk) : Prop where
  files : Disk.SameFiles disk disk'
  kept : ¬ startsOver → cache' = cache
  dropped : startsOver → cache' = { cache with keys := .empty }

/-- A task that fails before it has changed anything. It is the usual case of a failure. -/
theorem leftBehind_of_kept {startsOver : Prop} (before : ¬ startsOver) :
    LeftBehind startsOver cache disk cache disk :=
  ⟨Disk.SameFiles.refl disk, fun _ => rfl, fun started => absurd started before⟩

/-- The keys are dropped between the directories and the file. If the file cannot be written then,
they are not brought back. -/
theorem make_error (here : cache.file = some file)
    (missing : disk.read trouble (Path.ofText file) = .error .notFound)
    (h : cache.make file disk trouble = (cache', disk', .error fault)) :
    LeftBehind (cache.StartsOver disk trouble) cache disk cache' disk' := by
  rw [startsOver_iff here]
  unfold make at h
  split at h
  · rename_i made
    cases h
    refine ⟨Disk.sameFiles_of_createDirectories made, fun _ => rfl, fun started => ?_⟩
    rw [made] at started
    cases started.2
  · rename_i made
    dsimp only at h
    split at h
    · cases h
    · cases h
      refine ⟨Disk.sameFiles_of_createDirectories made, fun before => ?_, fun _ => rfl⟩
      exact absurd ⟨missing, by rw [made]⟩ before

/-- A load that fails has dropped the keys iff it has started over. For a cache without keys this
makes no difference. -/
theorem load_error (h : cache.load disk trouble = (cache', disk', .error fault)) :
    LeftBehind (cache.StartsOver disk trouble) cache disk cache' disk' := by
  unfold load at h
  split at h
  · cases h
  · rename_i file here
    split at h
    · rename_i content found
      split at h
      · cases h
      · cases h
        refine leftBehind_of_kept fun started => ?_
        rw [startsOver_iff here, found] at started
        cases started.1
    · rename_i missing
      exact make_error here missing h
    · rename_i reason denied
      cases h
      refine leftBehind_of_kept fun started => ?_
      rw [startsOver_iff here, denied] at started
      exact reason (Except.error.inj started.1)

/-- An answer that is passed on with its faults. Tasks answer differently, so their results are
brought to one form. -/
theorem eq_of_map_error {α β : Type} {answer : α → β} {ended : Cache × Disk × Except Fault α}
    (h : (ended.1, ended.2.1, ended.2.2.map answer) = (cache', disk', .error fault)) :
    ended = (cache', disk', .error fault) := by
  obtain ⟨cache, disk, result⟩ := ended
  cases result with
  | error fault' =>
    cases h
    rfl
  | ok value => cases h

/-- A task that fails has dropped the keys iff it is a load that has started over. Recording and
forgetting undo what they have done. -/
theorem perform_error (h : cache.perform task disk trouble = (cache', disk', .error fault)) :
    LeftBehind (task = .load ∧ cache.StartsOver disk trouble) cache disk cache' disk' := by
  cases task with
  | load =>
    obtain ⟨files, kept, dropped⟩ := load_error (eq_of_map_error h)
    exact ⟨files, fun before => kept fun started => before ⟨rfl, started⟩,
      fun started => dropped started.2⟩
  | insert key =>
    obtain ⟨rfl, rfl⟩ := insert_error (eq_of_map_error h)
    exact leftBehind_of_kept nofun
  | remove key =>
    obtain ⟨rfl, rfl⟩ := remove_error (eq_of_map_error h)
    exact leftBehind_of_kept nofun

/-- A task that fails changes no file, and the keys in memory are what they were, unless a load has
started over: then there are none any more. Nothing is noticed of that only if there were none
before. -/
theorem traceless_iff (h : cache.perform task disk trouble = (cache', disk', .error fault)) :
    Disk.SameFiles disk disk' ∧ cache'.file = cache.file ∧
      ((cache'.keys = cache.keys ∧ cache'.count = cache.count ∧
          ∀ key, cache'.contains key = cache.contains key) ↔
        ¬ (task = .load ∧ cache.StartsOver disk trouble ∧ cache.keys ≠ .empty)) ∧
      (task = .load → cache.StartsOver disk trouble →
        cache'.keys = .empty ∧ cache'.count = 0 ∧ ∀ key, cache'.contains key = false) := by
  have left := perform_error h
  by_cases started : task = .load ∧ cache.StartsOver disk trouble
  · have dropped := left.dropped started
    subst dropped
    refine ⟨left.files, rfl, ⟨?_, ?_⟩, fun _ _ => ⟨rfl, rfl, fun _ => rfl⟩⟩
    · rintro ⟨same, -⟩ ⟨-, -, some⟩
      exact some same.symm
    · intro unnoticed
      have none : cache.keys = .empty := by
        by_contra some
        exact unnoticed ⟨started.1, started.2, some⟩
      unfold count contains
      rw [none]
      exact ⟨rfl, rfl, fun _ => rfl⟩
  · have kept := left.kept started
    subst kept
    refine ⟨left.files, rfl, iff_of_true ⟨rfl, rfl, fun _ => rfl⟩ ?_, ?_⟩
    · rintro ⟨isLoad, starts, -⟩
      exact started ⟨isLoad, starts⟩
    · intro isLoad starts
      exact absurd ⟨isLoad, starts⟩ started

/-- A key is not recorded because the new file cannot be given its name, and the keys are those from
before. -/
theorem traceless_iff_of_failed_rename :
    let keys := KeySet.empty.insert "A"
    let cache : Cache := ⟨keys, some "c"⟩
    let disk : Disk := ⟨[(["work", "c"], .file (CacheDocument.write keys))]⟩
    let trouble : Disk.Trouble := fun step => if step = .rename then some .other else none
    cache.perform (.insert "B") disk trouble = (cache, disk, .error (.disk .other)) ∧
      cache.keys = keys ∧ cache.count = 1 ∧ cache.contains "B" = false := by
  intro keys cache disk trouble
  have failed : cache.perform (.insert "B") disk trouble =
      (cache, disk, .error (.disk .other)) := by
    cbv
  obtain ⟨same, count, contains⟩ := (traceless_iff failed).2.2.1.2 (by rintro ⟨⟨⟩, -⟩)
  exact ⟨failed, same, by rw [← count]; rfl, by rw [← contains]; decide⟩

/-- A file was removed, and no temporary file can be made for a new one: the load fails, and the key
in memory is gone. -/
theorem not_traceless_of_startsOver :
    let cache : Cache := ⟨KeySet.empty.insert "A", some "c"⟩
    let trouble : Disk.Trouble := fun step => if step = .createTemporary then some .other else none
    let ended := cache.perform .load {} trouble
    ended.2.2 = .error (.disk .other) ∧ cache.contains "A" = true ∧ cache.count = 1 ∧
      ended.1.contains "A" = false ∧ ended.1.count = 0 := by
  intro cache trouble ended
  have failed : cache.perform .load {} trouble =
      (⟨.empty, some "c"⟩, {}, .error (.disk .other)) := by
    cbv
  refine ⟨congrArg (·.2.2) failed, by decide, rfl, ?_, ?_⟩
  · exact congrArg (fun ended => ended.1.contains "A") failed
  · exact congrArg (fun ended => ended.1.count) failed

end PreviewSync.Cache
