import PreviewSync.Disk.Basic

/-!
# Places and paths

A tree has no links, so where a path leads to is decided by its names alone; the tree decides only
whether the way is open. A step changes what is at the place of its own path, and making directories
changes no file.

## Main Definitions

* `Path.place` — the place that a path leads to in any tree
* `Disk.eq_place_of_find`, `Disk.eq_place_of_target?` — no other place is found
* `Disk.node?_of_replace`, `Disk.node?_of_read` — what is at the place of a file
* `Disk.sameFiles_of_createDirectories` — the files after making directories
* `Disk.read_of_replace`, `Disk.read_of_write` — a file that was replaced or written is read back
* `Disk.node?_of_write` — what is at other places after writing a file
-/

namespace PreviewSync

namespace Path

/-- The place that one name leads to. The parent of the root is the root. -/
def enter (place : Disk.Place) (name : String) : Disk.Place :=
  if name = "." then place
  else if name = ".." then place.dropLast
  else place ++ [name]

/-- The place that a path leads to in any tree. There are no links, so it does not depend on the
tree; whether the way there exists does. -/
def place (path : Path) : Disk.Place :=
  path.names.foldl enter (if path.isAbsolute then [] else Disk.home)

end Path

namespace Disk

variable {disk disk' : Disk} {path : Path} {place next : Place} {name : String} {trouble : Trouble}

/-- A computation that begins with another one succeeds only after it. -/
theorem exists_of_bind_eq_ok {α β : Type} {first : Except Fault α} {second : α → Except Fault β}
    {value : β} (h : first >>= second = .ok value) :
    ∃ a, first = .ok a ∧ second a = .ok value := by
  cases first with
  | error fault => cases h
  | ok a => exact ⟨a, rfl, h⟩

/-- A name in a directory is appended to its place. -/
theorem eq_of_below (h : below place name = .ok next) : next = place ++ [name] := by
  unfold below at h
  split at h
  · cases h
  · exact (Except.ok.inj h).symm

/-- One name leads to its place. -/
theorem eq_of_enter (h : disk.enter place name = .ok next) : next = Path.enter place name := by
  unfold enter at h
  obtain ⟨_, -, h⟩ := exists_of_bind_eq_ok h
  unfold Path.enter
  split at h
  · rw [if_pos ‹_›]
    exact (Except.ok.inj h).symm
  · rw [if_neg ‹_›]
    split at h
    · rw [if_pos ‹_›]
      exact (Except.ok.inj h).symm
    · rw [if_neg ‹_›]
      obtain ⟨there, named, h⟩ := exists_of_bind_eq_ok h
      split at h
      · rw [← Except.ok.inj h]
        exact eq_of_below named
      · cases h

/-- Names lead to their place, one after the other. -/
theorem eq_of_follow {names : List String} (h : disk.follow path names = .ok place) :
    place = names.foldl Path.enter (if path.isAbsolute then [] else home) := by
  unfold follow at h
  generalize (if path.isAbsolute = true then [] else home) = start at h ⊢
  induction names generalizing start with
  | nil => exact (Except.ok.inj h).symm
  | cons name names ih =>
    rw [List.foldlM_cons] at h
    obtain ⟨there, entered, h⟩ := exists_of_bind_eq_ok h
    rw [List.foldl_cons, ← eq_of_enter entered]
    exact ih there h

/-- A path leads to its place. Two paths that lead to one place therefore name one file. -/
theorem eq_place_of_find (h : disk.find path = .ok place) : place = path.place := by
  unfold find at h
  obtain ⟨_, -, h⟩ := exists_of_bind_eq_ok h
  obtain ⟨there, followed, h⟩ := exists_of_bind_eq_ok h
  have same : there = place := by
    split at h
    · obtain ⟨_, -, h⟩ := exists_of_bind_eq_ok h
      exact Except.ok.inj h
    · exact Except.ok.inj h
  rw [← same]
  exact eq_of_follow followed

/-- What it means that the last name of a path can be given: the way to it is open and ends in a
directory. -/
theorem target?_eq_some (h : disk.target? path = .ok (some place)) :
    checkForm path = .ok () ∧ ∃ name there, path.names = path.names.dropLast ++ [name] ∧
      disk.follow path path.names.dropLast = .ok there ∧ disk.checkDirectory there = .ok () ∧
      Path.isDots name = false ∧ below there name = .ok place := by
  unfold target? at h
  obtain ⟨_, form, h⟩ := exists_of_bind_eq_ok h
  split at h
  · cases h
  · rename_i name last
    obtain ⟨there, followed, h⟩ := exists_of_bind_eq_ok h
    obtain ⟨_, directory, h⟩ := exists_of_bind_eq_ok h
    split at h
    · cases h
    · rename_i solid
      obtain ⟨_, named, h⟩ := exists_of_bind_eq_ok h
      cases h
      have split : path.names = path.names.dropLast ++ [name] := by
        obtain ⟨front, eq⟩ := List.getLast?_eq_some_iff.1 last
        rw [eq, List.dropLast_concat]
      exact ⟨form, name, there, split, followed, directory, Bool.eq_false_iff.2 solid, named⟩

/-- A name that is no dots leads from its directory to its place. -/
theorem enter_of_isDots (solid : Path.isDots name = false) :
    Path.enter place name = place ++ [name] := by
  simp only [Path.isDots, Bool.or_eq_false_iff, beq_eq_false_iff_ne] at solid
  rw [Path.enter, if_neg solid.1, if_neg solid.2]

/-- The last name of a path is given to its place. -/
theorem eq_place_of_target? (h : disk.target? path = .ok (some place)) : place = path.place := by
  obtain ⟨-, name, there, split, followed, -, solid, named⟩ := target?_eq_some h
  rw [Path.place, split, List.foldl_append, ← eq_of_follow followed, List.foldl_cons,
    List.foldl_nil, enter_of_isDots solid]
  exact eq_of_below named

/-- The tree after something was put at a place. The way to the working directory is there in any
tree, whatever is put into it. -/
theorem node?_put {node : Node} {other : Place} :
    (disk.put place node).node? other =
      if other.isPrefixOf home then some .directory
      else if other = place then some node else disk.node? other := by
  unfold node? put
  split
  · rfl
  · by_cases same : other = place
    · simp [same]
    · have apart : (place == other) = false := by
        rw [beq_eq_false_iff_ne]
        exact fun equal => same equal.symm
      rw [if_neg same]
      simp only [List.find?_cons, apart]
      congr 1
      rw [List.find?_filter]
      congr 1
      funext entry
      by_cases here : entry.1 == other
      · rw [beq_iff_eq] at here
        simp [here, same]
      · simp [here]

/-- What is put at a place changes no other. -/
theorem node?_put_of_ne {node : Node} {other : Place} (elsewhere : other ≠ place) :
    (disk.put place node).node? other = disk.node? other := by
  rw [node?_put, if_neg elsewhere]
  split
  · rename_i above
    rw [node?, if_pos above]
  · rfl

/-- A file is written where its path can be given a name and no directory is in the way. It need not
be there before. -/
theorem write_eq_ok {content : Bytes} (h : disk.write path content = .ok disk') :
    ∃ place, disk.target? path = .ok (some place) ∧ path.endsInSlash = false ∧
      disk.node? place ≠ some .directory ∧ disk' = disk.put place (.file content) := by
  unfold write at h
  obtain ⟨found, target, h⟩ := exists_of_bind_eq_ok h
  cases found with
  | none => cases h
  | some place =>
    dsimp only at h
    split at h
    · cases h
    · rename_i free
      rw [Bool.or_eq_true, decide_eq_true_iff, not_or, Bool.not_eq_true] at free
      exact ⟨place, target, free.1, free.2, (Except.ok.inj h).symm⟩

/-- A file is replaced where its path can be given a name and no directory is in the way. -/
theorem replace_eq_ok {content : Bytes} (h : disk.replace trouble path content = .ok disk') :
    ∃ place, disk.target? path = .ok (some place) ∧ path.endsInSlash = false ∧
      disk.node? place ≠ some .directory ∧ disk' = disk.put place (.file content) := by
  unfold replace at h
  obtain ⟨_, -, h⟩ := exists_of_bind_eq_ok h
  obtain ⟨_, -, h⟩ := exists_of_bind_eq_ok h
  obtain ⟨_, -, h⟩ := exists_of_bind_eq_ok h
  obtain ⟨_, -, h⟩ := exists_of_bind_eq_ok h
  obtain ⟨_, -, h⟩ := exists_of_bind_eq_ok h
  obtain ⟨_, -, h⟩ := exists_of_bind_eq_ok h
  obtain ⟨found, target, h⟩ := exists_of_bind_eq_ok h
  cases found with
  | none => cases h
  | some place =>
    dsimp only at h
    split at h
    · cases h
    · rename_i solid
      split at h
      · cases h
      · rename_i free
        exact ⟨place, target, Bool.eq_false_iff.2 solid, free, (Except.ok.inj h).symm⟩

/-- A replaced file is at the place of its path; nothing else is changed. The file that was written
beside it is gone by then. -/
theorem node?_of_replace {content : Bytes} {other : Place}
    (h : disk.replace trouble path content = .ok disk') :
    disk'.node? other =
      if other.isPrefixOf home then some .directory
      else if other = path.place then some (.file content) else disk.node? other := by
  obtain ⟨place, target, -, -, rfl⟩ := replace_eq_ok h
  rw [eq_place_of_target? target]
  exact node?_put

/-- The same files are in two trees. They may differ in directories. -/
def SameFiles (disk disk' : Disk) : Prop :=
  ∀ place content, disk'.node? place = some (.file content) ↔
    disk.node? place = some (.file content)

theorem SameFiles.refl (disk : Disk) : SameFiles disk disk :=
  fun _ _ => Iff.rfl

theorem SameFiles.trans {disk disk' disk'' : Disk} (h : SameFiles disk disk')
    (h' : SameFiles disk' disk'') : SameFiles disk disk'' :=
  fun place content => (h' place content).trans (h place content)

/-- A directory is made where there is nothing. -/
theorem sameFiles_of_makeDirectory (h : disk.makeDirectory trouble path = .ok disk') :
    SameFiles disk disk' := by
  unfold makeDirectory at h
  obtain ⟨found, -, h⟩ := exists_of_bind_eq_ok h
  cases found with
  | none => cases h
  | some place =>
    dsimp only at h
    split at h
    · cases h
    · rename_i free
      obtain ⟨_, -, h⟩ := exists_of_bind_eq_ok h
      rw [← Except.ok.inj h]
      intro other content
      rw [node?_put]
      split
      · rename_i above
        simp [node?, above]
      · split
        · rename_i here
          rw [here]
          rw [Option.not_isSome_iff_eq_none] at free
          simp [free]
        · rfl

theorem sameFiles_of_ensureDirectory {result : Except Fault Unit}
    (h : disk.ensureDirectory trouble path = (disk', result)) : SameFiles disk disk' := by
  unfold ensureDirectory at h
  split at h
  · rename_i made
    cases h
    exact sameFiles_of_makeDirectory made
  · cases h
    exact SameFiles.refl _

/-- Making directories changes no file, by induction on the paths to make. -/
theorem sameFiles_of_ensureFirst {paths : List Path} {result : Except Fault Unit}
    (h : ensureFirst trouble disk paths = (disk', result)) : SameFiles disk disk' := by
  induction paths generalizing disk disk' result with
  | nil =>
    cases h
    exact SameFiles.refl _
  | cons path ancestors ih =>
    unfold ensureFirst at h
    split at h
    · cases h
      exact SameFiles.refl _
    · split at h
      · rename_i missing
        split at h
        · rename_i above
          exact (sameFiles_of_ensureDirectory missing).trans
            ((ih above).trans (sameFiles_of_ensureDirectory h))
        · exact (sameFiles_of_ensureDirectory missing).trans (ih h)
      · exact sameFiles_of_ensureDirectory h

/-- Making a directory and those on the way to it changes no file. Some of them may have been made
even when the last one cannot be. -/
theorem sameFiles_of_createDirectories {result : Except Fault Unit}
    (h : disk.createDirectories trouble path = (disk', result)) : SameFiles disk disk' :=
  sameFiles_of_ensureFirst h

/-- What is read from a path is the file at its place. -/
theorem node?_of_read {content : Bytes} (h : disk.read trouble path = .ok content) :
    disk.node? path.place = some (.file content) := by
  unfold read at h
  obtain ⟨_, -, h⟩ := exists_of_bind_eq_ok h
  obtain ⟨place, found, h⟩ := exists_of_bind_eq_ok h
  rw [← eq_place_of_find found]
  split at h
  · rename_i there
    rw [there, Except.ok.inj h]
  · cases h
  · cases h

/-! ### Reading back a file -/

/-- Nothing is lost from a tree: what was there is still there, and every directory is one. So a
path that leads somewhere in the one leads there in the other. -/
structure Grows (disk disk' : Disk) : Prop where
  kept : ∀ place, (disk.node? place).isSome → (disk'.node? place).isSome
  directory : ∀ place, disk.node? place = some .directory → disk'.node? place = some .directory

/-- A file that is put where no directory is takes nothing away. -/
theorem grows_put {content : Bytes} (free : disk.node? place ≠ some .directory) :
    Grows disk (disk.put place (.file content)) where
  kept other there := by
    rw [node?_put]
    split
    · rfl
    · split
      · rfl
      · exact there
  directory other there := by
    rw [node?_put]
    split
    · rfl
    · split
      · rename_i same
        rw [same] at there
        exact absurd there free
      · exact there

/-- The last of some names is followed at the end. -/
theorem follow_concat (disk : Disk) (path : Path) (names : List String) (name : String) :
    disk.follow path (names ++ [name]) = disk.follow path names >>= fun there =>
      disk.enter there name := by
  unfold follow
  rw [List.foldlM_append]
  congr 1
  funext there
  rw [List.foldlM_cons]
  exact bind_pure _

variable (grows : Grows disk disk')
include grows

theorem Grows.checkDirectory (h : disk.checkDirectory place = .ok ()) :
    disk'.checkDirectory place = .ok () := by
  unfold Disk.checkDirectory at h ⊢
  split at h
  · rename_i there
    rw [if_pos (grows.directory place there)]
  · cases h

/-- A name still leads where it led. -/
theorem Grows.enter (h : disk.enter place name = .ok next) : disk'.enter place name = .ok next := by
  unfold Disk.enter at h ⊢
  obtain ⟨_, directory, h⟩ := exists_of_bind_eq_ok h
  rw [grows.checkDirectory directory]
  show (if name = "." then _ else _) = _
  split at h
  · rw [if_pos ‹_›]
    exact h
  · rw [if_neg ‹_›]
    split at h
    · rw [if_pos ‹_›]
      exact h
    · rw [if_neg ‹_›]
      obtain ⟨there, named, h⟩ := exists_of_bind_eq_ok h
      rw [named]
      split at h
      · rename_i present
        show (if (disk'.node? there).isSome then _ else _) = _
        rw [if_pos (grows.kept there present)]
        exact h
      · cases h

/-- Names still lead where they led, one after the other. -/
theorem Grows.follow {names : List String} (h : disk.follow path names = .ok place) :
    disk'.follow path names = .ok place := by
  unfold Disk.follow at h ⊢
  generalize (if path.isAbsolute = true then [] else home) = start at h ⊢
  induction names generalizing start with
  | nil => exact h
  | cons name names ih =>
    rw [List.foldlM_cons] at h ⊢
    obtain ⟨there, entered, h⟩ := exists_of_bind_eq_ok h
    rw [grows.enter entered]
    exact ih there h

omit grows

/-- A file that was put where a path leads to is read back. -/
theorem read_of_put {content : Bytes} (target : disk.target? path = .ok (some place))
    (noSlash : path.endsInSlash = false) (free : disk.node? place ≠ some .directory) :
    (disk.put place (.file content)).read .absent path = .ok content := by
  obtain ⟨form, name, there, split, followed, directory, solid, named⟩ := target?_eq_some target
  have grows : Grows disk (disk.put place (.file content)) := grows_put free
  -- The directory is reached as before, and the name in it leads to the file.
  have outside : place.isPrefixOf home = false := by
    rw [Bool.eq_false_iff]
    intro above
    apply free
    rw [node?, if_pos above]
  have file : (disk.put place (.file content)).node? place = some (.file content) := by
    rw [node?_put, outside]
    simp
  have entered : (disk.put place (.file content)).enter there name = .ok place := by
    simp only [Path.isDots, Bool.or_eq_false_iff, beq_eq_false_iff_ne] at solid
    unfold enter
    rw [grows.checkDirectory directory, named]
    simp [bind, Except.bind, solid.1, solid.2, file, pure, Except.pure]
  have found : (disk.put place (.file content)).find path = .ok place := by
    have walked : (disk.put place (.file content)).follow path path.names = .ok place := by
      rw [split, follow_concat, grows.follow followed]
      exact entered
    unfold find
    rw [form, walked, noSlash]
    rfl
  unfold read
  rw [found]
  simp [Trouble.check, Trouble.absent, bind, Except.bind, file, pure, Except.pure]

/-- A file that was written is read back. -/
theorem read_of_write {content : Bytes} (h : disk.write path content = .ok disk') :
    disk'.read .absent path = .ok content := by
  obtain ⟨place, target, noSlash, free, rfl⟩ := write_eq_ok h
  exact read_of_put target noSlash free

/-- A file that was written is at the place of its path; nothing else is changed. -/
theorem node?_of_write {content : Bytes} {other : Place}
    (h : disk.write path content = .ok disk') (elsewhere : other ≠ path.place) :
    disk'.node? other = disk.node? other := by
  obtain ⟨place, target, -, -, rfl⟩ := write_eq_ok h
  rw [← eq_place_of_target? target] at elsewhere
  exact node?_put_of_ne elsewhere

/-- Whether a file can be written does not depend on its content. So it can be told before the
content is known. -/
theorem exists_write {content : Bytes} (h : disk.write path content = .ok disk') (other : Bytes) :
    ∃ disk'', disk.write path other = .ok disk'' := by
  obtain ⟨place, target, noSlash, free, -⟩ := write_eq_ok h
  unfold write
  rw [target]
  simp [bind, Except.bind, noSlash, free, pure, Except.pure]

/-- A file that was replaced is read back. -/
theorem read_of_replace {content : Bytes} (h : disk.replace trouble path content = .ok disk') :
    disk'.read .absent path = .ok content := by
  obtain ⟨place, target, noSlash, free, rfl⟩ := replace_eq_ok h
  exact read_of_put target noSlash free

/-- A file is read as without trouble, unless there is some. Trouble is looked at first, as when a
file must not be read. -/
theorem read_eq (disk : Disk) (trouble : Trouble) (path : Path) :
    disk.read trouble path =
      match trouble .read with
      | some fault => .error fault
      | none => disk.read .absent path := by
  unfold read Trouble.check
  cases trouble .read <;> rfl

/-- What is read in spite of trouble is read without. -/
theorem read_absent_of_read {content : Bytes} (h : disk.read trouble path = .ok content) :
    disk.read .absent path = .ok content := by
  rw [read_eq] at h
  split at h
  · cases h
  · exact h

end Disk

end PreviewSync
