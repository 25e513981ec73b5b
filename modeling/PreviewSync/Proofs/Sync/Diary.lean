import PreviewSync.Proofs.Runs
import PreviewSync.Proofs.Sync.Transition

/-!
# The diary of a machine

A statement about a whole run looks back: at what a call returned earlier, or at what the steps of
one pass did. The diary keeps every step with the machine before and after it.

## Main Definitions

* `Machine.return_cases` — where a call can end
* `Entry` — one step
* `Diary`, `Diary.write`, `Diary.run` — a machine with the steps that led to it
* `Diary.run_induction` — what every step keeps holds after a run
-/

namespace PreviewSync.Sync

namespace Machine

variable {m m' : Machine} {label : Label} {answer : Return}

/-- A call that begins returns nothing but a fault. Whatever else a call returns is returned by a
later step, as others may act in between. -/
theorem fault_of_call {call : Call} (h : m.call call = (m', some answer)) :
    ∃ fault, answer = .passed (.error fault) ∨ answer = .collected (.error fault) := by
  unfold Machine.call at h
  split at h
  · split at h
    · cases h
      exact ⟨_, .inl rfl⟩
    · split at h <;> cases h
      exact ⟨_, .inl rfl⟩
  · split at h <;> cases h
    exact ⟨_, .inl rfl⟩
  · cases h
  · split at h <;> cases h
    exact ⟨_, .inr rfl⟩

/-- A call ends by a fault, at a step of its pass, or when the owner waits for the lock or for the
end of a batch. There is no other way for a call to return, so what it returns can be traced to one
of these. -/
theorem return_cases (h : m.step label = some (m', some answer)) :
    (∃ fault, answer = .passed (.error fault) ∨ answer = .collected (.error fault)) ∨
      (∃ destination pass told result, m.owner = .passing destination pass ∧
        label = .owner (.catalog told) ∧ answer = .passed result) ∨
      (m.owner = .waiting ∨ ∃ number, m.owner = .joining number) ∧
        ∃ result, answer = .collected result := by
  cases label with
  | call call =>
    unfold Machine.step at h
    dsimp only at h
    split at h
    · exact .inl (fault_of_call (Option.some.inj h))
    · cases h
  | owner told =>
    replace h : m.ownerStep told = some (m', some answer) := h
    unfold ownerStep at h
    split at h
    -- At these points the owner goes on without returning, or takes no such step.
    case h_1 | h_10 | h_11 | h_12 => cases h
    case h_2 | h_4 =>
      cases h
      exact .inl ⟨_, .inl rfl⟩
    case h_3 =>
      rcases loaded : m.hub.cache.load m.hub.disk _ with ⟨cache, disk, fault | ⟨⟩⟩ <;>
        rw [Machine.load, loaded] at h <;> cases h
      exact .inl ⟨_, .inl rfl⟩
    case h_5 =>
      unfold Machine.arm at h
      split at h <;> cases h
      exact .inl ⟨_, .inl rfl⟩
    case h_6 destination pass told atPass =>
      obtain ⟨⟨hub, progress⟩, -, same⟩ := Option.map_eq_some_iff.1 h
      cases progress <;> cases same
      exact .inr (.inl ⟨destination, pass, told, _, atPass, rfl, rfl⟩)
    case h_7 waiting =>
      unfold Machine.take at h
      split at h
      · cases h
      · split at h <;> cases h
        exact .inr (.inr ⟨.inl waiting, _, rfl⟩)
    case h_8 number joining =>
      unfold Machine.join at h
      split at h <;> cases h
      exact .inr (.inr ⟨.inr ⟨number, joining⟩, _, rfl⟩)
    case h_9 =>
      unfold Machine.halt at h
      split at h <;> cases h
  | poll | watcher | worker =>
    obtain ⟨next, -, same⟩ := Option.map_eq_some_iff.1 h
    cases same
  | register | unregister => cases h

end Machine

/-- One step of a machine, with what a call returns by it. The machines on both sides are kept, so
what a step has done can be told from the entry alone. -/
structure Entry where
  before : Machine
  label : Label
  after : Machine
  result : Option Return

/-- A machine with the steps that led to it, the last one at the end. The machine forgets how it got
to where it is, and returned reports and finished passes are a matter of just that. -/
structure Diary where
  machine : Machine
  entries : List Entry := []

namespace Diary

/-- The diary of a machine that has taken no step yet. It begins with an orchestrator that has just
been made, so there is no session. -/
def start (config : Config) (client : Store.Client) (cache : Cache) (disk : Disk) : Diary :=
  { machine := Machine.make config client cache disk }

/-- One more step. There is none when the machine cannot take it. Each entry keeps the machines on
both sides of it, so that a statement about a moment need not run the machine again. -/
def write (diary : Diary) (label : Label) : Option Diary :=
  (diary.machine.step label).map fun (after, result) =>
    { machine := after, entries := diary.entries ++ [⟨diary.machine, label, after, result⟩] }

/-- Several more steps. A run ends nowhere in particular: any number of calls may still be under
way. -/
def run (diary : Diary) (labels : List Label) : Option Diary :=
  labels.foldlM write diary

variable {diary diary' : Diary} {label : Label} {labels : List Label}

/-- The step that is written is one of the machine. By this the lemmas about steps of machines apply
to diaries. -/
theorem write_eq_some (h : diary.write label = some diary') :
    ∃ after result, diary.machine.step label = some (after, result) ∧
      diary' = ⟨after, diary.entries ++ [⟨diary.machine, label, after, result⟩]⟩ := by
  obtain ⟨⟨after, result⟩, stepped, same⟩ := Option.map_eq_some_iff.1 h
  exact ⟨after, result, stepped, same.symm⟩

/-- What holds at the start and is kept by every step holds after a run. All that is said of every
run is proved by this, with the invariant in place of `p`. -/
theorem run_induction {p : Diary → Prop} (ran : diary.run labels = some diary') (first : p diary)
    (kept : ∀ (diary diary' : Diary) (label : Label), label ∈ labels →
      p diary → diary.write label = some diary' → p diary') : p diary' :=
  foldlM_induction ran first kept

end Diary

end PreviewSync.Sync
