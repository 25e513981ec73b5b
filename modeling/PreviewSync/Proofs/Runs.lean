/-!
# Runs

A run is a list of steps, each of which may turn out to be impossible. Whatever is proved about
whole runs rests on what one step keeps.

## Main Definitions

* `foldlM_induction` — what holds at the beginning and is kept by every step holds at the end
-/

namespace PreviewSync

/-- What holds at the beginning and is kept by every step holds at the end, by induction on the
steps. -/
theorem foldlM_induction {α β : Type} {step : α → β → Option α} {p : α → Prop} {turns : List β}
    {first last : α} (ran : turns.foldlM step first = some last) (begun : p first)
    (kept : ∀ before after turn, turn ∈ turns → p before → step before turn = some after →
      p after) : p last := by
  induction turns generalizing first with
  | nil =>
    cases ran
    exact begun
  | cons turn rest ih =>
    rw [List.foldlM_cons] at ran
    obtain ⟨next, stepped, ran⟩ := Option.bind_eq_some_iff.1 ran
    refine ih ran (kept first next turn List.mem_cons_self begun stepped) ?_
    exact fun before after later member => kept before after later (List.mem_cons_of_mem _ member)

end PreviewSync
