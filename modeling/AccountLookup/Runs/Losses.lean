import AccountLookup.Runs.Simulation
import Mathlib.Data.List.Forall2

/-! Systems that refuse some of their inputs, and are otherwise like systems that do not. -/

namespace Runs

variable {σ ι ο : Type}

/-- `next` refuses the inputs that are lost and changes nothing for them.  It does for the others what
`next'` does, and answers them alike. -/
structure Loses (next next' : σ → ι → ο × σ) (isLost : ι → Bool) (refuses : ο → Prop)
    (alike : ο → ο → Prop) : Prop where
  lost : ∀ s i, isLost i = true → refuses (next s i).1 ∧ (next s i).2 = s
  kept : ∀ s i, isLost i = false →
    alike (next s i).1 (next' s i).1 ∧ (next s i).2 = (next' s i).2

namespace Loses

variable {next next' : σ → ι → ο × σ} {isLost : ι → Bool} {refuses : ο → Prop}
  {alike : ο → ο → Prop} (h : Loses next next' isLost refuses alike)
include h

/-- Every lost input of a run is refused. -/
theorem refused (s : σ) (inputs : List ι) :
    ∀ entry ∈ inputs.zip (answers next s inputs).1, isLost entry.1 = true → refuses entry.2 := by
  induction inputs generalizing s with
  | nil => exact fun _ hmem => absurd hmem List.not_mem_nil
  | cons i rest ih =>
    intro entry hmem hlost
    rcases List.mem_cons.mp hmem with rfl | hmem
    · exact (h.lost s i hlost).1
    · exact ih (next s i).2 entry hmem hlost

/-- A run is the run of the other system over the inputs that are not lost. -/
theorem answers_kept (s : σ) (inputs : List ι) :
    let kept := inputs.filter (!isLost ·)
    List.Forall₂ (fun entry answer => alike entry.2 answer)
        ((inputs.zip (answers next s inputs).1).filter (!isLost ·.1)) (answers next' s kept).1 ∧
      (answers next s inputs).2 = (answers next' s kept).2 := by
  induction inputs generalizing s with
  | nil => exact ⟨.nil, rfl⟩
  | cons i rest ih =>
    obtain ⟨hanswers, hend⟩ := ih (next s i).2
    cases hlost : isLost i with
    | true =>
      obtain ⟨-, hstate⟩ := h.lost s i hlost
      rw [hstate] at hanswers hend
      simpa [answers, hlost, hstate] using ⟨hanswers, hend⟩
    | false =>
      obtain ⟨halike, hstate⟩ := h.kept s i hlost
      rw [hstate] at hanswers hend
      simpa [answers, hlost, hstate] using ⟨⟨halike, hanswers⟩, hend⟩

end Loses

end Runs
