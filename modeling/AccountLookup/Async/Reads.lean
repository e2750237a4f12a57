import AccountLookup.Async.Proc

/-! Computations that leave every state as it is, whatever they settle with. -/

namespace Async.Proc

variable {ε σ τ α β : Type}

/-- What is made of the value of `p` does not matter for the state that `p` leaves. -/
theorem run_bind_pure_state (p : Proc ε σ α) (f : α → β) (s : σ) :
    ((p >>= fun a => Pure.pure (f a)).run s).2 = (p.run s).2 := by
  rw [run_bind]
  rcases p.run s with ⟨e | a, t⟩ <;> rfl

/-- `p` changes no state. -/
def Reads (p : Proc ε σ α) : Prop := ∀ s, (p.run s).2 = s

theorem Reads.pure (a : α) : (Pure.pure a : Proc ε σ α).Reads := fun _ => rfl

theorem Reads.reject (e : ε) : (Proc.reject e : Proc ε σ α).Reads := fun _ => rfl

theorem Reads.read (f : σ → α) : (Proc.read f : Proc ε σ α).Reads := fun _ => rfl

theorem Reads.ofExcept (r : Except ε α) : (Proc.ofExcept r : Proc ε σ α).Reads := by
  intro s
  rw [run_ofExcept]

theorem Reads.bind {p : Proc ε σ α} {f : α → Proc ε σ β} (hp : p.Reads) (hf : ∀ a, (f a).Reads) :
    (p >>= f).Reads := by
  intro s
  have h := hp s
  rw [run_bind]
  rcases hrun : p.run s with ⟨e | a, t⟩ <;> rw [hrun] at h
  · exact h
  · exact (hf a t).trans h

theorem Reads.attempt {p : Proc ε σ α} (h : p.Reads) : p.attempt.Reads := by
  intro s
  rw [run_attempt]
  exact h s

theorem Reads.rethrow {p : Proc ε σ α} (h : p.Reads) (f : ε → ε) : (p.rethrow f).Reads := by
  intro s
  rw [run_rethrow]
  exact h s

theorem Reads.zoom {p : Proc ε σ α} (h : p.Reads) (l : Lens τ σ) : (p.zoom l).Reads := by
  intro t
  rw [run_zoom]
  dsimp only
  rw [h, l.set_get]

theorem Reads.foldlM {body : β → α → Proc ε σ β} (h : ∀ b a, (body b a).Reads) (l : List α) (b : β) :
    (l.foldlM body b).Reads := by
  induction l generalizing b with
  | nil => exact .pure b
  | cons a rest ih =>
    rw [List.foldlM_cons]
    exact (h b a).bind ih

end Async.Proc
