import AccountLookup.Async.Proc

/-! Pre- and postconditions of runs, for both ways in which a computation settles. -/

namespace Async.Proc

variable {ε σ τ α β : Type}

/-- From a state with `P`, `p` resolves to a value and a state with `Q` or rejects with an error and
leaves a state with `E`. -/
def Triple (P : σ → Prop) (p : Proc ε σ α) (Q : α → σ → Prop) (E : ε → σ → Prop) : Prop :=
  ∀ s, P s → match p.run s with
    | (.ok a, t) => Q a t
    | (.error e, t) => E e t

/-- `p` resolves from every state. -/
def NeverRejects (p : Proc ε σ α) : Prop := ∀ s, ∃ a t, p.run s = (.ok a, t)

section Rules

variable {P : σ → Prop} {Q : α → σ → Prop} {R : β → σ → Prop} {E : ε → σ → Prop}
  {p : Proc ε σ α} {f : α → Proc ε σ β}

theorem Triple.ok (h : p.Triple P Q E) {s t : σ} {a : α} (hs : P s)
    (hrun : p.run s = (.ok a, t)) : Q a t := by
  have := h s hs
  rwa [hrun] at this

theorem Triple.error (h : p.Triple P Q E) {s t : σ} {e : ε} (hs : P s)
    (hrun : p.run s = (.error e, t)) : E e t := by
  have := h s hs
  rwa [hrun] at this

theorem Triple.mono {P' : σ → Prop} {Q' : α → σ → Prop} {E' : ε → σ → Prop} (h : p.Triple P Q E)
    (hP : ∀ s, P' s → P s) (hQ : ∀ a s, Q a s → Q' a s) (hE : ∀ e s, E e s → E' e s) :
    p.Triple P' Q' E' := by
  intro s hs
  have hp := h s (hP s hs)
  rcases hrun : p.run s with ⟨e | a, t⟩ <;> rw [hrun] at hp
  · exact hE e t hp
  · exact hQ a t hp

theorem Triple.forgetError (h : p.Triple P Q E) : p.Triple P Q fun _ _ => True :=
  h.mono (fun _ hs => hs) (fun _ _ hs => hs) fun _ _ _ => trivial

/-- A fact that does not depend on the state moves out of the precondition. -/
theorem Triple.fact {A : Prop} (h : A → p.Triple P Q E) : p.Triple (fun s => P s ∧ A) Q E :=
  fun s hs => h hs.2 s hs.1

theorem Triple.pure {a : α} (h : ∀ s, P s → Q a s) : (Pure.pure a : Proc ε σ α).Triple P Q E := h

theorem Triple.reject {e : ε} (h : ∀ s, P s → E e s) : (Proc.reject e : Proc ε σ α).Triple P Q E := h

theorem Triple.bind (hp : p.Triple P Q E) (hf : ∀ a, (f a).Triple (Q a) R E) :
    (p >>= f).Triple P R E := by
  intro s hs
  have h := hp s hs
  rcases hrun : p.run s with ⟨e | a, t⟩ <;> rw [hrun] at h
  · rw [run_bind_error hrun]
    exact h
  · rw [run_bind_ok hrun]
    exact hf a t h

/-- The rule for the outcome of `p` as a value: it comes with the postcondition of that outcome. -/
theorem Triple.attempt {E' : ε → σ → Prop} (h : p.Triple P Q E) :
    p.attempt.Triple P
      (fun outcome s => match outcome with | .ok a => Q a s | .error e => E e s) E' := by
  intro s hs
  have hp := h s hs
  rw [run_attempt]
  rcases hrun : p.run s with ⟨e | a, t⟩ <;> rw [hrun] at hp <;> exact hp

/-- The rule for a loop: `I done` holds when the elements `done` have been handled. -/
theorem Triple.forM {l : List α} {body : α → Proc ε σ Unit} (I : List α → σ → Prop)
    (h : ∀ done a rest, l = done ++ a :: rest →
      (body a).Triple (I done) (fun _ => I (done ++ [a])) E) :
    (l.forM body).Triple (I []) (fun _ => I l) E := by
  suffices ∀ rest done, l = done ++ rest → (rest.forM body).Triple (I done) (fun _ => I l) E from
    this l [] rfl
  intro rest
  induction rest with
  | nil =>
    intro done hl s hs
    rw [List.append_nil] at hl
    rw [hl]
    exact hs
  | cons a rest ih =>
    intro done hl
    exact (h done a rest hl).bind fun _ => ih (done ++ [a]) (by rw [hl]; simp)

/-- The rule for a loop that carries a value: `I b` holds when that value is `b`. -/
theorem Triple.foldlM {body : β → α → Proc ε σ β} (I : β → σ → Prop)
    (h : ∀ b a, (body b a).Triple (I b) I E) (l : List α) (b : β) :
    (l.foldlM body b).Triple (I b) I E := by
  induction l generalizing b with
  | nil => exact fun s hs => hs
  | cons a rest ih =>
    rw [List.foldlM_cons]
    exact (h b a).bind ih

/-- A part of the state that `R` does not look at may change. -/
theorem Triple.zoom_frame (R : τ → Prop) (l : Lens τ σ) (hR : ∀ s t, R t → R (l.set s t)) :
    (p.zoom l).Triple R (fun _ => R) (fun _ => R) := by
  intro t ht
  rw [run_zoom]
  rcases (p.run (l.get t)) with ⟨e | a, s⟩ <;> exact hR s t ht

theorem NeverRejects.bind (hp : p.NeverRejects) (hf : ∀ a, (f a).NeverRejects) :
    (p >>= f).NeverRejects := by
  intro s
  obtain ⟨a, t, hrun⟩ := hp s
  obtain ⟨b, u, hrun'⟩ := hf a t
  exact ⟨b, u, (run_bind_ok hrun).trans hrun'⟩

theorem NeverRejects.pure (a : α) : (Pure.pure a : Proc ε σ α).NeverRejects :=
  fun s => ⟨a, s, rfl⟩

theorem NeverRejects.modify (g : σ → σ) : (Proc.modify g : Proc ε σ Unit).NeverRejects :=
  fun s => ⟨(), g s, rfl⟩

theorem NeverRejects.attempt (p : Proc ε σ α) : p.attempt.NeverRejects :=
  fun s => ⟨_, _, run_attempt s p⟩

theorem NeverRejects.forM {body : α → Proc ε σ Unit} (h : ∀ a, (body a).NeverRejects)
    (l : List α) : (l.forM body).NeverRejects := by
  induction l with
  | nil => exact .pure ()
  | cons a rest ih => exact (h a).bind fun _ => ih

theorem NeverRejects.zoom (h : p.NeverRejects) (l : Lens τ σ) : (p.zoom l).NeverRejects := by
  intro t
  obtain ⟨a, s, hrun⟩ := h (l.get t)
  exact ⟨a, l.set s t, by rw [run_zoom, hrun]⟩

end Rules

/-- The run of a loop whose first part resolves goes on from the state that it leaves. -/
theorem run_forM_append {body : α → Proc ε σ Unit} {l₁ l₂ : List α} {s t : σ}
    (h : (l₁.forM body).run s = (.ok (), t)) :
    ((l₁ ++ l₂).forM body).run s = (l₂.forM body).run t := by
  induction l₁ generalizing s with
  | nil =>
    cases h
    rfl
  | cons a rest ih =>
    obtain ⟨_, u, ha, hrest⟩ := run_bind_eq_ok.mp h
    exact (run_bind_ok ha).trans (ih hrest)

/-! ### Computations that say nothing about the state -/

/-- `p` resolves to one value, whatever the state, and changes no state. -/
def Constant (p : Proc ε σ α) : Prop := ∃ a, ∀ s, p.run s = (.ok a, s)

theorem Constant.pure (a : α) : (Pure.pure a : Proc ε σ α).Constant := ⟨a, fun _ => rfl⟩

theorem Constant.bind {p : Proc ε σ α} {f : α → Proc ε σ β} (hp : p.Constant)
    (hf : ∀ a, (f a).Constant) : (p >>= f).Constant := by
  obtain ⟨a, ha⟩ := hp
  obtain ⟨b, hb⟩ := hf a
  refine ⟨b, fun s => ?_⟩
  rw [run_bind_ok (ha s), hb]

end Async.Proc
