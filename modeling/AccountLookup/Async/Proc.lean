/-! Promises over a shared state.  A `Proc` is an asynchronous computation as a program: it settles,
or it makes one atomic access to the state and goes on.  `Proc.run` is the run in which no other
computation has a turn between two accesses. -/

namespace Async

/-- A computation that resolves to an `α` or rejects with an `ε`.  `access update next` changes the
state with `update` in one step and goes on with `next` of the state before the change. -/
inductive Proc (ε σ α : Type) where
  | resolve (value : α)
  | reject (error : ε)
  | access (update : σ → σ) (next : σ → Proc ε σ α)

namespace Proc

variable {ε σ τ α β : Type}

protected def bind : Proc ε σ α → (α → Proc ε σ β) → Proc ε σ β
  | resolve a, f => f a
  | reject e, _ => reject e
  | access update next, f => access update fun s => (next s).bind f

instance : Monad (Proc ε σ) where
  pure := resolve
  bind := Proc.bind

/-- The outcome of `p` as a value, as `try { .. } catch` sees it: the state keeps what `p` did before
it rejected. -/
def attempt : Proc ε σ α → Proc ε σ (Except ε α)
  | resolve a => resolve (.ok a)
  | reject e => resolve (.error e)
  | access update next => access update fun s => (next s).attempt

/-- `p` with its error replaced, as `p.catch` with a handler that throws does. -/
def rethrow (p : Proc ε σ α) (f : ε → ε) : Proc ε σ α :=
  match p with
  | resolve a => resolve a
  | reject e => reject (f e)
  | access update next => access update fun s => (next s).rethrow f

/-- `p` with its error as one of another type. -/
def mapError {ε' : Type} (f : ε → ε') : Proc ε σ α → Proc ε' σ α
  | resolve a => resolve a
  | reject e => reject (f e)
  | access update next => access update fun s => (next s).mapError f

def ofExcept : Except ε α → Proc ε σ α
  | .ok a => resolve a
  | .error e => reject e

def run : Proc ε σ α → σ → Except ε α × σ
  | resolve a, s => (.ok a, s)
  | reject e, s => (.error e, s)
  | access update next, s => (next s).run (update s)

/-- One access, or none when the computation has settled: what is left of it, and the state. -/
def step : Proc ε σ α → σ → Proc ε σ α × σ
  | access update next, s => (next s, update s)
  | p, s => (p, s)

/-- `p` without the value that it resolves to. -/
def void : Proc ε σ α → Proc ε σ Unit
  | resolve _ => resolve ()
  | reject e => reject e
  | access update next => access update fun s => (next s).void

/-- Whether `p` has resolved or rejected. -/
def settled : Proc ε σ α → Bool
  | access _ _ => false
  | _ => true

/-- One command of an external service: a single step on the state, with its outcome. -/
def atomic (f : σ → Except ε α × σ) : Proc ε σ α :=
  access (fun s => (f s).2) fun s => ofExcept (f s).1

/-- What `f` reads in the current state. -/
def read (f : σ → α) : Proc ε σ α := access id fun s => resolve (f s)

/-- The part of a function up to its first `await`, as one step, and the rest of the function. -/
def turn (p : Proc ε σ (Proc ε σ α)) : Proc ε σ α :=
  access (fun s => (p.run s).2) fun s =>
    match (p.run s).1 with
    | .ok rest => rest
    | .error e => reject e

/-- A change of the state that cannot fail. -/
def modify (f : σ → σ) : Proc ε σ Unit := access f fun _ => resolve ()

/-! ### Runs of the combinators -/

variable (s : σ)

@[simp] theorem run_resolve (a : α) : (resolve a : Proc ε σ α).run s = (.ok a, s) := rfl

@[simp] theorem run_pure (a : α) : (pure a : Proc ε σ α).run s = (.ok a, s) := rfl

@[simp] theorem run_reject (e : ε) : (reject e : Proc ε σ α).run s = (.error e, s) := rfl

@[simp] theorem run_read (f : σ → α) : (read f : Proc ε σ α).run s = (.ok (f s), s) := rfl

@[simp] theorem run_modify (f : σ → σ) : (modify f : Proc ε σ Unit).run s = (.ok (), f s) := rfl

@[simp] theorem run_ofExcept (r : Except ε α) : (ofExcept r : Proc ε σ α).run s = (r, s) := by
  cases r <;> rfl

@[simp] theorem run_atomic (f : σ → Except ε α × σ) : (atomic f).run s = f s := by
  simp [atomic, run]

theorem bind_bind {γ : Type} (p : Proc ε σ α) (f : α → Proc ε σ β) (g : β → Proc ε σ γ) :
    (p >>= f) >>= g = p >>= fun a => f a >>= g := by
  show (p.bind f).bind g = p.bind fun a => (f a).bind g
  induction p with
  | resolve a => rfl
  | reject e => rfl
  | access update next ih => exact congrArg (access update) (funext ih)

theorem run_bind (p : Proc ε σ α) (f : α → Proc ε σ β) :
    (p >>= f).run s =
      match p.run s with
      | (.ok a, t) => (f a).run t
      | (.error e, t) => (.error e, t) := by
  show (p.bind f).run s = _
  induction p generalizing s with
  | resolve a => rfl
  | reject e => rfl
  | access update next ih => exact ih s (update s)

theorem run_bind_ok {p : Proc ε σ α} {f : α → Proc ε σ β} {a : α} {s t : σ}
    (h : p.run s = (.ok a, t)) : (p >>= f).run s = (f a).run t := by
  rw [run_bind, h]

theorem run_bind_error {p : Proc ε σ α} {f : α → Proc ε σ β} {e : ε} {s t : σ}
    (h : p.run s = (.error e, t)) : (p >>= f).run s = (.error e, t) := by
  rw [run_bind, h]

/-- A computation runs by taking its first step and running what is left. -/
theorem run_step (p : Proc ε σ α) : (p.step s).1.run (p.step s).2 = p.run s := by
  cases p <;> rfl

theorem step_of_settled {p : Proc ε σ α} (h : p.settled = true) : p.step s = (p, s) := by
  cases p with
  | access update next => cases h
  | resolve a => rfl
  | reject e => rfl

@[simp] theorem step_void (p : Proc ε σ α) :
    p.void.step s = ((p.step s).1.void, (p.step s).2) := by
  cases p <;> rfl

@[simp] theorem run_void (p : Proc ε σ α) :
    p.void.run s = ((p.run s).1.map fun _ => (), (p.run s).2) := by
  induction p generalizing s with
  | resolve a => rfl
  | reject e => rfl
  | access update next ih => exact ih s (update s)

@[simp] theorem settled_void (p : Proc ε σ α) : p.void.settled = p.settled := by
  cases p <;> rfl

theorem step_turn_ok {p : Proc ε σ (Proc ε σ α)} {rest : Proc ε σ α} {s t : σ}
    (h : p.run s = (.ok rest, t)) : (turn p).step s = (rest, t) := by
  simp [turn, step, h]

theorem step_turn_error {p : Proc ε σ (Proc ε σ α)} {e : ε} {s t : σ}
    (h : p.run s = (.error e, t)) : (turn p).step s = (reject e, t) := by
  simp [turn, step, h]

theorem run_turn (p : Proc ε σ (Proc ε σ α)) :
    (turn p).run s =
      match p.run s with
      | (.ok rest, t) => rest.run t
      | (.error e, t) => (.error e, t) := by
  rw [← run_step]
  rcases h : p.run s with ⟨e | rest, t⟩
  · rw [step_turn_error h]
    rfl
  · rw [step_turn_ok h]

@[simp] theorem run_attempt (p : Proc ε σ α) :
    p.attempt.run s = (.ok (p.run s).1, (p.run s).2) := by
  induction p generalizing s with
  | resolve a => rfl
  | reject e => rfl
  | access update next ih => exact ih s (update s)

/-- A handler of the outcome of `p` runs on that outcome, in the state that `p` left. -/
@[simp] theorem run_attempt_bind (p : Proc ε σ α) (f : Except ε α → Proc ε σ β) :
    (p.attempt >>= f).run s = (f (p.run s).1).run (p.run s).2 :=
  run_bind_ok (run_attempt s p)

@[simp] theorem run_rethrow (p : Proc ε σ α) (f : ε → ε) :
    (p.rethrow f).run s = ((p.run s).1.mapError f, (p.run s).2) := by
  induction p generalizing s with
  | resolve a => rfl
  | reject e => rfl
  | access update next ih => exact ih s (update s)

@[simp] theorem run_mapError {ε' : Type} (p : Proc ε σ α) (f : ε → ε') :
    (p.mapError f).run s = ((p.run s).1.mapError f, (p.run s).2) := by
  induction p generalizing s with
  | resolve a => rfl
  | reject e => rfl
  | access update next ih => exact ih s (update s)

variable {s}

/-- A sequence resolves exactly when its first part resolves and its second part resolves from
there. -/
theorem run_bind_eq_ok {p : Proc ε σ α} {f : α → Proc ε σ β} {b : β} {t : σ} :
    (p >>= f).run s = (.ok b, t) ↔ ∃ a u, p.run s = (.ok a, u) ∧ (f a).run u = (.ok b, t) := by
  rw [run_bind]
  rcases p.run s with ⟨_ | a, u⟩
  · simp
  · constructor
    · intro h
      exact ⟨a, u, rfl, h⟩
    · intro h
      obtain ⟨_, _, ⟨⟩, h⟩ := h
      exact h

theorem run_rethrow_eq_ok {p : Proc ε σ α} {f : ε → ε} {a : α} {t : σ} :
    (p.rethrow f).run s = (.ok a, t) ↔ p.run s = (.ok a, t) := by
  rw [run_rethrow]
  rcases p.run s with ⟨e | b, u⟩
  · constructor <;> (intro h; cases h)
  · exact Iff.rfl

/-! ### What a computation can resolve to -/

/-- Every value that `p` resolves to satisfies `P`, whatever other computations do between its
accesses. -/
def Yields (P : α → Prop) : Proc ε σ α → Prop
  | resolve a => P a
  | reject _ => True
  | access _ next => ∀ s, (next s).Yields P

theorem Yields.pure {P : α → Prop} {a : α} (h : P a) : (Pure.pure a : Proc ε σ α).Yields P := h

theorem Yields.mono {P Q : α → Prop} {p : Proc ε σ α} (h : p.Yields P) (hPQ : ∀ a, P a → Q a) :
    p.Yields Q := by
  induction p with
  | resolve a => exact hPQ a h
  | reject e => trivial
  | access update next ih => exact fun s => ih s (h s)

theorem yields_true (p : Proc ε σ α) : p.Yields fun _ => True := by
  induction p with
  | resolve a => trivial
  | reject e => trivial
  | access update next ih => exact ih

theorem Yields.bind {P : α → Prop} {Q : β → Prop} {p : Proc ε σ α} {f : α → Proc ε σ β}
    (hp : p.Yields P) (hf : ∀ a, P a → (f a).Yields Q) : (p >>= f).Yields Q := by
  show (p.bind f).Yields Q
  induction p with
  | resolve a => exact hf a hp
  | reject e => trivial
  | access update next ih => exact fun s => ih s (hp s)

/-- The rule for a first part whose value does not matter. -/
theorem Yields.seq {Q : β → Prop} {p : Proc ε σ α} {f : α → Proc ε σ β}
    (hf : ∀ a, (f a).Yields Q) : (p >>= f).Yields Q :=
  p.yields_true.bind fun a _ => hf a

theorem Yields.attempt {P : α → Prop} {p : Proc ε σ α} (h : p.Yields P) :
    p.attempt.Yields fun outcome => ∀ a, outcome = .ok a → P a := by
  induction p with
  | resolve a => rintro _ ⟨⟩; exact h
  | reject e => rintro _ ⟨⟩
  | access update next ih => exact fun s => ih s (h s)

theorem Yields.run {P : α → Prop} {p : Proc ε σ α} (h : p.Yields P) {s t : σ} {a : α}
    (hrun : p.run s = (.ok a, t)) : P a := by
  induction p generalizing s with
  | resolve b => cases hrun; exact h
  | reject e => cases hrun
  | access update next ih => exact ih s (h s) hrun

end Proc

/-! ### A computation on a part of the state -/

/-- A part of type `σ` of a state of type `τ`. -/
structure Lens (τ σ : Type) where
  get : τ → σ
  set : σ → τ → τ
  get_set : ∀ s t, get (set s t) = s
  set_get : ∀ t, set (get t) t = t
  set_set : ∀ s s' t, set s (set s' t) = set s t

attribute [simp] Lens.get_set Lens.set_get Lens.set_set

/-- The whole state as its own part. -/
def Lens.whole (τ : Type) : Lens τ τ where
  get t := t
  set s _ := s
  get_set _ _ := rfl
  set_get _ := rfl
  set_set _ _ _ := rfl

/-- The first component of a pair. -/
def Lens.fst (σ τ : Type) : Lens (σ × τ) σ where
  get t := t.1
  set s t := (s, t.2)
  get_set _ _ := rfl
  set_get _ := rfl
  set_set _ _ _ := rfl

/-- A part of a part. -/
def Lens.comp {ρ τ σ : Type} (outer : Lens ρ τ) (inner : Lens τ σ) : Lens ρ σ where
  get r := inner.get (outer.get r)
  set s r := outer.set (inner.set s (outer.get r)) r
  get_set _ _ := by simp
  set_get _ := by simp
  set_set _ _ _ := by simp

namespace Proc

variable {ε σ τ α : Type}

/-- `p` acting on the part of the state that `l` selects. -/
def zoom (l : Lens τ σ) : Proc ε σ α → Proc ε τ α
  | resolve a => resolve a
  | reject e => reject e
  | access update next =>
    access (fun t => l.set (update (l.get t)) t) fun t => (next (l.get t)).zoom l

theorem zoom_bind {β : Type} (l : Lens τ σ) (p : Proc ε σ α) (f : α → Proc ε σ β) :
    (p >>= f).zoom l = p.zoom l >>= fun a => (f a).zoom l := by
  show (p.bind f).zoom l = (p.zoom l).bind fun a => (f a).zoom l
  induction p with
  | resolve a => rfl
  | reject e => rfl
  | access update next ih => exact congrArg (access _) (funext fun t => ih (l.get t))

@[simp] theorem run_zoom (l : Lens τ σ) (p : Proc ε σ α) (t : τ) :
    (p.zoom l).run t = ((p.run (l.get t)).1, l.set (p.run (l.get t)).2 t) := by
  induction p generalizing t with
  | resolve a => simp [zoom]
  | reject e => simp [zoom]
  | access update next ih =>
    show ((next (l.get t)).zoom l).run (l.set (update (l.get t)) t) = _
    rw [ih]
    simp [run]

end Proc

end Async
