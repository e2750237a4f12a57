import AccountLookup.Async.Linearization

/-! Concurrent calls of which only some change a view of the state, and depend on nothing else.  A run
of all calls is, for these, the run in which the others take no step. -/

namespace Async

namespace Proc

variable {ε σ τ α β : Type}

/-- From states with the same view, the computations settle alike and do the same to the view. -/
def Alike (view : σ → τ) : Proc ε σ α → Proc ε σ α → Prop
  | resolve a, q => q = resolve a
  | reject e, q => q = reject e
  | access update next, q => ∃ update' next', q = access update' next' ∧
      ∀ s t, view s = view t → view (update s) = view (update' t) ∧ (next s).Alike view (next' t)

/-- No access of `p` changes the view. -/
def Invisible (view : σ → τ) : Proc ε σ α → Prop
  | access update next => ∀ s, view (update s) = view s ∧ (next s).Invisible view
  | _ => True

variable {view : σ → τ} {p p' : Proc ε σ α} {f f' : α → Proc ε σ β}

theorem Alike.step (h : p.Alike view p') {s t : σ} (hst : view s = view t) :
    view (p.step s).2 = view (p'.step t).2 ∧ (p.step s).1.Alike view (p'.step t).1 := by
  cases p with
  | resolve a =>
    cases h
    exact ⟨hst, rfl⟩
  | reject e =>
    cases h
    exact ⟨hst, rfl⟩
  | access update next =>
    obtain ⟨update', next', rfl, hnext⟩ := h
    exact hnext s t hst

theorem Alike.of_settled (h : p.settled = true) : p.Alike view p := by
  cases p with
  | resolve a | reject e => exact rfl
  | access update next => cases h

theorem Alike.of_step (hp : p.settled = false)
    (h : ∀ s t, view s = view t → view (p.step s).2 = view (p.step t).2 ∧
      (p.step s).1.Alike view (p.step t).1) : p.Alike view p := by
  cases p with
  | resolve a | reject e => cases hp
  | access update next => exact ⟨update, next, rfl, h⟩

theorem Alike.eq_reject_iff (h : p.Alike view p') (e : ε) : p = reject e ↔ p' = reject e := by
  cases p with
  | resolve a =>
    cases h
    exact Iff.rfl
  | reject e' =>
    cases h
    exact Iff.rfl
  | access update next =>
    obtain ⟨update', next', rfl, -⟩ := h
    exact iff_of_false nofun nofun

theorem Alike.bind (h : p.Alike view p') (hf : ∀ a, (f a).Alike view (f' a)) :
    (p >>= f).Alike view (p' >>= f') := by
  show (p.bind f).Alike view (p'.bind f')
  induction p generalizing p' with
  | resolve a =>
    cases h
    exact hf a
  | reject e =>
    cases h
    exact rfl
  | access update next ih =>
    obtain ⟨update', next', rfl, hnext⟩ := h
    refine ⟨update', _, rfl, fun s t hst => ?_⟩
    obtain ⟨hview, halike⟩ := hnext s t hst
    exact ⟨hview, ih s halike⟩

theorem Alike.report (h : p.Alike view p') : p.report.Alike view p'.report := by
  induction p generalizing p' with
  | resolve a =>
    cases h
    exact rfl
  | reject e =>
    cases h
    exact rfl
  | access update next ih =>
    obtain ⟨update', next', rfl, hnext⟩ := h
    refine ⟨update', _, rfl, fun s t hst => ?_⟩
    obtain ⟨hview, halike⟩ := hnext s t hst
    exact ⟨hview, ih s halike⟩

theorem Alike.rethrow (h : p.Alike view p') (g : ε → ε) :
    (p.rethrow g).Alike view (p'.rethrow g) := by
  induction p generalizing p' with
  | resolve a =>
    cases h
    exact rfl
  | reject e =>
    cases h
    exact rfl
  | access update next ih =>
    obtain ⟨update', next', rfl, hnext⟩ := h
    refine ⟨update', _, rfl, fun s t hst => ?_⟩
    obtain ⟨hview, halike⟩ := hnext s t hst
    exact ⟨hview, ih s halike⟩

/-- A command of which the outcome, and what it leaves of the view, depend on the view. -/
theorem Alike.atomic {g : σ → Except ε α × σ}
    (h : ∀ s t, view s = view t → (g s).1 = (g t).1 ∧ view (g s).2 = view (g t).2) :
    (atomic g).Alike view (atomic g) := by
  refine ⟨_, _, rfl, fun s t hst => ?_⟩
  obtain ⟨houtcome, hview⟩ := h s t hst
  refine ⟨hview, ?_⟩
  dsimp only
  rw [houtcome]
  cases (g t).1 <;> exact rfl

theorem Invisible.step (h : p.Invisible view) (s : σ) :
    view (p.step s).2 = view s ∧ (p.step s).1.Invisible view := by
  cases p with
  | resolve a | reject e => exact ⟨rfl, trivial⟩
  | access update next => exact h s

theorem Invisible.of_step
    (h : ∀ s, view (p.step s).2 = view s ∧ (p.step s).1.Invisible view) : p.Invisible view := by
  cases p with
  | resolve a | reject e => trivial
  | access update next => exact h

theorem Invisible.of_settled (h : p.settled = true) : p.Invisible view := by
  cases p with
  | resolve a | reject e => trivial
  | access update next => cases h

theorem Invisible.bind (h : p.Invisible view) (hf : ∀ a, (f a).Invisible view) :
    (p >>= f).Invisible view := by
  show (p.bind f).Invisible view
  induction p with
  | resolve a => exact hf a
  | reject e => trivial
  | access update next ih => exact fun s => ⟨(h s).1, ih s (h s).2⟩

theorem Invisible.report (h : p.Invisible view) : p.report.Invisible view := by
  induction p with
  | resolve a | reject e => trivial
  | access update next ih => exact fun s => ⟨(h s).1, ih s (h s).2⟩

theorem Invisible.rethrow (h : p.Invisible view) (g : ε → ε) : (p.rethrow g).Invisible view := by
  induction p with
  | resolve a | reject e => trivial
  | access update next ih => exact fun s => ⟨(h s).1, ih s (h s).2⟩

theorem Invisible.atomic {g : σ → Except ε α × σ} (h : ∀ s, view (g s).2 = view s) :
    (atomic g).Invisible view := by
  intro s
  refine ⟨h s, ?_⟩
  dsimp only
  cases (g s).1 <;> trivial

end Proc

namespace Pool

variable {ε σ τ ι : Type} [DecidableEq ι] {view : σ → τ} {inside : ι → Bool}

/-- The pools have the same view, the calls inside are alike in both, and those outside leave the
view. -/
structure Projects (view : σ → τ) (inside : ι → Bool) (pool pool' : Pool ε σ ι) : Prop where
  state : view pool.state = view pool'.state
  alike : ∀ i, inside i = true → (pool.calls i).Alike view (pool'.calls i)
  invisible : ∀ i, inside i = false → (pool.calls i).Invisible view

variable {pool pool' : Pool ε σ ι}

theorem Projects.step_inside (h : Projects view inside pool pool') {i : ι} (hi : inside i = true) :
    Projects view inside (pool.step i) (pool'.step i) := by
  obtain ⟨hview, halike⟩ := (h.alike i hi).step h.state
  refine ⟨hview, ?_, ?_⟩
  · intro j hj
    by_cases hji : j = i
    · subst hji
      rw [step_calls_self, step_calls_self]
      exact halike
    · rw [step_calls_of_ne hji, step_calls_of_ne hji]
      exact h.alike j hj
  · intro j hj
    have hji : j ≠ i := by
      rintro rfl
      rw [hi] at hj
      cases hj
    rw [step_calls_of_ne hji]
    exact h.invisible j hj

theorem Projects.step_outside (h : Projects view inside pool pool') {i : ι}
    (hi : inside i = false) : Projects view inside (pool.step i) pool' := by
  obtain ⟨hview, hinvisible⟩ := (h.invisible i hi).step pool.state
  refine ⟨hview.trans h.state, ?_, ?_⟩
  · intro j hj
    have hji : j ≠ i := by
      rintro rfl
      rw [hi] at hj
      cases hj
    rw [step_calls_of_ne hji]
    exact h.alike j hj
  · intro j hj
    by_cases hji : j = i
    · subst hji
      rw [step_calls_self]
      exact hinvisible
    · rw [step_calls_of_ne hji]
      exact h.invisible j hj

/-- A run goes, for the view and the calls inside, as the run of the steps inside alone. -/
theorem Projects.run (h : Projects view inside pool pool') (schedule : List ι) :
    Projects view inside (pool.run schedule) (pool'.run (schedule.filter inside)) := by
  induction schedule generalizing pool pool' with
  | nil => exact h
  | cons i rest ih =>
    cases hi : inside i with
    | true =>
      rw [List.filter_cons_of_pos hi]
      exact ih (h.step_inside hi)
    | false =>
      rw [List.filter_cons_of_neg (by rw [hi]; exact nofun)]
      exact ih (h.step_outside hi)

/-- When the calls inside depend on the view alone and those outside leave it, the view after any steps,
and which calls inside have settled with what, are those of the steps inside alone. -/
theorem projected {α : Type} {calls : ι → Proc ε σ α}
    (hinside : ∀ i, inside i = true → (calls i).Alike view (calls i))
    (houtside : ∀ i, inside i = false → (calls i).Invisible view) (s : σ) (schedule : List ι) :
    let all := (answering calls s).run schedule
    let alone := (answering calls s).run (schedule.filter inside)
    view all.state = view alone.state ∧
      ∀ i, inside i = true → ∀ answer, all.calls i = .reject answer ↔ alone.calls i = .reject answer := by
  have hstart : Projects view inside (answering calls s) (answering calls s) :=
    ⟨rfl, fun i hi => (hinside i hi).report, fun i hi => (houtside i hi).report⟩
  have hrun := hstart.run schedule
  exact ⟨hrun.state, fun i hi answer => (hrun.alike i hi).eq_reject_iff answer⟩

end Pool

end Async
