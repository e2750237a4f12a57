import AccountLookup.Async.Proc
import AccountLookup.Runs.Invariant
import Mathlib.Logic.Function.Basic

/-! Calls that run concurrently over one state.  A run is a list of calls, each of which takes its
next access when its turn comes, so every order of the accesses is the run of some list. -/

namespace Async

/-- The state, and what is left of each of the calls `ι`. -/
structure Pool (ε σ ι : Type) where
  state : σ
  calls : ι → Proc ε σ Unit

namespace Pool

variable {ε σ ι : Type} [DecidableEq ι]

/-- The call `i` takes its next access, if it has one. -/
def step (pool : Pool ε σ ι) (i : ι) : Pool ε σ ι where
  state := ((pool.calls i).step pool.state).2
  calls := Function.update pool.calls i ((pool.calls i).step pool.state).1

def run (pool : Pool ε σ ι) (schedule : List ι) : Pool ε σ ι := schedule.foldl step pool

omit [DecidableEq ι] in
/-- Every call has settled. -/
def Settled (pool : Pool ε σ ι) : Prop := ∀ i, (pool.calls i).settled = true

/-- Every call has resolved. -/
def Resolved (pool : Pool ε σ ι) : Prop := ∀ i, pool.calls i = .resolve ()

variable {pool : Pool ε σ ι} {i : ι}

theorem step_eq {p : Proc ε σ Unit} {s : σ} (h : (pool.calls i).step pool.state = (p, s)) :
    pool.step i = ⟨s, Function.update pool.calls i p⟩ := by
  unfold step
  rw [h]

theorem step_access {update : σ → σ} {next : σ → Proc ε σ Unit}
    (h : pool.calls i = .access update next) :
    pool.step i = ⟨update pool.state, Function.update pool.calls i (next pool.state)⟩ :=
  step_eq (by rw [h]; rfl)

theorem step_of_settled (h : (pool.calls i).settled = true) : pool.step i = pool := by
  rw [step_eq (Proc.step_of_settled pool.state h), Function.update_eq_self]

theorem step_calls_self : (pool.step i).calls i = ((pool.calls i).step pool.state).1 :=
  Function.update_self ..

theorem step_calls_of_ne {j : ι} (h : j ≠ i) : (pool.step i).calls j = pool.calls j :=
  Function.update_of_ne h ..

/-- What each call keeps in its own steps, all calls keep. -/
theorem forall_step {R : ι → Proc ε σ Unit → Prop} (hstep : ∀ s p, R i p → R i (p.step s).1)
    (h : ∀ j, R j (pool.calls j)) (j : ι) : R j ((pool.step i).calls j) := by
  by_cases hj : j = i
  · subst hj
    rw [step_calls_self]
    exact hstep pool.state _ (h j)
  · rw [step_calls_of_ne hj]
    exact h j

end Pool

end Async
