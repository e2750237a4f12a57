/-! Systems that answer one input after another, and simulations between them. -/

namespace Runs

variable {σ τ ι κ ο : Type}

/-- The answers to the inputs, and the state after the last of them. -/
def answers (next : σ → ι → ο × σ) : σ → List ι → List ο × σ
  | s, [] => ([], s)
  | s, i :: rest =>
    let (answer, t) := next s i
    (answer :: (answers next t rest).1, (answers next t rest).2)

variable {next : σ → ι → ο × σ} {next' : τ → κ → ο × τ} {R : σ → τ → Prop} {f : ι → κ}

/-- When each step changes a view of the state as the input and its answer tell, all inputs and their
answers tell the view at the end. -/
theorem answers_followed {υ : Type} {view : σ → υ} {follow : υ → ι × ο → υ} {J : σ → Prop}
    {C : ι → Prop} (hkept : ∀ s i, J s → J (next s i).2)
    (hstep : ∀ s i, J s → C i → view (next s i).2 = follow (view s) (i, (next s i).1)) {s : σ}
    (hs : J s) {inputs : List ι} (hinputs : ∀ i ∈ inputs, C i) :
    view (answers next s inputs).2 =
      (inputs.zip (answers next s inputs).1).foldl follow (view s) := by
  induction inputs generalizing s with
  | nil => rfl
  | cons i rest ih =>
    have hrest : ∀ j ∈ rest, C j := fun j hmem => hinputs j (List.mem_cons_of_mem _ hmem)
    have hnext := ih (hkept s i hs) hrest
    rw [hstep s i hs (hinputs i List.mem_cons_self)] at hnext
    exact hnext

/-- Two systems of which each step gives related states and the same answer, from related states, give
the same answers to all inputs. -/
theorem answers_of_simulates
    (hstep : ∀ s t i, R s t →
      (next s i).1 = (next' t (f i)).1 ∧ R (next s i).2 (next' t (f i)).2)
    {s : σ} {t : τ} (h : R s t) (inputs : List ι) :
    (answers next s inputs).1 = (answers next' t (inputs.map f)).1 ∧
      R (answers next s inputs).2 (answers next' t (inputs.map f)).2 := by
  induction inputs generalizing s t with
  | nil => exact ⟨rfl, h⟩
  | cons i rest ih =>
    obtain ⟨hanswer, hnext⟩ := hstep s t i h
    obtain ⟨hanswers, hend⟩ := ih hnext
    refine ⟨?_, hend⟩
    show _ :: _ = _ :: _
    rw [hanswer, hanswers]

end Runs
