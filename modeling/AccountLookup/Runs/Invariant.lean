/-! Runs of a system that takes one step after another: what holds in all their states, by what one
step does. -/

namespace Runs

variable {σ ι : Type} (next : σ → ι → σ)

/-- Every step of the run is made in a state in which its condition `C` holds. -/
def Each (C : σ → ι → Prop) : σ → List ι → Prop
  | _, [] => True
  | s, i :: rest => C s i ∧ Each C (next s i) rest

/-- `P` holds in every state of the run, the first and the last ones included. -/
def Always (P : σ → Prop) : σ → List ι → Prop
  | s, [] => P s
  | s, i :: rest => P s ∧ Always P (next s i) rest

variable {next} {P : σ → Prop} {C : σ → ι → Prop}

/-- What every step preserves under its condition holds at the end of a run whose steps all meet
it. -/
theorem invariant (hstep : ∀ s i, P s → C s i → P (next s i)) {s : σ} (hs : P s) {steps : List ι}
    (h : Each next C s steps) : P (steps.foldl next s) := by
  induction steps generalizing s with
  | nil => exact hs
  | cons i rest ih => exact ih (hstep s i hs h.1) h.2

/-- Under the same condition it holds in every state of the run. -/
theorem always_of_each (hstep : ∀ s i, P s → C s i → P (next s i)) {s : σ} (hs : P s)
    {steps : List ι} (h : Each next C s steps) : Always next P s steps := by
  induction steps generalizing s with
  | nil => exact hs
  | cons i rest ih => exact ⟨hs, ih (hstep s i hs h.1) h.2⟩

/-- What every step preserves without a condition holds at the end of every run. -/
theorem invariant_of_step (hstep : ∀ s i, P s → P (next s i)) {s : σ} (hs : P s) (steps : List ι) :
    P (steps.foldl next s) := by
  induction steps generalizing s with
  | nil => exact hs
  | cons i rest ih => exact ih (hstep s i hs)

/-- What holds at the start of a run and not at its end was lost in a step of the run that has a cause for
it. -/
theorem loss_of_step {cause : ι → Prop} (hstep : ∀ s i, P s → P (next s i) ∨ cause i) {s : σ}
    (hs : P s) (steps : List ι) : P (steps.foldl next s) ∨ ∃ i ∈ steps, cause i := by
  induction steps generalizing s with
  | nil => exact .inl hs
  | cons i rest ih =>
    rcases hstep s i hs with hnext | hcause
    · rcases ih hnext with hend | ⟨j, hmem, hcause⟩
      · exact .inl hend
      · exact .inr ⟨j, List.mem_cons_of_mem _ hmem, hcause⟩
    · exact .inr ⟨i, List.mem_cons_self, hcause⟩

/-- What a condition implies in every state with the invariant `J`, it implies for whole runs. -/
theorem each_mono {J : σ → Prop} (hJ : ∀ s i, J s → J (next s i)) {D : σ → ι → Prop}
    (himp : ∀ s i, J s → C s i → D s i) {s : σ} (hs : J s) {steps : List ι}
    (h : Each next C s steps) : Each next D s steps := by
  induction steps generalizing s with
  | nil => trivial
  | cons i rest ih => exact ⟨himp s i hs h.1, ih (hJ s i hs) h.2⟩

/-- Two conditions that say the same in every state with the invariant `J` are met by the same runs. -/
theorem each_congr {J : σ → Prop} (hJ : ∀ s i, J s → J (next s i)) {D : σ → ι → Prop}
    (hiff : ∀ s i, J s → (C s i ↔ D s i)) {s : σ} (hs : J s) (steps : List ι) :
    Each next C s steps ↔ Each next D s steps :=
  ⟨each_mono hJ (fun s i h => (hiff s i h).mp) hs, each_mono hJ (fun s i h => (hiff s i h).mpr) hs⟩

/-- When a step preserves `P` exactly under its condition, in every state with the invariant `J`, a run
keeps `P` exactly when all its steps meet theirs. -/
theorem always_iff_each_of {J : σ → Prop} (hJ : ∀ s i, J s → J (next s i))
    (hstep : ∀ s i, J s → P s → (P (next s i) ↔ C s i)) {s : σ} (hinv : J s) (hs : P s)
    (steps : List ι) : Always next P s steps ↔ Each next C s steps := by
  induction steps generalizing s with
  | nil => exact ⟨fun _ => trivial, fun _ => hs⟩
  | cons i rest ih =>
    constructor
    · intro h
      obtain ⟨-, hrest⟩ := h
      have hnext : P (next s i) := by
        cases rest with
        | nil => exact hrest
        | cons j rest => exact hrest.1
      exact ⟨(hstep s i hinv hs).mp hnext, (ih (hJ s i hinv) hnext).mp hrest⟩
    · intro h
      obtain ⟨hfirst, hrest⟩ := h
      have hnext := (hstep s i hinv hs).mpr hfirst
      exact ⟨hs, (ih (hJ s i hinv) hnext).mpr hrest⟩

theorem always_iff_each (hstep : ∀ s i, P s → (P (next s i) ↔ C s i)) {s : σ} (hs : P s)
    (steps : List ι) : Always next P s steps ↔ Each next C s steps :=
  always_iff_each_of (J := fun _ => True) (fun _ _ _ => trivial) (fun s i _ => hstep s i) trivial hs
    steps

theorem Always.start {s : σ} {steps : List ι} (h : Always next P s steps) : P s := by
  cases steps with
  | nil => exact h
  | cons i rest => exact h.1

/-- When, besides, no step restores `P` once it is lost, `P` holds at the end of a run exactly when it
holds at its start and all the steps meet their conditions. -/
theorem end_iff_each {J : σ → Prop} (hJ : ∀ s i, J s → J (next s i))
    (hstep : ∀ s i, J s → P s → (P (next s i) ↔ C s i))
    (hlost : ∀ s i, J s → ¬P s → ¬P (next s i)) {s : σ} (hinv : J s) (steps : List ι) :
    P (steps.foldl next s) ↔ P s ∧ Each next C s steps := by
  induction steps generalizing s with
  | nil => exact ⟨fun h => ⟨h, trivial⟩, And.left⟩
  | cons i rest ih =>
    rw [List.foldl_cons, ih (hJ s i hinv)]
    constructor
    · intro h
      obtain ⟨hnext, hrest⟩ := h
      by_cases hs : P s
      · exact ⟨hs, (hstep s i hinv hs).mp hnext, hrest⟩
      · exact absurd hnext (hlost s i hinv hs)
    · intro h
      obtain ⟨hs, hfirst, hrest⟩ := h
      exact ⟨(hstep s i hinv hs).mpr hfirst, hrest⟩

end Runs
