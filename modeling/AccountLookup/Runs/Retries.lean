import AccountLookup.Runs.Invariant

/-! Runs of a system whose inputs write parts of its state, completely or not: the last complete write to
a part decides it, so the inputs that are given again, after any attempts that failed or were cut off,
lead to what they lead to at once. -/

namespace Runs

variable {σ ι κ ν : Type}

/-- In every state with `J`, an input leaves each part as it is or writes it, and one that is complete
makes all of its writes. -/
structure Writes (next : σ → ι → σ) (J : σ → Prop) (part : σ → κ → ν) (write : ι → κ → ν → Prop)
    (complete : ι → Prop) : Prop where
  keeps : ∀ s i, J s → J (next s i)
  unique : ∀ {i k v v'}, write i k v → write i k v' → v = v'
  writes : ∀ {s i} k, J s →
    part (next s i) k = part s k ∨ ∃ v, write i k v ∧ part (next s i) k = v
  completes : ∀ {s i k v}, J s → complete i → write i k v → part (next s i) k = v

namespace Writes

variable {next : σ → ι → σ} {J : σ → Prop} {part : σ → κ → ν} {write : ι → κ → ν → Prop}
  {complete : ι → Prop} (h : Writes next J part write complete)
include h

/-- A part that no input writes stays as it is. -/
theorem part_run {s : σ} (hs : J s) {k : κ} {steps : List ι}
    (hsteps : ∀ i ∈ steps, ∀ v, ¬write i k v) : part (steps.foldl next s) k = part s k := by
  induction steps generalizing s with
  | nil => rfl
  | cons i rest ih =>
    have hrest : ∀ j ∈ rest, ∀ v, ¬write j k v := fun j hmem => hsteps j (List.mem_cons_of_mem _ hmem)
    rw [List.foldl_cons, ih (h.keeps s i hs) hrest]
    rcases h.writes k hs with hsame | ⟨v, hwrite, -⟩
    · exact hsame
    · exact absurd hwrite (hsteps i List.mem_cons_self v)

/-- Two runs of the same complete inputs end with the same part, if it is the same at their starts or
some input writes it. -/
theorem part_run_eq {s t : σ} (hs : J s) (ht : J t) {k : κ} {steps : List ι}
    (hcomplete : ∀ i ∈ steps, complete i)
    (hstart : part s k = part t k ∨ ∃ i ∈ steps, ∃ v, write i k v) :
    part (steps.foldl next s) k = part (steps.foldl next t) k := by
  induction steps generalizing s t with
  | nil =>
    rcases hstart with hstart | ⟨_, hmem, -⟩
    · exact hstart
    · exact nomatch hmem
  | cons i rest ih =>
    refine ih (h.keeps s i hs) (h.keeps t i ht)
      (fun j hmem => hcomplete j (List.mem_cons_of_mem _ hmem)) ?_
    by_cases hwrite : ∃ v, write i k v
    · obtain ⟨v, hwrite⟩ := hwrite
      have hi := hcomplete i List.mem_cons_self
      exact .inl ((h.completes hs hi hwrite).trans (h.completes ht hi hwrite).symm)
    · rcases hstart with hstart | ⟨j, hmem, v, hv⟩
      · have hsame {u : σ} (hu : J u) : part (next u i) k = part u k :=
          (h.writes k hu).resolve_right fun ⟨v, hv, _⟩ => hwrite ⟨v, hv⟩
        exact .inl ((hsame hs).trans (hstart.trans (hsame ht).symm))
      · rcases List.mem_cons.mp hmem with rfl | hmem
        · exact absurd ⟨v, hv⟩ hwrite
        · exact .inr ⟨j, hmem, v, hv⟩

/-- The inputs lead to the same parts after attempts that write nothing else. -/
theorem retried {s : σ} (hs : J s) {attempts steps : List ι} (hcomplete : ∀ i ∈ steps, complete i)
    (hattempts : ∀ i ∈ attempts, ∀ k v, write i k v → ∃ j ∈ steps, ∃ v, write j k v) (k : κ) :
    part (steps.foldl next (attempts.foldl next s)) k = part (steps.foldl next s) k := by
  apply h.part_run_eq (invariant_of_step h.keeps hs attempts) hs hcomplete
  by_cases hwritten : ∃ j ∈ steps, ∃ v, write j k v
  · exact .inr hwritten
  · exact .inl (h.part_run hs fun i hmem v hv => hwritten (hattempts i hmem k v hv))

end Writes

end Runs
