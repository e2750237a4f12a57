import AccountLookup.Async.Linearization

/-! Calls that run at the same time over a state with a cache, whose entries expire some time after they
are written: how old what the calls answer can be. -/

namespace Async

variable {ε σ κ ν α β ι : Type}

/-- A cache in the state: the live entry of a key, and the state in which only some entries stay. -/
structure Expiring (σ κ ν : Type) where
  get : σ → κ → Option ν
  keep : (κ → Bool) → σ → σ
  get_keep : ∀ p s k, get (keep p s) k = if p k then get s k else none

/-- An update writes the entry of a key when it leaves one there in an empty cache. -/
def Expiring.writes (e : Expiring σ κ ν) (update : σ → σ) (s : σ) (k : κ) : Bool :=
  (e.get (update (e.keep (fun _ => false) s)) k).isSome

/-- An update that adds no entry writes none. -/
theorem Expiring.writes_eq_false {e : Expiring σ κ ν} {update : σ → σ}
    (h : ∀ s k v, e.get (update s) k = some v → e.get s k = some v) (s : σ) (k : κ) :
    e.writes update s k = false := by
  unfold writes
  cases hget : e.get (update (e.keep (fun _ => false) s)) k with
  | none => rfl
  | some v =>
    have hkeep := h _ k v hget
    rw [e.get_keep] at hkeep
    cases hkeep

namespace Proc

variable (e : Expiring σ κ ν) (right : σ → κ → ν → Prop)

/-- Each access of the computation writes only values that were right after one of its accesses so far,
and it settles with `Q` of those values and of the entries that are live then. -/
def Backs (Q : (κ → ν → Prop) → (κ → ν → Prop) → Except ε α → Prop) :
    Proc ε σ α → (κ → ν → Prop) → (κ → ν → Prop) → Prop
  | resolve a, seen, live => Q seen live (.ok a)
  | reject error, seen, live => Q seen live (.error error)
  | access update next, seen, _ => ∀ s,
    (∀ k v, e.get (update s) k = some v →
        if e.writes update s k then seen k v ∨ right (update s) k v else e.get s k = some v) ∧
      (next s).Backs Q (fun k v => seen k v ∨ right (update s) k v)
        fun k v => e.get (update s) k = some v

variable {e right} {Q Q' : (κ → ν → Prop) → (κ → ν → Prop) → Except ε α → Prop}
  {seen live : κ → ν → Prop} {p : Proc ε σ α}

theorem Backs.mono (h : p.Backs e right Q seen live)
    (hQ : ∀ seen live outcome, Q seen live outcome → Q' seen live outcome) :
    p.Backs e right Q' seen live := by
  induction p generalizing seen live with
  | resolve a => exact hQ _ _ _ h
  | reject error => exact hQ _ _ _ h
  | access update next ih => exact fun s => ⟨(h s).1, ih s (h s).2⟩

variable (e right) in
/-- What is to hold where a computation is followed by `f`. -/
def ThenBacks (f : α → Proc ε σ β) (Q : (κ → ν → Prop) → (κ → ν → Prop) → Except ε β → Prop)
    (seen live : κ → ν → Prop) : Except ε α → Prop
  | .ok a => (f a).Backs e right Q seen live
  | .error error => Q seen live (.error error)

theorem Backs.bind {f : α → Proc ε σ β}
    {Q : (κ → ν → Prop) → (κ → ν → Prop) → Except ε β → Prop}
    (h : p.Backs e right (ThenBacks e right f Q) seen live) :
    (p >>= f).Backs e right Q seen live := by
  induction p generalizing seen live with
  | resolve a => exact h
  | reject error => exact h
  | access update next ih => exact fun s => ⟨(h s).1, ih s (h s).2⟩

theorem Backs.rethrow {g : ε → ε}
    (h : p.Backs e right (fun seen live outcome => Q seen live (outcome.mapError g)) seen live) :
    (p.rethrow g).Backs e right Q seen live := by
  induction p generalizing seen live with
  | resolve a => exact h
  | reject error => exact h
  | access update next ih => exact fun s => ⟨(h s).1, ih s (h s).2⟩

/-- The answer of a computation that is reported. -/
def Reported (Q : (κ → ν → Prop) → (κ → ν → Prop) → Except ε α → Prop) (seen live : κ → ν → Prop) :
    Except (Except ε α) Unit → Prop
  | .ok () => True
  | .error answer => Q seen live answer

theorem Backs.report (h : p.Backs e right Q seen live) :
    p.report.Backs e right (Reported Q) seen live := by
  induction p generalizing seen live with
  | resolve a => exact h
  | reject error => exact h
  | access update next ih => exact fun s => ⟨(h s).1, ih s (h s).2⟩

theorem Backs.step (h : p.Backs e right Q seen live) (hp : p.settled = false) (s : σ) :
    (∀ k v, e.get (p.step s).2 k = some v →
        if e.writes (fun s => (p.step s).2) s k then seen k v ∨ right (p.step s).2 k v
        else e.get s k = some v) ∧
      (p.step s).1.Backs e right Q (fun k v => seen k v ∨ right (p.step s).2 k v)
        fun k v => e.get (p.step s).2 k = some v := by
  cases p with
  | access update next => exact h s
  | resolve a | reject error => cases hp

end Proc

/-- What happens to calls over a cache: one of them takes its next access, or time passes. -/
inductive Turn (ι : Type) where
  | step (i : ι)
  | wait (ticks : ℕ)
  deriving DecidableEq

/-- Calls over a cache, the time, and when the entry of each key expires. -/
structure TimedPool (ε σ κ ι : Type) where
  pool : Pool ε σ ι
  clock : ℕ
  expires : κ → ℕ

namespace TimedPool

variable [DecidableEq ι] (e : Expiring σ κ ν) (duration : ℕ)

/-- An access that writes an entry lets it expire after the duration.  An entry stays through the tick
at which it expires. -/
def next (timed : TimedPool ε σ κ ι) : Turn ι → TimedPool ε σ κ ι
  | .step i =>
    { pool := timed.pool.step i
      clock := timed.clock
      expires := fun k =>
        if e.writes (fun s => ((timed.pool.calls i).step s).2) timed.pool.state k then
          timed.clock + duration
        else timed.expires k }
  | .wait ticks =>
    { timed with
      pool :=
        { timed.pool with
          state := e.keep (fun k => timed.clock + ticks ≤ timed.expires k) timed.pool.state }
      clock := timed.clock + ticks }

variable (calls : ι → Proc ε σ α) (s : σ)

/-- The calls after some turns, which start with an empty cache. -/
def after (turns : List (Turn ι)) : TimedPool (Except ε α) σ κ ι :=
  turns.foldl (next e duration)
    { pool := Pool.answering calls (e.keep (fun _ => false) s), clock := 0, expires := fun _ => 0 }

theorem after_append (turns : List (Turn ι)) (turn : Turn ι) :
    after e duration calls s (turns ++ [turn]) =
      (after e duration calls s turns).next e duration turn := by
  unfold after
  rw [List.foldl_append]
  rfl

variable (right : σ → κ → ν → Prop)

/-- The value was right after some access of the call. -/
def SeenBy (turns : List (Turn ι)) (i : ι) (k : κ) (v : ν) : Prop :=
  ∃ earlier, earlier ++ [.step i] <+: turns ∧
    right (after e duration calls s (earlier ++ [.step i])).pool.state k v

/-- The value was right after some access of a call, a later access of which was made no longer ago than
the duration. -/
def Recent (turns : List (Turn ι)) (k : κ) (v : ν) : Prop :=
  ∃ i written, written ++ [.step i] <+: turns ∧
    SeenBy e duration calls s right (written ++ [.step i]) i k v ∧
    (after e duration calls s turns).clock ≤
      (after e duration calls s (written ++ [.step i])).clock + duration

/-! ### What is live and what is known after some turns -/

/-- Each live entry was written no longer ago than the duration, by a call that had seen its value, and
each call is left to write what it has seen. -/
structure Backed (Q : ι → (κ → ν → Prop) → (κ → ν → Prop) → Except ε α → Prop)
    (turns : List (Turn ι)) : Prop where
  entries : ∀ k v, e.get (after e duration calls s turns).pool.state k = some v →
    (after e duration calls s turns).clock ≤ (after e duration calls s turns).expires k ∧
      ∃ i written, written ++ [.step i] <+: turns ∧
        SeenBy e duration calls s right (written ++ [.step i]) i k v ∧
        (after e duration calls s turns).expires k =
          (after e duration calls s (written ++ [.step i])).clock + duration
  calls : ∀ i, ∃ seen live,
    (∀ k v, seen k v → SeenBy e duration calls s right turns i k v) ∧
      ((after e duration calls s turns).pool.calls i).Backs e right (Proc.Reported (Q i)) seen live

variable {e duration calls s right} {Q : ι → (κ → ν → Prop) → (κ → ν → Prop) → Except ε α → Prop}
  {turns : List (Turn ι)} {i : ι}

theorem SeenBy.mono {turns' : List (Turn ι)} {k : κ} {v : ν}
    (h : SeenBy e duration calls s right turns i k v) (hturns : turns <+: turns') :
    SeenBy e duration calls s right turns' i k v := by
  obtain ⟨earlier, hearlier, hright⟩ := h
  exact ⟨earlier, hearlier.trans hturns, hright⟩

theorem seenBy_step {seen : κ → ν → Prop}
    (hseen : ∀ k v, seen k v → SeenBy e duration calls s right turns i k v) {k : κ} {v : ν}
    (h : seen k v ∨ right (after e duration calls s (turns ++ [.step i])).pool.state k v) :
    SeenBy e duration calls s right (turns ++ [.step i]) i k v := by
  rcases h with h | h
  · exact (hseen k v h).mono (List.prefix_append turns [.step i])
  · exact ⟨turns, List.prefix_rfl, h⟩

theorem backed_nil
    (hcalls : ∀ i, (calls i).Backs e right (Q i) (fun _ _ => False) fun _ _ => False) :
    Backed e duration calls s right Q [] where
  entries k v h := by
    change e.get (e.keep (fun _ => false) s) k = some v at h
    rw [e.get_keep] at h
    cases h
  calls i := ⟨fun _ _ => False, fun _ _ => False, fun _ _ h => h.elim, (hcalls i).report⟩

theorem Backed.wait (h : Backed e duration calls s right Q turns) (ticks : ℕ) :
    Backed e duration calls s right Q (turns ++ [.wait ticks]) where
  entries k v hget := by
    rw [after_append] at hget ⊢
    simp only [next, e.get_keep] at hget ⊢
    split_ifs at hget with hlive
    obtain ⟨-, i, written, hwritten, hseen, hexpires⟩ := h.entries k v hget
    exact ⟨of_decide_eq_true hlive, i, written, hwritten.trans (List.prefix_append turns _), hseen,
      hexpires⟩
  calls i := by
    obtain ⟨seen, live, hseen, hbacks⟩ := h.calls i
    refine ⟨seen, live, fun k v hk => (hseen k v hk).mono (List.prefix_append turns _), ?_⟩
    rw [after_append]
    exact hbacks

theorem Backed.step_settled (h : Backed e duration calls s right Q turns)
    (hi : ((after e duration calls s turns).pool.calls i).settled = true) :
    Backed e duration calls s right Q (turns ++ [.step i]) := by
  have hnext : after e duration calls s (turns ++ [.step i]) = after e duration calls s turns := by
    rw [after_append]
    simp only [next, Pool.step_of_settled hi, Proc.step_of_settled _ hi,
      Expiring.writes_eq_false fun _ _ _ h => h]
    rfl
  refine ⟨?_, ?_⟩
  · intro k v hget
    rw [hnext] at hget ⊢
    obtain ⟨hclock, j, written, hwritten, hseen, hexpires⟩ := h.entries k v hget
    exact ⟨hclock, j, written, hwritten.trans (List.prefix_append turns _), hseen, hexpires⟩
  · intro j
    rw [hnext]
    obtain ⟨seen, live, hseen, hbacks⟩ := h.calls j
    exact ⟨seen, live, fun k v hk => (hseen k v hk).mono (List.prefix_append turns _), hbacks⟩

/-- A step of a call that is waiting, in terms of the turns. -/
theorem Backed.next_of_waiting (h : Backed e duration calls s right Q turns)
    (hi : ((after e duration calls s turns).pool.calls i).settled = false) :
    ∃ seen : κ → ν → Prop, (∀ k v, seen k v → SeenBy e duration calls s right turns i k v) ∧
      let t := after e duration calls s turns
      let t' := after e duration calls s (turns ++ [.step i])
      (∀ k v, e.get t'.pool.state k = some v →
        if e.writes (fun s => ((t.pool.calls i).step s).2) t.pool.state k then
          seen k v ∨ right t'.pool.state k v
        else e.get t.pool.state k = some v) ∧
      (t'.pool.calls i).Backs e right (Proc.Reported (Q i))
        (fun k v => seen k v ∨ right t'.pool.state k v) fun k v => e.get t'.pool.state k = some v := by
  obtain ⟨seen, live, hseen, hbacks⟩ := h.calls i
  have hstep := hbacks.step hi (after e duration calls s turns).pool.state
  refine ⟨seen, hseen, ?_⟩
  dsimp only
  rw [after_append]
  simp only [next, Pool.step_calls_self]
  exact hstep

theorem Backed.step_waiting (h : Backed e duration calls s right Q turns)
    (hi : ((after e duration calls s turns).pool.calls i).settled = false) :
    Backed e duration calls s right Q (turns ++ [.step i]) := by
  obtain ⟨seen, hseen, hwrites, hnext⟩ := h.next_of_waiting hi
  refine ⟨?_, ?_⟩
  · intro k v hget
    have hbacked := hwrites k v hget
    rw [after_append e duration calls s turns]
    simp only [next]
    split_ifs at hbacked ⊢ with hwritten
    · refine ⟨Nat.le_add_right _ _, i, turns, List.prefix_rfl, seenBy_step hseen hbacked, ?_⟩
      rw [after_append]
      rfl
    · obtain ⟨hclock, j, written, hprefix, hseen', hexpires⟩ := h.entries k v hbacked
      exact ⟨hclock, j, written, hprefix.trans (List.prefix_append turns _), hseen', hexpires⟩
  · intro j
    by_cases hj : j = i
    · subst hj
      exact ⟨_, _, fun k v hk => seenBy_step hseen hk, hnext⟩
    · obtain ⟨seen', live', hseen', hbacks'⟩ := h.calls j
      refine ⟨seen', live', fun k v hk => (hseen' k v hk).mono (List.prefix_append turns _), ?_⟩
      rw [after_append]
      simp only [next, Pool.step_calls_of_ne hj]
      exact hbacks'

theorem backed (hcalls : ∀ i, (calls i).Backs e right (Q i) (fun _ _ => False) fun _ _ => False)
    (turns : List (Turn ι)) : Backed e duration calls s right Q turns := by
  induction turns using List.reverseRecOn with
  | nil => exact backed_nil hcalls
  | append_singleton turns turn ih =>
    cases turn with
    | wait ticks => exact ih.wait ticks
    | step i =>
      cases hi : ((after e duration calls s turns).pool.calls i).settled with
      | true => exact ih.step_settled hi
      | false => exact ih.step_waiting hi

/-- What a call settles with is backed by what it has seen, or by an entry that is live then: the values
that it vouches for are recent. -/
theorem recent_of_answer {vouches : ι → Except ε α → κ → ν → Prop}
    (hcalls : ∀ i, (calls i).Backs e right
      (fun seen live answer => ∀ k v, vouches i answer k v → seen k v ∨ live k v)
      (fun _ _ => False) fun _ _ => False)
    (hi : ((after e duration calls s turns).pool.calls i).settled = false) {answer : Except ε α}
    (hanswer : (after e duration calls s (turns ++ [.step i])).pool.calls i = .reject answer)
    {k : κ} {v : ν} (hvouches : vouches i answer k v) :
    Recent e duration calls s right (turns ++ [.step i]) k v := by
  obtain ⟨seen, hseen, -, hnext⟩ := (backed hcalls turns).next_of_waiting hi
  rw [hanswer] at hnext
  rcases hnext k v hvouches with hbacked | hlive
  · exact ⟨i, turns, List.prefix_rfl, seenBy_step hseen hbacked, Nat.le_add_right _ _⟩
  · obtain ⟨hclock, j, written, hprefix, hseen', hexpires⟩ :=
      (backed hcalls (turns ++ [.step i])).entries k v hlive
    exact ⟨j, written, hprefix, hseen', hexpires ▸ hclock⟩

end TimedPool

end Async
