import AccountLookup.Async.Pool
import AccountLookup.Lists.Distinct
import Mathlib.Data.List.Induction

/-! Concurrent calls of which each does all that it does to a view of the state in its first step.  A
run of them is the run of the same calls one after the other, in the order of their first steps. -/

namespace Async

namespace Proc

variable {ε σ τ φ α : Type}

/-- `p` as a call of a pool.  A settled call of a pool keeps no value, so it ends by rejecting with the
outcome of `p`. -/
def report : Proc ε σ α → Proc (Except ε α) σ Unit
  | resolve a => reject (.ok a)
  | reject e => reject (.error e)
  | access update next => access update fun s => (next s).report

@[simp] theorem settled_report (p : Proc ε σ α) : p.report.settled = p.settled := by
  cases p <;> rfl

@[simp] theorem step_report (p : Proc ε σ α) (s : σ) :
    p.report.step s = ((p.step s).1.report, (p.step s).2) := by
  cases p <;> rfl

/-- `p` settles with `outcome` in at most so many accesses, none of which changes the view. -/
def Finishes (view : σ → τ) (outcome : Except ε α) : Proc ε σ α → ℕ → Prop
  | resolve a, _ => outcome = .ok a
  | reject e, _ => outcome = .error e
  | access _ _, 0 => False
  | access update next, n + 1 => ∀ s, view (update s) = view s ∧ (next s).Finishes view outcome n

/-- From every state the first access of `p` changes the view as `f` does, and `p` finishes with the
outcome of `f` in at most `n` more. -/
def TakesEffect (view : σ → τ) (f : τ → Except ε α × τ) (n : ℕ) (p : Proc ε σ α) : Prop :=
  ∀ s, view (p.step s).2 = (f (view s)).2 ∧ (p.step s).1.Finishes view (f (view s)).1 n

/-- Each access of `p` stores something in `file` that satisfies `P`. -/
def Stores (file : σ → φ) (P : φ → Prop) : Proc ε σ α → Prop
  | access update next => ∀ s, P (file (update s)) ∧ (next s).Stores file P
  | _ => True

variable {view : σ → τ} {f : τ → Except ε α × τ} {outcome : Except ε α} {n : ℕ} {p : Proc ε σ α}
  {file : σ → φ} {P Q : φ → Prop}

theorem Finishes.step (h : p.Finishes view outcome n) (s : σ) :
    view (p.step s).2 = view s ∧ (p.step s).1.Finishes view outcome (n - 1) := by
  cases p with
  | resolve a => exact ⟨rfl, h⟩
  | reject e => exact ⟨rfl, h⟩
  | access update next =>
    cases n with
    | zero => exact h.elim
    | succ n => exact h s

theorem Finishes.run (h : p.Finishes view outcome n) (s : σ) :
    (p.run s).1 = outcome ∧ view (p.run s).2 = view s := by
  induction p generalizing n s with
  | resolve a => exact ⟨h.symm, rfl⟩
  | reject e => exact ⟨h.symm, rfl⟩
  | access update next ih =>
    cases n with
    | zero => exact h.elim
    | succ n =>
      obtain ⟨hrun, hview⟩ := ih s (h s).2 (update s)
      exact ⟨hrun, hview.trans (h s).1⟩

theorem Finishes.report_eq (h : p.Finishes view outcome n) (hn : n = 0 ∨ p.settled = true) :
    p.report = .reject outcome := by
  cases p with
  | resolve a => exact congrArg Proc.reject h.symm
  | reject e => exact congrArg Proc.reject h.symm
  | access update next =>
    rcases hn with rfl | hsettled
    · exact h.elim
    · cases hsettled

/-- On its own, too, `p` does to the view what `f` does. -/
theorem TakesEffect.run (h : p.TakesEffect view f n) (s : σ) :
    ((p.run s).1, view (p.run s).2) = f (view s) := by
  obtain ⟨hstep, hfinishes⟩ := h s
  obtain ⟨hrun, hview⟩ := hfinishes.run (p.step s).2
  rw [run_step] at hrun hview
  rw [hrun, hview, hstep]

/-- A computation that has settled takes its effect in no access. -/
theorem TakesEffect.of_settled (h : p.settled = true) (s : σ) :
    p.TakesEffect view (fun t => ((p.run s).1, t)) n := by
  intro t
  cases p with
  | resolve a => exact ⟨rfl, rfl⟩
  | reject e => exact ⟨rfl, rfl⟩
  | access update next => cases h

theorem Stores.mono (h : p.Stores file P) (hPQ : ∀ contents, P contents → Q contents) :
    p.Stores file Q := by
  induction p with
  | resolve a | reject e => trivial
  | access update next ih => exact fun s => ⟨hPQ _ (h s).1, ih s (h s).2⟩

theorem Stores.step (h : p.Stores file P) (hp : p.settled = false) (s : σ) :
    P (file (p.step s).2) ∧ (p.step s).1.Stores file P := by
  cases p with
  | access update next => exact h s
  | resolve a | reject e => cases hp

theorem Stores.report (h : p.Stores file P) : p.report.Stores file P := by
  induction p with
  | resolve a => trivial
  | reject e => trivial
  | access update next ih => exact fun s => ⟨(h s).1, ih s (h s).2⟩

end Proc

namespace Pool

variable {ε σ τ φ ι α : Type} (calls : ι → Proc ε σ α)

/-- The calls before the first step of any of them. -/
def answering (s : σ) : Pool (Except ε α) σ ι where
  state := s
  calls i := (calls i).report

variable [DecidableEq ι]

/-- The calls of a schedule, in the order of their first steps. -/
def started (schedule : List ι) : List ι := schedule.foldl Lists.pushNew []

/-- The calls in the order of their first steps and in that of their second ones, after one more
step. -/
def stepOrders (orders : List ι × List ι) (i : ι) : List ι × List ι :=
  (Lists.pushNew orders.1 i, if i ∈ orders.1 then Lists.pushNew orders.2 i else orders.2)

/-- The calls of a schedule, in the order of their second steps. -/
def resumed (schedule : List ι) : List ι := (schedule.foldl stepOrders ([], [])).2

/-- The next call on its own, and what it settles with. -/
def serveNext (sofar : σ × (ι → Option (Except ε α))) (i : ι) : σ × (ι → Option (Except ε α)) :=
  let (outcome, s) := (calls i).run sofar.1
  (s, Function.update sofar.2 i (some outcome))

/-- The calls of the order one after the other: the state, and what each of them settles with. -/
def oneByOne (s : σ) (order : List ι) : σ × (ι → Option (Except ε α)) :=
  order.foldl (serveNext calls) (s, fun _ => none)

theorem started_append (schedule : List ι) (i : ι) :
    started (schedule ++ [i]) = Lists.pushNew (started schedule) i := by
  simp [started]

theorem mem_started {schedule : List ι} {i : ι} : i ∈ started schedule ↔ i ∈ schedule := by
  unfold started
  simp [Lists.mem_foldl_pushNew]

theorem started_append_of_mem {schedule : List ι} {i : ι} (h : i ∈ schedule) :
    started (schedule ++ [i]) = started schedule := by
  rw [started_append, Lists.pushNew, if_pos (mem_started.mpr h)]

theorem started_append_of_not_mem {schedule : List ι} {i : ι} (h : i ∉ schedule) :
    started (schedule ++ [i]) = started schedule ++ [i] := by
  rw [started_append, Lists.pushNew, if_neg (mt mem_started.mp h)]

/-- The order only grows at its end: what has settled comes before what has not started. -/
theorem started_prefix (schedule later : List ι) :
    started schedule <+: started (schedule ++ later) := by
  induction later using List.reverseRecOn with
  | nil => simp
  | append_singleton later i ih =>
    rw [← List.append_assoc, started_append]
    exact ih.trans (Lists.prefix_pushNew _ _)

theorem nodup_started (schedule : List ι) : (started schedule).Nodup :=
  Lists.nodup_foldl_pushNew schedule List.nodup_nil

theorem foldl_stepOrders (schedule : List ι) :
    schedule.foldl stepOrders ([], []) = (started schedule, resumed schedule) := by
  suffices hfirst : (schedule.foldl stepOrders ([], [])).1 = started schedule from
    Prod.ext hfirst rfl
  induction schedule using List.reverseRecOn with
  | nil => rfl
  | append_singleton schedule i ih =>
    rw [List.foldl_append, started_append, ← ih]
    rfl

theorem resumed_append_of_not_mem {schedule : List ι} {i : ι} (h : i ∉ schedule) :
    resumed (schedule ++ [i]) = resumed schedule := by
  rw [resumed, List.foldl_append, foldl_stepOrders]
  exact if_neg (mt mem_started.mp h)

theorem resumed_append_of_mem {schedule : List ι} {i : ι} (h : i ∈ schedule) :
    resumed (schedule ++ [i]) = Lists.pushNew (resumed schedule) i := by
  rw [resumed, List.foldl_append, foldl_stepOrders]
  exact if_pos (mem_started.mpr h)

theorem mem_of_mem_resumed {schedule : List ι} {i : ι} (h : i ∈ resumed schedule) : i ∈ schedule := by
  induction schedule using List.reverseRecOn with
  | nil => cases h
  | append_singleton schedule j ih =>
    rw [List.mem_append, List.mem_singleton]
    by_cases hj : j ∈ schedule
    · rw [resumed_append_of_mem hj, Lists.mem_pushNew] at h
      exact h.imp_left ih
    · rw [resumed_append_of_not_mem hj] at h
      exact .inl (ih h)

theorem oneByOne_append (s : σ) (order : List ι) (i : ι) :
    oneByOne calls s (order ++ [i]) = serveNext calls (oneByOne calls s order) i := by
  simp [oneByOne]

/-- What a call settles with depends on the calls before it. -/
theorem answer_oneByOne (s : σ) {before after : List ι} {i : ι} (h : i ∉ after) :
    (oneByOne calls s (before ++ i :: after)).2 i =
      some ((calls i).run (oneByOne calls s before).1).1 := by
  induction after using List.reverseRecOn with
  | nil =>
    rw [oneByOne_append]
    exact Function.update_self ..
  | append_singleton after j ih =>
    rw [List.mem_append, not_or, List.mem_singleton] at h
    rw [← List.cons_append, ← List.append_assoc, oneByOne_append]
    exact (Function.update_of_ne h.2 ..).trans (ih h.1)

variable {calls} {view : σ → τ} {f : ι → τ → Except ε α × τ} {n : ℕ}

/-- The calls in `order` have taken effect in this order, and the others have not started. -/
structure Ordered (calls : ι → Proc ε σ α) (view : σ → τ) (n : ℕ) (s : σ)
    (pool : Pool (Except ε α) σ ι) (schedule : List ι) : Prop where
  state : view pool.state = view (oneByOne calls s (started schedule)).1
  waiting : ∀ i ∉ schedule, pool.calls i = (calls i).report
  effective : ∀ i ∈ schedule, ∃ (outcome : Except ε α) (p : Proc ε σ α),
    (oneByOne calls s (started schedule)).2 i = some outcome ∧ pool.calls i = p.report ∧
      p.Finishes view outcome (n + 1 - schedule.count i)

/-- The first step of a call. -/
theorem Ordered.step_waiting {s : σ} {pool : Pool (Except ε α) σ ι} {schedule : List ι}
    (h : Ordered calls view n s pool schedule) {i : ι} (hi : i ∉ schedule) :
    pool.step i = ⟨((calls i).step pool.state).2,
      Function.update pool.calls i ((calls i).step pool.state).1.report⟩ :=
  Pool.step_eq (by rw [h.waiting i hi, Proc.step_report])

/-- What a call does after those of the order. -/
theorem Ordered.run_alone (hcalls : ∀ i, (calls i).TakesEffect view (f i) n) {s : σ}
    {pool : Pool (Except ε α) σ ι} {schedule : List ι}
    (h : Ordered calls view n s pool schedule) (i : ι) :
    ((calls i).run (oneByOne calls s (started schedule)).1).1 = (f i (view pool.state)).1 ∧
      view ((calls i).run (oneByOne calls s (started schedule)).1).2 =
        (f i (view pool.state)).2 := by
  have halone := (hcalls i).run (oneByOne calls s (started schedule)).1
  rw [← h.state] at halone
  exact ⟨congrArg Prod.fst halone, congrArg Prod.snd halone⟩

theorem Ordered.step (hcalls : ∀ i, (calls i).TakesEffect view (f i) n) {s : σ}
    {pool : Pool (Except ε α) σ ι} {schedule : List ι}
    (h : Ordered calls view n s pool schedule) (i : ι) :
    Ordered calls view n s (pool.step i) (schedule ++ [i]) := by
  have hothers (j : ι) (hj : j ≠ i) : (pool.step i).calls j = pool.calls j ∧
      (schedule ++ [i]).count j = schedule.count j := by
    refine ⟨Pool.step_calls_of_ne hj, ?_⟩
    rw [List.count_append, List.count_singleton, if_neg (by simpa using hj.symm), Nat.add_zero]
  have hself : (schedule ++ [i]).count i = schedule.count i + 1 := by
    rw [List.count_append, List.count_singleton_self]
  have hwaiting (j : ι) (hj : j ∉ schedule ++ [i]) : (pool.step i).calls j = (calls j).report := by
    rw [List.mem_append, not_or, List.mem_singleton] at hj
    rw [(hothers j hj.2).1]
    exact h.waiting j hj.1
  by_cases hi : i ∈ schedule
  · -- A step after the first one: the order stays.
    have horder := started_append_of_mem hi
    obtain ⟨outcome, p, houtcome, hp, hfinishes⟩ := h.effective i hi
    obtain ⟨hview, hnext⟩ := hfinishes.step pool.state
    have hstep : pool.step i =
        ⟨(p.step pool.state).2, Function.update pool.calls i (p.step pool.state).1.report⟩ :=
      Pool.step_eq (by rw [hp, Proc.step_report])
    refine ⟨?_, hwaiting, ?_⟩
    · rw [horder, hstep]
      exact hview.trans h.state
    · intro j hj
      rw [horder]
      by_cases hji : j = i
      · subst hji
        refine ⟨outcome, (p.step pool.state).1, houtcome, ?_, ?_⟩
        · rw [hstep]
          exact Function.update_self ..
        · rwa [hself, ← Nat.sub_sub]
      · rw [List.mem_append, List.mem_singleton] at hj
        rw [(hothers j hji).1, (hothers j hji).2]
        exact h.effective j (hj.resolve_right hji)
  · -- The first step of a call: it takes effect after those of the order.
    have horder := started_append_of_not_mem hi
    obtain ⟨hview, hnext⟩ := hcalls i pool.state
    obtain ⟨hanswer, heffect⟩ := h.run_alone hcalls i
    have hstep := h.step_waiting hi
    refine ⟨?_, hwaiting, ?_⟩
    · rw [horder, oneByOne_append, hstep]
      exact hview.trans heffect.symm
    · intro j hj
      rw [horder, oneByOne_append]
      by_cases hji : j = i
      · subst hji
        refine ⟨_, ((calls j).step pool.state).1, Function.update_self .., ?_, ?_⟩
        · rw [hstep]
          exact Function.update_self ..
        · rw [hanswer, hself, List.count_eq_zero_of_not_mem hi]
          exact hnext
      · rw [List.mem_append, List.mem_singleton] at hj
        obtain ⟨outcome, p, houtcome, hp, hfinishes⟩ := h.effective j (hj.resolve_right hji)
        rw [(hothers j hji).1, (hothers j hji).2]
        exact ⟨outcome, p, (Function.update_of_ne hji ..).trans houtcome, hp, hfinishes⟩

theorem ordered_start (calls : ι → Proc ε σ α) (view : σ → τ) (n : ℕ) (s : σ) :
    Ordered calls view n s (answering calls s) [] :=
  ⟨rfl, fun _ _ => rfl, fun _ hi => absurd hi List.not_mem_nil⟩

theorem ordered_run (hcalls : ∀ i, (calls i).TakesEffect view (f i) n) (s : σ) (schedule : List ι) :
    Ordered calls view n s ((answering calls s).run schedule) schedule := by
  induction schedule using List.reverseRecOn with
  | nil => exact ordered_start calls view n s
  | append_singleton schedule i ih =>
    have hstep := ih.step hcalls i
    simpa [run] using hstep

/-- After any steps, the view is that of the calls one after the other, in the order of their first
steps.  A call that has started settles as it does there, within `n` more steps of its own. -/
theorem linearizable (hcalls : ∀ i, (calls i).TakesEffect view (f i) n) (s : σ)
    (schedule : List ι) :
    let pool := (answering calls s).run schedule
    let alone := oneByOne calls s (started schedule)
    view pool.state = view alone.1 ∧
      ∀ i ∈ schedule, ∃ outcome, alone.2 i = some outcome ∧
        (∀ answer, pool.calls i = .reject answer → answer = outcome) ∧
        (n < schedule.count i → pool.calls i = .reject outcome) := by
  have h := ordered_run hcalls s schedule
  refine ⟨h.state, ?_⟩
  intro i hi
  obtain ⟨outcome, p, houtcome, hp, hfinishes⟩ := h.effective i hi
  refine ⟨outcome, houtcome, ?_, ?_⟩
  · intro answer hanswer
    rw [hp] at hanswer
    have hsettled : p.settled = true := by
      rw [← Proc.settled_report, hanswer]
      rfl
    rw [hfinishes.report_eq (.inr hsettled)] at hanswer
    exact (Proc.reject.inj hanswer).symm
  · intro hcount
    rw [hp]
    exact hfinishes.report_eq (.inl (Nat.sub_eq_zero_of_le hcount))

/-! ### What the calls store -/

variable {file : σ → φ} {P : τ → φ → Prop}

/-- The contents satisfy `P` for the view after some first calls of the order, with `Q` of these
calls. -/
def Snapshot (calls : ι → Proc ε σ α) (view : σ → τ) (P : τ → φ → Prop) (s : σ)
    (Q : List ι → Prop) (order : List ι) (contents : φ) : Prop :=
  ∃ done, done <+: order ∧ Q done ∧ P (view (oneByOne calls s done).1) contents

/-- What is stored is a snapshot, and a call that has started is left to store snapshots of the order up
to itself. -/
structure StoresSnapshots (calls : ι → Proc ε σ α) (view : σ → τ) (file : σ → φ)
    (P : τ → φ → Prop) (s : σ) (Q : List ι → Prop) (pool : Pool (Except ε α) σ ι)
    (schedule : List ι) : Prop where
  stored : Snapshot calls view P s Q (started schedule) (file pool.state)
  stores : ∀ i ∈ schedule, (pool.calls i).settled = false →
    Q (Lists.upTo (started schedule) i) ∧
      (pool.calls i).Stores file
        (P (view (oneByOne calls s (Lists.upTo (started schedule) i)).1))

variable {s : σ} {Q : List ι → Prop} {pool : Pool (Except ε α) σ ι} {schedule : List ι} {i : ι}

/-- A step of a call that has started. -/
theorem StoresSnapshots.step_started (h : StoresSnapshots calls view file P s Q pool schedule)
    (hi : i ∈ schedule) : StoresSnapshots calls view file P s Q (pool.step i) (schedule ++ [i]) := by
  have horder := started_append_of_mem hi
  cases hsettled : (pool.calls i).settled with
  | true =>
    rw [Pool.step_of_settled hsettled]
    refine ⟨?_, ?_⟩
    · rw [horder]
      exact h.stored
    · intro j hj
      rw [horder]
      refine h.stores j ((List.mem_append.mp hj).elim id fun hj => ?_)
      rwa [List.mem_singleton.mp hj]
  | false =>
    obtain ⟨hQ, hstores⟩ := h.stores i hi hsettled
    obtain ⟨hfile, hnext⟩ := hstores.step hsettled pool.state
    refine ⟨?_, ?_⟩
    · rw [horder]
      exact ⟨_, Lists.upTo_prefix (mem_started.mpr hi), hQ, hfile⟩
    · intro j hj
      rw [horder]
      by_cases hji : j = i
      · subst hji
        rw [Pool.step_calls_self]
        exact fun _ => ⟨hQ, hnext⟩
      · rw [Pool.step_calls_of_ne hji]
        exact h.stores j ((List.mem_append.mp hj).resolve_right (by simpa using hji))

/-- The first step of a call. -/
theorem StoresSnapshots.step_waiting (hcalls : ∀ i, (calls i).TakesEffect view (f i) n)
    (hsaves : ∀ i t, file ((calls i).step t).2 = file t ∧
      ((calls i).step t).1.Stores file (P (f i (view t)).2))
    (hordered : Ordered calls view n s pool schedule)
    (h : StoresSnapshots calls view file P s Q pool schedule) (hi : i ∉ schedule)
    (hQ : Q (started schedule ++ [i])) :
    StoresSnapshots calls view file P s Q (pool.step i) (schedule ++ [i]) := by
  have horder := started_append_of_not_mem hi
  obtain ⟨hfile, hnext⟩ := hsaves i pool.state
  have heffect := (hordered.run_alone hcalls i).2
  have hstep := hordered.step_waiting hi
  refine ⟨?_, ?_⟩
  · obtain ⟨done, hdone, hQ', hP⟩ := h.stored
    rw [horder, hstep]
    refine ⟨done, hdone.trans (List.prefix_append _ _), hQ', ?_⟩
    show P _ (file ((calls i).step pool.state).2)
    rwa [hfile]
  · intro j hj
    rw [horder]
    by_cases hji : j = i
    · subst hji
      intro _
      rw [Lists.upTo_append_self (mt mem_started.mp hi), oneByOne_append, hstep]
      refine ⟨hQ, ?_⟩
      show (Function.update pool.calls j _ j).Stores file
        (P (view ((calls j).run (oneByOne calls s (started schedule)).1).2))
      rw [Function.update_self, heffect]
      exact hnext.report
    · have hj' := (List.mem_append.mp hj).resolve_right (by simpa using hji)
      rw [Pool.step_calls_of_ne hji, Lists.upTo_append_of_mem (mem_started.mpr hj')]
      exact h.stores j hj'

theorem StoresSnapshots.step (hcalls : ∀ i, (calls i).TakesEffect view (f i) n)
    (hsaves : ∀ i t, file ((calls i).step t).2 = file t ∧
      ((calls i).step t).1.Stores file (P (f i (view t)).2))
    (hordered : Ordered calls view n s pool schedule)
    (h : StoresSnapshots calls view file P s Q pool schedule) (i : ι)
    (hQ : i ∉ schedule → Q (started schedule ++ [i])) :
    StoresSnapshots calls view file P s Q (pool.step i) (schedule ++ [i]) := by
  by_cases hi : i ∈ schedule
  · exact h.step_started hi
  · exact h.step_waiting hcalls hsaves hordered hi (hQ hi)

theorem run_append (pool : Pool ε σ ι) (schedule : List ι) (i : ι) :
    pool.run (schedule ++ [i]) = (pool.run schedule).step i := by
  simp [run]

theorem storesSnapshots_run (hcalls : ∀ i, (calls i).TakesEffect view (f i) n)
    (hsaves : ∀ i t, file ((calls i).step t).2 = file t ∧
      ((calls i).step t).1.Stores file (P (f i (view t)).2))
    (hs : P (view s) (file s)) (schedule : List ι) :
    StoresSnapshots calls view file P s (fun _ => True) ((answering calls s).run schedule)
      schedule := by
  induction schedule using List.reverseRecOn with
  | nil => exact ⟨⟨[], List.prefix_rfl, trivial, hs⟩, fun _ hi => absurd hi List.not_mem_nil⟩
  | append_singleton schedule i ih =>
    rw [run_append]
    exact ih.step hcalls hsaves (ordered_run hcalls s schedule) i fun _ => trivial

/-- When each call, at its first step, is left to store only what satisfies `P` for the view that it
makes, what is stored after any steps satisfies `P` for the view after some first calls of the order. -/
theorem stored_snapshot (hcalls : ∀ i, (calls i).TakesEffect view (f i) n)
    (hsaves : ∀ i t, file ((calls i).step t).2 = file t ∧
      ((calls i).step t).1.Stores file (P (f i (view t)).2))
    (hs : P (view s) (file s)) (schedule : List ι) :
    Snapshot calls view P s (fun _ => True) (started schedule)
      (file ((answering calls s).run schedule).state) :=
  (storesSnapshots_run hcalls hsaves hs schedule).stored

/-- When a call stores its snapshot and all calls before it in the order have settled, no later step
stores a snapshot without it. -/
theorem stored_covers (hcalls : ∀ i, (calls i).TakesEffect view (f i) n)
    (hsaves : ∀ i t, file ((calls i).step t).2 = file t ∧
      ((calls i).step t).1.Stores file (P (f i (view t)).2))
    (hs : P (view s) (file s)) {earlier : List ι} {i : ι} (hi : i ∈ earlier)
    (hopen : (((answering calls s).run earlier).calls i).settled = false)
    (hothers : ∀ j ∈ Lists.upTo (started earlier) i, j ≠ i →
      (((answering calls s).run earlier).calls j).settled = true) (later : List ι) :
    Snapshot calls view P s (i ∈ ·) (started (earlier ++ [i] ++ later))
      (file ((answering calls s).run (earlier ++ [i] ++ later)).state) := by
  have hearlier := storesSnapshots_run hcalls hsaves hs earlier
  have hstart : StoresSnapshots calls view file P s (i ∈ ·)
      ((answering calls s).run (earlier ++ [i])) (earlier ++ [i]) := by
    rw [run_append]
    generalize (answering calls s).run earlier = pool at *
    obtain ⟨-, hstores⟩ := hearlier.stores i hi hopen
    obtain ⟨hfile, hnext⟩ := hstores.step hopen pool.state
    have hself := Lists.mem_upTo_self (started earlier) i
    refine ⟨?_, ?_⟩ <;> rw [started_append_of_mem hi]
    · exact ⟨_, Lists.upTo_prefix (mem_started.mpr hi), hself, hfile⟩
    · intro j hj hunsettled
      by_cases hji : j = i
      · subst hji
        rw [Pool.step_calls_self]
        exact ⟨hself, hnext⟩
      · have hj' := (List.mem_append.mp hj).resolve_right (by simpa using hji)
        rw [Pool.step_calls_of_ne hji] at hunsettled ⊢
        refine ⟨?_, (hearlier.stores j hj' hunsettled).2⟩
        -- A call that is still open comes after `i` in the order.
        refine (Lists.mem_upTo_total (mem_started.mpr hi) (mem_started.mpr hj')).resolve_left ?_
        intro hbefore
        rw [hothers j hbefore hji] at hunsettled
        cases hunsettled
  suffices StoresSnapshots calls view file P s (i ∈ ·)
    ((answering calls s).run (earlier ++ [i] ++ later)) (earlier ++ [i] ++ later) from this.stored
  induction later using List.reverseRecOn with
  | nil => simpa using hstart
  | append_singleton later k ih =>
    rw [← List.append_assoc, run_append]
    refine ih.step hcalls hsaves (ordered_run hcalls s _) k fun _ => ?_
    have hmem : i ∈ started (earlier ++ [i] ++ later) := mem_started.mpr (by simp)
    exact List.mem_append_left [k] hmem

end Pool

end Async
