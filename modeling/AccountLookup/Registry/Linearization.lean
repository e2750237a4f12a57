import AccountLookup.Registry.Effects

/-! Calls on the registry that are made at the same time: when their effect is that of the same calls
one after the other. -/

namespace AccountLookup

open Async MongoOracleFinderRepo

section Contention

variable {ι : Type} (compound : Js.Value → Js.Value → Bool) (changes : ι → RegistryChange)

/-- The calls before the first step. -/
def contending (w : World) : Pool JsError World ι where
  state := w
  calls i := (changes i).perform compound

/-- A call has stored an oracle with the id and is still to list its adapter. -/
def ToList (pool : Pool JsError World ι) (id : Js.Value) : Prop :=
  ∃ i adapter, adapter.oracleId = id ∧ Lists adapter (pool.calls i)

/-- A call has deleted an oracle with the id and is still to remove its adapters. -/
def ToUnlist (pool : Pool JsError World ι) (id : Js.Value) : Prop :=
  ∃ i name, id = .str name ∧ Unlists name (pool.calls i)

/-- Every stored oracle has an adapter or is about to have one, and every adapter has a stored oracle or
is about to be removed. -/
structure Pending (pool : Pool JsError World ι) : Prop where
  listed : ∀ id, pool.state.Stored id → pool.state.Adapted id ∨ ToList pool id
  stored : ∀ id, pool.state.Adapted id → pool.state.Stored id ∨ ToUnlist pool id

/-! ### The order in which the calls take effect -/

/-- What is left of a call that has taken effect, by whether it resolves. -/
inductive Done : Bool → Proc JsError World Unit → Prop
  | refused (error : JsError) : Done false (.reject error)
  | resolved : Done true (.resolve ())
  | lists {adapter : OracleAdapter} {p : Proc JsError World Unit} (h : Lists adapter p) : Done true p
  | unlists {name : String} {p : Proc JsError World Unit} (h : Unlists name p) : Done true p

/-- The next call, with whether it resolves. -/
def serve (sofar : World × List (ι × Bool)) (i : ι) : World × List (ι × Bool) :=
  let (outcome, w) := ((changes i).perform compound).run sofar.1
  (w, sofar.2 ++ [(i, outcome.isOk)])

/-- The calls one after the other in the given order, with whether each resolves. -/
def sequential (w : World) (order : List ι) : World × List (ι × Bool) :=
  order.foldl (serve compound changes) (w, [])

theorem sequential_append (w : World) (order : List ι) (i : ι) :
    sequential compound changes w (order ++ [i]) =
      serve compound changes (sequential compound changes w order) i := by
  simp [sequential]

/-- The calls in `order` have taken effect, and the collection is that of these calls one after the
other. -/
structure Ordered (start : World) (pool : Pool JsError World ι) (order : List ι) : Prop where
  nodup : order.Nodup
  oracles : (sequential compound changes start order).1.oracles = pool.state.oracles
  inStep : (sequential compound changes start order).1.InStep
  waiting : ∀ i ∉ order, (changes i).Waiting compound (pool.calls i)
  done : ∀ i ∈ order, ∃ resolves, (i, resolves) ∈ (sequential compound changes start order).2 ∧
    Done resolves (pool.calls i)
  distinct : Distinct pool.state.oracles
  pending : Pending pool

/-- The collection, the ids of the adapters and the success of each call are those of the calls one
after the other in some order. -/
def IsSequential (start : World) (pool : Pool JsError World ι) : Prop :=
  ∃ order : List ι, order.Nodup ∧ (∀ i, i ∈ order) ∧
    (sequential compound changes start order).1.oracles = pool.state.oracles ∧
    (∀ id, (sequential compound changes start order).1.Adapted id ↔ pool.state.Adapted id) ∧
    ∀ i, ∃ resolves, (i, resolves) ∈ (sequential compound changes start order).2 ∧
      (resolves = true ∧ pool.calls i = .resolve () ∨
        resolves = false ∧ ∃ error, pool.calls i = .reject error)

theorem Done.of_settled {resolves : Bool} {p : Proc JsError World Unit} (h : Done resolves p)
    (hsettled : p.settled = true) :
    resolves = true ∧ p = .resolve () ∨ resolves = false ∧ ∃ error, p = .reject error := by
  cases h with
  | refused error => exact .inr ⟨rfl, error, rfl⟩
  | resolved => exact .inl ⟨rfl, rfl⟩
  | lists h => exact absurd (h.unsettled.symm.trans hsettled) nofun
  | unlists h => exact absurd (h.unsettled.symm.trans hsettled) nofun

theorem Done.step_lists {adapter : OracleAdapter} {p : Proc JsError World Unit}
    (h : Lists adapter p) (w : World) :
    Done true (p.step w).1 ∧ (p.step w).2.oracles = w.oracles := by
  cases h with
  | quiet hupdate hnext => exact ⟨.lists (hnext w), (hupdate w).1⟩
  | list hupdate hnext =>
    have hlast := Done.resolved
    rw [← hnext w] at hlast
    exact ⟨hlast, (hupdate w).1⟩

theorem Done.step_unlists {name : String} {p : Proc JsError World Unit} (h : Unlists name p)
    (w : World) : Done true (p.step w).1 ∧ (p.step w).2.oracles = w.oracles := by
  cases h with
  | unlist hupdate hnext =>
    have hlast := Done.resolved
    rw [← hnext w] at hlast
    exact ⟨hlast, (hupdate w).1⟩

theorem ordered_start {w : World} (hinStep : w.InStep) (hdistinct : Distinct w.oracles) :
    Ordered compound changes w (contending compound changes w) [] := by
  refine ⟨List.nodup_nil, rfl, hinStep, fun i _ => (changes i).waiting_perform, ?_, hdistinct, ?_⟩
  · intro i hi
    cases hi
  · exact ⟨fun id hstored => .inl ((hinStep id).mpr hstored),
      fun id hadapted => .inl ((hinStep id).mp hadapted)⟩

/-! ### Steps -/

variable [DecidableEq ι]

/-- The condition on a step.  An oracle is stored that the filters of the finder on its id and its name do
not find.  An oracle is deleted that has the very id of the removal.  The adapter of an oracle is listed
while the oracle is stored, or before a removal of it removes its adapters.  A removal removes the
adapters of an oracle that is not stored again, or whose new adapter is still to be listed. -/
structure KeepsOrder (pool : Pool JsError World ι) (i : ι) : Prop where
  stores : ∀ oracle, (pool.step i).state.oracles = pool.state.oracles ++ [oracle] →
    Fresh compound oracle pool.state.oracles
  deletes : ∀ id, Unlists id ((pool.step i).calls i) → ∀ removed ∈ pool.state.oracles,
    removed ∉ (pool.step i).state.oracles → removed.id = .str id
  lists : ∀ adapter, (pool.step i).state.adapters = pool.state.adapters ++ [adapter] →
    pool.state.Stored adapter.oracleId ∨ ToUnlist pool adapter.oracleId
  unlists : ∀ id, Unlists id (pool.calls i) → pool.state.Stored (.str id) → ToList pool (.str id)

variable {compound} {pool : Pool JsError World ι} {i : ι} {id : Js.Value}

theorem ToList.step (h : ToList pool id)
    (hi : ∀ adapter, Lists adapter (pool.calls i) → Lists adapter ((pool.step i).calls i)) :
    ToList (pool.step i) id := by
  obtain ⟨j, adapter, hid, hlists⟩ := h
  refine ⟨j, adapter, hid, ?_⟩
  by_cases hj : j = i
  · subst hj
    exact hi adapter hlists
  · rw [Pool.step_calls_of_ne hj]
    exact hlists

theorem ToUnlist.step (h : ToUnlist pool id)
    (hi : ∀ name, id = .str name → Unlists name (pool.calls i) →
      Unlists name ((pool.step i).calls i)) :
    ToUnlist (pool.step i) id := by
  obtain ⟨j, name, hid, hunlists⟩ := h
  refine ⟨j, name, hid, ?_⟩
  by_cases hj : j = i
  · subst hj
    exact hi name hid hunlists
  · rw [Pool.step_calls_of_ne hj]
    exact hunlists

/-- A step that changes nothing of the registry, and nothing that is still to be done to the
adapters. -/
theorem Pending.same (h : Pending pool) (hsame : SameRegistry pool.state (pool.step i).state)
    (hlists : ∀ adapter, Lists adapter (pool.calls i) → Lists adapter ((pool.step i).calls i))
    (hunlists : ∀ name, Unlists name (pool.calls i) → Unlists name ((pool.step i).calls i)) :
    Pending (pool.step i) := by
  obtain ⟨horacles, hadapters⟩ := hsame
  constructor
  · intro id hstored
    unfold World.Stored at hstored
    unfold World.Adapted
    rw [horacles] at hstored
    rw [hadapters]
    exact (h.listed id hstored).imp_right fun hto => hto.step hlists
  · intro id hadapted
    unfold World.Adapted at hadapted
    unfold World.Stored
    rw [hadapters] at hadapted
    rw [horacles]
    exact (h.stored id hadapted).imp_right fun hto => hto.step fun name _ => hunlists name

/-- A step of a call that has stored its oracle. -/
theorem Pending.lists_step (h : Pending pool) {adapter : OracleAdapter}
    (hlists : Lists adapter (pool.calls i)) (hkeeps : KeepsOrder compound pool i) :
    Pending (pool.step i) := by
  have hnot (name : String) : ¬Unlists name (pool.calls i) := hlists.not_unlists name
  have hone {other : OracleAdapter} (hother : Lists other (pool.calls i)) : other = adapter :=
    hother.unique hlists
  generalize hp : pool.calls i = p at hlists
  cases hlists with
  | quiet hupdate hnext =>
    have hstep := Pool.step_access hp
    refine h.same ?_ ?_ fun name hunlists => absurd hunlists (hnot name)
    · rw [hstep]
      exact hupdate pool.state
    · intro other hother
      rw [hone hother, Pool.step_calls_self, hp]
      exact hnext pool.state
  | list hupdate hnext =>
    have hstep := Pool.step_access hp
    obtain ⟨horacles, hadapters⟩ := hupdate pool.state
    have hkept := hkeeps.lists adapter (by rw [hstep]; exact hadapters)
    have horacles : (pool.step i).state.oracles = pool.state.oracles := by
      rw [hstep]
      exact horacles
    have hadapted (id : Js.Value) : (pool.step i).state.Adapted id ↔
        pool.state.Adapted id ∨ adapter.oracleId = id := by
      unfold World.Adapted
      rw [hstep]
      dsimp only
      rw [hadapters]
      exact World.exists_listed_iff
    constructor
    · intro id hstored
      unfold World.Stored at hstored
      rw [horacles] at hstored
      rw [hadapted]
      rcases h.listed id hstored with hold | ⟨j, other, hid, hother⟩
      · exact .inl (.inl hold)
      by_cases hj : j = i
      · subst hj
        exact .inl (.inr (hone hother ▸ hid))
      · refine .inr ⟨j, other, hid, ?_⟩
        rw [Pool.step_calls_of_ne hj]
        exact hother
    · intro id hnow
      unfold World.Stored
      rw [horacles]
      have hold : pool.state.Stored id ∨ ToUnlist pool id := by
        rcases (hadapted id).mp hnow with hold | rfl
        · exact h.stored id hold
        · exact hkept
      exact hold.imp_right fun hto => hto.step fun name _ hunlists => absurd hunlists (hnot name)

/-- A step of a call that has deleted its oracle. -/
theorem Pending.unlists_step (h : Pending pool) {name : String}
    (hunlists : Unlists name (pool.calls i)) (hkeeps : KeepsOrder compound pool i) :
    Pending (pool.step i) := by
  have hnot (adapter : OracleAdapter) : ¬Lists adapter (pool.calls i) :=
    fun hlists => hlists.not_unlists name hunlists
  have hone {other : String} (hother : Unlists other (pool.calls i)) : other = name :=
    hother.unique hunlists
  have hkept := hkeeps.unlists name hunlists
  generalize hp : pool.calls i = p at hunlists
  cases hunlists with
  | unlist hupdate hnext =>
    have hstep := Pool.step_access hp
    obtain ⟨horacles, hadapters⟩ := hupdate pool.state
    have horacles : (pool.step i).state.oracles = pool.state.oracles := by
      rw [hstep]
      exact horacles
    have hadapted (id : Js.Value) : (pool.step i).state.Adapted id ↔
        pool.state.Adapted id ∧ id ≠ .str name := by
      unfold World.Adapted
      rw [hstep]
      dsimp only
      rw [hadapters]
      exact World.exists_unlisted_iff
    have hto {id : Js.Value} (hto : ToList pool id) : ToList (pool.step i) id :=
      hto.step fun adapter hlists => absurd hlists (hnot adapter)
    constructor
    · intro id hstored
      unfold World.Stored at hstored
      rw [horacles] at hstored
      rw [hadapted]
      by_cases hid : id = .str name
      · subst hid
        exact .inr (hto (hkept hstored))
      · rcases h.listed id hstored with hold | hlist
        · exact .inl ⟨hold, hid⟩
        · exact .inr (hto hlist)
    · intro id hnow
      unfold World.Stored
      rw [horacles]
      obtain ⟨hold, hne⟩ := (hadapted id).mp hnow
      refine (h.stored id hold).imp_right fun hto => hto.step ?_
      intro other hid hother
      exact absurd (hone hother ▸ hid) hne

/-- A step in which a call stores its oracle. -/
theorem Pending.stores_step (h : Pending pool) {oracle : Oracle} {adapter : OracleAdapter}
    (hnothing : (∀ adapter, ¬Lists adapter (pool.calls i)) ∧ ∀ name, ¬Unlists name (pool.calls i))
    (hid : adapter.oracleId = oracle.id)
    (horacles : (pool.step i).state.oracles = pool.state.oracles ++ [oracle])
    (hadapters : (pool.step i).state.adapters = pool.state.adapters)
    (hp : Lists adapter ((pool.step i).calls i)) : Pending (pool.step i) := by
  obtain ⟨hnot, hnot'⟩ := hnothing
  have hstored (id : Js.Value) : (pool.step i).state.Stored id ↔
      pool.state.Stored id ∨ oracle.id = id := by
    unfold World.Stored
    rw [horacles]
    simp [or_and_right, exists_or]
  constructor
  · intro id hnow
    unfold World.Adapted
    rw [hadapters]
    rcases (hstored id).mp hnow with hold | rfl
    · exact (h.listed id hold).imp_right fun hto => hto.step fun other hother =>
        absurd hother (hnot other)
    · exact .inr ⟨i, adapter, hid, hp⟩
  · intro id hadapted
    unfold World.Adapted at hadapted
    rw [hadapters] at hadapted
    rw [hstored]
    rcases h.stored id hadapted with hold | hto
    · exact .inl (.inl hold)
    · exact .inr (hto.step fun name _ hunlists => absurd hunlists (hnot' name))

/-- A step in which a call deletes an oracle. -/
theorem Pending.deletes_step (h : Pending pool) {name : String} {removed : Oracle}
    (hid : removed.id = .str name)
    (hnothing : (∀ adapter, ¬Lists adapter (pool.calls i)) ∧ ∀ name, ¬Unlists name (pool.calls i))
    (hfind : pool.state.oracles.find? (hasId compound (.str name)) = some removed)
    (horacles : (pool.step i).state.oracles =
      pool.state.oracles.eraseP (hasId compound (.str name)))
    (hadapters : (pool.step i).state.adapters = pool.state.adapters)
    (hp : Unlists name ((pool.step i).calls i)) : Pending (pool.step i) := by
  obtain ⟨hnot, hnot'⟩ := hnothing
  have hstored (id : Js.Value) : pool.state.Stored id ↔
      (pool.step i).state.Stored id ∨ removed.id = id := by
    rw [@World.stored_iff_left _ (undisturbed compound "") _ _ hfind]
    unfold World.Stored World.left
    rw [horacles]
    rfl
  constructor
  · intro id hnow
    unfold World.Adapted
    rw [hadapters]
    exact (h.listed id ((hstored id).mpr (.inl hnow))).imp_right fun hto => hto.step
      fun other hother => absurd hother (hnot other)
  · intro id hadapted
    unfold World.Adapted at hadapted
    rw [hadapters] at hadapted
    rcases h.stored id hadapted with hold | hto
    · rcases (hstored id).mp hold with hleft | hremoved
      · exact .inl hleft
      · exact .inr ⟨i, name, hremoved.symm.trans hid, hp⟩
    · exact .inr (hto.step fun name _ hunlists => absurd hunlists (hnot' name))

variable {changes} {start : World} {order : List ι}

/-- A step of a call that had taken effect. -/
theorem Ordered.goes_on (h : Ordered compound changes start pool order) {resolves : Bool}
    (hi : i ∈ order) (hmem : (i, resolves) ∈ (sequential compound changes start order).2)
    (horacles : (pool.step i).state.oracles = pool.state.oracles)
    (hdone : Done resolves ((pool.step i).calls i)) (hpending : Pending (pool.step i)) :
    Ordered compound changes start (pool.step i) order := by
  refine ⟨h.nodup, h.oracles.trans horacles.symm, h.inStep, ?_, ?_, horacles ▸ h.distinct, hpending⟩
  · intro j hj
    have hne : j ≠ i := by
      rintro rfl
      exact hj hi
    rw [Pool.step_calls_of_ne hne]
    exact h.waiting j hj
  · intro j hj
    by_cases hne : j = i
    · subst hne
      exact ⟨resolves, hmem, hdone⟩
    · rw [Pool.step_calls_of_ne hne]
      exact h.done j hj

/-- A step in which a call takes effect: it is the next one of the order. -/
theorem Ordered.takes_effect (h : Ordered compound changes start pool order) (hi : i ∉ order)
    {outcome : Except JsError Unit} {v : World}
    (halone : ((changes i).perform compound).run (sequential compound changes start order).1 =
      (outcome, v))
    (horacles : v.oracles = (pool.step i).state.oracles) (hinStep : v.InStep)
    (hdone : Done outcome.isOk ((pool.step i).calls i))
    (hdistinct : Distinct (pool.step i).state.oracles) (hpending : Pending (pool.step i)) :
    Ordered compound changes start (pool.step i) (order ++ [i]) := by
  have hserve : sequential compound changes start (order ++ [i]) =
      (v, (sequential compound changes start order).2 ++ [(i, outcome.isOk)]) := by
    rw [sequential_append, serve, halone]
  refine ⟨?_, ?_, ?_, ?_, ?_, hdistinct, hpending⟩
  · rw [List.nodup_append']
    exact ⟨h.nodup, List.nodup_singleton i, by simpa using hi⟩
  · rw [hserve]
    exact horacles
  · rw [hserve]
    exact hinStep
  · intro j hj
    rw [List.mem_append, not_or, List.mem_singleton] at hj
    rw [Pool.step_calls_of_ne hj.2]
    exact h.waiting j hj.1
  · intro j hj
    rw [hserve]
    by_cases hne : j = i
    · subst hne
      exact ⟨outcome.isOk, List.mem_append_right _ List.mem_cons_self, hdone⟩
    · rw [List.mem_append, List.mem_singleton] at hj
      obtain ⟨resolves, hmem, hdone'⟩ := h.done j (hj.resolve_right hne)
      rw [Pool.step_calls_of_ne hne]
      exact ⟨resolves, List.mem_append_left _ hmem, hdone'⟩

/-- A step of a call that has not taken effect. -/
theorem Ordered.waiting_step (h : Ordered compound changes start pool order) (hi : i ∉ order)
    (hkeeps : KeepsOrder compound pool i) :
    ∃ order', Ordered compound changes start (pool.step i) order' := by
  have hwaits := h.waiting i hi
  have hnothing : (∀ adapter, ¬Lists adapter (pool.calls i)) ∧ ∀ name, ¬Unlists name (pool.calls i) :=
    ⟨hwaits.not_lists, hwaits.not_unlists⟩
  have hself := @Pool.step_calls_self _ _ _ _ pool i
  have hsame (hsame : SameRegistry pool.state (pool.step i).state) : Pending (pool.step i) :=
    h.pending.same hsame (fun adapter hlists => absurd hlists (hnothing.1 adapter))
      fun name hunlists => absurd hunlists (hnothing.2 name)
  cases hwaits.progress pool.state with
  | waits hregistry hwaits' =>
    have horacles : (pool.step i).state.oracles = pool.state.oracles := hregistry.1
    refine ⟨order, h.nodup, h.oracles.trans horacles.symm, h.inStep, ?_, ?_,
      horacles.symm ▸ h.distinct, hsame hregistry⟩
    · intro j hj
      by_cases hne : j = i
      · subst hne
        rw [hself]
        exact hwaits'
      · rw [Pool.step_calls_of_ne hne]
        exact h.waiting j hj
    · intro j hj
      have hne : j ≠ i := by
        rintro rfl
        exact hi hj
      rw [Pool.step_calls_of_ne hne]
      exact h.done j hj
  | refused error hregistry hp halone =>
    have horacles : (pool.step i).state.oracles = pool.state.oracles := hregistry.1
    obtain ⟨error', hrun⟩ := halone _ h.oracles
    refine ⟨_, h.takes_effect hi hrun (h.oracles.trans horacles.symm) h.inStep ?_
      (horacles.symm ▸ h.distinct) (hsame hregistry)⟩
    rw [hself, hp]
    exact .refused error
  | stores oracle adapter hid horacles hadapters hp halone =>
    have hfresh := hkeeps.stores oracle horacles
    obtain ⟨v, hrun, hv, hinStep⟩ := halone hfresh _ h.oracles
    rw [← hself] at hp
    refine ⟨_, h.takes_effect hi hrun ?_ (hinStep h.inStep) (.lists hp) ?_
      (h.pending.stores_step hnothing hid horacles hadapters hp)⟩
    · rw [hv, h.oracles]
      exact horacles.symm
    · exact horacles ▸ h.distinct.append hfresh
  | deletes name removed hfind horacles hadapters hp halone =>
    obtain ⟨v, hrun, hv, hinStep⟩ := halone _ h.oracles
    rw [← hself] at hp
    have hleft : removed ∉ (pool.step i).state.oracles := by
      intro hmem
      change removed ∈ ((pool.calls i).step pool.state).2.oracles at hmem
      rw [horacles] at hmem
      exact h.distinct.erase hfind removed hmem rfl
    have hid := hkeeps.deletes name hp removed (List.mem_of_find?_eq_some hfind) hleft
    refine ⟨_, h.takes_effect hi hrun ?_ (hinStep h.inStep (h.oracles ▸ h.distinct) hid)
      (.unlists hp) ?_ (h.pending.deletes_step hid hnothing hfind horacles hadapters hp)⟩
    · rw [hv, h.oracles]
      exact horacles.symm
    · exact horacles ▸ h.distinct.sublist List.eraseP_sublist

theorem Ordered.step (h : Ordered compound changes start pool order)
    (hkeeps : KeepsOrder compound pool i) :
    ∃ order', Ordered compound changes start (pool.step i) order' := by
  by_cases hi : i ∈ order
  · obtain ⟨resolves, hmem, hdone⟩ := h.done i hi
    have hself := @Pool.step_calls_self _ _ _ _ pool i
    generalize hp : pool.calls i = p at hdone
    cases hdone with
    | refused error =>
      rw [Pool.step_of_settled (by rw [hp]; rfl)]
      exact ⟨order, h⟩
    | resolved =>
      rw [Pool.step_of_settled (by rw [hp]; rfl)]
      exact ⟨order, h⟩
    | lists hlists =>
      obtain ⟨hnext, horacles⟩ := Done.step_lists hlists pool.state
      rw [hp] at hself
      refine ⟨order, h.goes_on hi hmem ?_ (hself ▸ hnext) (h.pending.lists_step (hp ▸ hlists) hkeeps)⟩
      rw [← hp] at horacles
      exact horacles
    | unlists hunlists =>
      obtain ⟨hnext, horacles⟩ := Done.step_unlists hunlists pool.state
      rw [hp] at hself
      refine ⟨order, h.goes_on hi hmem ?_ (hself ▸ hnext)
        (h.pending.unlists_step (hp ▸ hunlists) hkeeps)⟩
      rw [← hp] at horacles
      exact horacles
  · exact h.waiting_step hi hkeeps

/-! ### Whole runs -/

/-- When all calls have settled and every step has met the condition, the registry and the answers are
those of the calls one after the other, no two oracles share an id or a name, and the adapters are
those of the stored oracles. -/
theorem isSequential_of_keepsOrder (compound : Js.Value → Js.Value → Bool)
    (changes : ι → RegistryChange) (w : World) (hinStep : w.InStep) (hdistinct : Distinct w.oracles)
    (schedule : List ι) (hsettled : ((contending compound changes w).run schedule).Settled)
    (hkeeps : Runs.Each Pool.step (KeepsOrder compound) (contending compound changes w) schedule) :
    IsSequential compound changes w ((contending compound changes w).run schedule) ∧
      Distinct ((contending compound changes w).run schedule).state.oracles ∧
      ((contending compound changes w).run schedule).state.InStep := by
  have hordered := Runs.invariant (P := fun pool => ∃ order, Ordered compound changes w pool order)
    (fun pool i h hkeep => h.elim fun order h => h.step hkeep)
    ⟨[], ordered_start compound changes hinStep hdistinct⟩ hkeeps
  obtain ⟨order, h⟩ := hordered
  change Ordered compound changes w ((contending compound changes w).run schedule) order at h
  generalize (contending compound changes w).run schedule = pool at *
  have hnone (id : Js.Value) : ¬ToList pool id ∧ ¬ToUnlist pool id := by
    constructor
    · intro hto
      obtain ⟨j, adapter, -, hlists⟩ := hto
      exact absurd (hlists.unsettled.symm.trans (hsettled j)) nofun
    · intro hto
      obtain ⟨j, name, -, hunlists⟩ := hto
      exact absurd (hunlists.unsettled.symm.trans (hsettled j)) nofun
  have hpoolInStep : pool.state.InStep := by
    intro id
    constructor
    · exact fun hadapted => (h.pending.stored id hadapted).resolve_right (hnone id).2
    · exact fun hstored => (h.pending.listed id hstored).resolve_right (hnone id).1
  have hall : ∀ i, i ∈ order := by
    intro i
    by_contra hi
    have hopen := (h.waiting i hi).unsettled
    rw [hsettled i] at hopen
    cases hopen
  refine ⟨⟨order, h.nodup, hall, h.oracles, ?_, ?_⟩, h.distinct, hpoolInStep⟩
  · intro id
    rw [h.inStep id, hpoolInStep id]
    unfold World.Stored
    rw [h.oracles]
  · intro i
    obtain ⟨resolves, hmem, hdone⟩ := h.done i (hall i)
    exact ⟨resolves, hmem, hdone.of_settled (hsettled i)⟩

end Contention

/-! ### An addition and a removal that overlap -/

/-- A call that adds a builtin oracle without an id. -/
def addBuiltin (name randomUUID : String) : RegistryChange :=
  .add
    { oracle :=
        { id := .undefined, name := .str name, type := .str "builtin",
          partyType := .str "MSISDN", currency := .undefined, endpoint := .undefined }
      randomUUID
      initialises := fun hremote => absurd (Js.Value.str.inj hremote) (by decide) }

/-- The oracle that is stored for such a call. -/
def storedBuiltin (name randomUUID : String) : Oracle :=
  { id := .str randomUUID, name := .str name, type := .str "builtin",
    partyType := .str "MSISDN", currency := .undefined, endpoint := .null }

/-- The database matches no array and no object. -/
def matchesNone (_ _ : Js.Value) : Bool := false

theorem unregistered_inStep : World.unregistered.InStep := by
  intro id
  simp [World.Adapted, World.Stored, World.unregistered]

theorem unregistered_distinct : Distinct World.unregistered.oracles := by
  constructor <;> simp [World.unregistered]

/-- A registry of one oracle, which has its adapter. -/
def registered : World :=
  { World.unregistered with
    oracles := [storedBuiltin "builtin" "1"]
    adapters := [⟨.builtin, storedBuiltin "builtin" "1"⟩] }

theorem registered_inStep : registered.InStep := by
  intro id
  simp [World.Adapted, World.Stored, registered]
  rfl

theorem registered_distinct : Distinct registered.oracles := by
  constructor <;> simp [registered]

section Steps

variable {ι : Type} [DecidableEq ι] {compound : Js.Value → Js.Value → Bool}
  {pool : Pool JsError World ι} {i : ι}

theorem not_stores (h : (pool.step i).state.oracles.length ≤ pool.state.oracles.length)
    {oracle : Oracle} : (pool.step i).state.oracles ≠ pool.state.oracles ++ [oracle] := by
  intro hstores
  rw [hstores, List.length_append] at h
  exact absurd h (by simp)

theorem not_lists (h : (pool.step i).state.adapters.length ≤ pool.state.adapters.length)
    {adapter : OracleAdapter} : (pool.step i).state.adapters ≠ pool.state.adapters ++ [adapter] := by
  intro hlists
  rw [hlists, List.length_append] at h
  exact absurd h (by simp)

theorem not_unlists (h : ((pool.step i).calls i).settled = false) {name : String} :
    ¬Unlists name (pool.calls i) := by
  intro hunlists
  rw [Pool.step_calls_self, hunlists.step_settled] at h
  cases h

/-- A step that changes neither the oracles nor the number of adapters, of a call that goes on. -/
theorem KeepsOrder.of_quiet (horacles : (pool.step i).state.oracles = pool.state.oracles)
    (hadapters : (pool.step i).state.adapters.length = pool.state.adapters.length)
    (hcall : ((pool.step i).calls i).settled = false) : KeepsOrder compound pool i where
  stores _ h := absurd h (not_stores (congrArg List.length horacles).le)
  deletes _ _ removed hmem hleft := by
    rw [horacles] at hleft
    exact absurd hmem hleft
  lists _ h := absurd h (not_lists hadapters.le)
  unlists _ hunlists := absurd hunlists (not_unlists hcall)

end Steps

/-- An addition of an oracle, and the removal of the one that is registered. -/
def additionAndRemoval (isAddition : Bool) : RegistryChange :=
  if isAddition then addBuiltin "other" "2" else .remove "1"

/-- The turns of the two calls: the addition stores its oracle after the removal has deleted the
registered one, and before it has removed its adapter. -/
def overlap : List Bool := [true, false, true, false, true, false, true, true, true]

/-- The two calls after a number of their turns. -/
def overlapping (turns : ℕ) : Pool JsError World Bool :=
  (contending matchesNone additionAndRemoval registered).run (overlap.take turns)

theorem overlapping_deletes : KeepsOrder matchesNone (overlapping 3) false := by
  have hbefore : (overlapping 3).state.oracles = [storedBuiltin "builtin" "1"] := by decide +kernel
  have hafter : ((overlapping 3).step false).state.oracles.length = 0 := by decide +kernel
  have hadapters : ((overlapping 3).step false).state.adapters.length =
      (overlapping 3).state.adapters.length := by decide +kernel
  have hcall : (((overlapping 3).step false).calls false).settled = false := by decide +kernel
  have hnone : ((((overlapping 3).step false).calls false).step (adaptedBy "1")).2.adapters.length =
      0 := by decide +kernel
  refine ⟨?_, ?_, ?_, ?_⟩
  · exact fun _ h => absurd h (not_stores (hafter.trans_le (Nat.zero_le _)))
  · intro id hunlists removed hmem _
    rw [hbefore, List.mem_singleton] at hmem
    rw [hmem, hunlists.eq_of_step (List.length_eq_zero_iff.mp hnone)]
    rfl
  · exact fun _ h => absurd h (not_lists hadapters.le)
  · exact fun _ hunlists => absurd hunlists (not_unlists hcall)

theorem overlapping_stores : KeepsOrder matchesNone (overlapping 4) true := by
  have hbefore : (overlapping 4).state.oracles = [] := by decide +kernel
  have hafter : ((overlapping 4).step true).state.oracles = [storedBuiltin "other" "2"] := by
    decide +kernel
  have hadapters : ((overlapping 4).step true).state.adapters.length =
      (overlapping 4).state.adapters.length := by decide +kernel
  have hcall : (((overlapping 4).step true).calls true).settled = false := by decide +kernel
  refine ⟨?_, ?_, ?_, ?_⟩
  · intro oracle _
    rw [hbefore]
    exact ⟨fun _ hmem => absurd hmem List.not_mem_nil, fun _ hmem => absurd hmem List.not_mem_nil⟩
  · intro id _ removed hmem
    rw [hbefore] at hmem
    cases hmem
  · exact fun _ h => absurd h (not_lists hadapters.le)
  · exact fun _ hunlists => absurd hunlists (not_unlists hcall)

theorem overlapping_unlists : KeepsOrder matchesNone (overlapping 5) false := by
  have hbefore : (overlapping 5).state.oracles = [storedBuiltin "other" "2"] := by decide +kernel
  have hafter : ((overlapping 5).step false).state.oracles.length = 1 := by decide +kernel
  have hadapters : ((overlapping 5).step false).state.adapters.length = 0 := by decide +kernel
  have hcall : (((overlapping 5).step false).calls false).settled = true := by decide +kernel
  have hnone : (((overlapping 5).calls false).step (adaptedBy "1")).2.adapters.length = 0 := by
    decide +kernel
  refine ⟨?_, ?_, ?_, ?_⟩
  · exact fun _ h => absurd h (not_stores (by rw [hafter, hbefore]; rfl))
  · intro id hunlists
    rw [hunlists.unsettled] at hcall
    cases hcall
  · exact fun _ h => absurd h (not_lists (hadapters.trans_le (Nat.zero_le _)))
  · intro id hunlists hstored
    obtain ⟨oracle, hmem, hid⟩ := hstored
    rw [hbefore, List.mem_singleton] at hmem
    rw [hunlists.eq_of_step (List.length_eq_zero_iff.mp hnone), hmem] at hid
    exact absurd hid (by decide)

theorem overlapping_lists : KeepsOrder matchesNone (overlapping 8) true := by
  have hbefore : (overlapping 8).state.oracles = [storedBuiltin "other" "2"] := by decide +kernel
  have hafter : ((overlapping 8).step true).state.oracles.length = 1 := by decide +kernel
  have hadapters : (overlapping 8).state.adapters.length = 0 := by decide +kernel
  have hlisted : ((overlapping 8).step true).state.adapters.map OracleAdapter.oracleId =
      [.str "2"] := by decide +kernel
  have hcall : (((overlapping 8).step true).calls true).settled = true := by decide +kernel
  have hone : (((overlapping 8).calls true).step World.unregistered).2.adapters.length = 1 := by
    decide +kernel
  refine ⟨?_, ?_, ?_, ?_⟩
  · exact fun _ h => absurd h (not_stores (by rw [hafter, hbefore]; rfl))
  · intro id hunlists
    rw [hunlists.unsettled] at hcall
    cases hcall
  · intro adapter h
    rw [h, List.length_eq_zero_iff.mp hadapters] at hlisted
    unfold World.Stored
    rw [hbefore]
    exact .inl ⟨storedBuiltin "other" "2", List.mem_singleton_self _,
      (List.singleton_inj.mp hlisted).symm⟩
  · intro id hunlists
    rw [hunlists.step_adapters] at hone
    cases hone

/-- The two calls, step by step. -/
theorem isSequential_of_keepsOrder_overlap :
    IsSequential matchesNone additionAndRemoval registered (overlapping 9) ∧
      Distinct (overlapping 9).state.oracles ∧ (overlapping 9).state.InStep := by
  have hsettled : (overlapping 9).Settled := by
    intro i
    decide +kernel +revert
  apply isSequential_of_keepsOrder matchesNone additionAndRemoval registered registered_inStep
    registered_distinct overlap hsettled
  refine ⟨?_, ?_, ?_, overlapping_deletes, overlapping_stores, overlapping_unlists, ?_, ?_,
    overlapping_lists, trivial⟩
  all_goals apply KeepsOrder.of_quiet <;> decide +kernel

/-- Both calls find the name free and store their oracles. -/
theorem not_isSequential_twins :
    let changes (second : Bool) := addBuiltin "builtin" (if second then "2" else "1")
    let pool := contending matchesNone changes World.unregistered
    let schedule := [false, true, false, true, false, true, false, true, false, true, false, true]
    World.unregistered.InStep ∧ Distinct World.unregistered.oracles ∧
      (pool.run schedule).Settled ∧
      ¬IsSequential matchesNone changes World.unregistered (pool.run schedule) ∧
      ¬Distinct (pool.run schedule).state.oracles := by
  refine ⟨unregistered_inStep, unregistered_distinct, ?_, ?_, ?_⟩
  · intro i
    decide +kernel +revert
  · intro h
    obtain ⟨order, hnodup, hall, horacles, -⟩ := h
    have horder : order.Perm [false, true] := by
      rw [List.perm_ext_iff_of_nodup hnodup (by decide)]
      simpa using hall
    obtain ⟨first, second, rfl⟩ := List.length_eq_two.mp horder.length_eq
    have hlength := congrArg List.length horacles
    revert hlength
    cases first <;> cases second <;> decide +kernel
  · intro h
    have hnames := h.names_nodup
    revert hnames
    decide +kernel

end AccountLookup
