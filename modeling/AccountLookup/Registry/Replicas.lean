import AccountLookup.Handling.Service
import AccountLookup.Registry.Adapters

/-! Several instances of the service over one collection of oracles, each with its own adapters:
which of them resolve a party type and a currency after calls on the registry that any of them
serve. -/

namespace AccountLookup

open Async MongoOracleFinderRepo

/-- The state of the members `ι` of the consumer group: the stores that they share, and the adapters
of each. -/
structure Fleet (ι : Type) where
  oracles : List Oracle
  adapters : ι → List OracleAdapter
  builtin : BuiltinStore
  remotes : Js.Value → RemoteOracle

/-- The call on the registry. -/
def RegistryRequest.perform : RegistryRequest → Proc JsError World Unit
  | .add call oracle => (call.aggregate.addOracle oracle).void
  | .remove call id => call.aggregate.removeOracle id

/-- A call on the registry that the member serves. -/
structure ServedRequest (ι : Type) where
  member : ι
  request : RegistryRequest

namespace ServedRequest

variable {ι : Type}

/-- The call is to add an oracle with the id, and `i` serves it. -/
def Adds (served : ServedRequest ι) (i : ι) (id : Js.Value) : Prop :=
  served.member = i ∧ ∃ call oracle, served.request = .add call oracle ∧ call.newId oracle = id

/-- The call is to remove the oracle with the id, and `i` serves it. -/
def Removes (served : ServedRequest ι) (i : ι) (id : Js.Value) : Prop :=
  served.member = i ∧ ∃ call name, served.request = .remove call name ∧ id = .str name

/-- From a state in which `i` knows the id when `known` holds, `i` has served the addition of an
oracle with the id or has known it all along, and it has served no removal of the id since. -/
def Knows (known : Prop) (i : ι) (id : Js.Value) (calls : List (ServedRequest ι)) : Prop :=
  (known ∧ ∀ served ∈ calls, ¬served.Removes i id) ∨
    ∃ before served after, calls = before ++ served :: after ∧ served.Adds i id ∧
      ∀ later ∈ after, ¬later.Removes i id

variable {known : Prop} {i : ι} {id : Js.Value} {served : ServedRequest ι}
  {calls : List (ServedRequest ι)}

@[simp] theorem knows_nil : Knows known i id [] ↔ known := by
  simp [Knows]

/-- What a member knows after its first call is what it knows from then on. -/
theorem knows_cons : Knows known i id (served :: calls) ↔
    Knows (served.Adds i id ∨ known ∧ ¬served.Removes i id) i id calls := by
  unfold Knows
  constructor
  · intro h
    rcases h with ⟨hknown, hkept⟩ | ⟨before, other, after, hsplit, hadds, hkept⟩
    · rw [List.forall_mem_cons] at hkept
      exact .inl ⟨.inr ⟨hknown, hkept.1⟩, hkept.2⟩
    · rcases List.cons_eq_append_iff.mp hsplit with ⟨rfl, hcons⟩ | ⟨before', rfl, rfl⟩
      · cases hcons
        exact .inl ⟨.inl hadds, hkept⟩
      · exact .inr ⟨before', other, after, rfl, hadds, hkept⟩
  · intro h
    rcases h with ⟨hadds | ⟨hknown, hnot⟩, hkept⟩ | ⟨before, other, after, rfl, hadds, hkept⟩
    · exact .inr ⟨[], served, calls, rfl, hadds, hkept⟩
    · exact .inl ⟨hknown, List.forall_mem_cons.mpr ⟨hnot, hkept⟩⟩
    · exact .inr ⟨served :: before, other, after, rfl, hadds, hkept⟩

end ServedRequest

namespace Fleet

variable {ι : Type} [DecidableEq ι]

/-- The state as the member sees it. -/
def member (i : ι) : Lens (Fleet ι) World where
  get f := ⟨f.oracles, f.adapters i, f.builtin, f.remotes⟩
  set w f := ⟨w.oracles, Function.update f.adapters i w.adapters, w.builtin, w.remotes⟩
  get_set _ _ := by simp
  set_get _ := by simp
  set_set _ _ _ := by simp

/-- A member serves a call. -/
def serve (f : Fleet ι) (served : ServedRequest ι) : Fleet ι :=
  ((served.request.perform.zoom (member served.member)).run f).2

/-- The call is completed successfully. -/
def Completes (f : Fleet ι) (served : ServedRequest ι) : Prop :=
  ((served.request.perform.zoom (member served.member)).run f).1 = .ok ()

/-- The adapters of every member are those that its initialisation lists for the collection. -/
def Initialised (f : Fleet ι) : Prop :=
  ∀ i, ∃ env w w', w.oracles = f.oracles ∧ w.adapters = [] ∧
    (System.aggregate env).init.run w = (.ok (), w') ∧ f.adapters i = w'.adapters

/-- The member resolves the party type and the currency to an adapter that has the id. -/
def ResolvesTo (env : Environment) (f : Fleet ι) (i : ι) (partyType currency : Js.Str)
    (id : Js.Value) : Prop :=
  ∃ adapter, ((((System.aggregate env).getOracleAdapter partyType currency).zoom
    (member i)).run f).1 = .ok adapter ∧ adapter.oracleId = id

/-- The collection has an oracle with the id for the party type and the currency. -/
def Selected (compound : Js.Value → Js.Value → Bool) (f : Fleet ι) (partyType currency : Js.Str)
    (id : Js.Value) : Prop :=
  ∃ oracle, select compound partyType currency f.oracles = some oracle ∧ oracle.id = id

/-- The member has an adapter with the id. -/
def Adapted (f : Fleet ι) (i : ι) (id : Js.Value) : Prop :=
  ∃ adapter ∈ f.adapters i, adapter.oracleId = id

variable {f : Fleet ι} {i : ι} {id : Js.Value} {served : ServedRequest ι}

theorem resolvesTo_iff {env : Environment} (henv : env.faults .findOraclesOfType = none)
    {partyType currency : Js.Str} :
    ResolvesTo env f i partyType currency id ↔
      Selected env.compound f partyType currency id ∧ f.Adapted i id ∧ id.isCompound = false := by
  have hrun (adapter : OracleAdapter) :
      ((((System.aggregate env).getOracleAdapter partyType currency).zoom (member i)).run f).1 =
        .ok adapter ↔
      System.adapterFor env.compound ((member i).get f) partyType currency = some adapter := by
    have hselects := @System.selects_iff env partyType currency adapter ((member i).get f)
    rw [Proc.run_zoom]
    constructor
    · intro hok
      have hresolved := (Aggregate.getOracleAdapter_eq_ok (System.aggregate_quiet env)).mp
        (Prod.ext hok rfl)
      exact (hselects.mp hresolved).2.2
    · intro hfind
      have hok := (Aggregate.getOracleAdapter_eq_ok (System.aggregate_quiet env)).mpr
        (hselects.mpr ⟨rfl, henv, hfind⟩)
      rw [hok]
  unfold ResolvesTo Selected Adapted
  simp only [hrun]
  unfold System.adapterFor
  constructor
  · intro h
    obtain ⟨adapter, hfind, hid⟩ := h
    obtain ⟨oracle, hselect, hfind⟩ := Option.bind_eq_some_iff.mp hfind
    have hsame := List.find?_some hfind
    simp only [Js.Value.strictEq, Bool.and_eq_true, decide_eq_true_eq, Bool.not_eq_true'] at hsame
    rw [hid] at hsame
    exact ⟨⟨oracle, hselect, hsame.1.symm⟩, ⟨adapter, List.mem_of_find?_eq_some hfind, hid⟩,
      hsame.2⟩
  · intro h
    obtain ⟨⟨oracle, hselect, rfl⟩, ⟨adapter, hmem, hid⟩, hsimple⟩ := h
    have hsome : (((member i).get f).adapters.find? fun adapter =>
        adapter.oracleId.strictEq oracle.id).isSome = true := by
      rw [List.find?_isSome]
      refine ⟨adapter, hmem, ?_⟩
      simp [Js.Value.strictEq, hid, hsimple]
    obtain ⟨found, hfind⟩ := Option.isSome_iff_exists.mp hsome
    have hsame := List.find?_some hfind
    simp only [Js.Value.strictEq, Bool.and_eq_true, decide_eq_true_eq] at hsame
    exact ⟨found, Option.bind_eq_some_iff.mpr ⟨oracle, hselect, hfind⟩, hsame.1⟩

omit [DecidableEq ι] in
/-- A call that is completed adds an adapter with the id of the new oracle, or takes those with the
removed id. -/
theorem adapted_perform_iff {w : World}
    (h : (served.request.perform.run w).1 = .ok ()) :
    (∃ adapter ∈ (served.request.perform.run w).2.adapters, adapter.oracleId = id) ↔
      served.Adds served.member id ∨
        (∃ adapter ∈ w.adapters, adapter.oracleId = id) ∧ ¬served.Removes served.member id := by
  obtain ⟨member, request⟩ := served
  cases request with
  | add call oracle =>
    have hadds : ServedRequest.Adds ⟨member, .add call oracle⟩ member id ↔
        call.newId oracle = id := by
      simp [ServedRequest.Adds]
    have hremoves : ¬ServedRequest.Removes ⟨member, .add call oracle⟩ member id := by
      simp [ServedRequest.Removes]
    simp only [hadds, hremoves, RegistryRequest.perform, Proc.run_void] at h ⊢
    rcases RegistryCall.run_addOracle w oracle with ⟨error, hrun, -⟩ | ⟨adapter, hstores, hrun⟩ <;>
      rw [hrun] at h ⊢
    · cases h
    unfold RegistryCall.list at h ⊢
    rcases RegistryCall.run_init { w with oracles := w.oracles ++ [call.added oracle] } adapter with
      ⟨error, connections, -, hinit⟩ | ⟨connections, -, hinit⟩
    · rw [Proc.run_bind_error hinit] at h
      cases h
    · rw [Proc.run_bind_ok hinit]
      have hid : adapter.oracleId = call.newId oracle :=
        congrArg Oracle.id (RegistryCall.oracle_of_created hstores.created)
      show (∃ other ∈ w.adapters ++ [adapter], other.oracleId = id) ↔ _
      rw [World.exists_listed_iff, hid, or_comm]
      simp
  | remove call name =>
    have hadds : ¬ServedRequest.Adds ⟨member, .remove call name⟩ member id := by
      simp [ServedRequest.Adds]
    have hremoves : ServedRequest.Removes ⟨member, .remove call name⟩ member id ↔
        id = .str name := by
      simp [ServedRequest.Removes]
    simp only [hadds, hremoves, RegistryRequest.perform] at h ⊢
    rcases RegistryCall.run_removeOracle w name with ⟨error, hrun, -⟩ | ⟨-, hrun⟩ <;>
      rw [hrun] at h ⊢
    · cases h
    · apply World.exists_unlisted_iff.trans
      simp

/-- A call that is completed gives the member that serves it an adapter with the id that it adds, and
takes from it those with the id that it removes. -/
theorem adapted_serve_iff (h : f.Completes served) :
    (f.serve served).Adapted i id ↔
      served.Adds i id ∨ f.Adapted i id ∧ ¬served.Removes i id := by
  have hself : (f.serve served).adapters served.member =
      (served.request.perform.run ((member served.member).get f)).2.adapters := by
    simp [serve, member]
  have hother {j : ι} (hj : j ≠ served.member) : (f.serve served).adapters j = f.adapters j := by
    simp [serve, member, hj]
  unfold Completes at h
  rw [Proc.run_zoom] at h
  by_cases hi : i = served.member
  · subst hi
    unfold Adapted
    rw [hself]
    exact adapted_perform_iff h
  · unfold Adapted
    rw [hother hi]
    have hadds : ¬served.Adds i id := fun hadds => hi hadds.1.symm
    have hremoves : ¬served.Removes i id := fun hremoves => hi hremoves.1.symm
    simp [hadds, hremoves]

omit [DecidableEq ι] in
theorem adapted_iff_stored (h : f.Initialised) :
    f.Adapted i id ↔ ∃ oracle ∈ f.oracles, oracle.id = id := by
  obtain ⟨env, w, w', horacles, hnew, hinit, hadapters⟩ := h i
  have hinStep := @World.inStep_of_init ⟨env, none, none⟩ w w' hnew hinit id
  obtain ⟨hkept, -⟩ := ((RegistryCall.mk env none none).init_lists w).ok rfl hinit
  unfold World.Adapted World.Stored at hinStep
  rw [hkept, horacles, ← hadapters] at hinStep
  exact hinStep

/-- After calls that are all completed, a member has an adapter with an id exactly when it knows the
id. -/
theorem adapted_run_iff {calls : List (ServedRequest ι)}
    (h : Runs.Each serve Completes f calls) :
    (calls.foldl serve f).Adapted i id ↔ ServedRequest.Knows (f.Adapted i id) i id calls := by
  induction calls generalizing f with
  | nil => rw [ServedRequest.knows_nil]; rfl
  | cons served rest ih =>
    rw [ServedRequest.knows_cons, ← adapted_serve_iff h.1]
    exact ih h.2

/-- Members of one fleet resolve a party type and a currency to the oracle that the shared collection
has for it, each exactly when it knows the id of that oracle; so two that resolve it agree. -/
theorem resolvesTo_iff_knows (env : Environment) (henv : env.faults .findOraclesOfType = none)
    (f : Fleet ι) (hstart : f.Initialised) (calls : List (ServedRequest ι))
    (hcalls : Runs.Each serve Completes f calls) (partyType currency : Js.Str) :
    (∀ i id, ResolvesTo env (calls.foldl serve f) i partyType currency id ↔
      Selected env.compound (calls.foldl serve f) partyType currency id ∧ id.isCompound = false ∧
        ServedRequest.Knows (∃ oracle ∈ f.oracles, oracle.id = id) i id calls) ∧
      ∀ i j id id', ResolvesTo env (calls.foldl serve f) i partyType currency id →
        ResolvesTo env (calls.foldl serve f) j partyType currency id' → id = id' := by
  constructor
  · intro i id
    rw [resolvesTo_iff henv, adapted_run_iff hcalls, adapted_iff_stored hstart]
    exact and_congr_right fun _ => and_comm
  · intro i j id id' hi hj
    rw [resolvesTo_iff henv] at hi hj
    obtain ⟨⟨oracle, hselect, rfl⟩, -⟩ := hi
    obtain ⟨⟨oracle', hselect', rfl⟩, -⟩ := hj
    rw [hselect] at hselect'
    cases hselect'
    rfl

/-! ### Two members -/

/-- Two members over a collection without oracles. -/
def unregistered : Fleet Bool where
  oracles := []
  adapters _ := []
  builtin := ⟨[], Store.Cache.empty, []⟩
  remotes _ := .empty "/app/data/db.json"

/-- The addition of an oracle that serves the `MSISDN` parties, by one of the members. -/
def addition : ServedRequest Bool where
  member := false
  request := .add ⟨World.noFaults, none, none⟩ System.builtinOracle

theorem initialised_unregistered : Initialised unregistered := fun _ =>
  ⟨World.noFaults, World.unregistered, World.unregistered, rfl, rfl, rfl, rfl⟩

theorem completes_addition : Runs.Each serve Completes unregistered [addition] := by
  refine ⟨?_, trivial⟩
  unfold Completes
  decide +kernel

theorem resolvesTo_iff_knows_addition :
    (∀ i id, ResolvesTo World.noFaults ([addition].foldl serve unregistered) i (.val "MSISDN") .null
        id ↔
      Selected World.noFaults.compound ([addition].foldl serve unregistered) (.val "MSISDN") .null
          id ∧ id.isCompound = false ∧
        ServedRequest.Knows (∃ oracle ∈ unregistered.oracles, oracle.id = id) i id [addition]) ∧
      ∀ i j id id', ResolvesTo World.noFaults ([addition].foldl serve unregistered) i
          (.val "MSISDN") .null id →
        ResolvesTo World.noFaults ([addition].foldl serve unregistered) j (.val "MSISDN") .null id' →
          id = id' :=
  resolvesTo_iff_knows World.noFaults rfl unregistered initialised_unregistered [addition]
    completes_addition (.val "MSISDN") .null

/-- The member that served the addition resolves the party type, the other fails. -/
theorem not_resolvesTo_other :
    Initialised unregistered ∧ Runs.Each serve Completes unregistered [addition] ∧
      ResolvesTo World.noFaults (unregistered.serve addition) false (.val "MSISDN") .null
        (.str "1") ∧
      ∀ id, ¬ResolvesTo World.noFaults (unregistered.serve addition) true (.val "MSISDN") .null
        id := by
  refine ⟨initialised_unregistered, completes_addition, ?_, ?_⟩
  · refine ⟨⟨.builtin, System.builtinOracle⟩, ?_, rfl⟩
    decide +kernel
  · intro id hresolves
    obtain ⟨adapter, hok, -⟩ := hresolves
    have hfails : ((((System.aggregate World.noFaults).getOracleAdapter (.val "MSISDN") .null).zoom
        (member true)).run (unregistered.serve addition)).1.isOk = false := by
      decide +kernel
    rw [hok] at hfails
    cases hfails

end Fleet

end AccountLookup
