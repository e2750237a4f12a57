import AccountLookup.Registry.Adapters

/-! The connections of the builtin adapters: which runs of the aggregate leave one open when the
aggregate has been destroyed. -/

namespace AccountLookup

open Async

namespace RegistryCall

variable {call : RegistryCall} {adapter : OracleAdapter}

variable (call) in
/-- The state after the initialisation of the adapter, which may have failed after it opened a
connection. -/
def connected (w : World) (adapter : OracleAdapter) : World :=
  withConnections w (w.builtin.connections ++ call.opened adapter)

variable (call) in
/-- The state after the adapter is listed. -/
def listed (w : World) (adapter : OracleAdapter) : World :=
  { call.connected w adapter with adapters := w.adapters ++ [adapter] }

/-- The listing of the adapter of an oracle fails before or in its initialisation, or it works. -/
theorem initAdapter_cases (w : World) (oracle : Oracle) :
    (∃ error, call.aggregate.oracleProvidersFactory oracle = .error error ∧
      (call.aggregate.initAdapter oracle).run w = (.error error, w)) ∨
    ∃ adapter, call.aggregate.oracleProvidersFactory oracle = .ok adapter ∧
      ((∃ error, call.InitFails adapter ∧
        (call.aggregate.initAdapter oracle).run w = (.error error, call.connected w adapter)) ∨
      ¬call.InitFails adapter ∧
        (call.aggregate.initAdapter oracle).run w = (.ok (), call.listed w adapter)) := by
  unfold Aggregate.initAdapter
  rw [Proc.run_bind, Proc.run_ofExcept]
  cases call.aggregate.oracleProvidersFactory oracle with
  | error error => exact .inl ⟨error, rfl, rfl⟩
  | ok adapter =>
    refine .inr ⟨adapter, rfl, ?_⟩
    dsimp only
    rcases run_init_opened w adapter with ⟨error, hfails, hrun⟩ | ⟨hworks, hrun⟩
    · exact .inl ⟨error, hfails, Proc.run_bind_error hrun⟩
    · exact .inr ⟨hworks, Proc.run_bind_ok hrun⟩

theorem connected_connections_eq_nil_iff {w : World} (h : w.builtin.connections = []) :
    (call.connected w adapter).builtin.connections = [] ↔ ¬call.Connects adapter := by
  rw [← opened_eq_nil_iff]
  simp [connected, withConnections, h]

/-! ### The loop of `init` -/

variable (call) in
/-- The loop of `init` goes on after the oracle. -/
def Initialises (oracle : Oracle) : Prop :=
  ∃ adapter, call.aggregate.oracleProvidersFactory oracle = .ok adapter ∧ ¬call.InitFails adapter

variable (call) in
/-- No builtin adapter gets a connection to MongoDB when the loop of `init` gets to its oracle. -/
def LoopConnectsNone (oracles : List Oracle) : Prop :=
  ∀ before oracle after, oracles = before ++ oracle :: after →
    (∀ o ∈ before, call.Initialises o) →
    ∀ adapter, call.aggregate.oracleProvidersFactory oracle = .ok adapter → ¬call.Connects adapter

theorem loopConnectsNone_cons {oracle : Oracle} {rest : List Oracle} :
    call.LoopConnectsNone (oracle :: rest) ↔
      (∀ adapter, call.aggregate.oracleProvidersFactory oracle = .ok adapter →
        ¬call.Connects adapter) ∧ (call.Initialises oracle → call.LoopConnectsNone rest) := by
  constructor
  · intro h
    refine ⟨h [] oracle rest rfl (fun _ hmem => nomatch hmem), ?_⟩
    intro hinitialises before o after hrest hbefore
    apply h (oracle :: before) o after (by rw [hrest]; rfl)
    intro o' hmem
    rcases List.mem_cons.mp hmem with rfl | hmem
    · exact hinitialises
    · exact hbefore o' hmem
  · intro h before o after hsplit hbefore
    obtain ⟨hfirst, hrest⟩ := h
    cases before with
    | nil =>
      cases hsplit
      exact hfirst
    | cons first before =>
      cases hsplit
      exact hrest (hbefore oracle List.mem_cons_self) before o after rfl
        fun o' hmem => hbefore o' (List.mem_cons_of_mem _ hmem)

end RegistryCall

/-- A call on the aggregate between its construction and its destruction. -/
inductive LifecycleCall where
  | init (call : RegistryCall)
  | request (request : RegistryRequest)

namespace World

/-- The state after the call has settled. -/
def lifecycle (w : World) : LifecycleCall → World
  | .init call => (call.aggregate.init.run w).2
  | .request request => w.request request

/-- The condition on a call: no builtin adapter that it initialises gets a connection to MongoDB. -/
def ConnectsNone (w : World) : LifecycleCall → Prop
  | .init call => call.env.faults .finderConnect = none → call.env.faults .findOracles = none →
      call.LoopConnectsNone w.oracles
  | .request (.add call oracle) => ∀ adapter, call.Stores oracle adapter w → ¬call.Connects adapter
  | .request (.remove _ _) => True

/-- Every listed builtin adapter has an open connection to Redis. -/
def HoldsRedis (w : World) : Prop :=
  ∀ adapter ∈ w.adapters, adapter.type = .builtin → ⟨.redis, adapter⟩ ∈ w.builtin.connections

/-- The state `v` comes from `w` by the initialisation of adapters. -/
structure Opens (w v : World) : Prop where
  grows : ∃ opened, v.builtin.connections = w.builtin.connections ++ opened
  holds : w.HoldsRedis → v.HoldsRedis

theorem Opens.refl (w : World) : Opens w w := ⟨⟨[], (List.append_nil _).symm⟩, id⟩

theorem Opens.trans {u v w : World} (h : Opens u v) (h' : Opens v w) : Opens u w := by
  obtain ⟨⟨first, hfirst⟩, hholds⟩ := h
  obtain ⟨⟨second, hsecond⟩, hholds'⟩ := h'
  refine ⟨⟨first ++ second, ?_⟩, fun hu => hholds' (hholds hu)⟩
  rw [hsecond, hfirst, List.append_assoc]

/-- Connections that are lost stay lost. -/
theorem Opens.connections_ne {w v : World} (h : Opens w v) (hopen : w.builtin.connections ≠ []) :
    v.builtin.connections ≠ [] := by
  obtain ⟨opened, hgrows⟩ := h.grows
  rw [hgrows]
  exact List.append_ne_nil_of_left_ne_nil hopen _

section Steps

variable {call : RegistryCall}

theorem opens_connected (w : World) (adapter : OracleAdapter) :
    Opens w (call.connected w adapter) where
  grows := ⟨_, rfl⟩
  holds h other hmem hbuiltin := List.mem_append_left _ (h other hmem hbuiltin)

theorem opens_listed (w : World) {adapter : OracleAdapter} (hworks : ¬call.InitFails adapter) :
    Opens w (call.listed w adapter) where
  grows := ⟨_, rfl⟩
  holds h other hmem hbuiltin := by
    rcases List.mem_append.mp hmem with hmem | hmem
    · exact List.mem_append_left _ (h other hmem hbuiltin)
    · rw [List.mem_singleton.mp hmem] at hbuiltin ⊢
      exact List.mem_append_right _ (RegistryCall.redis_mem_opened hworks hbuiltin)

theorem opens_loop (w : World) (oracles : List Oracle) :
    Opens w ((oracles.forM call.aggregate.initAdapter).run w).2 := by
  induction oracles generalizing w with
  | nil => exact .refl w
  | cons oracle rest ih =>
    show Opens w ((call.aggregate.initAdapter oracle >>= fun _ =>
      rest.forM call.aggregate.initAdapter).run w).2
    rcases RegistryCall.initAdapter_cases w oracle with ⟨error, -, hrun⟩ |
      ⟨adapter, -, ⟨error, -, hrun⟩ | ⟨hworks, hrun⟩⟩
    · rw [Proc.run_bind_error hrun]
      exact .refl w
    · rw [Proc.run_bind_error hrun]
      exact opens_connected w adapter
    · rw [Proc.run_bind_ok hrun]
      exact (opens_listed w hworks).trans (ih _)

/-- The loop of `init` opens nothing exactly under its condition. -/
theorem loop_connections_eq_nil_iff {w : World} (h : w.builtin.connections = [])
    (oracles : List Oracle) :
    ((oracles.forM call.aggregate.initAdapter).run w).2.builtin.connections = [] ↔
      call.LoopConnectsNone oracles := by
  induction oracles generalizing w with
  | nil =>
    apply iff_of_true h
    intro before oracle after hsplit
    simp at hsplit
  | cons oracle rest ih =>
    show ((call.aggregate.initAdapter oracle >>= fun _ =>
      rest.forM call.aggregate.initAdapter).run w).2.builtin.connections = [] ↔ _
    rw [RegistryCall.loopConnectsNone_cons, RegistryCall.Initialises]
    rcases RegistryCall.initAdapter_cases w oracle with ⟨error, hcreate, hrun⟩ |
      ⟨adapter, hcreate, ⟨error, hfails, hrun⟩ | ⟨hworks, hrun⟩⟩
    · rw [Proc.run_bind_error hrun]
      simp [h, hcreate]
    · rw [Proc.run_bind_error hrun]
      dsimp only
      rw [RegistryCall.connected_connections_eq_nil_iff h]
      simp [hcreate, hfails]
    · rw [Proc.run_bind_ok hrun]
      by_cases hconnects : call.Connects adapter
      · apply iff_of_false
        · apply (opens_loop (call.listed w adapter) rest).connections_ne
          exact mt (RegistryCall.connected_connections_eq_nil_iff h).mp (not_not.mpr hconnects)
        · intro hnone
          exact hnone.1 adapter hcreate hconnects
      · have hnone : (call.listed w adapter).builtin.connections = [] :=
          (RegistryCall.connected_connections_eq_nil_iff h).mpr hconnects
        rw [ih hnone]
        simp [hcreate, hconnects, hworks]

/-- The initialisation of the aggregate fails before its loop, or it is the loop. -/
theorem run_init_aggregate (call : RegistryCall) (w : World) :
    (∃ error, ((call.env.faults .finderConnect).isSome ∨ (call.env.faults .findOracles).isSome) ∧
      call.aggregate.init.run w = (.error error, w)) ∨
    call.env.faults .finderConnect = none ∧ call.env.faults .findOracles = none ∧
      call.aggregate.init.run w = (w.oracles.forM call.aggregate.initAdapter).run w := by
  unfold Aggregate.init
  rw [Proc.run_bind]
  simp only [RegistryCall.aggregate, System.aggregate, System.oracleFinder, Proc.run_zoom,
    MongoOracleFinderRepo.init, run_send_rethrow]
  cases call.env.faults .finderConnect with
  | some error => exact .inl ⟨_, .inl rfl, rfl⟩
  | none =>
    dsimp only
    rw [Proc.run_bind]
    simp only [Proc.run_zoom, MongoOracleFinderRepo.getAllOracles, run_send_rethrow]
    cases call.env.faults .findOracles with
    | some error => exact .inl ⟨_, .inr rfl, rfl⟩
    | none => exact .inr ⟨trivial, rfl, rfl⟩

/-- Adding an oracle changes nothing, or it stores the oracle and initialises its adapter. -/
theorem addOracle_cases (call : RegistryCall) (oracle : Oracle) (w : World) :
    (w.request (.add call oracle) = w ∧ ∀ adapter, ¬call.Stores oracle adapter w) ∨
    ∃ adapter, call.Stores oracle adapter w ∧
      let stored := { w with oracles := w.oracles ++ [call.added oracle] }
      (w.request (.add call oracle) = call.connected stored adapter ∨
        ¬call.InitFails adapter ∧ w.request (.add call oracle) = call.listed stored adapter) := by
  unfold request
  rcases RegistryCall.run_addOracle w oracle with ⟨error, hrun, hnot⟩ | ⟨adapter, hstores, hrun⟩ <;>
    dsimp only <;> rw [hrun]
  · exact .inl ⟨rfl, hnot⟩
  refine .inr ⟨adapter, hstores, ?_⟩
  unfold RegistryCall.list
  rcases RegistryCall.run_init_opened { w with oracles := w.oracles ++ [call.added oracle] } adapter
    with ⟨error, -, hinit⟩ | ⟨hworks, hinit⟩
  · rw [Proc.run_bind_error hinit]
    exact .inl rfl
  · rw [Proc.run_bind_ok hinit]
    exact .inr ⟨hworks, rfl⟩

theorem opens_request (w : World) (request : RegistryRequest) : Opens w (w.request request) := by
  cases request with
  | add call oracle =>
    have hstored (oracles : List Oracle) : Opens w { w with oracles } :=
      ⟨⟨[], (List.append_nil _).symm⟩, id⟩
    rcases addOracle_cases call oracle w with ⟨hsame, -⟩ |
      ⟨adapter, -, hconnected | ⟨hworks, hlisted⟩⟩
    · rw [hsame]
      exact .refl w
    · rw [hconnected]
      exact (hstored _).trans (opens_connected _ adapter)
    · rw [hlisted]
      exact (hstored _).trans (opens_listed _ hworks)
  | remove call id =>
    unfold request
    rcases RegistryCall.run_removeOracle w id with ⟨error, hrun, -⟩ | ⟨-, hrun⟩ <;>
      dsimp only <;> rw [hrun]
    · exact .refl w
    · exact ⟨⟨[], (List.append_nil _).symm⟩,
        fun h adapter hmem => h adapter (List.mem_of_mem_filter hmem)⟩

theorem opens_lifecycle (w : World) (next : LifecycleCall) : Opens w (w.lifecycle next) := by
  cases next with
  | init call =>
    show Opens w (call.aggregate.init.run w).2
    rcases run_init_aggregate call w with ⟨error, -, hrun⟩ | ⟨-, -, hrun⟩ <;> rw [hrun]
    · exact .refl w
    · exact opens_loop w w.oracles
  | request request => exact opens_request w request

/-- From a state without connections, a call opens none exactly under its condition. -/
theorem lifecycle_connections_eq_nil_iff {w : World} (h : w.builtin.connections = [])
    (next : LifecycleCall) :
    (w.lifecycle next).builtin.connections = [] ↔ w.ConnectsNone next := by
  cases next with
  | init call =>
    show (call.aggregate.init.run w).2.builtin.connections = [] ↔ w.ConnectsNone (.init call)
    unfold ConnectsNone
    rcases run_init_aggregate call w with ⟨error, hfault, hrun⟩ | ⟨hconnect, hfind, hrun⟩ <;>
      rw [hrun]
    · apply iff_of_true h
      intro hconnect hfind
      rw [hconnect, hfind] at hfault
      simp at hfault
    · rw [loop_connections_eq_nil_iff h]
      exact ⟨fun hloop _ _ => hloop, fun hloop => hloop hconnect hfind⟩
  | request request =>
    show (w.request request).builtin.connections = [] ↔ w.ConnectsNone (.request request)
    cases request with
    | add call oracle =>
      unfold ConnectsNone
      rcases addOracle_cases call oracle w with ⟨hsame, hnot⟩ | ⟨adapter, hstores, hcases⟩
      · rw [hsame]
        exact iff_of_true h fun adapter hstores => absurd hstores (hnot adapter)
      · have hconnections : (w.request (.add call oracle)).builtin.connections = [] ↔
            ¬call.Connects adapter := by
          have hconnected := @RegistryCall.connected_connections_eq_nil_iff call adapter
            { w with oracles := w.oracles ++ [call.added oracle] } h
          rcases hcases with hrequest | ⟨-, hrequest⟩ <;> rw [hrequest] <;> exact hconnected
        rw [hconnections]
        constructor
        · intro hnot adapter' hstores'
          have hcreated := hstores'.created
          rw [hstores.created] at hcreated
          rwa [← Except.ok.inj hcreated]
        · intro hnone
          exact hnone adapter hstores
    | remove call id =>
      apply iff_of_true _ trivial
      unfold World.request
      rcases RegistryCall.run_removeOracle w id with ⟨error, hrun, -⟩ | ⟨-, hrun⟩ <;>
        dsimp only <;> rw [hrun] <;> exact h

end Steps

/-! ### Destruction -/

/-- The state `v` comes from `w` by the destruction of its adapters: no connection to Redis is closed,
and none at all unless there is a builtin adapter. -/
structure Closes (w v : World) : Prop where
  redis : ∀ adapter, ⟨.redis, adapter⟩ ∈ w.builtin.connections →
    ⟨.redis, adapter⟩ ∈ v.builtin.connections
  remote : (∀ adapter ∈ w.adapters, adapter.type ≠ .builtin) →
    v.builtin.connections = w.builtin.connections
  none : w.builtin.connections = [] → v.builtin.connections = []

theorem Closes.refl (w : World) : Closes w w := ⟨fun _ => id, fun _ => rfl, id⟩

/-- The destruction of an adapter closes its connection to MongoDB, or nothing. -/
theorem run_destroy_adapter (call : RegistryCall) (adapter : OracleAdapter) (w : World) :
    ((call.aggregate.oracleProvider.destroy adapter).run w).2 = w ∨
      adapter.type = .builtin ∧ ((call.aggregate.oracleProvider.destroy adapter).run w).2 =
        RegistryCall.withConnections w (w.builtin.connections.erase ⟨.mongo, adapter⟩) := by
  simp only [RegistryCall.aggregate, System.oracleProvider]
  cases htype : adapter.type with
  | remoteHttp => exact .inl rfl
  | builtin =>
    simp only [MongoOracleProviderRepo.destroy, Proc.run_zoom, run_send_rethrow]
    cases call.env.faults (.mongoClose adapter) with
    | some error => exact .inl rfl
    | none => exact .inr ⟨trivial, rfl⟩

theorem Closes.step {w v : World} (h : Closes w v) (call : RegistryCall) {adapter : OracleAdapter}
    (hmem : adapter ∈ w.adapters) :
    Closes w ((call.aggregate.oracleProvider.destroy adapter).run v).2 := by
  rcases run_destroy_adapter call adapter v with hsame | ⟨hbuiltin, hclosed⟩
  · rw [hsame]
    exact h
  · rw [hclosed]
    refine ⟨?_, ?_, ?_⟩
    · intro other hredis
      exact (List.mem_erase_of_ne (by simp)).mpr (h.redis other hredis)
    · intro hremote
      exact absurd hbuiltin (hremote adapter hmem)
    · intro hnone
      show v.builtin.connections.erase _ = []
      rw [h.none hnone]
      rfl

theorem Closes.loop {w v : World} (h : Closes w v) (call : RegistryCall)
    {adapters : List OracleAdapter} (hsubset : adapters ⊆ w.adapters) :
    Closes w ((adapters.forM call.aggregate.oracleProvider.destroy).run v).2 := by
  induction adapters generalizing v with
  | nil => exact h
  | cons adapter rest ih =>
    have hstep := h.step call (hsubset List.mem_cons_self)
    show Closes w ((call.aggregate.oracleProvider.destroy adapter >>= fun _ =>
      rest.forM call.aggregate.oracleProvider.destroy).run v).2
    rw [Proc.run_bind]
    rcases hrun : (call.aggregate.oracleProvider.destroy adapter).run v with ⟨error | _, u⟩ <;>
      rw [hrun] at hstep
    · exact hstep
    · exact ih hstep fun other hmem => hsubset (List.mem_cons_of_mem _ hmem)

theorem closes_destroy (call : RegistryCall) (w : World) :
    Closes w (call.aggregate.destroy.run w).2 := by
  unfold Aggregate.destroy
  rw [Proc.run_bind]
  simp only [RegistryCall.aggregate, System.aggregate, System.oracleFinder, Proc.run_zoom,
    MongoOracleFinderRepo.destroy, run_send_rethrow]
  cases call.env.faults .finderClose with
  | some error => exact .refl w
  | none => exact (Closes.refl w).loop call (List.Subset.refl _)

/-- The destruction leaves no connection exactly when there was none. -/
theorem destroy_connections_eq_nil_iff {w : World} (h : w.HoldsRedis) (call : RegistryCall) :
    (call.aggregate.destroy.run w).2.builtin.connections = [] ↔ w.builtin.connections = [] := by
  have hcloses := closes_destroy call w
  constructor
  · intro hclosed
    by_cases hbuiltin : ∃ adapter ∈ w.adapters, adapter.type = .builtin
    · obtain ⟨adapter, hmem, hbuiltin⟩ := hbuiltin
      have hredis := hcloses.redis adapter (h adapter hmem hbuiltin)
      rw [hclosed] at hredis
      cases hredis
    · rw [← hcloses.remote fun adapter hmem htype => hbuiltin ⟨adapter, hmem, htype⟩]
      exact hclosed
  · exact hcloses.none

/-- When a fresh aggregate has been destroyed after a run of calls, its adapters have closed all the
connections that they opened exactly when they opened none. -/
theorem destroy_closes_iff {w w' : World} (hnew : w.adapters = [] ∧ w.builtin.connections = [])
    (calls : List LifecycleCall) {last : RegistryCall}
    (hdestroy : last.aggregate.destroy.run (calls.foldl lifecycle w) = (.ok (), w')) :
    w'.builtin.connections = [] ↔ Runs.Each lifecycle ConnectsNone w calls := by
  obtain ⟨hadapters, hconnections⟩ := hnew
  have hstart : w.HoldsRedis := by
    intro adapter hmem
    rw [hadapters] at hmem
    cases hmem
  have hholds : (calls.foldl lifecycle w).HoldsRedis :=
    Runs.invariant_of_step (fun v next h => (opens_lifecycle v next).holds h) hstart calls
  have hclosed := destroy_connections_eq_nil_iff hholds last
  rw [hdestroy] at hclosed
  rw [hclosed, Runs.end_iff_each (P := fun v : World => v.builtin.connections = [])
    (J := fun _ => True) (fun _ _ _ => trivial)
    (fun v next _ h => lifecycle_connections_eq_nil_iff h next)
    (fun v next _ h => (opens_lifecycle v next).connections_ne h) trivial calls]
  exact and_iff_right hconnections

/-- A call in which no command fails, and one in which MongoDB cannot be reached. -/
def reachable : RegistryCall := ⟨noFaults, none, none⟩

def unreachable : RegistryCall where
  env := { noFaults with
    faults := fun command =>
      match command with
      | .mongoConnect _ => some ⟨.error, "connect ECONNREFUSED"⟩
      | _ => none }
  factoryError := none
  initError := none

/-- MongoDB cannot be reached when the oracle is added. -/
theorem destroy_closes_iff_unreachable :
    (reachable.aggregate.destroy.run ([LifecycleCall.init reachable,
        .request (.add unreachable builtinOracle)].foldl lifecycle unregistered)).2.builtin.connections
          = [] ↔
      Runs.Each lifecycle ConnectsNone unregistered
        [.init reachable, .request (.add unreachable builtinOracle)] :=
  @destroy_closes_iff unregistered _ ⟨rfl, rfl⟩ _ reachable rfl

/-- The connection to Redis of an adapter is never closed, nor is that to MongoDB of one that was
removed. -/
theorem not_closed :
    let added : List LifecycleCall := [.init reachable, .request (.add reachable builtinOracle)]
    let removed : List LifecycleCall := added ++ [.request (.remove reachable "1")]
    (∃ w, reachable.aggregate.destroy.run (added.foldl lifecycle unregistered) = (.ok (), w) ∧
        w.builtin.connections = [⟨.redis, ⟨.builtin, builtinOracle⟩⟩]) ∧
      ∃ w, reachable.aggregate.destroy.run (removed.foldl lifecycle unregistered) = (.ok (), w) ∧
        w.builtin.connections = [⟨.mongo, ⟨.builtin, builtinOracle⟩⟩,
          ⟨.redis, ⟨.builtin, builtinOracle⟩⟩] :=
  ⟨⟨_, rfl, rfl⟩, _, rfl, rfl⟩

end World

end AccountLookup
