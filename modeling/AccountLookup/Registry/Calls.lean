import AccountLookup.Async.Triple
import AccountLookup.Model.System
import Mathlib.Tactic.SplitIfs

/-! The calls that change the registry of oracles, one at a time: what each stores and which adapters
it leaves, for every failure. -/

namespace AccountLookup

open Async MongoOracleFinderRepo

/-- What a call on the registry meets: its environment, and what the factory and the initialisation of
an adapter throw besides their own errors. -/
structure RegistryCall where
  env : Environment
  factoryError : Option JsError
  initError : Option JsError

namespace RegistryCall

variable (call : RegistryCall)

def aggregate : Aggregate World :=
  { System.aggregate call.env with
    oracleProvidersFactory := fun oracle =>
      match call.factoryError with
      | some error => .error error
      | none => OracleAdapterFactory.create oracle
    oracleProvider :=
      { System.oracleProvider call.env with
        init := fun adapter =>
          match call.initError with
          | some error => .reject error
          | none => (System.oracleProvider call.env).init adapter } }

/-- A call that meets its environment only is one on the aggregate of the service. -/
theorem aggregate_of_env (env : Environment) :
    (RegistryCall.mk env none none).aggregate = System.aggregate env := rfl

/-- The id of the oracle that is added. -/
def newId (oracle : Oracle) : Js.Value :=
  if oracle.id.truthy then oracle.id else .str call.env.randomUUID

/-- The oracle that is stored. -/
def added (oracle : Oracle) : Oracle := Aggregate.newOracle oracle (call.newId oracle)

/-- The call passes the checks on a new oracle that has its id, builds `adapter` for it and stores
it. -/
structure StoresAs (oracle : Oracle) (id : Js.Value) (adapter : OracleAdapter) (w : World) :
    Prop where
  findName : call.env.faults .findOracleByName = none
  nameFree : w.oracles.find? (hasName call.env.compound oracle.name) = none
  created : call.aggregate.oracleProvidersFactory (Aggregate.newOracle oracle id) = .ok adapter
  findPresent : call.env.faults .findOraclePresent = none
  insert : call.env.faults .insertOracle = none

/-- The call passes the check on the id, if there is one, and then the others. -/
structure Stores (oracle : Oracle) (adapter : OracleAdapter) (w : World) : Prop extends
    call.StoresAs oracle (call.newId oracle) adapter w where
  idFree : oracle.id.truthy = true → call.env.faults .findOracleById = none ∧
    w.oracles.find? (hasId call.env.compound oracle.id) = none

/-- The initialisation of the adapter throws. -/
def InitFails (adapter : OracleAdapter) : Prop :=
  call.initError.isSome = true ∨
    match adapter.type with
    | .builtin => (call.env.faults (.mongoConnect adapter)).isSome = true ∨
        (call.env.faults (.redisConnect adapter)).isSome = true
    | .remoteHttp => adapter.oracle.endpoint.truthy = false

/-- The initialisation of the adapter gets a connection to MongoDB. -/
def Connects (adapter : OracleAdapter) : Prop :=
  call.initError = none ∧ adapter.type = .builtin ∧
    call.env.faults (.mongoConnect adapter) = none

instance (adapter : OracleAdapter) : Decidable (call.Connects adapter) := by
  unfold Connects
  infer_instance

/-- The connections that the initialisation of the adapter opens. -/
def opened (adapter : OracleAdapter) : List Connection :=
  if call.Connects adapter then
    ⟨.mongo, adapter⟩ ::
      if call.env.faults (.redisConnect adapter) = none then [⟨.redis, adapter⟩] else []
  else []

/-- The call removes a stored oracle with the id. -/
structure Deletes (id : String) (w : World) : Prop where
  found : call.env.faults .findOracleById = none
  stored : (w.oracles.find? (hasId call.env.compound (.str id))).isSome = true
  deleted : call.env.faults .deleteOracle = none

section Runs

variable {call} (w : World)

theorem oracle_of_created {oracle : Oracle} {adapter : OracleAdapter}
    (h : call.aggregate.oracleProvidersFactory oracle = .ok adapter) : adapter.oracle = oracle := by
  simp only [aggregate, OracleAdapterFactory.create] at h
  split at h
  · cases h
  · split_ifs at h <;> cases h <;> rfl

/-- The state after connections of the builtin oracles are opened. -/
def withConnections (w : World) (connections : List Connection) : World :=
  { w with builtin := { w.builtin with connections } }

theorem opened_eq_nil_iff {adapter : OracleAdapter} : call.opened adapter = [] ↔ ¬call.Connects adapter := by
  unfold opened
  split_ifs with h
  · simp [h]
  · simp [h]

theorem redis_mem_opened {adapter : OracleAdapter} (hworks : ¬call.InitFails adapter) (hbuiltin : adapter.type = .builtin) :
    ⟨.redis, adapter⟩ ∈ call.opened adapter := by
  unfold InitFails at hworks
  rw [hbuiltin] at hworks
  simp only [not_or, Bool.not_eq_true, Option.isSome_eq_false_iff, Option.isNone_iff_eq_none]
    at hworks
  obtain ⟨hinit, hmongo, hredis⟩ := hworks
  unfold opened
  rw [if_pos ⟨hinit, hbuiltin, hmongo⟩, if_pos hredis]
  simp

/-- The initialisation of an adapter opens its connections, also when it fails after the first. -/
theorem run_init_opened (adapter : OracleAdapter) :
    (∃ error, call.InitFails adapter ∧ (call.aggregate.oracleProvider.init adapter).run w =
        (.error error, withConnections w (w.builtin.connections ++ call.opened adapter))) ∨
      ¬call.InitFails adapter ∧ (call.aggregate.oracleProvider.init adapter).run w =
        (.ok (), withConnections w (w.builtin.connections ++ call.opened adapter)) := by
  have hnone (h : ¬call.Connects adapter) :
      withConnections w (w.builtin.connections ++ call.opened adapter) = w := by
    rw [opened_eq_nil_iff.mpr h, List.append_nil]
    rfl
  simp only [aggregate, System.oracleProvider, InitFails]
  cases hinit : call.initError with
  | some error =>
    rw [hnone (by simp [Connects, hinit])]
    exact .inl ⟨error, .inl rfl, rfl⟩
  | none =>
    cases htype : adapter.type with
    | builtin =>
      simp only [MongoOracleProviderRepo.init, Proc.run_zoom]
      rw [Proc.run_bind, run_send_rethrow]
      cases hmongo : call.env.faults (.mongoConnect adapter) with
      | some error =>
        rw [hnone (by simp [Connects, hmongo])]
        exact .inl ⟨_, .inr (.inl rfl), rfl⟩
      | none =>
        dsimp only
        have hopened : call.opened adapter = ⟨.mongo, adapter⟩ ::
            if call.env.faults (.redisConnect adapter) = none then [⟨.redis, adapter⟩] else [] :=
          if_pos ⟨hinit, htype, hmongo⟩
        rw [run_send, hopened]
        cases hredis : call.env.faults (.redisConnect adapter) with
        | some error => exact .inl ⟨error, .inr (.inr rfl), rfl⟩
        | none =>
          refine .inr ⟨by simp, ?_⟩
          simp [withConnections, World.builtinLens]
    | remoteHttp =>
      simp only [HttpOracleProvider.init, Proc.run_ofExcept]
      rw [hnone (by simp [Connects, htype])]
      cases adapter.oracle.endpoint.truthy with
      | false => exact .inl ⟨_, .inr rfl, rfl⟩
      | true => exact .inr ⟨by simp, rfl⟩

/-- The initialisation of an adapter opens connections and changes nothing else. -/
theorem run_init (adapter : OracleAdapter) :
    (∃ error connections, call.InitFails adapter ∧
      (call.aggregate.oracleProvider.init adapter).run w =
        (.error error, withConnections w connections)) ∨
    ∃ connections, ¬call.InitFails adapter ∧
      (call.aggregate.oracleProvider.init adapter).run w =
        (.ok (), withConnections w connections) := by
  rcases run_init_opened w adapter with ⟨error, hfails, hrun⟩ | ⟨hworks, hrun⟩
  · exact .inl ⟨error, _, hfails, hrun⟩
  · exact .inr ⟨_, hworks, hrun⟩

theorem find?_isPresent {oracle : Oracle} {id : Js.Value}
    (hname : w.oracles.find? (hasName call.env.compound oracle.name) = none) :
    w.oracles.find? (isPresent call.env.compound (Aggregate.newOracle oracle id)) = none := by
  rw [List.find?_eq_none] at hname ⊢
  intro document hmem hpresent
  simp only [isPresent, Bool.and_eq_true] at hpresent
  exact hname document hmem hpresent.1.2

/-- The finder stores an oracle of a name that is free, unless one of its commands fails. -/
theorem run_finder_addOracle {oracle : Oracle}
    (hfree : w.oracles.find? (isPresent call.env.compound oracle) = none) :
    (∃ error, ((call.env.faults .findOraclePresent).isSome ∨
        (call.env.faults .insertOracle).isSome) ∧
      (call.aggregate.oracleFinder.addOracle oracle).run w = (.error error, w)) ∨
    call.env.faults .findOraclePresent = none ∧ call.env.faults .insertOracle = none ∧
      (call.aggregate.oracleFinder.addOracle oracle).run w =
        (.ok (), { w with oracles := w.oracles ++ [oracle] }) := by
  simp only [aggregate, System.aggregate, System.oracleFinder, Proc.run_zoom, addOracle]
  rw [Proc.run_bind, run_send_rethrow]
  cases hpresent : call.env.faults .findOraclePresent with
  | some error => exact .inl ⟨_, .inl rfl, rfl⟩
  | none =>
    dsimp only [World.oraclesLens]
    rw [hfree]
    simp only [Option.isSome_none, Bool.false_eq_true, if_false, run_send_rethrow]
    cases hinsert : call.env.faults .insertOracle with
    | some error => exact .inl ⟨_, .inr rfl, rfl⟩
    | none => exact .inr ⟨trivial, rfl, rfl⟩

/-- The rest of `addOracle` once the oracle is stored. -/
def list (adapter : OracleAdapter) (id : Js.Value) : Proc JsError World Js.Value := do
  call.aggregate.oracleProvider.init adapter
  call.aggregate.pushAdapter adapter
  pure id

/-- `addOracle` once the oracle has its id: it is refused and changes nothing, or the oracle is stored
and its adapter is to be listed. -/
theorem run_addOracleWithId (oracle : Oracle) (id : Js.Value) :
    (∃ error, (call.aggregate.addOracleWithId oracle id).run w = (.error error, w) ∧
      ∀ adapter, ¬call.StoresAs oracle id adapter w) ∨
    ∃ adapter, call.StoresAs oracle id adapter w ∧
      (call.aggregate.addOracleWithId oracle id).run w =
        (call.list adapter id).run
          { w with oracles := w.oracles ++ [Aggregate.newOracle oracle id] } := by
  have hbyName : (call.aggregate.oracleFinder.getOracleByName oracle.name).run w =
      (((getOracleByName call.env.compound call.env.faults oracle.name).run w.oracles).1, w) := by
    simp only [aggregate, System.aggregate, System.oracleFinder, Proc.run_zoom, getOracleByName,
      run_send_rethrow]
    split <;> rfl
  unfold Aggregate.addOracleWithId
  dsimp only
  rw [Proc.run_bind, hbyName]
  simp only [getOracleByName, run_send_rethrow]
  cases hfault : call.env.faults .findOracleByName with
  | some error =>
    refine .inl ⟨_, rfl, ?_⟩
    intro adapter hstores
    rw [hstores.findName] at hfault
    cases hfault
  | none =>
    dsimp only
    cases hname : w.oracles.find? (hasName call.env.compound oracle.name) with
    | some document =>
      refine .inl ⟨_, rfl, ?_⟩
      intro adapter hstores
      rw [hstores.nameFree] at hname
      cases hname
    | none =>
      simp only [Option.isSome_none, Bool.false_eq_true, if_false]
      rw [Proc.run_bind, Proc.run_ofExcept]
      cases hcreate : call.aggregate.oracleProvidersFactory (Aggregate.newOracle oracle id) with
      | error error =>
        refine .inl ⟨_, rfl, ?_⟩
        intro adapter hstores
        rw [hstores.created] at hcreate
        cases hcreate
      | ok adapter =>
        dsimp only
        rcases run_finder_addOracle w (find?_isPresent w hname) with
          ⟨error, hfault', hrun⟩ | ⟨hpresent, hinsert, hrun⟩
        · refine .inl ⟨error, Proc.run_bind_error hrun, ?_⟩
          intro adapter hstores
          rw [hstores.findPresent, hstores.insert] at hfault'
          simp at hfault'
        · exact .inr ⟨adapter, ⟨hfault, hname, hcreate, hpresent, hinsert⟩, Proc.run_bind_ok hrun⟩

theorem run_getOracleById (id : Js.Value) :
    (call.aggregate.oracleFinder.getOracleById id).run w =
      (((getOracleById call.env.compound call.env.faults id).run w.oracles).1, w) := by
  simp only [aggregate, System.aggregate, System.oracleFinder, Proc.run_zoom, getOracleById,
    run_send_rethrow]
  split <;> rfl

/-- A call that adds an oracle is refused and changes nothing, or the oracle is stored and its adapter
is to be listed. -/
theorem run_addOracle (oracle : Oracle) :
    (∃ error, (call.aggregate.addOracle oracle).run w = (.error error, w) ∧
      ∀ adapter, ¬call.Stores oracle adapter w) ∨
    ∃ adapter, call.Stores oracle adapter w ∧
      (call.aggregate.addOracle oracle).run w =
        (call.list adapter (call.newId oracle)).run
          { w with oracles := w.oracles ++ [call.added oracle] } := by
  have hrest := @run_addOracleWithId call w oracle (call.newId oracle)
  unfold Aggregate.addOracle
  by_cases hid : oracle.id.truthy = true
  · have hnew : call.newId oracle = oracle.id := if_pos hid
    simp only [hid, if_true]
    rw [Proc.run_bind, run_getOracleById, getOracleById, run_send_rethrow]
    cases hfault : call.env.faults .findOracleById with
    | some error =>
      refine .inl ⟨_, rfl, ?_⟩
      intro adapter hstores
      rw [(hstores.idFree hid).1] at hfault
      cases hfault
    | none =>
      dsimp only
      cases hfind : w.oracles.find? (hasId call.env.compound oracle.id) with
      | some document =>
        refine .inl ⟨_, rfl, ?_⟩
        intro adapter hstores
        rw [(hstores.idFree hid).2] at hfind
        cases hfind
      | none =>
        simp only [Option.isSome_none, Bool.false_eq_true, if_false]
        rw [← hnew]
        rcases hrest with ⟨error, hrun, hnot⟩ | ⟨adapter, hstores, hrun⟩
        · exact .inl ⟨error, hrun, fun adapter hstores => hnot adapter hstores.toStoresAs⟩
        · exact .inr ⟨adapter, ⟨hstores, fun _ => ⟨hfault, hfind⟩⟩, hrun⟩
  · have hnew : call.newId oracle = .str call.env.randomUUID := if_neg hid
    have hstart : (call.aggregate.addOracleWithId oracle (call.newId oracle)).run w =
        (do call.aggregate.addOracleWithId oracle (.str (← call.aggregate.randomUUID))).run w := by
      rw [hnew]
      rfl
    simp only [hid]
    rw [hstart] at hrest
    rcases hrest with ⟨error, hrun, hnot⟩ | ⟨adapter, hstores, hrun⟩
    · exact .inl ⟨error, hrun, fun adapter hstores => hnot adapter hstores.toStoresAs⟩
    · exact .inr ⟨adapter, ⟨hstores, fun htruthy => absurd htruthy hid⟩, hrun⟩

/-- Whether its adapter is listed or not, the oracle stays stored. -/
theorem run_list_oracles (adapter : OracleAdapter) (id : Js.Value) :
    ((call.list adapter id).run w).2.oracles = w.oracles := by
  unfold list
  rcases run_init w adapter with ⟨error, connections, -, hrun⟩ | ⟨connections, -, hrun⟩
  · rw [Proc.run_bind_error hrun]
    rfl
  · rw [Proc.run_bind_ok hrun]
    rfl

/-- The finder removes the first oracle with an id that is stored, unless its command fails. -/
theorem run_finder_removeOracle {id : String}
    (hstored : (w.oracles.find? (hasId call.env.compound (.str id))).isSome = true) :
    (∃ error, (call.env.faults .deleteOracle).isSome ∧
      (call.aggregate.oracleFinder.removeOracle id).run w = (.error error, w)) ∨
    call.env.faults .deleteOracle = none ∧
      (call.aggregate.oracleFinder.removeOracle id).run w =
        (.ok (), { w with oracles := w.oracles.eraseP (hasId call.env.compound (.str id)) }) := by
  have hany : w.oracles.any (hasId call.env.compound (.str id)) = true := by
    rw [List.find?_isSome] at hstored
    exact List.any_eq_true.mpr hstored
  simp only [aggregate, System.aggregate, System.oracleFinder, Proc.run_zoom, removeOracle]
  rw [Proc.run_bind, run_send_rethrow]
  cases hdelete : call.env.faults .deleteOracle with
  | some error => exact .inl ⟨_, rfl, rfl⟩
  | none =>
    refine .inr ⟨rfl, ?_⟩
    simp only [World.oraclesLens, hany, if_true, Proc.run_pure]

/-- A call that removes an oracle is refused and changes nothing, or the first stored oracle with the
id is removed, with every adapter that has the id. -/
theorem run_removeOracle (id : String) :
    (∃ error, (call.aggregate.removeOracle id).run w = (.error error, w) ∧ ¬call.Deletes id w) ∨
    call.Deletes id w ∧ (call.aggregate.removeOracle id).run w =
      (.ok (), { w with
        oracles := w.oracles.eraseP (hasId call.env.compound (.str id))
        adapters := w.adapters.filter fun adapter => !adapter.oracleId.strictEq (.str id) }) := by
  unfold Aggregate.removeOracle
  rw [Proc.run_bind, run_getOracleById, getOracleById, run_send_rethrow]
  cases hfound : call.env.faults .findOracleById with
  | some error =>
    refine .inl ⟨_, rfl, ?_⟩
    intro hdeletes
    rw [hdeletes.found] at hfound
    cases hfound
  | none =>
    dsimp only
    cases hfind : w.oracles.find? (hasId call.env.compound (.str id)) with
    | none =>
      refine .inl ⟨_, rfl, ?_⟩
      intro hdeletes
      have hstored := hdeletes.stored
      rw [hfind] at hstored
      cases hstored
    | some document =>
      have hstored : (w.oracles.find? (hasId call.env.compound (.str id))).isSome = true := by
        rw [hfind]
        rfl
      simp only [Option.isNone_some, Bool.false_eq_true, if_false]
      rw [Proc.run_bind, Proc.run_rethrow]
      rcases run_finder_removeOracle w hstored with ⟨error, hfault, hrun⟩ | ⟨hdelete, hrun⟩ <;>
        rw [hrun]
      · refine .inl ⟨_, rfl, ?_⟩
        intro hdeletes
        rw [hdeletes.deleted] at hfault
        cases hfault
      · exact .inr ⟨⟨hfound, hstored, hdelete⟩, rfl⟩

/-- An oracle is listed with its adapter, or its adapter cannot be built or initialised. -/
theorem run_initAdapter (oracle : Oracle) :
    (∃ error w', (call.aggregate.initAdapter oracle).run w = (.error error, w') ∧
      ∀ adapter, call.aggregate.oracleProvidersFactory oracle = .ok adapter →
        call.InitFails adapter) ∨
    ∃ adapter connections, call.aggregate.oracleProvidersFactory oracle = .ok adapter ∧
      (call.aggregate.initAdapter oracle).run w =
        (.ok (), { withConnections w connections with adapters := w.adapters ++ [adapter] }) := by
  unfold Aggregate.initAdapter
  rw [Proc.run_bind, Proc.run_ofExcept]
  cases hcreate : call.aggregate.oracleProvidersFactory oracle with
  | error error => exact .inl ⟨error, w, rfl, fun adapter h => nomatch h⟩
  | ok adapter =>
    dsimp only
    rcases run_init w adapter with ⟨error, connections, hfails, hrun⟩ | ⟨connections, -, hrun⟩
    · refine .inl ⟨error, _, Proc.run_bind_error hrun, ?_⟩
      rintro _ ⟨⟩
      exact hfails
    · exact .inr ⟨adapter, connections, rfl, Proc.run_bind_ok hrun⟩

/-- The oracles of `done` have been listed since `w`. -/
def Listed (w : World) (done : List Oracle) (v : World) : Prop :=
  v.oracles = w.oracles ∧
    ∃ listed, v.adapters = w.adapters ++ listed ∧ listed.map OracleAdapter.oracle = done

/-- The initialisation of the aggregate lists every stored oracle, and it throws only when the finder
fails, or when the adapter of one of them cannot be built or initialised. -/
theorem init_lists :
    call.aggregate.init.Triple (fun v => v = w) (fun _ => Listed w w.oracles) fun _ _ =>
      (call.env.faults .finderConnect).isSome ∨ (call.env.faults .findOracles).isSome ∨
        ∃ oracle ∈ w.oracles, ∀ adapter,
          call.aggregate.oracleProvidersFactory oracle = .ok adapter → call.InitFails adapter := by
  have hconnect : call.aggregate.oracleFinder.init.Triple (fun v => v = w) (fun _ v => v = w)
      fun _ _ => (call.env.faults .finderConnect).isSome := by
    rintro _ rfl
    simp only [aggregate, System.aggregate, System.oracleFinder, Proc.run_zoom, init,
      run_send_rethrow]
    cases call.env.faults .finderConnect with
    | some error => rfl
    | none => rfl
  have hfind : call.aggregate.oracleFinder.getAllOracles.Triple (fun v => v = w)
      (fun oracles v => v = w ∧ oracles = w.oracles)
      fun _ _ => (call.env.faults .findOracles).isSome := by
    rintro _ rfl
    simp only [aggregate, System.aggregate, System.oracleFinder, Proc.run_zoom, getAllOracles,
      run_send_rethrow]
    cases call.env.faults .findOracles with
    | some error => rfl
    | none => exact ⟨rfl, rfl⟩
  have hlist : (w.oracles.forM call.aggregate.initAdapter).Triple (Listed w [])
      (fun _ => Listed w w.oracles) fun _ _ => ∃ oracle ∈ w.oracles, ∀ adapter,
        call.aggregate.oracleProvidersFactory oracle = .ok adapter → call.InitFails adapter := by
    apply Proc.Triple.forM (Listed w)
    rintro done oracle rest hsplit v ⟨horacles, listed, hadapters, hlisted⟩
    rcases run_initAdapter v oracle with ⟨error, v', hrun, hfails⟩ |
      ⟨adapter, connections, hcreate, hrun⟩ <;> rw [hrun]
    · exact ⟨oracle, by rw [hsplit]; simp, hfails⟩
    · refine ⟨horacles, listed ++ [adapter], ?_, ?_⟩
      · rw [hadapters, List.append_assoc]
      · rw [List.map_append, hlisted, List.map_singleton, oracle_of_created hcreate]
  unfold Aggregate.init
  refine Proc.Triple.bind (hconnect.mono (fun _ h => h) (fun _ _ h => h) fun _ _ h => .inl h) ?_
  intro
  refine Proc.Triple.bind
    (hfind.mono (fun _ h => h) (fun _ _ h => h) fun _ _ h => .inr (.inl h)) ?_
  intro oracles
  apply Proc.Triple.fact
  rintro rfl
  refine hlist.mono ?_ (fun _ _ h => h) fun _ _ h => .inr (.inr h)
  rintro _ rfl
  exact ⟨rfl, [], by simp, rfl⟩

end Runs

end RegistryCall

namespace World

/-- A registry without oracles. -/
def unregistered : World where
  oracles := []
  adapters := []
  builtin := ⟨[], Store.Cache.empty, []⟩
  remotes _ := .empty "/app/data/db.json"

def noFaults : Environment where
  faults := .none
  participants _ := .ok none
  randomUUID := "45dbb8ac"
  compound _ _ := false

/-- A remote oracle without an endpoint. -/
def withoutEndpoint : Oracle where
  id := .undefined
  name := .str "remote"
  type := .str "remote-http"
  partyType := .str "MSISDN"
  currency := .undefined
  endpoint := .undefined

end World

end AccountLookup
