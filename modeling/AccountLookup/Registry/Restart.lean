import AccountLookup.Registry.Calls
import AccountLookup.Runs.Invariant

/-! The requests of the admin routes and the next start of the service: which requests leave a
collection of oracles that the aggregate can be initialised with. -/

namespace AccountLookup

open Async OracleAdminExpressRoutes

/-- The oracle has a name and a party type, and an endpoint when it is remote. -/
structure Oracle.Complete (oracle : Oracle) : Prop where
  name : isNonEmptyString oracle.name = true
  partyType : isNonEmptyString oracle.partyType = true
  endpoint : oracle.type = .str "remote-http" → oracle.endpoint.truthy = true

/-- A stored oracle that is complete and of one of the two types. -/
structure Oracle.Sound (oracle : Oracle) : Prop extends oracle.Complete where
  type : isOracleType oracle.type = true

/-- A request of a privileged caller to an admin route, with what the service meets when it serves
it. -/
inductive AdminRequest where
  | post (env : Environment) (request : CreateRequest)
  | delete (env : Environment) (request : DeleteRequest)

namespace World

/-- Every stored oracle is sound. -/
def Restartable (w : World) : Prop := ∀ oracle ∈ w.oracles, oracle.Sound

/-- The state after the request is answered. -/
def serve (w : World) : AdminRequest → World
  | .post env request => ((createOracle (System.aggregate env) request).run w).2
  | .delete env request => ((deleteOracle (System.aggregate env) request).run w).2

/-- A valid request whose oracle gets as far as the collection has a complete body. -/
def Admits (w : World) : AdminRequest → Prop
  | .post env request => validCreate request = true →
      ∀ adapter, RegistryCall.Stores ⟨env, none, none⟩ request.body adapter w →
        request.body.Complete
  | .delete _ _ => True

/-- The aggregate of a fresh service is initialised when no command fails. -/
def StartsAgain (w : World) : Prop :=
  ∀ fresh : Environment, fresh.faults = .none →
    ∃ w', (System.aggregate fresh).init.run { w with adapters := [] } = (.ok (), w')

/-- An oracle whose adapter is built is sound exactly when it is complete. -/
theorem sound_added_iff {call : RegistryCall} {oracle : Oracle} {adapter : OracleAdapter}
    (hcreated : call.aggregate.oracleProvidersFactory (call.added oracle) = .ok adapter) :
    (call.added oracle).Sound ↔ oracle.Complete := by
  have htype : isOracleType oracle.type = true := by
    simp only [RegistryCall.aggregate, OracleAdapterFactory.create] at hcreated
    split at hcreated
    · cases hcreated
    · have hsame : (call.added oracle).type = oracle.type := rfl
      rw [hsame] at hcreated
      unfold isOracleType
      split_ifs at hcreated with hbuiltin hremote
      · simp [hbuiltin]
      · simp [hremote]
  have hendpoint (h : oracle.type = .str "remote-http") :
      (call.added oracle).endpoint = oracle.endpoint := by
    simp [RegistryCall.added, Aggregate.newOracle, h]
  constructor
  · intro h
    obtain ⟨⟨hname, hpartyType, hadded⟩, -⟩ := h
    refine ⟨hname, hpartyType, ?_⟩
    intro h
    rw [← hendpoint h]
    exact hadded h
  · intro h
    obtain ⟨hname, hpartyType, hbody⟩ := h
    refine ⟨⟨hname, hpartyType, ?_⟩, htype⟩
    intro h
    rw [hendpoint h]
    exact hbody h

/-- A valid request to create an oracle leaves what the aggregate leaves, another one nothing. -/
theorem createOracle_state (agg : Aggregate World) (request : CreateRequest) (w : World) :
    ((createOracle agg request).run w).2 =
      if validCreate request = true then ((agg.addOracle request.body).run w).2 else w := by
  unfold createOracle
  split_ifs
  · rw [Proc.run_attempt_bind]
    rcases (agg.addOracle request.body).run w with ⟨error | id, t⟩ <;> rfl
  · rfl

theorem deleteOracle_state (agg : Aggregate World) (request : DeleteRequest) (w : World) :
    ((deleteOracle agg request).run w).2 = ((agg.removeOracle request.id).run w).2 ∨
      ((deleteOracle agg request).run w).2 = w := by
  unfold deleteOracle
  split_ifs
  · left
    rw [Proc.run_attempt_bind]
    rcases (agg.removeOracle request.id).run w with ⟨error | done, t⟩ <;> rfl
  · right
    rfl

/-- The step: an answered request leaves a restartable collection exactly under its condition. -/
theorem restartable_serve_iff {w : World} (h : w.Restartable) (request : AdminRequest) :
    (w.serve request).Restartable ↔ w.Admits request := by
  cases request with
  | post env request =>
    unfold serve Admits
    dsimp only
    rw [createOracle_state]
    split_ifs with hvalid
    · simp only [hvalid, forall_const]
      rcases RegistryCall.run_addOracle w request.body with
        ⟨error, hrun, hnot⟩ | ⟨adapter, hstores, hrun⟩ <;> rw [RegistryCall.aggregate_of_env] at hrun <;>
        rw [hrun]
      · exact ⟨fun _ adapter hstores => absurd hstores (hnot adapter), fun _ => h⟩
      · unfold Restartable
        rw [RegistryCall.run_list_oracles, List.forall_mem_append, List.forall_mem_singleton,
          sound_added_iff hstores.created]
        exact ⟨fun hsound _ _ => hsound.2, fun hadmits => ⟨h, hadmits adapter hstores⟩⟩
    · exact ⟨fun _ hnot => absurd hnot hvalid, fun _ => h⟩
  | delete env request =>
    refine ⟨fun _ => trivial, fun _ => ?_⟩
    unfold serve
    rcases deleteOracle_state (System.aggregate env) request w with hstate | hstate <;>
      dsimp only <;> rw [hstate]
    · rcases RegistryCall.run_removeOracle w request.id with ⟨error, hrun, -⟩ | ⟨-, hrun⟩ <;>
        rw [RegistryCall.aggregate_of_env] at hrun <;> rw [hrun]
      · exact h
      · intro oracle hmem
        exact h oracle (List.mem_of_mem_eraseP hmem)
    · exact h

/-- The adapter of a sound oracle is built and initialised when no command fails. -/
theorem starts_of_sound {oracle : Oracle} (h : oracle.Sound) {fresh : Environment}
    (hfresh : fresh.faults = .none) :
    ∃ adapter, OracleAdapterFactory.create oracle = .ok adapter ∧
      ¬RegistryCall.InitFails ⟨fresh, none, none⟩ adapter := by
  have htype := h.type
  simp only [isOracleType, Bool.or_eq_true, decide_eq_true_eq] at htype
  unfold OracleAdapterFactory.create RegistryCall.InitFails
  rcases htype with htype | htype
  · refine ⟨⟨.builtin, oracle⟩, by rw [if_pos htype], ?_⟩
    simp [hfresh, Faults.none]
  · refine ⟨⟨.remoteHttp, oracle⟩, by simp [htype], ?_⟩
    simp [h.endpoint htype]

/-- A fresh service starts over a restartable collection. -/
theorem startsAgain {w : World} (h : w.Restartable) : w.StartsAgain := by
  intro fresh hfresh
  let call : RegistryCall := ⟨fresh, none, none⟩
  have hlists := call.init_lists { w with adapters := [] }
  rcases hrun : (System.aggregate fresh).init.run { w with adapters := [] } with ⟨error | done, w'⟩
  · rcases hlists.error rfl hrun with hfault | hfault | ⟨oracle, hmem, hfails⟩
    · simp [call, hfresh, Faults.none] at hfault
    · simp [call, hfresh, Faults.none] at hfault
    · obtain ⟨adapter, hcreated, hworks⟩ := starts_of_sound (h oracle hmem) hfresh
      exact absurd (hfails adapter hcreated) hworks
  · exact ⟨w', rfl⟩

/-- From a restartable collection on, every collection that is stored is restartable, and the service
starts over it, exactly when every valid request to create an oracle that gets as far as the
collection has a complete body. -/
theorem always_restartable_iff {w : World} (h : w.Restartable) (requests : List AdminRequest) :
    Runs.Always serve (fun v => v.Restartable ∧ v.StartsAgain) w requests ↔
      Runs.Each serve Admits w requests := by
  have hstep (v : World) (request : AdminRequest) (hv : v.Restartable ∧ v.StartsAgain) :
      ((v.serve request).Restartable ∧ (v.serve request).StartsAgain) ↔ v.Admits request := by
    rw [← restartable_serve_iff hv.1 request]
    exact ⟨And.left, fun hserved => ⟨hserved, startsAgain hserved⟩⟩
  exact Runs.always_iff_each hstep ⟨h, startsAgain h⟩ requests

/-- A request whose query has the name that the body lacks. -/
def namedInQuery : CreateRequest where
  body :=
    { id := .undefined, name := .undefined, type := .str "builtin", partyType := .str "MSISDN"
      currency := .undefined, endpoint := .undefined }
  others := [fun field => if field = "name" then .str "builtin" else .undefined]

/-- A request whose body has a remote oracle with an endpoint. -/
def withEndpoint : CreateRequest where
  body := { withoutEndpoint with endpoint := .str "http://localhost:3031" }
  others := []

/-- The oracle is created, deleted and created again. -/
def createdAgain : List AdminRequest :=
  [.post noFaults withEndpoint,
    .delete noFaults { id := "45dbb8ac", bodyId := .undefined, others := [] },
    .post noFaults withEndpoint]

theorem always_restartable_iff_unregistered :
    Runs.Always serve (fun v => v.Restartable ∧ v.StartsAgain) unregistered createdAgain := by
  have hempty : unregistered.Restartable := by
    intro oracle hmem
    cases hmem
  have hcomplete : withEndpoint.body.Complete := ⟨by decide, by decide, fun _ => by decide⟩
  exact (always_restartable_iff hempty createdAgain).mpr
    ⟨fun _ _ _ => hcomplete, trivial, fun _ _ _ => hcomplete, trivial⟩

/-- An oracle is created without a name when the query has one, and a remote oracle without an
endpoint is stored although its creation fails; the service does not start over the latter. -/
theorem not_restartable :
    (∃ w, ((createOracle (System.aggregate noFaults) namedInQuery).run unregistered) = (.ok 200, w) ∧
      w.oracles.map Oracle.name = [.undefined]) ∧
    ∃ w error w', ((createOracle (System.aggregate noFaults) ⟨withoutEndpoint, []⟩).run
        unregistered) = (.ok 500, w) ∧
      w.oracles.map Oracle.endpoint = [.undefined] ∧
      (System.aggregate noFaults).init.run { w with adapters := [] } = (.error error, w') :=
  ⟨⟨_, rfl, rfl⟩, _, _, _, rfl, rfl, rfl⟩

end World

end AccountLookup
