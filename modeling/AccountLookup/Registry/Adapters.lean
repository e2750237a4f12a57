import AccountLookup.Registry.Calls
import AccountLookup.Runs.Invariant

/-! The adapters of the aggregate and the stored oracles: which calls keep the ids of the two the
same. -/

namespace AccountLookup

open Async MongoOracleFinderRepo

/-- A call on the registry. -/
inductive RegistryRequest where
  | add (call : RegistryCall) (oracle : Oracle)
  | remove (call : RegistryCall) (id : String)

namespace World

/-- An oracle of the collection has the id. -/
def Stored (w : World) (id : Js.Value) : Prop := ∃ oracle ∈ w.oracles, oracle.id = id

/-- An adapter of the aggregate has the id. -/
def Adapted (w : World) (id : Js.Value) : Prop := ∃ adapter ∈ w.adapters, adapter.oracleId = id

/-- The adapters have the ids of the stored oracles. -/
def InStep (w : World) : Prop := ∀ id, w.Adapted id ↔ w.Stored id

/-- The state after the call has settled. -/
def request (w : World) : RegistryRequest → World
  | .add call oracle => ((call.aggregate.addOracle oracle).run w).2
  | .remove call id => ((call.aggregate.removeOracle id).run w).2

/-- The oracles that are left when the first one that the filter on `id` finds is removed. -/
def left (w : World) (call : RegistryCall) (id : String) : List Oracle :=
  w.oracles.eraseP (hasId call.env.compound (.str id))

/-- The condition under which a call keeps the adapters in step.  An oracle whose adapter fails to
initialise is not stored, unless its id is stored already; and when the oracle that the filter on an
id finds is removed, no other is left with the id, and the removed one has the id, unless one is left
with the id that it has. -/
def Keeps (w : World) : RegistryRequest → Prop
  | .add call oracle => ∀ adapter, call.Stores oracle adapter w → call.InitFails adapter →
      w.Stored (call.newId oracle)
  | .remove call id => call.Deletes id w →
      (∀ oracle ∈ w.left call id, oracle.id ≠ .str id) ∧
      ∀ removed, w.oracles.find? (hasId call.env.compound (.str id)) = some removed →
        removed.id = .str id ∨ ∃ oracle ∈ w.left call id, oracle.id = removed.id

/-- The stored oracles are the removed one and those that are left. -/
theorem stored_iff_left {w : World} {call : RegistryCall} {id : String} {removed : Oracle}
    (hfind : w.oracles.find? (hasId call.env.compound (.str id)) = some removed) (v : Js.Value) :
    w.Stored v ↔ (∃ oracle ∈ w.left call id, oracle.id = v) ∨ removed.id = v := by
  obtain ⟨hremoved, before, after, hsplit, hbefore⟩ := List.find?_eq_some_iff_append.mp hfind
  have hnone : ∀ oracle ∈ before, ¬hasId call.env.compound (.str id) oracle = true := by
    intro oracle hmem
    simpa using hbefore oracle hmem
  have hleft : w.left call id = before ++ after := by
    unfold left
    rw [hsplit, List.eraseP_append_right _ hnone, List.eraseP_cons_of_pos hremoved]
  unfold Stored
  rw [hleft, hsplit]
  constructor
  · intro h
    obtain ⟨oracle, hmem, rfl⟩ := h
    rcases List.mem_append.mp hmem with hmem | hmem
    · exact .inl ⟨oracle, List.mem_append_left _ hmem, rfl⟩
    rcases List.mem_cons.mp hmem with rfl | hmem
    · exact .inr rfl
    · exact .inl ⟨oracle, List.mem_append_right _ hmem, rfl⟩
  · rintro (⟨oracle, hmem, rfl⟩ | rfl)
    · refine ⟨oracle, ?_, rfl⟩
      rcases List.mem_append.mp hmem with hmem | hmem
      · exact List.mem_append_left _ hmem
      · exact List.mem_append_right _ (List.mem_cons_of_mem _ hmem)
    · exact ⟨removed, List.mem_append_right _ List.mem_cons_self, rfl⟩

theorem exists_listed_iff {adapters : List OracleAdapter} {adapter : OracleAdapter} {v : Js.Value} :
    (∃ a ∈ adapters ++ [adapter], a.oracleId = v) ↔
      (∃ a ∈ adapters, a.oracleId = v) ∨ adapter.oracleId = v := by
  simp [or_and_right, exists_or]

theorem exists_unlisted_iff {adapters : List OracleAdapter} {id : String} {v : Js.Value} :
    (∃ a ∈ adapters.filter fun a => !a.oracleId.strictEq (.str id), a.oracleId = v) ↔
      (∃ a ∈ adapters, a.oracleId = v) ∧ v ≠ .str id := by
  simp only [List.mem_filter, Bool.not_eq_true', ← Bool.not_eq_true, Js.Value.strictEq_str]
  constructor
  · intro h
    obtain ⟨adapter, ⟨hmem, hne⟩, rfl⟩ := h
    exact ⟨⟨adapter, hmem, rfl⟩, hne⟩
  · intro h
    obtain ⟨⟨adapter, hmem, rfl⟩, hne⟩ := h
    exact ⟨adapter, ⟨hmem, hne⟩, rfl⟩

section Steps

variable {w : World} (h : w.InStep)
include h

theorem inStep_add_iff (call : RegistryCall) (oracle : Oracle) :
    (w.request (.add call oracle)).InStep ↔ w.Keeps (.add call oracle) := by
  have hstored (connections : List Connection) (adapters : List OracleAdapter) (v : Js.Value) :
      ({ RegistryCall.withConnections { w with oracles := w.oracles ++ [call.added oracle] }
          connections with adapters } : World).Stored v ↔ w.Stored v ∨ call.newId oracle = v := by
    simp [Stored, RegistryCall.withConnections, RegistryCall.added, Aggregate.newOracle,
      or_and_right, exists_or]
  unfold request Keeps
  rcases RegistryCall.run_addOracle w oracle with ⟨error, hrun, hnot⟩ | ⟨adapter, hstores, hrun⟩ <;>
    dsimp only <;> rw [hrun]
  · exact ⟨fun _ adapter hstores => absurd hstores (hnot adapter), fun _ => h⟩
  have hsame (adapter' : OracleAdapter) (hstores' : call.Stores oracle adapter' w) :
      adapter' = adapter := by
    have hcreated := hstores'.created
    rw [hstores.created] at hcreated
    exact (Except.ok.inj hcreated).symm
  unfold RegistryCall.list
  rcases RegistryCall.run_init { w with oracles := w.oracles ++ [call.added oracle] } adapter with
    ⟨error, connections, hfails, hinit⟩ | ⟨connections, hworks, hinit⟩
  · rw [Proc.run_bind_error hinit]
    constructor
    · intro hstep _ _ _
      have hadapted := (hstep (call.newId oracle)).mpr ((hstored connections _ _).mpr (.inr rfl))
      exact (h _).mp hadapted
    · intro hkeeps v
      have hold := hkeeps adapter hstores hfails
      have hnew := hstored connections w.adapters v
      refine (h v).trans ⟨fun hv => hnew.mpr (.inl hv), fun hv => ?_⟩
      rcases hnew.mp hv with hv | rfl
      · exact hv
      · exact hold
  · rw [Proc.run_bind_ok hinit]
    constructor
    · intro _ adapter' hstores' hfails
      rw [hsame adapter' hstores'] at hfails
      exact absurd hfails hworks
    · intro _ v
      have hnew := hstored connections (w.adapters ++ [adapter]) v
      have hid : adapter.oracleId = call.newId oracle := by
        rw [OracleAdapter.oracleId, RegistryCall.oracle_of_created hstores.created]
        rfl
      have hadapted : (∃ a ∈ w.adapters ++ [adapter], a.oracleId = v) ↔
          w.Adapted v ∨ call.newId oracle = v := by
        rw [exists_listed_iff, hid]
        rfl
      rw [h v] at hadapted
      exact hadapted.trans hnew.symm

theorem inStep_remove_iff (call : RegistryCall) (id : String) :
    (w.request (.remove call id)).InStep ↔ w.Keeps (.remove call id) := by
  unfold request Keeps
  rcases RegistryCall.run_removeOracle w id with ⟨error, hrun, hnot⟩ | ⟨hdeletes, hrun⟩ <;>
    dsimp only <;> rw [hrun]
  · exact ⟨fun _ hdeletes => absurd hdeletes hnot, fun _ => h⟩
  obtain ⟨removed, hfind⟩ := Option.isSome_iff_exists.mp hdeletes.stored
  have hstored := stored_iff_left hfind
  have hadapted (v : Js.Value) : (∃ adapter ∈ w.adapters.filter
      (fun adapter => !adapter.oracleId.strictEq (.str id)), adapter.oracleId = v) ↔
        w.Stored v ∧ v ≠ .str id := by
    rw [← h v]
    exact exists_unlisted_iff
  constructor
  · intro hstep _
    constructor
    · intro oracle hmem hid
      have hlisted := (hadapted (.str id)).mp ((hstep (.str id)).mpr ⟨oracle, hmem, hid⟩)
      exact hlisted.2 rfl
    · intro other hother
      rw [hfind] at hother
      cases hother
      by_cases hid : removed.id = .str id
      · exact .inl hid
      · have hold : w.Stored removed.id := (hstored _).mpr (.inr rfl)
        exact .inr ((hstep removed.id).mp ((hadapted _).mpr ⟨hold, hid⟩))
  · intro hkeeps v
    obtain ⟨hnone, hremoved⟩ := hkeeps hdeletes
    apply (hadapted v).trans
    rw [hstored v]
    constructor
    · intro h
      obtain ⟨hleft | rfl, hne⟩ := h
      · exact hleft
      · rcases hremoved removed hfind with hid | hleft
        · exact absurd hid hne
        · exact hleft
    · intro h
      obtain ⟨oracle, hmem, rfl⟩ := h
      exact ⟨.inl ⟨oracle, hmem, rfl⟩, hnone oracle hmem⟩

theorem inStep_request_iff (request : RegistryRequest) :
    (w.request request).InStep ↔ w.Keeps request := by
  cases request with
  | add call oracle => exact inStep_add_iff h call oracle
  | remove call id => exact inStep_remove_iff h call id

end Steps

/-- A completed initialisation of the aggregate leaves one adapter for each stored oracle. -/
theorem inStep_of_init {call : RegistryCall} {w w' : World} (hnew : w.adapters = [])
    (hinit : call.aggregate.init.run w = (.ok (), w')) : w'.InStep := by
  have hlists := call.init_lists w
  obtain ⟨horacles, listed, hadapters, hlisted⟩ := hlists.ok rfl hinit
  rw [hnew, List.nil_append] at hadapters
  intro id
  unfold Adapted Stored
  rw [horacles, ← hlisted, hadapters]
  simp [OracleAdapter.oracleId]

/-- From a completed initialisation on, the adapters have the ids of the stored oracles after every
call exactly when every call meets the condition. -/
theorem init_inStep_iff {env : Environment} {w w' : World} (hnew : w.adapters = [])
    (hinit : (System.aggregate env).init.run w = (.ok (), w')) (requests : List RegistryRequest) :
    Runs.Always request InStep w' requests ↔ Runs.Each request Keeps w' requests := by
  have hstep (v : World) (r : RegistryRequest) (h : v.InStep) :
      (v.request r).InStep ↔ v.Keeps r := inStep_request_iff h r
  have hstart : w'.InStep := @inStep_of_init ⟨env, none, none⟩ w w' hnew hinit
  exact Runs.always_iff_each hstep hstart requests

/-- A builtin oracle. -/
def builtinOracle : Oracle where
  id := .str "1"
  name := .str "builtin"
  type := .str "builtin"
  partyType := .str "MSISDN"
  currency := .null
  endpoint := .null

/-- The oracle is added, removed and added again. -/
def addedAgain : List RegistryRequest :=
  [.add ⟨noFaults, none, none⟩ builtinOracle, .remove ⟨noFaults, none, none⟩ "1",
    .add ⟨noFaults, none, none⟩ builtinOracle]

theorem keeps_builtinOracle (w : World) : w.Keeps (.add ⟨noFaults, none, none⟩ builtinOracle) := by
  intro adapter hstores hfails
  have hcreated := hstores.created
  cases hcreated
  rcases hfails with hinit | hmongo | hredis
  · cases hinit
  · cases hmongo
  · cases hredis

theorem init_inStep_iff_unregistered : Runs.Always request InStep unregistered addedAgain := by
  refine (@init_inStep_iff noFaults unregistered unregistered rfl rfl addedAgain).mpr
    ⟨keeps_builtinOracle _, ?_, keeps_builtinOracle _, trivial⟩
  intro _
  have hleft : (unregistered.request (.add ⟨noFaults, none, none⟩ builtinOracle)).left
      ⟨noFaults, none, none⟩ "1" = [] := by decide +kernel
  constructor
  · intro oracle hmem
    rw [hleft] at hmem
    cases hmem
  · intro removed hfind
    have hstored : (unregistered.request (.add ⟨noFaults, none, none⟩ builtinOracle)).oracles.map
        Oracle.id = [.str "1"] := by decide +kernel
    have hid := List.mem_map_of_mem (f := Oracle.id) (List.mem_of_find?_eq_some hfind)
    rw [hstored, List.mem_singleton] at hid
    exact .inl hid

/-- A remote oracle without an endpoint is refused, yet it is stored. -/
theorem addOracle_not_inStep :
    (System.aggregate noFaults).init.run unregistered = (.ok (), unregistered) ∧
      ∃ error w, ((System.aggregate noFaults).addOracle withoutEndpoint).run unregistered =
          (.error error, w) ∧
        w.oracles.map Oracle.id = [.str "45dbb8ac"] ∧ w.adapters = [] :=
  ⟨rfl, _, _, rfl, rfl, rfl⟩

end World

end AccountLookup
