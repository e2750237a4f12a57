import AccountLookup.Handling.Service
import AccountLookup.Registry.Adapters

/-! Removals that undo additions: an oracle that was added is removed again, and the registry is as it
was before. -/

namespace AccountLookup

open Async MongoOracleFinderRepo

namespace World

/-- The call resolves. -/
def Succeeds (w : World) : RegistryRequest → Prop
  | .add call oracle => ∃ id, ((call.aggregate.addOracle oracle).run w).1 = .ok id
  | .remove call id => ((call.aggregate.removeOracle id).run w).1 = .ok ()

/-- Every adapter whose id is a string has the id of a stored oracle. -/
def AdaptersStored (w : World) : Prop := ∀ id : String, w.Adapted (.str id) → w.Stored (.str id)

theorem InStep.adaptersStored {w : World} (h : w.InStep) : w.AdaptersStored :=
  fun id => (h (.str id)).mp

theorem hasId_iff {oracle : Oracle} {stored : String} (h : oracle.id = .str stored)
    (compound : Js.Value → Js.Value → Bool) (id : String) :
    hasId compound (.str id) oracle = true ↔ stored = id := by
  simp [hasId, h, Mongo.acceptsValue, Js.Value.isCompound]

theorem not_stored_of_find_none {w : World} {compound : Js.Value → Js.Value → Bool} {id : String}
    (h : w.oracles.find? (hasId compound (.str id)) = none) : ¬w.Stored (.str id) := by
  rintro ⟨oracle, hmem, hid⟩
  exact List.find?_eq_none.mp h oracle hmem ((hasId_iff hid compound id).mpr rfl)

/-! ### Calls that succeed -/

variable {w w' : World} {call : RegistryCall}

/-- An addition that resolves stores the oracle under the id that it returns and lists its adapter,
both after the others. -/
theorem run_addOracle_ok {oracle : Oracle} {id : Js.Value}
    (hrun : (call.aggregate.addOracle oracle).run w = (.ok id, w')) :
    ∃ adapter, id = call.newId oracle ∧ adapter.oracle = call.added oracle ∧
      call.Stores oracle adapter w ∧ w'.oracles = w.oracles ++ [call.added oracle] ∧
      w'.adapters = w.adapters ++ [adapter] := by
  rcases RegistryCall.run_addOracle w oracle with ⟨error, hrefused, -⟩ | ⟨adapter, hstores, hadded⟩
  · rw [hrefused] at hrun
    cases hrun
  refine ⟨adapter, ?_, RegistryCall.oracle_of_created hstores.created, hstores, ?_⟩
  · rw [hadded] at hrun
    unfold RegistryCall.list at hrun
    rw [Proc.run_bind_eq_ok] at hrun
    obtain ⟨_, _, -, hpush⟩ := hrun
    cases hpush
    rfl
  · rw [hadded] at hrun
    unfold RegistryCall.list at hrun
    rcases RegistryCall.run_init { w with oracles := w.oracles ++ [call.added oracle] } adapter with
      ⟨error, connections, -, hinit⟩ | ⟨connections, -, hinit⟩
    · rw [Proc.run_bind_error hinit] at hrun
      cases hrun
    · rw [Proc.run_bind_ok hinit] at hrun
      cases hrun
      exact ⟨rfl, rfl⟩

/-- The step: a call that succeeds leaves no adapter without a stored oracle. -/
theorem adaptersStored_request (w : World) (request : RegistryRequest) (h : w.AdaptersStored)
    (hsuccess : w.Succeeds request) : (w.request request).AdaptersStored := by
  cases request with
  | add call oracle =>
    obtain ⟨id, hid⟩ := hsuccess
    have hrun : (call.aggregate.addOracle oracle).run w = (.ok id, w.request (.add call oracle)) := by
      rw [← hid]
      rfl
    obtain ⟨adapter, -, hadapter, -, horacles, hadapters⟩ := run_addOracle_ok hrun
    intro id' hadapted
    unfold Adapted at hadapted
    rw [hadapters, exists_listed_iff] at hadapted
    unfold Stored
    rw [horacles]
    rcases hadapted with hold | hnew
    · obtain ⟨stored, hmem, hstored⟩ := h id' hold
      exact ⟨stored, List.mem_append_left _ hmem, hstored⟩
    · refine ⟨call.added oracle, List.mem_append_right _ (List.mem_singleton_self _), ?_⟩
      rw [← hadapter]
      exact hnew
  | remove call id =>
    change ((call.aggregate.removeOracle id).run w).1 = .ok () at hsuccess
    unfold request
    rcases RegistryCall.run_removeOracle w id with ⟨error, hrun, -⟩ | ⟨-, hrun⟩
    · rw [hrun] at hsuccess
      cases hsuccess
    dsimp only
    rw [hrun]
    intro id' hadapted
    obtain ⟨hold, hne⟩ := exists_unlisted_iff.mp hadapted
    obtain ⟨stored, hmem, hstored⟩ := h id' hold
    have hother : ¬hasId call.env.compound (.str id) stored = true := by
      rw [hasId_iff hstored]
      exact fun hsame => hne (congrArg Js.Value.str hsame)
    exact ⟨stored, (List.mem_eraseP_of_neg hother).mpr hmem, hstored⟩

/-- After a run of calls that succeed, from a completed initialisation on, no adapter is without a
stored oracle. -/
theorem adaptersStored_of_run {init : RegistryCall} {w₀ : World} (hnew : w₀.adapters = [])
    (hinit : init.aggregate.init.run w₀ = (.ok (), w)) {requests : List RegistryRequest}
    (hsuccess : Runs.Each request Succeeds w requests) :
    (requests.foldl request w).AdaptersStored :=
  Runs.invariant adaptersStored_request (inStep_of_init hnew hinit).adaptersStored hsuccess

/-! ### The undone registry -/

/-- The stored oracles and the listed adapters are the same, in the same order, and the same adapter
is selected for every party type and currency. -/
structure SameRegistry (w w' : World) : Prop where
  oracles : w'.oracles = w.oracles
  adapters : w'.adapters = w.adapters
  selected : ∀ env partyType currency adapter,
    (System.aggregate env).Selects partyType currency adapter w' w' ↔
      (System.aggregate env).Selects partyType currency adapter w w

theorem sameRegistry_of (horacles : w'.oracles = w.oracles) (hadapters : w'.adapters = w.adapters) :
    w.SameRegistry w' where
  oracles := horacles
  adapters := hadapters
  selected env partyType currency adapter := by
    rw [System.selects_iff, System.selects_iff]
    unfold System.adapterFor
    rw [horacles, hadapters]
    simp

/-- The removal of the last oracle, whose id no other has, leaves the ones before it. -/
theorem eraseP_last {oracles : List Oracle} {oracle : Oracle}
    {compound : Js.Value → Js.Value → Bool} {id : String} (hid : oracle.id = .str id)
    (hnone : oracles.find? (hasId compound (.str id)) = none) :
    (oracles ++ [oracle]).eraseP (hasId compound (.str id)) = oracles := by
  have hlast : hasId compound (.str id) oracle = true := (hasId_iff hid compound id).mpr rfl
  rw [List.eraseP_append_right _ (List.find?_eq_none.mp hnone), List.eraseP_cons_of_pos hlast,
    List.append_nil]

/-- The removal of the adapters with an id leaves those before the last one, when no other has the
id. -/
theorem filter_last {adapters : List OracleAdapter} {adapter : OracleAdapter} {id : String}
    (hid : adapter.oracleId = .str id) (hnone : ¬∃ a ∈ adapters, a.oracleId = .str id) :
    ((adapters ++ [adapter]).filter fun a => !a.oracleId.strictEq (.str id)) = adapters := by
  have hkeep : (adapters.filter fun a => !a.oracleId.strictEq (.str id)) = adapters := by
    apply List.filter_eq_self.mpr
    intro a hmem
    have hne : a.oracleId ≠ .str id := fun h => hnone ⟨a, hmem, h⟩
    simpa [← Bool.not_eq_true] using hne
  rw [List.filter_append, hkeep]
  simp [hid]

/-- An addition with an id that is a string, or without one, gives its oracle a string that the filter
on ids does not find, when generated ids are fresh. -/
theorem newId_free {oracle : Oracle} {adapter : OracleAdapter}
    (hstores : call.Stores oracle adapter w)
    (hid : oracle.id.truthy = true → ∃ id, oracle.id = .str id)
    (hfresh : oracle.id.truthy = false →
      w.oracles.find? (hasId call.env.compound (.str call.env.randomUUID)) = none) :
    ∃ id, call.newId oracle = .str id ∧
      w.oracles.find? (hasId call.env.compound (.str id)) = none := by
  unfold RegistryCall.newId
  by_cases htruthy : oracle.id.truthy = true
  · rw [if_pos htruthy]
    obtain ⟨id, hstr⟩ := hid htruthy
    refine ⟨id, hstr, ?_⟩
    rw [← hstr]
    exact (hstores.idFree htruthy).2
  · rw [if_neg htruthy]
    exact ⟨_, rfl, hfresh (by simpa using htruthy)⟩

/-- From a completed initialisation on, after any run of additions and removals that succeed, an
oracle that is added can be removed by the id that was returned, and the removal leaves the registry
as it was before the addition. -/
theorem removeOracle_undoes_addOracle {init : RegistryCall} {w₀ w w' : World}
    (hnew : w₀.adapters = []) (hinit : init.aggregate.init.run w₀ = (.ok (), w))
    {requests : List RegistryRequest} (hsuccess : Runs.Each request Succeeds w requests)
    {call : RegistryCall} {oracle : Oracle}
    (hid : oracle.id.truthy = true → ∃ id, oracle.id = .str id)
    (hfresh : oracle.id.truthy = false → (requests.foldl request w).oracles.find?
      (hasId call.env.compound (.str call.env.randomUUID)) = none)
    {returned : Js.Value}
    (hadd : (call.aggregate.addOracle oracle).run (requests.foldl request w) = (.ok returned, w')) :
    ∃ id, returned = .str id ∧ ∀ faults : Faults, faults .findOracleById = none →
      faults .deleteOracle = none → ∃ w'',
        ((System.aggregate { call.env with faults }).removeOracle id).run w' = (.ok (), w'') ∧
          (requests.foldl request w).SameRegistry w'' := by
  have hstored := adaptersStored_of_run hnew hinit hsuccess
  generalize requests.foldl request w = v at *
  obtain ⟨adapter, hreturned, hadapter, hstores, horacles, hadapters⟩ := run_addOracle_ok hadd
  obtain ⟨id, hnewId, hfree⟩ := newId_free hstores hid hfresh
  refine ⟨id, hreturned.trans hnewId, ?_⟩
  intro faults hfind hdelete
  let removal : RegistryCall := ⟨{ call.env with faults }, none, none⟩
  have haddedId : (call.added oracle).id = .str id := hnewId
  have hlast := eraseP_last haddedId hfree
  have hadapterId : adapter.oracleId = .str id := by
    unfold OracleAdapter.oracleId
    rw [hadapter, haddedId]
  have hothers : ¬v.Adapted (.str id) :=
    fun hadapted => not_stored_of_find_none hfree (hstored id hadapted)
  have hdeletes : removal.Deletes id w' := by
    refine ⟨hfind, ?_, hdelete⟩
    rw [List.find?_isSome, horacles]
    exact ⟨call.added oracle, List.mem_append_right _ (List.mem_singleton_self _),
      (hasId_iff haddedId _ id).mpr rfl⟩
  rcases @RegistryCall.run_removeOracle removal w' id with ⟨_, -, hnot⟩ | ⟨-, hrun⟩
  · exact absurd hdeletes hnot
  · refine ⟨_, hrun, sameRegistry_of ?_ ?_⟩
    · dsimp only
      rw [horacles]
      exact hlast
    · dsimp only
      rw [hadapters]
      exact filter_last hadapterId hothers

/-- An oracle that gets its id when it is added. -/
def remoteOracle : Oracle where
  id := .null
  name := .str "remote"
  type := .str "remote-http"
  partyType := .str "IBAN"
  currency := .null
  endpoint := .str "http://localhost:3031"

/-- A fresh aggregate over one stored oracle, a call in which no command fails, and the requests that
remove that oracle and add it again. -/
def fresh : World := { System.builtinWorld with adapters := [] }

def serviceCall : RegistryCall := ⟨noFaults, none, none⟩

def replaced : List RegistryRequest :=
  [.remove serviceCall "1", .add serviceCall System.builtinOracle]

def initialised : World := (serviceCall.aggregate.init.run fresh).2

/-- An oracle is added under a generated id, and removed. -/
theorem removeOracle_undoes_addOracle_remote :
    ∃ id, (.str "45dbb8ac" : Js.Value) = .str id ∧ ∀ faults : Faults, faults .findOracleById = none →
      faults .deleteOracle = none → ∃ w,
        ((System.aggregate { noFaults with faults }).removeOracle id).run
            ((replaced.foldl request initialised).request (.add serviceCall remoteOracle)) =
          (.ok (), w) ∧ (replaced.foldl request initialised).SameRegistry w := by
  have hinit : (serviceCall.aggregate.init.run fresh).1 = .ok () := by decide +kernel
  have hremove : initialised.Succeeds (.remove serviceCall "1") := by
    unfold Succeeds
    decide +kernel
  have hadd : (initialised.request (.remove serviceCall "1")).Succeeds
      (.add serviceCall System.builtinOracle) := by
    refine ⟨.str "1", ?_⟩
    decide +kernel
  have hsuccess : Runs.Each request Succeeds initialised replaced := ⟨hremove, hadd, trivial⟩
  have hremote : ((serviceCall.aggregate.addOracle remoteOracle).run
      (replaced.foldl request initialised)).1 = .ok (.str "45dbb8ac") := by
    decide +kernel
  have hfresh : (replaced.foldl request initialised).oracles.find?
      (hasId noFaults.compound (.str "45dbb8ac")) = none := by
    decide +kernel
  have hid : remoteOracle.id.truthy = true → ∃ id, remoteOracle.id = .str id := nofun
  exact @removeOracle_undoes_addOracle serviceCall fresh initialised _ rfl (Prod.ext hinit rfl)
    replaced hsuccess serviceCall remoteOracle hid (fun _ => hfresh) (.str "45dbb8ac")
    (Prod.ext hremote rfl)

end World

end AccountLookup
