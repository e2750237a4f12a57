import AccountLookup.Handling.Lookups
import AccountLookup.Handling.Service
import AccountLookup.Remote.Database
import AccountLookup.Remote.Provider
import AccountLookup.Runs.Invariant

/-! The service as it handles one message after another: what the handling of a message can do to it. -/

namespace AccountLookup

open Async MongoOracleProviderRepo RemoteOracleExpressRoutes

namespace RemoteOracleExpressRoutes

theorem handle_get (faults : Faults) {req : HttpRequest} (h : req.method = .get) (s : RemoteOracle) :
    ((handle faults req).run s).2 = s := by
  cases hcalls : calls req with
  | none =>
    obtain ⟨response, hresponse⟩ := handle_of_not_calls faults hcalls
    rw [hresponse]
    rfl
  | some params =>
    rw [handle_of_calls faults hcalls]
    unfold call
    rw [h]
    dsimp only
    rw [Proc.run_bind_ok (RemoteOracle.run_getParticipantFspId ..)]
    split <;> rfl

end RemoteOracleExpressRoutes

namespace HttpOracleProvider

/-- A request leaves what the service's handling of it leaves, if it is sent. -/
theorem run_request (faults : Faults) (req : HttpRequest) (s : RemoteOracle) :
    ((request faults req).run s).2 = s ∨
      ((request faults req).run s).2 = ((handle faults req).run s).2 := by
  unfold request
  rw [Proc.run_bind, run_send]
  cases faults .httpRequest with
  | some error => exact .inl rfl
  | none =>
    right
    dsimp only
    rw [Proc.run_bind]
    rcases (handle faults req).run s with ⟨error | response, t⟩
    · rfl
    · dsimp only
      split <;> rfl

theorem run_getParticipantFspId_state (faults : Faults)
    (partyType partyId partySubType currency : Js.Str) (s : RemoteOracle) :
    ((getParticipantFspId faults partyType partyId partySubType currency).run s).2 = s := by
  have hget := @handle_get faults (participantRequest .get .undefined partyType partyId
    partySubType currency) rfl s
  have hrequest := run_request faults (participantRequest .get .undefined partyType partyId
    partySubType currency) s
  rw [hget, or_self] at hrequest
  unfold getParticipantFspId
  rw [Proc.run_bind, Proc.run_rethrow]
  rcases hrun : (request faults (participantRequest .get .undefined partyType partyId partySubType
    currency)).run s with ⟨error | response, t⟩ <;> rw [hrun] at hrequest <;> exact hrequest

end HttpOracleProvider

/-- A message and what the service meets as it handles it. -/
structure Handled where
  env : Environment
  message : Message

namespace Handled

/-- The service after it handles the message. -/
def next (w : World) (step : Handled) : World :=
  (((System.aggregate step.env).handleEvent step.message).run w).2

/-- A lookup writes the cache of the builtin oracles at most. -/
theorem cache_of_looks {env : Environment} {w w' : World} (h : (System.aggregate env).Looks w w') :
    ∃ cache, w' = { w with builtin := { w.builtin with cache } } := by
  rcases h with rfl | ⟨partyType, partyId, partySubType, currency, adapter, -, rfl⟩
  · exact ⟨w'.builtin.cache, rfl⟩
  · cases htype : adapter.type with
    | builtin =>
      rw [System.run_lookup_builtin env htype]
      rcases getParticipantFspId_cases env.faults partyType partyId partySubType currency
        w.builtin with ⟨_, _, -, -, hrun⟩ | ⟨_, -, hrun⟩ | ⟨-, -, hrun⟩ | ⟨_, -, -, hrun⟩ <;> rw [hrun]
      · exact ⟨w.builtin.cache, rfl⟩
      · exact ⟨w.builtin.cache, rfl⟩
      · exact ⟨w.builtin.cache, rfl⟩
      · exact ⟨_, rfl⟩
    | remoteHttp =>
      rw [System.run_lookup_remote env htype, HttpOracleProvider.run_getParticipantFspId_state]
      exact ⟨w.builtin.cache, (World.remoteLens adapter.oracle.endpoint).set_get w⟩

/-- The request of the message is one of a participant that the service knows, and has an adapter. -/
structure Reaches (step : Handled) (w : World) (request : ChangeRequest) (adapter : OracleAdapter) :
    Prop where
  asks : step.message.changeRequest = some request
  knows : System.Knows step.env.participants request.fspId
  selects : System.adapterFor step.env.compound w request.partyType request.currency = some adapter

/-- The handling of a message writes the cache of the builtin oracles at most, or it makes the change of
its request through the adapter. -/
theorem next_cases (w : World) (step : Handled) :
    (∃ cache, next w step = { w with builtin := { w.builtin with cache } }) ∨
      ∃ request adapter, step.Reaches w request adapter ∧
        next w step = (((System.aggregate step.env).perform request adapter).run w).2 := by
  unfold next
  have reads := System.aggregate_reads step.env
  have quiet := System.aggregate_quiet step.env
  cases hname : step.message.msgName.asksForChange with
  | false => exact .inl (cache_of_looks (Aggregate.handleEvent_looks reads quiet hname w))
  | true =>
    cases hrequest : step.message.changeRequest with
    | none =>
      obtain ⟨_, -, hrun⟩ := (System.aggregate step.env).handleEvent_malformed hname hrequest w
      rw [hrun]
      exact .inl ⟨w.builtin.cache, rfl⟩
    | some request =>
      rcases Aggregate.handleEvent_answers reads quiet hrequest w with
        ⟨_, -, hrun, -⟩ | ⟨adapter, ⟨happroves, hselects⟩, _, hrun, -⟩ <;> rw [hrun]
      · exact .inl ⟨w.builtin.cache, rfl⟩
      · exact .inr ⟨request, adapter, ⟨hrequest, (System.approves_iff.mp happroves).2,
          (System.selects_iff.mp hselects).2.2⟩, rfl⟩

/-- A request that has an adapter makes its change when the registry answers. -/
theorem next_of_reaches {w : World} {step : Handled} {request : ChangeRequest}
    {adapter : OracleAdapter} (h : step.Reaches w request adapter)
    (hfind : step.env.faults .findOraclesOfType = none) :
    next w step = (((System.aggregate step.env).perform request adapter).run w).2 := by
  have hreaches : (System.aggregate step.env).Reaches request.fspId request.partyType
      request.currency adapter w :=
    ⟨System.approves_iff.mpr ⟨rfl, h.knows⟩, System.selects_iff.mpr ⟨rfl, hfind, h.selects⟩⟩
  unfold next
  rcases Aggregate.handleEvent_answers (System.aggregate_reads step.env)
    (System.aggregate_quiet step.env) h.asks w with
    ⟨_, -, -, hnot⟩ | ⟨other, hother, _, hrun, -⟩
  · exact absurd hreaches (hnot adapter)
  · rw [hrun, hother.unique hreaches]

/-! ### The registry -/

theorem registry_of_perform (env : Environment) (request : ChangeRequest) (adapter : OracleAdapter)
    (w : World) : let w' := (((System.aggregate env).perform request adapter).run w).2
    w'.oracles = w.oracles ∧ w'.adapters = w.adapters := by
  cases htype : adapter.type with
  | builtin =>
    rw [System.run_perform_builtin env htype]
    exact ⟨rfl, rfl⟩
  | remoteHttp =>
    rw [System.run_perform_remote env htype]
    exact ⟨rfl, rfl⟩

theorem registry_next (w : World) (step : Handled) :
    (next w step).oracles = w.oracles ∧ (next w step).adapters = w.adapters := by
  rcases next_cases w step with ⟨cache, hnext⟩ | ⟨request, adapter, -, hnext⟩ <;> rw [hnext]
  · exact ⟨rfl, rfl⟩
  · exact registry_of_perform step.env request adapter w

theorem registry_run (w : World) (steps : List Handled) :
    (steps.foldl next w).oracles = w.oracles ∧ (steps.foldl next w).adapters = w.adapters :=
  Runs.invariant_of_step (P := fun w' : World => w'.oracles = w.oracles ∧ w'.adapters = w.adapters)
    (fun w' step h => ⟨(registry_next w' step).1.trans h.1, (registry_next w' step).2.trans h.2⟩)
    ⟨rfl, rfl⟩ steps

end Handled

end AccountLookup
