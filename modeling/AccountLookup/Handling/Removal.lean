import AccountLookup.Handling.Service
import AccountLookup.Remote.Provider

/-! When a request to remove an association is answered as removed although no association of its
owner and party is gone. -/

namespace AccountLookup

open Async MongoOracleProviderRepo RemoteOracleExpressRoutes

/-- The association is one of the party with `fspId`. -/
def Association.IsOf (association : Association) (fspId partyType partyId : Js.Str) : Prop :=
  association.fspId = fspId ∧ .val association.partyType = partyType ∧
    .val association.partyId = partyId

instance (association : Association) (fspId partyType partyId : Js.Str) :
    Decidable (association.IsOf fspId partyType partyId) := by
  unfold Association.IsOf
  infer_instance

namespace System

variable (env : Environment)

/-- The number of associations of the request's owner and party that the adapter's oracle holds. -/
def held (request : ChangeRequest) (adapter : OracleAdapter) (w : World) : Nat :=
  match adapter.type with
  | .builtin =>
    w.builtin.parties.countP fun document =>
      document.IsOf request.fspId request.partyType request.partyId
  | .remoteHttp =>
    (w.remotes adapter.oracle.endpoint).associations.values.countP fun association =>
      association.IsOf request.fspId request.partyType request.partyId

/-- The adapter resolves without removing an association of the request: a builtin oracle has no
document that the filter selects; the remote oracle finds the owner's association of another party
under the key that it builds from the parameters of the URL. -/
def RemovesNothing (request : ChangeRequest) (adapter : OracleAdapter) (w : World) : Prop :=
  match adapter.type with
  | .builtin =>
    env.faults .deleteAssociation = none ∧ env.faults .redisDel = none ∧
      w.builtin.parties.find? (buildLookupQuery request.partyId request.fspId request.partyType
        request.partySubType request.currency).selects = none
  | .remoteHttp =>
    let req := HttpOracleProvider.participantRequest .delete request.fspId request.partyType
      request.partyId request.partySubType request.currency
    env.faults .httpRequest = none ∧ env.faults .writeFile = none ∧ validFspId req = true ∧
      ∃ params association, servedParams req.target = some params ∧
        (w.remotes adapter.oracle.endpoint).associations.get
          (RemoteOracle.createKey params.partyId params.partyType params.currency) =
            some association ∧
        association.fspId = request.fspId.orNull ∧
        ¬association.IsOf request.fspId request.partyType request.partyId

theorem countP_deleted (fspId partyType partyId partySubType currency : Js.Str)
    (s : BuiltinStore) :
    s.parties.countP (fun document => document.IsOf fspId partyType partyId) =
      (deleted fspId partyType partyId partySubType currency s).parties.countP
          (fun document => document.IsOf fspId partyType partyId) +
        if (s.parties.find?
          (buildLookupQuery partyId fspId partyType partySubType currency).selects).isSome then 1
        else 0 := by
  rcases List.exists_or_eq_self_of_eraseP
    (buildLookupQuery partyId fspId partyType partySubType currency).selects s.parties with
    hsame | ⟨document, before, after, hbefore, hselects, hparties, herase⟩
  · have hnone : (s.parties.find?
        (buildLookupQuery partyId fspId partyType partySubType currency).selects).isSome = false := by
      rw [Bool.eq_false_iff]
      intro hsome
      exact (deleted_parties_ne_iff ..).mpr hsome hsame
    rw [hnone, deleted, hsame]
    rfl
  · have hsome : (s.parties.find?
        (buildLookupQuery partyId fspId partyType partySubType currency).selects).isSome = true := by
      rw [List.find?_isSome]
      exact ⟨document, by simp [hparties], hselects⟩
    have hof := isOf_of_buildLookupQuery_selects hselects
    rw [hsome, deleted, herase, hparties]
    simp only [List.countP_append, List.countP_cons, hof, decide_true, if_true]
    omega

section Adapters

variable {request : ChangeRequest} (hkind : request.kind = .disassociate) (adapter : OracleAdapter)
  (w : World)
include hkind

/-- A removal that a builtin adapter makes takes the document that the filter selects. -/
theorem removesNothing_builtin_iff (htype : adapter.type = .builtin) :
    RemovesNothing env request adapter w ↔
      ∃ w', ((aggregate env).perform request adapter).run w = (.ok (), w') ∧
        held request adapter w ≠ held request adapter w' + 1 := by
  simp only [RemovesNothing, htype]
  rw [run_perform_builtin env htype]
  simp only [held, htype, performBuiltin, hkind]
  have hcount := countP_deleted request.fspId request.partyType request.partyId
    request.partySubType request.currency w.builtin
  rcases disassociateParticipant_cases env.faults request.fspId request.partyType request.partyId
    request.partySubType request.currency w.builtin with
    ⟨error, hdelete, hrun⟩ | ⟨-, error, hdel, hrun⟩ | ⟨hdelete, hdel, hrun⟩ <;> rw [hrun]
  · constructor
    · intro h
      obtain ⟨h, -⟩ := h
      simp [h] at hdelete
    · intro h
      obtain ⟨_, h, -⟩ := h
      cases h
  · constructor
    · intro h
      obtain ⟨-, h, -⟩ := h
      simp [h] at hdel
    · intro h
      obtain ⟨_, h, -⟩ := h
      cases h
  · constructor
    · intro h
      obtain ⟨-, -, hfind⟩ := h
      refine ⟨_, rfl, ?_⟩
      rw [hcount, hfind]
      simp
    · intro h
      obtain ⟨_, ⟨⟩, hne⟩ := h
      refine ⟨hdelete, hdel, ?_⟩
      by_contra hfind
      rw [← ne_eq, Option.ne_none_iff_isSome] at hfind
      rw [hcount, hfind] at hne
      exact hne rfl

/-- A removal that a remote adapter makes takes the association under the key of its request. -/
theorem removesNothing_remote_iff (htype : adapter.type = .remoteHttp) :
    RemovesNothing env request adapter w ↔
      ∃ w', ((aggregate env).perform request adapter).run w = (.ok (), w') ∧
        held request adapter w ≠ held request adapter w' + 1 := by
  have hok := HttpOracleProvider.disassociateParticipant_eq_ok env.faults request.fspId
    request.partyType request.partyId request.partySubType request.currency
    (w.remotes adapter.oracle.endpoint)
  simp only [RemovesNothing, htype]
  rw [run_perform_remote env htype]
  simp only [held, htype, performRemote, hkind]
  constructor
  · intro h
    obtain ⟨hrequest, hwrite, hvalid, params, association, hserved, hget, howner, hnot⟩ := h
    rw [(hok _).mpr ⟨hrequest, hvalid, params, hserved,
      (RemoteOracle.disassociateParticipant_eq_ok ..).mpr
        ⟨hwrite, association, hget, howner, rfl⟩⟩]
    refine ⟨_, rfl, ?_⟩
    rw [Js.Map.countP_values_delete hget]
    simp [hnot, RemoteOracle.removed, World.remoteLens]
  · intro h
    obtain ⟨w', hw', hne⟩ := h
    rcases hrun : (HttpOracleProvider.disassociateParticipant env.faults request.fspId
      request.partyType request.partyId request.partySubType request.currency).run
        (w.remotes adapter.oracle.endpoint) with ⟨outcome, t⟩
    rw [hrun] at hw'
    cases hw'
    obtain ⟨hrequest, hvalid, params, hserved, hrun⟩ := (hok t).mp hrun
    obtain ⟨hwrite, association, hget, howner, rfl⟩ :=
      (RemoteOracle.disassociateParticipant_eq_ok ..).mp hrun
    refine ⟨hrequest, hwrite, hvalid, params, association, hserved, hget, howner, ?_⟩
    intro hof
    rw [Js.Map.countP_values_delete hget] at hne
    simp [hof, RemoteOracle.removed, World.remoteLens] at hne

/-- A removal that the adapter makes takes one association of the request away, unless it removes
nothing. -/
theorem removesNothing_iff :
    RemovesNothing env request adapter w ↔
      ∃ w', ((aggregate env).perform request adapter).run w = (.ok (), w') ∧
        held request adapter w ≠ held request adapter w' + 1 := by
  cases htype : adapter.type with
  | builtin => exact removesNothing_builtin_iff env hkind adapter w htype
  | remoteHttp => exact removesNothing_remote_iff env hkind adapter w htype

end Adapters

theorem kind_of_disassociateMessage {message : Message} {request : ChangeRequest}
    (hname : message.msgName = .participantDisassociateRequestReceivedEvt)
    (hrequest : message.changeRequest = some request) : request.kind = .disassociate := by
  unfold Message.changeRequest at hrequest
  rw [hname] at hrequest
  split at hrequest
  next h => cases h
  next =>
    cases hrequest
    rfl
  next => cases hrequest

/-- The handling of a request to remove an association answers that it was removed only when one
association of the owner and the party is gone, and else with an error event, unless the adapter that
is selected removes nothing and resolves. -/
theorem handleEvent_removes_iff (w : World) {message : Message}
    (hname : message.msgName = .participantDisassociateRequestReceivedEvt) :
    (∀ e w', ((aggregate env).handleEvent message).run w = (.ok e, w') →
        (e.msgName = .participantAssociationRemovedEvt ∧ ∃ request adapter,
          message.changeRequest = some request ∧
          (aggregate env).Reaches request.fspId request.partyType request.currency adapter w ∧
          held request adapter w = held request adapter w' + 1) ∨
        e.msgName.isSuccess = false) ↔
      ¬∃ request adapter, message.changeRequest = some request ∧
        (aggregate env).Reaches request.fspId request.partyType request.currency adapter w ∧
        RemovesNothing env request adapter w := by
  refine Aggregate.handleEvent_forall_iff (aggregate_reads env) (aggregate_quiet env)
    (by rw [hname]; rfl) (fun e he => .inr he) ?_
  intro request adapter e hrequest hreaches hanswer
  have hkind := kind_of_disassociateMessage hname hrequest
  have hnothing := removesNothing_iff env hkind adapter w
  rcases hperform : ((aggregate env).perform request adapter).run w with ⟨error | done, w'⟩ <;>
    rw [hperform] at hanswer hnothing
  · constructor
    · intro _ hremoves
      obtain ⟨_, ⟨⟩, -⟩ := hnothing.mp hremoves
    · exact fun _ => .inr hanswer
  · have hevent : e.msgName = .participantAssociationRemovedEvt := by
      rw [hkind] at hanswer
      exact hanswer
    constructor
    · intro hremoves hremovesNothing
      obtain ⟨_, ⟨⟩, hne⟩ := hnothing.mp hremovesNothing
      rcases hremoves with ⟨-, _, adapter', hrequest', hreaches', hheld⟩ | herror
      · obtain rfl := Option.some.inj (hrequest.symm.trans hrequest')
        rw [hreaches'.unique hreaches] at hheld
        exact hne hheld
      · rw [hevent] at herror
        cases herror
    · intro hnot
      refine .inl ⟨hevent, request, adapter, hrequest, hreaches, ?_⟩
      by_contra hne
      exact hnot (hnothing.mpr ⟨w', rfl, hne⟩)

/-- A builtin oracle that holds the association of the request. -/
def associatedWorld : World :=
  { builtinWorld with
    builtin := { builtinWorld.builtin with
      parties := [⟨.val "bluebank", .val "MSISDN", .val "123", .undefined, .undefined⟩] } }

theorem handleEvent_removes_iff_associated :
    (∀ e w', ((aggregate (withFaults .none)).handleEvent
        (changeMessage .participantDisassociateRequestReceivedEvt)).run associatedWorld =
          (.ok e, w') →
        (e.msgName = .participantAssociationRemovedEvt ∧ ∃ request adapter,
          (changeMessage .participantDisassociateRequestReceivedEvt).changeRequest = some request ∧
          (aggregate (withFaults .none)).Reaches request.fspId request.partyType request.currency
            adapter associatedWorld ∧
          held request adapter associatedWorld = held request adapter w' + 1) ∨
        e.msgName.isSuccess = false) ↔
      ¬∃ request adapter,
        (changeMessage .participantDisassociateRequestReceivedEvt).changeRequest = some request ∧
        (aggregate (withFaults .none)).Reaches request.fspId request.partyType request.currency
          adapter associatedWorld ∧
        RemovesNothing (withFaults .none) request adapter associatedWorld :=
  handleEvent_removes_iff (withFaults .none) associatedWorld rfl

/-- A builtin oracle without associations answers that one was removed. -/
theorem handleEvent_removes_nothing :
    ∃ e w', ((aggregate (withFaults .none)).handleEvent
        (changeMessage .participantDisassociateRequestReceivedEvt)).run builtinWorld = (.ok e, w') ∧
      e.msgName = .participantAssociationRemovedEvt ∧ builtinWorld.builtin.parties = [] :=
  ⟨_, _, rfl, rfl, rfl⟩

end System

end AccountLookup
