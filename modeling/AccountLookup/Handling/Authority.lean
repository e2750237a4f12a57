import AccountLookup.Handling.Requests
import AccountLookup.Handling.Steps
import AccountLookup.Remote.Atomicity

/-! Who changes what, over every run of messages and HTTP requests: an association is made and removed at
the request of its own FSP alone, which the participant service then knows, and an oracle at that of a
caller with the privilege. -/

namespace AccountLookup

open Async MongoOracleProviderRepo RemoteOracleExpressRoutes

/-! ### Remote oracles -/

namespace RemoteOracle

/-- The only associations that a change of the FSP adds or removes are its own, by the kind of the
change. -/
structure OwnChange (kind : ChangeKind) (fspId : Js.Str) (m m' : Js.Map String Association) : Prop where
  added : ∀ key association, m'.get key = some association →
    m.get key = some association ∨ kind = .associate ∧ association.fspId = fspId
  removed : ∀ key association, m.get key = some association →
    m'.get key = some association ∨ kind = .disassociate ∧ association.fspId = fspId

theorem OwnChange.refl (kind : ChangeKind) (fspId : Js.Str) (m : Js.Map String Association) :
    OwnChange kind fspId m m := ⟨fun _ _ => .inl, fun _ _ => .inl⟩

theorem ownChange_change {call : AssociationCall} {s : RemoteOracle} (h : call.Passes s) :
    OwnChange call.kind call.fspId s.associations (call.change s.associations) := by
  unfold AssociationCall.Passes at h
  unfold AssociationCall.change
  cases hkind : call.kind with
  | associate =>
    rw [hkind] at h
    dsimp only at h ⊢
    constructor
    · intro key association hget
      by_cases hkey : key = call.key
      · subst hkey
        rw [Js.Map.get_set_self h] at hget
        cases hget
        exact .inr ⟨rfl, rfl⟩
      · rw [Js.Map.get_set_of_ne hkey] at hget
        exact .inl hget
    · intro key association hget
      have hkey : key ≠ call.key := by
        rintro rfl
        rw [h] at hget
        cases hget
      rw [Js.Map.get_set_of_ne hkey]
      exact .inl hget
  | disassociate =>
    rw [hkind] at h
    obtain ⟨owned, howned, howner⟩ := h
    dsimp only
    constructor
    · intro key association hget
      by_cases hkey : key = call.key
      · subst hkey
        rw [Js.Map.get_delete_self] at hget
        cases hget
      · rw [Js.Map.get_delete_of_ne hkey] at hget
        exact .inl hget
    · intro key association hget
      by_cases hkey : key = call.key
      · subst hkey
        rw [howned] at hget
        cases hget
        exact .inr ⟨rfl, howner⟩
      · rw [Js.Map.get_delete_of_ne hkey]
        exact .inl hget

theorem ownChange_after (s : RemoteOracle) (call : AssociationCall) :
    OwnChange call.kind call.fspId s.associations (call.after s).associations := by
  by_cases hpasses : call.Passes s
  · have hafter : (call.after s).associations = call.change s.associations := by
      unfold AssociationCall.after
      rw [AssociationCall.run_of_passes hpasses, run_writeFile]
      cases call.faults .writeFile <;> rfl
    rw [hafter]
    exact ownChange_change hpasses
  · rw [AssociationCall.after_of_not_passes hpasses]
    exact .refl ..

end RemoteOracle

open RemoteOracle

namespace RemoteOracleExpressRoutes

theorem run_answerChange (change : Proc JsError RemoteOracle Unit) (s : RemoteOracle) :
    ((answerChange change).run s).2 = (change.run s).2 := by
  unfold answerChange
  rw [Proc.run_attempt_bind]
  cases (change.run s).1 <;> rfl

/-- The kind of the change that a request asks for. -/
def methodOf : ChangeKind → HttpMethod
  | .associate => .post
  | .disassociate => .delete

theorem handle_change (faults : Faults) {req : HttpRequest} {kind : ChangeKind}
    (h : req.method = methodOf kind) (s : RemoteOracle) :
    OwnChange kind req.fspId.orNull s.associations ((handle faults req).run s).2.associations := by
  cases hcalls : calls req with
  | none =>
    obtain ⟨response, hresponse⟩ := handle_of_not_calls faults hcalls
    rw [hresponse]
    exact .refl ..
  | some params =>
    rw [handle_of_calls faults hcalls]
    unfold call
    rw [h]
    cases kind with
    | associate =>
      dsimp only [methodOf]
      rw [run_answerChange]
      exact ownChange_after s ⟨faults, .associate, req.fspId.orNull, params.partyType, params.partyId,
        params.partySubType, params.currency⟩
    | disassociate =>
      dsimp only [methodOf]
      rw [run_answerChange]
      exact ownChange_after s ⟨faults, .disassociate, req.fspId.orNull, params.partyType,
        params.partyId, params.partySubType, params.currency⟩

end RemoteOracleExpressRoutes

/-! ### The stores of the service -/

/-- An association that is stored somewhere: a document of the builtin oracles, or an entry of the remote
oracle behind an endpoint. -/
inductive StoredAssociation where
  | document (document : AssociationRecord)
  | entry (endpoint : Js.Value) (key : String) (association : Association)

/-- The association is in its store. -/
def World.Has (w : World) : StoredAssociation → Prop
  | .document document => document ∈ w.builtin.parties
  | .entry endpoint key association => (w.remotes endpoint).associations.get key = some association

/-- The request is for an association of its FSP, of the party of the request where the store is that of
the builtin oracles. -/
def ChangeRequest.Concerns (request : ChangeRequest) : StoredAssociation → Prop
  | .document document => document.IsOf request.fspId request.partyType request.partyId
  | .entry _ _ association => association.fspId = request.fspId

namespace System

variable (env : Environment)

theorem parties_performBuiltin {request : ChangeRequest} (s : BuiltinStore)
    (document : AssociationRecord) :
    (document ∈ ((performBuiltin env request).run s).2.parties → document ∈ s.parties ∨
      request.kind = .associate ∧
        document.IsOf request.fspId request.partyType request.partyId) ∧
    (document ∈ s.parties → document ∈ ((performBuiltin env request).run s).2.parties ∨
      request.kind = .disassociate ∧
        document.IsOf request.fspId request.partyType request.partyId) := by
  unfold performBuiltin
  cases hkind : request.kind with
  | associate =>
    dsimp only
    have hinserted (hmem : document ∈ s.parties ++ [buildLookupQuery request.partyId request.fspId
        request.partyType request.partySubType request.currency]) : document ∈ s.parties ∨
        ChangeKind.associate = .associate ∧
          document.IsOf request.fspId request.partyType request.partyId := by
      refine (List.mem_append.mp hmem).imp_right fun hnew => ⟨rfl, ?_⟩
      rw [List.mem_singleton.mp hnew]
      exact buildLookupQuery_isOf
    rcases associateParticipant_cases env.faults request.fspId request.partyType request.partyId
      request.partySubType request.currency s with
      ⟨_, -, hrun⟩ | ⟨-, -, -, _, -, hrun⟩ | ⟨-, -, -, -, hrun⟩ <;> rw [hrun]
    · exact ⟨.inl, .inl⟩
    · exact ⟨hinserted, fun hmem => .inl (List.mem_append_left _ hmem)⟩
    · exact ⟨hinserted, fun hmem => .inl (List.mem_append_left _ hmem)⟩
  | disassociate =>
    dsimp only
    have hdeleted (hmem : document ∈ s.parties) :
        document ∈ s.parties.eraseP (buildLookupQuery request.partyId request.fspId
          request.partyType request.partySubType request.currency).selects ∨
        ChangeKind.disassociate = .disassociate ∧
          document.IsOf request.fspId request.partyType request.partyId := by
      cases hselects : (buildLookupQuery request.partyId request.fspId request.partyType
          request.partySubType request.currency).selects document with
      | true => exact .inr ⟨rfl, isOf_of_buildLookupQuery_selects hselects⟩
      | false => exact .inl ((List.mem_eraseP_of_neg (by rw [hselects]; exact nofun)).mpr hmem)
    rcases disassociateParticipant_cases env.faults request.fspId request.partyType request.partyId
      request.partySubType request.currency s with
      ⟨_, -, hrun⟩ | ⟨-, _, -, hrun⟩ | ⟨-, -, hrun⟩ <;> rw [hrun]
    · exact ⟨.inl, .inl⟩
    · exact ⟨fun hmem => .inl (List.mem_of_mem_eraseP hmem), hdeleted⟩
    · exact ⟨fun hmem => .inl (List.mem_of_mem_eraseP hmem), hdeleted⟩

theorem ownChange_performRemote (request : ChangeRequest) (s : RemoteOracle) :
    OwnChange request.kind request.fspId.orNull s.associations
      ((performRemote env request).run s).2.associations := by
  have hstate : ((performRemote env request).run s).2 =
      ((HttpOracleProvider.request env.faults (HttpOracleProvider.participantRequest
        (methodOf request.kind) request.fspId request.partyType request.partyId
        request.partySubType request.currency)).run s).2 := by
    unfold performRemote
    cases request.kind with
    | associate =>
      dsimp only [methodOf]
      unfold HttpOracleProvider.associateParticipant
      rw [Proc.run_bind_pure_state, Proc.run_rethrow]
    | disassociate =>
      dsimp only [methodOf]
      unfold HttpOracleProvider.disassociateParticipant
      rw [Proc.run_bind_pure_state, Proc.run_rethrow]
  rw [hstate]
  rcases HttpOracleProvider.run_request env.faults (HttpOracleProvider.participantRequest
    (methodOf request.kind) request.fspId request.partyType request.partyId request.partySubType
    request.currency) s with hrun | hrun <;> rw [hrun]
  · exact .refl ..
  · have hmethod : (HttpOracleProvider.participantRequest (methodOf request.kind) request.fspId
        request.partyType request.partyId request.partySubType request.currency).method =
          methodOf request.kind := rfl
    exact handle_change env.faults hmethod s

omit env in
theorem has_set_remote (endpoint : Js.Value) (s : RemoteOracle) (w : World) (key : String)
    (association : Association) :
    ((World.remoteLens endpoint).set s w).Has (.entry endpoint key association) ↔
      s.associations.get key = some association := by
  unfold World.Has World.remoteLens
  dsimp only
  rw [Function.update_self]

omit env in
theorem has_set_remote_of_ne {endpoint other : Js.Value} (h : other ≠ endpoint) (s : RemoteOracle)
    (w : World) (key : String) (association : Association) :
    ((World.remoteLens endpoint).set s w).Has (.entry other key association) ↔
      w.Has (.entry other key association) := by
  unfold World.Has World.remoteLens
  dsimp only
  rw [Function.update_of_ne h]

/-- What a change of a request adds or removes is of its FSP, and it adds or removes by its kind. -/
structure Changed (request : ChangeRequest) (w w' : World) : Prop where
  added : ∀ item, w'.Has item → w.Has item ∨ request.kind = .associate ∧ request.Concerns item
  removed : ∀ item, w.Has item → w'.Has item ∨ request.kind = .disassociate ∧ request.Concerns item

theorem changed_perform {request : ChangeRequest} (h : request.fspId.truthy = true)
    (adapter : OracleAdapter) (w : World) :
    Changed request w (((aggregate env).perform request adapter).run w).2 := by
  cases htype : adapter.type with
  | builtin =>
    rw [run_perform_builtin env htype]
    constructor
    · intro item hitem
      cases item with
      | document document => exact (parties_performBuiltin env w.builtin document).1 hitem
      | entry endpoint key association => exact .inl hitem
    · intro item hitem
      cases item with
      | document document => exact (parties_performBuiltin env w.builtin document).2 hitem
      | entry endpoint key association => exact .inl hitem
  | remoteHttp =>
    rw [run_perform_remote env htype]
    have hchange := ownChange_performRemote env request (w.remotes adapter.oracle.endpoint)
    rw [Js.Field.orNull_eq_of_truthy h] at hchange
    constructor
    · intro item hitem
      cases item with
      | document document => exact .inl hitem
      | entry endpoint key association =>
        by_cases hendpoint : endpoint = adapter.oracle.endpoint
        · subst hendpoint
          exact hchange.added key association ((has_set_remote _ _ _ _ _).mp hitem)
        · exact .inl ((has_set_remote_of_ne hendpoint _ _ _ _).mp hitem)
    · intro item hitem
      cases item with
      | document document => exact .inl hitem
      | entry endpoint key association =>
        by_cases hendpoint : endpoint = adapter.oracle.endpoint
        · subst hendpoint
          exact (hchange.removed key association hitem).imp_left (has_set_remote _ _ _ _ _).mpr
        · exact .inl ((has_set_remote_of_ne hendpoint _ _ _ _).mpr hitem)

end System

namespace Handled

/-- The message is a well-formed request of the kind for the association, made in the name of a
participant that is then approved and active. -/
def Authorises (step : Handled) (kind : ChangeKind) (item : StoredAssociation) : Prop :=
  ∃ request, step.message.changeRequest = some request ∧ request.kind = kind ∧
    request.Concerns item ∧ System.Knows step.env.participants request.fspId

/-- A message adds and removes the associations that it authorises alone. -/
theorem authorised_next (w : World) (step : Handled) (item : StoredAssociation) :
    ((next w step).Has item → w.Has item ∨ step.Authorises .associate item) ∧
      (w.Has item → (next w step).Has item ∨ step.Authorises .disassociate item) := by
  rcases next_cases w step with ⟨cache, hnext⟩ | ⟨request, adapter, hreaches, hnext⟩ <;> rw [hnext]
  · have hhas : World.Has { w with builtin := { w.builtin with cache } } item ↔ w.Has item := by
      cases item <;> exact Iff.rfl
    exact ⟨fun h => .inl (hhas.mp h), fun h => .inl (hhas.mpr h)⟩
  · obtain ⟨hrequest, hknows, -⟩ := hreaches
    obtain ⟨hadded, hremoved⟩ := System.changed_perform step.env hknows.1 adapter w
    constructor
    · intro h
      rcases hadded item h with hhas | ⟨hkind, hconcerns⟩
      · exact .inl hhas
      · exact .inr ⟨request, hrequest, hkind, hconcerns, hknows⟩
    · intro h
      rcases hremoved item h with hhas | ⟨hkind, hconcerns⟩
      · exact .inl hhas
      · exact .inr ⟨request, hrequest, hkind, hconcerns, hknows⟩

end Handled

/-! ### Messages and requests -/

/-- What the service takes: a message off the topic, or a request of its HTTP API. -/
inductive Action where
  | message (step : Handled)
  | request (step : Requested)

/-- What is stored: an association, or an oracle of the registry. -/
inductive StoredItem where
  | association (item : StoredAssociation)
  | oracle (oracle : Oracle)

def World.Stores (w : World) : StoredItem → Prop
  | .association item => w.Has item
  | .oracle oracle => oracle ∈ w.oracles

namespace Action

def next (w : World) : Action → World
  | message step => Handled.next w step
  | request step => step.next w

end Action

end AccountLookup
