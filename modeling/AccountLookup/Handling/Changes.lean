import AccountLookup.Handling.Acceptance

/-! Requests that change an association: how `handleEvent` answers one, by what the selected adapter
makes of it. -/

namespace AccountLookup

open Async

/-! ### Requests -/

inductive ChangeKind where
  | associate
  | disassociate
  deriving DecidableEq, Repr

/-- A request to add or to remove an association. -/
structure ChangeRequest where
  kind : ChangeKind
  fspId : Js.Str
  partyType : Js.Str
  partyId : Js.Str
  partySubType : Js.Str
  currency : Js.Str
  deriving DecidableEq, Repr

/-- The event that answers a request when its change is made. -/
def ChangeKind.answer : ChangeKind → EventName
  | .associate => .participantAssociationCreatedEvt
  | .disassociate => .participantAssociationRemovedEvt

/-- The request that a message makes of an adapter, if it is a well-formed request.  A removal is
made with `null` for an absent field. -/
def Message.changeRequest (message : Message) : Option ChangeRequest :=
  let p := message.fields
  match Aggregate.validateMessageOrGetErrorEvent message, message.msgName with
  | none, .participantAssociationRequestReceivedEvt =>
    some ⟨.associate, p.ownerFspId, p.partyType, p.partyId, p.partySubType, p.currency⟩
  | none, .participantDisassociateRequestReceivedEvt =>
    some ⟨.disassociate, p.ownerFspId.orNull, p.partyType.orNull, p.partyId.orNull,
      p.partySubType.orNull, p.currency.orNull⟩
  | _, _ => none

/-- The name of a message that asks for a change. -/
def MessageName.asksForChange : MessageName → Bool
  | .participantAssociationRequestReceivedEvt
  | .participantDisassociateRequestReceivedEvt => true
  | _ => false

variable {σ : Type}

namespace Aggregate

variable (agg : Aggregate σ)

/-- The change that an adapter makes for a request. -/
def perform (request : ChangeRequest) (adapter : OracleAdapter) : Proc JsError σ Unit :=
  match request.kind with
  | .associate =>
    agg.oracleProvider.associateParticipant adapter request.fspId request.partyType request.partyId
      request.partySubType request.currency
  | .disassociate =>
    agg.oracleProvider.disassociateParticipant adapter request.fspId request.partyType
      request.partyId request.partySubType request.currency

theorem validateMessage_isError {message : Message} {e : DomainEvent}
    (h : validateMessageOrGetErrorEvent message = some e) : e.msgName.isSuccess = false := by
  unfold validateMessageOrGetErrorEvent at h
  split_ifs at h <;> cases h <;> rfl

/-- A message without a payload or of another type is answered with an error event and changes
nothing. -/
theorem handleEvent_malformed {message : Message} (hname : message.msgName.asksForChange = true)
    (h : message.changeRequest = none) (s : σ) :
    ∃ e, e.msgName.isSuccess = false ∧ (agg.handleEvent message).run s = (.ok e, s) := by
  cases hvalidate : validateMessageOrGetErrorEvent message with
  | none =>
    unfold Message.changeRequest at h
    rw [hvalidate] at h
    cases hn : message.msgName <;> simp [hn, MessageName.asksForChange] at hname h
  | some e =>
    refine ⟨{ e with
      inboundProtocolType := message.inboundProtocolType
      inboundProtocolOpaqueState := message.inboundProtocolOpaqueState }, ?_, ?_⟩
    · have hevent := validateMessage_isError hvalidate
      exact hevent
    · simp only [handleEvent, hvalidate, Proc.run_pure]

/-- A valid message whose handler resolves is answered by it. -/
theorem handleEvent_of_dispatch {message : Message} {e : DomainEvent} {s t : σ}
    (hvalidate : validateMessageOrGetErrorEvent message = none)
    (h : (agg.dispatch message).run s = (.ok e, t)) :
    (agg.handleEvent message).run s = (.ok e, t) := by
  simp only [handleEvent, hvalidate, Proc.run_attempt_bind, h, Proc.run_pure]

/-- The participant service and the finder are only read. -/
structure ReadsOnly : Prop where
  getParticipantInfo : ∀ fspId s, ((agg.getParticipantInfo fspId).run s).2 = s
  getOracle : ∀ partyType currency s, ((agg.oracleFinder.getOracle partyType currency).run s).2 = s

/-- The owner passes its check and `adapter` is selected. -/
def Reaches (ownerFspId partyType currency : Js.Str) (adapter : OracleAdapter) (s : σ) : Prop :=
  agg.Approves ownerFspId s s ∧ agg.Selects partyType currency adapter s s

theorem Reaches.unique {agg : Aggregate σ} {ownerFspId partyType currency : Js.Str}
    {adapter adapter' : OracleAdapter} {s : σ}
    (h : agg.Reaches ownerFspId partyType currency adapter s)
    (h' : agg.Reaches ownerFspId partyType currency adapter' s) : adapter = adapter' := by
  obtain ⟨-, oracle, hrun, hfind⟩ := h
  obtain ⟨-, oracle', hrun', hfind'⟩ := h'
  rw [hrun] at hrun'
  cases hrun'
  exact Option.some.inj (hfind.symm.trans hfind')

section ReadsOnly

variable {agg} (reads : agg.ReadsOnly)
include reads

variable (quiet : agg.Quiet)
include quiet

theorem validateParticipant_state (role : ParticipantRole) (callName : String)
    (partyId partyType partySubType participantId : Js.Str) (s : σ) :
    ∃ r, (agg.validateParticipantInfoOrGetErrorEvent role callName partyId partyType partySubType
      participantId).run s = (.ok r, s) := by
  simp only [validateParticipantInfoOrGetErrorEvent, run_histo_bind quiet]
  split
  · have hread := reads.getParticipantInfo participantId s
    rw [run_histo_bind quiet, Proc.run_attempt_bind, Proc.run_bind]
    rcases hrun : (agg.getParticipantInfo participantId).run s with ⟨_ | _ | participant, u⟩ <;>
      rw [hrun] at hread <;> cases hread
    · exact ⟨_, by simp [run_histo_bind quiet]; rfl⟩
    · exact ⟨_, by simp [run_histo_bind quiet]; rfl⟩
    · simp only [run_histo_bind quiet, Proc.run_pure]
      split_ifs <;> exact ⟨_, by simp [run_histo_bind quiet]; rfl⟩
  · exact ⟨_, by simp [run_histo_bind quiet]; rfl⟩

theorem getOracleAdapter_state (partyType currency : Js.Str) (s : σ) :
    ((agg.getOracleAdapter partyType currency).run s).2 = s := by
  simp only [getOracleAdapter, run_histo_bind quiet, Proc.run_attempt_bind]
  have hread := reads.getOracle partyType currency s
  rcases hrun : (agg.oracleFinder.getOracle partyType currency).run s with ⟨_ | _ | oracle, u⟩ <;>
    rw [hrun] at hread <;> cases hread
  · simp [run_histo_bind quiet]
  · simp [run_histo_bind quiet]
  · simp only [Proc.run_bind_ok (Proc.run_read _ _)]
    split <;> simp [run_histo_bind quiet]

/-- A change that is not reached is answered with an error event and changes nothing; one that is
reached is answered by its own outcome and leaves what it leaves. -/
theorem changeAssociation_cases {callName : String}
    {partyId partyType partySubType ownerFspId currency : Js.Str}
    {change : OracleAdapter → Proc JsError σ Unit} {failure answer : DomainEvent} (s : σ) :
    (∃ e, e.msgName.isSuccess = false ∧
      (agg.changeAssociation callName partyId partyType partySubType ownerFspId currency change
        failure answer).run s = (.ok e, s) ∧
      ∀ adapter, ¬agg.Reaches ownerFspId partyType currency adapter s) ∨
    ∃ adapter, agg.Reaches ownerFspId partyType currency adapter s ∧
      (agg.changeAssociation callName partyId partyType partySubType ownerFspId currency change
        failure answer).run s =
          (.ok (match ((change adapter).run s).1 with | .ok () => answer | .error _ => failure),
            ((change adapter).run s).2) := by
  unfold changeAssociation validateRequesterParticipantInfoOrGetErrorEvent
  simp only [run_histo_bind quiet]
  obtain ⟨ownerError, howner⟩ := validateParticipant_state reads quiet .requester
    "validateRequesterParticipantInfoOrGetErrorEvent" partyId partyType partySubType ownerFspId s
  simp only [Proc.run_bind_ok howner]
  cases ownerError with
  | some e =>
    obtain ⟨fault, rfl⟩ := (agg.validateParticipant_yields ..).run howner e rfl
    refine .inl ⟨participantErrorEvent .requester fault partyId partyType partySubType ownerFspId,
      rfl, by simp only [run_histo_bind quiet, Proc.run_pure], ?_⟩
    rintro adapter ⟨happroves, -⟩
    rw [(validateParticipant_eq_none quiet).mpr happroves] at howner
    cases howner
  | none =>
    have happroves := (validateParticipant_eq_none quiet).mp howner
    simp only [Proc.run_attempt_bind]
    have hstate := getOracleAdapter_state reads quiet partyType currency s
    rcases hadapter : (agg.getOracleAdapter partyType currency).run s with ⟨_ | adapter, u⟩ <;>
      rw [hadapter] at hstate <;> simp only at hstate <;> rw [hstate] at hadapter ⊢
    · simp only [run_histo_bind quiet, Proc.run_pure]
      refine .inl ⟨_, rfl, rfl, ?_⟩
      rintro adapter ⟨-, hselects⟩
      rw [(getOracleAdapter_eq_ok quiet).mpr hselects] at hadapter
      cases hadapter
    · refine .inr ⟨adapter, ⟨happroves, (getOracleAdapter_eq_ok quiet).mp hadapter⟩, ?_⟩
      simp only [Proc.run_attempt_bind]
      rcases (change adapter).run s with ⟨_ | _, v⟩ <;>
        simp only [run_histo_bind quiet, Proc.run_pure]

/-- How a request is answered: when its adapter is not reached, by an error event and with no change,
else by the outcome of the adapter's change, in the state that it leaves. -/
def AnswersRequest (request : ChangeRequest) (handling : Proc JsError σ DomainEvent) (s : σ) :
    Prop :=
  (∃ e, e.msgName.isSuccess = false ∧ handling.run s = (.ok e, s) ∧
      ∀ adapter, ¬agg.Reaches request.fspId request.partyType request.currency adapter s) ∨
    ∃ adapter, agg.Reaches request.fspId request.partyType request.currency adapter s ∧
      ∃ e, handling.run s = (.ok e, ((agg.perform request adapter).run s).2) ∧
        match ((agg.perform request adapter).run s).1 with
        | .ok () => e.msgName = request.kind.answer
        | .error _ => e.msgName.isSuccess = false

theorem changeAssociation_answers {request : ChangeRequest} {callName : String}
    {partyId partySubType : Js.Str} {failure answer : DomainEvent}
    (hfailure : failure.msgName.isSuccess = false) (hanswer : answer.msgName = request.kind.answer)
    (s : σ) :
    agg.AnswersRequest request
      (agg.changeAssociation callName partyId request.partyType partySubType request.fspId
        request.currency (agg.perform request) failure answer) s := by
  rcases changeAssociation_cases reads quiet s with
    ⟨e, he, hrun, hnot⟩ | ⟨adapter, hreaches, hrun⟩
  · exact .inl ⟨e, he, hrun, hnot⟩
  · refine .inr ⟨adapter, hreaches, _, hrun, ?_⟩
    cases ((agg.perform request adapter).run s).1 with
    | ok done => exact hanswer
    | error e => exact hfailure

/-- The handling of a request is that of its change: the two handlers differ in their arguments
only. -/
theorem handleEvent_answers {message : Message} {request : ChangeRequest}
    (hrequest : message.changeRequest = some request) (s : σ) :
    agg.AnswersRequest request (agg.handleEvent message) s := by
  unfold Message.changeRequest at hrequest
  have handled (hvalidate : validateMessageOrGetErrorEvent message = none)
      (h : agg.AnswersRequest request (agg.dispatch message) s) :
      agg.AnswersRequest request (agg.handleEvent message) s := by
    rcases h with ⟨e, he, hrun, hnot⟩ | ⟨adapter, hreaches, e, hrun, he⟩
    · exact .inl ⟨e, he, agg.handleEvent_of_dispatch hvalidate hrun, hnot⟩
    · exact .inr ⟨adapter, hreaches, e, agg.handleEvent_of_dispatch hvalidate hrun, he⟩
  split at hrequest
  next hvalidate hname =>
    cases hrequest
    apply handled hvalidate
    unfold dispatch
    rw [hname]
    exact changeAssociation_answers reads quiet rfl rfl s
  next hvalidate hname =>
    cases hrequest
    apply handled hvalidate
    unfold dispatch
    rw [hname]
    exact changeAssociation_answers reads quiet rfl rfl s
  · cases hrequest

/-- When `P` holds of an error event without a change, it holds of the answer to every message but those
whose change reaches an adapter with `Q`. -/
theorem handleEvent_forall_iff {message : Message} (hname : message.msgName.asksForChange = true)
    {s : σ} {P : DomainEvent → σ → Prop} {Q : ChangeRequest → OracleAdapter → Prop}
    (herror : ∀ e, e.msgName.isSuccess = false → P e s)
    (hreached : ∀ request adapter e, message.changeRequest = some request →
      agg.Reaches request.fspId request.partyType request.currency adapter s →
      (match ((agg.perform request adapter).run s).1 with
        | .ok () => e.msgName = request.kind.answer
        | .error _ => e.msgName.isSuccess = false) →
      (P e ((agg.perform request adapter).run s).2 ↔ ¬Q request adapter)) :
    (∀ e t, (agg.handleEvent message).run s = (.ok e, t) → P e t) ↔
      ¬∃ request adapter, message.changeRequest = some request ∧
        agg.Reaches request.fspId request.partyType request.currency adapter s ∧
        Q request adapter := by
  cases hrequest : message.changeRequest with
  | none =>
    obtain ⟨e, he, hrun⟩ := agg.handleEvent_malformed hname hrequest s
    constructor
    · intro _ h
      obtain ⟨_, _, ⟨⟩, -⟩ := h
    · intro _ _ _ h
      rw [hrun] at h
      cases h
      exact herror e he
  | some request =>
    rcases handleEvent_answers reads quiet hrequest s with
      ⟨e, he, hrun, hnot⟩ | ⟨adapter, hreaches, e, hrun, hanswer⟩
    · constructor
      · intro _ h
        obtain ⟨_, adapter, ⟨⟩, hreaches, -⟩ := h
        exact hnot adapter hreaches
      · intro _ _ _ h
        rw [hrun] at h
        cases h
        exact herror e he
    · have hiff := hreached request adapter e hrequest hreaches hanswer
      constructor
      · intro hall h
        obtain ⟨_, adapter', ⟨⟩, hreaches', hQ⟩ := h
        rw [hreaches'.unique hreaches] at hQ
        exact hiff.mp (hall e _ hrun) hQ
      · intro hnot _ _ h
        rw [hrun] at h
        cases h
        exact hiff.mpr fun hQ => hnot ⟨request, adapter, rfl, hreaches, hQ⟩

end ReadsOnly

end Aggregate

end AccountLookup
