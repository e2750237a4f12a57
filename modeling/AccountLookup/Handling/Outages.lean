import AccountLookup.Handling.Steps
import AccountLookup.Model.ParticipantAdapter
import AccountLookup.Runs.Losses

/-! The service while the participant service does not answer for some FSPs. -/

namespace AccountLookup

open Async

/-- The FSP that the handler of the message checks first. -/
def Message.checkedFspId (message : Message) : Js.Str :=
  let p := message.fields
  match message.msgName with
  | .partyQueryReceivedEvt | .partyInfoAvailableEvt | .partyRejectedEvt | .participantRejectedEvt =>
    p.requesterFspId.orNull
  | .participantQueryReceivedEvt => p.requesterFspId
  | .participantAssociationRequestReceivedEvt => p.ownerFspId
  | .participantDisassociateRequestReceivedEvt => p.ownerFspId.orNull
  | .other _ => .undefined

/-- An error event is the reply. -/
def Refuses (reply : Except JsError DomainEvent) : Prop :=
  ∃ event, reply = .ok event ∧ event.msgName.isSuccess = false

/-- The reply is the other one, or that the destination of the message is not found. -/
def RepliesAlike (reply reply' : Except JsError DomainEvent) : Prop :=
  reply = reply' ∨
    ∃ event, reply = .ok event ∧ event.msgName = .participantError .destination .notFound

namespace Aggregate

variable {σ : Type} (agg : Aggregate σ)

/-- The aggregate with another participant service. -/
def withParticipants (participants : Js.Str → Proc JsError σ (Option Participant)) : Aggregate σ :=
  { agg with getParticipantInfo := participants }

variable {agg} {participants : Js.Str → Proc JsError σ (Option Participant)}

section Checks

variable {role : ParticipantRole} {callName : String}
  {partyId partyType partySubType participantId : Js.Str}

theorem validateParticipant_of_same
    (h : participants participantId = agg.getParticipantInfo participantId) :
    (agg.withParticipants participants).validateParticipantInfoOrGetErrorEvent role callName partyId
        partyType partySubType participantId =
      agg.validateParticipantInfoOrGetErrorEvent role callName partyId partyType partySubType
        participantId := by
  simp only [validateParticipantInfoOrGetErrorEvent, withParticipants, h]

theorem validateParticipant_of_falsy (h : ¬participantId.truthy = true) :
    (agg.withParticipants participants).validateParticipantInfoOrGetErrorEvent role callName partyId
        partyType partySubType participantId =
      agg.validateParticipantInfoOrGetErrorEvent role callName partyId partyType partySubType
        participantId := by
  simp only [validateParticipantInfoOrGetErrorEvent, withParticipants, if_neg h]

variable (quiet : agg.Quiet)
include quiet

theorem validateParticipant_of_unknown (h : participants participantId = pure none) (s : σ) :
    ((agg.withParticipants participants).validateParticipantInfoOrGetErrorEvent role callName partyId
        partyType partySubType participantId).run s =
      (.ok (some (participantErrorEvent role
        (if participantId.truthy = true then .notFound else .invalid) partyId partyType partySubType
        participantId)), s) := by
  have hquiet : (agg.withParticipants participants).Quiet := quiet
  simp only [validateParticipantInfoOrGetErrorEvent, run_histo_bind hquiet]
  by_cases hid : participantId.truthy = true
  · have hinfo (callName : String) :
        (do let participant ← (pure none : Proc JsError σ (Option Participant))
            agg.histo (.timerEnd callName true)
            pure participant).run s = (.ok none, s) := by
      rw [Proc.run_bind_ok (Proc.run_pure _ _), run_histo_bind quiet, Proc.run_pure]
    simp only [if_pos hid, withParticipants, h, run_histo_bind quiet, Proc.run_attempt_bind, hinfo,
      Proc.run_pure]
  · simp only [if_neg hid, run_histo_bind hquiet, Proc.run_pure]

end Checks

section Handlers

variable {callName : String} {partyId partyType partySubType requesterFspId currency : Js.Str}
  {resolveDestination : Proc JsError σ (Except DomainEvent Js.Str)} {answer : Js.Str → DomainEvent}
  {change : OracleAdapter → Proc JsError σ Unit} {failure success : DomainEvent}
  (quiet : agg.Quiet)
include quiet

theorem relay_of_unknown (h : participants requesterFspId = pure none) (s : σ) :
    ∃ event, event.msgName.isSuccess = false ∧
      ((agg.withParticipants participants).relay callName partyId partyType partySubType
        requesterFspId resolveDestination answer).run s = (.ok event, s) := by
  have hquiet : (agg.withParticipants participants).Quiet := quiet
  simp only [relay, validateRequesterParticipantInfoOrGetErrorEvent, run_histo_bind hquiet,
    Proc.run_bind_ok (validateParticipant_of_unknown quiet h s)]
  exact ⟨_, rfl, rfl⟩

theorem changeAssociation_of_unknown (h : participants requesterFspId = pure none) (s : σ) :
    ∃ event, event.msgName.isSuccess = false ∧
      ((agg.withParticipants participants).changeAssociation callName partyId partyType partySubType
        requesterFspId currency change failure success).run s = (.ok event, s) := by
  have hquiet : (agg.withParticipants participants).Quiet := quiet
  simp only [changeAssociation, validateRequesterParticipantInfoOrGetErrorEvent,
    run_histo_bind hquiet, Proc.run_bind_ok (validateParticipant_of_unknown quiet h s)]
  exact ⟨_, rfl, rfl⟩

omit quiet in
theorem changeAssociation_of_same
    (h : participants requesterFspId = agg.getParticipantInfo requesterFspId) :
    (agg.withParticipants participants).changeAssociation callName partyId partyType partySubType
        requesterFspId currency change failure success =
      agg.changeAssociation callName partyId partyType partySubType requesterFspId currency change
        failure success := by
  simp only [changeAssociation, validateRequesterParticipantInfoOrGetErrorEvent,
    validateParticipant_of_same h]
  rfl

/-- A relay for a requester that is known as before differs where its destination is not known: it ends
there, after the same search. -/
theorem relay_of_same (reads : agg.ReadsOnly)
    (h : participants requesterFspId = agg.getParticipantInfo requesterFspId)
    (hasks : ∀ fspId, participants fspId = agg.getParticipantInfo fspId ∨
      participants fspId = pure none) (s : σ) :
    let relayed (agg : Aggregate σ) := (agg.relay callName partyId partyType partySubType
      requesterFspId resolveDestination answer).run s
    RepliesAlike (relayed (agg.withParticipants participants)).1 (relayed agg).1 ∧
      (relayed (agg.withParticipants participants)).2 = (relayed agg).2 := by
  have hquiet : (agg.withParticipants participants).Quiet := quiet
  obtain ⟨requesterError, hrequester⟩ := validateParticipant_state reads quiet .requester
    "validateRequesterParticipantInfoOrGetErrorEvent" partyId partyType partySubType requesterFspId s
  simp only [relay, validateRequesterParticipantInfoOrGetErrorEvent,
    validateDestinationParticipantInfoOrGetErrorEvent, validateParticipant_of_same h,
    run_histo_bind quiet, run_histo_bind hquiet, Proc.run_bind_ok hrequester]
  cases requesterError with
  | some event => exact ⟨.inl rfl, rfl⟩
  | none =>
    dsimp only
    rw [Proc.run_bind, Proc.run_bind]
    rcases resolveDestination.run s with ⟨error | event | destinationFspId, t⟩
    · exact ⟨.inl rfl, rfl⟩
    · exact ⟨.inl rfl, rfl⟩
    · dsimp only
      by_cases htruthy : destinationFspId.truthy = true
      · rcases hasks destinationFspId with hsame | hunknown
        · rw [validateParticipant_of_same hsame]
          exact ⟨.inl rfl, rfl⟩
        · obtain ⟨destinationError, hdestination⟩ := validateParticipant_state reads quiet .destination
            "validateDestinationParticipantInfoOrGetErrorEvent" partyId partyType partySubType
            destinationFspId t
          rw [Proc.run_bind_ok (validateParticipant_of_unknown quiet hunknown t), if_pos htruthy,
            Proc.run_bind_ok hdestination]
          cases destinationError <;>
            simp only [run_histo_bind quiet, run_histo_bind hquiet, Proc.run_pure] <;>
            exact ⟨.inr ⟨_, rfl, rfl⟩, trivial⟩
      · rw [validateParticipant_of_falsy htruthy]
        exact ⟨.inl rfl, rfl⟩

end Handlers

section Messages

variable {message : Message} (quiet : agg.Quiet)
include quiet

theorem dispatch_of_unknown (h : participants message.checkedFspId = pure none) (s : σ) :
    ∃ event, event.msgName.isSuccess = false ∧
      ((agg.withParticipants participants).dispatch message).run s = (.ok event, s) := by
  unfold Message.checkedFspId at h
  unfold dispatch
  cases hname : message.msgName <;> rw [hname] at h
  case partyQueryReceivedEvt => exact relay_of_unknown quiet h s
  case partyInfoAvailableEvt => exact relay_of_unknown quiet h s
  case participantQueryReceivedEvt => exact relay_of_unknown quiet h s
  case participantAssociationRequestReceivedEvt => exact changeAssociation_of_unknown quiet h s
  case participantDisassociateRequestReceivedEvt => exact changeAssociation_of_unknown quiet h s
  case partyRejectedEvt => exact relay_of_unknown quiet h s
  case participantRejectedEvt => exact relay_of_unknown quiet h s
  case other => exact ⟨_, rfl, rfl⟩

/-- A message whose sender is not known is answered with an error event and changes nothing. -/
theorem handleEvent_of_unknown (h : participants message.checkedFspId = pure none) (s : σ) :
    ∃ event, event.msgName.isSuccess = false ∧
      ((agg.withParticipants participants).handleEvent message).run s = (.ok event, s) := by
  cases hvalidate : validateMessageOrGetErrorEvent message with
  | some event =>
    have hevent := validateMessage_isError hvalidate
    unfold handleEvent
    rw [hvalidate]
    refine ⟨_, ?_, rfl⟩
    exact hevent
  | none =>
    obtain ⟨event, hevent, hrun⟩ := dispatch_of_unknown quiet h s
    exact ⟨event, hevent, handleEvent_of_dispatch _ hvalidate hrun⟩

variable (reads : agg.ReadsOnly)
  (h : participants message.checkedFspId = agg.getParticipantInfo message.checkedFspId)
  (hasks : ∀ fspId, participants fspId = agg.getParticipantInfo fspId ∨
    participants fspId = pure none)
include reads h hasks

theorem dispatch_of_same (s : σ) :
    RepliesAlike (((agg.withParticipants participants).dispatch message).run s).1
        ((agg.dispatch message).run s).1 ∧
      (((agg.withParticipants participants).dispatch message).run s).2 =
        ((agg.dispatch message).run s).2 := by
  unfold Message.checkedFspId at h
  unfold dispatch
  cases hname : message.msgName <;> rw [hname] at h <;> dsimp only at h ⊢
  case partyQueryReceivedEvt => exact relay_of_same quiet reads h hasks s
  case partyInfoAvailableEvt => exact relay_of_same quiet reads h hasks s
  case participantQueryReceivedEvt => exact relay_of_same quiet reads h hasks s
  case participantAssociationRequestReceivedEvt =>
    unfold handleParticipantAssociationRequestReceivedEvt
    rw [changeAssociation_of_same h]
    exact ⟨.inl rfl, rfl⟩
  case participantDisassociateRequestReceivedEvt =>
    unfold handleParticipantDisassociateRequestReceivedEvt
    rw [changeAssociation_of_same h]
    exact ⟨.inl rfl, rfl⟩
  case partyRejectedEvt => exact relay_of_same quiet reads h hasks s
  case participantRejectedEvt => exact relay_of_same quiet reads h hasks s
  case other => exact ⟨.inl rfl, rfl⟩

/-- A message whose sender is known as before changes what it changed, and is answered as it was, or that
its destination is not found. -/
theorem handleEvent_of_same (s : σ) :
    RepliesAlike (((agg.withParticipants participants).handleEvent message).run s).1
        ((agg.handleEvent message).run s).1 ∧
      (((agg.withParticipants participants).handleEvent message).run s).2 =
        ((agg.handleEvent message).run s).2 := by
  obtain ⟨halike, hstate⟩ := dispatch_of_same quiet reads h hasks s
  unfold handleEvent
  cases validateMessageOrGetErrorEvent message with
  | some event => exact ⟨.inl rfl, rfl⟩
  | none =>
    dsimp only
    rw [Proc.run_attempt_bind, Proc.run_attempt_bind]
    rcases hrun : (agg.dispatch message).run s with ⟨reply, t⟩
    rcases hrun' : ((agg.withParticipants participants).dispatch message).run s with ⟨reply', t'⟩
    rw [hrun, hrun'] at halike hstate
    dsimp only at halike hstate
    rw [hstate]
    rcases halike with rfl | ⟨event, rfl, hevent⟩
    · exact ⟨.inl rfl, rfl⟩
    · refine ⟨.inr ⟨event, rfl, hevent⟩, ?_⟩
      cases reply <;> rfl

end Messages

end Aggregate

/-- The client while requests for some FSPs fail. -/
def ParticipantsHttpClient.failing (client : ParticipantsHttpClient)
    (failure : Js.Str → Option JsError) : ParticipantsHttpClient where
  getParticipantById fspId :=
    match failure fspId with
    | some error => .error error
    | none => client.getParticipantById fspId

/-- A message that is delivered to the service, whose requests for some FSPs fail in its handling. -/
structure Outage where
  step : Handled
  client : ParticipantsHttpClient
  failure : Js.Str → Option JsError

namespace Outage

/-- The reply to the message of a service that asks the client for its participants. -/
def replyWith (client : ParticipantsHttpClient) (w : World) (step : Handled) :
    Except JsError DomainEvent × World :=
  ((System.aggregate (step.env.asking client)).handleEvent step.message).run w

/-- The reply during the outage. -/
def reply (w : World) (o : Outage) : Except JsError DomainEvent × World :=
  replyWith (o.client.failing o.failure) w o.step

/-- The reply without the outage. -/
def fullReply (w : World) (o : Outage) : Except JsError DomainEvent × World :=
  replyWith o.client w o.step

/-- The participant service does not answer for the FSP that the message is from. -/
def isLost (o : Outage) : Bool := (o.failure o.step.message.checkedFspId).isSome

theorem getParticipantInfo_failing (client : ParticipantsHttpClient)
    (failure : Js.Str → Option JsError) (fspId : Js.Str) :
    ParticipantAdapter.getParticipantInfo (client.failing failure) fspId =
      if (failure fspId).isSome then .ok none
      else ParticipantAdapter.getParticipantInfo client fspId := by
  unfold ParticipantAdapter.getParticipantInfo ParticipantsHttpClient.failing
  dsimp only
  cases failure fspId <;> rfl

/-- The participants of the service during an outage. -/
def participants (env : Environment) (client : ParticipantsHttpClient)
    (failure : Js.Str → Option JsError) (fspId : Js.Str) : Proc JsError World (Option Participant) :=
  if (failure fspId).isSome then pure none
  else (System.aggregate (env.asking client)).getParticipantInfo fspId

theorem aggregate_failing (env : Environment) (client : ParticipantsHttpClient)
    (failure : Js.Str → Option JsError) :
    System.aggregate (env.asking (client.failing failure)) =
      (System.aggregate (env.asking client)).withParticipants (participants env client failure) := by
  unfold System.aggregate Aggregate.withParticipants Environment.asking
  dsimp only
  congr 1
  funext fspId
  rw [getParticipantInfo_failing]
  unfold participants
  split <;> rfl

/-- The handling of messages in an outage loses those of the FSPs that it concerns. -/
theorem loses : Runs.Loses reply fullReply isLost Refuses RepliesAlike where
  lost w o hlost := by
    have quiet := System.aggregate_quiet (o.step.env.asking o.client)
    unfold reply replyWith
    rw [aggregate_failing]
    have hunknown : participants o.step.env o.client o.failure o.step.message.checkedFspId =
        pure none := if_pos hlost
    obtain ⟨event, hevent, hrun⟩ := Aggregate.handleEvent_of_unknown quiet hunknown w
    rw [hrun]
    exact ⟨⟨event, rfl, hevent⟩, rfl⟩
  kept w o hkept := by
    have quiet := System.aggregate_quiet (o.step.env.asking o.client)
    have reads := System.aggregate_reads (o.step.env.asking o.client)
    unfold reply fullReply replyWith
    rw [aggregate_failing]
    refine Aggregate.handleEvent_of_same quiet reads (if_neg (Bool.not_eq_true _ ▸ hkept)) ?_ w
    intro fspId
    unfold participants
    split_ifs
    · exact .inr rfl
    · exact .inl rfl

/-- While the participant service fails for some FSPs, in each message for others, their messages are
refused and the service is left as if they had not been sent. Every other message is answered as without
the outage, or that its destination is not found. -/
theorem outages_lose_messages (w : World) (outages : List Outage) :
    let kept := outages.filter (!isLost ·)
    let (replies, w') := Runs.answers reply w outages
    let (fullReplies, w'') := Runs.answers fullReply w kept
    w' = w'' ∧
      List.Forall₂ (fun entry fullReply => RepliesAlike entry.2 fullReply)
        ((outages.zip replies).filter (!isLost ·.1)) fullReplies ∧
      ∀ entry ∈ outages.zip replies, isLost entry.1 = true → Refuses entry.2 := by
  obtain ⟨halike, hend⟩ := loses.answers_kept w outages
  exact ⟨hend, halike, loses.refused w outages⟩

end Outage

end AccountLookup
