import AccountLookup.Async.Triple
import AccountLookup.Handling.Acceptance

/-! Every message is answered: `handleEvent` never rejects, and the event that it returns is about
the party of the message. -/

namespace AccountLookup

open Async

variable {σ : Type}

/-- The event names the party of the message, where an absent field and `null` are the same. -/
structure Concerns (message : Message) (event : DomainEvent) : Prop where
  partyId : event.payload.partyId.orNull = message.fields.partyId.orNull
  partyType : event.payload.partyType.orNull = message.fields.partyType.orNull

namespace Aggregate

variable (agg : Aggregate σ) (message : Message)

theorem participantErrorEvent_concerns {role : ParticipantRole} {fault : ParticipantFault}
    {partyId partyType partySubType participantId : Js.Str}
    (hid : partyId.orNull = message.fields.partyId.orNull)
    (htype : partyType.orNull = message.fields.partyType.orNull) :
    Concerns message
      (participantErrorEvent role fault partyId partyType partySubType participantId) :=
  ⟨hid, htype⟩

theorem invalidMessageEvent_concerns (msgName : EventName) (errorCode : String) :
    Concerns message (invalidMessageEvent msgName errorCode message.fields) :=
  ⟨Js.Field.orNull_orNull _, Js.Field.orNull_orNull _⟩

theorem participantIdFromOracleOrErrorEvent_concerns
    {partyId partyType partySubType currency : Js.Str}
    (hid : partyId.orNull = message.fields.partyId.orNull)
    (htype : partyType.orNull = message.fields.partyType.orNull) :
    (agg.participantIdFromOracleOrErrorEvent partyId partyType partySubType currency).Yields
      fun r => ∀ e, r = .error e → Concerns message e := by
  refine (agg.participantIdFromOracleOrErrorEvent_yields ..).mono fun r h e he => ?_
  obtain ⟨-, heId, heType⟩ := h e he
  exact ⟨heId ▸ hid, heType ▸ htype⟩

theorem dispatch_concerns : (agg.dispatch message).Yields (Concerns message) := by
  have hid := Js.Field.orNull_orNull message.fields.partyId
  have htype := Js.Field.orNull_orNull message.fields.partyType
  unfold dispatch
  split
  · refine agg.relay_yields (fun _ _ _ => participantErrorEvent_concerns _ hid htype) ?_
      fun _ => ⟨rfl, rfl⟩
    split_ifs
    · exact .pure fun e he => nomatch he
    · exact agg.participantIdFromOracleOrErrorEvent_concerns _ hid htype
  · exact agg.relay_yields (fun _ _ _ => participantErrorEvent_concerns _ hid htype)
      (.pure fun e he => nomatch he) fun _ => ⟨rfl, rfl⟩
  · exact agg.relay_yields (fun _ _ _ => participantErrorEvent_concerns _ rfl rfl)
      (agg.participantIdFromOracleOrErrorEvent_concerns _ rfl rfl) fun _ => ⟨rfl, rfl⟩
  · exact agg.changeAssociation_yields (fun _ _ _ => participantErrorEvent_concerns _ rfl rfl)
      ⟨rfl, rfl⟩ ⟨rfl, rfl⟩ ⟨rfl, rfl⟩
  · exact agg.changeAssociation_yields (fun _ _ _ => participantErrorEvent_concerns _ hid htype)
      ⟨hid, htype⟩ ⟨hid, htype⟩ ⟨rfl, rfl⟩
  · exact agg.relay_yields (fun _ _ _ => participantErrorEvent_concerns _ hid htype)
      (.pure fun e he => nomatch he) fun _ => ⟨rfl, rfl⟩
  · exact agg.relay_yields (fun _ _ _ => participantErrorEvent_concerns _ hid htype)
      (.pure fun e he => nomatch he) fun _ => ⟨rfl, rfl⟩
  · exact .pure (invalidMessageEvent_concerns _ _ _)

theorem handleEvent_concerns : (agg.handleEvent message).Yields (Concerns message) := by
  unfold handleEvent validateMessageOrGetErrorEvent
  have invalid (msgName : EventName) (errorCode : String) :
      Concerns message
        { invalidMessageEvent msgName errorCode message.fields with
          inboundProtocolType := message.inboundProtocolType
          inboundProtocolOpaqueState := message.inboundProtocolOpaqueState } :=
    ⟨Js.Field.orNull_orNull _, Js.Field.orNull_orNull _⟩
  split_ifs
  · exact .pure (invalid _ _)
  · exact .pure (invalid _ _)
  · apply (agg.dispatch_concerns message).attempt.bind
    intro outcome houtcome
    match outcome, houtcome with
    | .ok event, houtcome => exact .pure (houtcome event rfl)
    | .error _, _ => exact .pure ⟨Js.Field.orNull_orNull _, Js.Field.orNull_orNull _⟩

/-- Whatever a handler throws is caught. -/
theorem handleEvent_neverRejects : (agg.handleEvent message).NeverRejects := by
  unfold handleEvent
  split
  · exact .pure _
  · apply (Proc.NeverRejects.attempt _).bind
    intro outcome
    match outcome with
    | .ok event => exact .pure event
    | .error _ => exact .pure _

end Aggregate

end AccountLookup
