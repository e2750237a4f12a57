import AccountLookup.Async.Triple
import AccountLookup.Handling.Changes

/-! Messages that ask for no change: handling one makes at most one lookup through a selected adapter,
and a participant query is answered with what its lookup returns. -/

namespace AccountLookup

open Async

variable {σ : Type}

namespace Aggregate

variable (agg : Aggregate σ)

/-- `t` is `s` after no lookup, or after one through the adapter that is selected for it. -/
def Looks (s t : σ) : Prop :=
  t = s ∨ ∃ partyType partyId partySubType currency adapter,
    agg.Selects partyType currency adapter s s ∧
      t = ((agg.oracleProvider.getParticipantFspId adapter partyType partyId partySubType
        currency).run s).2

section ReadsOnly

variable {agg} (reads : agg.ReadsOnly) (quiet : agg.Quiet)
include reads quiet

omit reads in
theorem getParticipantIdFromOracle_state {partyType currency : Js.Str} {adapter : OracleAdapter}
    {s : σ} (h : agg.Selects partyType currency adapter s s) (partyId partySubType : Js.Str) :
    ((agg.getParticipantIdFromOracle partyId partyType partySubType currency).run s).2 =
      ((agg.oracleProvider.getParticipantFspId adapter partyType partyId partySubType
        currency).run s).2 := by
  have hadapter := (getOracleAdapter_eq_ok quiet).mpr h
  simp only [getParticipantIdFromOracle, run_histo_bind quiet, Proc.run_bind_ok hadapter,
    Proc.run_attempt_bind]
  rcases (agg.oracleProvider.getParticipantFspId adapter partyType partyId partySubType
    currency).run s with ⟨error | fspId, t⟩
  · simp only [run_histo_bind quiet, Proc.run_reject]
  · dsimp only
    split_ifs <;> simp only [run_histo_bind quiet, Proc.run_pure, Proc.run_reject]

theorem getParticipantIdFromOracle_looks (partyId partyType partySubType currency : Js.Str)
    (s : σ) :
    agg.Looks s
      ((agg.getParticipantIdFromOracle partyId partyType partySubType currency).run s).2 := by
  have hstate := getOracleAdapter_state reads quiet partyType currency s
  rcases hadapter : (agg.getOracleAdapter partyType currency).run s with ⟨error | adapter, t⟩ <;>
    rw [hadapter] at hstate <;> simp only at hstate <;> rw [hstate] at hadapter
  · left
    simp only [getParticipantIdFromOracle, run_histo_bind quiet, Proc.run_bind_error hadapter]
  · right
    have hselects := (getOracleAdapter_eq_ok quiet).mp hadapter
    exact ⟨partyType, partyId, partySubType, currency, adapter, hselects,
      getParticipantIdFromOracle_state quiet hselects partyId partySubType⟩

omit reads quiet in
theorem participantIdFromOracleOrErrorEvent_state (partyId partyType partySubType currency : Js.Str)
    (s : σ) :
    ((agg.participantIdFromOracleOrErrorEvent partyId partyType partySubType currency).run s).2 =
      ((agg.getParticipantIdFromOracle partyId partyType partySubType currency).run s).2 := by
  simp only [participantIdFromOracleOrErrorEvent, Proc.run_attempt_bind]
  rcases (agg.getParticipantIdFromOracle partyId partyType partySubType currency).run s with
    ⟨error | fspId, t⟩ <;> rfl

/-- A relay leaves what its search for the destination leaves, which is made when the requester
passes. -/
theorem relay_state {callName : String} {partyId partyType partySubType requesterFspId : Js.Str}
    {resolveDestination : Proc JsError σ (Except DomainEvent Js.Str)}
    {answer : Js.Str → DomainEvent} (hresolves : resolveDestination.NeverRejects) (s : σ) :
    ((agg.relay callName partyId partyType partySubType requesterFspId resolveDestination
        answer).run s).2 = (resolveDestination.run s).2 ∨
      ((agg.relay callName partyId partyType partySubType requesterFspId resolveDestination
        answer).run s).2 = s ∧ ¬agg.Approves requesterFspId s s := by
  obtain ⟨requesterError, hrequester⟩ := validateParticipant_state reads quiet .requester
    "validateRequesterParticipantInfoOrGetErrorEvent" partyId partyType partySubType requesterFspId s
  simp only [relay, validateRequesterParticipantInfoOrGetErrorEvent,
    validateDestinationParticipantInfoOrGetErrorEvent, run_histo_bind quiet,
    Proc.run_bind_ok hrequester]
  cases requesterError with
  | some e =>
    right
    refine ⟨by simp only [run_histo_bind quiet, Proc.run_pure], ?_⟩
    intro happroves
    rw [(validateParticipant_eq_none quiet).mpr happroves] at hrequester
    cases hrequester
  | none =>
    left
    obtain ⟨destination, t, hdestination⟩ := hresolves s
    rw [hdestination]
    simp only [Proc.run_bind_ok hdestination]
    cases destination with
    | error e => simp only [run_histo_bind quiet, Proc.run_pure]
    | ok destinationFspId =>
      obtain ⟨destinationError, hcheck⟩ := validateParticipant_state reads quiet .destination
        "validateDestinationParticipantInfoOrGetErrorEvent" partyId partyType partySubType
        destinationFspId t
      simp only [Proc.run_bind_ok hcheck]
      cases destinationError <;> simp only [run_histo_bind quiet, Proc.run_pure]

omit reads quiet in
theorem participantIdFromOracleOrErrorEvent_neverRejects
    (partyId partyType partySubType currency : Js.Str) :
    (agg.participantIdFromOracleOrErrorEvent partyId partyType partySubType
      currency).NeverRejects := by
  apply (Proc.NeverRejects.attempt _).bind
  intro outcome
  cases outcome <;> exact .pure _

theorem relay_looks {callName : String} {partyId partyType partySubType requesterFspId : Js.Str}
    {resolveDestination : Proc JsError σ (Except DomainEvent Js.Str)}
    {answer : Js.Str → DomainEvent} (hresolves : resolveDestination.NeverRejects) {s : σ}
    (hlooks : agg.Looks s (resolveDestination.run s).2) :
    agg.Looks s ((agg.relay callName partyId partyType partySubType requesterFspId
      resolveDestination answer).run s).2 := by
  rcases relay_state reads quiet hresolves s with hstate | ⟨hstate, -⟩ <;> rw [hstate]
  · exact hlooks
  · exact .inl rfl

theorem dispatch_looks {message : Message} (hname : message.msgName.asksForChange = false) (s : σ) :
    agg.Looks s ((agg.dispatch message).run s).2 := by
  have lookup (partyId partyType partySubType currency : Js.Str) :
      agg.Looks s ((agg.participantIdFromOracleOrErrorEvent partyId partyType partySubType
        currency).run s).2 := by
    rw [participantIdFromOracleOrErrorEvent_state]
    exact getParticipantIdFromOracle_looks reads quiet partyId partyType partySubType currency s
  unfold dispatch
  split
  next =>
    refine relay_looks reads quiet ?_ ?_ <;> split_ifs
    · exact .pure _
    · exact participantIdFromOracleOrErrorEvent_neverRejects _ _ _ _
    · exact .inl rfl
    · exact lookup ..
  next => exact relay_looks reads quiet (.pure _) (.inl rfl)
  next =>
    exact relay_looks reads quiet (participantIdFromOracleOrErrorEvent_neverRejects _ _ _ _)
      (lookup ..)
  next h =>
    rw [h] at hname
    cases hname
  next h =>
    rw [h] at hname
    cases hname
  next => exact relay_looks reads quiet (.pure _) (.inl rfl)
  next => exact relay_looks reads quiet (.pure _) (.inl rfl)
  next => exact .inl rfl

/-- The handling of a message that asks for no change makes at most one lookup. -/
theorem handleEvent_looks {message : Message} (hname : message.msgName.asksForChange = false)
    (s : σ) : agg.Looks s ((agg.handleEvent message).run s).2 := by
  unfold handleEvent
  split
  next => exact .inl rfl
  next =>
    have hlooks := dispatch_looks reads quiet hname s
    rw [Proc.run_attempt_bind]
    rcases hrun : (agg.dispatch message).run s with ⟨error | event, t⟩ <;> rw [hrun] at hlooks <;>
      exact hlooks

theorem getAccountLookUp_looks (partyId partyType partySubType currency : Js.Str) (s : σ) :
    agg.Looks s ((agg.getAccountLookUp partyId partyType partySubType currency).run s).2 := by
  have hlooks :=
    getParticipantIdFromOracle_looks reads quiet partyId partyType partySubType currency s
  simp only [getAccountLookUp, Proc.run_attempt_bind]
  rcases hrun : (agg.getParticipantIdFromOracle partyId partyType partySubType currency).run s with
    ⟨error | fspId, t⟩ <;> rw [hrun] at hlooks
  · dsimp only
    split_ifs <;> exact hlooks
  · exact hlooks

/-! ### Participant queries -/

/-- A well-formed query for the party in the name of `requesterFspId`. -/
structure IsParticipantQuery (query : Message)
    (requesterFspId partyId partyType partySubType currency : Js.Str) : Prop where
  msgName : query.msgName = .participantQueryReceivedEvt
  valid : validateMessageOrGetErrorEvent query = none
  requesterFspId : query.fields.requesterFspId = requesterFspId
  partyId : query.fields.partyId = partyId
  partyType : query.fields.partyType = partyType
  partySubType : query.fields.partySubType = partySubType
  currency : query.fields.currency = currency

variable {query : Message} {requesterFspId partyId partyType partySubType currency : Js.Str}

omit reads in
/-- A query between two participants that pass is answered with the FSP that its lookup returns. -/
theorem participantQuery_answers
    (hquery : IsParticipantQuery query requesterFspId partyId partyType partySubType currency)
    {fspId : Js.Str} {s t u v : σ} (hrequester : agg.Approves requesterFspId s u)
    (hlocates : agg.Locates partyId partyType partySubType currency fspId u v)
    (howner : agg.Approves fspId v t) :
    ∃ event, (agg.handleEvent query).run s = (.ok event, t) ∧
      event.msgName = .participantQueryResponseEvt ∧ event.payload.ownerFspId = fspId := by
  have hresolve := (participantIdFromOracleOrErrorEvent_eq_ok quiet).mpr hlocates
  obtain ⟨hname, hvalid, rfl, rfl, rfl, rfl, rfl⟩ := hquery
  have hdispatch : ∃ event, (agg.dispatch query).run s = (.ok event, t) ∧
      event.msgName = .participantQueryResponseEvt ∧ event.payload.ownerFspId = fspId := by
    unfold dispatch
    rw [hname]
    exact ⟨_, relay_answers quiet hrequester hresolve howner, rfl, rfl⟩
  obtain ⟨event, hrun, hevent⟩ := hdispatch
  exact ⟨event, agg.handleEvent_of_dispatch hvalid hrun, hevent⟩

omit reads in
/-- A query that is answered was made by a participant that passes, and names the FSP that its lookup
returned. -/
theorem locates_of_participantQuery
    (hquery : IsParticipantQuery query requesterFspId partyId partyType partySubType currency)
    {event : DomainEvent} {s t : σ} (hrun : (agg.handleEvent query).run s = (.ok event, t))
    (hevent : event.msgName = .participantQueryResponseEvt) :
    ∃ u v, agg.Approves requesterFspId s u ∧
      agg.Locates partyId partyType partySubType currency event.payload.ownerFspId u v := by
  obtain ⟨hname, hvalid, rfl, rfl, rfl, rfl, rfl⟩ := hquery
  have hdispatch : (agg.dispatch query).run s = (.ok event, t) := by
    unfold handleEvent at hrun
    rw [hvalid, Proc.run_attempt_bind] at hrun
    rcases hcase : (agg.dispatch query).run s with ⟨error | answered, u⟩ <;> rw [hcase] at hrun
    · cases hrun
      cases hevent
    · exact hrun
  unfold dispatch at hdispatch
  rw [hname] at hdispatch
  dsimp only [handleParticipantQueryReceivedEvt] at hdispatch
  have hfail := (agg.participantIdFromOracleOrErrorEvent_yields query.fields.partyId
    query.fields.partyType query.fields.partySubType query.fields.currency).mono
      (Q := fun r => ∀ e, r = .error e → e.msgName.isSuccess = false) fun r h e he => by
        rw [(h e he).1]
        rfl
  have hsuccess : EventName.participantQueryResponseEvt.isSuccess = true := rfl
  have hrelays := (relay_success_iff quiet hsuccess
    (fun _ _ _ => participantIdFromOracleOrErrorEvent_eq_ok quiet) hfail fun _ => rfl).mp
      ⟨event, hdispatch, hevent⟩
  obtain ⟨fspId, u, v, hrequester, hlocates, howner⟩ := hrelays
  have hresolve := (participantIdFromOracleOrErrorEvent_eq_ok quiet).mpr hlocates
  have hanswer := (relay_answers quiet hrequester hresolve howner).symm.trans hdispatch
  cases hanswer
  exact ⟨u, v, hrequester, hlocates⟩

/-- What a query leaves, when its requester passes, is what the selected adapter leaves. -/
theorem participantQuery_state
    (hquery : IsParticipantQuery query requesterFspId partyId partyType partySubType currency)
    {adapter : OracleAdapter} {s : σ} (hrequester : agg.Approves requesterFspId s s)
    (hselects : agg.Selects partyType currency adapter s s) :
    ((agg.handleEvent query).run s).2 =
      ((agg.oracleProvider.getParticipantFspId adapter partyType partyId partySubType
        currency).run s).2 := by
  obtain ⟨hname, hvalid, rfl, rfl, rfl, rfl, rfl⟩ := hquery
  have hstate : ((agg.dispatch query).run s).2 =
      ((agg.oracleProvider.getParticipantFspId adapter query.fields.partyType query.fields.partyId
        query.fields.partySubType query.fields.currency).run s).2 := by
    unfold dispatch
    rw [hname, ← getParticipantIdFromOracle_state quiet hselects query.fields.partyId
      query.fields.partySubType, ← participantIdFromOracleOrErrorEvent_state]
    rcases relay_state reads quiet (participantIdFromOracleOrErrorEvent_neverRejects _ _ _ _) s with
      h | ⟨-, hnot⟩
    · exact h
    · exact absurd hrequester hnot
  unfold handleEvent
  rw [hvalid, Proc.run_attempt_bind]
  rcases hrun : (agg.dispatch query).run s with ⟨error | event, t⟩ <;> rw [hrun] at hstate <;>
    exact hstate

end ReadsOnly

end Aggregate

end AccountLookup
