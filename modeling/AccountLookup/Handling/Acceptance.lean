import AccountLookup.Model.Aggregate
import Mathlib.Tactic.SplitIfs

/-! Which messages `handleEvent` answers with an event that is not an error: the checks of each kind
of message, stated on what the services return, and the theorem that they decide the answer. -/

namespace AccountLookup

open Async

variable {σ : Type}

namespace Aggregate

variable (agg : Aggregate σ)

/-- No call on the histogram throws or changes the state. -/
def Quiet : Prop := ∀ call s, (agg.histo call).run s = (.ok (), s)

/-! ### The checks -/

/-- In state `s`, `fspId` is not empty and the participant service returns for it an approved and
active participant of that id, leaving state `t`. -/
def Approves (fspId : Js.Str) (s t : σ) : Prop :=
  fspId.truthy = true ∧ ∃ participant,
    (agg.getParticipantInfo fspId).run s = (.ok (some participant), t) ∧
    participant.id = fspId ∧ participant.approved = true ∧ participant.isActive = true

/-- In state `s`, the finder returns an oracle for the party type and currency, and `adapter` is the
first listed adapter of that oracle. -/
def Selects (partyType currency : Js.Str) (adapter : OracleAdapter) (s t : σ) : Prop :=
  ∃ oracle, (agg.oracleFinder.getOracle partyType currency).run s = (.ok (some oracle), t) ∧
    (agg.oracleProvidersAdapters.get t).find? (fun a => a.oracleId.strictEq oracle.id) =
      some adapter

/-- In state `s`, the adapter that is selected for the party returns the non-empty `fspId`. -/
def Locates (partyId partyType partySubType currency fspId : Js.Str) (s t : σ) : Prop :=
  ∃ adapter u, agg.Selects partyType currency adapter s u ∧
    (agg.oracleProvider.getParticipantFspId adapter partyType partyId partySubType currency).run u =
      (.ok fspId, t) ∧ fspId.truthy = true

/-- In state `s`, the adapter that is selected for the party makes the change. -/
def Changes (partyType currency : Js.Str) (change : OracleAdapter → Proc JsError σ Unit)
    (s t : σ) : Prop :=
  ∃ adapter u, agg.Selects partyType currency adapter s u ∧ (change adapter).run u = (.ok (), t)

/-- The requester passes, then the destination that `finds` relates to the states around it. -/
def Relays (requesterFspId : Js.Str) (finds : Js.Str → σ → σ → Prop) (s t : σ) : Prop :=
  ∃ destinationFspId u v, agg.Approves requesterFspId s u ∧ finds destinationFspId u v ∧
    agg.Approves destinationFspId v t

/-- Every check on a message of its kind passes, from state `s` to state `t`. -/
def Accepts (message : Message) (s t : σ) : Prop :=
  let p := message.fields
  match message.msgName with
  | .partyQueryReceivedEvt =>
    agg.Relays p.requesterFspId (fun fspId u v =>
      if p.destinationFspId.truthy then fspId = p.destinationFspId ∧ v = u
      else agg.Locates p.partyId.orNull p.partyType.orNull p.partySubType.orNull p.currency.orNull
        fspId u v) s t
  | .participantQueryReceivedEvt =>
    agg.Relays p.requesterFspId
      (agg.Locates p.partyId p.partyType p.partySubType p.currency) s t
  | .partyInfoAvailableEvt | .partyRejectedEvt | .participantRejectedEvt =>
    agg.Relays p.requesterFspId (fun fspId u v => fspId = p.destinationFspId ∧ v = u) s t
  | .participantAssociationRequestReceivedEvt =>
    ∃ u, agg.Approves p.ownerFspId s u ∧
      agg.Changes p.partyType p.currency (fun adapter =>
        agg.oracleProvider.associateParticipant adapter p.ownerFspId p.partyType p.partyId
          p.partySubType p.currency) u t
  | .participantDisassociateRequestReceivedEvt =>
    ∃ u, agg.Approves p.ownerFspId s u ∧
      agg.Changes p.partyType.orNull p.currency.orNull (fun adapter =>
        agg.oracleProvider.disassociateParticipant adapter p.ownerFspId.orNull p.partyType.orNull
          p.partyId.orNull p.partySubType.orNull p.currency.orNull) u t
  | .other _ => False

theorem approves_orNull {fspId : Js.Str} {s t : σ} :
    agg.Approves fspId.orNull s t ↔ agg.Approves fspId s t := by
  simp only [Approves, Js.Field.truthy_orNull]
  refine and_congr_right fun htruthy => ?_
  rw [Js.Field.orNull_eq_of_truthy htruthy]

theorem relays_requester_orNull {requesterFspId : Js.Str} {finds : Js.Str → σ → σ → Prop}
    {s t : σ} : agg.Relays requesterFspId.orNull finds s t ↔ agg.Relays requesterFspId finds s t := by
  simp only [Relays, approves_orNull]

theorem relays_own_orNull {requesterFspId destinationFspId : Js.Str} {s t : σ} :
    agg.Relays requesterFspId (fun d u v => d = destinationFspId.orNull ∧ v = u) s t ↔
      agg.Relays requesterFspId (fun d u v => d = destinationFspId ∧ v = u) s t := by
  constructor
  · intro h
    obtain ⟨_, _, v, hrequester, ⟨rfl, rfl⟩, hdestination⟩ := h
    exact ⟨_, v, v, hrequester, ⟨rfl, rfl⟩, (agg.approves_orNull).mp hdestination⟩
  · intro h
    obtain ⟨_, _, v, hrequester, ⟨rfl, rfl⟩, hdestination⟩ := h
    exact ⟨_, v, v, hrequester, ⟨rfl, rfl⟩, (agg.approves_orNull).mpr hdestination⟩

/-! ### What a check or a selection can answer -/

/-- The only events of a participant check are those of its faults. -/
theorem validateParticipant_yields (role : ParticipantRole) (callName : String)
    (partyId partyType partySubType participantId : Js.Str) :
    (agg.validateParticipantInfoOrGetErrorEvent role callName partyId partyType partySubType
      participantId).Yields fun r => ∀ e, r = some e → ∃ fault,
        e = participantErrorEvent role fault partyId partyType partySubType participantId := by
  have fails (fault : ParticipantFault) :
      (do agg.histo (.timerEnd callName false)
          pure (some (participantErrorEvent role fault partyId partyType partySubType
            participantId)) : Proc JsError σ (Option DomainEvent)).Yields fun r =>
        ∀ e, r = some e → ∃ fault,
          e = participantErrorEvent role fault partyId partyType partySubType participantId :=
    .seq fun _ e he => ⟨fault, (Option.some.inj he).symm⟩
  refine .seq fun _ => ?_
  split
  · refine .seq fun _ => .seq fun outcome => ?_
    match outcome with
    | .error _ => exact .seq fun _ => fails .invalid
    | .ok none => exact fails .notFound
    | .ok (some participant) =>
      dsimp only
      split_ifs
      · exact fails .idMismatch
      · exact fails .notApproved
      · exact fails .notActive
      · exact .seq fun _ e he => nomatch he
  · exact fails .invalid

/-- The only event of a lookup is the one that reports its failure. -/
theorem participantIdFromOracleOrErrorEvent_yields
    (partyId partyType partySubType currency : Js.Str) :
    (agg.participantIdFromOracleOrErrorEvent partyId partyType partySubType currency).Yields
      fun r => ∀ e, r = .error e → e.msgName = .unableToGetParticipantFromOracleErrorEvent ∧
        e.payload.partyId = partyId ∧ e.payload.partyType = partyType := by
  refine .seq fun outcome => ?_
  match outcome with
  | .ok fspId => exact fun e he => nomatch he
  | .error _ => rintro e ⟨⟩; exact ⟨rfl, rfl, rfl⟩

/-- A relay answers with the events of its checks, of its search for the destination, or with its own
answer. -/
theorem relay_yields {callName : String}
    {partyId partyType partySubType requesterFspId : Js.Str}
    {resolveDestination : Proc JsError σ (Except DomainEvent Js.Str)}
    {answer : Js.Str → DomainEvent} {P : DomainEvent → Prop}
    (hparticipant : ∀ role fault participantId,
      P (participantErrorEvent role fault partyId partyType partySubType participantId))
    (hresolve : resolveDestination.Yields fun r => ∀ e, r = .error e → P e)
    (hanswer : ∀ d, P (answer d)) :
    (agg.relay callName partyId partyType partySubType requesterFspId resolveDestination
      answer).Yields P := by
  have fails {e : DomainEvent} (he : P e) :
      (do agg.histo (.timerEnd callName false); pure e : Proc JsError σ DomainEvent).Yields P :=
    .seq fun _ => .pure he
  refine .seq fun _ => (agg.validateParticipant_yields ..).bind fun requesterError hrequester => ?_
  match requesterError, hrequester with
  | some e, hrequester =>
    obtain ⟨fault, rfl⟩ := hrequester e rfl
    exact fails (hparticipant _ _ _)
  | none, _ =>
    apply hresolve.bind
    intro destination hdestination
    match destination, hdestination with
    | .error e, hdestination => exact fails (hdestination e rfl)
    | .ok d, _ =>
      apply (agg.validateParticipant_yields ..).bind
      intro destinationError hcheck
      match destinationError, hcheck with
      | some e, hcheck =>
        obtain ⟨fault, rfl⟩ := hcheck e rfl
        exact fails (hparticipant _ _ _)
      | none, _ => exact .seq fun _ => .pure (hanswer d)

/-- A change of an association is answered with an event of the owner's check, of the selection of
the adapter, with `failure` or with `answer`. -/
theorem changeAssociation_yields {callName : String}
    {partyId partyType partySubType ownerFspId currency : Js.Str}
    {change : OracleAdapter → Proc JsError σ Unit} {failure answer : DomainEvent}
    {P : DomainEvent → Prop}
    (hparticipant : ∀ role fault participantId,
      P (participantErrorEvent role fault partyId partyType partySubType participantId))
    (hadapter : P
      { msgName := .unableToGetOracleAdapterErrorEvent
        payload :=
          { partyId, partyType, currency, errorCode := .val "UNABLE_TO_GET_ORACLE_ADAPTER" } })
    (hfailure : P failure) (hanswer : P answer) :
    (agg.changeAssociation callName partyId partyType partySubType ownerFspId currency change
      failure answer).Yields P := by
  have fails {e : DomainEvent} (he : P e) :
      (do agg.histo (.timerEnd callName false); pure e : Proc JsError σ DomainEvent).Yields P :=
    .seq fun _ => .pure he
  refine .seq fun _ => (agg.validateParticipant_yields ..).bind fun ownerError howner => ?_
  match ownerError, howner with
  | some e, howner =>
    obtain ⟨fault, rfl⟩ := howner e rfl
    exact fails (hparticipant _ _ _)
  | none, _ =>
    refine .seq fun adapter => ?_
    match adapter with
    | .error _ => exact fails hadapter
    | .ok _ =>
      refine .seq fun outcome => ?_
      match outcome with
      | .error _ => exact fails hfailure
      | .ok () => exact .seq fun _ => .pure hanswer

/-- The only event of the `switch` that is not an error is the one that answers the message. -/
theorem dispatch_yields (message : Message) :
    (agg.dispatch message).Yields fun e =>
      e.msgName.isSuccess = true → message.msgName.response = some e.msgName := by
  have lookup (partyId partyType partySubType currency : Js.Str) :
      (agg.participantIdFromOracleOrErrorEvent partyId partyType partySubType currency).Yields
        fun r => ∀ e, r = .error e →
          e.msgName.isSuccess = true → message.msgName.response = some e.msgName :=
    (agg.participantIdFromOracleOrErrorEvent_yields ..).mono fun r h e he hsuccess => by
      rw [(h e he).1] at hsuccess
      cases hsuccess
  unfold dispatch
  split
  next hname =>
    refine agg.relay_yields (fun _ _ _ h => nomatch h) ?_ fun _ _ => by rw [hname]; rfl
    split_ifs
    · exact .pure fun e he => nomatch he
    · exact lookup ..
  next hname =>
    exact agg.relay_yields (fun _ _ _ h => nomatch h) (.pure fun e he => nomatch he)
      fun _ _ => by rw [hname]; rfl
  next hname =>
    exact agg.relay_yields (fun _ _ _ h => nomatch h) (lookup ..) fun _ _ => by rw [hname]; rfl
  next hname =>
    exact agg.changeAssociation_yields (fun _ _ _ h => nomatch h) (fun h => nomatch h)
      (fun h => nomatch h) fun _ => by rw [hname]; rfl
  next hname =>
    exact agg.changeAssociation_yields (fun _ _ _ h => nomatch h) (fun h => nomatch h)
      (fun h => nomatch h) fun _ => by rw [hname]; rfl
  next hname =>
    exact agg.relay_yields (fun _ _ _ h => nomatch h) (.pure fun e he => nomatch he)
      fun _ _ => by rw [hname]; rfl
  next hname =>
    exact agg.relay_yields (fun _ _ _ h => nomatch h) (.pure fun e he => nomatch he)
      fun _ _ => by rw [hname]; rfl
  next => exact .pure fun h => nomatch h

/-! ### The checks decide what the functions return -/

section Quiet

variable {agg} (quiet : agg.Quiet)
include quiet

theorem run_histo_bind {α : Type} (call : HistoCall) (f : Unit → Proc JsError σ α) (s : σ) :
    (agg.histo call >>= f).run s = (f ()).run s :=
  Proc.run_bind_ok (quiet call s)

theorem validateParticipant_eq_none {role : ParticipantRole} {callName : String}
    {partyId partyType partySubType participantId : Js.Str} {s t : σ} :
    (agg.validateParticipantInfoOrGetErrorEvent role callName partyId partyType partySubType
      participantId).run s = (.ok none, t) ↔ agg.Approves participantId s t := by
  simp only [validateParticipantInfoOrGetErrorEvent, Approves, run_histo_bind quiet]
  split
  next hid =>
    simp only [hid, true_and]
    rw [run_histo_bind quiet, Proc.run_attempt_bind, Proc.run_bind]
    rcases (agg.getParticipantInfo participantId).run s with ⟨_ | _ | participant, u⟩
    · simp [run_histo_bind quiet]
    · simp [run_histo_bind quiet]
    · simp only [run_histo_bind quiet, Proc.run_pure]
      split
      next hne => simp [run_histo_bind quiet, hne]
      next heq =>
        simp only [ne_eq, Decidable.not_not] at heq
        cases ha : participant.approved <;> cases hb : participant.isActive <;>
          simp [run_histo_bind quiet, heq, ha, hb, and_assoc]
  next hid => simp [run_histo_bind quiet, hid]

theorem getOracleAdapter_eq_ok {partyType currency : Js.Str} {adapter : OracleAdapter} {s t : σ} :
    (agg.getOracleAdapter partyType currency).run s = (.ok adapter, t) ↔
      agg.Selects partyType currency adapter s t := by
  simp only [getOracleAdapter, Selects, run_histo_bind quiet, Proc.run_attempt_bind]
  rcases (agg.oracleFinder.getOracle partyType currency).run s with ⟨_ | _ | oracle, u⟩
  · simp [run_histo_bind quiet]
  · simp [run_histo_bind quiet]
  · simp only [Proc.run_bind_ok (Proc.run_read _ _)]
    cases hfind : (agg.oracleProvidersAdapters.get u).find?
        fun a => a.oracleId.strictEq oracle.id with
    | none =>
      simp only [run_histo_bind quiet, Proc.run_reject]
      constructor
      · simp
      · intro h
        obtain ⟨_, ⟨⟩, h⟩ := h
        simp [hfind] at h
    | some found =>
      simp only [run_histo_bind quiet, Proc.run_pure]
      constructor
      · intro h
        obtain ⟨⟩ := h
        exact ⟨oracle, rfl, hfind⟩
      · intro h
        obtain ⟨_, ⟨⟩, h⟩ := h
        rw [hfind] at h
        cases h
        rfl

theorem getParticipantIdFromOracle_eq_ok {partyId partyType partySubType currency fspId : Js.Str}
    {s t : σ} :
    (agg.getParticipantIdFromOracle partyId partyType partySubType currency).run s =
      (.ok fspId, t) ↔ agg.Locates partyId partyType partySubType currency fspId s t := by
  simp only [getParticipantIdFromOracle, run_histo_bind quiet, Locates]
  rw [Proc.run_bind_eq_ok]
  simp only [getOracleAdapter_eq_ok quiet]
  refine exists_congr fun adapter => exists_congr fun u => and_congr_right fun _ => ?_
  simp only [Proc.run_attempt_bind]
  rcases (agg.oracleProvider.getParticipantFspId adapter partyType partyId partySubType
    currency).run u with ⟨_ | found, v⟩
  · simp [run_histo_bind quiet]
  · by_cases htruthy : found.truthy = true
    · simp only [htruthy, if_true, run_histo_bind quiet, Proc.run_pure]
      constructor
      · intro h
        obtain ⟨⟩ := h
        exact ⟨rfl, htruthy⟩
      · exact And.left
    · simp only [htruthy]
      constructor
      · simp [run_histo_bind quiet]
      · intro h
        obtain ⟨⟨⟩, h⟩ := h
        exact absurd h htruthy

theorem participantIdFromOracleOrErrorEvent_eq_ok
    {partyId partyType partySubType currency fspId : Js.Str} {s t : σ} :
    (agg.participantIdFromOracleOrErrorEvent partyId partyType partySubType currency).run s =
      (.ok (.ok fspId), t) ↔ agg.Locates partyId partyType partySubType currency fspId s t := by
  rw [← getParticipantIdFromOracle_eq_ok quiet]
  simp only [participantIdFromOracleOrErrorEvent, Proc.run_attempt_bind]
  rcases (agg.getParticipantIdFromOracle partyId partyType partySubType currency).run s with
    ⟨_ | _, u⟩ <;> simp

theorem relay_answers {callName : String}
    {partyId partyType partySubType requesterFspId destinationFspId : Js.Str}
    {resolveDestination : Proc JsError σ (Except DomainEvent Js.Str)}
    {answer : Js.Str → DomainEvent} {s t u v : σ} (hrequester : agg.Approves requesterFspId s u)
    (hresolve : resolveDestination.run u = (.ok (.ok destinationFspId), v))
    (hdestination : agg.Approves destinationFspId v t) :
    (agg.relay callName partyId partyType partySubType requesterFspId resolveDestination
      answer).run s = (.ok (answer destinationFspId), t) := by
  simp only [relay, validateRequesterParticipantInfoOrGetErrorEvent,
    validateDestinationParticipantInfoOrGetErrorEvent, run_histo_bind quiet]
  rw [Proc.run_bind_ok ((validateParticipant_eq_none quiet).mpr hrequester)]
  simp only [Proc.run_bind_ok hresolve,
    Proc.run_bind_ok ((validateParticipant_eq_none quiet).mpr hdestination),
    run_histo_bind quiet, Proc.run_pure]

/-- A relay answers exactly when the requester passes and then the destination that it finds. -/
theorem relay_success_iff {callName : String}
    {partyId partyType partySubType requesterFspId : Js.Str}
    {resolveDestination : Proc JsError σ (Except DomainEvent Js.Str)}
    {finds : Js.Str → σ → σ → Prop} {answer : Js.Str → DomainEvent} {event : EventName}
    (hevent : event.isSuccess = true)
    (hresolve : ∀ d u v, resolveDestination.run u = (.ok (.ok d), v) ↔ finds d u v)
    (hfail : resolveDestination.Yields fun r => ∀ e, r = .error e → e.msgName.isSuccess = false)
    (hanswer : ∀ d, (answer d).msgName = event) {s t : σ} :
    (∃ e, (agg.relay callName partyId partyType partySubType requesterFspId resolveDestination
        answer).run s = (.ok e, t) ∧ e.msgName = event) ↔
      agg.Relays requesterFspId finds s t := by
  constructor
  · intro h
    obtain ⟨e, hrun, he⟩ := h
    simp only [relay, run_histo_bind quiet, validateRequesterParticipantInfoOrGetErrorEvent,
      validateDestinationParticipantInfoOrGetErrorEvent] at hrun
    obtain ⟨requesterError, u, hrequester, hrun⟩ := Proc.run_bind_eq_ok.mp hrun
    cases requesterError with
    | some e' =>
      obtain ⟨fault, rfl⟩ := (agg.validateParticipant_yields ..).run hrequester e' rfl
      simp only [run_histo_bind quiet, Proc.run_pure] at hrun
      cases hrun
      simp [← he, participantErrorEvent, EventName.isSuccess] at hevent
    | none =>
      obtain ⟨destination, v, hdestination, hrun⟩ := Proc.run_bind_eq_ok.mp hrun
      cases destination with
      | error e' =>
        have hfault := hfail.run hdestination e' rfl
        simp only [run_histo_bind quiet, Proc.run_pure] at hrun
        cases hrun
        rw [he, hevent] at hfault
        cases hfault
      | ok d =>
        obtain ⟨destinationError, w, hcheck, hrun⟩ := Proc.run_bind_eq_ok.mp hrun
        cases destinationError with
        | some e' =>
          obtain ⟨fault, rfl⟩ := (agg.validateParticipant_yields ..).run hcheck e' rfl
          simp only [run_histo_bind quiet, Proc.run_pure] at hrun
          cases hrun
          simp [← he, participantErrorEvent, EventName.isSuccess] at hevent
        | none =>
          simp only [run_histo_bind quiet, Proc.run_pure] at hrun
          cases hrun
          exact ⟨d, u, v, (validateParticipant_eq_none quiet).mp hrequester,
            (hresolve d u v).mp hdestination, (validateParticipant_eq_none quiet).mp hcheck⟩
  · intro h
    obtain ⟨d, u, v, hrequester, hfinds, hdestination⟩ := h
    exact ⟨answer d, relay_answers quiet hrequester ((hresolve d u v).mpr hfinds) hdestination,
      hanswer d⟩

/-- A change of an association is answered exactly when the owner passes and the selected adapter
makes the change. -/
theorem changeAssociation_success_iff {callName : String}
    {partyId partyType partySubType ownerFspId currency : Js.Str}
    {change : OracleAdapter → Proc JsError σ Unit} {failure answer : DomainEvent}
    {event : EventName} (hevent : event.isSuccess = true)
    (hfailure : failure.msgName.isSuccess = false) (hanswer : answer.msgName = event) {s t : σ} :
    (∃ e, (agg.changeAssociation callName partyId partyType partySubType ownerFspId currency change
        failure answer).run s = (.ok e, t) ∧ e.msgName = event) ↔
      ∃ u, agg.Approves ownerFspId s u ∧ agg.Changes partyType currency change u t := by
  simp only [changeAssociation, Changes, run_histo_bind quiet,
    validateRequesterParticipantInfoOrGetErrorEvent]
  constructor
  · intro h
    obtain ⟨e, hrun, he⟩ := h
    obtain ⟨ownerError, u, howner, hrun⟩ := Proc.run_bind_eq_ok.mp hrun
    cases ownerError with
    | some e' =>
      obtain ⟨fault, rfl⟩ := (agg.validateParticipant_yields ..).run howner e' rfl
      simp only [run_histo_bind quiet, Proc.run_pure] at hrun
      cases hrun
      simp [← he, participantErrorEvent, EventName.isSuccess] at hevent
    | none =>
      rw [Proc.run_attempt_bind] at hrun
      rcases hadapter : (agg.getOracleAdapter partyType currency).run u with ⟨_ | adapter, v⟩
      · simp only [hadapter, run_histo_bind quiet, Proc.run_pure] at hrun
        cases hrun
        simp [← he, EventName.isSuccess] at hevent
      · simp only [hadapter, Proc.run_attempt_bind] at hrun
        rcases hchange : (change adapter).run v with ⟨_ | _, w⟩
        · simp only [hchange, run_histo_bind quiet, Proc.run_pure] at hrun
          cases hrun
          rw [he, hevent] at hfailure
          cases hfailure
        · simp only [hchange, run_histo_bind quiet, Proc.run_pure] at hrun
          cases hrun
          exact ⟨u, (validateParticipant_eq_none quiet).mp howner, adapter, v,
            (getOracleAdapter_eq_ok quiet).mp hadapter, hchange⟩
  · intro h
    obtain ⟨u, howner, adapter, v, hadapter, hchange⟩ := h
    refine ⟨answer, ?_, hanswer⟩
    rw [Proc.run_bind_ok ((validateParticipant_eq_none quiet).mpr howner)]
    simp only [Proc.run_attempt_bind, (getOracleAdapter_eq_ok quiet).mpr hadapter, hchange,
      run_histo_bind quiet, Proc.run_pure]

theorem handlePartyQuery_success_iff {message : Message} {s t : σ}
    (hname : message.msgName = .partyQueryReceivedEvt) :
    (∃ e, (agg.handlePartyQueryReceivedEvt message).run s = (.ok e, t) ∧
      e.msgName = .partyInfoRequestedEvt) ↔ agg.Accepts message s t := by
  simp only [Accepts, hname, handlePartyQueryReceivedEvt, Js.Field.truthy_orNull]
  rw [← agg.relays_requester_orNull]
  have hevent : EventName.partyInfoRequestedEvt.isSuccess = true := rfl
  refine relay_success_iff quiet hevent (fun d u v => ?_) ?_ fun _ => rfl
  · split_ifs with hown
    · rw [Js.Field.orNull_eq_of_truthy hown, Proc.run_pure]
      simp only [Prod.mk.injEq, Except.ok.injEq, @eq_comm _ _ d, @eq_comm _ u]
    · exact participantIdFromOracleOrErrorEvent_eq_ok quiet
  · split_ifs
    · exact .pure fun e he => nomatch he
    · exact (agg.participantIdFromOracleOrErrorEvent_yields ..).mono fun r h e he => by
        rw [(h e he).1]; rfl

theorem handleParticipantQuery_success_iff {message : Message} {s t : σ}
    (hname : message.msgName = .participantQueryReceivedEvt) :
    (∃ e, (agg.handleParticipantQueryReceivedEvt message).run s = (.ok e, t) ∧
      e.msgName = .participantQueryResponseEvt) ↔ agg.Accepts message s t := by
  simp only [Accepts, hname, handleParticipantQueryReceivedEvt]
  have hevent : EventName.participantQueryResponseEvt.isSuccess = true := rfl
  refine relay_success_iff quiet hevent
    (fun d u v => participantIdFromOracleOrErrorEvent_eq_ok quiet) ?_ fun _ => rfl
  exact (agg.participantIdFromOracleOrErrorEvent_yields ..).mono fun r h e he => by
    rw [(h e he).1]; rfl

/-- The three handlers whose message names its destination. -/
theorem relayToOwn_success_iff {callName : String}
    {partyId partyType partySubType requesterFspId destinationFspId : Js.Str}
    {answer : Js.Str → DomainEvent} {event : EventName} (hevent : event.isSuccess = true)
    (hanswer : ∀ d, (answer d).msgName = event) {s t : σ} :
    (∃ e, (agg.relay callName partyId partyType partySubType requesterFspId.orNull
        (pure (.ok destinationFspId.orNull)) answer).run s = (.ok e, t) ∧ e.msgName = event) ↔
      agg.Relays requesterFspId (fun d u v => d = destinationFspId ∧ v = u) s t := by
  rw [← agg.relays_own_orNull, ← agg.relays_requester_orNull]
  refine relay_success_iff quiet hevent (fun d u v => ?_) (.pure ?_) hanswer
  · rw [Proc.run_pure]
    simp only [Prod.mk.injEq, Except.ok.injEq, @eq_comm _ _ d, @eq_comm _ u]
  · exact fun e he => nomatch he

/-- The `switch` answers a message with the event that belongs to it exactly when all its checks
pass. -/
theorem dispatch_success_iff {message : Message} {event : EventName}
    (hresponse : message.msgName.response = some event) {s t : σ} :
    (∃ e, (agg.dispatch message).run s = (.ok e, t) ∧ e.msgName = event) ↔
      agg.Accepts message s t := by
  cases hname : message.msgName <;> simp only [hname, MessageName.response] at hresponse <;>
    cases hresponse <;> simp only [dispatch, hname]
  case partyQueryReceivedEvt => exact handlePartyQuery_success_iff quiet hname
  case participantQueryReceivedEvt => exact handleParticipantQuery_success_iff quiet hname
  case partyInfoAvailableEvt =>
    simp only [Accepts, hname]
    exact relayToOwn_success_iff quiet rfl fun _ => rfl
  case partyRejectedEvt =>
    simp only [Accepts, hname]
    exact relayToOwn_success_iff quiet rfl fun _ => rfl
  case participantRejectedEvt =>
    simp only [Accepts, hname]
    exact relayToOwn_success_iff quiet rfl fun _ => rfl
  case participantAssociationRequestReceivedEvt =>
    simp only [Accepts, hname]
    exact changeAssociation_success_iff quiet rfl rfl rfl
  case participantDisassociateRequestReceivedEvt =>
    simp only [Accepts, hname]
    apply (changeAssociation_success_iff quiet rfl rfl rfl).trans
    simp only [approves_orNull]

/-- Whatever the participant service, the oracle finder and the adapters return or throw, the answer
to a message is a given event that is not an error exactly when the message has a payload, is a
`DOMAIN_EVENT`, has the name to which the event belongs, and all the checks of its kind pass. -/
theorem handleEvent_success_iff {event : EventName} (hevent : event.isSuccess = true)
    (message : Message) (s t : σ) :
    (∃ e, (agg.handleEvent message).run s = (.ok e, t) ∧ e.msgName = event) ↔
      message.payload.isSome = true ∧ message.msgType = .domainEvent ∧
        message.msgName.response = some event ∧ agg.Accepts message s t := by
  unfold handleEvent validateMessageOrGetErrorEvent
  have notSuccess {e : DomainEvent} (he : e.msgName.isSuccess = false) : ¬e.msgName = event := by
    rintro rfl
    rw [hevent] at he
    cases he
  by_cases hpayload : message.payload.isNone = true
  · simp only [hpayload, if_true, Proc.run_pure]
    constructor
    · intro h
      obtain ⟨_, ⟨⟩, he⟩ := h
      exact absurd he (notSuccess rfl)
    · intro h
      obtain ⟨hsome, -⟩ := h
      simp [Option.isNone_iff_eq_none.mp hpayload] at hsome
  by_cases htype : message.msgType = .domainEvent
  · have hsome : message.payload.isSome = true := by
      simpa [Option.isSome_iff_ne_none] using hpayload
    simp only [hpayload, htype, hsome, true_and, Bool.false_eq_true, if_false, ne_eq,
      not_true_eq_false, Proc.run_attempt_bind]
    constructor
    · intro h
      obtain ⟨e, hrun, rfl⟩ := h
      rcases hdispatch : (agg.dispatch message).run s with ⟨_ | e', u⟩
      · rw [hdispatch] at hrun
        cases hrun
        cases hevent
      · rw [hdispatch] at hrun
        cases hrun
        have hresponse := (agg.dispatch_yields message).run hdispatch hevent
        exact ⟨hresponse, (dispatch_success_iff quiet hresponse).mp ⟨e, hdispatch, rfl⟩⟩
    · intro h
      obtain ⟨hresponse, haccepts⟩ := h
      obtain ⟨e, hdispatch, he⟩ := (dispatch_success_iff quiet hresponse).mpr haccepts
      exact ⟨e, by rw [hdispatch]; rfl, he⟩
  · simp only [hpayload, htype, Bool.false_eq_true, if_false, ne_eq, not_false_eq_true, if_true,
      Proc.run_pure, false_and, and_false, iff_false]
    intro h
    obtain ⟨_, ⟨⟩, he⟩ := h
    exact absurd he (notSuccess rfl)

end Quiet

/-- The aggregate over a participant service that knows `participants` and a finder without
oracles. -/
def withoutOracles (participants : Js.Str → Option Participant) :
    Aggregate (List OracleAdapter) where
  oracleFinder :=
    { init := pure (), destroy := pure (), addOracle := fun _ => pure ()
      removeOracle := fun _ => pure (), getAllOracles := pure []
      getOracleById := fun _ => pure none, getOracleByName := fun _ => pure none
      getOracle := fun _ _ => pure none }
  oracleProvidersFactory oracle := .ok ⟨.builtin, oracle⟩
  oracleProvider :=
    { init := fun _ => pure (), destroy := fun _ => pure ()
      getParticipantFspId := fun _ _ _ _ _ => pure .null
      associateParticipant := fun _ _ _ _ _ _ => pure ()
      disassociateParticipant := fun _ _ _ _ _ _ => pure () }
  getParticipantInfo fspId := pure (participants fspId)
  oracleProvidersAdapters := .whole _
  histo _ := pure ()
  randomUUID := pure ""

/-- Two participants that are approved and active get the party information from one to the other
through. -/
theorem handleEvent_success_iff_partyInfoAvailable :
    ∃ e, ((withoutOracles fun id => some ⟨id, true, true⟩).handleEvent
        { msgType := .domainEvent, msgName := .partyInfoAvailableEvt
          payload := some
            { partyId := .val "123", partyType := .val "MSISDN"
              requesterFspId := .val "bluebank", destinationFspId := .val "greenbank" } }).run [] =
      (.ok e, []) ∧ e.msgName = .partyQueryResponseEvt :=
  (handleEvent_success_iff (fun _ _ => rfl) rfl _ [] []).mpr
    ⟨rfl, rfl, rfl, _, [], [], ⟨rfl, _, rfl, rfl, rfl, rfl⟩, ⟨rfl, rfl⟩, rfl, _, rfl, rfl, rfl, rfl⟩

end Aggregate

end AccountLookup
