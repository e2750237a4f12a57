import AccountLookup.Handling.Lookups
import AccountLookup.Handling.Service

/-! Which adapter is consulted for a party, by the way in which the party comes to the service: a
message that looks it up or changes its association, or the lookup route. -/

namespace AccountLookup

open Async

variable {σ : Type}

/-! ### A record of the adapters that are consulted -/

/-- The finder on the first component of a state. -/
def OracleFinder.onFirst {τ : Type} (finder : OracleFinder σ) : OracleFinder (σ × τ) where
  init := finder.init.zoom (.fst σ τ)
  destroy := finder.destroy.zoom (.fst σ τ)
  addOracle oracle := (finder.addOracle oracle).zoom (.fst σ τ)
  removeOracle id := (finder.removeOracle id).zoom (.fst σ τ)
  getAllOracles := finder.getAllOracles.zoom (.fst σ τ)
  getOracleById id := (finder.getOracleById id).zoom (.fst σ τ)
  getOracleByName name := (finder.getOracleByName name).zoom (.fst σ τ)
  getOracle partyType currency := (finder.getOracle partyType currency).zoom (.fst σ τ)

/-- Adds the adapter to the record. -/
def note (adapter : OracleAdapter) : Proc JsError (σ × List OracleAdapter) Unit :=
  Proc.modify fun s => (s.1, s.2 ++ [adapter])

/-- The methods of an adapter that reads or changes its associations note that it is consulted. -/
def OracleProvider.noting (provider : OracleProvider σ) :
    OracleProvider (σ × List OracleAdapter) where
  init adapter := (provider.init adapter).zoom (.fst σ _)
  destroy adapter := (provider.destroy adapter).zoom (.fst σ _)
  getParticipantFspId adapter partyType partyId partySubType currency := do
    note adapter
    (provider.getParticipantFspId adapter partyType partyId partySubType currency).zoom (.fst σ _)
  associateParticipant adapter fspId partyType partyId partySubType currency := do
    note adapter
    (provider.associateParticipant adapter fspId partyType partyId partySubType currency).zoom
      (.fst σ _)
  disassociateParticipant adapter fspId partyType partyId partySubType currency := do
    note adapter
    (provider.disassociateParticipant adapter fspId partyType partyId partySubType currency).zoom
      (.fst σ _)

namespace Aggregate

/-- The aggregate with a record of the adapters that it consults. -/
def noting (agg : Aggregate σ) : Aggregate (σ × List OracleAdapter) where
  oracleFinder := agg.oracleFinder.onFirst
  oracleProvidersFactory := agg.oracleProvidersFactory
  oracleProvider := agg.oracleProvider.noting
  getParticipantInfo fspId := (agg.getParticipantInfo fspId).zoom (.fst σ _)
  oracleProvidersAdapters := (Lens.fst σ _).comp agg.oracleProvidersAdapters
  histo call := (agg.histo call).zoom (.fst σ _)
  randomUUID := agg.randomUUID.zoom (.fst σ _)

section Noting

variable {agg : Aggregate σ} {s : σ} {noted : List OracleAdapter}

theorem Quiet.noting (quiet : agg.Quiet) : agg.noting.Quiet := by
  intro call t
  have hquiet := quiet call t.1
  simp [Aggregate.noting, Lens.fst, hquiet]

theorem ReadsOnly.noting (reads : agg.ReadsOnly) : agg.noting.ReadsOnly := by
  constructor
  · intro fspId t
    have hread := reads.getParticipantInfo fspId t.1
    simp [Aggregate.noting, Lens.fst, hread]
  · intro partyType currency t
    have hread := reads.getOracle partyType currency t.1
    simp [Aggregate.noting, OracleFinder.onFirst, Lens.fst, hread]

theorem approves_noting {fspId : Js.Str} (h : agg.Approves fspId s s) :
    agg.noting.Approves fspId (s, noted) (s, noted) := by
  obtain ⟨htruthy, participant, hrun, hchecks⟩ := h
  refine ⟨htruthy, participant, ?_, hchecks⟩
  simp [Aggregate.noting, Lens.fst, hrun]

theorem selects_noting_iff {partyType currency : Js.Str} {adapter : OracleAdapter} :
    agg.noting.Selects partyType currency adapter (s, noted) (s, noted) ↔
      agg.Selects partyType currency adapter s s := by
  simp [Selects, Aggregate.noting, OracleFinder.onFirst, Lens.fst, Lens.comp, Prod.ext_iff]

theorem noted_getParticipantFspId (adapter : OracleAdapter)
    (partyType partyId partySubType currency : Js.Str) :
    ((agg.noting.oracleProvider.getParticipantFspId adapter partyType partyId partySubType
      currency).run (s, noted)).2.2 = noted ++ [adapter] := by
  simp only [Aggregate.noting, OracleProvider.noting, note]
  rw [Proc.run_bind_ok (Proc.run_modify _ _), Proc.run_zoom]
  rfl

theorem noted_perform (request : ChangeRequest) (adapter : OracleAdapter) :
    ((agg.noting.perform request adapter).run (s, noted)).2.2 = noted ++ [adapter] := by
  unfold perform
  cases request.kind <;> simp only [Aggregate.noting, OracleProvider.noting, note] <;>
    rw [Proc.run_bind_ok (Proc.run_modify _ _), Proc.run_zoom] <;> rfl

end Noting

/-- A lookup for which no adapter is selected changes nothing. -/
theorem getParticipantIdFromOracle_unselected {agg : Aggregate σ} (reads : agg.ReadsOnly)
    (quiet : agg.Quiet) {partyType currency : Js.Str} {s : σ}
    (h : ∀ adapter, ¬agg.Selects partyType currency adapter s s) (partyId partySubType : Js.Str) :
    ((agg.getParticipantIdFromOracle partyId partyType partySubType currency).run s).2 = s := by
  have hstate := getOracleAdapter_state reads quiet partyType currency s
  rcases hadapter : (agg.getOracleAdapter partyType currency).run s with ⟨error | adapter, t⟩ <;>
    rw [hadapter] at hstate <;> simp only at hstate <;> rw [hstate] at hadapter
  · simp only [getParticipantIdFromOracle, run_histo_bind quiet, Proc.run_bind_error hadapter]
  · exact absurd ((getOracleAdapter_eq_ok quiet).mp hadapter) (h adapter)

/-- What the handling of a valid message leaves is what its handler leaves. -/
theorem handleEvent_state {agg : Aggregate σ} {message : Message}
    (hvalid : validateMessageOrGetErrorEvent message = none) (s : σ) :
    ((agg.handleEvent message).run s).2 = ((agg.dispatch message).run s).2 := by
  unfold handleEvent
  rw [hvalid, Proc.run_attempt_bind]
  rcases (agg.dispatch message).run s with ⟨error | event, t⟩ <;> rfl

/-! ### The ways into the service -/

end Aggregate

/-- The requests that select an adapter for a party: four messages and the lookup route. -/
inductive Entry where
  | partyQuery
  | participantQuery
  | associate
  | disassociate
  | accountLookUp
  deriving DecidableEq, Repr

namespace Entry

/-- The request with the payload of the message.  The route passes `null` for an absent field. -/
def serve (entry : Entry) (message : Message) (agg : Aggregate σ) : Proc JsError σ Unit :=
  let p := message.fields
  match entry with
  | .partyQuery => (agg.handleEvent { message with msgName := .partyQueryReceivedEvt }).void
  | .participantQuery =>
    (agg.handleEvent { message with msgName := .participantQueryReceivedEvt }).void
  | .associate =>
    (agg.handleEvent { message with msgName := .participantAssociationRequestReceivedEvt }).void
  | .disassociate =>
    (agg.handleEvent { message with msgName := .participantDisassociateRequestReceivedEvt }).void
  | .accountLookUp =>
    (agg.getAccountLookUp p.partyId p.partyType p.partySubType.orNull p.currency.orNull).void

/-- The adapters that the request consults, in order. -/
def consulted (entry : Entry) (message : Message) (agg : Aggregate σ) (s : σ) :
    List OracleAdapter :=
  ((entry.serve message agg.noting).run (s, [])).2.2

/-- The currency that the request has its adapter selected for. -/
def currency (entry : Entry) (currency : Js.Str) : Js.Str :=
  match entry with
  | .participantQuery | .associate => currency
  | .partyQuery | .disassociate | .accountLookUp => currency.orNull

theorem currency_eq {currency : Js.Str} (h : currency ≠ .undefined) (entry : Entry) :
    entry.currency currency = currency := by
  cases currency with
  | undefined => exact absurd rfl h
  | null => cases entry <;> rfl
  | val s => cases entry <;> rfl

section ReadsOnly

variable {agg : Aggregate σ} (reads : agg.ReadsOnly) (quiet : agg.Quiet) {s : σ}
  {partyType currency : Js.Str} {selection : Option OracleAdapter}
  (hselection : ∀ adapter, agg.Selects partyType currency adapter s s ↔ selection = some adapter)
include reads quiet hselection

theorem noted_lookup (partyId partySubType : Js.Str) :
    ((agg.noting.getParticipantIdFromOracle partyId partyType partySubType currency).run
      (s, [])).2.2 = selection.toList := by
  cases hadapter : selection with
  | none =>
    have hnone (adapter : OracleAdapter) :
        ¬agg.noting.Selects partyType currency adapter (s, []) (s, []) := by
      rw [Aggregate.selects_noting_iff, hselection, hadapter]
      exact nofun
    rw [Aggregate.getParticipantIdFromOracle_unselected reads.noting quiet.noting hnone]
    rfl
  | some adapter =>
    have hselects : agg.noting.Selects partyType currency adapter (s, []) (s, []) := by
      rw [Aggregate.selects_noting_iff, hselection, hadapter]
    rw [Aggregate.getParticipantIdFromOracle_state quiet.noting hselects]
    exact Aggregate.noted_getParticipantFspId ..

theorem noted_change {message : Message} {request : ChangeRequest}
    (hrequest : message.changeRequest = some request) (htype : request.partyType = partyType)
    (hcurrency : request.currency = currency) (howner : agg.Approves request.fspId s s) :
    ((agg.noting.handleEvent message).run (s, [])).2.2 = selection.toList := by
  subst htype hcurrency
  rcases Aggregate.handleEvent_answers reads.noting quiet.noting hrequest (s, []) with
    ⟨e, -, hrun, hnot⟩ | ⟨adapter, ⟨-, hselects⟩, e, hrun, -⟩
  · have hnone : selection = none := by
      rw [Option.eq_none_iff_forall_ne_some]
      intro adapter hadapter
      apply hnot adapter
      exact ⟨Aggregate.approves_noting howner,
        Aggregate.selects_noting_iff.mpr ((hselection adapter).mpr hadapter)⟩
    rw [hrun, hnone]
    rfl
  · rw [hrun, (hselection adapter).mp (Aggregate.selects_noting_iff.mp hselects)]
    exact Aggregate.noted_perform request adapter

omit hselection in
/-- A relay whose requester passes consults what its search for the destination consults. -/
theorem noted_relay {callName : String} {partyId partySubType requesterFspId : Js.Str}
    {resolveDestination : Proc JsError (σ × List OracleAdapter) (Except DomainEvent Js.Str)}
    {answer : Js.Str → DomainEvent} (hresolves : resolveDestination.NeverRejects)
    (hrequester : agg.Approves requesterFspId s s) :
    ((agg.noting.relay callName partyId partyType partySubType requesterFspId resolveDestination
      answer).run (s, [])).2.2 = (resolveDestination.run (s, [])).2.2 := by
  rcases Aggregate.relay_state reads.noting quiet.noting hresolves (s, []) with hstate | ⟨-, hnot⟩
  · rw [hstate]
  · exact absurd (Aggregate.approves_noting hrequester) hnot

/-- The search of a relay for the owner of the party. -/
theorem noted_search (partyId partySubType : Js.Str) :
    ((agg.noting.participantIdFromOracleOrErrorEvent partyId partyType partySubType currency).run
      (s, [])).2.2 = selection.toList := by
  rw [Aggregate.participantIdFromOracleOrErrorEvent_state]
  exact noted_lookup reads quiet hselection partyId partySubType

end ReadsOnly

/-- The request is well formed, its participants pass their checks, and it does not say where to
send a query. -/
structure Admitted (agg : Aggregate σ) (message : Message) (s : σ) : Prop where
  valid : Aggregate.validateMessageOrGetErrorEvent message = none
  requester : agg.Approves message.fields.requesterFspId s s
  owner : agg.Approves message.fields.ownerFspId s s
  destination : message.fields.destinationFspId.truthy = false

section Requests

variable {agg : Aggregate σ} (reads : agg.ReadsOnly) (quiet : agg.Quiet) {message : Message} {s : σ}
  (h : Admitted agg message s) {partyType : String}
  (htype : message.fields.partyType = .val partyType) {selection : Option OracleAdapter}
include reads quiet h htype

theorem noted_partyQuery
    (hselection : ∀ adapter, agg.Selects (.val partyType) message.fields.currency.orNull adapter s
      s ↔ selection = some adapter) :
    ((agg.noting.handlePartyQueryReceivedEvt message).run (s, [])).2.2 = selection.toList := by
  have hdestination : ¬message.fields.destinationFspId.orNull.truthy = true := by
    rw [Js.Field.truthy_orNull, h.destination]
    exact nofun
  have hnull : message.fields.partyType.orNull = .val partyType := by
    rw [htype]
    rfl
  unfold Aggregate.handlePartyQueryReceivedEvt
  dsimp only
  rw [if_neg hdestination, hnull, noted_relay reads quiet
    (Aggregate.participantIdFromOracleOrErrorEvent_neverRejects _ _ _ _)
    ((agg.approves_orNull).mpr h.requester)]
  exact noted_search reads quiet hselection _ _

theorem noted_participantQuery
    (hselection : ∀ adapter, agg.Selects (.val partyType) message.fields.currency adapter s s ↔
      selection = some adapter) :
    ((agg.noting.handleParticipantQueryReceivedEvt message).run (s, [])).2.2 =
      selection.toList := by
  unfold Aggregate.handleParticipantQueryReceivedEvt
  dsimp only
  rw [htype, noted_relay reads quiet
    (Aggregate.participantIdFromOracleOrErrorEvent_neverRejects _ _ _ _) h.requester]
  exact noted_search reads quiet hselection _ _

/-- Every request consults the adapter that is selected for its party type and its currency. -/
theorem consulted_eq (entry : Entry)
    (hselection : ∀ adapter, agg.Selects (.val partyType) (entry.currency message.fields.currency)
      adapter s s ↔ selection = some adapter) :
    entry.consulted message agg s = selection.toList := by
  have hvalid (msgName : MessageName) :
      Aggregate.validateMessageOrGetErrorEvent { message with msgName } = none := h.valid
  have hadmitted (msgName : MessageName) : Admitted agg { message with msgName } s :=
    ⟨h.valid, h.requester, h.owner, h.destination⟩
  unfold consulted serve
  cases entry with
  | partyQuery =>
    rw [Proc.run_void, Aggregate.handleEvent_state (hvalid _)]
    exact noted_partyQuery reads quiet (hadmitted .partyQueryReceivedEvt) htype hselection
  | participantQuery =>
    rw [Proc.run_void, Aggregate.handleEvent_state (hvalid _)]
    exact noted_participantQuery reads quiet (hadmitted .participantQueryReceivedEvt) htype
      hselection
  | associate =>
    rw [Proc.run_void]
    have hrequest :
        Message.changeRequest
            { message with msgName := .participantAssociationRequestReceivedEvt } =
          some ⟨.associate, message.fields.ownerFspId, message.fields.partyType,
            message.fields.partyId, message.fields.partySubType, message.fields.currency⟩ := by
      unfold Message.changeRequest
      rw [hvalid]
      rfl
    exact noted_change reads quiet hselection hrequest htype rfl h.owner
  | disassociate =>
    rw [Proc.run_void]
    have hrequest :
        Message.changeRequest
            { message with msgName := .participantDisassociateRequestReceivedEvt } =
          some ⟨.disassociate, message.fields.ownerFspId.orNull, message.fields.partyType.orNull,
            message.fields.partyId.orNull, message.fields.partySubType.orNull,
            message.fields.currency.orNull⟩ := by
      unfold Message.changeRequest
      rw [hvalid]
      rfl
    refine noted_change reads quiet hselection hrequest ?_ rfl ?_
    · rw [htype]
      rfl
    · exact (agg.approves_orNull).mpr h.owner
  | accountLookUp =>
    have hlookup := noted_lookup reads quiet hselection message.fields.partyId
      message.fields.partySubType.orNull
    rw [Proc.run_void, htype]
    unfold Aggregate.getAccountLookUp
    dsimp only [currency] at hlookup ⊢
    rw [Proc.run_attempt_bind, ← hlookup]
    rcases (agg.noting.getParticipantIdFromOracle message.fields.partyId (.val partyType)
      message.fields.partySubType.orNull message.fields.currency.orNull).run (s, []) with
      ⟨error | fspId, t⟩
    · dsimp only
      split_ifs <;> rfl
    · rfl

end Requests

/-- The message with `null` for the optional fields that it leaves out. -/
def explicit (message : Message) : Message :=
  { message with
    payload := message.payload.map fun p =>
      { p with partySubType := p.partySubType.orNull, currency := p.currency.orNull } }

/-- All the requests with the payload of the message consult the same adapters, which are those that
they consult for the message with `null` for absent fields. -/
def Agree (message : Message) (agg : Aggregate σ) (s : σ) : Prop :=
  ∀ entry other : Entry, entry.consulted message agg s = other.consulted message agg s ∧
    entry.consulted message agg s = other.consulted (explicit message) agg s

theorem payload_of_valid {message : Message}
    (h : Aggregate.validateMessageOrGetErrorEvent message = none) :
    ∃ p, message.payload = some p := by
  unfold Aggregate.validateMessageOrGetErrorEvent at h
  split_ifs at h with hnone
  rw [Option.isNone_iff_eq_none] at hnone
  exact Option.ne_none_iff_exists'.mp hnone

theorem Admitted.explicit {agg : Aggregate σ} {message : Message} {s : σ}
    (h : Admitted agg message s) : Admitted agg (explicit message) s := by
  obtain ⟨p, hp⟩ := payload_of_valid h.valid
  obtain ⟨hvalid, hrequester, howner, hdestination⟩ := h
  unfold Message.fields at hrequester howner hdestination
  unfold Aggregate.validateMessageOrGetErrorEvent at hvalid
  rw [hp] at hrequester howner hdestination hvalid
  refine ⟨?_, ?_, ?_, ?_⟩
  · unfold Aggregate.validateMessageOrGetErrorEvent Entry.explicit
    rw [hp]
    split_ifs at hvalid with hnone htype
    simp [htype]
  · simpa [Entry.explicit, Message.fields, hp] using hrequester
  · simpa [Entry.explicit, Message.fields, hp] using howner
  · simpa [Entry.explicit, Message.fields, hp] using hdestination

theorem fields_explicit {message : Message}
    (h : Aggregate.validateMessageOrGetErrorEvent message = none) :
    (explicit message).fields.partyType = message.fields.partyType ∧
      (explicit message).fields.currency = message.fields.currency.orNull := by
  obtain ⟨p, hp⟩ := payload_of_valid h
  simp [explicit, Message.fields, hp]

end Entry

/-! ### The oracles of a party type -/

namespace System

variable (compound : Js.Value → Js.Value → Bool)

/-- The first oracle of the party type that has the currency, or else the first of the party
type. -/
def oracleFor (partyType : String) (currency : Js.Value) (oracles : List Oracle) : Option Oracle :=
  let ofType := oracles.filter fun oracle =>
    Mongo.acceptsValue compound (.str partyType) oracle.partyType
  ofType.find? (·.currency = currency) <|> ofType.head?

/-- An adapter is listed for the id. -/
def Listed (w : World) (id : Js.Value) : Prop :=
  ∃ adapter ∈ w.adapters, adapter.oracleId.strictEq id = true

/-- It makes no difference whether a request for the party type leaves out the currency or has
`null` for it: the oracles that serve the two have the same id, or neither has an adapter. -/
def CurrencyOptional (w : World) (partyType : String) : Prop :=
  ∀ lacking explicit, oracleFor compound partyType .undefined w.oracles = some lacking →
    oracleFor compound partyType .null w.oracles = some explicit →
    lacking.id = explicit.id ∨ ¬Listed w lacking.id ∧ ¬Listed w explicit.id

variable {compound}

theorem strictEq_toValue {v : Js.Value} {currency : Js.Str} :
    v.strictEq currency.toValue = decide (v = currency.toValue) := by
  rw [Bool.eq_iff_iff, decide_eq_true_iff]
  unfold Js.Value.strictEq
  rw [Bool.and_eq_true, decide_eq_true_iff]
  apply and_iff_left_of_imp
  intro hv
  rw [hv]
  cases currency <;> rfl

/-- The finder selects the oracle that serves the currency. -/
theorem select_eq (partyType : String) (currency : Js.Str) (oracles : List Oracle) :
    MongoOracleFinderRepo.select compound (.val partyType) currency oracles =
      oracleFor compound partyType currency.toValue oracles := by
  unfold MongoOracleFinderRepo.select oracleFor
  have htype : Js.Field.toValue (.val partyType) = .str partyType := rfl
  simp only [htype, List.partition_eq_filter_filter, strictEq_toValue]
  generalize List.filter _ oracles = ofType
  rw [List.head?_filter, List.head?_filter]
  cases hfind : ofType.find? fun oracle => decide (oracle.currency = currency.toValue) with
  | some oracle => rfl
  | none =>
    rw [List.find?_eq_none] at hfind
    cases ofType with
    | nil => rfl
    | cons oracle rest =>
      have hfirst := hfind oracle List.mem_cons_self
      simp [hfirst]

/-- A party type has an oracle for one currency when it has one for another. -/
theorem oracleFor_eq_none_iff {partyType : String} {currency : Js.Value} {oracles : List Oracle} :
    oracleFor compound partyType currency oracles = none ↔
      oracles.filter (fun oracle => Mongo.acceptsValue compound (.str partyType) oracle.partyType) =
        [] := by
  unfold oracleFor
  generalize List.filter _ oracles = ofType
  cases ofType with
  | nil => simp
  | cons oracle rest => simp

theorem listed_iff {w : World} {id : Js.Value} :
    Listed w id ↔ (w.adapters.find? fun adapter => adapter.oracleId.strictEq id) ≠ none := by
  rw [Ne, List.find?_eq_none]
  simp [Listed]

/-- Two ids have the same adapter when they are the same, or neither has one. -/
theorem find_adapter_eq_iff {w : World} {id id' : Js.Value} :
    (w.adapters.find? fun adapter => adapter.oracleId.strictEq id) =
        (w.adapters.find? fun adapter => adapter.oracleId.strictEq id') ↔
      id = id' ∨ ¬Listed w id ∧ ¬Listed w id' := by
  rw [listed_iff, listed_iff, not_not, not_not]
  constructor
  · intro h
    cases hfind : w.adapters.find? fun adapter => adapter.oracleId.strictEq id with
    | none => exact .inr ⟨rfl, h ▸ hfind⟩
    | some adapter =>
      have hid := List.find?_some hfind
      have hid' := List.find?_some (h ▸ hfind)
      simp only [Js.Value.strictEq, Bool.and_eq_true, decide_eq_true_eq] at hid hid'
      exact .inl (hid.1.symm.trans hid'.1)
  · intro h
    rcases h with rfl | ⟨hnone, hnone'⟩
    · rfl
    · rw [hnone, hnone']

theorem adapterFor_eq_iff {w : World} {partyType : String} :
    adapterFor compound w (.val partyType) .undefined =
      adapterFor compound w (.val partyType) .null ↔ CurrencyOptional compound w partyType := by
  unfold adapterFor CurrencyOptional
  rw [select_eq, select_eq]
  simp only [Js.Field.toValue]
  cases hlacking : oracleFor compound partyType .undefined w.oracles with
  | none =>
    rw [oracleFor_eq_none_iff, ← oracleFor_eq_none_iff] at hlacking
    rw [hlacking]
    simp
  | some lacking =>
    cases hexplicit : oracleFor compound partyType .null w.oracles with
    | none =>
      rw [oracleFor_eq_none_iff, ← oracleFor_eq_none_iff, hlacking] at hexplicit
      cases hexplicit
    | some explicit => simpa using find_adapter_eq_iff

/-- The adapter that a request with the currency has selected, unless the query for it fails. -/
def selection (env : Environment) (w : World) (partyType : String) (currency : Js.Str) :
    Option OracleAdapter :=
  if env.faults .findOraclesOfType = none then
    adapterFor env.compound w (.val partyType) currency
  else none

theorem selects_iff_selection {env : Environment} {w : World} {partyType : String}
    {currency : Js.Str} (adapter : OracleAdapter) :
    (aggregate env).Selects (.val partyType) currency adapter w w ↔
      selection env w partyType currency = some adapter := by
  rw [selects_iff]
  unfold selection
  by_cases hfault : env.faults .findOraclesOfType = none
  · simp [hfault]
  · simp [hfault]

/-- Without and with `null` for the currency the same adapter is selected. -/
theorem selection_eq_iff {env : Environment} {w : World} {partyType : String} :
    selection env w partyType .undefined = selection env w partyType .null ↔
      env.faults .findOraclesOfType ≠ none ∨ CurrencyOptional env.compound w partyType := by
  unfold selection
  by_cases hfault : env.faults .findOraclesOfType = none
  · rw [if_pos hfault, if_pos hfault, adapterFor_eq_iff]
    simp [hfault]
  · simp [hfault]

/-- The requests that come with a message agree on the adapter exactly when the message has a
currency or `null` for it, or the query for the oracles of the party type fails, or the currency makes no
difference. -/
theorem agree_iff (env : Environment) (message : Message) (w : World)
    (h : Entry.Admitted (aggregate env) message w) (partyType : String)
    (htype : message.fields.partyType = .val partyType) :
    Entry.Agree message (aggregate env) w ↔
      message.fields.currency ≠ .undefined ∨ env.faults .findOraclesOfType ≠ none ∨
        CurrencyOptional env.compound w partyType := by
  obtain ⟨htype', hcurrency'⟩ := Entry.fields_explicit h.valid
  have hconsulted (entry : Entry) := Entry.consulted_eq (aggregate_reads env) (aggregate_quiet env)
    h htype entry selects_iff_selection
  have hexplicit (entry : Entry) := Entry.consulted_eq (aggregate_reads env) (aggregate_quiet env)
    h.explicit (htype'.trans htype) entry selects_iff_selection
  unfold Entry.Agree
  simp only [hconsulted, hexplicit, hcurrency', ← selection_eq_iff]
  by_cases hcurrency : message.fields.currency = .undefined
  · rw [hcurrency]
    simp only [ne_eq, not_true, false_or]
    constructor
    · intro hagree
      have hboth : (selection env w partyType .undefined).toList =
          (selection env w partyType .null).toList := (hagree .participantQuery .partyQuery).1
      simpa using congrArg List.head? hboth
    · intro hsame entry other
      have hnull (entry : Entry) :
          selection env w partyType (entry.currency .undefined) =
            selection env w partyType .null := by
        cases entry <;> first | rfl | exact hsame
      rw [hnull, hnull]
      cases other <;> exact ⟨rfl, rfl⟩
  · refine iff_of_true ?_ (.inl hcurrency)
    intro entry other
    have hnull : message.fields.currency.orNull = message.fields.currency :=
      Entry.currency_eq hcurrency .partyQuery
    rw [hnull, Entry.currency_eq hcurrency, Entry.currency_eq hcurrency]
    exact ⟨rfl, rfl⟩

/-! ### Two oracles of one party type -/

/-- An oracle for one currency, and after it one with `null` for the currency. -/
def currencyWorld : World :=
  { builtinWorld with
    oracles := [{ builtinOracle with currency := .str "EUR" },
      { builtinOracle with id := .str "2", name := .str "any", currency := .null }]
    adapters := [⟨.builtin, { builtinOracle with currency := .str "EUR" }⟩,
      ⟨.builtin, { builtinOracle with id := .str "2", name := .str "any", currency := .null }⟩] }

/-- A message of `bluebank` about the party `123` that leaves out the currency. -/
def withoutCurrency : Message where
  msgType := .domainEvent
  msgName := .partyQueryReceivedEvt
  payload := some
    { partyId := .val "123", partyType := .val "MSISDN", requesterFspId := .val "bluebank"
      ownerFspId := .val "bluebank" }

theorem admitted_withoutCurrency (w : World) :
    Entry.Admitted (aggregate (withFaults .none)) withoutCurrency w := by
  have hknows : (aggregate (withFaults .none)).Approves (.val "bluebank") w w :=
    approves_iff.mpr ⟨rfl, knows_everyone rfl⟩
  exact ⟨rfl, hknows, hknows, rfl⟩

theorem agree_iff_withoutCurrency :
    Entry.Agree withoutCurrency (aggregate (withFaults .none)) builtinWorld ↔
      withoutCurrency.fields.currency ≠ .undefined ∨
        (withFaults .none).faults .findOraclesOfType ≠ none ∨
        CurrencyOptional (withFaults .none).compound builtinWorld "MSISDN" :=
  agree_iff (withFaults .none) withoutCurrency builtinWorld (admitted_withoutCurrency _) "MSISDN"
    rfl

/-- A participant query consults the first oracle, a party query the second. -/
theorem not_agree :
    Entry.Admitted (aggregate (withFaults .none)) withoutCurrency currencyWorld ∧
      (Entry.participantQuery.consulted withoutCurrency (aggregate (withFaults .none))
        currencyWorld).map OracleAdapter.oracleId = [.str "1"] ∧
      (Entry.partyQuery.consulted withoutCurrency (aggregate (withFaults .none))
        currencyWorld).map OracleAdapter.oracleId = [.str "2"] ∧
      ¬Entry.Agree withoutCurrency (aggregate (withFaults .none)) currencyWorld := by
  have hfirst : (Entry.participantQuery.consulted withoutCurrency (aggregate (withFaults .none))
      currencyWorld).map OracleAdapter.oracleId = [.str "1"] := by
    decide +kernel
  have hsecond : (Entry.partyQuery.consulted withoutCurrency (aggregate (withFaults .none))
      currencyWorld).map OracleAdapter.oracleId = [.str "2"] := by
    decide +kernel
  refine ⟨admitted_withoutCurrency _, hfirst, hsecond, ?_⟩
  intro hagree
  rw [(hagree .participantQuery .partyQuery).1, hsecond] at hfirst
  exact absurd hfirst (by decide)

end System

end AccountLookup
