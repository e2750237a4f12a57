import AccountLookup.Builtin.Provider
import AccountLookup.Handling.Changes
import AccountLookup.Model.System

/-! The aggregate of the service: which of its services only read, and where the change of a request
is made. -/

namespace AccountLookup

open Async MongoOracleProviderRepo

namespace System

variable (env : Environment)

theorem aggregate_quiet : (aggregate env).Quiet := fun _ _ => rfl

theorem aggregate_reads : (aggregate env).ReadsOnly := by
  refine ⟨fun fspId w => by simp [aggregate], fun partyType currency w => ?_⟩
  simp only [aggregate, oracleFinder, Proc.run_zoom, MongoOracleFinderRepo.getOracle]
  rw [Proc.run_bind, run_send_rethrow]
  cases env.faults .findOraclesOfType with
  | some error => rfl
  | none =>
    dsimp only
    split <;> rfl

/-- The change of a request by an adapter of a builtin oracle. -/
def performBuiltin (request : ChangeRequest) : Proc JsError BuiltinStore Unit :=
  match request.kind with
  | .associate =>
    associateParticipant env.faults request.fspId request.partyType request.partyId
      request.partySubType request.currency
  | .disassociate =>
    disassociateParticipant env.faults request.fspId request.partyType request.partyId
      request.partySubType request.currency

theorem run_perform_builtin {adapter : OracleAdapter} (h : adapter.type = .builtin)
    (request : ChangeRequest) (w : World) :
    ((aggregate env).perform request adapter).run w =
      (((performBuiltin env request).run w.builtin).1,
        { w with builtin := ((performBuiltin env request).run w.builtin).2 }) := by
  unfold Aggregate.perform performBuiltin
  cases request.kind <;> simp only [aggregate, oracleProvider, h, Proc.run_zoom] <;> rfl

/-- The change of a request by an adapter of a remote oracle. -/
def performRemote (request : ChangeRequest) : Proc JsError RemoteOracle Unit :=
  match request.kind with
  | .associate =>
    HttpOracleProvider.associateParticipant env.faults request.fspId request.partyType
      request.partyId request.partySubType request.currency
  | .disassociate =>
    HttpOracleProvider.disassociateParticipant env.faults request.fspId request.partyType
      request.partyId request.partySubType request.currency

theorem run_perform_remote {adapter : OracleAdapter} (h : adapter.type = .remoteHttp)
    (request : ChangeRequest) (w : World) :
    ((aggregate env).perform request adapter).run w =
      (((performRemote env request).run (w.remotes adapter.oracle.endpoint)).1,
        (World.remoteLens adapter.oracle.endpoint).set
          ((performRemote env request).run (w.remotes adapter.oracle.endpoint)).2 w) := by
  unfold Aggregate.perform performRemote
  cases request.kind <;> simp only [aggregate, oracleProvider, h, Proc.run_zoom] <;> rfl

/-! ### Lookups -/

theorem run_lookup_builtin {adapter : OracleAdapter} (h : adapter.type = .builtin)
    (partyType partyId partySubType currency : Js.Str) (w : World) :
    ((aggregate env).oracleProvider.getParticipantFspId adapter partyType partyId partySubType
        currency).run w =
      (((MongoOracleProviderRepo.getParticipantFspId env.faults partyType partyId partySubType
          currency).run w.builtin).1,
        { w with
          builtin := ((MongoOracleProviderRepo.getParticipantFspId env.faults partyType partyId
            partySubType currency).run w.builtin).2 }) := by
  simp only [aggregate, oracleProvider, h, Proc.run_zoom]
  rfl

theorem run_lookup_remote {adapter : OracleAdapter} (h : adapter.type = .remoteHttp)
    (partyType partyId partySubType currency : Js.Str) (w : World) :
    ((aggregate env).oracleProvider.getParticipantFspId adapter partyType partyId partySubType
        currency).run w =
      (((HttpOracleProvider.getParticipantFspId env.faults partyType partyId partySubType
          currency).run (w.remotes adapter.oracle.endpoint)).1,
        (World.remoteLens adapter.oracle.endpoint).set
          ((HttpOracleProvider.getParticipantFspId env.faults partyType partyId partySubType
            currency).run (w.remotes adapter.oracle.endpoint)).2 w) := by
  simp only [aggregate, oracleProvider, h, Proc.run_zoom]
  rfl

/-- The adapter that the registry of oracles gives a party type and a currency. -/
def adapterFor (compound : Js.Value → Js.Value → Bool) (w : World) (partyType currency : Js.Str) :
    Option OracleAdapter := do
  let oracle ← MongoOracleFinderRepo.select compound partyType currency w.oracles
  w.adapters.find? fun adapter => adapter.oracleId.strictEq oracle.id

theorem selects_iff {env : Environment} {partyType currency : Js.Str} {adapter : OracleAdapter}
    {w w' : World} :
    (aggregate env).Selects partyType currency adapter w w' ↔
      w' = w ∧ env.faults .findOraclesOfType = none ∧
        adapterFor env.compound w partyType currency = some adapter := by
  simp only [Aggregate.Selects, aggregate, oracleFinder, Proc.run_zoom,
    MongoOracleFinderRepo.getOracle, adapterFor]
  rw [Proc.run_bind, run_send_rethrow]
  cases env.faults .findOraclesOfType with
  | some error => simp
  | none =>
    dsimp only [World.oraclesLens, World.adaptersLens]
    cases MongoOracleFinderRepo.select env.compound partyType currency w.oracles with
    | none => simp
    | some oracle =>
      constructor
      · intro h
        obtain ⟨_, ⟨⟩, hfind⟩ := h
        exact ⟨rfl, rfl, hfind⟩
      · intro h
        obtain ⟨rfl, -, hfind⟩ := h
        exact ⟨oracle, rfl, hfind⟩

/-- The participant service knows `fspId`, approved and active. -/
def Knows (participants : Js.Str → Except JsError (Option Participant)) (fspId : Js.Str) : Prop :=
  fspId.truthy = true ∧ ∃ participant, participants fspId = .ok (some participant) ∧
    participant.id = fspId ∧ participant.approved = true ∧ participant.isActive = true

theorem approves_iff {env : Environment} {fspId : Js.Str} {w w' : World} :
    (aggregate env).Approves fspId w w' ↔ w' = w ∧ Knows env.participants fspId := by
  simp only [Aggregate.Approves, aggregate, Proc.run_ofExcept, Prod.mk.injEq, Knows]
  constructor
  · intro h
    obtain ⟨htruthy, participant, ⟨hinfo, rfl⟩, hchecks⟩ := h
    exact ⟨rfl, htruthy, participant, hinfo, hchecks⟩
  · intro h
    obtain ⟨rfl, htruthy, participant, hinfo, hchecks⟩ := h
    exact ⟨htruthy, participant, ⟨hinfo, rfl⟩, hchecks⟩

/-! ### A service with one builtin oracle -/

/-- Every participant exists, is approved and is active. -/
def everyone (fspId : Js.Str) : Except JsError (Option Participant) :=
  .ok (some ⟨fspId, true, true⟩)

theorem knows_everyone {fspId : Js.Str} (h : fspId.truthy = true) : Knows everyone fspId :=
  ⟨h, _, rfl, rfl, rfl, rfl⟩

def withFaults (faults : Faults) : Environment where
  faults := faults
  participants := everyone
  randomUUID := "45dbb8ac"
  compound _ _ := false

/-- A registry of one builtin oracle, which serves the `MSISDN` parties. -/
def builtinOracle : Oracle where
  id := .str "1"
  name := .str "builtin"
  type := .str "builtin"
  partyType := .str "MSISDN"
  currency := .undefined
  endpoint := .null

def builtinWorld : World where
  oracles := [builtinOracle]
  adapters := [⟨.builtin, builtinOracle⟩]
  builtin := ⟨[], Store.Cache.empty, []⟩
  remotes _ := .empty "/app/data/db.json"

/-- A query for a party. -/
def participantQuery (requesterFspId partyId partyType partySubType currency : Js.Str) :
    Message where
  msgType := .domainEvent
  msgName := .participantQueryReceivedEvt
  payload := some { requesterFspId, partyId, partyType, partySubType, currency }

/-- A request of `bluebank` for the party `123`. -/
def changeMessage (msgName : MessageName) : Message where
  msgType := .domainEvent
  msgName := msgName
  payload := some
    { partyId := .val "123", partyType := .val "MSISDN", ownerFspId := .val "bluebank" }

end System

end AccountLookup
