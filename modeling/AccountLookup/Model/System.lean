import AccountLookup.Model.HttpOracleProvider
import AccountLookup.Model.MongoOracleProvider
import AccountLookup.Model.OracleAdmin
import Mathlib.Logic.Function.Basic

/-! The whole service: the aggregate over `MongoOracleFinderRepo`, the adapters of
`OracleAdapterFactory`, and the stores behind them. -/

namespace AccountLookup

open Async

/-- The state of the service and of what it talks to: the collection of oracles, the adapters of the
aggregate, the stores of the builtin oracles, and the service behind each endpoint. -/
structure World where
  oracles : List Oracle
  adapters : List OracleAdapter
  builtin : BuiltinStore
  remotes : Js.Value → RemoteOracle

namespace World

def oraclesLens : Lens World (List Oracle) where
  get w := w.oracles
  set oracles w := { w with oracles }
  get_set _ _ := rfl
  set_get _ := rfl
  set_set _ _ _ := rfl

def adaptersLens : Lens World (List OracleAdapter) where
  get w := w.adapters
  set adapters w := { w with adapters }
  get_set _ _ := rfl
  set_get _ := rfl
  set_set _ _ _ := rfl

def builtinLens : Lens World BuiltinStore where
  get w := w.builtin
  set builtin w := { w with builtin }
  get_set _ _ := rfl
  set_get _ := rfl
  set_set _ _ _ := rfl

def remoteLens (endpoint : Js.Value) : Lens World RemoteOracle where
  get w := w.remotes endpoint
  set remote w := { w with remotes := Function.update w.remotes endpoint remote }
  get_set _ _ := Function.update_self ..
  set_get w := by simp
  set_set _ _ w := by simp

end World

/-- What a call of the service meets outside of its stores: the commands that fail, the answers of
the participant service, the identifier that is generated for a new oracle, and how the database
matches arrays and objects. -/
structure Environment where
  faults : Faults
  participants : Js.Str → Except JsError (Option Participant)
  randomUUID : String
  compound : Js.Value → Js.Value → Bool

namespace System

variable (env : Environment)

def oracleFinder : OracleFinder World where
  init := (MongoOracleFinderRepo.init env.faults).zoom World.oraclesLens
  destroy := (MongoOracleFinderRepo.destroy env.faults).zoom World.oraclesLens
  addOracle oracle :=
    (MongoOracleFinderRepo.addOracle env.compound env.faults oracle).zoom World.oraclesLens
  removeOracle id :=
    (MongoOracleFinderRepo.removeOracle env.compound env.faults id).zoom World.oraclesLens
  getAllOracles := (MongoOracleFinderRepo.getAllOracles env.faults).zoom World.oraclesLens
  getOracleById id :=
    (MongoOracleFinderRepo.getOracleById env.compound env.faults id).zoom World.oraclesLens
  getOracleByName name :=
    (MongoOracleFinderRepo.getOracleByName env.compound env.faults name).zoom World.oraclesLens
  getOracle partyType currency :=
    (MongoOracleFinderRepo.getOracle env.compound env.faults partyType currency).zoom
      World.oraclesLens

/-- The methods of an adapter, by its class: one of a remote oracle acts on the service behind its
endpoint. -/
def oracleProvider : OracleProvider World where
  init adapter :=
    match adapter.type with
    | .builtin => (MongoOracleProviderRepo.init env.faults adapter).zoom World.builtinLens
    | .remoteHttp => Proc.ofExcept (HttpOracleProvider.init adapter)
  destroy adapter :=
    match adapter.type with
    | .builtin => (MongoOracleProviderRepo.destroy env.faults adapter).zoom World.builtinLens
    | .remoteHttp => pure ()
  getParticipantFspId adapter partyType partyId partySubType currency :=
    match adapter.type with
    | .builtin =>
      (MongoOracleProviderRepo.getParticipantFspId env.faults partyType partyId partySubType
        currency).zoom World.builtinLens
    | .remoteHttp =>
      (HttpOracleProvider.getParticipantFspId env.faults partyType partyId partySubType
        currency).zoom (World.remoteLens adapter.oracle.endpoint)
  associateParticipant adapter fspId partyType partyId partySubType currency :=
    match adapter.type with
    | .builtin =>
      (MongoOracleProviderRepo.associateParticipant env.faults fspId partyType partyId partySubType
        currency).zoom World.builtinLens
    | .remoteHttp =>
      (HttpOracleProvider.associateParticipant env.faults fspId partyType partyId partySubType
        currency).zoom (World.remoteLens adapter.oracle.endpoint)
  disassociateParticipant adapter fspId partyType partyId partySubType currency :=
    match adapter.type with
    | .builtin =>
      (MongoOracleProviderRepo.disassociateParticipant env.faults fspId partyType partyId
        partySubType currency).zoom World.builtinLens
    | .remoteHttp =>
      (HttpOracleProvider.disassociateParticipant env.faults fspId partyType partyId partySubType
        currency).zoom (World.remoteLens adapter.oracle.endpoint)

/-- The aggregate of the service.  Its metrics calls do not throw. -/
def aggregate : Aggregate World where
  oracleFinder := oracleFinder env
  oracleProvidersFactory := OracleAdapterFactory.create
  oracleProvider := oracleProvider env
  getParticipantInfo fspId := Proc.ofExcept (env.participants fspId)
  oracleProvidersAdapters := World.adaptersLens
  histo _ := pure ()
  randomUUID := pure env.randomUUID

end System

end AccountLookup
