import AccountLookup.Model.Commands
import AccountLookup.Store.Cache
import AccountLookup.Store.Mongo

/-! `MongoOracleProviderRepo`: the builtin oracle, whose adapters share one collection of associations
and one cache. -/

namespace AccountLookup

open Async Store

/-- `IAssociationRecord`: a value of the cache.  A document of the collection and a filter on it have
the same fields, where one that is `undefined` is absent. -/
structure AssociationRecord where
  fspId : Js.Str
  partyType : Js.Str
  partyId : Js.Str
  partySubType : Js.Str
  currency : Js.Str
  deriving DecidableEq, Repr

/-- Whether the filter selects the document. -/
def AssociationRecord.selects (query document : AssociationRecord) : Bool :=
  Mongo.accepts query.fspId document.fspId && Mongo.accepts query.partyType document.partyType &&
    Mongo.accepts query.partyId document.partyId &&
    Mongo.accepts query.partySubType document.partySubType &&
    Mongo.accepts query.currency document.currency

inductive Server where
  | mongo
  | redis
  deriving DecidableEq, Repr

/-- A connection that an adapter opened. -/
structure Connection where
  server : Server
  adapter : OracleAdapter
  deriving DecidableEq, Repr

/-- What the builtin adapters share: the collection, the live entries of the cache, and the
connections that are open. -/
structure BuiltinStore where
  parties : List AssociationRecord
  cache : Cache String AssociationRecord
  connections : List Connection

namespace MongoOracleProviderRepo

variable (faults : Faults)

def init (adapter : OracleAdapter) : Proc JsError BuiltinStore Unit := do
  (send faults (.mongoConnect adapter) fun s =>
      ((), { s with connections := s.connections ++ [⟨.mongo, adapter⟩] })).rethrow fun error =>
    ⟨.unableToInitOracleProvider, s!"Unable to connect to the database: " ++ error.message⟩
  send faults (.redisConnect adapter) fun s =>
    ((), { s with connections := s.connections ++ [⟨.redis, adapter⟩] })

def destroy (adapter : OracleAdapter) : Proc JsError BuiltinStore Unit :=
  (send faults (.mongoClose adapter) fun s =>
      ((), { s with connections := s.connections.erase ⟨.mongo, adapter⟩ })).rethrow fun error =>
    ⟨.unableToCloseDatabaseConnectionError,
      "Unable to close database connection: " ++ error.message⟩

def getKeyWithPrefix (partyType partyId partySubType currency : Js.Str) : String :=
  "mongoOracleProviderRepo" ++ "_" ++ partyType.text ++ "_" ++ partyId.text ++ "_" ++
    partySubType.text ++ "_" ++ currency.text

def getFromCache (partyType partyId partySubType currency : Js.Str) :
    Proc JsError BuiltinStore (Option AssociationRecord) :=
  send faults .redisGet fun s =>
    (s.cache.get (getKeyWithPrefix partyType partyId partySubType currency), s)

def setToCache (record : AssociationRecord) : Proc JsError BuiltinStore Unit :=
  send faults .redisSetex fun s =>
    ((), { s with
      cache := s.cache.set (getKeyWithPrefix record.partyType record.partyId record.partySubType
        record.currency) record })

def delFromCache (record : AssociationRecord) : Proc JsError BuiltinStore Unit :=
  send faults .redisDel fun s =>
    ((), { s with
      cache := s.cache.del (getKeyWithPrefix record.partyType record.partyId record.partySubType
        record.currency) })

/-- The end of the messages about a party. -/
def partyText (partyType partyId currency : Js.Str) : String :=
  s!"partyType {partyType.text} partyId {partyId.text} and currency {currency.text}"

/-- The filter of a lookup.  A field that is sent without a value goes as `null`. -/
def lookupQuery (partyType partyId partySubType currency : Js.Str) : AssociationRecord where
  fspId := .undefined
  partyType := partyType.orNull
  partyId := partyId.orNull
  partySubType := if partySubType.truthy then partySubType else .undefined
  currency := if currency.truthy then currency else .undefined

def getParticipantFspId (partyType partyId partySubType currency : Js.Str) :
    Proc JsError BuiltinStore Js.Str := do
  match ← getFromCache faults partyType partyId partySubType currency with
  | some cacheData => pure cacheData.fspId
  | none =>
    let query := lookupQuery partyType partyId partySubType currency
    let data ← (send faults .findParticipant fun s => (s.parties.find? query.selects, s)).rethrow
      fun error => ⟨.unableToGetParticipantError, "Unable to get participant for " ++
        partyText partyType partyId currency ++ ": " ++ error.message⟩
    match data with
    | none => pure .null
    | some data =>
      setToCache faults { fspId := data.fspId, partyId, partyType, partySubType, currency }
      pure data.fspId

/-- The filter of a change, which is also the document that an association inserts. -/
def buildLookupQuery (partyId fspId partyType partySubType currency : Js.Str) :
    AssociationRecord :=
  { lookupQuery partyType partyId partySubType currency with fspId := fspId.orNull }

def associateParticipant (fspId partyType partyId partySubType currency : Js.Str) :
    Proc JsError BuiltinStore Unit := do
  let query := buildLookupQuery partyId fspId partyType partySubType currency
  match ← send faults .findAssociation fun s => (s.parties.find? query.selects, s) with
  | some _ =>
    Proc.reject ⟨.participantAssociationAlreadyExistsError,
      "Participant association already exists for " ++ partyText partyType partyId currency⟩
  | none =>
    (send faults .insertAssociation fun s =>
        ((), { s with parties := s.parties ++ [query] })).rethrow
      fun error => ⟨.unableToAssociateParticipantError,
        s!"Unable to store participant association for partyType {partyType.text} partyId " ++
          s!"{partyId.text}, currency {currency.text}: " ++ error.message⟩
    setToCache faults { fspId, partyId, partyType, partySubType, currency }

def disassociateParticipant (fspId partyType partyId partySubType currency : Js.Str) :
    Proc JsError BuiltinStore Unit := do
  let query := buildLookupQuery partyId fspId partyType partySubType currency
  (send faults .deleteAssociation fun s =>
      ((), { s with parties := s.parties.eraseP query.selects })).rethrow
    fun error => ⟨.unableToDisassociateParticipantError,
      s!"Unable to delete participant association for partyType {partyType.text} partyId " ++
        s!"{partyId.text}, currency {currency.text}: " ++ error.message⟩
  delFromCache faults { fspId, partyId, partyType, partySubType, currency }

/-- A ping that fails is logged only. -/
def healthCheck (adapter : OracleAdapter) : Proc JsError BuiltinStore Bool := do
  let _ ← (send faults (.mongoPing adapter) fun s => ((), s)).attempt
  pure true

end MongoOracleProviderRepo

end AccountLookup
