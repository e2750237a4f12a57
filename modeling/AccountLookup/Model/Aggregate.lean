import AccountLookup.Async.Proc
import AccountLookup.Model.Messages

/-! `AccountLookupAggregate`: the services that it is built from, and its handling of messages.  The
services are computations on a state of any type `σ`, so a result about the aggregate holds for
whatever they return, throw or change. -/

namespace AccountLookup

open Async

/-- An oracle adapter: the class that the factory chose and the oracle that it was built from.  Its
methods are those of the aggregate's `OracleProvider`. -/
structure OracleAdapter where
  type : OracleType
  oracle : Oracle
  deriving DecidableEq, Repr

def OracleAdapter.oracleId (adapter : OracleAdapter) : Js.Value := adapter.oracle.id

/-- `IOracleProviderAdapter`: the methods of each adapter that handle its connections and its
associations. -/
structure OracleProvider (σ : Type) where
  init : OracleAdapter → Proc JsError σ Unit
  destroy : OracleAdapter → Proc JsError σ Unit
  getParticipantFspId :
    OracleAdapter → (partyType partyId partySubType currency : Js.Str) → Proc JsError σ Js.Str
  associateParticipant :
    OracleAdapter → (fspId partyType partyId partySubType currency : Js.Str) → Proc JsError σ Unit
  disassociateParticipant :
    OracleAdapter → (fspId partyType partyId partySubType currency : Js.Str) → Proc JsError σ Unit

/-- `IOracleFinder` -/
structure OracleFinder (σ : Type) where
  init : Proc JsError σ Unit
  destroy : Proc JsError σ Unit
  addOracle : Oracle → Proc JsError σ Unit
  removeOracle : (id : String) → Proc JsError σ Unit
  getAllOracles : Proc JsError σ (List Oracle)
  getOracleById : (id : Js.Value) → Proc JsError σ (Option Oracle)
  getOracleByName : (name : Js.Value) → Proc JsError σ (Option Oracle)
  getOracle : (partyType currency : Js.Str) → Proc JsError σ (Option Oracle)

/-- A call on the call-duration histogram: the start of a timer, or its end with a success label. -/
inductive HistoCall where
  | startTimer (callName : String)
  | timerEnd (callName : String) (success : Bool)
  deriving DecidableEq, Repr

/-- The fields of `AccountLookupAggregate`.  `oracleProvidersAdapters` is the part of the state that
holds its list of adapters. -/
structure Aggregate (σ : Type) where
  oracleFinder : OracleFinder σ
  oracleProvidersFactory : Oracle → Except JsError OracleAdapter
  oracleProvider : OracleProvider σ
  getParticipantInfo : (fspId : Js.Str) → Proc JsError σ (Option Participant)
  oracleProvidersAdapters : Lens σ (List OracleAdapter)
  histo : HistoCall → Proc JsError σ Unit
  randomUUID : Proc JsError σ String

variable {σ : Type}

namespace Aggregate

variable (agg : Aggregate σ)

/-! ### Participant checks -/

/-- The event of a participant that fails its check. -/
def participantErrorEvent (role : ParticipantRole) (fault : ParticipantFault)
    (partyId partyType partySubType participantId : Js.Str) : DomainEvent where
  msgName := .participantError role fault
  payload :=
    { partyId, partyType, partySubType
      requesterFspId := if role = .requester then participantId else .undefined
      destinationFspId := if role = .destination then participantId else .undefined
      errorCode := .val (fault.errorCode role) }

/-- The two participant checks, which differ in the timer that they start and in their events. -/
def validateParticipantInfoOrGetErrorEvent (role : ParticipantRole) (callName : String)
    (partyId partyType partySubType participantId : Js.Str) :
    Proc JsError σ (Option DomainEvent) := do
  let failWith (fault : ParticipantFault) : Proc JsError σ (Option DomainEvent) := do
    agg.histo (.timerEnd callName false)
    pure (some (participantErrorEvent role fault partyId partyType partySubType participantId))
  agg.histo (.startTimer callName)
  if participantId.truthy then
    agg.histo (.startTimer "participantService.getParticipantInfo")
    let outcome ← Proc.attempt do
      let participant ← agg.getParticipantInfo participantId
      agg.histo (.timerEnd "participantService.getParticipantInfo" true)
      pure participant
    match outcome with
    | .error _ =>
      agg.histo (.timerEnd "participantService.getParticipantInfo" false)
      failWith .invalid
    | .ok none => failWith .notFound
    | .ok (some participant) =>
      if participant.id ≠ participantId then failWith .idMismatch
      else if !participant.approved then failWith .notApproved
      else if !participant.isActive then failWith .notActive
      else
        agg.histo (.timerEnd callName true)
        pure none
  else failWith .invalid

def validateRequesterParticipantInfoOrGetErrorEvent
    (partyId partyType partySubType participantId : Js.Str) :
    Proc JsError σ (Option DomainEvent) :=
  agg.validateParticipantInfoOrGetErrorEvent .requester
    "validateRequesterParticipantInfoOrGetErrorEvent" partyId partyType partySubType participantId

def validateDestinationParticipantInfoOrGetErrorEvent
    (partyId partyType partySubType participantId : Js.Str) :
    Proc JsError σ (Option DomainEvent) :=
  agg.validateParticipantInfoOrGetErrorEvent .destination
    "validateDestinationParticipantInfoOrGetErrorEvent" partyId partyType partySubType participantId

/-! ### Oracles -/

def getOracleAdapter (partyType currency : Js.Str) : Proc JsError σ OracleAdapter := do
  let typeText := partyType.text
  let currencyText := currency.getD "Not Provided"
  let failWith (cls : ErrorClass) (message : String) : Proc JsError σ OracleAdapter := do
    agg.histo (.timerEnd "getOracleAdapter" false)
    Proc.reject ⟨cls, message⟩
  agg.histo (.startTimer "getOracleAdapter")
  match ← (agg.oracleFinder.getOracle partyType currency).attempt with
  | .error _ =>
    failWith .unableToGetOracleFromOracleFinderError
      s!"Unable to get oracle for partyType: {typeText} and currency: {currencyText}"
  | .ok none =>
    failWith .oracleNotFoundError
      s!"Oracle for partyType: {typeText} and currency: {currencyText} not found"
  | .ok (some oracle) =>
    let adapters ← Proc.read agg.oracleProvidersAdapters.get
    match adapters.find? fun adapter => adapter.oracleId.strictEq oracle.id with
    | none =>
      let idText := oracle.id.text
      failWith .noSuchOracleAdapterError
        s!"Oracle adapter for {typeText} and id: {idText} not present in oracle list"
    | some oracleAdapter =>
      agg.histo (.timerEnd "getOracleAdapter" true)
      pure oracleAdapter

def getParticipantIdFromOracle (partyId partyType partySubType currency : Js.Str) :
    Proc JsError σ Js.Str := do
  let idText := partyId.text
  let typeText := partyType.text
  let currencyText := currency.text
  agg.histo (.startTimer "getParticipantIdFromOracle")
  let oracleAdapter ← agg.getOracleAdapter partyType currency
  let outcome ←
    (agg.oracleProvider.getParticipantFspId oracleAdapter partyType partyId partySubType
      currency).attempt
  match outcome with
  | .error _ =>
    agg.histo (.timerEnd "getParticipantIdFromOracle" false)
    Proc.reject ⟨.unableToGetParticipantFspIdError, "Unable to get participant fspId for " ++
      s!"partyId: {idText}, partyType: {typeText}, currency: {currencyText} from oracle"⟩
  | .ok fspId =>
    if fspId.truthy then
      agg.histo (.timerEnd "getParticipantIdFromOracle" true)
      pure fspId
    else
      agg.histo (.timerEnd "getParticipantIdFromOracle" false)
      Proc.reject ⟨.participantNotFoundError, s!"PartyId:{idText} has no fspId associated in oracle"⟩

/-- The lookup of a handler, whose failure is answered with an event. -/
def participantIdFromOracleOrErrorEvent (partyId partyType partySubType currency : Js.Str) :
    Proc JsError σ (Except DomainEvent Js.Str) := do
  match ← (agg.getParticipantIdFromOracle partyId partyType partySubType currency).attempt with
  | .ok fspId => pure (.ok fspId)
  | .error _ =>
    pure <| .error
      { msgName := .unableToGetParticipantFromOracleErrorEvent
        payload :=
          { partyId, partySubType, partyType, currency
            errorCode := .val "UNABLE_TO_GET_PARTICIPANT_FROM_ORACLE" } }

/-! ### Message handlers -/

/-- What the five handlers that relay a message between two participants have in common: the
requester is checked, then the destination that `resolveDestination` finds, and `answer` is the event
of a message that passes both checks. -/
def relay (callName : String) (partyId partyType partySubType requesterFspId : Js.Str)
    (resolveDestination : Proc JsError σ (Except DomainEvent Js.Str))
    (answer : (destinationFspId : Js.Str) → DomainEvent) : Proc JsError σ DomainEvent := do
  let failWith (event : DomainEvent) : Proc JsError σ DomainEvent := do
    agg.histo (.timerEnd callName false)
    pure event
  agg.histo (.startTimer callName)
  match ← agg.validateRequesterParticipantInfoOrGetErrorEvent partyId partyType partySubType
      requesterFspId with
  | some requesterParticipantError => failWith requesterParticipantError
  | none =>
    match ← resolveDestination with
    | .error event => failWith event
    | .ok destinationFspId =>
      match ← agg.validateDestinationParticipantInfoOrGetErrorEvent partyId partyType partySubType
          destinationFspId with
      | some destinationParticipantError => failWith destinationParticipantError
      | none =>
        agg.histo (.timerEnd callName true)
        pure (answer destinationFspId)

def handlePartyQueryReceivedEvt (message : Message) : Proc JsError σ DomainEvent :=
  let p := message.fields
  agg.relay "handlePartyQueryReceivedEvt" p.partyId.orNull p.partyType.orNull p.partySubType.orNull
    p.requesterFspId.orNull
    (if p.destinationFspId.orNull.truthy then pure (.ok p.destinationFspId.orNull)
      else agg.participantIdFromOracleOrErrorEvent p.partyId.orNull p.partyType.orNull
        p.partySubType.orNull p.currency.orNull)
    fun destinationFspId =>
      { msgName := .partyInfoRequestedEvt
        payload :=
          { requesterFspId := p.requesterFspId
            destinationFspId
            partyType := p.partyType
            partyId := p.partyId
            partySubType := p.partySubType
            currency := p.currency } }

def handlePartyInfoAvailableEvt (message : Message) : Proc JsError σ DomainEvent :=
  let p := message.fields
  agg.relay "handlePartyInfoAvailableEvt" p.partyId.orNull p.partyType.orNull p.partySubType.orNull
    p.requesterFspId.orNull (pure (.ok p.destinationFspId.orNull))
    fun _ =>
      { msgName := .partyQueryResponseEvt
        payload :=
          { requesterFspId := p.requesterFspId
            destinationFspId := p.destinationFspId
            partyDoB := p.partyDoB
            merchantClassificationCode := p.merchantClassificationCode
            name := p.name
            firstName := p.firstName
            middleName := p.middleName
            lastName := p.lastName
            ownerFspId := p.ownerFspId
            partyType := p.partyType
            partyId := p.partyId
            partySubType := p.partySubType
            currency := p.currency
            kycInfo := p.kycInfo
            supportedCurrencies := p.supportedCurrencies
            extensions := p.extensions } }

def handleParticipantQueryReceivedEvt (message : Message) : Proc JsError σ DomainEvent :=
  let p := message.fields
  agg.relay "handleParticipantQueryReceivedEvt" p.partyId p.partyType p.partySubType
    p.requesterFspId
    (agg.participantIdFromOracleOrErrorEvent p.partyId p.partyType p.partySubType p.currency)
    fun ownerFspId =>
      { msgName := .participantQueryResponseEvt
        payload :=
          { requesterFspId := p.requesterFspId
            ownerFspId
            partyType := p.partyType
            partyId := p.partyId
            partySubType := p.partySubType
            currency := p.currency } }

/-- The answer to a rejection: the party with the error information that the message carries. -/
def rejectedResponse (msgName : EventName) (p : Payload) : DomainEvent where
  msgName := msgName
  payload :=
    { partyId := p.partyId
      partyType := p.partyType
      partySubType := p.partySubType
      currency := p.currency
      errorInformation := p.errorInformation }

def getPartyRejected (message : Message) : Proc JsError σ DomainEvent :=
  let p := message.fields
  agg.relay "handlePartyRejectedEvt" p.partyId.orNull p.partyType.orNull p.partySubType.orNull
    p.requesterFspId.orNull (pure (.ok p.destinationFspId.orNull))
    fun _ => rejectedResponse .partyRejectedResponseEvt p

def getParticipantRejected (message : Message) : Proc JsError σ DomainEvent :=
  let p := message.fields
  agg.relay "handleParticipantRejectedEvt" p.partyId.orNull p.partyType.orNull p.partySubType.orNull
    p.requesterFspId.orNull (pure (.ok p.destinationFspId.orNull))
    fun _ => rejectedResponse .participantRejectedResponseEvt p

/-- What the handlers that add or remove an association have in common: the owner is checked, the
adapter is selected, and `change` is made through it, whose failure is answered with `failure`. -/
def changeAssociation (callName : String)
    (partyId partyType partySubType ownerFspId currency : Js.Str)
    (change : OracleAdapter → Proc JsError σ Unit) (failure answer : DomainEvent) :
    Proc JsError σ DomainEvent := do
  let failWith (event : DomainEvent) : Proc JsError σ DomainEvent := do
    agg.histo (.timerEnd callName false)
    pure event
  agg.histo (.startTimer callName)
  match ← agg.validateRequesterParticipantInfoOrGetErrorEvent partyId partyType partySubType
      ownerFspId with
  | some ownerParticipantError => failWith ownerParticipantError
  | none =>
    match ← (agg.getOracleAdapter partyType currency).attempt with
    | .error _ =>
      failWith
        { msgName := .unableToGetOracleAdapterErrorEvent
          payload :=
            { partyId, partyType, currency, errorCode := .val "UNABLE_TO_GET_ORACLE_ADAPTER" } }
    | .ok oracleAdapter =>
      match ← (change oracleAdapter).attempt with
      | .error _ => failWith failure
      | .ok () =>
        agg.histo (.timerEnd callName true)
        pure answer

def handleParticipantAssociationRequestReceivedEvt (message : Message) :
    Proc JsError σ DomainEvent :=
  let p := message.fields
  agg.changeAssociation "handleParticipantAssociationRequestReceivedEvt" p.partyId p.partyType
    p.partySubType p.ownerFspId p.currency
    (fun oracleAdapter =>
      agg.oracleProvider.associateParticipant oracleAdapter p.ownerFspId p.partyType p.partyId
        p.partySubType p.currency)
    { msgName := .unableToAssociateParticipantErrorEvent
      payload :=
        { fspIdToAssociate := p.ownerFspId
          partyType := p.partyType
          partyId := p.partyId
          currency := p.currency
          errorCode := .val "UNABLE_TO_ASSOCIATE_PARTICIPANT" } }
    { msgName := .participantAssociationCreatedEvt
      payload :=
        { partyId := p.partyId
          ownerFspId := p.ownerFspId
          partyType := p.partyType
          partySubType := p.partySubType
          extensions := p.extensions } }

def handleParticipantDisassociateRequestReceivedEvt (message : Message) :
    Proc JsError σ DomainEvent :=
  let p := message.fields
  agg.changeAssociation "handleParticipantDisassociateRequestReceivedEvt" p.partyId.orNull
    p.partyType.orNull p.partySubType.orNull p.ownerFspId.orNull p.currency.orNull
    (fun oracleAdapter =>
      agg.oracleProvider.disassociateParticipant oracleAdapter p.ownerFspId.orNull
        p.partyType.orNull p.partyId.orNull p.partySubType.orNull p.currency.orNull)
    { msgName := .unableToDisassociateParticipantErrorEvent
      payload :=
        { fspIdToDisassociate := p.ownerFspId.orNull
          partyId := p.partyId.orNull
          partyType := p.partyType.orNull
          currency := p.currency.orNull
          errorCode := .val "UNABLE_TO_DISASSOCIATE_PARTICIPANT" } }
    { msgName := .participantAssociationRemovedEvt
      payload :=
        { partyId := p.partyId
          ownerFspId := p.ownerFspId
          partyType := p.partyType
          partySubType := p.partySubType } }

/-! ### Dispatch -/

/-- The event about a message that no handler takes. -/
def invalidMessageEvent (msgName : EventName) (errorCode : String) (p : Payload) : DomainEvent where
  msgName := msgName
  payload :=
    { partyId := p.partyId.orNull
      partyType := p.partyType.orNull
      partySubType := p.partySubType.orNull
      requesterFspId := p.requesterFspId.orNull
      errorCode := .val errorCode }

def validateMessageOrGetErrorEvent (message : Message) : Option DomainEvent :=
  if message.payload.isNone then
    some (invalidMessageEvent .invalidMessagePayloadErrorEvent "INVALID_MESSAGE_PAYLOAD"
      message.fields)
  else if message.msgType ≠ .domainEvent then
    some (invalidMessageEvent .invalidMessageTypeErrorEvent "INVALID_MESSAGE_TYPE" message.fields)
  else none

/-- The `switch` of `handleEvent`. -/
def dispatch (message : Message) : Proc JsError σ DomainEvent :=
  match message.msgName with
  | .partyQueryReceivedEvt => agg.handlePartyQueryReceivedEvt message
  | .partyInfoAvailableEvt => agg.handlePartyInfoAvailableEvt message
  | .participantQueryReceivedEvt => agg.handleParticipantQueryReceivedEvt message
  | .participantAssociationRequestReceivedEvt =>
    agg.handleParticipantAssociationRequestReceivedEvt message
  | .participantDisassociateRequestReceivedEvt =>
    agg.handleParticipantDisassociateRequestReceivedEvt message
  | .partyRejectedEvt => agg.getPartyRejected message
  | .participantRejectedEvt => agg.getParticipantRejected message
  | .other _ =>
    pure (invalidMessageEvent .invalidMessageTypeErrorEvent "INVALID_MESSAGE_PAYLOAD"
      message.fields)

def handleEvent (message : Message) : Proc JsError σ DomainEvent :=
  match validateMessageOrGetErrorEvent message with
  | some errorMessage =>
    pure { errorMessage with
      inboundProtocolType := message.inboundProtocolType
      inboundProtocolOpaqueState := message.inboundProtocolOpaqueState }
  | none => do
    match ← (agg.dispatch message).attempt with
    | .ok eventToPublish => pure eventToPublish
    | .error _ =>
      let p := message.fields
      pure
        { msgName := .unknownErrorEvent
          payload :=
            { partyId := p.partyId.orNull
              partyType := p.partyType.orNull
              currency := p.currency.orNull
              requesterFspId := p.requesterFspId.orNull
              errorCode := .val "COMMAND_TYPE_UNKNOWN" } }

/-! ### Account lookup route -/

def getAccountLookUp (partyId partyType partySubType currency : Js.Str) :
    Proc JsError σ Js.Str := do
  let idText := partyId.text
  let typeText := partyType.text
  let currencyText := currency.text
  match ← (agg.getParticipantIdFromOracle partyId partyType partySubType currency).attempt with
  | .ok fspId => pure fspId
  | .error error =>
    if error.cls = .participantNotFoundError then Proc.reject error
    else
      Proc.reject ⟨.unableToGetParticipantFspIdError, "Unable to get participant fspId for " ++
        s!"partyId: {idText}, partyType: {typeText}, currency: {currencyText}"⟩

end Aggregate

/-- The status of the answer to a valid lookup by a privileged caller. -/
def AccountLookupExpressRoutes.getAccountLookUp (agg : Aggregate σ)
    (partyId partyType partySubType currency : Js.Str) : Proc JsError σ Nat := do
  match ← (agg.getAccountLookUp partyId partyType partySubType currency).attempt with
  | .ok _ => pure 200
  | .error error =>
    pure (if error.cls = .forbiddenError then 403
      else if error.cls = .participantNotFoundError then 404 else 500)

end AccountLookup
