import AccountLookup.Js.Value

/-! The messages that the service consumes and the events that it publishes, with the entities and
the errors that the domain functions exchange. -/

namespace AccountLookup

/-! ### Errors -/

inductive ErrorClass where
  | participantNotFoundError
  | unableToGetParticipantFspIdError
  | unableToGetOracleFromOracleFinderError
  | duplicateOracleError
  | noSuchOracleAdapterError
  | unableToRemoveOracleError
  | oracleNotFoundError
  | noSuchOracleError
  | oracleAlreadyRegisteredError
  | oracleTypeNotSupportedError
  | unableToGetOracleError
  | unableToRegisterOracleError
  | unableToDeleteOracleError
  | unableToInitOracleFinderError
  | unableToInitOracleProvider
  | unableToInitRemoteOracleProvider
  | unableToCloseDatabaseConnectionError
  | participantAssociationAlreadyExistsError
  | unableToGetParticipantError
  | unableToAssociateParticipantError
  | unableToDisassociateParticipantError
  | unableToGetAssociationsError
  | unableToGetAssociationError
  | unableToGetOracleAssociationsError
  | forbiddenError
  | error
  deriving DecidableEq, Repr

/-- A thrown `Error`: its class and message.  Errors of the drivers are of class `error`. -/
structure JsError where
  cls : ErrorClass
  message : String
  deriving DecidableEq, Repr

/-! ### Entities -/

/-- What the participant service knows of a participant. -/
structure Participant where
  id : Js.Str
  approved : Bool
  isActive : Bool
  deriving DecidableEq, Repr

inductive OracleType where
  | builtin
  | remoteHttp
  deriving DecidableEq, Repr

/-- `OracleType` as the string that documents and requests hold. -/
def OracleType.name : OracleType → String
  | .builtin => "builtin"
  | .remoteHttp => "remote-http"

/-- An oracle document, and the body of a request to add one.  Nothing checks the types of its
fields at run time, so each is any JSON value. -/
structure Oracle where
  id : Js.Value
  name : Js.Value
  type : Js.Value
  partyType : Js.Value
  currency : Js.Value
  endpoint : Js.Value
  deriving DecidableEq, Repr

/-! ### Messages -/

/-- The fields that message and event payloads carry; one that a payload lacks is `undefined`. -/
structure Payload where
  partyId : Js.Str := .undefined
  partyType : Js.Str := .undefined
  partySubType : Js.Str := .undefined
  currency : Js.Str := .undefined
  requesterFspId : Js.Str := .undefined
  destinationFspId : Js.Str := .undefined
  ownerFspId : Js.Str := .undefined
  fspIdToAssociate : Js.Str := .undefined
  fspIdToDisassociate : Js.Str := .undefined
  partyDoB : Js.Value := .undefined
  merchantClassificationCode : Js.Value := .undefined
  name : Js.Value := .undefined
  firstName : Js.Value := .undefined
  middleName : Js.Value := .undefined
  lastName : Js.Value := .undefined
  kycInfo : Js.Value := .undefined
  supportedCurrencies : Js.Value := .undefined
  errorInformation : Js.Value := .undefined
  extensions : Js.Value := .undefined
  errorCode : Js.Str := .undefined
  deriving DecidableEq, Repr

inductive MessageType where
  | domainEvent
  | other (name : String)
  deriving DecidableEq, Repr

inductive MessageName where
  | partyQueryReceivedEvt
  | partyInfoAvailableEvt
  | participantQueryReceivedEvt
  | participantAssociationRequestReceivedEvt
  | participantDisassociateRequestReceivedEvt
  | partyRejectedEvt
  | participantRejectedEvt
  | other (name : String)
  deriving DecidableEq, Repr

/-- A message off the topic.  `payload` is `none` for every value that counts as false. -/
structure Message where
  msgType : MessageType
  msgName : MessageName
  payload : Option Payload
  inboundProtocolType : Js.Value := .undefined
  inboundProtocolOpaqueState : Js.Value := .undefined
  tracingInfo : Js.Value := .undefined
  deriving DecidableEq, Repr

/-- `message.payload?.field` for every field: all `undefined` without a payload. -/
def Message.fields (message : Message) : Payload := message.payload.getD {}

/-! ### Events -/

/-- A participant is checked as the requester of a message or as its destination. -/
inductive ParticipantRole where
  | requester
  | destination
  deriving DecidableEq, Repr

/-- Why a participant fails its check. -/
inductive ParticipantFault where
  | invalid
  | notFound
  | idMismatch
  | notApproved
  | notActive
  deriving DecidableEq, Repr

/-- The published events.  `participantError role fault` stands for the ten events about a
participant, whose class names are `AccountLookupBCInvalidRequesterParticipantErrorEvent`,
`AccountLookupBCRequesterParticipantNotFoundErrorEvent`,
`AccountLookupBCRequiredRequesterParticipantIdMismatchErrorEvent`,
`AccountLookupBCRequiredRequesterParticipantIsNotApprovedErrorEvent`,
`AccountLookupBCRequiredRequesterParticipantIsNotActiveErrorEvent`, and the same with
`Destination`. -/
inductive EventName where
  | partyInfoRequestedEvt
  | partyQueryResponseEvt
  | participantQueryResponseEvt
  | partyRejectedResponseEvt
  | participantRejectedResponseEvt
  | participantAssociationCreatedEvt
  | participantAssociationRemovedEvt
  | invalidMessagePayloadErrorEvent
  | invalidMessageTypeErrorEvent
  | unknownErrorEvent
  | unableToGetParticipantFromOracleErrorEvent
  | unableToGetOracleAdapterErrorEvent
  | unableToAssociateParticipantErrorEvent
  | unableToDisassociateParticipantErrorEvent
  | participantError (role : ParticipantRole) (fault : ParticipantFault)
  deriving DecidableEq, Repr

/-- The event that answers each message when all its checks pass. -/
def MessageName.response : MessageName → Option EventName
  | .partyQueryReceivedEvt => some .partyInfoRequestedEvt
  | .partyInfoAvailableEvt => some .partyQueryResponseEvt
  | .participantQueryReceivedEvt => some .participantQueryResponseEvt
  | .participantAssociationRequestReceivedEvt => some .participantAssociationCreatedEvt
  | .participantDisassociateRequestReceivedEvt => some .participantAssociationRemovedEvt
  | .partyRejectedEvt => some .partyRejectedResponseEvt
  | .participantRejectedEvt => some .participantRejectedResponseEvt
  | .other _ => none

/-- The seven events that are not errors. -/
def EventName.isSuccess : EventName → Bool
  | .partyInfoRequestedEvt | .partyQueryResponseEvt | .participantQueryResponseEvt
  | .partyRejectedResponseEvt | .participantRejectedResponseEvt
  | .participantAssociationCreatedEvt | .participantAssociationRemovedEvt => true
  | _ => false

/-- `AccountLookupErrorCodeNames` for a participant that fails its check. -/
def ParticipantFault.errorCode : ParticipantRole → ParticipantFault → String
  | .requester, .invalid => "INVALID_SOURCE_PARTICIPANT"
  | .requester, .notFound => "SOURCE_PARTICIPANT_NOT_FOUND"
  | .requester, .idMismatch => "REQUIRED_SOURCE_PARTICIPANT_ID_MISMATCH"
  | .requester, .notApproved => "REQUIRED_SOURCE_PARTICIPANT_NOT_APPROVED"
  | .requester, .notActive => "REQUIRED_SOURCE_PARTICIPANT_NOT_ACTIVE"
  | .destination, .invalid => "INVALID_DESTINATION_PARTICIPANT"
  | .destination, .notFound => "DESTINATION_PARTICIPANT_NOT_FOUND"
  | .destination, .idMismatch => "REQUIRED_DESTINATION_PARTICIPANT_ID_MISMATCH"
  | .destination, .notApproved => "REQUIRED_DESTINATION_PARTICIPANT_NOT_APPROVED"
  | .destination, .notActive => "REQUIRED_DESTINATION_PARTICIPANT_NOT_ACTIVE"

structure DomainEvent where
  msgName : EventName
  payload : Payload
  inboundProtocolType : Js.Value := .undefined
  inboundProtocolOpaqueState : Js.Value := .undefined
  tracingInfo : Js.Value := .undefined
  deriving DecidableEq, Repr

end AccountLookup
