import AccountLookup.Model.RemoteOracle

/-! `HttpOracleProvider`: the adapter of a remote oracle, whose endpoint is the origin of a remote
oracle service. -/

namespace AccountLookup

open Async

namespace HttpOracleProvider

def init (adapter : OracleAdapter) : Except JsError Unit :=
  if adapter.oracle.endpoint.truthy then .ok ()
  else .error ⟨.unableToInitRemoteOracleProvider, "No endpoint defined for oracle"⟩

/-- The URL of a party, which the three requests build in the same way. -/
def participantUrl (partyType partyId partySubType currency : Js.Str) : String :=
  "/participants/" ++ partyType.text ++ "/" ++ partyId.text ++
    (if partySubType.truthy then "?partySubType=/" ++ partySubType.text else "") ++
    if currency.truthy then "?currency=" ++ currency.text else ""

def participantRequest (method : HttpMethod) (fspId : Js.Str)
    (partyType partyId partySubType currency : Js.Str) : HttpRequest where
  method := method
  target := Url.parse (participantUrl partyType partyId partySubType currency).toList
  fspId := fspId

variable (faults : Faults)

/-- A request of the client, which rejects on any status outside 2xx. -/
def request (req : HttpRequest) : Proc JsError RemoteOracle HttpResponse := do
  send faults .httpRequest fun s => ((), s)
  let response ← RemoteOracleExpressRoutes.handle faults req
  if 200 ≤ response.status ∧ response.status < 300 then pure response
  else
    let status := response.status
    Proc.reject ⟨.error, s!"Request failed with status code {status}"⟩

/-- The end of the messages about a party. -/
def partyText (partyType partyId partySubType currency : Js.Str) : String :=
  "partyType: " ++ partyType.text ++ ", partyId: " ++ partyId.text ++ ", partySubType: " ++
    partySubType.text ++ ", currency: " ++ currency.text

def getParticipantFspId (partyType partyId partySubType currency : Js.Str) :
    Proc JsError RemoteOracle Js.Str := do
  let response ←
    (request faults (participantRequest .get .undefined partyType partyId partySubType
      currency)).rethrow fun _ => ⟨.unableToGetParticipantError,
        "getParticipantFspId: error getting participant fspId for " ++
          partyText partyType partyId partySubType currency⟩
  pure response.fspId.orNull

def associateParticipant (fspId partyType partyId partySubType currency : Js.Str) :
    Proc JsError RemoteOracle Unit := do
  let _ ←
    (request faults (participantRequest .post fspId partyType partyId partySubType
      currency)).rethrow fun _ => ⟨.unableToAssociateParticipantError,
        "associateParticipant: error associating participant for " ++
          partyText partyType partyId partySubType currency ++ " with fspId: " ++ fspId.text⟩

def disassociateParticipant (fspId partyType partyId partySubType currency : Js.Str) :
    Proc JsError RemoteOracle Unit := do
  let _ ←
    (request faults (participantRequest .delete fspId partyType partyId partySubType
      currency)).rethrow fun _ => ⟨.unableToDisassociateParticipantError,
        "disassociateParticipant: error disassociating participant for " ++
          partyText partyType partyId partySubType currency ++ " with fspId: " ++ fspId.text⟩

def healthCheck : Proc JsError RemoteOracle Bool := do
  let get : HttpRequest :=
    { method := .get, target := Url.parse "/health".toList, fspId := .undefined }
  match ← (request faults get).attempt with
  | .ok response => pure (response.status = 200)
  | .error _ => pure false

end HttpOracleProvider

end AccountLookup
