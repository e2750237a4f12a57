import AccountLookup.Model.OracleAdmin
import AccountLookup.Model.RemoteOracle

/-! `RemoteOracleExpressRoutes` for every request: with a body of any kind, any query string, and the
other places in which the check of `fspId` looks for it. -/

namespace AccountLookup

open Async OracleAdminExpressRoutes

/-- A request to the service.  `fspId` is that of the body, and `others` are the headers and the
cookies; no parameter of the path has that name. -/
structure RouteRequest where
  method : HttpMethod
  target : Url.Target
  fspId : Js.Value
  others : Locations

/-- What the query parser makes of a query string: `req.query[key]`, and its
`?.toString() ?? null`, which throws when the query replaces the method. -/
structure QueryParser where
  value : Option (List Char) → String → Js.Value
  text : Option (List Char) → String → Except JsError Js.Str

namespace RemoteOracleExpressRoutes.Handlers

/-- `req.body["fspId"] ?? null` of a request that passes the check: a string, or `null` when the body
has none. -/
def bodyFspId (request : RouteRequest) : Js.Str :=
  match request.fspId with
  | .str s => .val s
  | _ => .null

variable (parser : QueryParser) (faults : Faults)

/-- The places of the request that have `fspId`, in the order in which they are looked at. -/
def fspIds (request : RouteRequest) : List Js.Value :=
  (request.fspId :: (parser.value request.target.query :: request.others).map (· "fspId")).filter
    (· ≠ .undefined)

/-- `check("fspId").isString().notEmpty()` -/
def validateRequest (request : RouteRequest) : Bool :=
  check isNonEmptyString request.fspId (parser.value request.target.query :: request.others) "fspId"

def extractRequestParams (request : RouteRequest) (partyType partyId : String) :
    Except JsError RequestParams := do
  let partySubType ← parser.text request.target.query "partySubType"
  let currency ← parser.text request.target.query "currency"
  pure { partyType, partyId, partySubType, currency }

/-- The answer to a lookup of a party. -/
def lookUp (params : RequestParams) : Proc JsError RemoteOracle HttpResponse := do
  let fetched ← RemoteOracle.getParticipantFspId params.partyType params.partyId params.partySubType
    params.currency
  if fetched.truthy then pure { status := 200, fspId := fetched } else pure { status := 404 }

def getParticipantFspId (request : RouteRequest) (partyType partyId : String) :
    Proc JsError RemoteOracle HttpResponse := do
  lookUp (← Proc.ofExcept (extractRequestParams parser request partyType partyId))

/-- What the handlers of the two changes share. -/
def handleChange (operation : Js.Str → RequestParams → Proc JsError RemoteOracle Unit)
    (request : RouteRequest) (partyType partyId : String) :
    Proc JsError RemoteOracle HttpResponse :=
  if validateRequest parser request then do
    let params ← Proc.ofExcept (extractRequestParams parser request partyType partyId)
    answerChange (operation (bodyFspId request) params)
  else pure { status := 422 }

def associateParticipant :
    RouteRequest → (partyType partyId : String) → Proc JsError RemoteOracle HttpResponse :=
  handleChange parser fun fspId params =>
    RemoteOracle.associateParticipant faults fspId params.partyType params.partyId
      params.partySubType params.currency

def disassociateParticipant :
    RouteRequest → (partyType partyId : String) → Proc JsError RemoteOracle HttpResponse :=
  handleChange parser fun fspId params =>
    RemoteOracle.disassociateParticipant faults fspId params.partyType params.partyId
      params.partySubType params.currency

/-- The service's handling of a request. -/
def serve (request : RouteRequest) : Proc JsError RemoteOracle HttpResponse :=
  match route request.target.path, request.method with
  | .health, .get => pure { status := 200 }
  | .participant partyType partyId, _ =>
    match Url.decodeURIComponent partyType, Url.decodeURIComponent partyId with
    | some partyType, some partyId =>
      match request.method with
      | .get =>
        getParticipantFspId parser request (String.ofList partyType) (String.ofList partyId)
      | .post =>
        associateParticipant parser faults request (String.ofList partyType)
          (String.ofList partyId)
      | .delete =>
        disassociateParticipant parser faults request (String.ofList partyType)
          (String.ofList partyId)
    | _, _ => pure { status := 400 }
  | _, _ => pure { status := 404 }

end RemoteOracleExpressRoutes.Handlers

/-! ### Requests of a client -/

/-- The parser on a query whose names have no brackets: a repeated name has an array of strings. -/
def QueryParser.plain : QueryParser where
  value query key :=
    match Url.queryValues query key with
    | [] => .undefined
    | [value] => .str value
    | values => .ofStrings values
  text query key := .ok (RemoteOracleExpressRoutes.queryParam query key)

/-- A request whose body has a string, if anything, and that has `fspId` in no header or cookie. -/
def HttpRequest.toRouteRequest (request : HttpRequest) : RouteRequest where
  method := request.method
  target := request.target
  fspId := request.fspId.toValue
  others := []

namespace RemoteOracleExpressRoutes.Handlers

theorem bodyFspId_toRouteRequest (request : HttpRequest) :
    bodyFspId request.toRouteRequest = request.fspId.orNull := by
  unfold bodyFspId HttpRequest.toRouteRequest
  cases request.fspId <;> rfl

theorem validateRequest_toRouteRequest (request : HttpRequest) :
    validateRequest .plain request.toRouteRequest = validFspId request := by
  simp only [validateRequest, validFspId, check, HttpRequest.toRouteRequest, QueryParser.plain,
    List.map_cons, List.map_nil]
  generalize Url.queryValues request.target.query "fspId" = values
  rcases values with _ | ⟨value, _ | ⟨other, rest⟩⟩ <;> cases request.fspId <;>
    simp [isNonEmptyString, Js.Field.toValue, Js.Field.truthy, Js.Value.ofStrings]

/-- On the requests of a client the service does what `RemoteOracleExpressRoutes.handle` says. -/
theorem serve_toRouteRequest (faults : Faults) (request : HttpRequest) :
    serve .plain faults request.toRouteRequest = handle faults request := by
  have htarget : request.toRouteRequest.target = request.target := rfl
  have hmethod : request.toRouteRequest.method = request.method := rfl
  unfold serve handle
  rw [htarget, hmethod]
  cases route request.target.path with
  | health => cases request.method <;> rfl
  | none => rfl
  | participant partyType partyId =>
    dsimp only [RemoteOracleExpressRoutes.extractRequestParams]
    cases Url.decodeURIComponent partyType with
    | none => rfl
    | some partyType =>
      cases Url.decodeURIComponent partyId with
      | none => rfl
      | some partyId =>
        cases request.method with
        | get => rfl
        | post | delete =>
          simp only [associateParticipant, disassociateParticipant, handleChange,
            validateRequest_toRouteRequest, bodyFspId_toRouteRequest]
          rfl

end RemoteOracleExpressRoutes.Handlers

end AccountLookup
