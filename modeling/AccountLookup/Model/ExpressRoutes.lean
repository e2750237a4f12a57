import AccountLookup.Js.Number
import AccountLookup.Model.OracleListing

/-! The HTTP side of the service: `BaseRoutes`, which authenticates a caller and checks its
privileges, the two routers built on it, and the service that mounts them. -/

namespace AccountLookup

open Async RemoteOracleExpressRoutes

/-! ### Requests and responses -/

namespace Express

/-- The methods that have routes, and the others.  `OPTIONS`, which the framework answers itself, is
none of them. -/
inductive Method where
  | get
  | head
  | post
  | delete
  | other
  deriving DecidableEq, Repr

/-- A route for `GET` takes `HEAD` too. -/
def Method.reads (method : Method) : Bool := method = .get || method = .head

/-- A field of a parsed query, with the text that `toString` gives for it, or the error that it
throws. -/
structure QueryValue where
  value : Js.Value
  text : Except JsError String

/-- A request.  The path is split at its slashes, after the first one, and is percent-encoded.  A body
that the parsers refuse has the status of their answer. -/
structure Request where
  method : Method
  path : List (List Char)
  query : String → QueryValue
  headers : String → Js.Str
  body : Except Nat (String → Js.Value)

inductive Body where
  | empty
  | text (text : String)
  | error (msg : String)
  | errors (report : String)
  | oracles (oracles : List Oracle)
  | oracle (oracle : Oracle)
  | associations (associations : List AssociationRecord)
  | searchResults (results : Option AssociationsSearchResults)
  | searchKeywords (keywords : List SearchKeywords)
  | healthy (healthy : Bool)
  | createdId (id : Js.Value)
  | fspId (fspId : Js.Str)
  deriving DecidableEq, Repr

structure Response where
  status : Nat
  body : Body
  deriving DecidableEq, Repr

/-- What a router makes of a path: a handler with the parameters of the path, or none of which the
parameters can be decoded, or none. -/
inductive Routed (ε : Type) where
  | handler (endpoint : ε)
  | undecodable
  | unmatched
  deriving DecidableEq, Repr

/-- The path that is left for a router mounted at `constant`: one slash more than there need be is
dropped. -/
def mount (constant : String) : List (List Char) → Option (List (List Char))
  | [] => none
  | first :: rest =>
    if isConstant first constant then
      match rest with
      | [] => some [[]]
      | [] :: next :: rest => some (next :: rest)
      | rest => some rest
    else none

/-- A path without the slash at its end, which no route needs. -/
def dropSlash (path : List (List Char)) : List (List Char) :=
  if path.getLast? = some [] then path.dropLast else path

end Express

/-! ### Authentication and privileges -/

inductive AccountLookupPrivileges where
  | viewAllOracles
  | createOracle
  | removeOracle
  | viewAllOracleAssociations
  deriving DecidableEq, Repr

def AccountLookupPrivileges.id : AccountLookupPrivileges → String
  | .viewAllOracles => "ACCOUNT_LOOKUP_VIEW_ALL_ORACLES"
  | .createOracle => "ACCOUNT_LOOKUP_CREATE_ORACLE"
  | .removeOracle => "ACCOUNT_LOOKUP_REMOVE_ORACLE"
  | .viewAllOracleAssociations => "ACCOUNT_LOOKUP_VIEW_ALL_ORACLE_ASSOCIATIONS"

structure CallSecurityContext where
  platformRoleIds : List String
  deriving DecidableEq, Repr

/-- What the routes have from packages: the token helper, the authorization client, the report of the
validator on a request that fails its checks, and the page of the framework for an error. -/
structure Packages where
  getCallSecurityContextFromAccessToken : String → Option CallSecurityContext
  roleHasPrivilege : (roleId privilegeId : String) → Bool
  report : Express.Request → String
  errorPage : Nat → Express.Request → String

namespace BaseRoutes

variable (packages : Packages)

def trim (text : List Char) : List Char :=
  (text.dropWhile Js.isWhitespace).rdropWhile Js.isWhitespace

/-- `trim().split(" ")` must have two parts, of which the second is the token. -/
def bearerToken (authorizationHeader : String) : Option String :=
  match (trim authorizationHeader.toList).splitOnP (· = ' ') with
  | [_, bearerToken] => some (String.ofList bearerToken)
  | _ => none

/-- `_authenticationMiddleware`: a caller without a security context is answered with 401. -/
def authenticate (request : Express.Request) : Option CallSecurityContext :=
  let authorizationHeader := request.headers "authorization"
  if authorizationHeader.truthy then
    (bearerToken authorizationHeader.text).bind packages.getCallSecurityContextFromAccessToken
  else none

def enforcePrivilege (secCtx : CallSecurityContext) (privilege : AccountLookupPrivileges) :
    Except JsError Unit :=
  if secCtx.platformRoleIds.any fun roleId => packages.roleHasPrivilege roleId privilege.id then
    .ok ()
  else
    .error ⟨.forbiddenError,
      "Caller is missing platform role with privilegeId: " ++ privilege.id⟩

/-- The locations of a request besides its body in which the validator looks for a field. -/
def locations (request : Express.Request) (params : String → Js.Value) :
    OracleAdminExpressRoutes.Locations :=
  [params, fun field => (request.query field).value,
    fun field => (request.headers field.toLower).toValue]

variable {σ : Type}

/-- The `try` and `catch` of a handler, by the status that it has for an error that is no lack of a
privilege.  None of the modelled functions throws an `UnauthorizedError`. -/
def answer (statusOf : ErrorClass → Nat) (handler : Proc JsError σ Express.Response) :
    Proc JsError σ Express.Response := do
  match ← handler.attempt with
  | .ok response => pure response
  | .error error =>
    pure
      { status := if error.cls = .forbiddenError then 403 else statusOf error.cls
        body := .error error.message }

/-- `validateRequest`, and the rest of the handler when it succeeds. -/
def validated (request : Express.Request) (valid : Bool)
    (handler : Proc JsError σ Express.Response) : Proc JsError σ Express.Response :=
  if valid then handler else pure ⟨422, .errors (packages.report request)⟩

/-- What the handlers that need a privilege have in common: the privilege is enforced, then the
request is validated. -/
def privileged (secCtx : CallSecurityContext) (privilege : AccountLookupPrivileges)
    (statusOf : ErrorClass → Nat) (request : Express.Request) (valid : Bool)
    (handler : Proc JsError σ Express.Response) : Proc JsError σ Express.Response :=
  answer statusOf do
    Proc.ofExcept (enforcePrivilege packages secCtx privilege)
    validated packages request valid handler

end BaseRoutes

/-! ### The aggregate of the routes -/

/-- The aggregate with what its routes need besides: `healthCheck` of each adapter. -/
structure RoutesAggregate (σ : Type) extends ListingAggregate σ where
  adapterHealthCheck : OracleAdapter → Proc JsError σ Bool

variable {σ : Type}

namespace RoutesAggregate

variable (agg : RoutesAggregate σ)

def getAllOracles : Proc JsError σ (List Oracle) := agg.oracleFinder.getAllOracles

def getOracleById (id : String) : Proc JsError σ (Option Oracle) :=
  agg.oracleFinder.getOracleById (.str id)

def healthCheck (id : String) : Proc JsError σ Bool := do
  let adapters ← Proc.read agg.oracleProvidersAdapters.get
  match adapters.find? fun o => o.oracleId.strictEq (.str id) with
  | none => Proc.reject ⟨.oracleNotFoundError, s!"Oracle does not exist for given id {id}"⟩
  | some oracleFound => agg.adapterHealthCheck oracleFound

end RoutesAggregate

open Express BaseRoutes

/-! ### The admin router -/

namespace OracleAdminExpressRoutes

inductive Endpoint where
  | getAllOracles
  | getAllBuiltinOracleAssociations
  | getAllOracleAssociations
  | getOracleById (id : String)
  | deleteOracle (id : String)
  | createOracle
  | healthCheck (id : String)
  | getSearchKeywords
  deriving DecidableEq, Repr

/-- The routes with an id.  One whose id cannot be decoded fails for every method. -/
def withId (id : List Char) (endpoint : String → Option Endpoint) : Routed Endpoint :=
  match Url.decodeURIComponent id with
  | none => .undecodable
  | some id =>
    match endpoint (String.ofList id) with
    | some endpoint => .handler endpoint
    | none => .unmatched

/-- The routes in the order in which they are tried. -/
def route (method : Method) (path : List (List Char)) : Routed Endpoint :=
  match dropSlash path with
  | [oracles] =>
    if isConstant oracles "oracles" then
      if method.reads then .handler .getAllOracles
      else if method = .post then .handler .createOracle
      else .unmatched
    else .unmatched
  | [oracles, id] =>
    if isConstant oracles "oracles" && id ≠ [] then
      if method.reads && isConstant id "builtin-associations" then
        .handler .getAllBuiltinOracleAssociations
      else if method.reads && isConstant id "associations" then
        .handler .getAllOracleAssociations
      else
        withId id fun id =>
          if method.reads then some (.getOracleById id)
          else if method = .delete then some (.deleteOracle id)
          else none
    else .unmatched
  | [oracles, second, third] =>
    if isConstant oracles "oracles" && isConstant second "health" && third ≠ [] then
      withId third fun id => if method.reads then some (.healthCheck id) else none
    else if isConstant oracles "oracles" && isConstant second "builtin-associations" &&
        isConstant third "searchkeywords" && method.reads then
      .handler .getSearchKeywords
    else .unmatched
  | _ => .unmatched

/-- The parameters of a path with an id. -/
def idParam (id : String) (field : String) : Js.Value :=
  if field = "id" then .str id else .undefined

/-- `check("id").isString().notEmpty()` -/
def validId (request : Request) (body : String → Js.Value) (id : String) : Bool :=
  check isNonEmptyString (body "id") (locations request (idParam id)) "id"

/-- The fields of a body that an oracle has. -/
def oracleOf (body : String → Js.Value) : Oracle where
  id := body "id"
  name := body "name"
  type := body "type"
  partyType := body "partyType"
  currency := body "currency"
  endpoint := body "endpoint"

/-- `req.query[key] as string || null` -/
def queryOrNull (request : Request) (key : String) : Js.Value :=
  let value := (request.query key).value
  if value.truthy then value else .null

/-- A page number of the query: `undefined` when neither key has it, else `parseInt` of its text. -/
def pageNumber (request : Request) (key lowerKey : String) : Except JsError Page :=
  let field := if (request.query key).value.truthy then request.query key else request.query lowerKey
  if field.value.truthy then field.text.map fun text => some (Js.parseInt text) else .ok none

/-- The arguments of a search, which are read before the privilege is enforced. -/
def searchOf (request : Request) : Except JsError AssociationSearch := do
  let pageIndex ← pageNumber request "pageIndex" "pageindex"
  let pageSize ← pageNumber request "pageSize" "pagesize"
  pure
    { fspId := queryOrNull request "fspId"
      partyId := queryOrNull request "partyId"
      partyType := queryOrNull request "partyType"
      partySubType := queryOrNull request "partySubType"
      currency := queryOrNull request "currency"
      pageIndex
      pageSize }

/-- The status for an error in a handler that tells an absent oracle from other errors. -/
def notFoundOr500 (cls : ErrorClass) : Nat := if cls = .oracleNotFoundError then 404 else 500

variable (packages : Packages) (agg : RoutesAggregate σ)

/-- The handling of a request by the handler that it is routed to.  There is no answer when the
handler throws before its `try`. -/
def handle (secCtx : CallSecurityContext) (request : Request) (body : String → Js.Value) :
    Endpoint → Proc JsError σ (Option Response)
  | .getAllOracles => do
    let response ← privileged packages secCtx .viewAllOracles (fun _ => 500) request true do
      pure ⟨200, .oracles (← agg.getAllOracles)⟩
    pure (some response)
  | .getAllBuiltinOracleAssociations => do
    let response ←
      privileged packages secCtx .viewAllOracleAssociations (fun _ => 500) request true do
        pure ⟨200, .associations (← agg.getBuiltInOracleAssociations)⟩
    pure (some response)
  | .getAllOracleAssociations =>
    match searchOf request with
    | .error _ => pure none
    | .ok search => do
      let response ←
        privileged packages secCtx .viewAllOracleAssociations (fun _ => 500) request true do
          pure ⟨200, .searchResults (← agg.getAllOracleAssociations search)⟩
      pure (some response)
  | .getOracleById id => do
    let response ←
      privileged packages secCtx .viewAllOracles (fun _ => 500) request
          (validId request body id) do
        match ← agg.getOracleById id with
        | some fetched => pure ⟨200, .oracle fetched⟩
        | none => pure ⟨404, .error "Oracle not found"⟩
    pure (some response)
  | .deleteOracle id => do
    let response ←
      privileged packages secCtx .removeOracle notFoundOr500 request (validId request body id) do
        agg.removeOracle id
        pure ⟨200, .empty⟩
    pure (some response)
  | .createOracle => do
    let response ←
      privileged packages secCtx .createOracle (fun _ => 500) request
          (validCreate ⟨oracleOf body, locations request fun _ => .undefined⟩) do
        pure ⟨200, .createdId (← agg.addOracle (oracleOf body))⟩
    pure (some response)
  | .healthCheck id => do
    -- the one handler that enforces no privilege
    let response ← answer notFoundOr500 do
      validated packages request (validId request body id) do
        pure ⟨200, .healthy (← agg.healthCheck id)⟩
    pure (some response)
  | .getSearchKeywords => do
    let response ←
      privileged packages secCtx .viewAllOracleAssociations (fun _ => 500) request true do
        pure ⟨200, .searchKeywords (← agg.getSearchKeywords)⟩
    pure (some response)

end OracleAdminExpressRoutes

/-! ### The router of lookups -/

namespace AccountLookupExpressRoutes

/-- `getAccountLookUp` is the only handler. -/
structure Endpoint where
  partyType : String
  partyId : String
  deriving DecidableEq, Repr

def route (method : Method) (path : List (List Char)) : Routed Endpoint :=
  match dropSlash path with
  | [partyType, partyId] =>
    if partyType ≠ [] && partyId ≠ [] then
      match Url.decodeURIComponent partyType, Url.decodeURIComponent partyId with
      | some partyType, some partyId =>
        if method.reads then .handler ⟨String.ofList partyType, String.ofList partyId⟩
        else .unmatched
      | _, _ => .undecodable
    else .unmatched
  | _ => .unmatched

/-- The parameters of the path. -/
def params (endpoint : Endpoint) (field : String) : Js.Value :=
  if field = "partyType" then .str endpoint.partyType
  else if field = "partyId" then .str endpoint.partyId
  else .undefined

/-- `req.query[key]?.toString() ?? null` -/
def queryText (request : Request) (key : String) : Except JsError Js.Str :=
  match (request.query key).value with
  | .undefined | .null => .ok .null
  | _ => (request.query key).text.map .val

def validParty (request : Request) (body : String → Js.Value) (endpoint : Endpoint) : Bool :=
  OracleAdminExpressRoutes.check OracleAdminExpressRoutes.isNonEmptyString (body "partyId")
      (locations request (params endpoint)) "partyId" &&
    OracleAdminExpressRoutes.check OracleAdminExpressRoutes.isNonEmptyString (body "partyType")
      (locations request (params endpoint)) "partyType"

variable (packages : Packages) (agg : RoutesAggregate σ)

def handle (secCtx : CallSecurityContext) (request : Request) (body : String → Js.Value)
    (endpoint : Endpoint) : Proc JsError σ (Option Response) := do
  let response ←
    privileged packages secCtx .viewAllOracleAssociations
        (fun cls => if cls = .participantNotFoundError then 404 else 500) request
        (validParty request body endpoint) do
      let partySubType ← Proc.ofExcept (queryText request "partySubType")
      let currency ← Proc.ofExcept (queryText request "currency")
      pure ⟨200, .fspId (← agg.getAccountLookUp (.val endpoint.partyId) (.val endpoint.partyType)
        partySubType currency)⟩
  pure (some response)

end AccountLookupExpressRoutes

/-! ### The service -/

namespace Service

/-- The routers that a path can belong to, with what is left of the path for them. -/
inductive Mounted where
  | admin (path : List (List Char))
  | accountLookup (path : List (List Char))
  | elsewhere
  deriving DecidableEq, Repr

def mounted (path : List (List Char)) : Mounted :=
  match Express.mount "admin" path, Express.mount "account-lookup" path with
  | some rest, _ => .admin rest
  | none, some rest => .accountLookup rest
  | none, none => .elsewhere

variable (packages : Packages)

/-- A request by a caller with a security context, by the handler that it is routed to.  A request
that no route takes gets to the `catch all` of the service. -/
def dispatch {ε : Type} (request : Request) (routed : Routed ε)
    (handle : ε → Proc JsError σ (Option Response)) : Proc JsError σ (Option Response) :=
  match routed with
  | .handler endpoint => handle endpoint
  | .undecodable => pure (some ⟨400, .text (packages.errorPage 400 request)⟩)
  | .unmatched => pure (some ⟨404, .text "Not Found"⟩)

/-- The middleware of a router, and the router. -/
def authenticated (request : Request)
    (handle : CallSecurityContext → Proc JsError σ (Option Response)) :
    Proc JsError σ (Option Response) :=
  match authenticate packages request with
  | some secCtx => handle secCtx
  | none => pure (some ⟨401, .text "Unauthorized"⟩)

variable (agg : RoutesAggregate σ)

/-- The answer of the service to a request, if it gives one.  The paths that belong to neither router
are left out, but for the `catch all`. -/
def serve (request : Request) : Proc JsError σ (Option Response) :=
  match request.body with
  | .error status => pure (some ⟨status, .text (packages.errorPage status request)⟩)
  | .ok body =>
    match mounted request.path with
    | .admin path =>
      authenticated packages request fun secCtx =>
        dispatch packages request (OracleAdminExpressRoutes.route request.method path)
          (OracleAdminExpressRoutes.handle packages agg secCtx request body)
    | .accountLookup path =>
      authenticated packages request fun secCtx =>
        dispatch packages request (AccountLookupExpressRoutes.route request.method path)
          (AccountLookupExpressRoutes.handle packages agg secCtx request body)
    | .elsewhere => pure (some ⟨404, .text "Not Found"⟩)

/-- What is sent, if anything: an answer to `HEAD` has no body. -/
def respond (request : Request) : Proc JsError σ (Option Response) := do
  let response ← serve packages agg request
  pure <| response.map fun response =>
    if request.method = .head then { response with body := .empty } else response

end Service

/-- The aggregate of the service, with the health checks of its adapters. -/
def System.routesAggregate (env : Environment) (oracleListing : OracleListing World) :
    RoutesAggregate World :=
  { System.listingAggregate env oracleListing with
    adapterHealthCheck := fun adapter =>
      match adapter.type with
      | .builtin =>
        (MongoOracleProviderRepo.healthCheck env.faults adapter).zoom World.builtinLens
      | .remoteHttp =>
        (HttpOracleProvider.healthCheck env.faults).zoom
          (World.remoteLens adapter.oracle.endpoint) }

end AccountLookup
