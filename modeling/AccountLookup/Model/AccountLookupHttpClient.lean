import AccountLookup.Model.ExpressRoutes

/-! `AccountLookupHttpClient`, the client of the look-ups, and its requests as the service gets
them. -/

namespace AccountLookup

open Async

namespace Express

/-- The query of a request: a key that is repeated has the array of its values. -/
def queryOf (query : Option (List Char)) (key : String) : QueryValue :=
  match Url.queryValues query key with
  | [] => ⟨.undefined, .ok "undefined"⟩
  | [value] => ⟨.str value, .ok value⟩
  | values => ⟨.ofStrings values, .ok (",".intercalate values)⟩

/-- A `GET` of the target.  Of its headers, the service reads only the token. -/
def Request.ofTarget (authorization : Js.Str) (target : Url.Target) : Request where
  method := .get
  path := target.path
  query := queryOf target.query
  headers field := if field = "authorization" then authorization else .undefined
  body := .ok fun _ => .undefined

end Express

namespace AccountLookupHttpClient

inductive ErrorClass where
  | unableToGetFspIdError
  | unauthorizedError
  | forbiddenError
  | typeError
  deriving DecidableEq, Repr

structure ClientError where
  cls : ErrorClass
  message : String
  deriving DecidableEq, Repr

/-- What the client has from packages: `fetch` of the authenticated requester, which rejects with an
error of the given text, and the text of the error for a body that is no JSON. -/
structure Requester (σ : Type) where
  fetch : Url.Target → Proc String σ Express.Response
  syntaxError : Express.Body → String

/-- The fields of a body that the client reads. -/
structure Data where
  fspId : Js.Str := .undefined
  msg : Js.Str := .undefined
  deriving DecidableEq, Repr

/-- `resp.json()`: there is nothing to read fields of in the text `null`. -/
def json (syntaxError : Express.Body → String) (body : Express.Body) : Except String (Option Data) :=
  match body with
  | .empty | .text _ => .error (syntaxError body)
  | .fspId fspId => .ok (some { fspId })
  | .error msg => .ok (some { msg := .val msg })
  | .searchResults none => .ok none
  | _ => .ok (some {})

def unableToGetFspId (err : String) : ClientError :=
  ⟨.unableToGetFspIdError, "Account Lookup Client - Unable to Get FspId - " ++ err⟩

/-- The URL of a party, as far as it does not come from the base URL. -/
def lookUpUrl (partyType partyId : String) (currency : Js.Str) : String :=
  "/account-lookup/" ++ partyType ++ "/" ++ partyId ++
    if currency.truthy then "?currency=" ++ currency.text else ""

def lookUpTarget (partyType partyId : String) (currency : Js.Str) : Url.Target :=
  Url.parse (lookUpUrl partyType partyId currency).toList

/-- What the call settles with, when it has a response. -/
def unpack (syntaxError : Express.Body → String) (resp : Express.Response) :
    Except ClientError Js.Str :=
  if resp.status = 200 || resp.status = 401 || resp.status = 403 then
    match json syntaxError resp.body with
    | .error err => .error (unableToGetFspId err)
    | .ok none => .error ⟨.typeError, "Cannot read properties of null"⟩
    | .ok (some dataObj) =>
      if resp.status = 200 then .ok dataObj.fspId
      else if resp.status = 401 then
        .error ⟨.unauthorizedError,
          if dataObj.msg.truthy then dataObj.msg.text else "UnauthorizedError"⟩
      else
        .error ⟨.forbiddenError,
          if dataObj.msg.truthy then dataObj.msg.text else "ForbiddenError"⟩
  else if resp.status = 404 then .ok .null
  else .error (unableToGetFspId (toString resp.status))

def participantLookUp {σ : Type} (requester : Requester σ) (partyType partyId : String)
    (currency : Js.Str) : Proc ClientError σ Js.Str := do
  if partyType = "" || partyId = "" then
    Proc.reject (unableToGetFspId "partyType or partyId is null")
  else
    let resp ← (requester.fetch (lookUpTarget partyType partyId currency)).mapError unableToGetFspId
    Proc.ofExcept (unpack requester.syntaxError resp)

end AccountLookupHttpClient

/-- The requester of a client whose requests the service answers.  Without an answer, the fetch
rejects when its time is out. -/
def Service.requester (packages : Packages) {σ : Type} (agg : RoutesAggregate σ)
    (authorization : Js.Str) (timeout : String) (syntaxError : Express.Body → String) :
    AccountLookupHttpClient.Requester σ where
  fetch target := do
    let response ← (Service.respond packages agg (.ofTarget authorization target)).mapError
      JsError.message
    match response with
    | some response => pure response
    | none => Proc.reject timeout
  syntaxError := syntaxError

end AccountLookup
