import AccountLookup.Model.Commands
import AccountLookup.Store.Mongo

/-! The registry of oracles: the aggregate's functions that change it, `MongoOracleFinderRepo`,
`OracleAdapterFactory`, and the admin routes. -/

namespace AccountLookup

open Async

/-! ### The aggregate -/

namespace Aggregate

variable {σ : Type} (agg : Aggregate σ)

/-- `_oracleProvidersAdapters.push` -/
def pushAdapter (adapter : OracleAdapter) : Proc JsError σ Unit :=
  Proc.modify fun s =>
    agg.oracleProvidersAdapters.set (agg.oracleProvidersAdapters.get s ++ [adapter]) s

def initAdapter (oracle : Oracle) : Proc JsError σ Unit := do
  let oracleAdapter ← Proc.ofExcept (agg.oracleProvidersFactory oracle)
  agg.oracleProvider.init oracleAdapter
  agg.pushAdapter oracleAdapter

def init : Proc JsError σ Unit := do
  agg.oracleFinder.init
  let oracles ← agg.oracleFinder.getAllOracles
  oracles.forM agg.initAdapter

def destroy : Proc JsError σ Unit := do
  agg.oracleFinder.destroy
  let adapters ← Proc.read agg.oracleProvidersAdapters.get
  adapters.forM agg.oracleProvider.destroy

/-- The oracle that is created: an oracle without an id gets one, and a builtin one has no
endpoint. -/
def newOracle (oracle : Oracle) (id : Js.Value) : Oracle :=
  { oracle with
    id := id
    endpoint := if oracle.type = .str "builtin" then .null else oracle.endpoint }

/-- `addOracle` once the oracle has its id. -/
def addOracleWithId (oracle : Oracle) (id : Js.Value) : Proc JsError σ Js.Value := do
  let nameText := oracle.name.text
  if (← agg.oracleFinder.getOracleByName oracle.name).isSome then
    Proc.reject ⟨.duplicateOracleError, s!"Oracle with name {nameText} already exists"⟩
  else
    let addedOracleProvider ← Proc.ofExcept (agg.oracleProvidersFactory (newOracle oracle id))
    agg.oracleFinder.addOracle (newOracle oracle id)
    agg.oracleProvider.init addedOracleProvider
    agg.pushAdapter addedOracleProvider
    pure id

def addOracle (oracle : Oracle) : Proc JsError σ Js.Value := do
  let idText := oracle.id.text
  if oracle.id.truthy then
    if (← agg.oracleFinder.getOracleById oracle.id).isSome then
      Proc.reject ⟨.duplicateOracleError, s!"Oracle with id {idText} already exists"⟩
    else agg.addOracleWithId oracle oracle.id
  else agg.addOracleWithId oracle (.str (← agg.randomUUID))

def removeOracle (id : String) : Proc JsError σ Unit := do
  if (← agg.oracleFinder.getOracleById (.str id)).isNone then
    Proc.reject ⟨.oracleNotFoundError, s!"Oracle does not exist for given id {id}"⟩
  else
    (agg.oracleFinder.removeOracle id).rethrow fun error =>
      ⟨.unableToRemoveOracleError, s!"Unable to remove oracle with id {id} " ++ error.message⟩
    Proc.modify fun s =>
      agg.oracleProvidersAdapters.set
        ((agg.oracleProvidersAdapters.get s).filter fun o => !o.oracleId.strictEq (.str id)) s

end Aggregate

/-! ### The finder -/

namespace MongoOracleFinderRepo

variable (compound : Js.Value → Js.Value → Bool) (faults : Faults)

/-- An error of the driver, thrown again under the class and text of the finder. -/
def failure (cls : ErrorClass) (text : String) (error : JsError) : JsError :=
  ⟨cls, text ++ ": " ++ error.message⟩

def init : Proc JsError (List Oracle) Unit :=
  (send faults .finderConnect fun s => ((), s)).rethrow
    (failure .unableToInitOracleFinderError "Unable to connect to the database")

def destroy : Proc JsError (List Oracle) Unit :=
  (send faults .finderClose fun s => ((), s)).rethrow
    (failure .unableToCloseDatabaseConnectionError "Unable to close the database connection")

/-- The filter of `addOracle`, which leaves out the currency. -/
def isPresent (oracle document : Oracle) : Bool :=
  Mongo.acceptsValue compound oracle.partyType document.partyType &&
    Mongo.acceptsValue compound oracle.type document.type &&
    Mongo.acceptsValue compound oracle.id document.id &&
    Mongo.acceptsValue compound oracle.name document.name &&
    Mongo.acceptsValue compound oracle.endpoint document.endpoint

def addOracle (oracle : Oracle) : Proc JsError (List Oracle) Unit := do
  let oracleAlreadyPresent ←
    (send faults .findOraclePresent fun s => (s.find? (isPresent compound oracle), s)).rethrow
      (failure .unableToGetOracleError "Unable to get oracle")
  if oracleAlreadyPresent.isSome then
    Proc.reject ⟨.oracleAlreadyRegisteredError, "Oracle already present: " ++ oracle.id.text⟩
  else
    (send faults .insertOracle fun s => ((), s ++ [oracle])).rethrow
      (failure .unableToRegisterOracleError "Unable to insert oracle")

/-- The filter on one id. -/
def hasId (id : Js.Value) (document : Oracle) : Bool :=
  Mongo.acceptsValue compound id document.id

def removeOracle (id : String) : Proc JsError (List Oracle) Unit := do
  let deletedCount ←
    (send faults .deleteOracle fun s =>
        (if s.any (hasId compound (.str id)) then 1 else 0,
          s.eraseP (hasId compound (.str id)))).rethrow
      (failure .unableToDeleteOracleError "Unable to delete oracle")
  if deletedCount = 1 then pure ()
  else Proc.reject ⟨.noSuchOracleError, s!"Oracle with id {id} not found"⟩

def getAllOracles : Proc JsError (List Oracle) (List Oracle) :=
  (send faults .findOracles fun s => (s, s)).rethrow
    (failure .unableToGetOracleError "Unable to get all oracles")

def getOracleById (id : Js.Value) : Proc JsError (List Oracle) (Option Oracle) :=
  (send faults .findOracleById fun s => (s.find? (hasId compound id), s)).rethrow
    (failure .unableToGetOracleError "Unable to get oracle by id")

/-- The filter on one name. -/
def hasName (name : Js.Value) (document : Oracle) : Bool :=
  Mongo.acceptsValue compound name document.name

def getOracleByName (name : Js.Value) : Proc JsError (List Oracle) (Option Oracle) :=
  (send faults .findOracleByName fun s => (s.find? (hasName compound name), s)).rethrow
    (failure .unableToGetOracleError "Unable to get oracle by name")

/-- The oracle that serves a party type and a currency: the first of its type with that currency,
else the first of its type. -/
def select (partyType currency : Js.Str) (oracles : List Oracle) : Option Oracle :=
  let ofType := oracles.filter fun document =>
    Mongo.acceptsValue compound partyType.toValue document.partyType
  let (withCurrency, withoutCurrency) :=
    ofType.partition fun document => document.currency.strictEq currency.toValue
  withCurrency.head? <|> withoutCurrency.head?

def getOracle (partyType currency : Js.Str) : Proc JsError (List Oracle) (Option Oracle) := do
  let oracle ←
    (send faults .findOraclesOfType fun s => (select compound partyType currency s, s)).rethrow
      (failure .unableToGetOracleError "Unable to get oracle")
  match oracle with
  | some oracle => pure (some oracle)
  | none =>
    Proc.reject ⟨.noSuchOracleError, "Oracle with partyType " ++ partyType.text ++
      "  and currency " ++ currency.text ++ " not found"⟩

end MongoOracleFinderRepo

/-! ### The factory -/

def OracleAdapterFactory.create (oracle : Oracle) : Except JsError OracleAdapter :=
  if oracle.type = .str "builtin" then .ok ⟨.builtin, oracle⟩
  else if oracle.type = .str "remote-http" then .ok ⟨.remoteHttp, oracle⟩
  else
    let typeText := oracle.type.text
    .error ⟨.oracleTypeNotSupportedError, s!"Oracle type {typeText} not supported"⟩

/-! ### Routes -/

namespace OracleAdminExpressRoutes

/-- The locations of a request besides the body: the query, the parameters of the path, the headers
and the cookies, each with the value of every field, `undefined` where it lacks the field. -/
abbrev Locations := List (String → Js.Value)

/-- `check(field)` with a validator: every location that has the field must have a valid value, and
a field that no location has counts as `undefined`. -/
def check (valid : Js.Value → Bool) (body : Js.Value) (others : Locations) (field : String) : Bool :=
  let values := (body :: others.map (· field)).filter (· ≠ .undefined)
  values ≠ [] && values.all valid

/-- `isString().notEmpty()` -/
def isNonEmptyString : Js.Value → Bool
  | .str s => s ≠ ""
  | _ => false

/-- `isString().isIn(["builtin", "remote-http"])` -/
def isOracleType (value : Js.Value) : Bool := value = .str "builtin" || value = .str "remote-http"

structure CreateRequest where
  body : Oracle
  others : Locations

def validCreate (request : CreateRequest) : Bool :=
  check isNonEmptyString request.body.name request.others "name" &&
    check isOracleType request.body.type request.others "type" &&
    check isNonEmptyString request.body.partyType request.others "partyType"

variable {σ : Type} (agg : Aggregate σ)

/-- The status of the answer to `POST /oracles` by a privileged caller. -/
def createOracle (request : CreateRequest) : Proc JsError σ Nat :=
  if validCreate request then do
    match ← (agg.addOracle request.body).attempt with
    | .ok _ => pure 200
    | .error error => pure (if error.cls = .forbiddenError then 403 else 500)
  else pure 422

structure DeleteRequest where
  id : String
  bodyId : Js.Value
  others : Locations

/-- The status of the answer to `DELETE /oracles/:id` by a privileged caller. -/
def deleteOracle (request : DeleteRequest) : Proc JsError σ Nat :=
  if check isNonEmptyString request.bodyId ((fun _ => .str request.id) :: request.others) "id" then do
    match ← (agg.removeOracle request.id).attempt with
    | .ok () => pure 200
    | .error error =>
      pure (if error.cls = .forbiddenError then 403
        else if error.cls = .oracleNotFoundError then 404 else 500)
  else pure 422

end OracleAdminExpressRoutes

end AccountLookup
