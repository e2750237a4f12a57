import AccountLookup.Js.Map
import AccountLookup.Model.Commands
import AccountLookup.Url.Parse

/-! The remote oracle service: `RemoteOracle`, a map of associations that is saved to a file, and
`RemoteOracleExpressRoutes`, which serves it over HTTP. -/

namespace AccountLookup

open Async

/-- `Association` -/
structure Association where
  fspId : Js.Str
  partyType : String
  partyId : String
  partySubType : Js.Str
  currency : Js.Str
  deriving DecidableEq, Repr

/-- The path of the file, the map of associations, and the associations in the file. -/
structure RemoteOracle where
  filePath : String
  associations : Js.Map String Association
  file : List Association

namespace RemoteOracle

def empty (filePath : String) : RemoteOracle := ⟨filePath, .empty, []⟩

variable (faults : Faults)

/-- The write that replaces the contents of the file as a whole, or fails and leaves them. -/
def writeFile (filePath : String) (contents : List Association) : Proc JsError RemoteOracle Unit :=
  (send faults .writeFile fun s => ((), { s with file := contents })).rethrow
    fun _ => ⟨.error, "Failed to save associations to file \"" ++ filePath ++ "\""⟩

/-- The contents are those of the map at the call, and the write that is awaited is the result. -/
def saveToFile : Proc JsError RemoteOracle (Proc JsError RemoteOracle Unit) := do
  let contents ← Proc.read (·.associations.values)
  let filePath ← Proc.read filePath
  pure (writeFile faults filePath contents)

/-- The key does not depend on the `partySubType`. -/
def createKey (partyId partyType : String) (currency : Js.Str) : String :=
  partyId ++ "-" ++ partyType ++ "-" ++ currency.getD "NULL"

/-- A record of the file as an association of the map: what it lacks is `null`. -/
def newAssociation (record : Association) : Association :=
  { record with partySubType := record.partySubType.orNull, currency := record.currency.orNull }

/-- The first record with a key is the one that is kept. -/
def loadRecord (associations : Js.Map String Association) (record : Association) :
    Js.Map String Association :=
  let key := createKey (newAssociation record).partyId (newAssociation record).partyType
    (newAssociation record).currency
  if associations.has key then associations else associations.set key (newAssociation record)

/-- The map is cleared and filled with the associations in the file.  A file that does not exist or
is empty has none. -/
def loadFromFile : Proc JsError RemoteOracle Unit := do
  let filePath ← Proc.read filePath
  Proc.modify fun s => { s with associations := .empty }
  let records ← (send faults .readFile fun s => (s.file, s)).rethrow fun _ =>
    ⟨.error, "Failed to load associations from file \"" ++ filePath ++ "\""⟩
  Proc.modify fun s => { s with associations := records.foldl loadRecord s.associations }

/-- `fs.existsSync` of the file.  A file without associations may exist or not. -/
def existsSync (emptyExists : Bool) (s : RemoteOracle) : Bool := s.file ≠ [] || emptyExists

def init (emptyExists : Bool) : Proc JsError RemoteOracle Unit := do
  let fileExists ← Proc.read (existsSync emptyExists)
  if fileExists then loadFromFile faults else pure ()

/-- `new RemoteOracle` and its `init`, as the service starts. -/
def start (emptyExists : Bool) : Proc JsError RemoteOracle Unit := do
  Proc.modify fun s => { s with associations := .empty }
  init faults emptyExists

def getParticipantFspId (partyType partyId : String) (_partySubType currency : Js.Str) :
    Proc JsError RemoteOracle Js.Str := do
  match ← Proc.read (·.associations.get (createKey partyId partyType currency)) with
  | some association => pure association.fspId
  | none => pure .null

def associateParticipant (fspId : Js.Str) (partyType partyId : String)
    (partySubType currency : Js.Str) : Proc JsError RemoteOracle Unit := Proc.turn do
  let key := createKey partyId partyType currency
  match ← Proc.read (·.associations.get key) with
  | some _ =>
    Proc.reject ⟨.error, "Duplicate association found for partyId, partyType, partySubType and " ++
      s!"currency: {partyId}, {partyType}, {currency.text}"⟩
  | none =>
    Proc.modify fun s => { s with
      associations :=
        s.associations.set key { fspId, partyType, partyId, partySubType, currency } }
    saveToFile faults

def disassociateParticipant (fspId : Js.Str) (partyType partyId : String)
    (_partySubType currency : Js.Str) : Proc JsError RemoteOracle Unit := Proc.turn do
  let key := createKey partyId partyType currency
  let notFound : Proc JsError RemoteOracle (Proc JsError RemoteOracle Unit) :=
    Proc.reject ⟨.error, "No association found for partyId, partyType,\n            partySubType " ++
      s!"and currency: {partyId}, {partyType}, {currency.text}"⟩
  match ← Proc.read (·.associations.get key) with
  | some association =>
    if association.fspId = fspId then
      Proc.modify fun s => { s with associations := s.associations.delete key }
      saveToFile faults
    else notFound
  | none => notFound

end RemoteOracle

/-! ### Routes -/

inductive HttpMethod where
  | get
  | post
  | delete
  deriving DecidableEq, Repr

/-- A request to the service.  The only field of a body that it reads is `fspId`. -/
structure HttpRequest where
  method : HttpMethod
  target : Url.Target
  fspId : Js.Str
  deriving DecidableEq, Repr

/-- An answer of the service.  The only field of a body that its client reads is `fspId`. -/
structure HttpResponse where
  status : Nat
  fspId : Js.Str := .undefined
  deriving DecidableEq, Repr

namespace RemoteOracleExpressRoutes

/-- What a path is routed to.  The constant parts are matched without regard to case, a parameter is
not empty, and one slash may follow. -/
inductive Route where
  | health
  | participant (partyType partyId : List Char)
  | none
  deriving DecidableEq, Repr

def isConstant (segment : List Char) (constant : String) : Bool :=
  segment.map Char.toLower = constant.toList

theorem length_of_isConstant {segment : List Char} {constant : String}
    (h : isConstant segment constant = true) : segment.length = constant.toList.length := by
  have hlength := congrArg List.length (of_decide_eq_true h)
  rwa [List.length_map] at hlength

def route (path : List (List Char)) : Route :=
  match if path.getLast? = some [] then path.dropLast else path with
  | [health] => if isConstant health "health" then .health else .none
  | [participants, partyType, partyId] =>
    if isConstant participants "participants" && partyType ≠ [] && partyId ≠ [] then
      .participant partyType partyId
    else .none
  | _ => .none

/-- `extractRequestParams`, without the `fspId` of the body. -/
structure RequestParams where
  partyType : String
  partyId : String
  partySubType : Js.Str
  currency : Js.Str
  deriving DecidableEq, Repr

/-- `req.query[key]?.toString() ?? null`: a repeated key holds an array, whose text joins its
values.  A key with brackets, such as `currency[]`, which Express gathers under the name before them, is
taken as another key here, and so in all that is made of the query. -/
def queryParam (query : Option (List Char)) (key : String) : Js.Str :=
  match Url.queryValues query key with
  | [] => .null
  | values => .val (",".intercalate values)

/-- The parameters of a request whose path names a party; there are none when a parameter of the path
cannot be decoded. -/
def extractRequestParams (partyType partyId : List Char) (query : Option (List Char)) :
    Option RequestParams := do
  let partyType ← Url.decodeURIComponent partyType
  let partyId ← Url.decodeURIComponent partyId
  pure
    { partyType := String.ofList partyType
      partyId := String.ofList partyId
      partySubType := queryParam query "partySubType"
      currency := queryParam query "currency" }

/-- `check("fspId").isString().notEmpty()`: of the body and the query, each that has the field must
have a non-empty string there, and one of them must have it. -/
def validFspId (request : HttpRequest) : Bool :=
  let inQuery := Url.queryValues request.target.query "fspId"
  (request.fspId.truthy || request.fspId = .undefined && inQuery ≠ []) &&
    (inQuery = [] || inQuery.length = 1 && inQuery.all (· ≠ ""))

variable (faults : Faults)

/-- The answer to a change: the status of a rejection is 500. -/
def answerChange (change : Proc JsError RemoteOracle Unit) :
    Proc JsError RemoteOracle HttpResponse := do
  match ← change.attempt with
  | .ok () => pure { status := 200 }
  | .error _ => pure { status := 500 }

/-- The service's handling of a request. -/
def handle (request : HttpRequest) : Proc JsError RemoteOracle HttpResponse :=
  match route request.target.path, request.method with
  | .health, .get => pure { status := 200 }
  | .participant partyType partyId, method =>
    match extractRequestParams partyType partyId request.target.query with
    | none => pure { status := 400 }
    | some params =>
      match method with
      | .get => do
        let fetched ← RemoteOracle.getParticipantFspId params.partyType params.partyId
          params.partySubType params.currency
        if fetched.truthy then pure { status := 200, fspId := fetched } else pure { status := 404 }
      | .post =>
        if validFspId request then
          answerChange (RemoteOracle.associateParticipant faults request.fspId.orNull
            params.partyType params.partyId params.partySubType params.currency)
        else pure { status := 422 }
      | .delete =>
        if validFspId request then
          answerChange (RemoteOracle.disassociateParticipant faults request.fspId.orNull
            params.partyType params.partyId params.partySubType params.currency)
        else pure { status := 422 }
  | _, _ => pure { status := 404 }

end RemoteOracleExpressRoutes

end AccountLookup
