import AccountLookup.Lists.Distinct
import AccountLookup.Model.SearchAssociations

/-! The listings of the builtin oracle: `getAllAssociations` and `getSearchKeywords` of
`MongoOracleProviderRepo`, and what the adapters of the service make of a search. -/

/-- A number as a JSON value. -/
def Js.Number.toValue : Js.Number → Js.Value
  | .int n => .num n
  | _ => .null

namespace AccountLookup

open Async

namespace MongoOracleProviderRepo

/-! ### All associations -/

/-- A document as `getAllAssociations` returns it: a field that it lacks is `null`, and its
`partySubType` is left out. -/
def mappedAssociation (association : AssociationRecord) : AssociationRecord where
  partyId := association.partyId.orNull
  fspId := association.fspId.orNull
  partyType := association.partyType.orNull
  partySubType := .undefined
  currency := association.currency.orNull

def getAllAssociations (faults : Faults) : Proc JsError BuiltinStore (List AssociationRecord) := do
  let associations ← (send faults .findAllAssociations fun s => (s.parties, s)).rethrow
    fun error => ⟨.unableToGetAssociationError, "Unable to get associations: " ++ error.message⟩
  pure (associations.map mappedAssociation)

/-! ### Search keywords -/

/-- The `_id` of a group that the aggregation returns. -/
structure TermGroup where
  partyType : Js.Str
  currency : Js.Str
  fspId : Js.Str
  deriving DecidableEq, Repr

/-- The entries of the result, one object each. -/
inductive KeywordField where
  | partyType
  | currency
  | fspId
  deriving DecidableEq, Repr

def KeywordField.fieldName : KeywordField → String
  | .partyType => "partyType"
  | .currency => "currency"
  | .fspId => "fspId"

def TermGroup.term (group : TermGroup) : KeywordField → Js.Str
  | .partyType => group.partyType
  | .currency => group.currency
  | .fspId => group.fspId

/-- The `distinctTerms` of each entry, and `retObj`, which refers to the entries. -/
structure Keywords where
  distinctTerms : KeywordField → List Js.Str
  retObj : List KeywordField

namespace Keywords

def start : Keywords := ⟨fun _ => [], []⟩

/-- Pushes the term, unless the entry includes it, and then pushes the entry to `retObj`. -/
def push (group : TermGroup) (keywords : Keywords) (field : KeywordField) : Keywords where
  distinctTerms := Function.update keywords.distinctTerms field
    (Lists.pushNew (keywords.distinctTerms field) (group.term field))
  retObj := keywords.retObj ++ [field]

/-- What the loop does for a group. -/
def pushGroup (keywords : Keywords) (group : TermGroup) : Keywords :=
  [.partyType, .currency, .fspId].foldl (push group) keywords

/-- `retObj` with the entries that it refers to. -/
def entries (keywords : Keywords) : List SearchKeywords :=
  keywords.retObj.map fun field => ⟨field.fieldName, keywords.distinctTerms field⟩

end Keywords

/-- `aggregate` gives the groups that the cursor returns before it ends or fails: a failure is caught
and logged. -/
def getSearchKeywords (aggregate : List AssociationRecord → List TermGroup) :
    Proc JsError BuiltinStore (List SearchKeywords) := do
  let result ← Proc.read fun s => aggregate s.parties
  pure (result.foldl Keywords.pushGroup Keywords.start).entries

end MongoOracleProviderRepo

/-! ### The search of an adapter -/

def SearchResults.toJson (results : SearchResults) : AssociationsSearchResults where
  pageSize := results.pageSize.toValue
  totalPages := results.totalPages.toValue
  pageIndex := results.pageIndex.toValue
  items := results.items

/-- The search of a builtin adapter of the service. -/
def System.searchBuiltin (engine : SearchEngine) (faults : Faults) (search : AssociationSearch) :
    Proc JsError World AssociationsSearchResults := do
  let results ← (MongoOracleProviderRepo.searchAssociations engine faults search).zoom
    World.builtinLens
  pure results.toJson

/-- `searchAssociations` of the adapter of a remote oracle, which throws. -/
def HttpOracleProvider.searchAssociations {σ : Type} :
    Except JsError (Proc JsError σ AssociationsSearchResults) :=
  .error ⟨.error, "Method not implemented."⟩

/-- `getAllAssociations` of the adapter of a remote oracle.  The remote oracle service has no route for
its path, so no answer has data to return. -/
def HttpOracleProvider.getAllAssociations (faults : Faults) :
    Proc JsError RemoteOracle (List AssociationRecord) := do
  let get : HttpRequest :=
    { method := .get
      target := Url.parse "/participants/associations".toList
      fspId := .undefined }
  let _ ← (HttpOracleProvider.request faults get).rethrow fun _ =>
    ⟨.unableToGetAssociationError, "getAllAssociations: error getting all associations"⟩
  pure []

/-- `getSearchKeywords` of the adapter of a remote oracle, which throws. -/
def HttpOracleProvider.getSearchKeywords {σ : Type} :
    Except JsError (Proc JsError σ (List SearchKeywords)) :=
  .error ⟨.error, "Method not implemented."⟩

/-- The listing methods of the adapters of the service, by their class. -/
def System.adapterListing (env : Environment) (engine : SearchEngine)
    (aggregate : List AssociationRecord → List MongoOracleProviderRepo.TermGroup) :
    OracleListing World where
  getAllAssociations adapter :=
    match adapter.type with
    | .builtin => (MongoOracleProviderRepo.getAllAssociations env.faults).zoom World.builtinLens
    | .remoteHttp =>
      (HttpOracleProvider.getAllAssociations env.faults).zoom
        (World.remoteLens adapter.oracle.endpoint)
  searchAssociations adapter search :=
    match adapter.type with
    | .builtin => .ok (System.searchBuiltin engine env.faults search)
    | .remoteHttp => HttpOracleProvider.searchAssociations
  getSearchKeywords adapter :=
    match adapter.type with
    | .builtin =>
      .ok ((MongoOracleProviderRepo.getSearchKeywords aggregate).zoom World.builtinLens)
    | .remoteHttp => HttpOracleProvider.getSearchKeywords

end AccountLookup
