import AccountLookup.Js.Double
import AccountLookup.Model.OracleListing

/-! The search of the builtin oracle: `searchAssociations` of `MongoOracleProviderRepo`. -/

namespace AccountLookup

open Async

/-- `AssociationsSearchResults` as the provider computes it: its numbers need not be finite, as those
of JSON are. -/
structure SearchResults where
  pageSize : Js.Number
  pageIndex : Js.Number
  totalPages : Js.Number
  items : List AssociationRecord
  deriving DecidableEq, Repr

/-- What the database makes of a search: how it matches arrays and objects, the texts that a pattern
matches without regard to case, if it is a valid one, the order of what it finds, and what it leaves
out for `skip`. -/
structure SearchEngine where
  compound : Js.Value → Js.Value → Bool
  regex : String → Except JsError (String → Bool)
  order : List AssociationRecord → List AssociationRecord
  skip : Js.Number → List AssociationRecord → Except JsError (List AssociationRecord)
  order_perm : ∀ found, (order found).Perm found
  skip_int : ∀ (count : Nat) found, skip (.int count) found = .ok (found.drop count)
  skip_posInf : ∀ found, skip .posInf found = .ok [] ∨ ∃ error, skip .posInf found = .error error

namespace MongoOracleProviderRepo

/-- `MAX_ENTRIES_PER_PAGE` -/
def maxEntriesPerPage : Js.Number := .int 100

/-- The condition of a filter on one field. -/
inductive Condition where
  | equals (field : AssociationRecord → Js.Str) (value : Js.Value)
  | regex (field : AssociationRecord → Js.Str) (pattern : Js.Value)

/-- The documents that meet the condition, unless its pattern is refused. -/
def Condition.compile (engine : SearchEngine) : Condition → Except JsError (AssociationRecord → Bool)
  | .equals field value =>
    .ok fun document => Mongo.acceptsValue engine.compound value (field document).toValue
  | .regex field (.str pattern) =>
    (engine.regex pattern).map fun accepts document =>
      match field document with
      | .val text => accepts text
      | _ => false
  | .regex _ _ => .error ⟨.error, "$regex has to be a string"⟩

/-- `filter.$and`.  Without conditions the filter is `{}`, which every document meets. -/
def filterOf (search : AssociationSearch) : List Condition :=
  (if search.fspId.truthy then [.equals (·.fspId) search.fspId] else []) ++
    (if search.partyId.truthy then [.regex (·.partyId) search.partyId] else []) ++
    (if search.partyType.truthy then [.equals (·.partyType) search.partyType] else []) ++
    (if search.partySubType.truthy then [.regex (·.partySubType) search.partySubType] else []) ++
    if search.currency.truthy then [.equals (·.currency) search.currency] else []

variable (engine : SearchEngine)

/-- `this.parties.find(filter)`, in the order of the collection. -/
def find (filter : List Condition) (parties : List AssociationRecord) :
    Except JsError (List AssociationRecord) := do
  let conditions ← filter.mapM (Condition.compile engine)
  pure (parties.filter fun document => conditions.all fun accepts => accepts document)

/-- `this.parties.find(filter, { sort, skip, limit })` -/
def findPage (filter : List Condition) (skip : Js.Number) (parties : List AssociationRecord) :
    Except JsError (List AssociationRecord) := do
  let found ← find engine filter parties
  let rest ← engine.skip skip (engine.order found)
  pure (rest.take 20)

/-- A parameter of the search with its default. -/
def parameter (default : Js.Number) : Page → Js.Number
  | none => default
  | some none => .nan
  | some (some n) => .ofInt n

/-- `pageSize`, once it is limited. -/
def pageSizeOf (search : AssociationSearch) : Js.Number :=
  (parameter maxEntriesPerPage search.pageSize).min maxEntriesPerPage

/-- `pageIndex`, once it is limited. -/
def pageIndexOf (search : AssociationSearch) : Js.Number :=
  (parameter (.int 0) search.pageIndex).max (.int 0)

/-- `Math.floor(pageIndex * pageSize)`: the product of two integers has no fraction. -/
def skipOf (search : AssociationSearch) : Js.Number := (pageIndexOf search).mul (pageSizeOf search)

variable (faults : Faults)

/-- A query, whose error is replaced. -/
def query (command : Command) (message : String)
    (found : List AssociationRecord → Except JsError (List AssociationRecord)) :
    Proc JsError BuiltinStore (List AssociationRecord) :=
  Proc.rethrow
    (do
      let result ← send faults command fun s => (found s.parties, s)
      Proc.ofExcept result)
    fun _ => ⟨.unableToGetAssociationsError, message⟩

/-- The errors of the two queries are caught and logged. -/
def searchAssociations (search : AssociationSearch) : Proc JsError BuiltinStore SearchResults := do
  let searchResults : SearchResults :=
    { pageSize := pageSizeOf search
      pageIndex := pageIndexOf search
      totalPages := .int 0
      items := [] }
  let filter := filterOf search
  let found ← (query faults .findAssociations "Unable to get assocations"
    (findPage engine filter (skipOf search))).attempt
  match found with
  | .error _ => pure searchResults
  | .ok result =>
    let totalEntries ← (query faults .countAssociations "Unable to get associations page size"
      (find engine filter)).attempt
    match totalEntries with
    | .error _ => pure { searchResults with items := result }
    | .ok totalEntries =>
      pure { searchResults with
        items := result
        totalPages := .ceilDiv totalEntries.length (pageSizeOf search)
        pageSize := (pageSizeOf search).max (.int result.length) }

end MongoOracleProviderRepo

end AccountLookup
