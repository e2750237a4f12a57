import AccountLookup.Model.System

/-! The listings of the aggregate: its functions that go through the adapter of every oracle. -/

namespace AccountLookup

open Async

/-- `AssociationsSearchResults` -/
structure AssociationsSearchResults where
  pageSize : Js.Value
  totalPages : Js.Value
  pageIndex : Js.Value
  items : List AssociationRecord
  deriving DecidableEq, Repr

/-- A page number: `none` for `undefined`, and within it `none` for `NaN`. -/
abbrev Page := Option (Option Int)

/-- The arguments of a search for associations. -/
structure AssociationSearch where
  fspId : Js.Value
  partyId : Js.Value
  partyType : Js.Value
  partySubType : Js.Value
  currency : Js.Value
  pageIndex : Page
  pageSize : Page
  deriving DecidableEq, Repr

/-- The terms of one field. -/
structure SearchKeywords where
  fieldName : String
  distinctTerms : List Js.Str
  deriving DecidableEq, Repr

/-- The methods of each adapter that list its associations.  The two that the adapter of a remote
oracle does not implement may throw before there is a promise. -/
structure OracleListing (σ : Type) where
  getAllAssociations : OracleAdapter → Proc JsError σ (List AssociationRecord)
  searchAssociations :
    OracleAdapter → AssociationSearch → Except JsError (Proc JsError σ AssociationsSearchResults)
  getSearchKeywords : OracleAdapter → Except JsError (Proc JsError σ (List SearchKeywords))

/-- The aggregate with what its listings need besides: `getOracle` of the finder for the party type
and the currency as a stored oracle has them, which need not be strings. -/
structure ListingAggregate (σ : Type) extends Aggregate σ where
  getOracle : (partyType currency : Js.Value) → Proc JsError σ (Option Oracle)
  oracleListing : OracleListing σ

namespace ListingAggregate

variable {σ : Type} (agg : ListingAggregate σ)

/-- `_getOracleAdapter` of a party type and a currency that need not be strings: the finder takes
them as they are, the messages have their texts. -/
def getOracleAdapter (partyType currency : Js.Value) : Proc JsError σ OracleAdapter :=
  let asked : Aggregate σ :=
    { agg.toAggregate with
      oracleFinder :=
        { agg.oracleFinder with getOracle := fun _ _ => agg.getOracle partyType currency } }
  asked.getOracleAdapter (.val partyType.text) (.val (currency.textD "Not Provided"))

/-- For strings it is the aggregate's `getOracleAdapter`. -/
theorem getOracleAdapter_toValue {partyType currency : Js.Str}
    (h : agg.getOracle partyType.toValue currency.toValue =
      agg.oracleFinder.getOracle partyType currency) :
    agg.getOracleAdapter partyType.toValue currency.toValue =
      agg.toAggregate.getOracleAdapter partyType currency := by
  unfold getOracleAdapter Aggregate.getOracleAdapter
  rw [h, Js.Field.text_toValue, Js.Field.textD_toValue]
  rfl

/-- What a listing does for one oracle: its call on the adapter that is selected for the party type
and the currency of the oracle.  `failure` starts the message of a call that fails. -/
def listOracle {β : Type} (list : OracleAdapter → Except JsError (Proc JsError σ β))
    (failure : String) (oracle : Oracle) : Proc JsError σ β := do
  let oracleProvider ←
    (agg.getOracleAdapter oracle.partyType oracle.currency).rethrow fun error =>
      ⟨.oracleNotFoundError,
        "Unable to get oracle provider for oracle: " ++ oracle.id.text ++ " " ++ error.message⟩
  let listed ← Proc.ofExcept (list oracleProvider)
  listed.rethrow fun error =>
    ⟨.unableToGetOracleAssociationsError, failure ++ oracle.id.text ++ " " ++ error.message⟩

/-- The loop of the three listings, which assigns the result for each oracle over that for the oracle
before it. -/
def listOracles {β : Type} (list : OracleAdapter → Except JsError (Proc JsError σ β))
    (failure : String) (initial : β) (oracles : List Oracle) : Proc JsError σ β :=
  oracles.foldlM (fun _ oracle => agg.listOracle list failure oracle) initial

/-- `flat` leaves a list of associations as it is. -/
def getBuiltInOracleAssociations : Proc JsError σ (List AssociationRecord) := do
  let oracles ← agg.oracleFinder.getAllOracles
  let builtinOracles := oracles.filter fun o => o.type.strictEq (.str "builtin")
  agg.listOracles (fun adapter => .ok (agg.oracleListing.getAllAssociations adapter))
    "Unable to get oracle associations for oracle: " [] builtinOracles

/-- Without oracles the result is an empty array, here `none`. -/
def getAllOracleAssociations (search : AssociationSearch) :
    Proc JsError σ (Option AssociationsSearchResults) := do
  let oracles ← agg.oracleFinder.getAllOracles
  agg.listOracles
    (fun adapter => (agg.oracleListing.searchAssociations adapter search).map fun results => do
      let found ← results
      pure (some found))
    "Unable to get oracle associations for oracle: " none oracles

def getSearchKeywords : Proc JsError σ (List SearchKeywords) := do
  let oracles ← agg.oracleFinder.getAllOracles
  agg.listOracles agg.oracleListing.getSearchKeywords
    "Unable to get oracle search keywords for oracle: " [] oracles

end ListingAggregate

/-! ### The finder -/

namespace MongoOracleFinderRepo

variable (compound : Js.Value → Js.Value → Bool) (faults : Faults)

/-- `select` for a party type and a currency that need not be strings. -/
def selectValue (partyType currency : Js.Value) (oracles : List Oracle) : Option Oracle :=
  let ofType := oracles.filter fun document =>
    Mongo.acceptsValue compound partyType document.partyType
  let (withCurrency, withoutCurrency) :=
    ofType.partition fun document => document.currency.strictEq currency
  withCurrency.head? <|> withoutCurrency.head?

theorem selectValue_toValue (partyType currency : Js.Str) (oracles : List Oracle) :
    selectValue compound partyType.toValue currency.toValue oracles =
      select compound partyType currency oracles := rfl

def getOracleValue (partyType currency : Js.Value) :
    Proc JsError (List Oracle) (Option Oracle) := do
  let oracle ←
    (send faults .findOraclesOfType fun s =>
        (selectValue compound partyType currency s, s)).rethrow
      (failure .unableToGetOracleError "Unable to get oracle")
  match oracle with
  | some oracle => pure (some oracle)
  | none =>
    Proc.reject ⟨.noSuchOracleError, "Oracle with partyType " ++ partyType.text ++
      "  and currency " ++ currency.text ++ " not found"⟩

theorem getOracleValue_toValue (partyType currency : Js.Str) :
    getOracleValue compound faults partyType.toValue currency.toValue =
      getOracle compound faults partyType currency := by
  unfold getOracleValue getOracle
  rw [Js.Field.text_toValue, Js.Field.text_toValue]
  rfl

end MongoOracleFinderRepo

/-- The aggregate of the service, with the listing methods of its adapters. -/
def System.listingAggregate (env : Environment) (oracleListing : OracleListing World) :
    ListingAggregate World :=
  { System.aggregate env with
    getOracle := fun partyType currency =>
      (MongoOracleFinderRepo.getOracleValue env.compound env.faults partyType currency).zoom
        World.oraclesLens
    oracleListing }

/-- A party type and a currency that are strings have their adapter selected as in the handling of
messages. -/
theorem System.getOracleAdapter_toValue (env : Environment) (oracleListing : OracleListing World)
    (partyType currency : Js.Str) :
    (listingAggregate env oracleListing).getOracleAdapter partyType.toValue currency.toValue =
      (aggregate env).getOracleAdapter partyType currency :=
  ListingAggregate.getOracleAdapter_toValue _
    (congrArg (Proc.zoom World.oraclesLens)
      (MongoOracleFinderRepo.getOracleValue_toValue env.compound env.faults partyType currency))

end AccountLookup
