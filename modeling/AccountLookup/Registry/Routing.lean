import AccountLookup.Handling.Selection
import AccountLookup.Lists.First

/-! Which oracle the finder selects for a party type and a currency, against the one that serves
them. -/

namespace AccountLookup

open Async

namespace MongoOracleFinderRepo

variable (compound : Js.Value → Js.Value → Bool)

/-- The currency that an oracle serves; one that has none serves `null`. -/
def currencyOf (oracle : Oracle) : Js.Value :=
  if oracle.currency = .undefined then .null else oracle.currency

/-- The oracles of a party type, in the order of the collection. -/
def ofType (partyType : String) (oracles : List Oracle) : List Oracle :=
  oracles.filter fun oracle => Mongo.acceptsValue compound (.str partyType) oracle.partyType

/-- The oracle that serves a party type and a currency: the first of its type with the currency,
else the first without one, else, if no currency is asked for, the first of its type. -/
def serving (partyType : String) (currency : Option String) (oracles : List Oracle) :
    Option Oracle :=
  let candidates := ofType compound partyType oracles
  candidates.find? (fun oracle => currencyOf oracle = (Js.Field.ofOption currency).toValue) <|>
    candidates.find? (fun oracle => currencyOf oracle = .null) <|>
      if currency = none then candidates.head? else none

/-- `getOracle` returns the oracle that serves the party type and the currency, and throws
`NoSuchOracleError` when there is none. -/
def Routes (partyType : String) (currency : Option String) (oracles : List Oracle) : Prop :=
  (getOracle compound .none (.val partyType) (.ofOption currency)).run oracles =
    (match serving compound partyType currency oracles with
      | some oracle => .ok (some oracle)
      | none => .error ⟨.noSuchOracleError, "Oracle with partyType " ++ partyType ++
          "  and currency " ++ Js.Field.text (.ofOption currency) ++ " not found"⟩, oracles)

/-- An oracle has the currency, or the first of its type has none: it is the one that `getOracle`
takes for want of the currency.  When none is asked for, the first oracle without a currency has it
as `null`, or it is the first of its type and none has `null`. -/
def FallsBack (partyType : String) (currency : Option String) (oracles : List Oracle) : Prop :=
  let candidates := ofType compound partyType oracles
  match currency with
  | some currency => (∃ oracle ∈ candidates, oracle.currency = .str currency) ∨
      ∀ oracle, candidates.head? = some oracle → currencyOf oracle = .null
  | none => ∀ oracle, candidates.find? (fun oracle => currencyOf oracle = .null) = some oracle →
      oracle.currency = .null ∨ candidates.head? = some oracle ∧
        ∀ other ∈ candidates, other.currency ≠ .null

variable {compound} {partyType : String} {oracles : List Oracle}

theorem currencyOf_eq_str {oracle : Oracle} {currency : String} :
    currencyOf oracle = .str currency ↔ oracle.currency = .str currency := by
  unfold currencyOf
  split_ifs with h
  · simp [h]
  · exact Iff.rfl

theorem currencyOf_of_null {oracle : Oracle} (h : oracle.currency = .null) :
    currencyOf oracle = .null := by
  unfold currencyOf
  simp [h]

theorem routes_iff_select {currency : Option String} :
    Routes compound partyType currency oracles ↔
      select compound (.val partyType) (.ofOption currency) oracles =
        serving compound partyType currency oracles := by
  unfold Routes getOracle
  rw [Proc.run_bind, run_send_rethrow]
  cases select compound (.val partyType) (.ofOption currency) oracles with
  | none => cases serving compound partyType currency oracles <;> simp [Faults.none, Js.Field.text]
  | some oracle => cases serving compound partyType currency oracles <;> simp [Faults.none]

theorem select_some_iff (currency : String) :
    select compound (.val partyType) (.ofOption (some currency)) oracles =
        serving compound partyType (some currency) oracles ↔
      FallsBack compound partyType (some currency) oracles := by
  rw [System.select_eq]
  show ((ofType compound partyType oracles).find?
        (fun oracle => oracle.currency = .str currency) <|>
      (ofType compound partyType oracles).head?) =
    ((ofType compound partyType oracles).find? (fun oracle => currencyOf oracle = .str currency) <|>
      (ofType compound partyType oracles).find? (fun oracle => currencyOf oracle = .null) <|>
        none) ↔ _
  unfold FallsBack
  generalize ofType compound partyType oracles = candidates
  simp only [currencyOf_eq_str]
  cases hfind : candidates.find? fun oracle => oracle.currency = .str currency with
  | some oracle =>
    have hexact := List.find?_some hfind
    rw [decide_eq_true_eq] at hexact
    exact iff_of_true rfl (.inl ⟨oracle, List.mem_of_find?_eq_some hfind, hexact⟩)
  | none =>
    have hnone : ¬∃ oracle ∈ candidates, oracle.currency = .str currency := by
      simpa using hfind
    have hfirst : candidates.head? = candidates.find? (fun oracle => currencyOf oracle = .null) ↔
        ∀ oracle, candidates.head? = some oracle → currencyOf oracle = .null := by
      rw [eq_comm, Lists.find?_eq_head?_iff]
      simp
    rw [or_iff_right hnone, ← hfirst]
    simp

theorem select_none_iff :
    select compound (.val partyType) (.ofOption none) oracles =
        serving compound partyType none oracles ↔
      FallsBack compound partyType none oracles := by
  rw [System.select_eq]
  show ((ofType compound partyType oracles).find? (fun oracle => oracle.currency = .null) <|>
      (ofType compound partyType oracles).head?) =
    ((ofType compound partyType oracles).find? (fun oracle => currencyOf oracle = .null) <|>
      (ofType compound partyType oracles).find? (fun oracle => currencyOf oracle = .null) <|>
        (ofType compound partyType oracles).head?) ↔ _
  unfold FallsBack
  generalize ofType compound partyType oracles = candidates
  have himp : ∀ oracle : Oracle, decide (oracle.currency = .null) = true →
      decide (currencyOf oracle = .null) = true := by
    intro oracle h
    rw [decide_eq_true_eq] at h ⊢
    exact currencyOf_of_null h
  have htwice : (candidates.find? (fun oracle => currencyOf oracle = .null) <|>
      candidates.find? (fun oracle => currencyOf oracle = .null) <|> candidates.head?) =
        (candidates.find? (fun oracle => currencyOf oracle = .null) <|> candidates.head?) := by
    cases candidates.find? fun oracle => currencyOf oracle = .null <;> rfl
  rw [htwice, Lists.find?_or_head?_eq_iff himp]
  simp only [decide_eq_true_eq, decide_eq_false_iff_not, ne_eq]

/-- `getOracle` routes as the party type and the currency ask exactly when what it falls back to is
right. -/
theorem routes_iff (compound : Js.Value → Js.Value → Bool) (partyType : String)
    (currency : Option String) (oracles : List Oracle) :
    Routes compound partyType currency oracles ↔
      FallsBack compound partyType currency oracles := by
  rw [routes_iff_select]
  cases currency with
  | some currency => exact select_some_iff currency
  | none => exact select_none_iff

/-- The oracle that serves `EUR` is taken for `USD`. -/
theorem not_routes :
    ¬Routes (fun _ _ => false) "MSISDN" (some "USD")
      [⟨.str "1", .str "euro", .str "builtin", .str "MSISDN", .str "EUR", .null⟩] := by
  rw [routes_iff_select]
  decide +kernel

end MongoOracleFinderRepo

end AccountLookup
