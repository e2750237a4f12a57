import AccountLookup.Url.PathParameters
import AccountLookup.Url.QueryParameters

/-! URLs with two parameters in the path and one that may follow in the query: which parameters
arrive. -/

namespace Url

/-- The part of a URL that follows its origin: a constant, two parameters, and a value for a key. -/
def parameterUrl (constant first second key : List Char) : (value : Option (List Char)) → List Char
  | none => parameterPath constant first second
  | some value => parameterPath constant first second ++ '?' :: (key ++ '=' :: value)

/-- Parameters that get through: the one that ends the URL keeps its end. -/
structure ParametersSafe (first second : List Char) (value : Option (List Char)) : Prop where
  firstSafe : PathSafe first
  secondSafe : PathSafe second
  last : match value with
    | none => EndsPlain second
    | some value => QuerySafe value

instance (first second : List Char) (value : Option (List Char)) :
    Decidable (ParametersSafe first second value) :=
  match value with
  | none =>
    decidable_of_iff (PathSafe first ∧ PathSafe second ∧ EndsPlain second)
      ⟨fun h => ⟨h.1, h.2.1, h.2.2⟩, fun h => ⟨h.firstSafe, h.secondSafe, h.last⟩⟩
  | some value =>
    decidable_of_iff (PathSafe first ∧ PathSafe second ∧ QuerySafe value)
      ⟨fun h => ⟨h.1, h.2.1, h.2.2⟩, fun h => ⟨h.firstSafe, h.secondSafe, h.last⟩⟩

section Parameters

variable {constant : List Char} (hconstant : ConstantSegment constant) {key : List Char}
  (hkey : UrlKey key) {first second : List Char} {value : Option (List Char)}
include hconstant hkey

/-- The query has at most the one value for the key. -/
theorem queryValues_parameterUrl (h : ParametersSafe first second value) (key' : String) :
    queryValues (parse (parameterUrl constant first second key value)).query key' =
      if key = key'.toList then (value.map String.ofList).toList else [] := by
  obtain ⟨hfirst, hsecond, hlast⟩ := h
  have hplain := plain_parameterPath hconstant hfirst.unbroken hsecond.unbroken
  cases value with
  | none =>
    rw [parameterUrl, query_eq hplain]
    split <;> rfl
  | some value =>
    rw [parameterUrl, query_append_question hplain, encode_key hkey, hlast.queryValues_eq hkey.1]
    rfl

variable {router : List (List Char) → Option (List Char × List Char)}
  (hreads : ReadsParameters constant router) (hfirst : first ≠ []) (hsecond : second ≠ [])
include hreads hfirst hsecond

/-- The parameters arrive exactly when they are safe. -/
theorem parameters_arrive_iff :
    (Arrive router first second (parameterUrl constant first second key value) ∧
        joined (queryValues (parse (parameterUrl constant first second key value)).query
          (String.ofList key)) = value.map String.ofList) ↔ ParametersSafe first second value := by
  constructor
  · intro h
    obtain ⟨harrive, hvalue⟩ := h
    cases value with
    | none =>
      obtain ⟨hsafe, hsafe', hends⟩ := (arrive_iff hconstant hreads hfirst hsecond).mp harrive
      exact ⟨hsafe, hsafe', hends⟩
    | some value =>
      obtain ⟨hsafe, hsafe'⟩ := (arrive_query_iff hconstant hreads hfirst hsecond _).mp harrive
      have hplain := plain_parameterPath hconstant hsafe.unbroken hsafe'.unbroken
      rw [parameterUrl, query_append_question hplain, encode_key hkey] at hvalue
      exact ⟨hsafe, hsafe', (joined_eq_iff hkey.1 value).mp hvalue⟩
  · intro h
    constructor
    · cases value with
      | none =>
        exact (arrive_iff hconstant hreads hfirst hsecond).mpr
          ⟨h.firstSafe, h.secondSafe, h.last⟩
      | some value =>
        exact (arrive_query_iff hconstant hreads hfirst hsecond _).mpr
          ⟨h.firstSafe, h.secondSafe⟩
    · rw [queryValues_parameterUrl hconstant hkey h, String.toList_ofList, if_pos rfl]
      cases value <;> rfl

end Parameters

/-- A percent sign arrives where it begins no escape. -/
example : ParametersSafe "MSISDN".toList "+351 91".toList (some "100%".toList) := by decide +kernel

/-! ### Strings -/

section Strings

variable {constant : List Char} (hconstant : ConstantSegment constant) {key : String}
  (hkey : UrlKey key.toList) {first second : String} {value : Option String}
include hconstant hkey

theorem queryValues_other
    (h : ParametersSafe first.toList second.toList (value.map String.toList)) {key' : String}
    (hne : key' ≠ key) :
    queryValues (parse (parameterUrl constant first.toList second.toList key.toList
      (value.map String.toList))).query key' = [] := by
  have hother : key.toList ≠ key'.toList := fun heq => hne (String.toList_inj.mp heq).symm
  rw [queryValues_parameterUrl hconstant hkey h, if_neg hother]

variable {router : List (List Char) → Option (List Char × List Char)}
  (hreads : ReadsParameters constant router) (hfirst : first ≠ "") (hsecond : second ≠ "")
include hreads hfirst hsecond

/-- The parameters of a URL that is built from strings arrive exactly when they are safe. -/
theorem strings_arrive_iff :
    (Arrive router first.toList second.toList (parameterUrl constant first.toList second.toList
          key.toList (value.map String.toList)) ∧
        joined (queryValues (parse (parameterUrl constant first.toList second.toList key.toList
          (value.map String.toList))).query key) = value) ↔
      ParametersSafe first.toList second.toList (value.map String.toList) := by
  have hfirst : first.toList ≠ [] := by simpa using hfirst
  have hsecond : second.toList ≠ [] := by simpa using hsecond
  have hmap : (value.map String.toList).map String.ofList = value := by
    cases value <;> simp
  have harrive := @parameters_arrive_iff _ hconstant _ hkey _ _ (value.map String.toList) _ hreads
    hfirst hsecond
  rwa [String.ofList_toList, hmap] at harrive

end Strings

end Url
