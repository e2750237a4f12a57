import AccountLookup.Lists.Paging
import AccountLookup.Model.SearchAssociations
import Mathlib.Data.List.Infix

/-! The results of a search of the builtin oracle: what its two queries give for a page. -/

namespace AccountLookup

open Async

/-- The search for the page `pageIndex` of `pageSize` associations. -/
def AssociationSearch.at (search : AssociationSearch) (pageIndex pageSize : Nat) :
    AssociationSearch :=
  { search with
    pageIndex := some (some pageIndex)
    pageSize := some (some pageSize) }

namespace MongoOracleProviderRepo

variable (engine : SearchEngine)

/-- The associations that meet the filter of the search: none when a pattern is refused. -/
def matching (search : AssociationSearch) (parties : List AssociationRecord) :
    List AssociationRecord :=
  match find engine (filterOf search) parties with
  | .ok found => found
  | .error _ => []

/-- The search is answered with the results, when neither of its commands fails. -/
def Answers (search : AssociationSearch) (s : BuiltinStore) (results : SearchResults) : Prop :=
  (searchAssociations engine .none search).run s = (.ok results, s)

variable {engine} {search : AssociationSearch} {s : BuiltinStore}

@[simp] theorem run_query (faults : Faults) (command : Command) (message : String)
    (found : List AssociationRecord → Except JsError (List AssociationRecord)) :
    (query faults command message found).run s =
      (match faults command, found s.parties with
        | none, .ok result => .ok result
        | _, _ => .error ⟨.unableToGetAssociationsError, message⟩, s) := by
  unfold query
  rw [Proc.run_rethrow, Proc.run_bind, run_send]
  cases faults command with
  | some error => rfl
  | none =>
    dsimp only
    rw [Proc.run_ofExcept]
    cases found s.parties <;> rfl

theorem findPage_of_error {filter : List Condition} {parties : List AssociationRecord}
    {error : JsError} (h : find engine filter parties = .error error) (skip : Js.Number) :
    findPage engine filter skip parties = .error error := by
  unfold findPage
  rw [h]
  rfl

theorem findPage_of_ok {filter : List Condition} {parties found : List AssociationRecord}
    (h : find engine filter parties = .ok found) (skip : Js.Number) :
    findPage engine filter skip parties =
      (engine.skip skip (engine.order found)).map (·.take 20) := by
  unfold findPage
  rw [h]
  show (do
    let rest ← engine.skip skip (engine.order found)
    pure (rest.take 20)) = _
  cases engine.skip skip (engine.order found) <;> rfl

theorem answers_refused {error : JsError}
    (h : findPage engine (filterOf search) (skipOf search) s.parties = .error error) :
    Answers engine search s
      { pageSize := pageSizeOf search
        pageIndex := pageIndexOf search
        totalPages := .int 0
        items := [] } := by
  unfold Answers searchAssociations
  rw [Proc.run_attempt_bind, run_query, h]
  rfl

theorem answers_found {result found : List AssociationRecord}
    (hpage : findPage engine (filterOf search) (skipOf search) s.parties = .ok result)
    (hfind : find engine (filterOf search) s.parties = .ok found) :
    Answers engine search s
      { pageSize := (pageSizeOf search).max (.int result.length)
        pageIndex := pageIndexOf search
        totalPages := .ceilDiv found.length (pageSizeOf search)
        items := result } := by
  unfold Answers searchAssociations
  rw [Proc.run_attempt_bind, run_query, hpage]
  dsimp only [Faults.none]
  rw [Proc.run_attempt_bind, run_query, hfind]
  rfl

theorem Answers.unique {results results' : SearchResults} (h : Answers engine search s results)
    (h' : Answers engine search s results') : results = results' := by
  have hsame := h.symm.trans h'
  simpa using hsame

theorem order_nil (engine : SearchEngine) : engine.order [] = [] :=
  List.perm_nil.mp (engine.order_perm [])

theorem length_order (engine : SearchEngine) (found : List AssociationRecord) :
    (engine.order found).length = found.length :=
  (engine.order_perm found).length_eq

/-- A search that skips a finite number of associations has what comes after them, and counts the
pages of all of them, or of none when a pattern is refused. -/
theorem answers_of_skip (engine : SearchEngine) (s : BuiltinStore) {size skip : Nat}
    (hsize : 0 < size) (hpageSize : pageSizeOf search = .int size)
    (hskip : skipOf search = .int skip) :
    ∃ results, Answers engine search s results ∧
      results.items = ((engine.order (matching engine search s.parties)).drop skip).take 20 ∧
      results.totalPages =
        .int (Lists.pageCount (matching engine search s.parties).length size) := by
  unfold matching
  cases hfind : find engine (filterOf search) s.parties with
  | error error =>
    refine ⟨_, answers_refused (findPage_of_error hfind _), ?_, ?_⟩
    · simp [order_nil]
    · simp [Lists.pageCount_zero hsize]
  | ok found =>
    have hpage : findPage engine (filterOf search) (skipOf search) s.parties =
        .ok (((engine.order found).drop skip).take 20) := by
      rw [findPage_of_ok hfind, hskip, engine.skip_int]
      rfl
    refine ⟨_, answers_found hpage hfind, rfl, ?_⟩
    show Js.Number.ceilDiv found.length (pageSizeOf search) = _
    rw [hpageSize, Js.Number.ceilDiv_of_pos hsize]
    rfl

theorem answers_of_skip_posInf (hskip : skipOf search = .posInf) :
    ∃ results, Answers engine search s results ∧ results.items = [] := by
  cases hfind : find engine (filterOf search) s.parties with
  | error error => exact ⟨_, answers_refused (findPage_of_error hfind _), rfl⟩
  | ok found =>
    have hrest := findPage_of_ok hfind (skipOf search)
    rw [hskip] at hrest
    rcases engine.skip_posInf (engine.order found) with hnone | ⟨error, herror⟩
    · rw [hnone, ← hskip] at hrest
      exact ⟨_, answers_found hrest hfind, rfl⟩
    · rw [herror, ← hskip] at hrest
      exact ⟨_, answers_refused hrest, rfl⟩

/-! ### Pages that are asked for by their numbers -/

theorem pageSizeOf_at {pageIndex pageSize : Nat} (h : pageSize ≤ 100) :
    pageSizeOf (search.at pageIndex pageSize) = .int pageSize := by
  show (Js.Number.ofNat pageSize).min (.int (100 : Nat)) = _
  rw [Js.Number.min_ofNat (by decide), Nat.min_eq_left h]

theorem pageIndexOf_at (pageIndex pageSize : Nat) :
    pageIndexOf (search.at pageIndex pageSize) = .ofNat pageIndex :=
  Js.Number.max_ofInt pageIndex

theorem skipOf_at {pageIndex pageSize : Nat} (h : pageSize ≤ 100) :
    skipOf (search.at pageIndex pageSize) = (Js.Number.ofNat pageIndex).mul (.int pageSize) := by
  unfold skipOf
  rw [pageSizeOf_at h, pageIndexOf_at]

/-- The pages up to the last one start at a safe integer. -/
theorem pageIndex_mul_safe {length pageIndex pageSize : Nat} (hpos : 0 < pageSize)
    (h : pageSize ≤ 100) (hlength : length ≤ Js.maxArrayLength)
    (hindex : pageIndex ≤ Lists.pageCount length pageSize) :
    pageIndex * pageSize < Js.safeLimit := by
  have hcount : Lists.pageCount length pageSize * pageSize ≤ length + pageSize - 1 :=
    Nat.div_mul_le_self _ _
  have hmul := Nat.mul_le_mul_right pageSize hindex
  have hlimits : Js.maxArrayLength + 100 < Js.safeLimit := by decide
  omega

variable (engine search s)

/-- A page that starts at a safe integer: its items, and the number of pages. -/
theorem answers_page {pageIndex pageSize : Nat} (hpos : 0 < pageSize) (h : pageSize ≤ 100)
    (hsafe : pageIndex * pageSize < Js.safeLimit) :
    ∃ results, Answers engine (search.at pageIndex pageSize) s results ∧
      results.items =
        Lists.page pageSize 20 (engine.order (matching engine search s.parties)) pageIndex ∧
      results.totalPages =
        .int (Lists.pageCount (matching engine search s.parties).length pageSize) :=
  answers_of_skip engine s hpos (pageSizeOf_at h)
    ((skipOf_at h).trans (Js.Number.ofNat_mul hpos hsafe))

theorem answers_page_nil {pageIndex pageSize : Nat} (hpos : 0 < pageSize) (h : pageSize ≤ 100)
    (hlength : (matching engine search s.parties).length ≤ Js.maxArrayLength)
    (hend : (matching engine search s.parties).length ≤ pageIndex * pageSize) :
    ∃ results, Answers engine (search.at pageIndex pageSize) s results ∧ results.items = [] := by
  by_cases hsafe : pageIndex * pageSize < Js.safeLimit
  · obtain ⟨results, hanswers, hitems, -⟩ := answers_page engine search s hpos h hsafe
    refine ⟨results, hanswers, ?_⟩
    rw [hitems]
    exact Lists.page_eq_nil (by rwa [length_order])
  · rcases Js.Number.ofNat_mul_of_le hpos (Nat.not_lt.mp hsafe) with hinf | ⟨skip, hskip, hint⟩
    · exact answers_of_skip_posInf ((skipOf_at h).trans hinf)
    · obtain ⟨results, hanswers, hitems, -⟩ :=
        answers_of_skip engine s hpos (pageSizeOf_at h) ((skipOf_at h).trans hint)
      refine ⟨results, hanswers, ?_⟩
      have hless : Js.maxArrayLength ≤ Js.safeLimit := by decide
      rw [hitems, List.drop_eq_nil_of_le, List.take_nil]
      rw [length_order]
      exact Nat.le_trans hlength (Nat.le_trans hless hskip)

/-- A database that looks for the text of a pattern, in letters of either case, and refuses a pattern
that starts with a quantifier. -/
def plainEngine : SearchEngine where
  compound _ _ := false
  regex pattern :=
    if pattern.toList.head? = some '+' ∨ pattern.toList.head? = some '*' then
      .error ⟨.error, "Regular expression is invalid: quantifier does not follow a repeatable item"⟩
    else .ok fun text => pattern.toList.map Char.toLower <:+: text.toList.map Char.toLower
  order found := found
  skip count found :=
    match count with
    | .int count =>
      if count < 0 then .error ⟨.error, "BSON field 'skip' value must be >= 0"⟩
      else .ok (found.drop count.toNat)
    | .posInf => .ok []
    | _ => .error ⟨.error, "BSON field 'skip' must be a number"⟩
  order_perm found := .refl found
  skip_int count found := by
    show (if (count : Int) < 0 then _ else Except.ok (found.drop (count : Int).toNat)) = _
    rw [if_neg (by omega), Int.toNat_natCast]
  skip_posInf _ := .inl rfl

end MongoOracleProviderRepo

end AccountLookup
