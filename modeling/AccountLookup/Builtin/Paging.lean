import AccountLookup.Builtin.Search

/-! The pages of a search: which page sizes cover what the filter selects, and which parameters keep
the numbers of the search within their bounds. -/

namespace AccountLookup

namespace MongoOracleProviderRepo

variable (engine : SearchEngine)

/-- The items of the pages up to `totalPages` are the associations that meet the filter, each of them
once, every one of these pages reports that number, and the pages from there on are empty. -/
def Covers (search : AssociationSearch) (s : BuiltinStore) (pageSize : Nat) : Prop :=
  ∃ (results : Nat → SearchResults) (totalPages : Nat),
    (∀ pageIndex, Answers engine (search.at pageIndex pageSize) s (results pageIndex)) ∧
      (∀ pageIndex ≤ totalPages, (results pageIndex).totalPages = .int totalPages) ∧
      ((List.range totalPages).flatMap fun pageIndex => (results pageIndex).items).Perm
        (matching engine search s.parties) ∧
      ∀ pageIndex ≥ totalPages, (results pageIndex).items = []

variable {engine} {search : AssociationSearch} {s : BuiltinStore}

/-- What is answered for each page: up to the last one, its items and the number of pages, and from
there on nothing. -/
theorem exists_page (engine : SearchEngine) (search : AssociationSearch) (s : BuiltinStore)
    {pageSize : Nat} (hpos : 0 < pageSize) (h : pageSize ≤ 100)
    (hlength : (matching engine search s.parties).length ≤ Js.maxArrayLength) (pageIndex : Nat) :
    let found := matching engine search s.parties
    let totalPages := Lists.pageCount found.length pageSize
    ∃ results, Answers engine (search.at pageIndex pageSize) s results ∧
      (pageIndex ≤ totalPages → results.totalPages = .int totalPages ∧
        results.items = Lists.page pageSize 20 (engine.order found) pageIndex) ∧
      (totalPages ≤ pageIndex → results.items = []) := by
  intro found totalPages
  have hend : totalPages ≤ pageIndex → found.length ≤ pageIndex * pageSize := by
    intro hle
    have hcount := Lists.le_pageCount_mul hpos found.length
    exact Nat.le_trans hcount (Nat.mul_le_mul_right pageSize hle)
  by_cases hindex : pageIndex ≤ totalPages
  · obtain ⟨results, hanswers, hitems, htotal⟩ :=
      answers_page engine search s hpos h (pageIndex_mul_safe hpos h hlength hindex)
    refine ⟨results, hanswers, fun _ => ⟨htotal, hitems⟩, ?_⟩
    intro hle
    rw [hitems]
    exact Lists.page_eq_nil (by rw [length_order]; exact hend hle)
  · have hle : totalPages ≤ pageIndex := Nat.le_of_lt (Nat.not_le.mp hindex)
    obtain ⟨results, hanswers, hitems⟩ := answers_page_nil engine search s hpos h hlength (hend hle)
    exact ⟨results, hanswers, fun hless => absurd hless hindex, fun _ => hitems⟩

/-- The pages of a search cover what meets its filter exactly when those of the limit of 20 do. -/
theorem covers_iff_perm {pageSize : Nat} (hpos : 0 < pageSize) (h : pageSize ≤ 100)
    (hlength : (matching engine search s.parties).length ≤ Js.maxArrayLength) :
    Covers engine search s pageSize ↔
      (Lists.pages pageSize 20 (engine.order (matching engine search s.parties))).Perm
        (matching engine search s.parties) := by
  unfold Lists.pages
  rw [length_order]
  have hpage := exists_page engine search s hpos h hlength
  constructor
  · intro hcovers
    obtain ⟨results, totalPages, hanswers, htotal, hperm, -⟩ := hcovers
    have hcount : totalPages =
        Lists.pageCount (matching engine search s.parties).length pageSize := by
      obtain ⟨first, hfirst, hvalues, -⟩ := hpage 0
      have hsame := (htotal 0 (Nat.zero_le _)).symm.trans
        ((congrArg SearchResults.totalPages ((hanswers 0).unique hfirst)).trans
          (hvalues (Nat.zero_le _)).1)
      exact Js.Number.natCast_inj.mp hsame
    subst hcount
    have hitems : (List.range (Lists.pageCount (matching engine search s.parties).length
        pageSize)).flatMap (fun pageIndex => (results pageIndex).items) =
          (List.range (Lists.pageCount (matching engine search s.parties).length
            pageSize)).flatMap
              (Lists.page pageSize 20 (engine.order (matching engine search s.parties))) := by
      apply List.flatMap_congr
      intro pageIndex hmem
      obtain ⟨found, hfound, hvalues, -⟩ := hpage pageIndex
      rw [(hanswers pageIndex).unique hfound]
      exact (hvalues (Nat.le_of_lt (List.mem_range.mp hmem))).2
    rw [← hitems]
    exact hperm
  · intro hperm
    choose results hanswers hvalues hend using hpage
    refine ⟨results, _, hanswers, fun pageIndex hindex => (hvalues pageIndex hindex).1, ?_, hend⟩
    rw [List.flatMap_congr fun pageIndex hmem =>
      (hvalues pageIndex (Nat.le_of_lt (List.mem_range.mp hmem))).2]
    exact hperm

/-- They do exactly when a page is as long as the limit, or one page and the limit are both enough for
all of it. -/
theorem covers_iff (engine : SearchEngine) (search : AssociationSearch) (s : BuiltinStore)
    {pageSize : Nat} (hpos : 1 ≤ pageSize) (h : pageSize ≤ 100)
    (hlength : (matching engine search s.parties).length ≤ Js.maxArrayLength) :
    Covers engine search s pageSize ↔
      pageSize = 20 ∨ (matching engine search s.parties).length ≤ min pageSize 20 := by
  have hpages := Lists.pages_perm_iff hpos 20 (engine.order (matching engine search s.parties))
  rw [length_order, eq_comm] at hpages
  rw [covers_iff_perm hpos h hlength, ← hpages]
  exact List.Perm.congr_right (engine.order_perm _).symm _

/-- A search without a filter. -/
def unfiltered : AssociationSearch where
  fspId := .null
  partyId := .null
  partyType := .null
  partySubType := .null
  currency := .null
  pageIndex := none
  pageSize := none

/-- A collection of `count` associations of `bank`. -/
def collectionOf (count : Nat) : BuiltinStore where
  parties := (List.range count).map fun n =>
    { fspId := .val "bank"
      partyType := .val "MSISDN"
      partyId := .val (String.ofList (List.replicate n '1'))
      partySubType := .null
      currency := .null }
  cache := .empty
  connections := []

theorem covers_iff_twoPages :
    Covers plainEngine unfiltered (collectionOf 3) 2 ↔
      2 = 20 ∨ (matching plainEngine unfiltered (collectionOf 3).parties).length ≤ min 2 20 :=
  covers_iff plainEngine unfiltered (collectionOf 3) (by decide) (by decide) (by decide +kernel)

/-- The last of 21 associations is on no page of 100. -/
theorem not_covers : ¬Covers plainEngine unfiltered (collectionOf 21) 100 := by
  rw [covers_iff_perm (by decide) (by decide) (by decide +kernel)]
  intro hperm
  have hlength := hperm.length_eq
  revert hlength
  decide +kernel

/-! ### The bounds of the parameters -/

/-- The page size that is asked for, or its default; one that is not positive counts as 0. -/
def askedSize (search : AssociationSearch) : Nat :=
  match search.pageSize with
  | some (some size) => size.toNat
  | _ => 100

/-- The index that is asked for, or its default; a negative one counts as 0. -/
def askedIndex (search : AssociationSearch) : Nat :=
  match search.pageIndex with
  | some (some index) => index.toNat
  | _ => 0

/-- The search works with a page size from 1 to 100 and skips a natural number of associations; it is
answered with at most a page of them, and with a number of pages that is positive if there is any. -/
def WithinBounds (engine : SearchEngine) (search : AssociationSearch) (s : BuiltinStore) : Prop :=
  ∃ (results : SearchResults) (size skip totalPages : Nat),
    Answers engine search s results ∧ pageSizeOf search = .int size ∧ 1 ≤ size ∧ size ≤ 100 ∧
      skipOf search = .int skip ∧ results.items.length ≤ size ∧
      results.totalPages = .int totalPages ∧
      (0 < (matching engine search s.parties).length → 0 < totalPages)

/-- The page size and the index are not `NaN`, the size is positive, the product of the two is not too
large for a double, and nothing comes after the page when it is smaller than the limit of 20. -/
structure Bounded (engine : SearchEngine) (search : AssociationSearch) (s : BuiltinStore) :
    Prop where
  size_number : search.pageSize ≠ some none
  size_pos : 0 < askedSize search
  index_number : search.pageIndex ≠ some none
  finite : (Js.Number.ofNat (askedIndex search)).mul (.int (min (askedSize search) 100 : Nat)) ≠
    .posInf
  last : 20 ≤ askedSize search ∨ (matching engine search s.parties).length ≤
    askedIndex search * askedSize search + askedSize search

theorem pageSizeOf_eq (hnumber : search.pageSize ≠ some none) (hpos : 0 < askedSize search) :
    pageSizeOf search = .int (min (askedSize search) 100 : Nat) := by
  unfold pageSizeOf askedSize parameter maxEntriesPerPage at *
  cases hsize : search.pageSize with
  | none => rfl
  | some size =>
    rw [hsize] at hpos
    cases size with
    | none => exact absurd hsize hnumber
    | some size =>
      dsimp only at hpos ⊢
      obtain ⟨n, rfl⟩ := Int.eq_ofNat_of_zero_le (show 0 ≤ size by omega)
      exact Js.Number.min_ofNat (by decide)

theorem asked_of_pageSizeOf {size : Nat} (hpos : 0 < size) (h : pageSizeOf search = .int size) :
    search.pageSize ≠ some none ∧ 0 < askedSize search := by
  unfold pageSizeOf askedSize parameter maxEntriesPerPage at *
  cases hsize : search.pageSize with
  | none => exact ⟨nofun, by decide⟩
  | some asked =>
    rw [hsize] at h
    cases asked with
    | none => cases h
    | some asked =>
      refine ⟨nofun, ?_⟩
      by_contra hzero
      have hnonpos : asked ≤ 0 := by
        dsimp only at hzero
        omega
      rcases Js.Number.min_ofInt_of_nonpos hnonpos 100 with hinf | ⟨v, hv, hint⟩
      · cases hinf.symm.trans h
      · have hsame := hint.symm.trans h
        injection hsame with hvalue
        omega

theorem pageIndexOf_eq (hnumber : search.pageIndex ≠ some none) :
    pageIndexOf search = .ofNat (askedIndex search) := by
  unfold pageIndexOf askedIndex parameter
  cases hindex : search.pageIndex with
  | none =>
    rw [Js.Number.ofNat_of_lt (by decide)]
    rfl
  | some index =>
    cases index with
    | none => exact absurd hindex hnumber
    | some index => exact Js.Number.max_ofInt index

theorem index_number_of_skipOf {skip : Nat} (h : skipOf search = .int skip) :
    search.pageIndex ≠ some none := by
  intro hindex
  have hnan : pageIndexOf search = .nan := by
    unfold pageIndexOf parameter
    rw [hindex]
    rfl
  unfold skipOf at h
  rw [hnan] at h
  cases h

/-- The number of associations that are left for a page is at most its size exactly when, before the
product is rounded, it is. -/
theorem skip_bound {index size skip length : Nat} (hpos : 0 < size)
    (hlength : length ≤ Js.maxArrayLength)
    (h : (Js.Number.ofNat index).mul (.int size) = .int skip) :
    length ≤ skip + size ↔ length ≤ index * size + size := by
  by_cases hsafe : index * size < Js.safeLimit
  · rw [Js.Number.ofNat_mul hpos hsafe] at h
    rw [Js.Number.natCast_inj.mp h]
  · have hlimits : Js.maxArrayLength ≤ Js.safeLimit := by decide
    rcases Js.Number.ofNat_mul_of_le hpos (Nat.not_lt.mp hsafe) with hinf | ⟨k, hk, hmul⟩
    · rw [hinf] at h
      cases h
    · rw [hmul] at h
      have hskip := Js.Number.natCast_inj.mp h
      omega

/-- A search keeps its numbers within their bounds exactly when its parameters do. -/
theorem withinBounds_iff (engine : SearchEngine) (search : AssociationSearch) (s : BuiltinStore)
    (hlength : (matching engine search s.parties).length ≤ Js.maxArrayLength) :
    WithinBounds engine search s ↔ Bounded engine search s := by
  constructor
  · intro hwithin
    obtain ⟨results, size, skip, -, hanswers, hsize, hpos, -, hskip, hitems, -, -⟩ := hwithin
    obtain ⟨hnumber, hasked⟩ := asked_of_pageSizeOf hpos hsize
    have hindex := index_number_of_skipOf hskip
    have heffective : size = min (askedSize search) 100 :=
      Js.Number.natCast_inj.mp (hsize.symm.trans (pageSizeOf_eq hnumber hasked))
    have hproduct : (Js.Number.ofNat (askedIndex search)).mul (.int size) = .int skip := by
      rw [← hskip, skipOf, hsize, pageIndexOf_eq hindex]
    refine ⟨hnumber, hasked, hindex, ?_, ?_⟩
    · rw [← heffective, hproduct]
      exact nofun
    · obtain ⟨found, hfound, hpage, -⟩ := answers_of_skip engine s hpos hsize hskip
      rw [hanswers.unique hfound, hpage, List.length_take, List.length_drop, length_order] at hitems
      by_cases hlimit : 20 ≤ askedSize search
      · exact .inl hlimit
      · have hsame : size = askedSize search := by omega
        have hbound := (skip_bound hpos hlength hproduct).mp (by omega)
        rw [hsame] at hbound
        exact .inr hbound
  · intro hbounded
    have hpos := hbounded.size_pos
    have hsize := pageSizeOf_eq hbounded.size_number hpos
    have hmin : 0 < min (askedSize search) 100 := by omega
    rcases Js.Number.ofNat_mul_cases hmin (askedIndex search) with hinf | ⟨skip, hproduct⟩
    · exact absurd hinf hbounded.finite
    · have hskip : skipOf search = .int skip := by
        rw [skipOf, hsize, pageIndexOf_eq hbounded.index_number, hproduct]
      obtain ⟨results, hanswers, hpage, htotal⟩ := answers_of_skip engine s hmin hsize hskip
      refine ⟨results, _, skip, _, hanswers, hsize, hmin, Nat.min_le_right _ _, hskip, ?_, htotal,
        (Lists.pageCount_pos_iff hmin).mpr⟩
      rw [hpage, List.length_take, List.length_drop, length_order]
      by_cases hlimit : 20 ≤ askedSize search
      · omega
      · have hlast := hbounded.last.resolve_left hlimit
        have hsame : min (askedSize search) 100 = askedSize search := by omega
        rw [hsame] at hproduct ⊢
        have hbound := (skip_bound hpos hlength hproduct).mpr hlast
        omega

theorem withinBounds_iff_lastPage :
    WithinBounds plainEngine (unfiltered.at 1 5) (collectionOf 8) ↔
      Bounded plainEngine (unfiltered.at 1 5) (collectionOf 8) :=
  withinBounds_iff plainEngine (unfiltered.at 1 5) (collectionOf 8) (by decide +kernel)

/-- A page size of 0 is not limited from below. -/
theorem not_withinBounds : ¬WithinBounds plainEngine (unfiltered.at 0 0) (collectionOf 1) := by
  intro hwithin
  obtain ⟨-, size, -, -, -, hsize, hpos, -⟩ := hwithin
  obtain ⟨-, hasked⟩ := asked_of_pageSizeOf hpos hsize
  exact absurd hasked (by decide)

end MongoOracleProviderRepo

end AccountLookup
