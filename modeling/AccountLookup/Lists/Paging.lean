import Mathlib.Data.List.Perm.Basic

/-! A list that is read page by page, where what a page skips goes by one number and what it takes by
another. -/

namespace Lists

variable {α : Type} {l : List α} {size limit : Nat}

/-- The number of pages of `size` for `length` elements. -/
def pageCount (length size : Nat) : Nat := (length + size - 1) / size

/-- The page `k`: it skips `k` pages of `size` and takes `limit` elements. -/
def page (size limit : Nat) (l : List α) (k : Nat) : List α := (l.drop (k * size)).take limit

/-- All the pages, one after the other. -/
def pages (size limit : Nat) (l : List α) : List α :=
  (List.range (pageCount l.length size)).flatMap (page size limit l)

theorem pageCount_zero (h : 0 < size) : pageCount 0 size = 0 :=
  Nat.div_eq_of_lt (by omega)

theorem pageCount_pos {length : Nat} (h : 0 < size) (hl : 0 < length) :
    pageCount length size = pageCount (length - size) size + 1 := by
  unfold pageCount
  by_cases hle : size ≤ length
  · rw [← Nat.add_div_right _ h]
    congr 1
    omega
  · rw [show length - size = 0 by omega, Nat.div_eq_of_lt (show 0 + size - 1 < size by omega)]
    exact Nat.div_eq_of_lt_le (by omega) (by omega)

/-- The elements are within the pages. -/
theorem le_pageCount_mul (h : 0 < size) (length : Nat) : length ≤ pageCount length size * size := by
  unfold pageCount
  have hdiv := Nat.div_add_mod (length + size - 1) size
  have hmod := Nat.mod_lt (length + size - 1) h
  rw [Nat.mul_comm]
  omega

theorem pageCount_pos_iff {length : Nat} (h : 0 < size) : 0 < pageCount length size ↔ 0 < length := by
  constructor
  · intro hcount
    by_contra hzero
    rw [show length = 0 by omega, pageCount_zero h] at hcount
    omega
  · intro hl
    rw [pageCount_pos h hl]
    omega

theorem page_eq_nil {k : Nat} (h : l.length ≤ k * size) : page size limit l k = [] := by
  unfold page
  rw [List.drop_eq_nil_of_le h, List.take_nil]

theorem pages_nil (h : 0 < size) : pages size limit ([] : List α) = [] := by
  unfold pages
  rw [List.length_nil, pageCount_zero h]
  rfl

theorem pages_of_ne_nil (h : 0 < size) (hl : l ≠ []) :
    pages size limit l = l.take limit ++ pages size limit (l.drop size) := by
  have hpage : (page size limit l ∘ Nat.succ) = page size limit (l.drop size) := by
    funext k
    show (l.drop ((k + 1) * size)).take limit = ((l.drop size).drop (k * size)).take limit
    rw [List.drop_drop, Nat.succ_mul, Nat.add_comm]
  unfold pages
  rw [pageCount_pos h (List.length_pos_iff.mpr hl), List.range_succ_eq_map, List.flatMap_cons,
    List.flatMap_map, List.length_drop]
  congr 1
  · unfold page
    rw [Nat.zero_mul, List.drop_zero]
  · exact congrArg (List.flatMap · _) hpage

/-- What holds of the empty list, and of a list when it holds of what is left after its first page,
holds of every list. -/
theorem drop_induction {P : List α → Prop} (h : 0 < size) (nil : P [])
    (step : ∀ l, l ≠ [] → P (l.drop size) → P l) (l : List α) : P l := by
  induction hn : l.length using Nat.strongRecOn generalizing l with
  | _ n ih =>
    by_cases hl : l = []
    · rw [hl]
      exact nil
    · have hpos := List.length_pos_iff.mpr hl
      have hless : (l.drop size).length < n := by
        rw [List.length_drop]
        omega
      exact step l hl (ih (l.drop size).length hless _ rfl)

theorem pages_self (h : 0 < size) (l : List α) : pages size size l = l := by
  induction l using drop_induction h with
  | nil => exact pages_nil h
  | step l hl ih => rw [pages_of_ne_nil h hl, ih, List.take_append_drop]

/-- Pages that take at most what they skip have no more elements than the list. -/
theorem length_pages_le (h : 0 < size) (hlimit : limit ≤ size) (l : List α) :
    (pages size limit l).length ≤ l.length := by
  induction l using drop_induction h with
  | nil => exact Nat.le_of_eq (congrArg List.length (pages_nil h))
  | step l hl ih =>
    have hpos := List.length_pos_iff.mpr hl
    rw [pages_of_ne_nil h hl, List.length_append, List.length_take]
    rw [List.length_drop] at ih
    omega

/-- Pages that take at least what they skip have no fewer. -/
theorem le_length_pages (h : 0 < size) (hlimit : size ≤ limit) (l : List α) :
    l.length ≤ (pages size limit l).length := by
  induction l using drop_induction h with
  | nil => exact Nat.zero_le _
  | step l hl ih =>
    have hpos := List.length_pos_iff.mpr hl
    rw [pages_of_ne_nil h hl, List.length_append, List.length_take]
    rw [List.length_drop] at ih
    omega

/-- The pages have every element once exactly when they take what they skip, or one page does. -/
theorem pages_perm_iff (h : 0 < size) (limit : Nat) (l : List α) :
    (pages size limit l).Perm l ↔ limit = size ∨ l.length ≤ min size limit := by
  constructor
  · intro hperm
    have hlength := hperm.length_eq
    by_contra hneither
    have hl : l ≠ [] := by
      rintro rfl
      simp at hneither
    rw [pages_of_ne_nil h hl, List.length_append, List.length_take] at hlength
    rcases Nat.lt_or_ge limit size with hless | hmore
    · have hrest := length_pages_le h (Nat.le_of_lt hless) (l.drop size)
      rw [List.length_drop] at hrest
      omega
    · have hrest := le_length_pages h hmore (l.drop size)
      rw [List.length_drop] at hrest
      omega
  · intro hcases
    rcases hcases with rfl | hone
    · rw [pages_self h]
    · by_cases hl : l = []
      · rw [hl, pages_nil h]
      · rw [pages_of_ne_nil h hl, List.drop_eq_nil_of_le (by omega), pages_nil h, List.append_nil,
          List.take_of_length_le (by omega)]

end Lists
