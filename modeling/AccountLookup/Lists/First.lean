/-! The first element of a list that satisfies a predicate, and the first one when none does. -/

namespace Lists

variable {α : Type} {l : List α} {p q : α → Bool}

theorem find?_eq_head?_iff : l.find? p = l.head? ↔ ∀ a, l.head? = some a → p a = true := by
  constructor
  · intro h a hhead
    rw [hhead] at h
    exact List.find?_some h
  · intro h
    cases l with
    | nil => rfl
    | cons a rest => exact List.find?_cons_of_pos (h a rfl)

theorem find?_of_imp (himp : ∀ a, p a = true → q a = true) {a : α} (h : l.find? q = some a)
    (ha : p a = true) : l.find? p = some a := by
  obtain ⟨-, before, after, rfl, hbefore⟩ := List.find?_eq_some_iff_append.mp h
  refine List.find?_eq_some_iff_append.mpr ⟨ha, before, after, rfl, ?_⟩
  intro b hmem
  have hq := hbefore b hmem
  rw [Bool.not_eq_true'] at hq ⊢
  exact Bool.eq_false_iff.mpr fun hp => absurd (himp b hp) (by simp [hq])

theorem find?_or_head?_eq_iff (himp : ∀ a, p a = true → q a = true) :
    (l.find? p <|> l.head?) = (l.find? q <|> l.head?) ↔
      ∀ a, l.find? q = some a → p a = true ∨ l.head? = some a ∧ ∀ b ∈ l, p b = false := by
  cases hq : l.find? q with
  | none =>
    have hp : l.find? p = none := by
      rw [List.find?_eq_none] at hq ⊢
      exact fun a hmem ha => hq a hmem (himp a ha)
    rw [hp]
    simp
  | some a =>
    have hmem := List.mem_of_find?_eq_some hq
    cases hp : l.find? p with
    | none =>
      have hnone : ∀ b ∈ l, p b = false := by
        intro b hb
        exact Bool.eq_false_iff.mpr (List.find?_eq_none.mp hp b hb)
      constructor
      · rintro hhead _ ⟨⟩
        exact .inr ⟨hhead, hnone⟩
      · intro h
        rcases h a rfl with ha | ⟨hhead, -⟩
        · exact absurd ha (by simp [hnone a hmem])
        · exact hhead
    | some b =>
      have hb := List.find?_some hp
      constructor
      · rintro hsame _ ⟨⟩
        cases hsame
        exact .inl hb
      · intro h
        rcases h a rfl with ha | ⟨-, hnone⟩
        · rw [← hp, find?_of_imp himp hq ha]
        · exact absurd hb (by simp [hnone b (List.mem_of_find?_eq_some hp)])

end Lists
