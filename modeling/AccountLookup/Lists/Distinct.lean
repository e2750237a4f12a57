/-! Lists without repetitions that grow at their end. -/

namespace Lists

variable {α : Type} [DecidableEq α]

/-- The list with the term at its end, unless it has the term. -/
def pushNew (terms : List α) (term : α) : List α := if term ∈ terms then terms else terms ++ [term]

theorem mem_pushNew {terms : List α} {term other : α} :
    other ∈ pushNew terms term ↔ other ∈ terms ∨ other = term := by
  unfold pushNew
  split
  next hmem =>
    constructor
    · exact .inl
    · rintro (hother | rfl)
      · exact hother
      · exact hmem
  next => rw [List.mem_append, List.mem_singleton]

theorem nodup_pushNew {terms : List α} (h : terms.Nodup) (term : α) : (pushNew terms term).Nodup := by
  unfold pushNew
  split
  next => exact h
  next hnew =>
    rw [List.nodup_append]
    refine ⟨h, List.nodup_cons.mpr ⟨List.not_mem_nil, List.nodup_nil⟩, ?_⟩
    rintro other hother _ hterm rfl
    rw [List.mem_singleton] at hterm
    rw [hterm] at hother
    exact hnew hother

theorem mem_foldl_pushNew (values : List α) {terms : List α} {other : α} :
    other ∈ values.foldl pushNew terms ↔ other ∈ terms ∨ other ∈ values := by
  induction values generalizing terms with
  | nil => simp
  | cons value rest ih => rw [List.foldl_cons, ih, mem_pushNew, List.mem_cons, or_assoc]

theorem nodup_foldl_pushNew (values : List α) {terms : List α} (h : terms.Nodup) :
    (values.foldl pushNew terms).Nodup := by
  induction values generalizing terms with
  | nil => exact h
  | cons value rest ih => exact ih (nodup_pushNew h value)

theorem prefix_pushNew (terms : List α) (term : α) : terms <+: pushNew terms term := by
  unfold pushNew
  split
  · exact List.prefix_rfl
  · exact List.prefix_append _ _

/-! ### The part of a list that ends with a term -/

/-- The list up to the first place of the term, which ends with it. -/
def upTo (terms : List α) (term : α) : List α := terms.takeWhile (· ≠ term) ++ [term]

theorem mem_upTo_self (terms : List α) (term : α) : term ∈ upTo terms term :=
  List.mem_append_right _ (List.mem_singleton_self term)

@[simp] theorem upTo_cons_self (term : α) (rest : List α) : upTo (term :: rest) term = [term] := by
  simp [upTo]

theorem upTo_cons_of_ne {first term : α} (h : first ≠ term) (rest : List α) :
    upTo (first :: rest) term = first :: upTo rest term := by
  simp [upTo, h]

theorem upTo_prefix {terms : List α} {term : α} (h : term ∈ terms) : upTo terms term <+: terms := by
  induction terms with
  | nil => cases h
  | cons first rest ih =>
    by_cases hfirst : first = term
    · subst hfirst
      rw [upTo_cons_self]
      exact List.prefix_append [first] rest
    · rw [upTo_cons_of_ne hfirst]
      exact List.prefix_cons_inj first |>.mpr (ih ((List.mem_cons.mp h).resolve_left (Ne.symm hfirst)))

theorem upTo_append_of_mem {terms : List α} {term : α} (h : term ∈ terms) (more : List α) :
    upTo (terms ++ more) term = upTo terms term := by
  induction terms with
  | nil => cases h
  | cons first rest ih =>
    rw [List.cons_append]
    by_cases hfirst : first = term
    · subst hfirst
      rw [upTo_cons_self, upTo_cons_self]
    · rw [upTo_cons_of_ne hfirst, upTo_cons_of_ne hfirst,
        ih ((List.mem_cons.mp h).resolve_left (Ne.symm hfirst))]

theorem upTo_append_self {terms : List α} {term : α} (h : term ∉ terms) :
    upTo (terms ++ [term]) term = terms ++ [term] := by
  induction terms with
  | nil => exact upTo_cons_self term []
  | cons first rest ih =>
    rw [List.mem_cons, not_or] at h
    rw [List.cons_append, upTo_cons_of_ne (Ne.symm h.1), ih h.2]

/-- A list without repetitions is parted by each of its terms. -/
theorem exists_eq_append {terms : List α} {term : α} (hnodup : terms.Nodup) (h : term ∈ terms) :
    ∃ before after, terms = before ++ term :: after ∧ term ∉ before ∧ term ∉ after ∧
      upTo terms term = before ++ [term] := by
  obtain ⟨before, after, rfl⟩ := List.append_of_mem h
  obtain ⟨-, hafter, hapart⟩ := List.nodup_append.mp hnodup
  have hbefore : term ∉ before := fun hmem => hapart term hmem term List.mem_cons_self rfl
  refine ⟨before, after, rfl, hbefore, (List.nodup_cons.mp hafter).1, ?_⟩
  rw [List.append_cons, upTo_append_of_mem (by simp), upTo_append_self hbefore]

/-- Of two terms of a list, one is in the part that ends with the other. -/
theorem mem_upTo_total {terms : List α} {term other : α} (hterm : term ∈ terms)
    (hother : other ∈ terms) : other ∈ upTo terms term ∨ term ∈ upTo terms other := by
  induction terms with
  | nil => cases hterm
  | cons first rest ih =>
    by_cases hfirst : first = term
    · by_cases hfirst' : first = other
      · left
        rw [← hfirst', hfirst, upTo_cons_self]
        exact List.mem_singleton_self term
      · right
        rw [upTo_cons_of_ne hfirst', hfirst]
        exact List.mem_cons_self
    · by_cases hfirst' : first = other
      · left
        rw [upTo_cons_of_ne hfirst, hfirst']
        exact List.mem_cons_self
      · rw [upTo_cons_of_ne hfirst, upTo_cons_of_ne hfirst']
        exact (ih ((List.mem_cons.mp hterm).resolve_left (Ne.symm hfirst))
          ((List.mem_cons.mp hother).resolve_left (Ne.symm hfirst'))).imp
          (List.mem_cons_of_mem first) (List.mem_cons_of_mem first)

end Lists
