import Mathlib.Data.List.Nodup

/-! A collection of documents, each with a filter that selects it: a document is appended when its
filter selects none, and deleted as the first one that its filter selects. -/

namespace Store.Collection

variable {α : Type} {selects : α → α → Bool} {documents : List α} {document other : α}

variable (selects) in
/-- No filter selects a document that was there before its own. -/
def Apart (documents : List α) : Prop :=
  documents.Pairwise fun earlier later => selects later earlier = false

theorem apart_nil : Apart selects ([] : List α) := List.Pairwise.nil

theorem Apart.append (h : Apart selects documents)
    (hnone : documents.find? (selects document) = none) : Apart selects (documents ++ [document]) := by
  apply List.pairwise_append.mpr
  refine ⟨h, List.pairwise_singleton _ _, ?_⟩
  intro earlier hearlier later hlater
  rw [List.mem_singleton.mp hlater]
  simpa using List.find?_eq_none.mp hnone earlier hearlier

theorem Apart.delete (h : Apart selects documents) (document : α) :
    Apart selects (documents.eraseP (selects document)) :=
  h.sublist List.eraseP_sublist

section Reflexive

variable (hself : ∀ document, selects document document = true)
include hself

theorem Apart.nodup (h : Apart selects documents) : documents.Nodup := by
  refine h.imp ?_
  rintro earlier later hselects rfl
  rw [hself] at hselects
  cases hselects

theorem Apart.of_mem_delete (h : Apart selects documents)
    (hmem : other ∈ documents.eraseP (selects document)) : other ∈ documents ∧ other ≠ document := by
  refine ⟨List.mem_of_mem_eraseP hmem, ?_⟩
  rintro rfl
  -- a document that is there is the first one that its filter selects
  obtain ⟨before, after, hsplit⟩ := List.append_of_mem (List.mem_of_mem_eraseP hmem)
  have hnodup := h.nodup hself
  rw [hsplit] at h hnodup hmem
  have hbefore : ∀ earlier ∈ before, ¬selects other earlier = true := by
    intro earlier hearlier
    have hnot := (List.pairwise_append.mp h).2.2 earlier hearlier other List.mem_cons_self
    simpa using hnot
  rw [List.eraseP_append_right _ hbefore, List.eraseP_cons_of_pos (hself other)] at hmem
  exact (List.nodup_cons.mp (List.nodup_middle.mp hnodup)).1 hmem

/-- When the filter selects its own document only, a deletion leaves all the others. -/
theorem Apart.mem_delete_iff (h : Apart selects documents)
    (hexact : ∀ stored ∈ documents, selects document stored = true → stored = document) :
    other ∈ documents.eraseP (selects document) ↔ other ∈ documents ∧ other ≠ document := by
  constructor
  · exact h.of_mem_delete hself
  · rintro ⟨hmem, hne⟩
    exact (List.mem_eraseP_of_neg fun hselects => hne (hexact other hmem hselects)).mpr hmem

end Reflexive

end Store.Collection
