import AccountLookup.Model.BuiltinListing

/-! The search keywords of the builtin oracle: which results of the aggregation are listed without
repetitions. -/

namespace AccountLookup

open Async

namespace MongoOracleProviderRepo

/-- There is at most one entry for each field name, a value of a group has an entry for its field, and
the entries of a field list the values that the groups have in it, each of them once. -/
structure ExactKeywords (keywords : List SearchKeywords) (groups : List TermGroup) : Prop where
  once : ∀ fieldName, (keywords.countP fun entry => entry.fieldName = fieldName) ≤ 1
  present : ∀ field : KeywordField, ∀ _group ∈ groups,
    ∃ entry ∈ keywords, entry.fieldName = field.fieldName
  terms : ∀ field : KeywordField, ∀ entry ∈ keywords, entry.fieldName = field.fieldName →
    entry.distinctTerms.Nodup ∧
      ∀ term, term ∈ entry.distinctTerms ↔ ∃ group ∈ groups, group.term field = term

theorem KeywordField.fieldName_inj {field field' : KeywordField} :
    field.fieldName = field'.fieldName ↔ field = field' := by
  cases field <;> cases field' <;> decide

namespace Keywords

variable (keywords : Keywords) (group : TermGroup)

@[simp] theorem retObj_push (field : KeywordField) :
    (keywords.push group field).retObj = keywords.retObj ++ [field] := rfl

@[simp] theorem distinctTerms_push_self (field : KeywordField) :
    (keywords.push group field).distinctTerms field =
      Lists.pushNew (keywords.distinctTerms field) (group.term field) :=
  Function.update_self ..

theorem distinctTerms_push_of_ne {field field' : KeywordField} (h : field' ≠ field) :
    (keywords.push group field).distinctTerms field' = keywords.distinctTerms field' :=
  Function.update_of_ne h ..

/-- The step for the terms: each field gets its term of the group. -/
theorem distinctTerms_pushGroup (field : KeywordField) :
    (keywords.pushGroup group).distinctTerms field =
      Lists.pushNew (keywords.distinctTerms field) (group.term field) := by
  unfold pushGroup
  simp only [List.foldl_cons, List.foldl_nil]
  cases field with
  | partyType =>
    rw [distinctTerms_push_of_ne _ _ (by decide), distinctTerms_push_of_ne _ _ (by decide),
      distinctTerms_push_self]
  | currency =>
    rw [distinctTerms_push_of_ne _ _ (by decide), distinctTerms_push_self,
      distinctTerms_push_of_ne _ _ (by decide)]
  | fspId =>
    rw [distinctTerms_push_self, distinctTerms_push_of_ne _ _ (by decide),
      distinctTerms_push_of_ne _ _ (by decide)]

/-- The step for the result: it gets the three entries again. -/
theorem retObj_pushGroup :
    (keywords.pushGroup group).retObj = keywords.retObj ++ [.partyType, .currency, .fspId] := by
  unfold pushGroup
  simp

/-! ### Runs of the loop -/

variable (groups : List TermGroup)

theorem distinctTerms_foldl (field : KeywordField) :
    (groups.foldl pushGroup keywords).distinctTerms field =
      (groups.map fun group => group.term field).foldl Lists.pushNew
        (keywords.distinctTerms field) := by
  induction groups generalizing keywords with
  | nil => rfl
  | cons group rest ih =>
    rw [List.foldl_cons, ih, distinctTerms_pushGroup]
    rfl

theorem retObj_foldl :
    (groups.foldl pushGroup keywords).retObj =
      keywords.retObj ++ groups.flatMap fun _ => [.partyType, .currency, .fspId] := by
  induction groups generalizing keywords with
  | nil => simp
  | cons group rest ih =>
    rw [List.foldl_cons, ih, retObj_pushGroup, List.flatMap_cons, List.append_assoc]

theorem count_retObj (field : KeywordField) :
    (groups.foldl pushGroup start).retObj.count field = groups.length := by
  rw [retObj_foldl, start, List.nil_append]
  induction groups with
  | nil => rfl
  | cons group rest ih =>
    rw [List.flatMap_cons, List.count_append, ih, List.length_cons]
    cases field <;> simp [Nat.add_comm]

end Keywords

open Keywords

variable {groups : List TermGroup}

/-- However often an entry is listed, its terms are those of the groups. -/
theorem terms_entries {field : KeywordField} {entry : SearchKeywords}
    (hmem : entry ∈ (groups.foldl pushGroup start).entries)
    (hfield : entry.fieldName = field.fieldName) :
    entry.distinctTerms.Nodup ∧
      ∀ term, term ∈ entry.distinctTerms ↔ ∃ group ∈ groups, group.term field = term := by
  obtain ⟨field', -, rfl⟩ := List.mem_map.mp hmem
  obtain rfl := KeywordField.fieldName_inj.mp hfield
  dsimp only
  rw [distinctTerms_foldl]
  constructor
  · exact Lists.nodup_foldl_pushNew _ List.nodup_nil
  · intro term
    rw [Lists.mem_foldl_pushNew]
    simp [start]

theorem countP_entries (field : KeywordField) :
    ((groups.foldl pushGroup start).entries.countP fun entry =>
      entry.fieldName = field.fieldName) = groups.length := by
  rw [← count_retObj groups field, entries, List.countP_map, List.count_eq_countP]
  apply List.countP_congr
  intro field' _
  simp [KeywordField.fieldName_inj]

theorem exactKeywords_entries_iff :
    ExactKeywords (groups.foldl pushGroup start).entries groups ↔ groups.length ≤ 1 := by
  constructor
  · intro h
    have honce := h.once (KeywordField.fieldName .partyType)
    rwa [countP_entries] at honce
  · intro h
    refine ⟨?_, ?_, fun field entry hmem hfield => terms_entries hmem hfield⟩
    · intro fieldName
      by_cases hname : ∃ field : KeywordField, field.fieldName = fieldName
      · obtain ⟨field, rfl⟩ := hname
        rwa [countP_entries]
      · have hnone : (groups.foldl pushGroup start).entries.countP
            (fun entry => entry.fieldName = fieldName) = 0 := by
          rw [List.countP_eq_zero]
          intro entry hmem hentry
          obtain ⟨field, -, rfl⟩ := List.mem_map.mp hmem
          exact hname ⟨field, of_decide_eq_true hentry⟩
        omega
    · intro field group hgroup
      have hpos : 0 < groups.length := List.length_pos_of_mem hgroup
      rw [← countP_entries field, List.countP_pos_iff] at hpos
      obtain ⟨entry, hmem, hentry⟩ := hpos
      exact ⟨entry, hmem, of_decide_eq_true hentry⟩

theorem run_getSearchKeywords (aggregate : List AssociationRecord → List TermGroup)
    (s : BuiltinStore) :
    (getSearchKeywords aggregate).run s =
      (.ok ((aggregate s.parties).foldl pushGroup start).entries, s) := rfl

/-- Whatever the aggregation returns, the keywords are exact exactly when it returns at most one
group. -/
theorem getSearchKeywords_exact_iff (aggregate : List AssociationRecord → List TermGroup)
    (s : BuiltinStore) :
    (∃ keywords, (getSearchKeywords aggregate).run s = (.ok keywords, s) ∧
        ExactKeywords keywords (aggregate s.parties)) ↔
      (aggregate s.parties).length ≤ 1 := by
  rw [← exactKeywords_entries_iff]
  constructor
  · rintro ⟨keywords, hrun, hexact⟩
    rw [run_getSearchKeywords] at hrun
    cases hrun
    exact hexact
  · intro hexact
    exact ⟨_, run_getSearchKeywords aggregate s, hexact⟩

/-- The groups of two FSPs. -/
def twoGroups : List TermGroup :=
  [⟨.val "MSISDN", .val "USD", .val "bluebank"⟩, ⟨.val "MSISDN", .val "EUR", .val "greenbank"⟩]

/-- Each of the three entries is listed for the one group and for the other. -/
theorem not_exactKeywords :
    let s : BuiltinStore := ⟨[], Store.Cache.empty, []⟩
    ∃ keywords, (getSearchKeywords fun _ => twoGroups).run s = (.ok keywords, s) ∧
      keywords.map SearchKeywords.fieldName =
        ["partyType", "currency", "fspId", "partyType", "currency", "fspId"] ∧
      ¬ExactKeywords keywords twoGroups := by
  refine ⟨_, run_getSearchKeywords _ _, rfl, ?_⟩
  rw [exactKeywords_entries_iff]
  decide

end MongoOracleProviderRepo

end AccountLookup
