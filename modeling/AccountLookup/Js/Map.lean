import Mathlib.Data.List.Nodup

/-! `Map`: the entries of a map in the order of their insertion, with distinct keys. -/

namespace Js

structure Map (κ ν : Type) where
  entries : List (κ × ν)
  nodup : (entries.map Prod.fst).Nodup

namespace Map

variable {κ ν : Type} [DecidableEq κ]

def empty : Map κ ν := ⟨[], List.nodup_nil⟩

def get (m : Map κ ν) (key : κ) : Option ν := (m.entries.find? fun entry => entry.1 = key).map (·.2)

def has (m : Map κ ν) (key : κ) : Bool := m.entries.any fun entry => entry.1 = key

def values (m : Map κ ν) : List ν := m.entries.map Prod.snd

omit [DecidableEq κ] in
theorem nodup_append {entries : List (κ × ν)} (h : (entries.map Prod.fst).Nodup) {key : κ}
    (hkey : key ∉ entries.map Prod.fst) (value : ν) :
    ((entries ++ [(key, value)]).map Prod.fst).Nodup := by
  simp only [List.map_append, List.map_cons, List.map_nil]
  exact List.nodup_append'.mpr ⟨h, List.nodup_singleton _, by simpa using hkey⟩

theorem nodup_replace {entries : List (κ × ν)} (h : (entries.map Prod.fst).Nodup) (key : κ)
    (value : ν) :
    ((entries.map fun entry => if entry.1 = key then (key, value) else entry).map
      Prod.fst).Nodup := by
  have hkeys : (entries.map fun entry => if entry.1 = key then (key, value) else entry).map
      Prod.fst = entries.map Prod.fst := by
    rw [List.map_map]
    apply List.map_congr_left
    intro entry _
    by_cases hkey : entry.1 = key <;> simp [hkey]
  rw [hkeys]
  exact h

/-- A key that the map has keeps its place; a new one comes last. -/
def set (m : Map κ ν) (key : κ) (value : ν) : Map κ ν :=
  if hkey : key ∈ m.entries.map Prod.fst then
    ⟨m.entries.map fun entry => if entry.1 = key then (key, value) else entry,
      nodup_replace m.nodup key value⟩
  else ⟨m.entries ++ [(key, value)], nodup_append m.nodup hkey value⟩

def delete (m : Map κ ν) (key : κ) : Map κ ν :=
  ⟨m.entries.filter fun entry => entry.1 ≠ key,
    (List.filter_sublist.map Prod.fst).nodup m.nodup⟩

theorem mem_of_get {m : Map κ ν} {key : κ} {value : ν} (h : m.get key = some value) :
    (key, value) ∈ m.entries := by
  obtain ⟨⟨key', value'⟩, hfind, rfl⟩ := Option.map_eq_some_iff.mp h
  have hkey : key' = key := by simpa using List.find?_some hfind
  rw [← hkey]
  exact List.mem_of_find?_eq_some hfind

/-- The entries around the one of a key that the map has. -/
theorem entries_of_get {m : Map κ ν} {key : κ} {value : ν} (h : m.get key = some value) :
    ∃ before after, m.entries = before ++ (key, value) :: after ∧
      (m.delete key).entries = before ++ after := by
  obtain ⟨before, after, hentries⟩ := List.append_of_mem (mem_of_get h)
  have hnodup := m.nodup
  rw [hentries, List.map_append, List.map_cons, List.nodup_middle, List.nodup_cons,
    List.mem_append, not_or] at hnodup
  obtain ⟨⟨hbefore, hafter⟩, -⟩ := hnodup
  have keeps {l : List (κ × ν)} (hl : key ∉ l.map Prod.fst) :
      (l.filter fun entry => entry.1 ≠ key) = l := by
    apply List.filter_eq_self.mpr
    intro entry hentry
    rw [decide_eq_true_eq]
    rintro rfl
    exact hl (List.mem_map_of_mem hentry)
  refine ⟨before, after, hentries, ?_⟩
  show (m.entries.filter fun entry => entry.1 ≠ key) = _
  rw [hentries, List.filter_append, List.filter_cons_of_neg (by simp), keeps hbefore, keeps hafter]

/-- A deletion removes the one value of its key. -/
theorem countP_values_delete {m : Map κ ν} {key : κ} {value : ν} (h : m.get key = some value)
    (p : ν → Bool) :
    m.values.countP p = (m.delete key).values.countP p + if p value then 1 else 0 := by
  obtain ⟨before, after, hentries, hdelete⟩ := entries_of_get h
  simp only [values, hentries, hdelete, List.map_append, List.map_cons, List.countP_append,
    List.countP_cons]
  omega

omit [DecidableEq κ] in
theorem ext {m m' : Map κ ν} (h : m.entries = m'.entries) : m = m' := by
  cases m
  cases m'
  cases h
  rfl

theorem has_iff {m : Map κ ν} {key : κ} : m.has key = true ↔ key ∈ m.entries.map Prod.fst := by
  simp [has]

theorem get_eq_none_iff {m : Map κ ν} {key : κ} :
    m.get key = none ↔ key ∉ m.entries.map Prod.fst := by
  simp only [get, Option.map_eq_none_iff, List.find?_eq_none, decide_eq_true_eq, List.mem_map,
    not_exists, not_and]

theorem entries_set {m : Map κ ν} {key : κ} (h : key ∉ m.entries.map Prod.fst) (value : ν) :
    (m.set key value).entries = m.entries ++ [(key, value)] := by
  unfold set
  rw [dif_neg h]

theorem get_set_of_ne {m : Map κ ν} {key key' : κ} (h : key' ≠ key) (value : ν) :
    (m.set key value).get key' = m.get key' := by
  unfold set get
  split
  · rw [List.find?_map, Option.map_map]
    have hkeys : ((fun entry : κ × ν => decide (entry.1 = key')) ∘
        fun entry => if entry.1 = key then (key, value) else entry) =
          fun entry => decide (entry.1 = key') := by
      funext entry
      by_cases hkey : entry.1 = key <;> simp [hkey]
    rw [hkeys]
    cases hfind : m.entries.find? fun entry => decide (entry.1 = key') with
    | none => rfl
    | some entry =>
      have hentry : entry.1 = key' := by simpa using List.find?_some hfind
      have hne : entry.1 ≠ key := by rwa [hentry]
      simp [hne]
  · rw [List.find?_append]
    simp [h.symm]

theorem get_set_self {m : Map κ ν} {key : κ} (h : m.get key = none) (value : ν) :
    (m.set key value).get key = some value := by
  have hnew := get_eq_none_iff.mp h
  have hfind : m.entries.find? (fun entry => decide (entry.1 = key)) = none :=
    Option.map_eq_none_iff.mp h
  unfold get
  rw [entries_set hnew, List.find?_append, hfind]
  simp

theorem get_delete_self (m : Map κ ν) (key : κ) : (m.delete key).get key = none := by
  apply get_eq_none_iff.mpr
  unfold delete
  simp

theorem get_delete_of_ne {m : Map κ ν} {key key' : κ} (h : key' ≠ key) :
    (m.delete key).get key' = m.get key' := by
  unfold delete get
  rw [List.find?_filter]
  congr 2
  funext entry
  by_cases hkey : entry.1 = key'
  · simp [hkey, h]
  · simp [hkey]

/-! ### Maps whose keys are computed from their values -/

section Keyed

variable (key : ν → κ)

/-- Every value is under its own key. -/
def KeyedBy (m : Map κ ν) : Prop := ∀ entry ∈ m.entries, entry.1 = key entry.2

/-- The map with one more value, unless it has the value's key. -/
def insertNew (m : Map κ ν) (value : ν) : Map κ ν :=
  if m.has (key value) then m else m.set (key value) value

variable {key} {m : Map κ ν}

omit [DecidableEq κ] in
theorem keyedBy_empty : (empty : Map κ ν).KeyedBy key := fun _ hmem => nomatch hmem

theorem KeyedBy.set_new (h : m.KeyedBy key) (value : ν) (hnew : key value ∉ m.entries.map Prod.fst) :
    (m.set (key value) value).KeyedBy key := by
  intro entry hmem
  rw [entries_set hnew] at hmem
  rcases List.mem_append.mp hmem with hmem | hmem
  · exact h entry hmem
  · rw [List.mem_singleton.mp hmem]

theorem KeyedBy.delete (h : m.KeyedBy key) (k : κ) : (m.delete k).KeyedBy key :=
  fun entry hmem => h entry (List.mem_of_mem_filter hmem)

theorem KeyedBy.insertNew (h : m.KeyedBy key) (value : ν) : (m.insertNew key value).KeyedBy key := by
  unfold Map.insertNew
  split
  · exact h
  · rename_i hnew
    apply h.set_new
    intro hmem
    exact hnew (has_iff.mpr hmem)

theorem KeyedBy.foldl_insertNew (h : m.KeyedBy key) (values : List ν) :
    (values.foldl (Map.insertNew key) m).KeyedBy key := by
  induction values generalizing m with
  | nil => exact h
  | cons value rest ih => exact ih (h.insertNew value)

omit [DecidableEq κ] in
private theorem mem_replaced {entries : List (κ × ν)} {p : κ × ν → Prop} [DecidablePred p]
    {new entry : κ × ν} (h : entry ∈ entries.map fun e => if p e then new else e) :
    entry ∈ entries ∨ entry = new := by
  obtain ⟨e, hmem, rfl⟩ := List.mem_map.mp h
  by_cases hp : p e
  · simp [hp]
  · simp [hp, hmem]

theorem mem_set {k : κ} {value : ν} {entry : κ × ν} (h : entry ∈ (m.set k value).entries) :
    entry ∈ m.entries ∨ entry = (k, value) := by
  unfold set at h
  split at h
  · exact mem_replaced h
  · simpa using h

theorem mem_foldl_insertNew {values : List ν} {entry : κ × ν}
    (h : entry ∈ (values.foldl (Map.insertNew key) m).entries) :
    entry ∈ m.entries ∨ entry.2 ∈ values := by
  induction values generalizing m with
  | nil => exact .inl h
  | cons value rest ih =>
    rcases ih h with hmem | hmem
    · unfold Map.insertNew at hmem
      split at hmem
      · exact .inl hmem
      · rcases mem_set hmem with hmem | rfl
        · exact .inl hmem
        · exact .inr List.mem_cons_self
    · exact .inr (List.mem_cons_of_mem _ hmem)

/-- Values with distinct keys that the map does not have are all added, in their order. -/
theorem entries_foldl_insertNew {values : List ν} (hnodup : (values.map key).Nodup)
    (hnew : ∀ value ∈ values, key value ∉ m.entries.map Prod.fst) :
    (values.foldl (Map.insertNew key) m).entries =
      m.entries ++ values.map fun value => (key value, value) := by
  induction values generalizing m with
  | nil => simp
  | cons value rest ih =>
    rw [List.map_cons, List.nodup_cons] at hnodup
    obtain ⟨hvalue, hrest⟩ := hnodup
    have hfresh := hnew value List.mem_cons_self
    have hinsert : m.insertNew key value = m.set (key value) value := by
      unfold Map.insertNew
      rw [if_neg]
      intro hhas
      exact hfresh (has_iff.mp hhas)
    have hafter : ∀ other ∈ rest, key other ∉ (m.set (key value) value).entries.map Prod.fst := by
      intro other hother
      rw [entries_set hfresh, List.map_append, List.mem_append, not_or]
      constructor
      · exact hnew other (List.mem_cons_of_mem _ hother)
      · intro hmem
        have hsame : key other = key value := by simpa using hmem
        apply hvalue
        rw [← hsame]
        exact List.mem_map_of_mem hother
    rw [List.foldl_cons, hinsert, ih hrest hafter, entries_set hfresh, List.append_assoc]
    rfl

/-- A map is filled again from its values, changed by an `f` that keeps their keys: each value is
changed in its place. -/
theorem KeyedBy.refill (h : m.KeyedBy key) {f : ν → ν} (hf : ∀ value, key (f value) = key value) :
    ((m.values.map f).foldl (Map.insertNew key) empty).entries =
      m.entries.map fun entry => (entry.1, f entry.2) := by
  have hkeys : (m.values.map f).map key = m.entries.map Prod.fst := by
    rw [values, List.map_map, List.map_map]
    apply List.map_congr_left
    intro entry hmem
    exact (hf entry.2).trans (h entry hmem).symm
  rw [entries_foldl_insertNew (hkeys ▸ m.nodup) fun _ _ => List.not_mem_nil, values,
    List.map_map, List.map_map]
  apply List.map_congr_left
  intro entry hmem
  exact congrArg (·, f entry.2) ((hf entry.2).trans (h entry hmem).symm)

end Keyed

end Map

end Js
