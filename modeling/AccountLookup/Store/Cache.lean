import Mathlib.Logic.Function.Basic

/-! A cache whose entries expire: its live entries by key. -/

namespace Store

def Cache (κ ν : Type) := κ → Option ν

namespace Cache

variable {κ ν : Type} [DecidableEq κ]

def empty : Cache κ ν := fun _ => none

def get (cache : Cache κ ν) (key : κ) : Option ν := cache key

def set (cache : Cache κ ν) (key : κ) (value : ν) : Cache κ ν :=
  Function.update cache key (some value)

/-- Removal of an entry, by a command or because its time has passed. -/
def del (cache : Cache κ ν) (key : κ) : Cache κ ν := Function.update cache key none

variable {cache : Cache κ ν} {key key' : κ} {value value' : ν}

@[simp] theorem get_set_self : (cache.set key value).get key = some value :=
  Function.update_self ..

@[simp] theorem get_del_self : (cache.del key).get key = none :=
  Function.update_self ..

theorem get_set_of_ne (h : key' ≠ key) : (cache.set key value).get key' = cache.get key' :=
  Function.update_of_ne h ..

theorem get_del_of_ne (h : key' ≠ key) : (cache.del key).get key' = cache.get key' :=
  Function.update_of_ne h ..

theorem get_set_eq_some :
    (cache.set key value).get key' = some value' ↔
      key' = key ∧ value' = value ∨ key' ≠ key ∧ cache.get key' = some value' := by
  by_cases h : key' = key
  · subst h
    simp [eq_comm]
  · simp [h, get_set_of_ne h]

theorem get_del_eq_some :
    (cache.del key).get key' = some value' ↔ key' ≠ key ∧ cache.get key' = some value' := by
  by_cases h : key' = key
  · subst h
    simp
  · simp [h, get_del_of_ne h]

end Cache

end Store
