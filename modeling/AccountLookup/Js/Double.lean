import Mathlib.Algebra.Ring.Nat

/-! `Number`: the doubles without a fraction, and the arithmetic of `Math` on them. -/

namespace Js

/-- A double whose value is an integer, or one without a finite value.  `-0` is `0`. -/
inductive Number where
  | nan
  | negInf
  | int (value : Int)
  | posInf
  deriving DecidableEq, Repr

/-- `Number.MAX_SAFE_INTEGER + 1`: the integers up to it are doubles. -/
def safeLimit : Nat := 2 ^ 53

/-- The longest that an array can be. -/
def maxArrayLength : Nat := 2 ^ 32 - 1

/-- The nearest multiple of the distance between doubles of this size; of two that are as near, the
one whose mantissa is even. -/
def roundNat (n : Nat) : Nat :=
  if n < safeLimit then n
  else
    let unit := 2 ^ (n.log2 - 52)
    let below := n / unit
    let rest := n % unit
    (if unit < 2 * rest ∨ unit = 2 * rest ∧ below % 2 = 1 then below + 1 else below) * unit

theorem roundNat_of_lt {n : Nat} (h : n < safeLimit) : roundNat n = n := if_pos h

/-- Rounding does not pass a double. -/
theorem le_roundNat {m n : Nat} (hm : m ≤ safeLimit) (h : m ≤ n) : m ≤ roundNat n := by
  by_cases hn : n < safeLimit
  · rw [roundNat_of_lt hn]
    exact h
  · have hlarge : 2 ^ 53 ≤ n := Nat.not_lt.mp hn
    have hpos : n ≠ 0 := by omega
    have hlog : 53 ≤ n.log2 := (Nat.le_log2 hpos).mpr hlarge
    have hunit : 2 ^ 52 * 2 ^ (n.log2 - 52) ≤ n := by
      rw [← Nat.pow_add, show 52 + (n.log2 - 52) = n.log2 by omega]
      exact Nat.log2_self_le hpos
    have hbelow : 2 ^ 52 ≤ n / 2 ^ (n.log2 - 52) :=
      (Nat.le_div_iff_mul_le (Nat.two_pow_pos _)).mpr hunit
    have htwo : 2 ≤ 2 ^ (n.log2 - 52) := by
      have hpow := Nat.pow_le_pow_right (show 0 < 2 by omega) (show 1 ≤ n.log2 - 52 by omega)
      omega
    unfold roundNat
    rw [if_neg hn]
    dsimp only
    unfold safeLimit at hm
    split
    · have hmul := Nat.mul_le_mul (show 2 ^ 52 ≤ n / 2 ^ (n.log2 - 52) + 1 by omega) htwo
      omega
    · have hmul := Nat.mul_le_mul hbelow htwo
      omega

namespace Number

/-- The least natural number that has no finite double. -/
@[irreducible] def overflow : Nat := 2 ^ 1024

def ofNat (n : Nat) : Number := if roundNat n < overflow then .int (roundNat n) else .posInf

protected def neg : Number → Number
  | nan => nan
  | negInf => posInf
  | int n => int (-n)
  | posInf => negInf

/-- The double nearest to an integer. -/
def ofInt : Int → Number
  | .ofNat n => ofNat n
  | .negSucc n => (ofNat (n + 1)).neg

def le : Number → Number → Bool
  | nan, _ | _, nan => false
  | negInf, _ | _, posInf => true
  | int a, int b => a ≤ b
  | _, _ => false

/-- `Math.min` -/
protected def min (a b : Number) : Number :=
  if a = nan ∨ b = nan then nan else if a.le b then a else b

/-- `Math.max` -/
protected def max (a b : Number) : Number :=
  if a = nan ∨ b = nan then nan else if a.le b then b else a

def sign : Number → Int
  | nan => 0
  | negInf => -1
  | int n => n.sign
  | posInf => 1

protected def mul : Number → Number → Number
  | nan, _ | _, nan => nan
  | int a, int b => ofInt (a * b)
  | a, b => if a.sign * b.sign = 0 then nan else if 0 < a.sign * b.sign then posInf else negInf

/-- `Math.ceil(length / b)`.  The quotient of a length of an array is rounded too little for that to
change its ceiling. -/
def ceilDiv (length : Nat) : Number → Number
  | nan => nan
  | negInf | posInf => int 0
  | int b =>
    if b = 0 then if length = 0 then nan else posInf else int (-Int.fdiv (-(length : Int)) b)

example : ofNat (2 ^ 53 + 1) = int (2 ^ 53) := by decide +kernel
example : ofNat (10 ^ 400) = posInf := by decide +kernel
example : ceilDiv 30 (int 20) = int 2 := by decide +kernel

theorem natCast_inj {a b : Nat} : int a = int b ↔ a = b := by
  rw [int.injEq, Int.natCast_inj]

theorem ofNat_of_lt {n : Nat} (h : n < safeLimit) : ofNat n = int n := by
  unfold ofNat
  rw [roundNat_of_lt h, if_pos (Nat.lt_trans h (by decide +kernel))]

/-- A number that is not less than a safe integer is rounded to one that is not either, or to
infinity. -/
theorem ofNat_cases {m n : Nat} (hm : m ≤ safeLimit) (h : m ≤ n) :
    ofNat n = posInf ∨ ∃ k : Nat, m ≤ k ∧ ofNat n = int k := by
  unfold ofNat
  split
  · exact .inr ⟨roundNat n, le_roundNat hm h, rfl⟩
  · exact .inl rfl

theorem ofInt_natCast (n : Nat) : ofInt n = ofNat n := rfl

theorem ofInt_of_neg {z : Int} (h : z < 0) :
    ofInt z = negInf ∨ ∃ m : Nat, 1 ≤ m ∧ ofInt z = int (-m) := by
  cases z with
  | ofNat n => exact absurd h (Int.not_lt.mpr (Int.natCast_nonneg n))
  | negSucc n =>
    show (ofNat (n + 1)).neg = negInf ∨ ∃ m : Nat, 1 ≤ m ∧ (ofNat (n + 1)).neg = int (-m)
    rcases ofNat_cases (show 1 ≤ safeLimit by decide) (show 1 ≤ n + 1 by omega) with
      hinf | ⟨m, hm, hint⟩
    · rw [hinf]
      exact .inl rfl
    · rw [hint]
      exact .inr ⟨m, hm, rfl⟩

theorem min_int (a b : Int) : (int a).min (int b) = int (min a b) := by
  unfold Number.min le
  by_cases h : a ≤ b
  · rw [Int.min_eq_left h]
    simp [h]
  · rw [Int.min_eq_right (Int.le_of_not_le h)]
    simp [h]

theorem max_int (a b : Int) : (int a).max (int b) = int (max a b) := by
  unfold Number.max le
  by_cases h : a ≤ b
  · rw [Int.max_eq_right h]
    simp [h]
  · rw [Int.max_eq_left (Int.le_of_not_le h)]
    simp [h]

/-- Limited from above by a safe integer, a natural number is exact. -/
theorem min_ofNat {n b : Nat} (hb : b ≤ safeLimit) :
    (ofNat n).min (int b) = int (min n b : Nat) := by
  by_cases hn : n < safeLimit
  · rw [ofNat_of_lt hn, min_int]
    congr 1
    omega
  · have hle : b ≤ n := Nat.le_trans hb (Nat.not_lt.mp hn)
    rw [Nat.min_eq_right hle]
    rcases ofNat_cases hb hle with hinf | ⟨k, hk, hint⟩
    · rw [hinf]
      rfl
    · rw [hint, min_int, Int.min_eq_right (by omega)]

theorem min_ofInt_of_nonpos {z : Int} (hz : z ≤ 0) (b : Nat) :
    (ofInt z).min (int b) = negInf ∨ ∃ v : Int, v ≤ 0 ∧ (ofInt z).min (int b) = int v := by
  rcases Int.lt_or_eq_of_le hz with hneg | rfl
  · rcases ofInt_of_neg hneg with hinf | ⟨m, hm, hint⟩
    · rw [hinf]
      exact .inl rfl
    · rw [hint, min_int]
      exact .inr ⟨_, by omega, rfl⟩
  · have hzero : ofInt 0 = int 0 := ofNat_of_lt (by decide)
    rw [hzero, min_int]
    exact .inr ⟨_, by omega, rfl⟩

theorem max_ofInt (z : Int) : (ofInt z).max (int 0) = ofNat z.toNat := by
  by_cases hz : z < 0
  · rw [Int.toNat_of_nonpos (by omega), ofNat_of_lt (by decide)]
    rcases ofInt_of_neg hz with hinf | ⟨m, hm, hint⟩
    · rw [hinf]
      rfl
    · rw [hint, max_int, Int.max_eq_right (by omega)]
      rfl
  · obtain ⟨n, rfl⟩ := Int.eq_ofNat_of_zero_le (Int.not_lt.mp hz)
    rw [ofInt_natCast, Int.toNat_natCast]
    rcases ofNat_cases (Nat.zero_le _) (Nat.zero_le n) with hinf | ⟨k, -, hint⟩
    · rw [hinf]
      rfl
    · rw [hint, max_int, Int.max_eq_left (Int.natCast_nonneg k)]

theorem ofNat_mul {a b : Nat} (hb : 0 < b) (h : a * b < safeLimit) :
    (ofNat a).mul (int b) = int ((a * b : Nat) : Int) := by
  have ha : a < safeLimit := Nat.lt_of_le_of_lt (Nat.le_mul_of_pos_right a hb) h
  rw [ofNat_of_lt ha]
  show ofInt ((a : Int) * b) = _
  rw [← Int.natCast_mul, ofInt_natCast, ofNat_of_lt h]

/-- A product of integers that is not safe is still as large, or infinite. -/
theorem ofNat_mul_of_le {a b : Nat} (hb : 0 < b) (h : safeLimit ≤ a * b) :
    (ofNat a).mul (int b) = posInf ∨
      ∃ k : Nat, safeLimit ≤ k ∧ (ofNat a).mul (int b) = int k := by
  have hproduct {r : Nat} (hr : safeLimit ≤ r * b) :
      (int r).mul (int b) = posInf ∨ ∃ k : Nat, safeLimit ≤ k ∧ (int r).mul (int b) = int k := by
    show ofInt ((r : Int) * b) = posInf ∨ ∃ k : Nat, safeLimit ≤ k ∧ ofInt ((r : Int) * b) = int k
    rw [← Int.natCast_mul, ofInt_natCast]
    exact ofNat_cases (Nat.le_refl _) hr
  by_cases ha : a < safeLimit
  · rw [ofNat_of_lt ha]
    exact hproduct h
  · rcases ofNat_cases (Nat.le_refl _) (Nat.not_lt.mp ha) with hinf | ⟨r, hr, hint⟩
    · left
      have hsign : Int.sign (b : Int) = 1 := Int.sign_eq_one_of_pos (by omega)
      rw [hinf]
      simp [Number.mul, sign, hsign]
    · rw [hint]
      exact hproduct (Nat.le_trans hr (Nat.le_mul_of_pos_right r hb))

theorem ofNat_mul_cases {b : Nat} (hb : 0 < b) (a : Nat) :
    (ofNat a).mul (int b) = posInf ∨ ∃ k : Nat, (ofNat a).mul (int b) = int k := by
  by_cases h : a * b < safeLimit
  · exact .inr ⟨_, ofNat_mul hb h⟩
  · rcases ofNat_mul_of_le hb (Nat.not_lt.mp h) with hinf | ⟨k, -, hint⟩
    · exact .inl hinf
    · exact .inr ⟨k, hint⟩

/-- For a positive divisor the ceiling is that of natural numbers. -/
theorem ceilDiv_of_pos {b : Nat} (hb : 0 < b) (length : Nat) :
    ceilDiv length (int b) = int (((length + b - 1) / b : Nat) : Int) := by
  have hfloor : Int.fdiv (-(length : Int)) b = -(((length + b - 1) / b : Nat) : Int) := by
    have hdiv := Nat.div_add_mod (length + b - 1) b
    have hmod := Nat.mod_lt (length + b - 1) hb
    generalize (length + b - 1) / b = q at *
    rw [Int.fdiv_eq_ediv_of_nonneg _ (Int.natCast_nonneg b),
      Int.ediv_eq_iff_of_pos (by omega), Int.neg_mul, Int.mul_comm, ← Int.natCast_mul]
    omega
  show (if (b : Int) = 0 then _ else int (-Int.fdiv (-(length : Int)) b)) = _
  rw [if_neg (by omega), hfloor, Int.neg_neg]

end Number

end Js
