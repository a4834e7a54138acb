import Mathlib.Data.Rat.Floor
import Mathlib.Tactic.Ring
import Mathlib.Tactic.Linarith
import Mathlib.Tactic.FieldSimp
import Mathlib.Tactic.Positivity

/-! Decimal rounding of exact rationals. -/
namespace EnergyNode.Lib

/-- The nearest integer, ties away from zero. -/
def halfUp (q : ℚ) : Int := if 0 ≤ q then (q + 1/2).floor else -((-q + 1/2).floor)

/-- The nearest integer, ties to the even neighbour. -/
def halfEven (q : ℚ) : Int :=
  let low := q.floor
  if q - low < 1/2 then low
  else if q - low = 1/2 ∧ low % 2 = 0 then low
  else low + 1

/-- The integer part, towards zero. -/
def roundDown (q : ℚ) : Int := if 0 ≤ q then q.floor else -((-q).floor)

def centsHalfUp (q : ℚ) : ℚ := halfUp (q * 100) / 100

def centsHalfEven (q : ℚ) : ℚ := halfEven (q * 100) / 100

/-- A decimal numeral of at most that many significant digits, the last of them no
further than ten places from the point. -/
def Significant (digits : Nat) (q : ℚ) : Prop :=
  ∃ n e : ℤ, |n| < 10 ^ digits ∧ |e| ≤ 10 ∧ q = n * 10 ^ e

/-- Half way between two integers. -/
def Tie (q : ℚ) : Prop := Int.fract q = 1/2

instance (q : ℚ) : Decidable (Tie q) := inferInstanceAs (Decidable (_ = _))

theorem halfUp_of_nonneg {q : ℚ} (h : 0 ≤ q) : halfUp q = ⌊q + 1/2⌋ := if_pos h

theorem halfUp_of_neg {q : ℚ} (h : q < 0) : halfUp q = ⌈q - 1/2⌉ := by
  have e : q - 1/2 = -(-q + 1/2) := by ring
  rw [halfUp,if_neg (not_le.mpr h),e,Int.ceil_neg]
  rfl

@[simp] theorem halfUp_int (n : Int) : halfUp (n : ℚ) = n := by
  have half : ⌊((n : ℚ) + 1/2)⌋ = n := by
    rw [Int.floor_intCast_add]
    norm_num
  have below : ⌈((n : ℚ) - 1/2)⌉ = n := by
    rw [sub_eq_add_neg,Int.ceil_intCast_add]
    norm_num
  rcases lt_or_ge (n : ℚ) 0 with h | h
  · rw [halfUp_of_neg h,below]
  · rw [halfUp_of_nonneg h,half]

@[simp] theorem halfUp_neg (q : ℚ) : halfUp (-q) = -halfUp q := by
  rcases lt_trichotomy q 0 with h | rfl | h
  · rw [halfUp_of_nonneg (by linarith),halfUp,if_neg (not_le.mpr h)]
    exact (neg_neg _).symm
  · rw [neg_zero,show (0 : ℚ) = (0 : Int) from rfl,halfUp_int,neg_zero]
  · rw [halfUp_of_nonneg h.le,halfUp,if_neg (by linarith),neg_neg]
    rfl

theorem halfUp_mono {p q : ℚ} (h : p ≤ q) : halfUp p ≤ halfUp q := by
  rcases lt_or_ge p 0 with hp | hp
  · rcases lt_or_ge q 0 with hq | hq
    · rw [halfUp_of_neg hp,halfUp_of_neg hq]
      exact Int.ceil_mono (by linarith)
    · rw [halfUp_of_neg hp,halfUp_of_nonneg hq]
      have below : ⌈p - 1/2⌉ ≤ 0 := Int.ceil_le.mpr (by push_cast; linarith)
      have above : 0 ≤ ⌊q + 1/2⌋ := Int.floor_nonneg.mpr (by linarith)
      exact below.trans above
  · rw [halfUp_of_nonneg hp,halfUp_of_nonneg (hp.trans h)]
    exact Int.floor_mono (by linarith)

/-- Only a tie rounds apart from below and from above. -/
theorem ceil_eq_floor_iff (q : ℚ) : ⌈q - 1/2⌉ = ⌊q + 1/2⌋ ↔ ¬ Tie q := by
  have shift : ⌊q + 1/2⌋ = ⌊q - 1/2⌋ + 1 := by
    rw [← Int.floor_add_one]
    congr 1
    ring
  unfold Tie
  rw [shift]
  constructor
  · intro h tie
    have whole : q - 1/2 = (⌊q⌋ : ℚ) := by
      rw [← tie]
      exact Int.self_sub_fract q
    rw [whole,Int.ceil_intCast,Int.floor_intCast] at h
    omega
  · intro tie
    apply le_antisymm (Int.ceil_le_floor_add_one _)
    rw [Int.add_one_le_iff,Int.lt_ceil]
    refine lt_of_le_of_ne (Int.floor_le _) ?_
    intro h
    apply tie
    have e : q = (⌊q - 1/2⌋ : ℚ) + 1/2 := by
      rw [h]
      ring
    rw [e,Int.fract_intCast_add]
    norm_num [Int.fract_eq_self]

/-- A multiple of one hundredth. -/
def Cents (q : ℚ) : Prop := Int.fract (q * 100) = 0

instance (q : ℚ) : Decidable (Cents q) := inferInstanceAs (Decidable (_ = _))

theorem cents_iff {q : ℚ} : Cents q ↔ ∃ n : Int, q = n / 100 := by
  unfold Cents
  constructor
  · intro h
    refine ⟨⌊q * 100⌋,?_⟩
    have whole := Int.self_sub_fract (q * 100)
    rw [h,sub_zero] at whole
    rw [← whole]
    ring
  · rintro ⟨n,rfl⟩
    rw [div_mul_cancel₀ _ (by norm_num)]
    exact Int.fract_intCast n

theorem Cents.zero : Cents 0 := cents_iff.mpr ⟨0,by norm_num⟩

theorem Cents.add {p q : ℚ} (hp : Cents p) (hq : Cents q) : Cents (p + q) := by
  obtain ⟨m,rfl⟩ := cents_iff.mp hp
  obtain ⟨n,rfl⟩ := cents_iff.mp hq
  exact cents_iff.mpr ⟨m + n,by push_cast; ring⟩

theorem Cents.neg {q : ℚ} (hq : Cents q) : Cents (-q) := by
  obtain ⟨n,rfl⟩ := cents_iff.mp hq
  exact cents_iff.mpr ⟨-n,by push_cast; ring⟩

theorem Cents.sub {p q : ℚ} (hp : Cents p) (hq : Cents q) : Cents (p - q) := by
  rw [sub_eq_add_neg]
  exact hp.add hq.neg

theorem Cents.int_mul {q : ℚ} (hq : Cents q) (k : Int) : Cents (k * q) := by
  obtain ⟨n,rfl⟩ := cents_iff.mp hq
  refine cents_iff.mpr ⟨k * n,?_⟩
  push_cast
  ring

theorem Cents.sum {l : List ℚ} (h : ∀ q ∈ l, Cents q) : Cents l.sum := by
  induction l with
  | nil => exact Cents.zero
  | cons q l ih =>
    rw [List.sum_cons]
    exact (h q (List.mem_cons_self ..)).add (ih fun p hp => h p (List.mem_cons_of_mem _ hp))

theorem cents_centsHalfUp (q : ℚ) : Cents (centsHalfUp q) := cents_iff.mpr ⟨_,rfl⟩

theorem centsHalfUp_of_cents {q : ℚ} (h : Cents q) : centsHalfUp q = q := by
  obtain ⟨n,rfl⟩ := cents_iff.mp h
  unfold centsHalfUp
  rw [div_mul_cancel₀ _ (by norm_num),halfUp_int]

theorem centsHalfUp_neg (q : ℚ) : centsHalfUp (-q) = -centsHalfUp q := by
  unfold centsHalfUp
  rw [neg_mul,halfUp_neg]
  push_cast
  ring

theorem centsHalfUp_mono {p q : ℚ} (h : p ≤ q) : centsHalfUp p ≤ centsHalfUp q := by
  unfold centsHalfUp
  have scaled : halfUp (p * 100) ≤ halfUp (q * 100) := halfUp_mono (by linarith)
  gcongr

theorem centsHalfUp_nonneg {q : ℚ} (h : 0 ≤ q) : 0 ≤ centsHalfUp q :=
  (centsHalfUp_of_cents Cents.zero).symm.trans_le (centsHalfUp_mono h)

/-- An odd number of half cents. -/
def HalfCent (q : ℚ) : Prop := Tie (q * 100)

instance (q : ℚ) : Decidable (HalfCent q) := inferInstanceAs (Decidable (Tie _))

end EnergyNode.Lib
