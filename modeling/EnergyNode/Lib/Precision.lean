import EnergyNode.Lib.Rounding
import Mathlib.Data.Int.Log

/-! Arithmetic of a bounded precision: a result keeps that many significant
digits, ties to even, and may then be rounded again to a fixed exponent. -/
namespace EnergyNode.Lib

/-- The nearest multiple of `unit`, ties to the even one. -/
def snap (unit q : ℚ) : ℚ := halfEven (q / unit) * unit

/-- The place of the last of so many significant digits. -/
def lastPlace (digits : Nat) (q : ℚ) : Int := Int.log 10 |q| - digits + 1

/-- The nearest numeral of so many significant digits, ties to even. -/
def keep (digits : Nat) (q : ℚ) : ℚ := snap ((10 : ℚ) ^ lastPlace digits q) q

section HalfEven
variable {q : ℚ}

theorem floor_of_tie (h : Tie q) : q = (⌊q⌋ : ℚ) + 1/2 := by
  have whole := Int.self_sub_floor q
  rw [show Int.fract q = 1/2 from h] at whole
  linarith

theorem halfEven_of_tie (h : Tie q) : halfEven q = if ⌊q⌋ % 2 = 0 then ⌊q⌋ else ⌊q⌋ + 1 := by
  have half : q - (⌊q⌋ : ℚ) = 1/2 := by
    have e := floor_of_tie h
    linarith
  unfold halfEven
  dsimp only
  rw [show q.floor = ⌊q⌋ from rfl,half]
  simp

theorem halfEven_of_not_tie (h : ¬ Tie q) : halfEven q = ⌊q + 1/2⌋ := by
  have apart : q - (⌊q⌋ : ℚ) ≠ 1/2 := fun e => h e
  have low := Int.floor_le q
  have high := Int.lt_floor_add_one q
  unfold halfEven
  dsimp only
  rw [show q.floor = ⌊q⌋ from rfl]
  symm
  rw [Int.floor_eq_iff]
  split
  · rename_i below
    constructor <;> linarith
  · rename_i above
    rw [if_neg fun both => apart both.1]
    have past : 1/2 < q - (⌊q⌋ : ℚ) := lt_of_le_of_ne (not_lt.mp above) (Ne.symm apart)
    push_cast
    constructor <;> linarith

theorem halfUp_of_not_tie (h : ¬ Tie q) : halfUp q = ⌊q + 1/2⌋ := by
  rcases lt_or_ge q 0 with neg | pos
  · rw [halfUp_of_neg neg]
    exact (ceil_eq_floor_iff q).mpr h
  · exact halfUp_of_nonneg pos

theorem halfEven_near (q : ℚ) : |(halfEven q : ℚ) - q| ≤ 1/2 := by
  by_cases tie : Tie q
  · have e := floor_of_tie tie
    rw [halfEven_of_tie tie,abs_le]
    split <;> push_cast <;> constructor <;> linarith
  · have low := Int.floor_le (q + 1/2)
    have high := Int.lt_floor_add_one (q + 1/2)
    rw [halfEven_of_not_tie tie,abs_le]
    constructor <;> linarith

theorem halfUp_near (q : ℚ) : |(halfUp q : ℚ) - q| ≤ 1/2 := by
  rw [abs_le]
  rcases lt_or_ge q 0 with neg | pos
  · have low := Int.le_ceil (q - 1/2)
    have high := Int.ceil_lt_add_one (q - 1/2)
    rw [halfUp_of_neg neg]
    constructor <;> linarith
  · have low := Int.floor_le (q + 1/2)
    have high := Int.lt_floor_add_one (q + 1/2)
    rw [halfUp_of_nonneg pos]
    constructor <;> linarith

/-- Near a tie there are two numbers to round to, half a unit away. -/
theorem near_tie {t : ℚ} (tie : Tie t) (close : |q - t| < 1/2) (apart : halfEven t ≠ halfUp q)
    (n : Int) : |(n : ℚ) - t| = 1/2 ↔ n = halfEven t ∨ n = halfUp q := by
  have e := floor_of_tie tie
  have half (k : Int) : |(k : ℚ) - t| = 1/2 ↔ k = ⌊t⌋ ∨ k = ⌊t⌋ + 1 := by
    rw [e,abs_eq (by norm_num)]
    simp only [Int.floor_intCast_add,show ⌊(1 / 2 : ℚ)⌋ = 0 by norm_num,add_zero]
    rw [← Int.cast_inj (α := ℚ),← Int.cast_inj (α := ℚ)]
    push_cast
    constructor <;> rintro (h | h)
    · right; linarith
    · left; linarith
    · right; linarith
    · left; linarith
  have even : halfEven t = ⌊t⌋ ∨ halfEven t = ⌊t⌋ + 1 := by
    rw [halfEven_of_tie tie]
    split
    · exact .inl rfl
    · exact .inr rfl
  have up : halfUp q = ⌊t⌋ ∨ halfUp q = ⌊t⌋ + 1 := by
    obtain ⟨low,high⟩ := abs_le.mp (halfUp_near q)
    obtain ⟨left,right⟩ := abs_lt.mp close
    have least : ((⌊t⌋ - 1 : Int) : ℚ) < halfUp q := by
      push_cast
      linarith
    have most : (halfUp q : ℚ) < ((⌊t⌋ + 2 : Int) : ℚ) := by
      push_cast
      linarith
    have least' : ⌊t⌋ - 1 < halfUp q := by exact_mod_cast least
    have most' : halfUp q < ⌊t⌋ + 2 := by exact_mod_cast most
    omega
  rw [half]
  omega

theorem not_tie_int (n : Int) : ¬ Tie (n : ℚ) := by
  unfold Tie
  rw [Int.fract_intCast]
  norm_num

@[simp] theorem halfEven_int (n : Int) : halfEven (n : ℚ) = n := by
  rw [halfEven_of_not_tie (not_tie_int n),Int.floor_intCast_add]
  norm_num

/-- Below an even number ties go down to it. -/
theorem halfEven_le_even {n : Int} (even : n % 2 = 0) : halfEven q ≤ n ↔ q ≤ n + 1/2 := by
  by_cases tie : Tie q
  · have e := floor_of_tie tie
    have scale : q ≤ (n : ℚ) + 1/2 ↔ ⌊q⌋ ≤ n := by
      rw [← Int.cast_le (R := ℚ)]
      constructor <;> intro h <;> linarith
    rw [halfEven_of_tie tie,scale]
    split <;> omega
  · rw [halfEven_of_not_tie tie,← Int.lt_add_one_iff,Int.floor_lt]
    push_cast
    constructor
    · intro h
      linarith
    · intro h
      have apart : q ≠ (n : ℚ) + 1/2 := by
        rintro rfl
        apply tie
        unfold Tie
        rw [Int.fract_intCast_add]
        norm_num [Int.fract_eq_self]
      have := lt_of_le_of_ne h apart
      linarith

theorem even_le_halfEven {n : Int} (even : n % 2 = 0) : n ≤ halfEven q ↔ (n : ℚ) - 1/2 ≤ q := by
  by_cases tie : Tie q
  · have e := floor_of_tie tie
    have scale : (n : ℚ) - 1/2 ≤ q ↔ n ≤ ⌊q⌋ + 1 := by
      rw [← Int.cast_le (R := ℚ)]
      push_cast
      constructor <;> intro h <;> linarith
    rw [halfEven_of_tie tie,scale]
    split <;> omega
  · rw [halfEven_of_not_tie tie,Int.le_floor]
    constructor <;> intro h <;> linarith

end HalfEven

section Snap
variable {q : ℚ}

@[simp] theorem snap_one (q : ℚ) : snap 1 q = halfEven q := by
  unfold snap
  rw [div_one,mul_one]

theorem snap_scale {unit c : ℚ} (h : c ≠ 0) : snap unit q * c = snap (unit * c) (q * c) := by
  unfold snap
  rw [mul_div_mul_right _ _ h,mul_assoc]

theorem snap_near {unit : ℚ} (pos : 0 < unit) (q : ℚ) : |snap unit q - q| ≤ unit / 2 := by
  have e : snap unit q - q = (halfEven (q / unit) - q / unit) * unit := by
    unfold snap
    rw [sub_mul,div_mul_cancel₀ _ pos.ne']
  rw [e,abs_mul,abs_of_pos pos]
  have near := mul_le_mul_of_nonneg_right (halfEven_near (q / unit)) pos.le
  linarith

/-- The finer grid holds every half. -/
theorem snap_nonneg {unit : ℚ} (pos : 0 < unit) {q : ℚ} (h : 0 ≤ q) : 0 ≤ snap unit q := by
  have whole : 0 ≤ halfEven (q / unit) := by
    apply (even_le_halfEven (n := 0) rfl).mpr
    have := div_nonneg h pos.le
    push_cast
    linarith
  exact mul_nonneg (by exact_mod_cast whole) pos.le

theorem keep_nonneg {digits : Nat} {q : ℚ} (h : 0 ≤ q) : 0 ≤ keep digits q :=
  snap_nonneg (zpow_pos (by norm_num) _) h

theorem snap_whole {e : Int} {m : Int} (h : q = m * (10 : ℚ) ^ e) : snap ((10 : ℚ) ^ e) q = q := by
  unfold snap
  rw [h,mul_div_cancel_right₀ _ (zpow_ne_zero _ (by norm_num)),halfEven_int]

/-- What is kept is off by half a unit of the last place. -/
theorem keep_near (digits : Nat) (q : ℚ) :
    |keep digits q - q| ≤ (10 : ℚ) ^ lastPlace digits q / 2 :=
  snap_near (zpow_pos (by norm_num) _) q

theorem keep_nonpos {digits : Nat} {q : ℚ} (h : q ≤ 0) : keep digits q ≤ 0 := by
  have unit : (0 : ℚ) < (10 : ℚ) ^ lastPlace digits q := zpow_pos (by norm_num) _
  have whole : halfEven (q / (10 : ℚ) ^ lastPlace digits q) ≤ 0 := by
    apply (halfEven_le_even (n := 0) rfl).mpr
    have := div_nonpos_of_nonpos_of_nonneg h unit.le
    push_cast
    linarith
  exact mul_nonpos_of_nonpos_of_nonneg (by exact_mod_cast whole) unit.le

/-- The leading power of ten is not rounded away. -/
theorem log_le_keep {digits : Nat} (room : 2 ≤ digits) {q : ℚ} (pos : 0 < q) :
    (10 : ℚ) ^ Int.log 10 q ≤ keep digits q := by
  have unit : (0 : ℚ) < (10 : ℚ) ^ lastPlace digits q := zpow_pos (by norm_num) _
  have split : (10 : ℚ) ^ Int.log 10 q =
      ((10 ^ (digits - 1) : Int) : ℚ) * (10 : ℚ) ^ lastPlace digits q := by
    unfold lastPlace
    rw [abs_of_pos pos]
    push_cast
    rw [← zpow_natCast,← zpow_add₀ (by norm_num)]
    congr 1
    omega
  have even : (10 : Int) ^ (digits - 1) % 2 = 0 := by
    obtain ⟨k,hk⟩ : ∃ k, digits - 1 = k + 1 := ⟨digits - 2,by omega⟩
    rw [hk,pow_succ]
    omega
  have whole : (10 : Int) ^ (digits - 1) ≤ halfEven (q / (10 : ℚ) ^ lastPlace digits q) := by
    apply (even_le_halfEven even).mpr
    have log := Int.zpow_log_le_self (b := 10) (by norm_num) pos
    norm_num at log
    rw [split] at log
    have := (le_div_iff₀ unit).mpr log
    linarith
  rw [split]
  exact mul_le_mul_of_nonneg_right (by exact_mod_cast whole) unit.le

/-- A numeral whose last digit is in place is kept. -/
theorem keep_grid {digits : Nat} {q : ℚ} {n e : Int} (whole : q = n * (10 : ℚ) ^ e)
    (fits : lastPlace digits q ≤ e) : keep digits q = q := by
  obtain ⟨j,hj⟩ : ∃ j : Nat, e = lastPlace digits q + j := ⟨(e - lastPlace digits q).toNat,by omega⟩
  refine snap_whole (m := n * 10 ^ j) ?_
  conv_lhs => rw [whole,hj]
  rw [zpow_add₀ (by norm_num)]
  push_cast
  rw [zpow_natCast]
  ring

/-- The numeral that is kept has no more digits, or is a power of ten. -/
theorem halfEven_most (d : Nat) (q : ℚ) :
    |halfEven (q / (10 : ℚ) ^ lastPlace (d + 1) q)| ≤ 10 ^ (d + 1) := by
  have unit : (0 : ℚ) < (10 : ℚ) ^ lastPlace (d + 1) q := zpow_pos (by norm_num) _
  have even : (10 : Int) ^ (d + 1) % 2 = 0 := by
    rw [pow_succ]
    omega
  have place : ((d + 1 : Nat) : Int) + lastPlace (d + 1) q = Int.log 10 |q| + 1 := by
    unfold lastPlace
    omega
  have large : |q / (10 : ℚ) ^ lastPlace (d + 1) q| ≤ 10 ^ (d + 1) := by
    rw [abs_div,abs_of_pos unit,div_le_iff₀ unit,← zpow_natCast,← zpow_add₀ (by norm_num),place]
    have log := Int.lt_zpow_succ_log_self (b := 10) (by norm_num) |q|
    exact_mod_cast log.le
  obtain ⟨low,high⟩ := abs_le.mp large
  rw [abs_le]
  constructor
  · rw [even_le_halfEven (by omega)]
    push_cast
    linarith
  · rw [halfEven_le_even even]
    push_cast
    linarith

/-- What was kept stays. -/
theorem keep_keep {digits : Nat} (some_ : 0 < digits) : keep digits (keep digits q) = keep digits q := by
  obtain ⟨d,rfl⟩ : ∃ d, digits = d + 1 := ⟨digits - 1,by omega⟩
  have most := halfEven_most d q
  set e := lastPlace (d + 1) q
  set n := halfEven (q / (10 : ℚ) ^ e)
  have unit : (0 : ℚ) < (10 : ℚ) ^ e := zpow_pos (by norm_num) _
  have kept : keep (d + 1) q = n * (10 : ℚ) ^ e := rfl
  rw [kept]
  rcases eq_or_ne n 0 with zero | apart
  · rw [zero]
    exact snap_whole (m := 0) (by norm_num)
  have size : |(n : ℚ) * (10 : ℚ) ^ e| = (|n| : Int) * (10 : ℚ) ^ e := by
    rw [abs_mul,abs_of_pos unit,Int.cast_abs]
  rcases most.lt_or_eq with less | full
  · -- as many digits or fewer, on a finer grid
    refine keep_grid rfl ?_
    have below : Int.log 10 |(n : ℚ) * (10 : ℚ) ^ e| < (d + 1 : Nat) + e := by
      rw [← Int.lt_zpow_iff_log_lt (by norm_num) (by
        rw [abs_pos]
        exact mul_ne_zero (by exact_mod_cast apart) unit.ne')]
      rw [size,Nat.cast_ofNat,zpow_add₀ (by norm_num),zpow_natCast]
      exact mul_lt_mul_of_pos_right (by exact_mod_cast less) unit
    unfold lastPlace
    omega
  · -- one digit more is a power of ten
    have place : lastPlace (d + 1) (n * (10 : ℚ) ^ e) = e + 1 := by
      unfold lastPlace
      rw [size,full]
      push_cast
      rw [← zpow_natCast,← zpow_add₀ (by norm_num)]
      have log := Int.log_zpow (R := ℚ) (b := 10) (by norm_num) ((d + 1 : Nat) + e)
      norm_num at log ⊢
      rw [log]
      ring
    have shift (z : Int) : ((z * 10 : Int) : ℚ) * (10 : ℚ) ^ e = (z : ℚ) * (10 : ℚ) ^ (e + 1) := by
      rw [zpow_add₀ (by norm_num)]
      push_cast
      ring
    obtain pos | neg := abs_eq (by positivity) |>.mp full
    · refine @keep_grid (d + 1) _ (10 ^ d) (e + 1) ?_ place.le
      rw [pos,← shift,pow_succ]
    · refine @keep_grid (d + 1) _ (-10 ^ d) (e + 1) ?_ place.le
      rw [neg,← shift,pow_succ,neg_mul]

theorem snap_tie {m : Int} (even : m % 2 = 0) (pos : 0 < m) (h : Tie q) :
    snap (1 / m) q = q := by
  have apart : (m : ℚ) ≠ 0 := by exact_mod_cast pos.ne'
  have e := floor_of_tie h
  have whole : q * m = ((⌊q⌋ * m + m / 2 : Int) : ℚ) := by
    have halves : (m : ℚ) = 2 * ((m / 2 : Int) : ℚ) := by
      exact_mod_cast (show m = 2 * (m / 2) by omega)
    push_cast
    rw [e]
    simp only [Int.floor_intCast_add,Int.cast_add]
    rw [show ⌊(1 / 2 : ℚ)⌋ = 0 by norm_num]
    push_cast
    linarith
  unfold snap
  rw [div_div_eq_mul_div,div_one,whole,halfEven_int,← whole]
  field_simp

/-- Rounding on the finer grid first does not move a number past a half,
though it may move it onto one. -/
theorem floor_snap {m : Int} (even : m % 2 = 0) (pos : 0 < m) (h : ¬ Tie (snap (1 / m) q)) :
    ⌊snap (1 / m) q + 1/2⌋ = ⌊q + 1/2⌋ := by
  have positive : (0 : ℚ) < m := by exact_mod_cast pos
  set n := halfEven (q * m) with n_
  have at_ : snap (1 / m) q = (n : ℚ) / m := by
    unfold snap
    rw [div_div_eq_mul_div,div_one,mul_one_div]
  obtain ⟨below,above⟩ := abs_le.mp (halfEven_near (q * m))
  rw [← n_] at below above
  have halves : (m : ℚ) = 2 * ((m / 2 : Int) : ℚ) := by
    exact_mod_cast (show m = 2 * (m / 2) by omega)
  set k := ⌊q + 1/2⌋ with k_
  have low : (k : ℚ) ≤ q + 1/2 := Int.floor_le _
  have high : q + 1/2 < (k : ℚ) + 1 := Int.lt_floor_add_one _
  have lowScaled : (k : ℚ) * m ≤ q * m + (m / 2 : Int) := by nlinarith
  have highScaled : q * m + (m / 2 : Int) < ((k : ℚ) + 1) * m := by nlinarith
  have least : k * m ≤ n + m / 2 := by
    have near : ((k * m : Int) : ℚ) < ((n + m / 2 + 1 : Int) : ℚ) := by
      push_cast
      linarith
    exact Int.lt_add_one_iff.mp (by exact_mod_cast near)
  have most : n + m / 2 ≤ (k + 1) * m := by
    have near : ((n + m / 2 : Int) : ℚ) < (((k + 1) * m + 1 : Int) : ℚ) := by
      push_cast
      linarith
    exact Int.lt_add_one_iff.mp (by exact_mod_cast near)
  have off : n + m / 2 ≠ (k + 1) * m := by
    intro onto
    apply h
    have scaled : (n : ℚ) / m = (k : ℚ) + 1/2 := by
      rw [div_eq_iff positive.ne']
      have := congrArg (Int.cast (R := ℚ)) onto
      push_cast at this
      linarith
    unfold Tie
    rw [at_,scaled,Int.fract_intCast_add]
    norm_num [Int.fract_eq_self]
  have strict : n + m / 2 < (k + 1) * m := lt_of_le_of_ne most off
  have leastQ : ((k * m : Int) : ℚ) ≤ ((n + m / 2 : Int) : ℚ) := by exact_mod_cast least
  have strictQ : ((n + m / 2 : Int) : ℚ) < (((k + 1) * m : Int) : ℚ) := by exact_mod_cast strict
  push_cast at leastQ strictQ
  rw [at_,Int.floor_eq_iff]
  have shift : (n : ℚ) / m + 1/2 = (n + (m / 2 : Int)) / m := by
    rw [add_div]
    congr 1
    rw [eq_div_iff positive.ne']
    linarith
  rw [shift]
  constructor
  · rw [le_div_iff₀ positive]
    exact leastQ
  · rw [div_lt_iff₀ positive]
    linarith

theorem zpow_grid {e : Int} (neg : e < 0) :
    ∃ m : Int, m % 2 = 0 ∧ 0 < m ∧ (10 : ℚ) ^ e = 1 / m := by
  obtain ⟨j,hj⟩ : ∃ j : Nat, e = -((j : Int) + 1) := ⟨(-e - 1).toNat,by omega⟩
  refine ⟨10 ^ (j + 1),?_,by positivity,?_⟩
  · rw [pow_succ]
    omega
  · rw [hj,zpow_neg,one_div]
    push_cast
    norm_cast

theorem snap_tie_zpow {e : Int} (neg : e < 0) (h : Tie q) : snap ((10 : ℚ) ^ e) q = q := by
  obtain ⟨m,even,pos,grid⟩ := zpow_grid neg
  rw [grid]
  exact snap_tie even pos h

/-- Two roundings agree with one to the nearest, unless one of them meets a tie
that it resolves to the other side. -/
theorem halfEven_snap {e : Int} (he : e ≤ 0) :
    halfEven (snap ((10 : ℚ) ^ e) q) = halfUp q ↔
      ∀ t ∈ [q, snap ((10 : ℚ) ^ e) q], Tie t → halfEven t = halfUp q := by
  simp only [List.mem_cons,List.not_mem_nil,or_false,forall_eq_or_imp,forall_eq]
  obtain rfl | neg := he.eq_or_lt
  · rw [zpow_zero,snap_one,halfEven_int]
    constructor
    · intro same
      exact ⟨fun _ => same,fun tie => absurd tie (not_tie_int _)⟩
    · rintro ⟨own,_⟩
      by_cases tie : Tie q
      · exact own tie
      · rw [halfEven_of_not_tie tie,halfUp_of_not_tie tie]
  · obtain ⟨m,even,pos,grid⟩ := zpow_grid neg
    rw [grid]
    by_cases tie : Tie (snap (1 / m) q)
    · constructor
      · intro same
        refine ⟨fun own => ?_,fun _ => same⟩
        rw [snap_tie even pos own] at same
        exact same
      · exact fun both => both.2 tie
    · have apart : ¬ Tie q := fun own => tie ((snap_tie even pos own).symm ▸ own)
      have same : halfEven (snap (1 / m) q) = halfUp q := by
        rw [halfEven_of_not_tie tie,halfUp_of_not_tie apart]
        exact floor_snap even pos tie
      exact ⟨fun _ => ⟨fun own => absurd own apart,fun own => absurd own tie⟩,fun _ => same⟩

/-- Which numbers the two roundings tell apart: none, but for those half a unit
from a tie that is resolved to the other side. -/
theorem halfEven_snap_iff {e : Int} (he : e ≤ 0) (n : Int) :
    (n = halfEven (snap ((10 : ℚ) ^ e) q) ↔ n = halfUp q) ↔
      ∀ t ∈ [q, snap ((10 : ℚ) ^ e) q], Tie t → halfEven t ≠ halfUp q → |(n : ℚ) - t| ≠ 1/2 := by
  by_cases agree : halfEven (snap ((10 : ℚ) ^ e) q) = halfUp q
  · rw [agree]
    have ties := (halfEven_snap he).mp agree
    exact ⟨fun _ t ht tie apart => absurd (ties t ht tie) apart,fun _ => Iff.rfl⟩
  · have unit : (10 : ℚ) ^ e ≤ 1 := zpow_le_one_of_nonpos₀ (by norm_num) he
    have near := snap_near (zpow_pos (show (0 : ℚ) < 10 by norm_num) e) q
    -- A tie met on either grid is the same number, or an integer replaced it.
    have same : ∀ t ∈ [q, snap ((10 : ℚ) ^ e) q], Tie t →
        halfEven t = halfEven (snap ((10 : ℚ) ^ e) q) ∧ |q - t| < 1/2 := by
      intro t ht tie
      simp only [List.mem_cons,List.not_mem_nil,or_false] at ht
      rcases ht with rfl | rfl
      · refine ⟨?_,by norm_num⟩
        obtain rfl | neg := he.eq_or_lt
        · rw [zpow_zero,snap_one,halfEven_int]
        · rw [snap_tie_zpow neg tie]
      · refine ⟨rfl,?_⟩
        obtain rfl | neg := he.eq_or_lt
        · rw [zpow_zero,snap_one] at tie
          exact absurd tie (not_tie_int _)
        · have fine : (10 : ℚ) ^ e ≤ 1 / 10 := by
            rw [show (1 / 10 : ℚ) = (10 : ℚ) ^ (-1 : Int) by norm_num]
            exact zpow_le_zpow_right₀ (by norm_num) (by omega)
          rw [abs_sub_comm]
          linarith
    constructor
    · intro exact_ t ht tie apart half
      obtain ⟨even,close⟩ := same t ht tie
      rcases (near_tie tie close apart n).mp half with rfl | rfl
      · exact apart (exact_.mp even)
      · exact agree (exact_.mpr rfl).symm
    · intro clear
      obtain ⟨t,ht,tie,apart⟩ : ∃ t ∈ [q, snap ((10 : ℚ) ^ e) q], Tie t ∧ halfEven t ≠ halfUp q := by
        by_contra none
        push Not at none
        exact agree ((halfEven_snap he).mpr none)
      obtain ⟨even,close⟩ := same t ht tie
      have off := fun h => clear t ht tie apart ((near_tie tie close apart n).mpr h)
      rw [← even]
      exact ⟨fun h => absurd (.inl h) off,fun h => absurd (.inr h) off⟩

end Snap

/-! ### Sums of rounded numbers -/

section Stands
variable {t x : ℚ}

theorem tie_int_add (n : Int) : Tie (n + t) ↔ Tie t := by
  unfold Tie
  rw [Int.fract_intCast_add]

/-- `t` is `x` rounded on fine grids: near it, and on its side of every half but
the one it may be on. -/
structure Stands (t x : ℚ) : Prop where
  near : |t - x| < 1/2
  side : ¬ Tie t → ¬ Tie x ∧ ⌊t + 1/2⌋ = ⌊x + 1/2⌋

theorem Stands.refl (x : ℚ) : Stands x x :=
  ⟨by norm_num,fun apart => ⟨apart,rfl⟩⟩

theorem Stands.int_add (n : Int) (h : Stands t x) : Stands (n + t) (n + x) where
  near := by
    rw [add_sub_add_left_eq_sub]
    exact h.near
  side apart := by
    rw [tie_int_add] at apart ⊢
    obtain ⟨own,same⟩ := h.side apart
    refine ⟨own,?_⟩
    rw [add_assoc,add_assoc,Int.floor_intCast_add,Int.floor_intCast_add,same]

/-- One rounding more. -/
theorem Stands.snap {e : Int} (neg : e < 0) (h : Stands t x) (close : |t - x| ≤ 1/20) :
    Stands (Lib.snap ((10 : ℚ) ^ e) t) x := by
  obtain ⟨m,even,pos,grid⟩ := zpow_grid neg
  constructor
  · have fine : (10 : ℚ) ^ e ≤ 1 / 10 := by
      rw [show (1 / 10 : ℚ) = (10 : ℚ) ^ (-1 : Int) by norm_num]
      exact zpow_le_zpow_right₀ (by norm_num) (by omega)
    have near := snap_near (zpow_pos (show (0 : ℚ) < 10 by norm_num) e) t
    have sum := abs_sub_le (Lib.snap ((10 : ℚ) ^ e) t) t x
    linarith
  · intro apart
    have own : ¬ Tie t := fun tie => apart ((snap_tie_zpow neg tie).symm ▸ tie)
    obtain ⟨exact_,same⟩ := h.side own
    rw [grid] at apart ⊢
    exact ⟨exact_,(floor_snap even pos apart).trans same⟩

theorem ite_succ_iff {p q : Prop} [Decidable p] [Decidable q] (k : Int) :
    (if p then k + 1 else k) = (if q then k + 1 else k) ↔ (p ↔ q) := by
  by_cases hp : p <;> by_cases hq : q <;> simp [hp,hq]

/-- A rounded sum with an integer rounds like the other summand, unless it is half
way and the exact one lies on the other side. -/
theorem halfUp_stands {n : Int} {a : ℚ} (h : Stands t (n + a)) :
    halfUp t = n + halfUp a ↔ (Tie t → (0 ≤ t ↔ t < n + a ∨ t = n + a ∧ 0 ≤ a)) := by
  have moved : ⌊(n : ℚ) + a + 1/2⌋ = n + ⌊a + 1/2⌋ := by rw [add_assoc,Int.floor_intCast_add]
  by_cases tie : Tie t
  · have half := floor_of_tie tie
    obtain ⟨below,above⟩ := abs_lt.mp h.near
    have up : ⌊t + 1/2⌋ = ⌊t⌋ + 1 := by
      rw [Int.floor_eq_iff]
      push_cast
      constructor <;> linarith
    have down : ⌈t - 1/2⌉ = ⌊t⌋ := by
      rw [Int.ceil_eq_iff]
      constructor <;> linarith
    -- an exact sum that is not half way is rounded by its own side
    have own : t ≠ n + a → halfUp a = ⌊a + 1/2⌋ := by
      intro off
      refine halfUp_of_not_tie fun other => off ?_
      have whole := floor_of_tie ((tie_int_add n).mpr other)
      have same : ⌊(n : ℚ) + a⌋ = ⌊t⌋ := by
        rw [Int.floor_eq_iff]
        have least : ⌊(n : ℚ) + a⌋ < ⌊t⌋ + 1 := by
          have : (⌊(n : ℚ) + a⌋ : ℚ) < ⌊t⌋ + 1 := by linarith
          exact_mod_cast this
        have most : ⌊t⌋ < ⌊(n : ℚ) + a⌋ + 1 := by
          have : (⌊t⌋ : ℚ) < ⌊(n : ℚ) + a⌋ + 1 := by linarith
          exact_mod_cast this
        have e : ⌊(n : ℚ) + a⌋ = ⌊t⌋ := by omega
        rw [← e]
        exact ⟨Int.floor_le _,Int.lt_floor_add_one _⟩
      rw [half,whole,same]
    have sides : halfUp t = if 0 ≤ t then ⌊t⌋ + 1 else ⌊t⌋ := by
      split
      · rename_i positive
        rw [halfUp_of_nonneg positive,up]
      · rename_i negative
        rw [halfUp_of_neg (not_le.mp negative),down]
    have exact_ : n + halfUp a = if t < n + a ∨ t = n + a ∧ 0 ≤ a then ⌊t⌋ + 1 else ⌊t⌋ := by
      rcases lt_trichotomy t (n + a) with less | same | more
      · rw [if_pos (.inl less),own less.ne,← moved,Int.floor_eq_iff]
        push_cast
        constructor <;> linarith
      · by_cases positive : 0 ≤ a
        · rw [if_pos (.inr ⟨same,positive⟩),halfUp_of_nonneg positive,← moved,← same,up]
        · have off : ¬ (t < n + a ∨ t = n + a ∧ 0 ≤ a) := by
            rintro (less | ⟨_,other⟩)
            · exact less.ne same
            · exact positive other
          rw [if_neg off,halfUp_of_neg (not_le.mp positive),← down,same,add_sub_assoc,
            Int.ceil_intCast_add]
      · have off : ¬ (t < n + a ∨ t = n + a ∧ 0 ≤ a) := by
          rintro (less | ⟨same,_⟩)
          · exact absurd less more.not_gt
          · exact absurd same more.ne'
        rw [if_neg off,own more.ne',← moved,Int.floor_eq_iff]
        constructor <;> linarith
    rw [sides,exact_,ite_succ_iff]
    exact ⟨fun same _ => same,fun same => same tie⟩
  · obtain ⟨apart,same⟩ := h.side tie
    rw [tie_int_add] at apart
    simp only [tie,false_implies,iff_true]
    rw [halfUp_of_not_tie tie,halfUp_of_not_tie apart,same,moved]

end Stands

/-! ### Cents -/

/-- Rounding to cents under a precision: `none` when the cents need more digits. -/
def quantized (digits : Nat) (q : ℚ) : Option ℚ :=
  if |halfEven (q * 100)| < 10 ^ digits then some (centsHalfEven q) else none

/-- The same half away from zero. -/
def quantizedUp (digits : Nat) (q : ℚ) : Option ℚ :=
  if |halfUp (q * 100)| < 10 ^ digits then some (centsHalfUp q) else none

theorem quantizedUp_some {digits : Nat} {q r : ℚ} :
    quantizedUp digits q = some r ↔ |halfUp (q * 100)| < 10 ^ digits ∧ centsHalfUp q = r := by
  unfold quantizedUp
  split <;> simp [*]

/-! ### Numbers of so many digits -/

/-- The number is written with so many decimals and fewer than so many digits. -/
def Spells (digits places : Nat) (q : ℚ) : Prop :=
  (q * 10 ^ places).den = 1 ∧ |q| * 10 ^ places < 10 ^ digits

instance {digits places : Nat} {q : ℚ} : Decidable (Spells digits places q) :=
  inferInstanceAs (Decidable (_ ∧ _))

section Spells
variable {digits places : Nat} {q r : ℚ}

theorem spells_iff : Spells digits places q ↔
    ∃ n : Int, q * 10 ^ places = n ∧ |q| * 10 ^ places < 10 ^ digits := by
  unfold Spells
  constructor
  · rintro ⟨whole,small⟩
    exact ⟨_,(Rat.den_eq_one_iff _).mp whole |>.symm,small⟩
  · rintro ⟨n,whole,small⟩
    refine ⟨?_,small⟩
    rw [whole]
    exact Rat.den_intCast n

theorem keep_eq {n : Int} (whole : q * 10 ^ places = n) (fits : lastPlace digits q + places ≤ 0) :
    keep digits q = q := by
  refine @keep_grid digits q n (-places) ?_ (by omega)
  rw [zpow_neg,zpow_natCast,← whole]
  field_simp

/-- What is spelled is kept. -/
theorem keep_spelled (room : places < digits) (h : Spells digits places q) : keep digits q = q := by
  obtain ⟨n,whole,small⟩ := spells_iff.mp h
  have fits : lastPlace digits q + places ≤ 0 := by
    unfold lastPlace
    rcases (abs_nonneg q).eq_or_lt with zero | positive
    · rw [← zero,Int.log_zero_right]
      omega
    · have scale : |q| < (10 : ℚ) ^ ((digits : Int) - places) := by
        rw [zpow_sub₀ (by norm_num),zpow_natCast,zpow_natCast,lt_div_iff₀ (by positivity)]
        exact small
      have key := (Int.lt_zpow_iff_log_lt (b := 10) (x := (digits : Int) - places) (by norm_num)
        positive).mp (by exact_mod_cast scale)
      omega
  exact keep_eq whole fits

/-- A part of what is spelled, written with the same decimals. -/
theorem Spells.part (h : Spells digits places q) (whole : (r * 10 ^ places).den = 1) (nonneg : 0 ≤ r)
    (le : r ≤ q) : Spells digits places r := by
  refine ⟨whole,lt_of_le_of_lt ?_ h.2⟩
  rw [abs_of_nonneg nonneg,abs_of_nonneg (nonneg.trans le)]
  exact mul_le_mul_of_nonneg_right le (by positivity)

/-- The quotient of a number with a digit to spare is not rounded up to a whole one. -/
theorem floor_keep_le {x m : ℚ} (nonneg : 0 ≤ x) (den : ∃ k : Int, m = k) (pos : 0 < m)
    (grid : ∃ n : Int, x * m = n) (room : x * m < 10 ^ digits) : (⌊keep (digits + 1) x⌋ : ℚ) ≤ x := by
  rcases nonneg.eq_or_lt with zero | positive
  · rw [← zero]
    have none : keep (digits + 1) 0 = 0 := snap_whole (m := 0) (by norm_num)
    rw [none]
    norm_num
  by_contra past
  rw [not_le] at past
  obtain ⟨k,rfl⟩ := den
  obtain ⟨n,hn⟩ := grid
  set z := ⌊keep (digits + 1) x⌋ with hz
  have apart : (1 : ℚ) ≤ (z - x) * k := by
    have lt : ((n : Int) : ℚ) < ((z * k : Int) : ℚ) := by
      push_cast
      rw [← hn]
      exact mul_lt_mul_of_pos_right past pos
    have step : n + 1 ≤ z * k := by exact_mod_cast lt
    have step' : ((n + 1 : Int) : ℚ) ≤ ((z * k : Int) : ℚ) := by exact_mod_cast step
    push_cast at step'
    rw [sub_mul,hn]
    linarith
  have near := (abs_le.mp (keep_near (digits + 1) x)).2
  have floor := Int.floor_le (keep (digits + 1) x)
  rw [← hz] at floor
  have unit : (10 : ℚ) ^ lastPlace (digits + 1) x * 10 ^ digits ≤ x := by
    have log := Int.zpow_log_le_self (b := 10) (by norm_num) positive
    have place : lastPlace (digits + 1) x + digits = Int.log 10 x := by
      unfold lastPlace
      rw [abs_of_pos positive]
      push_cast
      ring
    rw [← zpow_natCast,← zpow_add₀ (by norm_num),place]
    norm_num at log
    exact log
  have gap : z - x ≤ (10 : ℚ) ^ lastPlace (digits + 1) x / 2 := by linarith
  have scaled : (z - x) * k * 10 ^ digits ≤ x * k / 2 := by
    calc (z - x) * k * 10 ^ digits ≤ (10 : ℚ) ^ lastPlace (digits + 1) x / 2 * k * 10 ^ digits := by
          gcongr
      _ = (10 : ℚ) ^ lastPlace (digits + 1) x * 10 ^ digits * k / 2 := by ring
      _ ≤ x * k / 2 := by gcongr
  have large : (10 : ℚ) ^ digits ≤ (z - x) * k * 10 ^ digits :=
    le_mul_of_one_le_left (by positivity) apart
  have total : 0 ≤ x * k := mul_nonneg nonneg pos.le
  linarith

end Spells

section Cents
variable {digits : Nat} {q : ℚ}

theorem keep_cents (digits : Nat) (q : ℚ) :
    keep digits q * 100 = snap ((10 : ℚ) ^ (lastPlace digits q + 2)) (q * 100) := by
  unfold keep
  rw [snap_scale (by norm_num),zpow_add₀ (by norm_num)]
  norm_num

/-- The last digit kept is a cent or less while the cents fit. -/
theorem lastPlace_le (room : 3 ≤ digits) : lastPlace digits q + 2 ≤ 0 ↔ |q * 100| < 10 ^ digits := by
  have scale : |q * 100| < 10 ^ digits ↔ |q| < (10 : ℚ) ^ ((digits : Int) - 2) := by
    rw [abs_mul,zpow_sub₀ (by norm_num),zpow_natCast,lt_div_iff₀ (by norm_num)]
    norm_num
  rw [scale]
  unfold lastPlace
  rcases (abs_nonneg q).eq_or_lt with zero | positive
  · rw [← zero,Int.log_zero_right]
    exact ⟨fun _ => zpow_pos (by norm_num) _,fun _ => by omega⟩
  · have key := Int.lt_zpow_iff_log_lt (b := 10) (x := (digits : Int) - 2) (by norm_num) positive
    push_cast at key
    rw [key]
    omega

/-- A coarser last place leaves whole units of cents. -/
theorem keep_coarse (past : 0 < lastPlace digits q + 2) : ∃ n : Int, keep digits q * 100 = n := by
  obtain ⟨j,hj⟩ : ∃ j : Nat, lastPlace digits q + 2 = j + 1 := ⟨(lastPlace digits q + 1).toNat,by omega⟩
  rw [keep_cents,hj]
  unfold snap
  exact ⟨halfEven (q * 100 / (10 : ℚ) ^ ((j : Int) + 1)) * 10 ^ (j + 1),by
    push_cast
    norm_cast⟩

/-- A coarser last place leaves no room for the cents. -/
theorem cents_overflow (room : 3 ≤ digits) (past : 0 < lastPlace digits q + 2) :
    (10 : ℚ) ^ digits ≤ |(halfEven (keep digits q * 100) : ℚ)| := by
  obtain ⟨j,hj⟩ : ∃ j : Nat, lastPlace digits q + 2 = j + 1 := ⟨(lastPlace digits q + 1).toNat,by omega⟩
  have positive : 0 < |q| := by
    rw [abs_pos]
    rintro rfl
    unfold lastPlace at past
    rw [abs_zero,Int.log_zero_right] at past
    omega
  have grid : ((10 : ℚ) ^ (lastPlace digits q + 2)) = ((10 ^ (j + 1) : Int) : ℚ) := by
    rw [hj]
    push_cast
    norm_cast
  rw [keep_cents,grid]
  unfold snap
  rw [← Int.cast_mul,halfEven_int]
  set n := halfEven (q * 100 / ((10 ^ (j + 1) : Int) : ℚ)) with n_
  have least : (10 : ℚ) ^ (digits - 1) ≤ |q * 100 / ((10 ^ (j + 1) : Int) : ℚ)| := by
    have log := Int.zpow_log_le_self (b := 10) (by norm_num) positive
    rw [abs_div,abs_mul,le_div_iff₀ (by positivity)]
    have exponent : (10 : ℚ) ^ (digits - 1) * |((10 ^ (j + 1) : Int) : ℚ)| =
        (10 : ℚ) ^ Int.log 10 |q| * 100 := by
      rw [abs_of_nonneg (by positivity)]
      push_cast
      rw [← pow_add,show (100 : ℚ) = (10 : ℚ) ^ (2 : Int) by norm_num,← zpow_add₀ (by norm_num),
        ← zpow_natCast]
      congr 1
      unfold lastPlace at hj
      omega
    rw [exponent]
    norm_num at log ⊢
    linarith
  have whole : 10 ^ (digits - 1) ≤ |n| := by
    have near := halfEven_near (q * 100 / ((10 ^ (j + 1) : Int) : ℚ))
    rw [← n_] at near
    have split := abs_sub_abs_le_abs_sub (q * 100 / ((10 ^ (j + 1) : Int) : ℚ)) (n : ℚ)
    rw [abs_sub_comm] at near
    have close : (10 : ℚ) ^ (digits - 1) < |(n : ℚ)| + 1 := by linarith
    have strict : 10 ^ (digits - 1) < |n| + 1 := by exact_mod_cast close
    omega
  have ten : (10 : Int) ^ digits ≤ |n * 10 ^ (j + 1)| := by
    rw [abs_mul,abs_of_pos (show (0 : Int) < 10 ^ (j + 1) by positivity)]
    calc (10 : Int) ^ digits = 10 ^ (digits - 1) * 10 := by
          rw [← pow_succ]
          congr 1
          omega
      _ ≤ |n| * 10 ^ (j + 1) := by
          apply mul_le_mul whole _ (by norm_num) (abs_nonneg _)
          calc (10 : Int) = 10 ^ 1 := (pow_one _).symm
            _ ≤ 10 ^ (j + 1) := pow_le_pow_right₀ (by norm_num) (by omega)
  exact_mod_cast ten

/-- Cents that fit are kept. -/
theorem keep_cents_eq (whole : Cents q) (fits : lastPlace digits q + 2 ≤ 0) : keep digits q = q := by
  obtain ⟨n,rfl⟩ := cents_iff.mp whole
  refine @keep_eq digits 2 ((n : ℚ) / 100) n ?_ fits
  norm_num

/-- The cents of a number kept to so many digits fit in that many digits. -/
theorem cents_fit (room : 3 ≤ digits) :
    |halfEven (keep digits q * 100)| < 10 ^ digits ↔ |q * 100| < (10 : ℚ) ^ digits - 1/2 := by
  have even : (10 : Int) ^ digits % 2 = 0 := by
    obtain ⟨k,rfl⟩ : ∃ k, digits = k + 1 := ⟨digits - 1,by omega⟩
    rw [pow_succ]
    omega
  rcases lt_or_ge 0 (lastPlace digits q + 2) with past | within
  · have beyond := cents_overflow room past
    have large : ¬ |q * 100| < 10 ^ digits := fun h => absurd ((lastPlace_le room).mpr h) (by omega)
    constructor
    · intro small
      have : |(halfEven (keep digits q * 100) : ℚ)| < 10 ^ digits := by exact_mod_cast small
      linarith
    · intro small
      linarith
  · rw [keep_cents]
    obtain zero | fine := within.eq_or_lt
    · rw [zero,zpow_zero,snap_one,halfEven_int,abs_lt,abs_lt,← not_le,← not_le,
        even_le_halfEven even,halfEven_le_even (n := -10 ^ digits) (by omega)]
      push_cast
      constructor <;> rintro ⟨low,high⟩ <;> constructor <;> linarith
    · have coarse : (10 : ℚ) ^ (lastPlace digits q + 2) ≤ 1 / 10 := by
        rw [show (1 / 10 : ℚ) = (10 : ℚ) ^ (-1 : Int) by norm_num]
        exact zpow_le_zpow_right₀ (by norm_num) (by omega)
      have near := snap_near (zpow_pos (show (0 : ℚ) < 10 by norm_num) (lastPlace digits q + 2)) (q * 100)
      have again := halfEven_near (snap ((10 : ℚ) ^ (lastPlace digits q + 2)) (q * 100))
      have short : |q * 100| < 10 ^ (digits - 1) := by
        rw [abs_mul]
        rcases (abs_nonneg q).eq_or_lt with none | positive
        · rw [← none]
          norm_num
        · have log := Int.lt_zpow_succ_log_self (b := 10) (by norm_num) |q|
          have cap : (10 : ℚ) ^ (Int.log 10 |q| + 1) ≤ (10 : ℚ) ^ (digits - 1) / 100 := by
            rw [le_div_iff₀ (by norm_num),show (100 : ℚ) = (10 : ℚ) ^ (2 : Int) by norm_num,
              ← zpow_add₀ (by norm_num),← zpow_natCast]
            apply zpow_le_zpow_right₀ (by norm_num)
            unfold lastPlace at fine
            omega
          norm_num at log ⊢
          linarith
      have ten : (10 : ℚ) ^ digits = 10 ^ (digits - 1) * 10 := by
        rw [← pow_succ]
        congr 1
        omega
      have one : (1 : ℚ) ≤ 10 ^ (digits - 1) := one_le_pow₀ (by norm_num)
      have apart := abs_sub_abs_le_abs_sub (snap ((10 : ℚ) ^ (lastPlace digits q + 2)) (q * 100)) (q * 100)
      have apart' := abs_sub_abs_le_abs_sub
        (halfEven (snap ((10 : ℚ) ^ (lastPlace digits q + 2)) (q * 100)) : ℚ)
        (snap ((10 : ℚ) ^ (lastPlace digits q + 2)) (q * 100))
      constructor
      · intro _
        linarith
      · intro _
        have small : |(halfEven (snap ((10 : ℚ) ^ (lastPlace digits q + 2)) (q * 100)) : ℚ)| <
            10 ^ digits := by linarith
        exact_mod_cast small

end Cents

end EnergyNode.Lib
