import Mathlib.Tactic.Linarith
import Mathlib.Logic.Relation

/-! An escrow account: a stock out of which quantities are held, and each hold
is later committed or released, once. An account that promises more than it
has cannot be built. -/
namespace EnergyNode.Lib

@[ext] structure Account where
  initial : ℤ
  remaining : ℤ
  held : ℤ
  committed : ℤ
  balanced : remaining + committed = initial
  heldNonneg : 0 ≤ held
  covered : held ≤ remaining

namespace Account

def available (a : Account) : ℤ := a.remaining - a.held

theorem available_nonneg (a : Account) : 0 ≤ a.available := sub_nonneg.mpr a.covered

/-- The guard against a negative stock never cuts anything off. -/
theorem max_available (a : Account) : max 0 (a.remaining - a.held) = a.available :=
  max_eq_right a.available_nonneg

theorem promised_le (a : Account) : a.committed + a.held ≤ a.initial := by
  have h := a.balanced
  have c := a.covered
  omega

def fresh (quantity : ℤ) (h : 0 ≤ quantity) : Account where
  initial := quantity
  remaining := quantity
  held := 0
  committed := 0
  balanced := by omega
  heldNonneg := le_refl 0
  covered := h

def hold (a : Account) (q : ℤ) (hq : 0 ≤ q) (h : q ≤ a.available) : Account :=
  { a with
    held := a.held + q
    heldNonneg := add_nonneg a.heldNonneg hq
    covered := by
      unfold available at h
      omega }

def release (a : Account) (q : ℤ) (hq : 0 ≤ q) (h : q ≤ a.held) : Account :=
  { a with
    held := a.held - q
    heldNonneg := sub_nonneg.mpr h
    covered := by
      have c := a.covered
      omega }

def commit (a : Account) (q : ℤ) (h : q ≤ a.held) : Account where
  initial := a.initial
  remaining := a.remaining - q
  held := a.held - q
  committed := a.committed + q
  balanced := by
    have b := a.balanced
    omega
  heldNonneg := sub_nonneg.mpr h
  covered := by
    have c := a.covered
    omega

section Projections
variable (a : Account) (q : ℤ) (hq : 0 ≤ q)

@[simp] theorem initial_hold (h) : (a.hold q hq h).initial = a.initial := rfl
@[simp] theorem remaining_hold (h) : (a.hold q hq h).remaining = a.remaining := rfl
@[simp] theorem held_hold (h) : (a.hold q hq h).held = a.held + q := rfl
@[simp] theorem committed_hold (h) : (a.hold q hq h).committed = a.committed := rfl
@[simp] theorem initial_release (h) : (a.release q hq h).initial = a.initial := rfl
@[simp] theorem remaining_release (h) : (a.release q hq h).remaining = a.remaining := rfl
@[simp] theorem held_release (h) : (a.release q hq h).held = a.held - q := rfl
@[simp] theorem committed_release (h) : (a.release q hq h).committed = a.committed := rfl
@[simp] theorem initial_commit (h) : (a.commit q h).initial = a.initial := rfl
@[simp] theorem remaining_commit (h) : (a.commit q h).remaining = a.remaining - q := rfl
@[simp] theorem held_commit (h) : (a.commit q h).held = a.held - q := rfl
@[simp] theorem committed_commit (h) : (a.commit q h).committed = a.committed + q := rfl

end Projections

/-- Committing what is held never meets the guard either. -/
theorem max_commit (a : Account) (q : ℤ) (h : q ≤ a.held) :
    max 0 (a.remaining - q) = (a.commit q h).remaining := by
  have c := a.covered
  exact max_eq_right (by omega)

end Account

/-- The life of a hold. -/
inductive Phase where
  | hold | committed | released
deriving DecidableEq

/-- A hold ends at most once. -/
def Phase.Leads (p q : Phase) : Prop := p = q ∨ p = .hold

instance (p q : Phase) : Decidable (p.Leads q) := inferInstanceAs (Decidable (_ ∨ _))

theorem Phase.leads_refl (p : Phase) : p.Leads p := .inl rfl

theorem Phase.Leads.trans {p q r : Phase} (h : p.Leads q) (k : q.Leads r) : p.Leads r := by
  rcases h with rfl | rfl
  · exact k
  · exact .inr rfl

theorem Phase.leads_of_ne_hold {p q : Phase} (h : p.Leads q) (hp : p ≠ .hold) : q = p := by
  rcases h with rfl | rfl
  · rfl
  · exact absurd rfl hp

end EnergyNode.Lib
