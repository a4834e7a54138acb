import Mathlib.Logic.Function.Basic
import Mathlib.Order.Lattice

/-! Leases over a store of deadlines. A holder works on a key until the deadline
it wrote; nobody writes over a deadline that has not passed. -/
namespace EnergyNode.Lib.Lease

variable {ι κ τ : Type} [LinearOrder τ]

/-- Whoever holds an unexpired lease finds its deadline stored, and holds it alone. -/
def Sound (stored : κ → Option τ) (claim : ι → Option (κ × τ)) (now : τ) : Prop :=
  ∀ i k t, claim i = some (k,t) → now < t →
    stored k = some t ∧ ∀ j u, claim j = some (k,u) → now < u → j = i

variable {stored other : κ → Option τ} {claim : ι → Option (κ × τ)} {now later : τ}

theorem sound_idle (h : ∀ i, claim i = none) : Sound stored claim now := by
  intro i k t held
  rw [h i] at held
  cases held

theorem Sound.exclusive (h : Sound stored claim now) {i j : ι} {k : κ} {t u : τ}
    (hi : claim i = some (k,t)) (live : now < t) (hj : claim j = some (k,u)) (live' : now < u) :
    i = j :=
  ((h i k t hi live).2 j u hj live').symm

theorem Sound.tick (h : Sound stored claim now) (le : now ≤ later) : Sound stored claim later := by
  intro i k t held live
  obtain ⟨there,alone⟩ := h i k t held (lt_of_le_of_lt le live)
  exact ⟨there,fun j u hj live' => alone j u hj (lt_of_le_of_lt le live')⟩

/-- Only the deadlines of the keys in hand matter. -/
theorem Sound.congr (h : Sound stored claim now)
    (same : ∀ k t, stored k = some t → other k = some t) : Sound other claim now := by
  intro i k t held live
  obtain ⟨there,alone⟩ := h i k t held live
  exact ⟨same k t there,alone⟩

variable [DecidableEq ι]

/-- A holder that lets its key go. -/
theorem Sound.drop (h : Sound stored claim now) (i : ι) :
    Sound stored (Function.update claim i none) now := by
  intro j k t held live
  rcases eq_or_ne j i with rfl | ne
  · rw [Function.update_self] at held
    cases held
  rw [Function.update_of_ne ne] at held
  obtain ⟨there,alone⟩ := h j k t held live
  refine ⟨there,fun x u hx live' => ?_⟩
  rcases eq_or_ne x i with rfl | apart
  · rw [Function.update_self] at hx
    cases hx
  rw [Function.update_of_ne apart] at hx
  exact alone x u hx live'

/-- The holder of an unexpired lease may do anything to its deadline as it lets go. -/
theorem Sound.release (h : Sound stored claim now) {i : ι} {k : κ} {t : τ}
    (held : claim i = some (k,t)) (live : now < t)
    (same : ∀ x u, x ≠ k → stored x = some u → other x = some u) :
    Sound other (Function.update claim i none) now := by
  intro j x u hj live'
  obtain ⟨there,alone⟩ := h.drop i j x u hj live'
  have apart : x ≠ k := by
    rintro rfl
    rcases eq_or_ne j i with rfl | ne
    · rw [Function.update_self] at hj
      cases hj
    · rw [Function.update_of_ne ne] at hj
      exact ne (h.exclusive hj live' held live)
  exact ⟨same x u apart there,alone⟩

/-- A lease taken at an instant not after `now`, on a key whose deadline had
passed by then. -/
theorem Sound.take (h : Sound stored claim now) (i : ι) {k : κ} {t reference : τ}
    (past : reference ≤ now) (free : ∀ u, stored k = some u → u ≤ reference)
    (taken : other k = some t) (same : ∀ x u, x ≠ k → stored x = some u → other x = some u) :
    Sound other (Function.update claim i (some (k,t))) now := by
  have nobody (j : ι) (u : τ) (hj : claim j = some (k,u)) : ¬now < u := fun live =>
    absurd live (not_lt_of_ge (le_trans (free u (h j k u hj live).1) past))
  intro j x u hj live
  rcases eq_or_ne j i with rfl | ne
  · rw [Function.update_self,Option.some.injEq,Prod.mk.injEq] at hj
    obtain ⟨rfl,rfl⟩ := hj
    refine ⟨taken,fun y v hy live' => ?_⟩
    by_contra apart
    rw [Function.update_of_ne apart] at hy
    exact nobody y v hy live'
  · rw [Function.update_of_ne ne] at hj
    have apart : x ≠ k := by
      rintro rfl
      exact nobody j u hj live
    obtain ⟨there,alone⟩ := h j x u hj live
    refine ⟨same x u apart there,fun y v hy live' => ?_⟩
    rcases eq_or_ne y i with rfl | other'
    · rw [Function.update_self,Option.some.injEq,Prod.mk.injEq] at hy
      exact absurd hy.1.symm apart
    · rw [Function.update_of_ne other'] at hy
      exact alone y v hy live'

end EnergyNode.Lib.Lease
