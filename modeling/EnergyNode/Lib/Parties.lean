import EnergyNode.Lib.Run
import Mathlib.Logic.Function.Basic

/-! Parties that each take their own steps. A run of all of them, seen from one
party, is the run of its own steps. -/
namespace EnergyNode.Lib

variable {ι σ α : Type} [DecidableEq ι] (step : ι → σ → α → σ)

/-- One party steps, the others wait. -/
def together (w : ι → σ) (a : ι × α) : ι → σ := Function.update w a.1 (step a.1 (w a.1) a.2)

/-- The steps of one party. -/
def own (i : ι) (labels : List (ι × α)) : List α :=
  labels.filterMap fun a => if a.1 = i then some a.2 else none

variable {step} {w : ι → σ} {a : ι × α} {i : ι}

theorem together_self : together step w a a.1 = step a.1 (w a.1) a.2 := Function.update_self ..

theorem together_ne (h : i ≠ a.1) : together step w a i = w i := Function.update_of_ne h ..

theorem run_together (labels : List (ι × α)) :
    run (together step) w labels i = run (step i) (w i) (own i labels) := by
  induction labels generalizing w with
  | nil => rfl
  | cons a labels ih =>
    rw [run_cons,ih]
    by_cases here : a.1 = i
    · subst here
      have mine : own a.1 (a :: labels) = a.2 :: own a.1 labels := by simp [own]
      rw [together_self,mine,run_cons]
    · have other : own i (a :: labels) = own i labels := by simp [own,here]
      rw [together_ne (Ne.symm here),other]

/-- What every step of a party keeps, its steps beside the others keep too. -/
theorem together_keeps {Q : ι → σ → Prop} (h : ∀ s b, Q a.1 s → Q a.1 (step a.1 s b))
    (all : ∀ i, Q i (w i)) : ∀ i, Q i (together step w a i) := by
  intro i
  by_cases here : i = a.1
  · subst here
    rw [together_self]
    exact h _ _ (all a.1)
  · rw [together_ne here]
    exact all i

end EnergyNode.Lib
