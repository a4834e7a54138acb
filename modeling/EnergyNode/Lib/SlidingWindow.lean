import Mathlib.Algebra.Order.Group.Defs
import Mathlib.Data.List.Induction
import Mathlib.Data.List.Sort
import Mathlib.Tactic.Abel

/-! A log of instants seen through a window that ends now. What a window may
hold bounds every set of instants that lie less than a span apart. -/
namespace EnergyNode.Lib

variable {T : Type} [AddCommGroup T] [LinearOrder T]

/-- The instants of the last span, the one exactly a span ago excluded. -/
def recent (span now : T) (log : List T) : List T := log.filter fun t => now - span < t

variable {span now later : T} {log log' : List T}

theorem recent_append : recent span now (log ++ log') = recent span now log ++ recent span now log' :=
  List.filter_append ..

theorem recent_perm (h : log.Perm log') : (recent span now log).Perm (recent span now log') :=
  h.filter _

/-- Each instant comes with at most `n` in the window that ends there. -/
def Paced (span : T) (n : Nat) (log : List T) : Prop :=
  ∀ before t after, log = before ++ t :: after → (recent span t (before ++ [t])).length ≤ n

theorem Paced.init {n : Nat} {t : T} (h : Paced span n (log ++ [t])) : Paced span n log := by
  intro before u after split
  apply h before u (after ++ [t])
  rw [split]
  simp

theorem paced_append_singleton {n : Nat} {t : T} : Paced span n (log ++ [t]) ↔
    Paced span n log ∧ (recent span t (log ++ [t])).length ≤ n := by
  constructor
  · intro h
    exact ⟨h.init,h log t [] rfl⟩
  · rintro ⟨h,last⟩ before u after split
    rcases List.eq_nil_or_concat' after with rfl | ⟨rest,v,rfl⟩
    · obtain ⟨rfl,rfl⟩ := List.append_inj' split rfl |>.imp_right List.singleton_inj.mp
      exact last
    · rw [← List.cons_append,← List.append_assoc] at split
      obtain ⟨rfl,_⟩ := List.append_inj' split rfl
      exact h before u rest rfl

/-- The bound holds of every window, wherever it ends. -/
theorem Paced.window {n : Nat} (h : Paced span n log) (p : T → Bool)
    (narrow : ∀ u v, p u → p v → v - span < u) : (log.filter p).length ≤ n := by
  induction log using List.reverseRecOn with
  | nil => simp
  | append_singleton log t ih =>
    by_cases inside : p t = true
    · have within : ∀ u ∈ log ++ [t], p u = true → decide (t - span < u) = true :=
        fun u _ hu => decide_eq_true (narrow u t hu inside)
      have sub : ((log ++ [t]).filter p).length ≤ (recent span t (log ++ [t])).length := by
        unfold recent
        rw [← List.countP_eq_length_filter,← List.countP_eq_length_filter]
        exact List.countP_mono_left within
      exact sub.trans (h log t [] rfl)
    · rw [List.filter_append]
      simpa [inside] using ih h.init

variable [IsOrderedAddMonoid T]

/-- Pruning before an earlier instant loses nothing for a later one. -/
theorem recent_recent (h : now ≤ later) : recent span later (recent span now log) =
    recent span later log := by
  unfold recent
  rw [List.filter_filter]
  apply List.filter_congr
  intro t _
  have : later - span < t → now - span < t := (sub_le_sub_right h span).trans_lt
  simpa using this

/-- An instant that left the window makes room. -/
theorem length_recent_lt (h : now ≤ later) {t : T} (seen : t ∈ recent span now log)
    (left : t ≤ later - span) : (recent span later log).length < (recent span now log).length := by
  rw [← recent_recent h]
  exact List.length_filter_lt_length_iff_exists.mpr ⟨t,seen,by simpa using left⟩

end EnergyNode.Lib
