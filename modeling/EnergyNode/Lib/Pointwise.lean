import EnergyNode.Lib.Table
import Mathlib.Data.List.Forall2

/-! Row by row: two tables with the same rows up to a relation. What the
relation keeps, every selection of the table keeps. -/
namespace EnergyNode.Lib

variable {α β κ : Type} {R S : α → α → Prop} {l m n : List α}

namespace Pointwise
open List

theorem mem_left (h : Forall₂ R l m) {a : α} (ha : a ∈ l) : ∃ b ∈ m, R a b := by
  induction h with
  | nil => cases ha
  | cons hab _ ih =>
    rcases List.mem_cons.mp ha with rfl | ha
    · exact ⟨_,List.mem_cons_self ..,hab⟩
    · obtain ⟨b,hb,h⟩ := ih ha
      exact ⟨b,List.mem_cons_of_mem _ hb,h⟩

theorem mem_right (h : Forall₂ R l m) {b : α} (hb : b ∈ m) : ∃ a ∈ l, R a b :=
  mem_left (R := flip R) h.flip hb

theorem trans (hR : ∀ a b c, R a b → R b c → R a c) (h : Forall₂ R l m) (k : Forall₂ R m n) :
    Forall₂ R l n := by
  induction h generalizing n with
  | nil => exact k
  | cons hab _ ih =>
    cases k with
    | cons hbc k => exact .cons (hR _ _ _ hab hbc) (ih k)

/-- A selection by what the relation keeps. -/
theorem filter (p : α → Bool) (hp : ∀ a b, R a b → p a = p b) (h : Forall₂ R l m) :
    Forall₂ R (l.filter p) (m.filter p) := by
  induction h with
  | nil => exact .nil
  | cons hab _ ih =>
    rw [List.filter_cons,List.filter_cons,hp _ _ hab]
    split
    · exact .cons hab ih
    · exact ih

theorem map_eq (f : α → β) (hf : ∀ a b, R a b → f a = f b) (h : Forall₂ R l m) :
    l.map f = m.map f := by
  induction h with
  | nil => rfl
  | cons hab _ ih => rw [List.map_cons,List.map_cons,hf _ _ hab,ih]

theorem of_map (f : α → α) (hf : ∀ a ∈ l, R a (f a)) : Forall₂ R l (l.map f) := by
  rw [forall₂_map_right_iff,forall₂_same]
  exact hf

end Pointwise

namespace Table
variable {key : α → κ} [DecidableEq κ]

/-- A replaced row is the only difference. -/
theorem pointwise_set (refl : ∀ a, R a a) {t : Table key} {a b : α} (h : t.get? (key b) = some a)
    (hab : R a b) : List.Forall₂ R t.rows (t.set b).rows := by
  apply Pointwise.of_map
  intro c hc
  by_cases hk : key c = key b
  · rw [if_pos hk]
    obtain rfl : c = a := eq_of_key hc (mem_of_get? h) (hk.trans (key_of_get? h).symm)
    exact hab
  · rw [if_neg hk]
    exact refl c

end Table

end EnergyNode.Lib
