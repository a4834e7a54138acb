import Mathlib.Data.List.Sort

/-! The first element of a sorted list, by a total and transitive order. -/
namespace EnergyNode.Lib

variable {α : Type} (r : α → α → Prop) [DecidableRel r]

theorem head?_insertionSort_eq_none {l : List α} : (l.insertionSort r).head? = none ↔ l = [] := by
  rw [List.head?_eq_none_iff,← List.length_eq_zero_iff,List.length_insertionSort,
    List.length_eq_zero_iff]

theorem head?_insertionSort [Std.Total r] [IsTrans α r] {l : List α} {a : α}
    (h : (l.insertionSort r).head? = some a) : a ∈ l ∧ ∀ b ∈ l, r a b := by
  have sorted := List.pairwise_insertionSort r l
  have mem (b : α) : b ∈ l.insertionSort r ↔ b ∈ l := List.mem_insertionSort r
  cases sort : l.insertionSort r with
  | nil =>
    rw [sort] at h
    cases h
  | cons c rest =>
    rw [sort] at h sorted mem
    cases h
    refine ⟨(mem a).mp (List.mem_cons_self ..),fun b hb => ?_⟩
    rcases List.mem_cons.mp ((mem b).mpr hb) with rfl | hb
    · exact (Std.Total.total (r := r) b b).elim id id
    · exact (List.pairwise_cons.mp sorted).1 b hb

end EnergyNode.Lib
