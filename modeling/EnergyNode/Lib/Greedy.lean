import EnergyNode.Lib.Fallible
import Mathlib.Algebra.BigOperators.Group.List.Basic
import Mathlib.Algebra.Order.BigOperators.Group.List
import Mathlib.Algebra.Order.Group.Unbundled.Basic
import Mathlib.Data.List.Perm.Subperm

/-! Greedy allocation of a quantity: every item in turn takes its size when that
much is left. Taken from the smallest, no selection within the room has more
items. -/
namespace EnergyNode.Lib

variable {α M : Type} [AddCommGroup M] [LinearOrder M] {size : α → M}

namespace Greedy

/-- What is left after an item had its turn. -/
def left (size : α → M) (room : M) (a : α) : M := if size a ≤ room then room - size a else room

/-- Every item beside the room it finds at its turn. -/
def turns (size : α → M) : M → List α → List (α × M)
  | _, [] => []
  | room, a :: items => (a,room) :: turns size (left size room a) items

/-- The items that fit at their turn. -/
def taken (size : α → M) (room : M) (items : List α) : List α :=
  ((turns size room items).filter fun turn => size turn.1 ≤ turn.2).map Prod.fst

@[simp] theorem taken_nil (room : M) : taken size room [] = [] := rfl

theorem taken_fits {room : M} {a : α} (items : List α) (h : size a ≤ room) :
    taken size room (a :: items) = a :: taken size (room - size a) items := by
  simp [taken,turns,left,h]

theorem taken_skips {room : M} {a : α} (items : List α) (h : ¬ size a ≤ room) :
    taken size room (a :: items) = taken size room items := by
  simp [taken,turns,left,h]

theorem map_turns (size : α → M) (room : M) (items : List α) : (turns size room items).map Prod.fst = items := by
  induction items generalizing room with
  | nil => rfl
  | cons a items ih => rw [turns,List.map_cons,ih]

theorem taken_sublist (room : M) (items : List α) : (taken size room items).Sublist items := by
  have kept := (List.filter_sublist (l := turns size room items)
    (p := fun turn => decide (size turn.1 ≤ turn.2))).map Prod.fst
  rwa [map_turns size] at kept

/-- A loop that gives each item its turn, as `step` does with the room its state
has left, gives every item its verdict, and the later turns keep it. -/
theorem foldlM_turns {ε σ : Type} (room : σ → M) (Done : α × M → σ → Prop) (Next : List α → σ → Prop)
    (step : σ → α → Except ε σ)
    (turn : ∀ s t a items, Next (a :: items) s → step s a = .ok t →
      Next items t ∧ Done (a,room s) t ∧ room t = left size (room s) a)
    (keep : ∀ s t a items other m, Next (a :: items) s → step s a = .ok t →
      Done (other,m) s → Done (other,m) t)
    {items : List α} {s t : σ} (next : Next items s) (h : items.foldlM step s = .ok t) :
    (∀ other m, Done (other,m) s → Done (other,m) t) ∧
      ∀ d ∈ turns size (room s) items, Done d t := by
  induction items generalizing s with
  | nil =>
    rw [List.foldlM_nil,Fallible.pure_ok] at h
    subst h
    exact ⟨fun _ _ done => done,fun d hd => nomatch hd⟩
  | cons a items ih =>
    rw [List.foldlM_cons] at h
    obtain ⟨u,first,rest⟩ := Fallible.bind_ok.mp h
    obtain ⟨next',done,room'⟩ := turn s u a items next first
    obtain ⟨kept,later⟩ := ih next' rest
    refine ⟨fun other m was => kept other m (keep s u a items other m next first was),?_⟩
    intro d hd
    rcases List.mem_cons.mp hd with rfl | hd
    · exact kept _ _ done
    · exact later d (room' ▸ hd)

section Optimality
variable [IsOrderedAddMonoid M]

theorem sum_taken_le {room : M} (h : 0 ≤ room) (items : List α) :
    ((taken size room items).map size).sum ≤ room := by
  induction items generalizing room with
  | nil => simpa using h
  | cons a items ih =>
    by_cases fits : size a ≤ room
    · rw [taken_fits items fits,List.map_cons,List.sum_cons]
      have rest := ih (sub_nonneg.mpr fits)
      exact le_sub_iff_add_le'.mp rest
    · rw [taken_skips items fits]
      exact ih h

/-- When even the smallest item does not fit, nothing does. -/
theorem eq_nil_of_sum_le {room : M} {chosen : List α}
    (positive : ∀ b ∈ chosen, 0 ≤ size b) (large : ∀ b ∈ chosen, room < size b)
    (h : (chosen.map size).sum ≤ room) : chosen = [] := by
  cases chosen with
  | nil => rfl
  | cons b chosen =>
    rw [List.map_cons,List.sum_cons] at h
    have rest : 0 ≤ (chosen.map size).sum := by
      refine List.sum_nonneg fun m hm => ?_
      obtain ⟨c,hc,rfl⟩ := List.mem_map.mp hm
      exact positive c (List.mem_cons_of_mem b hc)
    have : room < room :=
      (large b (List.mem_cons_self ..)).trans_le ((le_add_of_nonneg_right rest).trans h)
    exact absurd this (lt_irrefl room)

theorem length_le_taken {items : List α} (ascending : items.Pairwise fun a b => size a ≤ size b)
    (positive : ∀ a ∈ items, 0 ≤ size a) {room : M} {chosen : List α}
    (sub : chosen.Sublist items) (h : (chosen.map size).sum ≤ room) :
    chosen.length ≤ (taken size room items).length := by
  induction items generalizing room chosen with
  | nil =>
    rw [List.sublist_nil.mp sub]
    exact le_rfl
  | cons a items ih =>
    obtain ⟨first,ascending⟩ := List.pairwise_cons.mp ascending
    have positive' : ∀ b ∈ items, 0 ≤ size b := fun b hb => positive b (List.mem_cons_of_mem a hb)
    by_cases fits : size a ≤ room
    · rw [taken_fits items fits,List.length_cons]
      cases chosen with
      | nil => exact Nat.zero_le _
      | cons b chosen =>
        rw [List.map_cons,List.sum_cons] at h
        -- The first choice is no smaller than `a`, so the others fit beside `a` too.
        have smallest : size a ≤ size b := by
          rcases List.mem_cons.mp (sub.subset (List.mem_cons_self ..)) with rfl | hb
          · exact le_rfl
          · exact first b hb
        have rest : chosen.Sublist items := by
          cases sub with
          | cons _ sub => exact (List.sublist_cons_self b chosen).trans sub
          | cons_cons _ sub => exact sub
        refine Nat.succ_le_succ (ih ascending positive' rest ?_)
        exact le_sub_iff_add_le'.mpr ((add_le_add_left smallest _).trans h)
    · have large : ∀ b ∈ chosen, room < size b := fun b hb => by
        rcases List.mem_cons.mp (sub.subset hb) with rfl | hb
        · exact not_le.mp fits
        · exact (not_le.mp fits).trans_le (first b hb)
      rw [eq_nil_of_sum_le (fun b hb => positive b (sub.subset hb)) large h]
      exact Nat.zero_le _

/-- Smallest first, no selection of the items within the room has more of them. -/
theorem taken_optimal {items : List α} (ascending : items.Pairwise fun a b => size a ≤ size b)
    (positive : ∀ a ∈ items, 0 ≤ size a) {room : M} {chosen : List α}
    (sub : chosen.Subperm items) (h : (chosen.map size).sum ≤ room) :
    chosen.length ≤ (taken size room items).length := by
  obtain ⟨same,perm,sub⟩ := sub
  rw [← perm.length_eq]
  exact length_le_taken ascending positive sub (((perm.map size).sum_eq).trans_le h)

end Optimality

end Greedy

end EnergyNode.Lib
