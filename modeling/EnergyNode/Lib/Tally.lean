import Mathlib.Algebra.BigOperators.Group.List.Basic
import Mathlib.Data.List.AList

/-! Totals of a list by key, as an accumulating loop builds them. -/
namespace EnergyNode.Lib

variable {κ α M : Type} [DecidableEq κ]

abbrev Tally (κ M : Type) := AList fun _ : κ => M

namespace Tally

/-- The keys of two tallies, each once. -/
def allKeys (t u : Tally κ M) : List κ := t.keys ∪ u.keys

theorem mem_allKeys {t u : Tally κ M} {k : κ} : k ∈ allKeys t u ↔ k ∈ t ∨ k ∈ u := by
  unfold allKeys
  rw [List.mem_union_iff,AList.mem_keys,AList.mem_keys]

/-- Adds to the total of a key; a new key starts from zero. -/
def credit [AddMonoid M] (t : Tally κ M) (k : κ) (x : M) : Tally κ M :=
  t.insert k ((t.lookup k).getD 0 + x)

variable [AddMonoid M] (key : α → κ) (amount : α → M)

def total (l : List α) (k : κ) : M := ((l.filter fun a => key a = k).map amount).sum

def tally (l : List α) : Tally κ M := l.foldl (fun t a => t.credit (key a) (amount a)) ∅

theorem lookup_credit (t : Tally κ M) (k l : κ) (x : M) :
    (t.credit k x).lookup l = if k = l then some ((t.lookup k).getD 0 + x) else t.lookup l := by
  unfold credit
  split
  · rename_i same
    subst same
    exact AList.lookup_insert t
  · rename_i apart
    exact AList.lookup_insert_ne fun same => apart same.symm

theorem total_cons (a : α) (l : List α) (k : κ) :
    total key amount (a :: l) k = if key a = k then amount a + total key amount l k
      else total key amount l k := by
  unfold total
  rw [List.filter_cons]
  by_cases same : key a = k
  · rw [if_pos (by simpa using same),if_pos same,List.map_cons,List.sum_cons]
  · rw [if_neg (by simpa using same),if_neg same]

theorem total_of_absent {l : List α} {k : κ} (absent : ∀ a ∈ l, key a ≠ k) :
    total key amount l k = 0 := by
  unfold total
  rw [List.filter_eq_nil_iff.mpr fun a ha => by simpa using absent a ha,List.map_nil,List.sum_nil]

theorem total_append (l m : List α) (k : κ) :
    total key amount (l ++ m) k = total key amount l k + total key amount m k := by
  unfold total
  rw [List.filter_append,List.map_append,List.sum_append]

theorem total_flatMap {β : Type} (f : β → List α) (l : List β) (k : κ) :
    total key amount (l.flatMap f) k = (l.map fun b => total key amount (f b) k).sum := by
  induction l with
  | nil => rfl
  | cons b l ih => rw [List.flatMap_cons,total_append,ih,List.map_cons,List.sum_cons]

/-- Amounts of zero do not count. -/
theorem total_filter_ne_zero [DecidableEq M] (l : List α) (k : κ) :
    total key amount (l.filter fun a => amount a ≠ 0) k = total key amount l k := by
  induction l with
  | nil => rfl
  | cons a l ih =>
    rw [List.filter_cons,total_cons]
    by_cases still : amount a = 0
    · rw [if_neg (by simpa using still),ih,still,zero_add,ite_self]
    · rw [if_pos (by simpa using still),total_cons,ih]

/-- The loop leaves under each key what was there and the total of the list. -/
theorem lookup_foldl (l : List α) (t : Tally κ M) (k : κ) :
    (l.foldl (fun t a => t.credit (key a) (amount a)) t).lookup k =
      if (∃ a ∈ l, key a = k) then some ((t.lookup k).getD 0 + total key amount l k)
      else t.lookup k := by
  induction l generalizing t with
  | nil => simp
  | cons a l ih =>
    rw [List.foldl_cons,ih,lookup_credit,total_cons]
    by_cases same : key a = k
    · subst same
      have here : ∃ b ∈ a :: l, key b = key a := ⟨a,List.mem_cons_self ..,rfl⟩
      rw [if_pos rfl,if_pos rfl,if_pos here]
      split
      · rw [Option.getD_some,add_assoc]
      · rename_i none_
        have absent : ∀ b ∈ l, key b ≠ key a := fun b hb h => none_ ⟨b,hb,h⟩
        rw [total_of_absent key amount absent,add_zero]
    · rw [if_neg same,if_neg same]
      have tail : (∃ b ∈ a :: l, key b = k) ↔ ∃ b ∈ l, key b = k := by
        constructor
        · rintro ⟨b,hb,h⟩
          rcases List.mem_cons.mp hb with rfl | hb
          · exact absurd h same
          · exact ⟨b,hb,h⟩
        · rintro ⟨b,hb,h⟩
          exact ⟨b,List.mem_cons_of_mem a hb,h⟩
      simp only [tail]

/-- A key is present exactly when an element has it, with the total of these. -/
theorem lookup_tally (l : List α) (k : κ) :
    (tally key amount l).lookup k =
      if ∃ a ∈ l, key a = k then some (total key amount l k) else none := by
  unfold tally
  rw [lookup_foldl,AList.lookup_empty,Option.getD_none,zero_add]

end Tally

end EnergyNode.Lib
