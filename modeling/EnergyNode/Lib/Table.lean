import Mathlib.Algebra.BigOperators.Group.List.Basic
import Mathlib.Algebra.Order.BigOperators.Group.List
import Mathlib.Data.List.Nodup
import Mathlib.Tactic.Abel

/-! Relational tables: a list of rows in insertion order whose key column is
unique by construction. Lookups, insertions and row updates never revisit
that uniqueness, and a column total moves by exactly the changed row. -/
namespace EnergyNode.Lib

variable {κ α M : Type} {key : α → κ}

structure Table {κ α : Type} (key : α → κ) where
  rows : List α
  nodup : (rows.map key).Nodup

namespace Table

@[ext] theorem ext {t u : Table key} (h : t.rows = u.rows) : t = u := by
  cases t
  cases u
  cases h
  rfl

instance [DecidableEq α] : DecidableEq (Table key) := fun t u =>
  decidable_of_iff (t.rows = u.rows) ⟨ext, fun h => congrArg rows h⟩

instance : Membership α (Table key) := ⟨fun t a => a ∈ t.rows⟩

theorem mem_rows {t : Table key} {a : α} : a ∈ t ↔ a ∈ t.rows := Iff.rfl

def empty : Table key := ⟨[],List.nodup_nil⟩

@[simp] theorem rows_empty : (empty : Table key).rows = [] := rfl

/-- The key column identifies the row. -/
theorem eq_of_key {t : Table key} {a b : α} (ha : a ∈ t) (hb : b ∈ t)
    (h : key a = key b) : a = b :=
  List.inj_on_of_nodup_map t.nodup ha hb h

/-- Updates every row at once; the update may not touch the key column. -/
def mapRows (t : Table key) (f : α → α) (hf : ∀ a, key (f a) = key a) : Table key where
  rows := t.rows.map f
  nodup := by
    rw [List.map_map,show key ∘ f = key from funext hf]
    exact t.nodup

theorem mem_mapRows {t : Table key} {f : α → α} {hf} {b : α} :
    b ∈ t.mapRows f hf ↔ ∃ a ∈ t, f a = b := List.mem_map

section Total
variable [AddCommMonoid M]

/-- The total of a column expression. -/
def sum (t : Table key) (f : α → M) : M := (t.rows.map f).sum

@[simp] theorem sum_empty (f : α → M) : (empty : Table key).sum f = 0 := rfl

theorem sum_congr {t : Table key} {f g : α → M} (h : ∀ a ∈ t, f a = g a) :
    t.sum f = t.sum g := by
  unfold sum
  rw [List.map_congr_left h]

theorem sum_mapRows (t : Table key) (f : α → α) (hf) (g : α → M) :
    (t.mapRows f hf).sum g = t.sum fun a => g (f a) := by
  simp [sum,mapRows,Function.comp_def]

end Total

variable [DecidableEq κ]

def get? (t : Table key) (k : κ) : Option α := t.rows.find? fun a => key a = k

theorem get?_eq_some {t : Table key} {k : κ} {a : α} :
    t.get? k = some a ↔ a ∈ t ∧ key a = k := by
  constructor
  · intro h
    exact ⟨List.mem_of_find?_eq_some h,by simpa using List.find?_some h⟩
  · rintro ⟨ha,rfl⟩
    have hs : (t.get? (key a)).isSome := by
      rw [get?,List.find?_isSome]
      exact ⟨a,ha,by simp⟩
    obtain ⟨b,hb⟩ := Option.isSome_iff_exists.mp hs
    have hk : key b = key a := by simpa using List.find?_some hb
    rw [hb,eq_of_key (List.mem_of_find?_eq_some hb) ha hk]

theorem get?_eq_none {t : Table key} {k : κ} : t.get? k = none ↔ ∀ a ∈ t, key a ≠ k := by
  rw [get?,List.find?_eq_none]
  simp [mem_rows]

theorem key_of_get? {t : Table key} {k : κ} {a : α} (h : t.get? k = some a) : key a = k :=
  (get?_eq_some.mp h).2

theorem mem_of_get? {t : Table key} {k : κ} {a : α} (h : t.get? k = some a) : a ∈ t :=
  (get?_eq_some.mp h).1

theorem get?_of_mem {t : Table key} {a : α} (h : a ∈ t) : t.get? (key a) = some a :=
  get?_eq_some.mpr ⟨h,rfl⟩

@[simp] theorem get?_empty (k : κ) : (empty : Table key).get? k = none := rfl

/-- Appends a row whose key is still free. -/
def insert (t : Table key) (a : α) (free : t.get? (key a) = none) : Table key where
  rows := t.rows ++ [a]
  nodup := by
    rw [List.map_append,List.map_singleton,List.nodup_append]
    refine ⟨t.nodup,List.nodup_singleton _,?_⟩
    rintro k hk l hl rfl
    obtain ⟨b,hb,rfl⟩ := List.mem_map.mp hk
    exact get?_eq_none.mp free b hb (by simpa using hl)

/-- Insertion as a database does it: a repeated key is refused. -/
def insert? (t : Table key) (a : α) : Option (Table key) :=
  if h : t.get? (key a) = none then some (t.insert a h) else none

theorem insert?_eq_some {t u : Table key} {a : α} :
    t.insert? a = some u ↔ ∃ h : t.get? (key a) = none, u = t.insert a h := by
  unfold insert?
  split
  · rename_i h
    simp only [Option.some.injEq]
    exact ⟨fun e => ⟨h,e.symm⟩,fun ⟨_,e⟩ => e.symm⟩
  · rename_i h
    simp [h]

@[simp] theorem rows_insert (t : Table key) (a : α) (h) :
    (t.insert a h).rows = t.rows ++ [a] := rfl

@[simp] theorem mem_insert {t : Table key} {a b : α} {h} :
    b ∈ t.insert a h ↔ b ∈ t ∨ b = a := by
  simp [mem_rows]

theorem get?_insert (t : Table key) (a : α) (h) (k : κ) :
    (t.insert a h).get? k = if key a = k then some a else t.get? k := by
  split
  · rename_i hk
    exact get?_eq_some.mpr ⟨mem_insert.mpr (.inr rfl),hk⟩
  · rename_i hk
    unfold get?
    rw [rows_insert,List.find?_append]
    simp [hk]

/-- Replaces the row that carries the key of `a`; a table without it is left as it is. -/
def set (t : Table key) (a : α) : Table key where
  rows := t.rows.map fun b => if key b = key a then a else b
  nodup := by
    have hk : (t.rows.map fun b => if key b = key a then a else b).map key = t.rows.map key := by
      rw [List.map_map]
      apply List.map_congr_left
      intro b _
      by_cases h : key b = key a <;> simp [h]
    rw [hk]
    exact t.nodup

theorem mem_set {t : Table key} {a b : α} :
    b ∈ t.set a ↔ (b ∈ t ∧ key b ≠ key a) ∨ (b = a ∧ ∃ c ∈ t, key c = key a) := by
  unfold set
  rw [mem_rows,List.mem_map]
  constructor
  · rintro ⟨c,hc,rfl⟩
    by_cases h : key c = key a
    · rw [if_pos h]
      exact .inr ⟨rfl,c,hc,h⟩
    · rw [if_neg h]
      exact .inl ⟨hc,h⟩
  · rintro (⟨hb,h⟩ | ⟨rfl,c,hc,h⟩)
    · exact ⟨b,hb,by rw [if_neg h]⟩
    · exact ⟨c,hc,by rw [if_pos h]⟩

theorem get?_set (t : Table key) (a : α) (k : κ) :
    (t.set a).get? k =
      if key a = k then (t.get? k).map fun _ => a else t.get? k := by
  split
  · rename_i hk
    cases h : t.get? k with
    | none =>
      rw [Option.map_none,get?_eq_none]
      intro b hb
      rcases mem_set.mp hb with ⟨hb,_⟩ | ⟨rfl,c,hc,hck⟩
      · exact get?_eq_none.mp h b hb
      · exact absurd (hck.trans hk) (get?_eq_none.mp h c hc)
    | some b =>
      obtain ⟨hb,hbk⟩ := get?_eq_some.mp h
      exact get?_eq_some.mpr ⟨mem_set.mpr (.inr ⟨rfl,b,hb,hbk.trans hk.symm⟩),hk⟩
  · rename_i hk
    cases h : t.get? k with
    | none =>
      rw [get?_eq_none]
      intro b hb
      rcases mem_set.mp hb with ⟨hb,_⟩ | ⟨rfl,_⟩
      · exact get?_eq_none.mp h b hb
      · exact hk
    | some b =>
      obtain ⟨hb,hbk⟩ := get?_eq_some.mp h
      refine get?_eq_some.mpr ⟨mem_set.mpr (.inl ⟨hb,?_⟩),hbk⟩
      rw [hbk]
      exact fun e => hk e.symm

theorem get?_set_self {t : Table key} {a b : α} (h : t.get? (key a) = some b) :
    (t.set a).get? (key a) = some a := by
  rw [get?_set,if_pos rfl,h,Option.map_some]

theorem get?_set_ne (t : Table key) {a : α} {k : κ} (h : key a ≠ k) :
    (t.set a).get? k = t.get? k := by
  rw [get?_set,if_neg h]

/-- An update of a row outside a filter to one outside it leaves the filter as it was. -/
theorem filter_set {t : Table key} {a b : α} (stored : t.get? (key a) = some b) {p : α → Bool}
    (ha : p a = false) (hb : p b = false) : (t.set a).rows.filter p = t.rows.filter p := by
  have unseen {c : α} (hc : c ∈ t.rows) (h : key c = key a) : p c = false := by
    rw [eq_of_key hc (mem_of_get? stored) (h.trans (key_of_get? stored).symm),hb]
  have same : ∀ c ∈ t.rows, (p ∘ fun c => if key c = key a then a else c) c = p c := by
    intro c hc
    rw [Function.comp_apply]
    split
    · rename_i h
      rw [ha,unseen hc h]
    · rfl
  unfold set
  rw [List.filter_map,List.filter_congr same]
  refine (List.map_congr_left fun c hc => ?_).trans (List.map_id _)
  obtain ⟨hc,seen⟩ := List.mem_filter.mp hc
  refine if_neg fun h => ?_
  rw [unseen hc h] at seen
  cases seen

theorem set_eq_self {t : Table key} {a : α} (h : t.get? (key a) = some a) : t.set a = t := by
  apply ext
  change (t.rows.map fun b => if key b = key a then a else b) = t.rows
  conv_rhs => rw [← List.map_id t.rows]
  apply List.map_congr_left
  intro b hb
  by_cases hk : key b = key a
  · rw [if_pos hk,id_eq]
    exact (eq_of_key hb (mem_of_get? h) hk).symm
  · rw [if_neg hk,id_eq]

theorem get?_mapRows (t : Table key) (f : α → α) (hf) (k : κ) :
    (t.mapRows f hf).get? k = (t.get? k).map f := by
  unfold get? mapRows
  rw [List.find?_map]
  congr 1
  apply congrArg (fun p => t.rows.find? p)
  funext a
  simp [hf]

variable [AddCommMonoid M]

theorem sum_insert (t : Table key) (a : α) (h) (f : α → M) :
    (t.insert a h).sum f = t.sum f + f a := by
  simp [sum]

private theorem sum_replace (l : List α) (hl : (l.map key).Nodup) (a b : α) (hb : b ∈ l)
    (hk : key b = key a) (f : α → M) :
    ((l.map fun c => if key c = key a then a else c).map f).sum + f b =
      (l.map f).sum + f a := by
  induction l with
  | nil => simp at hb
  | cons c l ih =>
    rw [List.map_cons,List.nodup_cons] at hl
    rcases List.mem_cons.mp hb with rfl | hb
    · have rest : (l.map fun c => if key c = key a then a else c) = l := by
        conv_rhs => rw [← List.map_id l]
        apply List.map_congr_left
        intro d hd
        have hne : key d ≠ key a := by
          intro e
          exact hl.1 (List.mem_map.mpr ⟨d,hd,e.trans hk.symm⟩)
        rw [if_neg hne,id_eq]
      simp only [List.map_cons,List.sum_cons,if_pos hk,rest]
      abel
    · have hne : key c ≠ key a := by
        intro e
        exact hl.1 (List.mem_map.mpr ⟨b,hb,hk.trans e.symm⟩)
      have h := ih hl.2 hb
      simp only [List.map_cons,List.sum_cons,if_neg hne]
      rw [add_assoc,h,add_assoc]

/-- Replacing one row moves a total by exactly that row. -/
theorem sum_set {t : Table key} {a b : α} (h : t.get? (key a) = some b) (f : α → M) :
    (t.set a).sum f + f b = t.sum f + f a :=
  sum_replace t.rows t.nodup a b (mem_of_get? h) (key_of_get? h) f

end Table

namespace Table
variable {β ν : Type} [DecidableEq ν] {rowKey : α → ν} {otherKey : β → ν}
  [AddCommMonoid M] [PartialOrder M] [IsOrderedAddMonoid M]

private theorem sum_le_listed (u : List β) (f : α → M) (g : β → M) (l : List α)
    (distinct : (l.map rowKey).Nodup) (nonneg : ∀ b ∈ u, 0 ≤ g b)
    (matched : ∀ a ∈ l, f a ≤ 0 ∨ ∃ b ∈ u, otherKey b = rowKey a ∧ f a ≤ g b) :
    (l.map f).sum ≤ (u.map fun b => if otherKey b ∈ l.map rowKey then g b else 0).sum := by
  induction l with
  | nil => simp
  | cons a l ih =>
    rw [List.map_cons,List.nodup_cons] at distinct
    have rest := ih distinct.2 fun c hc => matched c (List.mem_cons_of_mem _ hc)
    have split : (u.map fun b => if otherKey b ∈ (a :: l).map rowKey then g b else 0).sum =
        (u.map fun b => if otherKey b = rowKey a then g b else 0).sum +
          (u.map fun b => if otherKey b ∈ l.map rowKey then g b else 0).sum := by
      rw [← List.sum_map_add]
      congr 1
      apply List.map_congr_left
      intro b _
      by_cases hb : otherKey b = rowKey a
      · rw [if_pos (by simp [hb]),if_pos hb,if_neg (hb ▸ distinct.1),add_zero]
      · rw [if_neg hb,zero_add]
        simp [hb]
    have own : ∀ x ∈ u.map fun b => if otherKey b = rowKey a then g b else 0, 0 ≤ x := by
      intro x hx
      obtain ⟨b,hb,rfl⟩ := List.mem_map.mp hx
      split_ifs
      · exact nonneg b hb
      · exact le_rfl
    have first : f a ≤ (u.map fun b => if otherKey b = rowKey a then g b else 0).sum := by
      rcases matched a (List.mem_cons_self ..) with negligible | ⟨b,hb,key,le⟩
      · exact negligible.trans (List.sum_nonneg own)
      · refine le.trans (List.single_le_sum own (g b) ?_)
        exact List.mem_map.mpr ⟨b,hb,if_pos key⟩
    rw [List.map_cons,List.sum_cons,split]
    exact add_le_add first rest

/-- Rows that match rows of another table under the same key total no more. -/
theorem sum_le_sum_of_match (t : Table rowKey) (u : Table otherKey) (f : α → M) (g : β → M)
    (nonneg : ∀ b ∈ u, 0 ≤ g b)
    (matched : ∀ a ∈ t, f a ≤ 0 ∨ ∃ b ∈ u, otherKey b = rowKey a ∧ f a ≤ g b) :
    t.sum f ≤ u.sum g := by
  refine (sum_le_listed u.rows f g t.rows t.nodup nonneg matched).trans ?_
  apply List.sum_le_sum
  intro b hb
  split_ifs
  · exact le_rfl
  · exact nonneg b hb

/-! ### Rows that stay -/

section Extends
variable [DecidableEq κ] {t u v : Table key}

/-- Every row is still there as it was. -/
def Extends (t u : Table key) : Prop := ∀ k a, t.get? k = some a → u.get? k = some a

theorem Extends.refl (t : Table key) : t.Extends t := fun _ _ h => h

theorem Extends.trans (h : t.Extends u) (h' : u.Extends v) : t.Extends v :=
  fun k a found => h' k a (h k a found)

theorem extends_insert (t : Table key) (a : α) (free) : t.Extends (t.insert a free) := by
  intro k b found
  rw [get?_insert,if_neg,found]
  rintro rfl
  rw [free] at found
  cases found

theorem extends_insert? {a : α} (h : t.insert? a = some u) : t.Extends u := by
  obtain ⟨free,rfl⟩ := insert?_eq_some.mp h
  exact extends_insert t a free

end Extends

end Table

end EnergyNode.Lib
