import Mathlib.Data.List.Infix

/-! Elements taken one after another, each only after all that stand before it:
in the order of their first occurrences they are the beginning of the list. -/
namespace EnergyNode.Lib

variable {α β : Type} [DecidableEq α]

/-- An element whose predecessors were all taken is the next one. -/
theorem prefix_snoc {taken all : List α} {a : α} (nodup : all.Nodup) (h : taken <+: all)
    (mem : a ∈ all) (fresh : a ∉ taken) (before : ∀ b ∈ all.takeWhile (· ≠ a), b ∈ taken) :
    taken ++ [a] <+: all := by
  obtain ⟨rest,rfl⟩ := h
  have passed : (taken ++ rest).takeWhile (· ≠ a) = taken ++ rest.takeWhile (· ≠ a) :=
    List.takeWhile_append_of_pos fun b hb => by simpa using fun e : b = a => fresh (e ▸ hb)
  have mem : a ∈ rest := (List.mem_append.mp mem).resolve_left fresh
  cases rest with
  | nil => cases mem
  | cons b rest =>
    by_cases same : b = a
    · subst same
      exact ⟨rest,by rw [List.append_assoc,List.singleton_append]⟩
    · have again : b ∈ taken := by
        apply before
        rw [passed,List.takeWhile_cons_of_pos (by simpa using same)]
        exact List.mem_append_right _ (List.mem_cons_self ..)
      exact absurd rfl ((List.nodup_append.mp nodup).2.2 b again b (List.mem_cons_self ..))

/-- The first occurrences of the elements that count, in order. -/
def firsts (counts : List α) (log : List α) : List α := (log.filter (· ∈ counts)).eraseDups

theorem mem_firsts {counts log : List α} {a : α} : a ∈ firsts counts log ↔ a ∈ log ∧ a ∈ counts := by
  unfold firsts
  rw [List.mem_eraseDups,List.mem_filter,decide_eq_true_eq]

theorem firsts_snoc (counts log : List α) (a : α) :
    firsts counts (log ++ [a]) =
      if a ∈ counts ∧ a ∉ log then firsts counts log ++ [a] else firsts counts log := by
  unfold firsts
  rw [List.filter_append,List.eraseDups_append]
  by_cases hc : a ∈ counts
  · have one : [a].eraseDups = [a] := rfl
    by_cases hl : a ∈ log <;> simp [List.removeAll,hc,hl,one]
  · simp [List.removeAll,hc]

theorem nodup_firsts {counts log : List α} : (firsts counts log).Nodup := by
  induction log using List.reverseRecOn with
  | nil => exact List.nodup_nil
  | append_singleton log a ih =>
    rw [firsts_snoc]
    split
    · rename_i new
      refine List.nodup_append.mpr ⟨ih,List.pairwise_singleton _ a,?_⟩
      rintro b old c hc rfl
      cases List.mem_singleton.mp hc
      exact new.2 (mem_firsts.mp old).1
    · exact ih

/-- What counts in addition was not taken yet. -/
theorem firsts_append {counts more log : List α} (h : ∀ a ∈ more, a ∉ log) :
    firsts (counts ++ more) log = firsts counts log := by
  unfold firsts
  congr 1
  apply List.filter_congr
  intro a ha
  have : a ∉ more := fun hm => h a hm ha
  simp [this]

/-- One more element, when all that stand before it were taken. -/
theorem prefix_firsts_snoc {all log : List α} {a : α} (nodup : all.Nodup)
    (h : firsts all log <+: all) (before : a ∈ all → ∀ b ∈ all.takeWhile (· ≠ a), b ∈ log) :
    firsts all (log ++ [a]) <+: all := by
  rw [firsts_snoc]
  split
  · rename_i new
    refine prefix_snoc nodup h new.1 (fun ha => new.2 (mem_firsts.mp ha).1) fun b hb => ?_
    exact mem_firsts.mpr ⟨before new.1 b hb,(List.takeWhile_prefix _).subset hb⟩
  · exact h

/-- What is appended stands behind. -/
theorem takeWhile_append {l m : List α} {a : α} (h : a ∈ l) :
    (l ++ m).takeWhile (· ≠ a) = l.takeWhile (· ≠ a) := by
  induction l with
  | nil => cases h
  | cons b l ih =>
    rw [List.cons_append]
    by_cases same : b = a
    · rw [List.takeWhile_cons_of_neg (by simpa using same),
        List.takeWhile_cons_of_neg (by simpa using same)]
    · rw [List.takeWhile_cons_of_pos (by simpa using same),
        List.takeWhile_cons_of_pos (by simpa using same),
        ih ((List.mem_cons.mp h).resolve_left (Ne.symm same))]

/-- What stands before `k` among the selected stood before it among all. -/
theorem mem_takeWhile_select {f : β → α} {p : β → Bool} {k a : α} {l : List β}
    (own : ∀ b ∈ l, f b = k → p b) (h : a ∈ ((l.filter p).map f).takeWhile (· ≠ k)) :
    ∃ b ∈ l.takeWhile fun b => f b ≠ k, p b ∧ f b = a := by
  induction l with
  | nil => cases h
  | cons b l ih =>
    by_cases same : f b = k
    · rw [List.filter_cons_of_pos (own b (List.mem_cons_self ..) same),List.map_cons,
        List.takeWhile_cons_of_neg (by simpa using same)] at h
      cases h
    · rw [List.takeWhile_cons_of_pos (by simpa using same)]
      by_cases hp : p b
      · rw [List.filter_cons_of_pos hp,List.map_cons,
          List.takeWhile_cons_of_pos (by simpa using same)] at h
        rcases List.mem_cons.mp h with rfl | h
        · exact ⟨b,List.mem_cons_self ..,hp,rfl⟩
        · obtain ⟨c,hc,rest⟩ := ih (fun b hb => own b (List.mem_cons_of_mem _ hb)) h
          exact ⟨c,List.mem_cons_of_mem _ hc,rest⟩
      · rw [List.filter_cons_of_neg hp] at h
        obtain ⟨c,hc,rest⟩ := ih (fun b hb => own b (List.mem_cons_of_mem _ hb)) h
        exact ⟨c,List.mem_cons_of_mem _ hc,rest⟩

/-- Of the elements a filter selects, an earlier one is among the first when a later one is. -/
theorem mem_take_of_find? {γ : Type} {l : List γ} {p q : γ → Bool} {n : Nat} {a b : γ}
    (first : l.find? p = some a) (hb : b ∈ (l.filter q).take n) (pb : p b) (qa : q a) :
    a ∈ (l.filter q).take n := by
  induction l generalizing n with
  | nil => cases first
  | cons c l ih =>
    rw [List.find?_cons] at first
    rw [List.filter_cons] at hb ⊢
    cases pc : p c with
    | true =>
      rw [pc] at first
      cases first
      rw [if_pos qa] at hb ⊢
      cases n with
      | zero => cases hb
      | succ n => exact List.mem_cons_self ..
    | false =>
      rw [pc] at first
      by_cases qc : q c
      · rw [if_pos qc] at hb ⊢
        cases n with
        | zero => cases hb
        | succ n =>
          rw [List.take_succ_cons] at hb ⊢
          rcases List.mem_cons.mp hb with rfl | hb
          · rw [pb] at pc
            cases pc
          · exact List.mem_cons_of_mem c (ih first hb)
      · rw [if_neg qc] at hb ⊢
        exact ih first hb

end EnergyNode.Lib
