import Mathlib.Logic.Basic

/-! Computations that may fail: a successful one comes apart into its
successful parts, and a loop preserves what each of its turns does. -/
namespace EnergyNode.Lib

variable {ε α β γ : Type}

namespace Fallible

theorem bind_ok {x : Except ε α} {f : α → Except ε β} {b : β} :
    x >>= f = .ok b ↔ ∃ a, x = .ok a ∧ f a = .ok b := by
  cases x with
  | error e =>
    constructor
    · intro h
      cases h
    · rintro ⟨a,h,_⟩
      cases h
  | ok a =>
    constructor
    · intro h
      exact ⟨a,rfl,h⟩
    · rintro ⟨a',h,k⟩
      cases h
      exact k

@[simp] theorem pure_ok {a b : α} : (pure a : Except ε α) = .ok b ↔ a = b := by
  constructor
  · intro h
    cases h
    rfl
  · rintro rfl
    rfl

@[simp] theorem throw_ok {e : ε} {b : α} : (throw e : Except ε α) = .ok b ↔ False := by
  constructor
  · intro h
    cases h
  · exact False.elim

@[simp] theorem throw_bind (e : ε) (f : α → Except ε β) :
    (throw e >>= f) = (throw e : Except ε β) := rfl

@[simp] theorem ok_bind (a : α) (f : α → Except ε β) : (Except.ok a >>= f) = f a := rfl

theorem map_ok {x : Except ε α} {f : α → β} {b : β} :
    x.map f = .ok b ↔ ∃ a, x = .ok a ∧ f a = b := by
  cases x with
  | error e => simp [Except.map]
  | ok a => simp [Except.map]

/-- A sequence fails where one of its parts does. -/
theorem bind_fault {x : Except ε α} {f : α → Except ε β} {e : ε} :
    x >>= f = .error e ↔ x = .error e ∨ ∃ a, x = .ok a ∧ f a = .error e := by
  cases x with
  | error e' =>
    constructor
    · intro h
      cases h
      exact .inl rfl
    · rintro (h | ⟨a,h,_⟩)
      · cases h
        rfl
      · cases h
  | ok a =>
    constructor
    · intro h
      exact .inr ⟨a,rfl,h⟩
    · rintro (h | ⟨a',h,k⟩)
      · cases h
      · cases h
        exact k

theorem map_fault {x : Except ε α} {f : α → β} {e : ε} : x.map f = .error e ↔ x = .error e := by
  cases x <;> simp [Except.map]

/-- A check that must hold. -/
theorem require_ok {p : Prop} [Decidable p] {e : ε} {x : Except ε α} {b : α} :
    (if p then x else throw e) = .ok b ↔ p ∧ x = .ok b := by
  by_cases h : p <;> simp [h]

/-- A check that must fail. -/
theorem refuse_ok {p : Prop} [Decidable p] {e : ε} {x : Except ε α} {b : α} :
    (if p then throw e else x) = .ok b ↔ ¬ p ∧ x = .ok b := by
  by_cases h : p <;> simp [h]

/-- A check at the head of a sequence that must hold. -/
theorem unless_ok {p : Prop} [Decidable p] {e : ε} {rest : Unit → Except ε α} {b : α} :
    (if p then rest () else throw e >>= rest) = .ok b ↔ p ∧ rest () = .ok b := by
  by_cases h : p <;> simp [h]

/-- A check at the head of a sequence that must fail. -/
theorem when_ok {p : Prop} [Decidable p] {e : ε} {rest : Unit → Except ε α} {b : α} :
    (if p then throw e >>= rest else rest ()) = .ok b ↔ ¬ p ∧ rest () = .ok b := by
  by_cases h : p <;> simp [h]

theorem guard_some {p : Prop} [Decidable p] {u : Unit} :
    (guard p : Option Unit) = some u ↔ p := by
  unfold guard
  split
  · rename_i hp
    exact ⟨fun _ => hp,fun _ => rfl⟩
  · rename_i hp
    exact ⟨fun h => (nomatch h),fun h => absurd h hp⟩

/-- A loop relates its ends as each of its turns does. -/
theorem foldlM_rel (R : β → β → Prop) (refl : ∀ s, R s s)
    (trans : ∀ {a b c}, R a b → R b c → R a c) (f : β → α → Except ε β)
    (h : ∀ s a t, f s a = .ok t → R s t) (l : List α) {s t : β} (hl : l.foldlM f s = .ok t) :
    R s t := by
  induction l generalizing s with
  | nil =>
    rw [List.foldlM_nil,pure_ok] at hl
    exact hl ▸ refl s
  | cons a l ih =>
    rw [List.foldlM_cons] at hl
    obtain ⟨u,hu,ht⟩ := bind_ok.mp hl
    exact trans (h s a u hu) (ih ht)

end Fallible

end EnergyNode.Lib
