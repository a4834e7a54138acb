import Mathlib.Logic.Relation

/-! Runs of a deterministic labelled system: what one step preserves, under a
condition on the steps taken, every state of the run has. -/
namespace EnergyNode.Lib

variable {σ ι : Type} (step : σ → ι → σ)

def run (s : σ) (labels : List ι) : σ := labels.foldl step s

@[simp] theorem run_nil (s : σ) : run step s [] = s := rfl

@[simp] theorem run_cons (s : σ) (a : ι) (l : List ι) :
    run step s (a :: l) = run step (step s a) l := rfl

theorem run_append (s : σ) (l m : List ι) : run step s (l ++ m) = run step (run step s l) m :=
  List.foldl_append

/-- Every step of the run is taken under `P`. -/
def Along (P : σ → ι → Prop) : σ → List ι → Prop
  | _, [] => True
  | s, a :: l => P s a ∧ Along P (step s a) l

/-- Every state of the run, the first and the last included, has `Q`. -/
def Always (Q : σ → Prop) : σ → List ι → Prop
  | s, [] => Q s
  | s, a :: l => Q s ∧ Always Q (step s a) l

variable {step} {P : σ → ι → Prop} {Q : σ → Prop}

instance decidableAlong [∀ s a, Decidable (P s a)] : ∀ s l, Decidable (Along step P s l)
  | _, [] => inferInstanceAs (Decidable True)
  | s, a :: l =>
      let _ := decidableAlong (step s a) l
      inferInstanceAs (Decidable (P s a ∧ Along step P (step s a) l))

instance decidableAlways [DecidablePred Q] : ∀ s l, Decidable (Always step Q s l)
  | s, [] => inferInstanceAs (Decidable (Q s))
  | s, a :: l =>
      let _ := decidableAlways (step s a) l
      inferInstanceAs (Decidable (Q s ∧ Always step Q (step s a) l))

theorem Along.mono {P' : σ → ι → Prop} (h : ∀ s a, P s a → P' s a) {s : σ} {l : List ι}
    (hl : Along step P s l) : Along step P' s l := by
  induction l generalizing s with
  | nil => trivial
  | cons a l ih => exact ⟨h s a hl.1,ih hl.2⟩

theorem Along.and {P' : σ → ι → Prop} {s : σ} {l : List ι} (h : Along step P s l)
    (h' : Along step P' s l) : Along step (fun s a => P s a ∧ P' s a) s l := by
  induction l generalizing s with
  | nil => trivial
  | cons a l ih => exact ⟨⟨h.1,h'.1⟩,ih h.2 h'.2⟩

theorem along_append {s : σ} {l m : List ι} :
    Along step P s (l ++ m) ↔ Along step P s l ∧ Along step P (run step s l) m := by
  induction l generalizing s with
  | nil => simp [Along]
  | cons a l ih =>
    show P s a ∧ Along step P (step s a) (l ++ m) ↔ (P s a ∧ Along step P (step s a) l) ∧ _
    rw [ih,run_cons,and_assoc]

theorem along_true (s : σ) (l : List ι) : Along step (fun _ _ => True) s l := by
  induction l generalizing s with
  | nil => trivial
  | cons a l ih => exact ⟨trivial,ih _⟩

theorem along_of_mem {P : ι → Prop} {s : σ} {l : List ι} (h : ∀ a ∈ l, P a) :
    Along step (fun _ a => P a) s l := by
  induction l generalizing s with
  | nil => trivial
  | cons a l ih =>
    exact ⟨h a List.mem_cons_self,ih fun b later => h b (List.mem_cons_of_mem a later)⟩

theorem Always.start {s : σ} {l : List ι} (h : Always step Q s l) : Q s := by
  cases l with
  | nil => exact h
  | cons a l => exact h.1

theorem Always.final {s : σ} {l : List ι} (h : Always step Q s l) : Q (run step s l) := by
  induction l generalizing s with
  | nil => exact h
  | cons a l ih => exact ih h.2

theorem Always.mono {Q' : σ → Prop} (h : ∀ s, Q s → Q' s) {s : σ} {l : List ι}
    (hl : Always step Q s l) : Always step Q' s l := by
  induction l generalizing s with
  | nil => exact h s hl
  | cons a l ih => exact ⟨h s hl.1,ih hl.2⟩

theorem Always.and {Q' : σ → Prop} {s : σ} {l : List ι} (h : Always step Q s l)
    (h' : Always step Q' s l) : Always step (fun s => Q s ∧ Q' s) s l := by
  induction l generalizing s with
  | nil => exact ⟨h,h'⟩
  | cons a l ih => exact ⟨⟨h.1,h'.1⟩,ih h.2 h'.2⟩

/-- The invariant rule. -/
theorem always_of_step (h : ∀ s a, Q s → P s a → Q (step s a)) {s : σ} {l : List ι}
    (hs : Q s) (hl : Along step P s l) : Always step Q s l := by
  induction l generalizing s with
  | nil => exact hs
  | cons a l ih => exact ⟨hs,ih (h s a hs hl.1) hl.2⟩

/-- A step property that holds where the invariant does holds along the run. -/
theorem along_of_always (h : ∀ s a, Q s → Q (step s a) → P s a) {s : σ} {l : List ι}
    (hl : Always step Q s l) : Along step P s l := by
  induction l generalizing s with
  | nil => trivial
  | cons a l ih => exact ⟨h s a hl.1 (Always.start hl.2),ih hl.2⟩

/-- Conditions that agree where the invariant holds agree along the run. -/
theorem along_congr {P' : σ → ι → Prop} (h : ∀ s a, Q s → (P s a ↔ P' s a)) {s : σ} {l : List ι}
    (hl : Always step Q s l) : Along step P s l ↔ Along step P' s l := by
  induction l generalizing s with
  | nil => rfl
  | cons a l ih => exact and_congr (h s a hl.1) (ih hl.2)

/-- A reflexive and transitive relation that every step respects relates the
ends of a run. -/
theorem run_related (R : σ → σ → Prop) (refl : ∀ s, R s s)
    (trans : ∀ {a b c}, R a b → R b c → R a c)
    (h : ∀ s a, Q s → P s a → R s (step s a)) {s : σ} {l : List ι}
    (hq : Always step Q s l) (hl : Along step P s l) : R s (run step s l) := by
  induction l generalizing s with
  | nil => exact refl s
  | cons a l ih => exact trans (h s a hq.1 hl.1) (ih hq.2 hl.2)

end EnergyNode.Lib
