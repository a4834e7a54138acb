import Mathlib.Data.Option.Basic

/-! A program in a database session. What it writes is in the open transaction
until a commit stores it; any of its calls may raise. -/
namespace EnergyNode.Lib

/-- What is stored, and what the open transaction has made of it. -/
structure Session (σ : Type) where
  stored : σ
  working : σ

/-- The call that raises, and what its transaction holds by then. -/
structure Outage (ι σ : Type) where
  point : ι
  torn : σ

/-- Where a program ends: its session, with its result or the error it raised. -/
abbrev Ended (ε σ α : Type) := Session σ × Except ε α

namespace Session
variable {ι σ ε α β : Type}

def opened (s : σ) : Session σ := ⟨s,s⟩

def write (s : Session σ) (f : σ → σ) : Session σ := { s with working := f s.working }

def commit (s : Session σ) : Session σ := { s with stored := s.working }

def rollback (s : Session σ) : Session σ := { s with working := s.stored }

@[simp] theorem stored_write (s : Session σ) (f : σ → σ) : (s.write f).stored = s.stored := rfl

@[simp] theorem working_write (s : Session σ) (f : σ → σ) : (s.write f).working = f s.working := rfl

@[simp] theorem stored_commit (s : Session σ) : s.commit.stored = s.working := rfl

@[simp] theorem working_commit (s : Session σ) : s.commit.working = s.working := rfl

@[simp] theorem stored_rollback (s : Session σ) : s.rollback.stored = s.stored := rfl

/-- A call to the database, and the program that follows when it does not raise. -/
def call [DecidableEq ι] (outage : Option (Outage ι σ)) (point : ι) (fault : ε) (s : Session σ)
    (next : Session σ → Ended ε σ α) : Ended ε σ α :=
  match outage.filter fun o => o.point = point with
  | some o => ({ s with working := o.torn },.error fault)
  | none => next s

/-- A program that raises has stored nothing one can see. -/
def Atomic (view : σ → β) (s : Session σ) (ended : Ended ε σ α) : Prop :=
  ∀ e, ended.2 = .error e → view ended.1.stored = view s.stored

section Calls
variable [DecidableEq ι] {outage : Option (Outage ι σ)} {point : ι} {fault : ε} {s : Session σ}
  {next : Session σ → Ended ε σ α}

theorem call_none : call none point fault s next = next s := rfl

theorem call_other {o : Outage ι σ} (h : o.point ≠ point) : call (some o) point fault s next = next s := by
  unfold call
  rw [Option.filter_some_neg (by simpa using h)]

theorem call_raises {torn : σ} :
    call (some ⟨point,torn⟩) point fault s next = ({ s with working := torn },.error fault) := by
  unfold call
  rw [Option.filter_some_pos (by simp)]

section Views
variable {view : σ → β}

theorem Atomic.call (h : Atomic view s (next s)) : Atomic view s (call outage point fault s next) := by
  unfold Session.call
  split
  · intro _ _
    rfl
  · exact h

theorem atomic_raise (s : Session σ) (e : ε) : Atomic view s ((s,.error e) : Ended ε σ α) := fun _ _ => rfl

theorem atomic_done (s t : Session σ) (a : α) : Atomic view s ((t,.ok a) : Ended ε σ α) :=
  fun _ h => nomatch h

end Views

end Calls

end Session

end EnergyNode.Lib
