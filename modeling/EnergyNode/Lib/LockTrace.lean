import Mathlib.Logic.Basic

/-! The locks of database sessions. A program is traced by what it sends: the
locks its statements take, the end of its transaction, which gives them all
back, and its calls to somebody else. -/
namespace EnergyNode.Lib

/-- A commit and a rollback give the locks back alike. -/
inductive Op (ι κ : Type) where
  | take (locks : List ι)
  | finish
  | call (ask : κ)
deriving DecidableEq

namespace Op
variable {ι κ : Type}

def after (held : List ι) : Op ι κ → List ι
  | take locks => held ++ locks
  | finish => []
  | call _ => held

/-- What is held once the operations were sent. -/
def heldAfter (held : List ι) (ops : List (Op ι κ)) : List ι := ops.foldl after held

/-- The same, read along the operations. -/
def UnlockedFrom (held : List ι) : List (Op ι κ) → Prop
  | [] => True
  | take locks :: ops => UnlockedFrom (held ++ locks) ops
  | finish :: ops => UnlockedFrom [] ops
  | call _ :: ops => held = [] ∧ UnlockedFrom held ops

theorem unlockedFrom_cons {held : List ι} {op : Op ι κ} {ops : List (Op ι κ)} :
    UnlockedFrom held (op :: ops) ↔
      ((∃ ask, op = call ask) → held = []) ∧ UnlockedFrom (after held op) ops := by
  cases op with
  | take locks => simp [UnlockedFrom,after]
  | finish => simp [UnlockedFrom,after]
  | call ask => simp [UnlockedFrom,after]

theorem unlockedFrom_iff {held : List ι} {ops : List (Op ι κ)} :
    UnlockedFrom held ops ↔
      ∀ before ask later, ops = before ++ call ask :: later → heldAfter held before = [] := by
  induction ops generalizing held with
  | nil => simp [UnlockedFrom]
  | cons op ops ih =>
    rw [unlockedFrom_cons,ih]
    constructor
    · rintro ⟨first,rest⟩ before ask later h
      cases before with
      | nil =>
        cases h
        exact first ⟨ask,rfl⟩
      | cons _ before =>
        cases h
        exact rest before ask later rfl
    · intro all
      refine ⟨?_,fun before ask later h => all (op :: before) ask later (by rw [h]; rfl)⟩
      rintro ⟨ask,rfl⟩
      exact all [] ask ops rfl

theorem heldAfter_append (held : List ι) (xs ys : List (Op ι κ)) :
    heldAfter held (xs ++ ys) = heldAfter (heldAfter held xs) ys := List.foldl_append

theorem unlockedFrom_append {held : List ι} {xs ys : List (Op ι κ)} :
    UnlockedFrom held (xs ++ ys) ↔ UnlockedFrom held xs ∧ UnlockedFrom (heldAfter held xs) ys := by
  induction xs generalizing held with
  | nil => simp [UnlockedFrom,heldAfter]
  | cons op xs ih =>
    rw [List.cons_append,unlockedFrom_cons,unlockedFrom_cons,ih,and_assoc]
    rfl

/-- Statements of one transaction, with no call among them. -/
def Quiet (ops : List (Op ι κ)) : Prop := ∀ ask, call ask ∉ ops

theorem Quiet.unlocked {ops : List (Op ι κ)} (h : Quiet ops) (held : List ι) :
    UnlockedFrom held ops := by
  rw [unlockedFrom_iff]
  rintro before ask later rfl
  exact absurd (List.mem_append_right before (List.mem_cons_self ..)) (h ask)

theorem Quiet.append {xs ys : List (Op ι κ)} (h : Quiet xs) (k : Quiet ys) : Quiet (xs ++ ys) :=
  fun ask mem => (List.mem_append.mp mem).elim (h ask) (k ask)

end Op

/-- A program with what it sent, up to its result or to the error it raised. -/
structure Traced (ι κ ε α : Type) where
  ops : List (Op ι κ)
  result : Except ε α

namespace Traced
variable {ι κ ε α β : Type}

def bind (x : Traced ι κ ε α) (f : α → Traced ι κ ε β) : Traced ι κ ε β :=
  match x.result with
  | .ok a => ⟨x.ops ++ (f a).ops,(f a).result⟩
  | .error e => ⟨x.ops,.error e⟩

instance : Monad (Traced ι κ ε) where
  pure a := ⟨[],.ok a⟩
  bind := bind

def take (locks : List ι) : Traced ι κ ε Unit := ⟨[.take locks],.ok ()⟩

def call (ask : κ) : Traced ι κ ε Unit := ⟨[.call ask],.ok ()⟩

/-- A computation without statements of its own. -/
def lift (x : Except ε α) : Traced ι κ ε α := ⟨[],x⟩

def commit : Traced ι κ ε Unit := ⟨[.finish],.ok ()⟩

/-- The program with the commit at its end. -/
def transaction (x : Traced ι κ ε α) : Traced ι κ ε α := do
  let a ← x
  commit
  return a

/-- A session closed at its end, whether it raised or not. -/
def closing (x : Traced ι κ ε α) : Traced ι κ ε Unit := ⟨x.ops ++ [.finish],.ok ()⟩

/-- Its calls go out while nothing is held, and it leaves nothing held. -/
structure Clean (x : Traced ι κ ε α) : Prop where
  unlocked : Op.UnlockedFrom [] x.ops
  ends : ∀ a, x.result = .ok a → Op.heldAfter [] x.ops = []

def Quiet (x : Traced ι κ ε α) : Prop := Op.Quiet x.ops

theorem Clean.pure (a : α) : Clean (pure a : Traced ι κ ε α) := ⟨trivial,fun _ _ => rfl⟩

theorem Clean.lift (x : Except ε α) : Clean (lift x : Traced ι κ ε α) := ⟨trivial,fun _ _ => rfl⟩

theorem Clean.call (ask : κ) : Clean (call ask : Traced ι κ ε Unit) :=
  ⟨⟨rfl,trivial⟩,fun _ _ => rfl⟩

theorem Clean.bind {x : Traced ι κ ε α} {f : α → Traced ι κ ε β} (h : Clean x)
    (k : ∀ a, Clean (f a)) : Clean (x >>= f) := by
  change Clean (Traced.bind x f)
  unfold Traced.bind
  cases hx : x.result with
  | error e => exact ⟨h.unlocked,nofun⟩
  | ok a =>
    have free := h.ends a hx
    refine ⟨Op.unlockedFrom_append.mpr ⟨h.unlocked,?_⟩,fun b hb => ?_⟩
    · rw [free]
      exact (k a).unlocked
    · rw [Op.heldAfter_append,free]
      exact (k a).ends b hb

theorem Clean.transaction {x : Traced ι κ ε α} (h : Quiet x) : Clean (transaction x) := by
  change Clean (x.bind fun a => ⟨[.finish],.ok a⟩)
  unfold Traced.bind
  cases x.result with
  | error e => exact ⟨h.unlocked [],nofun⟩
  | ok a =>
    refine ⟨Op.unlockedFrom_append.mpr ⟨h.unlocked [],trivial⟩,fun _ _ => ?_⟩
    rw [Op.heldAfter_append]
    rfl

theorem Clean.closing {x : Traced ι κ ε α} (h : Op.UnlockedFrom [] x.ops) : Clean (closing x) := by
  refine ⟨Op.unlockedFrom_append.mpr ⟨h,trivial⟩,fun _ _ => ?_⟩
  unfold Traced.closing
  rw [Op.heldAfter_append]
  rfl

theorem Quiet.pure (a : α) : Quiet (pure a : Traced ι κ ε α) := fun _ mem => nomatch mem

theorem Quiet.lift (x : Except ε α) : Quiet (lift x : Traced ι κ ε α) := fun _ mem => nomatch mem

theorem Quiet.take (locks : List ι) : Quiet (take locks : Traced ι κ ε Unit) := by
  intro ask mem
  cases List.mem_singleton.mp mem

theorem Quiet.commit : Quiet (commit : Traced ι κ ε Unit) := by
  intro ask mem
  cases List.mem_singleton.mp mem

theorem Quiet.bind {x : Traced ι κ ε α} {f : α → Traced ι κ ε β} (h : Quiet x)
    (k : ∀ a, Quiet (f a)) : Quiet (x >>= f) := by
  change Quiet (Traced.bind x f)
  unfold Traced.bind
  cases x.result with
  | error e => exact h
  | ok a => exact Op.Quiet.append h (k a)

end Traced

end EnergyNode.Lib
