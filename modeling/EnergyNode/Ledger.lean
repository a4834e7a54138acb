import EnergyNode.Db
import EnergyNode.Lib.Precision
import Mathlib.Data.List.Sort

/-! The ledger of the city: entries applied once per `(idpk, operation)`, the
materialised balances they move, and the money carried between opened cycles. -/
namespace EnergyNode
open Lib

namespace Ledger

/-- The arguments of `apply_ledger_effect`. -/
structure Effect where
  cycleId : String
  idpk : String
  sourceMsgId : Option String
  operationType : OperationType
  budgetDelta : ℚ
  energyDelta : ℚ
  negotiationId : Option Nat := none
  details : EntryDetails := {}
deriving DecidableEq

/-- A sum of `Decimal`s: the context keeps 28 digits, which hold any cents that a
`Numeric(20,2)` takes. What is too large for the column is left as it is. -/
def plus (a b : ℚ) : ℚ :=
  if |a + b| < 10 ^ 18 then keep Decimal.precision (a + b) else a + b

def nextEntry (cycle : Cycle) (effect : Effect) : LedgerEntry where
  cycleId := effect.cycleId
  sequenceNo := cycle.lastSequence + 1
  operationType := effect.operationType
  idpk := effect.idpk
  sourceMsgId := effect.sourceMsgId
  negotiationId := effect.negotiationId
  budgetDelta := effect.budgetDelta
  energyDelta := effect.energyDelta
  budgetAfter := plus cycle.budgetBalance effect.budgetDelta
  energyAfter := plus cycle.energyBalance effect.energyDelta
  details := effect.details

def advance (cycle : Cycle) (effect : Effect) : Cycle :=
  { cycle with
    budgetBalance := plus cycle.budgetBalance effect.budgetDelta
    energyBalance := plus cycle.energyBalance effect.energyDelta
    lastSequence := cycle.lastSequence + 1 }

def existing? (books : Books) (effect : Effect) : Option LedgerEntry :=
  books.ledger.find? fun entry =>
    entry.idpk = effect.idpk ∧ entry.operationType = effect.operationType

/-- uq_ledger_cycle_sequence refuses a sequence number already used. -/
def sequenceTaken (books : Books) (entry : LedgerEntry) : Bool :=
  books.ledger.any fun old => old.cycleId = entry.cycleId ∧ old.sequenceNo = entry.sequenceNo

/-- `apply_ledger_effect(..., propagate_budget=False)`; the flag says whether
the effect was applied now. -/
def post (books : Books) (effect : Effect) : Result (Books × LedgerEntry × Bool) :=
  match books.cycles.get? effect.cycleId with
  | none => .error (.value ("Cycle " ++ effect.cycleId ++ " not found"))
  | some cycle =>
      match existing? books effect with
      | some entry => .ok (books, entry, false)
      | none =>
          let entry := nextEntry cycle effect
          if sequenceTaken books entry then .error .database
          else .ok
            ({ books with
                cycles := books.cycles.set (advance cycle effect)
                ledger := books.ledger ++ [entry] }, entry, true)

/-- The cycles the central opened, in chronological order. -/
def openedCycles (books : Books) : List Cycle :=
  (books.cycles.rows.filter fun c => c.statusIdpk.isSome && c.validUntil.isSome).insertionSort
    fun a b => a.validUntil.getD 0 ≤ b.validUntil.getD 0

/-- The stored deltas are whole cents, so their sum is exact. -/
def credited (books : Books) (cycleId : String) : ℚ :=
  ((books.ledger.filter fun e => e.cycleId = cycleId ∧ e.operationType = .budgetCarryover).map
    LedgerEntry.budgetDelta).sum

def carryEffect (cfg : Config) (books : Books) (cycleId : String) (difference : ℚ) : Effect where
  cycleId := cycleId
  idpk := cfg.uuid4 (books.ledger.map LedgerEntry.idpk)
  sourceMsgId := none
  operationType := .budgetCarryover
  budgetDelta := difference
  energyDelta := 0

/-- One turn of the loop: what the previous cycle holds now, less what was
already carried into this one. -/
def carryInto (cfg : Config) (books : Books) (previous : Option String) (cycleId : String) :
    Result Books :=
  let expected := match previous.bind books.cycles.get? with
    | some cycle => cycle.budgetBalance
    | none => 0
  let difference := plus expected (-credited books cycleId)
  if difference = 0 then .ok books
  else (post books (carryEffect cfg books cycleId difference)).map Prod.fst

def carryAll (cfg : Config) : Books → Option String → List String → Result Books
  | books, _, [] => .ok books
  | books, previous, cycleId :: rest => do
      let books ← carryInto cfg books previous cycleId
      carryAll cfg books (some cycleId) rest

def synchronizeBudgetCarryover (cfg : Config) (books : Books) : Result Books :=
  let cycles := openedCycles books
  if (cycles.map Cycle.validUntil).Nodup then
    carryAll cfg books none (cycles.map Cycle.cycleId)
  else .error
    (.value "Ambiguous cycle chronology: distinct opened cycles share validUntil")

/-- `apply_ledger_effect` with its default propagation. -/
def applyLedgerEffect (cfg : Config) (books : Books) (effect : Effect) :
    Result (Books × LedgerEntry × Bool) := do
  let (books, entry, applied) ← post books effect
  if applied ∧ effect.budgetDelta ≠ 0 then
    let books ← synchronizeBudgetCarryover cfg books
    return (books, entry, true)
  return (books, entry, applied)

/-- The opening balances with every stored delta of the ledger on top. -/
def rebuildCycleBalances (books : Books) (cycleId : String) : Result (ℚ × ℚ) :=
  match books.cycles.get? cycleId with
  | none => .error (.value ("Cycle " ++ cycleId ++ " not found"))
  | some cycle =>
      let entries := (books.ledger.filter fun e => e.cycleId = cycleId).insertionSort fun a b =>
        a.sequenceNo ≤ b.sequenceNo
      .ok (entries.foldl (fun budget e => budget + e.budgetDelta) cycle.openingBudgetBalance,
        entries.foldl (fun energy e => energy + e.energyDelta) cycle.openingEnergyBalance)

/-- The rebuilt balances, which must be the stored ones. -/
def validateCycleConsistency (books : Books) (cycleId : String) : Result (ℚ × ℚ) :=
  match books.cycles.get? cycleId with
  | none => .error (.value ("Cycle " ++ cycleId ++ " not found"))
  | some cycle => do
      let (budget, energy) ← rebuildCycleBalances books cycleId
      if budget ≠ cycle.budgetBalance ∨ energy ≠ cycle.energyBalance then
        throw (.value ("Inconsistent ledger for " ++ cycleId))
      return (budget, energy)

/-! ### Sums to 28 digits -/

section Plus
variable {a b p t x : ℚ}

/-- The last digit kept of what a column takes is less than a cent. -/
theorem lastPlace_column (small : |a| < 10 ^ 18) : lastPlace Decimal.precision a + 2 < 0 := by
  have cents : |a * 100| < 10 ^ 27 := by
    rw [abs_mul,abs_of_pos (show (0 : ℚ) < 100 by norm_num)]
    linarith
  have fits := (lastPlace_le (by norm_num)).mpr cents
  unfold lastPlace at fits ⊢
  rw [show Decimal.precision = 28 from rfl]
  omega

theorem plus_comm (a b : ℚ) : plus a b = plus b a := by
  unfold plus
  rw [add_comm]

theorem plus_cents (ha : Cents a) (hb : Cents b) : plus a b = a + b := by
  unfold plus
  split
  · rename_i small
    exact keep_cents_eq (ha.add hb) (lastPlace_column small).le
  · rfl

@[simp] theorem plus_neg_self (a : ℚ) : plus a (-a) = 0 := by
  unfold plus
  rw [add_neg_cancel]
  split
  · rename_i small
    exact keep_cents_eq Cents.zero (lastPlace_column small).le
  · rfl

/-- Nothing added changes no sum. -/
@[simp] theorem plus_plus_zero (a b : ℚ) : plus (plus a b) 0 = plus a b := by
  rw [plus,add_zero]
  split
  · unfold plus
    split
    · exact keep_keep (by decide)
    · rename_i kept large
      unfold plus at kept
      rw [if_neg large] at kept
      exact absurd kept large
  · rfl

theorem plus_near (a b : ℚ) : |plus a b * 100 - (a + b) * 100| ≤ 1/20 := by
  unfold plus
  split
  · rename_i small
    have place := lastPlace_column small
    rw [keep_cents]
    have fine : (10 : ℚ) ^ (lastPlace Decimal.precision (a + b) + 2) ≤ 1 / 10 := by
      rw [show (1 / 10 : ℚ) = (10 : ℚ) ^ (-1 : Int) by norm_num]
      exact zpow_le_zpow_right₀ (by norm_num) (by omega)
    have near := snap_near (zpow_pos (show (0 : ℚ) < 10 by norm_num)
      (lastPlace Decimal.precision (a + b) + 2)) ((a + b) * 100)
    linarith
  · norm_num

/-- Whole cents on top of a sum keep it what it stands for. -/
theorem stands_plus (whole : Cents p) (h : Stands (t * 100) (x * 100))
    (close : |t * 100 - x * 100| ≤ 1/20) : Stands (plus t p * 100) ((x + p) * 100) := by
  obtain ⟨n,rfl⟩ := cents_iff.mp whole
  have scaled (y : ℚ) : (y + n / 100) * 100 = n + y * 100 := by ring
  have sum := h.int_add n
  unfold plus
  rw [scaled x]
  split
  · rename_i small
    rw [keep_cents,scaled]
    refine sum.snap (lastPlace_column small) ?_
    rw [add_sub_add_left_eq_sub]
    exact close
  · rw [scaled]
    exact sum

end Plus

end Ledger

end EnergyNode
