import EnergyNode.Ledger

/-! Economic facts of the wallet on the ledger: settled swaps, transport,
imbalance settlements and the close of a market. -/
namespace EnergyNode
open Lib

namespace CycleAccounting
open Ledger

/-- The signed amount a leg adds to the budget (CR) or to the energy (KWH). -/
def legEffect (asset : Asset) (amount : ℚ) : Option (ℚ × ℚ) :=
  match asset with
  | .kwh => some (0, amount)
  | .cr => some (amount, 0)
  | .other _ => none

def assetEffects (record : SwapRecord) : Option (ℚ × ℚ) := do
  let (giveBudget, giveEnergy) ← legEffect record.giveAsset record.giveAmount
  let (takeBudget, takeEnergy) ← legEffect record.takeAsset record.takeAmount
  return (takeBudget - giveBudget, takeEnergy - giveEnergy)

/-- `record.swap_id or record.idpk`. -/
def settlementKey (record : SwapRecord) : String :=
  match record.swapId with
  | some swapId => if swapId = "" then record.idpk else swapId
  | none => record.idpk

def swapEffect (record : SwapRecord) (deltas : ℚ × ℚ) : Effect where
  cycleId := record.cycleId
  idpk := settlementKey record
  sourceMsgId := none
  operationType := .swapSettled
  budgetDelta := deltas.1
  energyDelta := deltas.2
  details := { swapId := record.swapId, give := some record.giveAsset, take := some record.takeAsset }

/-- Without a local cycle, or with a foreign asset, nothing is posted. -/
def applySwapSettled (cfg : Config) (books : Books) (record : SwapRecord) : Result Books :=
  match books.cycles.get? record.cycleId, assetEffects record with
  | some _, some deltas => (applyLedgerEffect cfg books (swapEffect record deltas)).map Prod.fst
  | _, _ => .ok books

def transportEffect (trade : TradeRecord) : Effect where
  cycleId := trade.cycleId
  idpk := trade.swapId
  sourceMsgId := some trade.msgId
  operationType := .swapTransport
  budgetDelta := -trade.transportTotal
  energyDelta := 0
  details := { swapId := some trade.swapId, role := some trade.role }

def applyTradeTransport (cfg : Config) (books : Books) (trade : TradeRecord) : Result Books :=
  match trade.role, books.cycles.get? trade.cycleId with
  | .buyer, some _ => (applyLedgerEffect cfg books (transportEffect trade)).map Prod.fst
  | _, _ => .ok books

def settlementEffect (settlement : ImbalanceSettlement) : Effect where
  cycleId := settlement.cycleId
  idpk := settlement.settlementId
  sourceMsgId := some settlement.msgId
  operationType := .imbalanceSettlement
  budgetDelta := settlement.total
  energyDelta := 0

def burnEffect (settlement : ImbalanceSettlement) (energy : ℚ) : Effect where
  cycleId := settlement.cycleId
  idpk := settlement.settlementId
  sourceMsgId := some settlement.msgId
  operationType := .imbalanceBurn
  budgetDelta := 0
  energyDelta := -energy

/-- The settlement, then the local energy it extinguishes. -/
def applyImbalanceSettlement (cfg : Config) (books : Books) (settlement : ImbalanceSettlement) :
    Result Books :=
  match books.cycles.get? settlement.cycleId with
  | none => .ok books
  | some _ => do
      let (books, _) ← applyLedgerEffect cfg books (settlementEffect settlement)
      match books.cycles.get? settlement.cycleId with
      | some cycle =>
          if cycle.energyBalance = 0 then return books
          let (books, _) ← applyLedgerEffect cfg books (burnEffect settlement cycle.energyBalance)
          return books
      | none => return books

def reached (instant : Option Instant) (now : Instant) : Bool :=
  match instant with
  | some time => time ≤ now
  | none => false

def closeEffect (books : Books) (cycle : Cycle) : Effect :=
  let late := books.settlements.rows.any fun s => s.cycleId = cycle.cycleId
  { cycleId := cycle.cycleId
    idpk := (if late then "close:" else "fallback:") ++ cycle.cycleId
    sourceMsgId := none
    operationType := if late then .imbalanceClose else .imbalanceBurnFallback
    budgetDelta := 0
    energyDelta := -cycle.energyBalance }

/-- What a sweep reports. -/
structure Finalization where
  cyclesExamined : Nat := 0
  burnsApplied : Nat := 0
deriving DecidableEq

/-- One locked cycle of `finalize_closed_markets`; the burn is counted whether
or not the ledger took it. -/
def closeCycle (cfg : Config) (swept : Books × Finalization) (cycleId : String) :
    Result (Books × Finalization) :=
  let (books, report) := swept
  match books.cycles.get? cycleId with
  | none => .ok swept
  | some cycle =>
      let report := { report with cyclesExamined := report.cyclesExamined + 1 }
      if cycle.energyBalance = 0 then .ok (books, report)
      else (applyLedgerEffect cfg books (closeEffect books cycle)).map fun done =>
        (done.1, { report with burnsApplied := report.burnsApplied + 1 })

def closedCycles (books : Books) (now : Instant) : List String :=
  ((books.cycles.rows.filter fun c =>
    c.statusIdpk.isSome && (reached c.marketClosesAt now || reached c.reportWindowOpensAt now)).map
      Cycle.cycleId).insertionSort fun a b => a ≤ b

/-- Cycles another transaction holds are skipped until the next sweep. -/
def examinedCycles (books : Books) (locked : List String) (now : Instant) : List String :=
  (closedCycles books now).filter (· ∉ locked)

def finalizeClosedMarkets (cfg : Config) (books : Books) (locked : List String) (now : Instant) :
    Result (Books × Finalization) :=
  (examinedCycles books locked now).foldlM (closeCycle cfg) (books, {})

end CycleAccounting

end EnergyNode
