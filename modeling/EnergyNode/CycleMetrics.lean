import EnergyNode.CycleAccounting
import EnergyNode.Lib.Rounding
import EnergyNode.Opening

/-! The metrics of a cycle under its strategy: one row, computed again from the
ledger and the settlements as often as it is asked for. -/
namespace EnergyNode
open Lib

inductive MetricStatus where
  | inProgress | awaitingSettlement | awaitingTransport | final
deriving DecidableEq

inductive BaselineSource where
  | settlement | statusEstimate
deriving DecidableEq

structure CycleStrategyMetric where
  cycleId : String
  strategyVersion : Nat
  spanSeconds : Int
  selectionPolicy : String
  acceptancePolicy : String
  deficitKwh : Int
  boughtKwh : Int
  coveredKwh : Int
  coverageRate : ℚ
  rejectedBids : Nat
  rejectedIncomingBids : Nat
  buyCost : ℚ
  transportCost : ℚ
  settlementCost : Option ℚ
  realCost : Option ℚ
  baselineCost : Option ℚ
  baselineSource : Option BaselineSource
  savingsVsBaseline : Option ℚ
  missingTransportTrades : Nat
  status : MetricStatus
  createdAt : Instant
  updatedAt : Instant
deriving DecidableEq

namespace CycleMetrics

abbrev Metrics := Table CycleStrategyMetric.cycleId

/-! ### What a status says -/

def consumption (cycle : Cycle) : ℚ := cycle.consumption.getD 0

def generation (cycle : Cycle) : ℚ := cycle.generationCapacity.getD 0

def deficit (cycle : Cycle) : Int := ⌈max 0 (consumption cycle - generation cycle)⌉

/-- A member of a section of the status, null when there is none. -/
def statusMember (cycle : Cycle) (part name : String) : Json :=
  match (cycle.statusPayload.get part).obj? with
  | some fields => fields.get name
  | none => .null

/-- A price of the status: finite and not negative. -/
def statusPrice (cycle : Cycle) (name : String) : Option ℚ :=
  (Decimal.number (statusMember cycle "market" name)).filter (0 ≤ ·)

/-- `_baseline_rate`: the tariff of the last settlement received, else the one
the status announced. -/
def baselineRate (cycle : Cycle) (settlements : List ImbalanceSettlement) :
    Option (ℚ × BaselineSource) :=
  match settlements.getLast?.filter fun _ => generation cycle < consumption cycle with
  | some s => some (s.pricePerEnergy,.settlement)
  | none => (statusPrice cycle "imbalancePrice").map fun rate => (rate,.statusEstimate)

/-- `_sellable_and_buyback`. -/
def sellable (cycle : Cycle) : Int :=
  match (statusMember cycle "energy" "sellable").int?.filter (0 ≤ ·) with
  | some kwh => kwh
  | none => ⌊max 0 (generation cycle - consumption cycle)⌋

def buyback (cycle : Cycle) : Option ℚ := statusPrice cycle "buybackPrice"

def baseline (cycle : Cycle) (settlements : List ImbalanceSettlement) : Option ℚ :=
  match baselineRate cycle settlements with
  | some (rate,_) =>
      if sellable cycle = 0 ∨ (buyback cycle).isSome then
        some (centsHalfUp (deficit cycle * rate - sellable cycle * (buyback cycle).getD 0))
      else none
  | none => none

/-! ### What the ledger says -/

/-- `_buyer_swap`. -/
def buyerSwap (e : LedgerEntry) : Bool :=
  e.operationType = .swapSettled && e.details.give = some .cr && e.details.take = some .kwh &&
    0 < e.energyDelta && e.budgetDelta ≤ 0

/-- `_seller_swap`. -/
def sellerSwap (e : LedgerEntry) : Bool :=
  e.operationType = .swapSettled && e.details.give = some .kwh && e.details.take = some .cr &&
    0 ≤ e.budgetDelta

def buyerTransport (e : LedgerEntry) : Bool :=
  e.operationType = .swapTransport && e.details.role = some .buyer

def imbalance (e : LedgerEntry) : Bool := e.operationType = .imbalanceSettlement

/-- `details["swapId"] or idpk`. -/
def swapOf (e : LedgerEntry) : String :=
  match e.details.swapId with
  | some swapId => if swapId = "" then e.idpk else swapId
  | none => e.idpk

/-- The budget that the selected entries moved. Sums are exact: an amount of a
`Numeric(20,2)` column leaves eight of the 28 digits of the decimal context. -/
def moved (select : LedgerEntry → Bool) (ledger : List LedgerEntry) : ℚ :=
  ((ledger.filter select).map LedgerEntry.budgetDelta).sum

def bought (ledger : List LedgerEntry) : ℚ :=
  ((ledger.filter buyerSwap).map LedgerEntry.energyDelta).sum

def buyCost (ledger : List LedgerEntry) : ℚ := centsHalfUp (-moved buyerSwap ledger)

def saleRevenue (ledger : List LedgerEntry) : ℚ := centsHalfUp (moved sellerSwap ledger)

def transportCost (ledger : List LedgerEntry) : ℚ := centsHalfUp (-moved buyerTransport ledger)

def settlementCost (ledger : List LedgerEntry) : Option ℚ :=
  if (ledger.filter imbalance).isEmpty then none else some (centsHalfUp (-moved imbalance ledger))

/-- Swaps bought whose transport was not charged. -/
def missingTransport (ledger : List LedgerEntry) : List String :=
  ((ledger.filter buyerSwap).map swapOf).dedup.filter fun k =>
    k ∉ (ledger.filter buyerTransport).map swapOf

def closed (cycle : Cycle) (now : Instant) : Bool :=
  match cycle.marketClosesAt with
  | some closesAt => closesAt ≤ now
  | none => false

def state (cycle : Cycle) (settlements : List ImbalanceSettlement) (ledger : List LedgerEntry)
    (now : Instant) : MetricStatus :=
  if !closed cycle now then .inProgress
  else if settlements.isEmpty || (ledger.filter imbalance).isEmpty then .awaitingSettlement
  else if missingTransport ledger ≠ [] then .awaitingTransport
  else .final

def realCost (ledger : List LedgerEntry) (state : MetricStatus) : Option ℚ :=
  if state = .final then (settlementCost ledger).map fun settlement =>
    centsHalfUp (buyCost ledger + transportCost ledger + settlement - saleRevenue ledger)
  else none

def coverageRate (deficit covered : Int) : ℚ :=
  if deficit = 0 then 1 else halfUp (covered / deficit * 10000) / 10000

def rejected (market : Market) (cycleId : String) (direction : Direction) : Nat :=
  (market.bids.rows.filter fun b =>
    b.cycleId = cycleId ∧ b.direction = direction ∧ b.status = .rejected).length

def ledgerOf (db : Db) (cycleId : String) : List LedgerEntry :=
  db.books.ledger.filter fun e => e.cycleId = cycleId

/-- The settlements of the cycle in the order in which they were recorded. -/
def settlementsOf (db : Db) (cycleId : String) : List ImbalanceSettlement :=
  db.books.settlements.rows.filter fun s => s.cycleId = cycleId

/-- The row of a cycle as it is measured now. -/
def measure (db : Db) (cycle : Cycle) (strategy : StrategyConfig) (now : Instant) :
    Result CycleStrategyMetric :=
  let ledger := ledgerOf db cycle.cycleId
  let settlements := settlementsOf db cycle.cycleId
  let bought := bought ledger
  if (⌊bought⌋ : ℚ) ≠ bought then
    .error (.value "SWAP_SETTLED buyer energyDelta debe ser KWH entero")
  else
    let covered := min (deficit cycle) ⌊bought⌋
    let state := state cycle settlements ledger now
    let real := realCost ledger state
    .ok {
      cycleId := cycle.cycleId
      strategyVersion := strategy.version
      spanSeconds := strategy.spanSeconds
      selectionPolicy := strategy.offerSelectionPolicy
      acceptancePolicy := strategy.bidAcceptancePolicy
      deficitKwh := deficit cycle
      boughtKwh := ⌊bought⌋
      coveredKwh := covered
      coverageRate := coverageRate (deficit cycle) covered
      rejectedBids := rejected db.market cycle.cycleId .outgoing
      rejectedIncomingBids := rejected db.market cycle.cycleId .incoming
      buyCost := buyCost ledger
      transportCost := transportCost ledger
      settlementCost := settlementCost ledger
      realCost := real
      baselineCost := baseline cycle settlements
      baselineSource := (baselineRate cycle settlements).map Prod.snd
      savingsVsBaseline := real.bind fun cost =>
        (baseline cycle settlements).map fun base => centsHalfUp (base - cost)
      missingTransportTrades := (missingTransport ledger).length
      status := state
      createdAt := now
      updatedAt := now }

/-- The row is inserted, or updated when one of its values changed. -/
def save (metrics : Metrics) (row : CycleStrategyMetric) : Metrics × CycleStrategyMetric :=
  match metrics.insert? row, metrics.get? row.cycleId with
  | none, some old =>
      if { row with createdAt := old.createdAt, updatedAt := old.updatedAt } = old then (metrics,old)
      else
        let row := { row with createdAt := old.createdAt }
        (metrics.set row,row)
  | some metrics, _ => (metrics,row)
  | none, none => (metrics,row)

/-- `refresh_cycle_metrics`. -/
def refreshCycleMetrics (db : Db) (metrics : Metrics) (cycleId : String) (now : Instant) :
    Result (Metrics × Option CycleStrategyMetric) :=
  match (db.books.cycles.get? cycleId).filter fun c => c.statusIdpk.isSome with
  | none => .ok (metrics,none)
  | some cycle =>
      match cycle.strategyVersion with
      | none => .ok (metrics,none)
      | some version =>
          match db.strategies.get? version with
          | none => .error (.runtime ("STRATEGY_VERSION_NOT_FOUND: " ++ toString version))
          | some strategy => (measure db cycle strategy now).map fun row =>
              let (metrics,row) := save metrics row
              (metrics,some row)

end CycleMetrics

end EnergyNode
