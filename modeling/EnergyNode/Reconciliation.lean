import EnergyNode.Lib.Sorting
import EnergyNode.Lib.Tally
import EnergyNode.WalletEvents
import EnergyNode.WalletStatement

/-! The comparison of the local ledger with the wallet: the last snapshot an
event left against the official balance, the statement in between, and the
operations of a cycle by asset and reference. -/
namespace EnergyNode
open Lib

namespace Decimal

def add : Decimal → Decimal → Decimal
  | finite p, finite q => finite (p + q)
  | _, _ => special

def sub : Decimal → Decimal → Decimal
  | finite p, finite q => finite (p - q)
  | _, _ => special

/-- `difference == 0`. -/
def isZero (d : Decimal) : Bool := d = finite 0

theorem sub_isZero {d e : Decimal} : (sub d e).isZero = true ↔ ∃ q, d = finite q ∧ e = finite q := by
  cases d with
  | special => simp [sub,isZero]
  | finite p =>
    cases e with
    | special => simp [sub,isZero]
    | finite q => simp [sub,isZero,sub_eq_zero,eq_comm]

end Decimal

inductive SnapshotSource where
  | event | restSync
deriving DecidableEq

/-- A row of `wallet_balance_snapshots`. -/
structure BalanceSnapshot extends WalletBalanceSnapshot where
  source : SnapshotSource
  recordedAt : Instant
deriving DecidableEq

namespace Reconciliation
open WalletStatement WalletEvents

inductive Operation where
  | swapSettled | swapTransport | transferIn | imbalanceSettlement | imbalanceBurn
  | openingMint | walletOnly
deriving DecidableEq

def Operation.name : Operation → String
  | swapSettled => "SWAP_SETTLED"
  | swapTransport => "SWAP_TRANSPORT"
  | transferIn => "TRANSFER_IN"
  | imbalanceSettlement => "IMBALANCE_SETTLEMENT"
  | imbalanceBurn => "IMBALANCE_BURN"
  | openingMint => "OPENING_MINT"
  | walletOnly => "WALLET_ONLY"

/-- The wallet splits the gross funding from the penalty, and a settlement into
buyback and imbalance. -/
def kinds : List (String × Operation) :=
  [("swap",.swapSettled),("transport",.swapTransport),("funding",.transferIn),
    ("penalty",.transferIn),("buyback",.imbalanceSettlement),("imbalance",.imbalanceSettlement),
    ("burn",.imbalanceBurn),("mint",.openingMint)]

structure Key where
  operation : Operation
  reference : String
  asset : WalletAsset
deriving DecidableEq

/-- The tuples compare as texts, one after the other. -/
def Key.before (a b : Key) : Prop :=
  a.operation.name < b.operation.name ∨ a.operation.name = b.operation.name ∧
    (a.reference < b.reference ∨ a.reference = b.reference ∧ a.asset.name ≤ b.asset.name)

instance (a b : Key) : Decidable (a.before b) := inferInstanceAs (Decidable (_ ∨ _))

def operationOf (kind : String) : Operation := (kinds.lookup kind).getD .walletOnly

def walletKey (cycleId : String) (entry : WalletStatementEntry) : Key :=
  let operation := operationOf entry.kind
  { operation := operation
    reference :=
      if operation ∈ [.swapSettled,.swapTransport,.walletOnly] then entry.reference else cycleId
    asset := entry.asset }

/-- The entries of a cycle the wallet made up to an instant, in their order. -/
def cycleStatement (statement : Entries) (cycleId : String) (walletAsOf : Instant) :
    List WalletStatementEntry :=
  (statement.rows.filter fun e => e.cycleId = some cycleId ∧ e.createdAt ≤ walletAsOf).insertionSort
    fun a b => a.createdAt < b.createdAt ∨ a.createdAt = b.createdAt ∧ a.entryId ≤ b.entryId

def cycleLedger (books : Books) (cycleId : String) : List LedgerEntry :=
  (books.ledger.filter fun e => e.cycleId = cycleId).insertionSort fun a b =>
    a.sequenceNo ≤ b.sequenceNo

/-- The other operations of the ledger are not compared. -/
def localOperation : OperationType → Option Operation
  | .swapSettled => some .swapSettled
  | .swapTransport => some .swapTransport
  | .transferIn => some .transferIn
  | .imbalanceSettlement => some .imbalanceSettlement
  | .imbalanceBurn => some .imbalanceBurn
  | _ => none

/-- What an entry of the ledger moved, by key. -/
def ledgerMoves (cycleId : String) (entry : LedgerEntry) : List (Key × ℚ) :=
  match localOperation entry.operationType with
  | none => []
  | some operation =>
      let reference := if operation ∈ [.swapSettled,.swapTransport] then entry.idpk else cycleId
      [(⟨operation,reference,.cr⟩,entry.budgetDelta),
        (⟨operation,reference,.kwh⟩,entry.energyDelta)].filter fun move => move.2 ≠ 0

/-- The energy the cycle opened with; a stored document holds no NaN. -/
def sellable (cycle : Cycle) : Option ℚ :=
  ((cycle.statusPayload.get "energy").obj?).bind fun energy =>
    match Fields.get energy "sellable" with
    | .int n => if 0 < n then some (n : ℚ) else none
    | .float q => if 0 < q then some q else none
    | _ => none

def walletAmounts (cycleId : String) (statement : List WalletStatementEntry) : Tally Key ℚ :=
  Tally.tally (walletKey cycleId) WalletStatementEntry.amount statement

def mintKey (cycleId : String) : Key := ⟨.openingMint,cycleId,.kwh⟩

def localAmounts (cycleId : String) (ledger : List LedgerEntry) (cycle : Option Cycle) :
    Tally Key ℚ :=
  let amounts := Tally.tally Prod.fst Prod.snd (ledger.flatMap (ledgerMoves cycleId))
  match cycle.bind sellable with
  | some minted => amounts.insert (mintKey cycleId) minted
  | none => amounts

inductive OperationStatus where
  | walletOnly | pendingWallet | pendingLocal | mismatch | agrees
deriving DecidableEq

def operationStatus (operation : Operation) (walletAmount localAmount : Option ℚ) :
    OperationStatus :=
  if operation = .walletOnly then .walletOnly
  else match walletAmount, localAmount with
    | none, _ => .pendingWallet
    | some _, none => .pendingLocal
    | some w, some l => if w ≠ l then .mismatch else .agrees

/-- What the report shows of one key. -/
structure OperationEvidence where
  key : Key
  statementKinds : List String
  walletEntryIds : List String
  swapId : Option String
  bidIdpk : Option String
  walletAmount : Option ℚ
  localAmount : Option ℚ
  status : OperationStatus

def evidenceOf (db : Db) (cycleId : String) (statement : List WalletStatementEntry)
    (wallet ours : Tally Key ℚ) (key : Key) : OperationEvidence :=
  let entries := statement.filter fun e => walletKey cycleId e = key
  let swap :=
    if key.operation ∈ [.swapSettled,.swapTransport] then
      withSwapId? db.market.swaps key.reference
    else none
  { key := key
    statementKinds := (entries.map WalletStatementEntry.kind).dedup.insertionSort (· ≤ ·)
    walletEntryIds := entries.map WalletStatementEntry.entryId
    swapId := swap.bind SwapRecord.swapId
    bidIdpk := swap.bind SwapRecord.sourceBidIdpk
    walletAmount := wallet.lookup key
    localAmount := ours.lookup key
    status := operationStatus key.operation (wallet.lookup key) (ours.lookup key) }

/-- The balances the ledger rebuilds. -/
structure Materialization where
  budgetRebuilt : ℚ
  budgetCycle : ℚ
  energyRebuilt : ℚ
  energyCycle : ℚ
deriving DecidableEq

def Materialization.consistent (m : Materialization) : Bool :=
  m.budgetRebuilt = m.budgetCycle && m.energyRebuilt = m.energyCycle

def materialization (cycle : Cycle) (ledger : List LedgerEntry) : Materialization where
  budgetRebuilt := cycle.openingBudgetBalance + (ledger.map LedgerEntry.budgetDelta).sum
  budgetCycle := cycle.budgetBalance
  energyRebuilt := cycle.openingEnergyBalance + (ledger.map LedgerEntry.energyDelta).sum
  energyCycle := cycle.energyBalance

structure Evidence where
  cycleId : Option String
  cyclePresent : Bool := false
  operations : List OperationEvidence := []
  ledgerMaterialization : Option Materialization := none
  lastClose : Option Decimal := none
  singleCycleCr : Option Decimal := none

/-- The wallet's last close, when it is of this cycle. -/
def lastCloseDifference (balance : WalletBalanceResponse) (cycle : Cycle) : Option Decimal :=
  if balance.lastSettledCycle.text? = some cycle.cycleId then
    balance.balanceAtLastCloseCr.map fun close => close.sub (.finite cycle.budgetBalance)
  else none

/-- With a single opened cycle the global balance is its own. -/
def singleCycleDifference (db : Db) (balance : WalletBalanceResponse) (cycle : Cycle) :
    Option Decimal :=
  if (db.books.cycles.rows.filter fun c => c.statusIdpk.isSome).length = 1 then
    some ((balance.crAvailable.add balance.crHeld).sub (.finite cycle.budgetBalance))
  else none

/-- `_operation_evidence`. -/
def operationEvidence (db : Db) (statement : Entries) (cycleId : Option String)
    (walletAsOf : Instant) (balance : WalletBalanceResponse) : Evidence :=
  match cycleId with
  | none => { cycleId := none }
  | some cycleId =>
      let cycle := db.books.cycles.get? cycleId
      let statement := cycleStatement statement cycleId walletAsOf
      let ledger := cycleLedger db.books cycleId
      let wallet := walletAmounts cycleId statement
      let ours := localAmounts cycleId ledger cycle
      let lastClose := cycle.bind (lastCloseDifference balance)
      { cycleId := some cycleId
        cyclePresent := cycle.isSome
        operations := ((Tally.allKeys wallet ours).insertionSort Key.before).map
          (evidenceOf db cycleId statement wallet ours)
        ledgerMaterialization := cycle.map (materialization · ledger)
        lastClose := lastClose
        singleCycleCr := if lastClose.isSome then none
          else cycle.bind (singleCycleDifference db balance) }

/-- A discrepancy that is confirmed. -/
def Evidence.mismatch (evidence : Evidence) : Bool :=
  evidence.operations.any (·.status = .mismatch) ||
    evidence.ledgerMaterialization.any (!·.consistent) ||
    evidence.lastClose.any (!·.isZero) || evidence.singleCycleCr.any (!·.isZero)

/-- Operations only one side has. -/
def Evidence.pending (evidence : Evidence) : Bool :=
  evidence.operations.any (·.status ∈ [.walletOnly,.pendingWallet,.pendingLocal])

inductive ReconciliationStatus where
  | noLocalBaseline | agrees | explained | divergent
deriving DecidableEq

def ReconciliationStatus.name : ReconciliationStatus → String
  | noLocalBaseline => "NO_LOCAL_BASELINE"
  | agrees => "MATCH"
  | explained => "EXPLAINED"
  | divergent => "DIVERGENT"

/-- One asset against the baseline. -/
structure Comparison where
  availableLocal : Decimal
  difference : Decimal
  explained : ℚ
  unexplained : Decimal
deriving DecidableEq

def compare (wallet own : Decimal) (explained : ℚ) : Comparison where
  availableLocal := own
  difference := wallet.sub own
  explained := explained
  unexplained := (wallet.sub own).sub (.finite explained)

def BalanceSnapshot.eventTime (s : BalanceSnapshot) : Instant := s.walletAsOf.getD s.recordedAt

/-- `_latest_event_snapshot`: the latest, and of several the last recorded. -/
def latestEventSnapshot (snapshots : List BalanceSnapshot) (before : Instant) :
    Option BalanceSnapshot :=
  ((snapshots.reverse.filter fun s =>
    s.source = .event ∧ BalanceSnapshot.eventTime s ≤ before).insertionSort fun a b =>
      BalanceSnapshot.eventTime b ≤ BalanceSnapshot.eventTime a).head?

/-- The entries of `_sum_statement`, of every cycle. -/
def statementBetween (statement : Entries) (after before : Instant) : List WalletStatementEntry :=
  statement.rows.filter fun e => after < e.createdAt ∧ e.createdAt ≤ before

def sumStatement (entries : List WalletStatementEntry) (asset : WalletAsset) : ℚ :=
  Tally.total WalletStatementEntry.asset WalletStatementEntry.amount entries asset

def pendingSwaps (db : Db) : List SwapRecord :=
  db.market.swaps.rows.filter fun r => r.status ∈ [.submitted,.proposed,.acceptSubmitted]

/-- The baseline against the official balance. -/
structure BaselineComparison where
  snapshot : BalanceSnapshot
  cr : Comparison
  kwh : Comparison
  statementByKind : Tally (WalletAsset × String) ℚ
  crHeldDifference : Decimal
  kwhHeldDifference : Decimal
  pendingSwapIds : List String
  anyPendingSwap : Bool

def baselineComparison (db : Db) (statement : Entries) (balance : WalletBalanceResponse)
    (walletAsOf : Instant) (baseline : BalanceSnapshot) : BaselineComparison :=
  let entries := statementBetween statement (BalanceSnapshot.eventTime baseline) walletAsOf
  { snapshot := baseline
    cr := compare balance.crAvailable baseline.crAvailable (sumStatement entries .cr)
    kwh := compare balance.kwhAvailable baseline.kwhAvailable (sumStatement entries .kwh)
    statementByKind := Tally.tally (fun e => (e.asset,e.kind)) WalletStatementEntry.amount entries
    crHeldDifference := balance.crHeld.sub baseline.crHeld
    kwhHeldDifference := balance.kwhHeld.sub baseline.kwhHeld
    pendingSwapIds := ((pendingSwaps db).filterMap SwapRecord.swapId).filter (· ≠ "")
    anyPendingSwap := !(pendingSwaps db).isEmpty }

/-- The balances alone: equal, explained by the statement, or neither. -/
def BaselineComparison.availableStatus (c : BaselineComparison) : ReconciliationStatus :=
  if c.cr.unexplained.isZero ∧ c.kwh.unexplained.isZero then
    if c.cr.explained = 0 ∧ c.kwh.explained = 0 then .agrees else .explained
  else .divergent

/-- Held amounts may differ only while a swap is pending. -/
def BaselineComparison.status (c : BaselineComparison) : ReconciliationStatus :=
  if !c.crHeldDifference.isZero || !c.kwhHeldDifference.isZero then
    if c.anyPendingSwap ∧ c.availableStatus = .agrees then .explained
    else if !c.anyPendingSwap then .divergent
    else c.availableStatus
  else c.availableStatus

structure Explanation where
  cityId : String
  walletAsOf : Instant
  statementEntriesTotal : Nat
  statementEntriesNew : Nat
  statementPages : Nat
  statementFullScan : Bool
  statementComplete : Bool
  localEvidence : Evidence
  officialAsOfValid : Bool
  baseline : Option BaselineComparison
  localDifferenceWithoutGlobalBaseline : Bool

/-- What the local evidence leaves of the status. -/
def Explanation.localStatus (e : Explanation) (status : ReconciliationStatus) :
    ReconciliationStatus :=
  if e.localEvidence.mismatch ∧ (e.baseline.isSome ∨ e.localEvidence.lastClose.isSome) then
    .divergent
  else if e.localEvidence.mismatch then status
  else if (e.localEvidence.pending ∨ e.statementComplete = false ∨ e.officialAsOfValid = false ∨
      e.baseline.any (·.snapshot.walletAsOf.isNone)) ∧ status = .agrees then .explained
  else status

def Explanation.status (e : Explanation) : ReconciliationStatus :=
  let status := e.localStatus ((e.baseline.map BaselineComparison.status).getD .noLocalBaseline)
  if e.localEvidence.cyclePresent = false ∧ status = .agrees then .noLocalBaseline else status

/-- The comparison columns are cleared when the cycle is not there to be compared. -/
def Explanation.reported (e : Explanation) : Option BaselineComparison :=
  if e.localEvidence.cyclePresent = false ∧
      e.localStatus ((e.baseline.map BaselineComparison.status).getD .noLocalBaseline) = .agrees then
    none
  else e.baseline

structure WalletReconciliation where
  cycleId : Option String
  status : ReconciliationStatus
  authority : String := "wallet"
  cr : Option Comparison
  kwh : Option Comparison
  crAvailableWallet : Decimal
  kwhAvailableWallet : Decimal
  explanation : Explanation
  createdAt : Instant

end Reconciliation

open Reconciliation WalletStatement in
/-- The database with the tables of the reconciliation; the EVENT snapshots are
those the swap events recorded. -/
structure Accounts where
  db : Db := {}
  snapshots : List BalanceSnapshot := []
  statement : Entries := .empty
  reconciliations : List WalletReconciliation := []
  events : (snapshots.filter fun s => s.source = .event).map
    BalanceSnapshot.toWalletBalanceSnapshot = db.snapshots := by rfl

namespace Reconciliation
open WalletStatement

/-- What the wallet answers during one reconciliation. -/
structure WalletAnswers where
  balance : Reading Json
  pages : Pages

/-- `cycle_id or balance.last_settled_cycle or baseline.cycle_id`. -/
def targetCycle (cycleId : Option String) (lastSettledCycle : Json)
    (baseline : Option BalanceSnapshot) : Reading (Option String) :=
  match cycleId.filter (· ≠ "") with
  | some cycleId => .ok (some cycleId)
  | none =>
      if lastSettledCycle.truthy then columnText lastSettledCycle
      else .ok (baseline.bind fun s => s.cycleId)

/-- The official balance as a snapshot. -/
def restSync (cycleId : Option String) (balance : WalletBalanceResponse) (now : Instant) :
    BalanceSnapshot where
  cycleId := cycleId
  sourceSwapId := none
  walletAsOf := parseInstant balance.timestamp
  kwhAvailable := balance.kwhAvailable
  kwhHeld := balance.kwhHeld
  crAvailable := balance.crAvailable
  crHeld := balance.crHeld
  source := .restSync
  recordedAt := now

def report (explanation : Explanation) (balance : WalletBalanceResponse) (now : Instant) :
    WalletReconciliation where
  cycleId := explanation.localEvidence.cycleId
  status := explanation.status
  cr := explanation.reported.map BaselineComparison.cr
  kwh := explanation.reported.map BaselineComparison.kwh
  crAvailableWallet := balance.crAvailable
  kwhAvailableWallet := balance.kwhAvailable
  explanation := explanation
  createdAt := now

/-- What one reconciliation read: the balance, the pages, the stored entries. -/
structure Read where
  balance : WalletBalanceResponse
  fetched : Fetched
  statement : Entries
  created : Nat

def fullScan (accounts : Accounts) : Bool := accounts.reconciliations.length % 10 = 0

def read (cfg : Config) (accounts : Accounts) (answers : WalletAnswers) : Reading Read := do
  let balance ← getBalance cfg.cityId answers.balance
  let fetched ← fetchIncrementalStatementEntries accounts.statement answers.pages
    (fullScan accounts)
  let (statement, created) ← storeStatementEntries accounts.statement fetched.entries
  return { balance := balance, fetched := fetched, statement := statement, created := created }

/-- The instant of the official balance, or else the clock. -/
def Read.walletAsOf (r : Read) (now : Instant) : Instant :=
  (parseInstant r.balance.timestamp).getD now

def explain (cfg : Config) (accounts : Accounts) (r : Read) (baseline : Option BalanceSnapshot)
    (target : Option String) (now : Instant) : Explanation :=
  let evidence := operationEvidence accounts.db r.statement target (r.walletAsOf now) r.balance
  { cityId := cfg.cityId
    walletAsOf := r.walletAsOf now
    statementEntriesTotal := r.fetched.entries.length
    statementEntriesNew := r.created
    statementPages := r.fetched.pages
    statementFullScan := fullScan accounts
    statementComplete := r.fetched.complete
    localEvidence := evidence
    officialAsOfValid := (parseInstant r.balance.timestamp).isSome
    baseline := baseline.map
      (baselineComparison accounts.db r.statement r.balance (r.walletAsOf now))
    localDifferenceWithoutGlobalBaseline :=
      evidence.mismatch && baseline.isNone && evidence.lastClose.isNone }

/-- `reconcile_wallet`: the snapshot, the entries and the report are committed together. -/
def reconcileWallet (cfg : Config) (accounts : Accounts) (cycleId : Option String)
    (answers : WalletAnswers) (now : Instant) : Reading (Accounts × WalletReconciliation) := do
  let r ← read cfg accounts answers
  let snapshots := accounts.snapshots ++ [restSync cycleId r.balance now]
  let baseline := latestEventSnapshot snapshots (r.walletAsOf now)
  let target ← targetCycle cycleId r.balance.lastSettledCycle baseline
  let report := report (explain cfg accounts r baseline target now) r.balance now
  return ({ accounts with
    snapshots := snapshots
    statement := r.statement
    reconciliations := accounts.reconciliations ++ [report]
    events := by
      rw [List.filter_append,List.map_append,accounts.events]
      exact List.append_nil _ }, report)

end Reconciliation

end EnergyNode
