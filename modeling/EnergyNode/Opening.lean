import EnergyNode.Ledger

/-! The opening of a cycle by the central's status-statement: its baseline, its
schedule, the strategy bound to it (AD6) and the requests it answers. -/
namespace EnergyNode
open Lib

namespace Strategies

abbrev Table := Lib.Table StrategyConfig.version

def initial (now : Instant) : StrategyConfig where
  version := 1
  status := "ACTIVE"
  createdAt := now
  offerPriceMarkup := 12/10
  offerQuantityFraction := 1

def newest (configs : List StrategyConfig) : Option StrategyConfig :=
  (configs.insertionSort fun a b => b.version ≤ a.version).head?

def ensureInitial (strategies : Table) (now : Instant) : Table :=
  match newest strategies.rows with
  | some _ => strategies
  | none => (strategies.insert? (initial now)).getD strategies

/-- The newest version created by the official opening hour, else the oldest. -/
def atOpening (strategies : Table) (openedAt : Instant) : Option StrategyConfig :=
  (newest (strategies.rows.filter fun s => s.createdAt ≤ openedAt)).orElse fun _ =>
    (strategies.rows.insertionSort fun a b => a.version ≤ b.version).head?

def archived (current : StrategyConfig) (s : StrategyConfig) : StrategyConfig :=
  if s.status = "ACTIVE" ∨ (s.status = "PENDING" ∧ s.version < current.version) then
    { s with status := "ARCHIVED" }
  else s

@[simp] theorem archived_version (current s : StrategyConfig) :
    (archived current s).version = s.version := by
  unfold archived
  split <;> rfl

/-- A pending version becomes the active one, never replacing a newer one. -/
def activate (strategies : Table) (current : StrategyConfig) (cycleId : String) : Table :=
  if current.status ≠ "PENDING" then strategies
  else
    let active := newest (strategies.rows.filter fun s => s.status = "ACTIVE")
    if (active.map fun a => decide (current.version ≤ a.version)).getD false then strategies
    else (strategies.mapRows (archived current) (archived_version current)).set
      { current with status := "ACTIVE", effectiveFromCycleId := some cycleId }

/-- `bind_strategy_to_cycle`. -/
def bind (strategies : Table) (cycle : Cycle) (now : Instant) : Result (Table × Cycle) :=
  match cycle.strategyVersion with
  | some version =>
      if (strategies.get? version).isSome then .ok (strategies, cycle) else .error .database
  | none =>
      let strategies := ensureInitial strategies now
      match atOpening strategies (cycle.marketOpensAt.getD now) with
      | none => .error (.runtime "No existe estrategia inicial")
      | some current =>
          .ok (activate strategies current cycle.cycleId,
            { cycle with strategyVersion := some current.version })

end Strategies

namespace InformationRequests

def unresolved (ask : String) (row : OutboundMessage) : Bool :=
  row.content.type = .request && row.requestAsk = some ask && row.resolvedAt.isNone

def requestDraft (ask routingKey : String) (now : Instant) : Draft where
  content := .request ask
  routingKey := some routingKey
  createdAt := now
  requestAsk := some ask

/-- `enqueue_information_request`: an open request is reused. -/
def enqueue (cfg : Config) (outbox : Outbox) (ask : String) (now : Instant) : Outbox :=
  if outbox.rows.any (unresolved ask) then outbox
  else outbox.enqueue cfg (requestDraft ask cfg.centralRoutingKey now)

def firstPublished? (outbox : Outbox) (ask : String) : Option OutboundMessage :=
  ((outbox.rows.filter fun row => unresolved ask row ∧ row.status = .published).insertionSort
    fun a b => a.createdAt ≤ b.createdAt).head?

/-- `resolve_information_request`. -/
def resolve (outbox : Outbox) (ask msgId idpk : String) (now : Instant) : Outbox :=
  match firstPublished? outbox ask with
  | none => outbox
  | some row => outbox.set { row with
      responseMsgId := some msgId, responseIdpk := some idpk, resolvedAt := some now }

end InformationRequests

namespace Opening

/-- `_get_or_create_cycle`: a placeholder until the central opens the cycle. -/
def getOrCreateCycle (books : Books) (cycleId : String) : Books :=
  match books.cycles.insert? { cycleId := cycleId } with
  | some cycles => { books with cycles := cycles }
  | none => books

def marketTime (market : Fields) (name : String) : Option Instant :=
  (((market.get name).text?).bind Moment.ofText).map Moment.time

/-- `configure_cycle_schedule`: only official instants, never the local clock. -/
def configureSchedule (cfg : Config) (cycle : Cycle) (validUntil : Instant) (market : Json) :
    Cycle :=
  let times := (market.obj?).getD []
  let later (name : String) (old : Option Instant) := (marketTime times name).orElse fun _ => old
  let reportOpens := later "reportOpensAt" cycle.reportWindowOpensAt
  { cycle with
    validUntil := some validUntil
    marketOpensAt := later "opensAt" cycle.marketOpensAt
    marketLastOfferAt := later "lastOfferAt" cycle.marketLastOfferAt
    marketLastBidAt := later "lastBidAt" cycle.marketLastBidAt
    marketClosesAt := later "closesAt" cycle.marketClosesAt
    reportWindowOpensAt := some (match reportOpens with
      | some time => max time (validUntil - cfg.reportWindow)
      | none => validUntil - cfg.reportWindow) }

structure Statement where
  generation : ℚ
  consumption : ℚ
  generationCost : ℚ
  validUntil : Instant

def field (fields : Fields) (name : String) : Result Json :=
  match fields.lookup name with
  | some value => .ok value
  | none => .error (.key name)

def number (fields : Fields) (name : String) : Result ℚ := do
  let value ← field fields name
  match Decimal.number value with
  | some q => return q
  | none => throw .type

def object (fields : Fields) (name : String) : Result Fields := do
  match ← field fields name with
  | .obj inner => return inner
  | _ => throw .type

def statement (data : Fields) : Result Statement := do
  let energy ← object data "energy"
  let generation ← number energy "generationCapacity"
  let consumption ← number energy "consumption"
  let generationCost ← number energy "generationCost"
  match ← field data "validUntil" with
  | .str text =>
      match Moment.ofText text with
      | some moment =>
          return ⟨generation,consumption,generationCost,moment.time⟩
      | none => throw (.value "Invalid isoformat string")
  | _ => throw .type

/-- The new baseline; movements of a placeholder are kept on top of it. -/
def rebaseline (cycle : Cycle) (payload : Payload) (s : Statement) : Cycle :=
  let opening := Ledger.plus s.generation (-s.consumption)
  { cycle with
    openingEnergyBalance := opening
    energyBalance :=
      Ledger.plus cycle.energyBalance (Ledger.plus opening (-cycle.openingEnergyBalance))
    generationCapacity := some s.generation
    consumption := some s.consumption
    generationCost := some s.generationCost
    statusIdpk := some payload.idpk
    statusMsgId := some payload.msgId
    statusPayload := payload.data }

/-- The `status-statement` branch; `none` is a statement already applied. -/
def applyStatement (cfg : Config) (db : Db) (payload : Payload) (now : Instant) :
    Result (Option Db) := do
  let some cycleId := payload.cycleId | throw (.value "cycleId is required")
  let books := getOrCreateCycle db.books cycleId
  let some cycle := books.cycles.get? cycleId | throw .database
  if cycle.statusIdpk = some payload.idpk then return none
  let s ← statement payload.data
  let cycle := configureSchedule cfg (rebaseline cycle payload s) s.validUntil
    (payload.data.get "market")
  let (strategies, cycle) ← Strategies.bind db.strategies cycle now
  let books ← Ledger.synchronizeBudgetCarryover cfg { books with cycles := books.cycles.set cycle }
  return some { db with
    books := books
    strategies := strategies
    outbox := InformationRequests.resolve db.outbox "status-statement" payload.msgId payload.idpk
      now }

end Opening

end EnergyNode
