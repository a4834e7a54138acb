import EnergyNode.BidReplies
import EnergyNode.Lib.Fallible
import EnergyNode.Negotiations
import EnergyNode.Opening
import EnergyNode.SellerBidAccepted
import EnergyNode.SellerBids
import EnergyNode.TradeEvents

/-! `ingest_protocol_message`: the audit row first, then one transaction that
claims the idpk, applies the message and records its result. -/
namespace EnergyNode
open Lib

namespace Ingest

/-- How a branch ends: the audit result, and whether it returned the claim. -/
structure Verdict where
  status : InboundStatus := .processed
  reason : Option String := none
  unclaim : Bool := false
deriving DecidableEq

abbrev Handled := Db × Verdict

/-- The types whose repeated idpk is compared with the operation that used it. -/
def compared : MessageType → Bool
  | .bid | .bidAccepted | .bidRejected => true
  | type => type.isSwapEvent || type.isWalletFact

def earlier? (db : Db) (idpk : String) : Option Payload :=
  (db.inbox.find? fun row => row.payload.idpk = idpk ∧ row.status = .processed).map
    InboundMessage.payload

def repeats (db : Db) (payload : Payload) : Bool :=
  if compared payload.type then
    match earlier? db payload.idpk with
    | some old => old.sameOperation payload
    | none => false
  else true

def repeated (db : Db) (payload : Payload) : Verdict :=
  if repeats db payload then { status := .duplicate, reason := some "idpk already processed" }
  else { status := .notProcessed, reason := some "IDPK_PAYLOAD_CONFLICT" }

def claimRow (payload : Payload) : ProcessedIdpk :=
  ⟨payload.idpk,payload.msgId,payload.type,payload.cycleId⟩

def removeClaim (processed : Table ProcessedIdpk.idpk) (idpk : String) :
    Table ProcessedIdpk.idpk where
  rows := processed.rows.filter fun row => row.idpk ≠ idpk
  nodup := processed.nodup.sublist ((List.filter_sublist).map ProcessedIdpk.idpk)

/-- A message of a cycle the central has not opened asks for its statement. -/
def requestStatement (cfg : Config) (db : Db) (payload : Payload) (now : Instant) : Db :=
  match payload.cycleId with
  | none => db
  | some cycleId =>
      if payload.type = .statusStatement then db
      else
        let books := Opening.getOrCreateCycle db.books cycleId
        let opened := ((books.cycles.get? cycleId).bind Cycle.statusIdpk).isSome
        { db with
          books := books
          outbox := if opened then db.outbox
            else InformationRequests.enqueue cfg db.outbox "status-statement" now }

def requireCycleId (payload : Payload) : Result String :=
  match payload.cycleId with
  | some cycleId => .ok cycleId
  | none => .error (.value "cycleId is required")

/-- `_decimal(payload.data[field])`. -/
def decimal (fields : Fields) (name : String) : Result Decimal := do
  match Decimal.ofJson (← Opening.field fields name) with
  | some value => return value
  | none => throw .type

def finite (fields : Fields) (name : String) : Result ℚ := do
  match ← decimal fields name with
  | .finite q => return q
  | .special => throw .type

/-- `validate_funding_v3`. -/
def validFunding (data : Fields) : Bool :=
  (Decimal.number (data.get "quantity")).isSome &&
    (Decimal.number (data.get "balanceAfter")).isSome &&
    match Decimal.number (data.get "creditLine") with
    | some creditLine => 0 ≤ creditLine
    | none => false

def applied (applied : Bool) : Verdict := { status := if applied then .processed else .duplicate }

def fundingEffect (payload : Payload) (cycleId : String) (quantity : ℚ) : Ledger.Effect where
  cycleId := cycleId
  idpk := payload.idpk
  sourceMsgId := some payload.msgId
  operationType := .transferIn
  budgetDelta := quantity
  energyDelta := 0

def funding (cfg : Config) (db : Db) (payload : Payload) (cycleId : String) (quantity : Decimal) :
    Result Handled :=
  let books := Opening.getOrCreateCycle db.books cycleId
  match validFunding payload.data, quantity with
  | true, .finite quantity => do
      let (books, _, fresh) ← Ledger.applyLedgerEffect cfg books
        (fundingEffect payload cycleId quantity)
      return ({ db with books := books }, applied fresh)
  | _, _ => .ok ({ db with books := books },
      { status := .notProcessed, reason := some "INVALID_FUNDING_V3", unclaim := true })

def transfer (cfg : Config) (db : Db) (payload : Payload) (now : Instant) : Result Handled := do
  let cycleId ← requireCycleId payload
  let quantity ← decimal payload.data "quantity"
  match payload.data.get "becauseOf", quantity with
  | .null, quantity => funding cfg db payload cycleId quantity
  | _, .special => throw .type
  | because, .finite quantity =>
      let some becauseOf := BidReplies.spelled because
        | throw (.value "payment does not match a confirmed negotiation")
      let (db, fresh) ← Negotiations.processGivePayment cfg db
        { cycleId := cycleId, idpk := payload.idpk, msgId := payload.msgId
          becauseOf := becauseOf, quantity := quantity } now
      return (db, applied fresh)

def demandEffect (payload : Payload) (cycleId : String) (quantity value : ℚ) : Ledger.Effect where
  cycleId := cycleId
  idpk := payload.idpk
  sourceMsgId := some payload.msgId
  operationType := .demandStatement
  budgetDelta := -(keep Decimal.precision (quantity * value))
  energyDelta := quantity

def demandStatement (cfg : Config) (db : Db) (payload : Payload) : Result Handled := do
  let cycleId ← requireCycleId payload
  let balance ← Opening.object payload.data "balance"
  let quantity ← finite balance "quantity"
  let value ← finite balance "valuePerKwh"
  let (books, _, fresh) ← Ledger.applyLedgerEffect cfg
    (Opening.getOrCreateCycle db.books cycleId) (demandEffect payload cycleId quantity value)
  return ({ db with books := books }, applied fresh)

def distanceRow (payload : Payload) (distances : Json) (cost : Option ℚ) : DistanceTable where
  idpk := payload.idpk
  msgId := payload.msgId
  cycleId := payload.cycleId
  sourceTimestamp := payload.timestamp
  distances := distances
  disabledRouteTransportCost := cost

def disabledCost (data : Fields) : Result (Option ℚ) :=
  if (data.lookup "disabledRouteTransportCost").isSome then
    (finite data "disabledRouteTransportCost").map some
  else .ok none

def distanceTable (db : Db) (payload : Payload) (now : Instant) : Result Handled := do
  let db := { db with outbox :=
    InformationRequests.resolve db.outbox "distance-table" payload.msgId payload.idpk now }
  if (db.diplomacy.distances.get? payload.idpk).isSome then return (db, applied false)
  let row := distanceRow payload (← Opening.field payload.data "distances")
    (← disabledCost payload.data)
  match db.diplomacy.distances.insert? row with
  | some distances =>
      if db.diplomacy.distances.rows.any fun r => r.msgId = row.msgId then throw .database
      return ({ db with diplomacy := { db.diplomacy with distances := distances } }, applied true)
  | none => throw .database

def negotiationProposal (db : Db) (payload : Payload) (now : Instant) : Result Handled := do
  let cycleId ← requireCycleId payload
  let db := { db with books := Opening.getOrCreateCycle db.books cycleId }
  if (db.diplomacy.negotiations.get? payload.idpk).isSome then return (db, applied false)
  let .str direction ← Opening.field payload.data "direction" | throw .database
  let quantity ← finite payload.data "quantity"
  let price ← finite payload.data "pricePerEnergy"
  let (db, fresh) := Negotiations.propose db cycleId payload.idpk payload.msgId direction quantity
    price now
  return (db, applied fresh)

def bid (cfg : Config) (db : Db) (payload : Payload) (now : Instant) : Result Handled := do
  let (db, status, reason) ← SellerBids.processIncomingBid cfg db payload now
  if status = .notProcessed then
    return (db, { status := status, reason := reason, unclaim := true })
  if reason.isSome then return (db, { status := status, reason := reason })
  let policy ← SellerBids.cycleAcceptancePolicy db (payload.cycleId.getD "")
  if policy ≠ .fifo then return (db, { status := status })
  let (db, outcome) ← SellerBids.reserveIncomingBid cfg db payload.idpk now
  match outcome with
  | .rejected reason => return (db, { status := status, reason := some reason.text })
  | _ => return (db, { status := status })

/-- A refused reply is audited and committed as it is: its claim stays. -/
def bidReply (db : Db) (payload : Payload) (now : Instant) : Result Handled := do
  let (db, refusal) ← BidReplies.processBidReply db payload now
  match refusal with
  | some refusal => return (db, { status := .notProcessed, reason := some refusal.text })
  | none => return (db, {})

theorem bidReply_cases {db db' : Db} {payload : Payload} {now : Instant} {verdict : Verdict}
    (h : bidReply db payload now = .ok (db',verdict)) :
    ∃ refusal, BidReplies.processBidReply db payload now = .ok (db',refusal) := by
  obtain ⟨⟨after,refusal⟩,replied,h⟩ := Fallible.bind_ok.mp h
  dsimp only at h
  split at h <;> cases h <;> exact ⟨_,replied⟩

def target (payload : Payload) : Result String := do
  return (BidReplies.spelled (← Opening.field payload.data "target")).getD ""

def acknowledgement (db : Db) (payload : Payload) (now : Instant) : Result Handled := do
  return (← Negotiations.acknowledge db (← target payload) now, {})

def refusal (db : Db) (payload : Payload) (now : Instant) : Result Handled := do
  return (← Negotiations.refuse db (← target payload) now, {})

def confirmation (cfg : Config) (db : Db) (payload : Payload) (now : Instant) :
    Result Handled := do
  let cycleId ← requireCycleId payload
  let energy ← finite payload.data "energy"
  let price ← finite payload.data "pricePerEnergy"
  let target ← target payload
  let (db, n, fresh) ← Negotiations.processConfirmation cfg db
    { give := payload.type = .give, cycleId := cycleId, idpk := payload.idpk
      msgId := payload.msgId, target := target, energy := energy, price := price } now
  if fresh && payload.type = .take then
    return (← Negotiations.enqueueTakePayment cfg db n now, {})
  return (db, applied fresh)

/-- `require_report_window`. -/
def reportWindowOpen (cycle : Cycle) (now : Instant) : Result Unit :=
  match cycle.statusIdpk, cycle.validUntil with
  | some _, some validUntil =>
      if cycle.schedulerState = "CLOSED" ∨ validUntil ≤ now then .error (.value "CYCLE_EXPIRED")
      else match cycle.reportWindowOpensAt with
        | some opensAt => if now < opensAt then .error (.value "REPORT_TOO_EARLY") else .ok ()
        | none => .error (.value "REPORT_TOO_EARLY")
  | _, _ => .error (.value "CYCLE_UNKNOWN")

def negotiationReport (db : Db) (payload : Payload) (now : Instant) : Result Handled := do
  let cycleId ← requireCycleId payload
  let some cycle := db.books.cycles.get? cycleId | throw .type
  reportWindowOpen cycle now
  if (db.diplomacy.reports.get? payload.idpk).isSome then return (db, applied false)
  let budget ← finite payload.data "budgetBalance"
  let energy ← finite payload.data "energyBalance"
  match db.diplomacy.reports.insert?
      { idpk := payload.idpk, msgId := payload.msgId, cycleId := cycleId, status := .published
        budgetBalance := budget, energyBalance := energy } with
  | some reports =>
      if db.diplomacy.reports.rows.any fun r => r.msgId = payload.msgId then throw .database
      return ({ db with diplomacy := { db.diplomacy with reports := reports } }, applied true)
  | none => throw .database

/-- `getattr(payload, "reason", None)`, which only a swap-rejected carries over. -/
def rejection (payload : Payload) : Json :=
  if payload.type = .swapRejected then payload.extra.get "reason" else .null

def swapEvent (cfg : Config) (jwt : Jwt) (db : Db) (payload : Payload)
    (type : WalletEvents.EventType) (now : Instant) : Result Handled := do
  let (db, record) ← WalletEvents.processSwapEvent cfg db type payload.data (rejection payload) now
  match record with
  | none => return (db, { status := .notProcessed, reason := some "SWAP_UNKNOWN", unclaim := true })
  | some record =>
      if type = .proposed then
        return (SellerBidAccepted.enqueueBidAccepted cfg jwt db record payload.data payload.sender
          now, {})
      return (db, {})

def walletFact (cfg : Config) (db : Db) (payload : Payload) : Result Handled := do
  let (books, status, reason) ← TradeEvents.processWalletFact cfg db.books payload
  return ({ db with books := books },
    { status := status, reason := reason, unclaim := status = .notProcessed })

def statusStatement (cfg : Config) (db : Db) (payload : Payload) (now : Instant) :
    Result Handled := do
  match ← Opening.applyStatement cfg db payload now with
  | some db => return (db, {})
  | none =>
      return (db, { status := .duplicate, reason := some "status-statement already applied" })

/-- The branch of the message type. -/
def dispatch (cfg : Config) (jwt : Jwt) (db : Db) (payload : Payload) (now : Instant) :
    Result Handled :=
  match payload.type with
  | .statusStatement => statusStatement cfg db payload now
  | .transfer => transfer cfg db payload now
  | .demandStatement => demandStatement cfg db payload
  | .distanceTable => distanceTable db payload now
  | .negotiationProposal => negotiationProposal db payload now
  | .bid => bid cfg db payload now
  | .bidAccepted => bidReply db payload now
  | .bidRejected => bidReply db payload now
  | .ack => acknowledgement db payload now
  | .nack => refusal db payload now
  | .give => confirmation cfg db payload now
  | .take => confirmation cfg db payload now
  | .negotiationReport => negotiationReport db payload now
  | .swapProposed => swapEvent cfg jwt db payload .proposed now
  | .swapSettled => swapEvent cfg jwt db payload .settled now
  | .swapRejected => swapEvent cfg jwt db payload .rejected now
  | .swapCancelled => swapEvent cfg jwt db payload .cancelled now
  | .swapExpired => swapEvent cfg jwt db payload .expired now
  | .tradeRecorded => walletFact cfg db payload
  | .imbalanceSettlement => walletFact cfg db payload
  | _ => .ok (db, { status := .notProcessed, reason := some "message type not processed by ledger" })

/-- `claim_idpk`: `none` when an earlier transaction holds the key. -/
def claim? (db : Db) (payload : Payload) : Option Db :=
  if payload.type.isIdempotent then
    (db.processed.insert? (claimRow payload)).map fun processed => { db with processed := processed }
  else some db

def returnClaim (db : Db) (payload : Payload) (verdict : Verdict) : Db :=
  if verdict.unclaim then { db with processed := removeClaim db.processed payload.idpk } else db

/-- The business transaction; its verdict is committed with its effects. -/
def process (cfg : Config) (jwt : Jwt) (db : Db) (payload : Payload) (now : Instant) :
    Result Handled :=
  match claim? db payload with
  | none => .ok (db, repeated db payload)
  | some claimed => do
      let (db, verdict) ← dispatch cfg jwt (requestStatement cfg claimed payload now) payload now
      return (returnClaim db payload verdict, verdict)

/-- A repetition changes nothing; the first delivery is served under its claim. -/
theorem process_cases {cfg : Config} {jwt : Jwt} {db db' : Db} {payload : Payload} {now : Instant}
    {verdict : Verdict} (h : process cfg jwt db payload now = .ok (db',verdict)) :
    (db' = db ∧ verdict = repeated db payload) ∨ ∃ claimed served,
      claim? db payload = some claimed ∧
      dispatch cfg jwt (requestStatement cfg claimed payload now) payload now =
        .ok (served,verdict) ∧
      db' = returnClaim served payload verdict := by
  unfold process at h
  split at h
  · cases h
    exact .inl ⟨rfl,rfl⟩
  rename_i claimed claim
  obtain ⟨⟨served,_⟩,dispatched,h⟩ := Fallible.bind_ok.mp h
  cases h
  exact .inr ⟨claimed,served,claim,dispatched,rfl⟩

/-- The reception, committed before anything else. -/
def audit (db : Db) (payload : Payload) (status : InboundStatus) (reason : Option String) : Db :=
  { db with inbox := db.inbox ++ [⟨payload,status,reason⟩] }

inductive Reply where
  | answered (verdict : Verdict)
  | failed (fault : Fault)
deriving DecidableEq

/-- `ingest_protocol_message`: a fault rolls everything back but the audit row. -/
def ingest (cfg : Config) (jwt : Jwt) (db : Db) (payload : Payload) (now : Instant) :
    Db × Reply :=
  match process cfg jwt db payload now with
  | .ok (done, verdict) => (audit done payload verdict.status verdict.reason, .answered verdict)
  | .error fault => (audit db payload .failed none, .failed fault)

end Ingest

end EnergyNode
