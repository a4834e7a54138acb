import EnergyNode.Ledger
import EnergyNode.Lib.Precision

/-! E1 negotiations with the central: the status machine, give/take
confirmations and their payments on the ledger. -/
namespace EnergyNode
open Lib

namespace NegotiationStatus

/-- ALLOWED_TRANSITIONS. -/
def allowed : NegotiationStatus → List NegotiationStatus
  | pendingPublication => [timeout,acknowledged,confirmed,rejected,proposed]
  | proposed => [acknowledged,confirmed,rejected,timeout]
  | acknowledged => [confirmed,rejected,timeout]
  | confirmed => [paid,timeout]
  | paid => []
  | rejected => []
  | timeout => [confirmed,rejected,pendingPublication]

/-- STATE_ORDER. -/
def order? : NegotiationStatus → Option Nat
  | pendingPublication => some 0
  | proposed => some 1
  | acknowledged => some 2
  | confirmed => some 3
  | paid => some 4
  | _ => none

/-- A late answer never moves a negotiation backwards. -/
def regresses (current new : NegotiationStatus) : Bool :=
  match current.order?, new.order? with
  | some a, some b => b < a
  | _, _ => false

/-- A closed negotiation ignores a late ACK or publication. -/
def ignores (current new : NegotiationStatus) : Bool :=
  (current = timeout || current = rejected || current = paid) &&
    (new = acknowledged || new = proposed)

end NegotiationStatus

namespace Negotiations
open Ledger

def timeoutSeconds : Int := seconds 30

def deadline (n : Negotiation) (status : NegotiationStatus) (now : Instant) : Option Instant :=
  match status with
  | .pendingPublication => none
  | .proposed => some (now + timeoutSeconds)
  | .acknowledged => some (n.deadlineAt.getD (now + timeoutSeconds))
  | .confirmed => if n.direction = "give" then some (now + timeoutSeconds) else none
  | .paid => none
  | .rejected => none
  | .timeout => n.deadlineAt

/-- `transition_negotiation`; an ignored answer leaves the row as it is. -/
def transition (n : Negotiation) (status : NegotiationStatus) (now : Instant) :
    Result Negotiation :=
  if n.status.ignores status || n.status = status || n.status.regresses status then .ok n
  else if status ∈ n.status.allowed then
    .ok { n with status := status, updatedAt := now, deadlineAt := deadline n status now }
  else .error (.value "Invalid transition")

def withLatest? (d : Diplomacy) (msgId : String) : Option Negotiation :=
  d.negotiations.rows.find? fun n => n.latestMsgId = some msgId

/-- `proposal_negotiation`: any published attempt identifies the operation. -/
def proposalNegotiation (d : Diplomacy) (outbox : Outbox) (target : String) :
    Option Negotiation :=
  match (outbox.get? target).filter fun row => row.content.type = .negotiationProposal with
  | some row => d.negotiations.get? row.idpk
  | none => withLatest? d target

def isConfirmation (type : OperationType) : Bool :=
  type = .giveConfirmed || type = .takeConfirmed

/-- The target of an inbound give/take already recorded under `msgId`. -/
def confirmedTarget? (inbox : List InboundMessage) (msgId : String) : Option String :=
  (inbox.find? fun row =>
    row.payload.msgId = msgId && (row.payload.type = .give || row.payload.type = .take) &&
      (row.status = .processed || row.status = .duplicate)).bind fun row =>
        ((Fields.get row.payload.data "target").text?).filter (· ≠ "")

/-- `confirmation_negotiation`. -/
def confirmationNegotiation (db : Db) (target : String) : Option Negotiation :=
  match db.books.ledger.find? fun e =>
      e.sourceMsgId = some target ∧ isConfirmation e.operationType with
  | some entry => db.diplomacy.negotiations.rows.find? fun n => some n.id = entry.negotiationId
  | none =>
      ((confirmedTarget? db.inbox target).bind (proposalNegotiation db.diplomacy db.outbox)).orElse
        fun _ => withLatest? db.diplomacy target

def silenced (idpk : String) (row : OutboundMessage) : OutboundMessage :=
  if row.idpk = idpk ∧ row.content.type = .negotiationProposal ∧ row.dispatchRequired then
    { row with dispatchRequired := false }
  else row

@[simp] theorem silenced_msgId (idpk : String) (row : OutboundMessage) :
    (silenced idpk row).msgId = row.msgId := by
  unfold silenced
  split <;> rfl

/-- `stop_proposal_dispatches`. -/
def stopProposalDispatches (outbox : Outbox) (n : Negotiation) : Outbox :=
  outbox.mapRows (silenced n.idpk) (silenced_msgId n.idpk)

def store (db : Db) (n : Negotiation) : Db :=
  { db with diplomacy := { db.diplomacy with negotiations := db.diplomacy.negotiations.set n } }

def stopDispatches (db : Db) (n : Negotiation) : Db :=
  { db with outbox := stopProposalDispatches db.outbox n }

/-- The `ack` branch: only a known proposal is acknowledged. -/
def acknowledge (db : Db) (target : String) (now : Instant) : Result Db :=
  match proposalNegotiation db.diplomacy db.outbox target with
  | none => .ok db
  | some n => (transition n .acknowledged now).map (store db)

def refusable (status : NegotiationStatus) : Bool :=
  match status with
  | .pendingPublication | .proposed | .acknowledged | .timeout => true
  | _ => false

/-- The `nack` branch. -/
def refuse (db : Db) (target : String) (now : Instant) : Result Db :=
  match (proposalNegotiation db.diplomacy db.outbox target).filter fun n => refusable n.status with
  | none => .ok db
  | some n => (transition n .rejected now).map fun n => stopDispatches (store db n) n

def nextId (d : Diplomacy) : Nat := (d.negotiations.rows.map Negotiation.id).foldl max 0 + 1

/-- The `negotiation-proposal` branch; `false` is a repeated operation. -/
def propose (db : Db) (cycleId idpk msgId : String) (direction : String)
    (quantity price : ℚ) (now : Instant) : Db × Bool :=
  let n : Negotiation :=
    { id := nextId db.diplomacy, idpk := idpk, cycleId := cycleId, latestMsgId := some msgId
      direction := direction, requestedQuantity := quantity, offeredPrice := price
      status := .proposed, deadlineAt := some (now + timeoutSeconds), updatedAt := now }
  match db.diplomacy.negotiations.insert? n with
  | some negotiations =>
      ({ db with diplomacy := { db.diplomacy with negotiations := negotiations } }, true)
  | none => (db, false)

def settlementPrice (cycle : Cycle) (direction : String) : Result ℚ :=
  match cycle.generationCapacity, cycle.consumption, cycle.generationCost with
  | some _, some _, some cost =>
      if direction = "take" then .ok (centsHalfUp cost)
      else if direction = "give" then .ok (centsHalfUp (cost * (105/100)))
      else .error (.value ("unsupported negotiation direction: " ++ direction))
  | _, _, _ => .error (.value ("Cycle " ++ cycle.cycleId ++ " has no complete status-statement"))

def soldEnergy (books : Books) (cycleId : String) : ℚ :=
  ((books.ledger.filter fun e =>
    e.cycleId = cycleId ∧ e.operationType = .giveConfirmed ∧ e.energyDelta < 0).map
      fun e => -e.energyDelta).sum

def remainingSellableEnergy (books : Books) (cycle : Cycle) : Result ℚ :=
  match cycle.generationCapacity, cycle.consumption, cycle.generationCost with
  | some capacity, some consumption, some _ =>
      .ok (max 0 (max 0 (capacity - consumption) - soldEnergy books cycle.cycleId))
  | _, _, _ => .error (.value ("Cycle " ++ cycle.cycleId ++ " has no complete status-statement"))

structure Confirmation where
  give : Bool
  cycleId : String
  idpk : String
  msgId : String
  target : String
  energy : ℚ
  price : ℚ

def Confirmation.word (c : Confirmation) : String := if c.give then "give" else "take"

def Confirmation.operation (c : Confirmation) : OperationType :=
  if c.give then .giveConfirmed else .takeConfirmed

def Confirmation.energyDelta (c : Confirmation) : ℚ := if c.give then -c.energy else c.energy

def effectOf? (books : Books) (n : Negotiation) (type : OperationType) : Option LedgerEntry :=
  books.ledger.find? fun e => e.negotiationId = some n.id ∧ e.operationType = type

/-- The checks of a confirmation against its negotiation and its cycle. -/
def checkConfirmation (db : Db) (c : Confirmation) : Result Negotiation := do
  unless 0 < c.energy do throw (.value "confirmed energy must be positive")
  unless 0 ≤ c.price do throw (.value "confirmed price cannot be negative")
  let some n := proposalNegotiation db.diplomacy db.outbox c.target
    | throw (.value "confirmation target does not match an active negotiation")
  unless n.cycleId = c.cycleId do
    throw (.value "confirmation cycle does not match negotiation cycle")
  unless n.direction = c.word do
    throw (.value (c.word ++ " confirmation cannot confirm a " ++ n.direction ++ " negotiation"))
  if let some cycle := db.books.cycles.get? c.cycleId then
    if cycle.generationCost.isSome then
      unless c.price = (← settlementPrice cycle c.word) do
        throw (.value "confirmation price differs from cycle settlement price")
  unless c.energy ≤ n.requestedQuantity do
    throw (.value "confirmed energy exceeds requested quantity")
  return n

def confirmationEffect (c : Confirmation) (n : Negotiation) : Effect where
  cycleId := c.cycleId
  idpk := c.idpk
  sourceMsgId := some c.msgId
  operationType := c.operation
  budgetDelta := 0
  energyDelta := c.energyDelta
  negotiationId := some n.id

/-- The energy effect, once per negotiation; a retry must repeat it exactly. -/
def confirmEnergy (cfg : Config) (books : Books) (c : Confirmation) (n : Negotiation) :
    Result (Books × Bool) :=
  match effectOf? books n c.operation with
  | some entry =>
      if entry.energyDelta ≠ c.energyDelta then
        .error (.value "retry confirmation energy does not match original confirmation")
      else if n.confirmedPrice.isSome ∧ n.confirmedPrice ≠ some c.price then
        .error (.value "retry confirmation price does not match original confirmation")
      else .ok (books, false)
  | none => do
      if let some cycle := books.cycles.get? c.cycleId then
        if c.give ∧ cycle.generationCapacity.isSome then
          unless c.energy ≤ (← remainingSellableEnergy books cycle) do
            throw (.value "OVER_CAPACITY")
      let (books, _, applied) ← applyLedgerEffect cfg books (confirmationEffect c n)
      return (books, applied)

/-- `process_negotiation_confirmation`. -/
def processConfirmation (cfg : Config) (db : Db) (c : Confirmation) (now : Instant) :
    Result (Db × Negotiation × Bool) := do
  let n ← checkConfirmation db c
  let (books, applied) ← confirmEnergy cfg db.books c n
  let n ← transition { n with confirmedEnergy := some c.energy, confirmedPrice := some c.price }
    .confirmed now
  let n := if n.paymentQuantity.isNone then { n with latestMsgId := some c.msgId } else n
  return (stopDispatches (store { db with books := books } n) n, n, applied)

/-- The cents of a product, which the context keeps to its own digits first. -/
def amountDue (energy price : ℚ) : ℚ := centsHalfUp (keep Decimal.precision (energy * price))

/-- `_expected_payment`; an amount that needs more digits than the context has raises. -/
def expectedPayment (n : Negotiation) : Result ℚ :=
  match n.confirmedEnergy, n.confirmedPrice with
  | some energy, some price =>
      match quantizedUp Decimal.precision (keep Decimal.precision (energy * price)) with
      | some quantity => .ok quantity
      | none => .error .type
  | none, _ => .error (.value "negotiation has no confirmed energy")
  | _, none => .error (.value "negotiation has no confirmed price")

def paymentDraft (cfg : Config) (n : Negotiation) (because : String) (quantity : ℚ)
    (now : Instant) : Draft where
  content := .transfer because quantity
  cycleId := some n.cycleId
  targetMsgId := some because
  routingKey := some cfg.centralRoutingKey
  createdAt := now

/-- `enqueue_take_payment`: our payment of a confirmed purchase. -/
def enqueueTakePayment (cfg : Config) (db : Db) (n : Negotiation) (now : Instant) : Result Db := do
  unless n.direction = "take" do throw (.value "only take negotiations emit payment")
  unless n.status = .confirmed ∨ n.status = .paid do
    throw (.value "take negotiation is not confirmed")
  if n.paymentQuantity.isSome then
    if (effectOf? db.books n .paymentSent).isNone ∨
        (n.latestMsgId.bind db.outbox.get?).isNone then
      throw (.value "inconsistent persisted take payment")
    return db
  let quantity ← expectedPayment n
  let some because := n.latestMsgId | throw (.value "confirmation msgId is missing")
  let msgId := Outbox.freshMsgId cfg db.outbox
  let (books, _, applied) ← applyLedgerEffect cfg db.books
    { cycleId := n.cycleId, idpk := Outbox.freshIdpk cfg db.outbox, sourceMsgId := some msgId
      operationType := .paymentSent, budgetDelta := -quantity, energyDelta := 0
      negotiationId := some n.id }
  unless applied do throw (.value "take payment ledger effect already exists")
  return store
    { db with books := books
              outbox := db.outbox.enqueue cfg (paymentDraft cfg n because quantity now) }
    { n with paymentQuantity := some quantity, latestMsgId := some msgId, updatedAt := now }

structure Payment where
  cycleId : String
  idpk : String
  msgId : String
  becauseOf : String
  quantity : ℚ

def checkPayment (db : Db) (p : Payment) : Result Negotiation := do
  unless 0 ≤ p.quantity do throw (.value "payment quantity cannot be negative")
  let some n := confirmationNegotiation db p.becauseOf
    | throw (.value "payment does not match a confirmed negotiation")
  unless n.cycleId = p.cycleId do throw (.value "payment cycle does not match negotiation")
  unless n.direction = "give" do
    throw (.value "received negotiation payment must correspond to give")
  if n.status ≠ .confirmed ∧ n.status ≠ .paid ∧ (effectOf? db.books n .giveConfirmed).isNone then
    throw (.value "give negotiation is not confirmed")
  if n.confirmedEnergy.isNone ∨ n.status = .rejected then
    throw (.value "give negotiation is not confirmed")
  unless p.quantity = (← expectedPayment n) do throw (.value "invalid payment quantity")
  return n

def paymentEffect (p : Payment) (n : Negotiation) : Effect where
  cycleId := p.cycleId
  idpk := p.idpk
  sourceMsgId := some p.msgId
  operationType := .paymentReceived
  budgetDelta := p.quantity
  energyDelta := 0
  negotiationId := some n.id

/-- `process_give_payment`; `false` is a payment already received. -/
def processGivePayment (cfg : Config) (db : Db) (p : Payment) (now : Instant) :
    Result (Db × Bool) := do
  let n ← checkPayment db p
  if n.paymentQuantity.isSome then
    if (effectOf? db.books n .paymentReceived).isNone then
      throw (.value "inconsistent persisted give payment")
    return (db, false)
  let (books, _, applied) ← applyLedgerEffect cfg db.books (paymentEffect p n)
  if !applied then return ({ db with books := books }, false)
  let n ← if n.status ≠ .confirmed ∧ n.status ≠ .paid then transition n .confirmed now else pure n
  let n ← transition { n with paymentQuantity := some p.quantity } .paid now
  return (stopDispatches (store { db with books := books } n) n, true)

end Negotiations

end EnergyNode
