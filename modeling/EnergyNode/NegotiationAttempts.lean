import EnergyNode.Node
import EnergyNode.StoredLedger

/-! A negotiation between its messages: the proposal of the API, its publication,
timeouts, retries under a new `msgId`, and the errors of the central. Every
transaction ends by writing its amounts into columns of two decimals. -/
namespace EnergyNode
open Lib

namespace Negotiations
open Ledger

/-- `evaluate_negotiation_offer`. -/
def evaluateOffer (books : Books) (cycle : Cycle) (direction : String) (quantity price : ℚ) :
    Result Unit := do
  unless price ≤ (← settlementPrice cycle "give") do throw (.value "PRICE_ABOVE_CAP")
  if direction = "give" then
    unless quantity ≤ (← remainingSellableEnergy books cycle) do throw (.value "OVER_CAPACITY")

def negotiable (cycle : Cycle) : Bool :=
  cycle.schedulerState = "NEGOTIATING" || cycle.schedulerState = "REPORT_WINDOW"

/-- A first proposal may also leave before the scheduler has seen the cycle. -/
def proposable (cycle : Cycle) : Bool :=
  negotiable cycle || cycle.schedulerState = "PENDING" && cycle.statusIdpk.isSome

def proposalDraft (cfg : Config) (n : Negotiation) (cycle : Cycle) (now : Instant) : Draft where
  content := .negotiationProposal n.direction n.requestedQuantity n.offeredPrice
  cycleId := some n.cycleId
  routingKey := some cfg.centralRoutingKey
  createdAt := now
  expiresAt := cycle.validUntil

structure Proposal where
  cycleId : String
  idpk : String
  direction : String
  quantity : ℚ
  price : ℚ

def unpublished (cfg : Config) (db : Db) (p : Proposal) (now : Instant) : Negotiation where
  id := nextId db.diplomacy
  idpk := p.idpk
  cycleId := p.cycleId
  latestMsgId := some (cfg.uuid4 (db.outbox.ids ++ [p.idpk]))
  direction := p.direction
  requestedQuantity := p.quantity
  offeredPrice := p.price
  status := .pendingPublication
  updatedAt := now

/-- `enqueue_negotiation_proposal`. -/
def enqueueProposal (cfg : Config) (db : Db) (p : Proposal) (now : Instant) : Result Db := do
  let some cycle := db.books.cycles.get? p.cycleId
    | throw (.value ("Cycle " ++ p.cycleId ++ " not found"))
  unless p.direction = "give" ∨ p.direction = "take" do
    throw (.value "direction must be give or take")
  unless 0 < p.quantity do throw (.value "quantity must be greater than zero")
  unless 0 ≤ p.price do throw (.value "pricePerEnergy cannot be negative")
  if SwapTimeouts.passed cycle.validUntil now then
    throw (.value ("Cycle " ++ p.cycleId ++ " is expired"))
  unless proposable cycle do
    throw (.value ("Cycle " ++ p.cycleId ++ " is not in negotiation window"))
  evaluateOffer db.books cycle p.direction p.quantity p.price
  let n := unpublished cfg db p now
  match db.diplomacy.negotiations.insert? n with
  | some negotiations =>
      return { db with
        diplomacy := { db.diplomacy with negotiations := negotiations }
        outbox := Buying.enqueueAs cfg db.outbox p.idpk (proposalDraft cfg n cycle now) }
  | none => throw .database

/-- A transition the caller knows to be allowed. -/
def moveTo (n : Negotiation) (status : NegotiationStatus) (now : Instant) : Negotiation :=
  match transition n status now with
  | .ok n => n
  | .error _ => n

/-- TIMEOUT_PENDING_STATES. -/
def awaiting : NegotiationStatus → Bool
  | .proposed | .acknowledged | .confirmed => true
  | _ => false

/-- A confirmed purchase waits for nobody. -/
def timedOut (now : Instant) (n : Negotiation) : Negotiation :=
  if awaiting n.status ∧ SwapTimeouts.passed n.deadlineAt now then
    if n.status = .confirmed ∧ n.direction = "take" then { n with deadlineAt := none }
    else moveTo n .timeout now
  else n

theorem moveTo_idpk (n : Negotiation) (status : NegotiationStatus) (now : Instant) :
    (moveTo n status now).idpk = n.idpk := by
  unfold moveTo
  split
  · rename_i done h
    unfold transition at h
    split at h
    · cases h
      rfl
    · split at h <;> cases h
      rfl
  · rfl

theorem timedOut_idpk (now : Instant) (n : Negotiation) : (timedOut now n).idpk = n.idpk := by
  unfold timedOut
  split
  · split
    · rfl
    · exact moveTo_idpk n .timeout now
  · rfl

/-- `process_expired_negotiations`. -/
def processExpired (db : Db) (now : Instant) : Db :=
  let negotiations := db.diplomacy.negotiations.mapRows (timedOut now) (timedOut_idpk now)
  { db with diplomacy := { db.diplomacy with negotiations := negotiations } }

/-- One retry: the same operation leaves again under a new message. -/
def retryOne (cfg : Config) (now : Instant) (db : Db) (n : Negotiation) : Db :=
  match (db.books.cycles.get? n.cycleId).filter fun c =>
      negotiable c && !SwapTimeouts.passed c.validUntil now with
  | none => db
  | some cycle =>
      let msgId := cfg.uuid4 (db.outbox.ids ++ [n.idpk])
      store { db with outbox := Buying.enqueueAs cfg db.outbox n.idpk (proposalDraft cfg n cycle now) }
        (moveTo { n with latestMsgId := some msgId } .pendingPublication now)

/-- `enqueue_timed_out_negotiation_retries`. -/
def retryTimedOut (cfg : Config) (db : Db) (now : Instant) : Db :=
  (db.diplomacy.negotiations.rows.filter fun n => n.status = .timeout).foldl (retryOne cfg now) db

def isProposal (row : OutboundMessage) : Bool :=
  row.content.type = .negotiationProposal && row.dispatchRequired

def unanswered : NegotiationStatus → Bool
  | .pendingPublication | .proposed | .acknowledged => true
  | _ => false

/-- A proposal whose cycle is over is not sent any more; `closed` are the cycles
that carry `closed_at`. -/
def expireProposal (closed : List String) (now : Instant) (db : Db) (row : OutboundMessage) : Db :=
  let cycle := row.cycleId.bind db.books.cycles.get?
  let ended := match cycle.bind Cycle.validUntil with
    | some validUntil => validUntil ≤ now || row.cycleId.any (· ∈ closed)
    | none => true
  if ended then
    let stopped := { row with dispatchRequired := false, lastError := some "CYCLE_EXPIRED" }
    let db := { db with outbox := db.outbox.set stopped }
    match (db.diplomacy.negotiations.get? row.idpk).filter fun n => unanswered n.status with
    | none => db
    | some n =>
        let deadline := if cycle.isSome then cycle.bind Cycle.validUntil else some now
        store db (moveTo { n with deadlineAt := deadline } .timeout now)
  else db

/-- The proposals among what `list_outbound_dispatch` looks at. -/
def expireProposals (closed : List String) (db : Db) (now : Instant) : Db :=
  (db.outbox.rows.filter isProposal).foldl (expireProposal closed now) db

/-- The purchase that a published transfer pays. -/
def paidBy? (d : Diplomacy) (msgId : String) : Option Negotiation :=
  d.negotiations.rows.find? fun n => n.latestMsgId = some msgId && n.direction = "take"

/-- `update_outbound_audit` for a published message. -/
def published (db : Db) (msgId : String) (now : Instant) : Result Db :=
  match db.outbox.get? msgId with
  | none => .ok db
  | some row =>
      let db := { db with outbox := Buying.markPublished db.outbox msgId }
      match row.content.type with
      | .negotiationProposal =>
          match (withLatest? db.diplomacy msgId).filter fun n => n.status = .pendingPublication with
          | none => .ok db
          | some n => (transition n .proposed now).map (store db)
      | .transfer =>
          match paidBy? db.diplomacy msgId with
          | none => .ok db
          | some n => (transition n .paid now).map (store db)
      | _ => .ok db

structure ProtocolError where
  msgId : String
  target : String
  cycleId : Option String

/-- What `ingest_protocol_error` does to a negotiation. -/
def refuseProposal (db : Db) (e : ProtocolError) (now : Instant) : Result Db :=
  match (proposalNegotiation db.diplomacy db.outbox e.target).filter fun n =>
      some n.cycleId = e.cycleId && refusable n.status with
  | none => .ok db
  | some n => (transition n .rejected now).map fun n => stopDispatches (store db n) n

/-! ### The books stay as they are -/

section Books
variable {cfg : Config} {db db' : Db} {now : Instant}

theorem enqueueProposal_books {p : Proposal} (h : enqueueProposal cfg db p now = .ok db') :
    db'.books = db.books := by
  unfold enqueueProposal at h
  split at h
  · simp only [Fallible.throw_bind,Fallible.require_ok,Fallible.refuse_ok] at h
    obtain ⟨_,_,_,_,_,h⟩ := h
    obtain ⟨_,_,h⟩ := Fallible.bind_ok.mp h
    split at h <;> cases h
    rfl
  · cases h

theorem retryTimedOut_books : (retryTimedOut cfg db now).books = db.books := by
  unfold retryTimedOut
  generalize (db.diplomacy.negotiations.rows.filter _) = l
  induction l generalizing db with
  | nil => rfl
  | cons n l ih =>
    rw [List.foldl_cons,ih]
    unfold retryOne
    split <;> rfl

theorem expireProposals_books (closed : List String) :
    (expireProposals closed db now).books = db.books := by
  unfold expireProposals
  generalize db.outbox.rows.filter isProposal = rows
  induction rows generalizing db with
  | nil => rfl
  | cons row rows ih =>
    rw [List.foldl_cons,ih]
    unfold expireProposal
    dsimp only
    repeat' split
    all_goals rfl

theorem published_books {msgId : String} (h : published db msgId now = .ok db') :
    db'.books = db.books := by
  unfold published at h
  split at h
  · cases h
    rfl
  · dsimp only at h
    split at h
    · split at h
      · cases h
        rfl
      · obtain ⟨_,_,rfl⟩ := Fallible.map_ok.mp h
        rfl
    · split at h
      · cases h
        rfl
      · obtain ⟨_,_,rfl⟩ := Fallible.map_ok.mp h
        rfl
    · cases h
      rfl

theorem refuseProposal_books {e : ProtocolError} (h : refuseProposal db e now = .ok db') :
    db'.books = db.books := by
  unfold refuseProposal at h
  split at h
  · cases h
    rfl
  · obtain ⟨_,_,rfl⟩ := Fallible.map_ok.mp h
    rfl

end Books

/-- The columns of a negotiation are `Numeric(20,2)`. -/
def storedNegotiation (n : Negotiation) : Negotiation :=
  { n with
    requestedQuantity := centsHalfUp n.requestedQuantity
    offeredPrice := centsHalfUp n.offeredPrice
    confirmedEnergy := n.confirmedEnergy.map centsHalfUp
    confirmedPrice := n.confirmedPrice.map centsHalfUp
    paymentQuantity := n.paymentQuantity.map centsHalfUp }

theorem storedNegotiation_idpk (n : Negotiation) : (storedNegotiation n).idpk = n.idpk := rfl

/-- What the database holds once the transaction commits. -/
def commit (db : Db) : Db :=
  let negotiations := db.diplomacy.negotiations.mapRows storedNegotiation storedNegotiation_idpk
  { db with
    books := StoredLedger.store db.books
    diplomacy := { db.diplomacy with negotiations := negotiations } }

/-! ### Runs -/

/-- The types that concern a negotiation, and the statement that opens its cycle. -/
def negotiationTypes : List MessageType :=
  [.statusStatement,.transfer,.negotiationProposal,.ack,.nack,.give,.take]

/-- The node, and the `msgId`s of the errors it has stored. -/
structure World where
  db : Db
  errors : List String := []

inductive Turn where
  | message (payload : Payload) (now : Instant)
  | error (e : ProtocolError) (now : Instant)
  | propose (p : Proposal) (now : Instant)
  | published (msgId : String) (now : Instant)
  | publishFailed (msgId error : String)
  | expire (now : Instant)
  | retry (now : Instant)
  | list (closed : List String) (now : Instant)
  /-- The scheduler moves a cycle on. -/
  | schedule (cycleId state : String)

def World.done (w : World) : Result Db → World
  | .ok db => { w with db := commit db }
  | .error _ => w

def scheduled (db : Db) (cycleId state : String) : Db :=
  match db.books.cycles.get? cycleId with
  | none => db
  | some cycle =>
      let cycles := db.books.cycles.set { cycle with schedulerState := state }
      { db with books := { db.books with cycles := cycles } }

def step (env : Env) (w : World) : Turn → World
  | .message payload now =>
      if payload.type ∈ negotiationTypes then
        w.done (.ok (Ingest.ingest env.cfg env.jwt w.db payload now).1)
      else w
  | .error e now =>
      if e.msgId ∈ w.errors then w
      else match refuseProposal w.db e now with
        | .ok db => { db := commit db, errors := e.msgId :: w.errors }
        | .error _ => w
  | .propose p now =>
      if (w.db.diplomacy.negotiations.get? p.idpk).isSome then w
      else w.done (enqueueProposal env.cfg w.db p now)
  | .published msgId now => w.done (published w.db msgId now)
  | .publishFailed msgId error =>
      w.done (.ok { w.db with outbox := Buying.markFailed w.db.outbox msgId error })
  | .expire now => w.done (.ok (processExpired w.db now))
  | .retry now => w.done (.ok (retryTimedOut env.cfg w.db now))
  | .list closed now => w.done (.ok (expireProposals closed w.db now))
  | .schedule cycleId state => w.done (.ok (scheduled w.db cycleId state))

/-! ### A node that negotiates -/

/-- The first two messages the node sends. -/
def first : String := "50000000-0000-0000-0000-000000000001"

def second : String := "50000000-0000-0000-0000-000000000002"

def central : Env := Node.offline "AAA" [first,second]

/-- Ten kWh to sell in C1, at a cost of 20 each. -/
def negotiating : World where
  db :=
    { Node.opened "C1" with
      books := { cycles := Table.empty.insert { Node.openCycle "C1" with
        schedulerState := "NEGOTIATING", generationCapacity := some 10, consumption := some 0
        generationCost := some 20 } rfl } }

/-- A proposal of 5 kWh at 20, as `idpk`, that leaves in `msgId`. -/
def offers (direction idpk msgId : String) : List Turn :=
  [.propose ⟨"C1",idpk,direction,5,20⟩ 0,.published msgId (seconds 1)]

/-- The central's answer to the attempt that left as `target`. -/
def answer (type : MessageType) (idpk msgId target : String) (amounts : Fields) (now : Instant)
    (named : idpk ≠ "" := by decide) : Turn :=
  .message (Node.envelope type idpk msgId none (("target",.str target) :: amounts) named) now

end Negotiations

end EnergyNode
