import EnergyNode.SellerOffers
import Mathlib.Data.List.Sort

/-! Incoming bids: their commercial validation, the durable rejection, the
serialised reservation (AD4) and the acceptance policies (AD6). -/
namespace EnergyNode
open Lib

namespace SellerBids

def heldKwh (market : Market) (offerId : String) : Int :=
  market.reservations.sum fun r => if r.offerId = offerId ∧ r.status = .hold then r.quantity else 0

/-- What a locked offer can still promise. -/
def availableKwh (market : Market) (offer : MarketOffer) : Int :=
  max 0 (offer.remainingQuantity - heldKwh market offer.offerId)

/-- The fields of a bid that a rejection quotes. -/
structure Rejected where
  msgId : String
  cycleId : String
  offerId : String
  quantity : Int
  buyer : String
  reason : RejectionReason
  available : Option Int

def rejectionTarget (r : Rejected) : Result String := do
  unless cityCode r.buyer do throw (.value "buyer inválido")
  if r.cycleId = "" then throw (.value "cycleId requerido")
  if r.offerId = "" then throw (.value "offerId requerido")
  if r.quantity < 1 then throw (.value "quantity inválida")
  let some target := uuidText r.msgId | throw (.value "target msgId no es UUID")
  match r.reason, r.available with
  | .quantityUnavailable, none =>
      throw (.value "QUANTITY_UNAVAILABLE requiere available entero >= 0")
  | .quantityUnavailable, some available =>
      if available < 0 then throw (.value "QUANTITY_UNAVAILABLE requiere available entero >= 0")
      if r.quantity ≤ available then
        throw (.value "QUANTITY_UNAVAILABLE requiere requested > available")
  | _, some _ => throw (.value "available solo corresponde a QUANTITY_UNAVAILABLE")
  | _, none => pure ()
  return target

def rejectionDraft (r : Rejected) (target : String) (now : Instant) : Draft where
  content := .bidRejected r.reason target r.offerId r.quantity r.available
  cycleId := some r.cycleId
  targetMsgId := some target
  routingKey := some ("city." ++ r.buyer)
  createdAt := now

def sameRejection (r : Rejected) (target : String) (now : Instant) (row : OutboundMessage) : Bool :=
  row.content = (rejectionDraft r target now).content ∧
    row.routingKey = some ("city." ++ r.buyer) ∧ row.cycleId = some r.cycleId

/-- A second call for the same bid returns the stored answer. -/
def enqueueBidRejected (cfg : Config) (outbox : Outbox) (r : Rejected) (now : Instant) :
    Result Outbox := do
  let target ← rejectionTarget r
  match outbox.rows.find? fun row =>
      row.content.type = .bidRejected ∧ row.targetMsgId = some target with
  | some row =>
      if sameRejection r target now row then return outbox
      throw (.runtime "CONFLICTING_BID_REJECTION")
  | none => return outbox.enqueue cfg (rejectionDraft r target now)

/-- The answer stands already, or is sent now. -/
theorem enqueueBidRejected_cases {cfg : Config} {outbox outbox' : Outbox} {r : Rejected}
    {now : Instant}
    (h : enqueueBidRejected cfg outbox r now = .ok outbox') :
    ∃ target, rejectionTarget r = .ok target ∧
      ((outbox' = outbox ∧ ∃ row ∈ outbox, row.targetMsgId = some target ∧
          sameRejection r target now row) ∨
        outbox' = outbox.enqueue cfg (rejectionDraft r target now)) := by
  unfold enqueueBidRejected at h
  obtain ⟨target,ht,h⟩ := Fallible.bind_ok.mp h
  refine ⟨target,ht,?_⟩
  split at h
  · rename_i row found
    split at h <;> cases h
    rename_i same
    have answers := List.find?_some found
    rw [decide_eq_true_eq] at answers
    exact .inl ⟨rfl,row,List.mem_of_find?_eq_some found,answers.2,same⟩
  · cases h
    exact .inr rfl

/-- `type(market.minBid) is int` and positive. -/
def minBid? (cycle : Cycle) : Option Int :=
  (((cycle.statusPayload.lookup "market").bind Json.obj?).bind fun market =>
    (Fields.get market "minBid").int?).filter (0 < ·)

/-- The bid window of the cycle, as the central scheduled it. -/
def biddingOpen (cycle : Option Cycle) (now : Instant) : Bool :=
  match cycle with
  | none => false
  | some cycle =>
      match cycle.marketOpensAt, cycle.marketLastBidAt, cycle.marketClosesAt with
      | some opensAt, some lastBidAt, some closesAt =>
          opensAt ≤ now && now < lastBidAt && now < closesAt
      | _, _, _ => false

/-- The local offer a bid names, in its own cycle. -/
def offerOf? (cfg : Config) (market : Market) (offerId cycleId : String) : Option MarketOffer :=
  (SellerOffers.localOffer? cfg market offerId).filter fun offer => offer.cycleId = cycleId

def incomingBid? (market : Market) (idpk : String) : Option MarketBid :=
  (market.bids.get? idpk).filter fun bid => bid.direction = .incoming

inductive Outcome where
  | reserved (duplicate : Bool)
  | rejected (reason : RejectionReason)
  | settledBefore (status : BidStatus)
deriving DecidableEq

/-- Why a pending bid cannot be reserved now, in the order the source asks. -/
def refusal (cfg : Config) (db : Db) (bid : MarketBid) (offer : Option MarketOffer)
    (now : Instant) : Option (RejectionReason × Option Int) :=
  let cycle := db.books.cycles.get? bid.cycleId
  if !biddingOpen cycle now || db.calendar.marketClosed bid.cycleId then
    some (.marketClosed, none)
  else match offer with
    | none => some (.offerWithdrawn, none)
    | some offer =>
        if offer.status ≠ .active then some (.offerWithdrawn, none)
        else if bid.counterpartCityId = cfg.cityId then some (.selfTrade, none)
        else match cycle.bind minBid? with
          | none => some (.marketClosed, none)
          | some minBid =>
              if bid.quantity < minBid then some (.bidTooSmall, none)
              else
                let available := availableKwh db.market offer
                if available < bid.quantity then some (.quantityUnavailable, some available)
                else none

def rejectedBid (bid : MarketBid) (reason : RejectionReason) (available : Option Int)
    (now : Instant) : MarketBid :=
  { bid with
    status := .rejected
    rejectionReason := some reason.text
    availableOnRejection := if reason = .quantityUnavailable then available else none
    respondedAt := some now }

/-- `_reject`. -/
def reject (cfg : Config) (db : Db) (bid : MarketBid) (reason : RejectionReason)
    (available : Option Int) (now : Instant) : Result Db := do
  let outbox ← enqueueBidRejected cfg db.outbox
    { msgId := bid.msgId, cycleId := bid.cycleId, offerId := bid.offerId
      quantity := bid.quantity, buyer := bid.counterpartCityId
      reason := reason, available := available } now
  return { db with
    market := { db.market with bids := db.market.bids.set (rejectedBid bid reason available now) }
    outbox := outbox }

def hold (bid : MarketBid) : OfferReservation where
  offerId := bid.offerId
  bidIdpk := bid.idpk
  quantity := bid.quantity
  status := .hold

/-- The durable swap intention: our energy for the price frozen now. -/
def swapIntent (bid : MarketBid) (price : ℚ) (now : Instant) : SwapRecord where
  idpk := bid.idpk
  idempotencyKey := bid.idpk
  cycleId := bid.cycleId
  role := .proposer
  counterpartCityId := bid.counterpartCityId
  giveAsset := .kwh
  giveAmount := bid.quantity
  takeAsset := .cr
  takeAmount := centsHalfUp (bid.quantity * price)
  memo := some bid.offerId
  createdAt := now

def reservedBid (bid : MarketBid) (price : ℚ) : MarketBid :=
  { bid with status := .reserved, acceptedPricePerEnergy := some price }

/-- The three rows an accepted bid writes. -/
def commitReservation (market : Market) (bid : MarketBid) (price : ℚ) (now : Instant)
    (freeReservation : market.reservations.get? (hold bid).bidIdpk = none)
    (freeSwap : market.swaps.get? (swapIntent bid price now).idpk = none) : Market :=
  { market with
    reservations := market.reservations.insert (hold bid) freeReservation
    swaps := market.swaps.insert (swapIntent bid price now) freeSwap
    bids := market.bids.set (reservedBid bid price) }

/-- `reserve_incoming_bid`: the offer row is the lock. -/
def reserveIncomingBid (cfg : Config) (db : Db) (bidIdpk : String) (now : Instant) :
    Result (Db × Outcome) :=
  match incomingBid? db.market bidIdpk with
  | none => .error (.value "BID_UNKNOWN")
  | some bid =>
      let offer := offerOf? cfg db.market bid.offerId bid.cycleId
      match bid.status with
      | .reserved =>
          match db.market.swaps.get? bid.idpk with
          | none => .error (.runtime "RESERVED_WITHOUT_SWAP_INTENT")
          | some _ => .ok (db, .reserved true)
      | .pending =>
          match refusal cfg db bid offer now with
          | some (reason, available) =>
              (reject cfg db bid reason available now).map fun db => (db, .rejected reason)
          | none =>
              match offer with
              | none => .error .type
              | some offer =>
                  if free : db.market.reservations.get? (hold bid).bidIdpk = none ∧
                      db.market.swaps.get? (swapIntent bid offer.pricePerEnergy now).idpk = none
                  then .ok
                    ({ db with market :=
                        commitReservation db.market bid offer.pricePerEnergy now free.1 free.2 },
                      .reserved false)
                  else .error (.runtime "INCONSISTENT_BID_RESERVATION")
      | status => .ok (db, .settledBefore status)

/-- A bid is settled already, or refused, or reserved. -/
theorem reserveIncomingBid_cases {cfg : Config} {db db' : Db} {bidIdpk : String} {now : Instant}
    {outcome : Outcome}
    (h : reserveIncomingBid cfg db bidIdpk now = .ok (db',outcome)) :
    ∃ bid, incomingBid? db.market bidIdpk = some bid ∧
      ((bid.status ≠ .pending ∧ db' = db) ∨
        bid.status = .pending ∧
          ((∃ reason available,
              refusal cfg db bid (offerOf? cfg db.market bid.offerId bid.cycleId) now =
                some (reason,available) ∧
              reject cfg db bid reason available now = .ok db') ∨
            ∃ (offer : MarketOffer)
              (freeReservation : db.market.reservations.get? (hold bid).bidIdpk = none)
              (freeSwap : db.market.swaps.get?
                (swapIntent bid offer.pricePerEnergy now).idpk = none),
              offerOf? cfg db.market bid.offerId bid.cycleId = some offer ∧
              refusal cfg db bid (some offer) now = none ∧
              db' = { db with
                market := commitReservation db.market bid offer.pricePerEnergy now
                  freeReservation freeSwap })) := by
  unfold reserveIncomingBid at h
  cases found : incomingBid? db.market bidIdpk with
  | none =>
    simp only [found] at h
    cases h
  | some bid =>
    refine ⟨bid,rfl,?_⟩
    simp only [found] at h
    by_cases status : bid.status = .pending
    · refine .inr ⟨status,?_⟩
      simp only [status] at h
      split at h
      · rename_i reason available refused
        obtain ⟨done,rejected,h⟩ := Fallible.map_ok.mp h
        cases h
        exact .inl ⟨reason,available,refused,rejected⟩
      · rename_i admitted
        split at h
        · cases h
        rename_i offer named
        split at h <;> cases h
        rename_i free
        rw [named] at admitted
        exact .inr ⟨offer,free.1,free.2,named,admitted,rfl⟩
    · refine .inl ⟨status,?_⟩
      cases settled : bid.status with
      | pending => exact absurd settled status
      | reserved =>
        simp only [settled] at h
        split at h <;> cases h
        rfl
      | accepted | rejected | expired | settled =>
        simp only [settled] at h
        cases h
        rfl

/-- Why an arriving bid is refused at once; `available` is read under the lock. -/
def ingressRefusal (cfg : Config) (db : Db) (buyer cycleId : String) (quantity : Int)
    (offer : Option MarketOffer) (now : Instant) : Option (RejectionReason × Option Int) :=
  let cycle := db.books.cycles.get? cycleId
  if buyer = cfg.cityId then some (.selfTrade, none)
  else if !biddingOpen cycle now || db.calendar.marketClosed cycleId then
    some (.marketClosed, none)
  else match offer with
    | none => some (.offerWithdrawn, none)
    | some offer =>
        if offer.status ≠ .active then some (.offerWithdrawn, none)
        else match cycle.bind minBid? with
          | none => some (.marketClosed, none)
          | some minBid =>
              let available := availableKwh db.market offer
              if quantity < minBid then some (.bidTooSmall, none)
              else if available < quantity then some (.quantityUnavailable, some available)
              else none

/-- The bid a well-formed envelope carries. -/
structure BidData where
  buyer : String
  cycleId : String
  offerId : String
  quantity : Int

def bidData? (payload : Payload) : Option BidData := do
  let cycleId ← payload.cycleId
  let buyer ← payload.cityId
  let offerId ← (Fields.get payload.data "offerId").text?
  let quantity ← (Fields.get payload.data "quantity").int?
  guard (cycleId ≠ "" ∧ cityCode buyer ∧ offerId ≠ "" ∧ 0 < quantity)
  return ⟨buyer,cycleId,offerId,quantity⟩

def sameBid (data : BidData) (bid : MarketBid) : Bool :=
  bid.direction = .incoming ∧ bid.cycleId = data.cycleId ∧ bid.offerId = data.offerId ∧
    bid.counterpartCityId = data.buyer ∧ bid.quantity = data.quantity

def arrivingBid (payload : Payload) (data : BidData) (refused : Option (RejectionReason × Option Int))
    (now : Instant) : MarketBid :=
  let bid : MarketBid :=
    { idpk := payload.idpk, msgId := payload.msgId, cycleId := data.cycleId
      direction := .incoming, offerId := data.offerId, counterpartCityId := data.buyer
      quantity := data.quantity, status := .pending, createdAt := now }
  match refused with
  | none => bid
  | some (reason, available) => rejectedBid bid reason available now

/-- `process_incoming_bid`: the audit status and reason beside the new state. -/
def processIncomingBid (cfg : Config) (db : Db) (payload : Payload) (now : Instant) :
    Result (Db × InboundStatus × Option String) :=
  match bidData? payload with
  | none => .ok (db, .notProcessed, some "MALFORMED_BID")
  | some data =>
      let offer := offerOf? cfg db.market data.offerId data.cycleId
      let refused := ingressRefusal cfg db data.buyer data.cycleId data.quantity offer now
      if free : db.market.bids.get? (arrivingBid payload data refused now).idpk = none then do
        -- A bid on an unknown offer is answered but leaves no row behind.
        let market := if offer.isSome then
            { db.market with
              bids := db.market.bids.insert (arrivingBid payload data refused now) free }
          else db.market
        match refused with
        | none => return ({ db with market := market }, .processed, none)
        | some (reason, available) =>
            let outbox ← enqueueBidRejected cfg db.outbox
              { msgId := payload.msgId, cycleId := data.cycleId, offerId := data.offerId
                quantity := data.quantity, buyer := data.buyer
                reason := reason, available := available } now
            return ({ db with market := market, outbox := outbox }, .processed, some reason.text)
      else match db.market.bids.get? (arrivingBid payload data refused now).idpk with
        | some bid =>
            if sameBid data bid then .ok (db, .processed, some "ALREADY_RECORDED")
            else .ok (db, .notProcessed, some "BID_IDPK_CONFLICT")
        | none => .ok (db, .notProcessed, some "BID_IDPK_CONFLICT")

inductive Policy where
  | fifo | maxRemaining | batch
deriving DecidableEq

def Policy.ofText : String → Option Policy
  | "FIFO" => some fifo
  | "MAX_REMAINING" => some maxRemaining
  | "BATCH" => some batch
  | _ => none

/-- The policy frozen when the cycle opened (AD6). -/
def cycleAcceptancePolicy (db : Db) (cycleId : String) : Result Policy :=
  match db.books.cycles.get? cycleId with
  | none => .error (.value "BID_CYCLE_UNKNOWN")
  | some cycle =>
      match cycle.strategyVersion with
      | none => .ok .fifo
      | some version =>
          match (db.strategies.get? version).bind fun s => Policy.ofText s.bidAcceptancePolicy with
          | some policy => .ok policy
          | none => .error (.value "INVALID_CYCLE_ACCEPTANCE_STRATEGY")

def isPending (offerId : String) (bid : MarketBid) : Bool :=
  bid.offerId = offerId && bid.direction = .incoming && bid.status = .pending

def pending (market : Market) (offerId : String) : List MarketBid :=
  (market.bids.rows.filter (isPending offerId)).insertionSort fun a b => a.createdAt ≤ b.createdAt

def arrivedBefore (a b : MarketBid) : Bool :=
  a.createdAt < b.createdAt || (a.createdAt = b.createdAt && a.idpk ≤ b.idpk)

/-- Larger bids first, smaller bids first, or arrival order. -/
def precedes (policy : Policy) (a b : MarketBid) : Bool :=
  match policy with
  | .fifo => arrivedBefore a b
  | .maxRemaining => b.quantity < a.quantity || (a.quantity = b.quantity && arrivedBefore a b)
  | .batch => a.quantity < b.quantity || (a.quantity = b.quantity && arrivedBefore a b)

def ordered (bids : List MarketBid) (policy : Policy) : List MarketBid :=
  bids.insertionSort fun a b => precedes policy a b

/-- A batch waits for its collection window or for the last seconds of bidding. -/
def due (db : Db) (offer : MarketOffer) (bids : List MarketBid) (now : Instant) : Bool :=
  match (db.books.cycles.get? offer.cycleId).bind Cycle.marketLastBidAt, bids with
  | some lastBidAt, bid :: _ =>
      bid.createdAt + seconds 2 ≤ now || lastBidAt - seconds 5 ≤ now
  | _, _ => true

def candidateOffers (cfg : Config) (market : Market) (maxOffers : Nat) : List String :=
  let waiting := market.offers.rows.filter fun offer =>
    offer.isLocal && offer.cityId = cfg.cityId && !(pending market offer.offerId).isEmpty
  let arrival (offer : MarketOffer) : Int :=
    ((pending market offer.offerId).head?.map MarketBid.createdAt).getD 0
  ((waiting.insertionSort fun a b => arrival a ≤ arrival b).map MarketOffer.offerId).take maxOffers

structure Tally where
  offersProcessed : Nat := 0
  reserved : Nat := 0
  rejected : Nat := 0
  waiting : Nat := 0
  skippedFifo : Nat := 0
deriving DecidableEq

def Tally.count (tally : Tally) : Outcome → Tally
  | .reserved false => { tally with reserved := tally.reserved + 1 }
  | .rejected _ => { tally with rejected := tally.rejected + 1 }
  | _ => tally

def reserveNext (cfg : Config) (now : Instant) (state : Db × Tally) (bid : MarketBid) :
    Result (Db × Tally) := do
  let (db, outcome) ← reserveIncomingBid cfg state.1 bid.idpk now
  return (db, state.2.count outcome)

/-- One locked offer of the tick. -/
def processOffer (cfg : Config) (locked : List String) (now : Instant) (state : Db × Tally)
    (offerId : String) : Result (Db × Tally) :=
  let (db, tally) := state
  match (SellerOffers.localOffer? cfg db.market offerId).filter fun _ => offerId ∉ locked with
  | none => .ok state
  | some offer =>
      let bids := pending db.market offer.offerId
      if bids.isEmpty then .ok state
      else do
        let policy ← cycleAcceptancePolicy db offer.cycleId
        if policy ≠ .fifo && !due db offer bids now then
          return (db, { tally with waiting := tally.waiting + bids.length })
        let tally := { tally with
          offersProcessed := tally.offersProcessed + 1
          skippedFifo := if policy = .fifo then tally.skippedFifo + 1 else tally.skippedFifo }
        (ordered bids policy).foldlM (reserveNext cfg now) (db, tally)

/-- `process_due_seller_bids`; offers in `locked` are held by another worker. -/
def processDueSellerBids (cfg : Config) (db : Db) (locked : List String) (maxOffers : Nat)
    (now : Instant) : Result (Db × Tally) :=
  if maxOffers < 1 then .error (.value "max_offers debe ser entero positivo")
  else (candidateOffers cfg db.market maxOffers).foldlM (processOffer cfg locked now) (db, {})

end SellerBids

end EnergyNode
