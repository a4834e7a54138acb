import EnergyNode.MarketFeed
import EnergyNode.SellerBids
import EnergyNode.SwapTimeouts
import EnergyNode.TradeEvents
import Mathlib.Data.List.Sort

/-! Buying: the order book over the feed, the candidates of the cycle's
strategy, and the durable bid. A bid names an offer and a quantity, no price. -/
namespace EnergyNode
open Lib

namespace Buying

structure Transport where
  distance : Option ℚ := none
  routeEnabled : Option Bool := none
  rate : Option ℚ := none
  perEnergy : Option ℚ := none
  effectivePrice : Option ℚ := none
deriving DecidableEq

def nonNegative (value : Json) : Option ℚ := (Decimal.number value).filter (0 ≤ ·)

/-- `_round2`; `none` where the cents need more digits than the context has. -/
def round2 (value : ℚ) : Option ℚ :=
  if |halfUp (value * 100)| < 10 ^ Decimal.precision then some (centsHalfUp value) else none

/-- The transport of one kWh over so many metres, and the price it makes of a
nominal one. -/
def prices (distance rate nominal : ℚ) : Option (ℚ × ℚ) := do
  let perEnergy ← round2 (keep Decimal.precision
    (keep Decimal.precision (distance / 1000) * rate))
  let effective ← round2 (keep Decimal.precision (nominal + perEnergy))
  return (perEnergy,effective)

/-- `calculate_transport`: fields stay empty until a tariff can be verified. -/
def calculateTransport (table : Option DistanceTable) (seller : String) (price : Option ℚ) :
    Transport :=
  match (table.bind fun t => t.distances.obj?).bind fun d => (Fields.get d seller).obj? with
  | none => {}
  | some route =>
      match nonNegative (Fields.get route "distance"), (Fields.get route "enabled").bool? with
      | some distance, some enabled =>
          let base : Transport := { distance := some distance, routeEnabled := some enabled }
          let rate := if enabled then nonNegative (Fields.get route "transportCost")
            else (table.bind DistanceTable.disabledRouteTransportCost).filter (0 ≤ ·)
          match rate, price.filter (0 ≤ ·) with
          | some rate, some nominal =>
              match prices distance rate nominal with
              | some (perEnergy,effective) =>
                  { base with
                    rate := some rate, perEnergy := some perEnergy
                    effectivePrice := some effective }
              | none => base
          | _, _ => base
      | _, _ => {}

/-- The newest distance table of the cycle. -/
def distanceTable? (db : Db) (cycleId : String) : Option DistanceTable :=
  ((db.diplomacy.distances.rows.reverse.filter fun t => t.cycleId = some cycleId).insertionSort
    fun a b => b.sourceTimestamp ≤ a.sourceTimestamp).head?

structure BookOffer where
  snapshot : MarketFeedOffer
  transport : Transport
  stale : Bool
deriving DecidableEq

def marketClosed (db : Db) (cycleId : String) (now : Instant) : Bool :=
  db.calendar.marketClosed cycleId ||
    match (db.books.cycles.get? cycleId).bind Cycle.marketClosesAt with
    | some closesAt => closesAt ≤ now
    | none => false

def gapRisk (db : Db) (snapshot : MarketFeedOffer) : Bool :=
  match (db.marketCycles.get? snapshot.cycleId).bind MarketCycle.feedGapAt with
  | some gapAt => snapshot.lastEventAt ≤ gapAt
  | none => false

def listed (snapshot : MarketFeedOffer) : Bool :=
  snapshot.state = .active && (snapshot.remaining.getD 0 > 0) && snapshot.pricePerEnergy.isSome

/-- `get_market_book` without the inactive offers. -/
def marketBook (db : Db) (cycleId : String) (now : Instant) : List BookOffer :=
  if marketClosed db cycleId now then []
  else (db.feed.rows.filter fun s => s.cycleId = cycleId && listed s).map fun s =>
    { snapshot := s
      transport := calculateTransport (distanceTable? db cycleId) s.cityId s.pricePerEnergy
      stale := s.uncertain || s.state = .unresolved || gapRisk db s }

/-- The keys of the two selection policies, compared in order. -/
def rank (cheapest : Bool) (o : BookOffer) : ℚ × ℚ × Int :=
  let price := o.transport.effectivePrice.getD 0
  let distance := o.transport.distance.getD 0
  let remaining := o.snapshot.remaining.getD 0
  if cheapest then (price,distance,-remaining) else (distance,price,-remaining)

def before (cheapest : Bool) (a b : BookOffer) : Bool :=
  let (a₁,a₂,a₃) := rank cheapest a
  let (b₁,b₂,b₃) := rank cheapest b
  a₁ < b₁ || (a₁ = b₁ && (a₂ < b₂ || (a₂ = b₂ && (a₃ < b₃ || (a₃ = b₃ &&
    (a.snapshot.cityId < b.snapshot.cityId ||
      (a.snapshot.cityId = b.snapshot.cityId && a.snapshot.offerId ≤ b.snapshot.offerId)))))))

structure Window where
  minBid : Int
  lastBidAt : Instant
  cheapest : Bool

/-- Why the cycle admits no bid now, or the terms on which it does. -/
def window (db : Db) (cycleId : String) (now : Instant) : Except String Window := do
  let some cycle := (db.books.cycles.get? cycleId).filter fun c => c.statusIdpk.isSome
    | throw "MISSING_STATUS"
  let some strategy := cycle.strategyVersion.bind db.strategies.get?
    | throw "MISSING_CYCLE_STRATEGY"
  let some minBid := SellerBids.minBid? cycle | throw "MISSING_MIN_BID"
  let cheapest := strategy.offerSelectionPolicy = "CHEAPEST_EFFECTIVE_PRICE"
  unless (cheapest ∨ strategy.offerSelectionPolicy = "MIN_DISTANCE") ∧ 0 ≤ strategy.spanSeconds do
    throw "INVALID_STRATEGY"
  let some opensAt := cycle.marketOpensAt | throw "MISSING_OR_INVALID_WINDOW"
  let some lastBidAt := cycle.marketLastBidAt | throw "MISSING_OR_INVALID_WINDOW"
  let some closesAt := cycle.marketClosesAt | throw "MISSING_OR_INVALID_WINDOW"
  unless opensAt < lastBidAt ∧ lastBidAt ≤ closesAt do throw "MISSING_OR_INVALID_WINDOW"
  if marketClosed db cycleId now then throw "MARKET_CLOSED"
  if lastBidAt ≤ now then throw "LAST_BID_PASSED"
  if now < opensAt then throw "MARKET_NOT_OPEN"
  if now < opensAt + seconds strategy.spanSeconds then throw "WAITING_SPAN"
  return ⟨minBid,lastBidAt,cheapest⟩

def eligible (cfg : Config) (minBid : Int) (o : BookOffer) : Bool :=
  o.snapshot.cityId ≠ cfg.cityId && !o.stale && (minBid ≤ o.snapshot.remaining.getD 0) &&
    o.transport.distance.isSome && o.transport.effectivePrice.isSome

/-- `get_buy_candidates`. -/
def candidates (cfg : Config) (db : Db) (cycleId : String) (w : Window) (now : Instant) :
    List BookOffer :=
  ((marketBook db cycleId now).filter (eligible cfg w.minBid)).insertionSort
    fun a b => before w.cheapest a b

def outstanding (market : Market) (offerId cycleId : String) : Int :=
  market.bids.sum fun b =>
    if b.offerId = offerId ∧ b.cycleId = cycleId ∧ b.direction = .outgoing ∧
        (b.status = .pending ∨ b.status = .accepted) then b.quantity else 0

/-- The local copy of a foreign offer that a bid refers to. -/
def reference (o : BookOffer) : MarketOffer where
  offerId := o.snapshot.offerId
  cycleId := o.snapshot.cycleId
  cityId := o.snapshot.cityId
  isLocal := false
  initialQuantity := match o.snapshot.initialQuantity with
    | some quantity => if quantity = 0 then o.snapshot.remaining.getD 0 else quantity
    | none => o.snapshot.remaining.getD 0
  remainingQuantity := o.snapshot.remaining.getD 0
  pricePerEnergy := o.snapshot.pricePerEnergy.getD 0
  status := .active

structure Order where
  cycleId : String
  offerId : String
  quantity : Int
  idpk : String

/-- The listed offer an order may buy from. -/
def select (cfg : Config) (db : Db) (order : Order) (now : Instant) :
    Except String (BookOffer × Window) := do
  let w ← window db order.cycleId now
  let some o := (candidates cfg db order.cycleId w now).find? fun o =>
      o.snapshot.offerId = order.offerId
    | throw "OFFER_NOT_ELIGIBLE"
  let remaining := o.snapshot.remaining.getD 0
  if order.quantity < w.minBid ∨ remaining < order.quantity then
    throw "QUANTITY_NOT_AVAILABLE_OR_TOO_SMALL"
  if remaining < outstanding db.market order.offerId order.cycleId + order.quantity then
    throw "LOCAL_PENDING_BIDS_EXCEED_REMAINING"
  return (o,w)

def outgoing (order : Order) (seller msgId : String) (now : Instant) : MarketBid where
  idpk := order.idpk
  msgId := msgId
  cycleId := order.cycleId
  direction := .outgoing
  offerId := order.offerId
  counterpartCityId := seller
  quantity := order.quantity
  status := .pending
  createdAt := now

def bidDraft (order : Order) (seller : String) (lastBidAt now : Instant) : Draft where
  content := .bid order.offerId order.quantity
  cycleId := some order.cycleId
  routingKey := some ("city." ++ seller)
  createdAt := now
  expiresAt := some lastBidAt

/-- Stores an outgoing message under the idpk of its operation. -/
def enqueueAs (cfg : Config) (outbox : Outbox) (idpk : String) (draft : Draft) : Outbox :=
  outbox.insert ⟨draft,cfg.uuid4 (outbox.ids ++ [idpk]),idpk⟩ (Outbox.get?_fresh cfg outbox [idpk])

/-- Our own offers are never bought from, and a reference keeps its city. -/
def referenced? (market : Market) (o : BookOffer) : Option (Table MarketOffer.offerId) :=
  match market.offers.get? o.snapshot.offerId with
  | none => market.offers.insert? (reference o)
  | some old =>
      if old.cycleId = o.snapshot.cycleId ∧ old.cityId = o.snapshot.cityId then some market.offers
      else none

inductive Answer where
  | created | duplicate | refused (detail : String)
deriving DecidableEq

def place (cfg : Config) (db : Db) (order : Order) (o : BookOffer) (w : Window)
    (offers : Table MarketOffer.offerId) (now : Instant) : Option Db :=
  let msgId := cfg.uuid4 (db.outbox.ids ++ [order.idpk])
  (db.market.bids.insert? (outgoing order o.snapshot.cityId msgId now)).map fun bids =>
    { db with
      market := { db.market with offers := offers, bids := bids }
      outbox := enqueueAs cfg db.outbox order.idpk
        (bidDraft order o.snapshot.cityId w.lastBidAt now) }

/-- `enqueue_buy_bid`. -/
def enqueueBuyBid (cfg : Config) (db : Db) (order : Order) (now : Instant) : Db × Answer :=
  if order.quantity < 1 then (db, .refused "quantity debe ser entero positivo")
  else match db.market.bids.get? order.idpk with
    | some old =>
        if old.direction = .outgoing ∧ old.cycleId = order.cycleId ∧
            old.offerId = order.offerId ∧ old.quantity = order.quantity then (db, .duplicate)
        else (db, .refused "idpk reutilizado para otro bid")
    | none =>
        match select cfg db order now with
        | .error detail => (db, .refused detail)
        | .ok (o,w) =>
            match referenced? db.market o with
            | none => (db, .refused "OFFER_REFERENCE_CONFLICT")
            | some offers =>
                match place cfg db order o w offers now with
                | some db => (db, .created)
                | none => (db, .refused "idpk reutilizado para otro bid")

/-- The connector reports the publication of an outbox message. -/
def markPublished (outbox : Outbox) (msgId : String) : Outbox :=
  match outbox.get? msgId with
  | none => outbox
  | some row =>
      let stopped := { row with dispatchRequired := false }
      if row.status = .published then outbox.set stopped
      else outbox.set { stopped with
        status := .published, attemptCount := row.attemptCount + 1, lastError := none }

def markFailed (outbox : Outbox) (msgId error : String) : Outbox :=
  match outbox.get? msgId with
  | none => outbox
  | some row =>
      if row.status = .published ∨ (row.status = .failed ∧ row.lastError = some error) then outbox
      else outbox.set { row with
        status := .failed, attemptCount := row.attemptCount + 1, lastError := some error }

def renewable (row : OutboundMessage) : Bool :=
  row.content.type = .bid && row.status = .failed && row.dispatchRequired

/-- The pending bid whose latest attempt this is. -/
def attemptOf? (market : Market) (row : OutboundMessage) : Option MarketBid :=
  (market.bids.get? row.idpk).filter fun bid =>
    bid.direction = .outgoing && bid.status = .pending && bid.msgId = row.msgId

/-- One failed attempt: the same operation leaves again under a new message. -/
def renewOne (cfg : Config) (now : Instant) (db : Db) (previous : OutboundMessage) : Db :=
  let stopped := { previous with dispatchRequired := false }
  if SwapTimeouts.passed previous.expiresAt now then
    { db with outbox := db.outbox.set { stopped with lastError := some "LAST_BID_PASSED" } }
  else
    let outbox : Outbox := db.outbox.set stopped
    match attemptOf? db.market previous with
    | none => { db with outbox := outbox }
    | some bid =>
        { db with
          market := { db.market with
            bids := db.market.bids.set
              { bid with msgId := cfg.uuid4 (outbox.ids ++ [previous.idpk]) } }
          outbox := enqueueAs cfg outbox previous.idpk
            { previous.toDraft with
              status := .pending, attemptCount := 0, lastError := none, createdAt := now } }

/-- `renew_failed_bid_dispatches`. -/
def renewFailed (cfg : Config) (db : Db) (now : Instant) : Db :=
  (db.outbox.rows.filter renewable).foldl (renewOne cfg now) db

end Buying

end EnergyNode
