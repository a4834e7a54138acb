import EnergyNode.Db
import EnergyNode.Lib.Fallible
import EnergyNode.Lib.Rounding

/-! Local sale offers: their creation from the central's statement, price
changes, withdrawal and closing, each with its outbox message. -/
namespace EnergyNode
open Lib

/-- The rows that say where a cycle's market stands. -/
structure Calendar where
  cycles : Table Cycle.cycleId
  marketCycles : Table MarketCycle.cycleId

def Db.calendar (db : Db) : Calendar := ⟨db.books.cycles,db.marketCycles⟩

def Calendar.marketClosed (calendar : Calendar) (cycleId : String) : Bool :=
  match calendar.marketCycles.get? cycleId with
  | some market => market.closedAt.isSome
  | none => false

/-- Python's `int(value)` on a JSON value; `none` is TypeError or ValueError. -/
def Json.toInt? : Json → Option Int
  | .int n => some n
  | .bool b => some (if b then 1 else 0)
  | .float q => some (roundDown q)
  | .str s => ((Decimal.ofText s).bind Decimal.finite?).bind fun q =>
      if q.den = 1 then some q.num else none
  | _ => none

namespace SellerOffers

structure Pricing where
  sellable : Int
  walletAvailable : ℚ
  generationCost : ℚ
  buybackPrice : ℚ
  markup : ℚ
  fraction : ℚ
  priceOverride : Option ℚ
  quantityCap : Option Int

def calculateOffer (p : Pricing) : Result (Int × ℚ) := do
  unless 0 ≤ p.fraction ∧ p.fraction ≤ 1 do
    throw (.value "offer_quantity_fraction debe estar entre 0 y 1")
  unless 0 < p.markup do
    throw (.value "offer_price_markup debe ser positivo")
  if let some price := p.priceOverride then
    unless 0 < price do throw (.value "offer_price_override debe ser positivo y finito")
    unless price = centsHalfEven price do
      throw (.value "offer_price_override debe expresarse en centavos")
  if let some cap := p.quantityCap then
    unless 0 ≤ cap do throw (.value "offer_quantity_cap debe ser entero no negativo")
  let walletKwh := max 0 (roundDown p.walletAvailable)
  let available := min (max 0 p.sellable) walletKwh
  let quantity := roundDown (available * p.fraction)
  let quantity := match p.quantityCap with
    | some cap => min quantity cap
    | none => quantity
  let price := match p.priceOverride with
    | some price => price
    | none => max p.buybackPrice (centsHalfUp (p.generationCost * p.markup))
  return (quantity, centsHalfUp price)

def energyData (cycle : Cycle) : Result Fields :=
  match cycle.statusPayload.lookup "energy" with
  | none => .ok []
  | some (.obj energy) => .ok energy
  | some _ => .error .type

def eligible (cycle : Option Cycle) (now : Instant) : Result Bool :=
  match cycle with
  | none => .ok false
  | some cycle =>
      match cycle.statusIdpk, cycle.marketOpensAt, cycle.marketLastOfferAt with
      | some _, some opensAt, some lastOfferAt =>
          if opensAt ≤ now ∧ now + seconds 5 < lastOfferAt then do
            let energy ← energyData cycle
            match ((energy.lookup "sellable").getD (.int 0)).toInt? with
            | some sellable => return 0 < sellable
            | none => throw .type
          else .ok false
      | _, _, _ => .ok false

def decimal (value : Option Json) (field : String) : Result ℚ :=
  match value with
  | none => .error (.key field)
  | some value =>
      match Decimal.number value with
      | some q => .ok q
      | none => .error .type

def marketData (cycle : Cycle) : Result Fields :=
  match cycle.statusPayload.lookup "market" with
  | none => .ok []
  | some (.obj market) => .ok market
  | some _ => .error .type

def pricing (strategy : StrategyConfig) (energy : Fields) (buyback : Json)
    (walletAvailable : ℚ) : Result Pricing := do
  let some sellable := (Fields.get energy "sellable").toInt? | throw .type
  let generationCost ← decimal (energy.lookup "generationCost") "generationCost"
  let buybackPrice ← decimal (some buyback) "buybackPrice"
  return {
    sellable := sellable
    walletAvailable := walletAvailable
    generationCost := generationCost
    buybackPrice := buybackPrice
    markup := strategy.offerPriceMarkup
    fraction := strategy.offerQuantityFraction
    priceOverride := strategy.offerPriceOverride
    quantityCap := strategy.offerQuantityCap }

/-- The quantity and price to publish; `none` when there is nothing to offer. -/
def offerPlan (db : Db) (cycle : Cycle) (walletAvailable : ℚ) : Result (Option (Int × ℚ)) := do
  let energy ← energyData cycle
  let market ← marketData cycle
  let some buyback := market.lookup "buybackPrice"
    | throw (.value "status-statement no trae market.buybackPrice")
  let some version := cycle.strategyVersion
    | throw (.value ("El ciclo " ++ cycle.cycleId ++ " no tiene estrategia AD6 asignada"))
  let some strategy := db.strategies.get? version | throw .database
  let (quantity, price) ← calculateOffer (← pricing strategy energy buyback walletAvailable)
  if quantity ≤ 0 then return none
  let some minBid := ((Fields.get market "minBid").orElse (.int 0)).toInt? | throw .type
  if quantity < minBid then return none
  return some (quantity, price)

def localOfferId (cfg : Config) (cycleId : String) : String := cfg.cityId ++ "-" ++ cycleId

def newOffer (cfg : Config) (cycleId : String) (quantity : Int) (price : ℚ) : MarketOffer where
  offerId := localOfferId cfg cycleId
  cycleId := cycleId
  cityId := cfg.cityId
  isLocal := true
  initialQuantity := quantity
  remainingQuantity := quantity
  pricePerEnergy := price
  status := .active

def offerDraft (cfg : Config) (cycle : Cycle) (offer : MarketOffer) (now : Instant) : Draft where
  content := .offer offer.offerId offer.initialQuantity offer.pricePerEnergy
  cycleId := some cycle.cycleId
  routingKey := some ("market.offer." ++ cfg.cityId)
  exchangeName := "market"
  availableAt := cycle.marketOpensAt
  expiresAt := cycle.marketLastOfferAt
  createdAt := now

/-- The second transaction of `enqueue_seller_offer`, after the wallet answered
`walletAvailable`; the first one only repeats its checks. -/
def enqueueSellerOffer (cfg : Config) (db : Db) (cycleId : String) (walletAvailable : ℚ)
    (now : Instant) : Result Db := do
  let cycle? := db.books.cycles.get? cycleId
  unless ← eligible cycle? now do return db
  let some cycle := cycle? | return db
  if db.calendar.marketClosed cycleId then return db
  if free : db.market.offers.get? (localOfferId cfg cycleId) = none then
    let some (quantity, price) ← offerPlan db cycle walletAvailable | return db
    let offer := newOffer cfg cycleId quantity price
    return { db with
      market := { db.market with offers := db.market.offers.insert offer free }
      outbox := db.outbox.enqueue cfg (offerDraft cfg cycle offer now) }
  else return db

/-- Nothing happens, or a cycle whose market is open gets its offer. -/
theorem enqueueSellerOffer_cases {cfg : Config} {db db' : Db} {cycleId : String} {available : ℚ}
    {now : Instant} (h : enqueueSellerOffer cfg db cycleId available now = .ok db') :
    db' = db ∨ ∃ (cycle : Cycle) (free : db.market.offers.get? (localOfferId cfg cycleId) = none)
      (quantity : Int) (price : ℚ),
      db.books.cycles.get? cycleId = some cycle ∧ ¬ db.calendar.marketClosed cycleId ∧
      offerPlan db cycle available = .ok (some (quantity,price)) ∧
      db' = { db with
        market := { db.market with
          offers := db.market.offers.insert (newOffer cfg cycleId quantity price) free }
        outbox := db.outbox.enqueue cfg
          (offerDraft cfg cycle (newOffer cfg cycleId quantity price) now) } := by
  unfold enqueueSellerOffer at h
  obtain ⟨ready,_,h⟩ := Fallible.bind_ok.mp h
  split at h
  · split at h
    · rename_i cycle found
      split at h
      · cases h
        exact .inl rfl
      rename_i live
      split at h
      · rename_i free
        obtain ⟨plan,planned,h⟩ := Fallible.bind_ok.mp h
        split at h <;> cases h
        · exact .inr ⟨cycle,free,_,_,found,live,planned,rfl⟩
        · exact .inl rfl
      · cases h
        exact .inl rfl
    · cases h
      exact .inl rfl
  · cases h
    exact .inl rfl

def canBroadcast (cfg : Config) (calendar : Calendar) (offer : MarketOffer) (now : Instant) :
    Bool :=
  if !offer.isLocal || offer.cityId ≠ cfg.cityId then false
  else match calendar.cycles.get? offer.cycleId with
    | none => false
    | some cycle =>
        match cycle.marketLastOfferAt with
        | none => false
        | some lastOfferAt =>
            now < lastOfferAt &&
            (match cycle.marketClosesAt with
              | some closesAt => now < closesAt
              | none => true) &&
            !calendar.marketClosed offer.cycleId

/-- `_enqueue`: the difusion of an offer event on the market exchange. -/
def broadcast (cfg : Config) (calendar : Calendar) (outbox : Outbox) (offer : MarketOffer)
    (content : Content) (now : Instant) : Outbox :=
  outbox.enqueue cfg
    { content := content
      cycleId := some offer.cycleId
      exchangeName := "market"
      routingKey := some ("market.offer." ++ cfg.cityId)
      availableAt := some now
      expiresAt := (calendar.cycles.get? offer.cycleId).bind Cycle.marketLastOfferAt
      createdAt := now }

def enqueueConfirmedOfferUpdate (cfg : Config) (calendar : Calendar) (outbox : Outbox)
    (offer : MarketOffer) (now : Instant) : Outbox :=
  if offer.status ≠ .active || !canBroadcast cfg calendar offer now then outbox
  else broadcast cfg calendar outbox offer
    (.offerUpdated offer.offerId offer.remainingQuantity offer.pricePerEnergy) now

/-- The row `SELECT ... WHERE offer_id = .. AND is_local AND city_id = CITY_ID`. -/
def localOffer? (cfg : Config) (market : Market) (offerId : String) : Option MarketOffer :=
  (market.offers.get? offerId).filter fun offer => offer.isLocal && offer.cityId = cfg.cityId

def changeLocalOfferPrice (cfg : Config) (db : Db) (offerId : String) (price : Decimal)
    (now : Instant) : Result Db :=
  match price with
  | .special => .error (.value "pricePerEnergy debe ser positivo y finito")
  | .finite price =>
      if price ≤ 0 then .error (.value "pricePerEnergy debe ser positivo y finito")
      else
        let value := centsHalfUp price
        match localOffer? cfg db.market offerId with
        | none => .error (.value "Oferta local inexistente o no activa")
        | some offer =>
            if offer.status ≠ .active then
              .error (.value "Oferta local inexistente o no activa")
            else if !canBroadcast cfg db.calendar offer now then
              .error (.value "No se permite cambiar el precio después de lastOfferAt/cierre")
            else if offer.pricePerEnergy = value then .ok db
            else
              let offer := { offer with pricePerEnergy := value }
              .ok { db with
                market := { db.market with offers := db.market.offers.set offer }
                outbox := enqueueConfirmedOfferUpdate cfg db.calendar db.outbox offer now }

def withdrawLocalOffer (cfg : Config) (db : Db) (offerId : String) (now : Instant) : Result Db :=
  match localOffer? cfg db.market offerId with
  | none => .error (.value "Oferta local inexistente")
  | some offer =>
      match offer.status with
      | .withdrawn => .ok db
      | .closed => .error (.value "Oferta ya cerrada")
      | .active =>
          if !canBroadcast cfg db.calendar offer now then
            .error (.value "No se permite retirar después de lastOfferAt/cierre")
          else
            let offer := { offer with status := .withdrawn }
            .ok { db with
              market := { db.market with offers := db.market.offers.set offer }
              outbox := broadcast cfg db.calendar db.outbox offer
                (.offerWithdrawn offer.offerId) now }

def closing (cfg : Config) (cycleId : String) (offer : MarketOffer) : MarketOffer :=
  if offer.cycleId = cycleId ∧ offer.isLocal ∧ offer.cityId = cfg.cityId ∧ offer.status = .active
  then { offer with status := .closed } else offer

@[simp] theorem closing_offerId (cfg : Config) (cycleId : String) (offer : MarketOffer) :
    (closing cfg cycleId offer).offerId = offer.offerId := by
  unfold closing
  split <;> rfl

/-- MARKET_OFFER_TYPES. -/
def isOfferEvent : Content → Bool
  | .offer .. | .offerUpdated .. | .offerWithdrawn .. => true
  | _ => false

def silenced (cycleId : String) (row : OutboundMessage) : OutboundMessage :=
  if row.cycleId = some cycleId ∧ isOfferEvent row.content ∧ row.status ≠ .published ∧
      row.dispatchRequired then
    { row with dispatchRequired := false, lastError := some "MARKET_CLOSED" }
  else row

@[simp] theorem silenced_msgId (cycleId : String) (row : OutboundMessage) :
    (silenced cycleId row).msgId = row.msgId := by
  unfold silenced
  split <;> rfl

def closeLocalOffers (cfg : Config) (db : Db) (cycleId : String) : Db :=
  { db with
    market := { db.market with
      offers := db.market.offers.mapRows (closing cfg cycleId) (closing_offerId cfg cycleId) }
    outbox := db.outbox.mapRows (silenced cycleId) (silenced_msgId cycleId) }

/-- The cycles of `close_expired_local_offers`, without repetition. -/
def expiredCycles (cfg : Config) (db : Db) (now : Instant) : List String :=
  ((db.market.offers.rows.filter fun offer =>
    offer.isLocal && offer.cityId = cfg.cityId && offer.status = .active &&
      (match (db.books.cycles.get? offer.cycleId).bind Cycle.marketClosesAt with
        | some closesAt => closesAt ≤ now
        | none => false)).map MarketOffer.cycleId).dedup

def closeExpiredLocalOffers (cfg : Config) (db : Db) (now : Instant) : Db :=
  (expiredCycles cfg db now).foldl (closeLocalOffers cfg) db

end SellerOffers

end EnergyNode
