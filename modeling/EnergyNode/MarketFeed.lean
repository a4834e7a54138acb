import EnergyNode.Opening
import EnergyNode.SellerOffers

/-! The public market feed: each city's only offer of a cycle as a conservative
snapshot, updated under the market row of the cycle. -/
namespace EnergyNode
open Lib

namespace MarketFeed

inductive Event where
  | offer (offerId : String) (quantity : Int) (price : ℚ)
  | updated (offerId : String) (remaining : Int) (price : ℚ)
  | withdrawn (offerId : String)
  | closed
deriving DecidableEq

def numberOf : Json → Option ℚ
  | .int n => some n
  | .float q => some q
  | _ => none

/-- `MarketFeedMessageIn`: the event a feed envelope carries, with its sender. -/
def event? (payload : Payload) : Option (String × Event) := do
  guard (payload.idpk ≠ payload.msgId ∧ payload.cycleId.isSome ∧ payload.cycleId ≠ some "")
  if payload.type = .marketClosed then
    guard (payload.sender = some "central" ∧ payload.cityId = none ∧ payload.data.isEmpty ∧
      payload.extra.isEmpty)
    return ("central",.closed)
  let city ← payload.cityId
  guard (payload.sender = none ∧ cityCode city)
  let offerId ← ((payload.data.get "offerId").text?).filter (· ≠ "")
  match payload.type with
  | .offer =>
      return (city,.offer offerId (← (payload.data.get "quantity").int?)
        (← numberOf (payload.data.get "pricePerEnergy")))
  | .offerUpdated =>
      return (city,.updated offerId (← (payload.data.get "remaining").int?)
        (← numberOf (payload.data.get "pricePerEnergy")))
  | .offerWithdrawn => return (city,.withdrawn offerId)
  | _ => none

abbrev Feed := Table MarketFeedOffer.place

abbrev Audit := InboundStatus × Option String

def doubted (feed : Feed) (snapshot : MarketFeedOffer) (reason : String) : Feed × Audit :=
  (feed.set { snapshot with uncertain := true }, .notProcessed, some reason)

def gone (snapshot : MarketFeedOffer) (time : Instant) : Bool :=
  snapshot.state = .withdrawn || snapshot.state = .closed || time ≤ snapshot.lastEventAt

def firstSight (payload : Payload) (cycleId city : String) (event : Event) : MarketFeedOffer :=
  let base : MarketFeedOffer :=
    { cycleId := cycleId, cityId := city, offerId := "", state := .unresolved, uncertain := true
      lastEventAt := payload.timestamp, lastEventMsgId := payload.msgId }
  match event with
  | .offer offerId quantity price =>
      { base with
        offerId := offerId, initialQuantity := some quantity, remaining := some quantity
        pricePerEnergy := some price, state := .active, uncertain := false }
  | .updated offerId remaining price =>
      { base with
        offerId := offerId, remaining := some remaining, pricePerEnergy := some price }
  | .withdrawn offerId =>
      { base with offerId := offerId, remaining := some 0, state := .withdrawn }
  | .closed => base

def firstAudit : Event → Audit
  | .updated .. => (.notProcessed, some "Actualización recibida antes de la oferta base")
  | .withdrawn _ => (.processed, some "Retiro recibido antes de la oferta base")
  | _ => (.processed, none)

def Event.offerId : Event → String
  | .offer id .. => id
  | .updated id .. => id
  | .withdrawn id => id
  | .closed => ""

/-- `_apply_offer_event` on an open market. -/
def applyOfferEvent (feed : Feed) (payload : Payload) (cycleId city : String) (event : Event) :
    Feed × Audit :=
  match feed.get? (cycleId,city) with
  | none =>
      match feed.insert? (firstSight payload cycleId city event) with
      | some feed => (feed, firstAudit event)
      | none => (feed, firstAudit event)
  | some snapshot =>
      if snapshot.offerId ≠ event.offerId then
        doubted feed snapshot "Otra oferta ya ocupa esta ciudad y ciclo"
      else match event with
        | .offer _ quantity _ =>
            if snapshot.state = .unresolved ∧ payload.timestamp < snapshot.lastEventAt then
              (feed.set { snapshot with
                  initialQuantity := some quantity, state := .active, uncertain := true },
                .processed,
                some "Oferta base llegó después de una actualización; orden incierto")
            else doubted feed snapshot "Oferta base repetida o fuera de orden"
        | .updated _ remaining price =>
            if gone snapshot payload.timestamp then
              doubted feed snapshot "Actualización atrasada o posterior al retiro"
            else (feed.set { snapshot with
                remaining := some remaining, pricePerEnergy := some price
                lastEventAt := payload.timestamp, lastEventMsgId := payload.msgId },
              .processed, none)
        | .withdrawn _ =>
            if gone snapshot payload.timestamp then
              doubted feed snapshot "Retiro atrasado o repetido"
            else (feed.set { snapshot with
                state := .withdrawn, remaining := some 0
                lastEventAt := payload.timestamp, lastEventMsgId := payload.msgId },
              .processed, none)
        | .closed => (feed, .processed, none)

def shut (cycleId : String) (o : MarketFeedOffer) : MarketFeedOffer :=
  if o.cycleId = cycleId ∧ (o.state = .active ∨ o.state = .unresolved) then
    { o with state := .closed }
  else o

@[simp] theorem shut_place (cycleId : String) (o : MarketFeedOffer) :
    (shut cycleId o).place = o.place := by
  unfold shut
  split <;> rfl

/-- `_lock_market_cycle`. -/
def marketCycle (cycles : Table MarketCycle.cycleId) (cycleId : String) :
    Table MarketCycle.cycleId :=
  (cycles.insert? { cycleId := cycleId }).getD cycles

/-- `_apply_market_closed`, also the end of our own offers of the cycle. -/
def applyMarketClosed (cfg : Config) (db : Db) (payload : Payload) (market : MarketCycle) : Db :=
  let db := { db with
    marketCycles := db.marketCycles.set
      { market with closedAt := some payload.timestamp, closedMsgId := some payload.msgId }
    feed := db.feed.mapRows (shut market.cycleId) (shut_place market.cycleId) }
  SellerOffers.closeLocalOffers cfg db market.cycleId

def applyEvent (cfg : Config) (db : Db) (payload : Payload) (city : String) (event : Event)
    (market : MarketCycle) : Db × Audit :=
  match event with
  | .closed =>
      if market.closedAt.isSome then
        (db, .notProcessed, some "Cierre adicional para un mercado ya cerrado")
      else (applyMarketClosed cfg db payload market, .processed, none)
  | _ =>
      if market.closedAt.isSome then
        (db, .notProcessed, some "El mercado de este ciclo ya cerró")
      else
        let (feed, audit) := applyOfferEvent db.feed payload market.cycleId city event
        ({ db with feed := feed }, audit)

def claimed (db : Db) (sender : String) (payload : Payload) : Option MarketEventClaim :=
  db.feedClaims.find? fun c =>
    c.sender = sender && (c.payload.idpk = payload.idpk || c.payload.msgId = payload.msgId)

def received (db : Db) (payload : Payload) (audit : Audit) : Db :=
  { db with inbox := db.inbox ++ [⟨payload,audit.1,audit.2⟩] }

/-- `persist_market_feed`; an envelope the schema refuses leaves no trace. -/
def persist (cfg : Config) (db : Db) (payload : Payload) : Db :=
  match event? payload with
  | none => db
  | some (sender,event) =>
      match claimed db sender payload with
      | some old =>
          received db payload (if old.payload.sameOperation payload then
            (.duplicate, some "Redelivery de la misma operación")
            else (.notProcessed, some "idpk o msgId reutilizado con otro contenido"))
      | none =>
          let cycleId := payload.cycleId.getD ""
          let db := { db with
            feedClaims := db.feedClaims ++ [⟨sender,payload⟩]
            marketCycles := marketCycle db.marketCycles cycleId }
          let market := (db.marketCycles.get? cycleId).getD { cycleId := cycleId }
          let (db, audit) := applyEvent cfg db payload sender event market
          received db payload audit

end MarketFeed

end EnergyNode
