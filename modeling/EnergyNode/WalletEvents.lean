import EnergyNode.CycleAccounting
import EnergyNode.SellerOffers

/-! Swap events of the wallet: correlation with a record, the terminal guard,
the transitions of the record and of its reservation, and the balances. -/
namespace EnergyNode
open Lib

namespace WalletEvents

inductive EventType where
  | proposed | settled | rejected | expired | cancelled
deriving DecidableEq

def EventType.ofMessage : MessageType → Option EventType
  | .swapProposed => some proposed
  | .swapSettled => some settled
  | .swapRejected => some rejected
  | .swapExpired => some expired
  | .swapCancelled => some cancelled
  | _ => none

/-- A column comparison with a value that is not a text is refused by the database. -/
def keyText (value : Json) : Result (Option String) :=
  if value.truthy then
    match value with
    | .str s => .ok (some s)
    | _ => .error .database
  else .ok none

/-- `not text`. -/
def blank (text : Option String) : Bool := text = none ∨ text = some ""

def withSwapId? (swaps : Table SwapRecord.idpk) (swapId : String) : Option SwapRecord :=
  swaps.rows.find? fun record => record.swapId = some swapId

def withAcceptKey? (swaps : Table SwapRecord.idpk) (key : String) : Option SwapRecord :=
  swaps.rows.find? fun record => record.acceptIdempotencyKey = some key

def withIdempotencyKey? (swaps : Table SwapRecord.idpk) (key : String) : Option SwapRecord :=
  swaps.rows.find? fun record => record.idempotencyKey = key

def eventSwapId (data : Fields) : Result (Option String) :=
  keyText ((data.get "swapId").orElse (data.get "id"))

/-- The `swapId` decides; the operation keys are tried only without it. -/
def correlate (swaps : Table SwapRecord.idpk) (data : Fields) : Result (Option SwapRecord) := do
  let swapId ← eventSwapId data
  match swapId.bind (withSwapId? swaps) with
  | some record => return some record
  | none =>
      let some key ← keyText (data.get "idpk") | return none
      return swaps.get? key <|> withAcceptKey? swaps key <|> withIdempotencyKey? swaps key

def eventToken (type : EventType) (data : Fields) : Option String :=
  ((data.get (if type = .proposed then "token" else "swapToken")).text?).filter (· ≠ "")

/-- What any live record learns from an event before its transition. -/
def learn (record : SwapRecord) (type : EventType) (swapId : Option String) (data : Fields) :
    SwapRecord :=
  { record with
    swapId := if blank record.swapId && !blank swapId then swapId else record.swapId
    swapToken := (eventToken type data).orElse fun _ => record.swapToken
    expiresAt := (((data.get "expiresAt").text?.bind Moment.ofText).map Moment.time).orElse
      fun _ => record.expiresAt }

def unknownRejection : String := "UNKNOWN_REJECTION"

inductive Action where
  | commit | release
deriving DecidableEq

def heldReservation? (market : Market) (offerId bidIdpk : String) : Option OfferReservation :=
  (market.reservations.get? bidIdpk).filter fun r => r.offerId = offerId ∧ r.status = .hold

def sold (offer : MarketOffer) (quantity : Int) : MarketOffer :=
  { offer with remainingQuantity := max 0 (offer.remainingQuantity - quantity) }

/-- `_update_offer_and_reservation`: only a HOLD moves, and only once. -/
def updateOfferAndReservation (cfg : Config) (db : Db) (offerId bidIdpk : String)
    (action : Action) (now : Instant) : Db :=
  match heldReservation? db.market offerId bidIdpk with
  | none => db
  | some r =>
      match action with
      | .release =>
          { db with market := { db.market with
              reservations := db.market.reservations.set { r with status := .released } } }
      | .commit =>
          let reservations := db.market.reservations.set { r with status := .committed }
          match db.market.offers.get? offerId with
          | none => { db with market := { db.market with reservations := reservations } }
          | some offer =>
              let offer := sold offer r.quantity
              { db with
                market := { db.market with
                  reservations := reservations
                  offers := db.market.offers.set offer }
                outbox := SellerOffers.enqueueConfirmedOfferUpdate cfg db.calendar db.outbox
                  offer now }

/-- A record without a memo reserved nothing. -/
def moveReservation (cfg : Config) (db : Db) (record : SwapRecord) (action : Action)
    (now : Instant) : Db :=
  match record.memo with
  | none => db
  | some offerId =>
      if offerId = "" then db
      else updateOfferAndReservation cfg db offerId record.idpk action now

def balance (asset field : String) (values : Fields) : Result Decimal :=
  match values.lookup field with
  | none => .error (.value ("balancesAfter." ++ asset ++ "." ++ field ++ " es obligatorio"))
  | some value =>
      match Decimal.ofJson value with
      | some amount => .ok amount
      | none => .error (.value ("balancesAfter." ++ asset ++ "." ++ field ++ " debe ser numérico"))

def recordBalanceSnapshot (cycleId sourceSwapId : Option String) (walletAsOf : Option Instant)
    (balances : Fields) : Result WalletBalanceSnapshot :=
  match balances.get "CR", balances.get "KWH" with
  | .obj cr, .obj kwh => do
      let kwhAvailable ← balance "KWH" "available" kwh
      let kwhHeld ← balance "KWH" "held" kwh
      let crAvailable ← balance "CR" "available" cr
      let crHeld ← balance "CR" "held" cr
      return {
        cycleId := cycleId
        sourceSwapId := sourceSwapId
        walletAsOf := walletAsOf
        kwhAvailable := kwhAvailable
        kwhHeld := kwhHeld
        crAvailable := crAvailable
        crHeld := crHeld }
  | _, _ => .error (.value
      "balancesAfter debe traer CR y KWH en mayúscula (contrato v3.0.1); no se aceptan kwh/cr")

def settledAsOf (type : EventType) (data : Fields) : Option Instant :=
  if type = .settled then
    (((data.get "settledAt").text?.bind Moment.ofText).filter Moment.aware).map Moment.time
  else none

def snapshots (db : Db) (type : EventType) (record : SwapRecord) (data : Fields) :
    Result (List WalletBalanceSnapshot) :=
  match data.get "balancesAfter" with
  | .obj balances => do
      let snapshot ← recordBalanceSnapshot (some record.cycleId) record.swapId
        (settledAsOf type data) balances
      return db.snapshots ++ [snapshot]
  | _ => .ok db.snapshots

def storeRecord (db : Db) (record : SwapRecord) : Db :=
  { db with market := { db.market with swaps := db.market.swaps.set record } }

/-- A replay may only repair a lost rejection reason. -/
def repaired (record : SwapRecord) (type : EventType) (rejection : Json) : Result SwapRecord :=
  if record.status = .rejected ∧ type = .rejected ∧ rejection.truthy ∧
      (record.rejectionReason = none ∨ record.rejectionReason = some unknownRejection) then
    (keyText rejection).map fun reason => { record with rejectionReason := reason }
  else .ok record

/-- A late settlement is still posted, but the reservation stays as it was left. -/
def processTerminal (cfg : Config) (db : Db) (record : SwapRecord) (type : EventType)
    (rejection : Json) (now : Instant) : Result (Db × SwapRecord) := do
  let repaired ← repaired record type rejection
  if type = .settled ∧ record.status ≠ .settled then
    let books ← CycleAccounting.applySwapSettled cfg db.books repaired
    let done := { repaired with status := .settled, settledAt := some now }
    return (storeRecord { db with books := books } done, done)
  return (storeRecord db repaired, repaired)

/-- The transition a live record takes, with its books and its reservation. -/
def transition (cfg : Config) (db : Db) (record : SwapRecord) (type : EventType) (data : Fields)
    (rejection : Json) (now : Instant) : Result (Db × SwapRecord) :=
  match type with
  | .proposed => .ok (db, { record with status := .proposed })
  | .settled => do
      let done := { record with status := .settled, settledAt := some now }
      let books ← CycleAccounting.applySwapSettled cfg db.books done
      return (moveReservation cfg { db with books := books } done .commit now, done)
  | .rejected => do
      let reason ← keyText ((rejection.orElse (data.get "reason")).orElse (.str unknownRejection))
      let done := { record with status := .rejected, rejectionReason := reason }
      return (moveReservation cfg db done .release now, done)
  | .expired =>
      let done := { record with status := .expired }
      .ok (moveReservation cfg db done .release now, done)
  | .cancelled =>
      let done := { record with status := .cancelled }
      .ok (moveReservation cfg db done .release now, done)

/-- `process_swap_event`; `none` means that no record correlates. -/
def processSwapEvent (cfg : Config) (db : Db) (type : EventType) (data : Fields)
    (rejection : Json) (now : Instant) : Result (Db × Option SwapRecord) := do
  let some record ← correlate db.market.swaps data | return (db, none)
  if record.status.terminal then
    let (db, record) ← processTerminal cfg db record type rejection now
    return (db, some record)
  let swapId ← eventSwapId data
  let (db, record) ← transition cfg db (learn record type swapId data) type data rejection now
  let snapshots ← snapshots db type record data
  return (storeRecord { db with snapshots := snapshots } record, some record)

end WalletEvents

end EnergyNode
