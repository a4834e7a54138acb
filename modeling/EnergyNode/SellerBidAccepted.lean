import EnergyNode.WalletEvents
import EnergyNode.SwapTokens

/-! The commercial answer `bid-accepted`, stored only after the wallet's own
`swap-proposed` with a token whose claims match the record. -/
namespace EnergyNode
open Lib

namespace SellerBidAccepted

/-- `_amount`: a finite number, never a text or a boolean. -/
def amount (value : Json) : Option ℚ :=
  match value with
  | .int n => some n
  | .float q => some q
  | _ => none

/-- `_date`. -/
def date (value : Json) : Option Instant :=
  ((value.text?.bind Moment.ofText).filter Moment.aware).map Moment.time

def legMatches (leg : Json) (asset : Asset) (expected : ℚ) : Bool :=
  match leg with
  | .obj leg =>
      (Fields.get leg "asset").text? = some asset.name &&
        amount (Fields.get leg "amount") = some expected
  | _ => false

def legsMatch (give take : Json) (record : SwapRecord) : Bool :=
  legMatches give record.giveAsset record.giveAmount &&
    legMatches take record.takeAsset record.takeAmount

def closeTo (a b : Instant) : Bool := a - b ≤ 1500000 && b - a ≤ 1500000

/-- `_matching_wallet_token`: coherence of the claims, not their signature. -/
def matchingWalletToken (cfg : Config) (jwt : Jwt) (token : String) (record : SwapRecord)
    (swapId : String) (expiresAt now : Instant) : Bool :=
  if token = "" ∨ 16384 < token.length then false
  else match jwt.header token, jwt.unverified token with
    | some header, some claims =>
        match Fields.get claims "exp", Fields.get claims "iat" with
        | .int exp, .int iat =>
            (Fields.get header "alg").text? = some "ES256" &&
            now.fdiv (seconds 1) < exp && iat ≤ now.fdiv (seconds 1) + 5 &&
            closeTo (seconds exp) expiresAt &&
            (Fields.get claims "iss").text? = some "wallet.energyshark" &&
            (Fields.get claims "sub").text? = some swapId &&
            (Fields.get claims "proposer").text? = some cfg.cityId &&
            (Fields.get claims "memo").text? = record.memo &&
            legsMatch (Fields.get claims "give") (Fields.get claims "take") record
        | _, _ => false
    | _, _ => false

/-- The event the answer quotes: its own swap, terms, token and expiry. -/
structure Proposal where
  swapId : String
  token : String
  expiresAt : Instant

/-- The event and the stored record describe the same proposal of ours. -/
def proposal? (cfg : Config) (jwt : Jwt) (record : SwapRecord) (data : Fields)
    (sender : Option String) (now : Instant) : Option Proposal := do
  guard (sender = some "central" ∧ record.role = .proposer ∧ record.status = .proposed)
  guard (record.giveAsset = .kwh ∧ record.takeAsset = .cr)
  guard ((data.get "idpk").text? = some record.idempotencyKey)
  let swapId ← (data.get "swapId").text?
  let expiresAt ← date (data.get "expiresAt")
  guard (swapId ≠ "" ∧ now < expiresAt)
  guard (record.swapId = some swapId ∧ record.memo = (data.get "memo").text?)
  guard ((data.get "proposer").text? = some cfg.cityId)
  guard (legsMatch (data.get "give") (data.get "take") record)
  let token ← (data.get "token").text?
  guard (matchingWalletToken cfg jwt token record swapId expiresAt now)
  guard (record.swapToken = some token)
  let stored ← record.expiresAt
  guard (closeTo stored expiresAt)
  return ⟨swapId,token,expiresAt⟩

/-- The bid still waits for this answer, at the price frozen when it was reserved. -/
def answerable? (market : Market) (outbox : Outbox) (record : SwapRecord) : Option (MarketBid × ℚ) := do
  let bid ← market.bids.get? record.idpk
  guard (bid.direction = .incoming ∧ bid.status = .reserved)
  guard (bid.cycleId = record.cycleId ∧ some bid.offerId = record.memo ∧
    bid.counterpartCityId = record.counterpartCityId ∧ record.giveAmount = bid.quantity)
  let price ← bid.acceptedPricePerEnergy
  guard (0 ≤ price ∧ centsHalfUp (price * bid.quantity) = record.takeAmount)
  let reservation ← market.reservations.get? bid.idpk
  guard (reservation.offerId = bid.offerId ∧ reservation.status = .hold ∧
    reservation.quantity = bid.quantity)
  guard (¬ outbox.rows.any fun row =>
    row.content.type = .bidAccepted ∧ row.targetMsgId = some bid.msgId)
  return (bid,price)

def acceptedDraft (bid : MarketBid) (price : ℚ) (record : SwapRecord) (p : Proposal)
    (now : Instant) : Draft where
  content := .bidAccepted bid.msgId bid.offerId bid.quantity price record.takeAmount p.swapId
    p.token p.expiresAt
  cycleId := some bid.cycleId
  targetMsgId := some bid.msgId
  routingKey := some ("city." ++ bid.counterpartCityId)
  createdAt := now
  expiresAt := some p.expiresAt

def acceptedBid (bid : MarketBid) (swapId : String) (now : Instant) : MarketBid :=
  { bid with status := .accepted, swapId := some swapId, respondedAt := some now }

/-- `enqueue_bid_accepted_after_swap_proposed`. -/
def enqueueBidAccepted (cfg : Config) (jwt : Jwt) (db : Db) (record : SwapRecord) (data : Fields)
    (sender : Option String) (now : Instant) : Db :=
  match proposal? cfg jwt record data sender now, answerable? db.market db.outbox record with
  | some p, some (bid,price) =>
      { db with
        market := { db.market with bids := db.market.bids.set (acceptedBid bid p.swapId now) }
        outbox := db.outbox.enqueue cfg (acceptedDraft bid price record p now) }
  | _, _ => db

end SellerBidAccepted

end EnergyNode
