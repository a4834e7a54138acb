import EnergyNode.Db
import EnergyNode.Lib.Precision

/-! Commercial answers to our own bids. A reply resolves a pending bid once,
and only when its sender, target, cycle and offer are those of the bid. -/
namespace EnergyNode
open Lib

namespace BidReplies

/-- `str(value)` where it can still spell a UUID. -/
def spelled : Json → Option String
  | .str s => some s
  | .int n => some (toString n)
  | _ => none

/-- `_price`: a finite, non-negative number; texts are refused. -/
def price (value : Json) : Option ℚ :=
  match value with
  | .int n => if 0 ≤ n then some n else none
  | .float q => if 0 ≤ q then some q else none
  | _ => none

/-- REJECTIONS. -/
def rejectionCode (reason : String) : Option Int :=
  match reason with
  | "QUANTITY_UNAVAILABLE" => some 409
  | "OFFER_WITHDRAWN" => some 410
  | "BID_TOO_SMALL" => some 422
  | "MARKET_CLOSED" => some 410
  | "SELF_TRADE" => some 422
  | _ => none

/-- `REJECTIONS.get(reason) == code`; an unknown reason matches an absent code. -/
def knownRejection (reason code : Json) : Bool :=
  match (reason.text?).bind rejectionCode with
  | some expected => Json.pyEq code (.int expected)
  | none => Json.pyEq code .null

inductive Refusal where
  | unknownBidTarget | unknownOutgoingBid | bidCorrelationMismatch | bidAlreadyResolved
  | bidQuantityMismatch | incompleteAcceptance | invalidSwapExpiry | invalidAcceptancePrice
  | acceptanceAmountMismatch | invalidBidRejectionReason | invalidAvailable
  | availableNotApplicable
deriving DecidableEq

def Refusal.text : Refusal → String
  | unknownBidTarget => "UNKNOWN_BID_TARGET"
  | unknownOutgoingBid => "UNKNOWN_OUTGOING_BID"
  | bidCorrelationMismatch => "BID_CORRELATION_MISMATCH"
  | bidAlreadyResolved => "BID_ALREADY_RESOLVED"
  | bidQuantityMismatch => "BID_QUANTITY_MISMATCH"
  | incompleteAcceptance => "INCOMPLETE_ACCEPTANCE"
  | invalidSwapExpiry => "INVALID_SWAP_EXPIRY"
  | invalidAcceptancePrice => "INVALID_ACCEPTANCE_PRICE"
  | acceptanceAmountMismatch => "ACCEPTANCE_AMOUNT_MISMATCH"
  | invalidBidRejectionReason => "INVALID_BID_REJECTION_REASON"
  | invalidAvailable => "INVALID_AVAILABLE"
  | availableNotApplicable => "AVAILABLE_NOT_APPLICABLE"

/-- What an acceptance of the quantity that was bid states: its swap, its price and
its amount. -/
def acceptedTerms (bid : MarketBid) (data : Fields) : Except Refusal (String × ℚ × ℚ) := do
  unless (data.get "quantity").int? = some bid.quantity ∧ 0 < bid.quantity do
    throw .bidQuantityMismatch
  let some swapId := ((data.get "swapId").text?).filter (· ≠ "") | throw .incompleteAcceptance
  let some _ := ((data.get "swapToken").text?).filter (· ≠ "") | throw .incompleteAcceptance
  let some expiresAt := (data.get "expiresAt").text? | throw .incompleteAcceptance
  let some _ := (Moment.ofText expiresAt).filter Moment.aware | throw .invalidSwapExpiry
  let some pricePerEnergy := price (data.get "pricePerEnergy") | throw .invalidAcceptancePrice
  let some amount := price (data.get "amount") | throw .invalidAcceptancePrice
  return (swapId, pricePerEnergy, amount)

/-- The amount of a price, in cents. A float has at most 17 digits and a quantity
10, so the product is exact wherever its cents fit the context. -/
def expectedAmount (pricePerEnergy : ℚ) (quantity : Int) : Option ℚ :=
  quantizedUp Decimal.precision (pricePerEnergy * quantity)

/-- The swap of an acceptance whose amount is that of its price. -/
def acceptedSwap (bid : MarketBid) (data : Fields) : Except Refusal String := do
  let (swapId, pricePerEnergy, amount) ← acceptedTerms bid data
  unless expectedAmount pricePerEnergy bid.quantity = some amount do
    throw .acceptanceAmountMismatch
  return swapId

def acceptedBid (bid : MarketBid) (swapId : String) (now : Instant) : MarketBid :=
  { bid with swapId := some swapId, status := .accepted, respondedAt := some now }

/-- What a rejection writes on the bid: its reason and, for a shortage, the rest. -/
def rejectedBid (bid : MarketBid) (data extra : Fields) (now : Instant) :
    Except Refusal MarketBid := do
  unless knownRejection (extra.get "reason") (extra.get "code") do
    throw .invalidBidRejectionReason
  unless Json.pyEq (data.get "requested") .null ∨
      Json.pyEq (data.get "requested") (.int bid.quantity) do
    throw .bidQuantityMismatch
  let reason := (extra.get "reason").text?
  let rejected := { bid with status := .rejected, rejectionReason := reason, respondedAt := some now }
  if reason = some "QUANTITY_UNAVAILABLE" then
    let some available := ((data.get "available").int?).filter (0 ≤ ·) | throw .invalidAvailable
    return { rejected with availableOnRejection := some available }
  if (data.lookup "available").isSome then throw .availableNotApplicable
  return rejected

/-- A container is no dictionary key: looking it up raises. -/
def unhashableReason (payload : Payload) : Bool :=
  payload.type = .bidRejected && match payload.extra.get "reason" with
    | .arr _ | .obj _ => true
    | _ => false

/-- Rounding an amount that needs more digits than the context has raises. -/
def unroundableAmount (payload : Payload) (bid : MarketBid) : Bool :=
  payload.type = .bidAccepted && match acceptedTerms bid payload.data with
    | .ok (_, pricePerEnergy, _) => (expectedAmount pricePerEnergy bid.quantity).isNone
    | .error _ => false

theorem roundable_of_accepted {payload : Payload} {bid : MarketBid} {swapId : String}
    (h : acceptedSwap bid payload.data = .ok swapId) : unroundableAmount payload bid = false := by
  unfold acceptedSwap at h
  unfold unroundableAmount
  cases terms : acceptedTerms bid payload.data with
  | error e => exact Bool.and_false _
  | ok stated =>
    obtain ⟨swap,pricePerEnergy,amount⟩ := stated
    rw [terms] at h
    by_cases rounded : expectedAmount pricePerEnergy bid.quantity = some amount
    · simp [rounded]
    · simp [bind,Except.bind,if_neg rounded,throw,throwThe,MonadExceptOf.throw] at h

/-- Reading the answer raises, which rolls its reception back. -/
def raises (payload : Payload) (bid : MarketBid) : Bool :=
  unhashableReason payload || unroundableAmount payload bid

/-- A reason that is neither a text nor absent does not fit its column. -/
def unstorableReason (payload : Payload) : Bool :=
  payload.type = .bidRejected && match payload.extra.get "reason" with
    | .null | .str _ => false
    | _ => true

def resolved (payload : Payload) (bid : MarketBid) (now : Instant) : Except Refusal MarketBid :=
  if payload.type = .bidAccepted then
    (acceptedSwap bid payload.data).map fun swapId => acceptedBid bid swapId now
  else rejectedBid bid payload.data payload.extra now

/-- A terminal answer stops the attempts that were not published yet. -/
def stopped (idpk : String) (row : OutboundMessage) : OutboundMessage :=
  if row.idpk = idpk ∧ row.content.type = .bid ∧ row.dispatchRequired then
    { row with dispatchRequired := false }
  else row

@[simp] theorem stopped_msgId (idpk : String) (row : OutboundMessage) :
    (stopped idpk row).msgId = row.msgId := by
  unfold stopped
  split <;> rfl

def outgoingBid? (market : Market) (idpk : String) : Option MarketBid :=
  (market.bids.get? idpk).filter fun bid => bid.direction = .outgoing

/-- The bid a reply is about, when everything in it agrees with the bid. -/
def addressed (db : Db) (payload : Payload) (target : String) : Except Refusal MarketBid := do
  let some outbound := (db.outbox.get? target).filter fun row => row.content.type = .bid
    | throw .unknownBidTarget
  let some bid := outgoingBid? db.market outbound.idpk | throw .unknownOutgoingBid
  unless payload.cycleId = some bid.cycleId ∧ outbound.cycleId = some bid.cycleId ∧
      payload.cityId = some bid.counterpartCityId ∧
      (payload.data.get "offerId").text? = some bid.offerId do
    throw .bidCorrelationMismatch
  unless bid.status = .pending do throw .bidAlreadyResolved
  return bid

/-- `process_bid_reply`: `some reason` is an answer that was not processed. -/
def processBidReply (db : Db) (payload : Payload) (now : Instant) :
    Result (Db × Option Refusal) :=
  match (spelled (payload.data.get "target")).bind uuidText with
  | none => .error (.value "data.target debe ser UUID")
  | some target =>
      match addressed db payload target with
      | .error refusal => .ok (db, some refusal)
      | .ok bid =>
          if raises payload bid then .error .type
          else match resolved payload bid now with
            | .error refusal => .ok (db, some refusal)
            | .ok bid =>
                if unstorableReason payload then .error .database
                else .ok ({ db with
                  market := { db.market with bids := db.market.bids.set bid }
                  outbox := db.outbox.mapRows (stopped bid.idpk) (stopped_msgId bid.idpk) }, none)

/-- A refused answer changes nothing; a processed one settles the bid and stops its
attempts. -/
theorem processBidReply_cases {db db' : Db} {payload : Payload} {now : Instant}
    {refusal : Option Refusal} (h : processBidReply db payload now = .ok (db',refusal)) :
    db' = db ∨ ∃ target bid next, addressed db payload target = .ok bid ∧
      resolved payload bid now = .ok next ∧
      db' = { db with
        market := { db.market with bids := db.market.bids.set next }
        outbox := db.outbox.mapRows (stopped next.idpk) (stopped_msgId next.idpk) } := by
  unfold processBidReply at h
  split at h
  · cases h
  rename_i target _
  split at h
  · cases h
    exact .inl rfl
  rename_i bid found
  split at h
  · cases h
  split at h
  · cases h
    exact .inl rfl
  rename_i next settled
  split at h
  · cases h
  cases h
  exact .inr ⟨target,bid,next,found,settled,rfl⟩

end BidReplies

end EnergyNode
