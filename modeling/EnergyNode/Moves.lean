import EnergyNode.Node
import EnergyNode.Talk

/-! What one action can do to the market tables and to the commercial outbox.
Every invariant of the market is proved over these moves; `Moves` chains them,
and the predicate `P` bounds what may have caused them, and over which market. -/
namespace EnergyNode
open Lib

structure Desk where
  market : Market
  talk : List Talk

def Db.desk (db : Db) : Desk := ⟨db.market,db.outbox.talk⟩

/-- The outside fact behind a move of a swap record or of a bid. -/
inductive Cause where
  /-- A wallet event, delivered or reconstructed from an answer of the wallet. -/
  | event (type : WalletEvents.EventType) (data : Fields) (rejection : Json)
  /-- The sweep gives a record up without an event. -/
  | expiry (idpk reason : String)
  /-- The POST of a proposal answered with this swap. -/
  | answer (idpk swapId : String)
  /-- The wallet refused our acceptance for good. -/
  | refusal (idpk : String)
  /-- The wallet answered our acceptance with a 202, or a GET shows it accepted. -/
  | confirmation (idpk : String)
  /-- The acceptance of an answered bid was taken up. -/
  | acceptance (bidIdpk : String)
  /-- A dispatcher works on the record it leased. -/
  | dispatch
  /-- The wallet announced a proposal, which its bid may be told. -/
  | announcement
  /-- A bid of another city arrived. -/
  | bid (idpk msgId : String)

/-- The causes that say nothing about a market. -/
def Cause.placeless : Cause → Bool
  | dispatch | announcement => true
  | _ => false

/-- What the wallet says about a record, or the sweep makes of its silence. -/
def Cause.heard : Cause → Bool
  | event .. | expiry .. | answer .. | refusal _ | confirmation _ => true
  | _ => false

/-- The columns of a record that never change. -/
structure SameDeal (r s : SwapRecord) : Prop where
  idpk : s.idpk = r.idpk
  cycleId : s.cycleId = r.cycleId
  role : s.role = r.role
  counterpartCityId : s.counterpartCityId = r.counterpartCityId
  giveAsset : s.giveAsset = r.giveAsset
  giveAmount : s.giveAmount = r.giveAmount
  takeAsset : s.takeAsset = r.takeAsset
  takeAmount : s.takeAmount = r.takeAmount
  memo : s.memo = r.memo
  idempotencyKey : s.idempotencyKey = r.idempotencyKey
  acceptIdempotencyKey : s.acceptIdempotencyKey = r.acceptIdempotencyKey
  sourceBidIdpk : s.sourceBidIdpk = r.sourceBidIdpk

theorem SameDeal.refl (r : SwapRecord) : SameDeal r r :=
  ⟨rfl,rfl,rfl,rfl,rfl,rfl,rfl,rfl,rfl,rfl,rfl,rfl⟩

theorem SameDeal.trans {r s u : SwapRecord} (h : SameDeal r s) (k : SameDeal s u) :
    SameDeal r u where
  idpk := k.idpk.trans h.idpk
  cycleId := k.cycleId.trans h.cycleId
  role := k.role.trans h.role
  counterpartCityId := k.counterpartCityId.trans h.counterpartCityId
  giveAsset := k.giveAsset.trans h.giveAsset
  giveAmount := k.giveAmount.trans h.giveAmount
  takeAsset := k.takeAsset.trans h.takeAsset
  takeAmount := k.takeAmount.trans h.takeAmount
  memo := k.memo.trans h.memo
  idempotencyKey := k.idempotencyKey.trans h.idempotencyKey
  acceptIdempotencyKey := k.acceptIdempotencyKey.trans h.acceptIdempotencyKey
  sourceBidIdpk := k.sourceBidIdpk.trans h.sourceBidIdpk

/-- What the last POST of a proposal carried and cost. -/
structure SameProposal (r s : SwapRecord) : Prop where
  attempts : s.proposalAttemptCount = r.proposalAttemptCount
  expiresAt : s.proposalExpiresAt = r.proposalExpiresAt

/-- Who may work on a record, and until when. -/
structure SameLease (r s : SwapRecord) : Prop where
  claimToken : s.proposalClaimToken = r.proposalClaimToken
  proposal : s.proposalLeaseUntil = r.proposalLeaseUntil
  accept : s.acceptRetryAt = r.acceptRetryAt

namespace Market

def setSwap (m : Market) (r : SwapRecord) : Market := { m with swaps := m.swaps.set r }

def setBid (m : Market) (b : MarketBid) : Market := { m with bids := m.bids.set b }

/-- The sale a committed hold takes out of its offer. -/
def sellFrom (m : Market) (offerId : String) (quantity : Int) : Table MarketOffer.offerId :=
  match m.offers.get? offerId with
  | none => m.offers
  | some offer => m.offers.set (WalletEvents.sold offer quantity)

/-- The reservation effect of a record whose memo is `offerId`. -/
def movedOn (m : Market) (offerId bidIdpk : String) (action : WalletEvents.Action) : Market :=
  match WalletEvents.heldReservation? m offerId bidIdpk with
  | none => m
  | some r =>
      match action with
      | .release => { m with reservations := m.reservations.set { r with status := .released } }
      | .commit =>
          { m with
            reservations := m.reservations.set { r with status := .committed }
            offers := m.sellFrom offerId r.quantity }

def moved (m : Market) (r : SwapRecord) (action : WalletEvents.Action) : Market :=
  match r.memo with
  | none => m
  | some offerId => if offerId = "" then m else m.movedOn offerId r.idpk action

/-- What an event of this type does to the reservation of a live record. -/
def carried (m : Market) (r : SwapRecord) (type : WalletEvents.EventType) : Market :=
  match type with
  | .proposed => m
  | .settled => m.moved r .commit
  | .rejected | .expired | .cancelled => m.moved r .release

end Market

/-- What a bid is about, which no answer to it changes. -/
def MarketBid.terms (b : MarketBid) : String × String × String × Int :=
  (b.cycleId,b.offerId,b.counterpartCityId,b.quantity)

def MarketOffer.stock (o : MarketOffer) : String × String × String × Bool × Int × Int :=
  (o.offerId,o.cycleId,o.cityId,o.isLocal,o.initialQuantity,o.remainingQuantity)

/-- The status an event of this type leaves on a live record. -/
def WalletEvents.EventType.status : WalletEvents.EventType → SwapStatus
  | proposed => .proposed
  | settled => .settled
  | rejected => .rejected
  | expired => .expired
  | cancelled => .cancelled

def Talk.isRejection (t : Talk) (msgId : String) : Bool :=
  t.content.type = .bidRejected && t.targetMsgId = some msgId

def Talk.isAcceptance (t : Talk) (msgId : String) : Bool :=
  t.content.type = .bidAccepted && t.targetMsgId = some msgId

/-- One rejection is stored for a message, or the stored one is kept. -/
inductive Rejects (msgId : String) : List Talk → List Talk → Prop where
  | kept {t : List Talk} {x : Talk} {target : String} : uuidText msgId = some target → x ∈ t →
      x.isRejection target → Rejects msgId t t
  | added {t : List Talk} {x : Talk} {target : String} : uuidText msgId = some target →
      x.isRejection target → (∀ y ∈ t, ¬ y.isRejection target) → Rejects msgId t (t ++ [x])

open WalletEvents SellerBids in
inductive Move (cfg : Config) (P : Market → Cause → Prop) : Desk → Desk → Prop where
  | offers {m t} (offers : Table MarketOffer.offerId) :
      (∀ k, (offers.get? k).map MarketOffer.stock = (m.offers.get? k).map MarketOffer.stock) →
      Move cfg P ⟨m,t⟩ ⟨{ m with offers := offers },t⟩
  | offerAdded {m t} (o : MarketOffer) (free) :
      0 ≤ o.initialQuantity → o.remainingQuantity = o.initialQuantity →
      Move cfg P ⟨m,t⟩ ⟨{ m with offers := m.offers.insert o free },t⟩
  | bidArrived {m t t'} (b : MarketBid) (free) : P m (.bid b.idpk b.msgId) →
      b.direction = .incoming → b.idpk ≠ "" → 0 < b.quantity →
      (b.status = .pending ∧ t' = t ∨ b.status = .rejected ∧ Rejects b.msgId t t') →
      Move cfg P ⟨m,t⟩ ⟨{ m with bids := m.bids.insert b free },t'⟩
  | strayRefused {m t t'} (idpk msgId : String) : P m (.bid idpk msgId) →
      m.bids.get? idpk = none → Rejects msgId t t' → Move cfg P ⟨m,t⟩ ⟨m,t'⟩
  | bidRefused {m t t'} (b : MarketBid) (reason available now) : m.bids.get? b.idpk = some b →
      b.direction = .incoming → b.status = .pending → Rejects b.msgId t t' →
      Move cfg P ⟨m,t⟩ ⟨m.setBid (rejectedBid b reason available now),t'⟩
  | reserved {m t} (b : MarketBid) (o : MarketOffer) (now freeReservation freeSwap) :
      m.bids.get? b.idpk = some b → b.direction = .incoming → b.status = .pending →
      m.offers.get? b.offerId = some o → o.isLocal = true → 0 < b.quantity →
      b.quantity ≤ availableKwh m o →
      Move cfg P ⟨m,t⟩
        ⟨commitReservation m b o.pricePerEnergy now freeReservation freeSwap,t⟩
  | event {m t} (r s : SwapRecord) (type data rejection swapId) : P m (.event type data rejection) →
      correlate m.swaps data = .ok (some r) → r.status.terminal = false →
      eventSwapId data = .ok swapId → SameDeal r s → s.status = type.status →
      s.swapId = (learn r type swapId data).swapId → SameProposal r s → SameLease r s →
      Move cfg P ⟨m,t⟩ ⟨(m.carried r type).setSwap s,t⟩
  | revised {m t} (r s : SwapRecord) (type data rejection) : P m (.event type data rejection) →
      correlate m.swaps data = .ok (some r) → r.status.terminal = true → SameDeal r s →
      s.swapId = r.swapId → SameProposal r s →
      s.status = (if type = .settled then .settled else r.status) → SameLease r s →
      Move cfg P ⟨m,t⟩ ⟨m.setSwap s,t⟩
  | expired {m t} (r : SwapRecord) (reason : String) : P m (.expiry r.idpk reason) →
      m.swaps.get? r.idpk = some r → r.status.terminal = false →
      Move cfg P ⟨m,t⟩
        ⟨SwapTimeouts.setBidExpired
          ((m.setSwap { r with status := .expired, rejectionReason := some reason }).moved r .release)
          (SwapTimeouts.bidKey r),t⟩
  | kept {m t} (r s : SwapRecord) : m.swaps.get? r.idpk = some r → SameDeal r s →
      (s.status = r.status ∨ r.status.terminal = false ∧
        (r.role = .proposer ∧ s.status = .proposed ∨
          r.role = .acceptor ∧ s.status = .acceptSubmitted)) →
      (s.swapId = r.swapId ∨ ∃ swapId, P m (.answer r.idpk swapId) ∧ blank r.swapId ∧
        swapId ≠ "" ∧ s.swapId = some swapId) → SameProposal r s →
      (r.role = .acceptor → SwapAccept.unanswered r →
        SwapAccept.unanswered s ∨ P m (.confirmation r.idpk)) →
      (SameLease r s ∨ P m .dispatch) →
      Move cfg P ⟨m,t⟩ ⟨m.setSwap s,t⟩
  | claimed {m t} (r : SwapRecord) (now : Instant) : m.swaps.get? r.idpk = some r →
      SwapDispatch.dispatchable r now → SwapDispatch.backed cfg m r → P m .dispatch →
      Move cfg P ⟨m,t⟩ ⟨m.setSwap (SwapDispatch.claimed cfg m r now),t⟩
  | refused {m t} (r s : SwapRecord) : P m (.refusal r.idpk) → m.swaps.get? r.idpk = some r →
      SwapAccept.isAcceptance r → r.status.terminal = false → SameDeal r s →
      s.status = .rejected → s.swapId = r.swapId → SameProposal r s → P m .dispatch →
      Move cfg P ⟨m,t⟩ ⟨m.setSwap s,t⟩
  | answered {m t} (r : SwapRecord) (b : MarketBid) (h : OfferReservation) (swapId now) (x : Talk) :
      m.swaps.get? r.idpk = some r → r.status = .proposed → r.swapId = some swapId →
      m.bids.get? r.idpk = some b → b.direction = .incoming → b.status = .reserved →
      m.reservations.get? b.idpk = some h → h.status = .hold →
      x.isAcceptance b.msgId → (∀ y ∈ t, ¬ y.isAcceptance b.msgId) → P m .announcement →
      Move cfg P ⟨m,t⟩ ⟨m.setBid (SellerBidAccepted.acceptedBid b swapId now),t ++ [x]⟩
  | bidClosed {m t} (idpk : Option String) : Move cfg P ⟨m,t⟩ ⟨SwapTimeouts.setBidExpired m idpk,t⟩
  | bidsExpired {m t} (f : MarketBid → MarketBid) (hf) :
      (∀ b, f b = b ∨ b.direction = .outgoing ∧ f b = { b with status := .expired }) →
      Move cfg P ⟨m,t⟩ ⟨{ m with bids := m.bids.mapRows f hf },t⟩
  | resolved {m t} (b c : MarketBid) : m.bids.get? b.idpk = some b → b.direction = .outgoing →
      b.status = .pending → c.idpk = b.idpk → c.direction = b.direction → c.msgId = b.msgId →
      c.terms = b.terms → Move cfg P ⟨m,t⟩ ⟨m.setBid c,t⟩
  | taken {m t} (b : MarketBid) (r : SwapRecord) (free) : P m (.acceptance b.idpk) →
      m.bids.get? b.idpk = some b → SwapAccept.awaitsAcceptance m b → r.role = .acceptor →
      r.memo = none → r.swapId = b.swapId → r.sourceBidIdpk = some b.idpk →
      r.proposalAttemptCount = 0 → r.idempotencyKey = r.idpk →
      (r.status = .submitted ∧ SwapAccept.isAcceptance r ∨ r.status = .rejected) →
      Move cfg P ⟨m,t⟩ ⟨{ m with swaps := m.swaps.insert r free },t⟩
  | referenced {m t} (o : MarketOffer) (free) : o.isLocal = false →
      Move cfg P ⟨m,t⟩ ⟨{ m with offers := m.offers.insert o free },t⟩
  | placed {m t} (b : MarketBid) (free) (x : Talk) : b.direction = .outgoing →
      b.status = .pending → x.content.type = .bid → 0 < b.quantity →
      Move cfg P ⟨m,t⟩ ⟨{ m with bids := m.bids.insert b free },t ++ [x]⟩
  | renewed {m t} (b : MarketBid) (msgId : String) (x : Talk) : m.bids.get? b.idpk = some b →
      b.direction = .outgoing → x.content.type = .bid →
      Move cfg P ⟨m,t⟩ ⟨m.setBid { b with msgId := msgId },t ++ [x]⟩

/-- Zero or more moves. -/
abbrev Moves (cfg : Config) (P : Market → Cause → Prop) : Desk → Desk → Prop :=
  Relation.ReflTransGen (Move cfg P)

end EnergyNode
