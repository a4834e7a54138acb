import EnergyNode.Json
import EnergyNode.Lib.Table

/-! The rows the services keep. Columns no modelled function reads (operator
facing audit details, surrogate keys, timestamps of record) are left out. -/
namespace EnergyNode

/-- Deployment constants and the identifiers `uuid4` draws, which no row in
use carries. -/
structure Config where
  cityId : String
  centralRoutingKey : String
  reportWindow : Int
  timeoutGrace : Int
  uuid4 : List String → String
  fresh : ∀ used, uuid4 used ∉ used

/-- The first unused identifier of a pool, then ever longer ones. -/
def draw (pool used : List String) : String :=
  (pool.find? fun id => id ∉ used).getD (used.foldr (· ++ ·) "-")

theorem draw_ne_empty {pool : List String} (named : ∀ id ∈ pool, id ≠ "") (used : List String) :
    draw pool used ≠ "" := by
  unfold draw
  cases h : pool.find? fun id => id ∉ used with
  | some id => exact named id (List.mem_of_find?_eq_some h)
  | none =>
    have longer (ids : List String) : 0 < (ids.foldr (· ++ ·) "-").length := by
      induction ids with
      | nil => decide
      | cons id ids ih =>
        rw [List.foldr_cons,String.length_append]
        omega
    intro empty
    have short := longer used
    rw [show used.foldr (· ++ ·) "-" = "" from empty] at short
    exact absurd short (by decide)

theorem draw_fresh (pool used : List String) : draw pool used ∉ used := by
  unfold draw
  cases h : pool.find? fun id => id ∉ used with
  | some id => simpa using List.find?_some h
  | none =>
    have longer (ids : List String) : ∀ id ∈ ids, id.length < (ids.foldr (· ++ ·) "-").length := by
      induction ids with
      | nil => simp
      | cons other ids ih =>
        intro id hid
        rw [List.foldr_cons,String.length_append]
        rcases List.mem_cons.mp hid with rfl | hid
        · have : 0 < (ids.foldr (· ++ ·) "-").length := by
            cases ids with
            | nil => decide
            | cons first _ =>
              exact Nat.lt_of_le_of_lt (Nat.zero_le _) (ih first (List.mem_cons_self ..))
          omega
        · have := ih id hid
          omega
    intro hmem
    exact lt_irrefl _ (longer used _ hmem)

/-- A deployment that draws its identifiers from a pool. -/
def Config.drawing (cityId : String) (pool : List String) : Config where
  cityId := cityId
  centralRoutingKey := "central"
  reportWindow := 60000000
  timeoutGrace := 0
  uuid4 := draw pool
  fresh := draw_fresh pool

inductive MessageType where
  | statusStatement | transfer | demandStatement | distanceTable
  | negotiationProposal | ack | nack | give | take | negotiationReport
  | bid | bidAccepted | bidRejected
  | swapProposed | swapSettled | swapRejected | swapCancelled | swapExpired
  | tradeRecorded | imbalanceSettlement
  | request | error
  | offer | offerUpdated | offerWithdrawn | marketClosed
  | unknown (name : String)
deriving DecidableEq

namespace MessageType

def name : MessageType → String
  | statusStatement => "status-statement"
  | transfer => "transfer"
  | demandStatement => "demand-statement"
  | distanceTable => "distance-table"
  | negotiationProposal => "negotiation-proposal"
  | ack => "ack"
  | nack => "nack"
  | give => "give"
  | take => "take"
  | negotiationReport => "negotiation-report"
  | bid => "bid"
  | bidAccepted => "bid-accepted"
  | bidRejected => "bid-rejected"
  | swapProposed => "swap-proposed"
  | swapSettled => "swap-settled"
  | swapRejected => "swap-rejected"
  | swapCancelled => "swap-cancelled"
  | swapExpired => "swap-expired"
  | tradeRecorded => "trade-recorded"
  | imbalanceSettlement => "imbalance-settlement"
  | request => "request"
  | error => "error"
  | offer => "offer"
  | offerUpdated => "offer-updated"
  | offerWithdrawn => "offer-withdrawn"
  | marketClosed => "market-closed"
  | unknown text => text

/-- SWAP_EVENT_TYPES. -/
def isSwapEvent : MessageType → Bool
  | swapProposed | swapSettled | swapRejected | swapCancelled | swapExpired => true
  | _ => false

/-- WALLET_FACT_TYPES. -/
def isWalletFact : MessageType → Bool
  | tradeRecorded | imbalanceSettlement => true
  | _ => false

/-- IDEMPOTENT_MESSAGE_TYPES. -/
def isIdempotent : MessageType → Bool
  | request | error | offer | offerUpdated | offerWithdrawn | marketClosed | unknown _ => false
  | _ => true

end MessageType

structure Cycle where
  cycleId : String
  statusIdpk : Option String := none
  statusMsgId : Option String := none
  generationCapacity : Option ℚ := none
  consumption : Option ℚ := none
  generationCost : Option ℚ := none
  validUntil : Option Instant := none
  schedulerState : String := "PENDING"
  reportWindowOpensAt : Option Instant := none
  strategyVersion : Option Nat := none
  marketOpensAt : Option Instant := none
  marketLastOfferAt : Option Instant := none
  marketLastBidAt : Option Instant := none
  marketClosesAt : Option Instant := none
  statusPayload : Fields := []
  openingBudgetBalance : ℚ := 0
  openingEnergyBalance : ℚ := 0
  budgetBalance : ℚ := 0
  energyBalance : ℚ := 0
  lastSequence : Int := 0

inductive OperationType where
  | transferIn | demandStatement | giveConfirmed | takeConfirmed
  | paymentReceived | paymentSent | budgetCarryover
  | swapSettled | swapTransport | imbalanceSettlement | imbalanceBurn
  | imbalanceClose | imbalanceBurnFallback
deriving DecidableEq

inductive Asset where
  | kwh | cr | other (name : String)
deriving DecidableEq

def Asset.name : Asset → String
  | kwh => "KWH"
  | cr => "CR"
  | other name => name

inductive TradeRole where
  | buyer | seller
deriving DecidableEq

/-- The members of an entry's `details` that are read again. -/
structure EntryDetails where
  swapId : Option String := none
  role : Option TradeRole := none
  give : Option Asset := none
  take : Option Asset := none
deriving DecidableEq

structure LedgerEntry where
  cycleId : String
  sequenceNo : Int
  operationType : OperationType
  idpk : String
  sourceMsgId : Option String
  negotiationId : Option Nat
  budgetDelta : ℚ
  energyDelta : ℚ
  budgetAfter : ℚ
  energyAfter : ℚ
  details : EntryDetails := {}
deriving DecidableEq

structure TradeRecord where
  swapId : String
  cycleId : String
  msgId : String
  idpk : String
  offerId : Option String
  seller : String
  buyer : String
  role : TradeRole
  counterpartCityId : String
  quantity : Int
  pricePerEnergy : ℚ
  energyTotal : ℚ
  transportPerEnergy : ℚ
  transportTotal : ℚ
  routeEnabled : Bool
deriving DecidableEq

structure ImbalanceSettlement where
  settlementId : String
  cycleId : String
  msgId : String
  idpk : String
  kwhHeld : Int
  deficit : Int
  coverage : Int
  pricePerEnergy : ℚ
  total : ℚ
  balanceAfter : ℚ
deriving DecidableEq

inductive OfferStatus where
  | active | withdrawn | closed
deriving DecidableEq

structure MarketOffer where
  offerId : String
  cycleId : String
  cityId : String
  isLocal : Bool
  initialQuantity : Int
  remainingQuantity : Int
  pricePerEnergy : ℚ
  status : OfferStatus
deriving DecidableEq

inductive ReservationStatus where
  | hold | committed | released
deriving DecidableEq

structure OfferReservation where
  offerId : String
  bidIdpk : String
  quantity : Int
  status : ReservationStatus
deriving DecidableEq

inductive Direction where
  | incoming | outgoing
deriving DecidableEq

inductive BidStatus where
  | pending | reserved | accepted | rejected | expired | settled
deriving DecidableEq

structure MarketBid where
  idpk : String
  msgId : String
  cycleId : String
  direction : Direction
  offerId : String
  counterpartCityId : String
  quantity : Int
  status : BidStatus
  rejectionReason : Option String := none
  availableOnRejection : Option Int := none
  swapId : Option String := none
  acceptedPricePerEnergy : Option ℚ := none
  createdAt : Instant
  respondedAt : Option Instant := none
deriving DecidableEq

inductive SwapRole where
  | proposer | acceptor
deriving DecidableEq

inductive SwapStatus where
  | submitted | proposed | acceptSubmitted | settled | rejected | expired | cancelled
deriving DecidableEq

/-- `record.status in {"SETTLED", "REJECTED", "EXPIRED", "CANCELLED"}`. -/
def SwapStatus.terminal : SwapStatus → Bool
  | settled | rejected | expired | cancelled => true
  | _ => false

structure SwapRecord where
  idpk : String
  swapId : Option String := none
  cycleId : String
  role : SwapRole
  counterpartCityId : String
  giveAsset : Asset
  giveAmount : ℚ
  takeAsset : Asset
  takeAmount : ℚ
  memo : Option String := none
  status : SwapStatus := .submitted
  rejectionReason : Option String := none
  idempotencyKey : String
  acceptIdempotencyKey : Option String := none
  swapToken : Option String := none
  expiresAt : Option Instant := none
  sourceBidIdpk : Option String := none
  acceptAttempts : Nat := 0
  acceptAttemptedAt : Option Instant := none
  acceptError : Option String := none
  acceptRetryAt : Option Instant := none
  createdAt : Instant
  proposalAttemptCount : Nat := 0
  proposalExpiresAt : Option Instant := none
  proposalClaimToken : Option String := none
  proposalLeaseUntil : Option Instant := none
  proposalRetryAt : Option Instant := none
  proposalHttpAcceptedAt : Option Instant := none
  proposalBlockedAt : Option Instant := none
  proposalLastError : Option String := none
  settledAt : Option Instant := none
deriving DecidableEq

structure MarketCycle where
  cycleId : String
  closedAt : Option Instant := none
  closedMsgId : Option String := none
  feedGapAt : Option Instant := none
deriving DecidableEq

inductive FeedState where
  | active | unresolved | withdrawn | closed
deriving DecidableEq

structure MarketFeedOffer where
  cycleId : String
  cityId : String
  offerId : String
  initialQuantity : Option Int := none
  remaining : Option Int := none
  pricePerEnergy : Option ℚ := none
  state : FeedState
  uncertain : Bool
  lastEventAt : Instant
  lastEventMsgId : String
deriving DecidableEq

/-- uq_market_feed_offer_cycle_city. -/
def MarketFeedOffer.place (o : MarketFeedOffer) : String × String := (o.cycleId,o.cityId)

structure WalletBalanceSnapshot where
  cycleId : Option String
  sourceSwapId : Option String
  walletAsOf : Option Instant
  kwhAvailable : Decimal
  kwhHeld : Decimal
  crAvailable : Decimal
  crHeld : Decimal
deriving DecidableEq

structure StrategyConfig where
  version : Nat
  status : String
  createdAt : Instant
  bidAcceptancePolicy : String := "FIFO"
  offerSelectionPolicy : String := "CHEAPEST_EFFECTIVE_PRICE"
  spanSeconds : Int := 60
  offerPriceMarkup : ℚ
  offerQuantityFraction : ℚ
  offerPriceOverride : Option ℚ := none
  offerQuantityCap : Option Int := none
  effectiveFromCycleId : Option String := none
deriving DecidableEq

structure DistanceTable where
  idpk : String
  msgId : String
  cycleId : Option String
  sourceTimestamp : Instant
  distances : Json
  disabledRouteTransportCost : Option ℚ

inductive ReportStatus where
  | pending | published | deferred | expired | rejected | superseded
deriving DecidableEq

structure NegotiationReport where
  idpk : String
  msgId : String
  cycleId : String
  status : ReportStatus := .pending
  reason : Option String := none
  budgetBalance : ℚ
  energyBalance : ℚ
deriving DecidableEq

inductive NegotiationStatus where
  | pendingPublication | proposed | acknowledged | confirmed | paid | rejected | timeout
deriving DecidableEq

structure Negotiation where
  id : Nat
  idpk : String
  cycleId : String
  latestMsgId : Option String
  direction : String
  requestedQuantity : ℚ
  offeredPrice : ℚ
  status : NegotiationStatus
  confirmedEnergy : Option ℚ := none
  confirmedPrice : Option ℚ := none
  paymentQuantity : Option ℚ := none
  deadlineAt : Option Instant := none
  updatedAt : Instant
deriving DecidableEq

end EnergyNode
