import EnergyNode.Outbox

/-! The database of one city, grouped by the services that write it. A service
takes and returns only its own group, so its type already says what it leaves
unchanged. -/
namespace EnergyNode
open Lib

/-- The exceptions a service may raise; the caller's transaction rolls back. -/
inductive Fault where
  | value (reason : String)
  | runtime (reason : String)
  | key (field : String)
  | type
  | database
deriving DecidableEq

abbrev Result := Except Fault

structure Books where
  cycles : Table Cycle.cycleId := .empty
  ledger : List LedgerEntry := []
  trades : Table TradeRecord.swapId := .empty
  settlements : Table ImbalanceSettlement.settlementId := .empty

structure Market where
  offers : Table MarketOffer.offerId := .empty
  reservations : Table OfferReservation.bidIdpk := .empty
  bids : Table MarketBid.idpk := .empty
  swaps : Table SwapRecord.idpk := .empty
deriving DecidableEq

structure Diplomacy where
  negotiations : Table Negotiation.idpk := .empty
  reports : Table NegotiationReport.idpk := .empty
  distances : Table DistanceTable.idpk := .empty

/-- A protocol envelope as `ProtocolMessageIn` parses it: `idpk` and `msgId`
are canonical UUID texts, so never empty; `extra` holds the members beside the
known ones. -/
structure Payload where
  idpk : String
  msgId : String
  type : MessageType
  timestamp : Instant
  cycleId : Option String := none
  sender : Option String := none
  cityId : Option String := none
  data : Fields := []
  extra : Fields := []
  named : idpk ≠ "" := by decide

inductive InboundStatus where
  | received | processed | notProcessed | duplicate | failed
deriving DecidableEq

/-- Equal contents up to `msgId` and `timestamp`, which a retry renews. -/
def Payload.sameOperation (old new : Payload) : Bool :=
  old.idpk = new.idpk && old.type = new.type && old.cycleId = new.cycleId &&
    old.sender = new.sender && old.cityId = new.cityId &&
    Json.pyEq (.obj old.data) (.obj new.data) && Json.pyEq (.obj old.extra) (.obj new.extra)

structure InboundMessage where
  payload : Payload
  status : InboundStatus
  reason : Option String := none

structure ProcessedIdpk where
  idpk : String
  msgId : String
  messageType : MessageType
  cycleId : Option String
deriving DecidableEq

/-- Who used which identifiers on the feed, and for which operation. -/
structure MarketEventClaim where
  sender : String
  payload : Payload

structure Db where
  books : Books := {}
  market : Market := {}
  diplomacy : Diplomacy := {}
  outbox : Outbox := .empty
  inbox : List InboundMessage := []
  processed : Table ProcessedIdpk.idpk := .empty
  marketCycles : Table MarketCycle.cycleId := .empty
  feed : Table MarketFeedOffer.place := .empty
  feedClaims : List MarketEventClaim := []
  strategies : Table StrategyConfig.version := .empty
  snapshots : List WalletBalanceSnapshot := []

end EnergyNode
