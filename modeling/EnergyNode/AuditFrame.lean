import EnergyNode.Ingest

/-! What the market and the wallet say does not depend on the audit of earlier
messages: their branches read and write everything but the inbox. -/
namespace EnergyNode
open Lib

/-- The database with another audit. -/
def Db.audited (db : Db) (inbox : List InboundMessage) : Db := { db with inbox := inbox }

section Columns
variable (db : Db) (inbox : List InboundMessage)

@[simp] theorem Db.audited_books : (db.audited inbox).books = db.books := rfl
@[simp] theorem Db.audited_market : (db.audited inbox).market = db.market := rfl
@[simp] theorem Db.audited_outbox : (db.audited inbox).outbox = db.outbox := rfl
@[simp] theorem Db.audited_processed : (db.audited inbox).processed = db.processed := rfl
@[simp] theorem Db.audited_strategies : (db.audited inbox).strategies = db.strategies := rfl
@[simp] theorem Db.audited_snapshots : (db.audited inbox).snapshots = db.snapshots := rfl
@[simp] theorem Db.audited_calendar : (db.audited inbox).calendar = db.calendar := rfl

end Columns

/-- A service that works as well on any audit. -/
def Unaudited {α : Type} (service : Db → Result (Db × α)) : Prop :=
  ∀ db inbox, service (db.audited inbox) = (service db).map (Prod.map (Db.audited · inbox) id)

section Branches
variable (cfg : Config) (jwt : Jwt) (payload : Payload) (now : Instant)

theorem unaudited_reject (bid : MarketBid) (reason : RejectionReason)
    (available : Option Int) (outcome : SellerBids.Outcome) :
    Unaudited fun db => (SellerBids.reject cfg db bid reason available now).map fun db =>
      (db,outcome) := by
  intro db inbox
  unfold SellerBids.reject
  dsimp only [Db.audited]
  cases SellerBids.enqueueBidRejected cfg db.outbox _ now <;> rfl

theorem refusal_audited (db : Db) (inbox : List InboundMessage) (bid : MarketBid)
    (offer : Option MarketOffer) : SellerBids.refusal cfg (db.audited inbox) bid offer now =
      SellerBids.refusal cfg db bid offer now := rfl

theorem ingressRefusal_audited (db : Db) (inbox : List InboundMessage) (buyer cycleId : String)
    (quantity : Int) (offer : Option MarketOffer) :
    SellerBids.ingressRefusal cfg (db.audited inbox) buyer cycleId quantity offer now =
      SellerBids.ingressRefusal cfg db buyer cycleId quantity offer now := rfl

theorem unaudited_reserveIncomingBid (idpk : String) :
    Unaudited fun db => SellerBids.reserveIncomingBid cfg db idpk now := by
  intro db inbox
  unfold SellerBids.reserveIncomingBid
  dsimp only [Db.audited_market,refusal_audited]
  cases SellerBids.incomingBid? db.market idpk with
  | none => rfl
  | some bid =>
    dsimp only
    cases bid.status with
    | reserved =>
      dsimp only
      cases db.market.swaps.get? bid.idpk <;> rfl
    | pending =>
      dsimp only
      split
      · exact unaudited_reject cfg now bid _ _ _ db inbox
      · split
        · rfl
        · split
          · rename_i free
            exact dif_pos free
          · rename_i taken
            exact dif_neg taken
    | _ => rfl

theorem unaudited_processIncomingBid :
    Unaudited fun db => SellerBids.processIncomingBid cfg db payload now := by
  intro db inbox
  unfold SellerBids.processIncomingBid
  dsimp +instances only [Db.audited_market,Db.audited_outbox,ingressRefusal_audited]
  cases SellerBids.bidData? payload with
  | none => rfl
  | some data =>
    dsimp only
    generalize SellerBids.ingressRefusal cfg db data.buyer data.cycleId data.quantity
      (SellerBids.offerOf? cfg db.market data.offerId data.cycleId) now = refused
    by_cases free : db.market.bids.get? (SellerBids.arrivingBid payload data refused now).idpk = none
    · rw [dif_pos free,dif_pos free]
      cases refused with
      | none => rfl
      | some refused =>
        dsimp only
        cases SellerBids.enqueueBidRejected cfg db.outbox _ now <;> rfl
    · rw [dif_neg free,dif_neg free]
      split
      · split <;> rfl
      · rfl

theorem unaudited_bid : Unaudited fun db => Ingest.bid cfg db payload now := by
  intro db inbox
  unfold Ingest.bid
  dsimp only
  rw [show SellerBids.processIncomingBid cfg (db.audited inbox) payload now = _ from
    unaudited_processIncomingBid cfg payload now db inbox]
  dsimp only
  cases SellerBids.processIncomingBid cfg db payload now with
  | error e => rfl
  | ok done =>
    obtain ⟨after,status,reason⟩ := done
    have policy : SellerBids.cycleAcceptancePolicy (after.audited inbox) (payload.cycleId.getD "") =
        SellerBids.cycleAcceptancePolicy after (payload.cycleId.getD "") := rfl
    dsimp only [Except.map,Fallible.ok_bind,Prod.map,id]
    split
    · rfl
    split
    · rfl
    rw [policy]
    cases SellerBids.cycleAcceptancePolicy after (payload.cycleId.getD "") with
    | error e => rfl
    | ok policy =>
      dsimp only [Fallible.ok_bind]
      split
      · rfl
      rw [show SellerBids.reserveIncomingBid cfg (after.audited inbox) payload.idpk now = _ from
        unaudited_reserveIncomingBid cfg now payload.idpk after inbox]
      dsimp only
      cases SellerBids.reserveIncomingBid cfg after payload.idpk now with
      | error e => rfl
      | ok done =>
        obtain ⟨later,outcome⟩ := done
        cases outcome <;> rfl

theorem addressed_audited (db : Db) (inbox : List InboundMessage) (target : String) :
    BidReplies.addressed (db.audited inbox) payload target =
      BidReplies.addressed db payload target := rfl

theorem unaudited_bidReply : Unaudited fun db => Ingest.bidReply db payload now := by
  intro db inbox
  unfold Ingest.bidReply BidReplies.processBidReply
  dsimp only [addressed_audited]
  cases (BidReplies.spelled (payload.data.get "target")).bind uuidText with
  | none => rfl
  | some target =>
    dsimp only
    cases BidReplies.addressed db payload target with
    | error refusal => rfl
    | ok bid =>
      dsimp only
      split
      · rfl
      cases BidReplies.resolved payload bid now with
      | error refusal => rfl
      | ok next =>
        dsimp only
        split <;> rfl

theorem updateOfferAndReservation_audited (db : Db) (inbox : List InboundMessage)
    (offerId bidIdpk : String) (action : WalletEvents.Action) :
    WalletEvents.updateOfferAndReservation cfg (db.audited inbox) offerId bidIdpk action now =
      (WalletEvents.updateOfferAndReservation cfg db offerId bidIdpk action now).audited inbox := by
  unfold WalletEvents.updateOfferAndReservation
  dsimp only [Db.audited_market,Db.audited_outbox,Db.audited_calendar]
  cases WalletEvents.heldReservation? db.market offerId bidIdpk with
  | none => rfl
  | some r =>
    cases action with
    | release => rfl
    | commit =>
      dsimp only
      cases db.market.offers.get? offerId <;> rfl

theorem moveReservation_audited (db : Db) (inbox : List InboundMessage) (record : SwapRecord)
    (action : WalletEvents.Action) :
    WalletEvents.moveReservation cfg (db.audited inbox) record action now =
      (WalletEvents.moveReservation cfg db record action now).audited inbox := by
  unfold WalletEvents.moveReservation
  split
  · rfl
  split
  · rfl
  · exact updateOfferAndReservation_audited ..

theorem unaudited_processTerminal (record : SwapRecord) (type : WalletEvents.EventType)
    (rejection : Json) :
    Unaudited fun db => WalletEvents.processTerminal cfg db record type rejection now := by
  intro db inbox
  unfold WalletEvents.processTerminal
  dsimp only [Db.audited_books]
  cases WalletEvents.repaired record type rejection with
  | error e => rfl
  | ok repaired =>
    dsimp only [Fallible.ok_bind]
    split
    · cases CycleAccounting.applySwapSettled cfg db.books repaired <;> rfl
    · rfl

theorem unaudited_transition (record : SwapRecord) (type : WalletEvents.EventType) (data : Fields)
    (rejection : Json) :
    Unaudited fun db => WalletEvents.transition cfg db record type data rejection now := by
  intro db inbox
  unfold WalletEvents.transition
  cases type with
  | proposed => rfl
  | settled =>
    dsimp only [Db.audited_books]
    cases CycleAccounting.applySwapSettled cfg db.books _ with
    | error e => rfl
    | ok books =>
      exact congrArg (fun moved => Except.ok (moved,_))
        (moveReservation_audited cfg now { db with books := books } inbox _ _)
  | rejected =>
    dsimp only
    cases WalletEvents.keyText _ with
    | error e => rfl
    | ok reason =>
      exact congrArg (fun moved => Except.ok (moved,_)) (moveReservation_audited cfg now db inbox _ _)
  | expired =>
    exact congrArg (fun moved => Except.ok (moved,_)) (moveReservation_audited cfg now db inbox _ _)
  | cancelled =>
    exact congrArg (fun moved => Except.ok (moved,_)) (moveReservation_audited cfg now db inbox _ _)

theorem unaudited_processSwapEvent (type : WalletEvents.EventType) (data : Fields)
    (rejection : Json) :
    Unaudited fun db => WalletEvents.processSwapEvent cfg db type data rejection now := by
  intro db inbox
  unfold WalletEvents.processSwapEvent
  dsimp only [Db.audited_market]
  cases WalletEvents.correlate db.market.swaps data with
  | error e => rfl
  | ok found =>
    cases found with
    | none => rfl
    | some record =>
      dsimp only [Fallible.ok_bind]
      split
      · have terminal := unaudited_processTerminal cfg now record type rejection db inbox
        dsimp only at terminal
        rw [terminal]
        cases WalletEvents.processTerminal cfg db record type rejection now <;> rfl
      cases WalletEvents.eventSwapId data with
      | error e => rfl
      | ok swapId =>
        dsimp only [Fallible.ok_bind]
        have moved := unaudited_transition cfg now (WalletEvents.learn record type swapId data) type
          data rejection db inbox
        dsimp only at moved
        rw [moved]
        cases WalletEvents.transition cfg db _ type data rejection now with
        | error e => rfl
        | ok done =>
          obtain ⟨after,record⟩ := done
          have snapshots : WalletEvents.snapshots (after.audited inbox) type record data =
              WalletEvents.snapshots after type record data := rfl
          dsimp only [Except.map,Fallible.ok_bind,Prod.map,id]
          rw [snapshots]
          cases WalletEvents.snapshots after type record data <;> rfl

theorem enqueueBidAccepted_audited (db : Db) (inbox : List InboundMessage) (record : SwapRecord)
    (data : Fields) (sender : Option String) :
    SellerBidAccepted.enqueueBidAccepted cfg jwt (db.audited inbox) record data sender now =
      (SellerBidAccepted.enqueueBidAccepted cfg jwt db record data sender now).audited inbox := by
  unfold SellerBidAccepted.enqueueBidAccepted
  dsimp only [Db.audited_market,Db.audited_outbox]
  split <;> rfl

theorem unaudited_swapEvent (type : WalletEvents.EventType) :
    Unaudited fun db => Ingest.swapEvent cfg jwt db payload type now := by
  intro db inbox
  unfold Ingest.swapEvent
  dsimp only
  have processed := unaudited_processSwapEvent cfg now type payload.data (Ingest.rejection payload) db
    inbox
  dsimp only at processed
  rw [processed]
  cases WalletEvents.processSwapEvent cfg db type payload.data (Ingest.rejection payload) now with
  | error e => rfl
  | ok done =>
    obtain ⟨after,record⟩ := done
    cases record with
    | none => rfl
    | some record =>
      dsimp only [Except.map,Fallible.ok_bind,Prod.map,id]
      split
      · exact congrArg (fun told => Except.ok (told,_)) (enqueueBidAccepted_audited ..)
      · rfl

theorem unaudited_walletFact : Unaudited fun db => Ingest.walletFact cfg db payload := by
  intro db inbox
  unfold Ingest.walletFact
  dsimp only [Db.audited_books]
  cases TradeEvents.processWalletFact cfg db.books payload <;> rfl

theorem unaudited_funding (cycleId : String) (quantity : Decimal) :
    Unaudited fun db => Ingest.funding cfg db payload cycleId quantity := by
  intro db inbox
  unfold Ingest.funding
  dsimp only [Db.audited_books]
  split
  · cases Ledger.applyLedgerEffect cfg (Opening.getOrCreateCycle db.books cycleId) _ <;> rfl
  · rfl

end Branches

end EnergyNode
