import EnergyNode.Ingest
import EnergyNode.LedgerRules

/-! What every entry of the ledger, every placeholder and every new row of a fact
respects, every message respects too, the statement of a cycle apart. -/
namespace EnergyNode
open Lib Ledger

namespace Received
variable {R : Books → Books → Prop} {cfg : Config} {jwt : Jwt} {db db' : Db} {now : Instant}
  {payload : Payload} {verdict : Ingest.Verdict}

theorem walletFact (r : Received R)
    (h : Ingest.walletFact cfg db payload = .ok (db',verdict)) : R db.books db'.books := by
  obtain ⟨⟨books,status,reason⟩,fact,h⟩ := Fallible.bind_ok.mp h
  cases h
  exact r.fact fact

/-! ### Negotiations -/

theorem givePayment (r : Received R) {p : Negotiations.Payment} {fresh : Bool}
    (h : Negotiations.processGivePayment cfg db p now = .ok (db',fresh)) :
    R db.books db'.books := by
  obtain ⟨n,_,h⟩ := Fallible.bind_ok.mp h
  split at h
  · split at h
    · cases h
    · cases h
      exact r.refl _
  obtain ⟨⟨books,entry,applied⟩,posted,h⟩ := Fallible.bind_ok.mp h
  have done := r.effect posted
  dsimp only at h
  split at h
  · cases h
    exact done
  split at h
  all_goals
    obtain ⟨_,_,h⟩ := Fallible.bind_ok.mp h
    obtain ⟨_,_,h⟩ := Fallible.bind_ok.mp h
    cases h
    exact done

theorem confirmEnergy (r : Received R) {c : Negotiations.Confirmation} {n : Negotiation}
    {books books' : Books} {applied : Bool}
    (h : Negotiations.confirmEnergy cfg books c n = .ok (books',applied)) : R books books' := by
  unfold Negotiations.confirmEnergy at h
  split at h
  · split at h
    · cases h
    split at h
    · cases h
    · cases h
      exact r.refl _
  simp only [Fallible.throw_bind] at h
  have posted (h : (applyLedgerEffect cfg books (Negotiations.confirmationEffect c n) >>=
      fun done => .ok (done.1,done.2.2)) = .ok (books',applied)) : R books books' := by
    obtain ⟨⟨done,entry,now⟩,effect,h⟩ := Fallible.bind_ok.mp h
    cases h
    exact r.effect effect
  split at h
  · split at h
    · obtain ⟨_,_,h⟩ := Fallible.bind_ok.mp h
      rw [Fallible.require_ok] at h
      exact posted h.2
    · exact posted h
  · exact posted h

theorem confirm (r : Received R) {c : Negotiations.Confirmation} {n : Negotiation} {fresh : Bool}
    (h : Negotiations.processConfirmation cfg db c now = .ok (db',n,fresh)) :
    R db.books db'.books := by
  obtain ⟨m,_,h⟩ := Fallible.bind_ok.mp h
  obtain ⟨⟨books,applied⟩,energy,h⟩ := Fallible.bind_ok.mp h
  obtain ⟨m',_,h⟩ := Fallible.bind_ok.mp h
  cases h
  exact r.confirmEnergy energy

theorem takePayment (r : Received R) {n : Negotiation}
    (h : Negotiations.enqueueTakePayment cfg db n now = .ok db') : R db.books db'.books := by
  unfold Negotiations.enqueueTakePayment at h
  simp only [Fallible.throw_bind,Fallible.require_ok] at h
  obtain ⟨_,_,h⟩ := h
  split at h
  · rw [Fallible.refuse_ok,Fallible.pure_ok] at h
    cases h.2
    exact r.refl _
  obtain ⟨_,_,h⟩ := Fallible.bind_ok.mp h
  split at h
  · obtain ⟨⟨books,entry,applied⟩,posted,h⟩ := Fallible.bind_ok.mp h
    rw [Fallible.require_ok,Fallible.pure_ok] at h
    obtain ⟨_,rfl⟩ := h
    exact r.effect posted
  · cases h

/-! ### The branches of a message -/

theorem transfer (r : Received R)
    (h : Ingest.transfer cfg db payload now = .ok (db',verdict)) : R db.books db'.books := by
  unfold Ingest.transfer at h
  obtain ⟨cycleId,_,h⟩ := Fallible.bind_ok.mp h
  obtain ⟨quantity,_,h⟩ := Fallible.bind_ok.mp h
  split at h
  · unfold Ingest.funding at h
    dsimp only at h
    split at h
    · obtain ⟨⟨books,entry,applied⟩,posted,h⟩ := Fallible.bind_ok.mp h
      cases h
      exact r.trans (r.placeholder _ cycleId) (r.effect posted)
    · cases h
      exact r.placeholder _ cycleId
  · cases h
  · split at h
    · obtain ⟨⟨done,fresh⟩,paid,h⟩ := Fallible.bind_ok.mp h
      cases h
      exact r.givePayment paid
    · cases h

theorem demandStatement (r : Received R)
    (h : Ingest.demandStatement cfg db payload = .ok (db',verdict)) : R db.books db'.books := by
  obtain ⟨cycleId,_,h⟩ := Fallible.bind_ok.mp h
  obtain ⟨balance,_,h⟩ := Fallible.bind_ok.mp h
  obtain ⟨quantity,_,h⟩ := Fallible.bind_ok.mp h
  obtain ⟨value,_,h⟩ := Fallible.bind_ok.mp h
  obtain ⟨⟨books,entry,applied⟩,posted,h⟩ := Fallible.bind_ok.mp h
  cases h
  exact r.trans (r.placeholder _ cycleId) (r.effect posted)

theorem distanceTable (r : Received R)
    (h : Ingest.distanceTable db payload now = .ok (db',verdict)) : R db.books db'.books := by
  unfold Ingest.distanceTable at h
  dsimp only at h
  split at h
  · cases h
    exact r.refl _
  obtain ⟨_,_,h⟩ := Fallible.bind_ok.mp h
  obtain ⟨_,_,h⟩ := Fallible.bind_ok.mp h
  split at h
  · split at h
    · cases h
    · cases h
      exact r.refl _
  · cases h

theorem negotiationProposal (r : Received R)
    (h : Ingest.negotiationProposal db payload now = .ok (db',verdict)) :
    R db.books db'.books := by
  unfold Ingest.negotiationProposal at h
  obtain ⟨cycleId,_,h⟩ := Fallible.bind_ok.mp h
  dsimp only at h
  split at h
  · cases h
    exact r.placeholder _ cycleId
  obtain ⟨direction,_,h⟩ := Fallible.bind_ok.mp h
  split at h
  · obtain ⟨quantity,_,h⟩ := Fallible.bind_ok.mp h
    obtain ⟨price,_,h⟩ := Fallible.bind_ok.mp h
    cases h
    unfold Negotiations.propose
    dsimp only
    split <;> exact r.placeholder _ cycleId
  · cases h

/-! The services of the market leave the books alone. -/

theorem rejected_books {bid : MarketBid} {reason : RejectionReason} {available : Option Int}
    (h : SellerBids.reject cfg db bid reason available now = .ok db') : db'.books = db.books := by
  obtain ⟨outbox,_,h⟩ := Fallible.bind_ok.mp h
  cases h
  rfl

theorem reserved_books {idpk : String} {outcome : SellerBids.Outcome}
    (h : SellerBids.reserveIncomingBid cfg db idpk now = .ok (db',outcome)) :
    db'.books = db.books := by
  obtain ⟨bid,_,⟨-,rfl⟩ | ⟨-,⟨_,_,_,rejected⟩ | ⟨offer,_,_,_,_,rfl⟩⟩⟩ :=
    SellerBids.reserveIncomingBid_cases h
  · rfl
  · exact rejected_books rejected
  · rfl

theorem incoming_books {status : InboundStatus} {reason : Option String}
    (h : SellerBids.processIncomingBid cfg db payload now = .ok (db',status,reason)) :
    db'.books = db.books := by
  unfold SellerBids.processIncomingBid at h
  split at h
  · cases h
    rfl
  dsimp only at h
  split at h
  · split at h
    · cases h
      rfl
    · obtain ⟨outbox,_,h⟩ := Fallible.bind_ok.mp h
      cases h
      rfl
  · split at h
    · split at h <;> cases h <;> rfl
    · cases h
      rfl

theorem bid_books (h : Ingest.bid cfg db payload now = .ok (db',verdict)) :
    db'.books = db.books := by
  obtain ⟨⟨mid,status,reason⟩,first,h⟩ := Fallible.bind_ok.mp h
  have same := incoming_books first
  dsimp only at h
  split at h
  · cases h
    exact same
  split at h
  · cases h
    exact same
  obtain ⟨policy,_,h⟩ := Fallible.bind_ok.mp h
  split at h
  · cases h
    exact same
  obtain ⟨⟨done,outcome⟩,second,h⟩ := Fallible.bind_ok.mp h
  have same' := reserved_books second
  dsimp only at h
  split at h <;> cases h <;> exact same'.trans same

theorem bidReply_books (h : Ingest.bidReply db payload now = .ok (db',verdict)) :
    db'.books = db.books := by
  obtain ⟨refusal,reply⟩ := Ingest.bidReply_cases h
  obtain rfl | ⟨_,_,_,_,_,rfl⟩ := BidReplies.processBidReply_cases reply <;> rfl

theorem acknowledgement_books (h : Ingest.acknowledgement db payload now = .ok (db',verdict)) :
    db'.books = db.books := by
  obtain ⟨target,_,h⟩ := Fallible.bind_ok.mp h
  obtain ⟨done,ack,h⟩ := Fallible.bind_ok.mp h
  cases h
  unfold Negotiations.acknowledge at ack
  split at ack
  · cases ack
    rfl
  · obtain ⟨n,_,rfl⟩ := Fallible.map_ok.mp ack
    rfl

theorem refusal_books (h : Ingest.refusal db payload now = .ok (db',verdict)) :
    db'.books = db.books := by
  obtain ⟨target,_,h⟩ := Fallible.bind_ok.mp h
  obtain ⟨done,nack,h⟩ := Fallible.bind_ok.mp h
  cases h
  unfold Negotiations.refuse at nack
  split at nack
  · cases nack
    rfl
  · obtain ⟨n,_,rfl⟩ := Fallible.map_ok.mp nack
    rfl

theorem report_books (h : Ingest.negotiationReport db payload now = .ok (db',verdict)) :
    db'.books = db.books := by
  unfold Ingest.negotiationReport at h
  obtain ⟨cycleId,_,h⟩ := Fallible.bind_ok.mp h
  split at h
  · obtain ⟨_,_,h⟩ := Fallible.bind_ok.mp h
    split at h
    · cases h
      rfl
    obtain ⟨budget,_,h⟩ := Fallible.bind_ok.mp h
    obtain ⟨energy,_,h⟩ := Fallible.bind_ok.mp h
    split at h
    · split at h
      · cases h
      · cases h
        rfl
    · cases h
  · cases h

theorem confirmation (r : Received R)
    (h : Ingest.confirmation cfg db payload now = .ok (db',verdict)) : R db.books db'.books := by
  unfold Ingest.confirmation at h
  obtain ⟨cycleId,_,h⟩ := Fallible.bind_ok.mp h
  obtain ⟨energy,_,h⟩ := Fallible.bind_ok.mp h
  obtain ⟨price,_,h⟩ := Fallible.bind_ok.mp h
  obtain ⟨target,_,h⟩ := Fallible.bind_ok.mp h
  obtain ⟨⟨mid,n,fresh⟩,confirmed,h⟩ := Fallible.bind_ok.mp h
  have first := r.confirm confirmed
  dsimp only at h
  split at h
  · obtain ⟨done,paid,h⟩ := Fallible.bind_ok.mp h
    cases h
    exact r.trans first (r.takePayment paid)
  · cases h
    exact first

theorem moveReservation_books (cfg : Config) (db : Db) (record : SwapRecord)
    (action : WalletEvents.Action) (now : Instant) :
    (WalletEvents.moveReservation cfg db record action now).books = db.books := by
  unfold WalletEvents.moveReservation
  split
  · rfl
  split
  · rfl
  unfold WalletEvents.updateOfferAndReservation
  split
  · rfl
  split
  · rfl
  · dsimp only
    split <;> rfl

theorem enqueueBidAccepted_books (record : SwapRecord) (data : Fields) (sender : Option String) :
    (SellerBidAccepted.enqueueBidAccepted cfg jwt db record data sender now).books = db.books := by
  unfold SellerBidAccepted.enqueueBidAccepted
  split <;> rfl

theorem terminal (r : Received R) {record done : SwapRecord} {type : WalletEvents.EventType}
    {rejection : Json}
    (h : WalletEvents.processTerminal cfg db record type rejection now = .ok (db',done)) :
    R db.books db'.books := by
  obtain ⟨repaired,_,h⟩ := Fallible.bind_ok.mp h
  split at h
  · obtain ⟨books,posted,h⟩ := Fallible.bind_ok.mp h
    cases h
    exact r.settled posted
  · cases h
    exact r.refl _

theorem transition (r : Received R) {record done : SwapRecord} {type : WalletEvents.EventType}
    {data : Fields} {rejection : Json}
    (h : WalletEvents.transition cfg db record type data rejection now = .ok (db',done)) :
    R db.books db'.books := by
  unfold WalletEvents.transition at h
  split at h
  · cases h
    exact r.refl _
  · obtain ⟨books,posted,h⟩ := Fallible.bind_ok.mp h
    cases h
    rw [moveReservation_books]
    exact r.settled posted
  · obtain ⟨reason,_,h⟩ := Fallible.bind_ok.mp h
    cases h
    rw [moveReservation_books]
    exact r.refl _
  · cases h
    rw [moveReservation_books]
    exact r.refl _
  · cases h
    rw [moveReservation_books]
    exact r.refl _

theorem swapEvent (r : Received R) {type : WalletEvents.EventType}
    (h : Ingest.swapEvent cfg jwt db payload type now = .ok (db',verdict)) :
    R db.books db'.books := by
  obtain ⟨⟨mid,record⟩,event,h⟩ := Fallible.bind_ok.mp h
  have done : R db.books mid.books := by
    obtain ⟨found,_,event⟩ := Fallible.bind_ok.mp event
    split at event
    · split at event
      · obtain ⟨⟨after,record⟩,terminal,event⟩ := Fallible.bind_ok.mp event
        cases event
        exact r.terminal terminal
      obtain ⟨swapId,_,event⟩ := Fallible.bind_ok.mp event
      obtain ⟨⟨after,record⟩,moved,event⟩ := Fallible.bind_ok.mp event
      obtain ⟨snapshots,_,event⟩ := Fallible.bind_ok.mp event
      have done := r.transition moved
      cases event
      exact done
    · cases event
      exact r.refl _
  dsimp only at h
  split at h
  · cases h
    exact done
  · split at h
    · cases h
      rw [enqueueBidAccepted_books]
      exact done
    · cases h
      exact done

theorem requestStatement (r : Received R) (cfg : Config) (db : Db) (payload : Payload)
    (now : Instant) : R db.books (Ingest.requestStatement cfg db payload now).books := by
  unfold Ingest.requestStatement
  split
  · exact r.refl _
  · split
    · exact r.refl _
    · exact r.placeholder _ _

/-- Every message but a statement. -/
theorem dispatch (r : Received R) (other : payload.type ≠ .statusStatement)
    (h : Ingest.dispatch cfg jwt db payload now = .ok (db',verdict)) : R db.books db'.books := by
  have same (e : db'.books = db.books) : R db.books db'.books := e ▸ r.refl _
  unfold Ingest.dispatch at h
  split at h
  · rename_i statement
    exact absurd statement other
  · exact r.transfer h
  · exact r.demandStatement h
  · exact r.distanceTable h
  · exact r.negotiationProposal h
  · exact same (bid_books h)
  · exact same (bidReply_books h)
  · exact same (bidReply_books h)
  · exact same (acknowledgement_books h)
  · exact same (refusal_books h)
  · exact r.confirmation h
  · exact r.confirmation h
  · exact same (report_books h)
  · exact r.swapEvent h
  · exact r.swapEvent h
  · exact r.swapEvent h
  · exact r.swapEvent h
  · exact r.swapEvent h
  · exact r.walletFact h
  · exact r.walletFact h
  · cases h
    exact r.refl _

theorem claim?_books (h : Ingest.claim? db payload = some db') : db'.books = db.books := by
  unfold Ingest.claim? at h
  split at h
  · obtain ⟨processed,_,rfl⟩ := Option.map_eq_some_iff.mp h
    rfl
  · cases h
    rfl

theorem returnClaim_books (db : Db) (payload : Payload) (verdict : Ingest.Verdict) :
    (Ingest.returnClaim db payload verdict).books = db.books := by
  unfold Ingest.returnClaim
  split <;> rfl

/-- A message respects the relation when its statement does. -/
theorem ingest (r : Received R) (cfg : Config) (jwt : Jwt) (db : Db) (payload : Payload)
    (now : Instant)
    (statement : ∀ claimed opened, Ingest.claim? db payload = some claimed →
      payload.type = .statusStatement →
      Opening.applyStatement cfg claimed payload now = .ok (some opened) →
        R db.books opened.books) :
    R db.books (Ingest.ingest cfg jwt db payload now).1.books := by
  unfold Ingest.ingest
  cases h : Ingest.process cfg jwt db payload now with
  | error fault => exact r.refl _
  | ok done =>
    obtain ⟨done,verdict⟩ := done
    show R db.books done.books
    obtain ⟨rfl,-⟩ | ⟨claimed,after,claim,dispatched,rfl⟩ := Ingest.process_cases h
    · exact r.refl _
    rw [returnClaim_books]
    by_cases type : payload.type = .statusStatement
    · have asked : Ingest.requestStatement cfg claimed payload now = claimed := by
        unfold Ingest.requestStatement
        split
        · rfl
        · exact if_pos type
      unfold Ingest.dispatch at dispatched
      rw [asked,type] at dispatched
      obtain ⟨opened,applied,e⟩ := Fallible.bind_ok.mp dispatched
      cases opened with
      | none =>
        cases e
        rw [claim?_books claim]
        exact r.refl _
      | some opened =>
        cases e
        exact statement claimed _ claim type applied
    · have first := r.requestStatement cfg claimed payload now
      rw [claim?_books claim] at first
      exact r.trans first (r.dispatch type dispatched)

end Received

end EnergyNode
