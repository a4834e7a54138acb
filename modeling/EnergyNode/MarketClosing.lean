import EnergyNode.FeedConfluence
import EnergyNode.NodeSteps

/-! The end of a market is final: whatever the node does after the central
closed a cycle, its feed, its instant of close, our offers of it and what we
announced of them stay as the close left them. -/
namespace EnergyNode
open Lib

variable {cfg : Config}

namespace SwapTimeouts

theorem service_expireBids (db : Db) (now : Instant) :
    Service cfg db (expireBids cfg db now) :=
  .same rfl rfl rfl

end SwapTimeouts

namespace Buying

theorem silent_markPublished (cycleId : String) (outbox : Outbox) (msgId : String) :
    Outbox.Silent cycleId outbox (markPublished outbox msgId) := by
  unfold markPublished
  split
  · exact .refl cycleId outbox
  · rename_i row hrow
    have stored : outbox.get? row.msgId = some row := by rwa [Table.key_of_get? hrow]
    dsimp only
    split
    · refine Outbox.silent_set cycleId row ?_ (fun _ => ⟨rfl,rfl⟩) fun _ live => ?_
      · exact stored
      · cases live
    · refine Outbox.silent_set cycleId row ?_ (fun _ => ⟨rfl,rfl⟩) fun _ live => ?_
      · exact stored
      · cases live

theorem silent_markFailed (cycleId : String) (outbox : Outbox) (msgId error : String) :
    Outbox.Silent cycleId outbox (markFailed outbox msgId error) := by
  unfold markFailed
  split
  · exact .refl cycleId outbox
  · rename_i row hrow
    have stored : outbox.get? row.msgId = some row := by rwa [Table.key_of_get? hrow]
    split
    · exact .refl cycleId outbox
    · rename_i unpublished
      rw [not_or] at unpublished
      refine Outbox.silent_set cycleId row ?_ (fun _ => ⟨rfl,rfl⟩) fun _ live => ?_
      · exact stored
      · simp only [OutboundMessage.notice,Bool.and_eq_true] at live ⊢
        exact ⟨live.1,decide_eq_true unpublished.1⟩

end Buying

namespace SellerBidAccepted

theorem service_enqueueBidAccepted (jwt : Jwt) (db : Db) (r : SwapRecord) (data : Fields)
    (sender : Option String) (now : Instant) :
    Service cfg db (enqueueBidAccepted cfg jwt db r data sender now) := by
  unfold enqueueBidAccepted
  split
  · exact .of_same rfl rfl fun cycleId => Outbox.silent_enqueue_other cycleId _ _ rfl
  · exact .refl db

end SellerBidAccepted

namespace Ingest

theorem service_bid {db db' : Db} {payload : Payload} {now : Instant} {verdict : Verdict}
    (h : bid cfg db payload now = .ok (db',verdict)) : Service cfg db db' := by
  unfold bid at h
  obtain ⟨⟨db₁,status,reason⟩,hp,h⟩ := Fallible.bind_ok.mp h
  have first := SellerBids.service_processIncomingBid hp
  dsimp only at h
  split at h
  · cases h
    exact first
  split at h
  · cases h
    exact first
  obtain ⟨policy,_,h⟩ := Fallible.bind_ok.mp h
  split at h
  · cases h
    exact first
  obtain ⟨⟨db₂,outcome⟩,hr,h⟩ := Fallible.bind_ok.mp h
  have second := SellerBids.service_reserveIncomingBid hr
  dsimp only at h
  split at h <;> cases h <;> exact first.trans second

theorem service_bidReply {db db' : Db} {payload : Payload} {now : Instant} {verdict : Verdict}
    (h : bidReply db payload now = .ok (db',verdict)) : Service cfg db db' := by
  obtain ⟨refusal,replied⟩ := bidReply_cases h
  exact BidReplies.service_processBidReply replied

theorem service_swapEvent {jwt : Jwt} {db db' : Db} {payload : Payload}
    {type : WalletEvents.EventType} {now : Instant} {verdict : Verdict}
    (h : swapEvent cfg jwt db payload type now = .ok (db',verdict)) : Service cfg db db' := by
  unfold swapEvent at h
  obtain ⟨⟨db₁,record⟩,hp,h⟩ := Fallible.bind_ok.mp h
  have first := WalletEvents.service_processSwapEvent hp
  dsimp only at h
  split at h
  · cases h
    exact first
  · split at h <;> cases h
    · exact first.trans (SellerBidAccepted.service_enqueueBidAccepted _ _ _ _ _ _)
    · exact first

theorem service_dispatch {jwt : Jwt} {db db' : Db} {payload : Payload} {now : Instant}
    {verdict : Verdict} (h : dispatch cfg jwt db payload now = .ok (db',verdict)) :
    Service cfg db db' := by
  unfold dispatch at h
  split at h
  · exact .of_front (front_statusStatement h)
  · exact .of_front (front_transfer h)
  · exact .of_front (front_demandStatement h)
  · exact .of_front (front_distanceTable h)
  · exact .of_front (front_negotiationProposal h)
  · exact service_bid h
  · exact service_bidReply h
  · exact service_bidReply h
  · exact .of_front (front_acknowledgement h)
  · exact .of_front (front_refusal h)
  · exact .of_front (front_confirmation h)
  · exact .of_front (front_confirmation h)
  · exact .of_front (front_negotiationReport h)
  · exact service_swapEvent h
  · exact service_swapEvent h
  · exact service_swapEvent h
  · exact service_swapEvent h
  · exact service_swapEvent h
  · exact .of_front (front_walletFact h)
  · exact .of_front (front_walletFact h)
  · cases h
    exact .refl db

end Ingest

namespace Node

/-- The actions that hand a message over. -/
def bringsMessage : Action → Bool
  | .ingest .. | .feed _ => true
  | _ => false

end Node

namespace MarketClosing
open MarketFeed FeedConfluence

/-- Nothing of a cycle moves from one state to the next: its market row, its
feed, our offers on sale, and what is announced of them. -/
structure Held (cfg : Config) (cycleId : String) (db db' : Db) : Prop where
  market : db'.marketCycles.get? cycleId = db.marketCycles.get? cycleId
  feed : ∀ city, db'.feed.get? (cycleId,city) = db.feed.get? (cycleId,city)
  offers : ∀ o ∈ db'.market.offers, o.onSale cfg cycleId →
    ∃ old ∈ db.market.offers, old.onSale cfg cycleId
  outbox : Outbox.Silent cycleId db.outbox db'.outbox

namespace Held
variable {cycleId : String}

theorem refl (db : Db) : Held cfg cycleId db db :=
  ⟨rfl,fun _ => rfl,fun o ho sale => ⟨o,ho,sale⟩,.refl cycleId _⟩

theorem trans {a b c : Db} (h : Held cfg cycleId a b) (k : Held cfg cycleId b c) :
    Held cfg cycleId a c where
  market := k.market.trans h.market
  feed := fun city => (k.feed city).trans (h.feed city)
  offers := by
    intro o ho sale
    obtain ⟨p,hp,sale'⟩ := k.offers o ho sale
    exact h.offers p hp sale'
  outbox := h.outbox.trans k.outbox

theorem closed {db db' : Db} (h : Held cfg cycleId db db') :
    db'.calendar.marketClosed cycleId = db.calendar.marketClosed cycleId := by
  unfold Calendar.marketClosed Db.calendar
  rw [h.market]

theorem of_service {db db' : Db} (h : Service cfg db db')
    (closed : db.calendar.marketClosed cycleId) : Held cfg cycleId db db' where
  market := by rw [show db'.marketCycles = db.marketCycles from congrArg Log.marketCycles h.log]
  feed := fun city => by rw [show db'.feed = db.feed from congrArg Log.feed h.log]
  offers := h.offers cycleId closed
  outbox := h.outbox cycleId closed

end Held

section Feed
variable {cycleId : String} {d : Payload} {db : Db}

theorem closed_iff : db.calendar.marketClosed cycleId ↔
    ∃ market, db.marketCycles.get? cycleId = some market ∧ market.closedAt.isSome := by
  unfold Calendar.marketClosed Db.calendar
  dsimp only
  cases db.marketCycles.get? cycleId with
  | none => simp
  | some market => simp

theorem get?_marketCycle {cycles : Table MarketCycle.cycleId} {market : MarketCycle}
    (h : cycles.get? cycleId = some market) (other : String) :
    (marketCycle cycles other).get? cycleId = some market := by
  unfold marketCycle
  cases hi : cycles.insert? { cycleId := other } with
  | none => exact h
  | some inserted =>
    obtain ⟨free,rfl⟩ := Table.insert?_eq_some.mp hi
    rw [Option.getD_some,Table.get?_insert,if_neg,h]
    rintro rfl
    rw [h] at free
    cases free

/-- Opening the market row of a message changes no row that is there. -/
theorem claiming_held (cfg : Config) (sender : String) (closed : db.calendar.marketClosed cycleId) :
    Held cfg cycleId db (claiming db sender d) := by
  obtain ⟨market,found,_⟩ := closed_iff.mp closed
  exact ⟨(get?_marketCycle found _).trans found.symm,fun _ => rfl,
    fun o ho sale => ⟨o,ho,sale⟩,.refl cycleId _⟩

theorem marketOf_of_closed (closed : db.calendar.marketClosed cycleId)
    (named : d.cycleId.getD "" = cycleId) : (marketOf db d).closedAt.isSome := by
  obtain ⟨market,found,shut⟩ := closed_iff.mp closed
  unfold marketOf
  rw [named,get?_marketCycle found]
  exact shut

theorem closeLocalOffers_held (db : Db) (other : String) :
    Held cfg cycleId db (SellerOffers.closeLocalOffers cfg db other) := by
  refine ⟨rfl,fun _ => rfl,?_,SellerOffers.silent_silenced cycleId other db.outbox⟩
  intro o ho sale
  obtain ⟨old,hold,rfl⟩ := List.mem_map.mp ho
  unfold SellerOffers.closing at sale
  split at sale
  · cases (SellerOffers.onSale_iff.mp sale).2.2.2
  · exact ⟨old,hold,sale⟩

/-- The close of another cycle. -/
theorem applyMarketClosed_held (db : Db) (d : Payload) {market : MarketCycle}
    (other : market.cycleId ≠ cycleId) :
    Held cfg cycleId db (applyMarketClosed cfg db d market) := by
  refine .trans (b := { db with
    marketCycles := db.marketCycles.set
      { market with closedAt := some d.timestamp, closedMsgId := some d.msgId }
    feed := db.feed.mapRows (shut market.cycleId) (shut_place market.cycleId) }) ?_
    (closeLocalOffers_held _ _)
  exact ⟨Table.get?_set_ne _ other,fun city => shut_other (k := (cycleId,city)) other.symm db.feed,
    fun o ho sale => ⟨o,ho,sale⟩,.refl cycleId _⟩

theorem applyEvent_held (cfg : Config) (db : Db) (d : Payload) {market : MarketCycle}
    (sender : String) (event : Event)
    (h : market.cycleId = cycleId → market.closedAt.isSome) :
    Held cfg cycleId db (applyEvent cfg db d sender event market).1 := by
  unfold applyEvent
  split
  · split
    · exact .refl db
    · rename_i running
      exact applyMarketClosed_held db d fun same => running (h same)
  · split
    · exact .refl db
    · rename_i running
      have other : market.cycleId ≠ cycleId := fun same => running (h same)
      refine ⟨rfl,fun city => ?_,fun o ho sale => ⟨o,ho,sale⟩,.refl cycleId _⟩
      refine applyOfferEvent_other _ _ _ _ _ fun same => other ?_
      exact (Prod.mk.inj same).1.symm

theorem persist_held (cfg : Config) (db : Db) (d : Payload)
    (closed : db.calendar.marketClosed cycleId) : Held cfg cycleId db (persist cfg db d) := by
  cases he : event? d with
  | none =>
    unfold persist
    rw [he]
    exact .refl db
  | some e =>
    obtain ⟨sender,event⟩ := e
    cases hc : claimed db sender d with
    | some old =>
      obtain ⟨audit,same⟩ := persist_claimed cfg he hc
      rw [same]
      exact ⟨rfl,fun _ => rfl,fun o ho sale => ⟨o,ho,sale⟩,.refl cycleId _⟩
    | none =>
      obtain ⟨audit,same⟩ := persist_fresh cfg he hc
      have shut (own : (marketOf db d).cycleId = cycleId) : (marketOf db d).closedAt.isSome :=
        marketOf_of_closed closed (marketOf_key.symm.trans own)
      have applied := applyEvent_held cfg (claiming db sender d) d sender event shut
      have settled := (claiming_held cfg sender closed).trans applied
      rw [same]
      exact ⟨settled.market,settled.feed,settled.offers,settled.outbox⟩

end Feed

section Step
variable {cycleId : String} {db : Db}

theorem ingest_held (jwt : Jwt) (db : Db) (d : Payload) (now : Instant)
    (closed : db.calendar.marketClosed cycleId) :
    Held cfg cycleId db (Ingest.ingest cfg jwt db d now).1 := by
  unfold Ingest.ingest
  split
  · rename_i done verdict hp
    suffices held : Held cfg cycleId db done from
      ⟨held.market,held.feed,held.offers,held.outbox⟩
    obtain ⟨rfl,-⟩ | ⟨taken,db₁,ht,hd,rfl⟩ := Ingest.process_cases hp
    · exact .refl _
    · have claimed : Held cfg cycleId db taken := by
        unfold Ingest.claim? at ht
        split at ht
        · obtain ⟨processed,_,rfl⟩ := Option.map_eq_some_iff.mp ht
          exact ⟨rfl,fun _ => rfl,fun o ho sale => ⟨o,ho,sale⟩,.refl cycleId _⟩
        · cases ht
          exact .refl db
      have asked : Service cfg taken (Ingest.requestStatement cfg taken d now) :=
        .of_front (Ingest.front_requestStatement taken d now)
      have served := claimed.trans
        (.of_service (asked.trans (Ingest.service_dispatch hd)) (claimed.closed.trans closed))
      unfold Ingest.returnClaim
      split
      · exact ⟨served.market,served.feed,served.offers,served.outbox⟩
      · exact served
  · exact ⟨rfl,fun _ => rfl,fun o ho sale => ⟨o,ho,sale⟩,.refl cycleId _⟩

theorem service_attempted {result : Result Db} (h : ∀ db', result = .ok db' → Service cfg db db') :
    Service cfg db (Node.attempted db result) := by
  cases result with
  | error f => exact .refl db
  | ok db' => exact h db' rfl

/-- An action that brings no message is a service. -/
theorem service_step (env : Env) (db : Db) (a : Node.Action) (own : Node.bringsMessage a = false) :
    Service env.cfg db (Node.step env db a) := by
  cases a with
  | ingest d now => cases own
  | feed d => cases own
  | sellerBids locked maxOffers now =>
    refine service_attempted fun db' h => ?_
    obtain ⟨⟨db₁,tally⟩,hp,rfl⟩ := Fallible.map_ok.mp h
    exact SellerBids.service_processDueSellerBids hp
  | sellerOffer id available now =>
    exact service_attempted fun _ h => SellerOffers.service_enqueueSellerOffer h
  | reprice offerId price now =>
    exact service_attempted fun _ h => SellerOffers.service_changeLocalOfferPrice h
  | withdraw offerId now =>
    exact service_attempted fun _ h => SellerOffers.service_withdrawLocalOffer h
  | closeExpired now => exact SellerOffers.service_closeExpired db now
  | claimProposal locked now =>
    refine service_attempted fun db' h => ?_
    obtain ⟨⟨db₁,out⟩,hp,rfl⟩ := Fallible.map_ok.mp h
    exact SwapDispatch.service_claimOne hp
  | recoverProposal attempt answer now =>
    refine service_attempted fun db' h => ?_
    unfold Node.recoverProposal at h
    split at h
    · cases h
      exact .refl db
    · obtain ⟨⟨db₁,known⟩,hp,rfl⟩ := Fallible.map_ok.mp h
      exact SwapDispatch.service_recoverAttempt hp
  | settleProposal attempt answer now =>
    exact service_attempted fun _ h => SwapDispatch.service_settleAttempt h
  | sweep idpk answer now =>
    refine service_attempted fun db' h => ?_
    unfold Node.sweep at h
    split at h
    · cases h
      exact .refl db
    · obtain ⟨⟨db₁,verdict⟩,hp,rfl⟩ := Fallible.map_ok.mp h
      exact SwapTimeouts.service_sweepRecord hp
  | expireBids now => exact SwapTimeouts.service_expireBids db now
  | takeAccepted idpk jwks now => exact SwapAccept.service_takeAcceptedBid env.jwt db idpk jwks now
  | leaseAccept idpk now => exact SwapAccept.service_lease db idpk now
  | recoverAccept idpk answer now =>
    refine service_attempted fun db' h => ?_
    obtain ⟨⟨db₁,known⟩,hp,rfl⟩ := Fallible.map_ok.mp h
    exact SwapAccept.service_recover hp
  | sendAccept idpk now => exact SwapAccept.service_send db idpk now
  | settleAccept idpk answer check now =>
    exact service_attempted fun _ h => SwapAccept.service_settleAnswer h
  | buy order now => exact Buying.service_enqueueBuyBid db order now
  | renewBids now => exact Buying.service_renewFailed db now
  | published msgId =>
    exact .of_same rfl rfl fun c => Buying.silent_markPublished c db.outbox msgId
  | publishFailed msgId error =>
    exact .of_same rfl rfl fun c => Buying.silent_markFailed c db.outbox msgId error
  | closeMarkets locked now =>
    refine service_attempted fun db' h => ?_
    obtain ⟨books,_,rfl⟩ := Fallible.map_ok.mp h
    exact .same rfl rfl rfl

/-- No action reopens a closed market. -/
theorem step_held (env : Env) (db : Db) (a : Node.Action)
    (closed : db.calendar.marketClosed cycleId) :
    Held env.cfg cycleId db (Node.step env db a) := by
  cases a with
  | ingest d now => exact ingest_held _ _ _ _ closed
  | feed d => exact persist_held _ _ _ closed
  | _ => exact .of_service (service_step env db _ rfl) closed

end Step

/-- A cycle as the close left it in `shut`: nothing of it on sale, active in the
feed, announced anew or still to be sent. -/
structure Ended (cfg : Config) (cycleId : String) (shut db : Db) : Prop where
  market : db.marketCycles.get? cycleId = shut.marketCycles.get? cycleId
  feed : ∀ city, db.feed.get? (cycleId,city) = shut.feed.get? (cycleId,city)
  inactive : ∀ s ∈ db.feed, s.cycleId = cycleId → s.state ≠ .active
  offers : ∀ o ∈ db.market.offers, o.isLocal → o.cityId = cfg.cityId → o.cycleId = cycleId →
    o.status ≠ .active
  outbox : ∀ row ∈ db.outbox, row.cycleId = some cycleId → SellerOffers.isOfferEvent row.content →
    ¬(row.dispatchRequired ∧ row.status ≠ .published) ∧
      ∃ old ∈ shut.outbox, old.msgId = row.msgId ∧ old.content = row.content

section Close
variable {cycleId : String} {d : Payload} {db shut : Db}

theorem mem_of_notices {outbox : Outbox} {row : OutboundMessage} (h : row ∈ outbox)
    (event : SellerOffers.isOfferEvent row.content) : row.notice ∈ outbox.notices :=
  Outbox.mem_notices.mpr ⟨⟨row,h,rfl⟩,event⟩

theorem Ended.held {next : Db} (h : Ended cfg cycleId shut db) (held : Held cfg cycleId db next) :
    Ended cfg cycleId shut next where
  market := held.market.trans h.market
  feed := fun city => (held.feed city).trans (h.feed city)
  inactive := by
    intro s hs own
    have place : s.place = (cycleId,s.cityId) := Prod.ext own rfl
    have stored := Table.get?_of_mem hs
    rw [place,held.feed] at stored
    exact h.inactive s (Table.mem_of_get? stored) own
  offers := by
    intro o ho local_ city own live
    obtain ⟨old,hold,sale⟩ := held.offers o ho
      (SellerOffers.onSale_iff.mpr ⟨local_,city,own,live⟩)
    obtain ⟨local',city',own',live'⟩ := SellerOffers.onSale_iff.mp sale
    exact h.offers old hold local' city' own' live'
  outbox := by
    intro row hrow own event
    obtain ⟨n,hn,id,content,cycle,live⟩ := held.outbox row.notice (mem_of_notices hrow event) own
    obtain ⟨⟨old,hold,rfl⟩,event'⟩ := Outbox.mem_notices.mp hn
    obtain ⟨stopped,first,hfirst,id',content'⟩ := h.outbox old hold (cycle.trans own) event'
    refine ⟨?_,first,hfirst,id'.trans id,content'.trans content⟩
    rintro ⟨required,unpublished⟩
    have sent := live (by
      simp only [OutboundMessage.notice,Bool.and_eq_true]
      exact ⟨required,decide_eq_true unpublished⟩)
    simp only [OutboundMessage.notice,Bool.and_eq_true,decide_eq_true_eq] at sent
    exact stopped sent

theorem not_active_shut (cycleId : String) (feed : Feed) :
    ∀ s ∈ feed.mapRows (MarketFeed.shut cycleId) (shut_place cycleId), s.cycleId = cycleId →
      s.state ≠ .active := by
  intro s hs own
  obtain ⟨old,_,rfl⟩ := Table.mem_mapRows.mp hs
  unfold MarketFeed.shut at own ⊢
  split
  · exact nofun
  · rename_i open_
    rw [if_neg open_] at own
    exact fun active => open_ ⟨own,.inl active⟩

theorem ended_closeLocalOffers (db : Db)
    (inactive : ∀ s ∈ db.feed, s.cycleId = cycleId → s.state ≠ .active) :
    Ended cfg cycleId (SellerOffers.closeLocalOffers cfg db cycleId)
      (SellerOffers.closeLocalOffers cfg db cycleId) where
  market := rfl
  feed := fun _ => rfl
  inactive := inactive
  offers := by
    intro o ho local_ city own live
    obtain ⟨old,_,rfl⟩ := List.mem_map.mp ho
    unfold SellerOffers.closing at local_ city own live
    split at live
    · cases live
    · rename_i open_
      rw [if_neg open_] at local_ city own
      exact open_ ⟨own,local_,city,live⟩
  outbox := by
    intro row hrow own event
    refine ⟨?_,row,hrow,rfl,rfl⟩
    obtain ⟨old,_,rfl⟩ := List.mem_map.mp hrow
    unfold SellerOffers.silenced at own event ⊢
    split
    · exact fun live => by cases live.1
    · rename_i open_
      rw [if_neg open_] at own event
      exact fun live => open_ ⟨own,event,live.2,live.1⟩

theorem ended_applyMarketClosed (cfg : Config) (db : Db) (d : Payload) (market : MarketCycle) :
    Ended cfg market.cycleId (applyMarketClosed cfg db d market)
      (applyMarketClosed cfg db d market) :=
  ended_closeLocalOffers _ (not_active_shut market.cycleId db.feed)

theorem Ended.received {x y : Db} (h : Ended cfg cycleId x y) (d : Payload) (audit : Audit) :
    Ended cfg cycleId (received x d audit) (received y d audit) :=
  ⟨h.market,h.feed,h.inactive,h.offers,h.outbox⟩

/-- The market row of a message is there when the message is applied. -/
theorem get?_marketOf (db : Db) (sender : String) (d : Payload) :
    (claiming db sender d).marketCycles.get? (marketOf db d).cycleId = some (marketOf db d) := by
  rw [marketOf_key]
  show (marketCycle db.marketCycles (d.cycleId.getD "")).get? (d.cycleId.getD "") = _
  unfold marketOf
  cases hm : (marketCycle db.marketCycles (d.cycleId.getD "")).get? (d.cycleId.getD "") with
  | some market => rfl
  | none =>
    exfalso
    unfold marketCycle at hm
    cases hi : db.marketCycles.insert? { cycleId := d.cycleId.getD "" } with
    | some inserted =>
      obtain ⟨free,rfl⟩ := Table.insert?_eq_some.mp hi
      rw [hi,Option.getD_some,Table.get?_insert,if_pos rfl] at hm
      cases hm
    | none =>
      rw [hi,Option.getD_none] at hm
      have free : db.marketCycles.insert? { cycleId := d.cycleId.getD "" } = some _ :=
        Table.insert?_eq_some.mpr ⟨hm,rfl⟩
      rw [hi] at free
      cases free

/-- What processing a market-closed means. -/
theorem persist_closed (type : d.type = .marketClosed)
    (processed : (persist cfg db d).inbox = db.inbox ++ [⟨d,.processed,none⟩]) :
    ∃ audit, persist cfg db d = received
      (applyMarketClosed cfg (claiming db "central" d) d (marketOf db d)) d audit := by
  have grown {inbox : List InboundMessage} {row row' : InboundMessage}
      (h : inbox ++ [row] = inbox ++ [row']) : row = row' := by simpa using h
  cases he : event? d with
  | none =>
    unfold persist at processed
    rw [he] at processed
    simp at processed
  | some e =>
    have closing : e = ("central",.closed) := by
      unfold event? at he
      simp only [type,if_true,Option.bind_eq_bind,Option.bind_eq_some_iff] at he
      obtain ⟨_,_,_,_,he⟩ := he
      cases he
      rfl
    subst closing
    unfold persist at processed ⊢
    rw [he] at processed ⊢
    dsimp only at processed ⊢
    cases hc : claimed db "central" d with
    | some old =>
      rw [hc] at processed
      have row := grown processed
      split at row <;> cases congrArg InboundMessage.status row
    | none =>
      rw [hc] at processed
      dsimp only at processed ⊢
      unfold applyEvent at processed ⊢
      dsimp only at processed ⊢
      split at processed
      · cases congrArg InboundMessage.status (grown processed)
      · rename_i running
        rw [if_neg running]
        exact ⟨_,rfl⟩

/-- Once a market-closed of a cycle was processed, no run of the node moves its
instant of close, its feed, or our offers of it, and none announces them again. -/
theorem market_close_final (env : Env) (db : Db) (d : Payload) (cycleId : String)
    (type : d.type = .marketClosed) (cycle : d.cycleId = some cycleId)
    (processed : (persist env.cfg db d).inbox = db.inbox ++ [⟨d,.processed,none⟩])
    (after : List Node.Action) :
    let shut := Node.step env db (.feed d)
    (∃ market ∈ shut.marketCycles.get? cycleId,
      market.closedAt = some d.timestamp ∧ market.closedMsgId = some d.msgId) ∧
    Always (Node.step env) (Ended env.cfg cycleId shut) shut after := by
  intro shut
  obtain ⟨audit,same⟩ := persist_closed type processed
  have named : (marketOf db d).cycleId = cycleId := by rw [marketOf_key,cycle]; rfl
  have start : Ended env.cfg cycleId shut shut := by
    have ended := ended_applyMarketClosed env.cfg (claiming db "central" d) d (marketOf db d)
    rw [named] at ended
    show Ended env.cfg cycleId (persist env.cfg db d) (persist env.cfg db d)
    rw [same]
    exact ended.received d audit
  have row : shut.marketCycles.get? cycleId = some { marketOf db d with
      closedAt := some d.timestamp, closedMsgId := some d.msgId } := by
    show (persist env.cfg db d).marketCycles.get? cycleId = _
    rw [same,← named]
    exact Table.get?_set_self
      (a := { marketOf db d with closedAt := some d.timestamp, closedMsgId := some d.msgId })
      (get?_marketOf db "central" d)
  have closed : shut.calendar.marketClosed cycleId := closed_iff.mpr ⟨_,row,rfl⟩
  refine ⟨⟨_,row,rfl,rfl⟩,?_⟩
  refine always_of_step (P := fun _ _ => True) ?_ start (along_true shut after)
  intro next a ended _
  refine ended.held (step_held env next a ?_)
  rw [← closed]
  unfold Calendar.marketClosed Db.calendar
  rw [ended.market]

/-- A market-closed the node had not heard of ends a market that runs. -/
theorem persist_running (closing : event? d = some ("central",.closed))
    (fresh : (claimed db "central" d).isNone) (running : (marketOf db d).closedAt = none) :
    (persist cfg db d).inbox = db.inbox ++ [⟨d,.processed,none⟩] := by
  rw [Option.isNone_iff_eq_none] at fresh
  unfold persist applyEvent
  rw [closing]
  dsimp only
  rw [fresh]
  dsimp only
  rw [if_neg]
  · rfl
  · show ¬(marketOf db d).closedAt.isSome
    rw [running]
    exact nofun

/-- The central closes C1. -/
def closure : Payload :=
  { Node.envelope .marketClosed "m1" "m2" none [] with
    sender := some "central", timestamp := seconds 5 }

/-- Our offer of C1 and one of BBB are out when the central closes it. -/
def trading : Db := Lib.run (Node.step Node.seller) (Node.opened "C1")
  [.sellerOffer "C1" 100 0, .feed (Node.envelope .offer "f7" "f8" (some "BBB")
    [("offerId",.str "BBB-C1"),("quantity",.int 50),("pricePerEnergy",.int 2)])]

theorem trading_closed :
    (trading.market.offers.rows.any (MarketOffer.onSale Node.seller.cfg "C1") ∧
      trading.outbox.notices.any Notice.dispatchable ∧
      trading.feed.rows.any fun s => s.state = .active) ∧
    Always (Node.step Node.seller)
      (Ended Node.seller.cfg "C1" (Node.step Node.seller trading (.feed closure)))
      (Node.step Node.seller trading (.feed closure))
      [.publishFailed Node.lease "down", .reprice "AAA-C1" (.finite 9) (seconds 6),
        .feed (Node.envelope .offerUpdated "u1" "u2" (some "BBB")
          [("offerId",.str "BBB-C1"),("remaining",.int 1),("pricePerEnergy",.int 2)])] :=
  ⟨by decide +kernel,(market_close_final Node.seller trading closure "C1" rfl rfl
    (persist_running (by decide +kernel) (by decide +kernel) (by decide +kernel)) _).2⟩

end Close

end MarketClosing

end EnergyNode
