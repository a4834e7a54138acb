import EnergyNode.Lib.Fallible
import EnergyNode.Moves

/-! What a service leaves alone: the reception, the market feed, and the market
of every cycle that closed, where it neither sells nor announces again. -/
namespace EnergyNode
open Lib

/-- The rows that only the reception of messages writes. -/
structure Log where
  inbox : List InboundMessage
  processed : Table ProcessedIdpk.idpk
  marketCycles : Table MarketCycle.cycleId
  feed : Table MarketFeedOffer.place

def Db.log (db : Db) : Log := ⟨db.inbox,db.processed,db.marketCycles,db.feed⟩

/-- All a message about cycles or negotiations leaves as it was. -/
def Db.front (db : Db) : Desk × Log × List Notice := (db.desk,db.log,db.outbox.notices)

/-- Our own offer of the cycle, still on sale. -/
def MarketOffer.onSale (cfg : Config) (cycleId : String) (offer : MarketOffer) : Bool :=
  offer.isLocal && offer.cityId = cfg.cityId && offer.cycleId = cycleId && offer.status = .active

/-- What is announced about the cycle was announced before, and nothing that had
stopped is sent again. -/
def Outbox.Silent (cycleId : String) (a b : Outbox) : Prop :=
  ∀ n ∈ b.notices, n.cycleId = some cycleId → ∃ o ∈ a.notices,
    o.msgId = n.msgId ∧ o.content = n.content ∧ o.cycleId = n.cycleId ∧
      (n.dispatchable → o.dispatchable)

structure Service (cfg : Config) (db db' : Db) : Prop where
  log : db'.log = db.log
  offers : ∀ cycleId, db.calendar.marketClosed cycleId → ∀ o ∈ db'.market.offers,
    o.onSale cfg cycleId → ∃ old ∈ db.market.offers, old.onSale cfg cycleId
  outbox : ∀ cycleId, db.calendar.marketClosed cycleId →
    Outbox.Silent cycleId db.outbox db'.outbox

variable {cfg : Config}

namespace Outbox

theorem Silent.refl (cycleId : String) (outbox : Outbox) : Silent cycleId outbox outbox :=
  fun n hn _ => ⟨n,hn,rfl,rfl,rfl,fun h => h⟩

theorem Silent.trans {cycleId : String} {a b c : Outbox} (h : Silent cycleId a b)
    (k : Silent cycleId b c) : Silent cycleId a c := by
  intro n hn hc
  obtain ⟨o,ho,id,content,cycle,live⟩ := k n hn hc
  obtain ⟨p,hp,id',content',cycle',live'⟩ := h o ho (cycle.trans hc)
  exact ⟨p,hp,id'.trans id,content'.trans content,cycle'.trans cycle,live' ∘ live⟩

theorem silent_of_notices {cycleId : String} {a b : Outbox} (h : b.notices = a.notices) :
    Silent cycleId a b := by
  intro n hn _
  exact ⟨n,h ▸ hn,rfl,rfl,rfl,fun h => h⟩

theorem silent_enqueue {cycleId : String} (outbox : Outbox) (draft : Draft)
    (h : SellerOffers.isOfferEvent draft.content → draft.cycleId ≠ some cycleId) :
    Silent cycleId outbox (outbox.enqueue cfg draft) := by
  intro n hn hc
  rw [notices_enqueue,List.mem_append] at hn
  rcases hn with old | new
  · exact ⟨n,old,rfl,rfl,rfl,fun h => h⟩
  · split at new
    · rename_i event
      rw [List.mem_singleton] at new
      subst new
      exact absurd hc (h event)
    · cases new

theorem silent_enqueue_other (cycleId : String) (outbox : Outbox) (draft : Draft)
    (h : SellerOffers.isOfferEvent draft.content = false) :
    Silent cycleId outbox (outbox.enqueue cfg draft) :=
  silent_of_notices (notices_enqueue_other cfg outbox draft h)

/-- Rows that stay what they are, and leave no later than before. -/
theorem silent_mapRows (cycleId : String) (outbox : Outbox)
    (f : OutboundMessage → OutboundMessage) (hf)
    (same : ∀ row, (f row).content = row.content ∧ (f row).cycleId = row.cycleId)
    (live : ∀ row, (f row).notice.dispatchable → row.notice.dispatchable) :
    Silent cycleId outbox (outbox.mapRows f hf) := by
  intro n hn _
  rw [mem_notices] at hn
  obtain ⟨⟨row,hrow,rfl⟩,event⟩ := hn
  obtain ⟨old,hold,rfl⟩ := Table.mem_mapRows.mp hrow
  refine ⟨old.notice,mem_notices.mpr ⟨⟨old,hold,rfl⟩,?_⟩,(hf old).symm,(same old).1.symm,
    (same old).2.symm,live old⟩
  show SellerOffers.isOfferEvent old.content
  rw [← (same old).1]
  exact event

theorem silent_set (cycleId : String) {outbox : Outbox} (row : OutboundMessage)
    {next : OutboundMessage}
    (h : outbox.get? next.msgId = some row)
    (same : SellerOffers.isOfferEvent next.content →
      next.content = row.content ∧ next.cycleId = row.cycleId)
    (live : SellerOffers.isOfferEvent next.content →
      next.notice.dispatchable → row.notice.dispatchable) :
    Silent cycleId outbox (outbox.set next) := by
  intro n hn _
  rw [mem_notices] at hn
  obtain ⟨⟨r,hr,rfl⟩,event⟩ := hn
  rcases Table.mem_set.mp hr with ⟨old,_⟩ | ⟨rfl,_⟩
  · exact ⟨r.notice,mem_notices.mpr ⟨⟨r,old,rfl⟩,event⟩,rfl,rfl,rfl,fun h => h⟩
  · obtain ⟨content,cycle⟩ := same event
    have key : row.msgId = r.msgId := Table.key_of_get? h
    refine ⟨row.notice,mem_notices.mpr ⟨⟨row,Table.mem_of_get? h,rfl⟩,?_⟩,key,content.symm,
      cycle.symm,live event⟩
    show SellerOffers.isOfferEvent row.content
    rw [← content]
    exact event

theorem silent_set_other (cycleId : String) (outbox : Outbox) {next : OutboundMessage}
    (h : SellerOffers.isOfferEvent next.content = false) :
    Silent cycleId outbox (outbox.set next) := by
  intro n hn _
  rw [mem_notices] at hn
  obtain ⟨⟨r,hr,rfl⟩,event⟩ := hn
  rcases Table.mem_set.mp hr with ⟨old,_⟩ | ⟨rfl,_⟩
  · exact ⟨r.notice,mem_notices.mpr ⟨⟨r,old,rfl⟩,event⟩,rfl,rfl,rfl,fun h => h⟩
  · exact absurd event (by rw [show r.notice.content = r.content from rfl,h]; decide)

end Outbox

namespace Service

/-- Neither the offers nor what is announced of them changes. -/
theorem of_same {db db' : Db} (log : db'.log = db.log)
    (offers : db'.market.offers = db.market.offers)
    (outbox : ∀ cycleId, Outbox.Silent cycleId db.outbox db'.outbox) : Service cfg db db' where
  log := log
  offers := fun _ _ o ho sale => ⟨o,offers ▸ ho,sale⟩
  outbox := fun cycleId _ => outbox cycleId

theorem same {db db' : Db} (log : db'.log = db.log)
    (offers : db'.market.offers = db.market.offers) (outbox : db'.outbox = db.outbox) :
    Service cfg db db' :=
  of_same log offers fun cycleId => outbox ▸ .refl cycleId _

theorem refl (db : Db) : Service cfg db db := same rfl rfl rfl

theorem closed {db db' : Db} (h : db'.log = db.log) (cycleId : String) :
    db'.calendar.marketClosed cycleId = db.calendar.marketClosed cycleId := by
  have cycles : db'.marketCycles = db.marketCycles := congrArg Log.marketCycles h
  unfold Calendar.marketClosed Db.calendar
  rw [cycles]

theorem trans {a b c : Db} (h : Service cfg a b) (k : Service cfg b c) : Service cfg a c where
  log := k.log.trans h.log
  offers := by
    intro cycleId shut o ho sale
    obtain ⟨p,hp,sale'⟩ := k.offers cycleId (by rw [closed h.log,shut]) o ho sale
    exact h.offers cycleId shut p hp sale'
  outbox := fun cycleId shut =>
    (h.outbox cycleId shut).trans (k.outbox cycleId (by rw [closed h.log,shut]))

theorem of_front {db db' : Db} (h : db'.front = db.front) : Service cfg db db' :=
  of_same (congrArg (fun f => f.2.1) h) (congrArg (fun f => f.1.market.offers) h)
    fun _ => Outbox.silent_of_notices (congrArg (fun f => f.2.2) h)

end Service

namespace SellerOffers

theorem marketClosed_of_canBroadcast {db : Db} {offer : MarketOffer} {now : Instant}
    (h : canBroadcast cfg db.calendar offer now) :
    db.calendar.marketClosed offer.cycleId = false := by
  unfold canBroadcast at h
  split at h
  · cases h
  split at h
  · cases h
  split at h
  · cases h
  · simp only [Bool.and_eq_true,Bool.not_eq_true'] at h
    exact h.2

/-- What may still be broadcast belongs to no closed market. -/
theorem ne_of_canBroadcast {db : Db} {offer : MarketOffer} {now : Instant} {cycleId : String}
    (h : canBroadcast cfg db.calendar offer now) (closed : db.calendar.marketClosed cycleId) :
    offer.cycleId ≠ cycleId := by
  rintro rfl
  rw [marketClosed_of_canBroadcast h] at closed
  cases closed

theorem silent_broadcast {db : Db} {offer : MarketOffer} {content : Content} {now : Instant}
    {cycleId : String} (outbox : Outbox) (h : canBroadcast cfg db.calendar offer now)
    (closed : db.calendar.marketClosed cycleId) :
    Outbox.Silent cycleId outbox (broadcast cfg db.calendar outbox offer content now) :=
  Outbox.silent_enqueue outbox _ fun _ same => ne_of_canBroadcast h closed (Option.some.inj same)

theorem silent_confirmedUpdate {db : Db} {offer : MarketOffer} {now : Instant} {cycleId : String}
    (outbox : Outbox) (closed : db.calendar.marketClosed cycleId) :
    Outbox.Silent cycleId outbox
      (enqueueConfirmedOfferUpdate cfg db.calendar outbox offer now) := by
  unfold enqueueConfirmedOfferUpdate
  split
  · exact .refl cycleId outbox
  · rename_i h
    simp only [Bool.or_eq_true,decide_eq_true_eq,not_or,Bool.not_eq_true'] at h
    exact silent_broadcast outbox (by simpa using h.2) closed

theorem onSale_iff {offer : MarketOffer} {cycleId : String} : offer.onSale cfg cycleId ↔
    offer.isLocal ∧ offer.cityId = cfg.cityId ∧ offer.cycleId = cycleId ∧
      offer.status = .active := by
  simp [MarketOffer.onSale,and_assoc]

theorem onSale_insert {offers : Table MarketOffer.offerId} {offer : MarketOffer}
    (free : offers.get? offer.offerId = none) {cycleId : String} (ne : offer.cycleId ≠ cycleId) :
    ∀ o ∈ offers.insert offer free, o.onSale cfg cycleId →
      ∃ old ∈ offers, old.onSale cfg cycleId := by
  intro o ho sale
  rcases Table.mem_insert.mp ho with old | rfl
  · exact ⟨o,old,sale⟩
  · exact absurd (onSale_iff.mp sale).2.2.1 ne

/-- A row written over another is on sale only where the other was. -/
theorem onSale_set {offers : Table MarketOffer.offerId} {row : MarketOffer} (next : MarketOffer)
    (h : offers.get? next.offerId = some row) {cycleId : String}
    (live : next.onSale cfg cycleId → row.onSale cfg cycleId) :
    ∀ o ∈ offers.set next, o.onSale cfg cycleId → ∃ old ∈ offers, old.onSale cfg cycleId := by
  intro o ho sale
  rcases Table.mem_set.mp ho with ⟨old,_⟩ | ⟨rfl,_⟩
  · exact ⟨o,old,sale⟩
  · exact ⟨row,Table.mem_of_get? h,live sale⟩

theorem service_enqueueSellerOffer {db db' : Db} {cycleId : String} {available : ℚ} {now : Instant}
    (h : enqueueSellerOffer cfg db cycleId available now = .ok db') : Service cfg db db' := by
  obtain rfl | ⟨cycle,free,quantity,price,found,live,-,rfl⟩ := enqueueSellerOffer_cases h
  · exact .refl _
  have ne {c : String} (closed : db.calendar.marketClosed c) : cycleId ≠ c := by
    rintro rfl
    exact live closed
  refine ⟨rfl,fun c closed => onSale_insert free (ne closed),fun c closed => ?_⟩
  refine Outbox.silent_enqueue _ _ fun _ same => ne closed ?_
  rw [← Table.key_of_get? found]
  exact Option.some.inj same

theorem get?_localOffer {db : Db} {offerId : String} {offer : MarketOffer}
    (h : localOffer? cfg db.market offerId = some offer) :
    db.market.offers.get? offer.offerId = some offer := by
  have found := (Option.filter_eq_some_iff.mp h).1
  rw [Table.key_of_get? found]
  exact found

theorem service_changeLocalOfferPrice {db db' : Db} {offerId : String} {price : Decimal}
    {now : Instant} (h : changeLocalOfferPrice cfg db offerId price now = .ok db') :
    Service cfg db db' := by
  unfold changeLocalOfferPrice at h
  split at h
  · cases h
  split at h
  · cases h
  dsimp only at h
  split at h
  · cases h
  rename_i offer found
  split at h
  · cases h
  split at h
  · cases h
  split at h <;> cases h
  · exact .refl _
  · rename_i price _ _ _ _ _
    have stored := get?_localOffer found
    exact ⟨rfl,fun _ _ => onSale_set { offer with pricePerEnergy := centsHalfUp price } stored id,
      fun _ closed => silent_confirmedUpdate _ closed⟩

theorem service_withdrawLocalOffer {db db' : Db} {offerId : String} {now : Instant}
    (h : withdrawLocalOffer cfg db offerId now = .ok db') : Service cfg db db' := by
  unfold withdrawLocalOffer at h
  split at h
  · cases h
  rename_i offer found
  split at h
  · cases h
    exact .refl _
  · cases h
  · split at h <;> cases h
    rename_i may
    rw [Bool.not_eq_true,Bool.not_eq_false'] at may
    have stored := get?_localOffer found
    refine ⟨rfl,fun _ _ => onSale_set { offer with status := .withdrawn } stored ?_,
      fun _ closed => silent_broadcast _ may closed⟩
    intro sale
    cases (onSale_iff.mp sale).2.2.2

theorem silent_silenced (cycleId silencedId : String) (outbox : Outbox) :
    Outbox.Silent cycleId outbox (outbox.mapRows (silenced silencedId)
      (silenced_msgId silencedId)) := by
  refine Outbox.silent_mapRows _ _ _ _ ?_ ?_
  · intro row
    unfold silenced
    split <;> exact ⟨rfl,rfl⟩
  · intro row live
    unfold silenced at live
    split at live
    · cases live
    · exact live

theorem service_closeLocalOffers (db : Db) (cycleId : String) :
    Service cfg db (closeLocalOffers cfg db cycleId) := by
  refine ⟨rfl,?_,fun c _ => silent_silenced c cycleId db.outbox⟩
  intro c _ o ho sale
  obtain ⟨old,hold,rfl⟩ := List.mem_map.mp ho
  unfold closing at sale
  split at sale
  · cases (onSale_iff.mp sale).2.2.2
  · exact ⟨old,hold,sale⟩

theorem service_closeExpired (db : Db) (now : Instant) :
    Service cfg db (closeExpiredLocalOffers cfg db now) := by
  unfold closeExpiredLocalOffers
  generalize expiredCycles cfg db now = cycles
  induction cycles generalizing db with
  | nil => exact .refl db
  | cons cycle cycles ih => exact (service_closeLocalOffers db cycle).trans (ih _)

end SellerOffers

namespace SellerBids

theorem silent_enqueueBidRejected {outbox done : Outbox} {r : Rejected} {now : Instant}
    (h : enqueueBidRejected cfg outbox r now = .ok done) (cycleId : String) :
    Outbox.Silent cycleId outbox done := by
  obtain ⟨target,_,⟨rfl,_⟩ | rfl⟩ := enqueueBidRejected_cases h
  · exact .refl cycleId _
  · exact Outbox.silent_enqueue_other cycleId _ _ rfl

theorem service_reject {db db' : Db} {b : MarketBid} {reason : RejectionReason}
    {available : Option Int} {now : Instant} (h : reject cfg db b reason available now = .ok db') :
    Service cfg db db' := by
  unfold reject at h
  obtain ⟨outbox,he,h⟩ := Fallible.bind_ok.mp h
  cases h
  exact .of_same rfl rfl (silent_enqueueBidRejected he)

theorem service_reserveIncomingBid {db db' : Db} {idpk : String} {now : Instant} {outcome : Outcome}
    (h : reserveIncomingBid cfg db idpk now = .ok (db',outcome)) : Service cfg db db' := by
  obtain ⟨b,_,⟨-,rfl⟩ | ⟨-,⟨_,_,_,hr⟩ | ⟨o,_,_,_,_,rfl⟩⟩⟩ := reserveIncomingBid_cases h
  · exact .same rfl rfl rfl
  · exact service_reject hr
  · exact .same rfl rfl rfl

theorem service_processIncomingBid {db db' : Db} {payload : Payload} {now : Instant}
    {status : InboundStatus} {reason : Option String}
    (h : processIncomingBid cfg db payload now = .ok (db',status,reason)) : Service cfg db db' := by
  unfold processIncomingBid at h
  split at h
  · cases h
    exact .same rfl rfl rfl
  dsimp only at h
  split at h
  · split at h
    · cases h
      refine .same rfl ?_ rfl
      dsimp only
      split <;> rfl
    · obtain ⟨outbox,he,h⟩ := Fallible.bind_ok.mp h
      cases h
      refine .of_same rfl ?_ (silent_enqueueBidRejected he)
      dsimp only
      split <;> rfl
  · split at h
    · split at h <;> cases h <;> exact .same rfl rfl rfl
    · cases h
      exact .same rfl rfl rfl

theorem service_processDueSellerBids {db db' : Db} {locked : List String} {maxOffers : Nat}
    {now : Instant} {tally : Tally}
    (h : processDueSellerBids cfg db locked maxOffers now = .ok (db',tally)) :
    Service cfg db db' := by
  unfold processDueSellerBids at h
  split at h
  · cases h
  let R : Db × Tally → Db × Tally → Prop := fun s t => Service cfg s.1 t.1
  have turn (s : Db × Tally) (b : MarketBid) (t : Db × Tally)
      (ht : reserveNext cfg now s b = .ok t) : R s t := by
    unfold reserveNext at ht
    obtain ⟨⟨db₁,outcome⟩,hr,ht⟩ := Fallible.bind_ok.mp ht
    cases ht
    exact service_reserveIncomingBid hr
  have trans {s t u : Db × Tally} (h : R s t) (k : R t u) : R s u := Service.trans h k
  have offer (s : Db × Tally) (id : String) (t : Db × Tally)
      (ht : processOffer cfg locked now s id = .ok t) : R s t := by
    unfold processOffer at ht
    dsimp only at ht
    split at ht
    · cases ht
      exact .refl _
    split at ht
    · cases ht
      exact .refl _
    obtain ⟨policy,_,ht⟩ := Fallible.bind_ok.mp ht
    split at ht
    · cases ht
      exact .refl _
    · have turns := Fallible.foldlM_rel R (fun s => .refl s.1) trans _ turn _ ht
      exact turns
  exact Fallible.foldlM_rel R (fun s => .refl s.1) trans _ offer _ h

end SellerBids

namespace WalletEvents

theorem service_updateOfferAndReservation (db : Db) (offerId bidIdpk : String) (action : Action)
    (now : Instant) :
    Service cfg db (updateOfferAndReservation cfg db offerId bidIdpk action now) := by
  unfold updateOfferAndReservation
  split
  · exact .same rfl rfl rfl
  split
  · exact .same rfl rfl rfl
  · rename_i r _ _
    dsimp only
    split
    · exact .same rfl rfl rfl
    · rename_i offer hoffer
      have key : offer.offerId = offerId := Table.key_of_get? hoffer
      have stored : db.market.offers.get? (sold offer r.quantity).offerId = some offer := by
        rw [← key] at hoffer
        exact hoffer
      exact ⟨rfl,fun _ _ => SellerOffers.onSale_set _ stored id,
        fun _ closed => SellerOffers.silent_confirmedUpdate _ closed⟩

theorem service_moveReservation (db : Db) (r : SwapRecord) (action : Action) (now : Instant) :
    Service cfg db (moveReservation cfg db r action now) := by
  unfold moveReservation
  split
  · exact .same rfl rfl rfl
  split
  · exact .same rfl rfl rfl
  · exact service_updateOfferAndReservation _ _ _ _ _

theorem service_processTerminal {db db' : Db} {r s : SwapRecord} {type : EventType}
    {rejection : Json} {now : Instant}
    (h : processTerminal cfg db r type rejection now = .ok (db',s)) : Service cfg db db' := by
  unfold processTerminal at h
  obtain ⟨repaired,_,h⟩ := Fallible.bind_ok.mp h
  split at h
  · obtain ⟨books,_,h⟩ := Fallible.bind_ok.mp h
    cases h
    exact .same rfl rfl rfl
  · cases h
    exact .same rfl rfl rfl

theorem service_transition {db db' : Db} {r s : SwapRecord} {type : EventType} {data : Fields}
    {rejection : Json} {now : Instant}
    (h : transition cfg db r type data rejection now = .ok (db',s)) : Service cfg db db' := by
  unfold transition at h
  cases type with
  | proposed =>
    cases h
    exact .same rfl rfl rfl
  | settled =>
    obtain ⟨books,_,h⟩ := Fallible.bind_ok.mp h
    cases h
    exact .trans (b := { db with books := books }) (.same rfl rfl rfl)
      (service_moveReservation _ _ _ _)
  | rejected =>
    obtain ⟨reason,_,h⟩ := Fallible.bind_ok.mp h
    cases h
    exact service_moveReservation _ _ _ _
  | expired =>
    cases h
    exact service_moveReservation _ _ _ _
  | cancelled =>
    cases h
    exact service_moveReservation _ _ _ _

theorem service_processSwapEvent {db db' : Db} {type : EventType} {data : Fields} {rejection : Json}
    {now : Instant} {out : Option SwapRecord}
    (h : processSwapEvent cfg db type data rejection now = .ok (db',out)) :
    Service cfg db db' := by
  unfold processSwapEvent at h
  obtain ⟨found,_,h⟩ := Fallible.bind_ok.mp h
  split at h
  · split at h
    · obtain ⟨⟨db₁,s⟩,ht,h⟩ := Fallible.bind_ok.mp h
      cases h
      exact service_processTerminal ht
    · obtain ⟨swapId,_,h⟩ := Fallible.bind_ok.mp h
      obtain ⟨⟨db₁,s⟩,ht,h⟩ := Fallible.bind_ok.mp h
      obtain ⟨taken,_,h⟩ := Fallible.bind_ok.mp h
      have moved := service_transition ht
      cases h
      exact moved.trans (.same rfl rfl rfl)
  · cases h
    exact .same rfl rfl rfl

end WalletEvents

namespace WalletRecovery
open WalletEvents

theorem service_applyWalletObservation {db db' : Db} {r : SwapRecord} {seen : Observation}
    {now : Instant} {known : Bool}
    (h : applyWalletObservation cfg db r seen now = .ok (db',known)) : Service cfg db db' := by
  unfold applyWalletObservation at h
  split at h
  · cases h
    exact .same rfl rfl rfl
  split at h
  · cases h
    exact .same rfl rfl rfl
  split at h
  · cases h
    exact .same rfl rfl rfl
  split at h
  · obtain ⟨⟨db₁,out⟩,hp,h⟩ := Fallible.bind_ok.mp h
    cases h
    exact service_processSwapEvent hp
  split at h
  · obtain ⟨⟨db₁,out⟩,hp,h⟩ := Fallible.bind_ok.mp h
    cases h
    exact service_processSwapEvent hp
  · cases h
    exact .same rfl rfl rfl
  · split at h <;> cases h <;> exact .same rfl rfl rfl

end WalletRecovery

namespace SwapDispatch

theorem service_claimOne {db db' : Db} {locked : List String} {now : Instant}
    {out : Option ProposalAttempt} (h : claimOne cfg db locked now = .ok (db',out)) :
    Service cfg db db' := by
  unfold claimOne at h
  split at h
  · cases h
    exact .same rfl rfl rfl
  · obtain ⟨_,_,h⟩ := Fallible.bind_ok.mp h
    cases h
    exact .same rfl rfl rfl

theorem service_finish (db : Db) (attempt : ProposalAttempt) (verdict : Verdict) (now : Instant) :
    Service cfg db (finish db attempt verdict now) := by
  unfold finish
  split
  · exact .same rfl rfl rfl
  split
  · exact .same rfl rfl rfl
  split <;> exact .same rfl rfl rfl

theorem service_recoverAttempt {db db' : Db} {attempt : ProposalAttempt}
    {seen : WalletRecovery.Observation} {now : Instant} {known : Bool}
    (h : recoverAttempt cfg db attempt seen now = .ok (db',known)) : Service cfg db db' := by
  unfold recoverAttempt at h
  split at h
  · cases h
    exact .same rfl rfl rfl
  split at h
  · cases h
    exact .same rfl rfl rfl
  obtain ⟨⟨db₁,found⟩,ho,h⟩ := Fallible.bind_ok.mp h
  have first := WalletRecovery.service_applyWalletObservation ho
  cases found with
  | true =>
    cases h
    exact first.trans (service_finish _ _ _ _)
  | false =>
    cases h
    exact first

theorem service_settleAttempt {db db' : Db} {attempt : ProposalAttempt} {answer : WriteAnswer}
    {now : Instant} (h : settleAttempt cfg db attempt answer now = .ok db') :
    Service cfg db db' := by
  unfold settleAttempt at h
  dsimp only at h
  split at h
  · split at h
    · obtain ⟨⟨db₁,known⟩,ho,rfl⟩ := Fallible.map_ok.mp h
      exact (service_finish _ _ _ _).trans (WalletRecovery.service_applyWalletObservation ho)
    · cases h
      exact service_finish _ _ _ _
  · cases h
    exact service_finish _ _ _ _

end SwapDispatch

namespace SwapTimeouts
open WalletEvents WalletRecovery

theorem service_closeBid (db : Db) (r : SwapRecord) : Service cfg db (closeBid db r) := by
  refine .same rfl ?_ rfl
  show (setBidExpired db.market (bidKey r)).offers = db.market.offers
  unfold setBidExpired
  split
  · rfl
  · split
    · rfl
    · split <;> rfl

theorem service_expireRecord (db : Db) (r : SwapRecord) (reason : String) (now : Instant) :
    Service cfg db (expireRecord cfg db r reason now) := by
  unfold expireRecord
  split
  · exact .same rfl rfl rfl
  · dsimp only
    exact .trans (b := storeRecord db _) (.same rfl rfl rfl)
      ((service_moveReservation _ _ _ _).trans (service_closeBid _ _))

theorem service_sweepRecord {db db' : Db} {r : SwapRecord} {answer : GetAnswer} {now : Instant}
    {verdict : Verdict} (h : sweepRecord cfg db r answer now = .ok (db',verdict)) :
    Service cfg db db' := by
  unfold sweepRecord at h
  split at h
  · cases h
    exact service_expireRecord _ _ _ _
  split at h
  · cases h
    exact .same rfl rfl rfl
  split at h
  · cases h
    exact .same rfl rfl rfl
  split at h
  · split at h <;> cases h
    · exact service_expireRecord _ _ _ _
    · exact .same rfl rfl rfl
  · split at h
    · cases h
      exact .same rfl rfl rfl
    dsimp only at h
    split at h
    · obtain ⟨⟨db₁,out⟩,hp,h⟩ := Fallible.bind_ok.mp h
      cases h
      exact service_processSwapEvent hp
    split at h
    · obtain ⟨⟨db₁,out⟩,hp,h⟩ := Fallible.bind_ok.mp h
      cases h
      exact (service_processSwapEvent hp).trans (service_closeBid _ _)
    · split at h <;> cases h <;> exact .same rfl rfl rfl
  · cases h
    exact .same rfl rfl rfl

end SwapTimeouts

namespace SwapAccept
open WalletEvents WalletRecovery

theorem service_addRecord (db : Db) (r : SwapRecord) : Service cfg db (addRecord db r) := by
  unfold addRecord
  split <;> exact .same rfl rfl rfl

theorem service_takeAcceptedBid (jwt : Jwt) (db : Db) (idpk : String) (jwks : Jwks) (now : Instant) :
    Service cfg db (takeAcceptedBid cfg jwt db idpk jwks now) := by
  unfold takeAcceptedBid
  split
  · exact .same rfl rfl rfl
  split
  · exact .same rfl rfl rfl
  dsimp only
  split
  · exact service_addRecord _ _
  split
  · exact .same rfl rfl rfl
  · exact service_addRecord _ _

theorem service_lease (db : Db) (idpk : String) (now : Instant) : Service cfg db (lease db idpk now) := by
  unfold lease
  split
  · exact .same rfl rfl rfl
  split <;> exact .same rfl rfl rfl

theorem service_settled (db : Db) (idpk : String) : Service cfg db (settled db idpk) := by
  unfold settled
  split <;> exact .same rfl rfl rfl

theorem service_recover {db db' : Db} {idpk : String} {answer : GetAnswer} {now : Instant}
    {known : Bool} (h : recover cfg db idpk answer now = .ok (db',known)) : Service cfg db db' := by
  unfold recover at h
  split at h
  · cases h
    exact .same rfl rfl rfl
  split at h
  · cases h
    exact .same rfl rfl rfl
  split at h
  · cases h
    exact service_settled _ _
  obtain ⟨⟨db₁,found⟩,ho,h⟩ := Fallible.bind_ok.mp h
  have first := service_applyWalletObservation ho
  cases found with
  | true =>
    cases h
    exact first.trans (service_settled _ _)
  | false =>
    cases h
    exact first

theorem service_send (db : Db) (idpk : String) (now : Instant) :
    Service cfg db (send db idpk now).1 := by
  unfold send
  split
  · exact .same rfl rfl rfl
  split
  · exact service_settled _ _
  · exact .same rfl rfl rfl

theorem service_finish (db : Db) (idpk : String) (outcome : Outcome) (now : Instant) :
    Service cfg db (finish db idpk outcome now) := by
  unfold finish
  split
  · exact .same rfl rfl rfl
  split
  · exact service_settled _ _
  split <;> exact .same rfl rfl rfl

theorem service_settleAnswer {db db' : Db} {idpk : String} {answer : SwapDispatch.WriteAnswer}
    {check : GetAnswer} {now : Instant} (h : settleAnswer cfg db idpk answer check now = .ok db') :
    Service cfg db db' := by
  unfold settleAnswer at h
  split at h
  · cases h
    exact .same rfl rfl rfl
  · obtain ⟨⟨db₁,found⟩,hf,h⟩ := Fallible.bind_ok.mp h
    have first := service_recover hf
    cases found with
    | true =>
      cases h
      exact first
    | false =>
      cases h
      exact first.trans (service_finish _ _ _ _)
  · cases h
    exact service_finish _ _ _ _

end SwapAccept

namespace Buying

theorem notices_enqueueAs (outbox : Outbox) (idpk : String) (draft : Draft)
    (h : SellerOffers.isOfferEvent draft.content = false) :
    (enqueueAs cfg outbox idpk draft).notices = outbox.notices := by
  unfold enqueueAs
  rw [Outbox.notices_insert]
  simp [h]

/-- The copy of another city's offer is not ours to sell. -/
theorem onSale_referenced {m : Market} {o : BookOffer} {offers : Table MarketOffer.offerId}
    (h : referenced? m o = some offers) {cycleId : String} :
    ∀ x ∈ offers, x.onSale cfg cycleId → ∃ old ∈ m.offers, old.onSale cfg cycleId := by
  intro x hx sale
  unfold referenced? at h
  split at h
  · obtain ⟨free,rfl⟩ := Table.insert?_eq_some.mp h
    rcases Table.mem_insert.mp hx with old | rfl
    · exact ⟨x,old,sale⟩
    · cases (SellerOffers.onSale_iff.mp sale).1
  · split at h <;> cases h
    exact ⟨x,hx,sale⟩

theorem service_enqueueBuyBid (db : Db) (order : Order) (now : Instant) :
    Service cfg db (enqueueBuyBid cfg db order now).1 := by
  unfold enqueueBuyBid
  split
  · exact .same rfl rfl rfl
  split
  · split <;> exact .same rfl rfl rfl
  split
  · exact .same rfl rfl rfl
  split
  · exact .same rfl rfl rfl
  rename_i hoffers
  split
  · rename_i placed hplaced
    unfold place at hplaced
    obtain ⟨bids,_,rfl⟩ := Option.map_eq_some_iff.mp hplaced
    refine ⟨rfl,fun _ _ => onSale_referenced hoffers,fun _ _ => Outbox.silent_of_notices ?_⟩
    exact notices_enqueueAs _ _ _ rfl
  · exact .same rfl rfl rfl

theorem other_of_renewable {row : OutboundMessage} (h : renewable row) :
    SellerOffers.isOfferEvent row.content = false := by
  simp only [renewable,Bool.and_eq_true,decide_eq_true_eq] at h
  cases event : SellerOffers.isOfferEvent row.content with
  | false => rfl
  | true =>
    have type := Content.type_of_offerEvent event
    rw [h.1.1] at type
    exact absurd type (by decide)

theorem service_renewOne (now : Instant) (db : Db) {row : OutboundMessage} (h : renewable row) :
    Service cfg db (renewOne cfg now db row) := by
  have other := other_of_renewable h
  have stopped (cycleId : String) (next : OutboundMessage) (same : next.content = row.content) :
      Outbox.Silent cycleId db.outbox (db.outbox.set next) :=
    Outbox.silent_set_other cycleId db.outbox (by rw [same,other])
  unfold renewOne
  dsimp only
  split
  · exact .of_same rfl rfl fun cycleId => stopped cycleId _ rfl
  split
  · exact .of_same rfl rfl fun cycleId => stopped cycleId _ rfl
  · refine .of_same rfl rfl fun cycleId =>
      (stopped cycleId { row with dispatchRequired := false } rfl).trans ?_
    exact Outbox.silent_of_notices (notices_enqueueAs _ _ _ other)

theorem service_renewFailed (db : Db) (now : Instant) : Service cfg db (renewFailed cfg db now) := by
  unfold renewFailed
  have all : ∀ row ∈ db.outbox.rows.filter renewable, renewable row :=
    fun row hrow => (List.mem_filter.mp hrow).2
  revert all
  generalize db.outbox.rows.filter renewable = rows
  intro all
  induction rows generalizing db with
  | nil => exact .refl db
  | cons row rows ih =>
    exact (service_renewOne now db (all row (List.mem_cons_self ..))).trans
      (ih _ fun r hr => all r (List.mem_cons_of_mem _ hr))

end Buying

namespace BidReplies

theorem silent_stopped (cycleId idpk : String) (outbox : Outbox) :
    Outbox.Silent cycleId outbox (outbox.mapRows (stopped idpk) (stopped_msgId idpk)) := by
  refine Outbox.silent_mapRows _ _ _ _ ?_ ?_
  · intro row
    unfold stopped
    split <;> exact ⟨rfl,rfl⟩
  · intro row live
    unfold stopped at live
    split at live
    · cases live
    · exact live

theorem service_processBidReply {db db' : Db} {payload : Payload} {now : Instant}
    {refusal : Option Refusal} (h : processBidReply db payload now = .ok (db',refusal)) :
    Service cfg db db' := by
  obtain rfl | ⟨_,_,_,_,_,rfl⟩ := processBidReply_cases h
  · exact .same rfl rfl rfl
  · exact .of_same rfl rfl fun cycleId => silent_stopped cycleId _ _

end BidReplies

end EnergyNode
