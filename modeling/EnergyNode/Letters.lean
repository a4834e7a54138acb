import EnergyNode.BidAcceptance
import EnergyNode.MarketClosing

/-! The outbox as a log of letters. What a row says and where it goes never changes,
no row is removed, and only three actions write to another city about a trade. -/
namespace EnergyNode
open Lib

/-- What a row of the outbox says, and where it goes. -/
structure Letter where
  msgId : String
  idpk : String
  content : Content
  targetMsgId : Option String
  cycleId : Option String
  routingKey : Option String
  exchangeName : String
deriving DecidableEq

def OutboundMessage.letter (row : OutboundMessage) : Letter :=
  ⟨row.msgId,row.idpk,row.content,row.targetMsgId,row.cycleId,row.routingKey,row.exchangeName⟩

namespace Outbox

def letters (outbox : Outbox) : List Letter := outbox.rows.map OutboundMessage.letter

/-- The letters stay, and those after them are of this kind. -/
def Adds (K : Letter → Prop) (a b : Outbox) : Prop :=
  ∃ new, b.letters = a.letters ++ new ∧ ∀ l ∈ new, K l

theorem mem_letters {outbox : Outbox} {l : Letter} :
    l ∈ outbox.letters ↔ ∃ row ∈ outbox, row.letter = l := List.mem_map

namespace Adds
variable {K L : Letter → Prop} {a b c : Outbox}

theorem refl (outbox : Outbox) : Adds K outbox outbox :=
  ⟨[],(List.append_nil _).symm,fun _ h => (List.not_mem_nil h).elim⟩

theorem trans (h : Adds K a b) (k : Adds K b c) : Adds K a c := by
  obtain ⟨new,grown,kind⟩ := h
  obtain ⟨more,grown',kind'⟩ := k
  refine ⟨new ++ more,by rw [grown',grown,List.append_assoc],?_⟩
  intro l hl
  exact (List.mem_append.mp hl).elim (kind l) (kind' l)

theorem mono (h : Adds K a b) (le : ∀ l, K l → L l) : Adds L a b := by
  obtain ⟨new,grown,kind⟩ := h
  exact ⟨new,grown,fun l hl => le l (kind l hl)⟩

theorem of_letters (same : b.letters = a.letters) : Adds K a b :=
  ⟨[],by rw [same,List.append_nil],fun _ h => (List.not_mem_nil h).elim⟩

theorem kept (h : Adds K a b) : a.letters <+: b.letters := by
  obtain ⟨new,grown,_⟩ := h
  exact ⟨new,grown.symm⟩

/-- A letter was there, or is of the kind. -/
theorem mem (h : Adds K a b) {l : Letter} (hl : l ∈ b.letters) : l ∈ a.letters ∨ K l := by
  obtain ⟨new,grown,kind⟩ := h
  rw [grown] at hl
  exact (List.mem_append.mp hl).imp_right (kind l)

theorem insert {row : OutboundMessage} (free : a.get? row.msgId = none) (h : K row.letter) :
    Adds K a (a.insert row free) := by
  refine ⟨[row.letter],?_,?_⟩
  · show (a.rows ++ [row]).map _ = _
    rw [List.map_append]
    rfl
  · intro l hl
    rwa [List.mem_singleton.mp hl]

theorem enqueue {cfg : Config} {draft : Draft}
    (h : ∀ msgId idpk, K (OutboundMessage.letter ⟨draft,msgId,idpk⟩)) :
    Adds K a (a.enqueue cfg draft) := insert (Outbox.get?_fresh cfg a []) (h _ _)

theorem mapRows {f : OutboundMessage → OutboundMessage} (hf)
    (h : ∀ row, (f row).letter = row.letter) : Adds K a (a.mapRows f hf) := by
  apply of_letters
  show (a.rows.map f).map _ = _
  rw [List.map_map]
  exact List.map_congr_left fun row _ => h row

theorem set {row next : OutboundMessage} (stored : a.get? next.msgId = some row)
    (h : next.letter = row.letter) : Adds K a (a.set next) := by
  apply of_letters
  show (a.rows.map _).map _ = _
  rw [List.map_map]
  apply List.map_congr_left
  intro old hold
  simp only [Function.comp_apply]
  split
  · rename_i key
    cases stored.symm.trans (Table.get?_eq_some.mpr ⟨hold,key⟩)
    exact h
  · rfl

end Adds

end Outbox

/-- Neither a bid nor the acceptance of one. -/
def Content.plain : Content → Bool
  | .bid .. | .bidAccepted .. => false
  | _ => true

def Letter.Plain (l : Letter) : Prop := l.content.plain

/-- The new letters are plain. -/
def Plain (db db' : Db) : Prop := db.outbox.Adds Letter.Plain db'.outbox

variable {cfg : Config} {db db' : Db} {payload : Payload} {now : Instant}
  {verdict : Ingest.Verdict}

namespace Plain

theorem same (h : db'.outbox = db.outbox) : Plain db db' := by
  unfold Plain
  rw [h]
  exact .refl _

theorem refl (db : Db) : Plain db db := .same rfl

theorem trans {a b c : Db} (h : Plain a b) (k : Plain b c) : Plain a c := Outbox.Adds.trans h k

end Plain

theorem plain_enqueue {cfg : Config} {outbox : Outbox} {draft : Draft}
    (h : draft.content.plain) : outbox.Adds Letter.Plain (outbox.enqueue cfg draft) :=
  .enqueue fun _ _ => h

/-! ### Requests and negotiations -/

namespace InformationRequests

theorem plain_enqueue (outbox : Outbox) (ask : String) (now : Instant) :
    outbox.Adds Letter.Plain (enqueue cfg outbox ask now) := by
  unfold enqueue
  split
  · exact .refl _
  · exact EnergyNode.plain_enqueue rfl

theorem plain_resolve (outbox : Outbox) (ask msgId idpk : String) (now : Instant) :
    outbox.Adds Letter.Plain (resolve outbox ask msgId idpk now) := by
  unfold resolve
  split
  · exact .refl _
  · rename_i row hrow
    have hmem := List.mem_of_mem_head? hrow
    rw [List.mem_insertionSort,List.mem_filter] at hmem
    have stored := Table.get?_of_mem (t := outbox) hmem.1
    exact .set stored rfl

end InformationRequests

namespace Negotiations

theorem plain_stopDispatches (db : Db) (n : Negotiation) : Plain db (stopDispatches db n) := by
  refine .mapRows (silenced_msgId n.idpk) ?_
  intro row
  unfold silenced
  split <;> rfl

theorem plain_acknowledge {target : String} (h : acknowledge db target now = .ok db') :
    Plain db db' := by
  unfold acknowledge at h
  split at h
  · cases h
    exact .refl _
  · obtain ⟨n,_,rfl⟩ := Fallible.map_ok.mp h
    exact .same rfl

theorem plain_refuse {target : String} (h : refuse db target now = .ok db') : Plain db db' := by
  unfold refuse at h
  split at h
  · cases h
    exact .refl _
  · obtain ⟨n,_,rfl⟩ := Fallible.map_ok.mp h
    exact plain_stopDispatches db n

theorem plain_processConfirmation {c : Confirmation} {n : Negotiation} {fresh : Bool}
    (h : processConfirmation cfg db c now = .ok (db',n,fresh)) : Plain db db' := by
  unfold processConfirmation at h
  obtain ⟨n₁,_,h⟩ := Fallible.bind_ok.mp h
  obtain ⟨⟨books,applied⟩,_,h⟩ := Fallible.bind_ok.mp h
  obtain ⟨n₂,_,h⟩ := Fallible.bind_ok.mp h
  cases h
  exact plain_stopDispatches _ _

theorem plain_enqueueTakePayment {n : Negotiation} (h : enqueueTakePayment cfg db n now = .ok db') :
    Plain db db' := by
  unfold enqueueTakePayment at h
  simp only [Fallible.throw_bind,Fallible.require_ok] at h
  obtain ⟨_,_,h⟩ := h
  split at h
  · rw [Fallible.refuse_ok,Fallible.pure_ok] at h
    cases h.2
    exact .refl _
  obtain ⟨_,_,h⟩ := Fallible.bind_ok.mp h
  split at h
  · obtain ⟨⟨books,entry,applied⟩,_,h⟩ := Fallible.bind_ok.mp h
    rw [Fallible.require_ok,Fallible.pure_ok] at h
    obtain ⟨_,rfl⟩ := h
    exact plain_enqueue rfl
  · cases h

theorem plain_processGivePayment {p : Payment} {fresh : Bool}
    (h : processGivePayment cfg db p now = .ok (db',fresh)) : Plain db db' := by
  unfold processGivePayment at h
  simp only [Fallible.throw_bind] at h
  obtain ⟨n,_,h⟩ := Fallible.bind_ok.mp h
  split at h
  · split at h <;> cases h
    exact .refl _
  obtain ⟨⟨books,entry,applied⟩,_,h⟩ := Fallible.bind_ok.mp h
  split at h
  · cases h
    exact .same rfl
  split at h
  all_goals
    obtain ⟨n₁,_,h⟩ := Fallible.bind_ok.mp h
    obtain ⟨n₂,_,h⟩ := Fallible.bind_ok.mp h
    cases h
    exact plain_stopDispatches _ _

end Negotiations

/-! ### Messages of the central -/

namespace Ingest

theorem plain_applyStatement (h : Opening.applyStatement cfg db payload now = .ok (some db')) :
    Plain db db' := by
  unfold Opening.applyStatement at h
  dsimp only at h
  split at h
  · split at h
    · split at h
      · cases h
      obtain ⟨s,_,h⟩ := Fallible.bind_ok.mp h
      obtain ⟨⟨strategies,cycle⟩,_,h⟩ := Fallible.bind_ok.mp h
      obtain ⟨books,_,h⟩ := Fallible.bind_ok.mp h
      cases h
      exact InformationRequests.plain_resolve ..
    · cases h
  · cases h

theorem plain_statusStatement (h : statusStatement cfg db payload now = .ok (db',verdict)) :
    Plain db db' := by
  unfold statusStatement at h
  obtain ⟨applied,ha,h⟩ := Fallible.bind_ok.mp h
  split at h
  · cases h
    exact plain_applyStatement ha
  · cases h
    exact .refl _

theorem plain_requestStatement (cfg : Config) (db : Db) (payload : Payload) (now : Instant) :
    Plain db (requestStatement cfg db payload now) := by
  unfold requestStatement
  split
  · exact .refl _
  split
  · exact .refl _
  unfold Plain
  dsimp only
  split
  · exact .refl _
  · exact InformationRequests.plain_enqueue ..

theorem plain_transfer (h : transfer cfg db payload now = .ok (db',verdict)) : Plain db db' := by
  unfold transfer at h
  obtain ⟨cycleId,_,h⟩ := Fallible.bind_ok.mp h
  obtain ⟨quantity,_,h⟩ := Fallible.bind_ok.mp h
  split at h
  · unfold funding at h
    dsimp only at h
    split at h
    · obtain ⟨⟨books,entry,fresh⟩,_,h⟩ := Fallible.bind_ok.mp h
      cases h
      exact .same rfl
    · cases h
      exact .same rfl
  · cases h
  · split at h
    · obtain ⟨⟨db₁,fresh⟩,hp,h⟩ := Fallible.bind_ok.mp h
      cases h
      exact Negotiations.plain_processGivePayment hp
    · cases h

theorem plain_demandStatement (h : demandStatement cfg db payload = .ok (db',verdict)) :
    Plain db db' := by
  unfold demandStatement at h
  obtain ⟨_,_,h⟩ := Fallible.bind_ok.mp h
  obtain ⟨_,_,h⟩ := Fallible.bind_ok.mp h
  obtain ⟨_,_,h⟩ := Fallible.bind_ok.mp h
  obtain ⟨_,_,h⟩ := Fallible.bind_ok.mp h
  obtain ⟨_,_,h⟩ := Fallible.bind_ok.mp h
  cases h
  exact .same rfl

theorem plain_distanceTable (h : distanceTable db payload now = .ok (db',verdict)) :
    Plain db db' := by
  have resolved : db.outbox.Adds Letter.Plain (InformationRequests.resolve db.outbox
      "distance-table" payload.msgId payload.idpk now) := InformationRequests.plain_resolve ..
  unfold distanceTable at h
  simp only [Fallible.throw_bind] at h
  split at h
  · cases h
    exact resolved
  obtain ⟨_,_,h⟩ := Fallible.bind_ok.mp h
  obtain ⟨_,_,h⟩ := Fallible.bind_ok.mp h
  split at h
  · split at h <;> cases h
    exact resolved
  · cases h

theorem plain_negotiationProposal (h : negotiationProposal db payload now = .ok (db',verdict)) :
    Plain db db' := by
  unfold negotiationProposal at h
  obtain ⟨_,_,h⟩ := Fallible.bind_ok.mp h
  dsimp only at h
  split at h
  · cases h
    exact .same rfl
  obtain ⟨_,_,h⟩ := Fallible.bind_ok.mp h
  split at h
  · obtain ⟨_,_,h⟩ := Fallible.bind_ok.mp h
    obtain ⟨_,_,h⟩ := Fallible.bind_ok.mp h
    cases h
    unfold Negotiations.propose
    dsimp only
    split <;> exact .same rfl
  · cases h

theorem plain_acknowledgement (h : acknowledgement db payload now = .ok (db',verdict)) :
    Plain db db' := by
  unfold acknowledgement at h
  obtain ⟨_,_,h⟩ := Fallible.bind_ok.mp h
  obtain ⟨_,ha,h⟩ := Fallible.bind_ok.mp h
  cases h
  exact Negotiations.plain_acknowledge ha

theorem plain_refusal (h : refusal db payload now = .ok (db',verdict)) : Plain db db' := by
  unfold refusal at h
  obtain ⟨_,_,h⟩ := Fallible.bind_ok.mp h
  obtain ⟨_,hr,h⟩ := Fallible.bind_ok.mp h
  cases h
  exact Negotiations.plain_refuse hr

theorem plain_confirmation (h : confirmation cfg db payload now = .ok (db',verdict)) :
    Plain db db' := by
  unfold confirmation at h
  obtain ⟨_,_,h⟩ := Fallible.bind_ok.mp h
  obtain ⟨_,_,h⟩ := Fallible.bind_ok.mp h
  obtain ⟨_,_,h⟩ := Fallible.bind_ok.mp h
  obtain ⟨_,_,h⟩ := Fallible.bind_ok.mp h
  obtain ⟨⟨db₁,n,fresh⟩,hc,h⟩ := Fallible.bind_ok.mp h
  have first := Negotiations.plain_processConfirmation hc
  dsimp only at h
  split at h
  · obtain ⟨_,ht,h⟩ := Fallible.bind_ok.mp h
    cases h
    exact first.trans (Negotiations.plain_enqueueTakePayment ht)
  · cases h
    exact first

theorem plain_negotiationReport (h : negotiationReport db payload now = .ok (db',verdict)) :
    Plain db db' := by
  unfold negotiationReport at h
  simp only [Fallible.throw_bind] at h
  obtain ⟨_,_,h⟩ := Fallible.bind_ok.mp h
  split at h
  · obtain ⟨_,_,h⟩ := Fallible.bind_ok.mp h
    split at h
    · cases h
      exact .refl _
    obtain ⟨_,_,h⟩ := Fallible.bind_ok.mp h
    obtain ⟨_,_,h⟩ := Fallible.bind_ok.mp h
    split at h
    · split at h <;> cases h
      exact .same rfl
    · cases h
  · cases h

theorem plain_walletFact (h : walletFact cfg db payload = .ok (db',verdict)) : Plain db db' := by
  unfold walletFact at h
  obtain ⟨_,_,h⟩ := Fallible.bind_ok.mp h
  cases h
  exact .same rfl

end Ingest

/-! ### Our offers -/

namespace SellerOffers

theorem plain_broadcast {calendar : Calendar} {outbox : Outbox} {offer : MarketOffer}
    {content : Content} (event : isOfferEvent content) :
    outbox.Adds Letter.Plain (broadcast cfg calendar outbox offer content now) := by
  refine plain_enqueue ?_
  cases content <;> first | rfl | cases event

theorem plain_confirmedUpdate (calendar : Calendar) (outbox : Outbox) (offer : MarketOffer)
    (now : Instant) :
    outbox.Adds Letter.Plain (enqueueConfirmedOfferUpdate cfg calendar outbox offer now) := by
  unfold enqueueConfirmedOfferUpdate
  split
  · exact .refl _
  · exact plain_broadcast rfl

theorem plain_enqueueSellerOffer {cycleId : String} {available : ℚ}
    (h : enqueueSellerOffer cfg db cycleId available now = .ok db') : Plain db db' := by
  obtain rfl | ⟨_,_,_,_,_,_,_,rfl⟩ := enqueueSellerOffer_cases h
  · exact .refl _
  · exact plain_enqueue rfl

theorem plain_changeLocalOfferPrice {offerId : String} {price : Decimal}
    (h : changeLocalOfferPrice cfg db offerId price now = .ok db') : Plain db db' := by
  unfold changeLocalOfferPrice at h
  split at h
  · cases h
  split at h
  · cases h
  dsimp only at h
  split at h
  · cases h
  split at h
  · cases h
  split at h
  · cases h
  split at h <;> cases h
  · exact .refl _
  · exact plain_confirmedUpdate ..

theorem plain_withdrawLocalOffer {offerId : String}
    (h : withdrawLocalOffer cfg db offerId now = .ok db') : Plain db db' := by
  unfold withdrawLocalOffer at h
  split at h
  · cases h
  split at h
  · cases h
    exact .refl _
  · cases h
  · split at h <;> cases h
    exact plain_broadcast rfl

theorem plain_closeLocalOffers (cfg : Config) (db : Db) (cycleId : String) :
    Plain db (closeLocalOffers cfg db cycleId) := by
  refine .mapRows (silenced_msgId cycleId) ?_
  intro row
  unfold silenced
  split <;> rfl

theorem plain_closeExpired (cfg : Config) (db : Db) (now : Instant) :
    Plain db (closeExpiredLocalOffers cfg db now) := by
  unfold closeExpiredLocalOffers
  generalize expiredCycles cfg db now = cycles
  induction cycles generalizing db with
  | nil => exact .refl db
  | cons cycle cycles ih => exact (plain_closeLocalOffers cfg db cycle).trans (ih _)

end SellerOffers

theorem plain_persist (cfg : Config) (db : Db) (payload : Payload) :
    Plain db (MarketFeed.persist cfg db payload) := by
  unfold MarketFeed.persist
  split
  · exact .refl _
  split
  · exact .same rfl
  · dsimp only
    unfold MarketFeed.applyEvent
    split
    · split
      · exact .same rfl
      · exact SellerOffers.plain_closeLocalOffers cfg ..
    · split <;> exact .same rfl

/-! ### The bids of other cities -/

namespace SellerBids

theorem plain_enqueueBidRejected {outbox done : Outbox} {r : Rejected}
    (h : enqueueBidRejected cfg outbox r now = .ok done) : outbox.Adds Letter.Plain done := by
  obtain ⟨target,_,⟨rfl,_⟩ | rfl⟩ := enqueueBidRejected_cases h
  · exact .refl _
  · exact plain_enqueue rfl

theorem plain_reject {b : MarketBid} {reason : RejectionReason} {available : Option Int}
    (h : reject cfg db b reason available now = .ok db') : Plain db db' := by
  unfold reject at h
  obtain ⟨outbox,he,h⟩ := Fallible.bind_ok.mp h
  cases h
  exact plain_enqueueBidRejected he

theorem plain_reserveIncomingBid {idpk : String} {outcome : Outcome}
    (h : reserveIncomingBid cfg db idpk now = .ok (db',outcome)) : Plain db db' := by
  obtain ⟨b,_,⟨-,rfl⟩ | ⟨-,⟨_,_,_,hr⟩ | ⟨o,_,_,_,_,rfl⟩⟩⟩ := reserveIncomingBid_cases h
  · exact .refl _
  · exact plain_reject hr
  · exact .same rfl

theorem plain_processIncomingBid {status : InboundStatus} {reason : Option String}
    (h : processIncomingBid cfg db payload now = .ok (db',status,reason)) : Plain db db' := by
  unfold processIncomingBid at h
  split at h
  · cases h
    exact .refl _
  dsimp only at h
  split at h
  · split at h
    · cases h
      exact .same rfl
    · obtain ⟨outbox,he,h⟩ := Fallible.bind_ok.mp h
      cases h
      exact plain_enqueueBidRejected he
  · split at h
    · split at h <;> cases h <;> exact .refl _
    · cases h
      exact .refl _

theorem plain_processDueSellerBids {locked : List String} {maxOffers : Nat} {tally : Tally}
    (h : processDueSellerBids cfg db locked maxOffers now = .ok (db',tally)) : Plain db db' := by
  unfold processDueSellerBids at h
  split at h
  · cases h
  let R : Db × Tally → Db × Tally → Prop := fun s t => Plain s.1 t.1
  have turn (s : Db × Tally) (b : MarketBid) (t : Db × Tally)
      (ht : reserveNext cfg now s b = .ok t) : R s t := by
    unfold reserveNext at ht
    obtain ⟨⟨db₁,outcome⟩,hr,ht⟩ := Fallible.bind_ok.mp ht
    cases ht
    exact plain_reserveIncomingBid hr
  have trans {s t u : Db × Tally} (h : R s t) (k : R t u) : R s u := Plain.trans h k
  have offer (s : Db × Tally) (id : String) (t : Db × Tally)
      (ht : processOffer cfg locked now s id = .ok t) : R s t := by
    unfold processOffer at ht
    dsimp only at ht
    split at ht
    · cases ht
      exact .refl _
    split at ht
    · cases ht
      exact .refl _
    obtain ⟨policy,_,ht⟩ := Fallible.bind_ok.mp ht
    split at ht
    · cases ht
      exact .refl _
    · have turns := Fallible.foldlM_rel R (fun s => .refl s.1) trans _ turn _ ht
      exact turns
  exact Fallible.foldlM_rel R (fun s => .refl s.1) trans _ offer _ h

end SellerBids

/-! ### What the wallet tells -/

namespace WalletEvents

theorem plain_moveReservation (cfg : Config) (db : Db) (r : SwapRecord) (action : Action)
    (now : Instant) : Plain db (moveReservation cfg db r action now) := by
  unfold moveReservation
  split
  · exact .refl _
  split
  · exact .refl _
  unfold updateOfferAndReservation
  split
  · exact .refl _
  split
  · exact .same rfl
  · dsimp only
    split
    · exact .same rfl
    · exact SellerOffers.plain_confirmedUpdate ..

theorem plain_processTerminal {r s : SwapRecord} {type : EventType} {rejection : Json}
    (h : processTerminal cfg db r type rejection now = .ok (db',s)) : Plain db db' := by
  unfold processTerminal at h
  obtain ⟨repaired,_,h⟩ := Fallible.bind_ok.mp h
  split at h
  · obtain ⟨books,_,h⟩ := Fallible.bind_ok.mp h
    cases h
    exact .same rfl
  · cases h
    exact .refl _

theorem plain_transition {r s : SwapRecord} {type : EventType} {data : Fields} {rejection : Json}
    (h : transition cfg db r type data rejection now = .ok (db',s)) : Plain db db' := by
  unfold transition at h
  cases type with
  | proposed =>
    cases h
    exact .refl _
  | settled =>
    obtain ⟨books,_,h⟩ := Fallible.bind_ok.mp h
    cases h
    exact plain_moveReservation cfg { db with books := books } ..
  | rejected =>
    obtain ⟨reason,_,h⟩ := Fallible.bind_ok.mp h
    cases h
    exact plain_moveReservation ..
  | expired | cancelled =>
    cases h
    exact plain_moveReservation ..

theorem plain_processSwapEvent {type : EventType} {data : Fields} {rejection : Json}
    {out : Option SwapRecord}
    (h : processSwapEvent cfg db type data rejection now = .ok (db',out)) : Plain db db' := by
  unfold processSwapEvent at h
  obtain ⟨found,_,h⟩ := Fallible.bind_ok.mp h
  split at h
  · split at h
    · obtain ⟨⟨db₁,s⟩,ht,h⟩ := Fallible.bind_ok.mp h
      cases h
      exact (plain_processTerminal ht).trans (.same rfl)
    · obtain ⟨swapId,_,h⟩ := Fallible.bind_ok.mp h
      obtain ⟨⟨db₁,s⟩,ht,h⟩ := Fallible.bind_ok.mp h
      obtain ⟨taken,_,h⟩ := Fallible.bind_ok.mp h
      have moved := plain_transition ht
      cases h
      exact moved.trans (.same rfl)
  · cases h
    exact .refl _

end WalletEvents

namespace WalletRecovery
open WalletEvents

theorem plain_applyWalletObservation {r : SwapRecord} {seen : Observation} {known : Bool}
    (h : applyWalletObservation cfg db r seen now = .ok (db',known)) : Plain db db' := by
  unfold applyWalletObservation at h
  split at h
  · cases h
    exact .refl _
  split at h
  · cases h
    exact .refl _
  split at h
  · cases h
    exact .refl _
  split at h
  · obtain ⟨⟨db₁,out⟩,hp,h⟩ := Fallible.bind_ok.mp h
    cases h
    exact plain_processSwapEvent hp
  split at h
  · obtain ⟨⟨db₁,out⟩,hp,h⟩ := Fallible.bind_ok.mp h
    cases h
    exact plain_processSwapEvent hp
  · cases h
    exact .same rfl
  · split at h <;> cases h <;> exact .same rfl

end WalletRecovery

namespace SwapDispatch

theorem plain_claimOne {locked : List String} {out : Option ProposalAttempt}
    (h : claimOne cfg db locked now = .ok (db',out)) : Plain db db' := by
  unfold claimOne at h
  split at h
  · cases h
    exact .refl _
  · obtain ⟨_,_,h⟩ := Fallible.bind_ok.mp h
    cases h
    exact .same rfl

theorem plain_finish (db : Db) (attempt : ProposalAttempt) (verdict : Verdict) (now : Instant) :
    Plain db (finish db attempt verdict now) := by
  unfold finish
  split
  · exact .refl _
  split
  · exact .refl _
  split <;> exact .same rfl

theorem plain_recoverAttempt {attempt : ProposalAttempt} {seen : WalletRecovery.Observation}
    {known : Bool} (h : recoverAttempt cfg db attempt seen now = .ok (db',known)) :
    Plain db db' := by
  unfold recoverAttempt at h
  split at h
  · cases h
    exact .refl _
  split at h
  · cases h
    exact .refl _
  obtain ⟨⟨db₁,found⟩,ho,h⟩ := Fallible.bind_ok.mp h
  have first := WalletRecovery.plain_applyWalletObservation ho
  cases found with
  | true =>
    cases h
    exact first.trans (plain_finish ..)
  | false =>
    cases h
    exact first

theorem plain_settleAttempt {attempt : ProposalAttempt} {answer : WriteAnswer}
    (h : settleAttempt cfg db attempt answer now = .ok db') : Plain db db' := by
  unfold settleAttempt at h
  dsimp only at h
  split at h
  · split at h
    · obtain ⟨⟨db₁,known⟩,ho,rfl⟩ := Fallible.map_ok.mp h
      exact (plain_finish ..).trans (WalletRecovery.plain_applyWalletObservation ho)
    · cases h
      exact plain_finish ..
  · cases h
    exact plain_finish ..

end SwapDispatch

namespace SwapTimeouts
open WalletEvents WalletRecovery

theorem plain_expireRecord (cfg : Config) (db : Db) (r : SwapRecord) (reason : String)
    (now : Instant) : Plain db (expireRecord cfg db r reason now) := by
  unfold expireRecord
  split
  · exact .refl _
  · exact ((Plain.same rfl).trans (plain_moveReservation cfg (storeRecord db _) ..)).trans
      (.same rfl)

theorem plain_sweepRecord {r : SwapRecord} {answer : GetAnswer} {verdict : Verdict}
    (h : sweepRecord cfg db r answer now = .ok (db',verdict)) : Plain db db' := by
  unfold sweepRecord at h
  split at h
  · cases h
    exact plain_expireRecord ..
  split at h
  · cases h
    exact .refl _
  split at h
  · cases h
    exact .refl _
  split at h
  · split at h <;> cases h
    · exact plain_expireRecord ..
    · exact .refl _
  · split at h
    · cases h
      exact .refl _
    dsimp only at h
    split at h
    · obtain ⟨⟨db₁,out⟩,hp,h⟩ := Fallible.bind_ok.mp h
      cases h
      exact plain_processSwapEvent hp
    split at h
    · obtain ⟨⟨db₁,out⟩,hp,h⟩ := Fallible.bind_ok.mp h
      cases h
      exact (plain_processSwapEvent hp).trans (.same rfl)
    · split at h <;> cases h <;> exact .same rfl
  · cases h
    exact .refl _

end SwapTimeouts

namespace SwapAccept
open WalletEvents WalletRecovery

theorem plain_addRecord (db : Db) (r : SwapRecord) : Plain db (addRecord db r) := by
  unfold addRecord
  split <;> exact .same rfl

theorem plain_takeAcceptedBid (cfg : Config) (jwt : Jwt) (db : Db) (idpk : String) (jwks : Jwks)
    (now : Instant) : Plain db (takeAcceptedBid cfg jwt db idpk jwks now) := by
  unfold takeAcceptedBid
  split
  · exact .refl _
  split
  · exact .refl _
  dsimp only
  split
  · exact plain_addRecord ..
  split
  · exact .refl _
  · exact plain_addRecord ..

theorem plain_lease (db : Db) (idpk : String) (now : Instant) : Plain db (lease db idpk now) := by
  unfold lease
  split
  · exact .refl _
  split <;> exact .same rfl

theorem plain_settled (db : Db) (idpk : String) : Plain db (settled db idpk) := by
  unfold settled
  split <;> exact .same rfl

theorem plain_recover {idpk : String} {answer : GetAnswer} {known : Bool}
    (h : recover cfg db idpk answer now = .ok (db',known)) : Plain db db' := by
  unfold recover at h
  split at h
  · cases h
    exact .refl _
  split at h
  · cases h
    exact .refl _
  split at h
  · cases h
    exact plain_settled ..
  obtain ⟨⟨db₁,found⟩,ho,h⟩ := Fallible.bind_ok.mp h
  have first := plain_applyWalletObservation ho
  cases found with
  | true =>
    cases h
    exact first.trans (plain_settled ..)
  | false =>
    cases h
    exact first

theorem plain_send (db : Db) (idpk : String) (now : Instant) : Plain db (send db idpk now).1 := by
  unfold send
  split
  · exact .refl _
  split
  · exact plain_settled ..
  · exact .same rfl

theorem plain_finish (db : Db) (idpk : String) (outcome : Outcome) (now : Instant) :
    Plain db (finish db idpk outcome now) := by
  unfold finish
  split
  · exact .refl _
  split
  · exact plain_settled ..
  split <;> exact .same rfl

theorem plain_settleAnswer {idpk : String} {answer : SwapDispatch.WriteAnswer} {check : GetAnswer}
    (h : settleAnswer cfg db idpk answer check now = .ok db') : Plain db db' := by
  unfold settleAnswer at h
  split at h
  · cases h
    exact .refl _
  · obtain ⟨⟨db₁,found⟩,hf,h⟩ := Fallible.bind_ok.mp h
    have first := plain_recover hf
    cases found with
    | true =>
      cases h
      exact first
    | false =>
      cases h
      exact first.trans (plain_finish ..)
  · cases h
    exact plain_finish ..

end SwapAccept

/-! ### The publication -/

namespace Buying

theorem plain_markPublished (db : Db) (msgId : String) :
    Plain db { db with outbox := markPublished db.outbox msgId } := by
  unfold Plain markPublished
  dsimp only
  split
  · exact .refl _
  · rename_i row hrow
    have stored : db.outbox.get? row.msgId = some row := by rwa [Table.key_of_get? hrow]
    split
    · exact .set stored rfl
    · exact .set stored rfl

theorem plain_markFailed (db : Db) (msgId error : String) :
    Plain db { db with outbox := markFailed db.outbox msgId error } := by
  unfold Plain markFailed
  dsimp only
  split
  · exact .refl _
  · rename_i row hrow
    have stored : db.outbox.get? row.msgId = some row := by rwa [Table.key_of_get? hrow]
    split
    · exact .refl _
    · exact .set stored rfl

end Buying

theorem plain_processBidReply {refusal : Option BidReplies.Refusal}
    (h : BidReplies.processBidReply db payload now = .ok (db',refusal)) : Plain db db' := by
  obtain rfl | ⟨_,_,_,_,_,rfl⟩ := BidReplies.processBidReply_cases h
  · exact .refl _
  · refine .mapRows (BidReplies.stopped_msgId _) ?_
    intro row
    unfold BidReplies.stopped
    split <;> rfl

/-! ### The acceptance of a bid -/

/-- The letter accepts a bid, at the price frozen in it, and goes to its city. -/
def Letter.Answers (m : Market) (l : Letter) : Prop :=
  ∃ b price amount swapId token expiresAt, m.bids.get? b.idpk = some b ∧
    b.direction = .incoming ∧ b.status ≠ .pending ∧ b.acceptedPricePerEnergy = some price ∧
    l.content = .bidAccepted b.msgId b.offerId b.quantity price amount swapId token expiresAt ∧
    l.routingKey = some ("city." ++ b.counterpartCityId)

/-- The new letters are plain, or accept a bid. -/
def Answering (db db' : Db) : Prop :=
  db.outbox.Adds (fun l => l.Plain ∨ l.Answers db'.market) db'.outbox

theorem Plain.answering (h : Plain db db') : Answering db db' := h.mono fun _ => .inl

open SellerBidAccepted in
theorem answering_enqueueBidAccepted (jwt : Jwt) (r : SwapRecord) (data : Fields)
    (sender : Option String) :
    Answering db (enqueueBidAccepted cfg jwt db r data sender now) := by
  unfold enqueueBidAccepted
  split
  · rename_i p b price _ found
    obtain ⟨hb,incoming,_,_,priced,_⟩ := BidAcceptance.answerable?_quotes found
    have stored : db.market.bids.get? b.idpk = some b := Table.key_of_get? hb ▸ hb
    refine .enqueue fun msgId idpk => .inr ⟨acceptedBid b p.swapId now,price,r.takeAmount,p.swapId,
      p.token,p.expiresAt,?_,incoming,BidStatus.noConfusion,priced,rfl,rfl⟩
    exact Table.get?_set_self (a := acceptedBid b p.swapId now) stored
  · exact Plain.answering (.refl db)

namespace Ingest

theorem plain_bid (h : bid cfg db payload now = .ok (db',verdict)) : Plain db db' := by
  unfold bid at h
  obtain ⟨⟨db₁,status,reason⟩,hp,h⟩ := Fallible.bind_ok.mp h
  have first := SellerBids.plain_processIncomingBid hp
  dsimp only at h
  split at h
  · cases h
    exact first
  split at h
  · cases h
    exact first
  obtain ⟨policy,_,h⟩ := Fallible.bind_ok.mp h
  split at h
  · cases h
    exact first
  obtain ⟨⟨db₂,outcome⟩,hr,h⟩ := Fallible.bind_ok.mp h
  have second := SellerBids.plain_reserveIncomingBid hr
  dsimp only at h
  split at h <;> cases h <;> exact first.trans second

theorem plain_bidReply (h : bidReply db payload now = .ok (db',verdict)) : Plain db db' := by
  obtain ⟨refusal,replied⟩ := bidReply_cases h
  exact plain_processBidReply replied

theorem answering_swapEvent {jwt : Jwt} {type : WalletEvents.EventType}
    (h : swapEvent cfg jwt db payload type now = .ok (db',verdict)) : Answering db db' := by
  unfold swapEvent at h
  obtain ⟨⟨db₁,record⟩,hp,h⟩ := Fallible.bind_ok.mp h
  have first := WalletEvents.plain_processSwapEvent hp
  dsimp only at h
  split at h
  · cases h
    exact first.answering
  · split at h <;> cases h
    · exact (first.mono fun _ => .inl).trans (answering_enqueueBidAccepted ..)
    · exact first.answering

theorem answering_dispatch {jwt : Jwt} (h : dispatch cfg jwt db payload now = .ok (db',verdict)) :
    Answering db db' := by
  unfold dispatch at h
  split at h
  · exact (plain_statusStatement h).answering
  · exact (plain_transfer h).answering
  · exact (plain_demandStatement h).answering
  · exact (plain_distanceTable h).answering
  · exact (plain_negotiationProposal h).answering
  · exact (plain_bid h).answering
  · exact (plain_bidReply h).answering
  · exact (plain_bidReply h).answering
  · exact (plain_acknowledgement h).answering
  · exact (plain_refusal h).answering
  · exact (plain_confirmation h).answering
  · exact (plain_confirmation h).answering
  · exact (plain_negotiationReport h).answering
  · exact answering_swapEvent h
  · exact answering_swapEvent h
  · exact answering_swapEvent h
  · exact answering_swapEvent h
  · exact answering_swapEvent h
  · exact (plain_walletFact h).answering
  · exact (plain_walletFact h).answering
  · cases h
    exact Plain.answering (.refl db)

theorem answering_ingest (cfg : Config) (jwt : Jwt) (db : Db) (payload : Payload) (now : Instant) :
    Answering db (ingest cfg jwt db payload now).1 := by
  unfold ingest
  cases processed : process cfg jwt db payload now with
  | error fault => exact Plain.answering (.same rfl)
  | ok done =>
    obtain ⟨after,verdict⟩ := done
    obtain ⟨rfl,_⟩ | ⟨claimed,served,claim,dispatched,rfl⟩ := process_cases processed
    · exact Plain.answering (.same rfl)
    · have claimed_ : Plain db claimed := by
        unfold claim? at claim
        split at claim
        · obtain ⟨table,_,rfl⟩ := Option.map_eq_some_iff.mp claim
          exact .same rfl
        · cases claim
          exact .refl _
      have asked := claimed_.trans (plain_requestStatement cfg claimed payload now)
      have answered := answering_dispatch dispatched
      have returned : (returnClaim served payload verdict).outbox = served.outbox ∧
          (returnClaim served payload verdict).market = served.market := by
        unfold returnClaim
        split <;> exact ⟨rfl,rfl⟩
      unfold Answering
      show db.outbox.Adds (fun l => l.Plain ∨ l.Answers (returnClaim served payload verdict).market)
        (returnClaim served payload verdict).outbox
      rw [returned.1,returned.2]
      exact (asked.mono fun _ => .inl).trans answered

end Ingest

/-! ### Our bids -/

/-- The letter asks what our bid of its key asks, of the city the bid is for. -/
def Letter.Asks (m : Market) (l : Letter) : Prop :=
  ∃ b, m.bids.get? l.idpk = some b ∧ b.direction = .outgoing ∧
    l.content = .bid b.offerId b.quantity ∧ l.cycleId = some b.cycleId ∧
    l.routingKey = some ("city." ++ b.counterpartCityId)

/-- The new letters ask what our bids ask. -/
def Asking (db db' : Db) : Prop := db.outbox.Adds (fun l => l.Asks db'.market) db'.outbox

namespace Buying

theorem adds_enqueueAs {K : Letter → Prop} {outbox : Outbox} {idpk : String} {draft : Draft}
    (h : ∀ msgId, K (OutboundMessage.letter ⟨draft,msgId,idpk⟩)) :
    outbox.Adds K (enqueueAs cfg outbox idpk draft) :=
  .insert (Outbox.get?_fresh cfg outbox [idpk]) (h _)

theorem asking_enqueueBuyBid (db : Db) (order : Order) (now : Instant) :
    Asking db (enqueueBuyBid cfg db order now).1 := by
  have still : Asking db db := .refl _
  unfold enqueueBuyBid
  split
  · exact still
  split
  · split <;> exact still
  split
  · exact still
  split
  · exact still
  split
  · rename_i placed hplaced
    unfold place at hplaced
    obtain ⟨bids,inserted,rfl⟩ := Option.map_eq_some_iff.mp hplaced
    obtain ⟨free,rfl⟩ := Table.insert?_eq_some.mp inserted
    have stored := (Table.get?_insert db.market.bids _ free order.idpk).trans (if_pos rfl)
    exact adds_enqueueAs fun _ => ⟨_,stored,rfl,rfl,rfl,rfl⟩
  · exact still

/-- A renewal repeats the letter of its attempt, under a new message. -/
theorem asking_renewOne {previous : OutboundMessage} (sent : previous.letter ∈ db.outbox.letters)
    (asks : previous.letter.Asks db.market) : Asking db (renewOne cfg now db previous) := by
  obtain ⟨row,hrow,same⟩ := Outbox.mem_letters.mp sent
  have key : row.msgId = previous.msgId := congrArg Letter.msgId same
  have stored : db.outbox.get? previous.msgId = some row := key ▸ Table.get?_of_mem hrow
  have stop {K : Letter → Prop} (next : OutboundMessage) (h : next.letter = previous.letter) :
      db.outbox.Adds K (db.outbox.set next) := by
    have own : next.msgId = previous.msgId := congrArg Letter.msgId h
    exact .set (own ▸ stored) (h.trans same.symm)
  unfold renewOne
  dsimp only
  split
  · exact stop _ rfl
  split
  · exact stop _ rfl
  · rename_i b found
    obtain ⟨hb,_⟩ := Option.filter_eq_some_iff.mp found
    obtain ⟨c,hc,outgoing,content,cycle,route⟩ := asks
    cases hc.symm.trans hb
    have own : b.idpk = previous.idpk := Table.key_of_get? hb
    have renewed (msgId : String) : (db.market.bids.set { b with msgId := msgId }).get?
        previous.idpk = some { b with msgId := msgId } := by
      rw [← own] at hb ⊢
      exact Table.get?_set_self (a := { b with msgId := msgId }) hb
    exact (stop { previous with dispatchRequired := false } rfl).trans
      (adds_enqueueAs fun _ => ⟨_,renewed _,outgoing,content,cycle,route⟩)

end Buying

/-! ### The node -/

/-- The actions that send our bids. -/
def Node.sendsBids : Node.Action → Bool
  | .buy .. | .renewBids _ => true
  | _ => false

theorem plain_attempted {result : Result Db} (h : ∀ db', result = .ok db' → Plain db db') :
    Plain db (Node.attempted db result) := by
  cases result with
  | error fault => exact .refl db
  | ok db' => exact h db' rfl

/-- Whatever sends no bid of ours adds plain letters and acceptances. -/
theorem answering_step (env : Env) (db : Db) (a : Node.Action) (silent : Node.sendsBids a = false) :
    Answering db (Node.step env db a) := by
  cases a with
  | ingest payload now => exact Ingest.answering_ingest env.cfg env.jwt db payload now
  | feed payload => exact (plain_persist env.cfg db payload).answering
  | sellerBids locked maxOffers now =>
    refine Plain.answering (plain_attempted fun _ h => ?_)
    obtain ⟨out,done,rfl⟩ := Fallible.map_ok.mp h
    exact SellerBids.plain_processDueSellerBids done
  | sellerOffer cycleId walletAvailable now =>
    exact Plain.answering (plain_attempted fun _ h => SellerOffers.plain_enqueueSellerOffer h)
  | reprice offerId price now =>
    exact Plain.answering (plain_attempted fun _ h => SellerOffers.plain_changeLocalOfferPrice h)
  | withdraw offerId now =>
    exact Plain.answering (plain_attempted fun _ h => SellerOffers.plain_withdrawLocalOffer h)
  | closeExpired now => exact (SellerOffers.plain_closeExpired env.cfg db now).answering
  | claimProposal locked now =>
    refine Plain.answering (plain_attempted fun _ h => ?_)
    obtain ⟨out,done,rfl⟩ := Fallible.map_ok.mp h
    exact SwapDispatch.plain_claimOne done
  | recoverProposal attempt answer now =>
    refine Plain.answering (plain_attempted fun _ h => ?_)
    unfold Node.recoverProposal at h
    split at h
    · cases h
      exact .refl db
    · obtain ⟨out,done,rfl⟩ := Fallible.map_ok.mp h
      exact SwapDispatch.plain_recoverAttempt done
  | settleProposal attempt answer now =>
    exact Plain.answering (plain_attempted fun _ h => SwapDispatch.plain_settleAttempt h)
  | sweep k answer now =>
    refine Plain.answering (plain_attempted fun _ h => ?_)
    unfold Node.sweep at h
    split at h
    · cases h
      exact .refl db
    · obtain ⟨out,done,rfl⟩ := Fallible.map_ok.mp h
      exact SwapTimeouts.plain_sweepRecord done
  | expireBids now => exact Plain.answering (.same rfl)
  | takeAccepted k jwks now =>
    exact (SwapAccept.plain_takeAcceptedBid env.cfg env.jwt db k jwks now).answering
  | leaseAccept k now => exact (SwapAccept.plain_lease db k now).answering
  | recoverAccept k answer now =>
    refine Plain.answering (plain_attempted fun _ h => ?_)
    obtain ⟨out,done,rfl⟩ := Fallible.map_ok.mp h
    exact SwapAccept.plain_recover done
  | sendAccept k now => exact (SwapAccept.plain_send db k now).answering
  | settleAccept k answer check now =>
    exact Plain.answering (plain_attempted fun _ h => SwapAccept.plain_settleAnswer h)
  | buy order now => cases silent
  | renewBids now => cases silent
  | published msgId => exact (Buying.plain_markPublished db msgId).answering
  | publishFailed msgId error => exact (Buying.plain_markFailed db msgId error).answering
  | closeMarkets locked now =>
    refine Plain.answering (plain_attempted fun _ h => ?_)
    obtain ⟨swept,_,rfl⟩ := Fallible.map_ok.mp h
    exact .same rfl

end EnergyNode
