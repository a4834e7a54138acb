import EnergyNode.EventSteps

/-! The seller's services as moves: local offers, incoming bids with their
reservation or rejection, and the acceptance answer. -/
namespace EnergyNode
open Lib

variable {cfg : Config} {P : Market → Cause → Prop}

theorem mem_talk_of_row {outbox : Outbox} {row : OutboundMessage} (h : row ∈ outbox)
    (hc : row.content.commercial = true) : row.talk ∈ outbox.talk :=
  Outbox.mem_talk.mpr ⟨⟨row,h,rfl⟩,hc⟩

theorem commercial_of_type {c : Content} (h : c.type = .bidRejected ∨ c.type = .bidAccepted ∨
    c.type = .bid) : c.commercial = true := by
  cases c <;> simp_all [Content.type,Content.commercial]

namespace SellerOffers

theorem localOffer?_spec {m : Market} {offerId : String} {o : MarketOffer}
    (h : localOffer? cfg m offerId = some o) :
    m.offers.get? o.offerId = some o ∧ o.offerId = offerId ∧ o.isLocal = true := by
  obtain ⟨ho,hl⟩ := Option.filter_eq_some_iff.mp h
  have key := Table.key_of_get? ho
  rw [Bool.and_eq_true] at hl
  exact ⟨key ▸ ho,key,hl.1⟩

/-- A row update that keeps the stock keeps every stock. -/
theorem stock_set {offers : Table MarketOffer.offerId} {o : MarketOffer} (old : MarketOffer)
    (h : offers.get? o.offerId = some old) (hs : o.stock = old.stock) (k : String) :
    ((offers.set o).get? k).map MarketOffer.stock = (offers.get? k).map MarketOffer.stock := by
  rw [Table.get?_set]
  split
  · rename_i hk
    subst hk
    simp [h,hs]
  · rfl

theorem stock_closing (cycleId : String) (o : MarketOffer) :
    (closing cfg cycleId o).stock = o.stock := by
  unfold closing
  split <;> rfl

theorem talk_silenced (cycleId : String) (row : OutboundMessage) :
    (silenced cycleId row).talk = row.talk := by
  unfold silenced
  split <;> rfl

theorem closeLocalOffers_moves (db : Db) (cycleId : String) :
    Moves cfg P db.desk (closeLocalOffers cfg db cycleId).desk := by
  unfold closeLocalOffers Db.desk
  rw [Outbox.talk_mapRows _ _ _ (talk_silenced cycleId)]
  refine .single (.offers _ ?_)
  intro k
  rw [Table.get?_mapRows,Option.map_map]
  congr 1
  funext o
  exact stock_closing cycleId o

theorem closeExpired_moves (db : Db) (now : Instant) :
    Moves cfg P db.desk (closeExpiredLocalOffers cfg db now).desk := by
  unfold closeExpiredLocalOffers
  generalize expiredCycles cfg db now = cycles
  induction cycles generalizing db with
  | nil => exact .refl
  | cons cycleId cycles ih => exact (closeLocalOffers_moves db cycleId).trans (ih _)

theorem changePrice_moves {db db' : Db} {offerId : String} {price : Decimal} {now : Instant}
    (h : changeLocalOfferPrice cfg db offerId price now = .ok db') :
    Moves cfg P db.desk db'.desk := by
  unfold changeLocalOfferPrice at h
  cases price with
  | special => cases h
  | finite price =>
    dsimp only at h
    split at h
    · cases h
    cases ho : localOffer? cfg db.market offerId with
    | none =>
      simp only [ho] at h
      cases h
    | some o =>
      obtain ⟨hget,_,_⟩ := localOffer?_spec ho
      simp only [ho] at h
      split at h
      · cases h
      split at h
      · cases h
      split at h
      · cases h
        exact .refl
      · cases h
        unfold Db.desk
        rw [talk_enqueueConfirmedOfferUpdate]
        exact .single (.offers _ (stock_set o hget rfl))

theorem withdraw_moves {db db' : Db} {offerId : String} {now : Instant}
    (h : withdrawLocalOffer cfg db offerId now = .ok db') : Moves cfg P db.desk db'.desk := by
  unfold withdrawLocalOffer at h
  cases ho : localOffer? cfg db.market offerId with
  | none =>
    simp only [ho] at h
    cases h
  | some o =>
    obtain ⟨hget,_,_⟩ := localOffer?_spec ho
    simp only [ho] at h
    cases hs : o.status with
    | withdrawn =>
      simp only [hs] at h
      cases h
      exact .refl
    | closed =>
      simp only [hs] at h
      cases h
    | active =>
      simp only [hs] at h
      split at h
      · cases h
      · cases h
        unfold Db.desk
        rw [talk_broadcast _ _ _ _ _ rfl]
        exact .single (.offers _ (stock_set o hget rfl))

theorem offerPlan_pos {db : Db} {cycle : Cycle} {available : ℚ} {quantity : Int} {price : ℚ}
    (h : offerPlan db cycle available = .ok (some (quantity,price))) : 0 < quantity := by
  unfold offerPlan at h
  obtain ⟨energy,_,h⟩ := Fallible.bind_ok.mp h
  obtain ⟨market,_,h⟩ := Fallible.bind_ok.mp h
  split at h
  · split at h
    · split at h
      · obtain ⟨p,_,h⟩ := Fallible.bind_ok.mp h
        obtain ⟨⟨q,value⟩,_,h⟩ := Fallible.bind_ok.mp h
        dsimp only at h
        split at h
        · cases h
        rename_i positive
        split at h
        · split at h <;> cases h
          exact not_le.mp positive
        · cases h
      · cases h
    · cases h
  · cases h

theorem sellerOffer_moves {db db' : Db} {cycleId : String} {available : ℚ} {now : Instant}
    (h : enqueueSellerOffer cfg db cycleId available now = .ok db') :
    Moves cfg P db.desk db'.desk := by
  obtain rfl | ⟨cycle,free,quantity,price,-,-,planned,rfl⟩ := enqueueSellerOffer_cases h
  · exact .refl
  unfold Db.desk
  rw [Outbox.talk_enqueue_other _ _ _ rfl]
  exact .single (.offerAdded (newOffer cfg cycleId quantity price) free
    (offerPlan_pos planned).le rfl)

end SellerOffers

namespace SellerBids

theorem rejectionTarget_spec {r : Rejected} {target : String}
    (h : rejectionTarget r = .ok target) : uuidText r.msgId = some target := by
  unfold rejectionTarget at h
  simp only [Fallible.throw_bind] at h
  split at h
  · split at h
    · cases h
    split at h
    · cases h
    split at h
    · cases h
    split at h
    · rename_i found hfound
      rw [hfound,Option.some.injEq]
      split at h
      · cases h
      · split at h
        · cases h
        split at h <;> cases h
        rfl
      · cases h
      · cases h
        rfl
    · cases h
  · cases h

theorem enqueueBidRejected_spec {outbox outbox' : Outbox} {r : Rejected} {now : Instant}
    (h : enqueueBidRejected cfg outbox r now = .ok outbox') :
    Rejects r.msgId outbox.talk outbox'.talk := by
  unfold enqueueBidRejected at h
  obtain ⟨target,ht,h⟩ := Fallible.bind_ok.mp h
  have htarget := rejectionTarget_spec ht
  split at h
  · rename_i row hrow
    have hmem := List.mem_of_find?_eq_some hrow
    have hfound := List.find?_some hrow
    rw [decide_eq_true_eq] at hfound
    split at h
    · cases h
      refine .kept htarget (mem_talk_of_row hmem (commercial_of_type (.inl hfound.1))) ?_
      simp [Talk.isRejection,OutboundMessage.talk,hfound.1,hfound.2]
    · cases h
  · rename_i hnone
    cases h
    rw [Outbox.talk_enqueue]
    refine .added htarget ?_ ?_
    · simp [Talk.isRejection,rejectionDraft,Content.type]
    · intro y hy hrej
      obtain ⟨⟨row,hrow,rfl⟩,_⟩ := Outbox.mem_talk.mp hy
      refine List.find?_eq_none.mp hnone row hrow ?_
      simp only [Talk.isRejection,Bool.and_eq_true,decide_eq_true_eq] at hrej
      exact decide_eq_true hrej

theorem reject_moves {db db' : Db} {b : MarketBid} {reason : RejectionReason}
    {available : Option Int} {now : Instant} (hb : db.market.bids.get? b.idpk = some b)
    (incoming : b.direction = .incoming) (pending : b.status = .pending)
    (h : reject cfg db b reason available now = .ok db') : Moves cfg P db.desk db'.desk := by
  unfold reject at h
  obtain ⟨outbox,ho,h⟩ := Fallible.bind_ok.mp h
  cases h
  exact .single
    (.bidRefused b reason available now hb incoming pending (enqueueBidRejected_spec ho))

theorem offerOf?_spec {m : Market} {offerId cycleId : String} {o : MarketOffer}
    (h : offerOf? cfg m offerId cycleId = some o) :
    m.offers.get? offerId = some o ∧ o.isLocal = true := by
  obtain ⟨ho,_⟩ := Option.filter_eq_some_iff.mp h
  obtain ⟨hget,key,hl⟩ := SellerOffers.localOffer?_spec ho
  exact ⟨key ▸ hget,hl⟩

theorem minBid?_pos {cycle : Cycle} {minBid : Int} (h : minBid? cycle = some minBid) :
    0 < minBid := by
  have := (Option.filter_eq_some_iff.mp h).2
  simpa using this

/-- A bid that nothing refuses fits what the offer can still promise. -/
theorem refusal_none {db : Db} {b : MarketBid} {o : MarketOffer} {now : Instant}
    (h : refusal cfg db b (some o) now = none) :
    0 < b.quantity ∧ b.quantity ≤ availableKwh db.market o := by
  unfold refusal at h
  dsimp only at h
  split at h
  · cases h
  split at h
  · cases h
  split at h
  · cases h
  split at h
  · cases h
  rename_i minBid hmin
  obtain ⟨cycle,_,hmin⟩ := Option.bind_eq_some_iff.mp hmin
  have positive := minBid?_pos hmin
  split at h
  · cases h
  split at h
  · cases h
  omega

theorem incomingBid?_spec {m : Market} {idpk : String} {b : MarketBid}
    (h : incomingBid? m idpk = some b) :
    m.bids.get? b.idpk = some b ∧ b.idpk = idpk ∧ b.direction = .incoming := by
  obtain ⟨hb,hd⟩ := Option.filter_eq_some_iff.mp h
  have key := Table.key_of_get? hb
  exact ⟨key ▸ hb,key,by simpa using hd⟩

theorem reserveIncomingBid_moves {db db' : Db} {idpk : String} {now : Instant}
    {outcome : Outcome} (h : reserveIncomingBid cfg db idpk now = .ok (db',outcome)) :
    Moves cfg P db.desk db'.desk := by
  obtain ⟨b,hb,⟨-,rfl⟩ | ⟨hs,refused | reserved⟩⟩ := reserveIncomingBid_cases h
  · exact .refl
  · obtain ⟨hget,_,incoming⟩ := incomingBid?_spec hb
    obtain ⟨reason,available,_,hr⟩ := refused
    exact reject_moves hget incoming hs hr
  · obtain ⟨hget,_,incoming⟩ := incomingBid?_spec hb
    obtain ⟨o,free,free',ho,hnone,rfl⟩ := reserved
    obtain ⟨positive,fits⟩ := refusal_none hnone
    obtain ⟨hoffer,hlocal⟩ := offerOf?_spec ho
    exact .single (.reserved b o now free free' hget incoming hs hoffer hlocal positive fits)

theorem bidData?_pos {payload : Payload} {data : BidData} (h : bidData? payload = some data) :
    0 < data.quantity := by
  unfold bidData? at h
  simp only [Option.bind_eq_bind,Option.bind_eq_some_iff] at h
  obtain ⟨cycleId,_,buyer,_,offerId,_,quantity,_,_,hg,h⟩ := h
  obtain ⟨_,_,_,positive⟩ := Fallible.guard_some.mp hg
  cases h
  exact positive

theorem arrivingBid_spec (payload : Payload) (data : BidData)
    (refused : Option (RejectionReason × Option Int)) (now : Instant) :
    (arrivingBid payload data refused now).idpk = payload.idpk ∧
      (arrivingBid payload data refused now).msgId = payload.msgId ∧
      (arrivingBid payload data refused now).direction = .incoming ∧
      (arrivingBid payload data refused now).quantity = data.quantity ∧
      (arrivingBid payload data refused now).status =
        (if refused = none then .pending else .rejected) := by
  cases refused with
  | none => exact ⟨rfl,rfl,rfl,rfl,rfl⟩
  | some r => exact ⟨rfl,rfl,rfl,rfl,rfl⟩

theorem processIncomingBid_moves {db db' : Db} {payload : Payload} {now : Instant}
    {status : InboundStatus} {reason : Option String}
    (h : processIncomingBid cfg db payload now = .ok (db',status,reason))
    (hP : P db.market (.bid payload.idpk payload.msgId)) : Moves cfg P db.desk db'.desk := by
  unfold processIncomingBid at h
  cases hd : bidData? payload with
  | none =>
    simp only [hd] at h
    cases h
    exact .refl
  | some data =>
    simp only [hd] at h
    generalize offerOf? cfg db.market data.offerId data.cycleId = offer at h
    generalize ingressRefusal cfg db data.buyer data.cycleId data.quantity offer now = refused at h
    obtain ⟨key,msg,incoming,quantity,status⟩ := arrivingBid_spec payload data refused now
    split at h
    · rename_i free
      cases refused with
      | none =>
        cases h
        cases offer with
        | none => exact .refl
        | some o =>
          exact .single (.bidArrived _ free (by rw [key,msg]; exact hP) incoming
            (key ▸ payload.named) (by rw [quantity]; exact bidData?_pos hd) (.inl ⟨status,rfl⟩))
      | some r =>
        obtain ⟨outbox,ho,h⟩ := Fallible.bind_ok.mp h
        cases h
        have rejects := enqueueBidRejected_spec ho
        cases offer with
        | none => exact .single (.strayRefused _ _ hP (key ▸ free) rejects)
        | some o =>
          exact .single (.bidArrived _ free (by rw [key,msg]; exact hP) incoming
            (key ▸ payload.named) (by rw [quantity]; exact bidData?_pos hd) (.inr ⟨status,msg ▸ rejects⟩))
    · split at h
      · split at h <;> cases h <;> exact .refl
      · cases h
        exact .refl

theorem reserveNext_moves {s t : Db × Tally} {b : MarketBid} {now : Instant}
    (h : reserveNext cfg now s b = .ok t) : Moves cfg P s.1.desk t.1.desk := by
  unfold reserveNext at h
  obtain ⟨⟨db₁,outcome⟩,hr,h⟩ := Fallible.bind_ok.mp h
  cases h
  exact reserveIncomingBid_moves hr

theorem processOffer_moves {s t : Db × Tally} {locked : List String} {offerId : String}
    {now : Instant} (h : processOffer cfg locked now s offerId = .ok t) :
    Moves cfg P s.1.desk t.1.desk := by
  unfold processOffer at h
  dsimp only at h
  split at h
  · cases h
    exact .refl
  split at h
  · cases h
    exact .refl
  obtain ⟨policy,_,h⟩ := Fallible.bind_ok.mp h
  split at h
  · cases h
    exact .refl
  · have turns := Fallible.foldlM_rel (fun s t : Db × Tally => Moves cfg P s.1.desk t.1.desk)
      (fun _ => .refl) Relation.ReflTransGen.trans _ (fun _ _ _ h => reserveNext_moves h) _ h
    exact turns

theorem processDueSellerBids_moves {db db' : Db} {locked : List String} {maxOffers : Nat}
    {now : Instant} {tally : Tally}
    (h : processDueSellerBids cfg db locked maxOffers now = .ok (db',tally)) :
    Moves cfg P db.desk db'.desk := by
  unfold processDueSellerBids at h
  split at h
  · cases h
  · have turns := Fallible.foldlM_rel (fun s t : Db × Tally => Moves cfg P s.1.desk t.1.desk)
      (fun _ => .refl) Relation.ReflTransGen.trans _ (fun _ _ _ h => processOffer_moves h) _ h
    exact turns

end SellerBids

namespace SellerBidAccepted

theorem proposal?_spec {jwt : Jwt} {r : SwapRecord} {data : Fields} {sender : Option String}
    {now : Instant} {p : Proposal} (h : proposal? cfg jwt r data sender now = some p) :
    r.role = .proposer ∧ r.status = .proposed ∧ r.swapId = some p.swapId := by
  unfold proposal? at h
  simp only [Option.bind_eq_bind,Option.bind_eq_some_iff] at h
  obtain ⟨_,hs,_,_,_,_,swapId,_,expiresAt,_,_,_,_,hid,h⟩ := h
  obtain ⟨_,_,_,_,token,_,_,_,_,_,stored,_,_,_,h⟩ := h
  cases h
  exact ⟨(Fallible.guard_some.mp hs).2.1,(Fallible.guard_some.mp hs).2.2,
    (Fallible.guard_some.mp hid).1⟩

theorem answerable?_spec {m : Market} {outbox : Outbox} {r : SwapRecord} {b : MarketBid} {price : ℚ}
    (h : answerable? m outbox r = some (b,price)) :
    m.bids.get? r.idpk = some b ∧ b.direction = .incoming ∧ b.status = .reserved ∧
      (∃ reservation, m.reservations.get? b.idpk = some reservation ∧
        reservation.status = .hold) ∧
      ∀ y ∈ outbox.talk, ¬ y.isAcceptance b.msgId := by
  unfold answerable? at h
  simp only [Option.bind_eq_bind,Option.bind_eq_some_iff] at h
  obtain ⟨bid,hb,_,hs,_,_,value,_,_,_,reservation,hr,_,hh,_,hnew,h⟩ := h
  cases h
  obtain ⟨incoming,reserved⟩ := Fallible.guard_some.mp hs
  refine ⟨hb,incoming,reserved,⟨reservation,hr,(Fallible.guard_some.mp hh).2.1⟩,?_⟩
  intro y hy hacc
  obtain ⟨⟨row,hrow,rfl⟩,_⟩ := Outbox.mem_talk.mp hy
  apply Fallible.guard_some.mp hnew
  rw [List.any_eq_true]
  simp only [Talk.isAcceptance,Bool.and_eq_true,decide_eq_true_eq] at hacc
  exact ⟨row,hrow,decide_eq_true hacc⟩

theorem enqueueBidAccepted_moves (jwt : Jwt) {db : Db} {r : SwapRecord} (data : Fields)
    (sender : Option String) (now : Instant) (hr : db.market.swaps.get? r.idpk = some r)
    (hP : P db.market .announcement) :
    Moves cfg P db.desk (enqueueBidAccepted cfg jwt db r data sender now).desk := by
  unfold enqueueBidAccepted
  cases hp : proposal? cfg jwt r data sender now with
  | none => exact .refl
  | some p =>
    cases ha : answerable? db.market db.outbox r with
    | none => exact .refl
    | some found =>
      obtain ⟨b,price⟩ := found
      obtain ⟨_,proposed,id⟩ := proposal?_spec hp
      obtain ⟨hb,incoming,reserved,⟨reservation,hres,held⟩,fresh⟩ := answerable?_spec ha
      unfold Db.desk
      dsimp only
      rw [Outbox.talk_enqueue]
      exact .single (.answered r b reservation p.swapId now _ hr proposed id hb incoming reserved
        hres held (by simp [Talk.isAcceptance,acceptedDraft,Content.type]) fresh hP)

end SellerBidAccepted

namespace BidReplies

theorem talk_stopped (idpk : String) (row : OutboundMessage) :
    (stopped idpk row).talk = row.talk := by
  unfold stopped
  split <;> rfl

theorem addressed_spec {db : Db} {payload : Payload} {target : String} {b : MarketBid}
    (h : addressed db payload target = .ok b) : db.market.bids.get? b.idpk = some b ∧
      b.direction = .outgoing ∧ b.status = .pending := by
  unfold addressed at h
  simp only [Fallible.throw_bind] at h
  split at h
  · split at h
    · rename_i bid hbid
      obtain ⟨hget,outgoing⟩ := Option.filter_eq_some_iff.mp hbid
      split at h
      · split at h <;> cases h
        rename_i pending
        exact ⟨Table.key_of_get? hget ▸ hget,by simpa using outgoing,pending⟩
      · cases h
    · cases h
  · cases h

theorem resolved_spec {payload : Payload} {b c : MarketBid} {now : Instant}
    (h : resolved payload b now = .ok c) :
    c.idpk = b.idpk ∧ c.direction = b.direction ∧ c.msgId = b.msgId ∧ c.terms = b.terms := by
  unfold resolved at h
  split at h
  · obtain ⟨swapId,_,rfl⟩ := Fallible.map_ok.mp h
    exact ⟨rfl,rfl,rfl,rfl⟩
  · unfold rejectedBid at h
    simp only [Fallible.throw_bind] at h
    split at h
    · split at h
      · split at h
        · split at h <;> cases h
          exact ⟨rfl,rfl,rfl,rfl⟩
        · split at h <;> cases h
          exact ⟨rfl,rfl,rfl,rfl⟩
      · cases h
    · cases h

theorem processBidReply_moves {db db' : Db} {payload : Payload} {now : Instant}
    {refusal : Option Refusal} (h : processBidReply db payload now = .ok (db',refusal)) :
    Moves cfg P db.desk db'.desk := by
  obtain rfl | ⟨target,b,c,found,settled,rfl⟩ := processBidReply_cases h
  · exact .refl
  obtain ⟨hget,outgoing,pending⟩ := addressed_spec found
  obtain ⟨key,direction,msg,terms⟩ := resolved_spec settled
  unfold Db.desk
  dsimp only
  rw [Outbox.talk_mapRows _ _ _ (talk_stopped c.idpk)]
  exact .single (.resolved b c hget outgoing pending key direction msg terms)

end BidReplies

end EnergyNode
