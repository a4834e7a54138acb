import EnergyNode.Inbox
import EnergyNode.SwapCorrelation
import EnergyNode.SwapSettlements

/-! What the ledger knows of trade: each entry of a settled swap is the trade of one
bid, at the price both sides agreed on, and no bid is traded twice. -/
namespace EnergyNode
open Lib WalletEvents

namespace AgreedTrades
open SwapEntries SingleOperation SwapAccept BidReplies

variable {cfg : Config} {P : Market → Cause → Prop} {d d' : Desk}

/-! ### What the moves keep -/

/-- A bid stays what was asked of whom. -/
theorem bid_deal {m : Market} {Q : Cause → Prop} {k : String} {d e : Deal}
    (move : DealMove m Q k d e) {b : MarketBid} (hb : d.bid = some b) :
    ∃ c, e.bid = some c ∧ c.terms = b.terms ∧ c.direction = b.direction := by
  cases move with
  | still => exact ⟨b,hb,rfl,rfl⟩
  | arrived => cases hb
  | rejected _ c same =>
    cases hb
    exact ⟨c,rfl,same.terms,same.direction⟩
  | own _ c same =>
    cases hb
    exact ⟨c,rfl,same.terms,same.direction⟩
  | closed =>
    cases hb
    exact ⟨_,rfl,b.closed_same.terms,b.closed_same.direction⟩
  | reserved | answered =>
    cases hb
    exact ⟨_,rfl,rfl,rfl⟩
  | taken | event | revised | kept | claimed | refused => exact ⟨b,hb,rfl,rfl⟩
  | @expired own _ _ _ _ _ _ _ _ _ _ _ _ closes =>
    have here : own = some b := hb
    rcases closes with ⟨same,_⟩ | same
    · exact ⟨b,same.trans here,rfl,rfl⟩
    · refine ⟨b.closed,?_,b.closed_same.terms,b.closed_same.direction⟩
      dsimp only
      rw [same,here,Option.map_some]

theorem bid_moves (moves : Moves cfg P d d') {k : String} {b : MarketBid}
    (hb : d.market.bids.get? k = some b) :
    ∃ c, d'.market.bids.get? k = some c ∧ c.terms = b.terms ∧ c.direction = b.direction := by
  induction moves with
  | refl => exact ⟨b,hb,rfl,rfl⟩
  | tail _ move ih =>
    obtain ⟨c,hc,terms,direction⟩ := ih
    obtain ⟨e,he,terms',direction'⟩ := bid_deal (Market.deal_move move k) hc
    exact ⟨e,he,terms'.trans terms,direction'.trans direction⟩

theorem talk_rejects {msgId : String} {t u : List Talk} (h : Rejects msgId t u) : t <+: u := by
  cases h with
  | kept => exact List.prefix_refl _
  | added => exact List.prefix_append _ _

theorem talk_moves (moves : Moves cfg P d d') : d.talk <+: d'.talk := by
  induction moves with
  | refl => exact List.prefix_refl _
  | tail _ move ih =>
    refine ih.trans ?_
    cases move with
    | bidArrived _ _ _ _ _ _ told =>
      rcases told with ⟨_,rfl⟩ | ⟨_,told⟩
      · exact List.prefix_refl _
      · exact talk_rejects told
    | strayRefused _ _ _ _ told | bidRefused _ _ _ _ _ _ _ told => exact talk_rejects told
    | answered | placed | renewed => exact List.prefix_append _ _
    | _ => exact List.prefix_refl _

/-! ### The answers in the inbox -/

/-- An answer names, by a message of ours, the bid it accepts, and comes from its city. -/
def Vouches (d : Desk) (payload : Payload) : Prop :=
  ∃ target x b, (spelled (payload.data.get "target")).bind uuidText = some target ∧
    x ∈ d.talk ∧ x.msgId = target ∧ x.content.type = .bid ∧
    d.market.bids.get? x.idpk = some b ∧ b.direction = .outgoing ∧
    payload.cityId = some b.counterpartCityId ∧ ∃ swapId, acceptedSwap b payload.data = .ok swapId

theorem acceptedSwap_congr {b c : MarketBid} (data : Fields) (same : c.quantity = b.quantity) :
    acceptedSwap c data = acceptedSwap b data := by
  unfold acceptedSwap acceptedTerms
  rw [same]

theorem quantity_of_terms {b c : MarketBid} (h : c.terms = b.terms) : c.quantity = b.quantity := by
  simp only [MarketBid.terms,Prod.mk.injEq] at h
  exact h.2.2.2

theorem cycle_of_terms {b c : MarketBid} (h : c.terms = b.terms) : c.cycleId = b.cycleId := by
  simp only [MarketBid.terms,Prod.mk.injEq] at h
  exact h.1

theorem counterpart_of_terms {b c : MarketBid} (h : c.terms = b.terms) :
    c.counterpartCityId = b.counterpartCityId := by
  simp only [MarketBid.terms,Prod.mk.injEq] at h
  exact h.2.2.1

theorem Vouches.moves {payload : Payload} (h : Vouches d payload) (moves : Moves cfg P d d') :
    Vouches d' payload := by
  obtain ⟨target,x,b,read,hx,named,type,hb,outgoing,city,swapId,accepted⟩ := h
  obtain ⟨c,hc,terms,direction⟩ := bid_moves moves hb
  refine ⟨target,x,c,read,(talk_moves moves).subset hx,named,type,hc,direction.trans outgoing,?_,
    swapId,?_⟩
  · rw [city,counterpart_of_terms terms]
  · rw [acceptedSwap_congr payload.data (quantity_of_terms terms),accepted]

/-- Every processed acceptance is vouched for. -/
def Vouched (db : Db) : Prop :=
  ∀ row ∈ db.inbox, row.payload.type = .bidAccepted → row.status = .processed →
    Vouches db.desk row.payload

theorem commercial_of_bid {content : Content} (h : content.type = .bid) :
    content.commercial = true := by
  cases content <;> first | rfl | cases h

theorem vouches_reply {db db' : Db} {payload : Payload} {now : Instant}
    (type : payload.type = .bidAccepted)
    (h : processBidReply db payload now = .ok (db',none)) : Vouches db.desk payload := by
  unfold processBidReply at h
  split at h
  · cases h
  rename_i target read
  split at h
  · cases h
  rename_i b found
  split at h
  · cases h
  split at h
  · cases h
  rename_i next settled
  rw [resolved,if_pos type] at settled
  obtain ⟨swapId,accepted,_⟩ := Fallible.map_ok.mp settled
  unfold addressed at found
  simp only [Fallible.throw_bind] at found
  split at found
  · rename_i x hx
    obtain ⟨hx,bid⟩ := Option.filter_eq_some_iff.mp hx
    rw [decide_eq_true_eq] at bid
    split at found
    · rename_i own hb
      obtain ⟨hb,outgoing⟩ := Option.filter_eq_some_iff.mp hb
      rw [decide_eq_true_eq] at outgoing
      rw [Fallible.require_ok,Fallible.require_ok,Fallible.pure_ok] at found
      obtain ⟨⟨_,_,city,_⟩,_,rfl⟩ := found
      have key : x.msgId = target := Table.key_of_get? hx
      refine ⟨target,x.talk,own,read,?_,key,bid,hb,outgoing,city,swapId,accepted⟩
      exact Outbox.mem_talk.mpr ⟨⟨x,Table.mem_of_get? hx,rfl⟩,commercial_of_bid bid⟩
    · cases found
  · cases found

/-- A processed acceptance went through `process_bid_reply`. -/
theorem vouches_processed {jwt : Jwt} {db db' : Db} {payload : Payload} {now : Instant}
    {verdict : Ingest.Verdict} (type : payload.type = .bidAccepted)
    (h : Ingest.process cfg jwt db payload now = .ok (db',verdict))
    (done : verdict.status = .processed) : Vouches db.desk payload := by
  obtain ⟨_,rfl⟩ | ⟨claimed,served,claim,dispatched,_⟩ := Ingest.process_cases h
  · unfold Ingest.repeated at done
    split at done <;> cases done
  have opened : (Ingest.requestStatement cfg claimed payload now).desk = db.desk :=
    (congrArg Prod.fst (Ingest.front_requestStatement ..)).trans (Ingest.desk_claim? claim)
  unfold Ingest.dispatch at dispatched
  rw [type] at dispatched
  obtain ⟨⟨after,refusal⟩,replied,dispatched⟩ := Fallible.bind_ok.mp dispatched
  dsimp only at dispatched
  split at dispatched <;> cases dispatched
  · cases done
  · exact opened ▸ vouches_reply type replied

theorem vouched_ingest (env : Env) {db : Db} (payload : Payload) (now : Instant)
    (h : Vouched db) : Vouched (Ingest.ingest env.cfg env.jwt db payload now).1 := by
  have moves := Node.step_moves env db (.ingest payload now)
  obtain ⟨status,reason,grown⟩ := Ingest.inbox_ingest env.cfg env.jwt db payload now
  intro row hrow type done
  rw [grown] at hrow
  rcases List.mem_append.mp hrow with old | new
  · exact (h row old type done).moves moves
  · rw [List.mem_singleton.mp new] at type done ⊢
    unfold Ingest.ingest at grown
    cases processed : Ingest.process env.cfg env.jwt db payload now with
    | error fault =>
      rw [processed] at grown
      have same := List.append_cancel_left grown
      cases same
      cases done
    | ok ended =>
      obtain ⟨after,verdict⟩ := ended
      rw [processed] at grown
      have same : after.inbox ++ [⟨payload,verdict.status,verdict.reason⟩] = _ := grown
      rw [Ingest.inbox_process processed] at same
      have same := List.append_cancel_left same
      cases same
      exact (vouches_processed type processed done).moves moves

theorem event_type {payload : Payload} (h : (MarketFeed.event? payload).isSome) :
    payload.type ≠ .bidAccepted := by
  intro type
  obtain ⟨e,h⟩ := Option.isSome_iff_exists.mp h
  unfold MarketFeed.event? at h
  simp [type] at h

theorem vouched_feed (env : Env) {db : Db} (payload : Payload) (h : Vouched db) :
    Vouched (MarketFeed.persist env.cfg db payload) := by
  have moves := Node.step_moves env db (.feed payload)
  intro row hrow type done
  rcases Ingest.inbox_feed env.cfg db payload with same | ⟨event,status,reason,grown⟩
  · rw [same] at hrow
    exact (h row hrow type done).moves moves
  rw [grown] at hrow
  rcases List.mem_append.mp hrow with old | new
  · exact (h row old type done).moves moves
  · rw [List.mem_singleton.mp new] at type
    exact absurd type (event_type event)

theorem vouched_step (env : Env) {db : Db} (a : Node.Action) (h : Vouched db) :
    Vouched (Node.step env db a) := by
  cases brings : Node.bringsMessage a with
  | false =>
    have same : (Node.step env db a).inbox = db.inbox :=
      congrArg Log.inbox (MarketClosing.service_step env db a brings).log
    intro row hrow type done
    rw [same] at hrow
    exact (h row hrow type done).moves (Node.step_moves env db a)
  | true =>
    cases a with
    | ingest payload now => exact vouched_ingest env payload now h
    | feed payload => exact vouched_feed env payload h
    | _ => cases brings

/-! ### Our purchases -/

/-- A processed acceptance of its city gives a message of the bid this price. -/
def Agreed (d : Desk) (inbox : List InboundMessage) (k : String) (b : MarketBid) (agreed : ℚ) :
    Prop :=
  ∃ x ∈ d.talk, x.content.type = .bid ∧ x.idpk = k ∧
    ∃ row ∈ inbox, row.payload.type = .bidAccepted ∧ row.status = .processed ∧
      row.payload.cityId = some b.counterpartCityId ∧
      (row.payload.data.get "target").text? = some x.msgId ∧
      price (row.payload.data.get "pricePerEnergy") = some agreed

/-- The record buys what our bid asks, for the two-decimal amount of its price. -/
structure Purchase (d : Desk) (inbox : List InboundMessage) (r : SwapRecord) (k : String)
    (b : MarketBid) (price : ℚ) : Prop where
  source : r.sourceBidIdpk = some k
  bid : d.market.bids.get? k = some b
  outgoing : b.direction = .outgoing
  cycle : r.cycleId = b.cycleId
  give : r.giveAsset = .cr ∧ r.giveAmount = centsHalfUp (price * b.quantity)
  take : r.takeAsset = .kwh ∧ r.takeAmount = b.quantity
  agreed : Agreed d inbox k b price

def AllBought (d : Desk) (inbox : List InboundMessage) : Prop :=
  ∀ r ∈ d.market.swaps, r.role = .acceptor → ∃ k b price, Purchase d inbox r k b price

variable {inbox inbox' : List InboundMessage}

theorem Purchase.moves {r s : SwapRecord} {k : String} {b : MarketBid} {price : ℚ}
    (h : Purchase d inbox r k b price) (moves : Moves cfg P d d') (deal : SameDeal r s)
    (grown : inbox <+: inbox') : ∃ c, Purchase d' inbox' s k c price := by
  obtain ⟨c,hc,terms,direction⟩ := bid_moves moves h.bid
  have quantity := quantity_of_terms terms
  obtain ⟨x,hx,type,own,row,hrow,accepts,done,city,answer⟩ := h.agreed
  refine ⟨c,?_,hc,direction.trans h.outgoing,?_,?_,?_,?_⟩
  · rw [deal.sourceBidIdpk,h.source]
  · rw [deal.cycleId,h.cycle,cycle_of_terms terms]
  · rw [deal.giveAsset,deal.giveAmount,quantity]
    exact h.give
  · rw [deal.takeAsset,deal.takeAmount,quantity]
    exact h.take
  · exact ⟨x,(talk_moves moves).subset hx,type,own,row,grown.subset hrow,accepts,done,
      counterpart_of_terms terms ▸ city,answer⟩

/-- A record of the buyer's side was there before, or an accepted bid was taken up. -/
theorem acceptor_move {m n : Market} {t u : List Talk} (h : Move cfg P ⟨m,t⟩ ⟨n,u⟩)
    {s : SwapRecord} (hs : s ∈ n.swaps) (role : s.role = .acceptor) :
    (∃ r ∈ m.swaps, SameDeal r s) ∨ ∃ k, P m (.acceptance k) := by
  have stored {r w : SwapRecord} (hr : m.swaps.get? r.idpk = some r) (deal : SameDeal r w)
      (hs : s ∈ m.swaps.set w) : ∃ r ∈ m.swaps, SameDeal r s := by
    rcases SwapCorrelation.mem_stored hs with rfl | old
    · exact ⟨r,Table.mem_of_get? hr,deal⟩
    · exact ⟨s,old,.refl s⟩
  cases h with
  | offers | offerAdded | bidArrived | strayRefused | bidRefused | answered | resolved | referenced
  | placed | renewed | bidsExpired => exact .inl ⟨s,hs,.refl s⟩
  | bidClosed k =>
    rw [Market.swaps_setBidExpired] at hs
    exact .inl ⟨s,hs,.refl s⟩
  | reserved b o now freeReservation freeSwap =>
    change s ∈ m.swaps.insert (SellerBids.swapIntent b o.pricePerEnergy now) freeSwap at hs
    rcases Table.mem_insert.mp hs with old | rfl
    · exact .inl ⟨s,old,.refl s⟩
    · cases role
  | event r w type data rejection swapId cause found live hid deal =>
    change s ∈ (m.carried r type).swaps.set w at hs
    rw [swaps_carried] at hs
    exact .inl (stored (get?_correlated found) deal hs)
  | revised r w type data rejection cause found terminal deal =>
    exact .inl (stored (get?_correlated found) deal hs)
  | expired r reason cause hr live =>
    rw [Market.swaps_setBidExpired,swaps_moved] at hs
    exact .inl (stored (w := { r with status := .expired, rejectionReason := some reason }) hr
      ⟨rfl,rfl,rfl,rfl,rfl,rfl,rfl,rfl,rfl,rfl,rfl,rfl⟩ hs)
  | kept r w hr deal => exact .inl (stored hr deal hs)
  | claimed r now hr =>
    exact .inl (stored (w := SwapDispatch.claimed cfg m r now) hr
      ⟨rfl,rfl,rfl,rfl,rfl,rfl,rfl,rfl,rfl,rfl,rfl,rfl⟩ hs)
  | refused r w cause hr _ _ deal => exact .inl (stored hr deal hs)
  | taken b r free cause => exact .inr ⟨_,cause⟩

theorem acceptor_moves (moves : Moves cfg P d d') (quiet : ∀ m k, ¬P m (.acceptance k))
    {s : SwapRecord} (hs : s ∈ d'.market.swaps) (role : s.role = .acceptor) :
    ∃ r ∈ d.market.swaps, SameDeal r s := by
  induction moves generalizing s with
  | refl => exact ⟨s,hs,.refl s⟩
  | tail _ move ih =>
    rcases acceptor_move move hs role with ⟨r,hr,deal⟩ | ⟨k,cause⟩
    · obtain ⟨w,hw,first⟩ := ih hr (deal.role.symm.trans role)
      exact ⟨w,hw,first.trans deal⟩
    · exact absurd cause (quiet _ k)

/-! ### A bid is taken up -/

/-- The messages of our bids carry UUIDs in their canonical text. -/
def Canonical (db : Db) : Prop :=
  ∀ x ∈ db.outbox.talk, x.content.type = .bid → uuidText x.msgId = some x.msgId

theorem acceptance_found {db : Db} {b : MarketBid} {payload : Payload}
    (h : SwapTimeouts.acceptance? db b = some payload) :
    ∃ row ∈ db.inbox, row.payload = payload ∧ payload.type = .bidAccepted ∧
      row.status = .processed ∧ ∃ x ∈ db.outbox.talk, x.content.type = .bid ∧ x.idpk = b.idpk ∧
        (payload.data.get "target").text? = some x.msgId := by
  unfold SwapTimeouts.acceptance? at h
  obtain ⟨row,found,rfl⟩ := Option.map_eq_some_iff.mp h
  have stored := List.mem_reverse.mp (List.mem_of_find?_eq_some found)
  have answer := List.find?_some found
  simp only [Bool.and_eq_true,decide_eq_true_eq] at answer
  obtain ⟨⟨type,status⟩,named⟩ := answer
  refine ⟨row,stored,rfl,type,status,?_⟩
  split at named
  · rename_i target read
    rw [decide_eq_true_eq] at named
    obtain ⟨sent,hsent,rfl⟩ := List.mem_map.mp named
    obtain ⟨hsent,own⟩ := List.mem_filter.mp hsent
    rw [decide_eq_true_eq] at own
    have talked : sent.talk ∈ db.outbox.talk :=
      Outbox.mem_talk.mpr ⟨⟨sent,hsent,rfl⟩,commercial_of_bid own.2⟩
    exact ⟨sent.talk,talked,own.2,own.1,read⟩
  · cases named

theorem eq_of_msgId {outbox : Outbox} {x y : Talk} (hx : x ∈ outbox.talk) (hy : y ∈ outbox.talk)
    (same : x.msgId = y.msgId) : x = y := by
  obtain ⟨⟨r,hr,rfl⟩,_⟩ := Outbox.mem_talk.mp hx
  obtain ⟨⟨s,hs,rfl⟩,_⟩ := Outbox.mem_talk.mp hy
  rw [Table.eq_of_key hr hs same]

theorem acceptedSwap_spec {b : MarketBid} {data : Fields} {swapId : String}
    (h : acceptedSwap b data = .ok swapId) : ∃ agreed,
      price (data.get "pricePerEnergy") = some agreed ∧
      price (data.get "amount") = some (centsHalfUp (agreed * b.quantity)) := by
  obtain ⟨⟨swap,agreed,amount⟩,terms,h⟩ := Fallible.bind_ok.mp h
  simp only [Fallible.throw_bind] at h
  rw [Fallible.require_ok] at h
  obtain ⟨-,rounded⟩ := quantizedUp_some.mp h.1
  unfold acceptedTerms at terms
  simp only [Fallible.throw_bind] at terms
  rw [Fallible.require_ok] at terms
  obtain ⟨_,terms⟩ := terms
  split at terms <;> try cases terms
  split at terms <;> try cases terms
  split at terms <;> try cases terms
  split at terms <;> try cases terms
  split at terms <;> try cases terms
  rename_i hp
  split at terms <;> try cases terms
  rename_i ha
  exact ⟨_,hp,rounded ▸ ha⟩

theorem decimal_of_price {value : Json} {q : ℚ} (h : price value = some q) :
    SwapAccept.decimal value = q := by
  unfold price at h
  split at h
  · split at h <;> cases h
    simp [SwapAccept.decimal,Decimal.number,Decimal.ofJson,Decimal.finite?]
  · split at h <;> cases h
    simp [SwapAccept.decimal,Decimal.number,Decimal.ofJson,Decimal.finite?]
  · cases h

/-- The answer found for a bid agrees on a price, and on the amount of it. -/
theorem agreed_answer {db : Db} {b : MarketBid} {payload : Payload} (canonical : Canonical db)
    (vouched : Vouched db) (hb : db.market.bids.get? b.idpk = some b)
    (h : SwapTimeouts.acceptance? db b = some payload) :
    ∃ agreed, Agreed db.desk db.inbox b.idpk b agreed ∧
      SwapAccept.decimal (payload.data.get "amount") = centsHalfUp (agreed * b.quantity) := by
  obtain ⟨row,hrow,rfl,type,status,x,hx,bid,own,read⟩ := acceptance_found h
  obtain ⟨target,y,c,spells,hy,named,_,hc,_,city,swapId,accepted⟩ := vouched row hrow type status
  have text : row.payload.data.get "target" = .str x.msgId := by
    cases value : row.payload.data.get "target" <;> rw [value] at read <;> cases read
    rfl
  rw [text,BidReplies.spelled,Option.bind_some,canonical x hx bid,Option.some.injEq] at spells
  have same : y = x := eq_of_msgId hy hx (named.trans spells.symm)
  rw [same,own] at hc
  cases hc.symm.trans hb
  obtain ⟨agreed,hp,ha⟩ := acceptedSwap_spec accepted
  exact ⟨agreed,⟨x,hx,bid,own,row,hrow,type,status,city,read,hp⟩,decimal_of_price ha⟩

theorem purchase_of_about (cfg : Config) {d : Desk} {b : MarketBid} {data : Fields}
    {r : SwapRecord} {agreed : ℚ}
    (about : SwapCorrelation.About cfg d.market (SwapCorrelation.asked cfg b data) r)
    (role : r.role = .acceptor) (source : r.sourceBidIdpk = some b.idpk)
    (cycle : r.cycleId = b.cycleId) (hb : d.market.bids.get? b.idpk = some b)
    (outgoing : b.direction = .outgoing) (agrees : Agreed d inbox b.idpk b agreed)
    (amount : SwapAccept.decimal (data.get "amount") = centsHalfUp (agreed * b.quantity)) :
    Purchase d inbox r b.idpk b agreed := by
  unfold SwapCorrelation.About at about
  rw [role] at about
  obtain ⟨_,_,give,take,_⟩ := about
  simp only [SwapCorrelation.asked,SwapTokens.Leg.mk.injEq] at give take
  exact ⟨source,hb,outgoing,cycle,⟨take.1.symm,take.2.symm.trans amount⟩,
    ⟨give.1.symm,give.2.symm⟩,agrees⟩

theorem allBought_add {db : Db} {r : SwapRecord} (h : AllBought db.desk db.inbox)
    (own : ∃ k b price, Purchase db.desk db.inbox r k b price) :
    AllBought (addRecord db r).desk (addRecord db r).inbox := by
  unfold addRecord
  cases hi : db.market.swaps.insert? r with
  | none => exact h
  | some swaps =>
    obtain ⟨free,rfl⟩ := Table.insert?_eq_some.mp hi
    have lift {s : SwapRecord} (bought : ∃ k b price, Purchase db.desk db.inbox s k b price) :
        ∃ k b price, Purchase
          (Db.desk { db with market := { db.market with swaps := db.market.swaps.insert r free } })
          db.inbox s k b price := by
      obtain ⟨k,b,price,p⟩ := bought
      exact ⟨k,b,price,p.source,p.bid,p.outgoing,p.cycle,p.give,p.take,p.agreed⟩
    intro s hs role
    change s ∈ db.market.swaps.insert r free at hs
    rcases Table.mem_insert.mp hs with old | rfl
    · exact lift (h s old role)
    · exact lift own

theorem allBought_taken (jwt : Jwt) {db : Db} (k : String) (jwks : Jwks) (now : Instant)
    (canonical : Canonical db) (vouched : Vouched db) (h : AllBought db.desk db.inbox) :
    AllBought (takeAcceptedBid cfg jwt db k jwks now).desk
      (takeAcceptedBid cfg jwt db k jwks now).inbox := by
  unfold takeAcceptedBid
  cases hb : (db.market.bids.get? k).filter (awaitsAcceptance db.market) with
  | none => exact h
  | some b =>
    obtain ⟨found,waits⟩ := Option.filter_eq_some_iff.mp hb
    have key := Table.key_of_get? found
    subst key
    have outgoing : b.direction = .outgoing := by
      unfold awaitsAcceptance at waits
      simp only [Bool.and_eq_true,decide_eq_true_eq] at waits
      exact waits.1.1.1
    dsimp only
    split
    · exact h
    rename_i payload hp
    obtain ⟨agreed,agrees,amount⟩ := agreed_answer canonical vouched found hp
    split
    · rename_i verified
      refine allBought_add h ⟨b.idpk,b,agreed,?_⟩
      exact purchase_of_about cfg (SwapCorrelation.about_taken found outgoing verified) rfl rfl rfl
        found outgoing agrees amount
    · split
      · exact h
      · refine allBought_add h ⟨b.idpk,b,agreed,?_⟩
        exact purchase_of_about cfg (SwapCorrelation.about_rejected found outgoing) rfl rfl rfl
          found outgoing agrees amount

theorem allBought_step (env : Env) {db : Db} (a : Node.Action) (canonical : Canonical db)
    (vouched : Vouched db) (h : AllBought db.desk db.inbox) :
    AllBought (Node.step env db a).desk (Node.step env db a).inbox := by
  by_cases taken : ∃ k, .acceptance k ∈ Node.causes db a
  · obtain ⟨k,cause⟩ := taken
    obtain ⟨jwks,now,rfl⟩ := SwapCorrelation.acceptance_cause cause
    exact allBought_taken env.jwt k jwks now canonical vouched h
  · intro s hs role
    have moves := Node.step_moves env db a
    obtain ⟨r,hr,deal⟩ := acceptor_moves moves (fun _ k cause => taken ⟨k,cause.1⟩) hs role
    obtain ⟨k,b,price,bought⟩ := h r hr (deal.role.symm.trans role)
    obtain ⟨c,next⟩ := bought.moves moves deal (Ingest.inbox_step env db a)
    exact ⟨k,c,price,next⟩

/-! ### Our sales -/

/-- A proposal sells in the cycle of its bid. -/
def InCycle (m : Market) : Prop :=
  ∀ k r, m.swaps.get? k = some r → r.role = .proposer →
    ∃ b, m.bids.get? k = some b ∧ b.cycleId = r.cycleId

theorem inCycle_deal {m : Market} {Q : Cause → Prop} {k : String} {d e : Deal}
    (move : DealMove m Q k d e)
    (h : ∀ r, d.swap = some r → r.role = .proposer → ∃ b, d.bid = some b ∧ b.cycleId = r.cycleId) :
    ∀ s, e.swap = some s → s.role = .proposer → ∃ b, e.bid = some b ∧ b.cycleId = s.cycleId := by
  intro s hs role
  cases hd : d.swap with
  | some r =>
    obtain ⟨s',hs',deal,_⟩ := move.swap hd
    cases hs.symm.trans hs'
    obtain ⟨b,hb,cycle⟩ := h r hd (deal.role.symm.trans role)
    obtain ⟨c,hc,terms,_⟩ := bid_deal move hb
    exact ⟨c,hc,(cycle_of_terms terms).trans (cycle.trans deal.cycleId.symm)⟩
  | none =>
    cases move with
    | reserved b =>
      cases hs
      exact ⟨_,rfl,rfl⟩
    | taken r acceptor =>
      cases hs
      rw [acceptor] at role
      cases role
    | still | arrived | rejected | own | closed | answered => cases hd.symm.trans hs
    | event | revised | expired | kept | claimed | refused => cases hd

theorem inCycle_moves (moves : Moves cfg P d d') (h : InCycle d.market) : InCycle d'.market := by
  intro k
  induction moves with
  | refl => exact h k
  | tail _ move ih => exact inCycle_deal (Market.deal_move move k) ih

/-! ### The ledger -/

/-- The entry is the trade of a bid: of another city's, reserved at a price, or of
ours, which its seller accepted at a price. -/
inductive Trade (db : Db) (k : String) (e : LedgerEntry) : Prop where
  | sale (b : MarketBid) (price : ℚ) : db.market.bids.get? k = some b → b.direction = .incoming →
      b.acceptedPricePerEnergy = some price → e.cycleId = b.cycleId →
      e.budgetDelta = centsHalfUp (b.quantity * price) → e.energyDelta = -b.quantity → Trade db k e
  | purchase (b : MarketBid) (price : ℚ) : db.market.bids.get? k = some b →
      b.direction = .outgoing → Agreed db.desk db.inbox k b price → e.cycleId = b.cycleId →
      e.budgetDelta = -centsHalfUp (price * b.quantity) → e.energyDelta = b.quantity → Trade db k e

structure Fair (db : Db) : Prop where
  booked : Booked db
  single : Single db.market
  cycles : InCycle db.market
  vouched : Vouched db
  bought : AllBought db.desk db.inbox

theorem fair_step (env : Env) {db : Db} (a : Node.Action) (canonical : Canonical db) (h : Fair db) :
    Fair (Node.step env db a) where
  booked := booked_step env a h.booked
  single := single_step env db a h.single
  cycles := inCycle_moves (Node.step_moves env db a) h.cycles
  vouched := vouched_step env a h.vouched
  bought := allBought_step env a canonical h.vouched h.bought

theorem trade_of_sale {db : Db} {k : String} {r : SwapRecord} {e : LedgerEntry} (h : Fair db)
    (hr : db.market.swaps.get? k = some r) (role : r.role = .proposer) (settles : Settles r e) :
    Trade db k e := by
  obtain ⟨b,price,sold⟩ := h.single.sold k r hr role
  obtain ⟨c,hc,cycle⟩ := h.cycles k r hr role
  have hb : db.market.bids.get? k = some b := sold.bid
  cases hc.symm.trans hb
  have deltas := settles.deltas
  simp [CycleAccounting.assetEffects,CycleAccounting.legEffect,sold.give,sold.take] at deltas
  exact .sale b price hb sold.incoming sold.frozen (settles.cycle.trans cycle.symm) deltas.1.symm
    deltas.2.symm

theorem trade_of_purchase {db : Db} {r : SwapRecord} {e : LedgerEntry} {k : String} {b : MarketBid}
    {price : ℚ} (bought : Purchase db.desk db.inbox r k b price) (settles : Settles r e) :
    Trade db k e := by
  have deltas := settles.deltas
  simp [CycleAccounting.assetEffects,CycleAccounting.legEffect,bought.give,bought.take] at deltas
  exact .purchase b price bought.bid bought.outgoing bought.agreed
    (settles.cycle.trans bought.cycle) deltas.1.symm deltas.2.symm

/-- The bid a record settles. -/
def bidOf (m : Market) (k : String) : String :=
  match m.swaps.get? k with
  | some r => if r.role = .acceptor then r.sourceBidIdpk.getD k else k
  | none => k

theorem bidOf_proposer {m : Market} {k : String} {r : SwapRecord} (hr : m.swaps.get? k = some r)
    (role : r.role = .proposer) : bidOf m k = k := by
  simp [bidOf,hr,role]

theorem bidOf_acceptor {m : Market} {k x : String} {r : SwapRecord} (hr : m.swaps.get? k = some r)
    (role : r.role = .acceptor) (source : r.sourceBidIdpk = some x) : bidOf m k = x := by
  simp [bidOf,hr,role,source]

theorem trade_of_settles {db : Db} {k : String} {r : SwapRecord} {e : LedgerEntry} (h : Fair db)
    (hr : db.market.swaps.get? k = some r) (settles : Settles r e) :
    Trade db (bidOf db.market k) e := by
  cases role : r.role with
  | proposer =>
    rw [bidOf_proposer hr role]
    exact trade_of_sale h hr role settles
  | acceptor =>
    obtain ⟨x,b,price,bought⟩ := h.bought r (Table.mem_of_get? hr) role
    rw [bidOf_acceptor hr role bought.source]
    exact trade_of_purchase bought settles

/-- A bid of another city's is not one of ours. -/
theorem sold_ne_bought {db : Db} {k j : String} {r s : SwapRecord} (h : Fair db)
    (hr : db.market.swaps.get? k = some r) (seller : r.role = .proposer)
    (hs : db.market.swaps.get? j = some s) (buyer : s.role = .acceptor) :
    bidOf db.market k ≠ bidOf db.market j := by
  obtain ⟨b,_,sold⟩ := h.single.sold k r hr seller
  obtain ⟨x,c,_,bought⟩ := h.bought s (Table.mem_of_get? hs) buyer
  rw [bidOf_proposer hr seller,bidOf_acceptor hs buyer bought.source]
  rintro rfl
  have hb : db.market.bids.get? k = some b := sold.bid
  cases hb.symm.trans bought.bid
  cases sold.incoming.symm.trans bought.outgoing

theorem bidOf_injective {db : Db} {k j : String} {r s : SwapRecord} (h : Fair db)
    (hr : db.market.swaps.get? k = some r) (hs : db.market.swaps.get? j = some s)
    (same : bidOf db.market k = bidOf db.market j) : k = j := by
  cases hk : r.role with
  | proposer =>
    cases hj : s.role with
    | proposer => rwa [bidOf_proposer hr hk,bidOf_proposer hs hj] at same
    | acceptor => exact absurd same (sold_ne_bought h hr hk hs hj)
  | acceptor =>
    cases hj : s.role with
    | proposer => exact absurd same.symm (sold_ne_bought h hs hj hr hk)
    | acceptor =>
      obtain ⟨x,_,_,bought⟩ := h.bought r (Table.mem_of_get? hr) hk
      obtain ⟨y,_,_,bought'⟩ := h.bought s (Table.mem_of_get? hs) hj
      rw [bidOf_acceptor hr hk bought.source,bidOf_acceptor hs hj bought'.source] at same
      subst same
      refine h.single.source k j x ?_ ?_
      · rw [SingleOperation.source,hr,Option.bind_some,bought.source]
      · rw [SingleOperation.source,hs,Option.bind_some,bought'.source]

/-- Every entry is the trade of a bid, and no bid is traded twice. -/
def Traded (db : Db) : Prop :=
  ∃ ks : List String, ks.Nodup ∧ List.Forall₂ (Trade db) ks (swapEntries db.books)

theorem traded_of_fair {db : Db} (h : Fair db) : Traded db := by
  obtain ⟨ks,nodup,entries⟩ := h.booked
  refine ⟨ks.map (bidOf db.market),nodup.map_on ?_,?_⟩
  · intro k hk j hj same
    obtain ⟨_,_,r,hr,_⟩ := exists_of_mem_left entries hk
    obtain ⟨_,_,s,hs,_⟩ := exists_of_mem_left entries hj
    exact bidOf_injective h hr hs same
  · rw [List.forall₂_map_left_iff]
    refine entries.imp ?_
    rintro k e ⟨r,hr,settles⟩
    exact trade_of_settles h hr settles

/-! ### A run -/

section Runs
variable (env : Env) {start : Db}

theorem talk_run (run : List Node.Action) :
    start.desk.talk <+: (Lib.run (Node.step env) start run).desk.talk :=
  run_related (Q := fun _ => True) (P := fun _ _ => True) (fun a b => a.desk.talk <+: b.desk.talk)
    (fun _ => List.prefix_refl _) List.IsPrefix.trans
    (fun db a _ _ => talk_moves (Node.step_moves env db a))
    (always_of_step (fun _ _ _ _ => trivial) trivial (along_true start run)) (along_true start run)

theorem Canonical.earlier {run : List Node.Action}
    (h : Canonical (Lib.run (Node.step env) start run)) : Canonical start :=
  fun x hx => h x ((talk_run env run).subset hx)

theorem fair_run {run : List Node.Action} (fair : Fair start)
    (canonical : Canonical (Lib.run (Node.step env) start run)) :
    Fair (Lib.run (Node.step env) start run) := by
  induction run generalizing start with
  | nil => exact fair
  | cons a run ih => exact ih (fair_step env a (Canonical.earlier env canonical) fair) canonical

theorem fair_empty (market : start.market = {}) (inbox : start.inbox = [])
    (entries : swapEntries start.books = []) : Fair start where
  booked := booked_empty entries
  single := market ▸ single_empty
  cycles := by
    intro k r hr
    rw [market] at hr
    cases hr
  vouched := by
    intro row hrow
    rw [inbox] at hrow
    cases hrow
  bought := by
    intro r hr
    have none_ : start.desk.market.swaps.rows = [] := by
      show start.market.swaps.rows = []
      rw [market]
      rfl
    exact absurd (none_ ▸ hr : r ∈ ([] : List SwapRecord)) List.not_mem_nil

/-- From an empty market, every settled swap in the ledger is the trade of a bid at
the price its two sides agreed on, and no bid is traded twice. -/
theorem swaps_agreed (market : start.market = {}) (inbox : start.inbox = [])
    (entries : swapEntries start.books = []) (run : List Node.Action)
    (canonical : Canonical (Lib.run (Node.step env) start run)) :
    Traded (Lib.run (Node.step env) start run) :=
  traded_of_fair (fair_run env (fair_empty market inbox entries) canonical)

end Runs

/-- A sale and a purchase, both settled. -/
def bothWays : List Node.Action :=
  SwapCorrelation.traded "s8" ++ [SwapCorrelation.settled "s8",
    .ingest (Node.walletMessage .swapSettled "settlement3" "settlement4" [("swapId",.str "s9")])
      (seconds 67)]

theorem bothWays_agreed :
    (swapEntries (Lib.run (Node.step Node.buyer) (Node.opened "C1") bothWays).books).map
        (fun e => (e.budgetDelta,e.energyDelta)) = [(12,-10),(-20,10)] ∧
      Traded (Lib.run (Node.step Node.buyer) (Node.opened "C1") bothWays) :=
  ⟨by decide +kernel,swaps_agreed Node.buyer rfl rfl rfl bothWays
    (by
      have sent : ∀ x ∈ (Lib.run (Node.step Node.buyer) (Node.opened "C1") bothWays).outbox.talk,
          x.content.type = .bid → uuidText x.msgId = some x.msgId := by
        decide +kernel
      exact sent)⟩

end AgreedTrades

end EnergyNode
