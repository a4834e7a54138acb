import EnergyNode.Lib.Greedy
import EnergyNode.SellerSteps
import Mathlib.Data.Prod.Lex
import Mathlib.Data.String.Basic

/-! The turns of the bids that wait at an offer. The policy orders them, and each
takes what it asked for when the earlier ones left as much. -/
namespace EnergyNode
open Lib

namespace SellerBids
variable {cfg : Config} {db db' : Db} {now : Instant}

/-! ### The total order of a policy -/

/-- The key a policy sorts by. -/
def rank (policy : Policy) (bid : MarketBid) : Int ×ₗ Int ×ₗ String :=
  toLex (match policy with
    | .fifo => 0
    | .maxRemaining => -bid.quantity
    | .batch => bid.quantity, toLex (bid.createdAt,bid.idpk))

theorem precedes_iff {policy : Policy} {a b : MarketBid} :
    precedes policy a b ↔ rank policy a ≤ rank policy b := by
  have arrived : arrivedBefore a b = true ↔
      toLex (a.createdAt,a.idpk) ≤ toLex (b.createdAt,b.idpk) := by
    simp [arrivedBefore,Prod.Lex.toLex_le_toLex]
  cases policy <;> simp [precedes,rank,Prod.Lex.toLex_le_toLex,arrived,neg_inj]

instance (policy : Policy) : Std.Total fun a b => (precedes policy a b : Prop) where
  total a b := by
    rw [precedes_iff,precedes_iff]
    exact le_total _ _

instance (policy : Policy) : IsTrans MarketBid fun a b => precedes policy a b where
  trans _ _ _ hab hbc := precedes_iff.mpr ((precedes_iff.mp hab).trans (precedes_iff.mp hbc))

theorem ordered_pairwise (bids : List MarketBid) (policy : Policy) :
    (ordered bids policy).Pairwise fun a b => precedes policy a b :=
  List.pairwise_insertionSort _ bids

theorem ordered_perm (bids : List MarketBid) (policy : Policy) : (ordered bids policy).Perm bids :=
  List.perm_insertionSort _ bids

/-- However bids of distinct keys are read, they are ordered the same. -/
theorem ordered_congr {read bids : List MarketBid} {policy : Policy} (perm : read.Perm bids)
    (distinct : ∀ a ∈ bids, ∀ b ∈ bids, a.idpk = b.idpk → a = b) :
    ordered read policy = ordered bids policy := by
  refine List.Perm.eq_of_pairwise (fun a b ha hb hab hba => ?_) (ordered_pairwise read policy)
    (ordered_pairwise bids policy)
    ((ordered_perm read policy).trans (perm.trans (ordered_perm bids policy).symm))
  have same := le_antisymm (precedes_iff.mp hab) (precedes_iff.mp hba)
  have key : a.idpk = b.idpk := congrArg (fun r => (ofLex (ofLex r).2).2) same
  exact distinct a (perm.mem_iff.mp ((ordered_perm read policy).mem_iff.mp ha)) b
    ((ordered_perm bids policy).mem_iff.mp hb) key

theorem batch_ascending (bids : List MarketBid) :
    (ordered bids .batch).Pairwise fun a b => a.quantity ≤ b.quantity := by
  refine (ordered_pairwise bids .batch).imp fun {a b} before => ?_
  simp only [precedes,Bool.or_eq_true,Bool.and_eq_true,decide_eq_true_eq] at before
  omega

/-! ### What settling some bids leaves of the rest -/

/-- Every change is to a bid of `T`, its reservation, its swap or its answer. -/
structure Spares (T : MarketBid → Prop) (a b : Db) : Prop where
  bids : ∀ k, (∀ bid, T bid → bid.idpk ≠ k) → b.market.bids.get? k = a.market.bids.get? k
  reservations : ∀ k, (∀ bid, T bid → bid.idpk ≠ k) →
    b.market.reservations.get? k = a.market.reservations.get? k
  swaps : ∀ k, (∀ bid, T bid → bid.idpk ≠ k) → b.market.swaps.get? k = a.market.swaps.get? k
  pending : ∀ offerId, (∀ bid, T bid → bid.offerId ≠ offerId) →
    pending b.market offerId = pending a.market offerId
  held : ∀ offerId, (∀ bid, T bid → bid.offerId ≠ offerId) →
    heldKwh b.market offerId = heldKwh a.market offerId
  sent : ∀ row ∈ a.outbox, row ∈ b.outbox
  answers : ∀ row ∈ b.outbox, row ∈ a.outbox ∨
    ∃ bid, T bid ∧ row.targetMsgId = uuidText bid.msgId
  offers : b.market.offers = a.market.offers
  books : b.books = a.books
  calendar : b.calendar = a.calendar
  strategies : b.strategies = a.strategies

namespace Spares
variable {T T' : MarketBid → Prop} {a b c : Db}

theorem refl (T : MarketBid → Prop) (a : Db) : Spares T a a where
  bids _ _ := rfl
  reservations _ _ := rfl
  swaps _ _ := rfl
  pending _ _ := rfl
  held _ _ := rfl
  sent _ h := h
  answers _ h := .inl h
  offers := rfl
  books := rfl
  calendar := rfl
  strategies := rfl

theorem trans (h : Spares T a b) (k : Spares T b c) : Spares T a c where
  bids id free := (k.bids id free).trans (h.bids id free)
  reservations id free := (k.reservations id free).trans (h.reservations id free)
  swaps id free := (k.swaps id free).trans (h.swaps id free)
  pending id free := (k.pending id free).trans (h.pending id free)
  held id free := (k.held id free).trans (h.held id free)
  sent row hrow := k.sent row (h.sent row hrow)
  answers row hrow := (k.answers row hrow).elim (h.answers row) .inr
  offers := k.offers.trans h.offers
  books := k.books.trans h.books
  calendar := k.calendar.trans h.calendar
  strategies := k.strategies.trans h.strategies

theorem mono (h : Spares T a b) (sub : ∀ bid, T bid → T' bid) : Spares T' a b where
  bids id free := h.bids id fun bid hbid => free bid (sub bid hbid)
  reservations id free := h.reservations id fun bid hbid => free bid (sub bid hbid)
  swaps id free := h.swaps id fun bid hbid => free bid (sub bid hbid)
  pending id free := h.pending id fun bid hbid => free bid (sub bid hbid)
  held id free := h.held id fun bid hbid => free bid (sub bid hbid)
  sent := h.sent
  answers row hrow := (h.answers row hrow).imp_right fun ⟨bid,hbid,same⟩ => ⟨bid,sub bid hbid,same⟩
  offers := h.offers
  books := h.books
  calendar := h.calendar
  strategies := h.strategies

end Spares

/-- The waiting rows of another offer are not the one that was updated. -/
theorem pending_set {market done : Market} {bid next : MarketBid} {offerId : String}
    (set : done.bids = market.bids.set next) (stored : market.bids.get? next.idpk = some bid)
    (same : next.offerId = bid.offerId) (other : bid.offerId ≠ offerId) :
    pending done offerId = pending market offerId := by
  have elsewhere {b : MarketBid} (h : b.offerId = bid.offerId) : isPending offerId b = false := by
    unfold isPending
    rw [h,decide_eq_false other]
    rfl
  unfold pending
  rw [set,Table.filter_set stored (elsewhere same) (elsewhere rfl)]

theorem incomingBid?_stored {market : Market} {bid found : MarketBid}
    (stored : market.bids.get? bid.idpk = some bid)
    (h : incomingBid? market bid.idpk = some found) : found = bid := by
  obtain ⟨own,key,_⟩ := incomingBid?_spec h
  rw [key,stored] at own
  exact (Option.some.inj own).symm

theorem spares_reserve {bid : MarketBid} {outcome : Outcome}
    (stored : db.market.bids.get? bid.idpk = some bid)
    (h : reserveIncomingBid cfg db bid.idpk now = .ok (db',outcome)) : Spares (· = bid) db db' := by
  obtain ⟨found,named,result⟩ := reserveIncomingBid_cases h
  obtain rfl := incomingBid?_stored stored named
  have ne {k : String} (free : ∀ other, other = found → other.idpk ≠ k) : found.idpk ≠ k :=
    free found rfl
  rcases result with ⟨_,rfl⟩ | ⟨_,⟨reason,available,_,rejected⟩ | ⟨offer,free,free',_,_,rfl⟩⟩
  · exact .refl _ _
  · obtain ⟨outbox,answered,e⟩ := Fallible.bind_ok.mp rejected
    cases e
    obtain ⟨target,ht,sent⟩ := enqueueBidRejected_cases answered
    have spelled := rejectionTarget_spec ht
    refine ⟨?_,fun _ _ => rfl,fun _ _ => rfl,?_,fun _ _ => rfl,?_,?_,rfl,rfl,rfl,rfl⟩
    · intro k other
      exact Table.get?_set_ne _ (ne other)
    · intro offerId other
      exact pending_set rfl stored rfl (other found rfl)
    · intro r hr
      rcases sent with ⟨rfl,_⟩ | rfl
      · exact hr
      · exact Outbox.mem_enqueue.mpr (.inl hr)
    · intro r hr
      rcases sent with ⟨rfl,_⟩ | rfl
      · exact .inl hr
      · refine (Outbox.mem_enqueue.mp hr).imp_right ?_
        rintro rfl
        exact ⟨found,rfl,spelled.symm⟩
  · refine ⟨?_,?_,?_,?_,?_,fun _ hr => hr,fun _ hr => .inl hr,rfl,rfl,rfl,rfl⟩
    · intro k other
      exact Table.get?_set_ne _ (ne other)
    · intro k other
      exact (Table.get?_insert _ _ free k).trans (if_neg (ne other))
    · intro k other
      exact (Table.get?_insert _ _ free' k).trans (if_neg (ne other))
    · intro offerId other
      exact pending_set rfl stored rfl (other found rfl)
    · intro offerId other
      unfold heldKwh commitReservation
      dsimp only
      rw [Table.sum_insert,if_neg fun e => other found rfl e.1,add_zero]

/-- Bids of one read of the rows. -/
structure Read (bids : List MarketBid) (db : Db) : Prop where
  keys : (bids.map MarketBid.idpk).Nodup
  stored : ∀ bid ∈ bids, db.market.bids.get? bid.idpk = some bid

namespace Read
variable {bid : MarketBid} {bids : List MarketBid}

theorem other (h : Read (bid :: bids) db) : ∀ b ∈ bids, b.idpk ≠ bid.idpk := by
  intro b hb same
  have fresh := (List.nodup_cons.mp h.keys).1
  exact fresh (same ▸ List.mem_map_of_mem hb)

theorem tail (h : Read (bid :: bids) db) (spares : Spares (· = bid) db db') : Read bids db' where
  keys := (List.nodup_cons.mp h.keys).2
  stored b hb := by
    rw [spares.bids b.idpk fun t ht => ht ▸ (h.other b hb).symm]
    exact h.stored b (List.mem_cons_of_mem bid hb)

theorem eq_of_key (h : Read bids db) {a b : MarketBid} (ha : a ∈ bids) (hb : b ∈ bids)
    (same : a.idpk = b.idpk) : a = b := by
  have := h.stored a ha
  rw [same,h.stored b hb] at this
  exact (Option.some.inj this).symm

theorem perm (h : Read bids db) {read : List MarketBid} (p : read.Perm bids) : Read read db where
  keys := (p.map MarketBid.idpk).nodup_iff.mpr h.keys
  stored b hb := h.stored b (p.mem_iff.mp hb)

end Read

theorem mem_pending {market : Market} {offerId : String} {bid : MarketBid} :
    bid ∈ pending market offerId ↔ bid ∈ market.bids ∧ bid.offerId = offerId ∧
      bid.direction = .incoming ∧ bid.status = .pending := by
  unfold pending isPending
  rw [List.mem_insertionSort,List.mem_filter,Table.mem_rows]
  simp [and_assoc]

theorem read_pending (db : Db) (offerId : String) : Read (pending db.market offerId) db where
  keys := by
    have sorted := List.perm_insertionSort (fun a b : MarketBid => (a.createdAt ≤ b.createdAt : Prop))
      (db.market.bids.rows.filter (isPending offerId))
    refine ((sorted.map MarketBid.idpk).nodup_iff).mpr ?_
    exact db.market.bids.nodup.sublist (List.filter_sublist.map _)
  stored bid hbid := Table.get?_of_mem (mem_pending.mp hbid).1

theorem spares_reserveNext {s t : Db × Tally} {bid : MarketBid}
    (stored : s.1.market.bids.get? bid.idpk = some bid)
    (h : reserveNext cfg now s bid = .ok t) : Spares (· = bid) s.1 t.1 := by
  obtain ⟨⟨after,outcome⟩,reserved,h⟩ := Fallible.bind_ok.mp h
  cases h
  exact spares_reserve stored reserved

theorem spares_run {bids : List MarketBid} {s t : Db × Tally} (read : Read bids s.1)
    (h : bids.foldlM (reserveNext cfg now) s = .ok t) : Spares (· ∈ bids) s.1 t.1 := by
  induction bids generalizing s with
  | nil =>
    rw [List.foldlM_nil,Fallible.pure_ok] at h
    exact h ▸ .refl _ _
  | cons bid bids ih =>
    rw [List.foldlM_cons] at h
    obtain ⟨u,first,rest⟩ := Fallible.bind_ok.mp h
    have turn := spares_reserveNext (read.stored bid (List.mem_cons_self ..)) first
    exact (turn.mono fun b hb => hb ▸ List.mem_cons_self ..).trans
      ((ih (read.tail turn) rest).mono fun b hb => List.mem_cons_of_mem bid hb)

/-! ### One turn -/

/-- An active offer inside the bid window of an open market. -/
structure Selling (cfg : Config) (now : Instant) (db : Db) (offer : MarketOffer) : Prop where
  found : SellerOffers.localOffer? cfg db.market offer.offerId = some offer
  active : offer.status = .active
  bidding : biddingOpen (db.books.cycles.get? offer.cycleId) now = true
  trading : db.calendar.marketClosed offer.cycleId = false

/-- What the ingress checked of a bid before it stored it. -/
structure Validated (cfg : Config) (db : Db) (offer : MarketOffer) (bid : MarketBid) : Prop where
  cycleId : bid.cycleId = offer.cycleId
  buyer : bid.counterpartCityId ≠ cfg.cityId
  minBid : ∃ minBid, (db.books.cycles.get? offer.cycleId).bind minBid? = some minBid ∧
    minBid ≤ bid.quantity

/-- The answer to a bid that found `room` at its turn. -/
structure Answered (now : Instant) (offer : MarketOffer) (db : Db) (bid : MarketBid) (room : Int) :
    Prop where
  reserved : bid.quantity ≤ room →
    db.market.bids.get? bid.idpk = some (reservedBid bid offer.pricePerEnergy) ∧
    db.market.reservations.get? bid.idpk = some (hold bid) ∧
    db.market.swaps.get? bid.idpk = some (swapIntent bid offer.pricePerEnergy now)
  rejected : room < bid.quantity →
    db.market.bids.get? bid.idpk =
      some (rejectedBid bid .quantityUnavailable (some room) now) ∧
    ∃ row ∈ db.outbox, ∃ target, uuidText bid.msgId = some target ∧
      row.targetMsgId = some target ∧ row.cycleId = some bid.cycleId ∧
      row.routingKey = some ("city." ++ bid.counterpartCityId) ∧
      row.content =
        .bidRejected .quantityUnavailable target bid.offerId bid.quantity (some room)

theorem Answered.spares {offer : MarketOffer} {a b : Db} {bid : MarketBid} {room : Int}
    {T : MarketBid → Prop} (h : Answered now offer a bid room) (spares : Spares T a b)
    (other : ∀ t, T t → t.idpk ≠ bid.idpk) : Answered now offer b bid room where
  reserved fits := by
    rw [spares.bids _ other,spares.reservations _ other,spares.swaps _ other]
    exact h.reserved fits
  rejected large := by
    rw [spares.bids _ other]
    obtain ⟨row,r,hr,answer⟩ := h.rejected large
    exact ⟨row,r,spares.sent r hr,answer⟩

theorem Answered.status {offer : MarketOffer} {bid : MarketBid} {room : Int}
    (h : Answered now offer db bid room) :
    ∃ next, db.market.bids.get? bid.idpk = some next ∧
      next.status = if bid.quantity ≤ room then .reserved else .rejected := by
  by_cases fits : bid.quantity ≤ room
  · rw [if_pos fits]
    exact ⟨_,(h.reserved fits).1,rfl⟩
  · rw [if_neg fits]
    exact ⟨_,(h.rejected (not_le.mp fits)).1,rfl⟩

section Turn
variable {offer : MarketOffer} {bid : MarketBid}

theorem Selling.spares {T : MarketBid → Prop} {a b : Db} (h : Selling cfg now a offer)
    (spares : Spares T a b) : Selling cfg now b offer where
  found := by
    unfold SellerOffers.localOffer?
    rw [spares.offers]
    exact h.found
  active := h.active
  bidding := by
    rw [spares.books]
    exact h.bidding
  trading := by
    rw [spares.calendar]
    exact h.trading

theorem Validated.spares {T : MarketBid → Prop} {a b : Db} (h : Validated cfg a offer bid)
    (spares : Spares T a b) : Validated cfg b offer bid where
  cycleId := h.cycleId
  buyer := h.buyer
  minBid := by
    rw [spares.books]
    exact h.minBid

theorem Selling.offerOf? (h : Selling cfg now db offer) (named : bid.offerId = offer.offerId)
    (valid : Validated cfg db offer bid) :
    SellerBids.offerOf? cfg db.market bid.offerId bid.cycleId = some offer := by
  unfold SellerBids.offerOf?
  rw [named,h.found,Option.filter_some,valid.cycleId,decide_eq_true rfl]
  rfl

/-- A validated bid is refused for its quantity only. -/
theorem refusal_validated (h : Selling cfg now db offer) (valid : Validated cfg db offer bid) :
    refusal cfg db bid (some offer) now =
      if availableKwh db.market offer < bid.quantity then
        some (.quantityUnavailable,some (availableKwh db.market offer))
      else none := by
  obtain ⟨minBid,known,enough⟩ := valid.minBid
  unfold refusal
  dsimp only
  rw [valid.cycleId,h.bidding,h.trading,known]
  dsimp only
  rw [if_neg (by decide),if_neg (not_not.mpr h.active),if_neg valid.buyer,if_neg (not_lt.mpr enough)]

/-- The answer to a refused bid is stored beside the refusal. -/
theorem reject_spec {reason : RejectionReason} {available : Option Int}
    (stored : db.market.bids.get? bid.idpk = some bid)
    (h : reject cfg db bid reason available now = .ok db') :
    (∃ outbox, db' = { db with
        market := { db.market with
          bids := db.market.bids.set (rejectedBid bid reason available now) }
        outbox := outbox }) ∧
      db'.market.bids.get? bid.idpk = some (rejectedBid bid reason available now) ∧
      ∃ row ∈ db'.outbox, ∃ target, uuidText bid.msgId = some target ∧
        row.targetMsgId = some target ∧ row.cycleId = some bid.cycleId ∧
        row.routingKey = some ("city." ++ bid.counterpartCityId) ∧
        row.content = .bidRejected reason target bid.offerId bid.quantity available := by
  obtain ⟨outbox,answered,e⟩ := Fallible.bind_ok.mp h
  cases e
  refine ⟨⟨outbox,rfl⟩,?_,?_⟩
  · exact Table.get?_set_self (a := rejectedBid bid reason available now) stored
  · obtain ⟨target,ht,sent⟩ := enqueueBidRejected_cases answered
    have spelled := rejectionTarget_spec ht
    rcases sent with ⟨rfl,row,hrow,answers,same⟩ | rfl
    · unfold sameRejection at same
      rw [decide_eq_true_eq] at same
      exact ⟨row,hrow,target,spelled,answers,same.2.2,same.2.1,same.1⟩
    · refine ⟨_,Outbox.mem_enqueue.mpr (.inr rfl),target,spelled,?_⟩
      exact ⟨rfl,rfl,rfl,rfl⟩

theorem available_hold (named : bid.offerId = offer.offerId)
    (fits : bid.quantity ≤ availableKwh db.market offer) (positive : 0 < bid.quantity) {price : ℚ}
    (free : db.market.reservations.get? (hold bid).bidIdpk = none)
    (free' : db.market.swaps.get? (swapIntent bid price now).idpk = none) :
    availableKwh (commitReservation db.market bid price now free free') offer =
      availableKwh db.market offer - bid.quantity := by
  have held : heldKwh (commitReservation db.market bid price now free free') offer.offerId =
      heldKwh db.market offer.offerId + bid.quantity := by
    unfold heldKwh commitReservation
    dsimp only
    rw [Table.sum_insert,if_pos ⟨named,rfl⟩]
    rfl
  unfold availableKwh at fits ⊢
  rw [held]
  omega

theorem answered_turn (selling : Selling cfg now db offer) (valid : Validated cfg db offer bid)
    (waiting : bid ∈ pending db.market offer.offerId) {outcome : Outcome}
    (h : reserveIncomingBid cfg db bid.idpk now = .ok (db',outcome)) :
    Answered now offer db' bid (availableKwh db.market offer) ∧
      availableKwh db'.market offer =
        Greedy.left MarketBid.quantity (availableKwh db.market offer) bid := by
  obtain ⟨mem,named,incoming,status⟩ := mem_pending.mp waiting
  have stored := Table.get?_of_mem mem
  obtain ⟨found,own,result⟩ := reserveIncomingBid_cases h
  obtain rfl := incomingBid?_stored stored own
  unfold Greedy.left
  rcases result with ⟨settled,_⟩ | ⟨_,refused | reserved⟩
  · exact absurd status settled
  · obtain ⟨reason,available,refused,rejected⟩ := refused
    rw [selling.offerOf? named valid,refusal_validated selling valid] at refused
    split at refused
    · rename_i large
      cases refused
      obtain ⟨⟨outbox,rfl⟩,row,answer⟩ := reject_spec stored rejected
      rw [if_neg (not_le.mpr large)]
      exact ⟨⟨fun fits => absurd fits (not_le.mpr large),fun _ => ⟨row,answer⟩⟩,rfl⟩
    · cases refused
  · obtain ⟨seller,free,free',sold,admitted,rfl⟩ := reserved
    rw [selling.offerOf? named valid] at sold
    cases sold
    obtain ⟨positive,fits⟩ := refusal_none admitted
    rw [if_pos fits]
    refine ⟨⟨fun _ => ⟨?_,?_,?_⟩,fun large => absurd fits (not_le.mpr large)⟩,
      available_hold named fits positive free free'⟩
    · exact Table.get?_set_self (a := reservedBid found offer.pricePerEnergy) stored
    · exact (Table.get?_insert _ (hold found) free _).trans (if_pos rfl)
    · exact (Table.get?_insert _ (swapIntent found offer.pricePerEnergy now) free' _).trans
        (if_pos rfl)

end Turn

/-! ### The turns of an offer -/

section Run
variable {offer : MarketOffer}

/-- Validated bids of an active offer, still waiting for their turn. -/
structure Queue (cfg : Config) (now : Instant) (offer : MarketOffer) (bids : List MarketBid)
    (s : Db × Tally) : Prop where
  selling : Selling cfg now s.1 offer
  keys : (bids.map MarketBid.idpk).Nodup
  validated : ∀ bid ∈ bids, Validated cfg s.1 offer bid
  waiting : ∀ bid ∈ bids, bid ∈ pending s.1.market offer.offerId

namespace Queue
variable {bid : MarketBid} {bids : List MarketBid} {s t : Db × Tally}

theorem read (h : Queue cfg now offer bids s) : Read bids s.1 where
  keys := h.keys
  stored b hb := Table.get?_of_mem (mem_pending.mp (h.waiting b hb)).1

theorem tail (h : Queue cfg now offer (bid :: bids) s) (spares : Spares (· = bid) s.1 t.1) :
    Queue cfg now offer bids t where
  selling := h.selling.spares spares
  keys := (List.nodup_cons.mp h.keys).2
  validated b hb := (h.validated b (List.mem_cons_of_mem bid hb)).spares spares
  waiting b hb := by
    have stored := (h.read.tail spares).stored b hb
    have waiting := mem_pending.mp (h.waiting b (List.mem_cons_of_mem bid hb))
    exact mem_pending.mpr ⟨Table.mem_of_get? stored,waiting.2⟩

end Queue

/-- A bid that had its turn waits no more. -/
theorem Answered.other {s : Db} {bid earlier : MarketBid} {room : Int}
    (waiting : bid ∈ pending s.market offer.offerId)
    (h : Answered now offer s earlier room) : bid.idpk ≠ earlier.idpk := by
  intro same
  obtain ⟨mem,_,_,status⟩ := mem_pending.mp waiting
  obtain ⟨next,stored,settled⟩ := h.status
  rw [← same,Table.get?_of_mem mem,Option.some.injEq] at stored
  rw [← stored,status] at settled
  split at settled <;> cases settled

theorem answered_run {bids : List MarketBid} {s t : Db × Tally} (queue : Queue cfg now offer bids s)
    (h : bids.foldlM (reserveNext cfg now) s = .ok t) :
    ∀ turn ∈ Greedy.turns MarketBid.quantity (availableKwh s.1.market offer) bids,
      Answered now offer t.1 turn.1 turn.2 := by
  refine (Greedy.foldlM_turns (fun s => availableKwh s.1.market offer)
    (fun turn s => Answered now offer s.1 turn.1 turn.2) (Queue cfg now offer)
    (reserveNext cfg now) ?_ ?_ queue h).2
  · intro s t bid bids queue h
    have spares := spares_reserveNext (queue.read.stored bid (List.mem_cons_self ..)) h
    obtain ⟨⟨after,outcome⟩,reserved,e⟩ := Fallible.bind_ok.mp h
    cases e
    exact ⟨queue.tail spares,answered_turn queue.selling
      (queue.validated bid (List.mem_cons_self ..)) (queue.waiting bid (List.mem_cons_self ..))
      reserved⟩
  · intro s t bid bids earlier room queue h answered
    have spares := spares_reserveNext (queue.read.stored bid (List.mem_cons_self ..)) h
    refine answered.spares spares fun b hb => ?_
    rw [hb]
    exact answered.other (queue.waiting bid (List.mem_cons_self ..))

end Run

end SellerBids

end EnergyNode
