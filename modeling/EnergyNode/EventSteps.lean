import EnergyNode.Lib.Fallible
import EnergyNode.Moves

/-! Wallet events as moves: what an event leaves of the record it finds, and of
the reservation and the offer behind it. -/
namespace EnergyNode
open Lib

variable {cfg : Config} {P : Market → Cause → Prop}

namespace SellerOffers

theorem talk_broadcast (calendar : Calendar) (outbox : Outbox) (offer : MarketOffer)
    (content : Content) (now : Instant) (h : content.commercial = false) :
    (broadcast cfg calendar outbox offer content now).talk = outbox.talk :=
  Outbox.talk_enqueue_other _ _ _ h

theorem talk_enqueueConfirmedOfferUpdate (calendar : Calendar) (outbox : Outbox)
    (offer : MarketOffer) (now : Instant) :
    (enqueueConfirmedOfferUpdate cfg calendar outbox offer now).talk = outbox.talk := by
  unfold enqueueConfirmedOfferUpdate
  split
  · rfl
  · exact talk_broadcast _ _ _ _ _ rfl

end SellerOffers

theorem SameDeal.get? {swaps : Table SwapRecord.idpk} {r s : SwapRecord}
    (h : swaps.get? r.idpk = some r) (k : SameDeal r s) : swaps.get? s.idpk = some r := by
  rw [k.idpk]
  exact h

namespace WalletEvents

theorem market_updateOfferAndReservation (db : Db) (offerId bidIdpk : String) (action : Action)
    (now : Instant) : (updateOfferAndReservation cfg db offerId bidIdpk action now).market =
      db.market.movedOn offerId bidIdpk action := by
  unfold updateOfferAndReservation Market.movedOn Market.sellFrom
  cases heldReservation? db.market offerId bidIdpk with
  | none => rfl
  | some r =>
    cases action with
    | release => rfl
    | commit => cases db.market.offers.get? offerId <;> rfl

theorem talk_updateOfferAndReservation (db : Db) (offerId bidIdpk : String) (action : Action)
    (now : Instant) : (updateOfferAndReservation cfg db offerId bidIdpk action now).outbox.talk =
      db.outbox.talk := by
  unfold updateOfferAndReservation
  cases heldReservation? db.market offerId bidIdpk with
  | none => rfl
  | some r =>
    cases action with
    | release => rfl
    | commit =>
      cases db.market.offers.get? offerId with
      | none => rfl
      | some offer => exact SellerOffers.talk_enqueueConfirmedOfferUpdate _ _ _ _

theorem market_moveReservation (db : Db) (r : SwapRecord) (action : Action) (now : Instant) :
    (moveReservation cfg db r action now).market = db.market.moved r action := by
  unfold moveReservation Market.moved
  cases r.memo with
  | none => rfl
  | some offerId =>
    by_cases h : offerId = ""
    · simp only [if_pos h]
    · simp only [if_neg h]
      exact market_updateOfferAndReservation _ _ _ _ _

theorem talk_moveReservation (db : Db) (r : SwapRecord) (action : Action) (now : Instant) :
    (moveReservation cfg db r action now).outbox.talk = db.outbox.talk := by
  unfold moveReservation
  cases r.memo with
  | none => rfl
  | some offerId =>
    by_cases h : offerId = ""
    · simp only [if_pos h]
    · simp only [if_neg h]
      exact talk_updateOfferAndReservation _ _ _ _ _

/-- Only the key, the memo and the role of the record matter to its reservation. -/
theorem moved_congr (m : Market) {r s : SwapRecord} (h : SameDeal r s) (action : Action) :
    m.moved s action = m.moved r action := by
  unfold Market.moved
  rw [h.memo,h.idpk]

theorem sameDeal_learn (r : SwapRecord) (type : EventType) (swapId : Option String)
    (data : Fields) : SameDeal r (learn r type swapId data) :=
  ⟨rfl,rfl,rfl,rfl,rfl,rfl,rfl,rfl,rfl,rfl,rfl,rfl⟩

theorem correlate_known {swaps : Table SwapRecord.idpk} {data : Fields} {id : String} {r : SwapRecord}
    (named : eventSwapId data = .ok (some id)) (known : withSwapId? swaps id = some r) :
    correlate swaps data = .ok (some r) := by
  have found : (some id).bind (withSwapId? swaps) = some r := known
  unfold correlate
  rw [named]
  simp only [Except.bind,bind]
  rw [found]
  rfl

theorem correlate_mem {swaps : Table SwapRecord.idpk} {data : Fields} {r : SwapRecord}
    (h : correlate swaps data = .ok (some r)) : r ∈ swaps := by
  unfold correlate at h
  obtain ⟨swapId,_,h⟩ := Fallible.bind_ok.mp h
  split at h
  · rename_i found hw
    rw [Fallible.pure_ok,Option.some.injEq] at h
    subst h
    obtain ⟨id,_,hid⟩ := Option.bind_eq_some_iff.mp hw
    exact List.mem_of_find?_eq_some hid
  · obtain ⟨key,_,h⟩ := Fallible.bind_ok.mp h
    split at h
    · rename_i key
      simp only [Fallible.pure_ok,HOrElse.hOrElse,OrElse.orElse,Option.orElse_eq_or,
        Option.or_eq_some_iff] at h
      rcases h with h | ⟨_,h | ⟨_,h⟩⟩
      · exact Table.mem_of_get? h
      · exact List.mem_of_find?_eq_some h
      · exact List.mem_of_find?_eq_some h
    · rw [Fallible.pure_ok] at h
      cases h

theorem get?_correlated {swaps : Table SwapRecord.idpk} {data : Fields} {r : SwapRecord}
    (h : correlate swaps data = .ok (some r)) : swaps.get? r.idpk = some r :=
  Table.get?_of_mem (correlate_mem h)

/-- What an event leaves of the record it finds. -/
inductive Processed (db db' : Db) (type : EventType) (data : Fields) :
    Option SwapRecord → Prop where
  | unknown : correlate db.market.swaps data = .ok none → db'.desk = db.desk →
      Processed db db' type data none
  | revised (r s : SwapRecord) : correlate db.market.swaps data = .ok (some r) →
      r.status.terminal = true → SameDeal r s → s.swapId = r.swapId → SameProposal r s →
      s.status = (if type = .settled then .settled else r.status) → SameLease r s →
      db'.desk = ⟨db.market.setSwap s,db.outbox.talk⟩ → Processed db db' type data (some s)
  | moved (r s : SwapRecord) (swapId : Option String) :
      correlate db.market.swaps data = .ok (some r) →
      r.status.terminal = false → eventSwapId data = .ok swapId → SameDeal r s →
      s.status = type.status → s.swapId = (learn r type swapId data).swapId →
      SameProposal r s → SameLease r s →
      db'.desk = ⟨(db.market.carried r type).setSwap s,db.outbox.talk⟩ →
      Processed db db' type data (some s)

theorem repaired_spec {r s : SwapRecord} {type : EventType} {rejection : Json}
    (h : repaired r type rejection = .ok s) : ∃ reason, s = { r with rejectionReason := reason } := by
  unfold repaired at h
  split at h
  · obtain ⟨reason,_,rfl⟩ := Fallible.map_ok.mp h
    exact ⟨reason,rfl⟩
  · cases h
    exact ⟨r.rejectionReason,rfl⟩

theorem processTerminal_spec {db db' : Db} {r s : SwapRecord} {type : EventType}
    {rejection : Json} {now : Instant}
    (h : processTerminal cfg db r type rejection now = .ok (db',s)) :
    SameDeal r s ∧ s.swapId = r.swapId ∧ SameProposal r s ∧ SameLease r s ∧
      s.status = (if type = .settled then .settled else r.status) ∧
      db'.desk = ⟨db.market.setSwap s,db.outbox.talk⟩ := by
  unfold processTerminal at h
  obtain ⟨_,hr,h⟩ := Fallible.bind_ok.mp h
  obtain ⟨reason,rfl⟩ := repaired_spec hr
  split at h
  · rename_i settles
    obtain ⟨books,_,h⟩ := Fallible.bind_ok.mp h
    obtain ⟨rfl,rfl⟩ := Prod.mk.injEq .. ▸ Fallible.pure_ok.mp h
    refine ⟨⟨rfl,rfl,rfl,rfl,rfl,rfl,rfl,rfl,rfl,rfl,rfl,rfl⟩,rfl,⟨rfl,rfl⟩,⟨rfl,rfl,rfl⟩,?_,rfl⟩
    rw [if_pos settles.1]
  · rename_i stays
    obtain ⟨rfl,rfl⟩ := Prod.mk.injEq .. ▸ Fallible.pure_ok.mp h
    refine ⟨⟨rfl,rfl,rfl,rfl,rfl,rfl,rfl,rfl,rfl,rfl,rfl,rfl⟩,rfl,⟨rfl,rfl⟩,⟨rfl,rfl,rfl⟩,?_,rfl⟩
    by_cases ht : type = .settled
    · rw [if_pos ht]
      by_contra hs
      exact stays ⟨ht,hs⟩
    · rw [if_neg ht]

theorem transition_spec {db db' : Db} {r s : SwapRecord} {type : EventType} {data : Fields}
    {rejection : Json} {now : Instant}
    (h : transition cfg db r type data rejection now = .ok (db',s)) :
    SameDeal r s ∧ s.swapId = r.swapId ∧ SameProposal r s ∧ SameLease r s ∧
      s.status = type.status ∧ db'.desk = ⟨db.market.carried r type,db.outbox.talk⟩ := by
  have deal : SameDeal r r := SameDeal.refl r
  unfold transition at h
  cases type with
  | proposed =>
    cases h
    exact ⟨⟨rfl,rfl,rfl,rfl,rfl,rfl,rfl,rfl,rfl,rfl,rfl,rfl⟩,rfl,⟨rfl,rfl⟩,⟨rfl,rfl,rfl⟩,rfl,rfl⟩
  | settled =>
    obtain ⟨books,_,h⟩ := Fallible.bind_ok.mp h
    obtain ⟨rfl,rfl⟩ := Prod.mk.injEq .. ▸ Fallible.pure_ok.mp h
    refine ⟨⟨rfl,rfl,rfl,rfl,rfl,rfl,rfl,rfl,rfl,rfl,rfl,rfl⟩,rfl,⟨rfl,rfl⟩,⟨rfl,rfl,rfl⟩,rfl,?_⟩
    rw [Db.desk,market_moveReservation,talk_moveReservation]
    rfl
  | rejected =>
    obtain ⟨reason,_,h⟩ := Fallible.bind_ok.mp h
    obtain ⟨rfl,rfl⟩ := Prod.mk.injEq .. ▸ Fallible.pure_ok.mp h
    refine ⟨⟨rfl,rfl,rfl,rfl,rfl,rfl,rfl,rfl,rfl,rfl,rfl,rfl⟩,rfl,⟨rfl,rfl⟩,⟨rfl,rfl,rfl⟩,rfl,?_⟩
    rw [Db.desk,market_moveReservation,talk_moveReservation]
    rfl
  | expired =>
    cases h
    refine ⟨⟨rfl,rfl,rfl,rfl,rfl,rfl,rfl,rfl,rfl,rfl,rfl,rfl⟩,rfl,⟨rfl,rfl⟩,⟨rfl,rfl,rfl⟩,rfl,?_⟩
    rw [Db.desk,market_moveReservation,talk_moveReservation]
    rfl
  | cancelled =>
    cases h
    refine ⟨⟨rfl,rfl,rfl,rfl,rfl,rfl,rfl,rfl,rfl,rfl,rfl,rfl⟩,rfl,⟨rfl,rfl⟩,⟨rfl,rfl,rfl⟩,rfl,?_⟩
    rw [Db.desk,market_moveReservation,talk_moveReservation]
    rfl

theorem carried_congr (m : Market) {r s : SwapRecord} (h : SameDeal r s) (type : EventType) :
    m.carried s type = m.carried r type := by
  unfold Market.carried
  cases type with
  | proposed => rfl
  | settled => exact moved_congr m h _
  | rejected => exact moved_congr m h _
  | expired => exact moved_congr m h _
  | cancelled => exact moved_congr m h _

theorem processSwapEvent_spec {db db' : Db} {type : EventType} {data : Fields} {rejection : Json}
    {now : Instant} {out : Option SwapRecord}
    (h : processSwapEvent cfg db type data rejection now = .ok (db',out)) :
    Processed db db' type data out := by
  unfold processSwapEvent at h
  obtain ⟨found,hfound,h⟩ := Fallible.bind_ok.mp h
  cases found with
  | none =>
    obtain ⟨rfl,rfl⟩ := Prod.mk.injEq .. ▸ Fallible.pure_ok.mp h
    exact .unknown hfound rfl
  | some r =>
    cases hr : r.status.terminal with
    | true =>
      simp only [hr,if_true] at h
      obtain ⟨⟨db₁,s⟩,hs,h⟩ := Fallible.bind_ok.mp h
      obtain ⟨rfl,rfl⟩ := Prod.mk.injEq .. ▸ Fallible.pure_ok.mp h
      obtain ⟨deal,id,proposal,lease,status,desk⟩ := processTerminal_spec hs
      exact .revised r s hfound hr deal id proposal status lease desk
    | false =>
      simp only [hr,Bool.false_eq_true,if_false] at h
      obtain ⟨swapId,hid,h⟩ := Fallible.bind_ok.mp h
      obtain ⟨⟨db₁,s⟩,hs,h⟩ := Fallible.bind_ok.mp h
      obtain ⟨taken,_,h⟩ := Fallible.bind_ok.mp h
      obtain ⟨rfl,rfl⟩ := Prod.mk.injEq .. ▸ Fallible.pure_ok.mp h
      obtain ⟨deal,id,proposal,lease,status,desk⟩ := transition_spec hs
      have learned := sameDeal_learn r type swapId data
      refine .moved r s swapId hfound hr hid (learned.trans deal) status id ⟨proposal.attempts,proposal.expiresAt⟩
        ⟨lease.claimToken,lease.proposal,lease.accept⟩ ?_
      rw [carried_congr _ learned] at desk
      have hm : db₁.market = db.market.carried r type := congrArg Desk.market desk
      have ht : db₁.outbox.talk = db.outbox.talk := congrArg Desk.talk desk
      simp only [storeRecord,Db.desk,hm,ht]
      rfl

theorem get?_setSwap {m : Market} {r s : SwapRecord} (h : m.swaps.get? r.idpk = some r)
    (k : SameDeal r s) : (m.setSwap s).swaps.get? s.idpk = some s :=
  Table.get?_set_self (SameDeal.get? h k)

@[simp] theorem swaps_movedOn (m : Market) (offerId bidIdpk : String) (action : Action) :
    (m.movedOn offerId bidIdpk action).swaps = m.swaps := by
  unfold Market.movedOn
  split
  · rfl
  · cases action <;> rfl

@[simp] theorem swaps_moved (m : Market) (r : SwapRecord) (action : Action) :
    (m.moved r action).swaps = m.swaps := by
  unfold Market.moved
  split
  · rfl
  · split
    · rfl
    · exact swaps_movedOn _ _ _ _

@[simp] theorem swaps_carried (m : Market) (r : SwapRecord) (type : EventType) :
    (m.carried r type).swaps = m.swaps := by
  unfold Market.carried
  cases type with
  | proposed => rfl
  | settled => exact swaps_moved _ _ _
  | rejected => exact swaps_moved _ _ _
  | expired => exact swaps_moved _ _ _
  | cancelled => exact swaps_moved _ _ _

/-- The record an event returns is the stored one. -/
theorem Processed.get? {db db' : Db} {type : EventType} {data : Fields} {s : SwapRecord}
    (h : Processed db db' type data (some s)) : db'.market.swaps.get? s.idpk = some s := by
  cases h with
  | revised r _ found _ deal _ _ _ _ desk =>
    rw [show db'.market = db.market.setSwap s from congrArg Desk.market desk]
    exact get?_setSwap (get?_correlated found) deal
  | moved r _ swapId found _ _ deal _ _ _ _ desk =>
    rw [show db'.market = (db.market.carried r type).setSwap s from congrArg Desk.market desk]
    refine get?_setSwap ?_ deal
    rw [swaps_carried]
    exact get?_correlated found

theorem processed_moves {db db' : Db} {type : EventType} {data : Fields} {rejection : Json}
    {out : Option SwapRecord} (h : Processed db db' type data out)
    (hP : P db.market (.event type data rejection)) : Moves cfg P db.desk db'.desk := by
  cases h with
  | unknown _ desk => rw [desk]
  | revised r s found terminal deal id proposal status lease desk =>
    rw [desk]
    exact .single
      (.revised r s type data rejection hP found terminal deal id proposal status lease)
  | moved r s swapId found live hid deal status id proposal lease desk =>
    rw [desk]
    exact .single
      (.event r s type data rejection swapId hP found live hid deal status id proposal lease)

end WalletEvents

theorem kept_move {db : Db} {r s : SwapRecord} (h : db.market.swaps.get? r.idpk = some r)
    (deal : SameDeal r s) (id : s.swapId = r.swapId)
    (proposal : SameProposal r s)
    (status : s.status = r.status ∨ r.status.terminal = false ∧
      (r.role = .proposer ∧ s.status = .proposed ∨
        r.role = .acceptor ∧ s.status = .acceptSubmitted))
    (work : r.role = .acceptor → SwapAccept.unanswered r →
      SwapAccept.unanswered s ∨ P db.market (.confirmation r.idpk))
    (lease : SameLease r s ∨ P db.market .dispatch) :
    Moves cfg P db.desk (WalletEvents.storeRecord db s).desk :=
  .single (.kept r s h deal status (.inl id) proposal work lease)

end EnergyNode
