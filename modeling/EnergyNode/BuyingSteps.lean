import EnergyNode.SellerSteps

/-! Purchases, the publication of the outbox and the market feed as moves. -/
namespace EnergyNode
open Lib

variable {cfg : Config} {P : Market → Cause → Prop}

namespace Buying

theorem talk_enqueueAs (outbox : Outbox) (idpk : String) (draft : Draft)
    (h : draft.content.commercial = true) :
    (enqueueAs cfg outbox idpk draft).talk = outbox.talk ++
      [⟨cfg.uuid4 (outbox.ids ++ [idpk]),idpk,draft.content,draft.targetMsgId,draft.cycleId⟩] := by
  unfold enqueueAs
  rw [Outbox.talk_insert,if_pos h]
  rfl

theorem place_moves {db db' : Db} {order : Order} {o : BookOffer} {w : Window}
    {offers : Table MarketOffer.offerId} {now : Instant}
    (positive : 0 < order.quantity) (h : place cfg db order o w offers now = some db') :
    Moves cfg P ⟨{ db.market with offers := offers },db.outbox.talk⟩ db'.desk := by
  unfold place at h
  obtain ⟨bids,hb,rfl⟩ := Option.map_eq_some_iff.mp h
  obtain ⟨free,rfl⟩ := Table.insert?_eq_some.mp hb
  unfold Db.desk
  dsimp only
  rw [talk_enqueueAs _ _ _ rfl]
  exact .single (.placed (m := { db.market with offers := offers }) _ free _ rfl rfl rfl positive)

theorem referenced?_moves {db : Db} {o : BookOffer} {offers : Table MarketOffer.offerId}
    (h : referenced? db.market o = some offers) :
    Moves cfg P db.desk ⟨{ db.market with offers := offers },db.outbox.talk⟩ := by
  unfold referenced? at h
  split at h
  · obtain ⟨free,rfl⟩ := Table.insert?_eq_some.mp h
    exact .single (.referenced (reference o) free rfl)
  · split at h
    · cases h
      exact .refl
    · cases h

theorem enqueueBuyBid_moves (db : Db) (order : Order) (now : Instant) :
    Moves cfg P db.desk (enqueueBuyBid cfg db order now).1.desk := by
  unfold enqueueBuyBid
  split
  · exact .refl
  rename_i positive
  split
  · split <;> exact .refl
  split
  · exact .refl
  split
  · exact .refl
  rename_i offers hoffers
  split
  · rename_i placed hplaced
    exact (referenced?_moves hoffers).trans (place_moves (by omega) hplaced)
  · exact .refl

/-- Every row of the list is still in the outbox, up to its dispatch. -/
def Listed (outbox : Outbox) (rows : List OutboundMessage) : Prop :=
  ∀ row ∈ rows, ∃ stored, outbox.get? row.msgId = some stored ∧ stored.talk = row.talk

theorem listed_set {outbox : Outbox} {rows : List OutboundMessage} {row : OutboundMessage}
    (h : Listed outbox rows) (hr : ∀ old, outbox.get? row.msgId = some old → old.talk = row.talk) :
    Listed (outbox.set row) rows := by
  intro other hother
  obtain ⟨stored,hs,ht⟩ := h other hother
  by_cases hk : row.msgId = other.msgId
  · refine ⟨row,?_,?_⟩
    · rw [← hk] at hs ⊢
      exact Table.get?_set_self hs
    · rw [← ht]
      exact (hr stored (hk ▸ hs)).symm
  · exact ⟨stored,by rw [Table.get?_set_ne _ hk,hs],ht⟩

theorem listed_enqueueAs {outbox : Outbox} {rows : List OutboundMessage} (idpk : String)
    (draft : Draft) (h : Listed outbox rows) :
    Listed (enqueueAs cfg outbox idpk draft) rows := by
  intro row hrow
  obtain ⟨stored,hs,ht⟩ := h row hrow
  refine ⟨stored,?_,ht⟩
  unfold enqueueAs
  rw [Table.get?_insert,if_neg]
  · exact hs
  · intro hk
    have free := Outbox.get?_fresh cfg outbox [idpk]
    rw [show cfg.uuid4 (outbox.ids ++ [idpk]) = row.msgId from hk,hs] at free
    cases free

theorem renewOne_moves {db : Db} {row : OutboundMessage} {rows : List OutboundMessage}
    {now : Instant} (hr : renewable row) (h : Listed db.outbox (row :: rows)) :
    Moves cfg P db.desk (renewOne cfg now db row).desk ∧
      Listed (renewOne cfg now db row).outbox rows := by
  have bidRow : row.content.type = .bid := by
    unfold renewable at hr
    simp only [Bool.and_eq_true,decide_eq_true_eq] at hr
    exact hr.1.1
  have rest : Listed db.outbox rows := fun other hother => h other (List.mem_cons_of_mem _ hother)
  obtain ⟨stored,hs,ht⟩ := h row (List.mem_cons_self ..)
  have same : ∀ next : OutboundMessage, next.talk = row.talk →
      ∀ old, db.outbox.get? next.msgId = some old → old.talk = next.talk := by
    intro next hnext old hold
    have key : next.msgId = row.msgId := congrArg Talk.msgId hnext
    rw [key,hs] at hold
    cases hold
    rw [ht,hnext]
  unfold renewOne
  dsimp only
  split
  · refine ⟨?_,listed_set rest (same _ rfl)⟩
    unfold Db.desk
    dsimp only
    rw [Outbox.talk_set]
    exact same row rfl
  split
  · refine ⟨?_,listed_set rest (same _ rfl)⟩
    unfold Db.desk
    dsimp only
    rw [Outbox.talk_set]
    exact same row rfl
  · rename_i b hb
    obtain ⟨hget,hguard⟩ := Option.filter_eq_some_iff.mp hb
    simp only [Bool.and_eq_true,decide_eq_true_eq] at hguard
    have key := Table.key_of_get? hget
    refine ⟨?_,listed_enqueueAs _ _ (listed_set rest (same _ rfl))⟩
    unfold Db.desk
    dsimp only
    rw [talk_enqueueAs,Outbox.talk_set]
    · exact .single (.renewed b _ _ (key ▸ hget) hguard.1.1 bidRow)
    · exact same row rfl
    · exact commercial_of_type (.inr (.inr bidRow))

theorem renewFailed_moves (db : Db) (now : Instant) :
    Moves cfg P db.desk (renewFailed cfg db now).desk := by
  unfold renewFailed
  have listed : Listed db.outbox (db.outbox.rows.filter renewable) := by
    intro row hrow
    exact ⟨row,Table.get?_of_mem (List.mem_filter.mp hrow).1,rfl⟩
  have all : ∀ row ∈ db.outbox.rows.filter renewable, renewable row :=
    fun row hrow => (List.mem_filter.mp hrow).2
  revert listed all
  generalize db.outbox.rows.filter renewable = rows
  intro listed all
  induction rows generalizing db with
  | nil => exact .refl
  | cons row rows ih =>
    obtain ⟨first,rest⟩ := renewOne_moves (P := P) (all row (List.mem_cons_self ..)) listed
    exact first.trans (ih _ rest fun r hr => all r (List.mem_cons_of_mem _ hr))

/-- A row that only changes its dispatch leaves the talk as it was. -/
theorem talk_redispatched {outbox : Outbox} {msgId : String} {row next : OutboundMessage}
    (h : outbox.get? msgId = some row) (same : next.talk = row.talk) :
    Outbox.talk (outbox.set next) = outbox.talk := by
  refine Outbox.talk_set _ _ ?_
  intro old hold
  have key : next.msgId = row.msgId := congrArg Talk.msgId same
  rw [key,Table.key_of_get? h,h] at hold
  cases hold
  exact same.symm

theorem talk_markPublished (outbox : Outbox) (msgId : String) :
    (markPublished outbox msgId).talk = outbox.talk := by
  unfold markPublished
  split
  · rfl
  · rename_i row hrow
    dsimp only
    split <;> exact talk_redispatched hrow rfl

theorem talk_markFailed (outbox : Outbox) (msgId error : String) :
    (markFailed outbox msgId error).talk = outbox.talk := by
  unfold markFailed
  split
  · rfl
  split
  · rfl
  · rename_i row hrow _
    exact talk_redispatched hrow rfl

end Buying

namespace MarketFeed

theorem applyEvent_moves (db : Db) (payload : Payload) (city : String) (event : Event)
    (market : MarketCycle) :
    Moves cfg P db.desk (applyEvent cfg db payload city event market).1.desk := by
  unfold applyEvent
  split
  · split
    · exact .refl
    · exact SellerOffers.closeLocalOffers_moves _ _
  · split <;> exact .refl

theorem persist_moves (db : Db) (payload : Payload) :
    Moves cfg P db.desk (persist cfg db payload).desk := by
  unfold persist
  split
  · exact .refl
  split
  · exact .refl
  · dsimp only
    generalize (Table.get? (marketCycle db.marketCycles _) _).getD _ = market
    generalize hd : ({ db with
      feedClaims := db.feedClaims ++ [_]
      marketCycles := marketCycle db.marketCycles _ } : Db) = claimed
    have start : db.desk = claimed.desk := by
      rw [← hd]
      rfl
    rw [start]
    exact applyEvent_moves _ _ _ _ _

end MarketFeed

end EnergyNode
