import EnergyNode.Ingest

/-! What the audit says of a message that was answered: its transaction committed,
so it is never marked as failed. -/
namespace EnergyNode
open Lib

namespace Ingest
variable {cfg : Config} {jwt : Jwt} {db db' : Db} {payload : Payload} {now : Instant}
  {verdict : Verdict}

/-- The statuses of a committed transaction. -/
def Concluded (status : InboundStatus) : Prop :=
  status = .processed ∨ status = .notProcessed ∨ status = .duplicate

theorem concluded_applied (fresh : Bool) : Concluded (applied fresh).status := by
  cases fresh
  · exact .inr (.inr rfl)
  · exact .inl rfl

theorem concluded_statusStatement (h : statusStatement cfg db payload now = .ok (db',verdict)) :
    Concluded verdict.status := by
  obtain ⟨_,_,h⟩ := Fallible.bind_ok.mp h
  split at h <;> cases h
  · exact .inl rfl
  · exact .inr (.inr rfl)

theorem concluded_funding {cycleId : String} {quantity : Decimal}
    (h : funding cfg db payload cycleId quantity = .ok (db',verdict)) : Concluded verdict.status := by
  unfold funding at h
  dsimp only at h
  split at h
  · obtain ⟨⟨books,entry,fresh⟩,_,h⟩ := Fallible.bind_ok.mp h
    cases h
    exact concluded_applied fresh
  · cases h
    exact .inr (.inl rfl)

theorem concluded_transfer (h : transfer cfg db payload now = .ok (db',verdict)) :
    Concluded verdict.status := by
  unfold transfer at h
  obtain ⟨cycleId,_,h⟩ := Fallible.bind_ok.mp h
  obtain ⟨quantity,_,h⟩ := Fallible.bind_ok.mp h
  split at h
  · exact concluded_funding h
  · cases h
  · split at h
    · obtain ⟨⟨paid,fresh⟩,_,h⟩ := Fallible.bind_ok.mp h
      cases h
      exact concluded_applied fresh
    · cases h

theorem concluded_demandStatement (h : demandStatement cfg db payload = .ok (db',verdict)) :
    Concluded verdict.status := by
  unfold demandStatement at h
  obtain ⟨_,_,h⟩ := Fallible.bind_ok.mp h
  obtain ⟨_,_,h⟩ := Fallible.bind_ok.mp h
  obtain ⟨_,_,h⟩ := Fallible.bind_ok.mp h
  obtain ⟨_,_,h⟩ := Fallible.bind_ok.mp h
  obtain ⟨⟨books,entry,fresh⟩,_,h⟩ := Fallible.bind_ok.mp h
  cases h
  exact concluded_applied fresh

theorem concluded_distanceTable (h : distanceTable db payload now = .ok (db',verdict)) :
    Concluded verdict.status := by
  unfold distanceTable at h
  simp only [Fallible.throw_bind] at h
  split at h
  · cases h
    exact concluded_applied false
  obtain ⟨_,_,h⟩ := Fallible.bind_ok.mp h
  obtain ⟨_,_,h⟩ := Fallible.bind_ok.mp h
  split at h
  · split at h <;> cases h
    exact concluded_applied true
  · cases h

theorem concluded_negotiationProposal (h : negotiationProposal db payload now = .ok (db',verdict)) :
    Concluded verdict.status := by
  unfold negotiationProposal at h
  obtain ⟨_,_,h⟩ := Fallible.bind_ok.mp h
  dsimp only at h
  split at h
  · cases h
    exact concluded_applied false
  obtain ⟨_,_,h⟩ := Fallible.bind_ok.mp h
  split at h
  · obtain ⟨_,_,h⟩ := Fallible.bind_ok.mp h
    obtain ⟨_,_,h⟩ := Fallible.bind_ok.mp h
    cases h
    exact concluded_applied _
  · cases h

/-- The audit of a bid is that of `process_incoming_bid`. -/
theorem concluded_bid (h : bid cfg db payload now = .ok (db',verdict)) : Concluded verdict.status := by
  unfold bid at h
  obtain ⟨⟨recorded,status,reason⟩,hp,h⟩ := Fallible.bind_ok.mp h
  have concluded : Concluded status := by
    unfold SellerBids.processIncomingBid at hp
    split at hp
    · cases hp
      exact .inr (.inl rfl)
    dsimp only at hp
    split at hp
    · split at hp
      · cases hp
        exact .inl rfl
      · obtain ⟨_,_,hp⟩ := Fallible.bind_ok.mp hp
        cases hp
        exact .inl rfl
    · split at hp
      · split at hp <;> cases hp
        · exact .inl rfl
        · exact .inr (.inl rfl)
      · cases hp
        exact .inr (.inl rfl)
  dsimp only at h
  split at h
  · cases h
    exact concluded
  split at h
  · cases h
    exact concluded
  obtain ⟨policy,_,h⟩ := Fallible.bind_ok.mp h
  split at h
  · cases h
    exact concluded
  obtain ⟨⟨reserved,outcome⟩,_,h⟩ := Fallible.bind_ok.mp h
  dsimp only at h
  split at h <;> cases h <;> exact concluded

theorem concluded_bidReply (h : bidReply db payload now = .ok (db',verdict)) :
    Concluded verdict.status := by
  obtain ⟨⟨after,refusal⟩,_,h⟩ := Fallible.bind_ok.mp h
  dsimp only at h
  split at h <;> cases h
  · exact .inr (.inl rfl)
  · exact .inl rfl

theorem concluded_acknowledgement (h : acknowledgement db payload now = .ok (db',verdict)) :
    Concluded verdict.status := by
  unfold acknowledgement at h
  obtain ⟨_,_,h⟩ := Fallible.bind_ok.mp h
  obtain ⟨_,_,h⟩ := Fallible.bind_ok.mp h
  cases h
  exact .inl rfl

theorem concluded_refusal (h : refusal db payload now = .ok (db',verdict)) :
    Concluded verdict.status := by
  unfold refusal at h
  obtain ⟨_,_,h⟩ := Fallible.bind_ok.mp h
  obtain ⟨_,_,h⟩ := Fallible.bind_ok.mp h
  cases h
  exact .inl rfl

theorem concluded_confirmation (h : confirmation cfg db payload now = .ok (db',verdict)) :
    Concluded verdict.status := by
  unfold confirmation at h
  obtain ⟨_,_,h⟩ := Fallible.bind_ok.mp h
  obtain ⟨_,_,h⟩ := Fallible.bind_ok.mp h
  obtain ⟨_,_,h⟩ := Fallible.bind_ok.mp h
  obtain ⟨_,_,h⟩ := Fallible.bind_ok.mp h
  obtain ⟨⟨confirmed,n,fresh⟩,_,h⟩ := Fallible.bind_ok.mp h
  dsimp only at h
  split at h
  · obtain ⟨_,_,h⟩ := Fallible.bind_ok.mp h
    cases h
    exact .inl rfl
  · cases h
    exact concluded_applied fresh

theorem concluded_negotiationReport (h : negotiationReport db payload now = .ok (db',verdict)) :
    Concluded verdict.status := by
  unfold negotiationReport at h
  obtain ⟨cycleId,_,h⟩ := Fallible.bind_ok.mp h
  split at h
  · obtain ⟨_,_,h⟩ := Fallible.bind_ok.mp h
    split at h
    · cases h
      exact concluded_applied false
    obtain ⟨_,_,h⟩ := Fallible.bind_ok.mp h
    obtain ⟨_,_,h⟩ := Fallible.bind_ok.mp h
    split at h
    · simp only [Fallible.throw_bind] at h
      split at h <;> cases h
      exact concluded_applied true
    · cases h
  · cases h

theorem concluded_swapEvent {type : WalletEvents.EventType}
    (h : swapEvent cfg jwt db payload type now = .ok (db',verdict)) : Concluded verdict.status := by
  unfold swapEvent at h
  obtain ⟨⟨moved,record⟩,_,h⟩ := Fallible.bind_ok.mp h
  dsimp only at h
  split at h
  · cases h
    exact .inr (.inl rfl)
  · split at h <;> cases h <;> exact .inl rfl

theorem concluded_tradeRecorded {books books' : Books} {audit : TradeEvents.Audit}
    (h : TradeEvents.processTradeRecorded cfg books payload = .ok (books',audit)) :
    Concluded audit.1 := by
  unfold TradeEvents.processTradeRecorded at h
  split at h
  · cases h
    exact .inr (.inl rfl)
  split at h
  · cases h
    exact .inr (.inl rfl)
  · cases h
    exact .inr (.inl rfl)
  split at h
  · obtain ⟨_,_,h⟩ := Fallible.bind_ok.mp h
    cases h
    exact .inl rfl
  · split at h <;> cases h
    · exact .inr (.inr rfl)
    · exact .inr (.inl rfl)
  · cases h

theorem concluded_imbalanceSettlement {books books' : Books} {audit : TradeEvents.Audit}
    (h : TradeEvents.processImbalanceSettlement cfg books payload = .ok (books',audit)) :
    Concluded audit.1 := by
  unfold TradeEvents.processImbalanceSettlement at h
  split at h
  · cases h
    exact .inr (.inl rfl)
  split at h
  · cases h
    exact .inr (.inl rfl)
  split at h
  · cases h
  · cases h
    exact .inr (.inl rfl)
  split at h
  · obtain ⟨_,_,h⟩ := Fallible.bind_ok.mp h
    cases h
    exact .inl rfl
  · split at h <;> cases h
    · exact .inr (.inr rfl)
    · exact .inr (.inl rfl)
  · cases h

theorem concluded_walletFact (h : walletFact cfg db payload = .ok (db',verdict)) :
    Concluded verdict.status := by
  unfold walletFact at h
  obtain ⟨⟨books,status,reason⟩,fact,h⟩ := Fallible.bind_ok.mp h
  cases h
  unfold TradeEvents.processWalletFact at fact
  split at fact
  · exact concluded_tradeRecorded fact
  · exact concluded_imbalanceSettlement fact
  · cases fact

theorem concluded_dispatch (h : dispatch cfg jwt db payload now = .ok (db',verdict)) :
    Concluded verdict.status := by
  unfold dispatch at h
  cases type : payload.type <;> rw [type] at h <;> dsimp only at h
  case statusStatement => exact concluded_statusStatement h
  case transfer => exact concluded_transfer h
  case demandStatement => exact concluded_demandStatement h
  case distanceTable => exact concluded_distanceTable h
  case negotiationProposal => exact concluded_negotiationProposal h
  case bid => exact concluded_bid h
  case bidAccepted => exact concluded_bidReply h
  case bidRejected => exact concluded_bidReply h
  case ack => exact concluded_acknowledgement h
  case nack => exact concluded_refusal h
  case give => exact concluded_confirmation h
  case take => exact concluded_confirmation h
  case negotiationReport => exact concluded_negotiationReport h
  case swapProposed => exact concluded_swapEvent h
  case swapSettled => exact concluded_swapEvent h
  case swapRejected => exact concluded_swapEvent h
  case swapCancelled => exact concluded_swapEvent h
  case swapExpired => exact concluded_swapEvent h
  case tradeRecorded => exact concluded_walletFact h
  case imbalanceSettlement => exact concluded_walletFact h
  all_goals
    cases h
    exact .inr (.inl rfl)

/-- A message that was answered is not among the failed ones. -/
theorem concluded_process (h : process cfg jwt db payload now = .ok (db',verdict)) :
    Concluded verdict.status := by
  obtain ⟨_,rfl⟩ | ⟨claimed,served,_,dispatched,_⟩ := process_cases h
  · unfold repeated
    split
    · exact .inr (.inr rfl)
    · exact .inr (.inl rfl)
  · exact concluded_dispatch dispatched

end Ingest

end EnergyNode
