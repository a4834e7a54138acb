import EnergyNode.BookRules
import EnergyNode.NegotiationMoves

/-! The entries of settled swaps. Only a wallet event posts one, and it posts the
legs of the record it settles. -/
namespace EnergyNode
open Lib Ledger

/-- The SWAP_SETTLED entries of the ledger. -/
def swapEntries (books : Books) : List LedgerEntry :=
  books.ledger.filter fun e => e.operationType = .swapSettled

namespace SwapEntries
variable {cfg : Config} {jwt : Jwt} {books books' : Books} {effect : Effect} {db db' : Db}
  {payload : Payload} {now : Instant} {verdict : Ingest.Verdict}

/-! ### One effect -/

theorem swapEntries_posted (books : Books) (cycle : Cycle) (effect : Effect) :
    swapEntries (posted books cycle effect) = swapEntries books ++
      if effect.operationType = .swapSettled then [nextEntry cycle effect] else [] := by
  unfold swapEntries posted
  dsimp only
  rw [List.filter_append,List.filter_singleton,Bool.cond_eq_ite]
  simp only [decide_eq_true_eq]
  rfl

theorem swapEntries_carryInto {previous : Option String} {k : String}
    (h : carryInto cfg books previous k = .ok books') : swapEntries books' = swapEntries books := by
  rw [carryInto_eq] at h
  split at h
  · cases h
    rfl
  · obtain ⟨⟨done,entry,applied⟩,hp,rfl⟩ := Fallible.map_ok.mp h
    rcases post_cases hp with ⟨_,rfl,_⟩ | ⟨_,_,cycle,_,rfl⟩
    · rfl
    · rw [swapEntries_posted]
      exact (congrArg _ (if_neg OperationType.noConfusion)).trans (List.append_nil _)

theorem swapEntries_carryAll {previous : Option String} {l : List String}
    (h : carryAll cfg books previous l = .ok books') : swapEntries books' = swapEntries books := by
  induction l generalizing books previous with
  | nil =>
    cases h
    rfl
  | cons k l ih =>
    obtain ⟨mid,hm,rest⟩ := Fallible.bind_ok.mp h
    exact (ih rest).trans (swapEntries_carryInto hm)

theorem swapEntries_synchronize (h : synchronizeBudgetCarryover cfg books = .ok books') :
    swapEntries books' = swapEntries books := by
  unfold synchronizeBudgetCarryover at h
  dsimp only at h
  split at h
  · exact swapEntries_carryAll h
  · cases h

/-- An effect leaves the swaps as they were, or its entry comes last. -/
theorem swapEntries_effect {rest : LedgerEntry × Bool}
    (h : applyLedgerEffect cfg books effect = .ok (books',rest)) :
    swapEntries books' = swapEntries books ∨ effect.operationType = .swapSettled ∧
      ∃ cycle, swapEntries books' = swapEntries books ++ [nextEntry cycle effect] := by
  obtain ⟨⟨mid,entry,applied⟩,hp,h⟩ := Fallible.bind_ok.mp h
  have posted : swapEntries mid = swapEntries books ∨ effect.operationType = .swapSettled ∧
      ∃ cycle, swapEntries mid = swapEntries books ++ [nextEntry cycle effect] := by
    rcases post_cases hp with ⟨_,rfl,_⟩ | ⟨_,_,cycle,_,rfl⟩
    · exact .inl rfl
    rw [swapEntries_posted]
    by_cases kind : effect.operationType = .swapSettled
    · rw [if_pos kind]
      exact .inr ⟨kind,cycle,rfl⟩
    · rw [if_neg kind,List.append_nil]
      exact .inl rfl
  dsimp only at h
  split at h
  · obtain ⟨done,synced,h⟩ := Fallible.bind_ok.mp h
    cases h
    rw [swapEntries_synchronize synced]
    exact posted
  · cases h
    exact posted

theorem swapEntries_other {rest : LedgerEntry × Bool}
    (h : applyLedgerEffect cfg books effect = .ok (books',rest))
    (kind : effect.operationType ≠ .swapSettled) : swapEntries books' = swapEntries books :=
  (swapEntries_effect h).resolve_right fun own => kind own.1

theorem swapEntries_getOrCreateCycle (books : Books) (k : String) :
    swapEntries (Opening.getOrCreateCycle books k) = swapEntries books := by
  unfold Opening.getOrCreateCycle
  split <;> rfl

/-! ### The other facts -/

open CycleAccounting

theorem swapEntries_transport {trade : TradeRecord}
    (h : applyTradeTransport cfg books trade = .ok books') :
    swapEntries books' = swapEntries books := by
  unfold applyTradeTransport at h
  split at h
  · obtain ⟨⟨done,rest⟩,applied,rfl⟩ := Fallible.map_ok.mp h
    exact swapEntries_other applied OperationType.noConfusion
  · cases h
    rfl

theorem swapEntries_settlement {s : ImbalanceSettlement}
    (h : applyImbalanceSettlement cfg books s = .ok books') :
    swapEntries books' = swapEntries books := by
  unfold applyImbalanceSettlement at h
  split at h
  · cases h
    rfl
  obtain ⟨⟨paid,rest⟩,hpaid,h⟩ := Fallible.bind_ok.mp h
  have first := swapEntries_other hpaid OperationType.noConfusion
  dsimp only at h
  split at h
  · split at h
    · cases h
      exact first
    · obtain ⟨⟨burnt,rest'⟩,hburnt,h⟩ := Fallible.bind_ok.mp h
      cases h
      exact (swapEntries_other hburnt OperationType.noConfusion).trans first
  · cases h
    exact first

theorem closeEffect_kind (books : Books) (cycle : Cycle) :
    (closeEffect books cycle).operationType ≠ .swapSettled := by
  unfold closeEffect
  dsimp only
  split <;> exact OperationType.noConfusion

theorem swapEntries_sweep {locked : List String} {report : Finalization}
    (h : finalizeClosedMarkets cfg books locked now = .ok (books',report)) :
    swapEntries books' = swapEntries books := by
  refine Fallible.foldlM_rel
    (fun a b : Books × Finalization => swapEntries b.1 = swapEntries a.1) (fun _ => rfl)
    (fun first second => second.trans first) (closeCycle cfg) ?_ _ h
  rintro ⟨a,before⟩ k ⟨b,after⟩ turn
  unfold closeCycle at turn
  dsimp only at turn
  split at turn
  · cases turn
    rfl
  split at turn
  · cases turn
    rfl
  · obtain ⟨⟨done,rest⟩,applied,e⟩ := Fallible.map_ok.mp turn
    cases e
    exact swapEntries_other applied (closeEffect_kind a _)

theorem swapEntries_fact {audit : TradeEvents.Audit}
    (h : TradeEvents.processWalletFact cfg books payload = .ok (books',audit)) :
    swapEntries books' = swapEntries books := by
  unfold TradeEvents.processWalletFact at h
  split at h
  · unfold TradeEvents.processTradeRecorded at h
    split at h
    · cases h
      rfl
    split at h
    · cases h
      rfl
    · cases h
      rfl
    split at h
    · obtain ⟨done,posted,h⟩ := Fallible.bind_ok.mp h
      cases h
      have same := swapEntries_transport posted
      exact same
    · split at h <;> cases h <;> rfl
    · cases h
  · unfold TradeEvents.processImbalanceSettlement at h
    split at h
    · cases h
      rfl
    split at h
    · cases h
      rfl
    split at h
    · cases h
    · cases h
      rfl
    split at h
    · obtain ⟨done,posted,h⟩ := Fallible.bind_ok.mp h
      cases h
      have same := swapEntries_settlement posted
      exact same
    · split at h <;> cases h <;> rfl
    · cases h
  · cases h

/-! ### Negotiations -/

theorem swapEntries_givePayment {p : Negotiations.Payment} {fresh : Bool}
    (h : Negotiations.processGivePayment cfg db p now = .ok (db',fresh)) :
    swapEntries db'.books = swapEntries db.books := by
  obtain ⟨n,_,h⟩ := Fallible.bind_ok.mp h
  split at h
  · split at h
    · cases h
    · cases h
      rfl
  obtain ⟨⟨books,entry,applied⟩,posted,h⟩ := Fallible.bind_ok.mp h
  have done := swapEntries_other posted OperationType.noConfusion
  dsimp only at h
  split at h
  · cases h
    exact done
  split at h
  all_goals
    obtain ⟨_,_,h⟩ := Fallible.bind_ok.mp h
    obtain ⟨_,_,h⟩ := Fallible.bind_ok.mp h
    cases h
    exact done

theorem confirmationEffect_kind (c : Negotiations.Confirmation) (n : Negotiation) :
    (Negotiations.confirmationEffect c n).operationType ≠ .swapSettled := by
  show c.operation ≠ .swapSettled
  unfold Negotiations.Confirmation.operation
  split <;> exact OperationType.noConfusion

theorem swapEntries_confirmEnergy {c : Negotiations.Confirmation} {n : Negotiation} {applied : Bool}
    (h : Negotiations.confirmEnergy cfg books c n = .ok (books',applied)) :
    swapEntries books' = swapEntries books := by
  unfold Negotiations.confirmEnergy at h
  split at h
  · split at h
    · cases h
    split at h
    · cases h
    · cases h
      rfl
  simp only [Fallible.throw_bind] at h
  have posted (h : (applyLedgerEffect cfg books (Negotiations.confirmationEffect c n) >>=
      fun done => .ok (done.1,done.2.2)) = .ok (books',applied)) :
      swapEntries books' = swapEntries books := by
    obtain ⟨⟨done,entry,now⟩,effect,h⟩ := Fallible.bind_ok.mp h
    cases h
    exact swapEntries_other effect (confirmationEffect_kind c n)
  split at h
  · split at h
    · obtain ⟨_,_,h⟩ := Fallible.bind_ok.mp h
      rw [Fallible.require_ok] at h
      exact posted h.2
    · exact posted h
  · exact posted h

theorem swapEntries_takePayment {n : Negotiation}
    (h : Negotiations.enqueueTakePayment cfg db n now = .ok db') :
    swapEntries db'.books = swapEntries db.books := by
  unfold Negotiations.enqueueTakePayment at h
  simp only [Fallible.throw_bind,Fallible.require_ok] at h
  obtain ⟨_,_,h⟩ := h
  split at h
  · rw [Fallible.refuse_ok,Fallible.pure_ok] at h
    cases h.2
    rfl
  obtain ⟨_,_,h⟩ := Fallible.bind_ok.mp h
  split at h
  · obtain ⟨⟨books,entry,applied⟩,posted,h⟩ := Fallible.bind_ok.mp h
    rw [Fallible.require_ok,Fallible.pure_ok] at h
    obtain ⟨_,rfl⟩ := h
    exact swapEntries_other posted OperationType.noConfusion
  · cases h

theorem swapEntries_confirmation (h : Ingest.confirmation cfg db payload now = .ok (db',verdict)) :
    swapEntries db'.books = swapEntries db.books := by
  unfold Ingest.confirmation at h
  obtain ⟨cycleId,_,h⟩ := Fallible.bind_ok.mp h
  obtain ⟨energy,_,h⟩ := Fallible.bind_ok.mp h
  obtain ⟨price,_,h⟩ := Fallible.bind_ok.mp h
  obtain ⟨target,_,h⟩ := Fallible.bind_ok.mp h
  obtain ⟨⟨mid,n,fresh⟩,confirmed,h⟩ := Fallible.bind_ok.mp h
  obtain ⟨m,_,confirmed⟩ := Fallible.bind_ok.mp confirmed
  obtain ⟨⟨books,applied⟩,energy,confirmed⟩ := Fallible.bind_ok.mp confirmed
  obtain ⟨m',_,confirmed⟩ := Fallible.bind_ok.mp confirmed
  have first := swapEntries_confirmEnergy energy
  cases confirmed
  dsimp only at h
  split at h
  · obtain ⟨done,paid,h⟩ := Fallible.bind_ok.mp h
    cases h
    exact (swapEntries_takePayment paid).trans first
  · cases h
    exact first

/-! ### Messages -/

theorem swapEntries_transfer (h : Ingest.transfer cfg db payload now = .ok (db',verdict)) :
    swapEntries db'.books = swapEntries db.books := by
  unfold Ingest.transfer at h
  obtain ⟨cycleId,_,h⟩ := Fallible.bind_ok.mp h
  obtain ⟨quantity,_,h⟩ := Fallible.bind_ok.mp h
  have placed := swapEntries_getOrCreateCycle db.books cycleId
  split at h
  · unfold Ingest.funding at h
    dsimp only at h
    split at h
    · obtain ⟨⟨books,entry,applied⟩,posted,h⟩ := Fallible.bind_ok.mp h
      cases h
      exact (swapEntries_other posted OperationType.noConfusion).trans placed
    · cases h
      exact placed
  · cases h
  · split at h
    · obtain ⟨⟨done,fresh⟩,paid,h⟩ := Fallible.bind_ok.mp h
      cases h
      exact swapEntries_givePayment paid
    · cases h

theorem swapEntries_demandStatement
    (h : Ingest.demandStatement cfg db payload = .ok (db',verdict)) :
    swapEntries db'.books = swapEntries db.books := by
  obtain ⟨cycleId,_,h⟩ := Fallible.bind_ok.mp h
  obtain ⟨balance,_,h⟩ := Fallible.bind_ok.mp h
  obtain ⟨quantity,_,h⟩ := Fallible.bind_ok.mp h
  obtain ⟨value,_,h⟩ := Fallible.bind_ok.mp h
  obtain ⟨⟨books,entry,applied⟩,posted,h⟩ := Fallible.bind_ok.mp h
  cases h
  exact (swapEntries_other posted OperationType.noConfusion).trans
    (swapEntries_getOrCreateCycle db.books cycleId)

theorem swapEntries_distanceTable (h : Ingest.distanceTable db payload now = .ok (db',verdict)) :
    db'.books = db.books := by
  unfold Ingest.distanceTable at h
  dsimp only at h
  split at h
  · cases h
    rfl
  obtain ⟨_,_,h⟩ := Fallible.bind_ok.mp h
  obtain ⟨_,_,h⟩ := Fallible.bind_ok.mp h
  split at h
  · split at h <;> cases h
    rfl
  · cases h

theorem swapEntries_negotiationProposal
    (h : Ingest.negotiationProposal db payload now = .ok (db',verdict)) :
    swapEntries db'.books = swapEntries db.books := by
  unfold Ingest.negotiationProposal at h
  obtain ⟨cycleId,_,h⟩ := Fallible.bind_ok.mp h
  have placed := swapEntries_getOrCreateCycle db.books cycleId
  dsimp only at h
  split at h
  · cases h
    exact placed
  obtain ⟨direction,_,h⟩ := Fallible.bind_ok.mp h
  split at h
  · obtain ⟨quantity,_,h⟩ := Fallible.bind_ok.mp h
    obtain ⟨price,_,h⟩ := Fallible.bind_ok.mp h
    cases h
    unfold Negotiations.propose
    dsimp only
    split <;> exact placed
  · cases h

theorem swapEntries_statusStatement
    (h : Ingest.statusStatement cfg db payload now = .ok (db',verdict)) :
    swapEntries db'.books = swapEntries db.books := by
  obtain ⟨opened,applied,h⟩ := Fallible.bind_ok.mp h
  cases opened with
  | none =>
    cases h
    rfl
  | some opened =>
    cases h
    obtain ⟨k,s,c,c',_,_,_,_,synced⟩ := applyStatement_bind applied
    exact (swapEntries_synchronize synced).trans (swapEntries_getOrCreateCycle db.books k)

theorem swapEntries_requestStatement (cfg : Config) (db : Db) (payload : Payload) (now : Instant) :
    swapEntries (Ingest.requestStatement cfg db payload now).books = swapEntries db.books := by
  unfold Ingest.requestStatement
  split
  · rfl
  split
  · rfl
  · exact swapEntries_getOrCreateCycle _ _

/-- Only the wallet's swap events touch the entries of the swaps. -/
theorem swapEntries_dispatch (other : payload.type.isSwapEvent = false)
    (h : Ingest.dispatch cfg jwt db payload now = .ok (db',verdict)) :
    swapEntries db'.books = swapEntries db.books := by
  unfold Ingest.dispatch at h
  cases type : payload.type with
  | swapProposed | swapSettled | swapRejected | swapCancelled | swapExpired =>
    rw [type] at other
    cases other
  | statusStatement =>
    rw [type] at h
    exact swapEntries_statusStatement h
  | transfer =>
    rw [type] at h
    exact swapEntries_transfer h
  | demandStatement =>
    rw [type] at h
    exact swapEntries_demandStatement h
  | distanceTable =>
    rw [type] at h
    rw [swapEntries_distanceTable h]
  | negotiationProposal =>
    rw [type] at h
    exact swapEntries_negotiationProposal h
  | bid =>
    rw [type] at h
    rw [Received.bid_books h]
  | bidAccepted | bidRejected =>
    rw [type] at h
    rw [Received.bidReply_books h]
  | ack =>
    rw [type] at h
    rw [Received.acknowledgement_books h]
  | nack =>
    rw [type] at h
    rw [Received.refusal_books h]
  | give | take =>
    rw [type] at h
    exact swapEntries_confirmation h
  | negotiationReport =>
    rw [type] at h
    rw [Received.report_books h]
  | tradeRecorded | imbalanceSettlement =>
    rw [type] at h
    obtain ⟨⟨books,status,reason⟩,fact,h⟩ := Fallible.bind_ok.mp h
    cases h
    exact swapEntries_fact fact
  | request | error | offer | offerUpdated | offerWithdrawn | marketClosed | unknown name =>
    rw [type] at h
    cases h
    rfl

end SwapEntries

end EnergyNode
