import EnergyNode.Ingest
import EnergyNode.StoredLedger

/-! What a message that was not processed leaves: its claim is given back, and its
branch has changed nothing. Only the replies to our bids keep the claim. -/
namespace EnergyNode
open Lib

/-- The claim goes back exactly when the message was not processed. -/
def Ingest.Verdict.Returned (verdict : Ingest.Verdict) : Prop :=
  verdict.unclaim = decide (verdict.status = .notProcessed)

namespace Ingest
variable {cfg : Config} {jwt : Jwt} {db db' : Db} {payload : Payload} {now : Instant}
  {verdict : Verdict}

theorem returned_applied (fresh : Bool) : (applied fresh).Returned := by cases fresh <;> rfl

theorem returned_statusStatement (h : statusStatement cfg db payload now = .ok (db',verdict)) :
    verdict.Returned := by
  obtain ⟨applied,_,h⟩ := Fallible.bind_ok.mp h
  split at h <;> cases h <;> rfl

theorem returned_funding {cycleId : String} {quantity : Decimal}
    (h : funding cfg db payload cycleId quantity = .ok (db',verdict)) : verdict.Returned := by
  unfold funding at h
  dsimp only at h
  split at h
  · obtain ⟨⟨books,entry,fresh⟩,_,h⟩ := Fallible.bind_ok.mp h
    cases h
    exact returned_applied fresh
  · cases h
    rfl

theorem returned_transfer (h : transfer cfg db payload now = .ok (db',verdict)) :
    verdict.Returned := by
  unfold transfer at h
  obtain ⟨cycleId,_,h⟩ := Fallible.bind_ok.mp h
  obtain ⟨quantity,_,h⟩ := Fallible.bind_ok.mp h
  split at h
  · exact returned_funding h
  · cases h
  · split at h
    · obtain ⟨⟨paid,fresh⟩,_,h⟩ := Fallible.bind_ok.mp h
      cases h
      exact returned_applied fresh
    · cases h

theorem returned_demandStatement (h : demandStatement cfg db payload = .ok (db',verdict)) :
    verdict.Returned := by
  unfold demandStatement at h
  obtain ⟨_,_,h⟩ := Fallible.bind_ok.mp h
  obtain ⟨_,_,h⟩ := Fallible.bind_ok.mp h
  obtain ⟨_,_,h⟩ := Fallible.bind_ok.mp h
  obtain ⟨_,_,h⟩ := Fallible.bind_ok.mp h
  obtain ⟨⟨books,entry,fresh⟩,_,h⟩ := Fallible.bind_ok.mp h
  cases h
  exact returned_applied fresh

theorem returned_distanceTable (h : distanceTable db payload now = .ok (db',verdict)) :
    verdict.Returned := by
  unfold distanceTable at h
  simp only [Fallible.throw_bind] at h
  split at h
  · cases h
    rfl
  obtain ⟨_,_,h⟩ := Fallible.bind_ok.mp h
  obtain ⟨_,_,h⟩ := Fallible.bind_ok.mp h
  split at h
  · split at h <;> cases h
    rfl
  · cases h

theorem returned_negotiationProposal (h : negotiationProposal db payload now = .ok (db',verdict)) :
    verdict.Returned := by
  unfold negotiationProposal at h
  obtain ⟨_,_,h⟩ := Fallible.bind_ok.mp h
  dsimp only at h
  split at h
  · cases h
    rfl
  obtain ⟨_,_,h⟩ := Fallible.bind_ok.mp h
  split at h
  · obtain ⟨_,_,h⟩ := Fallible.bind_ok.mp h
    obtain ⟨_,_,h⟩ := Fallible.bind_ok.mp h
    cases h
    exact returned_applied _
  · cases h

theorem returned_acknowledgement (h : acknowledgement db payload now = .ok (db',verdict)) :
    verdict.Returned := by
  unfold acknowledgement at h
  obtain ⟨_,_,h⟩ := Fallible.bind_ok.mp h
  obtain ⟨_,_,h⟩ := Fallible.bind_ok.mp h
  cases h
  rfl

theorem returned_refusal (h : refusal db payload now = .ok (db',verdict)) : verdict.Returned := by
  unfold refusal at h
  obtain ⟨_,_,h⟩ := Fallible.bind_ok.mp h
  obtain ⟨_,_,h⟩ := Fallible.bind_ok.mp h
  cases h
  rfl

theorem returned_confirmation (h : confirmation cfg db payload now = .ok (db',verdict)) :
    verdict.Returned := by
  unfold confirmation at h
  obtain ⟨_,_,h⟩ := Fallible.bind_ok.mp h
  obtain ⟨_,_,h⟩ := Fallible.bind_ok.mp h
  obtain ⟨_,_,h⟩ := Fallible.bind_ok.mp h
  obtain ⟨_,_,h⟩ := Fallible.bind_ok.mp h
  obtain ⟨⟨confirmed,n,fresh⟩,_,h⟩ := Fallible.bind_ok.mp h
  dsimp only at h
  split at h
  · obtain ⟨_,_,h⟩ := Fallible.bind_ok.mp h
    cases h
    rfl
  · cases h
    exact returned_applied fresh

theorem returned_negotiationReport (h : negotiationReport db payload now = .ok (db',verdict)) :
    verdict.Returned := by
  unfold negotiationReport at h
  simp only [Fallible.throw_bind] at h
  obtain ⟨_,_,h⟩ := Fallible.bind_ok.mp h
  split at h
  · obtain ⟨_,_,h⟩ := Fallible.bind_ok.mp h
    split at h
    · cases h
      rfl
    obtain ⟨_,_,h⟩ := Fallible.bind_ok.mp h
    obtain ⟨_,_,h⟩ := Fallible.bind_ok.mp h
    split at h
    · split at h <;> cases h
      rfl
    · cases h
  · cases h

theorem returned_walletFact (h : walletFact cfg db payload = .ok (db',verdict)) :
    verdict.Returned := by
  unfold walletFact at h
  obtain ⟨_,_,h⟩ := Fallible.bind_ok.mp h
  cases h
  rfl

theorem returned_swapEvent {type : WalletEvents.EventType}
    (h : swapEvent cfg jwt db payload type now = .ok (db',verdict)) : verdict.Returned := by
  unfold swapEvent at h
  obtain ⟨⟨moved,record⟩,_,h⟩ := Fallible.bind_ok.mp h
  dsimp only at h
  split at h
  · cases h
    rfl
  · split at h <;> cases h <;> rfl

theorem returned_bid (h : bid cfg db payload now = .ok (db',verdict)) : verdict.Returned := by
  unfold bid at h
  obtain ⟨⟨recorded,status,reason⟩,_,h⟩ := Fallible.bind_ok.mp h
  dsimp only at h
  split at h
  · rename_i refused
    cases h
    exact (decide_eq_true refused).symm
  rename_i served
  have kept {reason : Option String} : Verdict.Returned ⟨status,reason,false⟩ :=
    (decide_eq_false served).symm
  split at h
  · cases h
    exact kept
  obtain ⟨policy,_,h⟩ := Fallible.bind_ok.mp h
  split at h
  · cases h
    exact kept
  obtain ⟨⟨reserved,outcome⟩,_,h⟩ := Fallible.bind_ok.mp h
  dsimp only at h
  split at h <;> cases h <;> exact kept

/-- A commercial answer to one of our bids. -/
def isReply (type : MessageType) : Bool := type = .bidAccepted || type = .bidRejected

/-- Every branch but that of the replies returns the claim of what it refuses. -/
theorem returned_dispatch (h : dispatch cfg jwt db payload now = .ok (db',verdict))
    (claims : payload.type.isIdempotent) (other : isReply payload.type = false) :
    verdict.Returned := by
  unfold dispatch at h
  generalize payload.type = type at h claims other
  cases type with
  | statusStatement => exact returned_statusStatement h
  | transfer => exact returned_transfer h
  | demandStatement => exact returned_demandStatement h
  | distanceTable => exact returned_distanceTable h
  | negotiationProposal => exact returned_negotiationProposal h
  | bid => exact returned_bid h
  | bidAccepted => cases other
  | bidRejected => cases other
  | ack => exact returned_acknowledgement h
  | nack => exact returned_refusal h
  | give => exact returned_confirmation h
  | take => exact returned_confirmation h
  | negotiationReport => exact returned_negotiationReport h
  | swapProposed => exact returned_swapEvent h
  | swapSettled => exact returned_swapEvent h
  | swapRejected => exact returned_swapEvent h
  | swapCancelled => exact returned_swapEvent h
  | swapExpired => exact returned_swapEvent h
  | tradeRecorded => exact returned_walletFact h
  | imbalanceSettlement => exact returned_walletFact h
  | request | error | offer | offerUpdated | offerWithdrawn | marketClosed | unknown _ => cases claims

/-! ### What a refusal leaves -/

/-- The messages that are sent again under their idpk until they are processed. -/
def Covered (payload : Payload) : Prop :=
  compared payload.type ∨ payload.type = .transfer ∧ payload.data.get "becauseOf" = .null

/-- A refused bid is not recorded. -/
theorem untouched_bid (h : bid cfg db payload now = .ok (db',verdict))
    (refused : verdict.status = .notProcessed) : db' = db := by
  unfold bid at h
  obtain ⟨⟨recorded,status,reason⟩,hp,h⟩ := Fallible.bind_ok.mp h
  dsimp only at h
  split at h
  · rename_i unprocessed
    cases h
    subst unprocessed
    unfold SellerBids.processIncomingBid at hp
    split at hp
    · cases hp
      rfl
    · dsimp only at hp
      split at hp
      · split at hp
        · cases hp
        · obtain ⟨_,_,hp⟩ := Fallible.bind_ok.mp hp
          cases hp
      · split at hp
        · split at hp <;> cases hp
          rfl
        · cases hp
          rfl
  rename_i served
  split at h
  · cases h
    exact absurd refused served
  obtain ⟨policy,_,h⟩ := Fallible.bind_ok.mp h
  split at h
  · cases h
    exact absurd refused served
  obtain ⟨⟨reserved,outcome⟩,_,h⟩ := Fallible.bind_ok.mp h
  dsimp only at h
  split at h <;> cases h <;> exact absurd refused served

theorem untouched_bidReply (h : bidReply db payload now = .ok (db',verdict))
    (refused : verdict.status = .notProcessed) : db' = db := by
  obtain ⟨⟨settled,refusal⟩,hp,h⟩ := Fallible.bind_ok.mp h
  dsimp only at h
  split at h <;> cases h
  · unfold BidReplies.processBidReply at hp
    split at hp
    · cases hp
    split at hp
    · cases hp
      rfl
    split at hp
    · cases hp
    split at hp
    · cases hp
      rfl
    split at hp <;> cases hp
  · cases refused

/-- An event without its record waits for it. -/
theorem untouched_swapEvent {type : WalletEvents.EventType}
    (h : swapEvent cfg jwt db payload type now = .ok (db',verdict))
    (refused : verdict.status = .notProcessed) : db' = db := by
  unfold swapEvent at h
  obtain ⟨⟨moved,record⟩,hp,h⟩ := Fallible.bind_ok.mp h
  dsimp only at h
  split at h
  · cases h
    unfold WalletEvents.processSwapEvent at hp
    obtain ⟨found,_,hp⟩ := Fallible.bind_ok.mp hp
    split at hp
    · split at hp
      · obtain ⟨_,_,hp⟩ := Fallible.bind_ok.mp hp
        cases hp
      · obtain ⟨_,_,hp⟩ := Fallible.bind_ok.mp hp
        obtain ⟨_,_,hp⟩ := Fallible.bind_ok.mp hp
        obtain ⟨_,_,hp⟩ := Fallible.bind_ok.mp hp
        cases hp
    · cases hp
      rfl
  · split at h <;> cases h <;> cases refused

theorem untouched_walletFact (h : walletFact cfg db payload = .ok (db',verdict))
    (refused : verdict.status = .notProcessed) : db' = db := by
  unfold walletFact at h
  obtain ⟨⟨books,status,reason⟩,hp,h⟩ := Fallible.bind_ok.mp h
  cases h
  dsimp only at refused
  subst refused
  have same : books = db.books := by
    unfold TradeEvents.processWalletFact at hp
    split at hp
    · unfold TradeEvents.processTradeRecorded at hp
      split at hp
      · cases hp
        rfl
      split at hp
      · cases hp
        rfl
      · cases hp
        rfl
      split at hp
      · obtain ⟨_,_,hp⟩ := Fallible.bind_ok.mp hp
        cases hp
      · split at hp <;> cases hp
        rfl
      · cases hp
    · unfold TradeEvents.processImbalanceSettlement at hp
      split at hp
      · cases hp
        rfl
      split at hp
      · cases hp
        rfl
      split at hp
      · cases hp
      · cases hp
        rfl
      split at hp
      · obtain ⟨_,_,hp⟩ := Fallible.bind_ok.mp hp
        cases hp
      · split at hp <;> cases hp
        rfl
      · cases hp
    · cases hp
  rw [same]

/-- A transfer that is refused only opens the row of its cycle. -/
theorem untouched_funding {cycleId : String} {quantity : Decimal}
    (h : funding cfg db payload cycleId quantity = .ok (db',verdict))
    (refused : verdict.status = .notProcessed) :
    db' = { db with books := Opening.getOrCreateCycle db.books cycleId } := by
  unfold funding at h
  dsimp only at h
  split at h
  · obtain ⟨⟨books,entry,fresh⟩,_,h⟩ := Fallible.bind_ok.mp h
    cases h
    cases fresh <;> cases refused
  · cases h
    rfl

theorem untouched_dispatch (h : dispatch cfg jwt db payload now = .ok (db',verdict))
    (covered : Covered payload) (refused : verdict.status = .notProcessed) :
    db' = db ∨ ∃ cycleId, payload.type = .transfer ∧ payload.cycleId = some cycleId ∧
      db' = { db with books := Opening.getOrCreateCycle db.books cycleId } := by
  rcases covered with own | ⟨type,normal⟩
  · left
    unfold dispatch at h
    generalize payload.type = type at h own
    cases type with
    | bid => exact untouched_bid h refused
    | bidAccepted => exact untouched_bidReply h refused
    | bidRejected => exact untouched_bidReply h refused
    | swapProposed => exact untouched_swapEvent h refused
    | swapSettled => exact untouched_swapEvent h refused
    | swapRejected => exact untouched_swapEvent h refused
    | swapCancelled => exact untouched_swapEvent h refused
    | swapExpired => exact untouched_swapEvent h refused
    | tradeRecorded => exact untouched_walletFact h refused
    | imbalanceSettlement => exact untouched_walletFact h refused
    | _ => cases own
  · right
    unfold dispatch at h
    rw [type] at h
    dsimp only at h
    unfold transfer at h
    rw [normal] at h
    obtain ⟨cycleId,hc,h⟩ := Fallible.bind_ok.mp h
    obtain ⟨quantity,_,h⟩ := Fallible.bind_ok.mp h
    refine ⟨cycleId,type,?_,untouched_funding h refused⟩
    unfold requireCycleId at hc
    split at hc
    · rename_i own
      cases hc
      exact own
    · cases hc

theorem idempotent_of_covered (covered : Covered payload) : payload.type.isIdempotent := by
  rcases covered with own | ⟨type,_⟩
  · generalize payload.type = type at own
    cases type <;> first | rfl | cases own
  · rw [type]
    rfl

/-- The row of a cycle is opened once. -/
theorem getOrCreateCycle_again (books : Books) (k : String) :
    Opening.getOrCreateCycle (Opening.getOrCreateCycle books k) k =
      Opening.getOrCreateCycle books k := by
  rcases StoredLedger.getOrCreateCycle_cases (Opening.getOrCreateCycle books k) k with
    ⟨same,_⟩ | ⟨free,_⟩
  · exact same
  · rcases StoredLedger.getOrCreateCycle_cases books k with ⟨kept,there⟩ | ⟨vacant,made⟩
    · have missing : books.cycles.get? k = none := by
        rw [← kept]
        exact free
      rw [missing] at there
      cases there
    · rw [made] at free
      dsimp only at free
      rw [Table.get?_insert,if_pos rfl] at free
      cases free

theorem removeClaim_free {processed : Table ProcessedIdpk.idpk} {idpk : String}
    (free : processed.get? idpk = none) : removeClaim processed idpk = processed := by
  apply Table.ext
  refine List.filter_eq_self.mpr fun row hrow => ?_
  exact decide_eq_true (Table.get?_eq_none.mp free row hrow)

theorem removeClaim_insert {processed : Table ProcessedIdpk.idpk}
    (free : processed.get? (claimRow payload).idpk = none) :
    removeClaim (processed.insert (claimRow payload) free) payload.idpk = processed := by
  apply Table.ext
  show (processed.rows ++ [claimRow payload]).filter (fun row => row.idpk ≠ payload.idpk) = _
  have kept : processed.rows.filter (fun row => row.idpk ≠ payload.idpk) = processed.rows :=
    congrArg Table.rows (removeClaim_free free)
  rw [List.filter_append,kept]
  simp [claimRow]

/-- A refusal that returns its claim leaves the question for the statement. -/
theorem returned_refused {claimed : Db} (claim : claim? db payload = some claimed)
    (served : dispatch cfg jwt (requestStatement cfg claimed payload now) payload now =
      .ok (db',verdict)) (covered : Covered payload) (refused : verdict.status = .notProcessed)
    (returned : verdict.Returned) :
    returnClaim db' payload verdict = requestStatement cfg db payload now := by
  have untouched : db' = requestStatement cfg claimed payload now := by
    rcases untouched_dispatch served covered refused with same | ⟨cycleId,type,cycle,same⟩
    · exact same
    · rw [same]
      unfold requestStatement
      rw [cycle,type]
      dsimp only
      rw [if_neg (by decide)]
      dsimp only
      rw [getOrCreateCycle_again]
  have unclaims : verdict.unclaim = true := returned.trans (decide_eq_true refused)
  unfold claim? at claim
  rw [if_pos (idempotent_of_covered covered)] at claim
  obtain ⟨processed,inserted,rfl⟩ := Option.map_eq_some_iff.mp claim
  obtain ⟨free,rfl⟩ := Table.insert?_eq_some.mp inserted
  unfold returnClaim
  rw [if_pos unclaims,untouched]
  unfold requestStatement
  split
  · dsimp only
    rw [removeClaim_insert]
  split
  · dsimp only
    rw [removeClaim_insert]
  · dsimp only
    rw [removeClaim_insert]

end Ingest

end EnergyNode
