import EnergyNode.AcceptSteps
import EnergyNode.BuyingSteps
import EnergyNode.Services

/-! The node's actions as moves. `causes` lists the outside facts an action
brings in, and `Caused` the market over which each of them is read. -/
namespace EnergyNode
open Lib

variable {cfg : Config} {P : Market → Cause → Prop}

namespace InformationRequests

theorem talk_enqueue (outbox : Outbox) (ask : String) (now : Instant) :
    (enqueue cfg outbox ask now).talk = outbox.talk := by
  unfold enqueue
  split
  · rfl
  · exact Outbox.talk_enqueue_other _ _ _ rfl

theorem talk_resolve (outbox : Outbox) (ask msgId idpk : String) (now : Instant) :
    (resolve outbox ask msgId idpk now).talk = outbox.talk := by
  unfold resolve
  split
  · rfl
  · rename_i row hrow
    have hmem := List.mem_of_mem_head? hrow
    rw [List.mem_insertionSort,List.mem_filter] at hmem
    have stored := Table.get?_of_mem (t := outbox) hmem.1
    exact Buying.talk_redispatched stored rfl

theorem notices_enqueue (outbox : Outbox) (ask : String) (now : Instant) :
    (enqueue cfg outbox ask now).notices = outbox.notices := by
  unfold enqueue
  split
  · rfl
  · exact Outbox.notices_enqueue_other _ _ _ rfl

theorem notices_resolve (outbox : Outbox) (ask msgId idpk : String) (now : Instant) :
    (resolve outbox ask msgId idpk now).notices = outbox.notices := by
  unfold resolve
  split
  · rfl
  · rename_i row hrow
    have hmem := List.mem_of_mem_head? hrow
    rw [List.mem_insertionSort,List.mem_filter] at hmem
    have stored := Table.get?_of_mem (t := outbox) hmem.1
    refine Outbox.notices_set _ _ ?_
    intro old hold
    rw [stored] at hold
    cases hold
    rfl

end InformationRequests

namespace Negotiations

theorem talk_stopProposalDispatches (outbox : Outbox) (n : Negotiation) :
    (stopProposalDispatches outbox n).talk = outbox.talk := by
  refine Outbox.talk_mapRows _ _ _ ?_
  intro row
  unfold silenced
  split <;> rfl

theorem notices_stopProposalDispatches (outbox : Outbox) (n : Negotiation) :
    (stopProposalDispatches outbox n).notices = outbox.notices := by
  refine Outbox.notices_mapRows _ _ _ ?_ ?_
  · intro row
    unfold silenced
    split <;> rfl
  · intro row event
    unfold silenced
    split
    · rename_i proposal
      have type := Content.type_of_offerEvent event
      rw [proposal.2.1] at type
      exact absurd type (by decide)
    · rfl

theorem front_stopDispatches (db : Db) (n : Negotiation) : (stopDispatches db n).front = db.front := by
  unfold stopDispatches Db.front Db.desk
  dsimp only
  rw [talk_stopProposalDispatches,notices_stopProposalDispatches]
  rfl

theorem front_acknowledge {db db' : Db} {target : String} {now : Instant}
    (h : acknowledge db target now = .ok db') : db'.front = db.front := by
  unfold acknowledge at h
  split at h
  · cases h
    rfl
  · obtain ⟨n,_,rfl⟩ := Fallible.map_ok.mp h
    rfl

theorem front_refuse {db db' : Db} {target : String} {now : Instant}
    (h : refuse db target now = .ok db') : db'.front = db.front := by
  unfold refuse at h
  split at h
  · cases h
    rfl
  · obtain ⟨n,_,rfl⟩ := Fallible.map_ok.mp h
    exact front_stopDispatches _ _

theorem front_processConfirmation {db db' : Db} {c : Confirmation} {now : Instant}
    {n : Negotiation} {fresh : Bool} (h : processConfirmation cfg db c now = .ok (db',n,fresh)) :
    db'.front = db.front := by
  unfold processConfirmation at h
  obtain ⟨n₁,_,h⟩ := Fallible.bind_ok.mp h
  obtain ⟨⟨books,applied⟩,_,h⟩ := Fallible.bind_ok.mp h
  obtain ⟨n₂,_,h⟩ := Fallible.bind_ok.mp h
  cases h
  exact front_stopDispatches _ _

theorem front_enqueueTakePayment {db db' : Db} {n : Negotiation} {now : Instant}
    (h : enqueueTakePayment cfg db n now = .ok db') : db'.front = db.front := by
  unfold enqueueTakePayment at h
  simp only [Fallible.throw_bind] at h
  split at h
  · split at h
    · split at h
      · split at h <;> cases h
        rfl
      · obtain ⟨quantity,_,h⟩ := Fallible.bind_ok.mp h
        split at h
        · obtain ⟨⟨books,entry,applied⟩,_,h⟩ := Fallible.bind_ok.mp h
          split at h <;> cases h
          unfold store Db.front Db.desk
          dsimp only
          rw [Outbox.talk_enqueue_other _ _ _ rfl,Outbox.notices_enqueue_other _ _ _ rfl]
          rfl
        · cases h
    · cases h
  · cases h

theorem front_processGivePayment {db db' : Db} {p : Payment} {now : Instant} {fresh : Bool}
    (h : processGivePayment cfg db p now = .ok (db',fresh)) : db'.front = db.front := by
  unfold processGivePayment at h
  simp only [Fallible.throw_bind] at h
  obtain ⟨n,_,h⟩ := Fallible.bind_ok.mp h
  split at h
  · split at h <;> cases h
    rfl
  obtain ⟨⟨books,entry,applied⟩,_,h⟩ := Fallible.bind_ok.mp h
  split at h
  · cases h
    rfl
  split at h
  · obtain ⟨n₁,_,h⟩ := Fallible.bind_ok.mp h
    obtain ⟨n₂,_,h⟩ := Fallible.bind_ok.mp h
    cases h
    exact front_stopDispatches _ _
  · obtain ⟨n₁,_,h⟩ := Fallible.bind_ok.mp h
    obtain ⟨n₂,_,h⟩ := Fallible.bind_ok.mp h
    cases h
    exact front_stopDispatches _ _

end Negotiations

namespace Opening

theorem front_applyStatement {db db' : Db} {payload : Payload} {now : Instant}
    (h : applyStatement cfg db payload now = .ok (some db')) : db'.front = db.front := by
  unfold applyStatement at h
  dsimp only at h
  split at h
  · split at h
    · split at h
      · cases h
      obtain ⟨s,_,h⟩ := Fallible.bind_ok.mp h
      obtain ⟨⟨strategies,cycle⟩,_,h⟩ := Fallible.bind_ok.mp h
      obtain ⟨books,_,h⟩ := Fallible.bind_ok.mp h
      cases h
      unfold Db.front Db.desk
      dsimp only
      rw [InformationRequests.talk_resolve,InformationRequests.notices_resolve]
      rfl
    · cases h
  · cases h

end Opening

namespace Ingest

theorem front_requestStatement (db : Db) (payload : Payload) (now : Instant) :
    (requestStatement cfg db payload now).front = db.front := by
  unfold requestStatement
  split
  · rfl
  split
  · rfl
  unfold Db.front Db.desk
  dsimp only
  split
  · rfl
  · rw [InformationRequests.talk_enqueue,InformationRequests.notices_enqueue]
    rfl

theorem front_transfer {db db' : Db} {payload : Payload} {now : Instant} {verdict : Verdict}
    (h : transfer cfg db payload now = .ok (db',verdict)) : db'.front = db.front := by
  unfold transfer at h
  obtain ⟨cycleId,_,h⟩ := Fallible.bind_ok.mp h
  obtain ⟨quantity,_,h⟩ := Fallible.bind_ok.mp h
  split at h
  · unfold funding at h
    dsimp only at h
    split at h
    · obtain ⟨⟨books,entry,fresh⟩,_,h⟩ := Fallible.bind_ok.mp h
      cases h
      rfl
    · cases h
      rfl
  · cases h
  · split at h
    · obtain ⟨⟨db₁,fresh⟩,hp,h⟩ := Fallible.bind_ok.mp h
      cases h
      exact Negotiations.front_processGivePayment hp
    · cases h

theorem front_demandStatement {db db' : Db} {payload : Payload} {verdict : Verdict}
    (h : demandStatement cfg db payload = .ok (db',verdict)) : db'.front = db.front := by
  unfold demandStatement at h
  obtain ⟨_,_,h⟩ := Fallible.bind_ok.mp h
  obtain ⟨_,_,h⟩ := Fallible.bind_ok.mp h
  obtain ⟨_,_,h⟩ := Fallible.bind_ok.mp h
  obtain ⟨_,_,h⟩ := Fallible.bind_ok.mp h
  obtain ⟨_,_,h⟩ := Fallible.bind_ok.mp h
  cases h
  rfl

theorem front_distanceTable {db db' : Db} {payload : Payload} {now : Instant} {verdict : Verdict}
    (h : distanceTable db payload now = .ok (db',verdict)) : db'.front = db.front := by
  have resolved : ({ db with outbox := (InformationRequests.resolve db.outbox "distance-table"
      payload.msgId payload.idpk now) } : Db).front = db.front := by
    unfold Db.front Db.desk
    dsimp only
    rw [InformationRequests.talk_resolve,InformationRequests.notices_resolve]
    rfl
  unfold distanceTable at h
  simp only [Fallible.throw_bind] at h
  split at h
  · cases h
    exact resolved
  obtain ⟨_,_,h⟩ := Fallible.bind_ok.mp h
  obtain ⟨_,_,h⟩ := Fallible.bind_ok.mp h
  split at h
  · split at h <;> cases h
    exact resolved
  · cases h

theorem front_negotiationProposal {db db' : Db} {payload : Payload} {now : Instant}
    {verdict : Verdict} (h : negotiationProposal db payload now = .ok (db',verdict)) :
    db'.front = db.front := by
  unfold negotiationProposal at h
  obtain ⟨_,_,h⟩ := Fallible.bind_ok.mp h
  dsimp only at h
  split at h
  · cases h
    rfl
  obtain ⟨_,_,h⟩ := Fallible.bind_ok.mp h
  split at h
  · obtain ⟨_,_,h⟩ := Fallible.bind_ok.mp h
    obtain ⟨_,_,h⟩ := Fallible.bind_ok.mp h
    cases h
    unfold Negotiations.propose
    dsimp only
    split <;> rfl
  · cases h

theorem front_acknowledgement {db db' : Db} {payload : Payload} {now : Instant} {verdict : Verdict}
    (h : acknowledgement db payload now = .ok (db',verdict)) : db'.front = db.front := by
  unfold acknowledgement at h
  obtain ⟨_,_,h⟩ := Fallible.bind_ok.mp h
  obtain ⟨_,ha,h⟩ := Fallible.bind_ok.mp h
  cases h
  exact Negotiations.front_acknowledge ha

theorem front_refusal {db db' : Db} {payload : Payload} {now : Instant} {verdict : Verdict}
    (h : refusal db payload now = .ok (db',verdict)) : db'.front = db.front := by
  unfold refusal at h
  obtain ⟨_,_,h⟩ := Fallible.bind_ok.mp h
  obtain ⟨_,hr,h⟩ := Fallible.bind_ok.mp h
  cases h
  exact Negotiations.front_refuse hr

theorem front_confirmation {db db' : Db} {payload : Payload} {now : Instant} {verdict : Verdict}
    (h : confirmation cfg db payload now = .ok (db',verdict)) : db'.front = db.front := by
  unfold confirmation at h
  obtain ⟨_,_,h⟩ := Fallible.bind_ok.mp h
  obtain ⟨_,_,h⟩ := Fallible.bind_ok.mp h
  obtain ⟨_,_,h⟩ := Fallible.bind_ok.mp h
  obtain ⟨_,_,h⟩ := Fallible.bind_ok.mp h
  obtain ⟨⟨db₁,n,fresh⟩,hc,h⟩ := Fallible.bind_ok.mp h
  have first := Negotiations.front_processConfirmation hc
  dsimp only at h
  split at h
  · obtain ⟨_,ht,h⟩ := Fallible.bind_ok.mp h
    cases h
    exact (Negotiations.front_enqueueTakePayment ht).trans first
  · cases h
    exact first

theorem front_negotiationReport {db db' : Db} {payload : Payload} {now : Instant}
    {verdict : Verdict} (h : negotiationReport db payload now = .ok (db',verdict)) :
    db'.front = db.front := by
  unfold negotiationReport at h
  simp only [Fallible.throw_bind] at h
  obtain ⟨_,_,h⟩ := Fallible.bind_ok.mp h
  split at h
  · obtain ⟨_,_,h⟩ := Fallible.bind_ok.mp h
    split at h
    · cases h
      rfl
    obtain ⟨_,_,h⟩ := Fallible.bind_ok.mp h
    obtain ⟨_,_,h⟩ := Fallible.bind_ok.mp h
    split at h
    · split at h <;> cases h
      rfl
    · cases h
  · cases h

theorem front_walletFact {db db' : Db} {payload : Payload} {verdict : Verdict}
    (h : walletFact cfg db payload = .ok (db',verdict)) : db'.front = db.front := by
  unfold walletFact at h
  obtain ⟨_,_,h⟩ := Fallible.bind_ok.mp h
  cases h
  rfl

theorem front_statusStatement {db db' : Db} {payload : Payload} {now : Instant} {verdict : Verdict}
    (h : statusStatement cfg db payload now = .ok (db',verdict)) : db'.front = db.front := by
  unfold statusStatement at h
  obtain ⟨applied,ha,h⟩ := Fallible.bind_ok.mp h
  split at h
  · cases h
    exact Opening.front_applyStatement ha
  · cases h
    rfl

theorem bid_moves {db db' : Db} {payload : Payload} {now : Instant} {verdict : Verdict}
    (h : bid cfg db payload now = .ok (db',verdict))
    (hP : P db.market (.bid payload.idpk payload.msgId)) : Moves cfg P db.desk db'.desk := by
  unfold bid at h
  obtain ⟨⟨db₁,status,reason⟩,hp,h⟩ := Fallible.bind_ok.mp h
  have first : Moves cfg P db.desk db₁.desk := SellerBids.processIncomingBid_moves hp hP
  dsimp only at h
  split at h
  · cases h
    exact first
  split at h
  · cases h
    exact first
  obtain ⟨policy,_,h⟩ := Fallible.bind_ok.mp h
  split at h
  · cases h
    exact first
  obtain ⟨⟨db₂,outcome⟩,hr,h⟩ := Fallible.bind_ok.mp h
  have second : Moves cfg P db₁.desk db₂.desk := SellerBids.reserveIncomingBid_moves hr
  dsimp only at h
  split at h <;> cases h <;> exact first.trans second

theorem bidReply_moves {db db' : Db} {payload : Payload} {now : Instant} {verdict : Verdict}
    (h : bidReply db payload now = .ok (db',verdict)) : Moves cfg P db.desk db'.desk := by
  obtain ⟨refusal,replied⟩ := bidReply_cases h
  exact BidReplies.processBidReply_moves replied

theorem swapEvent_moves {jwt : Jwt} {db db' : Db} {payload : Payload}
    {type : WalletEvents.EventType} {now : Instant} {verdict : Verdict}
    (h : swapEvent cfg jwt db payload type now = .ok (db',verdict))
    (hP : P db.market (.event type payload.data (rejection payload)))
    (hA : type = .proposed → ∀ m, P m .announcement) : Moves cfg P db.desk db'.desk := by
  unfold swapEvent at h
  obtain ⟨⟨db₁,record⟩,hp,h⟩ := Fallible.bind_ok.mp h
  have processed := WalletEvents.processSwapEvent_spec hp
  have first : Moves cfg P db.desk db₁.desk := WalletEvents.processed_moves processed hP
  dsimp only at h
  split at h
  · cases h
    exact first
  · split at h
    · rename_i proposed
      cases h
      exact first.trans
        (SellerBidAccepted.enqueueBidAccepted_moves jwt _ _ _ processed.get? (hA proposed _))
    · cases h
      exact first

/-- The facts a protocol message brings in. -/
def brought (payload : Payload) : List Cause :=
  match WalletEvents.EventType.ofMessage payload.type with
  | some type => .event type payload.data (rejection payload) ::
      if type = .proposed then [.announcement] else []
  | none => if payload.type = .bid then [.bid payload.idpk payload.msgId] else []

theorem dispatch_moves {jwt : Jwt} {db db' : Db} {payload : Payload} {now : Instant}
    {verdict : Verdict} (h : dispatch cfg jwt db payload now = .ok (db',verdict))
    (hP : ∀ c ∈ brought payload, P db.market c)
    (hA : .announcement ∈ brought payload → ∀ m, P m .announcement) :
    Moves cfg P db.desk db'.desk := by
  have still (e : db'.desk = db.desk) : Moves cfg P db.desk db'.desk := by rw [e]
  have event (type : WalletEvents.EventType)
      (ht : WalletEvents.EventType.ofMessage payload.type = some type) :
      P db.market (.event type payload.data (rejection payload)) := by
    apply hP
    simp [brought,ht]
  have announced (ht : payload.type = .swapProposed) : ∀ m, P m .announcement := by
    apply hA
    simp [brought,ht,WalletEvents.EventType.ofMessage]
  unfold dispatch at h
  split at h <;> rename_i type
  · exact still (congrArg Prod.fst (front_statusStatement h))
  · exact still (congrArg Prod.fst (front_transfer h))
  · exact still (congrArg Prod.fst (front_demandStatement h))
  · exact still (congrArg Prod.fst (front_distanceTable h))
  · exact still (congrArg Prod.fst (front_negotiationProposal h))
  · refine bid_moves h (hP _ ?_)
    simp [brought,type,WalletEvents.EventType.ofMessage]
  · exact bidReply_moves h
  · exact bidReply_moves h
  · exact still (congrArg Prod.fst (front_acknowledgement h))
  · exact still (congrArg Prod.fst (front_refusal h))
  · exact still (congrArg Prod.fst (front_confirmation h))
  · exact still (congrArg Prod.fst (front_confirmation h))
  · exact still (congrArg Prod.fst (front_negotiationReport h))
  · exact swapEvent_moves h (event _ (by rw [type]; rfl)) fun _ => announced type
  · exact swapEvent_moves h (event _ (by rw [type]; rfl)) nofun
  · exact swapEvent_moves h (event _ (by rw [type]; rfl)) nofun
  · exact swapEvent_moves h (event _ (by rw [type]; rfl)) nofun
  · exact swapEvent_moves h (event _ (by rw [type]; rfl)) nofun
  · exact still (congrArg Prod.fst (front_walletFact h))
  · exact still (congrArg Prod.fst (front_walletFact h))
  · cases h
    exact .refl

theorem desk_claim? {db db' : Db} {payload : Payload} (h : claim? db payload = some db') :
    db'.desk = db.desk := by
  unfold claim? at h
  split at h
  · obtain ⟨processed,_,rfl⟩ := Option.map_eq_some_iff.mp h
    rfl
  · cases h
    rfl

theorem desk_returnClaim (db : Db) (payload : Payload) (verdict : Verdict) :
    (returnClaim db payload verdict).desk = db.desk := by
  unfold returnClaim
  split <;> rfl

theorem process_moves {jwt : Jwt} {db db' : Db} {payload : Payload} {now : Instant}
    {verdict : Verdict} (h : process cfg jwt db payload now = .ok (db',verdict))
    (hP : ∀ c ∈ brought payload, P db.market c)
    (hA : .announcement ∈ brought payload → ∀ m, P m .announcement) :
    Moves cfg P db.desk db'.desk := by
  obtain ⟨rfl,-⟩ | ⟨claimed,db₁,hclaim,hd,rfl⟩ := process_cases h
  · exact .refl
  · have start : (requestStatement cfg claimed payload now).desk = db.desk :=
      (congrArg Prod.fst (front_requestStatement _ _ _)).trans (desk_claim? hclaim)
    have market : (requestStatement cfg claimed payload now).market = db.market :=
      congrArg Desk.market start
    rw [desk_returnClaim,← start]
    exact dispatch_moves hd (fun c hc => market ▸ hP c hc) hA

theorem ingest_moves (jwt : Jwt) (db : Db) (payload : Payload) (now : Instant)
    (hP : ∀ c ∈ brought payload, P db.market c)
    (hA : .announcement ∈ brought payload → ∀ m, P m .announcement) :
    Moves cfg P db.desk (ingest cfg jwt db payload now).1.desk := by
  unfold ingest
  split
  · rename_i hp
    have moves := process_moves hp hP hA
    exact moves
  · exact .refl

end Ingest

namespace Node

/-- The answer of a POST: the swap it confirms and the state it repeats. -/
def settledCauses (db : Db) (attempt : SwapDispatch.ProposalAttempt)
    (answer : SwapDispatch.WriteAnswer) : List Cause :=
  match db.market.swaps.get? attempt.idpk with
  | none => []
  | some record =>
      let (verdict,replay) := SwapDispatch.judge answer
      (match verdict.confirmedSwapId with
        | some swapId => [.answer record.idpk swapId]
        | none => []) ++
      (match replay with
        | some seen => WalletRecovery.observedEvent record seen.swapId seen
        | none => [])

theorem heard_settledCauses {db : Db} {attempt : SwapDispatch.ProposalAttempt}
    {answer : SwapDispatch.WriteAnswer} {c : Cause} (h : c ∈ settledCauses db attempt answer) :
    c.heard = true := by
  unfold settledCauses at h
  split at h
  · cases h
  rename_i r _
  rcases List.mem_append.mp h with h | h
  · split at h
    · rw [List.mem_singleton.mp h]
      rfl
    · cases h
  · split at h
    · rename_i seen _
      exact WalletRecovery.heard_observed (r := { r with swapId := some seen.swapId }) h
    · cases h

/-- The outside facts an action brings in. -/
def causes (db : Db) : Action → List Cause
  | .ingest payload _ => Ingest.brought payload
  | .claimProposal _ _ => [.dispatch]
  | .recoverProposal attempt answer _ =>
      .dispatch :: match db.market.swaps.get? attempt.idpk with
      | none => []
      | some record =>
          match WalletRecovery.inspectKnownSwap record.swapId answer with
          | none => []
          | some seen => WalletRecovery.observed record seen
  | .settleProposal attempt answer _ => .dispatch :: settledCauses db attempt answer
  | .sweep idpk answer now =>
      match (db.market.swaps.get? idpk).filter fun r => SwapTimeouts.stale r now with
      | none => []
      | some record => SwapTimeouts.swept record answer
  | .takeAccepted idpk _ _ => [.acceptance idpk]
  | .leaseAccept _ _ => [.dispatch]
  | .recoverAccept idpk answer _ => .dispatch :: SwapAccept.recovered db idpk answer
  | .sendAccept _ _ => [.dispatch]
  | .settleAccept idpk answer check _ =>
      .dispatch :: .refusal idpk :: (SwapAccept.confirmedBy answer idpk ++ SwapAccept.recovered db idpk check)
  | _ => []

/-- Messages and accepted bids apart, an action brings its own work and what the
wallet says. -/
theorem mem_causes {db : Db} {a : Action} {c : Cause} (h : c ∈ causes db a) :
    (∃ payload now, a = .ingest payload now ∧ c ∈ Ingest.brought payload) ∨
      (∃ k jwks now, a = .takeAccepted k jwks now ∧ c = .acceptance k) ∨
      c = .dispatch ∨ c.heard = true := by
  cases a with
  | ingest payload now => exact .inl ⟨payload,now,rfl,h⟩
  | takeAccepted k jwks now => exact .inr (.inl ⟨k,jwks,now,rfl,List.mem_singleton.mp h⟩)
  | claimProposal | leaseAccept | sendAccept => exact .inr (.inr (.inl (List.mem_singleton.mp h)))
  | recoverProposal attempt answer now =>
    refine .inr (.inr ((List.mem_cons.mp h).imp_right fun h => ?_))
    split at h
    · cases h
    split at h
    · cases h
    · exact WalletRecovery.heard_observed h
  | settleProposal attempt answer now =>
    exact .inr (.inr ((List.mem_cons.mp h).imp_right heard_settledCauses))
  | sweep idpk answer now =>
    simp only [causes] at h
    split at h
    · cases h
    · exact .inr (.inr (.inr (SwapTimeouts.heard_swept h)))
  | recoverAccept idpk answer now =>
    exact .inr (.inr ((List.mem_cons.mp h).imp_right SwapAccept.heard_recovered))
  | settleAccept idpk answer check now =>
    refine .inr (.inr ((List.mem_cons.mp h).imp_right fun h => ?_))
    rcases List.mem_cons.mp h with rfl | h
    · rfl
    rcases List.mem_append.mp h with h | h
    · unfold SwapAccept.confirmedBy at h
      split at h
      · rw [List.mem_singleton.mp h]
        rfl
      · cases h
    · exact SwapAccept.heard_recovered h
  | _ => cases h

/-- A repeated POST is read over the record its answer was stored on. -/
def reading (db : Db) : Action → Cause → Market
  | .settleProposal _ _ _, .answer .. => db.market
  | .settleProposal attempt answer now, _ =>
      (SwapDispatch.finish db attempt (SwapDispatch.judge answer).1 now).market
  | _, _ => db.market

/-- What the moves of an action may be caused by, and over which market. -/
def Caused (db : Db) (a : Action) (m : Market) (c : Cause) : Prop :=
  c ∈ causes db a ∧ (c.placeless ∨ m = reading db a c)

theorem dispatched {db : Db} {a : Action} (h : .dispatch ∈ causes db a) (m : Market) :
    Caused db a m .dispatch := ⟨h,.inl rfl⟩

theorem attempted_moves {db : Db} {result : Result Db}
    (h : ∀ db', result = .ok db' → Moves cfg P db.desk db'.desk) :
    Moves cfg P db.desk (attempted db result).desk := by
  cases result with
  | error f => exact .refl
  | ok db' => exact h db' rfl

theorem settleProposal_moves {db db' : Db} {attempt : SwapDispatch.ProposalAttempt}
    {answer : SwapDispatch.WriteAnswer} {now : Instant}
    (h : SwapDispatch.settleAttempt cfg db attempt answer now = .ok db') :
    Moves cfg (Caused db (.settleProposal attempt answer now)) db.desk db'.desk := by
  cases hr : db.market.swaps.get? attempt.idpk with
  | none =>
    have same : SwapDispatch.finish db attempt (SwapDispatch.judge answer).1 now = db := by
      unfold SwapDispatch.finish
      rw [hr]
    unfold SwapDispatch.settleAttempt at h
    dsimp only at h
    rw [same,hr] at h
    split at h
    · rename_i hs
      cases hs
    · cases h
      exact .refl
  | some r =>
    have key := Table.key_of_get? hr
    refine SwapDispatch.settleAttempt_moves h ?_ ?_ (dispatched (List.mem_cons_self ..))
    · intro swapId hv
      refine ⟨?_,.inr rfl⟩
      simp [causes,settledCauses,hr,hv,key]
    · intro seen s hseen hs id c hc
      obtain ⟨r',hr',deal⟩ := SwapDispatch.finish_sameDeal hs
      cases hr.symm.trans hr'
      unfold WalletRecovery.observed at hc
      rw [id] at hc
      have events : WalletRecovery.observedEvent s seen.swapId seen =
          WalletRecovery.observedEvent r seen.swapId seen := by
        unfold WalletRecovery.observedEvent WalletRecovery.observedData
        rw [deal.idpk,deal.role]
      dsimp only at hc
      rw [events] at hc
      refine ⟨?_,.inr ?_⟩
      · simp only [causes,settledCauses,hr,hseen]
        exact List.mem_cons_of_mem _ (List.mem_append_right _ hc)
      · unfold WalletRecovery.observedEvent at hc
        split at hc
        · cases List.mem_singleton.mp hc
          rfl
        · split at hc
          · cases List.mem_singleton.mp hc
            rfl
          · cases hc
          · split at hc
            · cases List.mem_singleton.mp hc
              rfl
            · cases hc

theorem step_moves (env : Env) (db : Db) (a : Action) :
    Moves env.cfg (Caused db a) db.desk (step env db a).desk := by
  cases a with
  | ingest payload now => exact Ingest.ingest_moves _ _ _ _ (fun c hc => ⟨hc,.inr rfl⟩) fun hc _ => ⟨hc,.inl rfl⟩
  | feed payload => exact MarketFeed.persist_moves _ _
  | sellerBids locked maxOffers now =>
    refine attempted_moves fun db' h => ?_
    obtain ⟨⟨db₁,tally⟩,hp,rfl⟩ := Fallible.map_ok.mp h
    exact SellerBids.processDueSellerBids_moves hp
  | sellerOffer cycleId available now =>
    exact attempted_moves fun db' h => SellerOffers.sellerOffer_moves h
  | reprice offerId price now => exact attempted_moves fun db' h => SellerOffers.changePrice_moves h
  | withdraw offerId now => exact attempted_moves fun db' h => SellerOffers.withdraw_moves h
  | closeExpired now => exact SellerOffers.closeExpired_moves _ _
  | claimProposal locked now =>
    refine attempted_moves fun db' h => ?_
    obtain ⟨⟨db₁,out⟩,hp,rfl⟩ := Fallible.map_ok.mp h
    exact SwapDispatch.claimOne_moves hp (dispatched (List.mem_singleton_self _))
  | recoverProposal attempt answer now =>
    refine attempted_moves fun db' h => ?_
    unfold recoverProposal at h
    split at h
    · cases h
      exact .refl
    · rename_i seen hseen
      obtain ⟨⟨db₁,known⟩,hp,rfl⟩ := Fallible.map_ok.mp h
      refine SwapDispatch.recoverAttempt_moves hp ?_ (dispatched (List.mem_cons_self ..))
      intro r hr c hc
      refine ⟨?_,.inr rfl⟩
      rw [hr,Option.bind_some] at hseen
      simp only [causes,hr,hseen]
      exact List.mem_cons_of_mem _ hc
  | settleProposal attempt answer now => exact attempted_moves fun db' h => settleProposal_moves h
  | sweep idpk answer now =>
    refine attempted_moves fun db' h => ?_
    unfold sweep at h
    split at h
    · cases h
      exact .refl
    · rename_i r hr
      obtain ⟨⟨db₁,verdict⟩,hp,rfl⟩ := Fallible.map_ok.mp h
      have hget := (Option.filter_eq_some_iff.mp hr).1
      refine SwapTimeouts.sweepRecord_moves (Table.key_of_get? hget ▸ hget) hp ?_
      intro c hc
      refine ⟨?_,.inr rfl⟩
      simp only [causes,hr]
      exact hc
  | expireBids now => exact SwapTimeouts.expireBids_moves _ _
  | takeAccepted idpk jwks now =>
    exact SwapAccept.takeAcceptedBid_moves _ _ _ _ _ ⟨List.mem_singleton_self _,.inr rfl⟩
  | leaseAccept idpk now => exact SwapAccept.lease_moves _ _ _ (dispatched (List.mem_singleton_self _))
  | recoverAccept idpk answer now =>
    refine attempted_moves fun db' h => ?_
    obtain ⟨⟨db₁,known⟩,hp,rfl⟩ := Fallible.map_ok.mp h
    exact SwapAccept.recover_moves hp (fun c hc => ⟨List.mem_cons_of_mem _ hc,.inr rfl⟩)
      (dispatched (List.mem_cons_self ..))
  | sendAccept idpk now => exact SwapAccept.send_moves _ _ _ (dispatched (List.mem_singleton_self _))
  | settleAccept idpk answer check now =>
    refine attempted_moves fun db' h => ?_
    have later {c : Cause} (hc : c ∈ SwapAccept.confirmedBy answer idpk ++
        SwapAccept.recovered db idpk check) : c ∈ causes db (.settleAccept idpk answer check now) :=
      List.mem_cons_of_mem _ (List.mem_cons_of_mem _ hc)
    refine SwapAccept.settleAnswer_moves h ⟨List.mem_cons_of_mem _ (List.mem_cons_self ..),.inr rfl⟩
      ?_ ?_ (dispatched (List.mem_cons_self ..))
    · intro accepted
      exact ⟨later (List.mem_append_left _ (SwapAccept.mem_confirmedBy accepted)),.inr rfl⟩
    · intro c hc
      exact ⟨later (List.mem_append_right _ hc),.inr rfl⟩
  | buy order now => exact Buying.enqueueBuyBid_moves _ _ _
  | renewBids now => exact Buying.renewFailed_moves _ _
  | published msgId =>
    unfold step Db.desk
    dsimp only
    rw [Buying.talk_markPublished]
  | publishFailed msgId error =>
    unfold step Db.desk
    dsimp only
    rw [Buying.talk_markFailed]
  | closeMarkets locked now =>
    refine attempted_moves fun db' h => ?_
    obtain ⟨books,_,rfl⟩ := Fallible.map_ok.mp h
    exact .refl

end Node

end EnergyNode
