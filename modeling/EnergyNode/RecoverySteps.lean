import EnergyNode.EventSteps

/-! Recovery as moves: what a GET or a repeated POST reconstructs, the dispatch
of proposals and the sweep. -/
namespace EnergyNode
open Lib

variable {cfg : Config} {P : Market → Cause → Prop}

namespace WalletRecovery
open WalletEvents

/-- The events a recovery reconstructs from what the wallet showed. -/
def observedEvent (record : SwapRecord) (swapId : String) (seen : Observation) : List Cause :=
  match seen.status.event? with
  | some event => [.event event (observedData record swapId (reasonField seen)) .null]
  | none =>
      match record.role, seen.token with
      | .proposer, some token =>
          [.event .proposed (observedData record swapId [("token",.str token)]) .null]
      | .proposer, none => []
      | .acceptor, _ => if seen.status = .accepted then [.confirmation record.idpk] else []

def observed (record : SwapRecord) (seen : Observation) : List Cause :=
  match record.swapId with
  | none => []
  | some swapId => observedEvent record swapId seen

theorem heard_observed {r : SwapRecord} {seen : Observation} {c : Cause} (h : c ∈ observed r seen) :
    c.heard = true := by
  unfold observed observedEvent at h
  split at h
  · cases h
  split at h
  · rw [List.mem_singleton.mp h]
    rfl
  split at h
  · rw [List.mem_singleton.mp h]
    rfl
  · cases h
  · split at h
    · rw [List.mem_singleton.mp h]
      rfl
    · cases h

theorem applyWalletObservation_moves {db db' : Db} {r : SwapRecord} {seen : Observation}
    {now : Instant} {known : Bool} (hr : db.market.swaps.get? r.idpk = some r)
    (h : applyWalletObservation cfg db r seen now = .ok (db',known))
    (hP : ∀ c ∈ observed r seen, P db.market c) : Moves cfg P db.desk db'.desk := by
  unfold applyWalletObservation at h
  unfold observed at hP
  cases hid : r.swapId with
  | none =>
    simp only [hid] at h
    cases h
    exact .refl
  | some swapId =>
    simp only [hid] at h hP
    unfold observedEvent at hP
    split at h
    · cases h
      exact .refl
    split at h
    · cases h
      exact .refl
    rename_i live
    rw [Bool.not_eq_true] at live
    cases hev : seen.status.event? with
    | some event =>
      simp only [hev,List.mem_singleton,forall_eq] at h hP
      obtain ⟨⟨db₁,out⟩,hp,h⟩ := Fallible.bind_ok.mp h
      obtain ⟨rfl,_⟩ := Prod.mk.injEq .. ▸ Fallible.pure_ok.mp h
      exact processed_moves (processSwapEvent_spec hp) hP
    | none =>
      simp only [hev] at h hP
      cases hrole : r.role with
      | proposer =>
        cases htoken : seen.token with
        | some token =>
          simp only [hrole,htoken,List.mem_singleton,forall_eq] at h hP
          obtain ⟨⟨db₁,out⟩,hp,h⟩ := Fallible.bind_ok.mp h
          obtain ⟨rfl,_⟩ := Prod.mk.injEq .. ▸ Fallible.pure_ok.mp h
          exact processed_moves (processSwapEvent_spec hp) hP
        | none =>
          simp only [hrole,htoken] at h
          cases h
          exact kept_move hr ⟨rfl,rfl,hrole.symm,rfl,rfl,rfl,rfl,rfl,rfl,rfl,rfl,rfl⟩ hid.symm
            ⟨rfl,rfl⟩ (.inr ⟨live,.inl ⟨hrole,rfl⟩⟩)
            (fun other => by rw [hrole] at other; cases other) (.inl ⟨rfl,rfl,rfl⟩)
      | acceptor =>
        simp only [hrole] at h hP
        split at h
        · rename_i accepted
          cases h
          rw [if_pos accepted] at hP
          exact kept_move hr ⟨rfl,rfl,hrole.symm,rfl,rfl,rfl,rfl,rfl,rfl,rfl,rfl,rfl⟩ hid.symm
            ⟨rfl,rfl⟩ (.inr ⟨live,.inr ⟨hrole,rfl⟩⟩)
            (fun _ _ => .inr (hP _ (List.mem_singleton_self _))) (.inl ⟨rfl,rfl,rfl⟩)
        · cases h
          exact .refl

theorem applyWalletObservation_unknown {db db' : Db} {r : SwapRecord} {seen : Observation}
    {now : Instant} (h : applyWalletObservation cfg db r seen now = .ok (db',false)) :
    db' = db := by
  unfold applyWalletObservation at h
  split at h
  · cases h
    rfl
  split at h
  · cases h
    rfl
  split at h
  · cases h
  split at h
  · obtain ⟨_,_,h⟩ := Fallible.bind_ok.mp h
    cases h
  split at h
  · obtain ⟨_,_,h⟩ := Fallible.bind_ok.mp h
    cases h
  · cases h
  split at h
  · cases h
  · cases h
    rfl

end WalletRecovery

namespace SwapDispatch
open WalletEvents WalletRecovery

theorem finishLive_kept (r : SwapRecord) (attempts : Nat) (verdict : Verdict) (now : Instant) :
    SameDeal r (finishLive r attempts verdict now) ∧
      (finishLive r attempts verdict now).status = r.status ∧
      (finishLive r attempts verdict now).swapId = (answered r verdict).swapId ∧
      SameProposal r (finishLive r attempts verdict now) ∧
      SwapAccept.unanswered (finishLive r attempts verdict now) = SwapAccept.unanswered r := by
  unfold finishLive
  cases verdict.outcome <;>
    exact ⟨⟨rfl,rfl,rfl,rfl,rfl,rfl,rfl,rfl,rfl,rfl,rfl,rfl⟩,rfl,rfl,⟨rfl,rfl⟩,rfl⟩

theorem answered_swapId (r : SwapRecord) (verdict : Verdict) :
    (answered r verdict).swapId = r.swapId ∨ ∃ swapId, verdict.confirmedSwapId = some swapId ∧
      blank r.swapId ∧ swapId ≠ "" ∧ (answered r verdict).swapId = some swapId := by
  unfold answered released
  by_cases h : blank r.swapId && !blank verdict.confirmedSwapId
  · simp only [h,if_true]
    rw [Bool.and_eq_true,Bool.not_eq_true'] at h
    cases hv : verdict.confirmedSwapId with
    | none => simp [hv,blank] at h
    | some swapId => exact .inr ⟨swapId,rfl,h.1,by simpa [hv,blank] using h.2,rfl⟩
  · simp only [h]
    exact .inl rfl

theorem finish_moves (db : Db) (attempt : ProposalAttempt) (verdict : Verdict) (now : Instant)
    (hP : ∀ swapId, verdict.confirmedSwapId = some swapId →
      P db.market (.answer attempt.idpk swapId)) (hD : ∀ m, P m .dispatch) :
    Moves cfg P db.desk (finish db attempt verdict now).desk := by
  unfold finish
  cases hr : db.market.swaps.get? attempt.idpk with
  | none => exact .refl
  | some r =>
    have key := Table.key_of_get? hr
    have hr' : db.market.swaps.get? r.idpk = some r := key ▸ hr
    dsimp only
    split
    · exact .refl
    split
    · exact kept_move hr' ⟨rfl,rfl,rfl,rfl,rfl,rfl,rfl,rfl,rfl,rfl,rfl,rfl⟩ rfl ⟨rfl,rfl⟩
        (.inl rfl) (fun _ work => .inl work) (.inr (hD _))
    · obtain ⟨deal,status,id,proposal,work⟩ := finishLive_kept r attempt.attemptCount verdict now
      refine .single (.kept r _ hr' deal (.inl status) ?_ proposal
        (fun _ due => .inl (work.trans due)) (.inr (hD _)))
      rw [id]
      rcases answered_swapId r verdict with h | ⟨swapId,hv,hb,hne,h⟩
      · exact .inl h
      · exact .inr ⟨swapId,key ▸ hP swapId hv,hb,hne,h⟩

theorem finish_sameDeal {db : Db} {attempt : ProposalAttempt} {verdict : Verdict} {now : Instant}
    {s : SwapRecord} (h : (finish db attempt verdict now).market.swaps.get? attempt.idpk = some s) :
    ∃ r, db.market.swaps.get? attempt.idpk = some r ∧ SameDeal r s := by
  unfold finish at h
  cases hr : db.market.swaps.get? attempt.idpk with
  | none =>
    rw [hr] at h
    dsimp only at h
    rw [hr] at h
    cases h
  | some r =>
    refine ⟨r,rfl,?_⟩
    have key := Table.key_of_get? hr
    rw [hr] at h
    dsimp only at h
    split at h
    · rw [hr] at h
      cases h
      exact .refl _
    split at h
    · have stored := Table.get?_set_self (a := finishMoved r verdict now) (key ▸ hr)
      rw [show (finishMoved r verdict now).idpk = attempt.idpk from key] at stored
      cases stored.symm.trans h
      exact ⟨rfl,rfl,rfl,rfl,rfl,rfl,rfl,rfl,rfl,rfl,rfl,rfl⟩
    · have deal := (finishLive_kept r attempt.attemptCount verdict now).1
      have stored := Table.get?_set_self (a := finishLive r attempt.attemptCount verdict now)
        (SameDeal.get? (key ▸ hr) deal)
      rw [deal.idpk,key] at stored
      cases stored.symm.trans h
      exact deal

theorem recoverAttempt_moves {db db' : Db} {attempt : ProposalAttempt} {seen : Observation}
    {now : Instant} {known : Bool} (h : recoverAttempt cfg db attempt seen now = .ok (db',known))
    (hP : ∀ r, db.market.swaps.get? attempt.idpk = some r → ∀ c ∈ observed r seen, P db.market c)
    (hD : ∀ m, P m .dispatch) : Moves cfg P db.desk db'.desk := by
  unfold recoverAttempt at h
  cases hr : db.market.swaps.get? attempt.idpk with
  | none =>
    simp only [hr] at h
    cases h
    exact .refl
  | some r =>
    simp only [hr] at h
    split at h
    · cases h
      exact .refl
    obtain ⟨⟨db₁,found⟩,ho,h⟩ := Fallible.bind_ok.mp h
    have first : Moves cfg P db.desk db₁.desk :=
      applyWalletObservation_moves (Table.key_of_get? hr ▸ hr) ho (hP r hr)
    cases found with
    | true =>
      obtain ⟨rfl,_⟩ := Prod.mk.injEq .. ▸ Fallible.pure_ok.mp h
      exact first.trans (finish_moves _ _ _ _ (fun _ h => by cases h) hD)
    | false =>
      obtain ⟨rfl,_⟩ := Prod.mk.injEq .. ▸ Fallible.pure_ok.mp h
      exact first

theorem settleAttempt_moves {db db' : Db} {attempt : ProposalAttempt} {answer : WriteAnswer}
    {now : Instant} (h : settleAttempt cfg db attempt answer now = .ok db')
    (hanswer : ∀ swapId, (judge answer).1.confirmedSwapId = some swapId →
      P db.market (.answer attempt.idpk swapId))
    (hreplay : ∀ seen r, (judge answer).2 = some seen →
      (finish db attempt (judge answer).1 now).market.swaps.get? attempt.idpk = some r →
      r.swapId = some seen.swapId → ∀ c ∈ observed r seen, P (finish db attempt (judge answer).1 now).market c)
    (hD : ∀ m, P m .dispatch) :
    Moves cfg P db.desk db'.desk := by
  have first : Moves cfg P db.desk (finish db attempt (judge answer).1 now).desk :=
    finish_moves _ _ _ _ hanswer hD
  unfold settleAttempt at h
  dsimp only at h
  split at h
  · rename_i seen r hseen hr
    split at h
    · rename_i id
      obtain ⟨⟨db₁,known⟩,ho,rfl⟩ := Fallible.map_ok.mp h
      exact first.trans
        (applyWalletObservation_moves (Table.key_of_get? hr ▸ hr) ho (hreplay seen r hseen hr id))
    · cases h
      exact first
  · cases h
    exact first

theorem candidate?_spec {m : Market} {locked : List String} {now : Instant} {r : SwapRecord}
    (h : candidate? cfg m locked now = some r) :
    m.swaps.get? r.idpk = some r ∧ dispatchable r now ∧ backed cfg m r := by
  have hmem := List.mem_of_mem_head? h
  rw [List.mem_insertionSort,List.mem_filter] at hmem
  obtain ⟨hr,hc⟩ := hmem
  simp only [Bool.and_eq_true] at hc
  exact ⟨Table.get?_of_mem hr,hc.1.1,hc.1.2⟩

theorem claimOne_moves {db db' : Db} {locked : List String} {now : Instant}
    {out : Option ProposalAttempt} (h : claimOne cfg db locked now = .ok (db',out))
    (hD : ∀ m, P m .dispatch) : Moves cfg P db.desk db'.desk := by
  unfold claimOne at h
  cases hc : candidate? cfg db.market locked now with
  | none =>
    simp only [hc] at h
    cases h
    exact .refl
  | some r =>
    simp only [hc] at h
    obtain ⟨_,_,h⟩ := Fallible.bind_ok.mp h
    obtain ⟨rfl,_⟩ := Prod.mk.injEq .. ▸ Fallible.pure_ok.mp h
    obtain ⟨hr,hd,hb⟩ := candidate?_spec hc
    exact .single (.claimed r now hr hd hb (hD _))

end SwapDispatch

namespace SwapTimeouts
open WalletEvents WalletRecovery

theorem expireRecord_desk (db : Db) (r : SwapRecord) (reason : String) (now : Instant)
    (live : r.status.terminal = false) : (expireRecord cfg db r reason now).desk =
      ⟨setBidExpired
        ((db.market.setSwap { r with status := .expired, rejectionReason := some reason }).moved r
          .release) (bidKey r),db.outbox.talk⟩ := by
  unfold expireRecord
  simp only [live,Bool.false_eq_true,if_false,closeBid,Db.desk]
  rw [market_moveReservation,talk_moveReservation]
  rfl

theorem expireRecord_moves {db : Db} {r : SwapRecord} (reason : String) (now : Instant)
    (hr : db.market.swaps.get? r.idpk = some r) (hP : P db.market (.expiry r.idpk reason)) :
    Moves cfg P db.desk (expireRecord cfg db r reason now).desk := by
  cases live : r.status.terminal with
  | true =>
    unfold expireRecord
    rw [if_pos live]
  | false =>
    rw [expireRecord_desk db r reason now live]
    exact .single (.expired r reason hP hr live)

/-- What the sweep concludes about a stale record. -/
def swept (r : SwapRecord) (answer : GetAnswer) : List Cause :=
  if neverSent r then [.expiry r.idpk "PROPOSAL_NEVER_SENT"]
  else match r.swapId, answer with
    | some swapId, .error code =>
        if swapId ≠ "" ∧ r.proposalBlockedAt.isSome ∧ code = some 404 then
          [.expiry r.idpk "WALLET_SWAP_NOT_FOUND"]
        else []
    | some swapId, .body (.obj response) =>
        if swapId = "" ∨ !sameSwap response swapId then []
        else if statusText response = "settled" then
          [.event .settled (ownData r swapId) .null]
        else match terminalEvent? (statusText response) with
          | some event => [.event event (ownData r swapId)
              (if event = .rejected then reasonJson response else .null)]
          | none => []
    | _, _ => []

theorem heard_swept {r : SwapRecord} {answer : GetAnswer} {c : Cause} (h : c ∈ swept r answer) :
    c.heard = true := by
  unfold swept at h
  split at h
  · rw [List.mem_singleton.mp h]
    rfl
  split at h
  · split at h
    · rw [List.mem_singleton.mp h]
      rfl
    · cases h
  · split at h
    · cases h
    split at h
    · rw [List.mem_singleton.mp h]
      rfl
    split at h
    · rw [List.mem_singleton.mp h]
      rfl
    · cases h
  · cases h

theorem closeBid_moves (db : Db) (r : SwapRecord) :
    Moves cfg P db.desk (closeBid db r).desk := .single (.bidClosed (bidKey r))

/-- What the sweep of one record leaves behind. -/
inductive Swept (cfg : Config) (db db' : Db) (r : SwapRecord) (answer : GetAnswer)
    (now : Instant) : Prop where
  | still : db' = db → Swept cfg db db' r answer now
  | expired (reason : String) : .expiry r.idpk reason ∈ swept r answer →
      db' = expireRecord cfg db r reason now → Swept cfg db db' r answer now
  | settled (data : Fields) (rejection : Json) (out : Option SwapRecord) :
      .event .settled data rejection ∈ swept r answer →
      Processed db db' .settled data out → Swept cfg db db' r answer now
  | ended (event : EventType) (data : Fields) (rejection : Json) (out : Option SwapRecord)
      (db₁ : Db) : .event event data rejection ∈ swept r answer →
      Processed db db₁ event data out → db' = closeBid db₁ r → Swept cfg db db' r answer now

theorem sweepRecord_spec {db db' : Db} {r : SwapRecord} {answer : GetAnswer} {now : Instant}
    {verdict : Verdict} (h : sweepRecord cfg db r answer now = .ok (db',verdict)) :
    Swept cfg db db' r answer now := by
  unfold sweepRecord at h
  cases hn : neverSent r with
  | true =>
    simp only [hn,if_true] at h
    cases h
    exact .expired _ (by simp [swept,hn]) rfl
  | false =>
  simp only [hn,Bool.false_eq_true,if_false] at h
  cases hid : r.swapId with
  | none =>
    simp only [hid] at h
    cases h
    exact .still rfl
  | some swapId =>
    simp only [hid] at h
    by_cases hblank : swapId = ""
    · rw [if_pos hblank] at h
      cases h
      exact .still rfl
    rw [if_neg hblank] at h
    cases answer with
    | error code =>
      dsimp only at h
      split at h <;> cases h
      · rename_i missing
        exact .expired _ (by simp [swept,hn,hid,hblank,missing]) rfl
      · exact .still rfl
    | body value =>
      cases value with
      | obj response =>
        dsimp only at h
        cases hsame : sameSwap response swapId with
        | false =>
          simp only [hsame,Bool.not_false,if_true] at h
          cases h
          exact .still rfl
        | true =>
        simp only [hsame,Bool.not_true,Bool.false_eq_true,if_false] at h
        by_cases hsettled : statusText response = "settled"
        · simp only [hsettled,if_true] at h
          obtain ⟨⟨db₁,out⟩,hp,h⟩ := Fallible.bind_ok.mp h
          obtain ⟨rfl,_⟩ := Prod.mk.injEq .. ▸ Fallible.pure_ok.mp h
          refine .settled _ .null out ?_ (processSwapEvent_spec hp)
          simp [swept,hn,hid,hblank,hsame,hsettled]
        simp only [if_neg hsettled] at h
        cases hev : terminalEvent? (statusText response) with
        | some event =>
          simp only [hev] at h
          obtain ⟨⟨db₁,out⟩,hp,h⟩ := Fallible.bind_ok.mp h
          obtain ⟨rfl,_⟩ := Prod.mk.injEq .. ▸ Fallible.pure_ok.mp h
          refine .ended event (ownData r swapId)
            (if event = .rejected then reasonJson response else .null) out db₁ ?_
            (processSwapEvent_spec hp) rfl
          simp only [swept,hn,hid,hblank,hsame,Bool.not_true,Bool.false_eq_true,or_false,if_false,
            if_neg hsettled,hev]
          exact List.mem_singleton_self _
        | none =>
          simp only [hev] at h
          split at h <;> (cases h; exact .still rfl)
      | null => cases h; exact .still rfl
      | bool _ => cases h; exact .still rfl
      | int _ => cases h; exact .still rfl
      | float _ => cases h; exact .still rfl
      | nonFinite => cases h; exact .still rfl
      | str _ => cases h; exact .still rfl
      | arr _ => cases h; exact .still rfl

theorem sweepRecord_moves {db db' : Db} {r : SwapRecord} {answer : GetAnswer} {now : Instant}
    {verdict : Verdict} (hr : db.market.swaps.get? r.idpk = some r)
    (h : sweepRecord cfg db r answer now = .ok (db',verdict))
    (hP : ∀ c ∈ swept r answer, P db.market c) : Moves cfg P db.desk db'.desk := by
  cases sweepRecord_spec h with
  | still same => rw [same]
  | expired reason cause same =>
    rw [same]
    exact expireRecord_moves reason now hr (hP _ cause)
  | settled data rejection out cause processed => exact processed_moves processed (hP _ cause)
  | ended event data rejection out db₁ cause processed same =>
    rw [same]
    exact (processed_moves processed (hP _ cause)).trans (closeBid_moves _ _)

theorem expireBids_moves (db : Db) (now : Instant) :
    Moves cfg P db.desk (expireBids cfg db now).desk := by
  refine .single (.bidsExpired _ (expireBid_idpk cfg db now) ?_)
  intro b
  unfold expireBid
  split
  · rename_i hs
    refine .inr ⟨?_,rfl⟩
    rcases Bool.or_eq_true .. ▸ hs with hs | hs
    · unfold staleAccepted at hs
      simp only [Bool.and_eq_true,decide_eq_true_eq] at hs
      exact hs.1.1.1
    · unfold stalePending at hs
      simp only [Bool.and_eq_true,decide_eq_true_eq] at hs
      exact hs.1.1
  · exact .inl rfl

end SwapTimeouts

end EnergyNode
