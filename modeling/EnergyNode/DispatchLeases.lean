import EnergyNode.WalletDispatch

/-! Leases under a running clock. While a dispatcher works on its record within
its lease, the record carries that lease and nobody else works on it. -/
namespace EnergyNode
open Lib

variable {cfg : Config} {P : Market → Cause → Prop}

/-- The lease column of a record: that of the dispatcher of its role. -/
def SwapRecord.lease (r : SwapRecord) : Option Instant :=
  if r.role = .proposer then r.proposalLeaseUntil else r.acceptRetryAt

theorem SameLease.lease {r s : SwapRecord} (h : SameLease r s) (role : s.role = r.role) :
    s.lease = r.lease := by
  unfold SwapRecord.lease
  rw [role,h.proposal,h.accept]

namespace Market

def leaseOf (m : Market) (k : String) : Option Instant := (m.swaps.get? k).bind SwapRecord.lease

/-- The leases in `m` are those in `n`, `k`'s apart. -/
def LeasesBut (m n : Market) (k : Option String) : Prop :=
  ∀ x t, some x ≠ k → m.leaseOf x = some t → n.leaseOf x = some t

theorem LeasesBut.refl (m : Market) (k : Option String) : LeasesBut m m k := fun _ _ _ h => h

theorem LeasesBut.trans {a b c : Market} {k : Option String} (h : LeasesBut a b k)
    (j : LeasesBut b c k) : LeasesBut a c k :=
  fun x t ne held => j x t ne (h x t ne held)

theorem LeasesBut.but {m n : Market} (h : LeasesBut m n none) (k : Option String) :
    LeasesBut m n k :=
  fun x t _ held => h x t nofun held

theorem leases_setSwap (m : Market) (s : SwapRecord) : LeasesBut m (m.setSwap s) (some s.idpk) := by
  intro x t ne held
  have apart : s.idpk ≠ x := fun same => ne (congrArg some same.symm)
  rw [← held]
  unfold leaseOf setSwap
  rw [Table.get?_set_ne _ apart]

theorem leaseOf_setSwap {m : Market} {r : SwapRecord} (s : SwapRecord)
    (h : m.swaps.get? s.idpk = some r) : (m.setSwap s).leaseOf s.idpk = s.lease := by
  unfold leaseOf setSwap
  rw [Table.get?_set_self h]
  rfl

/-- Storing a record with the lease it has changes no lease. -/
theorem leases_setSwap_same {m : Market} {r s : SwapRecord} (h : m.swaps.get? s.idpk = some r)
    (same : s.lease = r.lease) : LeasesBut m (m.setSwap s) none := by
  intro x t _ held
  by_cases own : x = s.idpk
  · subst own
    rw [leaseOf_setSwap s h,same,← held]
    unfold leaseOf
    rw [h]
    rfl
  · exact leases_setSwap m s x t (fun e => own (Option.some.inj e)) held

end Market

/-- Only the dispatchers write leases. -/
theorem DealMove.lease {m : Market} {Q : Cause → Prop} {k : String} {d e : Deal}
    (move : DealMove m Q k d e) (quiet : ¬Q .dispatch) {r : SwapRecord} (hr : d.swap = some r) :
    ∃ s, e.swap = some s ∧ s.lease = r.lease := by
  cases move with
  | still => exact ⟨r,hr,rfl⟩
  | arrived => exact ⟨r,hr,rfl⟩
  | rejected => exact ⟨r,hr,rfl⟩
  | own => exact ⟨r,hr,rfl⟩
  | closed => exact ⟨r,hr,rfl⟩
  | reserved => cases hr
  | answered => exact ⟨r,hr,rfl⟩
  | taken => cases hr
  | event _ s type data rejection swapId _ _ _ _ _ deal _ _ _ lease =>
    cases hr
    exact ⟨s,rfl,lease.lease deal.role⟩
  | revised _ s type data rejection _ _ _ _ deal _ _ _ lease =>
    cases hr
    exact ⟨s,rfl,lease.lease deal.role⟩
  | expired _ s reason _ _ _ deal _ _ _ _ lease =>
    cases hr
    exact ⟨s,rfl,lease.lease deal.role⟩
  | kept _ s _ deal _ _ _ _ lease =>
    cases hr
    exact ⟨s,rfl,(lease.resolve_right quiet).lease deal.role⟩
  | claimed _ _ _ _ _ _ _ _ _ _ _ loud => exact absurd loud quiet
  | refused _ _ _ _ _ _ _ _ _ loud => exact absurd loud quiet

theorem Market.leases_moves {d d' : Desk} (moves : Moves cfg P d d')
    (quiet : ∀ m, ¬P m .dispatch) : LeasesBut d.market d'.market none := by
  induction moves with
  | refl => exact .refl _ _
  | @tail b c _ move ih =>
    refine ih.trans fun x t _ held => ?_
    obtain ⟨r,hr,lease⟩ := Option.bind_eq_some_iff.mp held
    obtain ⟨s,hs,same⟩ := (deal_move move x).lease (quiet _) hr
    exact Option.bind_eq_some_iff.mpr ⟨s,hs,same.trans lease⟩

/-! ### What the transactions of the dispatchers do to the leases -/

namespace WalletRecovery
open Market

theorem leases_applyWalletObservation {db db' : Db} {r : SwapRecord} {seen : Observation}
    {now : Instant} {known : Bool} (hr : db.market.swaps.get? r.idpk = some r)
    (h : applyWalletObservation cfg db r seen now = .ok (db',known)) :
    LeasesBut db.market db'.market none := by
  have moves : Moves cfg (fun _ c => c ≠ .dispatch) db.desk db'.desk :=
    applyWalletObservation_moves hr h fun c hc same => by
      have heard := heard_observed hc
      rw [same] at heard
      cases heard
  exact leases_moves moves fun _ loud => loud rfl

end WalletRecovery

namespace SwapDispatch
open Market

theorem leases_finish (db : Db) (attempt : ProposalAttempt) (verdict : Verdict) (now : Instant) :
    LeasesBut db.market (finish db attempt verdict now).market (some attempt.idpk) := by
  unfold finish
  cases hr : db.market.swaps.get? attempt.idpk with
  | none => exact .refl _ _
  | some r =>
    rw [← Table.key_of_get? hr]
    dsimp only
    split
    · exact .refl _ _
    split
    · exact leases_setSwap db.market (finishMoved r verdict now)
    · have own : (finishLive r attempt.attemptCount verdict now).idpk = r.idpk := by
        unfold finishLive answered released
        cases verdict.outcome <;> rfl
      rw [← own]
      exact leases_setSwap db.market (finishLive r attempt.attemptCount verdict now)

theorem leases_recoverAttempt {db db' : Db} {attempt : ProposalAttempt}
    {seen : WalletRecovery.Observation} {now : Instant} {known : Bool}
    (h : recoverAttempt cfg db attempt seen now = .ok (db',known)) :
    LeasesBut db.market db'.market (if known then some attempt.idpk else none) := by
  unfold recoverAttempt at h
  cases hr : db.market.swaps.get? attempt.idpk with
  | none =>
    rw [hr] at h
    cases h
    exact .refl _ _
  | some r =>
    rw [hr] at h
    dsimp only at h
    split at h
    · cases h
      exact .refl _ _
    obtain ⟨⟨db₁,found⟩,ho,h⟩ := Fallible.bind_ok.mp h
    have hr' : db.market.swaps.get? r.idpk = some r := by rwa [Table.key_of_get? hr]
    have first := WalletRecovery.leases_applyWalletObservation hr' ho
    cases found with
    | true =>
      cases h
      exact (first.but _).trans (leases_finish _ _ _ _)
    | false =>
      cases h
      exact first

/-- What a claim takes: a record whose lease had passed, for its own lease. -/
theorem claimOne_lease {db db' : Db} {locked : List String} {now : Instant}
    {attempt : ProposalAttempt} (h : claimOne cfg db locked now = .ok (db',some attempt)) :
    (∀ t, db.market.leaseOf attempt.idpk = some t → t ≤ now) ∧
      db'.market.leaseOf attempt.idpk = some (now + seconds leaseSeconds) ∧
      LeasesBut db.market db'.market (some attempt.idpk) := by
  unfold claimOne at h
  split at h
  · cases h
  rename_i r hc
  obtain ⟨_,_,h⟩ := Fallible.bind_ok.mp h
  cases h
  have hmem := List.mem_of_mem_head? hc
  rw [List.mem_insertionSort,List.mem_filter] at hmem
  obtain ⟨stored,ok⟩ := hmem
  simp only [Bool.and_eq_true] at ok
  have hr : db.market.swaps.get? r.idpk = some r := Table.get?_of_mem (t := db.market.swaps) stored
  have role := (dispatchable_spec ok.1.1).1
  have free : notAfter r.proposalLeaseUntil now := by
    have live := ok.1.1
    simp only [dispatchable,Bool.and_eq_true] at live
    exact live.2
  refine ⟨?_,?_,leases_setSwap db.market (claimed cfg db.market r now)⟩
  · intro t ht
    show t ≤ now
    have lease : r.lease = some t := by
      rw [← ht]
      show r.lease = (db.market.swaps.get? r.idpk).bind SwapRecord.lease
      rw [hr]
      rfl
    rw [SwapRecord.lease,if_pos role] at lease
    rw [lease] at free
    exact of_decide_eq_true free
  · have taken : (claimed cfg db.market r now).lease = some (now + seconds leaseSeconds) := by
      rw [SwapRecord.lease,if_pos (show (claimed cfg db.market r now).role = .proposer from role)]
      rfl
    exact (leaseOf_setSwap (claimed cfg db.market r now) hr).trans taken

/-- A proposal whose expiry has passed is not claimed. -/
theorem claimOne_ahead {db db' : Db} {locked : List String} {now : Instant}
    {attempt : ProposalAttempt} (h : claimOne cfg db locked now = .ok (db',some attempt)) :
    now < attempt.expiresAt := by
  unfold claimOne at h
  split at h
  · cases h
  rename_i r hc
  obtain ⟨_,_,h⟩ := Fallible.bind_ok.mp h
  cases h
  have hmem := List.mem_of_mem_head? hc
  rw [List.mem_insertionSort,List.mem_filter] at hmem
  have live := hmem.2
  simp only [dispatchable,Bool.and_eq_true] at live
  have open_ := live.1.1.1.1.2
  show now < r.proposalExpiresAt.getD (now + seconds 55)
  have soon (n : Int) (pos : 0 < seconds n) : now < now + seconds n := lt_add_of_pos_right now pos
  cases hx : r.proposalExpiresAt with
  | none => exact soon 55 (by decide)
  | some t =>
    rw [hx] at open_
    exact (soon 3 (by decide)).trans (of_decide_eq_true open_)

end SwapDispatch

namespace SwapAccept
open Market

/-- An acceptance that has not reached its end, has not been answered and can be
addressed; its expiry is not looked at. -/
def unsent (r : SwapRecord) : Bool :=
  !r.status.terminal && !(r.status = .acceptSubmitted && r.acceptError.isNone) && !WalletEvents.blank r.swapId

/-- A POST leaves for an unsent acceptance that has not expired. -/
theorem send_leaves {db : Db} {k : String} {now : Instant} :
    (send db k now).2.isSome ↔
      ∃ r, acceptance db k = some r ∧ unsent r ∧ ¬SwapTimeouts.passed r.expiresAt now := by
  unfold send
  cases hr : acceptance db k with
  | none => simp
  | some r =>
    obtain ⟨_,_,own⟩ := acceptance_spec hr
    have keyed : r.acceptIdempotencyKey.isSome := by
      unfold isAcceptance at own
      simp only [Bool.and_eq_true] at own
      exact own.2
    obtain ⟨key,hk⟩ := Option.isSome_iff_exists.mp keyed
    simp only [Option.some.injEq,exists_eq_left',unsent]
    split
    · rename_i past
      rcases past with late | ended | ⟨submitted,heard⟩
      · simp [late]
      · simp [ended]
      · simp [submitted,heard]
    · rename_i live
      simp only [not_or,Bool.not_eq_true,not_and] at live
      obtain ⟨soon,going,unheard⟩ := live
      have open_ : (r.status = .acceptSubmitted && r.acceptError.isNone) = false := by
        simpa using fun submitted => Option.isSome_iff_ne_none.mpr (unheard submitted)
      rw [hk,soon,going,open_]
      cases hs : r.swapId with
      | none => simp [WalletEvents.blank]
      | some swapId =>
        by_cases empty : swapId = "" <;> simp [empty,WalletEvents.blank]

theorem lease_of_isAcceptance {r : SwapRecord} (h : isAcceptance r) : r.lease = r.acceptRetryAt := by
  rw [SwapRecord.lease,if_neg]
  rw [role_of_isAcceptance h]
  decide

theorem leases_settled (db : Db) (k : String) :
    LeasesBut db.market (settled db k).market (some k) := by
  unfold settled
  cases hr : db.market.swaps.get? k with
  | none => exact .refl _ _
  | some r =>
    rw [← Table.key_of_get? hr]
    exact leases_setSwap db.market { r with acceptRetryAt := none }

/-- What a lease takes: a record nobody waits for, for its own lease. -/
theorem lease_lease {db : Db} {k : String} {r : SwapRecord} {now : Instant}
    (h : acceptance db k = some r) (free : ¬(r.status.terminal || waiting r now)) :
    (∀ t, db.market.leaseOf k = some t → t ≤ now) ∧
      (lease db k now).market.leaseOf k = some (now + seconds 30) ∧
      LeasesBut db.market (lease db k now).market (some k) := by
  obtain ⟨rfl,hr,acceptance_⟩ := acceptance_spec h
  unfold lease
  rw [h]
  dsimp only
  rw [if_neg free]
  refine ⟨?_,?_,leases_setSwap db.market { r with acceptRetryAt := some (now + seconds 30) }⟩
  · intro t ht
    rw [Market.leaseOf,hr,Option.bind_some,lease_of_isAcceptance acceptance_] at ht
    rw [Bool.not_eq_true,Bool.or_eq_false_iff,waiting,ht] at free
    exact not_lt.mp (of_decide_eq_false free.2)
  · refine (leaseOf_setSwap { r with acceptRetryAt := some (now + seconds 30) } hr).trans ?_
    exact lease_of_isAcceptance (r := { r with acceptRetryAt := some (now + seconds 30) })
      acceptance_

theorem leases_recover {db db' : Db} {k : String} {answer : WalletRecovery.GetAnswer}
    {now : Instant} {known : Bool} (h : recover cfg db k answer now = .ok (db',known)) :
    LeasesBut db.market db'.market (if known then some k else none) := by
  unfold recover at h
  split at h
  · cases h
    exact .refl _ _
  rename_i r hr
  obtain ⟨rfl,stored,_⟩ := acceptance_spec hr
  split at h
  · cases h
    exact .refl _ _
  split at h
  · cases h
    exact leases_settled _ _
  obtain ⟨⟨db₁,found⟩,ho,h⟩ := Fallible.bind_ok.mp h
  have first := WalletRecovery.leases_applyWalletObservation stored ho
  cases found with
  | true =>
    cases h
    exact (first.but _).trans (leases_settled _ _)
  | false =>
    cases h
    exact first

theorem leases_send (db : Db) (k : String) (now : Instant) :
    LeasesBut db.market (send db k now).1.market
      (if (send db k now).2.isSome then none else some k) := by
  unfold send
  cases hr : acceptance db k with
  | none => exact .refl _ _
  | some r =>
    obtain ⟨rfl,stored,_⟩ := acceptance_spec hr
    dsimp only
    split
    · exact leases_settled _ _
    · have sent : LeasesBut db.market (db.market.setSwap { r with
          acceptAttempts := r.acceptAttempts + 1
          acceptAttemptedAt := some now
          acceptError := some "WALLET_IN_FLIGHT"
          status := .acceptSubmitted }) none := leases_setSwap_same stored rfl
      have either (leaving : Option AcceptPost) : LeasesBut db.market (db.market.setSwap { r with
          acceptAttempts := r.acceptAttempts + 1
          acceptAttemptedAt := some now
          acceptError := some "WALLET_IN_FLIGHT"
          status := .acceptSubmitted }) (if leaving.isSome then none else some r.idpk) := by
        cases leaving with
        | none => exact sent.but _
        | some post => exact sent
      exact either _

theorem leases_finish (db : Db) (k : String) (outcome : Outcome) (now : Instant) :
    LeasesBut db.market (finish db k outcome now).market (some k) := by
  unfold finish
  cases hr : acceptance db k with
  | none => exact .refl _ _
  | some r =>
    obtain ⟨rfl,_,_⟩ := acceptance_spec hr
    dsimp only
    split
    · exact leases_settled _ _
    cases outcome with
    | accepted => exact leases_setSwap db.market { r with
        status := .acceptSubmitted, acceptError := none, acceptRetryAt := none }
    | retry code retryAfter => exact fun x t ne held => leases_setSwap db.market _ x t ne held
    | rejected code => exact fun x t ne held => leases_setSwap db.market _ x t ne held

end SwapAccept

end EnergyNode
