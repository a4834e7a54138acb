import EnergyNode.DispatchLeases

/-! The windows of the dispatchers: a POST leaves within the lease taken for it
and before the expiry it carries, and no record has two POSTs on their way. -/
namespace EnergyNode
open Lib

namespace WalletDispatch
open Market

variable {env : Env} {cfg : Config} {w : World} {i : Nat}

namespace Batch

/-- The record in hand, with the end of the lease taken for it. -/
def claim (b : Batch) : Option (String × Instant) :=
  b.record.map fun k => (k,b.reference + b.lease)

/-- The calls of the batch fill the time since it read the clock. -/
def Timed (clock : Instant) (b : Batch) : Prop :=
  b = .finished ∨ (0 ≤ b.elapsed ∧ b.reference + b.elapsed = clock)

/-- The expiry of the proposal in hand. -/
def expiry : Batch → Option Instant
  | proposals b => b.hand.map fun h => h.1.expiresAt
  | _ => none

/-- `b'` goes on where `b` stands. -/
structure Alike (b b' : Batch) : Prop where
  live : b ≠ .finished
  reference : b'.reference = b.reference
  elapsed : b'.elapsed = b.elapsed
  lease : b'.lease = b.lease

theorem alike_proposals (b : ProposalBatch) (left : Nat)
    (hand : Option (SwapDispatch.ProposalAttempt × Stage)) :
    Alike (.proposals b) (.proposals { b with left := left, hand := hand }) :=
  ⟨Batch.noConfusion,rfl,rfl,rfl⟩

theorem alike_acceptances (b : AcceptBatch) (queue : Option (List String))
    (hand : Option (String × Stage)) :
    Alike (.acceptances b) (.acceptances { b with queue := queue, hand := hand }) :=
  ⟨Batch.noConfusion,rfl,rfl,rfl⟩

theorem record_proposals {b : ProposalBatch} {attempt : SwapDispatch.ProposalAttempt}
    {stage : Stage} (hand : b.hand = some (attempt,stage)) :
    (proposals b).record = some attempt.idpk := by
  simp [record,hand]

theorem record_acceptances {b : AcceptBatch} {k : String} {stage : Stage}
    (hand : b.hand = some (k,stage)) : (acceptances b).record = some k := by
  simp [record,hand]

theorem record_of_inFlight {b : Batch} {k : String} (h : b.inFlight = some k) :
    b.record = some k := by
  cases b with
  | finished => cases h
  | proposals b =>
    obtain ⟨hand,hf,rfl⟩ := Option.map_eq_some_iff.mp h
    exact Option.map_eq_some_iff.mpr ⟨hand,(Option.filter_eq_some_iff.mp hf).1,rfl⟩
  | acceptances b =>
    obtain ⟨hand,hf,rfl⟩ := Option.map_eq_some_iff.mp h
    exact Option.map_eq_some_iff.mpr ⟨hand,(Option.filter_eq_some_iff.mp hf).1,rfl⟩

theorem expiry_idle {b : Batch} (h : b.record = none) : b.expiry = none := by
  cases b with
  | proposals b =>
    cases hb : b.hand with
    | none => simp [expiry,hb]
    | some hand => simp [record,hb] at h
  | acceptances | finished => rfl

theorem Alike.claim {b b' : Batch} (h : Alike b b') (same : b'.record = b.record) :
    b'.claim = b.claim := by
  unfold Batch.claim
  rw [same,h.reference,h.lease]

theorem Alike.timed {b b' : Batch} {clock : Instant} (h : Alike b b') (t : b.Timed clock) :
    b'.Timed clock := by
  obtain ⟨nonneg,eq⟩ := t.resolve_left h.live
  right
  rw [h.reference,h.elapsed]
  exact ⟨nonneg,eq⟩

end Batch

/-- What a turn of the batch `b` does to it and to the leases. -/
inductive Deed (m n : Market) (b : Batch) : Batch → Prop where
  | ended (leases : LeasesBut m n b.record) : Deed m n b .finished
  | kept {b' : Batch} (alike : b.Alike b') (same : b'.record = b.record)
      (carried : b'.expiry = b.expiry) (leases : LeasesBut m n none) : Deed m n b b'
  | dropped {b' : Batch} (alike : b.Alike b') (idle : b'.record = none)
      (leases : LeasesBut m n b.record) : Deed m n b b'
  | taken {b' : Batch} {k : String} (alike : b.Alike b') (idle : b.record = none)
      (record : b'.record = some k) (resting : b'.inFlight = none)
      (ahead : ∀ t ∈ b'.expiry, b.reference < t)
      (free : ∀ t, m.leaseOf k = some t → t ≤ b.reference)
      (lease : n.leaseOf k = some (b.reference + b.lease))
      (leases : LeasesBut m n (some k)) : Deed m n b b'

/-- The world after a turn of the batch `b`. -/
def Acted (w w' : World) (i : Nat) (b : Batch) : Prop :=
  w' = w ∨ ∃ db b', w' = w.store i db b' ∧ Deed w.db.market db.market b b'

theorem Acted.still (w : World) (i : Nat) (b : Batch) : Acted w w i b := .inl rfl

theorem Acted.put {b b' : Batch} (deed : Deed w.db.market w.db.market b b') :
    Acted w (w.put i b') i b := .inr ⟨w.db,b',rfl,deed⟩

theorem Acted.store {db : Db} {b b' : Batch} (deed : Deed w.db.market db.market b b') :
    Acted w (w.store i db b') i b := .inr ⟨db,b',rfl,deed⟩

theorem ended_idle {m n : Market} {b : Batch} (leases : LeasesBut m n none) : Deed m n b .finished :=
  .ended (leases.but _)

/-! ### The turns of a dispatcher of proposals -/

theorem claim_acted (b : ProposalBatch) (locked : List String) :
    Acted w (claim cfg w i b locked) i (.proposals b) := by
  unfold claim
  split
  · exact .still _ _ _
  rename_i free
  have idle : b.hand = none := by
    have := (not_or.mp free).2
    rwa [Option.not_isSome_iff_eq_none] at this
  split
  · exact .put (ended_idle (.refl _ _))
  · exact .put (ended_idle (.refl _ _))
  · rename_i db attempt hc
    obtain ⟨past,lease,leases⟩ := SwapDispatch.claimOne_lease hc
    refine .store (.taken (k := attempt.idpk) (Batch.alike_proposals b _ _) ?_ rfl rfl ?_ past
      lease leases)
    · show b.hand.map _ = none
      rw [idle]
      rfl
    · intro t ht
      cases ht
      exact SwapDispatch.claimOne_ahead hc

theorem lookProposal_acted (b : ProposalBatch) (attempt : SwapDispatch.ProposalAttempt)
    (stage : Stage) (hand : b.hand = some (attempt,stage)) (answer : WalletRecovery.GetAnswer) :
    Acted w (lookProposal cfg w i b attempt answer) i (.proposals b) := by
  have record := Batch.record_proposals hand
  have carried : some attempt.expiresAt = (Batch.proposals b).expiry := by
    simp [Batch.expiry,hand]
  have ready {n : Market} (leases : LeasesBut w.db.market n none) :
      Deed w.db.market n (.proposals b) (.proposals { b with hand := some (attempt,.ready) }) :=
    .kept (Batch.alike_proposals b b.left _) record.symm carried leases
  unfold lookProposal
  dsimp only
  split
  · exact .put (ready (.refl _ _))
  split
  · exact .put (ready (.refl _ _))
  split
  · exact .put (ended_idle (.refl _ _))
  · rename_i db hr
    refine .store (.dropped (Batch.alike_proposals b b.left _) rfl ?_)
    rw [record]
    exact SwapDispatch.leases_recoverAttempt hr
  · rename_i db hr
    exact .store (ready (SwapDispatch.leases_recoverAttempt hr))

theorem leases_settle {db db' : Db} {attempt : SwapDispatch.ProposalAttempt}
    {answer : SwapDispatch.WriteAnswer} {reference clock : Instant}
    (h : settle cfg db attempt answer reference clock = .ok db') :
    LeasesBut db.market db'.market (some attempt.idpk) := by
  unfold settle at h
  dsimp only at h
  have first := SwapDispatch.leases_finish db attempt (SwapDispatch.judge answer).1 clock
  split at h
  · rename_i seen r _ hr
    split at h
    · obtain ⟨⟨db₁,known⟩,ho,rfl⟩ := Fallible.map_ok.mp h
      have stored : (SwapDispatch.finish db attempt (SwapDispatch.judge answer).1
          clock).market.swaps.get? r.idpk = some r := by
        rwa [Table.key_of_get? hr]
      exact first.trans ((WalletRecovery.leases_applyWalletObservation stored ho).but _)
    · cases h
      exact first
  · cases h
    exact first

theorem answerProposal_acted (b : ProposalBatch) (attempt : SwapDispatch.ProposalAttempt)
    (stage : Stage) (hand : b.hand = some (attempt,stage)) (answer : SwapDispatch.WriteAnswer) :
    Acted w (answerProposal cfg w i b attempt answer) i (.proposals b) := by
  unfold answerProposal
  split
  · exact .put (ended_idle (.refl _ _))
  · rename_i db hs
    refine .store (.dropped (Batch.alike_proposals b b.left _) rfl ?_)
    rw [Batch.record_proposals hand]
    exact leases_settle hs

/-! ### The turns of a dispatcher of acceptances -/

theorem take_acted (b : AcceptBatch) : Acted w (take w i b) i (.acceptances b) := by
  unfold take
  split
  · rename_i k rest hq idle
    have waits : (Batch.acceptances b).record = none := by
      show b.hand.map _ = none
      rw [idle]
      rfl
    have skipped : Deed w.db.market w.db.market (.acceptances b)
        (.acceptances { b with queue := some rest }) :=
      .kept (Batch.alike_acceptances b _ b.hand) rfl rfl (.refl _ _)
    cases hr : SwapAccept.acceptance w.db k with
    | none => exact .put skipped
    | some r =>
      dsimp only
      split
      · exact .put skipped
      · rename_i free
        obtain ⟨past,lease,leases⟩ := SwapAccept.lease_lease hr free
        exact .store (.taken (k := k) (Batch.alike_acceptances b _ _) waits rfl rfl
          (fun t => Option.not_mem_none t |>.elim) past lease leases)
  · exact .still _ _ _

theorem lookAcceptance_acted (b : AcceptBatch) (k : String) (stage : Stage)
    (hand : b.hand = some (k,stage)) (answer : WalletRecovery.GetAnswer) :
    Acted w (lookAcceptance cfg w i b k answer) i (.acceptances b) := by
  have record := Batch.record_acceptances hand
  have ready {n : Market} (leases : LeasesBut w.db.market n none) :
      Deed w.db.market n (.acceptances b) (.acceptances { b with hand := some (k,.ready) }) :=
    .kept (Batch.alike_acceptances b b.queue _) record.symm rfl leases
  unfold lookAcceptance
  dsimp only
  split
  · split
    · exact .put (ended_idle (.refl _ _))
    · rename_i db hr
      refine .store (.dropped (Batch.alike_acceptances b b.queue _) rfl ?_)
      rw [record]
      exact SwapAccept.leases_recover hr
    · rename_i db hr
      exact .store (ready (SwapAccept.leases_recover hr))
  · exact .put (ready (.refl _ _))

theorem send_acted (b : AcceptBatch) (k : String) (stage : Stage)
    (hand : b.hand = some (k,stage)) : Acted w (send w i b k) i (.acceptances b) := by
  have record := Batch.record_acceptances hand
  have leases := SwapAccept.leases_send w.db k b.reference
  unfold send
  dsimp only
  split
  · rename_i db post hs
    rw [hs] at leases
    exact .store (.kept (Batch.alike_acceptances b b.queue _) record.symm rfl leases)
  · rename_i db hs
    rw [hs] at leases
    split
    · refine .store (.dropped (Batch.alike_acceptances b b.queue _) rfl ?_)
      rw [record]
      exact leases
    · refine .store (.ended ?_)
      rw [record]
      exact leases

theorem answerAcceptance_acted (b : AcceptBatch) (k : String) (stage : Stage)
    (hand : b.hand = some (k,stage)) (answer : SwapDispatch.WriteAnswer) :
    Acted w (answerAcceptance w i b k answer) i (.acceptances b) := by
  have record := Batch.record_acceptances hand
  unfold answerAcceptance
  split
  · exact .put (ended_idle (.refl _ _))
  · exact .put (.kept (Batch.alike_acceptances b b.queue _) record.symm rfl (.refl _ _))
  · refine .store (.dropped (Batch.alike_acceptances b b.queue _) rfl ?_)
    rw [record]
    exact SwapAccept.leases_finish _ _ _ _

theorem check_acted (b : AcceptBatch) (k : String) (stage : Stage)
    (hand : b.hand = some (k,stage)) (code : Nat) (answer : WalletRecovery.GetAnswer) :
    Acted w (check cfg w i b k code answer) i (.acceptances b) := by
  have record := Batch.record_acceptances hand
  unfold check
  split
  · exact .put (ended_idle (.refl _ _))
  · rename_i db hr
    refine .store (.dropped (Batch.alike_acceptances b b.queue _) rfl ?_)
    rw [record]
    exact SwapAccept.leases_recover hr
  · rename_i db hr
    refine .store (.dropped (Batch.alike_acceptances b b.queue _) rfl ?_)
    rw [record]
    exact ((SwapAccept.leases_recover hr).but _).trans (SwapAccept.leases_finish _ _ _ _)

/-! ### Turns and runs -/

/-- The batch a turn belongs to. -/
def Turn.actor : Turn → Option Nat
  | .claim i _ | .select i _ | .take i | .look i _ | .post i | .answered i _ | .check i _ => some i
  | _ => none

theorem turn_acted {turn : Turn} {b : Batch} (actor : turn.actor = some i)
    (hb : w.batches[i]? = some b) : Acted w (step env w turn) i b := by
  cases turn with
  | advance | node | beginProposals | beginAcceptances => cases actor
  | claim j locked =>
    cases actor
    simp only [step,hb]
    cases b with
    | proposals b => exact claim_acted b locked
    | acceptances | finished => exact .still _ _ _
  | select j limit =>
    cases actor
    simp only [step,hb]
    cases b with
    | acceptances b =>
      dsimp only
      split
      · exact .still _ _ _
      · exact .put (.kept (Batch.alike_acceptances b _ b.hand) rfl rfl (.refl _ _))
    | proposals | finished => exact .still _ _ _
  | take j =>
    cases actor
    simp only [step,hb]
    cases b with
    | acceptances b => exact take_acted b
    | proposals | finished => exact .still _ _ _
  | look j answer =>
    cases actor
    simp only [step,hb]
    split
    · rename_i same
      cases same
      exact lookProposal_acted _ _ _ rfl answer
    · rename_i same
      cases same
      exact lookAcceptance_acted _ _ _ rfl answer
    · exact .still _ _ _
  | post j =>
    cases actor
    simp only [step,hb]
    split
    · rename_i r e l attempt same
      cases same
      exact .put (.kept (Batch.alike_proposals _ l _) rfl rfl (.refl _ _))
    · rename_i same
      cases same
      exact send_acted _ _ _ rfl
    · exact .still _ _ _
  | answered j answer =>
    cases actor
    simp only [step,hb]
    split
    · rename_i same
      cases same
      exact answerProposal_acted _ _ _ rfl answer
    · rename_i same
      cases same
      exact answerAcceptance_acted _ _ _ rfl answer
    · exact .still _ _ _
  | check j answer =>
    cases actor
    simp only [step,hb]
    split
    · rename_i same
      cases same
      exact check_acted _ _ _ rfl _ answer
    · exact .still _ _ _

theorem turn_absent {turn : Turn} (actor : turn.actor = some i) (hb : w.batches[i]? = none) :
    step env w turn = w := by
  cases turn with
  | advance | node | beginProposals | beginAcceptances => cases actor
  | claim | select | take | look | post | answered | check =>
    cases actor
    simp only [step,hb]

/-- A node that leaves its dispatchers alone writes no lease. -/
theorem leases_node {a : Node.Action} (outside : ofDispatcher a = false) (db : Db) :
    LeasesBut db.market (Node.step env db a).market none := by
  refine leases_moves (Node.step_moves env db a) fun _ loud => ?_
  have cause := loud.1
  cases a with
  | ingest payload now =>
    simp only [Node.causes,Ingest.brought] at cause
    split at cause
    · split at cause <;> simp at cause
    · split at cause <;> simp at cause
  | sweep idpk answer now =>
    simp only [Node.causes] at cause
    split at cause
    · cases cause
    · cases SwapTimeouts.heard_swept cause
  | claimProposal | recoverProposal | settleProposal | leaseAccept | recoverAccept | sendAccept
  | settleAccept => cases outside
  | _ => simp [Node.causes] at cause

/-! ### Windows -/

/-- A POST as it leaves: the expiry it is good for, and the end of the lease. -/
structure Post where
  expiresAt : Option Instant
  leaseUntil : Instant

/-- The POST that leaves at a turn. -/
def posted (w : World) : Turn → Option Post
  | .post i =>
      match w.batches[i]? with
      | some (.proposals ⟨reference,_,_,some (attempt,.ready)⟩) =>
          some ⟨some attempt.expiresAt,reference + proposalLease⟩
      | some (.acceptances ⟨reference,_,_,some (k,.ready)⟩) =>
          if (SwapAccept.send w.db k reference).2.isSome then
            some ⟨(w.db.market.swaps.get? k).bind SwapRecord.expiresAt,reference + acceptLease⟩
          else none
      | _ => none
  | _ => none

/-- A POST leaves before its expiry and within its lease. -/
def Timely (w : World) (turn : Turn) : Prop :=
  ∀ p ∈ posted w turn, w.clock < p.leaseUntil ∧ ∀ t ∈ p.expiresAt, w.clock < t

/-- No record has two POSTs on their way. -/
def Exclusive (w : World) : Prop :=
  ∀ (i j : Nat) (k : String), (w.batches[i]?).bind Batch.inFlight = some k →
    (w.batches[j]?).bind Batch.inFlight = some k → i = j

/-- The record that is up for its POST in a turn, by the expiry it has. An
acceptance is still to be sent; whether it has expired is left open here. -/
def due (w : World) : Turn → Option (Option Instant)
  | .post i =>
      match w.batches[i]? with
      | some (.proposals ⟨_,_,_,some (attempt,.ready)⟩) => some (some attempt.expiresAt)
      | some (.acceptances ⟨_,_,_,some (k,.ready)⟩) =>
          ((SwapAccept.acceptance w.db k).filter SwapAccept.unsent).map SwapRecord.expiresAt
      | _ => none
  | _ => none

/-- A record that comes up for its POST had expired when its batch read the clock,
or the calls of the batch since then took less than the lease lasts and its expiry
does not fall within them. -/
def Prompt (w : World) (turn : Turn) : Prop :=
  ∀ i ∈ turn.actor, ∀ b ∈ w.batches[i]?, ∀ expiresAt ∈ due w turn,
    SwapTimeouts.passed expiresAt b.reference ∨
      (b.elapsed < b.lease ∧ ¬SwapTimeouts.passed expiresAt (b.reference + b.elapsed))

/-- No POST takes its batch past the lease, and a batch past the lease leaves the
record it has in hand alone. -/
def Within (w : World) : Turn → Prop
  | .advance d => ∀ b ∈ w.batches, b.inFlight.isSome → b.elapsed + d < b.lease
  | turn => ∀ i ∈ turn.actor, ∀ b ∈ w.batches[i]?, b.record.isSome → b.elapsed < b.lease

/-- The leases the batches hold. -/
def claims (w : World) (i : Nat) : Option (String × Instant) := (w.batches[i]?).bind Batch.claim

def AllTimed (w : World) : Prop := ∀ b ∈ w.batches, b.Timed w.clock

/-- No proposal in hand had expired when its batch read the clock. -/
def AllAhead (w : World) : Prop := ∀ b ∈ w.batches, ∀ t ∈ b.expiry, b.reference < t

/-- The leases bind, and a POST is on its way only within its lease. -/
structure Orderly (w : World) : Prop where
  timed : AllTimed w
  sound : Lease.Sound w.db.market.leaseOf (claims w) w.clock
  flying : ∀ b ∈ w.batches, b.inFlight.isSome → b.elapsed < b.lease

theorem claims_store (w : World) (db : Db) {b : Batch} (hb : w.batches[i]? = some b) (b' : Batch) :
    claims (w.store i db b') = Function.update (claims w) i b'.claim := by
  funext j
  have bound : i < w.batches.length := (List.getElem?_eq_some_iff.mp hb).1
  unfold claims World.store
  rcases eq_or_ne j i with rfl | apart
  · rw [Function.update_self,List.getElem?_set_self bound]
    rfl
  · rw [Function.update_of_ne apart,List.getElem?_set_ne apart.symm]

theorem claim_of_record {b : Batch} {k : String} (h : b.record = some k) :
    b.claim = some (k,b.reference + b.lease) := by
  rw [Batch.claim,h]
  rfl

theorem claim_idle {b : Batch} (h : b.record = none) : b.claim = none := by
  rw [Batch.claim,h]
  rfl

theorem allTimed_acted {w' : World} {b : Batch} (hb : w.batches[i]? = some b)
    (acted : Acted w w' i b) (timed : AllTimed w) : AllTimed w' := by
  obtain rfl | ⟨db,b',rfl,deed⟩ := acted
  · exact timed
  intro x hx
  rcases List.mem_or_eq_of_mem_set hx with old | rfl
  · exact timed x old
  have own := timed b (List.mem_of_getElem? hb)
  cases deed with
  | ended => exact .inl rfl
  | kept alike | dropped alike | taken alike => exact alike.timed own

theorem Batch.Timed.wait {b : Batch} {clock : Instant} (h : b.Timed clock) (d : Nat) :
    (b.wait d).Timed (clock + d) := by
  have later {reference elapsed : Int} (own : 0 ≤ elapsed ∧ reference + elapsed = clock) :
      0 ≤ elapsed + d ∧ reference + (elapsed + d) = clock + d := by
    obtain ⟨nonneg,eq⟩ := own
    rw [← add_assoc,eq]
    exact ⟨by omega,rfl⟩
  cases b with
  | finished => exact .inl rfl
  | proposals b => exact .inr (later (h.resolve_left Batch.noConfusion))
  | acceptances b => exact .inr (later (h.resolve_left Batch.noConfusion))

theorem allTimed_step (turn : Turn) (timed : AllTimed w) : AllTimed (step env w turn) := by
  cases ha : turn.actor with
  | some i =>
    cases hb : w.batches[i]? with
    | none =>
      rw [turn_absent ha hb]
      exact timed
    | some b => exact allTimed_acted hb (turn_acted ha hb) timed
  | none =>
    cases turn with
    | claim | select | take | look | post | answered | check => cases ha
    | advance d =>
      intro x hx
      obtain ⟨b,hb,rfl⟩ := List.mem_map.mp hx
      exact (timed b hb).wait d
    | node a =>
      simp only [step]
      split
      · exact timed
      · exact timed
    | beginProposals limit =>
      simp only [step]
      split
      · intro x hx
        rcases List.mem_append.mp hx with old | new
        · exact timed x old
        · cases List.mem_singleton.mp new
          exact .inr ⟨le_refl _,add_zero _⟩
      · exact timed
    | beginAcceptances =>
      intro x hx
      rcases List.mem_append.mp hx with old | new
      · exact timed x old
      · cases List.mem_singleton.mp new
        exact .inr ⟨le_refl _,add_zero _⟩

theorem allAhead_acted {w' : World} {b : Batch} (hb : w.batches[i]? = some b)
    (acted : Acted w w' i b) (ahead : AllAhead w) : AllAhead w' := by
  obtain rfl | ⟨db,b',rfl,deed⟩ := acted
  · exact ahead
  intro x hx
  rcases List.mem_or_eq_of_mem_set hx with old | rfl
  · exact ahead x old
  have own := ahead b (List.mem_of_getElem? hb)
  have nothing (idle : x.record = none) : ∀ t ∈ x.expiry, x.reference < t := by
    intro t ht
    rw [Batch.expiry_idle idle] at ht
    cases ht
  cases deed with
  | ended => exact nothing rfl
  | dropped _ idle => exact nothing idle
  | kept alike _ carried =>
    rw [carried,alike.reference]
    exact own
  | taken alike _ _ _ claimed =>
    rw [alike.reference]
    exact claimed

theorem allAhead_joined {b : Batch} (ahead : AllAhead w) (empty : b.expiry = none) :
    AllAhead { w with batches := w.batches ++ [b] } := by
  intro x hx t ht
  rcases List.mem_append.mp hx with old | new
  · exact ahead x old t ht
  · cases List.mem_singleton.mp new
    rw [empty] at ht
    cases ht

theorem allAhead_step (turn : Turn) (ahead : AllAhead w) : AllAhead (step env w turn) := by
  cases ha : turn.actor with
  | some i =>
    cases hb : w.batches[i]? with
    | none =>
      rw [turn_absent ha hb]
      exact ahead
    | some b => exact allAhead_acted hb (turn_acted ha hb) ahead
  | none =>
    cases turn with
    | claim | select | take | look | post | answered | check => cases ha
    | advance d =>
      intro x hx
      obtain ⟨b,hb,rfl⟩ := List.mem_map.mp hx
      have own := ahead b hb
      cases b <;> exact own
    | node a =>
      simp only [step]
      split <;> exact ahead
    | beginProposals limit =>
      simp only [step]
      split
      · exact allAhead_joined ahead rfl
      · exact ahead
    | beginAcceptances => exact allAhead_joined ahead rfl

/-- A POST leaves in a turn of its batch. -/
theorem posted_spec {turn : Turn} {p : Post} (h : posted w turn = some p) :
    ∃ i b, turn.actor = some i ∧ w.batches[i]? = some b ∧ b ≠ .finished := by
  cases turn with
  | post i =>
    simp only [posted] at h
    split at h
    · rename_i hb
      exact ⟨i,_,rfl,hb,Batch.noConfusion⟩
    · rename_i hb
      exact ⟨i,_,rfl,hb,Batch.noConfusion⟩
    · cases h
  | _ => cases h

theorem passed_iff {limit : Option Instant} {now : Instant} :
    ¬SwapTimeouts.passed limit now ↔ ∀ t ∈ limit, now < t := by
  cases limit with
  | none => simp [SwapTimeouts.passed]
  | some t => simp [SwapTimeouts.passed]

/-- The checks of the dispatchers: what is due is posted, unless it had expired when
the batch read the clock. -/
theorem posted_iff {turn : Turn} {b : Batch} {p : Post} (ahead : AllAhead w)
    (actor : turn.actor = some i) (hb : w.batches[i]? = some b) :
    posted w turn = some p ↔ ∃ expiresAt ∈ due w turn,
      ¬SwapTimeouts.passed expiresAt b.reference ∧ p = ⟨expiresAt,b.reference + b.lease⟩ := by
  cases turn with
  | post j =>
    cases actor
    simp only [posted,due,hb]
    split
    · rename_i r e l attempt same
      cases same
      have fresh : ¬SwapTimeouts.passed (some attempt.expiresAt) r :=
        passed_iff.mpr (ahead _ (List.mem_of_getElem? hb))
      constructor
      · intro h
        exact ⟨_,rfl,fresh,(Option.some.inj h).symm⟩
      · rintro ⟨_,up,_,rfl⟩
        cases up
        rfl
    · rename_i r e q k same
      cases same
      constructor
      · intro h
        split at h
        · rename_i leaves
          obtain ⟨record,hr,live,fresh⟩ := SwapAccept.send_leaves.mp leaves
          refine ⟨record.expiresAt,?_,fresh,?_⟩
          · rw [hr]
            simp [live]
          · cases h
            rw [(Option.filter_eq_some_iff.mp hr).1]
            rfl
        · cases h
      · rintro ⟨expiresAt,up,fresh,rfl⟩
        obtain ⟨record,found,rfl⟩ := Option.map_eq_some_iff.mp up
        obtain ⟨hr,live⟩ := Option.filter_eq_some_iff.mp found
        have leaves : (SwapAccept.send w.db k r).2.isSome :=
          SwapAccept.send_leaves.mpr ⟨record,hr,live,fresh⟩
        rw [if_pos leaves,(Option.filter_eq_some_iff.mp hr).1]
        rfl
    · constructor
      · intro h
        cases h
      · rintro ⟨_,up,_⟩
        cases up
  | _ =>
    constructor
    · intro h
      cases h
    · rintro ⟨_,up,_⟩
      cases up

theorem timely_iff_prompt (timed : AllTimed w) (ahead : AllAhead w) (turn : Turn) :
    Timely w turn ↔ Prompt w turn := by
  have window {b : Batch} (mem : b ∈ w.batches) (live : b ≠ .finished)
      (expiresAt : Option Instant) :
      (w.clock < b.reference + b.lease ∧ ∀ t ∈ expiresAt, w.clock < t) ↔
        (b.elapsed < b.lease ∧
          ¬SwapTimeouts.passed expiresAt (b.reference + b.elapsed)) := by
    obtain ⟨_,now⟩ := (timed b mem).resolve_left live
    rw [passed_iff,now,← now]
    exact and_congr_left' (add_lt_add_iff_left b.reference)
  constructor
  · intro timely i actor b hb expiresAt up
    by_cases past : SwapTimeouts.passed expiresAt b.reference
    · exact .inl past
    have leaves := (posted_iff ahead actor hb).mpr ⟨expiresAt,up,past,rfl⟩
    obtain ⟨_,_,actor',hb',live⟩ := posted_spec leaves
    cases actor.symm.trans actor'
    cases hb.symm.trans hb'
    exact .inr ((window (List.mem_of_getElem? hb) live expiresAt).mp (timely _ leaves))
  · intro prompt p leaves
    obtain ⟨i,b,actor,hb,live⟩ := posted_spec leaves
    obtain ⟨expiresAt,up,fresh,rfl⟩ := (posted_iff ahead actor hb).mp leaves
    exact (window (List.mem_of_getElem? hb) live expiresAt).mpr
      ((prompt i actor b hb expiresAt up).resolve_left fresh)

theorem Orderly.live (h : Orderly w) {b : Batch} {k : String} (mem : b ∈ w.batches)
    (record : b.record = some k) (within : b.elapsed < b.lease) :
    w.clock < b.reference + b.lease := by
  have alive : b ≠ .finished := by
    rintro rfl
    cases record
  obtain ⟨_,now⟩ := (h.timed b mem).resolve_left alive
  rw [← now]
  exact (add_lt_add_iff_left b.reference).mpr within

theorem Orderly.exclusive (h : Orderly w) : Exclusive w := by
  intro i j k hi hj
  obtain ⟨b,hb,flying⟩ := Option.bind_eq_some_iff.mp hi
  obtain ⟨c,hc,flying'⟩ := Option.bind_eq_some_iff.mp hj
  have claimed {n : Nat} {x : Batch} (hx : w.batches[n]? = some x) (fx : x.inFlight = some k) :
      claims w n = some (k,x.reference + x.lease) ∧ w.clock < x.reference + x.lease := by
    have mem := List.mem_of_getElem? hx
    have record := Batch.record_of_inFlight fx
    refine ⟨?_,h.live mem record (h.flying x mem (fx ▸ rfl))⟩
    rw [claims,hx]
    exact claim_of_record record
  exact h.sound.exclusive (claimed hb flying).1 (claimed hb flying).2 (claimed hc flying').1
    (claimed hc flying').2

/-- The leases after a batch let its record go, or never had one. -/
theorem Orderly.let_go {b b' : Batch} {db : Db} (h : Orderly w) (hb : w.batches[i]? = some b)
    (within : b.record.isSome → b.elapsed < b.lease) (idle : b'.record = none)
    (leases : LeasesBut w.db.market db.market b.record) :
    Lease.Sound db.market.leaseOf (claims (w.store i db b')) w.clock := by
  rw [claims_store w db hb,claim_idle idle]
  cases record : b.record with
  | none =>
    rw [record] at leases
    exact (h.sound.drop i).congr fun k t held => leases k t (Option.some_ne_none k) held
  | some k =>
    rw [record] at leases within
    have held : claims w i = some (k,b.reference + b.lease) := by
      rw [claims,hb]
      exact claim_of_record record
    have live := h.live (List.mem_of_getElem? hb) record (within rfl)
    exact h.sound.release held live fun x u apart old =>
      leases x u (fun same => apart (Option.some.inj same)) old

theorem orderly_acted {w' : World} {b : Batch} (h : Orderly w) (hb : w.batches[i]? = some b)
    (within : b.record.isSome → b.elapsed < b.lease) (acted : Acted w w' i b) : Orderly w' := by
  have timed := allTimed_acted hb acted h.timed
  obtain rfl | ⟨db,b',rfl,deed⟩ := acted
  · exact h
  have others (flying : b'.inFlight.isSome → b'.elapsed < b'.lease) :
      ∀ x ∈ (w.store i db b').batches, x.inFlight.isSome → x.elapsed < x.lease := by
    intro x hx
    rcases List.mem_or_eq_of_mem_set hx with old | rfl
    · exact h.flying x old
    · exact flying
  have grounded (idle : b'.record = none) : b'.inFlight.isSome → b'.elapsed < b'.lease := by
    intro flying
    obtain ⟨k,hk⟩ := Option.isSome_iff_exists.mp flying
    rw [Batch.record_of_inFlight hk] at idle
    cases idle
  cases deed with
  | ended leases => exact ⟨timed,h.let_go hb within rfl leases,others (grounded rfl)⟩
  | dropped alike idle leases => exact ⟨timed,h.let_go hb within idle leases,others (grounded idle)⟩
  | kept alike same _ leases =>
    refine ⟨timed,?_,others fun flying => ?_⟩
    · rw [claims_store w db hb,alike.claim same]
      have own : Function.update (claims w) i b.claim = claims w := by
        have mine : claims w i = b.claim := by
          rw [claims,hb]
          rfl
        rw [← mine,Function.update_eq_self]
      rw [own]
      exact h.sound.congr fun k t held => leases k t (Option.some_ne_none k) held
    · obtain ⟨k,hk⟩ := Option.isSome_iff_exists.mp flying
      rw [alike.elapsed,alike.lease]
      apply within
      rw [← same,Batch.record_of_inFlight hk]
      rfl
  | @taken _ k alike idle record resting _ free lease leases =>
    refine ⟨timed,?_,others fun flying => ?_⟩
    · rw [claims_store w db hb,claim_of_record record,alike.reference,alike.lease]
      obtain ⟨nonneg,now⟩ := (h.timed b (List.mem_of_getElem? hb)).resolve_left alike.live
      have past : b.reference ≤ w.clock := now ▸ le_add_of_nonneg_right nonneg
      exact h.sound.take i past free lease fun x u apart old =>
        leases x u (fun same => apart (Option.some.inj same)) old
    · rw [resting] at flying
      cases flying

/-- A batch that starts has no record in hand. -/
theorem Orderly.joined {b : Batch} (h : Orderly w) (idle : b.record = none)
    (timed : AllTimed { w with batches := w.batches ++ [b] }) :
    Orderly { w with batches := w.batches ++ [b] } := by
  have same : claims { w with batches := w.batches ++ [b] } = claims w := by
    funext j
    unfold claims
    dsimp only
    rcases lt_or_ge j w.batches.length with old | new
    · rw [List.getElem?_append_left old]
    · rw [List.getElem?_append_right new,List.getElem?_eq_none new]
      cases hj : [b][j - w.batches.length]? with
      | none => rfl
      | some x =>
        cases List.mem_singleton.mp (List.mem_of_getElem? hj)
        exact claim_idle idle
  refine ⟨timed,same ▸ h.sound,fun x hx flying => ?_⟩
  rcases List.mem_append.mp hx with old | new
  · exact h.flying x old flying
  · cases List.mem_singleton.mp new
    obtain ⟨k,hk⟩ := Option.isSome_iff_exists.mp flying
    rw [Batch.record_of_inFlight hk] at idle
    cases idle

theorem orderly_step (turn : Turn) (h : Orderly w) (within : Within w turn) :
    Orderly (step env w turn) := by
  cases ha : turn.actor with
  | some i =>
    cases hb : w.batches[i]? with
    | none =>
      rw [turn_absent ha hb]
      exact h
    | some b =>
      refine orderly_acted h hb ?_ (turn_acted ha hb)
      cases turn with
      | advance | node | beginProposals | beginAcceptances => cases ha
      | claim | select | take | look | post | answered | check => exact within i ha b hb
  | none =>
    have timed : AllTimed (step env w turn) := allTimed_step turn h.timed
    cases turn with
    | claim | select | take | look | post | answered | check => cases ha
    | advance d =>
      have same : claims (step env w (.advance d)) = claims w := by
        funext j
        simp only [claims,step,List.getElem?_map]
        cases w.batches[j]? with
        | none => rfl
        | some b => cases b <;> rfl
      refine ⟨timed,?_,?_⟩
      · rw [same]
        exact h.sound.tick (le_add_of_nonneg_right (Int.natCast_nonneg d))
      · intro x hx flying
        obtain ⟨b,hb,rfl⟩ := List.mem_map.mp hx
        cases b with
        | finished => cases flying
        | proposals b => exact within _ hb flying
        | acceptances b => exact within _ hb flying
    | node a =>
      simp only [step] at timed ⊢
      split
      · exact h
      · rename_i outside
        rw [if_neg outside] at timed
        refine ⟨timed,?_,h.flying⟩
        have leases : LeasesBut w.db.market (Node.step env w.db a).market none :=
          leases_node (Bool.eq_false_of_not_eq_true outside) w.db
        exact h.sound.congr fun k t held => leases k t (Option.some_ne_none k) held
    | beginProposals limit =>
      simp only [step] at timed ⊢
      split
      · rename_i fits
        rw [if_pos fits] at timed
        exact h.joined rfl timed
      · exact h
    | beginAcceptances => exact h.joined rfl timed

theorem orderly_start (db : Db) (clock : Instant) : Orderly ⟨db,clock,[]⟩ :=
  ⟨fun _ h => absurd h List.not_mem_nil,Lease.sound_idle fun _ => rfl,
    fun _ h => absurd h List.not_mem_nil⟩

/-- A POST leaves in its windows just when no lease and no expiry ran out during the
calls before it; and while a batch acts on its record within its lease only, no record
has two POSTs on their way. -/
theorem dispatch_windows (env : Env) (db : Db) (clock : Instant) (turns : List Turn) :
    (Along (step env) Timely ⟨db,clock,[]⟩ turns ↔ Along (step env) Prompt ⟨db,clock,[]⟩ turns) ∧
      (Along (step env) Within ⟨db,clock,[]⟩ turns →
        Always (step env) Exclusive ⟨db,clock,[]⟩ turns) := by
  constructor
  · have kept : Always (step env) (fun w => AllTimed w ∧ AllAhead w) ⟨db,clock,[]⟩ turns :=
      always_of_step (fun _ turn h _ => ⟨allTimed_step turn h.1,allAhead_step turn h.2⟩)
        ⟨(orderly_start db clock).timed,fun _ h => absurd h List.not_mem_nil⟩ (along_true _ _)
    exact along_congr (fun _ turn h => timely_iff_prompt h.1 h.2 turn) kept
  · intro within
    have orderly := always_of_step (fun _ turn h => orderly_step turn h) (orderly_start db clock) within
    exact orderly.mono fun _ h => h.exclusive

instance (w : World) (turn : Turn) : Decidable (Timely w turn) := by
  unfold Timely
  infer_instance

instance (w : World) (turn : Turn) : Decidable (Prompt w turn) := by
  unfold Prompt
  infer_instance

instance (w : World) (turn : Turn) : Decidable (Within w turn) := by
  cases turn <;> unfold Within <;> infer_instance

/-- Seconds that pass, no more than the client waits for an answer where one is
waited for. -/
def after (n : Nat) : Turn := .advance (n * 1000000)

/-- The acceptance of the purchase: a first attempt goes unanswered. -/
def attempted : List Turn :=
  Node.purchase.map .node ++
    [after 63,.beginAcceptances,.select 0 25,.take 0,.look 0 (.error none),.post 0,after 10,
      .answered 0 .timeout]

/-- The second attempt, a second before the swap expires: the GET that precedes
the POST takes ten seconds, and the expiry is checked against the old instant. -/
theorem late_acceptance :
    let turns := attempted ++ [after 46,.beginAcceptances,.select 1 25,.take 1,after 10,
      .look 1 (.error none),.post 1]
    ¬(Along (step Node.buyer) Timely ⟨Node.opened "C1",0,[]⟩ turns ∧
      Always (step Node.buyer) Exclusive ⟨Node.opened "C1",0,[]⟩ turns) := by
  intro turns both
  have sent_late : ¬Along (step Node.buyer) Timely ⟨Node.opened "C1",0,[]⟩ turns := by
    decide +kernel
  exact sent_late both.1

/-- Two dispatchers make the second attempt; one of them finds the lease taken. -/
theorem contended_acceptance :
    let turns := attempted ++ [after 5,.beginAcceptances,.beginAcceptances,.select 1 25,
      .select 2 25,.take 1,.take 2,after 10,.look 1 (.error none),.post 1]
    Along (step Node.buyer) Timely ⟨Node.opened "C1",0,[]⟩ turns ∧
      Always (step Node.buyer) Exclusive ⟨Node.opened "C1",0,[]⟩ turns := by
  intro turns
  have windows := dispatch_windows Node.buyer (Node.opened "C1") 0 turns
  exact ⟨windows.1.mpr (by decide +kernel),windows.2 (by decide +kernel)⟩

end WalletDispatch

end EnergyNode
