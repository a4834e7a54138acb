import EnergyNode.Stock
import EnergyNode.TerminalOutcomes
import EnergyNode.Wallet

/-! What releases a hold. A refused accept or cancel is no evidence that its swap
ended, yet the node takes it for one; without such an event a hold is
released only for a proposal that will never settle, and no offer is oversold. -/
namespace EnergyNode
open Lib WalletEvents

namespace HoldEvidence
open Wallet SwapTimeouts

/-- The proposal of a record will never settle: the wallet has it so, or it was
closed before any POST. -/
def Dead (w : Wallet) (r : SwapRecord) : Prop :=
  w.ended r.idpk ∨ r.status.terminal ∧ r.proposalAttemptCount = 0

/-- A proposal of ours, its reservation and its swap in the wallet. -/
structure Agreed (w : Wallet) (r : SwapRecord) (h : OfferReservation) : Prop where
  offer : r.memo = some h.offerId
  kwh : r.giveAmount = h.quantity
  ownKey : r.idempotencyKey = r.idpk
  noAcceptKey : r.acceptIdempotencyKey = none
  id : ∀ id, r.swapId = some id → w.named r.idpk id
  settled : r.status = .settled → w.settled r.idpk
  failed : r.status.failed → Dead w r
  released : h.status = .released → Dead w r
  sent : ∀ x, w.swaps.get? r.idpk = some x →
    x.offerId = r.memo ∧ x.kwh = r.giveAmount ∧ 0 < r.proposalAttemptCount

/-- The rows of a key: a reservation and a proposal of ours come together. -/
structure Paired (w : Wallet) (k : String) (d : Deal) : Prop where
  agreed : ∀ r, d.swap = some r → r.role = .proposer →
    r.idpk = k ∧ ∃ h, d.reservation = some h ∧ Agreed w r h
  ours : ∀ h, d.reservation = some h → ∃ r, d.swap = some r ∧ r.role = .proposer
  created : ∀ x, w.swaps.get? k = some x → ∃ r, d.swap = some r ∧ r.role = .proposer

/-- The wallet keeps a swap and a refusal of one proposal apart. -/
structure Sane (w : Wallet) : Prop where
  apart : ∀ k ∈ w.refused, w.swaps.get? k = none
  ids : ∀ x ∈ w.swaps, ∀ y ∈ w.swaps, x.id = y.id → x = y

/-- A refusal that finds a live record. -/
def strikes (m : Market) : Cause → Bool
  | .event type data _ => refusesOperation type data &&
      match correlate m.swaps data with
      | .ok (some r) => !r.status.terminal
      | _ => false
  | _ => false

/-- What the step of the node may rest on. -/
structure Evidence (w : Wallet) (m : Market) (c : Cause) : Prop where
  honest : w.Honest m c
  calm : strikes m c = false

theorem eventId_of_ok {data : Fields} {id : Option String} (h : eventSwapId data = .ok id) :
    eventId data = id := by
  rw [eventId,h]

/-- The proposal an event finds is one the event is about. -/
theorem subject_of_found {w : Wallet} {m : Market} {data : Fields} {r : SwapRecord}
    (found : correlate m.swaps data = .ok (some r)) (role : r.role = .proposer)
    (agreed : ∃ h, Agreed w r h) : r.idpk ∈ w.subjects m data := by
  obtain ⟨h,agreed⟩ := agreed
  have hr := get?_correlated found
  have ours : m.proposes r.idpk := by simp [Market.proposes,hr,role]
  unfold correlate at found
  obtain ⟨id,hid,found⟩ := Fallible.bind_ok.mp found
  split at found
  · rename_i r' hw
    cases Fallible.pure_ok.mp found
    obtain ⟨swapId,rfl,hs⟩ := Option.bind_eq_some_iff.mp hw
    have carries : r.swapId = some swapId := by simpa using List.find?_some hs
    obtain ⟨x,hx,same⟩ := (Option.any_eq_true _ _).mp (agreed.id swapId carries)
    rw [decide_eq_true_eq] at same
    refine List.mem_append_left _ (List.mem_map.mpr ⟨x,List.mem_filter.mpr ⟨?_,?_⟩,?_⟩)
    · exact Table.mem_of_get? hx
    · rw [eventId_of_ok hid,same]
      simp
    · exact Table.key_of_get? hx
  · obtain ⟨key,hkey,found⟩ := Fallible.bind_ok.mp found
    split at found
    · rename_i key
      have named : eventKey data = some key := by rw [eventKey,hkey]
      have same : key = r.idpk := by
        simp only [Fallible.pure_ok,HOrElse.hOrElse,OrElse.orElse,Option.orElse_eq_or,
          Option.or_eq_some_iff] at found
        rcases found with hk | ⟨_,hk | ⟨_,hk⟩⟩
        · exact (Table.key_of_get? hk).symm
        · have accepts := List.find?_some hk
          rw [agreed.noAcceptKey] at accepts
          simp at accepts
        · have proposes := List.find?_some hk
          rw [agreed.ownKey] at proposes
          exact (of_decide_eq_true proposes).symm
      subst same
      refine List.mem_append_right _ (List.mem_filter.mpr ⟨?_,ours⟩)
      simp [named]
    · cases Fallible.pure_ok.mp found

theorem Dead.ended {w : Wallet} {r : SwapRecord} (h : Dead w r)
    (live : r.status.terminal = false) : w.ended r.idpk := by
  rcases h with ended | closed
  · exact ended
  · rw [live] at closed
    cases closed.1

theorem Agreed.next {w : Wallet} {r s : SwapRecord} {h x : OfferReservation} (a : Agreed w r h)
    (deal : SameDeal r s) (offer : x.offerId = h.offerId) (quantity : x.quantity = h.quantity)
    (id : ∀ id, s.swapId = some id → w.named r.idpk id)
    (settled : s.status = .settled → w.settled r.idpk) (failed : s.status.failed → Dead w s)
    (released : x.status = .released → Dead w s)
    (more : r.proposalAttemptCount ≤ s.proposalAttemptCount) : Agreed w s x where
  offer := by rw [deal.memo,offer,a.offer]
  kwh := by rw [deal.giveAmount,quantity,a.kwh]
  ownKey := by rw [deal.idempotencyKey,deal.idpk,a.ownKey]
  noAcceptKey := deal.acceptIdempotencyKey.trans a.noAcceptKey
  id := deal.idpk ▸ id
  settled := deal.idpk ▸ settled
  failed := failed
  released := released
  sent := by
    intro y hy
    obtain ⟨memo,kwh,sent⟩ := a.sent y (deal.idpk ▸ hy)
    exact ⟨deal.memo ▸ memo,deal.giveAmount ▸ kwh,Nat.lt_of_lt_of_le sent more⟩

@[simp] theorem movedBy_offerId (h : OfferReservation) (r : SwapRecord) (action : Action) :
    (h.movedBy r action).offerId = h.offerId := by
  unfold OfferReservation.movedBy
  split <;> rfl

@[simp] theorem movedBy_quantity (h : OfferReservation) (r : SwapRecord) (action : Action) :
    (h.movedBy r action).quantity = h.quantity := by
  unfold OfferReservation.movedBy
  split <;> rfl

@[simp] theorem carriedBy_offerId (h : OfferReservation) (r : SwapRecord) (type : EventType) :
    (h.carriedBy r type).offerId = h.offerId := by
  cases type <;> first | rfl | exact movedBy_offerId ..

@[simp] theorem carriedBy_quantity (h : OfferReservation) (r : SwapRecord) (type : EventType) :
    (h.carriedBy r type).quantity = h.quantity := by
  cases type <;> first | rfl | exact movedBy_quantity ..

theorem released_of_carriedBy {h : OfferReservation} {r : SwapRecord} {type : EventType}
    (released : (h.carriedBy r type).status = .released) : h.status = .released ∨ type.fails := by
  cases type with
  | proposed => exact .inl released
  | settled =>
    left
    simp only [OfferReservation.carriedBy,OfferReservation.movedBy] at released
    split at released
    · cases released
    · exact released
  | rejected => exact .inr rfl
  | expired => exact .inr rfl
  | cancelled => exact .inr rfl

theorem fails_iff (type : EventType) :
    type.fails ↔ type = .rejected ∨ type = .expired ∨ type = .cancelled := by
  cases type <;> decide

/-- The rows of a key that only another state of its proposal replaces. -/
theorem Paired.withSwap {w : Wallet} {k : String} {bid c : Option MarketBid}
    {x y : Option OfferReservation} {r s : SwapRecord} (p : Paired w k ⟨bid,x,some r⟩)
    (deal : SameDeal r s) (same : y.isSome → x.isSome)
    (next : r.role = .proposer → ∀ h, x = some h → Agreed w r h →
      ∃ h', y = some h' ∧ Agreed w s h') : Paired w k ⟨c,y,some s⟩ where
  agreed := by
    rintro _ ⟨⟩ role
    obtain ⟨key,h,hx,agreed⟩ := p.agreed r rfl (deal.role ▸ role)
    exact ⟨deal.idpk.trans key,next (deal.role ▸ role) h hx agreed⟩
  ours := by
    intro h hy
    obtain ⟨h',hx⟩ := Option.isSome_iff_exists.mp (same (by rw [show y = some h from hy]; rfl))
    obtain ⟨_,⟨⟩,role⟩ := p.ours h' hx
    exact ⟨s,rfl,deal.role.trans role⟩
  created := by
    intro z hz
    obtain ⟨_,⟨⟩,role⟩ := p.created z hz
    exact ⟨s,rfl,deal.role.trans role⟩

theorem Paired.withBid {w : Wallet} {k : String} {b c : Option MarketBid}
    {x : Option OfferReservation} {swap : Option SwapRecord} (p : Paired w k ⟨b,x,swap⟩) :
    Paired w k ⟨c,x,swap⟩ := ⟨p.agreed,p.ours,p.created⟩

/-- An event that moves a proposal of ours tells what the wallet has of it. -/
theorem tells_of_live {w : Wallet} {m : Market} {type : EventType} {data : Fields}
    {rejection : Json} {r : SwapRecord} {h : OfferReservation}
    (evidence : Evidence w m (.event type data rejection))
    (found : correlate m.swaps data = .ok (some r)) (live : r.status.terminal = false)
    (role : r.role = .proposer) (agreed : Agreed w r h) : Tells w r.idpk type data := by
  have calm := evidence.calm
  simp only [strikes,found,live,Bool.not_false,Bool.and_true] at calm
  rcases evidence.honest with refused | tells
  · rw [calm] at refused
    cases refused
  · exact tells _ (subject_of_found found role ⟨h,agreed⟩)

theorem agreed_event {w : Wallet} {m : Market} {type : EventType} {data : Fields}
    {rejection : Json} {r s : SwapRecord} {h : OfferReservation} {swapId : Option String}
    (evidence : Evidence w m (.event type data rejection))
    (found : correlate m.swaps data = .ok (some r)) (live : r.status.terminal = false)
    (hid : eventSwapId data = .ok swapId) (deal : SameDeal r s) (status : s.status = type.status)
    (id : s.swapId = (learn r type swapId data).swapId)
    (attempts : s.proposalAttemptCount = r.proposalAttemptCount) (role : r.role = .proposer)
    (agreed : Agreed w r h) : Agreed w s (h.carriedBy r type) := by
  have tells := tells_of_live evidence found live role agreed
  have dead (fails : type.fails) : Dead w s := by
    left
    rw [deal.idpk]
    exact tells.ended ((fails_iff type).mp fails)
  refine agreed.next deal (by simp) (by simp) ?_ ?_ ?_ ?_ attempts.ge
  · intro known hk
    rw [id,learn] at hk
    dsimp only at hk
    split at hk
    · exact tells.id known (by rw [eventId_of_ok hid]; exact hk)
    · exact agreed.id known hk
  · intro settled
    refine tells.settled ?_
    rw [status] at settled
    cases type <;> first | rfl | cases settled
  · intro failed
    rw [status,EventType.failed_status] at failed
    exact dead failed
  · intro released
    rcases released_of_carriedBy released with before | fails
    · left
      rw [deal.idpk]
      exact (agreed.released before).ended live
    · exact dead fails

theorem settled_not_dead {w : Wallet} (sane : Sane w) {r : SwapRecord} {h : OfferReservation}
    (agreed : Agreed w r h) (settled : w.settled r.idpk) : ¬Dead w r := by
  obtain ⟨x,hx,fate⟩ := (Option.any_eq_true _ _).mp settled
  rw [decide_eq_true_eq] at fate
  rintro (ended | ⟨_,unsent⟩)
  · rw [Wallet.ended,hx,Option.any_some,fate,Bool.or_eq_true,decide_eq_true_eq] at ended
    rcases ended with refused | other
    · rw [sane.apart _ refused] at hx
      cases hx
    · cases other
  · have sent := (agreed.sent x hx).2.2
    rw [unsent] at sent
    cases sent

/-- A closed record keeps what is known of it, unless it turns out settled. -/
theorem agreed_revised {w : Wallet} {m : Market} {type : EventType} {data : Fields}
    {rejection : Json} {r s : SwapRecord} {h : OfferReservation}
    (evidence : Evidence w m (.event type data rejection))
    (found : correlate m.swaps data = .ok (some r)) (terminal : r.status.terminal)
    (deal : SameDeal r s) (id : s.swapId = r.swapId)
    (attempts : s.proposalAttemptCount = r.proposalAttemptCount)
    (status : s.status = if type = .settled then .settled else r.status)
    (role : r.role = .proposer) (agreed : Agreed w r h) : Agreed w s h := by
  have keep (dead : Dead w r) : Dead w s := by
    have terminal' : s.status.terminal := by
      rw [status]
      split
      · rfl
      · exact terminal
    refine dead.imp (fun ended => deal.idpk ▸ ended) fun closed => ?_
    exact ⟨terminal',attempts.trans closed.2⟩
  refine agreed.next deal rfl rfl (fun known hk => agreed.id known (id ▸ hk)) ?_ ?_
    (fun released => keep (agreed.released released)) attempts.ge
  · intro settled
    by_cases hs : type = .settled
    · rcases evidence.honest with refused | tells
      · rw [hs] at refused
        cases refused
      · exact (tells _ (subject_of_found found role ⟨h,agreed⟩)).settled hs
    · rw [status,if_neg hs] at settled
      exact agreed.settled settled
  · intro failed
    by_cases hs : type = .settled
    · rw [status,if_pos hs] at failed
      cases failed
    · rw [status,if_neg hs] at failed
      exact keep (agreed.failed failed)

theorem agreed_kept {w : Wallet} {m : Market} {k : String} {r s : SwapRecord}
    {h : OfferReservation} (ours : m.proposes k = true) (key : r.idpk = k) (deal : SameDeal r s)
    (status : s.status = r.status ∨ r.status.terminal = false ∧
      (r.role = .proposer ∧ s.status = .proposed ∨
        r.role = .acceptor ∧ s.status = .acceptSubmitted))
    (id : s.swapId = r.swapId ∨ ∃ swapId, Evidence w m (.answer k swapId) ∧ blank r.swapId ∧
      swapId ≠ "" ∧ s.swapId = some swapId)
    (attempts : s.proposalAttemptCount = r.proposalAttemptCount)
    (agreed : Agreed w r h) : Agreed w s h := by
  have keep (dead : Dead w r) : Dead w s := by
    rcases dead with ended | ⟨closed,unsent⟩
    · exact .inl (deal.idpk ▸ ended)
    · rcases status with same | ⟨live,_⟩
      · exact .inr ⟨same ▸ closed,attempts.trans unsent⟩
      · rw [live] at closed
        cases closed
  have moved (bad : s.status = .settled ∨ s.status.failed) : s.status = r.status := by
    rcases status with same | ⟨_,⟨_,now⟩ | ⟨_,now⟩⟩
    · exact same
    · rw [now] at bad
      rcases bad with bad | bad <;> cases bad
    · rw [now] at bad
      rcases bad with bad | bad <;> cases bad
  refine agreed.next deal rfl rfl ?_ ?_ ?_ (fun released => keep (agreed.released released))
    attempts.ge
  · intro known hk
    rcases id with same | ⟨swapId,evidence,_,_,given⟩
    · exact agreed.id known (same ▸ hk)
    · rw [given,Option.some.injEq] at hk
      subst hk key
      exact evidence.honest ours
  · exact fun settled => agreed.settled (moved (.inl settled) ▸ settled)
  · exact fun failed => keep (agreed.failed (moved (.inr failed) ▸ failed))

theorem agreed_expired {w : Wallet} {m : Market} {r s : SwapRecord} {h : OfferReservation}
    {reason : String} (evidence : Evidence w m (.expiry r.idpk reason))
    (hr : m.swaps.get? r.idpk = some r) (deal : SameDeal r s)
    (status : s.status = .expired) (id : s.swapId = r.swapId)
    (attempts : s.proposalAttemptCount = r.proposalAttemptCount) (role : r.role = .proposer)
    (agreed : Agreed w r h) : Agreed w s (h.movedBy r .release) := by
  have dead : Dead w s := by
    rcases evidence.honest r hr role with unsent | ⟨known,hk,missing⟩
    · right
      unfold neverSent at unsent
      simp only [Bool.and_eq_true,decide_eq_true_eq] at unsent
      exact ⟨by rw [status]; rfl,attempts.trans unsent.1.1.2⟩
    · obtain ⟨x,hx,same⟩ := (Option.any_eq_true _ _).mp (agreed.id known hk)
      exact absurd (of_decide_eq_true same) (missing x (Table.mem_of_get? hx))
  refine agreed.next deal (by simp) (by simp) (fun known hk => agreed.id known (id ▸ hk)) ?_
    (fun _ => dead) (fun _ => dead) attempts.ge
  intro settled
  rw [status] at settled
  cases settled

theorem agreed_reserved (w : Wallet) (b : MarketBid) (price : ℚ) (now : Instant)
    (unknown : w.swaps.get? b.idpk = none) :
    Agreed w (SellerBids.swapIntent b price now) (SellerBids.hold b) where
  offer := rfl
  kwh := rfl
  ownKey := rfl
  noAcceptKey := rfl
  id := fun _ h => nomatch h
  settled := fun h => nomatch h
  failed := fun h => nomatch h
  released := fun h => nomatch h
  sent := by
    intro x hx
    rw [show w.swaps.get? b.idpk = some x from hx] at unknown
    cases unknown

theorem paired_deal {w : Wallet} {m : Market} {P : Cause → Prop} {k : String} {d e : Deal}
    (move : DealMove m P k d e) (hP : ∀ c, P c → Evidence w m c) (here : d = m.deal k)
    (p : Paired w k d) : Paired w k e := by
  cases move with
  | still => exact p
  | arrived => exact p.withBid
  | rejected => exact p.withBid
  | own => exact p.withBid
  | closed => exact p.withBid
  | reserved b price now key =>
    have unknown : w.swaps.get? k = none := by
      cases hx : w.swaps.get? k with
      | none => rfl
      | some x =>
        obtain ⟨r,⟨⟩,_⟩ := p.created x hx
    subst key
    refine ⟨?_,?_,?_⟩
    · rintro _ ⟨⟩ _
      exact ⟨rfl,_,rfl,agreed_reserved w b price now unknown⟩
    · intro h _
      exact ⟨_,rfl,rfl⟩
    · intro x hx
      exact ⟨_,rfl,rfl⟩
  | answered => exact p.withBid
  | taken r role =>
    refine ⟨?_,?_,?_⟩
    · rintro _ ⟨⟩ proposer
      rw [role] at proposer
      cases proposer
    · intro h hh
      obtain ⟨_,⟨⟩,_⟩ := p.ours h hh
    · intro x hx
      obtain ⟨_,⟨⟩,_⟩ := p.created x hx
  | event r s type data rejection swapId cause found key live hid deal status id proposal =>
    refine p.withSwap deal (by simp) fun role h hx agreed => ?_
    refine ⟨h.carriedBy r type,by rw [hx]; rfl,?_⟩
    exact agreed_event (hP _ cause) found live hid deal status id proposal.attempts role agreed
  | revised r s type data rejection cause found key terminal deal id proposal status =>
    refine p.withSwap deal (fun h => h) fun role h hx agreed => ⟨h,hx,?_⟩
    exact agreed_revised (hP _ cause) found terminal deal id proposal.attempts status role agreed
  | expired r s reason cause key live deal status id proposal =>
    refine p.withSwap deal (by simp) fun role h hx agreed => ?_
    have hr : m.swaps.get? k = some r := congrArg Deal.swap here.symm
    subst key
    refine ⟨h.movedBy r .release,by rw [hx]; rfl,?_⟩
    exact agreed_expired (hP _ cause) hr deal status id proposal.attempts role agreed
  | kept r s key deal status id proposal =>
    refine p.withSwap deal (fun h => h) fun role h hx agreed => ⟨h,hx,?_⟩
    have hr : m.swaps.get? k = some r := congrArg Deal.swap here.symm
    have ours : m.proposes k = true := by simp [Market.proposes,hr,role]
    have known := id.imp_right (Exists.imp fun _ given => given.imp_left (hP _))
    exact agreed_kept ours key deal status known proposal.attempts agreed
  | claimed r s key deal before after id more role held =>
    refine p.withSwap deal (fun h => h) fun role h hx agreed => ⟨h,hx,?_⟩
    refine agreed.next deal rfl rfl (fun known hk => agreed.id known (id ▸ hk)) ?_ ?_ ?_
      (by omega)
    · intro settled
      rw [after] at settled
      cases settled
    · intro failed
      rw [after] at failed
      cases failed
    · intro released
      obtain ⟨x,hx',hold⟩ := held
      cases hx.symm.trans hx'
      rw [hold] at released
      cases released
  | refused r s key role deal =>
    refine p.withSwap deal (fun h => h) fun proposer => ?_
    rw [role] at proposer
    cases proposer

/-- The node and the wallet agree on every proposal. -/
structure Coherent (s : World) : Prop where
  sound : s.db.market.Sound
  sane : Sane s.wallet
  paired : ∀ k, Paired s.wallet k (s.db.market.deal k)

/-- The turns of the run: what reaches the node is true, and no refusal finds a
live record. -/
def Calm (s : World) : World.Turn → Prop
  | .node a => ∀ c ∈ Node.causes s.db a, strikes (Node.reading s.db a c) c = false
  | _ => True

instance (s : World) : ∀ t, Decidable (Calm s t)
  | .node _ => inferInstanceAs (Decidable (∀ _ ∈ _, _))
  | .accept .. => inferInstanceAs (Decidable True)
  | .refuse _ => inferInstanceAs (Decidable True)
  | .settle _ => inferInstanceAs (Decidable True)
  | .fail _ => inferInstanceAs (Decidable True)

theorem paired_moves {cfg : Config} {w : Wallet} {P : Market → Cause → Prop} {d d' : Desk}
    (moves : Moves cfg P d d') (hP : ∀ m c, P m c → Evidence w m c) (k : String)
    (p : Paired w k (d.market.deal k)) : Paired w k (d'.market.deal k) := by
  induction moves with
  | refl => exact p
  | tail _ move ih => exact paired_deal (Market.deal_move move k) (hP _) rfl ih

/-- A wallet that moves one swap, seen from a proposal of the node. -/
theorem Agreed.withWallet {w v : Wallet} {r : SwapRecord} {h : OfferReservation}
    (a : Agreed w r h) (named : ∀ id, w.named r.idpk id → v.named r.idpk id)
    (settled : w.settled r.idpk → v.settled r.idpk) (dead : Dead w r → Dead v r)
    (sent : ∀ x, v.swaps.get? r.idpk = some x →
      x.offerId = r.memo ∧ x.kwh = r.giveAmount ∧ 0 < r.proposalAttemptCount) : Agreed v r h where
  offer := a.offer
  kwh := a.kwh
  ownKey := a.ownKey
  noAcceptKey := a.noAcceptKey
  id := fun id hid => named id (a.id id hid)
  settled := fun done => settled (a.settled done)
  failed := fun failed => dead (a.failed failed)
  released := fun released => dead (a.released released)
  sent := sent

theorem close_spec (w : Wallet) (k : String) (fate : Fate) :
    w.close k fate = w ∨ ∃ x, w.swaps.get? k = some x ∧ x.fate = .live ∧
      w.close k fate = { w with swaps := w.swaps.set { x with fate := fate } } := by
  unfold Wallet.close
  split
  · exact .inl rfl
  · rename_i x hx
    split
    · rename_i live
      exact .inr ⟨x,hx,live,rfl⟩
    · exact .inl rfl

/-- A turn of the wallet on one proposal leaves the others as they were. -/
theorem Paired.elsewhere {w v : Wallet} {k : String} {d : Deal} (p : Paired w k d)
    (swaps : v.swaps.get? k = w.swaps.get? k) (refused : k ∈ v.refused ↔ k ∈ w.refused) :
    Paired v k d where
  agreed := by
    intro r hr role
    obtain ⟨rfl,h,hh,agreed⟩ := p.agreed r hr role
    refine ⟨rfl,h,hh,agreed.withWallet ?_ ?_ ?_ ?_⟩
    · intro id named
      rwa [Wallet.named,swaps]
    · intro settled
      rwa [Wallet.settled,swaps]
    · refine Or.imp_left fun ended => ?_
      rw [Wallet.ended,Bool.or_eq_true,decide_eq_true_eq] at ended ⊢
      rwa [swaps,refused]
    · rw [swaps]
      exact agreed.sent
  ours := p.ours
  created := by
    rw [swaps]
    exact p.created

theorem paired_close {w : Wallet} {x : WalletSwap} {fate : Fate} {d : Deal}
    (hx : w.swaps.get? x.key = some x) (live : x.fate = .live) (p : Paired w x.key d) :
    Paired { w with swaps := w.swaps.set { x with fate := fate } } x.key d := by
  have stored : (w.swaps.set { x with fate := fate }).get? x.key =
      some { x with fate := fate } := Table.get?_set_self (a := { x with fate := fate }) hx
  refine ⟨?_,p.ours,fun _ _ => p.created x hx⟩
  intro r hr role
  obtain ⟨key,h,hh,agreed⟩ := p.agreed r hr role
  refine ⟨key,h,hh,agreed.withWallet ?_ ?_ ?_ ?_⟩
  · intro id named
    simp only [Wallet.named,key,hx,stored,Option.any_some] at named ⊢
    exact named
  · intro settled
    simp [Wallet.settled,key,hx,live] at settled
  · refine Or.imp_left fun ended => ?_
    simp only [Wallet.ended,key,hx,live,Option.any_some,Bool.or_eq_true,decide_eq_true_eq] at ended ⊢
    rcases ended with refused | other
    · exact .inl refused
    · cases other
  · intro y hy
    rw [key,stored,Option.some.injEq] at hy
    subst hy
    exact agreed.sent x (key ▸ hx)

theorem sane_close {w : Wallet} {x : WalletSwap} {fate : Fate} (h : Sane w)
    (hx : w.swaps.get? x.key = some x) :
    Sane { w with swaps := w.swaps.set { x with fate := fate } } where
  apart := by
    intro k hk
    have none := h.apart k hk
    rw [Table.get?_set]
    split
    · rw [none]
      rfl
    · exact none
  ids := by
    have back (y : WalletSwap) (hy : y ∈ w.swaps.set { x with fate := fate }) :
        ∃ z ∈ w.swaps, z.key = y.key ∧ z.id = y.id := by
      rcases Table.mem_set.mp hy with ⟨hy,_⟩ | ⟨rfl,_⟩
      · exact ⟨y,hy,rfl,rfl⟩
      · exact ⟨x,Table.mem_of_get? hx,rfl,rfl⟩
    intro y hy z hz same
    obtain ⟨y',hy',keyY,idY⟩ := back y hy
    obtain ⟨z',hz',keyZ,idZ⟩ := back z hz
    have eq := h.ids y' hy' z' hz' (idY.trans (same.trans idZ.symm))
    exact Table.eq_of_key hy hz (keyY.symm.trans (eq ▸ keyZ))

theorem coherent_close {s : World} (h : Coherent s) (k : String) (fate : Fate) :
    Coherent { s with wallet := s.wallet.close k fate } := by
  rcases close_spec s.wallet k fate with same | ⟨x,hx,live,moved⟩
  · rw [same]
    exact h
  rw [moved]
  have key := Table.key_of_get? hx
  subst key
  refine ⟨h.sound,sane_close h.sane hx,fun j => ?_⟩
  by_cases hj : x.key = j
  · subst hj
    exact paired_close hx live (h.paired _)
  · exact (h.paired j).elsewhere (Table.get?_set_ne s.wallet.swaps hj) Iff.rfl

theorem coherent_refuse {s : World} (h : Coherent s) (k : String) :
    Coherent { s with wallet := s.wallet.refuse k } := by
  unfold Wallet.refuse
  split
  · exact h
  rename_i absent
  rw [Bool.not_eq_true,Option.isSome_eq_false_iff,Option.isNone_iff_eq_none] at absent
  refine ⟨h.sound,⟨?_,h.sane.ids⟩,fun j => ?_⟩
  · intro j hj
    rcases List.mem_cons.mp hj with rfl | hj
    · exact absent
    · exact h.sane.apart j hj
  · refine ⟨?_,(h.paired j).ours,(h.paired j).created⟩
    intro r hr role
    obtain ⟨key,x,hx,agreed⟩ := (h.paired j).agreed r hr role
    refine ⟨key,x,hx,agreed.withWallet (fun _ named => named) (fun settled => settled) ?_
      agreed.sent⟩
    refine Or.imp_left fun ended => ?_
    simp only [Wallet.ended,Bool.or_eq_true,decide_eq_true_eq] at ended ⊢
    exact ended.imp_left (List.mem_cons_of_mem _)

theorem accept_spec (w : Wallet) (m : Market) (k id : String) :
    w.accept m k id = w ∨ ∃ r free, m.swaps.get? k = some r ∧ r.role = .proposer ∧
      0 < r.proposalAttemptCount ∧ k ∉ w.refused ∧ (∀ x ∈ w.swaps, x.id ≠ id) ∧
      w.accept m k id = { w with swaps := w.swaps.insert (swapOf r id) free } := by
  unfold Wallet.accept
  split
  · exact .inl rfl
  · rename_i r hr
    obtain ⟨hr,sent⟩ := Option.filter_eq_some_iff.mp hr
    rw [decide_eq_true_eq] at sent
    split
    · exact .inl rfl
    · rename_i open_
      rw [not_or] at open_
      split
      · rename_i swaps hs
        obtain ⟨free,rfl⟩ := Table.insert?_eq_some.mp hs
        refine .inr ⟨r,free,hr,sent.1,sent.2,open_.1,?_,rfl⟩
        intro x hx same
        exact open_.2 (List.any_eq_true.mpr ⟨x,hx,decide_eq_true same⟩)
      · exact .inl rfl

theorem coherent_accept {s : World} (h : Coherent s) (k id : String) :
    Coherent { s with wallet := s.wallet.accept s.db.market k id } := by
  rcases accept_spec s.wallet s.db.market k id with same | ⟨r,free,hr,role,sent,open_,fresh,moved⟩
  · rw [same]
    exact h
  rw [moved]
  have key := Table.key_of_get? hr
  subst key
  refine ⟨h.sound,⟨?_,?_⟩,fun j => ?_⟩
  · intro j hj
    rw [Table.get?_insert,if_neg]
    · exact h.sane.apart j hj
    · rintro rfl
      exact open_ hj
  · intro x hx y hy same
    rcases (Table.mem_insert (h := free)).mp hx with hx | rfl
    · rcases (Table.mem_insert (h := free)).mp hy with hy | rfl
      · exact h.sane.ids x hx y hy same
      · exact absurd same (fresh x hx)
    · rcases (Table.mem_insert (h := free)).mp hy with hy | rfl
      · exact absurd same.symm (fresh y hy)
      · rfl
  · by_cases hj : r.idpk = j
    · subst hj
      have unknown : s.wallet.swaps.get? r.idpk = none := free
      have stored : (s.wallet.swaps.insert (swapOf r id) free).get? r.idpk = some (swapOf r id) :=
        (Table.get?_insert ..).trans (if_pos rfl)
      refine ⟨?_,(h.paired r.idpk).ours,fun _ _ => ⟨r,hr,role⟩⟩
      intro r' hr' role'
      cases hr.symm.trans hr'
      obtain ⟨key,x,hx,agreed⟩ := (h.paired r.idpk).agreed r hr role
      refine ⟨key,x,hx,agreed.withWallet ?_ ?_ ?_ ?_⟩
      · intro id named
        simp [Wallet.named,unknown] at named
      · intro settled
        simp [Wallet.settled,unknown] at settled
      · rintro (ended | ⟨_,unsent⟩)
        · simp [Wallet.ended,unknown,open_] at ended
        · omega
      · intro y hy
        rw [stored,Option.some.injEq] at hy
        subst hy
        exact ⟨rfl,rfl,sent⟩
    · have kept : (s.wallet.swaps.insert (swapOf r id) free).get? j = s.wallet.swaps.get? j :=
        (Table.get?_insert ..).trans (if_neg hj)
      exact (h.paired j).elsewhere kept Iff.rfl

theorem coherent_step {env : Env} {s : World} {t : World.Turn} (honest : s.Honest t)
    (calm : Calm s t) (h : Coherent s) : Coherent (s.step env t) := by
  cases t with
  | node a =>
    have moves := Node.step_moves env s.db a
    refine ⟨Market.sound_moves moves h.sound,h.sane,fun k => ?_⟩
    refine paired_moves moves ?_ k (h.paired k)
    rintro m c ⟨hc,placeless | read⟩
    · cases c <;> first | exact ⟨trivial,rfl⟩ | cases placeless
    · rw [read]
      exact ⟨honest c hc,calm c hc⟩
  | accept k id => exact coherent_accept h k id
  | refuse k => exact coherent_refuse h k
  | settle k => exact coherent_close h k .settled
  | fail k => exact coherent_close h k .ended

theorem coherent_start (db : Db) (empty : db.market = {}) : Coherent { db := db } := by
  refine ⟨?_,⟨?_,?_⟩,?_⟩
  · rw [empty]
    exact Market.sound_empty
  · intro k hk
    cases hk
  · intro x hx
    cases hx
  · intro k
    rw [empty]
    refine ⟨?_,?_,?_⟩
    · rintro _ ⟨⟩
    · rintro _ ⟨⟩
    · intro x hx
      cases (Table.get?_empty k).symm.trans hx

/-- Energy of an offer that is held or sold. -/
def promisedKwh (m : Market) (offerId : String) : ℚ :=
  m.reservations.sum fun h =>
    if h.offerId = offerId ∧ h.status ≠ .released then (h.quantity : ℚ) else 0

theorem promised_eq (m : Market) (offerId : String) : promisedKwh m offerId =
    ((SellerBids.heldKwh m offerId + m.committedKwh offerId : Int) : ℚ) := by
  unfold promisedKwh SellerBids.heldKwh Market.committedKwh Table.sum
  rw [← List.sum_map_add]
  refine Eq.trans ?_ (map_list_sum (Int.castAddHom ℚ) _).symm
  rw [List.map_map]
  congr 1
  apply List.map_congr_left
  intro h _
  by_cases offer : h.offerId = offerId
  · cases status : h.status with
    | hold => simp [offer,status]
    | committed => simp [offer,status]
    | released => simp [status]
  · simp [offer]

theorem promised_le {m : Market} (sound : m.Sound) {o : MarketOffer} (ho : o ∈ m.offers)
    (ours : o.isLocal = true) : promisedKwh m o.offerId ≤ o.initialQuantity := by
  obtain ⟨a,ha⟩ := sound.backed o ho ours
  have balanced := a.balanced
  have covered := a.covered
  rw [ha.remaining,ha.committed,ha.initial] at balanced
  rw [ha.held,ha.remaining] at covered
  rw [promised_eq]
  exact_mod_cast (by omega : SellerBids.heldKwh m o.offerId + m.committedKwh o.offerId ≤
    o.initialQuantity)

/-- Each settled swap stands on a reservation that was not released. -/
theorem settled_le_promised {s : World} (h : Coherent s) (offerId : String) :
    s.wallet.settledKwh offerId ≤ promisedKwh s.db.market offerId := by
  refine Table.sum_le_sum_of_match s.wallet.swaps s.db.market.reservations _ _ ?_ ?_
  · intro x hx
    split_ifs
    · exact_mod_cast (h.sound.positive x hx).le
    · exact le_rfl
  · intro x hx
    by_cases counted : x.offerId = some offerId ∧ x.fate = .settled
    · right
      have hget := Table.get?_of_mem hx
      obtain ⟨r,hr,role⟩ := (h.paired x.key).created x hget
      obtain ⟨key,y,hy,agreed⟩ := (h.paired x.key).agreed r hr role
      rw [← key] at hget
      obtain ⟨memo,kwh,_⟩ := agreed.sent x hget
      have settled : s.wallet.settled r.idpk := by
        rw [Wallet.settled,hget]
        exact decide_eq_true counted.2
      have offer : y.offerId = offerId := by
        have same := agreed.offer.symm.trans (memo.symm.trans counted.1)
        exact Option.some.inj same
      have kept : y.status ≠ .released := fun released =>
        settled_not_dead h.sane agreed settled (agreed.released released)
      refine ⟨y,Table.mem_of_get? hy,Table.key_of_get? hy,?_⟩
      rw [if_pos counted,if_pos ⟨offer,kept⟩,kwh,agreed.kwh]
    · left
      rw [if_neg counted]

/-- What every state of a calm run has: a hold is released, and a proposal
recorded as failed, only when it will never settle; no offer is oversold. -/
structure Evident (s : World) : Prop where
  released : ∀ h ∈ s.db.market.reservations, h.status = .released →
    ∃ r, s.db.market.swaps.get? h.bidIdpk = some r ∧ Dead s.wallet r
  failed : ∀ r ∈ s.db.market.swaps, r.role = .proposer → r.status.failed → Dead s.wallet r
  settled : ∀ r ∈ s.db.market.swaps, r.role = .proposer → r.status = .settled →
    s.wallet.settled r.idpk
  sold : ∀ o ∈ s.db.market.offers, o.isLocal = true →
    s.wallet.settledKwh o.offerId ≤ o.initialQuantity

theorem evident_of_coherent {s : World} (h : Coherent s) : Evident s where
  released := by
    intro x hx released
    have hget := Table.get?_of_mem hx
    obtain ⟨r,hr,role⟩ := (h.paired x.bidIdpk).ours x hget
    obtain ⟨_,y,hy,agreed⟩ := (h.paired x.bidIdpk).agreed r hr role
    cases hget.symm.trans hy
    exact ⟨r,hr,agreed.released released⟩
  failed := by
    intro r hr role failed
    obtain ⟨_,y,_,agreed⟩ := (h.paired r.idpk).agreed r (Table.get?_of_mem hr) role
    exact agreed.failed failed
  settled := by
    intro r hr role settled
    obtain ⟨_,y,_,agreed⟩ := (h.paired r.idpk).agreed r (Table.get?_of_mem hr) role
    exact agreed.settled settled
  sold := fun o ho ours =>
    (settled_le_promised h o.offerId).trans (promised_le h.sound ho ours)

/-- Every record and every reservation is in the status it was in. -/
def Harmless (m n : Market) : Prop :=
  ∀ k, (n.swaps.get? k).map SwapRecord.status = (m.swaps.get? k).map SwapRecord.status ∧
    (n.reservations.get? k).map OfferReservation.status =
      (m.reservations.get? k).map OfferReservation.status

theorem harmless_revised {m : Market} {r s : SwapRecord} (hr : m.swaps.get? r.idpk = some r)
    (deal : SameDeal r s) (status : s.status = r.status) : Harmless m (m.setSwap s) := by
  intro k
  refine ⟨?_,rfl⟩
  by_cases hk : r.idpk = k
  · subst hk
    have stored := get?_setSwap hr deal
    rw [deal.idpk] at stored
    rw [stored,hr,Option.map_some,Option.map_some,status]
  · exact congrArg _ (Table.get?_set_ne m.swaps (deal.idpk ▸ hk))

/-- A processed refusal is harmless exactly when the record it finds is closed. -/
theorem refusal_harmless_iff {env : Env} {db done : Db} {payload : Payload} {now : Instant}
    (ht : payload.type = .swapRejected) (refuses : refusesOperation .rejected payload.data)
    (h : Ingest.ingest env.cfg env.jwt db payload now = (done,.answered {})) :
    Harmless db.market done.market ↔
      strikes db.market (.event .rejected payload.data .null) = false := by
  have event : EventType.ofMessage payload.type = some .rejected := by
    rw [ht]
    rfl
  obtain ⟨before,after,out,start,processed,finish⟩ := TerminalOutcomes.ingested event rfl h
  have first : before.market = db.market := congrArg Desk.market start
  have last : done.market = after.market := congrArg Desk.market finish
  rw [last]
  cases processed with
  | revised r _ found terminal deal _ _ status _ desk =>
    rw [first] at found desk
    have market : after.market = db.market.setSwap out := congrArg Desk.market desk
    rw [market]
    refine iff_of_true (harmless_revised (get?_correlated found) deal status) ?_
    simp [strikes,found,terminal]
  | moved r _ swapId found live _ deal status _ _ _ desk =>
    rw [first] at found desk
    have market : after.market = (db.market.carried r .rejected).setSwap out :=
      congrArg Desk.market desk
    have hr := get?_correlated found
    have stored : ((db.market.carried r .rejected).setSwap out).swaps.get? out.idpk = some out :=
      get?_setSwap (r := r) (by rw [swaps_carried,hr]) deal
    rw [market]
    refine iff_of_false (fun harmless => ?_) ?_
    · have same := (harmless r.idpk).1
      rw [← deal.idpk,stored,deal.idpk,hr,Option.map_some,Option.map_some,status,
        Option.some.injEq] at same
      rw [← same] at live
      cases live
    · simp [strikes,refuses,found,live]

/-- A refusal releases a hold exactly when it finds a live record. In the runs
where none does, against a wallet that settles a swap at most once, holds are
released on evidence and no offer is oversold. -/
theorem holds_released_on_evidence (env : Env) :
    (∀ db payload now done, payload.type = .swapRejected →
      refusesOperation .rejected payload.data = true →
      Ingest.ingest env.cfg env.jwt db payload now = (done,.answered {}) →
      (Harmless db.market done.market ↔
        strikes db.market (.event .rejected payload.data .null) = false)) ∧
    ∀ start run, start.market = {} →
      Along (World.step env) (fun s t => s.Honest t ∧ Calm s t) { db := start } run →
      Always (World.step env) Evident { db := start } run := by
  refine ⟨fun db payload now done ht refuses h => refusal_harmless_iff ht refuses h,?_⟩
  intro start run empty along
  have coherent : Always (World.step env) Coherent { db := start } run :=
    always_of_step (fun s t h steps => coherent_step steps.1 steps.2 h)
      (coherent_start start empty) along
  exact coherent.mono fun _ => evident_of_coherent

/-- A bid whose proposal the wallet turns into the swap `id`. -/
def sale (idpk msgId id : String) (quantity : Int) (now : Instant)
    (named : idpk ≠ "" := by decide) : List World.Turn :=
  let actions := Node.proposed idpk msgId id quantity now named
  (actions.take 2).map .node ++ [.accept idpk id] ++ (actions.drop 2).map .node

def firstSale : List World.Turn :=
  .node (.sellerOffer "C1" 100 0) :: sale "30000000-0000-0000-0000-000000000001"
    "40000000-0000-0000-0000-000000000001" "s1" 100 1

def secondSale : List World.Turn :=
  sale "30000000-0000-0000-0000-000000000002" "40000000-0000-0000-0000-000000000002" "s2" 100 3

/-- The wallet refuses to cancel s1. -/
def refusedCancel : Payload :=
  Node.walletMessage .swapRejected "e3" "40000000-0000-0000-0000-000000000003"
    [("swapId",.str "s1"),("operation",.str "cancel")]

def bothSettle : List World.Turn :=
  [.settle "30000000-0000-0000-0000-000000000001",.settle "30000000-0000-0000-0000-000000000002"]

/-- The refused cancel releases the hold of a live swap; its energy is sold
again, and both swaps settle. -/
theorem refused_cancel_oversells :
    let run := firstSale ++ .node (.ingest refusedCancel 2) :: secondSale ++ bothSettle
    let told := Lib.run (World.step Node.seller) { db := Node.opened "C1" }
      (firstSale ++ [.node (.ingest refusedCancel 2)])
    let sold := Lib.run (World.step Node.seller) { db := Node.opened "C1" } run
    Along (World.step Node.seller) World.Honest { db := Node.opened "C1" } run ∧
      (told.db.market.deal "30000000-0000-0000-0000-000000000001").outcome =
        ⟨some .rejected,some .released,some .reserved⟩ ∧
      told.wallet.swaps.rows.map WalletSwap.fate = [.live] ∧
      sold.db.market.offers.rows.map MarketOffer.initialQuantity = [100] ∧
      sold.wallet.settledKwh "AAA-C1" = 200 := by
  decide +kernel

def settledEvent : Payload :=
  Node.walletMessage .swapSettled "e4" "40000000-0000-0000-0000-000000000004"
    [("swapId",.str "s1"),("idpk",.str "30000000-0000-0000-0000-000000000001")]

theorem settled_sale_evident :
    let run := firstSale ++ [.settle "30000000-0000-0000-0000-000000000001",
      .node (.ingest settledEvent 2),.node (.ingest refusedCancel 3)]
    let db := (Lib.run (World.step Node.seller) { db := Node.opened "C1" } (run.take 7)).db
    Always (World.step Node.seller) Evident { db := Node.opened "C1" } run ∧
      Harmless db.market (Ingest.ingest Node.seller.cfg Node.seller.jwt db refusedCancel 3).1.market := by
  intro run db
  obtain ⟨harmless,evident⟩ := holds_released_on_evidence Node.seller
  refine ⟨evident (Node.opened "C1") run rfl (by decide +kernel),?_⟩
  refine (harmless db refusedCancel 3 _ rfl rfl (Prod.ext rfl ?_)).mpr ?_
  · decide +kernel
  · decide +kernel

end HoldEvidence

end EnergyNode
