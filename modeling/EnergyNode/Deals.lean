import EnergyNode.NodeSteps

/-! The rows that share one key: a bid, the reservation it obtained and the
record of its swap. Seen from a key, every move is one of these few. -/
namespace EnergyNode
open Lib WalletEvents SellerBids

structure Deal where
  bid : Option MarketBid
  reservation : Option OfferReservation
  swap : Option SwapRecord

namespace Market

def deal (m : Market) (k : String) : Deal :=
  ⟨m.bids.get? k,m.reservations.get? k,m.swaps.get? k⟩

end Market

def WalletEvents.Action.ends : Action → ReservationStatus
  | commit => .committed
  | release => .released

/-- What the effect of a record does to the reservation of its key. -/
def OfferReservation.movedBy (h : OfferReservation) (r : SwapRecord) (action : Action) :
    OfferReservation :=
  if h.offerId ≠ "" ∧ r.memo = some h.offerId ∧ h.status = .hold then
    { h with status := action.ends }
  else h

def OfferReservation.carriedBy (h : OfferReservation) (r : SwapRecord) (type : EventType) :
    OfferReservation :=
  match type with
  | .proposed => h
  | .settled => h.movedBy r .commit
  | .rejected | .expired | .cancelled => h.movedBy r .release

/-- `_set_bid_expired` on one row. -/
def MarketBid.closed (b : MarketBid) : MarketBid :=
  if SwapTimeouts.bidClosed b.status then b else { b with status := .expired }

/-- The same bid, in another state. -/
structure SameBid (b c : MarketBid) : Prop where
  idpk : c.idpk = b.idpk
  direction : c.direction = b.direction
  msgId : c.direction = .incoming → c.msgId = b.msgId
  terms : c.terms = b.terms
  answered : b.status ≠ .pending → c.swapId = b.swapId ∧ c.status ≠ .pending

inductive DealMove (m : Market) (P : Cause → Prop) (k : String) : Deal → Deal → Prop where
  | still (d : Deal) : DealMove m P k d d
  | arrived {h s} (b : MarketBid) : b.idpk = k →
      (b.direction = .outgoing ∨
        k ≠ "" ∧ P (.bid k b.msgId) ∧ (b.status = .pending ∨ b.status = .rejected)) →
      DealMove m P k ⟨none,h,s⟩ ⟨some b,h,s⟩
  | rejected {h s} (b c : MarketBid) : SameBid b c → b.status = .pending → c.status = .rejected →
      DealMove m P k ⟨some b,h,s⟩ ⟨some c,h,s⟩
  | own {h s} (b c : MarketBid) : SameBid b c → c.direction = .outgoing →
      DealMove m P k ⟨some b,h,s⟩ ⟨some c,h,s⟩
  | closed {h s} (b : MarketBid) : DealMove m P k ⟨some b,h,s⟩ ⟨some b.closed,h,s⟩
  | reserved (b : MarketBid) (price now) : b.idpk = k → b.direction = .incoming →
      b.status = .pending → 0 < b.quantity →
      DealMove m P k ⟨some b,none,none⟩
        ⟨some (reservedBid b price),some (hold b),some (swapIntent b price now)⟩
  | answered {s} (b : MarketBid) (h : OfferReservation) (r : SwapRecord) (swapId now) :
      b.direction = .incoming → b.status = .reserved → s = some r → r.status = .proposed →
      h.status = .hold →
      DealMove m P k ⟨some b,some h,s⟩ ⟨some (SellerBidAccepted.acceptedBid b swapId now),some h,s⟩
  | taken {b h} (r : SwapRecord) : r.role = .acceptor → r.idpk = k →
      (r.status = .submitted ∧ SwapAccept.isAcceptance r ∨ r.status = .rejected) →
      DealMove m P k ⟨b,h,none⟩ ⟨b,h,some r⟩
  | event {b h} (r s : SwapRecord) (type data rejection swapId) : P (.event type data rejection) →
      correlate m.swaps data = .ok (some r) → r.idpk = k → r.status.terminal = false →
      eventSwapId data = .ok swapId → SameDeal r s → s.status = type.status →
      s.swapId = (learn r type swapId data).swapId → SameProposal r s → SameLease r s →
      DealMove m P k ⟨b,h,some r⟩ ⟨b,h.map fun h => h.carriedBy r type,some s⟩
  | revised {b h} (r s : SwapRecord) (type data rejection) : P (.event type data rejection) →
      correlate m.swaps data = .ok (some r) → r.idpk = k → r.status.terminal = true →
      SameDeal r s → s.swapId = r.swapId → SameProposal r s →
      s.status = (if type = .settled then .settled else r.status) → SameLease r s →
      DealMove m P k ⟨b,h,some r⟩ ⟨b,h,some s⟩
  | expired {b c h} (r s : SwapRecord) (reason : String) : P (.expiry k reason) → r.idpk = k →
      r.status.terminal = false → SameDeal r s → s.status = .expired → s.swapId = r.swapId →
      SameProposal r s → (c = b ∧ (r.role = .acceptor ∨ k = "") ∨ c = b.map MarketBid.closed) →
      SameLease r s →
      DealMove m P k ⟨b,h,some r⟩ ⟨c,h.map fun h => h.movedBy r .release,some s⟩
  | kept {b h} (r s : SwapRecord) : r.idpk = k → SameDeal r s →
      (s.status = r.status ∨ r.status.terminal = false ∧
        (r.role = .proposer ∧ s.status = .proposed ∨
          r.role = .acceptor ∧ s.status = .acceptSubmitted)) →
      (s.swapId = r.swapId ∨ ∃ swapId, P (.answer k swapId) ∧ blank r.swapId ∧
        swapId ≠ "" ∧ s.swapId = some swapId) → SameProposal r s →
      (r.role = .acceptor → SwapAccept.unanswered r →
        SwapAccept.unanswered s ∨ P (.confirmation k)) →
      (SameLease r s ∨ P .dispatch) →
      DealMove m P k ⟨b,h,some r⟩ ⟨b,h,some s⟩
  | claimed {b h} (r s : SwapRecord) : r.idpk = k → SameDeal r s → r.status = .submitted →
      s.status = .submitted → s.swapId = r.swapId →
      s.proposalAttemptCount = r.proposalAttemptCount + 1 → r.role = .proposer →
      (∃ x, h = some x ∧ x.status = .hold) →
      (∃ time, s.proposalExpiresAt = some (r.proposalExpiresAt.getD time)) → P .dispatch →
      DealMove m P k ⟨b,h,some r⟩ ⟨b,h,some s⟩
  | refused {b h} (r s : SwapRecord) : r.idpk = k → r.role = .acceptor → SameDeal r s →
      s.status = .rejected → s.swapId = r.swapId →
      SameProposal r s → r.status.terminal = false → P .dispatch →
      DealMove m P k ⟨b,h,some r⟩ ⟨b,h,some s⟩

variable {cfg : Config} {P : Market → Cause → Prop}

namespace Market

theorem reservations_movedOn_ne (m : Market) {offerId bidIdpk k : String} (action : Action)
    (hk : bidIdpk ≠ k) :
    (m.movedOn offerId bidIdpk action).reservations.get? k = m.reservations.get? k := by
  unfold movedOn
  cases hr : heldReservation? m offerId bidIdpk with
  | none => rfl
  | some r =>
    have key : r.bidIdpk = bidIdpk :=
      Table.key_of_get? (Option.filter_eq_some_iff.mp hr).1
    have ne : r.bidIdpk ≠ k := key ▸ hk
    cases action with
    | release => exact Table.get?_set_ne m.reservations (a := { r with status := .released }) ne
    | commit => exact Table.get?_set_ne m.reservations (a := { r with status := .committed }) ne

theorem reservations_moved_ne (m : Market) {r : SwapRecord} {k : String} (action : Action)
    (hk : r.idpk ≠ k) : (m.moved r action).reservations.get? k = m.reservations.get? k := by
  unfold moved
  split
  · rfl
  split
  · rfl
  · exact reservations_movedOn_ne m action hk

theorem reservations_moved_self (m : Market) (r : SwapRecord) (action : Action) :
    (m.moved r action).reservations.get? r.idpk =
      (m.reservations.get? r.idpk).map fun h => h.movedBy r action := by
  unfold moved
  split
  · rename_i memo
    cases m.reservations.get? r.idpk with
    | none => rfl
    | some h => simp [OfferReservation.movedBy,memo]
  rename_i offerId memo
  split
  · rename_i blank
    cases m.reservations.get? r.idpk with
    | none => rfl
    | some h =>
      have other : ¬(h.offerId ≠ "" ∧ r.memo = some h.offerId ∧ h.status = .hold) := by
        rintro ⟨ne,same,_⟩
        rw [memo,Option.some.injEq,blank] at same
        exact ne same.symm
      simp only [Option.map_some,OfferReservation.movedBy,if_neg other]
  rename_i present
  unfold movedOn
  cases held : heldReservation? m offerId r.idpk with
  | none =>
    cases hr : m.reservations.get? r.idpk with
    | none => rfl
    | some h =>
      have other : ¬(h.offerId ≠ "" ∧ r.memo = some h.offerId ∧ h.status = .hold) := by
        rintro ⟨_,same,holds⟩
        rw [memo,Option.some.injEq] at same
        have found := Option.filter_eq_none_iff.mp held h hr
        simp [same,holds] at found
      simp only [Option.map_some,OfferReservation.movedBy,if_neg other]
  | some h =>
    obtain ⟨hr,guard⟩ := Option.filter_eq_some_iff.mp held
    rw [decide_eq_true_eq] at guard
    have key := Table.key_of_get? hr
    have holds : h.offerId ≠ "" ∧ r.memo = some h.offerId ∧ h.status = .hold :=
      ⟨guard.1 ▸ present,guard.1 ▸ memo,guard.2⟩
    simp only [hr,Option.map_some,OfferReservation.movedBy,if_pos holds]
    cases action with
    | release =>
      have stored := Table.get?_set_self (a := { h with status := .released }) (key ▸ hr)
      exact key ▸ stored
    | commit =>
      have stored := Table.get?_set_self (a := { h with status := .committed }) (key ▸ hr)
      exact key ▸ stored

@[simp] theorem bids_movedOn (m : Market) (offerId bidIdpk : String) (action : Action) :
    (m.movedOn offerId bidIdpk action).bids = m.bids := by
  unfold movedOn
  split
  · rfl
  · cases action <;> rfl

@[simp] theorem bids_moved (m : Market) (r : SwapRecord) (action : Action) :
    (m.moved r action).bids = m.bids := by
  unfold moved
  split
  · rfl
  · split
    · rfl
    · exact bids_movedOn _ _ _ _

@[simp] theorem bids_carried (m : Market) (r : SwapRecord) (type : EventType) :
    (m.carried r type).bids = m.bids := by
  unfold carried
  cases type with
  | proposed => rfl
  | settled => exact bids_moved _ _ _
  | rejected => exact bids_moved _ _ _
  | expired => exact bids_moved _ _ _
  | cancelled => exact bids_moved _ _ _

theorem deal_setSwap_self {m : Market} {r s : SwapRecord} (hr : m.swaps.get? r.idpk = some r)
    (deal : SameDeal r s) : (m.setSwap s).deal r.idpk =
      ⟨m.bids.get? r.idpk,m.reservations.get? r.idpk,some s⟩ := by
  have stored := get?_setSwap hr deal
  rw [deal.idpk] at stored
  simp only [Market.deal,stored]
  rfl

theorem deal_setSwap_ne (m : Market) {r s : SwapRecord} {k : String} (deal : SameDeal r s)
    (hk : r.idpk ≠ k) : (m.setSwap s).deal k = m.deal k := by
  have keep : (m.setSwap s).swaps.get? k = m.swaps.get? k :=
    Table.get?_set_ne m.swaps (deal.idpk ▸ hk)
  simp only [Market.deal,keep]
  rfl

theorem deal_setBid_self {m : Market} {b c : MarketBid} (hb : m.bids.get? b.idpk = some b)
    (same : c.idpk = b.idpk) : (m.setBid c).deal b.idpk =
      ⟨some c,m.reservations.get? b.idpk,m.swaps.get? b.idpk⟩ := by
  have stored : (m.setBid c).bids.get? c.idpk = some c := Table.get?_set_self (same ▸ hb)
  rw [same] at stored
  simp only [Market.deal,stored]
  rfl

theorem deal_setBid_ne (m : Market) {b c : MarketBid} {k : String} (same : c.idpk = b.idpk)
    (hk : b.idpk ≠ k) : (m.setBid c).deal k = m.deal k := by
  have keep : (m.setBid c).bids.get? k = m.bids.get? k := Table.get?_set_ne m.bids (same ▸ hk)
  simp only [Market.deal,keep]
  rfl

/-- Closing a bid touches that row only, and only while it is open. -/
theorem bids_setBidExpired (m : Market) (idpk : Option String) (k : String) :
    (SwapTimeouts.setBidExpired m idpk).bids.get? k =
      if idpk = some k ∧ k ≠ "" then (m.bids.get? k).map MarketBid.closed else m.bids.get? k := by
  unfold SwapTimeouts.setBidExpired
  split
  · simp
  rename_i id
  split
  · rename_i hb
    split
    · rename_i e
      cases e.1
      rw [hb]
      rfl
    · rfl
  · rename_i b hb
    have key := Table.key_of_get? hb
    split
    · rename_i stays
      split
      · rename_i e
        cases e.1
        rcases stays with blank | closed
        · exact absurd blank e.2
        · simp [hb,MarketBid.closed,closed]
      · rfl
    · rename_i open_
      rw [not_or,Bool.not_eq_true] at open_
      by_cases hk : id = k
      · subst hk
        have stored := Table.get?_set_self (a := { b with status := .expired }) (key ▸ hb)
        rw [if_pos ⟨rfl,open_.1⟩,hb,Option.map_some,MarketBid.closed,open_.2]
        exact key ▸ stored
      · rw [if_neg fun e => hk (Option.some.inj e.1)]
        exact Table.get?_set_ne m.bids (a := { b with status := .expired }) (key ▸ hk)

@[simp] theorem reservations_setBidExpired (m : Market) (idpk : Option String) :
    (SwapTimeouts.setBidExpired m idpk).reservations = m.reservations := by
  unfold SwapTimeouts.setBidExpired
  split
  · rfl
  split
  · rfl
  split <;> rfl

@[simp] theorem swaps_setBidExpired (m : Market) (idpk : Option String) :
    (SwapTimeouts.setBidExpired m idpk).swaps = m.swaps := by
  unfold SwapTimeouts.setBidExpired
  split
  · rfl
  split
  · rfl
  split <;> rfl

theorem deal_setBidExpired (m : Market) (idpk : Option String) (k : String) :
    (SwapTimeouts.setBidExpired m idpk).deal k =
      ⟨if idpk = some k ∧ k ≠ "" then (m.bids.get? k).map MarketBid.closed else m.bids.get? k,
        m.reservations.get? k,m.swaps.get? k⟩ := by
  rw [deal,bids_setBidExpired,reservations_setBidExpired,swaps_setBidExpired]

theorem closed_moves (n m : Market) (idpk : Option String) (k : String) {Q : Cause → Prop} :
    DealMove n Q k (m.deal k) ((SwapTimeouts.setBidExpired m idpk).deal k) := by
  rw [deal_setBidExpired]
  split
  · unfold deal
    cases m.bids.get? k with
    | none => exact .still _
    | some b => exact .closed b
  · exact .still _

theorem deal_carried_self (m : Market) (r : SwapRecord) (type : EventType) :
    (m.carried r type).deal r.idpk = ⟨m.bids.get? r.idpk,
      (m.reservations.get? r.idpk).map fun h => h.carriedBy r type,m.swaps.get? r.idpk⟩ := by
  unfold carried OfferReservation.carriedBy deal
  cases type with
  | proposed => simp
  | settled => rw [reservations_moved_self,bids_moved,swaps_moved]
  | rejected => rw [reservations_moved_self,bids_moved,swaps_moved]
  | expired => rw [reservations_moved_self,bids_moved,swaps_moved]
  | cancelled => rw [reservations_moved_self,bids_moved,swaps_moved]

theorem deal_moved_ne (m : Market) {r : SwapRecord} {k : String} (action : Action)
    (hk : r.idpk ≠ k) : (m.moved r action).deal k = m.deal k := by
  unfold deal
  rw [reservations_moved_ne m action hk,bids_moved,swaps_moved]

theorem deal_carried_ne (m : Market) {r : SwapRecord} {k : String} (type : EventType)
    (hk : r.idpk ≠ k) : (m.carried r type).deal k = m.deal k := by
  unfold carried
  cases type with
  | proposed => rfl
  | settled => exact deal_moved_ne m _ hk
  | rejected => exact deal_moved_ne m _ hk
  | expired => exact deal_moved_ne m _ hk
  | cancelled => exact deal_moved_ne m _ hk

/-- A record update is seen from its own key only. -/
theorem setSwap_moves {m : Market} {r : SwapRecord} (s : SwapRecord) (hr : m.swaps.get? r.idpk = some r)
    (deal : SameDeal r s) (k : String) {Q : Cause → Prop}
    (own : r.idpk = k → DealMove m Q k ⟨m.bids.get? k,m.reservations.get? k,some r⟩
      ⟨m.bids.get? k,m.reservations.get? k,some s⟩) :
    DealMove m Q k (m.deal k) ((m.setSwap s).deal k) := by
  by_cases hk : r.idpk = k
  · have move := own hk
    subst hk
    rw [deal_setSwap_self hr deal,Market.deal,hr]
    exact move
  · rw [deal_setSwap_ne m deal hk]
    exact .still _

theorem setBid_moves {m : Market} (b c : MarketBid) (hb : m.bids.get? b.idpk = some b)
    (same : c.idpk = b.idpk) (k : String) {Q : Cause → Prop}
    (own : b.idpk = k → DealMove m Q k ⟨some b,m.reservations.get? k,m.swaps.get? k⟩
      ⟨some c,m.reservations.get? k,m.swaps.get? k⟩) :
    DealMove m Q k (m.deal k) ((m.setBid c).deal k) := by
  by_cases hk : b.idpk = k
  · have move := own hk
    subst hk
    rw [deal_setBid_self hb same,Market.deal,hb]
    exact move
  · rw [deal_setBid_ne m same hk]
    exact .still _

theorem insertBid_moves {m : Market} (b : MarketBid) (free) (k : String) {Q : Cause → Prop}
    (own : b.idpk = k → DealMove m Q k ⟨none,m.reservations.get? k,m.swaps.get? k⟩
      ⟨some b,m.reservations.get? k,m.swaps.get? k⟩) :
    DealMove m Q k (m.deal k) (deal { m with bids := m.bids.insert b free } k) := by
  by_cases hk : b.idpk = k
  · have move := own hk
    subst hk
    simp only [deal,Table.get?_insert,if_true,free]
    exact move
  · simp only [deal,Table.get?_insert,if_neg hk]
    exact .still _

theorem commitReservation_moves {m : Market} (b : MarketBid) (price now)
    (freeReservation : m.reservations.get? (hold b).bidIdpk = none)
    (freeSwap : m.swaps.get? (swapIntent b price now).idpk = none)
    (hb : m.bids.get? b.idpk = some b) (k : String) {Q : Cause → Prop}
    (own : b.idpk = k → DealMove m Q k ⟨some b,none,none⟩
      ⟨some (reservedBid b price),some (hold b),some (swapIntent b price now)⟩) :
    DealMove m Q k (m.deal k)
      ((commitReservation m b price now freeReservation freeSwap).deal k) := by
  have held (k) : (commitReservation m b price now freeReservation freeSwap).reservations.get? k =
      if b.idpk = k then some (hold b) else m.reservations.get? k :=
    Table.get?_insert m.reservations (hold b) freeReservation k
  have swap (k) : (commitReservation m b price now freeReservation freeSwap).swaps.get? k =
      if b.idpk = k then some (swapIntent b price now) else m.swaps.get? k :=
    Table.get?_insert m.swaps (swapIntent b price now) freeSwap k
  by_cases hk : b.idpk = k
  · have move := own hk
    subst hk
    have bid : (commitReservation m b price now freeReservation freeSwap).bids.get? b.idpk =
        some (reservedBid b price) := Table.get?_set_self (a := reservedBid b price) hb
    rw [Market.deal,Market.deal,held,swap,bid,if_pos rfl,if_pos rfl,hb,
      show m.reservations.get? b.idpk = none from freeReservation,
      show m.swaps.get? b.idpk = none from freeSwap]
    exact move
  · have bid : (commitReservation m b price now freeReservation freeSwap).bids.get? k =
        m.bids.get? k := Table.get?_set_ne m.bids (a := reservedBid b price) hk
    rw [Market.deal,Market.deal,held,swap,bid,if_neg hk,if_neg hk]
    exact .still _

theorem expired_moves {m : Market} {r : SwapRecord} (reason : String) (k : String)
    {Q : Cause → Prop} (hQ : Q (.expiry r.idpk reason)) (hr : m.swaps.get? r.idpk = some r)
    (live : r.status.terminal = false) :
    DealMove m Q k (m.deal k) ((SwapTimeouts.setBidExpired
      ((m.setSwap { r with status := .expired, rejectionReason := some reason }).moved r .release)
      (SwapTimeouts.bidKey r)).deal k) := by
  let s : SwapRecord := { r with status := .expired, rejectionReason := some reason }
  have same : SameDeal r s := ⟨rfl,rfl,rfl,rfl,rfl,rfl,rfl,rfl,rfl,rfl,rfl,rfl⟩
  by_cases hk : r.idpk = k
  · subst hk
    have stored : (m.setSwap s).swaps.get? r.idpk = some s := get?_setSwap hr same
    rw [deal_setBidExpired,bids_moved,swaps_moved,reservations_moved_self,stored,deal,hr]
    refine .expired r s reason hQ rfl live same rfl rfl ⟨rfl,rfl⟩ ?_ ⟨rfl,rfl,rfl⟩
    split
    · exact .inr rfl
    · rename_i stays
      refine .inl ⟨rfl,?_⟩
      cases role : r.role with
      | acceptor => exact .inl rfl
      | proposer =>
        right
        by_contra present
        exact stays ⟨by rw [SwapTimeouts.bidKey,role],present⟩
  · have before : ((m.setSwap s).moved r .release).deal k = m.deal k := by
      rw [deal_moved_ne _ _ hk,deal_setSwap_ne m same hk]
    have after := closed_moves m ((m.setSwap s).moved r .release) (SwapTimeouts.bidKey r) k (Q := Q)
    rw [before] at after
    exact after

theorem kept_of_backed {m : Market} {r : SwapRecord} (h : SwapDispatch.backed cfg m r) :
    ∃ x, m.reservations.get? r.idpk = some x ∧ x.status = .hold := by
  unfold SwapDispatch.backed at h
  split at h
  · rename_i b x _ hx
    split at h
    · simp only [Bool.and_eq_true,decide_eq_true_eq] at h
      exact ⟨x,hx,h.1.1.1.1.1.2⟩
    · cases h
  · cases h

theorem dispatchable_spec {r : SwapRecord} {now : Instant} (h : SwapDispatch.dispatchable r now) :
    r.role = .proposer ∧ r.status = .submitted := by
  unfold SwapDispatch.dispatchable at h
  simp only [Bool.and_eq_true,decide_eq_true_eq] at h
  exact ⟨h.1.1.1.1.1.1.1.1,h.1.1.1.1.1.1.1.2⟩

/-- Every move of the node, seen from one key. -/
theorem deal_move {m n : Market} {t u : List Talk} (h : Move cfg P ⟨m,t⟩ ⟨n,u⟩) (k : String) :
    DealMove m (P m) k (m.deal k) (n.deal k) := by
  cases h with
  | offers => exact .still _
  | offerAdded => exact .still _
  | bidArrived b free cause incoming named _ status =>
    refine insertBid_moves b free k ?_
    rintro rfl
    exact .arrived b rfl (.inr ⟨named,cause,status.imp And.left And.left⟩)
  | strayRefused => exact .still _
  | bidRefused b reason available now hb incoming pending =>
    refine setBid_moves b (rejectedBid b reason available now) hb rfl k ?_
    rintro rfl
    exact .rejected b _ ⟨rfl,rfl,fun _ => rfl,rfl,fun ne => absurd pending ne⟩ pending rfl
  | reserved b o now freeReservation freeSwap hb incoming pending ho hl positive fits =>
    refine commitReservation_moves b o.pricePerEnergy now freeReservation freeSwap hb k ?_
    rintro rfl
    exact .reserved b o.pricePerEnergy now rfl incoming pending positive
  | event r s type data rejection swapId cause found live hid deal status id proposal lease =>
    have hr := get?_correlated found
    by_cases hk : r.idpk = k
    · have before := deal_carried_self m r type
      have stored := get?_setSwap ((swaps_carried m r type).symm ▸ hr) deal
      subst hk
      rw [deal.idpk] at stored
      simp only [Market.deal,Deal.mk.injEq] at before
      have after : ((m.carried r type).setSwap s).deal r.idpk = ⟨m.bids.get? r.idpk,
          (m.reservations.get? r.idpk).map fun h => h.carriedBy r type,some s⟩ := by
        simp only [Market.deal,stored,Deal.mk.injEq,and_true]
        exact ⟨before.1,before.2.1⟩
      rw [after,Market.deal,hr]
      exact .event r s type data rejection swapId cause found rfl live hid deal status id proposal
        lease
    · rw [deal_setSwap_ne (m.carried r type) deal hk,deal_carried_ne m type hk]
      exact .still _
  | revised r s type data rejection cause found terminal deal id proposal status lease =>
    refine setSwap_moves s (get?_correlated found) deal k fun hk => ?_
    exact .revised r s type data rejection cause found hk terminal deal id proposal status lease
  | expired r reason cause hr live => exact expired_moves reason k cause hr live
  | kept r s hr deal status id proposal work lease =>
    refine setSwap_moves s hr deal k ?_
    rintro rfl
    exact .kept r s rfl deal status id proposal work lease
  | claimed r now hr dispatchable backed dispatch =>
    obtain ⟨role,status⟩ := dispatchable_spec dispatchable
    refine setSwap_moves (SwapDispatch.claimed cfg m r now) hr
      ⟨rfl,rfl,rfl,rfl,rfl,rfl,rfl,rfl,rfl,rfl,rfl,rfl⟩ k ?_
    rintro rfl
    exact .claimed r _ rfl ⟨rfl,rfl,rfl,rfl,rfl,rfl,rfl,rfl,rfl,rfl,rfl,rfl⟩ status status rfl rfl
      role (kept_of_backed backed) ⟨_,rfl⟩ dispatch
  | refused r s cause hr acceptance live deal status id proposal dispatch =>
    refine setSwap_moves s hr deal k ?_
    rintro rfl
    exact .refused r s rfl (SwapAccept.role_of_isAcceptance acceptance) deal status id proposal
      live dispatch
  | answered r b h swapId now x hr status id hb incoming reserved hh held =>
    have key := Table.key_of_get? hb
    refine setBid_moves b (SellerBidAccepted.acceptedBid b swapId now) (key ▸ hb) rfl k ?_
    rintro rfl
    rw [hh,key,hr]
    exact .answered b h r swapId now incoming reserved rfl status held
  | bidClosed idpk => exact closed_moves _ _ idpk k
  | bidsExpired f hf same =>
    simp only [Market.deal,Table.get?_mapRows]
    cases hb : m.bids.get? k with
    | none => exact .still _
    | some b =>
      rcases same b with e | ⟨outgoing,e⟩
      · rw [Option.map_some,e]
        exact .still _
      · rw [Option.map_some,e]
        have expired : SameBid b { b with status := .expired } :=
          ⟨rfl,rfl,fun _ => rfl,rfl,fun _ => ⟨rfl,by intro h; cases h⟩⟩
        exact .own b _ expired outgoing
  | resolved b c hb outgoing pending key direction msg terms =>
    refine setBid_moves b c hb key k fun _ => ?_
    have same : SameBid b c := ⟨key,direction,fun _ => msg,terms,fun ne => absurd pending ne⟩
    exact .own b c same (direction.trans outgoing)
  | taken b r free cause hb waits role memo id source attempts key status =>
    by_cases hk : r.idpk = k
    · subst hk
      simp only [Market.deal,Table.get?_insert,if_true,free]
      exact .taken r role rfl status
    · simp only [Market.deal,Table.get?_insert,if_neg hk]
      exact .still _
  | referenced => exact .still _
  | placed b free x outgoing =>
    refine insertBid_moves b free k ?_
    rintro rfl
    exact .arrived b rfl (.inl outgoing)
  | renewed b msgId x hb outgoing =>
    refine setBid_moves b { b with msgId := msgId } hb rfl k fun _ => ?_
    have other (incoming : b.direction = .incoming) : msgId = b.msgId := by
      rw [outgoing] at incoming
      cases incoming
    exact .own b _ ⟨rfl,rfl,other,rfl,fun ne => ⟨rfl,ne⟩⟩ outgoing

end Market

@[simp] theorem MarketBid.closed_direction (b : MarketBid) :
    b.closed.direction = b.direction := by
  unfold MarketBid.closed
  split <;> rfl

theorem MarketBid.closed_same (b : MarketBid) : SameBid b b.closed := by
  unfold MarketBid.closed
  split
  · exact ⟨rfl,rfl,fun _ => rfl,rfl,fun ne => ⟨rfl,ne⟩⟩
  · exact ⟨rfl,rfl,fun _ => rfl,rfl,fun _ => ⟨rfl,nofun⟩⟩

theorem SameBid.refl (b : MarketBid) : SameBid b b :=
  ⟨rfl,rfl,fun _ => rfl,rfl,fun ne => ⟨rfl,ne⟩⟩

/-- An outgoing bid stays what it is, and keeps the answer it got. -/
theorem DealMove.bid {m : Market} {Q : Cause → Prop} {k : String} {d e : Deal}
    (move : DealMove m Q k d e) {b : MarketBid} (hb : d.bid = some b)
    (outgoing : b.direction = .outgoing) : ∃ c, e.bid = some c ∧ SameBid b c := by
  have notIncoming (h : b.direction = .incoming) : False := by
    rw [outgoing] at h
    cases h
  cases move with
  | still => exact ⟨b,hb,.refl b⟩
  | arrived => cases hb
  | rejected _ c same =>
    cases hb
    exact ⟨c,rfl,same⟩
  | own _ c same =>
    cases hb
    exact ⟨c,rfl,same⟩
  | closed =>
    cases hb
    exact ⟨_,rfl,b.closed_same⟩
  | reserved _ price now _ incoming =>
    cases hb
    exact (notIncoming incoming).elim
  | answered _ h r swapId now incoming =>
    cases hb
    exact (notIncoming incoming).elim
  | taken => exact ⟨b,hb,.refl b⟩
  | event => exact ⟨b,hb,.refl b⟩
  | revised => exact ⟨b,hb,.refl b⟩
  | @expired own _ _ r s reason _ _ _ _ _ _ _ closes =>
    have here : own = some b := hb
    rcases closes with ⟨same,_⟩ | same
    · exact ⟨b,same.trans here,.refl b⟩
    · refine ⟨b.closed,?_,b.closed_same⟩
      dsimp only
      rw [same,here,Option.map_some]
  | kept => exact ⟨b,hb,.refl b⟩
  | claimed => exact ⟨b,hb,.refl b⟩
  | refused => exact ⟨b,hb,.refl b⟩

/-- A record stays the deal it is. -/
theorem DealMove.swap {m : Market} {Q : Cause → Prop} {k : String} {d e : Deal}
    (move : DealMove m Q k d e) {r : SwapRecord} (hr : d.swap = some r) :
    ∃ s, e.swap = some s ∧ SameDeal r s ∧
      (blank r.swapId = false → s.swapId = r.swapId) := by
  cases move with
  | still => exact ⟨r,hr,.refl r,fun _ => rfl⟩
  | arrived => exact ⟨r,hr,.refl r,fun _ => rfl⟩
  | rejected => exact ⟨r,hr,.refl r,fun _ => rfl⟩
  | own => exact ⟨r,hr,.refl r,fun _ => rfl⟩
  | closed => exact ⟨r,hr,.refl r,fun _ => rfl⟩
  | reserved => cases hr
  | answered => exact ⟨r,hr,.refl r,fun _ => rfl⟩
  | taken => cases hr
  | event _ s type data rejection swapId _ _ _ _ _ deal _ id =>
    cases hr
    refine ⟨s,rfl,deal,fun known => ?_⟩
    rw [id,learn,known]
    rfl
  | revised _ s type data rejection _ _ _ _ deal id =>
    cases hr
    exact ⟨s,rfl,deal,fun _ => id⟩
  | expired _ s reason _ _ _ deal _ id =>
    cases hr
    exact ⟨s,rfl,deal,fun _ => id⟩
  | kept _ s _ deal _ id =>
    cases hr
    refine ⟨s,rfl,deal,fun known => ?_⟩
    rcases id with same | ⟨_,_,unknown,_⟩
    · exact same
    · rw [known] at unknown
      cases unknown
  | claimed _ s _ deal _ _ id =>
    cases hr
    exact ⟨s,rfl,deal,fun _ => id⟩
  | refused _ s _ _ deal _ id =>
    cases hr
    exact ⟨s,rfl,deal,fun _ => id⟩

end EnergyNode
