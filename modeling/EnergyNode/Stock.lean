import EnergyNode.Lib.Escrow
import EnergyNode.NodeSteps

/-! The stock of the local offers as escrow accounts: what an offer has left,
holds and has committed. Every move of the node is an account operation. -/
namespace EnergyNode
open Lib

variable {cfg : Config} {P : Market → Cause → Prop}

def ReservationStatus.phase : ReservationStatus → Phase
  | hold => .hold
  | committed => .committed
  | released => .released

namespace Market
open SellerBids WalletEvents

def committedKwh (m : Market) (offerId : String) : Int :=
  m.reservations.sum fun r =>
    if r.offerId = offerId ∧ r.status = .committed then r.quantity else 0

/-- The account behind an offer. -/
structure Backs (m : Market) (o : MarketOffer) (a : Account) : Prop where
  initial : a.initial = o.initialQuantity
  remaining : a.remaining = o.remainingQuantity
  held : a.held = heldKwh m o.offerId
  committed : a.committed = m.committedKwh o.offerId

structure Sound (m : Market) : Prop where
  backed : ∀ o ∈ m.offers, o.isLocal = true → ∃ a, m.Backs o a
  positive : ∀ r ∈ m.reservations, 0 < r.quantity
  known : ∀ r ∈ m.reservations, ∃ o ∈ m.offers, o.offerId = r.offerId ∧ o.isLocal = true

theorem sound_empty : Sound {} where
  backed := fun _ h => (List.not_mem_nil h).elim
  positive := fun _ h => (List.not_mem_nil h).elim
  known := fun _ h => (List.not_mem_nil h).elim

/-- Two stocks with the same figures have the same accounts. -/
theorem Backs.congr {m m' : Market} {o o' : MarketOffer} {a : Account} (h : m.Backs o a)
    (res : m'.reservations = m.reservations) (stock : o'.stock = o.stock) : m'.Backs o' a := by
  simp only [MarketOffer.stock,Prod.mk.injEq] at stock
  obtain ⟨id,_,_,_,initial,remaining⟩ := stock
  constructor
  · rw [initial,h.initial]
  · rw [remaining,h.remaining]
  · rw [id,h.held,heldKwh,heldKwh,res]
  · rw [id,h.committed,committedKwh,committedKwh,res]

theorem Sound.congr {m m' : Market} (h : m.Sound) (res : m'.reservations = m.reservations)
    (offers : ∀ k, (m'.offers.get? k).map MarketOffer.stock =
      (m.offers.get? k).map MarketOffer.stock) : m'.Sound := by
  have back (o' : MarketOffer) (ho : o' ∈ m'.offers) : ∃ o ∈ m.offers, o'.stock = o.stock := by
    have e := offers o'.offerId
    rw [Table.get?_of_mem ho] at e
    obtain ⟨o,hget,hs⟩ := Option.map_eq_some_iff.mp e.symm
    exact ⟨o,Table.mem_of_get? hget,hs.symm⟩
  constructor
  · intro o' ho' hl
    obtain ⟨o,ho,hs⟩ := back o' ho'
    have hloc : o'.isLocal = o.isLocal := congrArg (fun s => s.2.2.2.1) hs
    obtain ⟨a,ha⟩ := h.backed o ho (hloc ▸ hl)
    exact ⟨a,ha.congr res hs⟩
  · rw [res]
    exact h.positive
  · intro r hr
    obtain ⟨o,ho,hid,hl⟩ := h.known r (res ▸ hr)
    have e := offers o.offerId
    rw [Table.get?_of_mem ho] at e
    obtain ⟨o',hget,hs⟩ := Option.map_eq_some_iff.mp e
    have id : o'.offerId = o.offerId := congrArg Prod.fst hs
    have hloc : o'.isLocal = o.isLocal := congrArg (fun s => s.2.2.2.1) hs
    exact ⟨o',Table.mem_of_get? hget,id.trans hid,hloc.trans hl⟩

/-- Nothing has been promised yet out of an offer nobody named. -/
theorem sum_unnamed {m : Market} {offerId : String} (s : ReservationStatus)
    (h : ∀ r ∈ m.reservations, r.offerId ≠ offerId) :
    (m.reservations.sum fun r => if r.offerId = offerId ∧ r.status = s then r.quantity else 0) =
      0 := by
  have zero : ∀ r ∈ m.reservations,
      (if r.offerId = offerId ∧ r.status = s then r.quantity else 0) = (0 : Int) :=
    fun r hr => if_neg fun e => h r hr e.1
  rw [Table.sum_congr zero]
  simp [Table.sum]

theorem Sound.addOffer {m : Market} (h : m.Sound) (o : MarketOffer) (free)
    (fresh : o.isLocal = true → 0 ≤ o.initialQuantity ∧ o.remainingQuantity = o.initialQuantity) :
    Sound { m with offers := m.offers.insert o free } := by
  have unnamed : ∀ r ∈ m.reservations, r.offerId ≠ o.offerId := by
    intro r hr e
    obtain ⟨old,hold,hid,_⟩ := h.known r hr
    exact Table.get?_eq_none.mp free old hold (hid.trans e)
  constructor
  · intro o' ho' hl
    rcases (Table.mem_insert (h := free)).mp ho' with ho' | rfl
    · obtain ⟨a,ha⟩ := h.backed o' ho' hl
      exact ⟨a,ha.congr rfl rfl⟩
    · obtain ⟨nonneg,same⟩ := fresh hl
      refine ⟨.fresh o'.initialQuantity nonneg,rfl,same.symm,?_,?_⟩
      · exact (sum_unnamed .hold unnamed).symm
      · exact (sum_unnamed .committed unnamed).symm
  · exact h.positive
  · intro r hr
    obtain ⟨old,hold,hid,hl⟩ := h.known r hr
    have still : old ∈ m.offers.insert o free := Table.mem_insert.mpr (.inl hold)
    exact ⟨old,still,hid,hl⟩

theorem Backs.available {m : Market} {o : MarketOffer} {a : Account} (h : m.Backs o a) :
    availableKwh m o = a.available := by
  rw [availableKwh,← h.remaining,← h.held,a.max_available]

theorem Sound.reserve {m : Market} (h : m.Sound) {b : MarketBid} {o : MarketOffer} (price now)
    (freeReservation freeSwap) (ho : m.offers.get? b.offerId = some o) (hl : o.isLocal = true)
    (positive : 0 < b.quantity) (fits : b.quantity ≤ availableKwh m o) :
    (commitReservation m b price now freeReservation freeSwap).Sound := by
  have key := Table.key_of_get? ho
  have mem := Table.mem_of_get? ho
  constructor
  · intro o' ho' hl'
    obtain ⟨a,ha⟩ := h.backed o' ho' hl'
    by_cases hid : o'.offerId = b.offerId
    · have same : o' = o := Table.eq_of_key ho' mem (hid.trans key.symm)
      subst same
      refine ⟨a.hold b.quantity positive.le (ha.available ▸ fits),ha.initial,ha.remaining,?_,?_⟩
      · rw [heldKwh,commitReservation,Table.sum_insert]
        rw [if_pos ⟨hid.symm,rfl⟩,Account.held_hold,ha.held,heldKwh]
        rfl
      · rw [committedKwh,commitReservation,Table.sum_insert]
        rw [if_neg (by simp [hold]),add_zero,Account.committed_hold,ha.committed,committedKwh]
    · refine ⟨a,ha.initial,ha.remaining,?_,?_⟩
      · rw [heldKwh,commitReservation,Table.sum_insert]
        rw [if_neg fun e => hid e.1.symm,add_zero,ha.held,heldKwh]
      · rw [committedKwh,commitReservation,Table.sum_insert]
        rw [if_neg fun e => hid e.1.symm,add_zero,ha.committed,committedKwh]
  · intro r hr
    rcases (Table.mem_insert (h := freeReservation)).mp hr with hr | rfl
    · exact h.positive r hr
    · exact positive
  · intro r hr
    rcases (Table.mem_insert (h := freeReservation)).mp hr with hr | rfl
    · exact h.known r hr
    · exact ⟨o,mem,key,hl⟩

theorem heldReservation?_spec {m : Market} {offerId bidIdpk : String} {r : OfferReservation}
    (h : heldReservation? m offerId bidIdpk = some r) :
    m.reservations.get? r.bidIdpk = some r ∧ r.bidIdpk = bidIdpk ∧ r.offerId = offerId ∧
      r.status = .hold := by
  obtain ⟨hr,hg⟩ := Option.filter_eq_some_iff.mp h
  rw [decide_eq_true_eq] at hg
  have key := Table.key_of_get? hr
  exact ⟨key ▸ hr,key,hg.1,hg.2⟩

/-- A hold is part of what its offer holds. -/
theorem Sound.le_held {m : Market} (h : m.Sound) {r : OfferReservation} (hr : r ∈ m.reservations)
    (held : r.status = .hold) : r.quantity ≤ heldKwh m r.offerId := by
  unfold heldKwh Table.sum
  refine List.single_le_sum ?_ _ ?_
  · intro q hq
    obtain ⟨s,hs,rfl⟩ := List.mem_map.mp hq
    split
    · exact (h.positive s hs).le
    · exact le_refl 0
  · refine List.mem_map.mpr ⟨r,hr,?_⟩
    rw [if_pos ⟨rfl,held⟩]

section Restatus
variable {m n : Market} {r : OfferReservation} {t : ReservationStatus}
  (hr : m.reservations.get? r.bidIdpk = some r) (held : r.status = .hold)
  (after : n.reservations = m.reservations.set { r with status := t })
include hr held after

/-- A hold that ends leaves what its own offer holds, and only that. -/
theorem held_restatus (ht : t ≠ .hold) (offerId : String) :
    heldKwh n offerId = heldKwh m offerId - if r.offerId = offerId then r.quantity else 0 := by
  have moved := Table.sum_set (a := { r with status := t }) hr fun x =>
    if x.offerId = offerId ∧ x.status = .hold then x.quantity else 0
  rw [if_neg (show ¬(r.offerId = offerId ∧ t = .hold) from fun e => ht e.2),← after] at moved
  unfold heldKwh
  by_cases hid : r.offerId = offerId
  · rw [if_pos ⟨hid,held⟩] at moved
    rw [if_pos hid]
    omega
  · rw [if_neg fun e => hid e.1] at moved
    rw [if_neg hid]
    omega

theorem committed_restatus (offerId : String) :
    n.committedKwh offerId = m.committedKwh offerId +
      if r.offerId = offerId ∧ t = .committed then r.quantity else 0 := by
  have moved := Table.sum_set (a := { r with status := t }) hr fun x =>
    if x.offerId = offerId ∧ x.status = .committed then x.quantity else 0
  have was : ¬(r.offerId = offerId ∧ r.status = .committed) := by
    rw [held]
    exact fun e => nomatch e.2
  rw [if_neg was,← after] at moved
  unfold committedKwh
  exact (add_zero _).symm.trans moved

end Restatus

theorem restatus_known {m : Market} (h : m.Sound) {r : OfferReservation} (t : ReservationStatus)
    (hr : m.reservations.get? r.bidIdpk = some r) :
    ∀ x ∈ m.reservations.set { r with status := t },
      0 < x.quantity ∧ ∃ o ∈ m.offers, o.offerId = x.offerId ∧ o.isLocal = true := by
  intro x hx
  have mem := Table.mem_of_get? hr
  rcases Table.mem_set.mp hx with ⟨hx,_⟩ | ⟨rfl,_⟩
  · exact ⟨h.positive x hx,h.known x hx⟩
  · exact ⟨h.positive r mem,h.known r mem⟩

theorem Sound.release {m : Market} (h : m.Sound) {r : OfferReservation}
    (hr : m.reservations.get? r.bidIdpk = some r) (held : r.status = .hold) :
    Sound { m with reservations := m.reservations.set { r with status := .released } } := by
  have mem := Table.mem_of_get? hr
  have after := restatus_known h .released hr
  constructor
  · intro o ho hl
    obtain ⟨a,ha⟩ := h.backed o ho hl
    have nowHeld := held_restatus (n := { m with
      reservations := m.reservations.set { r with status := .released } }) hr held rfl
      (by decide) o.offerId
    have nowCommitted := committed_restatus (n := { m with
      reservations := m.reservations.set { r with status := .released } }) hr held rfl o.offerId
    rw [if_neg (by simp),add_zero,← ha.committed] at nowCommitted
    rw [← ha.held] at nowHeld
    by_cases hid : r.offerId = o.offerId
    · rw [if_pos hid] at nowHeld
      have fits : r.quantity ≤ a.held := by
        rw [ha.held,← hid]
        exact h.le_held mem held
      exact ⟨a.release r.quantity (h.positive r mem).le fits,ha.initial,ha.remaining,
        nowHeld.symm,nowCommitted.symm⟩
    · rw [if_neg hid,sub_zero] at nowHeld
      exact ⟨a,ha.initial,ha.remaining,nowHeld.symm,nowCommitted.symm⟩
  · exact fun x hx => (after x hx).1
  · exact fun x hx => (after x hx).2

theorem Sound.commit {m : Market} (h : m.Sound) {r : OfferReservation}
    (hr : m.reservations.get? r.bidIdpk = some r) (held : r.status = .hold) :
    Sound { m with
      reservations := m.reservations.set { r with status := .committed }
      offers := m.sellFrom r.offerId r.quantity } := by
  have mem := Table.mem_of_get? hr
  have after := restatus_known h .committed hr
  obtain ⟨own,hown,hid,hloc⟩ := h.known r mem
  have selling : m.sellFrom r.offerId r.quantity = m.offers.set (sold own r.quantity) := by
    unfold sellFrom
    rw [← hid,Table.get?_of_mem hown]
  rw [selling]
  constructor
  · intro o ho hl
    have nowHeld := held_restatus (n := { m with
      reservations := m.reservations.set { r with status := .committed }
      offers := m.offers.set (sold own r.quantity) }) hr held rfl (by decide) o.offerId
    have nowCommitted := committed_restatus (n := { m with
      reservations := m.reservations.set { r with status := .committed }
      offers := m.offers.set (sold own r.quantity) }) hr held rfl o.offerId
    rcases Table.mem_set.mp ho with ⟨ho,hne⟩ | ⟨rfl,_⟩
    · obtain ⟨a,ha⟩ := h.backed o ho hl
      have other : r.offerId ≠ o.offerId := fun e => hne (e.symm.trans hid.symm)
      rw [if_neg other,sub_zero,← ha.held] at nowHeld
      rw [if_neg fun e => other e.1,add_zero,← ha.committed] at nowCommitted
      exact ⟨a,ha.initial,ha.remaining,nowHeld.symm,nowCommitted.symm⟩
    · obtain ⟨a,ha⟩ := h.backed own hown hloc
      have fits : r.quantity ≤ a.held := by
        rw [ha.held,hid]
        exact h.le_held mem held
      have same : (sold own r.quantity).offerId = own.offerId := rfl
      rw [same,if_pos hid.symm,← ha.held] at nowHeld
      rw [same,if_pos ⟨hid.symm,rfl⟩,← ha.committed] at nowCommitted
      refine ⟨a.commit r.quantity fits,ha.initial,?_,nowHeld.symm,nowCommitted.symm⟩
      rw [sold,← ha.remaining,a.max_commit r.quantity fits]
  · exact fun x hx => (after x hx).1
  · intro x hx
    obtain ⟨o,ho,hox,hl⟩ := (after x hx).2
    by_cases e : o.offerId = own.offerId
    · have same : o = own := Table.eq_of_key ho hown e
      subst same
      exact ⟨sold o r.quantity,Table.mem_set.mpr (.inr ⟨rfl,o,ho,rfl⟩),hox,hl⟩
    · exact ⟨o,Table.mem_set.mpr (.inl ⟨ho,e⟩),hox,hl⟩

/-- Whatever the arguments, a reservation effect keeps every account. -/
theorem Sound.movedOn {m : Market} (h : m.Sound) (offerId bidIdpk : String) (action : Action) :
    (m.movedOn offerId bidIdpk action).Sound := by
  unfold Market.movedOn
  cases hr : heldReservation? m offerId bidIdpk with
  | none => exact h
  | some r =>
    obtain ⟨hget,_,rfl,held⟩ := heldReservation?_spec hr
    cases action with
    | release => exact h.release hget held
    | commit => exact h.commit hget held

theorem Sound.moved {m : Market} (h : m.Sound) (r : SwapRecord) (action : Action) :
    (m.moved r action).Sound := by
  unfold Market.moved
  split
  · exact h
  · split
    · exact h
    · exact h.movedOn _ _ _

theorem Sound.carried {m : Market} (h : m.Sound) (r : SwapRecord) (type : EventType) :
    (m.carried r type).Sound := by
  unfold Market.carried
  cases type with
  | proposed => exact h
  | settled => exact h.moved r _
  | rejected => exact h.moved r _
  | expired => exact h.moved r _
  | cancelled => exact h.moved r _

theorem Sound.setBidExpired {m : Market} (h : m.Sound) (idpk : Option String) :
    (SwapTimeouts.setBidExpired m idpk).Sound := by
  unfold SwapTimeouts.setBidExpired
  split
  · exact h
  split
  · exact h
  split
  · exact h
  · exact h.congr rfl fun _ => rfl

theorem Sound.expired {m : Market} (h : m.Sound) (done r : SwapRecord) (idpk : Option String) :
    (SwapTimeouts.setBidExpired ((m.setSwap done).moved r .release) idpk).Sound := by
  have stored : (m.setSwap done).Sound := h.congr rfl fun _ => rfl
  exact (stored.moved r _).setBidExpired _

theorem sound_move {d d' : Desk} (h : Move cfg P d d') (hd : d.market.Sound) :
    d'.market.Sound := by
  cases h with
  | offers offers same => exact hd.congr rfl same
  | offerAdded o free nonneg fresh => exact hd.addOffer o free fun _ => ⟨nonneg,fresh⟩
  | bidArrived => exact hd.congr rfl fun _ => rfl
  | strayRefused => exact hd
  | bidRefused => exact hd.congr rfl fun _ => rfl
  | reserved b o now freeReservation freeSwap _ _ _ ho hl positive fits =>
    exact hd.reserve _ _ freeReservation freeSwap ho hl positive fits
  | event r s type => exact (hd.carried r type).congr rfl fun _ => rfl
  | revised => exact hd.congr rfl fun _ => rfl
  | expired r reason => exact Sound.expired hd _ r _
  | kept => exact hd.congr rfl fun _ => rfl
  | claimed => exact hd.congr rfl fun _ => rfl
  | refused => exact hd.congr rfl fun _ => rfl
  | answered => exact hd.congr rfl fun _ => rfl
  | bidClosed idpk => exact hd.setBidExpired idpk
  | bidsExpired => exact hd.congr rfl fun _ => rfl
  | resolved => exact hd.congr rfl fun _ => rfl
  | taken => exact hd.congr rfl fun _ => rfl
  | referenced o free foreign =>
    refine hd.addOffer o free fun hl => ?_
    rw [foreign] at hl
    cases hl
  | placed => exact hd.congr rfl fun _ => rfl
  | renewed => exact hd.congr rfl fun _ => rfl

theorem sound_moves {d d' : Desk} (h : Moves cfg P d d') (hd : d.market.Sound) :
    d'.market.Sound := by
  induction h with
  | refl => exact hd
  | tail _ move ih => exact sound_move move ih

end Market

end EnergyNode
