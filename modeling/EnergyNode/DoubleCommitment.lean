import EnergyNode.Deals
import EnergyNode.Lib.Run
import EnergyNode.Stock

/-! No double commitment: whatever interleaves over the local offers, an offer
never promises more than it has and a reservation ends at most once. -/
namespace EnergyNode
open Lib

variable {cfg : Config} {P : Market → Cause → Prop}

namespace Market
open WalletEvents

/-- Every reservation of `m` is still in `n`, with its terms, and its phase
moved at most out of the hold. -/
def Carries (m n : Market) : Prop :=
  ∀ k r, m.reservations.get? k = some r → ∃ s, n.reservations.get? k = some s ∧
    s.offerId = r.offerId ∧ s.quantity = r.quantity ∧ r.status.phase.Leads s.status.phase

theorem Carries.of_eq {m n : Market} (h : n.reservations = m.reservations) : Carries m n :=
  fun _ r hr => ⟨r,h ▸ hr,rfl,rfl,Phase.leads_refl _⟩

theorem Carries.refl (m : Market) : Carries m m := .of_eq rfl

theorem Carries.trans {m n o : Market} (h : Carries m n) (k : Carries n o) : Carries m o := by
  intro idpk r hr
  obtain ⟨s,hs,offer,quantity,leads⟩ := h idpk r hr
  obtain ⟨u,hu,offer',quantity',leads'⟩ := k idpk s hs
  exact ⟨u,hu,offer'.trans offer,quantity'.trans quantity,leads.trans leads'⟩

theorem Carries.restatus {m n : Market} {r : OfferReservation} {t : ReservationStatus}
    (hr : m.reservations.get? r.bidIdpk = some r) (held : r.status = .hold)
    (after : n.reservations = m.reservations.set { r with status := t }) : Carries m n := by
  intro k s hs
  by_cases hk : r.bidIdpk = k
  · subst hk
    cases hr.symm.trans hs
    refine ⟨{ r with status := t },?_,rfl,rfl,.inr ?_⟩
    · rw [after]
      exact Table.get?_set_self (a := { r with status := t }) hr
    · rw [held]
      rfl
  · have keep := Table.get?_set_ne m.reservations (a := { r with status := t }) hk
    rw [← after] at keep
    exact ⟨s,keep.trans hs,rfl,rfl,Phase.leads_refl _⟩

theorem Carries.movedOn (m : Market) (offerId bidIdpk : String) (action : Action) :
    Carries m (m.movedOn offerId bidIdpk action) := by
  unfold Market.movedOn
  cases hr : heldReservation? m offerId bidIdpk with
  | none => exact .refl m
  | some r =>
    obtain ⟨hget,_,_,held⟩ := heldReservation?_spec hr
    cases action with
    | release => exact .restatus hget held rfl
    | commit => exact .restatus hget held rfl

theorem Carries.moved (m : Market) (r : SwapRecord) (action : Action) :
    Carries m (m.moved r action) := by
  unfold Market.moved
  split
  · exact .refl m
  · split
    · exact .refl m
    · exact .movedOn _ _ _ _

theorem Carries.carried (m : Market) (r : SwapRecord) (type : EventType) :
    Carries m (m.carried r type) := by
  unfold Market.carried
  cases type with
  | proposed => exact .refl m
  | settled => exact .moved m r _
  | rejected => exact .moved m r _
  | expired => exact .moved m r _
  | cancelled => exact .moved m r _

theorem Carries.expired (m : Market) (done r : SwapRecord) (idpk : Option String) :
    Carries m (SwapTimeouts.setBidExpired ((m.setSwap done).moved r .release) idpk) := by
  refine .trans (n := m.setSwap done) (.of_eq rfl) ?_
  refine .trans (n := (m.setSwap done).moved r .release) (.moved _ r _) ?_
  exact .of_eq (reservations_setBidExpired _ _)

theorem carries_move {d d' : Desk} (h : Move cfg P d d') : Carries d.market d'.market := by
  cases h with
  | offers => exact .of_eq rfl
  | offerAdded => exact .of_eq rfl
  | bidArrived => exact .of_eq rfl
  | strayRefused => exact .of_eq rfl
  | bidRefused => exact .of_eq rfl
  | reserved b o now freeReservation freeSwap =>
    intro k r hr
    refine ⟨r,?_,rfl,rfl,Phase.leads_refl _⟩
    dsimp only [SellerBids.commitReservation]
    rw [Table.get?_insert,if_neg]
    · exact hr
    · rintro rfl
      rw [hr] at freeReservation
      cases freeReservation
  | event r s type => exact .trans (.carried _ r type) (.of_eq rfl)
  | revised => exact .of_eq rfl
  | expired r reason => exact .expired _ _ r _
  | kept => exact .of_eq rfl
  | claimed => exact .of_eq rfl
  | refused => exact .of_eq rfl
  | answered => exact .of_eq rfl
  | bidClosed => exact .of_eq (reservations_setBidExpired _ _)
  | bidsExpired => exact .of_eq rfl
  | resolved => exact .of_eq rfl
  | taken => exact .of_eq rfl
  | referenced => exact .of_eq rfl
  | placed => exact .of_eq rfl
  | renewed => exact .of_eq rfl

theorem carries_moves {d d' : Desk} (h : Moves cfg P d d') : Carries d.market d'.market := by
  induction h with
  | refl => exact .refl _
  | tail _ move ih => exact ih.trans (carries_move move)

end Market

namespace DoubleCommitment
open Market SellerBids

/-- The transactions that touch the stock. The last three are the parts of the
node's actions that take the offer or the reservation lock on their own, with
whatever arguments another worker read before. -/
inductive Action where
  | node (a : Node.Action)
  | reserve (bidIdpk : String) (now : Instant)
  | policy (locked : List String) (offerId : String) (now : Instant)
  | effect (offerId bidIdpk : String) (action : WalletEvents.Action) (now : Instant)
  | expire (record : SwapRecord) (reason : String) (now : Instant)

def step (env : Env) (db : Db) : Action → Db
  | .node a => Node.step env db a
  | .reserve bidIdpk now =>
      Node.attempted db ((reserveIncomingBid env.cfg db bidIdpk now).map Prod.fst)
  | .policy locked offerId now =>
      Node.attempted db ((processOffer env.cfg locked now (db,{}) offerId).map Prod.fst)
  | .effect offerId bidIdpk action now =>
      WalletEvents.updateOfferAndReservation env.cfg db offerId bidIdpk action now
  | .expire record reason now => SwapTimeouts.expireRecord env.cfg db record reason now

/-- What a step of the stock has to preserve: the accounts, and the reservations. -/
theorem step_stock (env : Env) (db : Db) (a : Action) (h : db.market.Sound) :
    (step env db a).market.Sound ∧ Carries db.market (step env db a).market := by
  have through {d : Db} {Q : Market → Cause → Prop} (moves : Moves env.cfg Q db.desk d.desk) :
      d.market.Sound ∧ Carries db.market d.market :=
    ⟨sound_moves moves h,carries_moves moves⟩
  cases a with
  | node a => exact through (Node.step_moves env db a)
  | reserve bidIdpk now =>
    refine through (Q := fun _ _ => True) (Node.attempted_moves fun db' done => ?_)
    obtain ⟨⟨db₁,outcome⟩,hr,rfl⟩ := Fallible.map_ok.mp done
    exact reserveIncomingBid_moves hr
  | policy locked offerId now =>
    refine through (Q := fun _ _ => True) (Node.attempted_moves fun db' done => ?_)
    obtain ⟨⟨db₁,tally⟩,hr,rfl⟩ := Fallible.map_ok.mp done
    have turn := processOffer_moves (P := fun _ _ => True) hr
    exact turn
  | effect offerId bidIdpk action now =>
    unfold step
    rw [WalletEvents.market_updateOfferAndReservation]
    exact ⟨h.movedOn _ _ _,.movedOn _ _ _ _⟩
  | expire record reason now =>
    cases live : record.status.terminal with
    | true =>
      have same : step env db (.expire record reason now) = db := if_pos live
      rw [same]
      exact ⟨h,.refl _⟩
    | false =>
      have desk := @SwapTimeouts.expireRecord_desk env.cfg db record reason now live
      have market : (step env db (.expire record reason now)).market = _ :=
        congrArg Desk.market desk
      rw [market]
      exact ⟨Sound.expired h _ record _,.expired _ _ record _⟩

/-- The figures of a local offer add up and no clamp cuts anything off. -/
structure Exact (m : Market) (o : MarketOffer) : Prop where
  remaining : o.remainingQuantity = o.initialQuantity - m.committedKwh o.offerId
  held : heldKwh m o.offerId ≤ o.remainingQuantity
  available : max 0 (o.remainingQuantity - heldKwh m o.offerId) =
    o.remainingQuantity - heldKwh m o.offerId
  sale : ∀ r ∈ m.reservations, r.offerId = o.offerId → r.status = .hold →
    max 0 (o.remainingQuantity - r.quantity) = o.remainingQuantity - r.quantity

theorem exact_of_sound {m : Market} (h : m.Sound) {o : MarketOffer} (ho : o ∈ m.offers)
    (hl : o.isLocal = true) : Exact m o := by
  obtain ⟨a,ha⟩ := h.backed o ho hl
  have balanced := a.balanced
  have covered := a.covered
  rw [ha.remaining,ha.committed,ha.initial] at balanced
  rw [ha.held,ha.remaining] at covered
  refine ⟨by omega,covered,max_eq_right (by omega),?_⟩
  intro r hr hid held
  have part := h.le_held hr held
  rw [hid] at part
  exact max_eq_right (by omega)

def Kept (m : Market) : Prop :=
  (∀ o ∈ m.offers, o.isLocal = true → Exact m o) ∧
    ∀ r ∈ m.reservations, ∀ s ∈ m.reservations, r.bidIdpk = s.bidIdpk → r = s

theorem kept_of_sound {m : Market} (h : m.Sound) : Kept m :=
  ⟨fun _ ho hl => exact_of_sound h ho hl,fun _ hr _ hs e => Table.eq_of_key hr hs e⟩

theorem always_sound (env : Env) {db : Db} (h : db.market.Sound) (run : List Action) :
    Always (step env) (fun db => db.market.Sound) db run :=
  always_of_step (P := fun _ _ => True) (fun db a hs _ => (step_stock env db a hs).1) h
    (along_true db run)

theorem run_carries (env : Env) {db : Db} (h : db.market.Sound) (run : List Action) :
    Carries db.market (Lib.run (step env) db run).market :=
  run_related (P := fun _ _ => True) (fun a b : Db => Carries a.market b.market)
    (fun _ => .refl _) Carries.trans (fun db a hs _ => (step_stock env db a hs).2)
    (always_sound env h run) (along_true db run)

/-- Every state of every run keeps the figures of the local offers exact and one
reservation for each bid; what a reservation is after `before`, it stays for
the rest of the run, unless it is a hold that ends. -/
theorem no_double_commitment (env : Env) (start : Db) (empty : start.market = {})
    (before rest : List Action) :
    let db := Lib.run (step env) start before
    Always (step env) (fun db => Kept db.market) start (before ++ rest) ∧
    ∀ r ∈ db.market.reservations, ∃ s ∈ (Lib.run (step env) db rest).market.reservations,
      s.bidIdpk = r.bidIdpk ∧ s.offerId = r.offerId ∧ s.quantity = r.quantity ∧
      (r.status = .hold ∨ s = r) := by
  have sound : start.market.Sound := empty ▸ sound_empty
  intro db
  refine ⟨(always_sound env sound _).mono fun _ h => kept_of_sound h,?_⟩
  intro r hr
  have soundThen : db.market.Sound := (always_sound env sound before).final
  obtain ⟨s,hs,offer,quantity,leads⟩ :=
    run_carries env soundThen rest r.bidIdpk r (Table.get?_of_mem hr)
  have key := Table.key_of_get? hs
  refine ⟨s,Table.mem_of_get? hs,key,offer,quantity,?_⟩
  by_cases held : r.status = .hold
  · exact .inl held
  · have ended : r.status.phase ≠ .hold := by
      cases hst : r.status with
      | hold => exact absurd hst held
      | committed => nofun
      | released => nofun
    have same := Phase.leads_of_ne_hold leads ended
    have status : s.status = r.status := by
      cases hst : r.status <;> cases hst' : s.status <;> simp_all [ReservationStatus.phase]
    cases r
    cases s
    simp only at key offer quantity status
    exact .inr (by rw [key,offer,quantity,status])

def sale : List Action :=
  [.node (.sellerOffer "C1" 100 0),
    .node (.ingest (Node.bidMessage "k1" "00000000-0000-0000-0000-000000000001" "C1" "BBB"
      "AAA-C1" 60) 1),
    .node (.ingest (Node.bidMessage "k2" "00000000-0000-0000-0000-000000000002" "C1" "BBB"
      "AAA-C1" 40) 1)]

def ends : List Action :=
  [.effect "AAA-C1" "k1" .commit 2,.effect "AAA-C1" "k2" .release 2,.effect "AAA-C1" "k1" .release 3]

theorem sale_committed_once :
    let env := Node.offline "AAA" []
    let done := Lib.run (step env) (Node.opened "C1") (sale ++ ends)
    done.market.offers.rows.map MarketOffer.remainingQuantity = [40] ∧
      Always (step env) (fun db => Kept db.market) (Node.opened "C1") (sale ++ ends) :=
  ⟨by decide +kernel,(no_double_commitment (Node.offline "AAA" []) (Node.opened "C1") rfl sale ends).1⟩

end DoubleCommitment

end EnergyNode
