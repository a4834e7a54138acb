import EnergyNode.Deals
import EnergyNode.Lib.Run

/-! One wallet operation for each bid. Every POST is rebuilt from the stored
record, whose economic columns and keys never change once they are written. -/
namespace EnergyNode
open Lib WalletEvents

namespace SingleOperation
open SwapDispatch SwapAccept SellerBids

/-- The Idempotency-Key and the body of a `POST /swaps`. -/
structure ProposalPost where
  key : String
  give : ℚ
  take : ℚ
  memo : String
  expiresAt : Instant
deriving DecidableEq

def postOf (a : ProposalAttempt) : ProposalPost :=
  ⟨a.idempotencyKey,a.giveAmount,a.takeAmount,a.memo,a.expiresAt⟩

/-- The attempt an action claims; its POST, if any, carries just this. -/
def claims (env : Env) (db : Db) : Node.Action → Option ProposalAttempt
  | .claimProposal locked now =>
      match claimOne env.cfg db locked now with
      | .ok (_,attempt) => attempt
      | .error _ => none
  | _ => none

/-- The `POST accept` an action sends, with the outgoing bid it is made for. -/
def accepts (db : Db) : Node.Action → Option (String × AcceptPost)
  | .sendAccept idpk now => do
      let post ← (send db idpk now).2
      let record ← db.market.swaps.get? idpk
      let bid ← record.sourceBidIdpk
      return (bid,post)
  | _ => none

def proposals (env : Env) : Db → List Node.Action → List ProposalAttempt
  | _, [] => []
  | db, a :: run => (claims env db a).toList ++ proposals env (Node.step env db a) run

def acceptances (env : Env) : Db → List Node.Action → List (String × AcceptPost)
  | _, [] => []
  | db, a :: run => (accepts db a).toList ++ acceptances env (Node.step env db a) run

/-- What later work may not change in a record: its deal, the expiry once it was
posted and the swap once it is known. -/
structure Frozen (r s : SwapRecord) : Prop where
  deal : SameDeal r s
  expiresAt : r.proposalExpiresAt.isSome → s.proposalExpiresAt = r.proposalExpiresAt
  swapId : blank r.swapId = false → s.swapId = r.swapId

theorem Frozen.refl (r : SwapRecord) : Frozen r r := ⟨.refl r,fun _ => rfl,fun _ => rfl⟩

theorem Frozen.trans {r s u : SwapRecord} (h : Frozen r s) (k : Frozen s u) : Frozen r u where
  deal := h.deal.trans k.deal
  expiresAt := by
    intro set
    have same := h.expiresAt set
    rw [k.expiresAt (by rw [same]; exact set),same]
  swapId := by
    intro known
    have same := h.swapId known
    rw [k.swapId (by rw [same]; exact known),same]

theorem frozen_deal {m : Market} {Q : Cause → Prop} {k : String} {d e : Deal}
    (move : DealMove m Q k d e) {r : SwapRecord} (hr : d.swap = some r) :
    ∃ s, e.swap = some s ∧ Frozen r s := by
  obtain ⟨s,hs,deal,id⟩ := move.swap hr
  refine ⟨s,hs,deal,?_,id⟩
  cases move with
  | still => cases hr.symm.trans hs; exact fun _ => rfl
  | arrived => cases hr.symm.trans hs; exact fun _ => rfl
  | rejected => cases hr.symm.trans hs; exact fun _ => rfl
  | own => cases hr.symm.trans hs; exact fun _ => rfl
  | closed => cases hr.symm.trans hs; exact fun _ => rfl
  | answered => cases hr.symm.trans hs; exact fun _ => rfl
  | reserved => cases hr
  | taken => cases hr
  | event _ _ _ _ _ _ _ _ _ _ _ _ _ _ proposal => cases hr; cases hs; exact fun _ => proposal.expiresAt
  | revised _ _ _ _ _ _ _ _ _ _ _ proposal => cases hr; cases hs; exact fun _ => proposal.expiresAt
  | expired _ _ _ _ _ _ _ _ _ proposal => cases hr; cases hs; exact fun _ => proposal.expiresAt
  | kept _ _ _ _ _ _ proposal => cases hr; cases hs; exact fun _ => proposal.expiresAt
  | refused _ _ _ _ _ _ _ proposal => cases hr; cases hs; exact fun _ => proposal.expiresAt
  | claimed _ _ _ _ _ _ _ _ _ _ frozen =>
    cases hr
    cases hs
    obtain ⟨time,frozen⟩ := frozen
    intro set
    obtain ⟨expiry,he⟩ := Option.isSome_iff_exists.mp set
    rw [frozen,he]
    rfl

theorem frozen_moves {cfg : Config} {P : Market → Cause → Prop} {d d' : Desk}
    (moves : Moves cfg P d d') {k : String} {r : SwapRecord}
    (hr : d.market.swaps.get? k = some r) :
    ∃ s, d'.market.swaps.get? k = some s ∧ Frozen r s := by
  induction moves with
  | refl => exact ⟨r,hr,.refl r⟩
  | tail _ move ih =>
    obtain ⟨s,hs,frozen⟩ := ih
    obtain ⟨u,hu,next⟩ := frozen_deal (Market.deal_move move k) hs
    exact ⟨u,hu,frozen.trans next⟩

theorem frozen_step (env : Env) {db : Db} (a : Node.Action) {k : String} {r : SwapRecord}
    (hr : db.market.swaps.get? k = some r) :
    ∃ s, (Node.step env db a).market.swaps.get? k = some s ∧ Frozen r s :=
  frozen_moves (Node.step_moves env db a) hr

/-- The request a posted record stands for. -/
def standing (r : SwapRecord) (expiresAt : Instant) : ProposalPost :=
  ⟨r.idempotencyKey,r.giveAmount,r.takeAmount,r.memo.getD "",expiresAt⟩

theorem Frozen.standing {r s : SwapRecord} (h : Frozen r s) (expiresAt : Instant) :
    standing s expiresAt = standing r expiresAt := by
  unfold SingleOperation.standing
  rw [h.deal.idempotencyKey,h.deal.giveAmount,h.deal.takeAmount,h.deal.memo]

/-- A claim posts the record it found, and freezes its expiry. -/
theorem claims_spec {env : Env} {db : Db} {a : Node.Action} {attempt : ProposalAttempt}
    (h : claims env db a = some attempt) :
    ∃ r expiry s, db.market.swaps.get? attempt.idpk = some r ∧
      postOf attempt = standing r expiry ∧ (∀ t, r.proposalExpiresAt = some t → expiry = t) ∧
      (Node.step env db a).market.swaps.get? attempt.idpk = some s ∧
      s.proposalExpiresAt = some expiry := by
  unfold claims at h
  split at h
  · rename_i locked now
    split at h
    · rename_i out found hc
      subst h
      have stepped : Node.step env db (.claimProposal locked now) = out := by
        show Node.attempted db ((claimOne env.cfg db locked now).map Prod.fst) = out
        rw [hc]
        rfl
      unfold claimOne at hc
      split at hc
      · cases hc
      · rename_i r hr
        obtain ⟨_,_,hc⟩ := Fallible.bind_ok.mp hc
        obtain ⟨rfl,same⟩ := Prod.mk.injEq .. ▸ Fallible.pure_ok.mp hc
        cases same
        have stored := (candidate?_spec hr).1
        refine ⟨r,r.proposalExpiresAt.getD (now + seconds 55),claimed env.cfg db.market r now,
          stored,rfl,?_,?_,rfl⟩
        · intro t ht
          rw [ht]
          rfl
        · rw [stepped]
          exact Table.get?_set_self (a := claimed env.cfg db.market r now) stored
    · cases h
  · cases h

/-- Every later POST for a posted record repeats its request. -/
theorem proposals_standing (env : Env) {db : Db} {run : List Node.Action} {k : String}
    {r : SwapRecord} {expiry : Instant} (hr : db.market.swaps.get? k = some r)
    (posted : r.proposalExpiresAt = some expiry) {a : ProposalAttempt}
    (ha : a ∈ proposals env db run) (hk : a.idpk = k) : postOf a = standing r expiry := by
  induction run generalizing db r with
  | nil => cases ha
  | cons act run ih =>
    rcases List.mem_append.mp ha with here | later
    · subst hk
      obtain ⟨r',expiry',s,hr',same,frozen,_⟩ := claims_spec (Option.mem_toList.mp here)
      cases hr.symm.trans hr'
      rw [same,frozen expiry posted]
    · obtain ⟨s,hs,frozen⟩ := frozen_step env act hr
      have posted' : s.proposalExpiresAt = some expiry := by
        rw [frozen.expiresAt (by rw [posted]; rfl),posted]
      rw [ih hs posted' later,frozen.standing]

theorem proposals_pairwise (env : Env) (db : Db) (run : List Node.Action) :
    (proposals env db run).Pairwise fun a b => a.idpk = b.idpk → postOf a = postOf b := by
  induction run generalizing db with
  | nil => exact .nil
  | cons act run ih =>
    refine List.pairwise_append.mpr ⟨?_,ih _,?_⟩
    · cases claims env db act with
      | none => exact .nil
      | some a => exact List.pairwise_singleton _ _
    · intro a here b later same
      obtain ⟨r,expiry,s,hr,post,_,hs,posted⟩ := claims_spec (Option.mem_toList.mp here)
      obtain ⟨s',hs',frozen⟩ := frozen_step env act hr
      cases hs.symm.trans hs'
      rw [post,proposals_standing env hs posted later same.symm,frozen.standing]

theorem proposals_agree (env : Env) (db : Db) (run : List Node.Action) :
    ∀ a ∈ proposals env db run, ∀ b ∈ proposals env db run, a.idpk = b.idpk →
      postOf a = postOf b := by
  have symmetric : Std.Symm fun a b : ProposalAttempt => a.idpk = b.idpk → postOf a = postOf b :=
    ⟨fun _ _ h same => (h same.symm).symm⟩
  intro a ha b hb
  exact (proposals_pairwise env db run).forall_of_forall (fun _ _ _ => rfl) ha hb

/-- The outgoing bid a record was taken up for. -/
def source (m : Market) (k : String) : Option String :=
  (m.swaps.get? k).bind SwapRecord.sourceBidIdpk

/-- No two records were taken up for one bid. -/
def OneSource (m : Market) : Prop :=
  ∀ k j x, source m k = some x → source m j = some x → k = j

theorem source_setSwap {m : Market} {r s : SwapRecord} (hr : m.swaps.get? r.idpk = some r)
    (deal : SameDeal r s) : source (m.setSwap s) = source m := by
  funext k
  unfold source
  by_cases hk : r.idpk = k
  · subst hk
    have stored := get?_setSwap hr deal
    rw [deal.idpk] at stored
    rw [stored,hr]
    exact deal.sourceBidIdpk
  · rw [show (m.setSwap s).swaps.get? k = m.swaps.get? k from
      Table.get?_set_ne m.swaps (deal.idpk ▸ hk)]

theorem source_insert (m : Market) (r : SwapRecord) (free : m.swaps.get? r.idpk = none)
    (k : String) : source { m with swaps := m.swaps.insert r free } k =
      if r.idpk = k then r.sourceBidIdpk else source m k := by
  unfold source
  rw [Table.get?_insert]
  split <;> rfl

/-- A bid taken up before is not taken up again. -/
theorem source_of_not_linked {m : Market} {b : MarketBid}
    (h : SwapTimeouts.linked m b = false) (k : String) : source m k ≠ some b.idpk := by
  unfold source
  intro found
  obtain ⟨r,hr,id⟩ := Option.bind_eq_some_iff.mp found
  have none := List.any_eq_false.mp h r (Table.mem_of_get? hr)
  simp [id] at none

theorem oneSource_insert {m : Market} (r : SwapRecord) (free) (h : OneSource m)
    (new : ∀ x, r.sourceBidIdpk = some x → ∀ k, source m k ≠ some x) :
    OneSource { m with swaps := m.swaps.insert r free } := by
  intro k j x hk hj
  rw [source_insert] at hk hj
  split at hk
  · rename_i here
    split at hj
    · rename_i there
      exact here.symm.trans there
    · exact absurd hj (new x hk j)
  · split at hj
    · exact absurd hk (new x hj k)
    · exact h k j x hk hj

theorem oneSource_congr {m n : Market} (h : OneSource m) (same : source n = source m) :
    OneSource n := by
  intro k j x hk hj
  rw [same] at hk hj
  exact h k j x hk hj

theorem source_swaps {m n : Market} (same : n.swaps = m.swaps) : source n = source m := by
  funext k
  rw [source,source,same]

theorem oneSource_move {cfg : Config} {P : Market → Cause → Prop} {m n : Market}
    {t u : List Talk} (move : Move cfg P ⟨m,t⟩ ⟨n,u⟩) (h : OneSource m) : OneSource n := by
  cases move with
  | offers => exact h
  | offerAdded => exact h
  | bidArrived => exact h
  | strayRefused => exact h
  | bidRefused => exact h
  | reserved b o now freeReservation freeSwap =>
    refine oneSource_congr (oneSource_insert (swapIntent b o.pricePerEnergy now) freeSwap h ?_) rfl
    intro x hx
    cases hx
  | event r s type data rejection swapId _ found _ _ deal =>
    refine oneSource_congr h ?_
    rw [source_setSwap ((swaps_carried m r type).symm ▸ get?_correlated found) deal]
    exact source_swaps (swaps_carried m r type)
  | revised r s _ _ _ _ found _ deal =>
    exact oneSource_congr h (source_setSwap (get?_correlated found) deal)
  | expired r reason _ hr =>
    refine oneSource_congr h ?_
    refine (source_swaps ?_).trans (source_setSwap (s := { r with
      status := .expired, rejectionReason := some reason }) hr
      ⟨rfl,rfl,rfl,rfl,rfl,rfl,rfl,rfl,rfl,rfl,rfl,rfl⟩)
    rw [Market.swaps_setBidExpired,swaps_moved]
  | kept r s hr deal => exact oneSource_congr h (source_setSwap hr deal)
  | claimed r now hr =>
    exact oneSource_congr h (source_setSwap (s := claimed cfg m r now) hr
      ⟨rfl,rfl,rfl,rfl,rfl,rfl,rfl,rfl,rfl,rfl,rfl,rfl⟩)
  | refused r s _ hr _ _ deal => exact oneSource_congr h (source_setSwap hr deal)
  | answered => exact h
  | bidClosed => exact oneSource_congr h (source_swaps (Market.swaps_setBidExpired _ _))
  | bidsExpired => exact h
  | resolved => exact h
  | taken b r free _ _ waits _ _ _ from_ =>
    refine oneSource_insert r free h ?_
    intro x hx
    cases from_.symm.trans hx
    unfold awaitsAcceptance at waits
    simp only [Bool.and_eq_true,Bool.not_eq_true'] at waits
    exact source_of_not_linked waits.2
  | referenced => exact h
  | placed => exact h
  | renewed => exact h

theorem oneSource_moves {cfg : Config} {P : Market → Cause → Prop} {d d' : Desk}
    (moves : Moves cfg P d d') (h : OneSource d.market) : OneSource d'.market := by
  induction moves with
  | refl => exact h
  | tail _ move ih => exact oneSource_move move ih

theorem oneSource_step (env : Env) {db : Db} (a : Node.Action) (h : OneSource db.market) :
    OneSource (Node.step env db a).market :=
  oneSource_moves (Node.step_moves env db a) h

/-- The record behind an acceptance, and what it has the POST carry. -/
theorem accepts_spec {db : Db} {a : Node.Action} {bid : String} {post : AcceptPost}
    (h : accepts db a = some (bid,post)) :
    ∃ k r, db.market.swaps.get? k = some r ∧ r.sourceBidIdpk = some bid ∧
      r.swapId = some post.swapId ∧ post.swapId ≠ "" ∧ r.acceptIdempotencyKey = some post.key := by
  unfold accepts at h
  split at h
  · rename_i idpk now
    obtain ⟨found,hpost,h⟩ := Option.bind_eq_some_iff.mp h
    obtain ⟨r,hr,h⟩ := Option.bind_eq_some_iff.mp h
    obtain ⟨x,hx,h⟩ := Option.bind_eq_some_iff.mp h
    cases h
    refine ⟨idpk,r,hr,hx,?_⟩
    unfold send at hpost
    split at hpost
    · cases hpost
    rename_i r' ha
    obtain ⟨hr',_⟩ := Option.filter_eq_some_iff.mp ha
    cases hr.symm.trans hr'
    split at hpost
    · cases hpost
    dsimp only at hpost
    split at hpost
    · rename_i swapId key hid hkey
      split at hpost
      · cases hpost
      · rename_i named
        cases hpost
        exact ⟨hid,named,hkey⟩
    · cases hpost
  · cases h

theorem acceptances_standing (env : Env) {db : Db} {run : List Node.Action} {k bid key id : String}
    {r : SwapRecord} (one : OneSource db.market) (hr : db.market.swaps.get? k = some r)
    (from_ : r.sourceBidIdpk = some bid) (hid : r.swapId = some id) (named : id ≠ "")
    (hkey : r.acceptIdempotencyKey = some key) {p : String × AcceptPost}
    (hp : p ∈ acceptances env db run) (same : p.1 = bid) : p.2.key = key ∧ p.2.swapId = id := by
  induction run generalizing db r with
  | nil => cases hp
  | cons act run ih =>
    rcases List.mem_append.mp hp with here | later
    · obtain ⟨j,r',hr',from',hid',_,hkey'⟩ := accepts_spec (Option.mem_toList.mp here)
      have source_k : source db.market k = some bid := by rw [source,hr,Option.bind_some,from_]
      have source_j : source db.market j = some bid := by
        rw [source,hr',Option.bind_some,from',same]
      cases one k j bid source_k source_j
      cases hr.symm.trans hr'
      exact ⟨Option.some.inj (hkey'.symm.trans hkey),Option.some.inj (hid'.symm.trans hid)⟩
    · obtain ⟨s,hs,frozen⟩ := frozen_step env act hr
      have known : blank r.swapId = false := by simp [blank,hid,named]
      exact ih (oneSource_step env act one) hs (frozen.deal.sourceBidIdpk.trans from_)
        ((frozen.swapId known).trans hid) (frozen.deal.acceptIdempotencyKey.trans hkey) later

theorem acceptances_pairwise (env : Env) {db : Db} (run : List Node.Action)
    (one : OneSource db.market) : (acceptances env db run).Pairwise fun p q =>
      p.1 = q.1 → p.2.key = q.2.key ∧ p.2.swapId = q.2.swapId := by
  induction run generalizing db with
  | nil => exact .nil
  | cons act run ih =>
    refine List.pairwise_append.mpr ⟨?_,ih (oneSource_step env act one),?_⟩
    · cases accepts db act with
      | none => exact .nil
      | some p => exact List.pairwise_singleton _ _
    · intro p here q later same
      obtain ⟨k,r,hr,from_,hid,named,hkey⟩ := accepts_spec (Option.mem_toList.mp here)
      obtain ⟨s,hs,frozen⟩ := frozen_step env act hr
      have known : blank r.swapId = false := by simp [blank,hid,named]
      obtain ⟨keys,ids⟩ := acceptances_standing env (oneSource_step env act one) hs
        (frozen.deal.sourceBidIdpk.trans from_) ((frozen.swapId known).trans hid) named
        (frozen.deal.acceptIdempotencyKey.trans hkey) later same.symm
      exact ⟨keys.symm,ids.symm⟩

theorem acceptances_agree (env : Env) {db : Db} (run : List Node.Action)
    (one : OneSource db.market) : ∀ p ∈ acceptances env db run, ∀ q ∈ acceptances env db run,
      p.1 = q.1 → p.2.key = q.2.key ∧ p.2.swapId = q.2.swapId := by
  have symmetric : Std.Symm fun p q : String × AcceptPost =>
      p.1 = q.1 → p.2.key = q.2.key ∧ p.2.swapId = q.2.swapId :=
    ⟨fun _ _ h same => ⟨(h same.symm).1.symm,(h same.symm).2.symm⟩⟩
  intro p hp q hq
  exact (acceptances_pairwise env run one).forall_of_forall (fun _ _ _ => ⟨rfl,rfl⟩) hp hq

/-- A proposal sells what its bid asks, at the price the bid was reserved at. -/
structure Sold (k : String) (price : ℚ) (r : SwapRecord) (d : Deal) (b : MarketBid) : Prop where
  swap : d.swap = some r
  bid : d.bid = some b
  role : r.role = .proposer
  incoming : b.direction = .incoming
  taken : b.status ≠ .pending
  frozen : b.acceptedPricePerEnergy = some price
  key : r.idempotencyKey = k
  give : r.giveAsset = .kwh ∧ r.giveAmount = b.quantity
  take : r.takeAsset = .cr ∧ r.takeAmount = centsHalfUp (b.quantity * price)

theorem Sold.next {k : String} {price : ℚ} {r s : SwapRecord} {d e : Deal} {b c : MarketBid}
    (h : Sold k price r d b) (swap : e.swap = some s) (bid : e.bid = some c) (deal : SameDeal r s)
    (direction : c.direction = b.direction) (taken : c.status ≠ .pending)
    (same : c.acceptedPricePerEnergy = b.acceptedPricePerEnergy) (quantity : c.quantity = b.quantity) :
    Sold k price s e c where
  swap := swap
  bid := bid
  role := deal.role.trans h.role
  incoming := direction.trans h.incoming
  taken := taken
  frozen := same.trans h.frozen
  key := deal.idempotencyKey.trans h.key
  give := ⟨deal.giveAsset.trans h.give.1,by rw [deal.giveAmount,h.give.2,quantity]⟩
  take := ⟨deal.takeAsset.trans h.take.1,by rw [deal.takeAmount,h.take.2,quantity]⟩

theorem sold_deal {m : Market} {Q : Cause → Prop} {k : String} {d e : Deal} {price : ℚ}
    {r : SwapRecord} {b : MarketBid} (move : DealMove m Q k d e) (h : Sold k price r d b) :
    ∃ s c, Sold k price s e c := by
  obtain ⟨s,hs,deal,_⟩ := move.swap h.swap
  have still (bid : e.bid = some b) : ∃ s c, Sold k price s e c :=
    ⟨s,b,h.next hs bid deal rfl h.taken rfl rfl⟩
  cases move with
  | still => exact still h.bid
  | arrived => cases h.bid
  | rejected b' c _ pending =>
    cases h.bid
    exact absurd pending h.taken
  | own b' c same outgoing =>
    cases h.bid
    have incoming := same.direction.trans h.incoming
    rw [outgoing] at incoming
    cases incoming
  | closed b' =>
    cases h.bid
    refine ⟨s,b.closed,h.next hs rfl deal b.closed_direction (b.closed_same.answered h.taken).2
      ?_ ?_⟩ <;> (unfold MarketBid.closed; split <;> rfl)
  | reserved => cases h.swap
  | answered b' x r' swapId now =>
    cases h.bid
    exact ⟨s,_,h.next hs rfl deal rfl nofun rfl rfl⟩
  | taken => cases h.swap
  | event => exact still h.bid
  | revised => exact still h.bid
  | @expired own c _ _ _ _ _ _ _ _ _ _ _ closes =>
    have here : own = some b := h.bid
    rcases closes with ⟨same,_⟩ | same
    · exact still (same.trans here)
    · refine ⟨s,b.closed,h.next hs ?_ deal b.closed_direction (b.closed_same.answered h.taken).2
        ?_ ?_⟩
      · show c = _
        rw [same,here]
        rfl
      all_goals (unfold MarketBid.closed; split <;> rfl)
  | kept => exact still h.bid
  | claimed => exact still h.bid
  | refused => exact still h.bid

/-- Every proposal is sold at its bid's frozen price. -/
def AllSold (m : Market) : Prop :=
  ∀ k r, m.swaps.get? k = some r → r.role = .proposer →
    ∃ b price, Sold k price r (m.deal k) b

theorem allSold_deal {m : Market} {Q : Cause → Prop} {k : String} {d e : Deal}
    (move : DealMove m Q k d e)
    (h : ∀ r, d.swap = some r → r.role = .proposer → ∃ b price, Sold k price r d b) :
    ∀ s, e.swap = some s → s.role = .proposer → ∃ c price, Sold k price s e c := by
  intro s hs role
  cases hd : d.swap with
  | some r =>
    obtain ⟨s',hs',deal,_⟩ := move.swap hd
    cases hs.symm.trans hs'
    obtain ⟨b,price,sold⟩ := h r hd (deal.role.symm.trans role)
    obtain ⟨u,c,next⟩ := sold_deal move sold
    cases hs.symm.trans next.swap
    exact ⟨c,price,next⟩
  | none =>
    cases move with
    | reserved b price now key incoming pending =>
      cases hs
      exact ⟨_,price,⟨rfl,rfl,rfl,incoming,nofun,rfl,key,⟨rfl,rfl⟩,⟨rfl,rfl⟩⟩⟩
    | taken r acceptor =>
      cases hs
      rw [acceptor] at role
      cases role
    | still => cases hd.symm.trans hs
    | arrived => cases hd.symm.trans hs
    | rejected => cases hd.symm.trans hs
    | own => cases hd.symm.trans hs
    | closed => cases hd.symm.trans hs
    | answered => cases hd.symm.trans hs
    | event => cases hd
    | revised => cases hd
    | expired => cases hd
    | kept => cases hd
    | claimed => cases hd
    | refused => cases hd

theorem allSold_moves {cfg : Config} {P : Market → Cause → Prop} {d d' : Desk}
    (moves : Moves cfg P d d') (h : AllSold d.market) : AllSold d'.market := by
  intro k
  induction moves with
  | refl => exact h k
  | tail _ move ih => exact allSold_deal (Market.deal_move move k) ih

/-- One record for an incoming bid under its key, one for an outgoing bid, and
every proposal sold at the price frozen in its bid. -/
structure Single (m : Market) : Prop where
  source : OneSource m
  sold : AllSold m

theorem single_step (env : Env) (db : Db) (a : Node.Action) (h : Single db.market) :
    Single (Node.step env db a).market :=
  ⟨oneSource_moves (Node.step_moves env db a) h.source,
    allSold_moves (Node.step_moves env db a) h.sold⟩

theorem single_empty : Single {} where
  source := fun _ _ _ h => nomatch h
  sold := fun _ _ h => nomatch h

/-- The records of one bid are one record, and a proposal takes the two-decimal
rounding of its bid's quantity at the price accepted when it was reserved. -/
def OneRecord (m : Market) : Prop :=
  (∀ r ∈ m.swaps.rows, ∀ s ∈ m.swaps.rows, r.role = .proposer → s.role = .proposer →
    r.idempotencyKey = s.idempotencyKey → r = s) ∧
  (∀ r ∈ m.swaps.rows, ∀ s ∈ m.swaps.rows, r.sourceBidIdpk.isSome →
    r.sourceBidIdpk = s.sourceBidIdpk → r = s) ∧
  ∀ r ∈ m.swaps.rows, r.role = .proposer → ∃ b ∈ m.bids.get? r.idpk, b.direction = .incoming ∧
    r.giveAmount = b.quantity ∧ ∃ price ∈ b.acceptedPricePerEnergy,
      r.takeAmount = centsHalfUp (b.quantity * price)

theorem oneRecord_of_single {m : Market} (h : Single m) : OneRecord m := by
  refine ⟨?_,?_,?_⟩
  · intro r hr s hs role role' keys
    have hr' := Table.get?_of_mem hr
    have hs' := Table.get?_of_mem hs
    obtain ⟨_,_,sold⟩ := h.sold r.idpk r hr' role
    obtain ⟨_,_,sold'⟩ := h.sold s.idpk s hs' role'
    have same : r.idpk = s.idpk := sold.key.symm.trans (keys.trans sold'.key)
    rw [same] at hr'
    exact Option.some.inj (hr'.symm.trans hs')
  · intro r hr s hs known keys
    have hr' := Table.get?_of_mem hr
    have hs' := Table.get?_of_mem hs
    obtain ⟨x,hx⟩ := Option.isSome_iff_exists.mp known
    have source_r : source m r.idpk = some x := by rw [source,hr',Option.bind_some,hx]
    have source_s : source m s.idpk = some x := by rw [source,hs',Option.bind_some,← keys,hx]
    rw [h.source _ _ _ source_r source_s] at hr'
    exact Option.some.inj (hr'.symm.trans hs')
  · intro r hr role
    obtain ⟨b,price,sold⟩ := h.sold r.idpk r (Table.get?_of_mem hr) role
    exact ⟨b,sold.bid,sold.incoming,sold.give.2,price,sold.frozen,sold.take.2⟩

/-- Over every run, the POSTs made for an incoming bid carry one request, those
made to accept for an outgoing bid one key and swap, and every bid has one
record, sold at the frozen price. -/
theorem one_operation (env : Env) (start : Db) (empty : start.market = {})
    (run : List Node.Action) :
    (∀ a ∈ proposals env start run, ∀ b ∈ proposals env start run, a.idpk = b.idpk →
      postOf a = postOf b) ∧
    (∀ p ∈ acceptances env start run, ∀ q ∈ acceptances env start run, p.1 = q.1 →
      p.2.key = q.2.key ∧ p.2.swapId = q.2.swapId) ∧
    Always (Node.step env) (fun db => OneRecord db.market) start run := by
  have single : Single start.market := empty ▸ single_empty
  refine ⟨proposals_agree env start run,acceptances_agree env run single.source,?_⟩
  have kept : Always (Node.step env) (fun db => Single db.market) start run :=
    always_of_step (P := fun _ _ => True) (fun db a h _ => single_step env db a h) single
      (along_true start run)
  exact kept.mono fun _ => oneRecord_of_single

/-- A sale whose first POST times out and is repeated after a repricing. -/
def retried : List Node.Action :=
  let k := "40000000-0000-0000-0000-000000000001"
  let attempt : ProposalAttempt :=
    { idpk := k, claimToken := Node.lease, idempotencyKey := k, giveAmount := 60
      takeAmount := 72, counterpartCityId := "BBB", memo := "AAA-C1", expiresAt := seconds 55 + 2
      attemptCount := 1 }
  [.sellerOffer "C1" 100 0,
    .ingest (Node.bidMessage k "20000000-0000-0000-0000-000000000001" "C1" "BBB" "AAA-C1" 60) 1,
    .claimProposal [] 2, .settleProposal attempt .timeout 3, .reprice "AAA-C1" (.finite 9) 4,
    .claimProposal [] (seconds 10)]

theorem retried_once :
    ((proposals Node.seller (Node.opened "C1") retried).length = 2 ∧
      ∀ a ∈ proposals Node.seller (Node.opened "C1") retried, a.takeAmount = 72) ∧
    (∀ a ∈ proposals Node.seller (Node.opened "C1") retried,
      ∀ b ∈ proposals Node.seller (Node.opened "C1") retried, a.idpk = b.idpk →
        postOf a = postOf b) ∧
    (∀ p ∈ acceptances Node.seller (Node.opened "C1") retried,
      ∀ q ∈ acceptances Node.seller (Node.opened "C1") retried, p.1 = q.1 →
        p.2.key = q.2.key ∧ p.2.swapId = q.2.swapId) ∧
    Always (Node.step Node.seller) (fun db => OneRecord db.market) (Node.opened "C1") retried :=
  ⟨by decide +kernel,one_operation Node.seller (Node.opened "C1") rfl retried⟩

end SingleOperation

end EnergyNode
