import EnergyNode.AutonomousBuy
import EnergyNode.Deals

/-! Bids of the autonomous buyer among the moves of the node: a move changes the
rows of the bids in a few ways, and a turn of the loop inserts one row. -/
namespace EnergyNode
open Lib

/-- A bid the seller may still turn into a debit. -/
def BidStatus.outstanding : BidStatus → Bool
  | pending | accepted => true
  | _ => false

/-- `c` is a later row of the bid `b`: what it asks for stays, and an outgoing
bid is answered once and then at most closed. -/
structure MarketBid.Keeps (b c : MarketBid) : Prop where
  idpk : c.idpk = b.idpk
  direction : c.direction = b.direction
  terms : c.terms = b.terms
  status : b.direction = .outgoing → c.status = b.status ∨ b.status = .pending ∨ c.status = .expired

namespace MarketBid

theorem Keeps.refl (b : MarketBid) : Keeps b b := ⟨rfl,rfl,rfl,fun _ => .inl rfl⟩

theorem Keeps.trans {a b c : MarketBid} (h : Keeps a b) (k : Keeps b c) : Keeps a c where
  idpk := k.idpk.trans h.idpk
  direction := k.direction.trans h.direction
  terms := k.terms.trans h.terms
  status out := by
    rcases k.status (h.direction.trans out) with same | open_ | closed
    · rw [same]
      exact h.status out
    · rcases h.status out with same | before | ended
      · exact .inr (.inl (same.symm.trans open_))
      · exact .inr (.inl before)
      · cases open_.symm.trans ended
    · exact .inr (.inr closed)

theorem Keeps.cycleId {b c : MarketBid} (h : Keeps b c) : c.cycleId = b.cycleId :=
  congrArg Prod.fst h.terms

theorem Keeps.quantity {b c : MarketBid} (h : Keeps b c) : c.quantity = b.quantity :=
  congrArg (fun terms => terms.2.2.2) h.terms

/-- What a pending bid has and an expired one has not, a later row has only if the
earlier had it. -/
theorem Keeps.ended {b c : MarketBid} (h : Keeps b c) (holds : BidStatus → Bool)
    (out : b.direction = .outgoing) (pending : holds .pending) (expired : holds .expired = false)
    (now : holds c.status) : holds b.status := by
  rcases h.status out with same | open_ | closed
  · exact same ▸ now
  · rw [open_]
    exact pending
  · rw [closed,expired] at now
    cases now

theorem Keeps.expired (b : MarketBid) : Keeps b { b with status := .expired } :=
  ⟨rfl,rfl,rfl,fun _ => .inr (.inr rfl)⟩

theorem Keeps.incoming {b c : MarketBid} (incoming : b.direction = .incoming) (idpk : c.idpk = b.idpk)
    (direction : c.direction = b.direction) (terms : c.terms = b.terms) : Keeps b c := by
  refine ⟨idpk,direction,terms,fun out => ?_⟩
  rw [incoming] at out
  cases out

end MarketBid

section Moves
variable {cfg : Config} {P : Market → Cause → Prop} {m n : Market} {t u : List Talk}
open MarketBid

/-- What a move may do to the rows of the bids. -/
inductive BidsMove (bids : Table MarketBid.idpk) : Table MarketBid.idpk → Prop where
  | same : BidsMove bids bids
  | inserted (b : MarketBid) (free) (positive : 0 < b.quantity) : BidsMove bids (bids.insert b free)
  | stored (b c : MarketBid) (hb : bids.get? b.idpk = some b) (kept : Keeps b c) :
      BidsMove bids (bids.set c)
  | swept (f : MarketBid → MarketBid) (hf) (kept : ∀ b, Keeps b (f b)) :
      BidsMove bids (bids.mapRows f hf)

theorem bids_closed (m : Market) (idpk : Option String) :
    BidsMove m.bids (SwapTimeouts.setBidExpired m idpk).bids := by
  unfold SwapTimeouts.setBidExpired
  split
  · exact .same
  split
  · exact .same
  rename_i b hb
  split
  · exact .same
  · exact .stored b { b with status := .expired } (Table.key_of_get? hb ▸ hb) (.expired b)

theorem bids_move (h : Move cfg P ⟨m,t⟩ ⟨n,u⟩) : BidsMove m.bids n.bids := by
  cases h with
  | offers | offerAdded | strayRefused | revised | kept | claimed | refused | taken | referenced =>
    exact .same
  | bidArrived b free cause incoming named positive => exact .inserted b free positive
  | placed b free x outgoing pending type positive => exact .inserted b free positive
  | bidRefused b reason available now hb incoming =>
    exact .stored b (SellerBids.rejectedBid b reason available now) hb (.incoming incoming rfl rfl rfl)
  | reserved b o now freeReservation freeSwap hb incoming =>
    exact .stored b (SellerBids.reservedBid b o.pricePerEnergy) hb (.incoming incoming rfl rfl rfl)
  | answered r b h swapId now x hr status id hb incoming =>
    exact .stored b (SellerBidAccepted.acceptedBid b swapId now) (Table.key_of_get? hb ▸ hb)
      (.incoming incoming rfl rfl rfl)
  | event r s type =>
    show BidsMove m.bids (m.carried r type).bids
    rw [Market.bids_carried]
    exact .same
  | expired r reason =>
    have closed := bids_closed ((m.setSwap { r with
      status := .expired, rejectionReason := some reason }).moved r .release) (SwapTimeouts.bidKey r)
    rw [Market.bids_moved] at closed
    exact closed
  | bidClosed idpk => exact bids_closed m idpk
  | bidsExpired f hf same =>
    refine .swept f hf fun b => ?_
    rcases same b with e | ⟨_,e⟩
    · rw [e]
      exact .refl b
    · rw [e]
      exact .expired b
  | resolved b c hb outgoing pending key direction msg terms =>
    exact .stored b c hb ⟨key,direction,terms,fun _ => .inr (.inl pending)⟩
  | renewed b msgId x hb => exact .stored b { b with msgId := msgId } hb ⟨rfl,rfl,rfl,fun _ => .inl rfl⟩

/-- No row goes away, and what a bid asks for stays. -/
theorem bid_kept {bids after : Table MarketBid.idpk} (h : BidsMove bids after) {k : String}
    {b : MarketBid} (hb : bids.get? k = some b) : ∃ c, after.get? k = some c ∧ Keeps b c := by
  cases h with
  | same => exact ⟨b,hb,.refl b⟩
  | inserted x free =>
    refine ⟨b,?_,.refl b⟩
    rw [Table.get?_insert,if_neg]
    · exact hb
    · rintro rfl
      rw [hb] at free
      cases free
  | stored x c hx kept =>
    by_cases hk : c.idpk = k
    · have own : x.idpk = k := kept.idpk.symm.trans hk
      cases (own ▸ hx).symm.trans hb
      exact ⟨c,hk ▸ Table.get?_set_self (hk ▸ hb),kept⟩
    · exact ⟨b,(Table.get?_set_ne bids hk).trans hb,.refl b⟩
  | swept f hf kept =>
    refine ⟨f b,?_,kept b⟩
    rw [Table.get?_mapRows,hb]
    rfl

theorem bid_lasts {d d' : Desk} (moves : Moves cfg P d d') {k : String} {b : MarketBid}
    (hb : d.market.bids.get? k = some b) : ∃ c, d'.market.bids.get? k = some c ∧ Keeps b c := by
  induction moves with
  | refl => exact ⟨b,hb,.refl b⟩
  | tail _ move ih =>
    obtain ⟨c,hc,kept⟩ := ih
    obtain ⟨e,he,later⟩ := bid_kept (bids_move move) hc
    exact ⟨e,he,kept.trans later⟩

theorem positive_kept {bids after : Table MarketBid.idpk} (h : BidsMove bids after)
    (positive : ∀ b ∈ bids, 0 < b.quantity) : ∀ b ∈ after, 0 < b.quantity := by
  cases h with
  | same => exact positive
  | inserted x free quantity =>
    intro b hb
    rcases Table.mem_insert.mp hb with old | rfl
    · exact positive b old
    · exact quantity
  | stored x c hx kept =>
    intro b hb
    rcases Table.mem_set.mp hb with ⟨old,_⟩ | ⟨rfl,_⟩
    · exact positive b old
    · rw [kept.quantity]
      exact positive x (Table.mem_of_get? hx)
  | swept f hf kept =>
    intro b hb
    obtain ⟨x,hx,rfl⟩ := Table.mem_mapRows.mp hb
    rw [(kept x).quantity]
    exact positive x hx

/-- A weight that no later row of a bid exceeds, and that a new bid does not
have, only falls. -/
theorem sum_kept {bids after : Table MarketBid.idpk} (h : BidsMove bids after)
    {weight : MarketBid → Int} (falls : ∀ b ∈ bids, ∀ c, Keeps b c → weight c ≤ weight b)
    (new : ∀ b, bids.get? b.idpk = none → weight b = 0) : after.sum weight ≤ bids.sum weight := by
  cases h with
  | same => exact le_rfl
  | inserted x free =>
    rw [Table.sum_insert,new x free,add_zero]
  | stored x c hx kept =>
    have moved := Table.sum_set (a := c) (b := x) (kept.idpk ▸ hx) weight
    have := falls x (Table.mem_of_get? hx) c kept
    omega
  | swept f hf kept =>
    rw [Table.sum_mapRows]
    exact List.sum_le_sum fun b hb => falls b hb _ (kept b)

end Moves

namespace AutonomousBuy
open Buying

/-- The kWh of the cycle that the bids in `placed` still stand for. -/
def tally (placed : List String) (cycleId : String) (bids : Table MarketBid.idpk) : Int :=
  bids.sum fun b =>
    if b.idpk ∈ placed ∧ b.direction = .outgoing ∧ b.cycleId = cycleId ∧ b.status.active then
      b.quantity
    else 0

/-- The bids that were placed are stored, and every bid asks for something. -/
structure Tracked (placed : List String) (bids : Table MarketBid.idpk) : Prop where
  positive : ∀ b ∈ bids, 0 < b.quantity
  stored : ∀ k ∈ placed, (bids.get? k).isSome

theorem tracked_move {placed : List String} {bids after : Table MarketBid.idpk}
    (move : BidsMove bids after) (h : Tracked placed bids) :
    Tracked placed after ∧ ∀ cycleId, tally placed cycleId after ≤ tally placed cycleId bids := by
  refine ⟨⟨positive_kept move h.positive,fun k hk => ?_⟩,fun cycleId => ?_⟩
  · obtain ⟨b,hb⟩ := Option.isSome_iff_exists.mp (h.stored k hk)
    obtain ⟨c,hc,_⟩ := bid_kept move hb
    rw [hc]
    rfl
  · refine sum_kept move (fun b hb c kept => ?_) fun b free => ?_
    · have positive := h.positive b hb
      rw [kept.idpk,kept.direction,kept.cycleId,kept.quantity]
      split
      · rename_i counted
        have active := kept.ended BidStatus.active counted.2.1 rfl rfl counted.2.2.2
        rw [if_pos ⟨counted.1,counted.2.1,counted.2.2.1,active⟩]
      · split <;> omega
    · refine if_neg fun counted => ?_
      have stored := h.stored _ counted.1
      rw [free] at stored
      cases stored

theorem tracked_moves {cfg : Config} {P : Market → Cause → Prop} {placed : List String} {d d' : Desk}
    (moves : Moves cfg P d d') (h : Tracked placed d.market.bids) :
    Tracked placed d'.market.bids ∧
      ∀ cycleId, tally placed cycleId d'.market.bids ≤ tally placed cycleId d.market.bids := by
  induction moves with
  | refl => exact ⟨h,fun _ => le_rfl⟩
  | tail _ move ih =>
    obtain ⟨tracked,falls⟩ := tracked_move (bids_move move) ih.1
    exact ⟨tracked,fun cycleId => (falls cycleId).trans (ih.2 cycleId)⟩

/-! ### A turn of the loop -/

/-- A purchase in cents comes out of a legible amount exactly. -/
structure Spent (l l' : Loop) (p : Purchase) : Prop where
  paid : p.cost ≤ l.capacity
  left : l'.capacity = l.capacity - p.cost
  legible : Legible l'.capacity

/-- A turn of the loop that commits has placed the bid `p`, within what the loop
still wants and can pay. -/
structure Bought (db db' : Db) (l l' : Loop) (p : Purchase) : Prop where
  positive : 0 < p.quantity
  wanted : p.quantity ≤ l.remaining
  cost : 0 ≤ p.cost
  spent : 0 ≤ l.capacity → Legible l.capacity → Cents p.price → Spent l l' p
  cycle : p.cycleId = l.cycleId ∧ l'.cycleId = l.cycleId
  remaining : l'.remaining = l.remaining - p.quantity
  bought : l'.bought = p :: l.bought
  free : db.market.bids.get? p.idpk = none
  row : ∃ b free, db'.market.bids = db.market.bids.insert b free ∧ b.idpk = p.idpk ∧
    b.cycleId = p.cycleId ∧ b.quantity = p.quantity ∧ b.direction = .outgoing ∧ b.status = .pending

theorem freshIdpk_free (cfg : Config) (db : Db) : db.market.bids.get? (freshIdpk cfg db) = none := by
  refine Table.get?_eq_none.mpr fun b hb same => ?_
  have drawn := cfg.fresh (db.market.bids.rows.map MarketBid.idpk ++ db.outbox.ids)
  refine drawn (List.mem_append_left _ ?_)
  rw [show cfg.uuid4 _ = b.idpk from same.symm]
  exact List.mem_map_of_mem hb

/-- An order under a fresh idpk repeats nothing. -/
theorem enqueueBuyBid_fresh {cfg : Config} {db : Db} {order : Order} {now : Instant}
    (free : db.market.bids.get? order.idpk = none) :
    (enqueueBuyBid cfg db order now).2 ≠ .duplicate := by
  unfold enqueueBuyBid
  rw [free]
  dsimp only
  split
  · nofun
  split
  · nofun
  split
  · nofun
  split <;> nofun

theorem buyOne_spec {cfg : Config} {db db' : Db} {l l' : Loop} {o : BookOffer}
    (h : buyOne cfg db l o = some (db',l')) :
    ∃ p, Bought db db' l l' p ∧ o.transport.effectivePrice = some p.price := by
  unfold buyOne at h
  split at h
  · cases h
  rename_i quantity price quoted
  dsimp only at h
  split at h
  · cases h
  rename_i next answer taken placed
  cases h
  have free := freshIdpk_free cfg db
  cases answer with
  | refused detail => exact absurd rfl (taken detail)
  | duplicate => exact absurd (congrArg Prod.snd placed) (enqueueBuyBid_fresh free)
  | created =>
    obtain ⟨positive,_,seller,msgId,inserted⟩ := enqueueBuyBid_created placed
    obtain ⟨unused,same⟩ := Table.insert?_eq_some.mp inserted
    obtain ⟨paid,wanted,missing,rfl⟩ := quote_le quoted
    refine ⟨⟨freshIdpk cfg db,l.cycleId,affordable l wanted price,price⟩,?_,quote_price quoted⟩
    exact
      { positive := positive
        wanted := (affordable_le l wanted price).trans missing
        cost := mul_nonneg (Int.cast_nonneg (le_of_lt positive)) paid
        spent := fun funded legible whole => by
          have cost := affordable_paid funded legible paid whole wanted
          obtain ⟨left,again⟩ := legible.less (whole.int_mul _)
            (mul_nonneg (Int.cast_nonneg positive.le) paid) cost
          rw [← left] at again
          exact ⟨cost,left,again⟩
        cycle := ⟨rfl,rfl⟩
        remaining := rfl
        bought := rfl
        free := free
        row := ⟨_,unused,same,rfl,rfl,rfl,rfl,rfl⟩ }

/-- The loop may still buy one of the candidates left. -/
def going (l : Loop) (offers : List BookOffer) : Bool :=
  offers ≠ [] && l.bought.length < maxBids && 0 < l.remaining

/-- The highest price among the candidates. -/
def dearest (offers : List BookOffer) : ℚ :=
  (offers.map fun o => o.transport.effectivePrice.getD 0).foldr max 0

theorem dearest_nonneg (offers : List BookOffer) : 0 ≤ dearest offers := by
  induction offers with
  | nil => exact le_rfl
  | cons o offers ih => exact le_max_of_le_right ih

theorem le_dearest {o : BookOffer} {offers : List BookOffer} (mem : o ∈ offers) :
    o.transport.effectivePrice.getD 0 ≤ dearest offers := by
  induction offers with
  | nil => cases mem
  | cons first offers ih =>
    rcases List.mem_cons.mp mem with rfl | later
    · exact le_max_left _ _
    · exact le_max_of_le_right (ih later)

theorem dearest_mono {rest offers : List BookOffer} (fewer : rest ⊆ offers) :
    dearest rest ≤ dearest offers := by
  induction rest with
  | nil => exact dearest_nonneg offers
  | cons o rest ih =>
    rw [List.cons_subset] at fewer
    exact max_le (le_dearest fewer.1) (ih fewer.2)

/-- A purchase from the candidates, and those that are left. -/
structure Chosen (offers rest : List BookOffer) (p : Purchase) : Prop where
  offer : ∃ o ∈ offers, o.transport.effectivePrice = some p.price
  fewer : rest ⊆ offers

theorem Chosen.price {offers rest : List BookOffer} {p : Purchase} (h : Chosen offers rest p) :
    p.price ≤ dearest offers := by
  obtain ⟨o,mem,own⟩ := h.offer
  have le := le_dearest mem
  rw [own] at le
  exact le

theorem advance_spec {cfg : Config} {db db' : Db} {l l' : Loop} {offers rest : List BookOffer}
    (h : advance cfg db l offers = some (db',l',rest)) : going l offers ∧
      ∃ p, Bought db db' l l' p ∧ Chosen offers rest p := by
  induction offers with
  | nil => cases h
  | cons o offers ih =>
    unfold advance at h
    split at h
    · cases h
    rename_i on
    rw [not_or,not_le,not_le] at on
    have goes : going l (o :: offers) := by simp [going,on]
    refine ⟨goes,?_⟩
    split at h
    · rename_i found
      cases h
      obtain ⟨p,bought,price⟩ := buyOne_spec found
      exact ⟨p,bought,⟨o,List.mem_cons_self ..,price⟩,List.subset_cons_self ..⟩
    · obtain ⟨_,p,bought,⟨x,mem,price⟩,fewer⟩ := ih h
      exact ⟨p,bought,⟨x,List.mem_cons_of_mem _ mem,price⟩,List.subset_cons_of_subset _ fewer⟩

/-- A purchase adds its own quantity to its own cycle. -/
theorem tally_bought {db db' : Db} {l l' : Loop} {p : Purchase} {placed : List String}
    (h : Bought db db' l l' p) (cycleId : String) :
    tally (p.idpk :: placed) cycleId db'.market.bids = tally placed cycleId db.market.bids +
      if p.cycleId = cycleId then p.quantity else 0 := by
  obtain ⟨b,free,same,idpk,cycle,quantity,outgoing,pending⟩ := h.row
  unfold tally
  rw [same,Table.sum_insert]
  congr 1
  · refine Table.sum_congr fun x hx => ?_
    have other : x.idpk ≠ p.idpk := Table.get?_eq_none.mp h.free x hx
    simp only [List.mem_cons,other,false_or]
  · simp [idpk,cycle,quantity,outgoing,pending,BidStatus.active]

theorem Bought.tracked {db db' : Db} {l l' : Loop} {p : Purchase} {placed : List String}
    (h : Bought db db' l l' p) (tracked : Tracked placed db.market.bids) :
    Tracked (p.idpk :: placed) db'.market.bids := by
  obtain ⟨b,free,same,idpk,_,quantity,_⟩ := h.row
  rw [same]
  refine ⟨fun x hx => ?_,fun k hk => ?_⟩
  · rcases Table.mem_insert.mp hx with old | rfl
    · exact tracked.positive x old
    · rw [quantity]
      exact h.positive
  · rw [Table.get?_insert,idpk]
    split
    · rfl
    · rename_i other
      rcases List.mem_cons.mp hk with rfl | old
      · exact absurd rfl other
      · exact tracked.stored k old

/-- What is placed for a cycle is part of its active bids. -/
theorem tally_le_active {placed : List String} {market : Market} (h : Tracked placed market.bids)
    (cycleId : String) :
    tally placed cycleId market.bids ≤ ((activeBids market cycleId).map MarketBid.quantity).sum := by
  have all : ∀ b ∈ market.bids.rows, 0 < b.quantity := h.positive
  unfold tally Table.sum activeBids
  generalize market.bids.rows = rows at all
  induction rows with
  | nil => rfl
  | cons b rows ih =>
    have rest := ih fun x hx => all x (List.mem_cons_of_mem _ hx)
    have positive := all b (List.mem_cons_self ..)
    rw [List.map_cons,List.sum_cons,List.filter_cons]
    split
    · rename_i counted
      have active : (b.cycleId = cycleId && b.direction = .outgoing && b.status.active) = true := by
        simp [counted.2.1,counted.2.2.1,counted.2.2.2]
      rw [if_pos active,List.map_cons,List.sum_cons]
      omega
    · split
      · rw [List.map_cons,List.sum_cons]
        omega
      · omega

end AutonomousBuy

end EnergyNode
