import EnergyNode.BuyReplicas

/-! The capacity of the wallet over many ticks, one at a time. A tick counts what
it bids itself and waits for the bids of its cycle that have no answer; the other
earlier bids it sees only as far as the balance shows them. -/
namespace EnergyNode
open Lib AutonomousBuy Buying BuyReplicas

namespace BuyCapacity

/-- What a balance has to spend, never below zero. -/
def funds (b : Balance) : ℚ := max 0 (amount b.crAvailable + amount b.creditLine)

def live (db : Db) (idpk : String) : Bool :=
  (db.market.bids.get? idpk).any fun b => b.status.outstanding

/-- What a bid may still cost beyond a balance that shows `reflected`. -/
def due (db : Db) (reflected : List String) (p : Purchase) : ℚ :=
  if live db p.idpk && p.idpk ∉ reflected then p.cost else 0

def owed (w : World Unit) (reflected : List String) : ℚ :=
  (w.purchases.map (due w.db reflected)).sum

/-- After a tick, what is owed beyond the balance it read fits into that balance. -/
def Covered (w : World Unit) : Prop :=
  ∀ reading, w.read () = some reading → w.replicas () = .idle →
    owed w reading.reflected ≤ funds reading.balance

/-- A bid of the cycle waits for its answer, which keeps the tick from buying. -/
def waiting (db : Db) (cycleId idpk : String) : Bool :=
  (db.market.bids.get? idpk).any fun b => b.cycleId = cycleId && b.status = .pending

/-- What the tick of a cycle has no sign of: neither the balance shows it nor does
its bid keep the tick from buying. -/
def unseen (w : World Unit) (cycleId : String) (reflected : List String) : ℚ :=
  (w.purchases.map fun p => if waiting w.db cycleId p.idpk then 0 else due w.db reflected p).sum

/-- The kWh that no active bid of the cycle stands for. -/
def missing (plan : Plan) (market : Market) : Int :=
  plan.deficit - ((activeBids market plan.cycleId).map MarketBid.quantity).sum

/-- What the tick has no sign of is nothing, or the balance has room for it beside
the missing kWh at the dearest price listed. -/
def Room (w : World Unit) (plan : Plan) (reading : Reading) : Prop :=
  unseen w plan.cycleId reading.reflected = 0 ∨
    unseen w plan.cycleId reading.reflected +
      missing plan w.db.market * dearest plan.candidates ≤ funds reading.balance

/-- What the wallet took off for bids that it did not show `before`. -/
def shownSince (w : World Unit) (before after : List String) : ℚ :=
  (w.purchases.map fun p =>
    if live w.db p.idpk && p.idpk ∈ after && p.idpk ∉ before then p.cost else 0).sum

/-- From one balance to the next: a hold or a debit stays, and the funds fall
by no more than the bids newly taken off. -/
structure Continues (w : World Unit) (before after : Reading) : Prop where
  kept : ∀ p ∈ w.purchases, live w.db p.idpk → p.idpk ∈ before.reflected → p.idpk ∈ after.reflected
  falls : funds before.balance ≤
    funds after.balance + shownSince w before.reflected after.reflected

/-- The balance a tick reads continues the one before while a bid is owed beyond
it, and a tick that comes to buy has room for what it has no sign of, in a balance
whose digits the context keeps. -/
def Shown (env : Env) (w : World Unit) : Turn Unit → Prop
  | .look _ cycleId now (some reading) =>
      (look env.cfg w.db cycleId now (some reading.balance)).isSome →
        (∃ p ∈ w.purchases, live w.db p.idpk ∧ p.idpk ∉ reading.reflected) →
          ∀ before ∈ w.read (), Continues w before reading
  | .lock _ =>
      match w.replicas (), w.read () with
      | .looked plan, some reading => (opening plan w.db.market).isSome →
          Room w plan reading ∧ Legible (funds reading.balance)
      | _, _ => True
  | _ => True

instance {w : World Unit} {before after : Reading} : Decidable (Continues w before after) :=
  decidable_of_iff ((∀ p ∈ w.purchases,
      live w.db p.idpk → p.idpk ∈ before.reflected → p.idpk ∈ after.reflected) ∧
    funds before.balance ≤ funds after.balance + shownSince w before.reflected after.reflected)
    ⟨fun h => ⟨h.1,h.2⟩,fun h => ⟨h.kept,h.falls⟩⟩

instance {w : World Unit} {plan : Plan} {reading : Reading} : Decidable (Room w plan reading) := by
  unfold Room
  infer_instance

instance (env : Env) (w : World Unit) : ∀ t, Decidable (Shown env w t)
  | .look _ _ _ (some _) => by
      unfold Shown
      infer_instance
  | .lock _ => by
      unfold Shown
      dsimp only
      split <;> infer_instance
  | .look _ _ _ none | .node _ | .next _ | .stop _ => inferInstanceAs (Decidable True)

/-- What the loop may still spend: what it has, on what it wants. -/
def spendable (l : Loop) (offers : List BookOffer) : ℚ :=
  min l.capacity (l.remaining * dearest offers)

/-- What a running tick may still spend is left of its balance. -/
structure Paid (w : World Unit) : Prop where
  recorded : ∀ p ∈ w.purchases, 0 ≤ p.cost ∧
    ∃ b, w.db.market.bids.get? p.idpk = some b ∧ b.direction = .outgoing
  read : w.purchases ≠ [] → (w.read ()).isSome
  looked : ∀ plan, w.replicas () = .looked plan → ∃ reading, w.read () = some reading ∧
    plan.capacity = capacity reading.balance ∧ Priced plan.candidates ∧
      owed w reading.reflected ≤ funds reading.balance
  buying : ∀ l offers, w.replicas () = .buying l offers → ∃ reading, w.read () = some reading ∧
    0 ≤ l.capacity ∧ 0 ≤ l.remaining ∧ Legible l.capacity ∧ Priced offers ∧
      owed w reading.reflected + spendable l offers ≤ funds reading.balance
  covered : Covered w

section Steps
variable {cfg : Config} {w : World Unit}

@[simp] theorem entered (w : World Unit) (i : Unit) (stage : Stage) :
    (w.enter i stage).replicas () = stage := rfl

theorem funds_nonneg (b : Balance) : 0 ≤ funds b := le_max_left _ _

/-- The context adds a legible balance exactly. -/
theorem capacity_eq {b : Balance} (legible : Legible (funds b)) : capacity b = funds b := by
  unfold capacity
  rcases le_total 0 (amount b.crAvailable + amount b.creditLine) with some_ | none
  · have whole : funds b = amount b.crAvailable + amount b.creditLine := max_eq_right some_
    rw [whole] at legible ⊢
    rw [legible.kept,max_eq_right some_]
  · rw [max_eq_left (keep_nonpos none)]
    exact (max_eq_left none).symm

theorem spendable_nonneg {l : Loop} (funded : 0 ≤ l.capacity) (wanted : 0 ≤ l.remaining)
    (offers : List BookOffer) : 0 ≤ spendable l offers :=
  le_min funded (mul_nonneg (Int.cast_nonneg wanted) (dearest_nonneg offers))

/-- A purchase comes out of what the loop may spend. -/
theorem spendable_bought {db db' : Db} {l l' : Loop} {p : Purchase} {offers rest : List BookOffer}
    (bought : Bought db db' l l' p) (spent : Spent l l' p) (chosen : Chosen offers rest p) :
    p.cost + spendable l' rest ≤ spendable l offers := by
  have wanted : (0 : ℚ) ≤ l.remaining - p.quantity := by
    exact_mod_cast sub_nonneg.mpr bought.wanted
  have quantity : (0 : ℚ) ≤ p.quantity := by exact_mod_cast bought.positive.le
  refine le_min ?_ ?_
  · calc p.cost + spendable l' rest ≤ p.cost + l'.capacity := add_le_add_right (min_le_left _ _) _
      _ = l.capacity := by rw [spent.left,add_sub_cancel]
  · calc p.cost + spendable l' rest ≤ p.cost + l'.remaining * dearest rest :=
          add_le_add_right (min_le_right _ _) _
      _ = p.quantity * p.price + (l.remaining - p.quantity) * dearest rest := by
          rw [bought.remaining,Int.cast_sub,Purchase.cost]
      _ ≤ p.quantity * dearest offers + (l.remaining - p.quantity) * dearest offers :=
          add_le_add (mul_le_mul_of_nonneg_left chosen.price quantity)
            (mul_le_mul_of_nonneg_left (dearest_mono chosen.fewer) wanted)
      _ = l.remaining * dearest offers := by ring

theorem due_nonneg {db : Db} {reflected : List String} {p : Purchase} (cost : 0 ≤ p.cost) :
    0 ≤ due db reflected p ∧ due db reflected p ≤ p.cost := by
  unfold due
  split
  · exact ⟨cost,le_rfl⟩
  · exact ⟨le_rfl,cost⟩

/-- An answer or an expiry only takes bids off what is owed. -/
theorem owed_falls {P : Market → Cause → Prop} {db : Db} (moves : Moves cfg P w.db.desk db.desk)
    (recorded : ∀ p ∈ w.purchases, 0 ≤ p.cost ∧
      ∃ b, w.db.market.bids.get? p.idpk = some b ∧ b.direction = .outgoing)
    (reflected : List String) : owed { w with db := db } reflected ≤ owed w reflected := by
  refine List.sum_le_sum fun p hp => ?_
  obtain ⟨cost,b,hb,out⟩ := recorded p hp
  obtain ⟨c,hc,kept⟩ := bid_lasts moves hb
  have hc : db.market.bids.get? p.idpk = some c := hc
  unfold due live
  rw [hc,hb,Option.any_some,Option.any_some]
  split
  · rename_i still
    rw [Bool.and_eq_true] at still
    have before := kept.ended BidStatus.outstanding out rfl rfl still.1
    rw [if_pos (by rw [before,still.2]; rfl)]
  · exact (due_nonneg cost).1.trans_eq (by unfold due live; rw [hb,Option.any_some])

/-- A purchase adds its own cost to what is owed. -/
theorem owed_bought {db : Db} {l l' : Loop} {p : Purchase} (bought : Bought w.db db l l' p)
    (recorded : ∀ q ∈ w.purchases, 0 ≤ q.cost ∧
      ∃ b, w.db.market.bids.get? q.idpk = some b ∧ b.direction = .outgoing)
    (i : Unit) (rest : List BookOffer) (reflected : List String) :
    owed { w.enter i (.buying l' rest) with db := db, purchases := p :: w.purchases } reflected ≤
      p.cost + owed w reflected := by
  obtain ⟨b,free,same,idpk,_⟩ := bought.row
  have earlier : ∀ q ∈ w.purchases, due db reflected q = due w.db reflected q := by
    intro q hq
    obtain ⟨_,x,hx,_⟩ := recorded q hq
    have kept : db.market.bids.get? q.idpk = w.db.market.bids.get? q.idpk := by
      rw [same,Table.get?_insert,if_neg]
      rw [idpk]
      intro e
      have unused := bought.free
      rw [e,hx] at unused
      cases unused
    unfold due live
    rw [kept]
  show due db reflected p + (w.purchases.map (due db reflected)).sum ≤ _
  rw [List.map_congr_left earlier]
  exact add_le_add (due_nonneg bought.cost).2 le_rfl

theorem recorded_bought {db : Db} {l l' : Loop} {p : Purchase} (bought : Bought w.db db l l' p)
    (recorded : ∀ q ∈ w.purchases, 0 ≤ q.cost ∧
      ∃ b, w.db.market.bids.get? q.idpk = some b ∧ b.direction = .outgoing) :
    ∀ q ∈ p :: w.purchases, 0 ≤ q.cost ∧
      ∃ b, db.market.bids.get? q.idpk = some b ∧ b.direction = .outgoing := by
  obtain ⟨b,free,same,idpk,_,_,outgoing,_⟩ := bought.row
  intro q hq
  rw [same]
  rcases List.mem_cons.mp hq with rfl | old
  · exact ⟨bought.cost,b,by rw [Table.get?_insert,if_pos idpk],outgoing⟩
  · obtain ⟨cost,x,hx,out⟩ := recorded q old
    refine ⟨cost,x,?_,out⟩
    rw [Table.get?_insert,if_neg]
    · exact hx
    · rintro e
      rw [← e,free] at hx
      cases hx

/-- What a balance newly shows is no longer owed beyond it. -/
theorem Continues.owed {before after : Reading} (h : Continues w before after) :
    owed w after.reflected + shownSince w before.reflected after.reflected =
      BuyCapacity.owed w before.reflected := by
  unfold BuyCapacity.owed shownSince
  rw [← List.sum_map_add]
  congr 1
  refine List.map_congr_left fun p hp => ?_
  have kept := h.kept p hp
  unfold due
  by_cases on : live w.db p.idpk <;> by_cases old : p.idpk ∈ before.reflected <;>
    by_cases new : p.idpk ∈ after.reflected <;> simp_all

/-- Where nothing of the cycle waits, the tick has no sign of anything owed. -/
theorem unseen_opening {plan : Plan} {l : Loop} (opened : opening plan w.db.market = some l)
    (recorded : ∀ p ∈ w.purchases, 0 ≤ p.cost ∧
      ∃ b, w.db.market.bids.get? p.idpk = some b ∧ b.direction = .outgoing)
    (reflected : List String) : unseen w plan.cycleId reflected = owed w reflected := by
  unfold unseen owed
  congr 1
  refine List.map_congr_left fun p hp => if_neg fun waits => ?_
  obtain ⟨_,b,hb,out⟩ := recorded p hp
  unfold waiting at waits
  rw [hb,Option.any_some,Bool.and_eq_true,decide_eq_true_eq,decide_eq_true_eq] at waits
  have pending : (activeBids w.db.market plan.cycleId).any fun b => b.status = .pending := by
    refine List.any_eq_true.mpr ⟨b,List.mem_filter.mpr ⟨Table.mem_of_get? hb,?_⟩,by simp [waits.2]⟩
    simp [waits.1,waits.2,out,BidStatus.active]
  unfold opening at opened
  rw [if_pos pending] at opened
  cases opened

/-- A tick that ends keeps what its balance covers. -/
theorem Paid.ended (h : Paid w) (i : Unit)
    (covers : ∀ reading, w.read () = some reading →
      owed w reading.reflected ≤ funds reading.balance) : Paid (w.enter i .idle) where
  recorded := h.recorded
  read := h.read
  looked plan hp := by
    rw [entered] at hp
    cases hp
  buying l offers hl := by
    rw [entered] at hl
    cases hl
  covered reading read _ := covers reading read

theorem Paid.turn (h : Paid w) (i : Unit) {l : Loop} {offers : List BookOffer} {reading : Reading}
    (read : w.read () = some reading) (funded : 0 ≤ l.capacity) (wanted : 0 ≤ l.remaining)
    (legible : Legible l.capacity) (priced : Priced offers)
    (left : owed w reading.reflected + spendable l offers ≤ funds reading.balance) :
    Paid (turn cfg w i l offers) := by
  rcases turn_cases cfg w i l offers with ended | ⟨db,l',rest,p,_,bought,chosen,same⟩
  · rw [ended]
    refine h.ended i fun other hother => ?_
    cases read.symm.trans hother
    have := spendable_nonneg funded wanted offers
    linarith
  · rw [same]
    have cost := owed_bought bought h.recorded i rest reading.reflected
    obtain ⟨o,mem,price⟩ := chosen.offer
    have spent := bought.spent funded legible (priced o mem p.price price)
    have paid := spent.paid
    have less := spendable_bought bought spent chosen
    have quantity := bought.wanted
    exact
      { recorded := recorded_bought bought h.recorded
        read := fun _ => Option.isSome_iff_exists.mpr ⟨reading,read⟩
        looked := by
          intro plan hp
          rw [entered] at hp
          cases hp
        buying := by
          intro l'' offers' hl
          rw [entered] at hl
          cases hl
          refine ⟨reading,read,?_,?_,spent.legible,fun x hx => priced x (chosen.fewer hx),?_⟩
          · rw [spent.left]
            linarith
          · rw [bought.remaining]
            omega
          · linarith
        covered := by
          intro other _ idle
          rw [entered] at idle
          cases idle }

/-- What is owed is covered at every stage. -/
theorem Paid.now {w : World Unit} (h : Paid w) (reading : Reading) (read : w.read () = some reading) :
    owed w reading.reflected ≤ funds reading.balance := by
  cases hp : w.replicas () with
  | idle => exact h.covered reading read hp
  | looked plan =>
    obtain ⟨other,hother,_,_,covers⟩ := h.looked plan hp
    cases read.symm.trans hother
    exact covers
  | buying l offers =>
    obtain ⟨other,hother,funded,wanted,_,_,left⟩ := h.buying l offers hp
    cases read.symm.trans hother
    have := spendable_nonneg funded wanted offers
    linarith

/-- A balance that continues the last one covers what is owed beyond it. -/
theorem Paid.looks {w : World Unit} (h : Paid w) (reading : Reading)
    (continues : (∃ p ∈ w.purchases, live w.db p.idpk ∧ p.idpk ∉ reading.reflected) →
      ∀ before ∈ w.read (), Continues w before reading) :
    owed w reading.reflected ≤ funds reading.balance := by
  by_cases hidden : ∃ p ∈ w.purchases, live w.db p.idpk ∧ p.idpk ∉ reading.reflected
  · have ⟨p,hp,_⟩ := hidden
    obtain ⟨before,read⟩ := Option.isSome_iff_exists.mp (h.read (List.ne_nil_of_mem hp))
    have next := continues hidden before read
    have covers := h.now before read
    have falls := next.falls
    have same := next.owed
    linarith
  · have nothing : owed w reading.reflected = 0 := by
      refine List.sum_eq_zero fun x hx => ?_
      obtain ⟨p,hp,rfl⟩ := List.mem_map.mp hx
      refine if_neg fun on => hidden ⟨p,hp,?_⟩
      rw [Bool.and_eq_true,decide_eq_true_eq] at on
      exact on
    rw [nothing]
    exact funds_nonneg _

/-- The node alone never owes more. -/
theorem Paid.node (env : Env) {w : World Unit} (h : Paid w) (a : Node.Action) :
    Paid (step env w (.node a)) := by
  have falls := owed_falls (Node.step_moves env w.db a) h.recorded
  exact
    { recorded := by
        intro p hp
        obtain ⟨cost,b,hb,out⟩ := h.recorded p hp
        obtain ⟨c,hc,kept⟩ := bid_lasts (Node.step_moves env w.db a) hb
        exact ⟨cost,c,hc,kept.direction.trans out⟩
      read := h.read
      looked := by
        intro plan hp
        obtain ⟨reading,read,funded,priced,covers⟩ := h.looked plan hp
        exact ⟨reading,read,funded,priced,(falls reading.reflected).trans covers⟩
      buying := by
        intro l offers hl
        obtain ⟨reading,read,funded,wanted,legible,priced,left⟩ := h.buying l offers hl
        exact ⟨reading,read,funded,wanted,legible,priced,
          (add_le_add_left (falls reading.reflected) _).trans left⟩
      covered := fun reading read idle =>
        (falls reading.reflected).trans (h.covered reading read idle) }

/-- A tick that comes to buy in a legible balance with room for what it has no sign of. -/
theorem Paid.opens {w : World Unit} (h : Paid w) (i : Unit) {plan : Plan} {l : Loop} {reading : Reading}
    (looked : w.replicas () = .looked plan) (read : w.read () = some reading)
    (opened : opening plan w.db.market = some l) (room : Room w plan reading)
    (legible : Legible (funds reading.balance)) : Paid (BuyReplicas.turn cfg w i l plan.candidates) := by
  obtain ⟨other,hother,spends,priced,_⟩ := h.looked plan looked
  cases read.symm.trans hother
  obtain ⟨_,_,capacity_,remaining⟩ := opening_spec opened
  have whole : l.capacity = funds reading.balance :=
    capacity_.trans (spends.trans (capacity_eq legible))
  unfold Room at room
  rw [unseen_opening opened h.recorded] at room
  refine h.turn i read ?_ (opening_positive opened).le ?_ priced ?_
  · rw [whole]
    exact funds_nonneg _
  · rw [whole]
    exact legible
  · unfold spendable
    rw [whole,remaining]
    rcases room with nothing | fits
    · rw [nothing,zero_add]
      exact min_le_left _ _
    · exact (add_le_add_right (min_le_right _ _) _).trans fits

theorem paid_step (env : Env) {w : World Unit} (t : Turn Unit) (h : Paid w) (shown : Shown env w t) :
    Paid (step env w t) := by
  cases t with
  | node a => exact h.node env a
  | look i cycleId moment reading =>
    unfold step
    dsimp only
    split
    · exact h.ended i h.now
    · rename_i plan found
      obtain ⟨priced,balance,hb,spends⟩ := look_spec found
      obtain ⟨reading,rfl,rfl⟩ := Option.map_eq_some_iff.mp hb
      have covers := h.looks reading (shown (by rw [Option.map_some] at found; rw [found]; rfl))
      exact
        { recorded := h.recorded
          read := fun _ => rfl
          looked := by
            intro plan' hp
            cases hp
            exact ⟨reading,rfl,spends,priced,covers⟩
          buying := by
            intro l offers hl
            cases hl
          covered := by
            intro _ _ idle
            cases idle }
  | lock i =>
    unfold step
    dsimp only
    split
    · rename_i plan looked
      split
      · exact h.ended i h.now
      · rename_i l opened
        obtain ⟨reading,read,_⟩ := h.looked plan looked
        unfold Shown at shown
        dsimp only at shown
        rw [looked,read] at shown
        obtain ⟨room,legible⟩ := shown (opened ▸ rfl)
        exact h.opens i looked read opened room legible
    · exact h
  | next i =>
    unfold step
    dsimp only
    split
    · rename_i l offers hl
      obtain ⟨reading,read,funded,wanted,legible,priced,left⟩ := h.buying l offers hl
      exact h.turn i read funded wanted legible priced left
    · exact h
  | stop i => exact h.ended i h.now

end Steps

/-- In every run in which the wallet's balances continue one another and each tick
that buys has room for the bids it has no sign of, every tick stays within its balance. -/
theorem capacity_respected (env : Env) (db : Db) (run : List (Turn Unit))
    (shown : Along (step env) (Shown env) { db := db } run) :
    Always (step env) Covered { db := db } run := by
  have start : Paid ({ db := db } : World Unit) := ⟨nofun,fun h => absurd rfl h,nofun,nofun,nofun⟩
  exact (always_of_step (fun w t h ok => paid_step env t h ok) start shown).mono fun _ h => h.covered

/-- A tick of cycle C1 with 100 credits, of which `reflected` are already taken off. -/
def ticked (reflected : List String) : List (Turn Unit) :=
  [.look () "C1" (seconds 63) (some ⟨⟨.finite 100,.finite 0⟩,reflected⟩),.lock (),.next ()]

def firstBid : String := "40000000-0000-0000-0000-000000000001"

/-- Two offers of 50 kWh at 2 credits; a tick buys the first, and its seller agrees.
Then comes another tick. -/
def twoTicks (reflected : List String) : List (Turn Unit) :=
  [.node (offered "o11" "o12" "BBB" "BBB-C1" 50 2),.node (offered "o13" "o14" "CCC" "CCC-C1" 50 2),
    .node routes] ++ ticked [] ++
    [.node (agreed "o15" "o16" "BBB" "40000000-0000-0000-0000-000000000002" "BBB-C1" 50 2)] ++
    ticked reflected

theorem capacity_respected_shown :
    let w := Lib.run (step buyers) { db := short } (twoTicks [firstBid])
    w.purchases.map Purchase.cost = [100,100] ∧
      Always (step buyers) Covered { db := short } (twoTicks [firstBid]) :=
  ⟨by decide +kernel,capacity_respected buyers short (twoTicks [firstBid]) (by decide +kernel)⟩

/-- The second tick reads the same balance: 200 credits are owed out of 100. -/
theorem capacity_spent_twice :
    let w := Lib.run (step buyers) { db := short } (twoTicks [])
    owed w [] = 200 ∧ w.read () = some ⟨⟨.finite 100,.finite 0⟩,[]⟩ ∧
      ¬ Always (step buyers) Covered { db := short } (twoTicks []) := by
  intro w
  have total : owed w [] = 200 := by decide +kernel
  have balance : w.read () = some ⟨⟨.finite 100,.finite 0⟩,[]⟩ := by
    decide +kernel
  have idle : w.replicas () = .idle := by decide +kernel
  refine ⟨total,balance,fun always => ?_⟩
  have last : Covered w := always.final
  have covers := last _ balance idle
  have limit : funds ⟨.finite 100,.finite 0⟩ = 100 := by decide +kernel
  rw [total,limit] at covers
  exact absurd covers (by decide)

end BuyCapacity

end EnergyNode
