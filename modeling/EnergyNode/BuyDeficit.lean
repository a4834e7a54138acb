import EnergyNode.BuyReplicas

/-! The deficit and the replicas: every replica ticks on its own, and the city
lock is free between two purchases of a tick. -/
namespace EnergyNode
open Lib AutonomousBuy Buying BuyReplicas

namespace BuyDeficit

variable {ι : Type} [DecidableEq ι]

/-- The active bids of the ticks stay within a deficit computed for their cycle. -/
def Within (w : World ι) : Prop :=
  ∀ cycleId, 0 < tally w.placed cycleId w.db.market.bids →
    ∃ deficit, (cycleId,deficit) ∈ w.computed ∧ tally w.placed cycleId w.db.market.bids ≤ deficit

/-- The replica is between two purchases in the cycle. -/
def busy (w : World ι) (i : ι) (cycleId : String) : Bool :=
  match w.replicas i with
  | .buying l offers => l.cycleId = cycleId && going l offers
  | _ => false

/-- Nobody decides to buy in a cycle while another replica is between two of its
purchases there. -/
def Serial (w : World ι) : Turn ι → Prop
  | .lock i =>
      match w.replicas i with
      | .looked plan =>
          (opening plan w.db.market).isSome → ∀ j, j ≠ i → busy w j plan.cycleId = false
      | _ => True
  | _ => True

instance [Fintype ι] (w : World ι) : ∀ t, Decidable (Serial w t)
  | .lock i => by
      unfold Serial
      dsimp only
      split <;> infer_instance
  | .node _ | .look _ _ _ _ | .next _ | .stop _ => inferInstanceAs (Decidable True)

/-- What may still be bought for a cycle: by the replica that is buying there. -/
structure Held (w : World ι) : Prop where
  tracked : Tracked w.placed w.db.market.bids
  within : Within w
  planned : ∀ i plan, w.replicas i = .looked plan → (plan.cycleId,plan.deficit) ∈ w.computed
  buying : ∀ i l offers, w.replicas i = .buying l offers → going l offers →
    ∃ deficit, (l.cycleId,deficit) ∈ w.computed ∧
      tally w.placed l.cycleId w.db.market.bids + l.remaining ≤ deficit
  alone : ∀ i j l offers l' offers', w.replicas i = .buying l offers → going l offers →
    w.replicas j = .buying l' offers' → going l' offers' → l.cycleId = l'.cycleId → i = j

section Steps
variable {cfg : Config} {w : World ι}

/-- A replica that does not come to buy leaves everything as it was. -/
theorem Held.enter (h : Held w) (i : ι) {stage : Stage} (still : ∀ l offers, stage ≠ .buying l offers)
    (planned : ∀ plan, stage = .looked plan → (plan.cycleId,plan.deficit) ∈ w.computed) :
    Held (w.enter i stage) where
  tracked := h.tracked
  within := h.within
  planned j plan hj := by
    rw [replicas_enter] at hj
    split at hj
    · exact planned plan hj
    · exact h.planned j plan hj
  buying j l offers hj := by
    rw [replicas_enter] at hj
    split at hj
    · exact absurd hj (still l offers)
    · exact h.buying j l offers hj
  alone j k l offers l' offers' hj goes hk goes' same := by
    rw [replicas_enter] at hj hk
    split at hj
    · exact absurd hj (still l offers)
    split at hk
    · exact absurd hk (still l' offers')
    exact h.alone j k l offers l' offers' hj goes hk goes' same

theorem Held.idle (h : Held w) (i : ι) : Held (w.enter i .idle) := h.enter i nofun nofun

/-- The loop of `i` buys: nobody else does in its cycle, and what it still wants
is left of a deficit. -/
theorem Held.turn (h : Held w) {i : ι} {l : Loop} {offers : List BookOffer}
    (alone : going l offers → ∀ j, j ≠ i → ∀ l' offers', w.replicas j = .buying l' offers' →
      l'.cycleId = l.cycleId → going l' offers' = false)
    (left : going l offers → ∃ deficit, (l.cycleId,deficit) ∈ w.computed ∧
      tally w.placed l.cycleId w.db.market.bids + l.remaining ≤ deficit) :
    Held (turn cfg w i l offers) := by
  rcases turn_cases cfg w i l offers with ended | ⟨db,l₁,rest,p,goes,bought,_,same⟩
  · rw [ended]
    exact h.idle i
  rw [same]
  have alone := alone goes
  obtain ⟨deficit,computed,left⟩ := left goes
  have tally (cycleId : String) := @tally_bought _ _ _ _ _ w.placed bought cycleId
  have other {cycleId : String} (ne : l.cycleId ≠ cycleId) :
      AutonomousBuy.tally (p.idpk :: w.placed) cycleId db.market.bids =
        AutonomousBuy.tally w.placed cycleId w.db.market.bids := by
    rw [tally,if_neg fun e => ne (bought.cycle.1.symm.trans e),add_zero]
  have own : AutonomousBuy.tally (p.idpk :: w.placed) l.cycleId db.market.bids =
      AutonomousBuy.tally w.placed l.cycleId w.db.market.bids + p.quantity := by
    rw [tally,if_pos bought.cycle.1]
  have wanted := bought.wanted
  have remaining := bought.remaining
  exact
    { tracked := bought.tracked h.tracked
      within := by
        intro cycleId some
        by_cases same : l.cycleId = cycleId
        · subst same
          refine ⟨deficit,computed,?_⟩
          show AutonomousBuy.tally (p.idpk :: w.placed) l.cycleId db.market.bids ≤ deficit
          omega
        · have here : 0 < AutonomousBuy.tally (p.idpk :: w.placed) cycleId db.market.bids := some
          rw [other same] at here
          obtain ⟨d,hd,fits⟩ := h.within cycleId here
          exact ⟨d,hd,(other same).trans_le fits⟩
      planned := by
        intro j plan hj
        rw [replicas_enter] at hj
        split at hj
        · cases hj
        · exact h.planned j plan hj
      buying := by
        intro j l' offers' hj goes'
        rw [replicas_enter] at hj
        split at hj
        · cases hj
          rw [bought.cycle.2]
          refine ⟨deficit,computed,?_⟩
          show AutonomousBuy.tally (p.idpk :: w.placed) l.cycleId db.market.bids + _ ≤ deficit
          omega
        · rename_i ne
          have ne' : l.cycleId ≠ l'.cycleId := by
            intro same
            rw [alone j ne l' offers' hj same.symm] at goes'
            cases goes'
          obtain ⟨d,hd,fits⟩ := h.buying j l' offers' hj goes'
          refine ⟨d,hd,?_⟩
          show AutonomousBuy.tally (p.idpk :: w.placed) l'.cycleId db.market.bids + _ ≤ d
          rw [other ne']
          exact fits
      alone := by
        intro j k l' offers' l'' offers'' hj goesj hk goesk same
        rw [replicas_enter] at hj hk
        split at hj <;> rename_i hji <;> split at hk <;> rename_i hki
        · rw [hji,hki]
        · cases hj
          have stopped := alone k hki l'' offers'' hk (same.symm.trans bought.cycle.2)
          rw [stopped] at goesk
          cases goesk
        · cases hk
          have stopped := alone j hji l' offers' hj (same.trans bought.cycle.2)
          rw [stopped] at goesj
          cases goesj
        · exact h.alone j k l' offers' l'' offers'' hj goesj hk goesk same }

/-- The node alone buys no more. -/
theorem Held.node (env : Env) (h : Held w) (a : Node.Action) : Held (step env w (.node a)) := by
  obtain ⟨tracked,falls⟩ := tracked_moves (Node.step_moves env w.db a) h.tracked
  exact
    { tracked := tracked
      within := by
        intro cycleId some
        have fall := falls cycleId
        obtain ⟨d,hd,fits⟩ := h.within cycleId (lt_of_lt_of_le some fall)
        exact ⟨d,hd,fall.trans fits⟩
      planned := h.planned
      buying := by
        intro i l offers hi goes
        obtain ⟨d,hd,fits⟩ := h.buying i l offers hi goes
        exact ⟨d,hd,(Int.add_le_add_right (falls l.cycleId) _).trans fits⟩
      alone := h.alone }

omit [DecidableEq ι] in
/-- A deficit more among the computed ones. -/
theorem Held.wider (h : Held w) (own : String × Int) (read : ι → Option Reading) :
    Held { w with computed := own :: w.computed, read := read } where
  tracked := h.tracked
  alone := h.alone
  within := by
    intro cycleId some
    obtain ⟨d,hd,fits⟩ := h.within cycleId some
    exact ⟨d,List.mem_cons_of_mem _ hd,fits⟩
  planned := fun i plan hi => List.mem_cons_of_mem _ (h.planned i plan hi)
  buying := by
    intro i l offers hi goes
    obtain ⟨d,hd,fits⟩ := h.buying i l offers hi goes
    exact ⟨d,List.mem_cons_of_mem _ hd,fits⟩

theorem held_step (env : Env) {w : World ι} (t : Turn ι) (h : Held w) (serial : Serial w t) :
    Held (step env w t) := by
  cases t with
  | node a => exact h.node env a
  | look i cycleId now reading =>
    unfold step
    dsimp only
    split
    · exact h.idle i
    · rename_i plan _
      refine (h.wider _ _).enter i nofun fun plan hplan => ?_
      cases hplan
      exact List.mem_cons_self ..
  | lock i =>
    unfold step
    dsimp only
    split
    · rename_i plan looked
      split
      · exact h.idle i
      · rename_i l opened
        obtain ⟨cycle,_,_,remaining⟩ := opening_spec opened
        refine h.turn (fun _ j ne l' offers hj same => ?_) fun _ => ?_
        · unfold Serial at serial
          dsimp only at serial
          rw [looked] at serial
          have free := serial (opened ▸ rfl) j ne
          unfold busy at free
          rw [hj] at free
          simpa [same.trans cycle] using free
        · refine ⟨plan.deficit,cycle ▸ h.planned i plan looked,?_⟩
          have counted := tally_le_active h.tracked plan.cycleId
          rw [cycle]
          omega
    · exact h
  | next i =>
    unfold step
    dsimp only
    split
    · rename_i l offers hi
      refine h.turn (fun goes j ne l' offers' hj same => ?_) fun goes => h.buying i l offers hi goes
      by_contra on
      rw [Bool.not_eq_false] at on
      exact ne (h.alone j i l' offers' l offers hj on hi goes same)
    · exact h
  | stop i => exact h.idle i

end Steps

/-- In every run in which a replica decides only while no other one is between two
purchases of the cycle, the active bids of the ticks stay within the deficit. -/
theorem deficit_respected (env : Env) (db : Db) (empty : db.market = {}) (run : List (Turn ι))
    (serial : Along (step env) Serial { db := db } run) :
    Always (step env) Within { db := db } run := by
  have none : db.market.bids = Table.empty := by rw [empty]
  have tracked : Tracked [] db.market.bids := by
    rw [none]
    exact ⟨fun b hb => absurd hb List.not_mem_nil,fun k hk => absurd hk List.not_mem_nil⟩
  have start : Held ({ db := db } : World ι) :=
    { tracked := tracked
      within := by
        intro cycleId some
        have some : 0 < tally [] cycleId db.market.bids := some
        rw [none] at some
        exact absurd some (lt_irrefl 0)
      planned := nofun
      buying := nofun
      alone := nofun }
  exact (always_of_step (fun w t h ok => held_step env t h ok) start serial).mono fun _ h => h.within

/-- Two offers for a deficit of 100 kWh; both replicas have looked, and the first
has bought 60 kWh of the nearer one. -/
def half : List (Turn Bool) :=
  [.node (offered "o1" "o2" "BBB" "BBB-C1" 60 1),.node (offered "o3" "o4" "CCC" "CCC-C1" 100 2),
    .node routes,.look false "C1" (seconds 61) (some ⟨⟨.finite 1000,.finite 0⟩,[]⟩),
    .look true "C1" (seconds 61) (some ⟨⟨.finite 1000,.finite 0⟩,[]⟩),.lock false]

/-- The seller answers the first bid. -/
def answered : Turn Bool :=
  .node (agreed "o5" "o6" "BBB" "40000000-0000-0000-0000-000000000002" "BBB-C1" 60 1)

/-- The first replica buys what is missing before the second decides. -/
def inTurn : List (Turn Bool) := half ++ [.next false,answered,.lock true]

/-- The second replica decides while the first is between its purchases: both buy
the 40 kWh that are missing. -/
def atOnce : List (Turn Bool) := half ++ [answered,.lock true,.next false]

theorem deficit_covered_in_turn :
    let w := Lib.run (step buyers) { db := short } inTurn
    tally w.placed "C1" w.db.market.bids = 100 ∧ Always (step buyers) Within { db := short } inTurn :=
  ⟨by decide +kernel,deficit_respected buyers short rfl inTurn (by decide +kernel)⟩

theorem deficit_bought_twice :
    let w := Lib.run (step buyers) { db := short } atOnce
    (tally w.placed "C1" w.db.market.bids = 140 ∧ w.computed = [("C1",100),("C1",100)]) ∧
      ¬ Always (step buyers) Within { db := short } atOnce := by
  intro w
  have ends : tally w.placed "C1" w.db.market.bids = 140 ∧ w.computed = [("C1",100),("C1",100)] := by
    decide +kernel
  refine ⟨ends,fun always => ?_⟩
  have last : Within w := always.final
  obtain ⟨deficit,computed,covers⟩ := last "C1" (by rw [ends.1]; decide)
  rw [ends.1] at covers
  rw [ends.2] at computed
  simp only [List.mem_cons,Prod.mk.injEq,List.not_mem_nil,or_false] at computed
  omega

end BuyDeficit

end EnergyNode
