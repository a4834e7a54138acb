import EnergyNode.AutonomousBuySteps
import EnergyNode.Lib.Run

/-! Replicas that buy: each ticks on its own, and the city lock is free between
two purchases of a tick. -/
namespace EnergyNode
open Lib AutonomousBuy Buying

namespace BuyReplicas

/-- Where a replica stands between two of its transactions. -/
inductive Stage where
  | idle
  | looked (plan : Plan)
  | buying (l : Loop) (offers : List BookOffer)
deriving DecidableEq

/-- A balance, and the bids the wallet shows in it as a hold or a debit. -/
structure Reading where
  balance : Balance
  reflected : List String := []
deriving DecidableEq

/-- The node and its replicas; what their ticks bought, the deficits they computed
and the balance each read last are remembered for the reader of a run. -/
structure World (ι : Type) where
  db : Db
  replicas : ι → Stage := fun _ => .idle
  purchases : List Purchase := []
  computed : List (String × Int) := []
  read : ι → Option Reading := fun _ => none

inductive Turn (ι : Type) where
  /-- Everything else that happens to the node, answers and expiries included. -/
  | node (a : Node.Action)
  | look (i : ι) (cycleId : String) (now : Instant) (reading : Option Reading)
  /-- The city lock is taken: the decision and the first purchase. -/
  | lock (i : ι)
  | next (i : ι)
  /-- A fault ends the tick. -/
  | stop (i : ι)

variable {ι : Type}

/-- The bids of the ticks. -/
def World.placed (w : World ι) : List String := w.purchases.map Purchase.idpk

variable [DecidableEq ι]

def World.enter (w : World ι) (i : ι) (stage : Stage) : World ι :=
  { w with replicas := fun j => if j = i then stage else w.replicas j }

/-- The loop of a replica up to its next commit, or to its end. -/
def turn (cfg : Config) (w : World ι) (i : ι) (l : Loop) (offers : List BookOffer) : World ι :=
  match advance cfg w.db l offers with
  | none => w.enter i .idle
  | some (db,l,rest) =>
      { w.enter i (.buying l rest) with db := db, purchases := l.bought.take 1 ++ w.purchases }

def planned (w : World ι) (i : ι) (plan : Plan) (reading : Option Reading) : World ι :=
  { w.enter i (.looked plan) with
    computed := (plan.cycleId,plan.deficit) :: w.computed
    read := fun j => if j = i then reading else w.read j }

def step (env : Env) (w : World ι) : Turn ι → World ι
  | .node a => { w with db := Node.step env w.db a }
  | .look i cycleId now reading =>
      match look env.cfg w.db cycleId now (reading.map Reading.balance) with
      | none => w.enter i .idle
      | some plan => planned w i plan reading
  | .lock i =>
      match w.replicas i with
      | .looked plan =>
          match opening plan w.db.market with
          | none => w.enter i .idle
          | some l => turn env.cfg w i l plan.candidates
      | _ => w
  | .next i =>
      match w.replicas i with
      | .buying l offers => turn env.cfg w i l offers
      | _ => w
  | .stop i => w.enter i .idle

@[simp] theorem replicas_enter (w : World ι) (i j : ι) (stage : Stage) :
    (w.enter i stage).replicas j = if j = i then stage else w.replicas j := rfl

/-- The loop of `i` buys, or its tick is over. -/
theorem turn_cases (cfg : Config) (w : World ι) (i : ι) (l : Loop) (offers : List BookOffer) :
    turn cfg w i l offers = w.enter i .idle ∨ ∃ db l' rest p, going l offers ∧ Bought w.db db l l' p ∧
      Chosen offers rest p ∧ turn cfg w i l offers =
        { w.enter i (.buying l' rest) with db := db, purchases := p :: w.purchases } := by
  unfold turn
  split
  · exact .inl rfl
  · rename_i db l' rest found
    obtain ⟨goes,p,bought,chosen⟩ := advance_spec found
    refine .inr ⟨db,l',rest,p,goes,bought,chosen,?_⟩
    rw [bought.bought]
    rfl

def buyers : Env :=
  Node.offline "AAA" ["40000000-0000-0000-0000-000000000001","40000000-0000-0000-0000-000000000002",
    "40000000-0000-0000-0000-000000000003","40000000-0000-0000-0000-000000000004",
    "40000000-0000-0000-0000-000000000005","40000000-0000-0000-0000-000000000006"]

end BuyReplicas

end EnergyNode
