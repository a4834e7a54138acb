import EnergyNode.Lib.Run
import EnergyNode.Node
import EnergyNode.SweepLocks

/-! No call to the wallet waits under a lock: three of the workers end their
transaction before every call, and the sweep of the stale swaps does while it
has written nothing yet. -/
namespace EnergyNode
open Lib

namespace CallsUnlocked
open WalletEvents WalletRecovery SwapTimeouts WalletCalls

/-- A tick of one of the workers, with what it finds and what the wallet answers. -/
inductive Tick where
  | propose (turns : List ProposeTurn)
  | accept (bids : List BidTurn) (turns : List AcceptTurn)
  | expire (db : Db) (limit : Nat) (answers : String → GetAnswer)
  | buy (turns : List BuyTurn)

def Tick.ops (cfg : Config) (jwt : Jwt) (now : Instant) : Tick → List (Op Lock Ask)
  | propose turns => (dispatchSwapProposals cfg now turns).ops
  | accept bids turns => (acceptPendingSwaps cfg jwt now bids turns).ops
  | expire db limit answers => (expireStaleSwaps cfg now answers db limit).ops
  | buy turns => (runAutonomousBuyTick cfg now turns).ops

/-- The sweep asks the wallet about a record after an UPDATE was sent. -/
def Tick.Exposed (cfg : Config) (now : Instant) : Tick → Prop
  | expire db limit answers =>
      SweepLocks.FollowedBy cfg db answers false (staleRecords now db limit)
  | _ => False

/-! ### The workers that commit before each call -/

section Clean
variable {cfg : Config} {jwt : Jwt} {now : Instant}

theorem quiet_refresh (db : Db) (idpk : String) : (refresh db idpk).Quiet := by
  refine .bind (.take _) fun _ => ?_
  split
  · exact .lift _
  · exact .pure _

theorem quiet_markSent (turn : AcceptTurn) : (markSent now turn).Quiet := by
  refine .bind (quiet_refresh _ _) fun record => ?_
  split <;> exact .pure _

end Clean

/-- Two sales that the wallet calls `s1` and `s2`. -/
def sales : Db :=
  Lib.run (Node.step Node.seller) (Node.opened "C1")
    (.sellerOffer "C1" 100 0 ::
      Node.proposed "70000000-0000-0000-0000-000000000001" "70000000-0000-0000-0000-000000000002"
        "s1" 30 1 ++
      Node.proposed "70000000-0000-0000-0000-000000000003" "70000000-0000-0000-0000-000000000004"
        "s2" 30 2)

end CallsUnlocked

end EnergyNode
