import EnergyNode.Deals
import EnergyNode.Lib.Lease
import EnergyNode.Lib.Run
import EnergyNode.NodeSteps

/-! Any number of dispatchers over one database, against a clock that runs on
while they wait for the wallet. A batch reads the clock once, and derives every
lease and every check of an expiry from that instant. -/
namespace EnergyNode
open Lib

namespace WalletDispatch
open SwapDispatch WalletRecovery

/-- How far a dispatcher is with the record in hand. -/
inductive Stage where
  | looking
  | ready
  | posting
  | checking (code : Nat)
deriving DecidableEq

/-- `dispatch_swap_proposals` under way; `elapsed` is the time its calls took. -/
structure ProposalBatch where
  reference : Instant
  elapsed : Int := 0
  left : Nat
  hand : Option (ProposalAttempt × Stage) := none

/-- `accept_pending_swaps` under way; the queue is read once. -/
structure AcceptBatch where
  reference : Instant
  elapsed : Int := 0
  queue : Option (List String) := none
  hand : Option (String × Stage) := none

inductive Batch where
  | proposals (batch : ProposalBatch)
  | acceptances (batch : AcceptBatch)
  | finished

/-- LEASE_SECONDS of `_claim_one`. -/
def proposalLease : Int := seconds leaseSeconds

/-- The lease of `_accept_record`. -/
def acceptLease : Int := seconds 30

namespace Batch

def lease : Batch → Int
  | proposals _ => proposalLease
  | acceptances _ => acceptLease
  | finished => 0

def reference : Batch → Instant
  | proposals b => b.reference
  | acceptances b => b.reference
  | finished => 0

def elapsed : Batch → Int
  | proposals b => b.elapsed
  | acceptances b => b.elapsed
  | finished => 0

/-- The record in hand. -/
def record : Batch → Option String
  | proposals b => b.hand.map fun h => h.1.idpk
  | acceptances b => b.hand.map Prod.fst
  | finished => none

/-- The record whose POST is on its way. -/
def inFlight : Batch → Option String
  | proposals b => (b.hand.filter fun h => h.2 = .posting).map fun h => h.1.idpk
  | acceptances b => (b.hand.filter fun h => h.2 = .posting).map Prod.fst
  | finished => none

def wait (d : Nat) : Batch → Batch
  | proposals b => proposals { b with elapsed := b.elapsed + d }
  | acceptances b => acceptances { b with elapsed := b.elapsed + d }
  | finished => finished

end Batch

structure World where
  db : Db
  clock : Instant
  batches : List Batch

inductive Turn where
  /-- Time passes, for whoever waits. -/
  | advance (micros : Nat)
  /-- A transaction of the node outside the two dispatchers. -/
  | node (action : Node.Action)
  | beginProposals (limit : Nat)
  | beginAcceptances
  | claim (i : Nat) (locked : List String)
  | select (i limit : Nat)
  | take (i : Nat)
  | look (i : Nat) (answer : GetAnswer)
  | post (i : Nat)
  | answered (i : Nat) (answer : WriteAnswer)
  | check (i : Nat) (answer : GetAnswer)

namespace World

def put (w : World) (i : Nat) (b : Batch) : World := { w with batches := w.batches.set i b }

def store (w : World) (i : Nat) (db : Db) (b : Batch) : World :=
  { w with db := db, batches := w.batches.set i b }

end World

/-- The actions of the dispatchers themselves. -/
def ofDispatcher : Node.Action → Bool
  | .claimProposal .. | .recoverProposal .. | .settleProposal .. => true
  | .leaseAccept .. | .recoverAccept .. | .sendAccept .. | .settleAccept .. => true
  | _ => false

/-- `_claim_one` in its own transaction. -/
def claim (cfg : Config) (w : World) (i : Nat) (b : ProposalBatch) (locked : List String) :
    World :=
  if b.left = 0 ∨ b.hand.isSome then w
  else match claimOne cfg w.db locked b.reference with
    | .error _ => w.put i .finished
    | .ok (_, none) => w.put i .finished
    | .ok (db, some attempt) =>
        w.store i db (.proposals { b with left := b.left - 1, hand := some (attempt,.looking) })

/-- `_accept_work`. -/
def acceptWork (db : Db) (limit : Nat) (now : Instant) : List String :=
  ((db.market.swaps.rows.filter fun r => SwapAccept.acceptWork r now).take limit).map
    SwapRecord.idpk

/-- The first transaction of `_accept_record`, on the next record of the queue. -/
def take (w : World) (i : Nat) (b : AcceptBatch) : World :=
  match b.queue, b.hand with
  | some (k :: rest), none =>
      match SwapAccept.acceptance w.db k with
      | none => w.put i (.acceptances { b with queue := some rest })
      | some record =>
          if record.status.terminal || SwapAccept.waiting record b.reference then
            w.put i (.acceptances { b with queue := some rest })
          else w.store i (SwapAccept.lease w.db k b.reference)
            (.acceptances { b with queue := some rest, hand := some (k,.looking) })
  | _, _ => w

/-- Before a repeated POST the wallet is asked about the swap. -/
def lookProposal (cfg : Config) (w : World) (i : Nat) (b : ProposalBatch)
    (attempt : ProposalAttempt) (answer : GetAnswer) : World :=
  let ready := Batch.proposals { b with hand := some (attempt,.ready) }
  if attempt.attemptCount ≤ 1 then w.put i ready
  else match inspectKnownSwap ((w.db.market.swaps.get? attempt.idpk).bind SwapRecord.swapId)
      answer with
    | none => w.put i ready
    | some seen =>
        match recoverAttempt cfg w.db attempt seen b.reference with
        | .error _ => w.put i .finished
        | .ok (db, true) => w.store i db (.proposals { b with hand := none })
        | .ok (db, false) => w.store i db ready

def lookAcceptance (cfg : Config) (w : World) (i : Nat) (b : AcceptBatch) (k : String)
    (answer : GetAnswer) : World :=
  let ready := Batch.acceptances { b with hand := some (k,.ready) }
  if (w.db.market.swaps.get? k).any fun r => 0 < r.acceptAttempts then
    match SwapAccept.recover cfg w.db k answer b.reference with
    | .error _ => w.put i .finished
    | .ok (db, true) => w.store i db (.acceptances { b with hand := none })
    | .ok (db, false) => w.store i db ready
  else w.put i ready

/-- The transaction that stores the answer of `POST /swaps`: only it reads the
clock again. -/
def settle (cfg : Config) (db : Db) (attempt : ProposalAttempt) (answer : WriteAnswer)
    (reference clock : Instant) : Result Db :=
  let (verdict, replay) := judge answer
  let db := finish db attempt verdict clock
  match replay, db.market.swaps.get? attempt.idpk with
  | some seen, some record =>
      if record.swapId = some seen.swapId then
        (applyWalletObservation cfg db record seen reference).map Prod.fst
      else .ok db
  | _, _ => .ok db

def answerProposal (cfg : Config) (w : World) (i : Nat) (b : ProposalBatch)
    (attempt : ProposalAttempt) (answer : WriteAnswer) : World :=
  match settle cfg w.db attempt answer b.reference w.clock with
  | .error _ => w.put i .finished
  | .ok db => w.store i db (.proposals { b with hand := none })

/-- A definitive refusal is checked with a GET before it is stored. -/
def answerAcceptance (w : World) (i : Nat) (b : AcceptBatch) (k : String)
    (answer : WriteAnswer) : World :=
  match SwapAccept.outcomeOf answer with
  | none => w.put i .finished
  | some (.rejected code) => w.put i (.acceptances { b with hand := some (k,.checking code) })
  | some outcome =>
      w.store i (SwapAccept.finish w.db k outcome b.reference) (.acceptances { b with hand := none })

def check (cfg : Config) (w : World) (i : Nat) (b : AcceptBatch) (k : String) (code : Nat)
    (answer : GetAnswer) : World :=
  match SwapAccept.recover cfg w.db k answer b.reference with
  | .error _ => w.put i .finished
  | .ok (db, true) => w.store i db (.acceptances { b with hand := none })
  | .ok (db, false) =>
      w.store i (SwapAccept.finish db k (.rejected code) b.reference)
        (.acceptances { b with hand := none })

/-- The sentinel of the acceptance and its POST. Without a swap to accept
`execute_accept_swap` raises after the sentinel, which ends the batch. -/
def send (w : World) (i : Nat) (b : AcceptBatch) (k : String) : World :=
  let attempts (db : Db) := (db.market.swaps.get? k).map SwapRecord.acceptAttempts
  match SwapAccept.send w.db k b.reference with
  | (db, some _) => w.store i db (.acceptances { b with hand := some (k,.posting) })
  | (db, none) =>
      if attempts db = attempts w.db then w.store i db (.acceptances { b with hand := none })
      else w.store i db .finished

def step (env : Env) (w : World) : Turn → World
  | .advance d => { w with clock := w.clock + d, batches := w.batches.map (Batch.wait d) }
  | .node a => if ofDispatcher a then w else { w with db := Node.step env w.db a }
  | .beginProposals limit =>
      if 1 ≤ limit ∧ limit ≤ 10 then
        { w with batches := w.batches ++ [.proposals { reference := w.clock, left := limit }] }
      else w
  | .beginAcceptances =>
      { w with batches := w.batches ++ [.acceptances { reference := w.clock }] }
  | .claim i locked =>
      match w.batches[i]? with
      | some (.proposals b) => claim env.cfg w i b locked
      | _ => w
  | .select i limit =>
      match w.batches[i]? with
      | some (.acceptances b) =>
          if b.queue.isSome then w
          else w.put i (.acceptances { b with queue := some (acceptWork w.db limit b.reference) })
      | _ => w
  | .take i =>
      match w.batches[i]? with
      | some (.acceptances b) => take w i b
      | _ => w
  | .look i answer =>
      match w.batches[i]? with
      | some (.proposals ⟨r,e,l,some (attempt,.looking)⟩) =>
          lookProposal env.cfg w i ⟨r,e,l,some (attempt,.looking)⟩ attempt answer
      | some (.acceptances ⟨r,e,q,some (k,.looking)⟩) =>
          lookAcceptance env.cfg w i ⟨r,e,q,some (k,.looking)⟩ k answer
      | _ => w
  | .post i =>
      match w.batches[i]? with
      | some (.proposals ⟨r,e,l,some (attempt,.ready)⟩) =>
          w.put i (.proposals ⟨r,e,l,some (attempt,.posting)⟩)
      | some (.acceptances ⟨r,e,q,some (k,.ready)⟩) => send w i ⟨r,e,q,some (k,.ready)⟩ k
      | _ => w
  | .answered i answer =>
      match w.batches[i]? with
      | some (.proposals ⟨r,e,l,some (attempt,.posting)⟩) =>
          answerProposal env.cfg w i ⟨r,e,l,some (attempt,.posting)⟩ attempt answer
      | some (.acceptances ⟨r,e,q,some (k,.posting)⟩) =>
          answerAcceptance w i ⟨r,e,q,some (k,.posting)⟩ k answer
      | _ => w
  | .check i answer =>
      match w.batches[i]? with
      | some (.acceptances ⟨r,e,q,some (k,.checking code)⟩) =>
          check env.cfg w i ⟨r,e,q,some (k,.checking code)⟩ k code answer
      | _ => w

end WalletDispatch

end EnergyNode
