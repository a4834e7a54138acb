import EnergyNode.Deals
import EnergyNode.Lib.Run

/-! The wallet across the run: the swaps it created from our proposals and the
proposals it refused. A swap settles at most once, and only while it lives. What
the node is told about its own proposals is honest when the wallet has it so. -/
namespace EnergyNode
open Lib WalletEvents

inductive Fate where
  | live | settled | ended
deriving DecidableEq

/-- A swap the wallet created from the proposal with this key. -/
structure WalletSwap where
  key : String
  id : String
  offerId : Option String
  kwh : ℚ
  fate : Fate := .live
deriving DecidableEq

structure Wallet where
  swaps : Table WalletSwap.key := Table.empty
  refused : List String := []

/-- The node and the wallet it deals with. -/
structure World where
  db : Db
  wallet : Wallet := {}

namespace Wallet

def settled (w : Wallet) (k : String) : Bool := (w.swaps.get? k).any fun x => x.fate = .settled

/-- The proposal will never settle: refused, or its swap ended otherwise. -/
def ended (w : Wallet) (k : String) : Bool :=
  k ∈ w.refused || (w.swaps.get? k).any fun x => x.fate = .ended

def named (w : Wallet) (k id : String) : Bool := (w.swaps.get? k).any fun x => x.id = id

/-- A swap that lives takes its final state, once. -/
def close (w : Wallet) (k : String) (fate : Fate) : Wallet :=
  match w.swaps.get? k with
  | none => w
  | some x =>
      if x.fate = .live then { w with swaps := w.swaps.set { x with fate := fate } } else w

def swapOf (r : SwapRecord) (id : String) : WalletSwap where
  key := r.idpk
  id := id
  offerId := r.memo
  kwh := r.giveAmount

/-- A proposal that was sent becomes a swap under a new identifier. -/
def accept (w : Wallet) (m : Market) (k id : String) : Wallet :=
  match (m.swaps.get? k).filter fun r => r.role = .proposer ∧ 0 < r.proposalAttemptCount with
  | none => w
  | some r =>
      if k ∈ w.refused ∨ w.swaps.rows.any (fun x => x.id = id) then w
      else match w.swaps.insert? (swapOf r id) with
        | some swaps => { w with swaps := swaps }
        | none => w

def refuse (w : Wallet) (k : String) : Wallet :=
  if (w.swaps.get? k).isSome then w else { w with refused := k :: w.refused }

/-- Energy of an offer in swaps that settled. -/
def settledKwh (w : Wallet) (offerId : String) : ℚ :=
  w.swaps.sum fun x => if x.offerId = some offerId ∧ x.fate = .settled then x.kwh else 0

end Wallet

/-- The key is one of our proposals. -/
def Market.proposes (m : Market) (k : String) : Bool :=
  (m.swaps.get? k).any fun r => r.role = .proposer

def eventId (data : Fields) : Option String :=
  match eventSwapId data with
  | .ok id => id
  | .error _ => none

def eventKey (data : Fields) : Option String :=
  match keyText (data.get "idpk") with
  | .ok key => key
  | .error _ => none

namespace Wallet

/-- The proposals of ours an event is about: those of the swap it identifies and
the one it names. -/
def subjects (w : Wallet) (m : Market) (data : Fields) : List String :=
  (w.swaps.rows.filter fun x => eventId data = some x.id).map WalletSwap.key ++
    (eventKey data).toList.filter m.proposes

/-- What an event tells of a proposal is so in the wallet. -/
structure Tells (w : Wallet) (k : String) (type : EventType) (data : Fields) : Prop where
  id : ∀ id ∈ eventId data, w.named k id
  settled : type = .settled → w.settled k
  ended : type = .rejected ∨ type = .expired ∨ type = .cancelled → w.ended k

instance (w : Wallet) (k : String) (type : EventType) (data : Fields) :
    Decidable (Tells w k type data) :=
  decidable_of_iff ((∀ id ∈ eventId data, w.named k id) ∧ (type = .settled → w.settled k) ∧
      (type = .rejected ∨ type = .expired ∨ type = .cancelled → w.ended k))
    ⟨fun h => ⟨h.1,h.2.1,h.2.2⟩,fun h => ⟨h.id,h.settled,h.ended⟩⟩

/-- The wallet refuses an operation on a swap it holds; the swap goes on. -/
def refusesOperation (type : EventType) (data : Fields) : Bool :=
  type = .rejected && ((data.get "operation").text? = some "accept" ||
    (data.get "operation").text? = some "cancel")

/-- What reaches the node about its proposals is what the wallet has. An answer
that a swap is missing finds none under that identifier. -/
def Honest (w : Wallet) (m : Market) : Cause → Prop
  | .event type data _ =>
      refusesOperation type data = true ∨ ∀ k ∈ subjects w m data, Tells w k type data
  | .answer k id => m.proposes k = true → w.named k id = true
  | .expiry k _ => ∀ r ∈ m.swaps.get? k, r.role = .proposer → SwapTimeouts.neverSent r = true ∨
      ∃ id ∈ r.swapId, ∀ x ∈ w.swaps.rows, x.id ≠ id
  | _ => True

instance (w : Wallet) (m : Market) : ∀ c, Decidable (Honest w m c)
  | .event .. => inferInstanceAs (Decidable (_ ∨ _))
  | .answer .. => inferInstanceAs (Decidable (_ → _))
  | .expiry .. => inferInstanceAs (Decidable (∀ _ ∈ _, _))
  | .bid .. => inferInstanceAs (Decidable True)
  | .acceptance .. => inferInstanceAs (Decidable True)
  | .confirmation .. => inferInstanceAs (Decidable True)
  | .dispatch => inferInstanceAs (Decidable True)
  | .announcement => inferInstanceAs (Decidable True)
  | .refusal .. => inferInstanceAs (Decidable True)

end Wallet

namespace World

inductive Turn where
  | node (a : Node.Action)
  | accept (k id : String)
  | refuse (k : String)
  | settle (k : String)
  | fail (k : String)

def step (env : Env) (s : World) : Turn → World
  | .node a => { s with db := Node.step env s.db a }
  | .accept k id => { s with wallet := s.wallet.accept s.db.market k id }
  | .refuse k => { s with wallet := s.wallet.refuse k }
  | .settle k => { s with wallet := s.wallet.close k .settled }
  | .fail k => { s with wallet := s.wallet.close k .ended }

/-- The node hears nothing but the truth about its proposals. -/
def Honest (s : World) : Turn → Prop
  | .node a => ∀ c ∈ Node.causes s.db a, s.wallet.Honest (Node.reading s.db a c) c
  | _ => True

instance (s : World) : ∀ t, Decidable (Honest s t)
  | .node _ => inferInstanceAs (Decidable (∀ _ ∈ _, _))
  | .accept .. => inferInstanceAs (Decidable True)
  | .refuse _ => inferInstanceAs (Decidable True)
  | .settle _ => inferInstanceAs (Decidable True)
  | .fail _ => inferInstanceAs (Decidable True)

end World

end EnergyNode
