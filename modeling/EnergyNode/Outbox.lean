import EnergyNode.Rows

/-! The durable outbox. Messages are drafted by the services and receive fresh
identifiers when they are stored, so `msgId` never collides. -/
namespace EnergyNode
open Lib

/-- REJECTION_CODES. -/
inductive RejectionReason where
  | quantityUnavailable | bidTooSmall | offerWithdrawn | marketClosed | selfTrade
deriving DecidableEq

namespace RejectionReason

def text : RejectionReason → String
  | quantityUnavailable => "QUANTITY_UNAVAILABLE"
  | bidTooSmall => "BID_TOO_SMALL"
  | offerWithdrawn => "OFFER_WITHDRAWN"
  | marketClosed => "MARKET_CLOSED"
  | selfTrade => "SELF_TRADE"

def code : RejectionReason → Int
  | quantityUnavailable => 409
  | bidTooSmall => 422
  | offerWithdrawn => 410
  | marketClosed => 410
  | selfTrade => 422

end RejectionReason

/-- The `type` and `data` of an outgoing envelope, with the `reason` and `code`
a rejection adds beside `data`. -/
inductive Content where
  | bidRejected (reason : RejectionReason) (target offerId : String) (requested : Int)
      (available : Option Int)
  | bidAccepted (target offerId : String) (quantity : Int) (pricePerEnergy amount : ℚ)
      (swapId swapToken : String) (expiresAt : Instant)
  | bid (offerId : String) (quantity : Int)
  | offer (offerId : String) (quantity : Int) (pricePerEnergy : ℚ)
  | offerUpdated (offerId : String) (remaining : Int) (pricePerEnergy : ℚ)
  | offerWithdrawn (offerId : String)
  | request (ask : String)
  | transfer (becauseOf : String) (quantity : ℚ)
  | negotiationProposal (direction : String) (quantity pricePerEnergy : ℚ)
  | negotiationReport (budgetBalance energyBalance : ℚ)
deriving DecidableEq

def Content.type : Content → MessageType
  | bidRejected .. => .bidRejected
  | bidAccepted .. => .bidAccepted
  | bid .. => .bid
  | offer .. => .offer
  | offerUpdated .. => .offerUpdated
  | offerWithdrawn .. => .offerWithdrawn
  | request .. => .request
  | transfer .. => .transfer
  | negotiationProposal .. => .negotiationProposal
  | negotiationReport .. => .negotiationReport

inductive OutboundStatus where
  | pending | published | failed
deriving DecidableEq

structure Draft where
  content : Content
  cycleId : Option String := none
  targetMsgId : Option String := none
  routingKey : Option String := none
  exchangeName : String := "energy.x"
  status : OutboundStatus := .pending
  attemptCount : Nat := 0
  availableAt : Option Instant := none
  expiresAt : Option Instant := none
  lastError : Option String := none
  createdAt : Instant
  dispatchRequired : Bool := true
  requestAsk : Option String := none
  responseMsgId : Option String := none
  responseIdpk : Option String := none
  resolvedAt : Option Instant := none
deriving DecidableEq

structure OutboundMessage extends Draft where
  msgId : String
  idpk : String
deriving DecidableEq

abbrev Outbox := Table OutboundMessage.msgId

namespace Outbox

def ids (outbox : Outbox) : List String :=
  outbox.rows.map OutboundMessage.msgId ++ outbox.rows.map OutboundMessage.idpk

theorem get?_fresh (cfg : Config) (outbox : Outbox) (extra : List String) :
    outbox.get? (cfg.uuid4 (outbox.ids ++ extra)) = none := by
  rw [Table.get?_eq_none]
  intro row hrow e
  apply cfg.fresh (outbox.ids ++ extra)
  rw [← e]
  exact List.mem_append_left _ (List.mem_append_left _ (List.mem_map_of_mem hrow))

def freshMsgId (cfg : Config) (outbox : Outbox) : String := cfg.uuid4 (outbox.ids ++ [])

def freshIdpk (cfg : Config) (outbox : Outbox) : String :=
  cfg.uuid4 (outbox.ids ++ [freshMsgId cfg outbox])

/-- Stores a draft under two fresh, distinct identifiers. -/
def enqueue (cfg : Config) (outbox : Outbox) (draft : Draft) : Outbox :=
  outbox.insert ⟨draft,freshMsgId cfg outbox,freshIdpk cfg outbox⟩ (get?_fresh cfg outbox [])

theorem mem_enqueue {cfg : Config} {outbox : Outbox} {draft : Draft} {row : OutboundMessage} :
    row ∈ enqueue cfg outbox draft ↔
      row ∈ outbox ∨ row = ⟨draft,freshMsgId cfg outbox,freshIdpk cfg outbox⟩ :=
  Table.mem_insert

theorem rows_enqueue (cfg : Config) (outbox : Outbox) (draft : Draft) :
    (enqueue cfg outbox draft).rows =
      outbox.rows ++ [⟨draft,freshMsgId cfg outbox,freshIdpk cfg outbox⟩] := rfl

end Outbox

end EnergyNode
