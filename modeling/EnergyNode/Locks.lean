import EnergyNode.SwapAccept
import EnergyNode.AutonomousBuy
import EnergyNode.Lib.LockTrace

/-! The locks the statements of a session take, in their order: the advisory
lock of the city ledger, the rows a `FOR UPDATE` finds and the rows a flush
updates. The transaction holds them to its end. -/
namespace EnergyNode
open Lib

inductive Lock where
  | city
  | cycle (cycleId : String)
  | offer (offerId : String)
  | reservation (bidIdpk : String)
  | bid (idpk : String)
  | swap (idpk : String)
deriving DecidableEq

namespace Locks
open WalletEvents WalletRecovery SwapTimeouts CycleAccounting Ledger

/-- `synchronize_budget_carryover` reads every opened cycle for update. -/
def carryover (books : Books) : List Lock :=
  .city :: (openedCycles books).map fun c => .cycle c.cycleId

/-- `apply_ledger_effect`: the city, the cycle, and the others when money moves. -/
def ledgerEffect (books : Books) (effect : Effect) : List Lock :=
  .city :: match books.cycles.get? effect.cycleId with
    | none => []
    | some _ => .cycle effect.cycleId ::
        if existing? books effect = none ∧ effect.budgetDelta ≠ 0 then carryover books else []

/-- `apply_swap_settled`. -/
def swapSettled (books : Books) (record : SwapRecord) : List Lock :=
  match books.cycles.get? record.cycleId, assetEffects record with
  | some _, some deltas => ledgerEffect books (swapEffect record deltas)
  | _, _ => []

/-- `_update_offer_and_reservation` reads the reservation for update whatever
its status, and the offer only of a HOLD it commits. -/
def moveReservation (market : Market) (record : SwapRecord) (action : Action) : List Lock :=
  match record.memo with
  | none => []
  | some offerId =>
      match (market.reservations.get? record.idpk).filter fun r => r.offerId = offerId with
      | none => []
      | some r => if offerId = "" then [] else
          .reservation record.idpk ::
            if r.status = .hold ∧ action = .commit ∧ (market.offers.get? offerId).isSome then
              [.offer offerId]
            else []

/-- A flush updates the row of a record that changed. -/
def flushed (record changed : SwapRecord) : List Lock :=
  if changed = record then [] else [.swap record.idpk]

def repairs (record : SwapRecord) (type : EventType) (rejection : Json) : Bool :=
  record.status = .rejected && type = .rejected && rejection.truthy &&
    (record.rejectionReason = none || record.rejectionReason = some unknownRejection)

def processTerminal (db : Db) (record : SwapRecord) (type : EventType) (rejection : Json) :
    List Lock :=
  if type = .settled ∧ record.status ≠ .settled then
    swapSettled db.books record ++ [.swap record.idpk]
  else if repairs record type rejection then [.swap record.idpk]
  else []

/-- The changed record is flushed by the first query after it. -/
def transition (db : Db) (record : SwapRecord) (type : EventType) (swapId : Option String)
    (data : Fields) : List Lock :=
  let learned := learn record type swapId data
  match type with
  | .proposed => flushed record { learned with status := .proposed }
  | .settled => .swap record.idpk :: swapSettled db.books learned ++
      moveReservation db.market learned .commit
  | .rejected | .expired | .cancelled => .swap record.idpk ::
      moveReservation db.market learned .release

/-- `process_swap_event`. -/
def processSwapEvent (db : Db) (type : EventType) (data : Fields) (rejection : Json) : List Lock :=
  match correlate db.market.swaps data, eventSwapId data with
  | .ok (some record), .ok swapId =>
      if record.status.terminal then processTerminal db record type rejection
      else transition db record type swapId data
  | _, _ => []

/-- `apply_wallet_observation`. -/
def observation (db : Db) (record : SwapRecord) (seen : Observation) : List Lock :=
  match record.swapId with
  | none => []
  | some swapId =>
      if swapId = "" ∨ swapId ≠ seen.swapId ∨ record.status.terminal then []
      else match seen.status.event? with
        | some event =>
            processSwapEvent db event (observedData record swapId (reasonField seen)) .null
        | none =>
            match record.role, seen.token with
            | .proposer, some token =>
                processSwapEvent db .proposed (observedData record swapId [("token",.str token)])
                  .null
            | .proposer, none => flushed record { record with status := .proposed }
            | .acceptor, _ =>
                if seen.status = .accepted then
                  flushed record { record with status := .acceptSubmitted, acceptError := none }
                else []

/-- The row `_set_bid_expired` writes, which is only added to the session. -/
def setBidExpired (market : Market) (idpk : Option String) : List Lock :=
  match idpk with
  | none => []
  | some idpk =>
      match market.bids.get? idpk with
      | none => []
      | some bid => if idpk = "" ∨ bidClosed bid.status then [] else [.bid idpk]

/-- The statements sent in a turn: the locks they take and the rows left for the
next flush, which the first query of a later turn brings. -/
structure Sent where
  locks : List Lock
  unflushed : List Lock := []
deriving DecidableEq

/-- `_expire_record`, which flushes at its end. -/
def expireRecord (market : Market) (record : SwapRecord) : Option Sent :=
  if record.status.terminal then none
  else some { locks := .swap record.idpk :: moveReservation market record .release ++
    setBidExpired market (bidKey record) }

/-- What the sweep sends for one record once the wallet answered, if anything. -/
def sweepRecord (db : Db) (record : SwapRecord) (answer : GetAnswer) : Option Sent :=
  if neverSent record then expireRecord db.market record
  else match record.swapId with
    | none => none
    | some swapId =>
        if swapId = "" then none
        else match answer with
          | .error code =>
              if record.proposalBlockedAt.isSome ∧ code = some 404 then expireRecord db.market record
              else none
          | .body (.obj response) =>
              if !sameSwap response swapId then none
              else
                let status := statusText response
                if status = "settled" then
                  some { locks := processSwapEvent db .settled (ownData record swapId) .null }
                else match terminalEvent? status with
                  | some event =>
                      let rejection := if event = .rejected then reasonJson response else .null
                      some
                        { locks := processSwapEvent db event (ownData record swapId) rejection
                          unflushed := setBidExpired db.market (bidKey record) }
                  | none => none
          | .body _ => none

/-- The locks a turn takes, with the rows that were left to flush. -/
def taken (unflushed : List Lock) : Option Sent → List Lock
  | none => []
  | some sent => unflushed ++ sent.locks

/-- The rows left to flush after a turn. -/
def left (unflushed : List Lock) : Option Sent → List Lock
  | none => unflushed
  | some sent => sent.unflushed

/-- A `FOR UPDATE` on the record of a key. -/
def swapRow (db : Db) (idpk : String) : List Lock :=
  match db.market.swaps.get? idpk with
  | none => []
  | some _ => [.swap idpk]

/-- `enqueue_buy_bid`, up to its commit or its refusal. -/
def enqueueBuyBid (cfg : Config) (db : Db) (order : Buying.Order) (now : Instant) : List Lock :=
  if order.quantity < 1 then []
  else .city :: match (Buying.enqueueBuyBid cfg db order now).2 with
    | .created =>
        (if (db.market.offers.get? order.offerId).isSome then [] else [.offer order.offerId]) ++
          [.bid order.idpk]
    | _ => []

end Locks

end EnergyNode
