import EnergyNode.WalletEvents

/-! What a `GET /swaps/{id}`, or the 200 of a repeated POST, proves about a
record, and how the record converges to it. -/
namespace EnergyNode
open Lib

namespace WalletRecovery
open WalletEvents

inductive WalletState where
  | proposed | accepted | settled | rejected | cancelled | expired
deriving DecidableEq

/-- WALLET_STATES, compared in lower case. -/
def WalletState.ofText (text : String) : Option WalletState :=
  match String.ofList (text.toList.map Char.toLower) with
  | "proposed" => some proposed
  | "accepted" => some accepted
  | "settled" => some settled
  | "rejected" => some rejected
  | "cancelled" => some cancelled
  | "expired" => some expired
  | _ => none

/-- EVENT_FOR_STATUS. -/
def WalletState.event? : WalletState → Option EventType
  | settled => some .settled
  | rejected => some .rejected
  | cancelled => some .cancelled
  | expired => some .expired
  | _ => none

structure Observation where
  swapId : String
  status : WalletState
  reason : Option String := none
  token : Option String := none
deriving DecidableEq

/-- An answer to `GET /swaps/{id}`: a body, or a failure with its status code. -/
inductive GetAnswer where
  | body (value : Json)
  | error (code : Option Nat)

def lastEvent (response : Fields) : Fields := ((response.get "lastEvent").obj?).getD []

def lastReason (response : Fields) : Option String :=
  let event := lastEvent response
  if (event.get "type").text? = some "swap-rejected" then (event.get "reason").text? else none

def lastToken (response : Fields) : Option String :=
  let event := lastEvent response
  if (event.get "type").text? = some "swap-proposed" then
    (((event.get "data").obj?.bind fun data => (Fields.get data "token").text?)).filter (· ≠ "")
  else none

def observationFromSwapState (response : Json) (expected : Option String) : Option Observation := do
  let response ← response.obj?
  let identity ← (Fields.get response "swapId").text?
  guard (identity ≠ "" ∧ (expected = none ∨ expected = some identity))
  let status ← (Fields.get response "status").text?.bind WalletState.ofText
  return {
    swapId := identity
    status := status
    reason := if status = .rejected then lastReason response else none
    token := if status = .proposed then lastToken response else none }

/-- A failed or unrecognised answer proves nothing. -/
def inspectKnownSwap (swapId : Option String) (answer : GetAnswer) : Option Observation :=
  match swapId, answer with
  | some swapId, .body response =>
      if swapId = "" then none else observationFromSwapState response (some swapId)
  | _, _ => none

def observedData (record : SwapRecord) (swapId : String) (more : Fields) : Fields :=
  ("swapId",.str swapId) :: ("idpk",.str record.idpk) :: more

def reasonField (observation : Observation) : Fields :=
  match observation.reason with
  | some reason => [("reason",.str reason)]
  | none => []

/-- `true` means the POST need not be sent again. -/
def applyWalletObservation (cfg : Config) (db : Db) (record : SwapRecord)
    (observation : Observation) (now : Instant) : Result (Db × Bool) :=
  match record.swapId with
  | none => .ok (db, false)
  | some swapId =>
      if swapId = "" ∨ swapId ≠ observation.swapId then .ok (db, false)
      else if record.status.terminal then .ok (db, true)
      else match observation.status.event? with
        | some event => do
            let (db, _) ← processSwapEvent cfg db event
              (observedData record swapId (reasonField observation)) .null now
            return (db, true)
        | none =>
            match record.role, observation.token with
            | .proposer, some token => do
                let (db, _) ← processSwapEvent cfg db .proposed
                  (observedData record swapId [("token",.str token)]) .null now
                return (db, true)
            | .proposer, none => .ok (storeRecord db { record with status := .proposed }, true)
            | .acceptor, _ =>
                if observation.status = .accepted then
                  .ok (storeRecord db
                    { record with status := .acceptSubmitted, acceptError := none }, true)
                else .ok (db, false)

end WalletRecovery

end EnergyNode
