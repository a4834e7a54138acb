import EnergyNode.WalletRecovery
import Mathlib.Data.List.Sort

/-! The sweep over swaps and bids whose deadlines passed. Each stale record is
decided on what the wallet answers for it. -/
namespace EnergyNode
open Lib

namespace SwapTimeouts
open WalletEvents WalletRecovery

def bidClosed (status : BidStatus) : Bool :=
  match status with
  | .expired | .rejected | .settled => true
  | _ => false

/-- `_set_bid_expired`. -/
def setBidExpired (market : Market) (idpk : Option String) : Market :=
  match idpk with
  | none => market
  | some idpk =>
      match market.bids.get? idpk with
      | none => market
      | some bid =>
          if idpk = "" ∨ bidClosed bid.status then market
          else { market with bids := market.bids.set { bid with status := .expired } }

/-- The bid a record answers to: its own key for a proposer. -/
def bidKey (record : SwapRecord) : Option String :=
  match record.role with
  | .proposer => some record.idpk
  | .acceptor => record.sourceBidIdpk

def closeBid (db : Db) (record : SwapRecord) : Db :=
  { db with market := setBidExpired db.market (bidKey record) }

/-- `_expire_record`. -/
def expireRecord (cfg : Config) (db : Db) (record : SwapRecord) (reason : String)
    (now : Instant) : Db :=
  if record.status.terminal then db
  else
    let done := { record with status := .expired, rejectionReason := some reason }
    closeBid (moveReservation cfg (storeRecord db done) done .release now) done

def passed (limit : Option Instant) (now : Instant) : Bool :=
  match limit with
  | some time => time ≤ now
  | none => false

/-- `_stale_records`, record by record. -/
def stale (record : SwapRecord) (now : Instant) : Bool :=
  !record.status.terminal &&
    (record.proposalBlockedAt.isSome || passed record.expiresAt now ||
      passed record.proposalExpiresAt now)

/-- No POST ever left for this proposal. -/
def neverSent (record : SwapRecord) : Bool :=
  record.role = .proposer && record.swapId.isNone && record.proposalAttemptCount = 0 &&
    record.proposalHttpAcceptedAt.isNone && record.proposalBlockedAt.isNone

inductive Verdict where
  | expired | indeterminate | settled | terminal (event : EventType) | alive (cancel : Bool)
  | unsupported
deriving DecidableEq

def terminalEvent? (status : String) : Option EventType :=
  match status with
  | "expired" => some .expired
  | "cancelled" => some .cancelled
  | "rejected" => some .rejected
  | _ => none

/-- `str(wallet_swap.get("status") or "").lower()`; no other type spells a known status. -/
def statusText (response : Fields) : String :=
  match response.get "status" with
  | .str s => String.ofList (s.toList.map Char.toLower)
  | _ => ""

/-- The answer must carry the identity of the swap that was asked for. -/
def sameSwap (response : Fields) (swapId : String) : Bool :=
  (response.get "swapId").text? = some swapId

def ownData (record : SwapRecord) (swapId : String) : Fields :=
  [("swapId",.str swapId),("idpk",.str record.idpk)]

def reasonJson (response : Fields) : Json :=
  match lastReason response with
  | some reason => .str reason
  | none => .null

/-- One stale record against the answer of its `GET /swaps/{id}`. -/
def sweepRecord (cfg : Config) (db : Db) (record : SwapRecord) (answer : GetAnswer)
    (now : Instant) : Result (Db × Verdict) :=
  if neverSent record then .ok (expireRecord cfg db record "PROPOSAL_NEVER_SENT" now, .expired)
  else match record.swapId with
    | none => .ok (db, .indeterminate)
    | some swapId =>
        if swapId = "" then .ok (db, .indeterminate)
        else match answer with
          | .error code =>
              if record.proposalBlockedAt.isSome ∧ code = some 404 then
                .ok (expireRecord cfg db record "WALLET_SWAP_NOT_FOUND" now, .expired)
              else .ok (db, .indeterminate)
          | .body (.obj response) =>
              if !sameSwap response swapId then .ok (db, .indeterminate)
              else
                let status := statusText response
                if status = "settled" then do
                  let (db, _) ← processSwapEvent cfg db .settled (ownData record swapId) .null now
                  return (db, .settled)
                else match terminalEvent? status with
                  | some event => do
                      let rejection := if event = .rejected then reasonJson response else .null
                      let (db, _) ← processSwapEvent cfg db event (ownData record swapId)
                        rejection now
                      return (closeBid db record, .terminal event)
                  | none =>
                      if status = "proposed" ∨ status = "accepted" then
                        .ok (db, .alive (passed record.expiresAt now))
                      else .ok (db, .unsupported)
          | .body _ => .ok (db, .indeterminate)

/-- The outgoing attempts of a bid. -/
def attempts (outbox : Outbox) (idpk : String) : List String :=
  (outbox.rows.filter fun row => row.idpk = idpk ∧ row.content.type = .bid).map
    OutboundMessage.msgId

/-- The last processed `bid-accepted` that answers one of the bid's attempts. -/
def acceptance? (db : Db) (bid : MarketBid) : Option Payload :=
  let targets := attempts db.outbox bid.idpk
  (db.inbox.reverse.find? fun row =>
    row.payload.type = .bidAccepted && row.status = .processed &&
      match (Fields.get row.payload.data "target").text? with
        | some target => target ∈ targets
        | none => false).map InboundMessage.payload

/-- `_parse_instant`: an instant without an offset does not count. -/
def parseInstant (value : Json) : Option Instant :=
  ((value.text?.bind Moment.ofText).filter Moment.aware).map Moment.time

def linked (market : Market) (bid : MarketBid) : Bool :=
  market.swaps.rows.any fun r => r.sourceBidIdpk = some bid.idpk

/-- `_stale_accepted_bids`. -/
def staleAccepted (db : Db) (now : Instant) (bid : MarketBid) : Bool :=
  bid.direction = .outgoing && bid.status = .accepted && !linked db.market bid &&
    passed ((acceptance? db bid).bind fun p => parseInstant (p.data.get "expiresAt")) now

/-- `_stale_pending_bids`. -/
def stalePending (cfg : Config) (db : Db) (now : Instant) (bid : MarketBid) : Bool :=
  bid.direction = .outgoing && bid.status = .pending &&
    match (db.books.cycles.get? bid.cycleId).bind Cycle.marketLastBidAt with
    | some lastBidAt => lastBidAt + cfg.timeoutGrace ≤ now
    | none => false

def expireBid (cfg : Config) (db : Db) (now : Instant) (bid : MarketBid) : MarketBid :=
  if staleAccepted db now bid || stalePending cfg db now bid then { bid with status := .expired }
  else bid

@[simp] theorem expireBid_idpk (cfg : Config) (db : Db) (now : Instant) (bid : MarketBid) :
    (expireBid cfg db now bid).idpk = bid.idpk := by
  unfold expireBid
  split <;> rfl

/-- The last part of the sweep: our own bids nobody will answer any more. -/
def expireBids (cfg : Config) (db : Db) (now : Instant) : Db :=
  { db with market := { db.market with
      bids := db.market.bids.mapRows (expireBid cfg db now) (expireBid_idpk cfg db now) } }

end SwapTimeouts

end EnergyNode
