import EnergyNode.SwapTimeouts
import EnergyNode.SwapTokens
import EnergyNode.SwapDispatch

/-! The buyer's side of a swap: an accepted bid becomes an acceptance record
once its token is verified, and the record is posted to the wallet under one
durable key. -/
namespace EnergyNode
open Lib

namespace SwapAccept
open WalletEvents WalletRecovery SwapTimeouts SwapTokens

/-- `_decimal`, with its default of zero. -/
def decimal (value : Json) : ℚ := (Decimal.number value).getD 0

/-- `_accepted_bid_candidates`, bid by bid. -/
def awaitsAcceptance (market : Market) (bid : MarketBid) : Bool :=
  bid.direction = .outgoing && bid.status = .accepted && bid.swapId.isSome && !linked market bid

def expectedOf (bid : MarketBid) (data : Fields) (memo : String) : Expected where
  swapId := bid.swapId
  proposer := bid.counterpartCityId
  give := ⟨.kwh,bid.quantity⟩
  take := ⟨.cr,decimal (data.get "amount")⟩
  memo := memo

/-- `_verify_bid_token`. -/
def verifyBidToken (jwt : Jwt) (jwks : Jwks) (bid : MarketBid) (data : Fields) (now : Instant) :
    Except String Fields := do
  let some expiresAt := parseInstant (data.get "expiresAt") | throw "SWAP_TOKEN_INVALID_EXPIRY"
  if expiresAt ≤ now then throw "SWAP_TOKEN_EXPIRED"
  let some offerId := ((data.get "offerId").text?).filter (· ≠ "")
    | throw "SWAP_TOKEN_MEMO_MISMATCH"
  verifySwapToken jwt jwks (data.get "swapToken") (expectedOf bid data offerId) now

def claimLeg (claims : Fields) (name : String) : Leg :=
  match claims.get name with
  | .obj leg =>
      ⟨(assetOf (Fields.get leg "asset")).getD (.other ""),decimal (Fields.get leg "amount")⟩
  | _ => ⟨.other "",0⟩

/-- Keys already in use, which a new acceptance key must avoid. -/
def keysInUse (db : Db) : List String :=
  db.market.swaps.rows.map SwapRecord.idpk ++ db.market.swaps.rows.map SwapRecord.idempotencyKey ++
    db.market.bids.rows.map MarketBid.idpk ++ db.processed.rows.map ProcessedIdpk.idpk

def newAcceptorRecord (bid : MarketBid) (data claims : Fields) (key : String) (now : Instant) :
    SwapRecord where
  idpk := key
  swapId := bid.swapId
  cycleId := bid.cycleId
  role := .acceptor
  counterpartCityId := bid.counterpartCityId
  giveAsset := (claimLeg claims "take").asset
  giveAmount := (claimLeg claims "take").amount
  takeAsset := (claimLeg claims "give").asset
  takeAmount := (claimLeg claims "give").amount
  idempotencyKey := key
  acceptIdempotencyKey := some key
  swapToken := (data.get "swapToken").text?
  expiresAt := parseInstant (data.get "expiresAt")
  sourceBidIdpk := some bid.idpk
  createdAt := now

def rejectedRecord (bid : MarketBid) (data : Fields) (reason key : String) (now : Instant) :
    SwapRecord where
  idpk := key
  swapId := bid.swapId
  cycleId := bid.cycleId
  role := .acceptor
  counterpartCityId := bid.counterpartCityId
  giveAsset := .cr
  giveAmount := decimal (data.get "amount")
  takeAsset := .kwh
  takeAmount := bid.quantity
  status := .rejected
  rejectionReason := some reason
  idempotencyKey := key
  swapToken := (data.get "swapToken").text?
  expiresAt := parseInstant (data.get "expiresAt")
  sourceBidIdpk := some bid.idpk
  acceptError := some reason
  createdAt := now

def addRecord (db : Db) (record : SwapRecord) : Db :=
  match db.market.swaps.insert? record with
  | some swaps => { db with market := { db.market with swaps := swaps } }
  | none => db

/-- Phase 1 of `accept_pending_swaps` for one bid. -/
def takeAcceptedBid (cfg : Config) (jwt : Jwt) (db : Db) (idpk : String) (jwks : Jwks)
    (now : Instant) : Db :=
  match (db.market.bids.get? idpk).filter (awaitsAcceptance db.market) with
  | none => db
  | some bid =>
      match acceptance? db bid with
      | none => db
      | some payload =>
          let key := cfg.uuid4 (keysInUse db)
          match verifyBidToken jwt jwks bid payload.data now with
          | .ok claims => addRecord db (newAcceptorRecord bid payload.data claims key now)
          | .error reason =>
              if retryable reason then db
              else addRecord db (rejectedRecord bid payload.data reason key now)

/-- The lasting part of `_accept_work`: an acceptance record with its key. -/
def isAcceptance (record : SwapRecord) : Bool :=
  record.role = .acceptor && record.sourceBidIdpk.isSome && record.acceptIdempotencyKey.isSome

def acceptance (db : Db) (idpk : String) : Option SwapRecord :=
  (db.market.swaps.get? idpk).filter isAcceptance

def waiting (record : SwapRecord) (now : Instant) : Bool :=
  match record.acceptRetryAt with
  | some time => now < time
  | none => false

/-- The status condition of `_accept_work`: no 202 is known yet. -/
def unanswered (record : SwapRecord) : Bool :=
  record.status = .submitted || (record.status = .acceptSubmitted && record.acceptError.isSome)

/-- The selection of `_accept_work`, record by record. -/
def acceptWork (record : SwapRecord) (now : Instant) : Bool :=
  isAcceptance record && !waiting record now && unanswered record

/-- The lease that keeps another replica from the same POST. -/
def lease (db : Db) (idpk : String) (now : Instant) : Db :=
  match acceptance db idpk with
  | none => db
  | some record =>
      if record.status.terminal || waiting record now then db
      else storeRecord db { record with acceptRetryAt := some (now + seconds 30) }

def settled (db : Db) (idpk : String) : Db :=
  match db.market.swaps.get? idpk with
  | none => db
  | some record => storeRecord db { record with acceptRetryAt := none }

/-- What a GET shows before another POST, or after a refused one. -/
def recover (cfg : Config) (db : Db) (idpk : String) (answer : GetAnswer) (now : Instant) :
    Result (Db × Bool) :=
  match acceptance db idpk with
  | none => .ok (db, false)
  | some record =>
      match inspectKnownSwap record.swapId answer with
      | none => .ok (db, false)
      | some seen =>
          if record.status.terminal then .ok (settled db idpk, true)
          else do
            let (db, known) ← applyWalletObservation cfg db record seen now
            if known then return (settled db idpk, true)
            return (db, false)

/-- A `POST /swaps/{id}/accept` on its way to the wallet. -/
structure AcceptPost where
  swapId : String
  key : String
  recordIdpk : String
deriving DecidableEq

/-- The durable sentinel, and the POST that leaves right after it. -/
def send (db : Db) (idpk : String) (now : Instant) : Db × Option AcceptPost :=
  match acceptance db idpk with
  | none => (db, none)
  | some record =>
      if passed record.expiresAt now ∨ record.status.terminal ∨
          (record.status = .acceptSubmitted ∧ record.acceptError = none) then
        (settled db idpk, none)
      else
        let record := { record with
          acceptAttempts := record.acceptAttempts + 1
          acceptAttemptedAt := some now
          acceptError := some "WALLET_IN_FLIGHT"
          status := .acceptSubmitted }
        (storeRecord db record, match record.swapId, record.acceptIdempotencyKey with
          | some swapId, some key =>
              if swapId = "" then none else some ⟨swapId,key,record.idpk⟩
          | _, _ => none)

inductive Outcome where
  | accepted
  | retry (code : String) (retryAfter : Option Int)
  | rejected (code : Nat)
deriving DecidableEq

/-- RETRYABLE_WALLET_STATUSES. -/
def retryableStatus (code : Nat) : Bool := code ∈ [408,425,429,500,502,503,504]

/-- The number an f-string spells. -/
def spelled : Option Int → String
  | some n => toString n
  | none => "None"

/-- A body that is no JSON raises, and the record stays in flight. -/
def outcomeOf (answer : SwapDispatch.WriteAnswer) : Option Outcome :=
  match answer with
  | .response 202 _ => some .accepted
  | .response status _ => some (.retry ("UNEXPECTED_HTTP_" ++ toString status) none)
  | .rateLimit retryAfter =>
      some (.retry ("WALLET_RATE_LIMIT:" ++ spelled retryAfter) retryAfter)
  | .timeout => some (.retry "WALLET_TIMEOUT" none)
  | .error (some code) retryAfter =>
      if retryableStatus code then
        some (.retry ("WALLET_ERROR:" ++ toString code) retryAfter)
      else some (.rejected code)
  | .error none retryAfter => some (.retry "WALLET_ERROR:None" retryAfter)
  | .malformed => none

/-- The last transaction: an event that arrived meanwhile is never overwritten. -/
def finish (db : Db) (idpk : String) (outcome : Outcome) (now : Instant) : Db :=
  match acceptance db idpk with
  | none => db
  | some record =>
      if record.status.terminal then settled db idpk
      else match outcome with
        | .accepted =>
            storeRecord db { record with
              status := .acceptSubmitted, acceptError := none, acceptRetryAt := none }
        | .retry code retryAfter =>
            let base : Int := min 60 (2 ^ min record.acceptAttempts 6)
            let wait := max 1 (match retryAfter with
              | some seconds => max base seconds
              | none => base)
            storeRecord db { record with
              acceptError := some code, acceptRetryAt := some (now + seconds wait) }
        | .rejected code =>
            storeRecord db { record with
              status := .rejected
              rejectionReason := some ("WALLET_" ++ toString code)
              acceptError := some ("WALLET_ERROR:" ++ toString code)
              acceptRetryAt := none }

/-- The answer of the POST; a definitive refusal is checked with a GET first. -/
def settleAnswer (cfg : Config) (db : Db) (idpk : String) (answer : SwapDispatch.WriteAnswer)
    (check : GetAnswer) (now : Instant) : Result Db :=
  match outcomeOf answer with
  | none => .ok db
  | some (.rejected code) => do
      let (db, known) ← recover cfg db idpk check now
      if known then return db
      return finish db idpk (.rejected code) now
  | some outcome => .ok (finish db idpk outcome now)

end SwapAccept

end EnergyNode
