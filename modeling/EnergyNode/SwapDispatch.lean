import EnergyNode.WalletRecovery
import EnergyNode.SellerBids

/-! Durable dispatch of swap proposals. A proposal is claimed in one
transaction, posted to the wallet outside any, and its answer stored in
another, always under the idempotency key of the record. -/
namespace EnergyNode
open Lib

namespace SwapDispatch
open WalletEvents WalletRecovery

structure ProposalAttempt where
  idpk : String
  claimToken : String
  idempotencyKey : String
  giveAmount : ℚ
  takeAmount : ℚ
  counterpartCityId : String
  memo : String
  expiresAt : Instant
  attemptCount : Nat
deriving DecidableEq

def leaseSeconds : Int := 40

def notAfter (limit : Option Instant) (now : Instant) : Bool :=
  match limit with
  | some time => time ≤ now
  | none => true

/-- The proposal is ours, unsent or unanswered, and nobody holds its lease. -/
def dispatchable (record : SwapRecord) (now : Instant) : Bool :=
  record.role = .proposer && record.status = .submitted && record.giveAsset = .kwh &&
    record.takeAsset = .cr && record.proposalHttpAcceptedAt.isNone &&
    record.proposalBlockedAt.isNone &&
    (match record.proposalExpiresAt with
      | some time => now + seconds 3 < time
      | none => true) &&
    notAfter record.proposalRetryAt now && notAfter record.proposalLeaseUntil now

/-- The joins of `_claim_one`: the bid is reserved and its HOLD stands on our offer. -/
def backed (cfg : Config) (market : Market) (record : SwapRecord) : Bool :=
  match market.bids.get? record.idpk, market.reservations.get? record.idpk with
  | some bid, some reservation =>
      match market.offers.get? reservation.offerId with
      | some offer =>
          bid.direction = .incoming && bid.status = .reserved && bid.cycleId = record.cycleId &&
          bid.offerId = offer.offerId && bid.counterpartCityId = record.counterpartCityId &&
          reservation.status = .hold && reservation.quantity = bid.quantity &&
          record.memo = some offer.offerId && offer.cycleId = record.cycleId &&
          offer.isLocal && offer.cityId = cfg.cityId
      | none => false
  | _, _ => false

def candidate? (cfg : Config) (market : Market) (locked : List String) (now : Instant) :
    Option SwapRecord :=
  ((market.swaps.rows.filter fun r =>
    dispatchable r now && backed cfg market r && r.idpk ∉ locked).insertionSort
      fun a b => a.createdAt ≤ b.createdAt).head?

def validIntent (record : SwapRecord) : Result Unit := do
  unless (uuidText record.idempotencyKey).isSome do
    throw (.value "badly formed hexadecimal UUID string")
  if blank record.memo ∨ record.giveAmount ≤ 0 ∨ record.giveAmount.den ≠ 1 then
    throw (.value "SWAP_INTENT_INVALID_KWH")
  if record.takeAmount < 0 ∨ record.takeAmount ≠ centsHalfEven record.takeAmount then
    throw (.value "SWAP_INTENT_INVALID_CR")

def claimTokens (market : Market) : List String :=
  market.swaps.rows.filterMap SwapRecord.proposalClaimToken

def claimed (cfg : Config) (market : Market) (record : SwapRecord) (now : Instant) : SwapRecord :=
  { record with
    proposalExpiresAt := some (record.proposalExpiresAt.getD (now + seconds 55))
    proposalClaimToken := some (cfg.uuid4 (claimTokens market))
    proposalLeaseUntil := some (now + seconds leaseSeconds)
    proposalAttemptCount := record.proposalAttemptCount + 1 }

def attemptOf (record : SwapRecord) : ProposalAttempt where
  idpk := record.idpk
  claimToken := record.proposalClaimToken.getD ""
  idempotencyKey := record.idempotencyKey
  giveAmount := record.giveAmount
  takeAmount := record.takeAmount
  counterpartCityId := record.counterpartCityId
  memo := record.memo.getD ""
  expiresAt := record.proposalExpiresAt.getD 0
  attemptCount := record.proposalAttemptCount

/-- `_claim_one`; records in `locked` are skipped. -/
def claimOne (cfg : Config) (db : Db) (locked : List String) (now : Instant) :
    Result (Db × Option ProposalAttempt) :=
  match candidate? cfg db.market locked now with
  | none => .ok (db, none)
  | some record => do
      validIntent record
      let record := claimed cfg db.market record now
      return (storeRecord db record, some (attemptOf record))

inductive Outcome where
  | accepted | replayed | recovered | blocked | retry
deriving DecidableEq

/-- What the HTTP exchange of one attempt established. -/
structure Verdict where
  outcome : Outcome
  errorCode : Option String := none
  retryAfter : Option Int := none
  confirmedSwapId : Option String := none
deriving DecidableEq

def backoff (attempts : Nat) (retryAfter : Option Int) : Int :=
  let base : Int := min 60 (2 ^ min attempts 6)
  match retryAfter with
  | some seconds => max base (max 1 seconds)
  | none => base

def released (record : SwapRecord) : SwapRecord :=
  { record with proposalClaimToken := none, proposalLeaseUntil := none }

def Outcome.confirmed : Outcome → Bool
  | accepted | replayed => true
  | _ => false

/-- A record an event already moved keeps what the event left. -/
def finishMoved (record : SwapRecord) (verdict : Verdict) (now : Instant) : SwapRecord :=
  { released record with
    proposalRetryAt := none
    proposalHttpAcceptedAt :=
      if verdict.outcome.confirmed then some now else record.proposalHttpAcceptedAt }

def answered (record : SwapRecord) (verdict : Verdict) : SwapRecord :=
  { released record with
    proposalLastError := verdict.errorCode
    swapId := if blank record.swapId && !blank verdict.confirmedSwapId then verdict.confirmedSwapId
      else record.swapId }

def finishLive (record : SwapRecord) (attempts : Nat) (verdict : Verdict) (now : Instant) :
    SwapRecord :=
  let record := answered record verdict
  match verdict.outcome with
  | .accepted | .replayed =>
      { record with
        proposalHttpAcceptedAt := some now, proposalRetryAt := none, proposalBlockedAt := none }
  | .recovered => { record with proposalRetryAt := none }
  | .blocked => { record with proposalBlockedAt := some now, proposalRetryAt := none }
  | .retry =>
      { record with proposalRetryAt := some (now + seconds (backoff attempts verdict.retryAfter)) }

/-- `_finish`: a lost lease leaves the record to its new owner. -/
def finish (db : Db) (attempt : ProposalAttempt) (verdict : Verdict) (now : Instant) : Db :=
  match db.market.swaps.get? attempt.idpk with
  | none => db
  | some record =>
      if record.proposalClaimToken ≠ some attempt.claimToken then db
      else if record.status.terminal ∨ record.status = .proposed then
        storeRecord db (finishMoved record verdict now)
      else storeRecord db (finishLive record attempt.attemptCount verdict now)

/-- The answer of `POST /swaps`. -/
inductive WriteAnswer where
  | response (status : Nat) (data : Json)
  | rateLimit (retryAfter : Option Int)
  | timeout
  | error (code : Option Nat) (retryAfter : Option Int)
  | malformed

def errorName (code : Option Nat) : String :=
  match code with
  | some n => "WALLET_HTTP_" ++ toString n
  | none => "WALLET_ERROR"

def refusedForGood (code : Option Nat) : Bool :=
  match code with
  | some n => 400 ≤ n && n < 500 && n ≠ 429
  | none => false

/-- The verdict of an answer, with the state a repeated POST reports. -/
def judge : WriteAnswer → Verdict × Option Observation
  | .response 202 data =>
      match (data.obj?.bind fun d => (Fields.get d "swapId").text?).filter (· ≠ "") with
      | some swapId => ({ outcome := .accepted, confirmedSwapId := some swapId }, none)
      | none => ({ outcome := .accepted, errorCode := some "HTTP_202_MISSING_SWAP_ID" }, none)
  | .response 200 data =>
      match observationFromSwapState data none with
      | some seen => ({ outcome := .replayed, confirmedSwapId := some seen.swapId }, some seen)
      | none => ({ outcome := .retry, errorCode := some "MALFORMED_WALLET_REPLAY" }, none)
  | .response status _ =>
      ({ outcome := .retry, errorCode := some ("UNEXPECTED_HTTP_" ++ toString status) }, none)
  | .rateLimit retryAfter =>
      ({ outcome := .retry, errorCode := some "RATE_LIMIT_429", retryAfter := retryAfter }, none)
  | .timeout => ({ outcome := .retry, errorCode := some "TIMEOUT_OR_NETWORK" }, none)
  | .error code retryAfter =>
      ({ outcome := if refusedForGood code then .blocked else .retry
         errorCode := some (errorName code), retryAfter := retryAfter }, none)
  | .malformed => ({ outcome := .retry, errorCode := some "MALFORMED_WALLET_RESPONSE" }, none)

/-- The recovery transaction before a repeated POST; `true` skips the POST. -/
def recoverAttempt (cfg : Config) (db : Db) (attempt : ProposalAttempt)
    (observation : Observation) (now : Instant) : Result (Db × Bool) :=
  match db.market.swaps.get? attempt.idpk with
  | none => .ok (db, false)
  | some record =>
      if record.proposalClaimToken ≠ some attempt.claimToken then .ok (db, false)
      else do
        let (db, known) ← applyWalletObservation cfg db record observation now
        if known then return (finish db attempt { outcome := .recovered } now, true)
        return (db, false)

/-- The transaction that stores the answer of the POST. -/
def settleAttempt (cfg : Config) (db : Db) (attempt : ProposalAttempt) (answer : WriteAnswer)
    (now : Instant) : Result Db :=
  let (verdict, replay) := judge answer
  let db := finish db attempt verdict now
  match replay, db.market.swaps.get? attempt.idpk with
  | some seen, some record =>
      if record.swapId = some seen.swapId then
        (applyWalletObservation cfg db record seen now).map Prod.fst
      else .ok db
  | _, _ => .ok db

end SwapDispatch

end EnergyNode
