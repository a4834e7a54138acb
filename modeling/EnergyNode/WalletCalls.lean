import EnergyNode.Locks

/-! The workers that call the wallet, as sessions see them: what each of their
transactions locks, and where the calls go out. A transaction that follows a
commit finds whatever database the others have left. -/
namespace EnergyNode
open Lib

namespace WalletCalls
open WalletEvents WalletRecovery

inductive Ask where
  | balance
  | getSwap (swapId : String)
  | propose (attempt : SwapDispatch.ProposalAttempt)
  | accept (swapId key : String)
  | cancel (swapId : String)
deriving DecidableEq

abbrev Work (α : Type) := Traced Lock Ask Fault α

def take (locks : List Lock) : Work Unit := Traced.take locks

def call (ask : Ask) : Work Unit := Traced.call ask

def lift (x : Result α) : Work α := Traced.lift x

def transaction (x : Work α) : Work α := Traced.transaction x

/-- A locked record takes what the wallet shows; `true` means it needs no POST. -/
def converge (cfg : Config) (db : Db) (record : SwapRecord) (seen : Observation) (now : Instant) :
    Work Bool := do
  take (Locks.observation db record seen)
  let (_, known) ← lift (applyWalletObservation cfg db record seen now)
  if known then take [.swap record.idpk]
  return known

section Propose
open SwapDispatch

/-- One turn of `dispatch_swap_proposals`: the databases its transactions find,
the records other replicas hold, and the answers of the wallet. -/
structure ProposeTurn where
  claiming : Db
  skipped : List String
  known : Db
  recovering : Db
  settling : Db
  seen : GetAnswer
  answer : WriteAnswer

variable (cfg : Config) (now : Instant) (turn : ProposeTurn)

def claim : Work (Option ProposalAttempt) := do
  take (((candidate? cfg turn.claiming.market turn.skipped now).map fun r =>
    Lock.swap r.idpk).toList)
  let (_, attempt) ← lift (claimOne cfg turn.claiming turn.skipped now)
  return attempt

/-- The GET before a repeated POST. -/
def recoverClaim (attempt : ProposalAttempt) : Work Bool :=
  if attempt.attemptCount ≤ 1 then return false
  else match (turn.known.market.swaps.get? attempt.idpk).bind SwapRecord.swapId with
    | none => return false
    | some swapId => do
        if swapId = "" then return false
        call (.getSwap swapId)
        match inspectKnownSwap (some swapId) turn.seen with
        | none => return false
        | some seen => transaction do
            take (Locks.swapRow turn.recovering attempt.idpk)
            match turn.recovering.market.swaps.get? attempt.idpk with
            | none => return false
            | some record =>
                if record.proposalClaimToken ≠ some attempt.claimToken then return false
                converge cfg turn.recovering record seen now

/-- The transaction after the POST: the outcome, then what a 200 shows. -/
def settleClaim (attempt : ProposalAttempt) : Work Unit := do
  take (Locks.swapRow turn.settling attempt.idpk)
  let db := SwapDispatch.finish turn.settling attempt (judge turn.answer).1 now
  match (judge turn.answer).2, db.market.swaps.get? attempt.idpk with
  | some seen, some record =>
      if record.swapId = some seen.swapId then
        take (Locks.observation db record seen)
        let _ ← lift (applyWalletObservation cfg db record seen now)
  | _, _ => return ()

def propose : Work Bool := do
  match ← transaction (claim cfg now turn) with
  | none => return false
  | some attempt =>
      if ← recoverClaim cfg now turn attempt then return true
      call (.propose attempt)
      transaction (settleClaim cfg now turn attempt)
      return true

/-- `dispatch_swap_proposals`. -/
def dispatchSwapProposals : List ProposeTurn → Work Unit
  | [] => return ()
  | turn :: turns => do
      if ← propose cfg now turn then dispatchSwapProposals turns

end Propose

section Accept
open SwapAccept

/-- The turn of one record in `accept_pending_swaps`. -/
structure AcceptTurn where
  idpk : String
  leasing : Db
  recovering : Db
  sending : Db
  checking : Db
  finishing : Db
  seen : GetAnswer
  answer : SwapDispatch.WriteAnswer
  checked : GetAnswer

/-- The turn of one accepted bid, with the keys its token is verified with. -/
structure BidTurn where
  idpk : String
  found : Db
  jwks : Jwks

variable (cfg : Config) (jwt : Jwt) (now : Instant)

/-- The record phase 1 inserts is locked like an updated one. -/
def takeBid (bid : BidTurn) : Work Unit :=
  transaction (take
    (((takeAcceptedBid cfg jwt bid.found bid.idpk bid.jwks now).market.swaps.rows.drop
      bid.found.market.swaps.rows.length).map fun r => .swap r.idpk))

variable (turn : AcceptTurn)

/-- `session.refresh(record, with_for_update=True)`. -/
def refresh (db : Db) (idpk : String) : Work SwapRecord := do
  take (Locks.swapRow db idpk)
  match db.market.swaps.get? idpk with
  | none => lift (.error .database)
  | some record => return record

def leaseRecord : Work (Option SwapRecord) := do
  let record ← refresh turn.leasing turn.idpk
  if record.status.terminal || waiting record now then return none
  return some record

/-- What a GET shows, under the row lock; a terminal record needs no more. -/
def checkRecord (db : Db) (swapId : Option String) (answer : GetAnswer) : Work Bool := do
  match swapId with
  | none => return false
  | some swapId =>
      if swapId = "" then return false
      call (.getSwap swapId)
      match inspectKnownSwap (some swapId) answer with
      | none => return false
      | some seen => transaction do
          let record ← refresh db turn.idpk
          if record.status.terminal then return true
          converge cfg db record seen now

/-- The sentinel before the POST; `none` is skipped. -/
def markSent : Work (Option SwapRecord) := do
  let record ← refresh turn.sending turn.idpk
  if SwapTimeouts.passed record.expiresAt now ∨ record.status.terminal ∨
      (record.status = .acceptSubmitted ∧ record.acceptError = none) then return none
  return some record

/-- `execute_accept_swap`; a missing key is stored first. -/
def executeAcceptSwap (record : SwapRecord) : Work Unit :=
  match record.swapId.filter (· ≠ "") with
  | none => lift (.error (.value ("No se puede aceptar swap " ++ record.idpk ++
      " sin swap_id asignado")))
  | some swapId => do
      match record.acceptIdempotencyKey.filter (· ≠ "") with
      | none =>
          transaction (take [.swap record.idpk])
          call (.accept swapId (cfg.uuid4 (keysInUse turn.sending)))
      | some key => call (.accept swapId key)

def outcome : Work SwapAccept.Outcome :=
  match outcomeOf turn.answer with
  | none => lift (.error .type)
  | some outcome => return outcome

/-- A refused POST is checked once more before the outcome is stored. -/
def concludePost (record : SwapRecord) (outcome : SwapAccept.Outcome) : Work Unit := do
  if let .rejected _ := outcome then
    if ← checkRecord cfg now turn turn.checking record.swapId turn.checked then return ()
  let _ ← transaction (refresh turn.finishing turn.idpk)

def postRecord : Work Unit := do
  match ← transaction (markSent now turn) with
  | none => return ()
  | some record =>
      executeAcceptSwap cfg turn record
      concludePost cfg now turn record (← outcome turn)

/-- `_accept_record`: the lease, a look at a swap posted before, then the POST. -/
def acceptRecord : Work Unit := do
  match ← transaction (leaseRecord now turn) with
  | none => return ()
  | some record =>
      if 0 < record.acceptAttempts then
        if ← checkRecord cfg now turn turn.recovering record.swapId turn.seen then return ()
      postRecord cfg now turn

/-- `accept_pending_swaps`: the accepted bids, then the records. -/
def acceptPendingSwaps (bids : List BidTurn) (turns : List AcceptTurn) : Work Unit := do
  bids.forM (takeBid cfg jwt now)
  turns.forM (acceptRecord cfg now)

end Accept

section Expire
open SwapTimeouts

variable (cfg : Config) (now : Instant) (answers : String → GetAnswer)

/-- `_stale_records`; the rows are kept in the order of their ids. -/
def staleRecords (db : Db) (limit : Nat) : List SwapRecord :=
  (db.market.swaps.rows.filter fun record => stale record now).take limit

/-- Whether the wallet is asked for the state of the record. -/
def consulted (record : SwapRecord) : Bool := !neverSent record && !blank record.swapId

/-- An expired swap that the wallet still holds alive is cancelled there. -/
def cancels (record : SwapRecord) (answer : GetAnswer) : Bool :=
  match record.swapId, answer with
  | some swapId, .body (.obj response) =>
      sameSwap response swapId && statusText response ∈ ["proposed","accepted"] &&
        passed record.expiresAt now
  | _, _ => false

/-- The turn of one record in the sweep; the session shows what it wrote before,
flushed or not. -/
def expireOne (db : Db) (unflushed : List Lock) (idpk : String) : Work (Db × List Lock) :=
  match db.market.swaps.get? idpk with
  | none => return (db, unflushed)
  | some record => do
      let answer := answers idpk
      if consulted record then
        call (.getSwap (record.swapId.getD ""))
        if cancels now record answer then call (.cancel (record.swapId.getD ""))
      let sent := Locks.sweepRecord db record answer
      take (Locks.taken unflushed sent)
      let (db, _) ← lift (sweepRecord cfg db record answer now)
      return (db, Locks.left unflushed sent)

/-- `expire_stale_swaps`, up to the bids it expires without the wallet. -/
def sweep : Db → List Lock → List SwapRecord → Work (Db × List Lock)
  | db, unflushed, [] => return (db, unflushed)
  | db, unflushed, record :: records => do
      let (db, unflushed) ← expireOne cfg now answers db unflushed record.idpk
      sweep db unflushed records

def expireStaleSwaps (db : Db) (limit : Nat) : Work Db := do
  let (db, unflushed) ← sweep cfg now answers db [] (staleRecords now db limit)
  take (unflushed ++ (db.market.bids.rows.filter fun bid => expireBid cfg db now bid ≠ bid).map
    fun bid => .bid bid.idpk)
  return expireBids cfg db now

end Expire

section Buy
open AutonomousBuy Buying

/-- One tick for one cycle; `buying n` is found once `n` bids are committed. -/
structure BuyTurn where
  cycleId : String
  looking : Db
  deciding : Db
  buying : Nat → Db
  balance : Option Balance

variable (cfg : Config) (now : Instant)

/-- The tick reads the cycle and the offers before it asks for the balance. -/
def shops (db : Db) (cycleId : String) : Bool :=
  match db.books.cycles.get? cycleId with
  | none => false
  | some cycle => 0 < deficit cycle && (window db cycleId now).toOption.isSome

def buyOffers (found : Nat → Db) (l : Loop) : List BookOffer → Work Unit
  | [] => return ()
  | o :: rest =>
      if maxBids ≤ l.bought.length ∨ l.remaining ≤ 0 then return ()
      else match quote l o with
        | none => buyOffers found l rest
        | some (quantity, price) => do
            let db := found l.bought.length
            let order := order cfg db l o.snapshot.offerId quantity
            take (Locks.enqueueBuyBid cfg db order l.now)
            match (Buying.enqueueBuyBid cfg db order l.now).2 with
            | .refused _ => buyOffers found l rest
            | .duplicate => buyOffers found (bought l order price) rest
            | .created =>
                Traced.commit
                buyOffers found (bought l order price) rest

/-- `autonomous_buy_tick`. -/
def autonomousBuyTick (turn : BuyTurn) : Work Unit := do
  if shops now turn.looking turn.cycleId then
    call .balance
    match look cfg turn.looking turn.cycleId now turn.balance with
    | none => return ()
    | some plan =>
        take [.city]
        match opening plan turn.deciding.market with
        | none => return ()
        | some l => buyOffers cfg turn.buying l plan.candidates

/-- `run_autonomous_buy_tick`: a session for each cycle. -/
def runAutonomousBuyTick (turns : List BuyTurn) : Work Unit :=
  turns.forM fun turn => Traced.closing (autonomousBuyTick cfg now turn)

end Buy

end WalletCalls

end EnergyNode
