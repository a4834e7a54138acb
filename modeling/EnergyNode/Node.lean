import EnergyNode.Buying
import EnergyNode.Ingest
import EnergyNode.SwapAccept

/-! The node as one transition system. Every action is a transaction of one of
its processes (API, workers, scheduler) together with the input it received;
a fault rolls the transaction back. -/
namespace EnergyNode
open Lib

/-- The node and the third parties its results depend on. -/
structure Env where
  cfg : Config
  jwt : Jwt

namespace Node

inductive Action where
  /-- A protocol message handed over by the connector. -/
  | ingest (payload : Payload) (now : Instant)
  /-- A message of the market feed. -/
  | feed (payload : Payload)
  /-- The acceptance policies; offers in `locked` are held elsewhere. -/
  | sellerBids (locked : List String) (maxOffers : Nat) (now : Instant)
  | sellerOffer (cycleId : String) (walletAvailable : ℚ) (now : Instant)
  | reprice (offerId : String) (price : Decimal) (now : Instant)
  | withdraw (offerId : String) (now : Instant)
  | closeExpired (now : Instant)
  /-- Dispatch of proposals: claim, look before a repeat, store the answer. -/
  | claimProposal (locked : List String) (now : Instant)
  | recoverProposal (attempt : SwapDispatch.ProposalAttempt) (answer : WalletRecovery.GetAnswer)
      (now : Instant)
  | settleProposal (attempt : SwapDispatch.ProposalAttempt) (answer : SwapDispatch.WriteAnswer)
      (now : Instant)
  /-- The sweep, record by record, and its end. -/
  | sweep (idpk : String) (answer : WalletRecovery.GetAnswer) (now : Instant)
  | expireBids (now : Instant)
  /-- Acceptance of swaps: take a bid, lease, look, send, store the answer. -/
  | takeAccepted (idpk : String) (jwks : Jwks) (now : Instant)
  | leaseAccept (idpk : String) (now : Instant)
  | recoverAccept (idpk : String) (answer : WalletRecovery.GetAnswer) (now : Instant)
  | sendAccept (idpk : String) (now : Instant)
  | settleAccept (idpk : String) (answer : SwapDispatch.WriteAnswer)
      (check : WalletRecovery.GetAnswer) (now : Instant)
  /-- Purchases and the publication of the outbox. -/
  | buy (order : Buying.Order) (now : Instant)
  | renewBids (now : Instant)
  | published (msgId : String)
  | publishFailed (msgId error : String)
  | closeMarkets (locked : List String) (now : Instant)

def attempted (db : Db) (result : Result Db) : Db :=
  match result with
  | .ok done => done
  | .error _ => db

def recoverProposal (cfg : Config) (db : Db) (attempt : SwapDispatch.ProposalAttempt)
    (answer : WalletRecovery.GetAnswer) (now : Instant) : Result Db :=
  match WalletRecovery.inspectKnownSwap
      ((db.market.swaps.get? attempt.idpk).bind SwapRecord.swapId) answer with
  | none => .ok db
  | some seen => (SwapDispatch.recoverAttempt cfg db attempt seen now).map Prod.fst

def sweep (cfg : Config) (db : Db) (idpk : String) (answer : WalletRecovery.GetAnswer)
    (now : Instant) : Result Db :=
  match (db.market.swaps.get? idpk).filter fun r => SwapTimeouts.stale r now with
  | none => .ok db
  | some record => (SwapTimeouts.sweepRecord cfg db record answer now).map Prod.fst

def closeMarkets (cfg : Config) (db : Db) (locked : List String) (now : Instant) : Result Db :=
  (CycleAccounting.finalizeClosedMarkets cfg db.books locked now).map fun swept =>
    { db with books := swept.1 }

/-- The state after an action. -/
def step (env : Env) (db : Db) : Action → Db
  | .ingest payload now => (Ingest.ingest env.cfg env.jwt db payload now).1
  | .feed payload => MarketFeed.persist env.cfg db payload
  | .sellerBids locked maxOffers now =>
      attempted db ((SellerBids.processDueSellerBids env.cfg db locked maxOffers now).map Prod.fst)
  | .sellerOffer cycleId walletAvailable now =>
      attempted db (SellerOffers.enqueueSellerOffer env.cfg db cycleId walletAvailable now)
  | .reprice offerId price now =>
      attempted db (SellerOffers.changeLocalOfferPrice env.cfg db offerId price now)
  | .withdraw offerId now => attempted db (SellerOffers.withdrawLocalOffer env.cfg db offerId now)
  | .closeExpired now => SellerOffers.closeExpiredLocalOffers env.cfg db now
  | .claimProposal locked now =>
      attempted db ((SwapDispatch.claimOne env.cfg db locked now).map Prod.fst)
  | .recoverProposal attempt answer now =>
      attempted db (recoverProposal env.cfg db attempt answer now)
  | .settleProposal attempt answer now =>
      attempted db (SwapDispatch.settleAttempt env.cfg db attempt answer now)
  | .sweep idpk answer now => attempted db (sweep env.cfg db idpk answer now)
  | .expireBids now => SwapTimeouts.expireBids env.cfg db now
  | .takeAccepted idpk jwks now => SwapAccept.takeAcceptedBid env.cfg env.jwt db idpk jwks now
  | .leaseAccept idpk now => SwapAccept.lease db idpk now
  | .recoverAccept idpk answer now =>
      attempted db ((SwapAccept.recover env.cfg db idpk answer now).map Prod.fst)
  | .sendAccept idpk now => (SwapAccept.send db idpk now).1
  | .settleAccept idpk answer check now =>
      attempted db (SwapAccept.settleAnswer env.cfg db idpk answer check now)
  | .buy order now => (Buying.enqueueBuyBid env.cfg db order now).1
  | .renewBids now => Buying.renewFailed env.cfg db now
  | .published msgId => { db with outbox := Buying.markPublished db.outbox msgId }
  | .publishFailed msgId error => { db with outbox := Buying.markFailed db.outbox msgId error }
  | .closeMarkets locked now => attempted db (closeMarkets env.cfg db locked now)

/-- An environment whose JWT library reads no token. -/
def offline (cityId : String) (pool : List String) : Env where
  cfg := .drawing cityId pool
  jwt := ⟨fun _ => none,fun _ => none,fun _ => false,fun _ _ _ => .error "SWAP_TOKEN_MALFORMED"⟩

/-- The envelope of another city's bid. -/
def bidMessage (idpk msgId cycleId buyer offerId : String) (quantity : Int)
    (named : idpk ≠ "" := by decide) : Payload where
  idpk := idpk
  named := named
  msgId := msgId
  type := .bid
  timestamp := 0
  cycleId := some cycleId
  cityId := some buyer
  data := [("offerId",.str offerId),("quantity",.int quantity)]

/-- The envelope of a wallet event. -/
def walletMessage (type : MessageType) (idpk msgId : String) (data : Fields)
    (extra : Fields := []) (named : idpk ≠ "" := by decide) : Payload where
  idpk := idpk
  named := named
  msgId := msgId
  type := type
  timestamp := 0
  sender := some "central"
  data := data
  extra := extra

/-- A cycle open for trade from instant 0, and nothing else. -/
def openCycle (cycleId : String) : Cycle where
  cycleId := cycleId
  statusIdpk := some "statement"
  validUntil := some (seconds 1000)
  strategyVersion := some 1
  marketOpensAt := some 0
  marketLastOfferAt := some (seconds 100)
  marketLastBidAt := some (seconds 200)
  marketClosesAt := some (seconds 300)
  statusPayload :=
    [("energy",.obj [("sellable",.int 100),("generationCost",.int 1)]),
      ("market",.obj [("minBid",.int 1),("buybackPrice",.int 1)])]

/-- A city whose first drawn identifier is `lease`. -/
def lease : String := "7f000000-0000-0000-0000-000000000001"

def seller : Env := offline "AAA" [lease]

/-- A bid on our offer of C1, whose proposal the wallet accepts as `swapId`. -/
def proposed (idpk msgId swapId : String) (quantity : Int) (now : Instant)
    (named : idpk ≠ "" := by decide) : List Action :=
  let attempt : SwapDispatch.ProposalAttempt :=
    { idpk := idpk, claimToken := lease, idempotencyKey := idpk, giveAmount := quantity
      takeAmount := 0, counterpartCityId := "BBB", memo := "AAA-C1", expiresAt := now
      attemptCount := 1 }
  [.ingest (bidMessage idpk msgId "C1" "BBB" "AAA-C1" quantity named) now,
    .claimProposal [] now,
    .settleProposal attempt (.response 202 (.obj [("swapId",.str swapId)])) now]

/-- A node that has traded nothing yet. -/
def opened (cycleId : String) : Db where
  books := { cycles := Table.empty.insert (openCycle cycleId) rfl }
  strategies := Table.empty.insert (Strategies.initial 0) rfl

/-- A message of cycle C1. -/
def envelope (type : MessageType) (idpk msgId : String) (city : Option String) (data : Fields)
    (named : idpk ≠ "" := by decide) : Payload where
  idpk := idpk
  named := named
  msgId := msgId
  type := type
  timestamp := 0
  cycleId := some "C1"
  cityId := city
  data := data

/-- The claims of a token that sells 10 kWh of BBB-C1 for 20 credits. -/
def promised : Fields :=
  [("exp",.int 120),("sub",.str "s9"),("proposer",.str "BBB"),("memo",.str "BBB-C1"),
    ("give",.obj [("asset",.str "KWH"),("amount",.int 10)]),
    ("take",.obj [("asset",.str "CR"),("amount",.int 20)])]

/-- A city whose JWT library reads those claims in every token. -/
def buyer : Env where
  cfg := .drawing "AAA" [lease]
  jwt :=
    { header := fun _ => some [("alg",.str "ES256"),("kid",.str "k1")]
      unverified := fun _ => some promised
      importable := fun _ => true
      decode := fun _ _ _ => .ok promised }

def purchaseIdpk : String := "30000000-0000-0000-0000-000000000001"

/-- An offer of BBB is bought, accepted by its seller and taken up as `lease`. -/
def purchase : List Action :=
  [.feed (envelope .offer "f1" "f2" (some "BBB")
      [("offerId",.str "BBB-C1"),("quantity",.int 50),("pricePerEnergy",.int 2)]),
    .ingest (envelope .distanceTable "d1" "d2" none [("distances",.obj [("BBB",.obj
      [("distance",.int 0),("enabled",.bool true),("transportCost",.int 0)])])]) 1,
    .buy ⟨"C1","BBB-C1",10,purchaseIdpk⟩ (seconds 61),
    .ingest (envelope .bidAccepted "a1" "a2" (some "BBB")
      [("target",.str lease),("offerId",.str "BBB-C1"),("quantity",.int 10),
        ("pricePerEnergy",.int 2),("amount",.int 20),("swapId",.str "s9"),("swapToken",.str "t"),
        ("expiresAt",.str "1970-01-01T00:02:00Z")]) (seconds 62),
    .takeAccepted purchaseIdpk
      (.keys [.obj [("kid",.str "k1"),("kty",.str "EC"),("crv",.str "P-256")]]) (seconds 63)]

end Node

end EnergyNode
