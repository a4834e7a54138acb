import EnergyNode.Node

/-! Autonomous buying (E2-054): a tick plans without a lock, decides under the
city lock after the wallet's answer, and then buys offer by offer. Every bid is
committed by itself, which releases the lock until the next one. -/
namespace EnergyNode
open Lib

/-- ACTIVE_BID_STATUSES. -/
def BidStatus.active : BidStatus → Bool
  | pending | accepted | reserved => true
  | _ => false

namespace AutonomousBuy
open Buying

structure Balance where
  crAvailable : Decimal
  creditLine : Decimal
deriving DecidableEq

/-- `_decimal`: what is missing or not finite counts as zero. -/
def amount (value : Decimal) : ℚ := value.finite?.getD 0

/-- What the wallet lets us spend, never below zero; the context keeps its digits of
every sum, product and quotient. -/
def capacity (b : Balance) : ℚ :=
  max 0 (keep Decimal.precision (amount b.crAvailable + amount b.creditLine))

/-- `_deficit`, rounded up to whole kWh. -/
def deficit (cycle : Cycle) : Int :=
  ⌈max 0 (cycle.consumption.getD 0 - cycle.generationCapacity.getD 0)⌉

/-- A bid of this tick. The code keeps the counters; the offer, the quantity and
the price are remembered here for the reader of a run. -/
structure Purchase where
  idpk : String
  cycleId : String
  quantity : Int
  price : ℚ
deriving DecidableEq

def Purchase.cost (p : Purchase) : ℚ := p.quantity * p.price

/-- What the tick knows before it takes the lock. -/
structure Plan where
  cycleId : String
  now : Instant
  deficit : Int
  minBid : Int
  candidates : List BookOffer
  capacity : ℚ
deriving DecidableEq

/-- The tick up to the wallet's answer; a `WalletError` is no balance. -/
def look (cfg : Config) (db : Db) (cycleId : String) (now : Instant) (balance : Option Balance) :
    Option Plan := do
  let cycle ← db.books.cycles.get? cycleId
  guard (0 < deficit cycle)
  let w ← (window db cycleId now).toOption
  let balance ← balance
  return { cycleId := cycleId, now := now, deficit := deficit cycle, minBid := w.minBid
           candidates := candidates cfg db cycleId w now, capacity := capacity balance }

/-- The loop between two commits. -/
structure Loop where
  cycleId : String
  now : Instant
  minBid : Int
  remaining : Int
  capacity : ℚ
  offers : List String
  bought : List Purchase := []
deriving DecidableEq

def activeBids (market : Market) (cycleId : String) : List MarketBid :=
  market.bids.rows.filter fun b =>
    b.cycleId = cycleId && b.direction = .outgoing && b.status.active

def maxBids : Nat := 5

/-- The decision under the lock: nothing while a bid of the cycle waits for its
answer, or when the active bids cover the deficit. -/
def opening (plan : Plan) (market : Market) : Option Loop :=
  let active := activeBids market plan.cycleId
  if active.any fun b => b.status = .pending then none
  else
    let remaining := plan.deficit - (active.map MarketBid.quantity).sum
    if remaining ≤ 0 then none
    else some { cycleId := plan.cycleId, now := plan.now, minBid := plan.minBid
                remaining := remaining, capacity := plan.capacity
                offers := active.map MarketBid.offerId }

/-- How much of an offer the loop can pay for. -/
def affordable (l : Loop) (quantity : Int) (price : ℚ) : Int :=
  if 0 < price ∧ l.capacity < keep Decimal.precision (quantity * price) then
    min quantity ⌊keep Decimal.precision (l.capacity / price)⌋
  else quantity

/-- The quantity and the price the loop bids on a candidate, if it does. -/
def quote (l : Loop) (o : BookOffer) : Option (Int × ℚ) := do
  guard (o.snapshot.offerId ∉ l.offers)
  let price ← o.transport.effectivePrice.filter (0 ≤ ·)
  let available ← o.snapshot.remaining.filter (l.minBid ≤ ·)
  let quantity := min l.remaining available
  guard (l.minBid ≤ quantity ∧ l.minBid ≤ affordable l quantity price)
  return (affordable l quantity price,price)

/-- `idpk=uuid4()`. -/
def freshIdpk (cfg : Config) (db : Db) : String :=
  cfg.uuid4 (db.market.bids.rows.map MarketBid.idpk ++ db.outbox.ids)

def order (cfg : Config) (db : Db) (l : Loop) (offerId : String) (quantity : Int) : Order :=
  ⟨l.cycleId,offerId,quantity,freshIdpk cfg db⟩

def bought (l : Loop) (order : Order) (price : ℚ) : Loop :=
  { l with
    remaining := l.remaining - order.quantity
    capacity := keep Decimal.precision
      (l.capacity - keep Decimal.precision (order.quantity * price))
    offers := order.offerId :: l.offers
    bought := ⟨order.idpk,order.cycleId,order.quantity,price⟩ :: l.bought }

/-- One turn of the loop; `none` goes on to the next candidate without a commit. -/
def buyOne (cfg : Config) (db : Db) (l : Loop) (o : BookOffer) : Option (Db × Loop) :=
  match quote l o with
  | none => none
  | some (quantity,price) =>
      let order := order cfg db l o.snapshot.offerId quantity
      match enqueueBuyBid cfg db order l.now with
      | (_,.refused _) => none
      | (db,_) => some (db,bought l order price)

/-- The loop up to its next commit; the candidates left are the last component. -/
def advance (cfg : Config) (db : Db) (l : Loop) : List BookOffer → Option (Db × Loop × List BookOffer)
  | [] => none
  | o :: rest =>
      if maxBids ≤ l.bought.length ∨ l.remaining ≤ 0 then none
      else match buyOne cfg db l o with
        | some (db,l) => some (db,l,rest)
        | none => advance cfg db l rest

/-- The loop to its end, when nobody comes between two commits. -/
def buyAll (cfg : Config) (db : Db) (l : Loop) : List BookOffer → Db × Loop
  | [] => (db,l)
  | o :: rest =>
      if maxBids ≤ l.bought.length ∨ l.remaining ≤ 0 then (db,l)
      else match buyOne cfg db l o with
        | some (db,l) => buyAll cfg db l rest
        | none => buyAll cfg db l rest

/-- `autonomous_buy_tick`, and what it bought. -/
def tick (cfg : Config) (db : Db) (cycleId : String) (now : Instant) (balance : Option Balance) :
    Db × List Purchase :=
  match look cfg db cycleId now balance with
  | none => (db,[])
  | some plan =>
      match opening plan db.market with
      | none => (db,[])
      | some l =>
          let (db,l) := buyAll cfg db l plan.candidates
          (db,l.bought)

theorem opening_spec {plan : Plan} {market : Market} {l : Loop}
    (h : opening plan market = some l) :
    l.cycleId = plan.cycleId ∧ l.bought = [] ∧ l.capacity = plan.capacity ∧
      l.remaining = plan.deficit - ((activeBids market plan.cycleId).map MarketBid.quantity).sum := by
  unfold opening at h
  dsimp only at h
  split at h
  · cases h
  split at h
  · cases h
  cases h
  exact ⟨rfl,rfl,rfl,rfl⟩

theorem opening_positive {plan : Plan} {market : Market} {l : Loop}
    (h : opening plan market = some l) : 0 < l.remaining := by
  unfold opening at h
  dsimp only at h
  split at h
  · cases h
  split at h
  · cases h
  rename_i missing
  cases h
  exact not_le.mp missing

/-- Every effective price is one of whole cents. -/
def Priced (offers : List BookOffer) : Prop :=
  ∀ o ∈ offers, ∀ price ∈ o.transport.effectivePrice, Cents price

theorem effectivePrice_cents {table : Option DistanceTable} {seller : String} {nominal : Option ℚ}
    {price : ℚ} (h : (calculateTransport table seller nominal).effectivePrice = some price) :
    Cents price := by
  unfold calculateTransport at h
  split at h
  · cases h
  split at h
  · dsimp only at h
    split at h
    · split at h
      · rename_i effective priced
        cases h
        unfold prices at priced
        obtain ⟨perEnergy,_,priced⟩ := Option.bind_eq_some_iff.mp priced
        obtain ⟨own,rounded,priced⟩ := Option.bind_eq_some_iff.mp priced
        cases priced
        unfold round2 at rounded
        split at rounded
        · cases rounded
          exact cents_centsHalfUp _
        · cases rounded
      · cases h
    · cases h
  · cases h

theorem priced_candidates (cfg : Config) (db : Db) (cycleId : String) (w : Window) (now : Instant) :
    Priced (candidates cfg db cycleId w now) := by
  intro o ho price own
  unfold candidates at ho
  rw [List.mem_insertionSort] at ho
  have listed := List.mem_of_mem_filter ho
  unfold marketBook at listed
  split at listed
  · cases listed
  · obtain ⟨_,_,rfl⟩ := List.mem_map.mp listed
    exact effectivePrice_cents own

theorem look_spec {cfg : Config} {db : Db} {cycleId : String} {now : Instant} {balance : Option Balance} {plan : Plan}
    (h : look cfg db cycleId now balance = some plan) :
    Priced plan.candidates ∧ ∃ b, balance = some b ∧ plan.capacity = capacity b := by
  unfold look at h
  simp only [Option.bind_eq_bind,Option.bind_eq_some_iff,Option.pure_def,Option.some.injEq] at h
  obtain ⟨_,_,_,_,w,_,b,hb,rfl⟩ := h
  exact ⟨priced_candidates cfg db cycleId w now,b,hb,rfl⟩

/-- An offer is quoted for at most what is missing. -/
theorem quote_le {l : Loop} {o : BookOffer} {quantity : Int} {price : ℚ}
    (h : quote l o = some (quantity,price)) :
    0 ≤ price ∧ ∃ wanted, wanted ≤ l.remaining ∧ quantity = affordable l wanted price := by
  unfold quote at h
  simp only [Option.bind_eq_bind,Option.bind_eq_some_iff,Option.pure_def,Option.some.injEq,
    Prod.mk.injEq] at h
  obtain ⟨_,_,_,hprice,available,_,_,_,hquantity,rfl⟩ := h
  have paid := (Option.filter_eq_some_iff.mp hprice).2
  rw [decide_eq_true_eq] at paid
  exact ⟨paid,_,min_le_left _ _,hquantity.symm⟩

theorem quote_price {l : Loop} {o : BookOffer} {quantity : Int} {price : ℚ}
    (h : quote l o = some (quantity,price)) : o.transport.effectivePrice = some price := by
  unfold quote at h
  simp only [Option.bind_eq_bind,Option.bind_eq_some_iff,Option.pure_def,Option.some.injEq,
    Prod.mk.injEq] at h
  obtain ⟨_,_,_,hprice,_,_,_,_,_,rfl⟩ := h
  exact (Option.filter_eq_some_iff.mp hprice).1

theorem affordable_le (l : Loop) (quantity : Int) (price : ℚ) :
    affordable l quantity price ≤ quantity := by
  unfold affordable
  split
  · exact min_le_left _ _
  · exact le_rfl

/-- An amount of fewer digits than the context keeps, written with at least two decimals. -/
def Legible (amount : ℚ) : Prop :=
  ∃ places < Decimal.precision, 2 ≤ places ∧ Spells (Decimal.precision - 1) places amount

instance (amount : ℚ) : Decidable (Legible amount) :=
  inferInstanceAs (Decidable (∃ places < Decimal.precision, _))

section Legible
variable {amount cost price : ℚ}

theorem Legible.kept (h : Legible amount) : keep Decimal.precision amount = amount := by
  obtain ⟨places,room,_,whole,small⟩ := h
  exact keep_spelled room ⟨whole,small.trans (by decide +kernel)⟩

theorem Legible.lt (h : Legible amount) : amount < 10 ^ 25 := by
  obtain ⟨places,_,two,_,small⟩ := h
  have scale : (10 : ℚ) ^ 2 ≤ 10 ^ places := pow_le_pow_right₀ (by norm_num) two
  have below := (mul_le_mul_of_nonneg_left scale (abs_nonneg amount)).trans_lt small
  have own := le_abs_self amount
  have digits : (10 : ℚ) ^ (Decimal.precision - 1) = 10 ^ 25 * 10 ^ 2 := by decide +kernel
  rw [digits] at below
  linarith [lt_of_mul_lt_mul_right below (by norm_num)]

/-- Cents stay whole with more decimals. -/
theorem cents_scaled (whole : Cents cost) {places : Nat} (two : 2 ≤ places) :
    ∃ n : Int, cost * 10 ^ places = n := by
  obtain ⟨n,rfl⟩ := cents_iff.mp whole
  obtain ⟨j,rfl⟩ : ∃ j, places = j + 2 := ⟨places - 2,by omega⟩
  refine ⟨n * 10 ^ j,?_⟩
  push_cast
  rw [pow_add]
  ring

/-- A small amount in cents is kept. -/
theorem keep_small (whole : Cents cost) (nonneg : 0 ≤ cost) (small : cost < 10 ^ 26) :
    keep Decimal.precision cost = cost := by
  obtain ⟨n,hn⟩ := cents_scaled whole le_rfl
  refine keep_spelled (by decide) (spells_iff.mpr ⟨n,hn,?_⟩)
  rw [abs_of_nonneg nonneg,show (10 : ℚ) ^ Decimal.precision = 10 ^ 26 * 10 ^ 2 by decide +kernel]
  exact mul_lt_mul_of_pos_right small (by norm_num)

/-- A cost in cents is taken off without rounding. -/
theorem Legible.less (h : Legible amount) (whole : Cents cost) (nonneg : 0 ≤ cost)
    (paid : cost ≤ amount) :
    keep Decimal.precision (amount - keep Decimal.precision cost) = amount - cost ∧
      Legible (amount - cost) := by
  have small : cost < 10 ^ 26 := by
    have := h.lt
    linarith
  have left : Legible (amount - cost) := by
    obtain ⟨places,room,two,spelled⟩ := h
    obtain ⟨n,hn,_⟩ := spells_iff.mp spelled
    obtain ⟨k,hk⟩ := cents_scaled whole two
    refine ⟨places,room,two,spelled.part ?_ (sub_nonneg.mpr paid) (sub_le_self _ nonneg)⟩
    rw [sub_mul,hn,hk,← Int.cast_sub]
    exact Rat.den_intCast _
  rw [keep_small whole nonneg small]
  exact ⟨left.kept,left⟩

/-- A product that looks payable is. -/
theorem Legible.covers (h : Legible amount) (whole : Cents cost) (nonneg : 0 ≤ amount)
    (seen : keep Decimal.precision cost ≤ amount) : cost ≤ amount := by
  by_contra past
  rw [not_le] at past
  have positive := nonneg.trans_lt past
  rcases lt_or_ge cost (10 ^ 26) with small | large
  · rw [keep_small whole positive.le small] at seen
    linarith
  · have log : (26 : Int) ≤ Int.log 10 cost :=
      (Int.zpow_le_iff_le_log (by norm_num) positive).mp (by exact_mod_cast large)
    have power : (10 : ℚ) ^ (26 : Int) ≤ (10 : ℚ) ^ Int.log 10 cost :=
      zpow_le_zpow_right₀ (by norm_num) log
    have kept : (10 : ℚ) ^ Int.log 10 cost ≤ keep Decimal.precision cost :=
      log_le_keep (by decide) positive
    have below := h.lt
    norm_num at power
    linarith

/-- The whole kWh of a quotient can be paid. -/
theorem Legible.divided (h : Legible amount) (nonneg : 0 ≤ amount) (positive : 0 < price)
    (whole : Cents price) : (⌊keep Decimal.precision (amount / price)⌋ : ℚ) * price ≤ amount := by
  obtain ⟨places,_,two,spelled⟩ := h
  obtain ⟨n,hn,small⟩ := spells_iff.mp spelled
  rw [abs_of_nonneg nonneg] at small
  have total : amount / price * (price * 10 ^ places) = amount * 10 ^ places := by
    field_simp
  have floor : (⌊keep Decimal.precision (amount / price)⌋ : ℚ) ≤ amount / price :=
    floor_keep_le (div_nonneg nonneg positive.le) (cents_scaled whole two)
      (mul_pos positive (by positivity)) ⟨n,total.trans hn⟩ (total ▸ small)
  calc (⌊keep Decimal.precision (amount / price)⌋ : ℚ) * price ≤ amount / price * price :=
        mul_le_mul_of_nonneg_right floor positive.le
    _ = amount := div_mul_cancel₀ _ positive.ne'

end Legible

/-- What the loop bids is within what the wallet has left. -/
theorem affordable_paid {l : Loop} {price : ℚ} (funded : 0 ≤ l.capacity)
    (legible : Legible l.capacity) (paid : 0 ≤ price) (whole : Cents price) (quantity : Int) :
    affordable l quantity price * price ≤ l.capacity := by
  unfold affordable
  split
  · rename_i dear
    have least : ((min quantity ⌊keep Decimal.precision (l.capacity / price)⌋ : Int) : ℚ) ≤
        ⌊keep Decimal.precision (l.capacity / price)⌋ := Int.cast_le.mpr (min_le_right _ _)
    exact (mul_le_mul_of_nonneg_right least paid).trans (legible.divided funded dear.1 whole)
  · rename_i cheap
    rcases paid.eq_or_lt with free | positive
    · rw [← free,mul_zero]
      exact funded
    · refine legible.covers (whole.int_mul quantity) funded ?_
      exact not_lt.mp fun dear => cheap ⟨positive,dear⟩

/-- A bid that was placed is one row more, for at least one kWh. -/
theorem enqueueBuyBid_created {cfg : Config} {db db' : Db} {order : Order} {now : Instant}
    (h : enqueueBuyBid cfg db order now = (db',.created)) :
    0 < order.quantity ∧ db'.books = db.books ∧ ∃ seller msgId,
      db.market.bids.insert? (outgoing order seller msgId now) = some db'.market.bids := by
  unfold enqueueBuyBid at h
  split at h
  · cases h
  rename_i positive
  split at h
  · split at h <;> cases h
  split at h
  · cases h
  split at h
  · cases h
  split at h
  · rename_i placed
    cases h
    unfold place at placed
    obtain ⟨bids,inserted,rfl⟩ := Option.map_eq_some_iff.mp placed
    exact ⟨by omega,rfl,_,_,inserted⟩
  · cases h

/-- A cycle in which 100 kWh are missing. -/
def short : Db :=
  { Node.opened "C1" with
    books := { cycles := Table.empty.insert { Node.openCycle "C1" with
      generationCapacity := some 0, consumption := some 100 } rfl } }

/-- An offer of another city in the feed. -/
def offered (idpk msgId city offerId : String) (quantity price : Int)
    (named : idpk ≠ "" := by decide) : Node.Action :=
  .feed (Node.envelope .offer idpk msgId (some city)
    [("offerId",.str offerId),("quantity",.int quantity),("pricePerEnergy",.int price)] named)

/-- Free routes to BBB and CCC. -/
def routes : Node.Action :=
  let route : Json := .obj [("distance",.int 0),("enabled",.bool true),("transportCost",.int 0)]
  .ingest (Node.envelope .distanceTable "o7" "o8" none
    [("distances",.obj [("BBB",route),("CCC",route)])]) 1

/-- The seller takes the bid that left as `target`. -/
def agreed (idpk msgId city target offerId : String) (quantity price : Int)
    (named : idpk ≠ "" := by decide) : Node.Action :=
  .ingest (Node.envelope .bidAccepted idpk msgId (some city)
    [("target",.str target),("offerId",.str offerId),("quantity",.int quantity),
      ("pricePerEnergy",.int price),("amount",.int (quantity * price)),("swapId",.str target),
      ("swapToken",.str "t"),("expiresAt",.str "1970-01-01T00:02:00Z")] named) (seconds 62)

end AutonomousBuy

end EnergyNode
