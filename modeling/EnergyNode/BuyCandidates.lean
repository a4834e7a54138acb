import EnergyNode.Lib.Fallible
import EnergyNode.Node
import Mathlib.Data.Prod.Lex
import Mathlib.Data.String.Basic

/-! What the autonomous buyer is shown: the offers of the book that pass every
filter, each once, in the one order the cycle's strategy gives them. -/
namespace EnergyNode
open Lib

namespace Buying

/-- The book's own order: nominal price, city, offer. -/
def bookBefore (a b : BookOffer) : Bool :=
  let p := a.snapshot.pricePerEnergy.getD 0
  let q := b.snapshot.pricePerEnergy.getD 0
  let missing (o : BookOffer) := o.snapshot.pricePerEnergy.isNone
  (!missing a && missing b) || (missing a == missing b && (p < q || (p = q &&
    (a.snapshot.cityId < b.snapshot.cityId ||
      (a.snapshot.cityId = b.snapshot.cityId && a.snapshot.offerId ≤ b.snapshot.offerId)))))

/-- `get_market_book`, in its order. -/
def getMarketBook (db : Db) (cycleId : String) (now : Instant) : List BookOffer :=
  (marketBook db cycleId now).insertionSort fun a b => bookBefore a b

/-- `_ordered_candidates`. -/
def orderedCandidates (cheapest : Bool) (items : List BookOffer) : List BookOffer :=
  items.insertionSort fun a b => before cheapest a b

/-- The eligible offers of the book, in the strategy's order. -/
def shown (cfg : Config) (db : Db) (cycleId : String) (w : Window) (now : Instant) :
    List BookOffer :=
  orderedCandidates w.cheapest ((getMarketBook db cycleId now).filter (eligible cfg w.minBid))

structure MarketBuyCandidates where
  canBid : Bool
  reason : Option String
  total : Nat
  candidates : List BookOffer

def getBuyCandidates (cfg : Config) (db : Db) (cycleId : String) (now : Instant) :
    MarketBuyCandidates :=
  match window db cycleId now with
  | .ok w =>
      { canBid := true, reason := none, total := (shown cfg db cycleId w now).length
        candidates := shown cfg db cycleId w now }
  | .error reason => { canBid := false, reason := some reason, total := 0, candidates := [] }

/-! ### The strategy's order -/

abbrev Key := ℚ ×ₗ ℚ ×ₗ Int ×ₗ String ×ₗ String

/-- The tuple the policy sorts by. -/
def key (cheapest : Bool) (o : BookOffer) : Key :=
  let rest : Int ×ₗ String ×ₗ String :=
    toLex (-o.snapshot.remaining.getD 0,toLex (o.snapshot.cityId,o.snapshot.offerId))
  let price := o.transport.effectivePrice.getD 0
  let distance := o.transport.distance.getD 0
  if cheapest then toLex (price,toLex (distance,rest)) else toLex (distance,toLex (price,rest))

theorem before_iff {cheapest : Bool} {a b : BookOffer} :
    before cheapest a b = true ↔ key cheapest a ≤ key cheapest b := by
  cases cheapest <;>
    simp [before,rank,key,Prod.Lex.toLex_le_toLex]

instance (cheapest : Bool) : Std.Total fun a b => before cheapest a b = true :=
  ⟨fun a b => by simpa [before_iff] using le_total (key cheapest a) (key cheapest b)⟩

instance (cheapest : Bool) : IsTrans BookOffer fun a b => before cheapest a b = true :=
  ⟨fun a b c h k => by
    rw [before_iff] at h k ⊢
    exact h.trans k⟩

theorem key_city {cheapest : Bool} {a b : BookOffer} (h : key cheapest a = key cheapest b) :
    a.snapshot.cityId = b.snapshot.cityId := by
  cases cheapest <;> simp [key] at h <;> exact h.2.2.2.1

/-! ### The price of an offer -/

/-- Whole cents are not rounded. -/
theorem round2_cents {q e : ℚ} (whole : Cents q)
    (rounded : round2 (keep Decimal.precision q) = some e) : e = q := by
  unfold round2 at rounded
  split at rounded
  · rename_i room
    cases rounded
    rcases lt_or_ge 0 (lastPlace Decimal.precision q + 2) with past | fits
    · obtain ⟨n,hn⟩ := keep_coarse past
      have beyond := cents_overflow (by decide) past
      rw [hn,halfUp_int] at room
      rw [hn,halfEven_int] at beyond
      exact absurd beyond (not_le.mpr (by exact_mod_cast room))
    · rw [keep_cents_eq whole fits,centsHalfUp_of_cents whole]
  · cases rounded

theorem prices_cents {distance rate nominal perEnergy effective : ℚ} (whole : Cents nominal)
    (sum : prices distance rate nominal = some (perEnergy,effective)) :
    effective = nominal + perEnergy := by
  obtain ⟨p,hp,e,he,eq⟩ : ∃ p, round2 (keep Decimal.precision
      (keep Decimal.precision (distance / 1000) * rate)) = some p ∧ ∃ e,
      round2 (keep Decimal.precision (nominal + p)) = some e ∧ (p,e) = (perEnergy,effective) := by
    simpa [prices,Option.bind_eq_some_iff] using sum
  cases eq
  have cents : Cents perEnergy := by
    unfold round2 at hp
    split at hp <;> cases hp
    exact cents_centsHalfUp _
  exact round2_cents (whole.add cents) he

/-- The route to a seller with its tariff and the effective price:
an enabled route has its own tariff, a disabled one the punitive tariff. -/
def Priced (table : Option DistanceTable) (seller : String) (nominal distance effective : ℚ) : Prop :=
  ∃ t routes route enabled rate perEnergy, table = some t ∧ t.distances = .obj routes ∧
    Fields.get routes seller = .obj route ∧ nonNegative (Fields.get route "distance") = some distance ∧
    Fields.get route "enabled" = .bool enabled ∧
    (if enabled then nonNegative (Fields.get route "transportCost")
      else t.disabledRouteTransportCost.filter (0 ≤ ·)) = some rate ∧ 0 ≤ nominal ∧
    prices distance rate nominal = some (perEnergy,effective)

theorem obj?_eq_some {value : Json} {fields : Fields} :
    value.obj? = some fields ↔ value = .obj fields := by
  cases value <;> simp [Json.obj?]

theorem bool?_eq_some {value : Json} {b : Bool} : value.bool? = some b ↔ value = .bool b := by
  cases value <;> simp [Json.bool?]

/-- The route of a seller in the table, if there is one. -/
theorem route_eq_some {table : Option DistanceTable} {seller : String} {route : Fields} :
    ((table.bind fun t => t.distances.obj?).bind fun d => (Fields.get d seller).obj?) = some route ↔
      ∃ t routes, table = some t ∧ t.distances = .obj routes ∧
        Fields.get routes seller = .obj route := by
  cases table with
  | none => simp
  | some t => simp [Option.bind_eq_some_iff,obj?_eq_some]

/-- The tariff of a route, punitive when it is disabled. -/
def tariff (table : Option DistanceTable) (route : Fields) (enabled : Bool) : Option ℚ :=
  if enabled then nonNegative (Fields.get route "transportCost")
  else (table.bind DistanceTable.disabledRouteTransportCost).filter (0 ≤ ·)

section Transport
variable {table : Option DistanceTable} {seller : String} {route : Fields} {enabled : Bool}
  {nominal d e rate perEnergy : ℚ}

theorem transport_rated
    (found : ((table.bind fun t => t.distances.obj?).bind fun r => (Fields.get r seller).obj?) =
      some route)
    (distance : nonNegative (Fields.get route "distance") = some d)
    (known : (Fields.get route "enabled").bool? = some enabled)
    (rated : tariff table route enabled = some rate) (payable : 0 ≤ nominal)
    (sum : prices d rate nominal = some (perEnergy,e)) :
    calculateTransport table seller (some nominal) = {
      distance := some d
      routeEnabled := some enabled
      rate := some rate
      perEnergy := some perEnergy
      effectivePrice := some e } := by
  unfold calculateTransport
  unfold tariff at rated
  rw [found]
  dsimp only
  rw [distance,known]
  dsimp only
  rw [rated,Option.filter_some,if_pos (by simpa using payable)]
  dsimp only
  rw [sum]

/-- Without a route, a tariff or a price there is no effective price. -/
theorem transport_unpriced (priced : (calculateTransport table seller (some nominal)).effectivePrice =
    some e) : ∃ route d enabled rate perEnergy e',
      ((table.bind fun t => t.distances.obj?).bind fun r => (Fields.get r seller).obj?) = some route ∧
      nonNegative (Fields.get route "distance") = some d ∧
      (Fields.get route "enabled").bool? = some enabled ∧ tariff table route enabled = some rate ∧
      0 ≤ nominal ∧ prices d rate nominal = some (perEnergy,e') := by
  unfold calculateTransport at priced
  cases found : (table.bind fun t => t.distances.obj?).bind fun r => (Fields.get r seller).obj? with
  | none =>
    rw [found] at priced
    cases priced
  | some route =>
    rw [found] at priced
    dsimp only at priced
    cases distance : nonNegative (Fields.get route "distance") with
    | none =>
      rw [distance] at priced
      cases priced
    | some d =>
      cases known : (Fields.get route "enabled").bool? with
      | none =>
        rw [distance,known] at priced
        cases priced
      | some enabled =>
        rw [distance,known] at priced
        dsimp only at priced
        cases rated : tariff table route enabled with
        | none =>
          unfold tariff at rated
          rw [rated] at priced
          cases priced
        | some rate =>
          unfold tariff at rated
          rw [rated,Option.filter_some] at priced
          by_cases payable : 0 ≤ nominal
          · rw [if_pos (by simpa using payable)] at priced
            dsimp only at priced
            cases sum : prices d rate nominal with
            | none =>
              rw [sum] at priced
              cases priced
            | some p => exact ⟨route,d,enabled,rate,p.1,p.2,rfl,distance,known,rated,payable,sum⟩
          · rw [if_neg (by simpa using payable)] at priced
            cases priced

end Transport

theorem transport_priced {table : Option DistanceTable} {seller : String} {nominal d e : ℚ} :
    ((calculateTransport table seller (some nominal)).distance = some d ∧
      (calculateTransport table seller (some nominal)).effectivePrice = some e) ↔
        Priced table seller nominal d e := by
  constructor
  · rintro ⟨near,priced⟩
    obtain ⟨route,d',enabled,rate,perEnergy,e',found,distance,known,rated,payable,sum⟩ :=
      transport_unpriced priced
    rw [transport_rated found distance known rated payable sum] at near priced
    cases near
    cases priced
    obtain ⟨t,routes,rfl,obj,here⟩ := route_eq_some.mp found
    exact ⟨t,routes,route,enabled,rate,perEnergy,rfl,obj,here,distance,bool?_eq_some.mp known,rated,
      payable,sum⟩
  · rintro ⟨t,routes,route,enabled,rate,perEnergy,rfl,obj,here,distance,known,rated,payable,sum⟩
    rw [transport_rated (route_eq_some.mpr ⟨t,routes,rfl,obj,here⟩) distance
      (bool?_eq_some.mpr known) rated payable sum]
    exact ⟨rfl,rfl⟩

/-- What a priced route shows. -/
theorem Priced.transport {table : Option DistanceTable} {seller : String} {nominal d e : ℚ}
    (h : Priced table seller nominal d e) : ∃ perEnergy,
      (calculateTransport table seller (some nominal)).distance = some d ∧
      (calculateTransport table seller (some nominal)).effectivePrice = some e ∧
      (calculateTransport table seller (some nominal)).perEnergy = some perEnergy ∧
      (Cents nominal → e = nominal + perEnergy) := by
  obtain ⟨t,routes,route,enabled,rate,perEnergy,rfl,obj,here,distance,known,rated,payable,sum⟩ := h
  rw [transport_rated (route_eq_some.mpr ⟨t,routes,rfl,obj,here⟩) distance
    (bool?_eq_some.mpr known) rated payable sum]
  exact ⟨perEnergy,rfl,rfl,rfl,fun whole => prices_cents whole sum⟩

/-! ### The list -/

/-- An offer of the feed the city may bid for. -/
structure Candidate (cfg : Config) (db : Db) (cycleId : String) (minBid : Int)
    (s : MarketFeedOffer) : Prop where
  fed : s ∈ db.feed
  cycle : s.cycleId = cycleId
  foreign : s.cityId ≠ cfg.cityId
  active : s.state = .active
  certain : s.uncertain = false
  afterGap : ∀ gapAt ∈ (db.marketCycles.get? cycleId).bind MarketCycle.feedGapAt,
    gapAt < s.lastEventAt
  remaining : ∃ n ∈ s.remaining, minBid ≤ n
  priced : ∃ nominal ∈ s.pricePerEnergy, ∃ d e,
    Priced (distanceTable? db cycleId) s.cityId nominal d e

/-- A snapshot as the book shows it while the market is open. -/
def bookOffer (db : Db) (cycleId : String) (s : MarketFeedOffer) : BookOffer where
  snapshot := s
  transport := calculateTransport (distanceTable? db cycleId) s.cityId s.pricePerEnergy
  stale := s.uncertain || s.state = .unresolved || gapRisk db s

section Listing
variable {cfg : Config} {db : Db} {cycleId : String} {now : Instant} {w : Window} {o : BookOffer}
  {s : MarketFeedOffer}

theorem gapRisk_eq_false : gapRisk db s = false ↔
    ∀ gapAt ∈ (db.marketCycles.get? s.cycleId).bind MarketCycle.feedGapAt, gapAt < s.lastEventAt := by
  unfold gapRisk
  cases (db.marketCycles.get? s.cycleId).bind MarketCycle.feedGapAt <;> simp

theorem mem_marketBook (open_ : marketClosed db cycleId now = false) :
    o ∈ marketBook db cycleId now ↔
      ∃ s ∈ db.feed, (s.cycleId = cycleId ∧ listed s = true) ∧ bookOffer db cycleId s = o := by
  unfold marketBook
  rw [if_neg (by rw [open_]; decide),List.mem_map]
  simp only [List.mem_filter,Bool.and_eq_true,decide_eq_true_eq,and_assoc]
  rfl

theorem computable_iff {nominal : ℚ} {table : Option DistanceTable} {seller : String} :
    ((calculateTransport table seller (some nominal)).distance.isSome ∧
      (calculateTransport table seller (some nominal)).effectivePrice.isSome) ↔
        ∃ d e, Priced table seller nominal d e := by
  simp only [← transport_priced,Option.isSome_iff_exists]
  constructor
  · rintro ⟨⟨d,hd⟩,e,he⟩
    exact ⟨d,e,hd,he⟩
  · rintro ⟨d,e,hd,he⟩
    exact ⟨⟨d,hd⟩,e,he⟩

/-- The filters of the book and of the selection together. -/
theorem eligible_iff (least : 0 < w.minBid) (fed : s ∈ db.feed) :
    (s.cycleId = cycleId ∧ listed s = true) ∧ eligible cfg w.minBid (bookOffer db cycleId s) = true ↔
      Candidate cfg db cycleId w.minBid s := by
  unfold listed eligible bookOffer
  simp only [Bool.and_eq_true,decide_eq_true_eq,Bool.not_eq_true',Bool.or_eq_false_iff,
    gapRisk_eq_false]
  constructor
  · rintro ⟨⟨rfl,⟨active,stocked⟩,price⟩,⟨⟨⟨foreign,⟨certain,_⟩,fresh⟩,enough⟩,near⟩,priced⟩
    obtain ⟨nominal,hn⟩ := Option.isSome_iff_exists.mp price
    rw [hn] at near priced
    have remaining : ∃ n ∈ s.remaining, w.minBid ≤ n := by
      cases left : s.remaining with
      | none =>
        rw [left] at stocked
        cases stocked
      | some n =>
        rw [left] at enough
        exact ⟨n,rfl,enough⟩
    exact ⟨fed,rfl,foreign,active,certain,fresh,remaining,nominal,hn,computable_iff.mp ⟨near,priced⟩⟩
  · intro c
    obtain ⟨n,hn,enough⟩ := c.remaining
    obtain ⟨nominal,price,computable⟩ := c.priced
    obtain ⟨near,priced⟩ := computable_iff.mpr computable
    rw [Option.mem_def] at hn price
    refine ⟨⟨c.cycle,⟨c.active,?_⟩,?_⟩,⟨⟨⟨c.foreign,⟨c.certain,?_⟩,?_⟩,?_⟩,?_⟩,?_⟩
    · rw [hn]
      exact least.trans_le enough
    · rw [price]
      rfl
    · rw [c.active]
      rfl
    · rw [c.cycle]
      exact c.afterGap
    · rw [hn]
      exact enough
    · rw [price]
      exact near
    · rw [price]
      exact priced

theorem mem_shown (open_ : marketClosed db cycleId now = false) (least : 0 < w.minBid) :
    o ∈ shown cfg db cycleId w now ↔
      ∃ s, Candidate cfg db cycleId w.minBid s ∧ bookOffer db cycleId s = o := by
  unfold shown orderedCandidates getMarketBook
  rw [List.mem_insertionSort,List.mem_filter,List.mem_insertionSort,mem_marketBook open_]
  constructor
  · rintro ⟨⟨s,fed,listed,rfl⟩,elig⟩
    exact ⟨s,(eligible_iff least fed).mp ⟨listed,elig⟩,rfl⟩
  · rintro ⟨s,c,rfl⟩
    obtain ⟨listed,elig⟩ := (eligible_iff least c.fed).mpr c
    exact ⟨⟨s,c.fed,listed,rfl⟩,elig⟩

theorem marketBook_map (db : Db) (cycleId : String) (now : Instant) : ∃ l : List MarketFeedOffer,
    (∀ s ∈ l, s ∈ db.feed ∧ s.cycleId = cycleId) ∧ l.Nodup ∧
      marketBook db cycleId now = l.map (bookOffer db cycleId) := by
  unfold marketBook
  split
  · exact ⟨[],by simp,List.nodup_nil,rfl⟩
  · refine ⟨db.feed.rows.filter fun s => s.cycleId = cycleId && listed s,fun s hs => ?_,
      (List.Nodup.of_map _ db.feed.nodup).filter _,rfl⟩
    obtain ⟨fed,here⟩ := List.mem_filter.mp hs
    simp only [Bool.and_eq_true,decide_eq_true_eq] at here
    exact ⟨fed,here.1⟩

theorem marketBook_nodup : (marketBook db cycleId now).Nodup := by
  obtain ⟨l,_,nodup,eq⟩ := marketBook_map db cycleId now
  rw [eq]
  exact nodup.map fun a b h => congrArg BookOffer.snapshot h

/-- One offer a city, so that no two offers of the book share their key. -/
theorem eq_of_key {cheapest : Bool} {a b : BookOffer} (ha : a ∈ marketBook db cycleId now)
    (hb : b ∈ marketBook db cycleId now) (same : key cheapest a = key cheapest b) : a = b := by
  obtain ⟨l,fed,_,eq⟩ := marketBook_map db cycleId now
  rw [eq,List.mem_map] at ha hb
  obtain ⟨s,hs,rfl⟩ := ha
  obtain ⟨t,ht,rfl⟩ := hb
  have place : s.place = t.place :=
    Prod.ext ((fed s hs).2.trans (fed t ht).2.symm) (key_city same)
  rw [Table.eq_of_key (fed s hs).1 (fed t ht).1 place]

theorem shown_perm : (shown cfg db cycleId w now).Perm
    ((marketBook db cycleId now).filter (eligible cfg w.minBid)) :=
  (List.perm_insertionSort _ _).trans ((List.perm_insertionSort _ _).filter _)

theorem shown_nodup : (shown cfg db cycleId w now).Nodup :=
  shown_perm.nodup_iff.mpr (marketBook_nodup.filter _)

theorem shown_sorted : (shown cfg db cycleId w now).Pairwise fun a b =>
    key w.cheapest a < key w.cheapest b := by
  have weak : (shown cfg db cycleId w now).Pairwise fun a b => before w.cheapest a b = true :=
    List.pairwise_insertionSort _ _
  have book {o : BookOffer} (ho : o ∈ shown cfg db cycleId w now) : o ∈ marketBook db cycleId now :=
    (List.mem_filter.mp (shown_perm.mem_iff.mp ho)).1
  apply (weak.and (shown_nodup (w := w))).imp_of_mem
  intro a b ha hb h
  exact lt_of_le_of_ne (before_iff.mp h.1) fun same => h.2 (eq_of_key (book ha) (book hb) same)

/-- The rows of the feed in another order. -/
theorem shown_feed {feed : Table MarketFeedOffer.place} (perm : feed.rows.Perm db.feed.rows) :
    shown cfg { db with feed := feed } cycleId w now = shown cfg db cycleId w now := by
  have book : (marketBook { db with feed := feed } cycleId now).Perm (marketBook db cycleId now) := by
    unfold marketBook
    change (if marketClosed db cycleId now then [] else _ : List BookOffer).Perm _
    by_cases closed : marketClosed db cycleId now = true
    · rw [if_pos closed,if_pos closed]
    · rw [if_neg closed,if_neg closed]
      exact (perm.filter _).map _
  have same := shown_perm.trans ((book.filter (eligible cfg w.minBid)).trans
    shown_perm.symm)
  refine List.Perm.eq_of_pairwise (fun a b ha hb (le : key w.cheapest a ≤ key w.cheapest b)
    (ge : key w.cheapest b ≤ key w.cheapest a) => ?_) (shown_sorted.imp le_of_lt)
    (shown_sorted.imp le_of_lt) same
  have here := (List.mem_filter.mp (shown_perm.mem_iff.mp (same.mem_iff.mp ha))).1
  have there := (List.mem_filter.mp (shown_perm.mem_iff.mp hb)).1
  exact eq_of_key here there (le.antisymm ge)

end Listing

/-! ### The window -/

/-- The cycle has a status and a bound strategy that can be applied, its official
window is consistent and its market open, and the instant is past the span and
before the last bid. -/
def Admits (db : Db) (cycleId : String) (now : Instant) (w : Window) : Prop :=
  ∃ cycle strategy opensAt closesAt, db.books.cycles.get? cycleId = some cycle ∧
    cycle.statusIdpk.isSome ∧ cycle.strategyVersion.bind db.strategies.get? = some strategy ∧
    SellerBids.minBid? cycle = some w.minBid ∧
    strategy.offerSelectionPolicy =
      (if w.cheapest then "CHEAPEST_EFFECTIVE_PRICE" else "MIN_DISTANCE") ∧
    0 ≤ strategy.spanSeconds ∧ cycle.marketOpensAt = some opensAt ∧
    cycle.marketLastBidAt = some w.lastBidAt ∧ cycle.marketClosesAt = some closesAt ∧
    opensAt < w.lastBidAt ∧ w.lastBidAt ≤ closesAt ∧ marketClosed db cycleId now = false ∧
    opensAt + seconds strategy.spanSeconds ≤ now ∧ now < w.lastBidAt

theorem window_ok {db : Db} {cycleId : String} {now : Instant} {w : Window} :
    window db cycleId now = .ok w ↔ Admits db cycleId now w := by
  constructor
  · intro h
    unfold window at h
    split at h
    swap
    · cases h
    rename_i cycle found
    obtain ⟨stored,status⟩ := Option.filter_eq_some_iff.mp found
    split at h
    swap
    · cases h
    rename_i strategy bound
    split at h
    swap
    · cases h
    rename_i minBid least
    extract_lets cheapest rest at h
    obtain ⟨⟨policy,span⟩,h⟩ := Fallible.unless_ok.mp h
    unfold rest at h
    split at h
    swap
    · cases h
    rename_i opensAt opens
    split at h
    swap
    · cases h
    rename_i lastBidAt last
    split at h
    swap
    · cases h
    rename_i closesAt closes
    obtain ⟨ordered,h⟩ := Fallible.unless_ok.mp h
    obtain ⟨open_,h⟩ := Fallible.when_ok.mp h
    obtain ⟨before,h⟩ := Fallible.when_ok.mp h
    obtain ⟨_,h⟩ := Fallible.when_ok.mp h
    obtain ⟨after,h⟩ := Fallible.when_ok.mp h
    cases h
    refine ⟨cycle,strategy,opensAt,closesAt,stored,status,bound,least,?_,span,opens,last,closes,
      ordered.1,ordered.2,Bool.not_eq_true _ ▸ open_,not_lt.mp after,not_le.mp before⟩
    by_cases low : cheapest
    · rw [decide_eq_true low]
      exact low
    · rw [decide_eq_false low]
      exact policy.resolve_left low
  · rintro ⟨cycle,strategy,opensAt,closesAt,found,status,bound,least,policy,span,opens,last,closes,lt,le,
      open_,after,before⟩
    have opened : opensAt ≤ now := by
      unfold seconds at after
      linarith
    have low : decide (strategy.offerSelectionPolicy = "CHEAPEST_EFFECTIVE_PRICE") = w.cheapest := by
      rw [policy]
      cases w.cheapest <;> rfl
    unfold window
    rw [found,Option.filter_some,if_pos status]
    simp only [bound,least,opens,last,closes,low]
    refine Fallible.unless_ok.mpr ⟨⟨?_,span⟩,?_⟩
    · rw [policy]
      cases w.cheapest <;> decide
    refine Fallible.unless_ok.mpr ⟨⟨lt,le⟩,?_⟩
    refine Fallible.when_ok.mpr ⟨Bool.not_eq_true _ ▸ open_,?_⟩
    refine Fallible.when_ok.mpr ⟨not_le.mpr before,?_⟩
    refine Fallible.when_ok.mpr ⟨not_lt.mpr opened,?_⟩
    exact Fallible.when_ok.mpr ⟨not_lt.mpr after,rfl⟩

theorem minBid_pos {cycle : Cycle} {minBid : Int} (h : SellerBids.minBid? cycle = some minBid) :
    0 < minBid := by
  obtain ⟨_,positive⟩ := Option.filter_eq_some_iff.mp h
  simpa using positive

theorem getBuyCandidates_ok {cfg : Config} {db : Db} {cycleId : String} {now : Instant} {w : Window}
    (admits : Admits db cycleId now w) :
    (getBuyCandidates cfg db cycleId now).candidates = shown cfg db cycleId w now := by
  unfold getBuyCandidates
  rw [window_ok.mpr admits]

/-- The list does not depend on the order of the feed. While the cycle admits
bids it holds each candidate once, at the effective price the table gives, in
the strict order of the cycle's strategy; at any other instant it is empty. -/
theorem candidates_listed (cfg : Config) (db : Db) (cycleId : String) (now : Instant) :
    (∀ feed : Table MarketFeedOffer.place, feed.rows.Perm db.feed.rows →
      getBuyCandidates cfg { db with feed := feed } cycleId now =
        getBuyCandidates cfg db cycleId now) ∧
    (∀ w, Admits db cycleId now w →
      let list := (getBuyCandidates cfg db cycleId now).candidates
      (∀ o, o ∈ list ↔ ∃ s, Candidate cfg db cycleId w.minBid s ∧ bookOffer db cycleId s = o) ∧
      list.Nodup ∧ (list.Pairwise fun a b => key w.cheapest a < key w.cheapest b) ∧
      ∀ o ∈ list, ∃ nominal d e perEnergy, o.snapshot.pricePerEnergy = some nominal ∧
        Priced (distanceTable? db cycleId) o.snapshot.cityId nominal d e ∧
        o.transport.distance = some d ∧ o.transport.effectivePrice = some e ∧
        o.transport.perEnergy = some perEnergy ∧ (Cents nominal → e = nominal + perEnergy)) ∧
    ((¬ ∃ w, Admits db cycleId now w) → (getBuyCandidates cfg db cycleId now).candidates = []) := by
  refine ⟨fun feed perm => ?_,fun w admits => ?_,fun shut => ?_⟩
  · unfold getBuyCandidates
    rw [show window { db with feed := feed } cycleId now = window db cycleId now from rfl]
    cases window db cycleId now with
    | error reason => rfl
    | ok w => simp only [shown_feed perm]
  · have admitted := admits
    obtain ⟨_,_,_,_,_,_,_,least,_,_,_,_,_,_,_,open_,_,_⟩ := admitted
    have member (o : BookOffer) : o ∈ shown cfg db cycleId w now ↔
        ∃ s, Candidate cfg db cycleId w.minBid s ∧ bookOffer db cycleId s = o :=
      mem_shown open_ (minBid_pos least)
    dsimp only
    rw [getBuyCandidates_ok admits]
    refine ⟨member,shown_nodup,shown_sorted,fun o ho => ?_⟩
    obtain ⟨s,c,rfl⟩ := (member o).mp ho
    obtain ⟨nominal,price,d,e,priced⟩ := c.priced
    rw [Option.mem_def] at price
    obtain ⟨perEnergy,near,total,carried,sum⟩ := priced.transport
    refine ⟨nominal,d,e,perEnergy,price,priced,?_,?_,?_,sum⟩
    · exact (congrArg (fun p => (calculateTransport _ _ p).distance) price).trans near
    · exact (congrArg (fun p => (calculateTransport _ _ p).effectivePrice) price).trans total
    · exact (congrArg (fun p => (calculateTransport _ _ p).perEnergy) price).trans carried
  · unfold getBuyCandidates
    cases h : window db cycleId now with
    | error reason => rfl
    | ok w => exact absurd ⟨w,window_ok.mp h⟩ shut

/-- An offer at fractions of a cent. -/
def fine (cityId offerId : String) (price : ℚ) : MarketFeedOffer where
  cycleId := "C1"
  cityId := cityId
  offerId := offerId
  initialQuantity := some 10
  remaining := some 10
  pricePerEnergy := some price
  state := .active
  uncertain := false
  lastEventAt := 0
  lastEventMsgId := offerId

/-- A free route to each of two sellers. -/
def fineRoutes : DistanceTable :=
  let route (distance : Int) : Json :=
    .obj [("distance",.int distance),("enabled",.bool true),("transportCost",.int 0)]
  { idpk := "87000000-0000-0000-0000-000000000001"
    msgId := "t1"
    cycleId := some "C1"
    sourceTimestamp := 0
    distances := .obj [("BBB",route 0),("CCC",route 1000)]
    disabledRouteTransportCost := none }

/-- BBB is the nearer and the dearer one. -/
def fineMarket : Db :=
  { Node.opened "C1" with
    feed := ⟨[fine "BBB" "BBB-C1" (3004 / 1000),fine "CCC" "CCC-C1" (3001 / 1000)],by decide⟩
    diplomacy := { distances := Table.empty.insert fineRoutes rfl } }

/-- Both effective prices are rounded to 3.00, so the distance decides, though
the nominal price of CCC with its transport is the lower one. -/
theorem rounded_together :
    let list := (getBuyCandidates Node.seller.cfg fineMarket "C1" (seconds 61)).candidates
    let sum (o : BookOffer) := o.snapshot.pricePerEnergy.getD 0 + o.transport.perEnergy.getD 0
    (window fineMarket "C1" (seconds 61)).toOption.map Window.cheapest = some true ∧
      (list.map fun o => (o.snapshot.offerId,o.transport.effectivePrice)) =
        [("BBB-C1",some 3),("CCC-C1",some 3)] ∧
      ¬ (list.Pairwise fun a b => sum a ≤ sum b) := by
  decide +kernel

end Buying

end EnergyNode
