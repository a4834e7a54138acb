import EnergyNode.BookRules
import EnergyNode.CycleMetrics
import EnergyNode.FactRedelivery
import EnergyNode.LedgerConsistency
import EnergyNode.Lib.FirstOccurrence

/-! The metrics of a cycle against the facts the wallet told of it. Each fact
leaves one entry in the ledger, the first time it is told; in whatever order they
came, the figures of the row are those of the facts. -/
namespace EnergyNode
open Lib

namespace CycleMetrics
open Ledger StoredLedger CycleAccounting

/-! ### Facts -/

inductive Fact where
  | settled (record : SwapRecord)
  | trade (t : TradeRecord)
  | settlement (s : ImbalanceSettlement)
deriving DecidableEq

/-- The operation a fact posts, and its identity there. -/
abbrev Key := OperationType × String

/-- An amount of a swap: whole cents, or a positive number of kWh. -/
def Amount (asset : Asset) (amount : ℚ) : Prop :=
  match asset with
  | .cr => 0 ≤ amount ∧ Cents amount
  | .kwh => ∃ n : Nat, 0 < n ∧ amount = n
  | .other _ => True

namespace Fact

def key : Fact → Key
  | settled record => (.swapSettled,settlementKey record)
  | trade t => (.swapTransport,t.swapId)
  | settlement s => (.imbalanceSettlement,s.settlementId)

def cycleId : Fact → String
  | settled record => record.cycleId
  | trade t => t.cycleId
  | settlement s => s.cycleId

/-- A fact of the cycle, with its amounts. -/
def Valid (k : String) (f : Fact) : Prop :=
  f.cycleId = k ∧ match f with
    | settled record => Amount record.giveAsset record.giveAmount ∧
        Amount record.takeAsset record.takeAmount
    | trade t => Cents t.transportTotal
    | settlement s => Cents s.total

/-- A swap settled for energy. -/
def purchase? : Fact → Option SwapRecord
  | settled record => if record.giveAsset = .cr ∧ record.takeAsset = .kwh then some record else none
  | _ => none

/-- A swap settled for credits. -/
def sale? : Fact → Option SwapRecord
  | settled record => if record.giveAsset = .kwh ∧ record.takeAsset = .cr then some record else none
  | _ => none

def buyerTrade? : Fact → Option TradeRecord
  | trade t => if t.role = .buyer then some t else none
  | _ => none

def settlement? : Fact → Option ImbalanceSettlement
  | settlement s => some s
  | _ => none

/-- What the ledger is told of the fact. -/
def effect : Fact → Option Effect
  | settled record => (assetEffects record).map (swapEffect record)
  | trade t => if t.role = .buyer then some (transportEffect t) else none
  | settlement s => some (settlementEffect s)

end Fact

/-- What a swap record says of its settlement. -/
def terms (r : SwapRecord) : String × Option String × String × Asset × ℚ × Asset × ℚ :=
  (r.idpk,r.swapId,r.cycleId,r.giveAsset,r.giveAmount,r.takeAsset,r.takeAmount)

/-- A delivery of the fact: the settlement of its swap, or a message that states
it under any envelope. -/
def Tells (cfg : Config) : MarketExtinction.Entry → Fact → Prop
  | .settled r, .settled record => terms r = terms record
  | .fact payload, .trade t => ∃ u, FactRedelivery.factOf cfg payload = some (.trade u) ∧
      t = { u with msgId := t.msgId, idpk := t.idpk }
  | .fact payload, .settlement s => ∃ u, FactRedelivery.factOf cfg payload = some (.settlement u) ∧
      s = { u with msgId := s.msgId, idpk := s.idpk }
  | _, _ => False

/-! ### The figures of the facts -/

section Figures
variable (facts : List Fact)

def purchases : List SwapRecord := facts.filterMap Fact.purchase?

def sales : List SwapRecord := facts.filterMap Fact.sale?

def buyerTrades : List TradeRecord := facts.filterMap Fact.buyerTrade?

def settlements : List ImbalanceSettlement := facts.filterMap Fact.settlement?

def energyBought : ℚ := ((purchases facts).map SwapRecord.takeAmount).sum

def paid : ℚ := ((purchases facts).map SwapRecord.giveAmount).sum

def received : ℚ := ((sales facts).map SwapRecord.takeAmount).sum

def transport : ℚ := ((buyerTrades facts).map TradeRecord.transportTotal).sum

def liquidated : ℚ := ((settlements facts).map ImbalanceSettlement.total).sum

/-- A settlement arrived, and every purchase has its buyer trade. -/
def Complete : Prop :=
  settlements facts ≠ [] ∧ ∀ p ∈ purchases facts, ∃ t ∈ buyerTrades facts, t.swapId = settlementKey p

instance : Decidable (Complete facts) := inferInstanceAs (Decidable (_ ∧ _))

end Figures

structure Figures where
  boughtKwh : Int
  coveredKwh : Int
  buyCost : ℚ
  transportCost : ℚ
  settlementCost : Option ℚ
  realCost : Option ℚ
  status : MetricStatus
deriving DecidableEq

def figuresOf (row : CycleStrategyMetric) : Figures where
  boughtKwh := row.boughtKwh
  coveredKwh := row.coveredKwh
  buyCost := row.buyCost
  transportCost := row.transportCost
  settlementCost := row.settlementCost
  realCost := row.realCost
  status := row.status

/-- The figures of a closed cycle as its facts give them. -/
def figures (cycle : Cycle) (facts : List Fact) : Figures where
  boughtKwh := ⌊energyBought facts⌋
  coveredKwh := min (deficit cycle) ⌊energyBought facts⌋
  buyCost := paid facts
  transportCost := transport facts
  settlementCost := if settlements facts = [] then none else some (-liquidated facts)
  realCost :=
    if Complete facts then some (paid facts + transport facts - liquidated facts - received facts)
    else none
  status :=
    if settlements facts = [] then .awaitingSettlement
    else if Complete facts then .final
    else .awaitingTransport

/-! ### Runs -/

inductive Turn where
  | deliver (fact : Fact) (message : MarketExtinction.Entry)
  | refresh (cycleId : String) (now : Instant)

structure State where
  db : Db
  metrics : Metrics

def turn (cfg : Config) (s : State) : Turn → State
  | .deliver _ message => { s with db := MarketExtinction.step cfg s.db message }
  | .refresh cycleId now =>
      match refreshCycleMetrics s.db s.metrics cycleId now with
      | .ok (metrics,_) => { s with metrics := metrics }
      | .error _ => s

/-- The facts delivered, in order, redeliveries included. -/
def delivered (turns : List Turn) : List Fact :=
  turns.filterMap fun
    | .deliver fact _ => some fact
    | .refresh .. => none

/-! ### What the ledger notes -/

def counted : OperationType → Bool
  | .swapSettled | .swapTransport | .imbalanceSettlement => true
  | _ => false

/-- An entry without its place in the ledger. -/
def plain (e : LedgerEntry) : LedgerEntry :=
  { e with
    sequenceNo := 0
    sourceMsgId := none
    negotiationId := none
    budgetAfter := 0
    energyAfter := 0 }

/-- The entry of an effect, without its place. -/
def written (effect : Effect) : LedgerEntry where
  cycleId := effect.cycleId
  sequenceNo := 0
  operationType := effect.operationType
  idpk := effect.idpk
  sourceMsgId := none
  negotiationId := none
  budgetDelta := effect.budgetDelta
  energyDelta := effect.energyDelta
  budgetAfter := 0
  energyAfter := 0
  details := effect.details

def keyOf (e : LedgerEntry) : Key := (e.operationType,e.idpk)

def noted (ledger : List LedgerEntry) : List LedgerEntry :=
  (ledger.filter fun e => counted e.operationType).map plain

def Fact.entry (f : Fact) : Option LedgerEntry := f.effect.map written

/-- The identity under which a trade is stored. -/
def Fact.swapId? : Fact → Option String
  | trade t => some t.swapId
  | _ => none

/-- The identity under which a settlement is stored, and its cycle. -/
def Fact.paidIn? : Fact → Option (String × String)
  | settlement s => some (s.settlementId,s.cycleId)
  | _ => none

def swapIds (books : Books) : List String := books.trades.rows.map TradeRecord.swapId

def paidIn (books : Books) : List (String × String) :=
  books.settlements.rows.map fun s => (s.settlementId,s.cycleId)

/-- The books hold these facts over what they held before. -/
structure Holds (base books : Books) (facts : List Fact) : Prop where
  entries : noted books.ledger = noted base.ledger ++ facts.filterMap Fact.entry
  trades : swapIds books = swapIds base ++ facts.filterMap Fact.swapId?
  settlements : paidIn books = paidIn base ++ facts.filterMap Fact.paidIn?

/-- A row of the cycle without its balances. -/
def frame (c : Cycle) : Cycle :=
  { c with budgetBalance := 0, energyBalance := 0, lastSequence := 0 }

/-- A cycle with a status and a bound strategy, of which no fact was told. -/
structure Ready (db : Db) (k : String) (facts : List Fact) (cycle : Cycle)
    (strategy : StrategyConfig) : Prop where
  known : db.books.cycles.get? k = some cycle
  status : cycle.statusIdpk.isSome
  bound : cycle.strategyVersion.bind db.strategies.get? = some strategy
  silent : ∀ e ∈ db.books.ledger, e.cycleId = k → counted e.operationType = false
  unpaid : ∀ s ∈ db.books.settlements, s.cycleId ≠ k
  unused : ∀ f ∈ facts, f.key ∉ db.books.ledger.map keyOf
  untold : ∀ f ∈ facts, ∀ id, f.swapId? = some id → id ∉ swapIds db.books
  unsettled : ∀ f ∈ facts, ∀ id, f.paidIn? = some id → id.1 ∉ (paidIn db.books).map Prod.fst

/-! ### Effects -/

/-- The books after an effect on cycles that exist. -/
structure Grown (books books' : Books) (entries : List LedgerEntry) : Prop where
  ordered : Ordered books'
  noted : noted books'.ledger = noted books.ledger ++ entries
  trades : books'.trades = books.trades
  settlements : books'.settlements = books.settlements
  frames : ∀ k, (books'.cycles.get? k).map frame = (books.cycles.get? k).map frame

theorem Grown.refl {books : Books} (ordered : Ordered books) : Grown books books [] where
  ordered := ordered
  noted := (List.append_nil _).symm
  trades := rfl
  settlements := rfl
  frames _ := rfl

theorem Grown.trans {a b c : Books} {l m : List LedgerEntry} (h : Grown a b l) (g : Grown b c m) :
    Grown a c (l ++ m) where
  ordered := g.ordered
  noted := by rw [g.noted,h.noted,List.append_assoc]
  trades := g.trades.trans h.trades
  settlements := g.settlements.trans h.settlements
  frames k := (g.frames k).trans (h.frames k)

section Effects
variable {cfg : Config} {books : Books} {effect : Effect} {cycle : Cycle}

theorem noted_append (l m : List LedgerEntry) : noted (l ++ m) = noted l ++ noted m := by
  unfold noted
  rw [List.filter_append,List.map_append]

theorem keys_noted (ledger : List LedgerEntry) : (noted ledger).map keyOf =
    (ledger.filter fun e => counted e.operationType).map keyOf := by
  unfold noted
  rw [List.map_map]
  rfl

/-- A counted effect is known by its key. -/
theorem existing?_eq_none (posts : counted effect.operationType) :
    existing? books effect = none ↔
      (effect.operationType,effect.idpk) ∉ (noted books.ledger).map keyOf := by
  unfold existing?
  rw [List.find?_eq_none,keys_noted]
  simp only [decide_eq_true_eq,List.mem_map,List.mem_filter,not_exists,not_and]
  constructor
  · intro h e he own
    unfold keyOf at own
    obtain ⟨type,idpk⟩ := Prod.mk.inj own
    exact h e he.1 idpk type
  · intro h e he idpk type
    apply h e ⟨he,by rw [type]; exact posts⟩
    unfold keyOf
    rw [type,idpk]

/-- The tables of the facts, and the frame of every cycle. -/
theorem respected_frames : Respected fun a b => b.trades = a.trades ∧
    b.settlements = a.settlements ∧
      ∀ k, (b.cycles.get? k).map frame = (a.cycles.get? k).map frame where
  refl _ := ⟨rfl,rfl,fun _ => rfl⟩
  trans h g := ⟨g.1.trans h.1,g.2.1.trans h.2.1,fun k => (g.2.2 k).trans (h.2.2 k)⟩
  post := by
    intro books books' effect rest h
    have frames := (respected_column frame fun _ _ => rfl).post h
    unfold post at h
    split at h
    · cases h
    split at h
    · cases h
      exact ⟨rfl,rfl,frames⟩
    dsimp only at h
    split at h <;> cases h
    exact ⟨rfl,rfl,frames⟩

theorem effect_again {entry : LedgerEntry} (found : books.cycles.get? effect.cycleId = some cycle)
    (known : existing? books effect = some entry) :
    applyLedgerEffect cfg books effect = .ok (books,entry,false) := by
  unfold applyLedgerEffect post
  rw [found]
  dsimp only
  rw [known]
  rfl

/-- A new effect adds its entry; what is carried on from it is not counted. -/
theorem effect_new (cfg : Config) (ordered : Ordered books)
    (found : books.cycles.get? effect.cycleId = some cycle) (fresh : existing? books effect = none) :
    ∃ books' rest, applyLedgerEffect cfg books effect = .ok (books',rest) ∧
      Grown books books' (if counted effect.operationType then [written effect] else []) := by
  obtain ⟨⟨books',entry,applied⟩,done⟩ := LedgerConsistency.effect_taken cfg ordered found
  refine ⟨books',(entry,applied),done,?_⟩
  obtain ⟨trades,settlements,frames⟩ := respected_frames.effect done
  refine ⟨received_ordered.effect done ordered,?_,trades,settlements,frames⟩
  rcases applyLedgerEffect_cases done with ⟨_,known⟩ | ⟨cycle',found',_,outcome⟩
  · rw [fresh] at known
    cases known
  · obtain ⟨added,ledger,carried⟩ := (effect_shift ordered found' outcome).entries
    have hidden : noted added = [] := by
      unfold noted
      rw [List.filter_eq_nil_iff.mpr,List.map_nil]
      intro e he
      rw [(carried e he).1]
      decide
    have entry : noted [nextEntry cycle' effect] =
        if counted effect.operationType then [written effect] else [] := by
      unfold noted
      rw [List.filter_singleton,show (nextEntry cycle' effect).operationType = effect.operationType
        from rfl]
      cases counted effect.operationType <;> rfl
    rw [ledger,noted_append,hidden,List.append_nil,← entry]
    exact noted_append _ _

theorem effect_grows (cfg : Config) (effect : Effect) (ordered : Ordered books)
    (found : books.cycles.get? effect.cycleId = some cycle)
    (silent : counted effect.operationType = false) :
    ∃ books' rest, applyLedgerEffect cfg books effect = .ok (books',rest) ∧ Grown books books' [] := by
  cases known : existing? books effect with
  | some entry => exact ⟨books,(entry,false),effect_again found known,.refl ordered⟩
  | none =>
    obtain ⟨books',rest,done,grown⟩ := effect_new cfg ordered found known
    rw [silent] at grown
    exact ⟨books',rest,done,grown⟩

/-- A settlement posts its entry, then burns what is left uncounted. -/
theorem settlement_new (cfg : Config) (ordered : Ordered books) {s : ImbalanceSettlement}
    (found : books.cycles.get? s.cycleId = some cycle)
    (fresh : existing? books (settlementEffect s) = none) :
    ∃ books', applyImbalanceSettlement cfg books s = .ok books' ∧
      Grown books books' [written (settlementEffect s)] := by
  obtain ⟨paid,rest,posted,grown⟩ := effect_new cfg ordered found fresh
  change Grown books paid [written (settlementEffect s)] at grown
  have here : (paid.cycles.get? s.cycleId).map frame = some (frame cycle) := by
    rw [grown.frames,found]
    rfl
  obtain ⟨left,hleft,_⟩ := Option.map_eq_some_iff.mp here
  unfold applyImbalanceSettlement
  rw [found]
  dsimp only
  rw [posted,Fallible.ok_bind]
  dsimp only
  rw [hleft]
  dsimp only
  by_cases spent : left.energyBalance = 0
  · rw [if_pos spent]
    exact ⟨paid,rfl,grown⟩
  · rw [if_neg spent]
    obtain ⟨burnt,rest',burn,more⟩ := effect_grows cfg (burnEffect s left.energyBalance)
      grown.ordered hleft rfl
    rw [burn]
    exact ⟨burnt,rfl,grown.trans more⟩

end Effects

end CycleMetrics

end EnergyNode
