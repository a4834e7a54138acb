import EnergyNode.BudgetChain
import EnergyNode.CycleMetricFigures

/-! The budgets as a function of the economic facts. Each fact enters the ledger
once; in whatever order the facts of all cycles arrive, however often they are
repeated and whenever the closed markets are swept, one synchronisation leaves
the same budget in every cycle. -/
namespace EnergyNode
open Lib

namespace EconomicFacts
open Ledger StoredLedger BudgetChain

variable {cfg : Config} {a b c books books' after : Books} {k : String}

/-! ### What a cycle holds of its own -/

/-- What the cycle holds besides what was carried into it. -/
def own (books : Books) (k : String) : ℚ :=
  ((books.cycles.get? k).map fun c => c.budgetBalance - credited books k).getD 0

theorem held_own {c : Cycle} (hk : books.cycles.get? k = some c) :
    held books (some k) = own books k + credited books k := by
  rw [held_some hk,own,hk]
  simp

theorem own_shift (h : Shift a b) (before : Whole a) (after : Whole b) (k : String) :
    own b k = own a k := by
  unfold own
  cases hk : a.cycles.get? k with
  | none =>
    rw [h.missing k hk]
    rfl
  | some c =>
    obtain ⟨n,hn⟩ := h.whole before after k c hk
    rw [hn]
    simp only [Option.map_some,Option.getD_some]
    ring

theorem own_posted {effect : Effect} {cycle : Cycle}
    (found : books.cycles.get? effect.cycleId = some cycle)
    (external : effect.operationType ≠ .budgetCarryover) (whole : Whole books)
    (cents : Cents effect.budgetDelta) (k : String) :
    own (posted books cycle effect) k =
      own books k + if effect.cycleId = k then effect.budgetDelta else 0 := by
  have same : credited (posted books cycle effect) k = credited books k := by
    rw [credited_posted,if_neg fun both => external both.2,add_zero]
  unfold own
  rw [get?_posted found,same]
  by_cases here : k = effect.cycleId
  · rw [if_pos here,if_pos here.symm,here,found]
    simp only [Option.map_some,Option.getD_some,advance]
    rw [plus_cents (whole.cycle cycle (Table.mem_of_get? found)) cents]
    ring
  · rw [if_neg here,if_neg (Ne.symm here),add_zero]

/-- Every opened cycle was credited what those before it hold of their own. -/
theorem credited_synchronized (numbered : Numbered books) (whole : Whole books)
    (h : synchronizeBudgetCarryover cfg books = .ok after) :
    ∀ k ∈ openedIds books,
      credited after k = (((openedIds books).takeWhile (· ≠ k)).map (own books)).sum := by
  obtain ⟨shift,_⟩ := synchronize_shift numbered h
  obtain ⟨ends,chain⟩ := synchronize_whole numbered whole h
  have same := (openedCycles_congr shift.places).1
  intro k hk
  have balances (x : String) (hx : x ∈ openedIds after) :
      held after (some x) = own after x + credited after x := by
    obtain ⟨c,hc,_⟩ := mem_openedIds.mp hx
    exact held_own hc
  have chained := chain.credited_eq balances k (same.symm ▸ hk)
  rw [chained,same,show own after = own books from funext (own_shift shift whole ends)]
  exact zero_add _

/-! ### What enters the books -/

open CycleMetrics (plain written keyOf Key swapIds paidIn)

/-- Entries that tell a fact, and no carryover or burn of the books' own. -/
def economic : OperationType → Bool
  | .budgetCarryover | .imbalanceBurn | .imbalanceClose | .imbalanceBurnFallback => false
  | _ => true

def noticed (ledger : List LedgerEntry) : List LedgerEntry :=
  (ledger.filter fun e => economic e.operationType).map plain

theorem noticed_append (l m : List LedgerEntry) : noticed (l ++ m) = noticed l ++ noticed m := by
  unfold noticed
  rw [List.filter_append,List.map_append]

/-- What the entries give to the cycle. -/
def amount (entries : List LedgerEntry) (k : String) : ℚ :=
  ((entries.filter fun e => e.cycleId = k).map LedgerEntry.budgetDelta).sum

theorem amount_append (l m : List LedgerEntry) (k : String) :
    amount (l ++ m) k = amount l k + amount m k := by
  unfold amount
  rw [List.filter_append,List.map_append,List.sum_append]

theorem amount_perm {l m : List LedgerEntry} (h : l.Perm m) (k : String) :
    amount l k = amount m k := ((h.filter _).map _).sum_eq

/-- The books after these entries, trades and settlements, and what they set in motion. -/
structure Enters (a b : Books) (entries : List LedgerEntry) (ids : List String)
    (paid : List (String × String)) : Prop where
  sound : Sound b
  known : ∀ k, (b.cycles.get? k).isSome = (a.cycles.get? k).isSome
  opened : openedIds b = openedIds a
  own : ∀ k, own b k = own a k + amount entries k
  aside : ∀ k ∉ openedIds a, credited b k = credited a k
  noticed : noticed b.ledger = noticed a.ledger ++ entries
  trades : swapIds b = swapIds a ++ ids
  settlements : paidIn b = paidIn a ++ paid

namespace Enters
variable {l m : List LedgerEntry} {ids jds : List String} {paid owed : List (String × String)}

theorem refl (sound : Sound a) : Enters a a [] [] [] where
  sound := sound
  known _ := rfl
  opened := rfl
  own _ := (add_zero _).symm
  aside _ _ := rfl
  noticed := (List.append_nil _).symm
  trades := (List.append_nil _).symm
  settlements := (List.append_nil _).symm

theorem trans (h : Enters a b l ids paid) (g : Enters b c m jds owed) :
    Enters a c (l ++ m) (ids ++ jds) (paid ++ owed) where
  sound := g.sound
  known k := (g.known k).trans (h.known k)
  opened := g.opened.trans h.opened
  own k := by rw [g.own,h.own,amount_append,add_assoc]
  aside k aside := (g.aside k (h.opened ▸ aside)).trans (h.aside k aside)
  noticed := by rw [g.noticed,h.noticed,List.append_assoc]
  trades := by rw [g.trades,h.trades,List.append_assoc]
  settlements := by rw [g.settlements,h.settlements,List.append_assoc]

end Enters

section Effects
variable {effect : Effect} {cycle : Cycle}

theorem exact_posted (h : Exact books) (found : books.cycles.get? effect.cycleId = some cycle)
    (cents : Cents effect.budgetDelta ∧ Cents effect.energyDelta) :
    Exact (posted books cycle effect) := by
  obtain ⟨openingBudget,openingEnergy,budget,energy⟩ := h.cycle cycle (Table.mem_of_get? found)
  constructor
  · intro c hc
    have stored := Table.get?_of_mem hc
    rw [get?_posted found] at stored
    split at stored
    · cases stored
      refine ⟨openingBudget,openingEnergy,?_,?_⟩
      · show Cents (plus cycle.budgetBalance effect.budgetDelta)
        rw [plus_cents budget cents.1]
        exact budget.add cents.1
      · show Cents (plus cycle.energyBalance effect.energyDelta)
        rw [plus_cents energy cents.2]
        exact energy.add cents.2
    · exact h.cycle c (Table.mem_of_get? stored)
  · intro e he
    rcases List.mem_append.mp he with old | new
    · exact h.entry e old
    · rw [List.mem_singleton.mp new]
      exact cents

/-- An effect that was not known enters, and nothing else does. -/
theorem enters_effect {rest : LedgerEntry × Bool} (sound : Sound a)
    (fresh : existing? a effect = none) (external : effect.operationType ≠ .budgetCarryover)
    (cents : Cents effect.budgetDelta ∧ Cents effect.energyDelta)
    (free : economic effect.operationType = false → effect.budgetDelta = 0)
    (h : applyLedgerEffect cfg a effect = .ok (b,rest)) :
    Enters a b (if economic effect.operationType then [written effect] else []) [] [] := by
  obtain ⟨trades,settlements,frames⟩ := CycleMetrics.respected_frames.effect h
  obtain ⟨entry,applied⟩ := rest
  rcases applyLedgerEffect_cases h with ⟨_,known⟩ | ⟨cycle,found,_,outcome⟩
  · rw [fresh] at known
    cases known
  have shift := effect_shift sound.toOrdered found outcome
  have ordered := ordered_posted sound.toOrdered found
  have exact_ := exact_posted sound.exact_ found cents
  have opened : openedIds (posted a cycle effect) = openedIds a :=
    (openedCycles_congr (places_posted found)).1
  have credits (k : String) : credited (posted a cycle effect) k = credited a k := by
    rw [credited_posted,if_neg fun both => external both.2,add_zero]
  have sound_ : Sound b := by
    refine ⟨ordered.ofShift shift,?_⟩
    rcases outcome with ⟨_,rfl⟩ | ⟨_,carried⟩
    · exact exact_
    · exact exact_synchronized ordered.numbered exact_ carried
  refine ⟨sound_,?_,?_,?_,?_,?_,?_,?_⟩
  · intro k
    have same := congrArg Option.isSome (frames k)
    rwa [Option.isSome_map,Option.isSome_map] at same
  · exact (openedCycles_congr shift.places).1.trans opened
  · intro k
    rw [own_shift shift exact_.whole sound_.exact_.whole,
      own_posted found external sound.exact_.whole cents.1]
    congr 1
    cases type : economic effect.operationType with
    | false =>
      rw [free type,ite_self]
      rfl
    | true =>
      by_cases here : effect.cycleId = k <;> simp [amount,written,here]
  · intro k aside
    rcases outcome with ⟨_,rfl⟩ | ⟨_,carried⟩
    · exact credits k
    · exact ((synchronize_shift ordered.numbered carried).2.2 k (opened ▸ aside)).trans (credits k)
  · obtain ⟨added,ledger,carried⟩ := shift.entries
    have hidden : noticed added = [] := by
      unfold noticed
      rw [List.filter_eq_nil_iff.mpr,List.map_nil]
      intro e he
      rw [(carried e he).1]
      decide
    have entry : noticed [nextEntry cycle effect] =
        if economic effect.operationType then [written effect] else [] := by
      unfold noticed
      rw [List.filter_singleton,show (nextEntry cycle effect).operationType = effect.operationType
        from rfl]
      cases economic effect.operationType <;> rfl
    rw [ledger,noticed_append,hidden,List.append_nil,← entry]
    exact noticed_append _ _
  · unfold swapIds
    rw [trades,List.append_nil]
  · unfold paidIn
    rw [settlements,List.append_nil]

/-- A burn enters no fact, whether or not the ledger takes it. -/
theorem enters_burn {rest : LedgerEntry × Bool} (sound : Sound a)
    (external : effect.operationType ≠ .budgetCarryover)
    (silent : economic effect.operationType = false) (free : effect.budgetDelta = 0)
    (whole : Cents effect.energyDelta) (h : applyLedgerEffect cfg a effect = .ok (b,rest)) :
    Enters a b [] [] [] := by
  obtain ⟨entry,applied⟩ := rest
  rcases applyLedgerEffect_cases h with ⟨rfl,_⟩ | ⟨_,_,fresh,_⟩
  · exact .refl sound
  · have entered := enters_effect sound fresh external ⟨free ▸ Cents.zero,whole⟩ (fun _ => free) h
    rwa [silent] at entered

end Effects

/-- Amounts in cents are stored as they are. -/
theorem enters_store (sound : Sound a) : Enters a (store a) [] [] [] where
  sound := sound.toOrdered.stored
  known k := by rw [get?_store,Option.isSome_map]
  opened := (openedCycles_congr places_store).1
  own k := by
    rw [show amount [] k = 0 from rfl,add_zero]
    unfold own
    rw [get?_store,credited_store sound.exact_]
    cases hk : a.cycles.get? k with
    | none => rfl
    | some c => simp [(sound.exact_.storedCycle (Table.mem_of_get? hk)).1]
  aside k _ := credited_store sound.exact_ k
  noticed := by
    rw [List.append_nil]
    unfold noticed
    rw [show (store a).ledger = a.ledger.map storedEntry from rfl,List.filter_map,List.map_map]
    apply List.map_congr_left
    intro e he
    obtain ⟨budget,energy⟩ := sound.exact_.entry e (List.mem_of_mem_filter he)
    show plain (storedEntry e) = plain e
    unfold plain storedEntry
    dsimp only
    rw [centsHalfUp_of_cents budget,centsHalfUp_of_cents energy]
  trades := CycleMetrics.swapIds_store.trans (List.append_nil _).symm
  settlements := CycleMetrics.paidIn_store.trans (List.append_nil _).symm

open CycleAccounting

theorem closeEffect_silent (books : Books) (c : Cycle) :
    economic (closeEffect books c).operationType = false ∧
      (closeEffect books c).operationType ≠ .budgetCarryover := by
  unfold closeEffect
  dsimp only
  split <;> exact ⟨rfl,OperationType.noConfusion⟩

theorem enters_closeCycle {swept done : Books × Finalization} (sound : Sound swept.1)
    (h : closeCycle cfg swept k = .ok done) : Enters swept.1 done.1 [] [] [] := by
  obtain ⟨books,report⟩ := swept
  unfold closeCycle at h
  dsimp only at h
  split at h
  · cases h
    exact .refl sound
  rename_i cycle found
  split at h
  · cases h
    exact .refl sound
  obtain ⟨⟨after,rest⟩,posted,rfl⟩ := Fallible.map_ok.mp h
  obtain ⟨silent,external⟩ := closeEffect_silent books cycle
  have energy := (sound.exact_.cycle cycle (Table.mem_of_get? found)).2.2.2
  exact enters_burn sound external silent rfl energy.neg posted

theorem enters_sweep {locked : List String} {now : Instant} {report : Finalization}
    (sound : Sound a) (h : finalizeClosedMarkets cfg a locked now = .ok (b,report)) :
    Enters a b [] [] [] := by
  unfold finalizeClosedMarkets at h
  generalize examinedCycles a locked now = cycles at h
  suffices every : ∀ (swept : Books × Finalization), Sound swept.1 →
      cycles.foldlM (closeCycle cfg) swept = .ok (b,report) → Enters swept.1 b [] [] [] from
    every (a,{}) sound h
  clear h sound
  induction cycles with
  | nil =>
    intro swept sound h
    cases h
    exact .refl sound
  | cons k cycles ih =>
    intro swept sound h
    rw [List.foldlM_cons] at h
    obtain ⟨mid,first,rest⟩ := Fallible.bind_ok.mp h
    have closed := enters_closeCycle sound first
    exact closed.trans (ih mid closed.sound rest)

theorem enters_trade (sound : Sound a) (t : TradeRecord) (free : a.trades.get? t.swapId = none) :
    Enters a { a with trades := a.trades.insert t free } [] [t.swapId] [] where
  sound := ⟨⟨sound.numbered,sound.chronological⟩,⟨sound.exact_.cycle,sound.exact_.entry⟩⟩
  known _ := rfl
  opened := rfl
  own _ := (add_zero _).symm
  aside _ _ := rfl
  noticed := (List.append_nil _).symm
  trades := by
    unfold swapIds
    rw [Table.rows_insert,List.map_append]
    rfl
  settlements := (List.append_nil _).symm

theorem enters_paid (sound : Sound a) (s : ImbalanceSettlement)
    (free : a.settlements.get? s.settlementId = none) :
    Enters a { a with settlements := a.settlements.insert s free } [] []
      [(s.settlementId,s.cycleId)] where
  sound := ⟨⟨sound.numbered,sound.chronological⟩,⟨sound.exact_.cycle,sound.exact_.entry⟩⟩
  known _ := rfl
  opened := rfl
  own _ := (add_zero _).symm
  aside _ _ := rfl
  noticed := (List.append_nil _).symm
  trades := (List.append_nil _).symm
  settlements := by
    unfold paidIn
    rw [Table.rows_insert,List.map_append]
    rfl

/-! ### The facts -/

/-- Something the ledger is told of a cycle, once. -/
inductive Event where
  /-- A settled swap, a trade or an imbalance settlement. -/
  | wallet (fact : CycleMetrics.Fact)
  /-- What a message of the central states by itself, as a transfer does. -/
  | direct (effect : Effect)
deriving DecidableEq

namespace Event

def key : Event → Key
  | wallet fact => fact.key
  | direct effect => (effect.operationType,effect.idpk)

def cycleId : Event → String
  | wallet fact => fact.cycleId
  | direct effect => effect.cycleId

def entry : Event → Option LedgerEntry
  | wallet fact => fact.entry
  | direct effect => some (written effect)

def swapId? : Event → Option String
  | wallet fact => fact.swapId?
  | direct _ => none

def paidIn? : Event → Option (String × String)
  | wallet fact => fact.paidIn?
  | direct _ => none

/-- Its amounts are in cents. -/
def Valid : Event → Prop
  | wallet fact => fact.Valid fact.cycleId
  | direct effect => economic effect.operationType ∧ Cents effect.budgetDelta ∧
      Cents effect.energyDelta

/-- A delivery of the event, under any envelope. -/
def Tells (cfg : Config) (m : MarketExtinction.Entry) : Event → Prop
  | wallet fact => CycleMetrics.Tells cfg m fact
  | direct effect => ∃ posting source, m = .ledger (.effect posting) ∧
      posting.toEffect = { effect with sourceMsgId := source }

end Event

open CycleMetrics (Fact New Known served)

section Served
variable {cycle : Cycle} {record : SwapRecord} {t : TradeRecord} {s : ImbalanceSettlement}

/-- The amounts that the fact posts are in cents. -/
def Whole (f : Fact) : Prop := ∀ e ∈ f.entry, Cents e.budgetDelta ∧ Cents e.energyDelta

theorem Whole.effect {f : Fact} {effect : Effect} (whole : Whole f)
    (posts : f.effect = some effect) : Cents effect.budgetDelta ∧ Cents effect.energyDelta :=
  whole (written effect) (by rw [Fact.entry,posts]; rfl)

theorem enters_settled (sound : Sound a) (found : a.cycles.get? record.cycleId = some cycle)
    (new : New a (.settled record)) (whole : Whole (.settled record))
    (h : applySwapSettled cfg a record = .ok b) :
    Enters a b (Fact.settled record).entry.toList [] [] := by
  unfold applySwapSettled at h
  rw [found] at h
  cases deltas : assetEffects record with
  | none =>
    rw [deltas] at h
    cases h
    rw [show (Fact.settled record).entry = none by simp [Fact.entry,Fact.effect,deltas]]
    exact .refl sound
  | some d =>
    rw [deltas] at h
    obtain ⟨⟨b,rest⟩,posted,rfl⟩ := Fallible.map_ok.mp h
    have posts : (Fact.settled record).effect = some (swapEffect record d) := by
      simp [Fact.effect,deltas]
    rw [Fact.entry,posts]
    exact enters_effect sound ((CycleMetrics.existing?_eq_none rfl).mpr new.key)
      OperationType.noConfusion (whole.effect posts) Bool.noConfusion posted

theorem enters_told (sound : Sound a) (found : a.cycles.get? t.cycleId = some cycle)
    (new : New a (.trade t)) (whole : Whole (.trade t))
    (h : served cfg a (.trade t) = .ok b) :
    Enters a b (Fact.trade t).entry.toList [t.swapId] [] := by
  have free : a.trades.get? t.swapId = none :=
    Table.get?_eq_none.mpr fun u hu same => new.swapId _ rfl (List.mem_map.mpr ⟨u,hu,same⟩)
  have inserted : a.trades.insert? t = some (a.trades.insert t free) :=
    Table.insert?_eq_some.mpr ⟨free,rfl⟩
  unfold served FactRedelivery.Fact.record at h
  dsimp only at h
  rw [inserted] at h
  obtain ⟨⟨b,audit⟩,stored,rfl⟩ := Fallible.map_ok.mp h
  obtain ⟨b',posted,stored⟩ := Fallible.bind_ok.mp stored
  cases stored
  have first := enters_trade sound t free
  unfold applyTradeTransport at posted
  rw [show Table.get? _ t.cycleId = some cycle from found] at posted
  cases role : t.role with
  | seller =>
    rw [role] at posted
    cases posted
    rw [show (Fact.trade t).entry = none by simp [Fact.entry,Fact.effect,role]]
    exact first
  | buyer =>
    rw [role] at posted
    dsimp only at posted
    obtain ⟨⟨after,rest⟩,taken,rfl⟩ := Fallible.map_ok.mp posted
    have posts : (Fact.trade t).effect = some (transportEffect t) := by simp [Fact.effect,role]
    rw [Fact.entry,posts]
    exact first.trans (enters_effect first.sound ((CycleMetrics.existing?_eq_none rfl).mpr new.key)
      OperationType.noConfusion (whole.effect posts) Bool.noConfusion taken)

theorem enters_settlement (sound : Sound a) (found : a.cycles.get? s.cycleId = some cycle)
    (fresh : existing? a (settlementEffect s) = none) (cents : Cents s.total)
    (h : applyImbalanceSettlement cfg a s = .ok b) :
    Enters a b [written (settlementEffect s)] [] [] := by
  unfold applyImbalanceSettlement at h
  rw [found] at h
  obtain ⟨⟨mid,rest⟩,posted,h⟩ := Fallible.bind_ok.mp h
  have first : Enters a mid [written (settlementEffect s)] [] [] :=
    enters_effect sound fresh OperationType.noConfusion ⟨cents,Cents.zero⟩
      Bool.noConfusion posted
  dsimp only at h
  split at h
  · rename_i left hleft
    split at h
    · cases h
      exact first
    · obtain ⟨⟨after,rest⟩,burnt,h⟩ := Fallible.bind_ok.mp h
      cases h
      have energy := (first.sound.exact_.cycle left (Table.mem_of_get? hleft)).2.2.2
      exact first.trans
        (enters_burn first.sound OperationType.noConfusion rfl rfl energy.neg burnt)
  · cases h
    exact first

theorem enters_liquidated (sound : Sound a) (found : a.cycles.get? s.cycleId = some cycle)
    (new : New a (.settlement s)) (whole : Whole (.settlement s))
    (h : served cfg a (.settlement s) = .ok b) :
    Enters a b (Fact.settlement s).entry.toList [] [(s.settlementId,s.cycleId)] := by
  have free : a.settlements.get? s.settlementId = none := by
    refine Table.get?_eq_none.mpr fun r hr same => new.paidIn _ rfl ?_
    unfold paidIn
    rw [List.map_map]
    exact List.mem_map.mpr ⟨r,hr,same⟩
  have inserted : a.settlements.insert? s = some (a.settlements.insert s free) :=
    Table.insert?_eq_some.mpr ⟨free,rfl⟩
  unfold served FactRedelivery.Fact.record at h
  dsimp only at h
  rw [inserted] at h
  obtain ⟨⟨b,audit⟩,stored,rfl⟩ := Fallible.map_ok.mp h
  obtain ⟨b',posted,stored⟩ := Fallible.bind_ok.mp stored
  cases stored
  have sound' := (enters_paid sound s free).sound
  have fresh : existing? { a with settlements := a.settlements.insert s free }
      (settlementEffect s) = none := (CycleMetrics.existing?_eq_none rfl).mpr new.key
  exact (enters_paid sound s free).trans
    (enters_settlement sound' found fresh (whole.effect rfl).1 posted)

theorem enters_served {f : Fact} (sound : Sound a) (found : a.cycles.get? f.cycleId = some cycle)
    (new : New a f) (whole : Whole f) (h : served cfg a f = .ok b) :
    Enters a b f.entry.toList f.swapId?.toList f.paidIn?.toList := by
  cases f with
  | settled record => exact enters_settled sound found new whole h
  | trade t => exact enters_told sound found new whole h
  | settlement s => exact enters_liquidated sound found new whole h

end Served

/-! ### What was told -/

/-- The cycles of the events exist, and nothing of them is known. -/
structure Unheard (base : Books) (events : List Event) : Prop where
  known : ∀ e ∈ events, (base.cycles.get? e.cycleId).isSome
  unused : ∀ e ∈ events, e.key ∉ base.ledger.map keyOf
  untold : ∀ e ∈ events, ∀ id, e.swapId? = some id → id ∉ swapIds base
  unsettled : ∀ e ∈ events, ∀ id, e.paidIn? = some id → id.1 ∉ (paidIn base).map Prod.fst

/-- The books after these events. -/
def Tale (base books : Books) (told : List Event) : Prop :=
  Enters base books (told.filterMap Event.entry) (told.filterMap Event.swapId?)
    (told.filterMap Event.paidIn?)

section Told
variable {base : Books} {events told : List Event} {e : Event}

theorem Event.key_of_entry {x : LedgerEntry} (h : e.entry = some x) : keyOf x = e.key := by
  cases e with
  | wallet fact => exact CycleMetrics.key_of_entry h
  | direct effect =>
    cases h
    rfl

theorem Event.key_of_swapId {id : String} (h : e.swapId? = some id) :
    e.key = (.swapTransport,id) := by
  cases e with
  | wallet fact => exact CycleMetrics.key_of_swapId h
  | direct effect => cases h

theorem Event.key_of_paidIn {id : String × String} (h : e.paidIn? = some id) :
    e.key = (.imbalanceSettlement,id.1) := by
  cases e with
  | wallet fact => exact CycleMetrics.key_of_paidIn h
  | direct effect => cases h

theorem Event.Valid.economic (valid : e.Valid) : economic e.key.1 := by
  cases e with
  | wallet fact => cases fact <;> rfl
  | direct effect => exact valid.1

theorem Event.Valid.whole (valid : e.Valid) {x : LedgerEntry} (h : e.entry = some x) :
    Cents x.budgetDelta ∧ Cents x.energyDelta := by
  cases e with
  | wallet fact => exact CycleMetrics.entry_cents valid h
  | direct effect =>
    cases h
    exact valid.2

theorem mem_keys {ledger : List LedgerEntry} {key : Key} (kind : economic key.1) :
    key ∈ ledger.map keyOf ↔ key ∈ (noticed ledger).map keyOf := by
  unfold noticed
  rw [List.map_map]
  constructor
  · intro h
    obtain ⟨e,he,rfl⟩ := List.mem_map.mp h
    exact List.mem_map.mpr ⟨e,List.mem_filter.mpr ⟨he,kind⟩,rfl⟩
  · intro h
    obtain ⟨e,he,rfl⟩ := List.mem_map.mp h
    exact List.mem_map.mpr ⟨e,List.mem_of_mem_filter he,rfl⟩

theorem noted_noticed (ledger : List LedgerEntry) : CycleMetrics.noted ledger =
    (noticed ledger).filter fun e => CycleMetrics.counted e.operationType := by
  unfold CycleMetrics.noted noticed
  rw [List.filter_map,List.filter_filter]
  congr 1
  apply List.filter_congr
  intro e _
  show CycleMetrics.counted e.operationType =
    (CycleMetrics.counted e.operationType && economic e.operationType)
  cases e.operationType <;> rfl

theorem existing?_none {effect : Effect} : existing? books effect = none ↔
    (effect.operationType,effect.idpk) ∉ books.ledger.map keyOf := by
  unfold existing?
  rw [List.find?_eq_none]
  simp only [decide_eq_true_eq,List.mem_map,not_exists,not_and]
  constructor
  · intro h e he own
    obtain ⟨type,idpk⟩ := Prod.mk.inj own
    exact h e he idpk type
  · intro h e he idpk type
    exact h e he (Prod.ext type idpk)

/-- An event not told is not known. -/
theorem Tale.new (h : Tale base books told) (unheard : Unheard base events)
    (valid : ∀ e ∈ events, e.Valid) (distinct : (events.map Event.key).Nodup)
    (own : ∀ x ∈ told, x ∈ events) (mem : e ∈ events) (untold : e ∉ told) :
    e.key ∉ books.ledger.map keyOf ∧ (∀ id, e.swapId? = some id → id ∉ swapIds books) ∧
      ∀ id, e.paidIn? = some id → id.1 ∉ (paidIn books).map Prod.fst := by
  have other {x : Event} (hx : x ∈ told) : x.key ≠ e.key := fun same =>
    untold (List.inj_on_of_nodup_map distinct (own x hx) mem same ▸ hx)
  refine ⟨?_,?_,?_⟩
  · rw [mem_keys (valid e mem).economic,h.noticed,List.map_append,List.mem_append,
      ← mem_keys (valid e mem).economic]
    rintro (old | new)
    · exact unheard.unused e mem old
    · obtain ⟨x,hx,key⟩ := List.mem_map.mp new
      obtain ⟨g,hg,entry⟩ := List.mem_filterMap.mp hx
      exact other hg ((Event.key_of_entry entry).symm.trans key)
  · intro id hid
    rw [h.trades,List.mem_append]
    rintro (old | new)
    · exact unheard.untold e mem id hid old
    · obtain ⟨g,hg,same⟩ := List.mem_filterMap.mp new
      exact other hg ((Event.key_of_swapId same).trans (Event.key_of_swapId hid).symm)
  · intro id hid
    rw [h.settlements,List.map_append,List.mem_append]
    rintro (old | new)
    · exact unheard.unsettled e mem id hid old
    · obtain ⟨p,hp,same⟩ := List.mem_map.mp new
      obtain ⟨g,hg,paid⟩ := List.mem_filterMap.mp hp
      refine other hg ?_
      rw [Event.key_of_paidIn paid,Event.key_of_paidIn hid,same]

theorem Tale.known {fact : Fact} (h : Tale base books told) (mem : .wallet fact ∈ told) :
    Known books fact where
  key posts := by
    obtain ⟨x,hx⟩ := Option.ne_none_iff_exists'.mp posts
    have key := CycleMetrics.key_of_entry hx
    have there : x ∈ noticed books.ledger := by
      rw [h.noticed]
      exact List.mem_append_right _ (List.mem_filterMap.mpr ⟨_,mem,hx⟩)
    rw [noted_noticed]
    refine List.mem_map.mpr ⟨x,List.mem_filter.mpr ⟨there,?_⟩,key⟩
    rw [show x.operationType = fact.key.1 from congrArg Prod.fst key]
    cases fact <;> rfl
  swapId id hid := by
    rw [h.trades]
    exact List.mem_append_right _ (List.mem_filterMap.mpr ⟨_,mem,hid⟩)
  paidIn id hid := by
    rw [h.settlements,List.map_append]
    exact List.mem_append_right _ (List.mem_map_of_mem (List.mem_filterMap.mpr ⟨_,mem,hid⟩))

theorem Tale.stored (h : Tale base books told) : Tale base (store books) told := by
  have kept := h.trans (enters_store h.sound)
  rwa [List.append_nil,List.append_nil,List.append_nil] at kept

theorem Tale.then_ (h : Tale base books told)
    (enters : Enters books books' e.entry.toList e.swapId?.toList e.paidIn?.toList) :
    Tale base books' (told ++ [e]) := by
  have more := h.trans enters
  unfold Tale
  rw [List.filterMap_append,List.filterMap_append,List.filterMap_append]
  have single {β : Type} (f : Event → Option β) : [e].filterMap f = (f e).toList := by
    cases he : f e <;> simp [he]
  rwa [single,single,single]

end Told

/-! ### Deliveries -/

section Deliver
variable {base : Books} {events log : List Event} {e : Event} {db : Db} {fact : Fact}
  {effect : Effect} {m : MarketExtinction.Entry} {told : List Event}

theorem wallet_again (h : Tale base db.books told) (mem : .wallet fact ∈ told)
    (found : (db.books.cycles.get? fact.cycleId).isSome) (tells : CycleMetrics.Tells cfg m fact) :
    (MarketExtinction.step cfg db m).books = store db.books := by
  obtain ⟨g,key,cycleId,entry,swapId,paidIn,step⟩ := CycleMetrics.tells_served db tells
  obtain ⟨c,here⟩ := Option.isSome_iff_exists.mp found
  have old := h.known mem
  have known : Known db.books g :=
    ⟨by rw [entry,key]; exact old.key,by rw [swapId]; exact old.swapId,
      by rw [paidIn]; exact old.paidIn⟩
  rw [step,CycleMetrics.served_again cfg (cycleId ▸ here) known]
  rfl

theorem wallet_new (h : Tale base db.books told) (whole : Whole fact)
    (found : (db.books.cycles.get? fact.cycleId).isSome)
    (fresh : fact.key ∉ db.books.ledger.map keyOf)
    (untold : ∀ id, fact.swapId? = some id → id ∉ swapIds db.books)
    (unpaid : ∀ id, fact.paidIn? = some id → id.1 ∉ (paidIn db.books).map Prod.fst)
    (tells : CycleMetrics.Tells cfg m fact) :
    Tale base (MarketExtinction.step cfg db m).books (told ++ [.wallet fact]) := by
  obtain ⟨g,key,cycleId,entry,swapId,paid,step⟩ := CycleMetrics.tells_served db tells
  obtain ⟨c,here⟩ := Option.isSome_iff_exists.mp found
  have new : New db.books g := by
    refine ⟨?_,by rw [swapId]; exact untold,by rw [paid]; exact unpaid⟩
    rw [key,CycleMetrics.keys_noted]
    intro noted
    obtain ⟨x,hx,same⟩ := List.mem_map.mp noted
    exact fresh (List.mem_map.mpr ⟨x,List.mem_of_mem_filter hx,same⟩)
  have here : db.books.cycles.get? g.cycleId = some c := cycleId ▸ here
  obtain ⟨after,done,_⟩ := CycleMetrics.served_new cfg h.sound.toOrdered here new
  have wholeG : Whole g := by
    unfold Whole
    rw [entry]
    exact whole
  have enters := enters_served h.sound here new wholeG done
  rw [entry,swapId,paid] at enters
  rw [step,done]
  exact (h.then_ enters).stored

theorem direct_again {posting : Posting} {source : Option String}
    (same : posting.toEffect = { effect with sourceMsgId := source })
    (found : (db.books.cycles.get? effect.cycleId).isSome)
    (known : (effect.operationType,effect.idpk) ∈ db.books.ledger.map keyOf) :
    (StoredLedger.step cfg db (.effect posting)).books = store db.books := by
  obtain ⟨c,here⟩ := Option.isSome_iff_exists.mp found
  cases old : existing? db.books posting.toEffect with
  | none =>
    rw [existing?_none,same] at old
    exact absurd known old
  | some entry =>
    have again : applyLedgerEffect cfg db.books posting.toEffect = .ok (db.books,entry,false) :=
      CycleMetrics.effect_again (by rw [same]; exact here) old
    simp only [StoredLedger.step,again]

theorem direct_new {posting : Posting} {source : Option String} (h : Tale base db.books told)
    (valid : (Event.direct effect).Valid)
    (same : posting.toEffect = { effect with sourceMsgId := source })
    (found : (db.books.cycles.get? effect.cycleId).isSome)
    (fresh : (effect.operationType,effect.idpk) ∉ db.books.ledger.map keyOf) :
    Tale base (StoredLedger.step cfg db (.effect posting)).books (told ++ [.direct effect]) := by
  obtain ⟨c,here⟩ := Option.isSome_iff_exists.mp found
  obtain ⟨kind,cents⟩ := valid
  have new : existing? db.books posting.toEffect = none := by
    rw [existing?_none,same]
    exact fresh
  obtain ⟨⟨after,rest⟩,done⟩ := LedgerConsistency.effect_taken cfg h.sound.toOrdered
    (show db.books.cycles.get? posting.toEffect.cycleId = some c by rw [same]; exact here)
  have enters := enters_effect h.sound new posting.external (by rw [same]; exact cents)
    (fun silent => by rw [same,kind] at silent; cases silent) done
  rw [same] at enters
  dsimp only at enters
  rw [if_pos kind] at enters
  simp only [StoredLedger.step,done]
  exact (h.then_ (e := .direct effect) enters).stored

/-- A delivery tells its event, or repeats it. -/
theorem Tale.deliver (unheard : Unheard base events) (valid : ∀ e ∈ events, e.Valid)
    (distinct : (events.map Event.key).Nodup) (h : Tale base db.books (firsts events log))
    (mem : e ∈ events) (tells : e.Tells cfg m) :
    Tale base (MarketExtinction.step cfg db m).books (firsts events (log ++ [e])) := by
  have own : ∀ x ∈ firsts events log, x ∈ events := fun x hx => (mem_firsts.mp hx).2
  have found : (db.books.cycles.get? e.cycleId).isSome := by
    rw [Enters.known h]
    exact unheard.known e mem
  rw [firsts_snoc]
  by_cases again : e ∈ log
  · have told : e ∈ firsts events log := mem_firsts.mpr ⟨again,mem⟩
    rw [if_neg fun new => new.2 again]
    cases e with
    | wallet fact =>
      rw [wallet_again h told found tells]
      exact h.stored
    | direct effect =>
      obtain ⟨posting,source,rfl,same⟩ := tells
      have known : (effect.operationType,effect.idpk) ∈ db.books.ledger.map keyOf := by
        rw [mem_keys (valid _ mem).1,h.noticed,List.map_append]
        exact List.mem_append_right _ (List.mem_map.mpr
          ⟨written effect,List.mem_filterMap.mpr ⟨_,told,rfl⟩,rfl⟩)
      rw [show MarketExtinction.step cfg db (.ledger (.effect posting)) =
        StoredLedger.step cfg db (.effect posting) from rfl,direct_again same found known]
      exact h.stored
  · have untold : e ∉ firsts events log := fun told => again (mem_firsts.mp told).1
    obtain ⟨fresh,unnamed,unpaid⟩ := h.new unheard valid distinct own mem untold
    rw [if_pos ⟨mem,again⟩]
    cases e with
    | wallet fact =>
      exact wallet_new h (fun x hx => (valid _ mem).whole hx) found fresh unnamed unpaid tells
    | direct effect =>
      obtain ⟨posting,source,rfl,same⟩ := tells
      exact direct_new h (valid _ mem) same found fresh

end Deliver

/-! ### Runs -/

inductive Turn where
  | deliver (event : Event) (message : MarketExtinction.Entry)
  /-- The sweep of the closed markets. -/
  | sweep (locked : List String) (now : Instant)

def turn (cfg : Config) (db : Db) : Turn → Db
  | .deliver _ message => MarketExtinction.step cfg db message
  | .sweep locked now => MarketExtinction.step cfg db (.sweep locked now)

/-- The events delivered, in order, repetitions included. -/
def delivered (turns : List Turn) : List Event :=
  turns.filterMap fun
    | .deliver event _ => some event
    | .sweep .. => none

section Runs
variable {base : Books} {events log : List Event} {db : Db}

theorem Tale.sweep {told : List Event} (h : Tale base db.books told) (locked : List String)
    (now : Instant) : Tale base (turn cfg db (.sweep locked now)).books told := by
  unfold turn MarketExtinction.step
  dsimp only
  cases swept : finalizeClosedMarkets cfg db.books locked now with
  | error _ => exact h
  | ok done =>
    obtain ⟨after,report⟩ := done
    have closed := Enters.trans h (enters_sweep h.sound swept)
    rw [List.append_nil,List.append_nil,List.append_nil] at closed
    exact Tale.stored closed

theorem Tale.run (unheard : Unheard base events) (valid : ∀ e ∈ events, e.Valid)
    (distinct : (events.map Event.key).Nodup) (turns : List Turn)
    (tells : ∀ e m, .deliver e m ∈ turns → e ∈ events ∧ e.Tells cfg m)
    (h : Tale base db.books (firsts events log)) :
    Tale base (Lib.run (turn cfg) db turns).books (firsts events (log ++ delivered turns)) := by
  induction turns generalizing db log with
  | nil => simpa [delivered] using h
  | cons t rest ih =>
    have later (e : Event) (m : MarketExtinction.Entry) (hm : .deliver e m ∈ rest) :=
      tells e m (List.mem_cons_of_mem _ hm)
    rw [run_cons]
    cases t with
    | deliver e m =>
      obtain ⟨mem,told⟩ := tells e m (List.mem_cons_self ..)
      have next := ih later (h.deliver unheard valid distinct mem told)
      rwa [List.append_assoc] at next
    | sweep locked now => exact ih later (h.sweep locked now)

end Runs

/-! ### The budgets -/

/-- What the cycle holds of its own once the events are told. -/
def gains (base : Books) (events : List Event) (k : String) : ℚ :=
  own base k + amount (events.filterMap Event.entry) k

/-- The budget of a cycle once the events are told and the money is carried: in an
opened cycle, with what all cycles opened before it hold. -/
def budget (base : Books) (events : List Event) (k : String) : ℚ :=
  gains base events k + if k ∈ openedIds base
    then (((openedIds base).takeWhile (· ≠ k)).map (gains base events)).sum
    else credited base k

theorem gains_perm {base : Books} {told events : List Event} (h : told.Perm events) :
    gains base told = gains base events :=
  funext fun k => congrArg _ (amount_perm (h.filterMap _) k)

theorem entry_once {told : List Event} {e : Event} (distinct : (told.map Event.key).Nodup)
    (mem : e ∈ told) : (told.filterMap Event.entry).filter (fun x => keyOf x = e.key) =
      e.entry.toList := by
  induction told with
  | nil => cases mem
  | cons g rest ih =>
    rw [List.map_cons,List.nodup_cons] at distinct
    have split : (g :: rest).filterMap Event.entry =
        g.entry.toList ++ rest.filterMap Event.entry := by
      cases hg : g.entry <;> simp [hg]
    rw [split,List.filter_append]
    rcases List.mem_cons.mp mem with rfl | later
    · have others : (rest.filterMap Event.entry).filter (fun x => keyOf x = e.key) = [] := by
        rw [List.filter_eq_nil_iff]
        intro x hx same
        obtain ⟨g,hg,entry⟩ := List.mem_filterMap.mp hx
        have key := (Event.key_of_entry entry).symm.trans (of_decide_eq_true same)
        exact distinct.1 (List.mem_map.mpr ⟨g,hg,key⟩)
      rw [others,List.append_nil,List.filter_eq_self.mpr]
      intro x hx
      exact decide_eq_true (Event.key_of_entry (Option.mem_toList.mp hx))
    · have other : g.entry.toList.filter (fun x => keyOf x = e.key) = [] := by
        rw [List.filter_eq_nil_iff]
        intro x hx same
        have key := (Event.key_of_entry (Option.mem_toList.mp hx)).symm.trans
          (of_decide_eq_true same)
        exact distinct.1 (List.mem_map.mpr ⟨e,later,key.symm⟩)
      rw [other,List.nil_append]
      exact ih distinct.2 later

theorem budgets_synchronized {base : Books} {told : List Event} (h : Tale base books told)
    (carried : synchronizeBudgetCarryover cfg books = .ok after) {c : Cycle}
    (hc : (store after).cycles.get? k = some c) : c.budgetBalance = budget base told k := by
  have exact_ := exact_synchronized h.sound.numbered h.sound.exact_ carried
  obtain ⟨shift,_,others⟩ := synchronize_shift h.sound.numbered carried
  rw [get?_store,Option.map_eq_some_iff] at hc
  obtain ⟨old,hold,rfl⟩ := hc
  have same : own books = gains base told := funext h.own
  have total : old.budgetBalance = own after k + credited after k :=
    (held_some hold).symm.trans (held_own hold)
  rw [(exact_.storedCycle (Table.mem_of_get? hold)).1,total,own_shift shift h.sound.exact_.whole exact_.whole,same,budget]
  congr 1
  by_cases opened : k ∈ openedIds base
  · rw [if_pos opened,credited_synchronized h.sound.numbered h.sound.exact_.whole carried k (h.opened ▸ opened),
      h.opened,same]
  · rw [if_neg opened,others k (h.opened ▸ opened),h.aside k opened]

/-- In whatever order the facts of all cycles arrive, however often they are repeated
and whenever the closed markets are swept, each fact is in the ledger once, and a
synchronisation leaves the budgets that the facts alone determine. -/
theorem facts_in_any_order (cfg : Config) (db : Db) (events : List Event) (turns : List Turn)
    (sound : Sound db.books) (unheard : Unheard db.books events)
    (valid : ∀ e ∈ events, e.Valid) (distinct : (events.map Event.key).Nodup)
    (tells : ∀ e m, .deliver e m ∈ turns → e ∈ events ∧ e.Tells cfg m)
    (all : ∀ e ∈ events, ∃ m, .deliver e m ∈ turns) :
    let final := Lib.run (turn cfg) db turns
    (∀ e ∈ events, (noticed final.books.ledger).filter (fun x => keyOf x = e.key) =
      e.entry.toList) ∧
    ∃ after, synchronizeBudgetCarryover cfg final.books = .ok after ∧
      ∀ k c, (store after).cycles.get? k = some c → c.budgetBalance = budget db.books events k := by
  intro final
  have start : Tale db.books db.books (firsts events []) := Enters.refl sound
  have tale : Tale db.books final.books (firsts events (delivered turns)) :=
    start.run unheard valid distinct turns tells
  have arrived : (firsts events (delivered turns)).Perm events := by
    rw [List.perm_ext_iff_of_nodup nodup_firsts (List.Nodup.of_map _ distinct)]
    intro e
    rw [mem_firsts]
    refine ⟨fun both => both.2,fun mem => ⟨?_,mem⟩⟩
    obtain ⟨m,hm⟩ := all e mem
    exact List.mem_filterMap.mpr ⟨_,hm,rfl⟩
  refine ⟨?_,?_⟩
  · intro e mem
    have old : (noticed db.books.ledger).filter (fun x => keyOf x = e.key) = [] := by
      rw [List.filter_eq_nil_iff]
      intro x hx same
      have there := (mem_keys (valid e mem).economic).mpr (List.mem_map.mpr
        ⟨x,hx,of_decide_eq_true same⟩)
      exact unheard.unused e mem there
    rw [tale.noticed,List.filter_append,old,List.nil_append]
    exact entry_once ((arrived.map _).nodup_iff.mpr distinct) (arrived.mem_iff.mpr mem)
  · obtain ⟨after,carried,_⟩ :=
      synchronize_spec cfg tale.sound.numbered tale.sound.chronological
    refine ⟨after,carried,fun k c hc => ?_⟩
    rw [budgets_synchronized tale carried hc]
    unfold budget
    rw [gains_perm arrived]

/-! ### Two cycles -/

open CycleMetrics (announced announcedDb purchase carriage debt shortfall halfPast)

/-- A second cycle is opened after C1. -/
def opened : Db :=
  MarketExtinction.step FactRedelivery.trading announcedDb
    (.ledger (opening "C2" "o2" "2026-01-02T00:00:00Z"))

/-- A transfer of 100 credits to C1. -/
def grant : Effect where
  cycleId := "C1"
  idpk := "g1"
  sourceMsgId := none
  operationType := .transferIn
  budgetDelta := 100
  energyDelta := 0

def granted : MarketExtinction.Entry :=
  .ledger (.effect { grant with sourceMsgId := some "g2", external := transferIn_external })

def happened : List Event :=
  [.wallet (.settled purchase),.wallet (.trade carriage),.wallet (.settlement debt),.direct grant]

/-- The debt comes first and twice, the purchase after the sweep. -/
def heard : List Turn :=
  [.deliver (.wallet (.settlement debt)) (.fact shortfall),
    .deliver (.wallet (.trade carriage)) (.fact (FactRedelivery.paid 5)),
    .sweep [] halfPast,
    .deliver (.direct grant) granted,
    .deliver (.wallet (.settlement debt)) (.fact shortfall),
    .deliver (.wallet (.settled purchase)) (.settled purchase),
    .deliver (.direct grant) granted]

theorem two_cycles_paid : budget opened.books happened "C2" = 69 ∧
    ∃ after, synchronizeBudgetCarryover FactRedelivery.trading
        (Lib.run (turn FactRedelivery.trading) opened heard).books = .ok after ∧
      ∀ k c, (store after).cycles.get? k = some c →
        c.budgetBalance = budget opened.books happened k := by
  have carried : FactRedelivery.factOf FactRedelivery.trading (FactRedelivery.paid 5) =
      some (.trade carriage) := by decide +kernel
  have owed : FactRedelivery.factOf FactRedelivery.trading shortfall = some (.settlement debt) := by
    decide +kernel
  have ledger : opened.books.ledger = [] := by decide +kernel
  have trades : opened.books.trades.rows = [] := by decide +kernel
  have settlements : opened.books.settlements.rows = [] := by decide +kernel
  refine ⟨by decide +kernel,?_⟩
  refine (facts_in_any_order FactRedelivery.trading opened happened heard
    (MarketExtinction.sound_entry _ announcedDb _
      (MarketExtinction.sound_entry _ {} announced sound_empty))
    { known := by decide +kernel
      unused := by simp [ledger]
      untold := by simp [swapIds,trades]
      unsettled := by simp [paidIn,settlements] } ?_ (by decide) ?_ ?_).2
  · simp only [happened,List.forall_mem_cons,List.not_mem_nil,false_implies,implies_true,and_true]
    exact ⟨⟨rfl,⟨by decide,by decide +kernel⟩,10,by decide,by rfl⟩,⟨rfl,by decide +kernel⟩,
      ⟨rfl,by decide +kernel⟩,rfl,by decide +kernel,by decide +kernel⟩
  · simp only [heard,List.mem_cons,List.not_mem_nil,or_false]
    rintro e m (h | h | h | h | h | h | h) <;> cases h
    · exact ⟨by simp [happened],debt,owed,rfl⟩
    · exact ⟨by simp [happened],carriage,carried,rfl⟩
    · exact ⟨by simp [happened],_,some "g2",rfl,rfl⟩
    · exact ⟨by simp [happened],debt,owed,rfl⟩
    · exact ⟨by simp [happened],rfl⟩
    · exact ⟨by simp [happened],_,some "g2",rfl,rfl⟩
  · simp only [happened,List.forall_mem_cons,List.not_mem_nil,false_implies,implies_true,and_true]
    exact ⟨⟨.settled purchase,by simp [heard]⟩,⟨.fact (FactRedelivery.paid 5),by simp [heard]⟩,
      ⟨.fact shortfall,by simp [heard]⟩,⟨granted,by simp [heard]⟩⟩

end EconomicFacts

end EnergyNode
