import EnergyNode.Carryover
import EnergyNode.LedgerRules
import EnergyNode.Lib.Rounding
import EnergyNode.Lib.Run

/-! The ledger as its columns keep it. A transaction computes with the amounts
it was given; every `Numeric(20,2)` column rounds half away from zero when it is
written. A history is any sequence of committed transactions on the books. -/
namespace EnergyNode
open Lib

namespace StoredLedger
open Ledger

def storedCycle (c : Cycle) : Cycle :=
  { c with
    generationCapacity := c.generationCapacity.map centsHalfUp
    consumption := c.consumption.map centsHalfUp
    generationCost := c.generationCost.map centsHalfUp
    openingBudgetBalance := centsHalfUp c.openingBudgetBalance
    openingEnergyBalance := centsHalfUp c.openingEnergyBalance
    budgetBalance := centsHalfUp c.budgetBalance
    energyBalance := centsHalfUp c.energyBalance }

def storedEntry (e : LedgerEntry) : LedgerEntry :=
  { e with
    budgetDelta := centsHalfUp e.budgetDelta
    energyDelta := centsHalfUp e.energyDelta
    budgetAfter := centsHalfUp e.budgetAfter
    energyAfter := centsHalfUp e.energyAfter }

/-- The columns of a price keep four decimals. -/
def storedPrice (q : ℚ) : ℚ := halfUp (q * 10000) / 10000

def storedTrade (t : TradeRecord) : TradeRecord :=
  { t with
    pricePerEnergy := storedPrice t.pricePerEnergy
    energyTotal := centsHalfUp t.energyTotal
    transportPerEnergy := storedPrice t.transportPerEnergy
    transportTotal := centsHalfUp t.transportTotal }

def storedSettlement (s : ImbalanceSettlement) : ImbalanceSettlement :=
  { s with
    pricePerEnergy := storedPrice s.pricePerEnergy
    total := centsHalfUp s.total
    balanceAfter := centsHalfUp s.balanceAfter }

/-- What the database holds once the transaction commits. -/
def store (books : Books) : Books where
  cycles := books.cycles.mapRows storedCycle fun _ => rfl
  ledger := books.ledger.map storedEntry
  trades := books.trades.mapRows storedTrade fun _ => rfl
  settlements := books.settlements.mapRows storedSettlement fun _ => rfl

/-- An effect of a service: only the carryover itself posts carryover entries. -/
structure Posting extends Effect where
  external : operationType ≠ .budgetCarryover

theorem transferIn_external : OperationType.transferIn ≠ .budgetCarryover := by decide

inductive Op where
  /-- `apply_ledger_effect`, committed. -/
  | effect (posting : Posting)
  /-- A status-statement: opens a cycle, or opens it again on another baseline. -/
  | statement (payload : Payload) (now : Instant)
  /-- A message of a cycle not opened yet leaves a placeholder. -/
  | placeholder (cycleId : String)

def step (cfg : Config) (db : Db) : Op → Db
  | .effect posting =>
      match applyLedgerEffect cfg db.books posting.toEffect with
      | .ok (books, _, _) => { db with books := store books }
      | .error _ => db
  | .statement payload now =>
      match Opening.applyStatement cfg db payload now with
      | .ok (some opened) => { opened with books := store opened.books }
      | _ => db
  | .placeholder cycleId => { db with books := Opening.getOrCreateCycle db.books cycleId }

/-- The statement that opens a cycle with two to sell. -/
def opening (cycleId idpk validUntil : String) (named : idpk ≠ "" := by decide) : Op :=
  .statement { idpk := idpk, msgId := idpk, type := .statusStatement, timestamp := 0
               cycleId := some cycleId, named := named
               data := [("energy",.obj [("generationCapacity",.int 5),("consumption",.int 3),
                 ("generationCost",.int 1)]),("validUntil",.str validUntil)] } 0

/-- Every amount the balances are made of is stored exactly. -/
structure Exact (books : Books) : Prop where
  cycle : ∀ c ∈ books.cycles, Cents c.openingBudgetBalance ∧ Cents c.openingEnergyBalance ∧
    Cents c.budgetBalance ∧ Cents c.energyBalance
  entry : ∀ e ∈ books.ledger, Cents e.budgetDelta ∧ Cents e.energyDelta

/-- What holds of the books throughout a transaction. -/
structure Ordered (books : Books) : Prop where
  numbered : Numbered books
  chronological : Chronological books

/-- What holds of the books between transactions. -/
structure Sound (books : Books) : Prop extends Ordered books where
  exact_ : Exact books

section Store
variable {books : Books}

theorem get?_store (k : String) :
    (store books).cycles.get? k = (books.cycles.get? k).map storedCycle :=
  Table.get?_mapRows _ storedCycle (fun _ => rfl) k

theorem numbered_store (h : Numbered books) : Numbered (store books) := by
  intro e he
  obtain ⟨old,hold,rfl⟩ := List.mem_map.mp he
  obtain ⟨c,hc,le⟩ := h old hold
  refine ⟨storedCycle c,?_,le⟩
  rw [get?_store]
  exact congrArg _ hc

theorem places_store : (store books).cycles.rows.map place = books.cycles.rows.map place := by
  unfold store Table.mapRows
  dsimp only
  rw [List.map_map]
  rfl

theorem chronological_congr {a b : Books}
    (same : b.cycles.rows.map place = a.cycles.rows.map place) (h : Chronological a) :
    Chronological b := by
  unfold Chronological
  rw [(openedCycles_congr same).2]
  exact h

theorem exact_store : Exact (store books) := by
  constructor
  · intro c hc
    obtain ⟨old,_,rfl⟩ := List.mem_map.mp hc
    exact ⟨cents_centsHalfUp _,cents_centsHalfUp _,cents_centsHalfUp _,cents_centsHalfUp _⟩
  · intro e he
    obtain ⟨old,_,rfl⟩ := List.mem_map.mp he
    exact ⟨cents_centsHalfUp _,cents_centsHalfUp _⟩

theorem budgetTotal_store (k : String) :
    budgetTotal id (store books) k = budgetTotal centsHalfUp books k := by
  unfold budgetTotal entriesOf store
  dsimp only
  rw [List.filter_map,List.map_map]
  rfl

theorem energyTotal_store (k : String) :
    energyTotal id (store books) k = energyTotal centsHalfUp books k := by
  unfold energyTotal entriesOf store
  dsimp only
  rw [List.filter_map,List.map_map]
  rfl

theorem Exact.storedCycle (h : Exact books) {c : Cycle} (hc : c ∈ books.cycles) :
    (StoredLedger.storedCycle c).budgetBalance = c.budgetBalance ∧
      (StoredLedger.storedCycle c).energyBalance = c.energyBalance := by
  obtain ⟨_,_,budget,energy⟩ := h.cycle c hc
  exact ⟨centsHalfUp_of_cents budget,centsHalfUp_of_cents energy⟩

theorem Exact.budgetTotal (h : Exact books) (k : String) :
    Ledger.budgetTotal centsHalfUp books k = Ledger.budgetTotal id books k := by
  unfold Ledger.budgetTotal
  congr 1
  apply List.map_congr_left
  intro e he
  exact centsHalfUp_of_cents (h.entry e (List.mem_of_mem_filter he)).1

theorem Exact.energyTotal (h : Exact books) (k : String) :
    Ledger.energyTotal centsHalfUp books k = Ledger.energyTotal id books k := by
  unfold Ledger.energyTotal
  congr 1
  apply List.map_congr_left
  intro e he
  exact centsHalfUp_of_cents (h.entry e (List.mem_of_mem_filter he)).2

theorem Exact.whole (h : Exact books) : Whole books :=
  ⟨fun c hc => (h.cycle c hc).2.2.1,fun e he => (h.entry e he).1⟩

end Store

/-! ### The books stay sound -/

section Steps
variable {cfg : Config} {books books' : Books}

theorem Ordered.stored (h : Ordered books) : Sound (store books) where
  numbered := numbered_store h.numbered
  chronological := chronological_congr places_store h.chronological
  exact_ := exact_store

theorem Ordered.ofShift (h : Shift books books') (ordered : Ordered books) : Ordered books' where
  numbered := h.numbered ordered.numbered
  chronological := chronological_congr h.places ordered.chronological

theorem ordered_posted {effect : Effect} {cycle : Cycle} (ordered : Ordered books)
    (found : books.cycles.get? effect.cycleId = some cycle) :
    Ordered (posted books cycle effect) where
  numbered := numbered_posted found ordered.numbered
  chronological := chronological_congr (places_posted found) ordered.chronological

/-- An applied effect is its entry and a shift. -/
theorem effect_shift {effect : Effect} {cycle : Cycle} (ordered : Ordered books)
    (found : books.cycles.get? effect.cycleId = some cycle)
    (h : effect.budgetDelta = 0 ∧ books' = posted books cycle effect ∨ effect.budgetDelta ≠ 0 ∧
      synchronizeBudgetCarryover cfg (posted books cycle effect) = .ok books') :
    Shift (posted books cycle effect) books' := by
  rcases h with ⟨_,rfl⟩ | ⟨_,h⟩
  · exact .refl _
  · exact (synchronize_shift (ordered_posted ordered found).numbered h).1

def blank (k : String) : Cycle := { cycleId := k }

theorem getOrCreateCycle_cases (books : Books) (k : String) :
    Opening.getOrCreateCycle books k = books ∧ (books.cycles.get? k).isSome ∨
      ∃ free : books.cycles.get? (blank k).cycleId = none,
        Opening.getOrCreateCycle books k =
          { books with cycles := books.cycles.insert (blank k) free } := by
  unfold Opening.getOrCreateCycle
  split
  · rename_i cycles hins
    obtain ⟨free,rfl⟩ := Table.insert?_eq_some.mp hins
    exact .inr ⟨free,rfl⟩
  · rename_i taken
    unfold Table.insert? at taken
    split at taken
    · cases taken
    · rename_i present
      exact .inl ⟨rfl,Option.isSome_iff_ne_none.mpr present⟩

theorem get?_blank {k x : String} {c : Cycle} (free : books.cycles.get? (blank k).cycleId = none)
    (hc : books.cycles.get? x = some c) :
    (books.cycles.insert (blank k) free).get? x = some c := by
  rw [Table.get?_insert]
  split
  · rename_i same
    rw [same,hc] at free
    cases free
  · exact hc

theorem ordered_placeholder (ordered : Ordered books) (k : String) :
    Ordered (Opening.getOrCreateCycle books k) := by
  rcases getOrCreateCycle_cases books k with ⟨same,_⟩ | ⟨free,created⟩
  · rw [same]
    exact ordered
  · rw [created]
    constructor
    · intro e he
      obtain ⟨c,hc,le⟩ := ordered.numbered e he
      exact ⟨c,get?_blank free hc,le⟩
    · have hidden : ([blank k].filter fun c => c.statusIdpk.isSome && c.validUntil.isSome) = [] :=
        rfl
      unfold Chronological openedCycles
      rw [Table.rows_insert,List.filter_append,hidden,List.append_nil]
      exact ordered.chronological

/-- The row of a cycle is written again, at its place and with its count. -/
theorem Ordered.rewrite {c c' : Cycle} (ordered : Ordered books)
    (found : books.cycles.get? c'.cycleId = some c) (same : place c' = place c)
    (count : c'.lastSequence = c.lastSequence) :
    Ordered { books with cycles := books.cycles.set c' } where
  numbered := by
    intro e he
    obtain ⟨x,hx,le⟩ := ordered.numbered e he
    dsimp only
    rw [Table.get?_set]
    by_cases own : c'.cycleId = e.cycleId
    · rw [← own] at hx ⊢
      cases found.symm.trans hx
      rw [if_pos rfl,found]
      exact ⟨c',rfl,count ▸ le⟩
    · rw [if_neg own]
      exact ⟨x,hx,le⟩
  chronological := by
    refine chronological_congr ?_ ordered.chronological
    unfold Table.set
    dsimp only
    rw [List.map_map]
    refine List.map_congr_left fun x hx => ?_
    rw [Function.comp_apply]
    split
    · rename_i own
      rw [same,Table.eq_of_key hx (Table.mem_of_get? found) (own.trans (Table.key_of_get? found).symm)]
    · rfl

theorem sound_placeholder (sound : Sound books) (k : String) :
    Sound (Opening.getOrCreateCycle books k) where
  toOrdered := ordered_placeholder sound.toOrdered k
  exact_ := by
    rcases getOrCreateCycle_cases books k with ⟨same,_⟩ | ⟨free,created⟩
    · rw [same]
      exact sound.exact_
    · rw [created]
      refine ⟨?_,sound.exact_.entry⟩
      intro c hc
      have stored : c ∈ books.cycles.insert (blank k) free := hc
      rcases Table.mem_insert.mp stored with old | rfl
      · exact sound.exact_.cycle c old
      · exact ⟨Cents.zero,Cents.zero,Cents.zero,Cents.zero⟩

/-- Entries, placeholders and new facts keep the books in order. -/
theorem received_ordered : Received fun a b => Ordered a → Ordered b where
  refl _ := id
  trans h g ordered := g (h ordered)
  post := by
    intro books books' effect rest h ordered
    rcases post_cases h with ⟨_,rfl,_⟩ | ⟨_,_,cycle,found,rfl⟩
    · exact ordered
    · exact ordered_posted ordered found
  placeholder _ k ordered := ordered_placeholder ordered k
  trade _ ordered := ⟨ordered.numbered,ordered.chronological⟩
  paid _ ordered := ⟨ordered.numbered,ordered.chronological⟩

/-- The cycle `c` opened again as `c'`, on another energy baseline. -/
structure Reopened (c c' : Cycle) (opening : ℚ) : Prop where
  cycleId : c'.cycleId = c.cycleId
  openingBudget : c'.openingBudgetBalance = c.openingBudgetBalance
  budget : c'.budgetBalance = c.budgetBalance
  openingEnergy : c'.openingEnergyBalance = opening
  energy : c'.energyBalance = plus c.energyBalance (plus opening (-c.openingEnergyBalance))
  lastSequence : c'.lastSequence = c.lastSequence

theorem bind_cycle {strategies strategies' : Strategies.Table} {c c' : Cycle} {now : Instant}
    (h : Strategies.bind strategies c now = .ok (strategies',c')) :
    ∃ version, c' = { c with strategyVersion := version } := by
  unfold Strategies.bind at h
  split at h
  · split at h <;> cases h
    exact ⟨c.strategyVersion,rfl⟩
  · dsimp only at h
    split at h <;> cases h
    exact ⟨_,rfl⟩

/-- An applied statement reopens its cycle and carries the money again. -/
theorem applyStatement_cases {db db' : Db} {payload : Payload} {now : Instant}
    (h : Opening.applyStatement cfg db payload now = .ok (some db')) :
    ∃ k s c c', payload.cycleId = some k ∧ Opening.statement payload.data = .ok s ∧
      (Opening.getOrCreateCycle db.books k).cycles.get? k = some c ∧
      Reopened c c' (plus s.generation (-s.consumption)) ∧
      synchronizeBudgetCarryover cfg { Opening.getOrCreateCycle db.books k with
        cycles := (Opening.getOrCreateCycle db.books k).cycles.set c' } = .ok db'.books := by
  obtain ⟨k,s,c,c',hk,hs,hc,hb,hsync⟩ := applyStatement_bind h
  obtain ⟨version,same⟩ := bind_cycle hb
  refine ⟨k,s,c,c',hk,hs,hc,?_,hsync⟩
  rw [same]
  exact ⟨rfl,rfl,rfl,rfl,rfl,rfl⟩

section Reopening
variable {k : String} {c c' : Cycle} {opening : ℚ}
  (found : books.cycles.get? k = some c) (reopened : Reopened c c' opening)
include found reopened

theorem get?_reopened (x : String) : (books.cycles.set c').get? x =
    if x = k then some c' else books.cycles.get? x := by
  have key : c'.cycleId = k := reopened.cycleId.trans (Table.key_of_get? found)
  rw [Table.get?_set,key]
  by_cases h : k = x
  · rw [if_pos h,if_pos h.symm,← h,found]
    rfl
  · rw [if_neg h,if_neg (Ne.symm h)]

theorem numbered_reopened (numbered : Numbered books) :
    Numbered { books with cycles := books.cycles.set c' } := by
  intro e he
  obtain ⟨x,hx,le⟩ := numbered e he
  dsimp only
  rw [get?_reopened found reopened]
  by_cases h : e.cycleId = k
  · rw [h,found] at hx
    cases hx
    exact ⟨c',if_pos h,reopened.lastSequence ▸ le⟩
  · exact ⟨x,(if_neg h).trans hx,le⟩

theorem balanced_reopened (balanced : Balanced books) :
    Balanced { books with cycles := books.cycles.set c' } := by
  intro x y hy
  dsimp only at hy
  rw [get?_reopened found reopened] at hy
  split at hy
  · rename_i same
    cases hy
    rw [reopened.budget,reopened.openingBudget,same]
    exact balanced k c found
  · exact balanced x y hy

end Reopening

/-- A statement that is applied leaves the books in order. -/
theorem ordered_statement {db opened : Db} {payload : Payload} {now : Instant}
    (h : Opening.applyStatement cfg db payload now = .ok (some opened)) (ordered : Ordered db.books) :
    Ordered opened.books := by
  obtain ⟨k,s,c,c',_,_,found,reopened,hsync⟩ := applyStatement_cases h
  have numbered := numbered_reopened found reopened (ordered_placeholder ordered k).numbered
  have mid : Ordered { Opening.getOrCreateCycle db.books k with
      cycles := (Opening.getOrCreateCycle db.books k).cycles.set c' } :=
    ⟨numbered,synchronize_chronological hsync⟩
  exact mid.ofShift (synchronize_shift numbered hsync).1

theorem sound_step (db : Db) (op : Op) (sound : Sound db.books) : Sound (step cfg db op).books := by
  cases op with
  | effect posting =>
    cases h : applyLedgerEffect cfg db.books posting.toEffect with
    | error _ =>
      simp only [step,h]
      exact sound
    | ok done =>
      obtain ⟨books,entry,applied⟩ := done
      simp only [step,h]
      exact (received_ordered.effect h sound.toOrdered).stored
  | statement payload now =>
    simp only [step]
    split
    · rename_i opened h
      exact (ordered_statement h sound.toOrdered).stored
    · exact sound
  | placeholder k => exact sound_placeholder sound k

theorem sound_empty : Sound {} where
  numbered _ he := nomatch he
  exact_ := ⟨fun _ hc => (nomatch hc),fun _ he => (nomatch he)⟩
  chronological := List.nodup_nil

end Steps

end StoredLedger

end EnergyNode
