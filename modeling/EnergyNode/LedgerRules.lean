import EnergyNode.Lib.Fallible
import EnergyNode.Opening
import EnergyNode.TradeEvents

/-! What every entry of the ledger respects, every operation of the books that
only posts entries respects too. -/
namespace EnergyNode
open Lib Ledger

/-- A reflexive and transitive relation that one entry never breaks. -/
structure Respected (R : Books → Books → Prop) : Prop where
  refl : ∀ books, R books books
  trans : ∀ {a b c}, R a b → R b c → R a c
  post : ∀ {books books' effect} {rest : LedgerEntry × Bool},
    Ledger.post books effect = .ok (books',rest) → R books books'

/-- An entry touches no other column of a cycle. -/
theorem respected_column {γ : Type} (f : Cycle → γ)
    (hf : ∀ c effect, f (Ledger.advance c effect) = f c) :
    Respected fun a b => ∀ k, (b.cycles.get? k).map f = (a.cycles.get? k).map f where
  refl _ _ := rfl
  trans h g k := (g k).trans (h k)
  post := by
    intro books books' effect rest h k
    unfold Ledger.post at h
    split at h
    · cases h
    rename_i cycle found
    split at h
    · cases h
      rfl
    dsimp only at h
    split at h <;> cases h
    show ((books.cycles.set (Ledger.advance cycle effect)).get? k).map f = _
    rw [Table.get?_set]
    split
    · rename_i key
      have stored : books.cycles.get? k = some cycle := by
        rw [← key,show (Ledger.advance cycle effect).cycleId = cycle.cycleId from rfl,
          Table.key_of_get? found,found]
      rw [stored]
      exact congrArg some (hf cycle effect)
    · rfl

namespace Respected
variable {R : Books → Books → Prop} {cfg : Config} {books books' : Books}

theorem carryAll (r : Respected R) (ids : List String) :
    ∀ {books : Books} {previous : Option String},
      Ledger.carryAll cfg books previous ids = .ok books' → R books books' := by
  induction ids with
  | nil =>
    intro books previous h
    cases h
    exact r.refl _
  | cons k ids ih =>
    intro books previous h
    obtain ⟨done,turn,rest⟩ := Fallible.bind_ok.mp h
    refine r.trans ?_ (ih rest)
    unfold Ledger.carryInto at turn
    dsimp only at turn
    split at turn
    all_goals
      split at turn
      · cases turn
        exact r.refl _
      · obtain ⟨⟨after,entry⟩,posted,rfl⟩ := Fallible.map_ok.mp turn
        exact r.post posted

theorem synchronize (r : Respected R)
    (h : synchronizeBudgetCarryover cfg books = .ok books') : R books books' := by
  unfold synchronizeBudgetCarryover at h
  dsimp only at h
  split at h
  · exact r.carryAll _ h
  · cases h

theorem effect (r : Respected R) {effect : Ledger.Effect} {rest : LedgerEntry × Bool}
    (h : applyLedgerEffect cfg books effect = .ok (books',rest)) : R books books' := by
  obtain ⟨⟨after,entry,applied⟩,posted,h⟩ := Fallible.bind_ok.mp h
  dsimp only at h
  split at h
  · obtain ⟨done,synced,h⟩ := Fallible.bind_ok.mp h
    cases h
    exact r.trans (r.post posted) (r.synchronize synced)
  · cases h
    exact r.post posted

theorem mapped (r : Respected R) {effect : Ledger.Effect}
    (h : (applyLedgerEffect cfg books effect).map Prod.fst = .ok books') : R books books' := by
  obtain ⟨⟨after,rest⟩,applied,rfl⟩ := Fallible.map_ok.mp h
  exact r.effect applied

theorem settled (r : Respected R) {record : SwapRecord}
    (h : CycleAccounting.applySwapSettled cfg books record = .ok books') : R books books' := by
  unfold CycleAccounting.applySwapSettled at h
  split at h
  · exact r.mapped h
  · cases h
    exact r.refl _

theorem transport (r : Respected R) {trade : TradeRecord}
    (h : CycleAccounting.applyTradeTransport cfg books trade = .ok books') : R books books' := by
  unfold CycleAccounting.applyTradeTransport at h
  split at h
  · exact r.mapped h
  · cases h
    exact r.refl _

theorem settlement (r : Respected R) {s : ImbalanceSettlement}
    (h : CycleAccounting.applyImbalanceSettlement cfg books s = .ok books') : R books books' := by
  unfold CycleAccounting.applyImbalanceSettlement at h
  split at h
  · cases h
    exact r.refl _
  obtain ⟨⟨paid,rest⟩,hpaid,h⟩ := Fallible.bind_ok.mp h
  have first := r.effect hpaid
  dsimp only at h
  split at h
  · split at h
    · cases h
      exact first
    · obtain ⟨⟨burnt,rest'⟩,hburnt,h⟩ := Fallible.bind_ok.mp h
      cases h
      exact r.trans first (r.effect hburnt)
  · cases h
    exact first

theorem sweep (r : Respected R) {locked : List String} {now : Instant}
    {report : CycleAccounting.Finalization}
    (h : CycleAccounting.finalizeClosedMarkets cfg books locked now = .ok (books',report)) :
    R books books' := by
  refine Fallible.foldlM_rel (fun a b : Books × CycleAccounting.Finalization => R a.1 b.1)
    (fun _ => r.refl _) r.trans (CycleAccounting.closeCycle cfg) ?_ _ h
  rintro ⟨a,before⟩ k ⟨b,after⟩ turn
  unfold CycleAccounting.closeCycle at turn
  dsimp only at turn
  split at turn
  · cases turn
    exact r.refl _
  split at turn
  · cases turn
    exact r.refl _
  · obtain ⟨⟨done,rest⟩,applied,e⟩ := Fallible.map_ok.mp turn
    cases e
    exact r.effect applied

end Respected

/-- An applied statement: its cycle is placed, scheduled and bound, then the money
is carried again. -/
theorem applyStatement_bind {cfg : Config} {db opened : Db} {payload : Payload} {now : Instant}
    (h : Opening.applyStatement cfg db payload now = .ok (some opened)) :
    ∃ k s c c', payload.cycleId = some k ∧ Opening.statement payload.data = .ok s ∧
      (Opening.getOrCreateCycle db.books k).cycles.get? k = some c ∧
      Strategies.bind db.strategies (Opening.configureSchedule cfg (Opening.rebaseline c payload s)
        s.validUntil (payload.data.get "market")) now = .ok (opened.strategies,c') ∧
      synchronizeBudgetCarryover cfg { Opening.getOrCreateCycle db.books k with
        cycles := (Opening.getOrCreateCycle db.books k).cycles.set c' } = .ok opened.books := by
  unfold Opening.applyStatement at h
  dsimp only at h
  split at h
  · rename_i k hk
    split at h
    · rename_i c hc
      split at h
      · cases h
      · obtain ⟨s,hs,h⟩ := Fallible.bind_ok.mp h
        obtain ⟨⟨strategies,c'⟩,hb,h⟩ := Fallible.bind_ok.mp h
        obtain ⟨books,hsync,h⟩ := Fallible.bind_ok.mp h
        cases h
        exact ⟨k,s,c,c',hk,hs,hc,hb,hsync⟩
    · cases h
  · cases h

/-- The other ways in which a message changes the books: a placeholder, and the
row of a fact. -/
structure Received (R : Books → Books → Prop) : Prop extends Respected R where
  placeholder : ∀ books cycleId, R books (Opening.getOrCreateCycle books cycleId)
  trade : ∀ {books t trades}, books.trades.insert? t = some trades →
    R books { books with trades := trades }
  paid : ∀ {books s settlements}, books.settlements.insert? s = some settlements →
    R books { books with settlements := settlements }

namespace Received
variable {R : Books → Books → Prop} {cfg : Config} {books books' : Books} {payload : Payload}
  {audit : TradeEvents.Audit}

theorem recorded (r : Received R)
    (h : TradeEvents.processTradeRecorded cfg books payload = .ok (books',audit)) :
    R books books' := by
  unfold TradeEvents.processTradeRecorded at h
  split at h
  · cases h
    exact r.refl _
  split at h
  · cases h
    exact r.refl _
  · cases h
    exact r.refl _
  split at h
  · rename_i trades inserted
    obtain ⟨done,posted,h⟩ := Fallible.bind_ok.mp h
    cases h
    exact r.trans (r.trade inserted) (r.transport posted)
  · split at h <;> cases h <;> exact r.refl _
  · cases h

theorem settledImbalance (r : Received R)
    (h : TradeEvents.processImbalanceSettlement cfg books payload = .ok (books',audit)) :
    R books books' := by
  unfold TradeEvents.processImbalanceSettlement at h
  split at h
  · cases h
    exact r.refl _
  split at h
  · cases h
    exact r.refl _
  split at h
  · cases h
  · cases h
    exact r.refl _
  split at h
  · rename_i settlements inserted
    obtain ⟨done,posted,h⟩ := Fallible.bind_ok.mp h
    cases h
    exact r.trans (r.paid inserted) (r.settlement posted)
  · split at h <;> cases h <;> exact r.refl _
  · cases h

theorem fact (r : Received R)
    (h : TradeEvents.processWalletFact cfg books payload = .ok (books',audit)) : R books books' := by
  unfold TradeEvents.processWalletFact at h
  split at h
  · exact r.recorded h
  · exact r.settledImbalance h
  · cases h

end Received
end EnergyNode
