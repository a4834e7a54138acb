import EnergyNode.LedgerConsistency

/-! The money carried along the opened cycles. Whatever was posted and in
whatever order the cycles were opened or dated again, one synchronisation gives
every cycle what the one before it holds, and a second one changes nothing. -/
namespace EnergyNode
open Lib

namespace BudgetChain
open Ledger StoredLedger LedgerConsistency

/-- The amounts of an operation are multiples of 0.01. -/
def WholeCents : Op → Prop
  | .effect posting => Cents posting.budgetDelta ∧ Cents posting.energyDelta
  | .statement payload _ =>
      ∀ s, Opening.statement payload.data = .ok s → Cents s.generation ∧ Cents s.consumption
  | .placeholder _ => True

theorem lands_of_cents {produced : ℚ} (h : Cents produced) (total amount : ℚ) :
    Lands produced total amount := by
  intro half
  unfold Cents at h
  unfold HalfCent Tie at half
  rw [h] at half
  norm_num at half

theorem stepLands_of_wholeCents (cfg : Config) {db : Db} {op : Op} (sound : Sound db.books)
    (whole : WholeCents op) : StepLands cfg db op := by
  cases op with
  | effect posting =>
    obtain ⟨budget,energy⟩ := whole
    have cents := sound.exact_.whole
    have came (k : String) : Cents (inflow db.books posting.toEffect k) :=
      cents_inflow cents fun x _ => cents_standing cents fun _ => budget
    intro _ _
    refine ⟨fun c hc => ?_,fun c hc => ?_,fun k c _ hc => ?_⟩
    · obtain ⟨_,_,_,own⟩ := sound.exact_.cycle c (Table.mem_of_get? hc)
      refine lands_of_cents ?_ _ _
      rw [plus_cents own energy]
      exact own.add energy
    · have own := cents.cycle c (Table.mem_of_get? hc)
      refine lands_of_cents ?_ _ _
      rw [plus_cents own budget,credit_cents (own.add budget) (came _)]
      exact (own.add budget).add (came _)
    · have own := cents.cycle c (Table.mem_of_get? hc)
      refine lands_of_cents ?_ _ _
      rw [credit_cents own (came k)]
      exact own.add (came k)
  | statement payload now =>
    intro opened k s c _ _ hs hc
    obtain ⟨generation,consumption⟩ := whole s hs
    obtain ⟨_,old,_,own⟩ := (sound_placeholder sound k).exact_.cycle c (Table.mem_of_get? hc)
    have base := generation.add consumption.neg
    refine lands_of_cents ?_ _ _
    rw [plus_cents generation consumption.neg,plus_cents base old.neg,
      plus_cents own (base.add old.neg)]
    exact own.add (base.add old.neg)
  | placeholder k => trivial

theorem sound_history (cfg : Config) {history : List Op} (whole : ∀ op ∈ history, WholeCents op)
    {db : Db} (sound : Sound db.books) (h : Reconstructs db.books) :
    Sound (run (step cfg) db history).books ∧ Reconstructs (run (step cfg) db history).books := by
  induction history generalizing db with
  | nil => exact ⟨sound,h⟩
  | cons op rest ih =>
    have lands := stepLands_of_wholeCents cfg sound (whole op (List.mem_cons_self ..))
    exact ih (fun x hx => whole x (List.mem_cons_of_mem _ hx)) (sound_step db op sound)
      ((step_reconstructs cfg op sound h).mpr lands)

section Synchronised
variable {cfg : Config} {books after : Books}

theorem credited_store (h : Exact books) (k : String) :
    credited (store books) k = credited books k := by
  unfold credited store
  dsimp only
  rw [List.filter_map,List.map_map]
  congr 1
  apply List.map_congr_left
  intro e he
  exact centsHalfUp_of_cents (h.entry e (List.mem_of_mem_filter he)).1

theorem held_store (h : Exact books) (previous : Option String) :
    held (store books) previous = held books previous := by
  cases previous with
  | none => rfl
  | some k =>
    cases hk : books.cycles.get? k with
    | none =>
      unfold held
      rw [Option.bind_some,Option.bind_some,get?_store,hk]
      rfl
    | some c =>
      rw [held_some hk,held_some (c := storedCycle c) (by rw [get?_store,hk]; rfl)]
      exact (h.storedCycle (Table.mem_of_get? hk)).1

/-- Carrying whole cents leaves whole cents. -/
theorem exact_synchronized (numbered : Numbered books) (h : Exact books)
    (done : synchronizeBudgetCarryover cfg books = .ok after) : Exact after := by
  obtain ⟨shift,_⟩ := synchronize_shift numbered done
  have whole := (synchronize_whole numbered h.whole done).1
  constructor
  · intro c hc
    have stored := Table.get?_of_mem hc
    cases hk : books.cycles.get? c.cycleId with
    | none =>
      rw [shift.missing _ hk] at stored
      cases stored
    | some old =>
      obtain ⟨n,hn⟩ := shift.cycles _ old hk
      have same := Option.some.inj (hn.symm.trans stored)
      obtain ⟨openingBudget,openingEnergy,_,energy⟩ := h.cycle old (Table.mem_of_get? hk)
      refine ⟨?_,?_,whole.cycle c hc,?_⟩
      · rw [← congrArg Cycle.openingBudgetBalance same]
        exact openingBudget
      · rw [← congrArg Cycle.openingEnergyBalance same]
        exact openingEnergy
      · rw [← congrArg Cycle.energyBalance same]
        exact (beside_cents energy _).symm ▸ energy
  · intro e he
    refine ⟨whole.entry e he,?_⟩
    obtain ⟨added,ledger,carried⟩ := shift.entries
    rw [ledger] at he
    rcases List.mem_append.mp he with old | new
    · exact (h.entry e old).2
    · rw [(carried e new).2.1]
      exact Cents.zero

/-- What one synchronisation must leave. -/
structure CarriedOver (cfg : Config) (before after : Books) : Prop where
  opened : openedIds after = openedIds before
  /-- Each opened cycle was credited the balance of the one before, the first 0. -/
  chain : Carried after none (openedIds after)
  /-- The last one holds all openings and all other deltas of opened cycles. -/
  total : held after (openedIds after).getLast? =
    ((openedIds after).map fun k => openingOf before k + uncarried before k).sum
  again : synchronizeBudgetCarryover cfg after = .ok after
  energies : ∀ k, (after.cycles.get? k).map Cycle.energyBalance =
    (before.cycles.get? k).map Cycle.energyBalance

theorem synchronized_carriedOver (sound : Sound books) (balanced : Balanced books)
    (h : synchronizeBudgetCarryover cfg books = .ok after) :
    CarriedOver cfg books (store after) := by
  obtain ⟨shift,_⟩ := synchronize_shift sound.numbered h
  obtain ⟨whole,chain⟩ := synchronize_whole sound.numbered sound.exact_.whole h
  have exact_ := exact_synchronized sound.numbered sound.exact_ h
  have places : (store after).cycles.rows.map place = _ := places_store
  have ids := (openedCycles_congr places).1
  have opened := (openedCycles_congr shift.places).1
  have stored : Carried (store after) none (openedIds (store after)) := by
    rw [ids]
    refine Carried.congr (a := after) rfl (fun k _ => ?_) chain
    exact ⟨credited_store exact_ k,held_store exact_ (some k)⟩
  refine ⟨ids.trans opened,stored,?_,?_,?_⟩
  · have balances (k : String) (hk : k ∈ _) :
        held after (some k) = worth after k + credited after k :=
      (shift.balanced sound.exact_.whole whole balanced).held hk
    have last := chain.last_eq balances
    have worths : (worth after : String → ℚ) = worth books := funext shift.worth
    rw [ids,held_store exact_]
    rw [Option.or_none,worths] at last
    exact last.trans (zero_add _)
  · have distinct : Chronological (store after) :=
      chronological_congr (places.trans shift.places) sound.chronological
    unfold synchronizeBudgetCarryover
    exact (if_pos distinct).trans (carryAll_carried cfg stored)
  · intro k
    rw [get?_store]
    cases hk : books.cycles.get? k with
    | none =>
      rw [shift.missing k hk]
      rfl
    | some c =>
      obtain ⟨n,hn⟩ := shift.cycles k c hk
      have energy := (sound.exact_.cycle c (Table.mem_of_get? hk)).2.2.2
      rw [hn]
      refine congrArg some ((congrArg centsHalfUp (beside_cents energy _)).trans ?_)
      exact centsHalfUp_of_cents energy

end Synchronised

/-- After any history of whole amounts, a synchronisation carries the budget
along the opened cycles and is settled. -/
theorem budget_chain (cfg : Config) (history : List Op)
    (whole : ∀ op ∈ history, WholeCents op) :
    ∃ after, synchronizeBudgetCarryover cfg (run (step cfg) {} history).books = .ok after ∧
      CarriedOver cfg (run (step cfg) {} history).books (store after) := by
  have start : Sound ({} : Db).books := sound_empty
  have rebuilt : Reconstructs ({} : Db).books := fun _ hc => nomatch hc
  obtain ⟨sound,h⟩ := sound_history cfg whole start rebuilt
  obtain ⟨after,done,_⟩ := synchronize_spec cfg sound.numbered sound.chronological
  exact ⟨after,done,synchronized_carriedOver sound (reconstructs_iff.mp h).1 done⟩

/-- C1 is opened, before C2, only when C2 was carried already. -/
def fundedLate : List Op :=
  [opening "C2" "s2" "2026-01-02T00:00:00Z",
    .effect { cycleId := "C2", idpk := "funds", sourceMsgId := none, operationType := .transferIn
              budgetDelta := 2, energyDelta := 0, external := transferIn_external },
    opening "C1" "s1" "2026-01-01T00:00:00Z",
    .effect { cycleId := "C1", idpk := "more", sourceMsgId := none, operationType := .transferIn
              budgetDelta := 1050/100, energyDelta := 0, external := transferIn_external }]

theorem opening_whole {cycleId idpk validUntil : String} {named : idpk ≠ ""} :
    WholeCents (opening cycleId idpk validUntil named) := by
  intro s hs
  obtain ⟨energy,he,hs⟩ := Fallible.bind_ok.mp hs
  cases he.symm.trans rfl
  obtain ⟨generation,hg,hs⟩ := Fallible.bind_ok.mp hs
  cases hg.symm.trans rfl
  obtain ⟨consumption,hc,hs⟩ := Fallible.bind_ok.mp hs
  cases hc.symm.trans rfl
  obtain ⟨cost,_,hs⟩ := Fallible.bind_ok.mp hs
  obtain ⟨until_,_,hs⟩ := Fallible.bind_ok.mp hs
  split at hs
  · split at hs <;> cases hs
    exact ⟨cents_iff.mpr ⟨500,by norm_num⟩,cents_iff.mpr ⟨300,by norm_num⟩⟩
  · cases hs

theorem budget_chain_funded :
    ∃ after, synchronizeBudgetCarryover (.drawing "AAA" ["u1","u2","u3"])
        (run (step (.drawing "AAA" ["u1","u2","u3"])) {} fundedLate).books = .ok after ∧
      CarriedOver (.drawing "AAA" ["u1","u2","u3"])
        (run (step (.drawing "AAA" ["u1","u2","u3"])) {} fundedLate).books (store after) := by
  apply budget_chain
  intro op hop
  simp only [fundedLate,List.mem_cons,List.not_mem_nil,or_false] at hop
  rcases hop with rfl | rfl | rfl | rfl
  · exact opening_whole
  · exact ⟨by decide +kernel,by decide +kernel⟩
  · exact opening_whole
  · exact ⟨by decide +kernel,by decide +kernel⟩

end BudgetChain

end EnergyNode
