import EnergyNode.StoredLedger

/-! Whether the ledger reconstructs the balances it materialises. Deltas and
balances round apart, and a balance is summed to 28 digits before, so the two agree
exactly as long as no balance is produced half way on the wrong side. -/
namespace EnergyNode
open Lib

namespace LedgerConsistency
open Ledger StoredLedger

/-- `validate_cycle_consistency` succeeds for every cycle. -/
def Reconstructs (books : Books) : Prop :=
  ∀ c ∈ books.cycles, ∃ balances, validateCycleConsistency books c.cycleId = .ok balances

def EnergyBalanced (books : Books) : Prop :=
  ∀ k c, books.cycles.get? k = some c →
    c.energyBalance = c.openingEnergyBalance + energyTotal id books k

private theorem foldl_sum {α : Type} (f : α → ℚ) (l : List α) (start : ℚ) :
    l.foldl (fun total a => total + f a) start = start + (l.map f).sum := by
  induction l generalizing start with
  | nil => simp
  | cons a l ih =>
    rw [List.foldl_cons,ih,List.map_cons,List.sum_cons]
    ring

theorem rebuildCycleBalances_eq {books : Books} {k : String} {c : Cycle}
    (found : books.cycles.get? k = some c) :
    rebuildCycleBalances books k = .ok (c.openingBudgetBalance + budgetTotal id books k,
      c.openingEnergyBalance + energyTotal id books k) := by
  unfold rebuildCycleBalances
  rw [found]
  dsimp only
  rw [foldl_sum,foldl_sum,((List.perm_insertionSort _ _).map LedgerEntry.budgetDelta).sum_eq,
    ((List.perm_insertionSort _ _).map LedgerEntry.energyDelta).sum_eq]
  rfl

theorem reconstructs_iff {books : Books} :
    Reconstructs books ↔ Balanced books ∧ EnergyBalanced books := by
  have one {k : String} {c : Cycle} (found : books.cycles.get? k = some c) :
      (∃ balances, validateCycleConsistency books k = .ok balances) ↔
        c.openingBudgetBalance + budgetTotal id books k = c.budgetBalance ∧
          c.openingEnergyBalance + energyTotal id books k = c.energyBalance := by
    unfold validateCycleConsistency
    rw [found]
    dsimp only
    rw [rebuildCycleBalances_eq found]
    constructor
    · rintro ⟨balances,h⟩
      obtain ⟨rebuilt,hr,h⟩ := Fallible.bind_ok.mp h
      cases hr
      dsimp only at h
      split at h
      · cases h
      · rename_i agree
        rw [not_or,not_not,not_not] at agree
        exact agree
    · rintro ⟨budget,energy⟩
      rw [budget,energy]
      exact ⟨(c.budgetBalance,c.energyBalance),by simp [bind,Except.bind]⟩
  constructor
  · intro h
    constructor <;> intro k c found <;>
      obtain ⟨budget,energy⟩ := (one (Table.key_of_get? found ▸ found)).mp
        (h c (Table.mem_of_get? found))
    · rw [← Table.key_of_get? found,budget]
    · rw [← Table.key_of_get? found,energy]
  · rintro ⟨budget,energy⟩ c hc
    have found := Table.get?_of_mem hc
    exact (one found).mpr ⟨(budget _ c found).symm,(energy _ c found).symm⟩

/-- A balance produced for an exact sum with `amount` rounds the way the amount does:
half a cent goes up where the exact sum is above, or is the same and the amount
goes up. -/
def Lands (produced total amount : ℚ) : Prop :=
  HalfCent produced → (0 ≤ produced ↔ produced < total ∨ produced = total ∧ 0 ≤ amount)

theorem lands_iff {balance amount produced : ℚ} (whole : Cents balance)
    (stands : Stands (produced * 100) ((balance + amount) * 100)) :
    centsHalfUp produced = balance + centsHalfUp amount ↔
      Lands produced (balance + amount) amount := by
  obtain ⟨n,rfl⟩ := cents_iff.mp whole
  have scaled : ((n : ℚ) / 100 + amount) * 100 = n + amount * 100 := by ring
  have total : (n : ℚ) / 100 + amount = (n + amount * 100) / 100 := by ring
  have sign (x : ℚ) : 0 ≤ x ↔ 0 ≤ x * 100 := by
    constructor <;> intro h <;> linarith
  have less : produced < n / 100 + amount ↔ produced * 100 < n + amount * 100 := by
    constructor <;> intro h <;> linarith
  have same : produced = n / 100 + amount ↔ produced * 100 = n + amount * 100 := by
    constructor <;> intro h <;> linarith
  rw [scaled] at stands
  unfold Lands HalfCent centsHalfUp
  rw [sign produced,sign amount,less,same,← halfUp_stands stands]
  constructor
  · intro h
    have h' : (halfUp (produced * 100) : ℚ) = n + halfUp (amount * 100) := by linarith
    exact_mod_cast h'
  · intro h
    rw [h]
    push_cast
    ring

/-- What cycle `k` holds once the effect is posted. -/
def standing (books : Books) (effect : Effect) (k : String) : ℚ :=
  ((books.cycles.get? k).map fun c =>
    if k = effect.cycleId then plus c.budgetBalance effect.budgetDelta else c.budgetBalance).getD 0

/-- The money each cycle of the list gets: what the one before it holds then, less
what was carried into it already. -/
def carriage (books : Books) (effect : Effect) : ℚ → List String → List (String × ℚ)
  | _, [] => []
  | before, k :: rest =>
      let came := plus before (-credited books k)
      (k,came) :: carriage books effect (credit (standing books effect k) came) rest

/-- What the chain of opened cycles brings into cycle `k` when the effect is applied. -/
def inflow (books : Books) (effect : Effect) (k : String) : ℚ :=
  if effect.budgetDelta = 0 then 0
  else ((carriage books effect 0 (openedIds books)).lookup k).getD 0

/-- The balances that the delta and the money it sets in motion produce land. -/
structure EffectLands (books : Books) (effect : Effect) : Prop where
  energy (c : Cycle) : books.cycles.get? effect.cycleId = some c →
    Lands (plus c.energyBalance effect.energyDelta) (c.energyBalance + effect.energyDelta)
      effect.energyDelta
  budget (c : Cycle) : books.cycles.get? effect.cycleId = some c →
    let came := inflow books effect effect.cycleId
    Lands (credit (plus c.budgetBalance effect.budgetDelta) came)
      (c.budgetBalance + came + effect.budgetDelta) effect.budgetDelta
  carried (k : String) (c : Cycle) : k ≠ effect.cycleId → books.cycles.get? k = some c →
    let came := inflow books effect k
    Lands (credit c.budgetBalance came) (c.budgetBalance + came) came

/-- The condition on a step: what it posts, or the baseline it sets, lands. -/
def StepLands (cfg : Config) (db : Db) : Op → Prop
  | .effect posting =>
      existing? db.books posting.toEffect = none →
        (db.books.cycles.get? posting.cycleId).isSome → EffectLands db.books posting.toEffect
  | .statement payload now =>
      ∀ opened k s c, Opening.applyStatement cfg db payload now = .ok (some opened) →
        payload.cycleId = some k → Opening.statement payload.data = .ok s →
        (Opening.getOrCreateCycle db.books k).cycles.get? k = some c →
          let opening := plus s.generation (-s.consumption)
          Lands (plus c.energyBalance (plus opening (-c.openingEnergyBalance)))
            (c.energyBalance - c.openingEnergyBalance + opening) opening
  | .placeholder _ => True

section Effect
variable {cfg : Config} {books books' : Books} {posting : Posting} {cycle : Cycle}

theorem balanced_store : Balanced (store books) ↔ ∀ k c, books.cycles.get? k = some c →
    centsHalfUp c.budgetBalance =
      centsHalfUp c.openingBudgetBalance + budgetTotal centsHalfUp books k := by
  constructor
  · intro h k c hc
    rw [← budgetTotal_store]
    exact h k (storedCycle c) (by rw [get?_store,hc]; rfl)
  · intro h k c hc
    rw [get?_store,Option.map_eq_some_iff] at hc
    obtain ⟨old,hold,rfl⟩ := hc
    rw [budgetTotal_store]
    exact h k old hold

theorem energyBalanced_store : EnergyBalanced (store books) ↔
    ∀ k c, books.cycles.get? k = some c → centsHalfUp c.energyBalance =
      centsHalfUp c.openingEnergyBalance + energyTotal centsHalfUp books k := by
  constructor
  · intro h k c hc
    rw [← energyTotal_store]
    exact h k (storedCycle c) (by rw [get?_store,hc]; rfl)
  · intro h k c hc
    rw [get?_store,Option.map_eq_some_iff] at hc
    obtain ⟨old,hold,rfl⟩ := hc
    rw [energyTotal_store]
    exact h k old hold

theorem credited_external (k : String) :
    credited (posted books cycle posting.toEffect) k = credited books k := by
  rw [credited_posted,if_neg (fun h => posting.external h.2),add_zero]

theorem held_posted (found : books.cycles.get? posting.cycleId = some cycle) (k : String) :
    held (posted books cycle posting.toEffect) (some k) = standing books posting.toEffect k := by
  have at_ : (posted books cycle posting.toEffect).cycles.get? k = _ := get?_posted found k
  unfold held standing
  rw [Option.bind_some,at_]
  by_cases own : k = posting.cycleId
  · rw [if_pos own,own,found]
    exact (if_pos rfl).symm
  · rw [if_neg own]
    cases books.cycles.get? k with
    | none => rfl
    | some c => exact (if_neg own).symm

theorem lookup_carriage_none {before : ℚ} {l : List String} {k : String} (hk : k ∉ l) :
    (carriage books posting.toEffect before l).lookup k = none := by
  induction l generalizing before with
  | nil => rfl
  | cons x rest ih =>
    rw [List.mem_cons,not_or] at hk
    unfold carriage
    rw [List.lookup_cons,beq_false_of_ne hk.1]
    exact ih hk.2

/-- The chain brings what `carriage` foresees. -/
theorem lookup_carriage {new : Books} {previous : Option String} {l : List String}
    (distinct : l.Nodup) (chain : Credits books new previous l)
    (holds : ∀ k ∈ l, held new (some k) =
      credit (standing books posting.toEffect k) (credited new k - credited books k)) :
    ∀ k ∈ l, (carriage books posting.toEffect (held new previous) l).lookup k =
      some (credited new k - credited books k) := by
  induction l generalizing previous with
  | nil =>
    intro k hk
    cases hk
  | cons x rest ih =>
    rw [List.nodup_cons] at distinct
    have came : plus (held new previous) (-credited books x) = credited new x - credited books x := by
      rw [chain.1,add_sub_cancel_left]
    intro k hk
    unfold carriage
    dsimp only
    rw [came,← holds x (List.mem_cons_self ..),List.lookup_cons]
    by_cases same : k = x
    · rw [same,beq_self_eq_true]
    · rw [beq_false_of_ne same]
      exact ih distinct.2 chain.2 (fun y hy => holds y (List.mem_cons_of_mem _ hy)) k
        ((List.mem_cons.mp hk).resolve_left same)

theorem cents_standing (whole : Whole books) {k : String}
    (cents : k = posting.cycleId → Cents posting.budgetDelta) :
    Cents (standing books posting.toEffect k) := by
  unfold standing
  cases hk : books.cycles.get? k with
  | none => exact Cents.zero
  | some c =>
    have own := whole.cycle c (Table.mem_of_get? hk)
    by_cases here : k = posting.cycleId
    · rw [Option.map_some,if_pos here,plus_cents own (cents here)]
      exact own.add (cents here)
    · rw [Option.map_some,if_neg here]
      exact own

/-- The chain brings whole cents into a cycle as long as those before it hold them. -/
theorem cents_carriage (whole : Whole books) {k : String}
    (stays : ∀ x ≠ k, Cents (standing books posting.toEffect x)) {before : ℚ} (hb : Cents before)
    (l : List String) : Cents (((carriage books posting.toEffect before l).lookup k).getD 0) := by
  induction l generalizing before with
  | nil => exact Cents.zero
  | cons x rest ih =>
    have came : Cents (plus before (-credited books x)) := by
      rw [plus_cents hb (whole.credited x).neg]
      exact hb.add (whole.credited x).neg
    unfold carriage
    dsimp only
    rw [List.lookup_cons]
    by_cases own : k = x
    · rw [own,beq_self_eq_true]
      exact came
    · rw [beq_false_of_ne own]
      refine ih ?_
      rw [credit_cents (stays x (Ne.symm own)) came]
      exact (stays x (Ne.symm own)).add came

theorem cents_inflow (whole : Whole books) {k : String}
    (stays : ∀ x ≠ k, Cents (standing books posting.toEffect x)) :
    Cents (inflow books posting.toEffect k) := by
  unfold inflow
  split
  · exact Cents.zero
  · exact cents_carriage whole stays Cents.zero _

/-- A posted balance, with whole cents carried into it. -/
theorem stands_posted {balance amount came : ℚ} (whole : Cents balance) (carried : Cents came) :
    Stands (credit (plus balance amount) came * 100) ((balance + came + amount) * 100) := by
  have first : Stands (plus balance amount * 100) ((amount + balance) * 100) := by
    rw [plus_comm]
    exact stands_plus whole (.refl _) (by norm_num)
  unfold credit
  split
  · rename_i none
    rw [none,add_zero,add_comm balance]
    exact first
  · have near := plus_near balance amount
    rw [add_comm balance] at near
    rw [show balance + came + amount = amount + balance + came by ring]
    exact stands_plus carried first near

/-- An energy balance on another baseline, its movements kept on top. -/
theorem stands_rebaselined {balance old opening : ℚ} (whole : Cents balance) (base : Cents old) :
    Stands (plus balance (plus opening (-old)) * 100) ((balance - old + opening) * 100) := by
  rw [plus_comm balance,show balance - old + opening = opening + -old + balance by ring]
  exact stands_plus whole (stands_plus base.neg (.refl _) (by norm_num)) (plus_near _ _)

/-- A balance with any money carried into it. -/
theorem stands_credit {balance came : ℚ} (whole : Cents balance) :
    Stands (credit balance came * 100) ((balance + came) * 100) := by
  unfold credit
  split
  · rename_i none
    rw [none,add_zero]
    exact .refl _
  · rw [plus_comm,add_comm balance]
    exact stands_plus whole (.refl _) (by norm_num)

variable (sound : Sound books)
  (found : books.cycles.get? posting.cycleId = some cycle)
  (outcome : posting.budgetDelta = 0 ∧ books' = posted books cycle posting.toEffect ∨
    posting.budgetDelta ≠ 0 ∧
      synchronizeBudgetCarryover cfg (posted books cycle posting.toEffect) = .ok books')
include sound found outcome

/-- The carryover brings into a cycle what `inflow` foresees. -/
theorem credited_inflow (k : String) : credited books' k -
    credited (posted books cycle posting.toEffect) k = inflow books posting.toEffect k := by
  have places : (posted books cycle posting.toEffect).cycles.rows.map place = _ :=
    places_posted found
  have ids := (openedCycles_congr places).1
  have numbered := (ordered_posted sound.toOrdered found).numbered
  unfold inflow
  rcases outcome with ⟨still,rfl⟩ | ⟨moved,h⟩
  · rw [if_pos still,sub_self]
  · rw [if_neg moved]
    obtain ⟨shift,credits,others⟩ := synchronize_shift numbered h
    rw [ids] at credits others
    by_cases opened : k ∈ openedIds books
    · have chain := credits.congr fun x _ => credited_external x
      have holds (x : String) (hx : x ∈ openedIds books) : held books' (some x) =
          credit (standing books posting.toEffect x) (credited books' x - credited books x) := by
        obtain ⟨c,hc,_⟩ := mem_openedIds.mp (ids ▸ hx)
        obtain ⟨n,hn⟩ := shift.cycles x c hc
        rw [held_some hn,← held_posted found,held_some hc,credited_external]
      rw [credited_external]
      exact (congrArg (Option.getD · 0)
        (lookup_carriage (nodup_openedIds books) chain holds k opened)).symm
    · rw [others k opened,sub_self,lookup_carriage_none opened]
      rfl

/-- The cycle `x` of the books after the effect, before it is stored. -/
theorem cycle_after {k : String} {x : Cycle} (hx : books.cycles.get? k = some x) :
    ∃ y, books'.cycles.get? k = some y ∧ y.openingBudgetBalance = x.openingBudgetBalance ∧
      y.openingEnergyBalance = x.openingEnergyBalance ∧
      y.budgetBalance = credit
        (if k = posting.cycleId then plus x.budgetBalance posting.budgetDelta else x.budgetBalance)
        (inflow books posting.toEffect k) ∧
      y.energyBalance =
        if k = posting.cycleId then plus x.energyBalance posting.energyDelta
        else x.energyBalance := by
  have shift := effect_shift sound.toOrdered found outcome
  have moved := credited_inflow sound found outcome k
  have mid : (posted books cycle posting.toEffect).cycles.get? k = _ := get?_posted found k
  by_cases own : k = posting.cycleId
  · rw [if_pos own] at mid
    have same : x = cycle := by
      rw [own] at hx
      exact Option.some.inj (hx.symm.trans found)
    obtain ⟨n,hn⟩ := shift.cycles k _ mid
    rw [moved] at hn
    refine ⟨_,hn,by rw [same]; rfl,by rw [same]; rfl,by rw [if_pos own,same]; rfl,?_⟩
    rw [if_pos own,same]
    exact beside_plus _ _ _
  · rw [if_neg own,hx] at mid
    obtain ⟨n,hn⟩ := shift.cycles k _ mid
    rw [moved] at hn
    have energy := (sound.exact_.cycle x (Table.mem_of_get? hx)).2.2.2
    exact ⟨_,hn,rfl,rfl,by rw [if_neg own],by rw [if_neg own]; exact beside_cents energy _⟩

variable (balanced : Balanced books) (energyBalanced : EnergyBalanced books)

include balanced in
/-- One cycle's budget is reconstructed exactly when what reached it landed. -/
theorem budget_lands {k : String} {x y : Cycle} (hx : books.cycles.get? k = some x)
    (hy : books'.cycles.get? k = some y) :
    centsHalfUp y.budgetBalance =
        centsHalfUp y.openingBudgetBalance + budgetTotal centsHalfUp books' k ↔
      let came := inflow books posting.toEffect k
      if k = posting.cycleId then Lands (credit (plus x.budgetBalance posting.budgetDelta) came)
        (x.budgetBalance + came + posting.budgetDelta) posting.budgetDelta
      else Lands (credit x.budgetBalance came) (x.budgetBalance + came) came := by
  obtain ⟨z,hz,opening,_,budget,_⟩ := cycle_after sound found outcome hx
  cases hy.symm.trans hz
  have whole := sound.exact_.cycle x (Table.mem_of_get? hx)
  have total : budgetTotal centsHalfUp books' k = budgetTotal id books k +
      (if posting.cycleId = k then centsHalfUp posting.budgetDelta else 0) +
        centsHalfUp (inflow books posting.toEffect k) := by
    rw [(effect_shift sound.toOrdered found outcome).budgets centsHalfUp k (centsHalfUp_of_cents Cents.zero),
      credited_inflow sound found outcome k,budgetTotal_posted,
      sound.exact_.budgetTotal]
  have before := balanced k x hx
  dsimp only
  rw [total,budget,opening,centsHalfUp_of_cents whole.1]
  by_cases own : k = posting.cycleId
  · have into : Cents (inflow books posting.toEffect k) :=
      cents_inflow sound.exact_.whole fun x other =>
        cents_standing sound.exact_.whole fun same => absurd (same.trans own.symm) other
    rw [if_pos own,if_pos own.symm,if_pos own,centsHalfUp_of_cents into,
      ← lands_iff (whole.2.2.1.add into) (stands_posted whole.2.2.1 into)]
    constructor <;> intro h <;> linarith
  · rw [if_neg own,if_neg (Ne.symm own),if_neg own,add_zero,
      ← lands_iff whole.2.2.1 (stands_credit whole.2.2.1)]
    constructor <;> intro h <;> linarith

include energyBalanced in
theorem energy_lands {k : String} {x y : Cycle} (hx : books.cycles.get? k = some x)
    (hy : books'.cycles.get? k = some y) :
    centsHalfUp y.energyBalance =
        centsHalfUp y.openingEnergyBalance + energyTotal centsHalfUp books' k ↔
      (k = posting.cycleId → Lands (plus x.energyBalance posting.energyDelta)
        (x.energyBalance + posting.energyDelta) posting.energyDelta) := by
  obtain ⟨z,hz,_,opening,_,energy⟩ := cycle_after sound found outcome hx
  cases hy.symm.trans hz
  have whole := sound.exact_.cycle x (Table.mem_of_get? hx)
  have total : energyTotal centsHalfUp books' k = energyTotal id books k +
      if posting.cycleId = k then centsHalfUp posting.energyDelta else 0 := by
    rw [(effect_shift sound.toOrdered found outcome).energies centsHalfUp k
      (centsHalfUp_of_cents Cents.zero),energyTotal_posted,sound.exact_.energyTotal]
  have before := energyBalanced k x hx
  rw [total,energy,opening,centsHalfUp_of_cents whole.2.1]
  by_cases own : k = posting.cycleId
  · have stands := @stands_posted _ posting.energyDelta _ whole.2.2.2 Cents.zero
    rw [credit_zero,add_zero] at stands
    rw [if_pos own,if_pos own.symm,← lands_iff whole.2.2.2 stands]
    constructor
    · intro h _
      linarith
    · intro h
      linarith [h own]
  · rw [if_neg own,if_neg (Ne.symm own),add_zero,centsHalfUp_of_cents whole.2.2.2]
    constructor
    · intro _ same
      exact absurd same own
    · intro _
      linarith

include balanced energyBalanced in
/-- The books an effect leaves are reconstructed exactly when it landed. -/
theorem effect_reconstructs :
    Reconstructs (store books') ↔ EffectLands books posting.toEffect := by
  have after {k : String} {y : Cycle} (hy : books'.cycles.get? k = some y) :
      ∃ x, books.cycles.get? k = some x := by
    cases hx : books.cycles.get? k with
    | some x => exact ⟨x,rfl⟩
    | none =>
      have mid : (posted books cycle posting.toEffect).cycles.get? k = none := by
        rw [get?_posted found,if_neg,hx]
        intro own
        rw [own,found] at hx
        cases hx
      rw [(effect_shift sound.toOrdered found outcome).missing k mid] at hy
      cases hy
  rw [reconstructs_iff,balanced_store,energyBalanced_store]
  constructor
  · rintro ⟨budgets,energies⟩
    constructor
    · intro x hx
      obtain ⟨y,hy,_⟩ := cycle_after sound found outcome hx
      exact (energy_lands sound found outcome energyBalanced hx hy).mp
        (energies _ y hy) rfl
    · intro x hx
      obtain ⟨y,hy,_⟩ := cycle_after sound found outcome hx
      have lands := (budget_lands sound found outcome balanced hx hy).mp (budgets _ y hy)
      rw [if_pos rfl] at lands
      exact lands
    · intro k x other hx
      obtain ⟨y,hy,_⟩ := cycle_after sound found outcome hx
      have lands := (budget_lands sound found outcome balanced hx hy).mp (budgets _ y hy)
      rw [if_neg other] at lands
      exact lands
  · intro lands
    constructor
    · intro k y hy
      obtain ⟨x,hx⟩ := after hy
      refine (budget_lands sound found outcome balanced hx hy).mpr ?_
      split
      · rename_i own
        subst own
        exact lands.budget x hx
      · rename_i other
        exact lands.carried k x other hx
    · intro k y hy
      obtain ⟨x,hx⟩ := after hy
      refine (energy_lands sound found outcome energyBalanced hx hy).mpr ?_
      intro own
      subst own
      exact lands.energy x hx

end Effect

section Opening
variable {cfg : Config} {books : Books}

theorem entriesOf_missing (numbered : Numbered books) {k : String}
    (missing : books.cycles.get? k = none) : entriesOf books k = [] := by
  unfold entriesOf
  rw [List.filter_eq_nil_iff]
  intro e he own
  obtain ⟨c,hc,_⟩ := numbered e he
  rw [of_decide_eq_true own,missing] at hc
  cases hc

theorem placeholder_balanced (sound : Sound books) (balanced : Balanced books)
    (energyBalanced : EnergyBalanced books) (k : String) :
    Balanced (Opening.getOrCreateCycle books k) ∧
      EnergyBalanced (Opening.getOrCreateCycle books k) := by
  rcases getOrCreateCycle_cases books k with ⟨same,_⟩ | ⟨free,created⟩
  · rw [same]
    exact ⟨balanced,energyBalanced⟩
  · rw [created]
    have empty : entriesOf books k = [] := entriesOf_missing sound.numbered free
    constructor
    · intro x c hc
      rw [Table.get?_insert] at hc
      split at hc
      · rename_i own
        cases hc
        subst own
        have none_ : budgetTotal id books k = 0 := by
          unfold budgetTotal
          rw [empty]
          rfl
        exact none_.symm.trans (zero_add _).symm
      · exact balanced x c hc
    · intro x c hc
      rw [Table.get?_insert] at hc
      split at hc
      · rename_i own
        cases hc
        subst own
        have none_ : energyTotal id books k = 0 := by
          unfold energyTotal
          rw [empty]
          rfl
        exact none_.symm.trans (zero_add _).symm
      · exact energyBalanced x c hc

variable {k : String} {c c' : Cycle} {opening : ℚ} {books' : Books}
  (sound : Sound books) (balanced : Balanced books) (energyBalanced : EnergyBalanced books)
  (found : books.cycles.get? k = some c) (reopened : Reopened c c' opening)
  (h : synchronizeBudgetCarryover cfg { books with cycles := books.cycles.set c' } = .ok books')
include sound balanced found reopened h

omit balanced in
/-- Reopening a cycle moves whole cents along the chain. -/
theorem reopened_whole : Whole { books with cycles := books.cycles.set c' } ∧ Whole books' := by
  have whole : Whole { books with cycles := books.cycles.set c' } := by
    refine ⟨fun x hx => ?_,fun e he => (sound.exact_.entry e he).1⟩
    have stored := Table.get?_of_mem (t := books.cycles.set c') hx
    rw [get?_reopened found reopened] at stored
    split at stored
    · cases stored
      rw [reopened.budget]
      exact (sound.exact_.cycle c (Table.mem_of_get? found)).2.2.1
    · exact (sound.exact_.cycle x (Table.mem_of_get? stored)).2.2.1
  exact ⟨whole,(synchronize_whole (numbered_reopened found reopened sound.numbered) whole h).1⟩

/-- A cycle after the statement, before it is stored. -/
theorem reopened_after {x : String} {y : Cycle} (hy : books'.cycles.get? x = some y) :
    ∃ z, (books.cycles.set c').get? x = some z ∧
      y.openingBudgetBalance = z.openingBudgetBalance ∧
      y.openingEnergyBalance = z.openingEnergyBalance ∧ y.energyBalance = z.energyBalance ∧
      centsHalfUp y.budgetBalance =
        centsHalfUp y.openingBudgetBalance + budgetTotal centsHalfUp books' x := by
  have shift := (synchronize_shift (numbered_reopened found reopened sound.numbered) h).1
  obtain ⟨before,after⟩ := reopened_whole sound found reopened h
  have cents := (after.credited x).sub (before.credited x)
  cases hz : (books.cycles.set c').get? x with
  | none =>
    rw [shift.missing x hz] at hy
    cases hy
  | some z =>
    obtain ⟨n,hn⟩ := shift.whole before after x z hz
    cases hn.symm.trans hy
    have own := balanced_reopened found reopened balanced x z hz
    have old : ∃ w ∈ books.cycles, w.openingBudgetBalance = z.openingBudgetBalance ∧
        w.budgetBalance = z.budgetBalance := by
      rw [get?_reopened found reopened] at hz
      split at hz
      · cases hz
        exact ⟨c,Table.mem_of_get? found,reopened.openingBudget.symm,reopened.budget.symm⟩
      · exact ⟨z,Table.mem_of_get? hz,rfl,rfl⟩
    obtain ⟨w,hw,opens,holds⟩ := old
    have whole := sound.exact_.cycle w hw
    rw [opens,holds] at whole
    have rests : beside z.energyBalance (credited books' x -
        credited { books with cycles := books.cycles.set c' } x) = z.energyBalance := by
      rw [get?_reopened found reopened] at hz
      split at hz
      · cases hz
        rw [reopened.energy]
        exact beside_plus _ _ _
      · exact beside_cents (sound.exact_.cycle z (Table.mem_of_get? hz)).2.2.2 _
    refine ⟨z,rfl,rfl,rfl,rests,?_⟩
    dsimp only
    rw [shift.budgets centsHalfUp x (centsHalfUp_of_cents Cents.zero),
      centsHalfUp_of_cents (whole.2.2.1.add cents),centsHalfUp_of_cents whole.1,
      centsHalfUp_of_cents cents]
    have total : budgetTotal centsHalfUp { books with cycles := books.cycles.set c' } x =
        budgetTotal id books x := sound.exact_.budgetTotal x
    have same : budgetTotal id { books with cycles := books.cycles.set c' } x =
        budgetTotal id books x := rfl
    rw [total,own,same]
    ring

include energyBalanced

/-- The books a statement leaves are reconstructed exactly when its baseline
landed on the movements kept on top of it. -/
theorem statement_reconstructs :
    Reconstructs (store books') ↔
      Lands (plus c.energyBalance (plus opening (-c.openingEnergyBalance)))
        (c.energyBalance - c.openingEnergyBalance + opening) opening := by
  have shift := (synchronize_shift (numbered_reopened found reopened sound.numbered) h).1
  have whole := sound.exact_.cycle c (Table.mem_of_get? found)
  have energies (x : String) : energyTotal centsHalfUp books' x = energyTotal id books x := by
    rw [shift.energies centsHalfUp x (centsHalfUp_of_cents Cents.zero)]
    exact sound.exact_.energyTotal x
  have own : centsHalfUp c'.energyBalance =
        centsHalfUp c'.openingEnergyBalance + energyTotal centsHalfUp books' k ↔
      Lands (plus c.energyBalance (plus opening (-c.openingEnergyBalance)))
        (c.energyBalance - c.openingEnergyBalance + opening) opening := by
    have movements := energyBalanced k c found
    rw [← lands_iff (whole.2.2.2.sub whole.2.1) (stands_rebaselined whole.2.2.2 whole.2.1),energies,
      reopened.energy,reopened.openingEnergy]
    constructor <;> intro e <;> linarith
  rw [reconstructs_iff,balanced_store,energyBalanced_store,← own]
  constructor
  · rintro ⟨_,landed⟩
    have here := get?_reopened found reopened k
    rw [if_pos rfl] at here
    obtain ⟨n,hn⟩ := shift.cycles k c' here
    have there := landed k _ hn
    dsimp only at there
    rw [reopened.energy,beside_plus] at there
    rw [reopened.energy]
    exact there
  · intro landed
    constructor
    · intro x y hy
      obtain ⟨_,_,_,_,_,budget⟩ := reopened_after sound balanced found reopened h hy
      exact budget
    · intro x y hy
      obtain ⟨z,hz,_,opens,holds,_⟩ := reopened_after sound balanced found reopened h hy
      rw [opens,holds]
      rw [get?_reopened found reopened] at hz
      split at hz
      · rename_i here
        cases hz
        subst here
        exact landed
      · have other := sound.exact_.cycle z (Table.mem_of_get? hz)
        rw [energies,centsHalfUp_of_cents other.2.1,centsHalfUp_of_cents other.2.2.2]
        exact energyBalanced x z hz

end Opening

theorem store_exact {books : Books} (exact_ : Exact books) (h : Reconstructs books) :
    Reconstructs (store books) := by
  rw [reconstructs_iff] at h ⊢
  rw [balanced_store,energyBalanced_store]
  constructor
  · intro k c hc
    obtain ⟨opening,_,budget,_⟩ := exact_.cycle c (Table.mem_of_get? hc)
    rw [centsHalfUp_of_cents opening,centsHalfUp_of_cents budget,exact_.budgetTotal]
    exact h.1 k c hc
  · intro k c hc
    obtain ⟨_,opening,_,energy⟩ := exact_.cycle c (Table.mem_of_get? hc)
    rw [centsHalfUp_of_cents opening,centsHalfUp_of_cents energy,exact_.energyTotal]
    exact h.2 k c hc

/-- Ordered books refuse an effect only for want of its cycle. -/
theorem effect_taken (cfg : Config) {books : Books} {effect : Effect} {cycle : Cycle}
    (ordered : Ordered books) (found : books.cycles.get? effect.cycleId = some cycle) :
    ∃ done, applyLedgerEffect cfg books effect = .ok done := by
  unfold applyLedgerEffect
  cases fresh : existing? books effect with
  | some entry =>
    have again : post books effect = .ok (books,entry,false) := by
      unfold post
      rw [found,fresh]
    rw [again]
    exact ⟨_,rfl⟩
  | none =>
    obtain ⟨numbered,chronological⟩ := ordered_posted ordered found
    obtain ⟨after,hafter,_⟩ := synchronize_spec cfg numbered chronological
    rw [post_fresh ordered.numbered found fresh]
    by_cases still : effect.budgetDelta = 0
    · exact ⟨_,if_neg (by simp [still])⟩
    · refine ⟨(after,nextEntry cycle effect,true),(if_pos ⟨rfl,still⟩).trans ?_⟩
      rw [hafter]
      rfl

/-- One committed step keeps the books reconstructed exactly when it lands. -/
theorem step_reconstructs (cfg : Config) {db : Db} (op : Op) (sound : Sound db.books)
    (h : Reconstructs db.books) :
    Reconstructs (step cfg db op).books ↔ StepLands cfg db op := by
  obtain ⟨balanced,energyBalanced⟩ := reconstructs_iff.mp h
  cases op with
  | effect posting =>
    cases happ : applyLedgerEffect cfg db.books posting.toEffect with
    | error fault =>
      simp only [step,happ,StepLands]
      refine iff_of_true h ?_
      intro fresh present
      obtain ⟨cycle,found⟩ := Option.isSome_iff_exists.mp present
      obtain ⟨done,taken⟩ := effect_taken cfg sound.toOrdered found
      rw [happ] at taken
      cases taken
    | ok done =>
      obtain ⟨books,entry,applied⟩ := done
      simp only [step,happ,StepLands]
      rcases applyLedgerEffect_cases happ with ⟨rfl,replayed⟩ | ⟨cycle,found,fresh,outcome⟩
      · rw [replayed]
        simp [store_exact sound.exact_ h]
      · rw [effect_reconstructs sound found outcome balanced energyBalanced,fresh,found]
        simp
  | statement payload now =>
    simp only [step,StepLands]
    split
    · rename_i opened happ
      obtain ⟨k,s,c,c',hk,hs,found,reopened,hsync⟩ := applyStatement_cases happ
      obtain ⟨kept,keptEnergy⟩ := placeholder_balanced sound balanced energyBalanced k
      rw [statement_reconstructs (sound_placeholder sound k) kept keptEnergy found reopened hsync]
      constructor
      · intro lands opened' k' s' c' _ hk' hs' found'
        cases hk.symm.trans hk'
        cases hs.symm.trans hs'
        cases found.symm.trans found'
        exact lands
      · intro lands
        exact lands opened k s c happ hk hs found
    · rename_i refused
      refine iff_of_true h ?_
      intro opened k s c happ
      exact absurd happ (refused opened)
  | placeholder k =>
    refine iff_of_true ?_ trivial
    exact reconstructs_iff.mpr (placeholder_balanced sound balanced energyBalanced k)

end LedgerConsistency

end EnergyNode
