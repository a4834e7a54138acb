import EnergyNode.Lib.Fallible
import EnergyNode.TradeEvents

/-! The arithmetic of a settlement. The handler quantises with the rounding of
the decimal context, ties to even, where every other amount in credits is
rounded half away from zero: the two part on exact ties. -/
namespace EnergyNode
open Lib

namespace SettlementArithmetic
open TradeEvents CycleAccounting

/-- What the coverage costs, before it is rounded. -/
def worth (s : ImbalanceSettlement) : ℚ := s.coverage * s.pricePerEnergy

/-- The coverage and the total a settlement must state. -/
def Correct (s : ImbalanceSettlement) : Prop :=
  s.coverage = s.kwhHeld - s.deficit ∧ s.total = centsHalfUp (worth s)

def arithmeticRefusals : List String := ["IMBALANCE_COVERAGE_MISMATCH","IMBALANCE_TOTAL_MISMATCH"]

/-- The handler turns the settlement down for its arithmetic, or its decimals raise. -/
def Refuses (result : Result (Books × Audit)) : Prop :=
  result = .error .type ∨
    ∃ books, ∃ reason ∈ arithmeticRefusals, result = .ok (books,.notProcessed,some reason)

/-- The product fits the context and neither it nor its 28 digits are an odd
number of half cents that goes to the other side, next to the total stated. -/
def Settles (s : ImbalanceSettlement) : Prop :=
  if |worth s| < 10 ^ 26 - 1/200 then
    ∀ t ∈ [worth s, keep Decimal.precision (worth s)], HalfCent t → centsHalfEven t ≠ centsHalfUp (worth s) →
      |s.total - t| ≠ 1/200
  else s.total ≠ centsHalfUp (worth s)

/-- The kernel of the check: the cents the context arrives at. -/
theorem settlementRefusal_none {s : ImbalanceSettlement} :
    settlementRefusal s = .ok none ↔ s.coverage = s.kwhHeld - s.deficit ∧
      |halfEven (keep Decimal.precision (worth s) * 100)| < 10 ^ Decimal.precision ∧
      |halfEven (s.total * 100)| < 10 ^ Decimal.precision ∧
      centsHalfEven s.total = centsHalfEven (keep Decimal.precision (worth s)) := by
  unfold settlementRefusal quantized
  rw [show (s.coverage * s.pricePerEnergy : ℚ) = worth s from rfl]
  split
  · rename_i covered
    simp [covered]
  rename_i covered
  rw [not_ne_iff] at covered
  by_cases product : |halfEven (keep Decimal.precision (worth s) * 100)| < 10 ^ Decimal.precision <;>
    by_cases total : |halfEven (s.total * 100)| < 10 ^ Decimal.precision <;>
    simp [covered,product,total]

section Ledger
variable {cfg : Config} {books : Books}

theorem post_fault {effect : Ledger.Effect} : Ledger.post books effect ≠ .error .type := by
  unfold Ledger.post
  split
  · simp
  split
  · simp
  dsimp only
  split <;> simp

theorem carryAll_fault (ids : List String) : ∀ (books : Books) (previous : Option String),
    Ledger.carryAll cfg books previous ids ≠ .error .type := by
  induction ids with
  | nil =>
    intro books previous
    simp [Ledger.carryAll]
  | cons k ids ih =>
    intro books previous raised
    rcases Fallible.bind_fault.mp raised with turn | ⟨done,_,rest⟩
    · unfold Ledger.carryInto at turn
      dsimp only at turn
      split at turn
      all_goals
        split at turn
        · cases turn
        · exact post_fault (Fallible.map_fault.mp turn)
    · exact ih done (some k) rest

theorem applyLedgerEffect_fault {effect : Ledger.Effect} :
    Ledger.applyLedgerEffect cfg books effect ≠ .error .type := by
  intro raised
  rcases Fallible.bind_fault.mp raised with posted | ⟨⟨after,entry,applied⟩,_,rest⟩
  · exact post_fault posted
  dsimp only at rest
  split at rest
  · rcases Fallible.bind_fault.mp rest with carried | ⟨_,_,done⟩
    · unfold Ledger.synchronizeBudgetCarryover at carried
      dsimp only at carried
      split at carried
      · exact carryAll_fault _ _ _ carried
      · cases carried
    · cases done
  · cases rest

theorem applyImbalanceSettlement_fault {s : ImbalanceSettlement} :
    applyImbalanceSettlement cfg books s ≠ .error .type := by
  intro raised
  unfold applyImbalanceSettlement at raised
  split at raised
  · cases raised
  rcases Fallible.bind_fault.mp raised with paid | ⟨⟨after,entry,applied⟩,_,rest⟩
  · exact applyLedgerEffect_fault paid
  dsimp only at rest
  split at rest
  · split at rest
    · cases rest
    · rcases Fallible.bind_fault.mp rest with burnt | ⟨_,_,done⟩
      · exact applyLedgerEffect_fault burnt
      · cases done
  · cases rest

end Ledger

variable {cfg : Config} {books : Books} {payload : Payload} {cycleId : String}
  {s : ImbalanceSettlement}

theorem settlementRefusal_fault {fault : Fault} (h : settlementRefusal s = .error fault) :
    fault = .type := by
  unfold settlementRefusal at h
  split at h
  · cases h
  split at h <;> cases h
  rfl

theorem settlementRefusal_some {reason : String} (h : settlementRefusal s = .ok (some reason)) :
    reason ∈ arithmeticRefusals := by
  unfold settlementRefusal at h
  split at h
  · cases h
    exact List.mem_cons_self ..
  split at h
  · split at h <;> cases h
    exact List.mem_cons_of_mem _ (List.mem_cons_self ..)
  · cases h

/-- Past its two checks the handler refuses nothing for its arithmetic. -/
theorem passed_check {audit : Audit} {reason : String} (conflict : reason ∉ arithmeticRefusals)
    (h : audit = (.processed,none) ∨ audit = (.duplicate,none) ∨
      audit = (.notProcessed,some reason)) : ¬ Refuses (.ok (books,audit)) := by
  rintro (raised | ⟨done,said,listed,e⟩)
  · cases raised
  · rcases h with rfl | rfl | rfl <;> cases e
    exact conflict listed

/-- The handler refuses the arithmetic of a settlement exactly when its two
checks do; nothing after them raises the same way. -/
theorem refuses_iff (named : payload.cycleId = some cycleId) (nonempty : cycleId ≠ "")
    (read : settlementOf payload cycleId = some s) :
    Refuses (processImbalanceSettlement cfg books payload) ↔ settlementRefusal s ≠ .ok none := by
  have cycle : payload.cycleId.filter (· ≠ "") = some cycleId := by simp [named,nonempty]
  have conflict : "IMBALANCE_CONFLICT" ∉ arithmeticRefusals := by decide
  unfold processImbalanceSettlement
  rw [cycle]
  dsimp only
  rw [read]
  dsimp only
  cases checked : settlementRefusal s with
  | error fault =>
    rw [settlementRefusal_fault checked]
    exact iff_of_true (.inl rfl) (by simp)
  | ok answer =>
    cases answer with
    | some reason =>
      exact iff_of_true (.inr ⟨books,reason,settlementRefusal_some checked,rfl⟩) (by simp)
    | none =>
      refine iff_of_false ?_ (by simp)
      dsimp only
      split
      · rename_i settlements _
        cases applied : applyImbalanceSettlement cfg { books with settlements := settlements } s with
        | error fault =>
          rintro (raised | ⟨_,_,_,e⟩)
          · cases raised
            exact applyImbalanceSettlement_fault applied
          · cases e
        | ok done => exact passed_check conflict (.inl rfl)
      · split
        · exact passed_check conflict (.inr (.inl rfl))
        · exact passed_check conflict (.inr (.inr rfl))
      · rintro (raised | ⟨_,_,_,e⟩)
        · cases raised
        · cases e

theorem cents_diff {total t : ℚ} {n : Int} (h : total = n / 100) :
    |total - t| = 1/200 ↔ |(n : ℚ) - t * 100| = 1/2 := by
  have e : total - t = ((n : ℚ) - t * 100) / 100 := by
    rw [h]
    ring
  rw [e,abs_div,abs_of_pos (show (0 : ℚ) < 100 by norm_num)]
  constructor <;> intro h <;> linarith

theorem centsHalfEven_eq {p q : ℚ} : centsHalfEven p = centsHalfUp q ↔
    halfEven (p * 100) = halfUp (q * 100) := by
  unfold centsHalfEven centsHalfUp
  rw [div_left_inj' (by norm_num)]
  exact Int.cast_inj

/-- The checks accept exactly the totals their own rounding arrives at. -/
theorem checked_iff {n : Int} (covered : s.coverage = s.kwhHeld - s.deficit)
    (stated : s.total = n / 100) : settlementRefusal s = .ok none ↔
      |worth s * 100| < (10 : ℚ) ^ Decimal.precision - 1/2 ∧
        n = halfEven (keep Decimal.precision (worth s) * 100) := by
  have scaled : s.total * 100 = n := by
    rw [stated]
    ring
  rw [settlementRefusal_none,← cents_fit (by decide),scaled,halfEven_int]
  constructor
  · rintro ⟨_,fits,_,same⟩
    refine ⟨fits,?_⟩
    unfold centsHalfEven at same
    rw [scaled,halfEven_int,div_left_inj' (by norm_num)] at same
    exact_mod_cast same
  · rintro ⟨fits,same⟩
    refine ⟨covered,fits,same ▸ fits,?_⟩
    unfold centsHalfEven
    rw [scaled,halfEven_int,same]

/-- A settlement is judged by the rule of round2 exactly when its product does
not fall on half a cent that the context rounds to the other side. -/
theorem settlement_judged (cfg : Config) (books : Books) (payload : Payload) (cycleId : String)
    (s : ImbalanceSettlement) (named : payload.cycleId = some cycleId) (nonempty : cycleId ≠ "")
    (read : settlementOf payload cycleId = some s) (cents : Cents s.total) :
    (¬ Refuses (processImbalanceSettlement cfg books payload) ↔ Correct s) ↔
      (s.coverage = s.kwhHeld - s.deficit → Settles s) := by
  rw [refuses_iff named nonempty read,not_ne_iff]
  by_cases covered : s.coverage = s.kwhHeld - s.deficit
  · obtain ⟨n,stated⟩ := cents_iff.mp cents
    have right : Correct s ↔ n = halfUp (worth s * 100) := by
      unfold Correct centsHalfUp
      rw [stated,div_left_inj' (by norm_num),Int.cast_inj]
      simp [covered]
    have size : |worth s| < 10 ^ 26 - 1/200 ↔ |worth s * 100| < (10 : ℚ) ^ Decimal.precision - 1/2 := by
      rw [abs_mul,abs_of_pos (show (0 : ℚ) < 100 by norm_num)]
      unfold Decimal.precision
      constructor <;> intro h <;> linarith
    rw [checked_iff covered stated,right]
    simp only [covered,forall_const]
    unfold Settles
    split
    · rename_i small
      have fits := size.mp small
      have place : lastPlace Decimal.precision (worth s) + 2 ≤ 0 :=
        (lastPlace_le (by decide)).mpr (by linarith)
      simp only [fits,true_and]
      rw [keep_cents,halfEven_snap_iff place]
      simp only [List.mem_cons,List.not_mem_nil,or_false,forall_eq_or_imp,forall_eq,ne_eq,
        centsHalfEven_eq,cents_diff stated,HalfCent,keep_cents]
    · rename_i large
      rw [size] at large
      simp only [large,false_and,false_iff]
      unfold centsHalfUp
      rw [stated,ne_eq,div_left_inj' (by norm_num),Int.cast_inj]
  · have refused : settlementRefusal s ≠ .ok none := fun h => covered (settlementRefusal_none.mp h).1
    have wrong : ¬ Correct s := fun h => covered h.1
    simp [refused,wrong,covered]

/-- One kWh to cover at a price of 20.125. -/
def stated (total : ℚ) : ImbalanceSettlement where
  settlementId := "settlement-1"
  cycleId := "C1"
  msgId := "80000000-0000-0000-0000-000000000002"
  idpk := "80000000-0000-0000-0000-000000000001"
  kwhHeld := 3
  deficit := 2
  coverage := 1
  pricePerEnergy := 20125 / 1000
  total := total
  balanceAfter := 100

def statement (total : ℚ) : Payload where
  idpk := "80000000-0000-0000-0000-000000000001"
  msgId := "80000000-0000-0000-0000-000000000002"
  type := .imbalanceSettlement
  timestamp := 0
  cycleId := some "C1"
  sender := some "central"
  data := [("settlementId",.str "settlement-1"),("kwhHeld",.int 3),("deficit",.int 2),
    ("coverage",.int 1),("pricePerEnergy",.float (20125 / 1000)),("total",.float total),
    ("balanceAfter",.int 100)]

/-- 20.125 rounds to 20.13, and the handler refuses it. -/
theorem half_cent_refused : settlementOf (statement (2013 / 100)) "C1" = some (stated (2013 / 100)) ∧
    Cents (stated (2013 / 100)).total ∧ Correct (stated (2013 / 100)) ∧
    Refuses (processImbalanceSettlement (.drawing "AAA" []) {} (statement (2013 / 100))) := by
  refine ⟨by rfl,by decide +kernel,?_,?_⟩
  · unfold Correct
    decide +kernel
  · have read : settlementOf (statement (2013 / 100)) "C1" = some (stated (2013 / 100)) := by rfl
    rw [refuses_iff rfl (by decide) read]
    decide +kernel

/-- A total away from the tie is judged rightly. -/
theorem judged_apart :
    (¬ Refuses (processImbalanceSettlement (.drawing "AAA" []) {} (statement 21)) ↔
      Correct (stated 21)) ↔
        ((stated 21).coverage = (stated 21).kwhHeld - (stated 21).deficit → Settles (stated 21)) :=
  settlement_judged (.drawing "AAA" []) {} (statement 21) "C1" (stated 21) rfl (by decide) (by rfl)
    (by decide +kernel)

end SettlementArithmetic

end EnergyNode
