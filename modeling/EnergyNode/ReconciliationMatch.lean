import EnergyNode.LedgerConsistency
import EnergyNode.Node
import EnergyNode.Reconciliation

/-! What a MATCH tells: the statement was read to its end and each of its entries has
a row, no balance moved since the baseline, the ledger rebuilds the cycle, and the
rows of the wallet and the ledger have the same operations with the same amounts. -/
namespace EnergyNode
open Lib

namespace Reconciliation
open WalletStatement

/-! ### The operations of a cycle -/

/-- What an entry of the ledger moves of an asset. -/
def delta (entry : LedgerEntry) : WalletAsset → ℚ
  | .cr => entry.budgetDelta
  | .kwh => entry.energyDelta

/-- The key of an entry of the ledger; most operations belong to the cycle as a whole. -/
def ledgerKey (cycleId : String) (entry : LedgerEntry) (asset : WalletAsset) : Option Key :=
  (localOperation entry.operationType).map fun operation =>
    { operation := operation
      reference := if operation ∈ [.swapSettled,.swapTransport] then entry.idpk else cycleId
      asset := asset }

section Sides
variable (cycleId : String) (wallet : List WalletStatementEntry) (ledger : List LedgerEntry)
  (minted : Option ℚ) (key : Key)

def WalletHas : Prop := ∃ e ∈ wallet, walletKey cycleId e = key

def walletTotal : ℚ := Tally.total (walletKey cycleId) WalletStatementEntry.amount wallet key

def entriesOf : List LedgerEntry :=
  ledger.filter fun e => ledgerKey cycleId e key.asset = some key

def LocalHas : Prop :=
  (∃ e ∈ entriesOf cycleId ledger key, delta e key.asset ≠ 0) ∨
    key = mintKey cycleId ∧ minted.isSome

def localTotal : ℚ :=
  ((entriesOf cycleId ledger key).map (delta · key.asset)).sum +
    if key = mintKey cycleId then minted.getD 0 else 0

/-- Both sides have the same operations, with the same amounts; the wallet has
no entry of another kind. -/
structure Agreement : Prop where
  kinds : ∀ e ∈ wallet, e.kind ∈ kinds.map Prod.fst
  keys : ∀ key, WalletHas cycleId wallet key ↔ LocalHas cycleId ledger minted key
  totals : ∀ key, walletTotal cycleId wallet key = localTotal cycleId ledger minted key

instance : Decidable (WalletHas cycleId wallet key) :=
  inferInstanceAs (Decidable (∃ e ∈ wallet, _))

instance : Decidable (LocalHas cycleId ledger minted key) := inferInstanceAs (Decidable (_ ∨ _))

end Sides

section Amounts
variable {cycleId : String} {wallet : List WalletStatementEntry} {ledger : List LedgerEntry}
  {cycle : Option Cycle} {key : Key}

theorem lookup_walletAmounts : (walletAmounts cycleId wallet).lookup key =
    if WalletHas cycleId wallet key then some (walletTotal cycleId wallet key) else none :=
  Tally.lookup_tally ..

theorem mem_ledgerMoves {entry : LedgerEntry} {move : Key × ℚ} :
    move ∈ ledgerMoves cycleId entry ↔
      ledgerKey cycleId entry move.1.asset = some move.1 ∧
        delta entry move.1.asset = move.2 ∧ move.2 ≠ 0 := by
  obtain ⟨⟨operation,reference,asset⟩,amount⟩ := move
  unfold ledgerMoves ledgerKey
  cases localOperation entry.operationType with
  | none => simp
  | some o =>
    simp only [Option.map_some,List.mem_filter,List.mem_cons,List.not_mem_nil,or_false,
      Prod.mk.injEq,Key.mk.injEq,Option.some.injEq,decide_eq_true_eq]
    cases asset <;> simp only [delta,reduceCtorEq,and_false,false_and,false_or,or_false,and_true]
    all_goals
      constructor
      · rintro ⟨⟨named,rfl⟩,nonzero⟩
        exact ⟨⟨named.1.symm,named.2.symm⟩,rfl,nonzero⟩
      · rintro ⟨named,rfl,nonzero⟩
        exact ⟨⟨⟨named.1.symm,named.2.symm⟩,rfl⟩,nonzero⟩

/-- An entry moves a key by its delta, or not at all. -/
theorem total_ledgerMoves (entry : LedgerEntry) (key : Key) :
    Tally.total Prod.fst Prod.snd (ledgerMoves cycleId entry) key =
      if ledgerKey cycleId entry key.asset = some key then delta entry key.asset else 0 := by
  obtain ⟨operation,reference,asset⟩ := key
  unfold ledgerMoves ledgerKey
  cases localOperation entry.operationType with
  | none => rfl
  | some o =>
    dsimp only [Option.map_some]
    rw [Tally.total_filter_ne_zero,Tally.total_cons,Tally.total_cons,
      Tally.total_of_absent _ _ fun _ h => (List.not_mem_nil h).elim]
    cases asset <;> simp [delta]

theorem lookup_ledgerMoves : (Tally.tally Prod.fst Prod.snd
    (ledger.flatMap (ledgerMoves cycleId))).lookup key =
      if ∃ e ∈ entriesOf cycleId ledger key, delta e key.asset ≠ 0 then
        some ((entriesOf cycleId ledger key).map (delta · key.asset)).sum
      else none := by
  have present : (∃ move ∈ ledger.flatMap (ledgerMoves cycleId), move.1 = key) ↔
      ∃ e ∈ entriesOf cycleId ledger key, delta e key.asset ≠ 0 := by
    constructor
    · rintro ⟨move,hm,rfl⟩
      obtain ⟨e,he,hm⟩ := List.mem_flatMap.mp hm
      obtain ⟨named,moves,nonzero⟩ := mem_ledgerMoves.mp hm
      exact ⟨e,List.mem_filter.mpr ⟨he,decide_eq_true named⟩,moves ▸ nonzero⟩
    · rintro ⟨e,he,nonzero⟩
      obtain ⟨he,named⟩ := List.mem_filter.mp he
      exact ⟨(key,delta e key.asset),List.mem_flatMap.mpr ⟨e,he,
        mem_ledgerMoves.mpr ⟨of_decide_eq_true named,rfl,nonzero⟩⟩,rfl⟩
  have amount : Tally.total Prod.fst Prod.snd (ledger.flatMap (ledgerMoves cycleId)) key =
      ((entriesOf cycleId ledger key).map (delta · key.asset)).sum := by
    rw [Tally.total_flatMap]
    simp only [total_ledgerMoves]
    unfold entriesOf
    rw [List.sum_map_ite]
    simp
  rw [Tally.lookup_tally,amount]
  simp only [present]

theorem localOperation_ne {type : OperationType} :
    localOperation type ≠ some .openingMint ∧ localOperation type ≠ some .walletOnly := by
  cases type <;> exact ⟨by decide,by decide⟩

/-- The ledger itself mints nothing. -/
theorem entriesOf_mint : entriesOf cycleId ledger (mintKey cycleId) = [] := by
  refine List.filter_eq_nil_iff.mpr fun e _ => ?_
  rw [decide_eq_true_eq]
  intro named
  obtain ⟨o,ho,key⟩ := Option.map_eq_some_iff.mp named
  exact localOperation_ne.1 (ho.trans (congrArg some (Key.mk.inj key).1))

theorem lookup_localAmounts : (localAmounts cycleId ledger cycle).lookup key =
    if LocalHas cycleId ledger (cycle.bind sellable) key then
      some (localTotal cycleId ledger (cycle.bind sellable) key)
    else none := by
  unfold localAmounts
  cases cycle.bind sellable with
  | none =>
    dsimp only
    rw [lookup_ledgerMoves]
    exact if_congr (by simp [LocalHas]) (by simp [localTotal]) rfl
  | some minted =>
    dsimp only
    by_cases mint : key = mintKey cycleId
    · subst mint
      rw [AList.lookup_insert,if_pos (.inr ⟨rfl,rfl⟩)]
      unfold localTotal
      rw [entriesOf_mint]
      simp
    · rw [AList.lookup_insert_ne mint,lookup_ledgerMoves]
      exact if_congr (by simp [LocalHas,mint]) (by simp [localTotal,mint]) rfl

theorem walletTotal_of_absent (absent : ¬ WalletHas cycleId wallet key) :
    walletTotal cycleId wallet key = 0 :=
  Tally.total_of_absent _ _ fun e he named => absent ⟨e,he,named⟩

theorem localTotal_of_absent {minted : Option ℚ} (absent : ¬ LocalHas cycleId ledger minted key) :
    localTotal cycleId ledger minted key = 0 := by
  have still : ∀ d ∈ (entriesOf cycleId ledger key).map (delta · key.asset), d = 0 := by
    intro d hd
    obtain ⟨e,he,rfl⟩ := List.mem_map.mp hd
    by_contra moved
    exact absent (.inl ⟨e,he,moved⟩)
  unfold localTotal
  rw [List.sum_eq_zero still,zero_add]
  by_cases mint : key = mintKey cycleId
  · cases minted with
    | none => simp
    | some q => exact absurd (.inr ⟨mint,rfl⟩) absent
  · rw [if_neg mint]

/-- A key both sides have with the same amount, and that is not the wallet's own. -/
theorem operationStatus_agrees {operation : Operation} {w l : Option ℚ} :
    operationStatus operation w l = .agrees ↔
      operation ≠ .walletOnly ∧ ∃ q, w = some q ∧ l = some q := by
  unfold operationStatus
  by_cases own : operation = .walletOnly
  · simp [own]
  · cases w with
    | none => simp [own]
    | some w =>
      cases l with
      | none => simp [own]
      | some l => by_cases same : w = l <;> simp [own,same,eq_comm]

theorem operationOf_ne {kind : String} :
    operationOf kind ≠ .walletOnly ↔ kind ∈ kinds.map Prod.fst := by
  constructor
  · intro known
    by_contra other
    have missing : kinds.lookup kind = none := by
      rw [List.lookup_eq_none_iff]
      intro p hp
      rw [bne_iff_ne]
      rintro rfl
      exact other (List.mem_map_of_mem hp)
    exact known (by rw [operationOf,missing]; rfl)
  · intro known
    simp only [kinds,List.map_cons,List.map_nil,List.mem_cons,List.not_mem_nil,or_false] at known
    rcases known with rfl | rfl | rfl | rfl | rfl | rfl | rfl | rfl <;> decide

/-- The keys of a statement and a ledger all agree exactly when the two do. -/
theorem agreement_iff :
    (∀ key ∈ Tally.allKeys (walletAmounts cycleId wallet) (localAmounts cycleId ledger cycle),
      operationStatus key.operation ((walletAmounts cycleId wallet).lookup key)
        ((localAmounts cycleId ledger cycle).lookup key) = .agrees) ↔
      Agreement cycleId wallet ledger (cycle.bind sellable) := by
  simp only [Tally.mem_allKeys,← AList.lookup_isSome,lookup_walletAmounts,lookup_localAmounts,
    operationStatus_agrees]
  constructor
  · intro all
    have both {key : Key} (here : WalletHas cycleId wallet key ∨
        LocalHas cycleId ledger (cycle.bind sellable) key) :
        key.operation ≠ .walletOnly ∧ WalletHas cycleId wallet key ∧
          LocalHas cycleId ledger (cycle.bind sellable) key ∧
          walletTotal cycleId wallet key = localTotal cycleId ledger (cycle.bind sellable) key := by
      obtain ⟨known,q,w,l⟩ := all key (here.imp (by simp +contextual) (by simp +contextual))
      obtain ⟨has,w⟩ := Option.ite_none_right_eq_some.mp w
      obtain ⟨has',l⟩ := Option.ite_none_right_eq_some.mp l
      exact ⟨known,has,has',Option.some.inj (w.trans l.symm)⟩
    refine ⟨fun e he => ?_,fun key => ?_,fun key => ?_⟩
    · exact operationOf_ne.mp (both (.inl ⟨e,he,rfl⟩)).1
    · exact ⟨fun h => (both (.inl h)).2.2.1,fun h => (both (.inr h)).2.1⟩
    · by_cases here : WalletHas cycleId wallet key ∨ LocalHas cycleId ledger (cycle.bind sellable) key
      · exact (both here).2.2.2
      · rw [walletTotal_of_absent fun h => here (.inl h),localTotal_of_absent fun h => here (.inr h)]
  · intro agree key here
    have has : WalletHas cycleId wallet key := by
      rcases here with here | here
      · by_contra absent
        rw [if_neg absent] at here
        cases here
      · by_contra absent
        rw [if_neg fun h => absent ((agree.keys key).mpr h)] at here
        cases here
    have ⟨e,he,named⟩ := has
    refine ⟨?_,walletTotal cycleId wallet key,if_pos has,?_⟩
    · rw [← named]
      exact operationOf_ne.mpr (agree.kinds e he)
    · rw [if_pos ((agree.keys key).mp has),agree.totals key]

end Amounts

/-! ### The verdict -/

theorem availableStatus_agrees {c : BaselineComparison} : c.availableStatus = .agrees ↔
    (c.cr.unexplained.isZero ∧ c.kwh.unexplained.isZero) ∧ c.cr.explained = 0 ∧ c.kwh.explained = 0 := by
  unfold BaselineComparison.availableStatus
  by_cases both : c.cr.unexplained.isZero ∧ c.kwh.unexplained.isZero
  · rw [if_pos both]
    by_cases none_ : c.cr.explained = 0 ∧ c.kwh.explained = 0
    · simp [both,none_]
    · simp [none_]
  · simp [both]

theorem baselineStatus_agrees {c : BaselineComparison} : c.status = .agrees ↔
    c.availableStatus = .agrees ∧ c.crHeldDifference.isZero ∧ c.kwhHeldDifference.isZero := by
  unfold BaselineComparison.status
  by_cases held : c.crHeldDifference.isZero ∧ c.kwhHeldDifference.isZero
  · rw [if_neg (by simp [held]),and_iff_left held]
  · rw [if_pos (by simpa using not_and_or.mp held)]
    cases c.anyPendingSwap <;> by_cases agrees : c.availableStatus = .agrees <;> simp [held,agrees]

/-- No branch gives the status back that an earlier one took. -/
theorem Explanation.localStatus_agrees {e : Explanation} {status : ReconciliationStatus}
    (based : status = .agrees → e.baseline.isSome) (h : e.localStatus status = .agrees) :
    status = .agrees ∧ e.localEvidence.mismatch = false ∧
      ¬ (e.localEvidence.pending ∨ e.statementComplete = false ∨ e.officialAsOfValid = false ∨
        e.baseline.any (·.snapshot.walletAsOf.isNone)) := by
  unfold Explanation.localStatus at h
  by_cases confirmed : e.localEvidence.mismatch ∧
      (e.baseline.isSome ∨ e.localEvidence.lastClose.isSome)
  · rw [if_pos confirmed] at h
    cases h
  rw [if_neg confirmed] at h
  by_cases mismatch : e.localEvidence.mismatch = true
  · rw [if_pos mismatch] at h
    exact absurd ⟨mismatch,.inl (based h)⟩ confirmed
  rw [if_neg mismatch] at h
  split at h
  · cases h
  · rename_i clear
    exact ⟨h,Bool.not_eq_true _ ▸ mismatch,fun doubt => clear ⟨doubt,h⟩⟩

theorem Explanation.status_agrees {e : Explanation} (h : e.status = .agrees) :
    ∃ c, e.baseline = some c ∧ c.status = .agrees ∧ c.snapshot.walletAsOf.isSome ∧
      e.localEvidence.cyclePresent ∧ e.localEvidence.mismatch = false ∧
      e.localEvidence.pending = false ∧ e.statementComplete ∧ e.officialAsOfValid := by
  unfold Explanation.status at h
  dsimp only at h
  split at h
  · cases h
  rename_i present
  have based : (e.baseline.map BaselineComparison.status).getD .noLocalBaseline = .agrees →
      e.baseline.isSome := by
    cases e.baseline with
    | none =>
      intro absent
      cases absent
    | some c => exact fun _ => rfl
  obtain ⟨agrees,mismatch,clear⟩ := Explanation.localStatus_agrees based h
  obtain ⟨c,hc⟩ := Option.isSome_iff_exists.mp (based agrees)
  rw [hc] at agrees clear
  simp only [not_or,Bool.not_eq_true,Bool.not_eq_false,Option.any_some,Option.isNone_eq_false_iff] at clear
  refine ⟨c,hc,agrees,clear.2.2.2,?_,mismatch,clear.1,clear.2.1,clear.2.2.1⟩
  by_contra absent
  exact present ⟨Bool.not_eq_true _ ▸ absent,h⟩

/-! ### The baseline -/

section Baseline
variable {db : Db} {statement : Entries} {balance : WalletBalanceResponse} {asOf : Instant}
  {baseline : BalanceSnapshot} {snapshots : List BalanceSnapshot}

/-- Nothing moved between a baseline and the official balance. -/
structure Unmoved (statement : Entries) (balance : WalletBalanceResponse) (baseline : BalanceSnapshot)
    (asOf : Instant) : Prop where
  crAvailable : ∃ q, balance.crAvailable = .finite q ∧ baseline.crAvailable = .finite q
  crHeld : ∃ q, balance.crHeld = .finite q ∧ baseline.crHeld = .finite q
  kwhAvailable : ∃ q, balance.kwhAvailable = .finite q ∧ baseline.kwhAvailable = .finite q
  kwhHeld : ∃ q, balance.kwhHeld = .finite q ∧ baseline.kwhHeld = .finite q
  between (asset : WalletAsset) :
    sumStatement (statementBetween statement (BalanceSnapshot.eventTime baseline) asOf) asset = 0

theorem compare_agrees {wallet own : Decimal} {explained : ℚ}
    (unexplained : (compare wallet own explained).unexplained.isZero) (none_ : explained = 0) :
    ∃ q, wallet = .finite q ∧ own = .finite q := by
  obtain ⟨q,difference,same⟩ := Decimal.sub_isZero.mp unexplained
  rw [none_] at same
  cases same
  exact Decimal.sub_isZero.mp (by rw [difference]; rfl)

theorem unmoved_of_status (h : (baselineComparison db statement balance asOf baseline).status =
    .agrees) : Unmoved statement balance baseline asOf := by
  obtain ⟨available,crHeld,kwhHeld⟩ := baselineStatus_agrees.mp h
  obtain ⟨⟨cr,kwh⟩,crNone,kwhNone⟩ := availableStatus_agrees.mp available
  exact {
    crAvailable := compare_agrees cr crNone
    crHeld := Decimal.sub_isZero.mp crHeld
    kwhAvailable := compare_agrees kwh kwhNone
    kwhHeld := Decimal.sub_isZero.mp kwhHeld
    between := fun asset => by
      cases asset with
      | cr => exact crNone
      | kwh => exact kwhNone }

/-- The baseline is an event, and no later one is known. -/
theorem latestEventSnapshot_spec (h : latestEventSnapshot snapshots asOf = some baseline) :
    (baseline ∈ snapshots ∧ baseline.source = .event ∧ BalanceSnapshot.eventTime baseline ≤ asOf) ∧
      ∀ s ∈ snapshots, s.source = .event → BalanceSnapshot.eventTime s ≤ asOf →
        BalanceSnapshot.eventTime s ≤ BalanceSnapshot.eventTime baseline := by
  have total : Std.Total fun a b : BalanceSnapshot =>
      BalanceSnapshot.eventTime b ≤ BalanceSnapshot.eventTime a := ⟨fun a b => le_total _ _⟩
  have trans : IsTrans BalanceSnapshot fun a b =>
      BalanceSnapshot.eventTime b ≤ BalanceSnapshot.eventTime a := ⟨fun _ _ _ p q => q.trans p⟩
  obtain ⟨mem,latest⟩ := head?_insertionSort _ h
  simp only [List.mem_filter,List.mem_reverse,decide_eq_true_eq] at mem latest
  exact ⟨mem,fun s hs event early => latest s ⟨hs,event,early⟩⟩

end Baseline

/-! ### The cycle -/

section Cycle
variable {db : Db} {statement : Entries} {balance : WalletBalanceResponse} {asOf : Instant}
  {cycleId : Option String} {k : String} {c : Cycle}

/-- The ledger of a known cycle rebuilds its balances. -/
theorem validate_of_consistent (found : db.books.cycles.get? k = some c)
    (consistent : (materialization c (cycleLedger db.books k)).consistent = true) :
    Ledger.validateCycleConsistency db.books k = .ok (c.budgetBalance,c.energyBalance) := by
  unfold Materialization.consistent materialization cycleLedger at consistent
  rw [Bool.and_eq_true,decide_eq_true_eq,decide_eq_true_eq,
    ((List.perm_insertionSort _ _).map LedgerEntry.budgetDelta).sum_eq,
    ((List.perm_insertionSort _ _).map LedgerEntry.energyDelta).sum_eq] at consistent
  unfold Ledger.validateCycleConsistency
  rw [found]
  dsimp only
  rw [LedgerConsistency.rebuildCycleBalances_eq found]
  rw [Fallible.ok_bind]
  dsimp only
  rw [show c.openingBudgetBalance + Ledger.budgetTotal id db.books k = c.budgetBalance
    from consistent.1,show c.openingEnergyBalance +
      Ledger.energyTotal id db.books k = c.energyBalance from consistent.2]
  rw [if_neg (by simp)]
  rfl

/-- Nothing is pending and nothing differs: every operation agrees. -/
theorem Evidence.agrees {evidence : Evidence} (mismatch : evidence.mismatch = false)
    (pending : evidence.pending = false) {o : OperationEvidence} (ho : o ∈ evidence.operations) :
    o.status = .agrees := by
  unfold Evidence.mismatch at mismatch
  simp only [Bool.or_eq_false_iff] at mismatch
  have sure := List.any_eq_false.mp mismatch.1.1.1 o ho
  have known := List.any_eq_false.mp pending o ho
  cases status : o.status <;> simp [status] at sure known
  rfl

theorem operationEvidence_spec
    (present : (operationEvidence db statement cycleId asOf balance).cyclePresent = true)
    (mismatch : (operationEvidence db statement cycleId asOf balance).mismatch = false)
    (pending : (operationEvidence db statement cycleId asOf balance).pending = false) :
    ∃ k c, cycleId = some k ∧ db.books.cycles.get? k = some c ∧
      Ledger.validateCycleConsistency db.books k = .ok (c.budgetBalance,c.energyBalance) ∧
      Agreement k (cycleStatement statement k asOf) (cycleLedger db.books k) (sellable c) := by
  cases cycleId with
  | none => cases present
  | some k =>
    obtain ⟨c,found⟩ := Option.isSome_iff_exists.mp present
    have agree : ∀ key ∈ Tally.allKeys (walletAmounts k (cycleStatement statement k asOf))
        (localAmounts k (cycleLedger db.books k) (db.books.cycles.get? k)),
        operationStatus key.operation
          ((walletAmounts k (cycleStatement statement k asOf)).lookup key)
          ((localAmounts k (cycleLedger db.books k) (db.books.cycles.get? k)).lookup key) =
            .agrees := by
      intro key hk
      have listed : evidenceOf db k (cycleStatement statement k asOf)
          (walletAmounts k (cycleStatement statement k asOf))
          (localAmounts k (cycleLedger db.books k) (db.books.cycles.get? k)) key ∈
            (operationEvidence db statement (some k) asOf balance).operations :=
        List.mem_map_of_mem ((List.mem_insertionSort Key.before).mpr hk)
      exact Evidence.agrees mismatch pending listed
    have agreement := agreement_iff.mp agree
    rw [found] at agreement
    refine ⟨k,c,rfl,found,validate_of_consistent found ?_,agreement⟩
    unfold Evidence.mismatch at mismatch
    simp only [Bool.or_eq_false_iff] at mismatch
    have ledger := mismatch.1.1.2
    change (Option.any _ ((db.books.cycles.get? k).map _)) = false at ledger
    rw [found] at ledger
    simpa using ledger

end Cycle

/-! ### The reconciliation -/

/-- What a MATCH is about: the official balance with its instant, the event it
is compared with, the pages of the statement, and the cycle. -/
structure Basis where
  balance : WalletBalanceResponse
  asOf : Instant
  baseline : BalanceSnapshot
  instant : Instant
  pages : List WalletStatementPage
  cycle : Cycle

/-- What a MATCH tells of it. -/
structure Basis.Sound (b : Basis) (cfg : Config) (answers : WalletAnswers) (before : Entries)
    (db : Db) (snapshots : List BalanceSnapshot) (statement : Entries) : Prop where
  balance : getBalance cfg.cityId answers.balance = .ok b.balance
  asOf : parseInstant b.balance.timestamp = some b.asOf
  event : b.baseline ∈ snapshots ∧ b.baseline.source = .event
  official : b.baseline.walletAsOf = some b.instant ∧ b.instant ≤ b.asOf
  latest (s : BalanceSnapshot) : s ∈ snapshots → s.source = .event →
    BalanceSnapshot.eventTime s ≤ b.asOf → BalanceSnapshot.eventTime s ≤ b.instant
  unmoved : Unmoved statement b.balance b.baseline b.asOf
  whole : Whole answers.pages 0 none b.pages
  stored : Stores before (b.pages.flatMap WalletStatementPage.entries) statement
  cycle : db.books.cycles.get? b.cycle.cycleId = some b.cycle
  ledger : Ledger.validateCycleConsistency db.books b.cycle.cycleId =
    .ok (b.cycle.budgetBalance,b.cycle.energyBalance)
  agreement : Agreement b.cycle.cycleId (cycleStatement statement b.cycle.cycleId b.asOf)
    (cycleLedger db.books b.cycle.cycleId) (sellable b.cycle)

section Reconcile
variable {cfg : Config} {accounts after : Accounts} {cycleId : Option String}
  {answers : WalletAnswers} {now : Instant} {report : WalletReconciliation}

theorem match_sound (h : reconcileWallet cfg accounts cycleId answers now = .ok (after,report))
    (matched : report.status = .agrees) :
    ∃ b : Basis, report.cycleId = some b.cycle.cycleId ∧
      b.Sound cfg answers accounts.statement after.db after.snapshots after.statement := by
  obtain ⟨r,hr,h⟩ := Fallible.bind_ok.mp h
  obtain ⟨target,_,h⟩ := Fallible.bind_ok.mp h
  cases Fallible.pure_ok.mp h
  obtain ⟨balance,hb,hr⟩ := Fallible.bind_ok.mp hr
  obtain ⟨fetched,hf,hr⟩ := Fallible.bind_ok.mp hr
  obtain ⟨⟨statement,created⟩,hs,hr⟩ := Fallible.bind_ok.mp hr
  cases Fallible.pure_ok.mp hr
  obtain ⟨c,hc,status,official,present,mismatch,pending,complete,valid⟩ :=
    Explanation.status_agrees matched
  obtain ⟨asOf,parsed⟩ := Option.isSome_iff_exists.mp valid
  have clock : Read.walletAsOf ⟨balance,fetched,statement,created⟩ now = asOf := by
    change (parseInstant balance.timestamp).getD now = asOf
    rw [show parseInstant balance.timestamp = some asOf from parsed]
    rfl
  obtain ⟨baseline,latest,rfl⟩ := Option.map_eq_some_iff.mp hc
  obtain ⟨instant,at_⟩ := Option.isSome_iff_exists.mp official
  have time : BalanceSnapshot.eventTime baseline = instant := by
    change baseline.walletAsOf.getD _ = instant
    rw [show baseline.walletAsOf = some instant from at_]
    rfl
  rw [clock] at latest status
  obtain ⟨⟨mem,event,early⟩,others⟩ := latestEventSnapshot_spec latest
  obtain ⟨k,cycle,rfl,found,ledger,agreement⟩ :=
    operationEvidence_spec present mismatch pending
  obtain rfl := Table.key_of_get? found
  obtain ⟨pages,whole,entries⟩ := fetchPages_whole hf complete
  rw [clock] at agreement
  refine ⟨⟨balance,asOf,baseline,instant,pages,cycle⟩,rfl,?_⟩
  exact {
    balance := hb
    asOf := parsed
    event := ⟨mem,event⟩
    official := ⟨at_,time ▸ early⟩
    latest := fun s hs e le => time ▸ others s hs e le
    unmoved := unmoved_of_status status
    whole := whole
    stored := by
      rw [← List.nil_append (pages.flatMap _),← entries]
      exact storeStatementEntries_spec hs
    cycle := found
    ledger := ledger
    agreement := agreement }

end Reconcile

/-! ### A cycle with one sale -/

def sold : Cycle where
  cycleId := "C1"
  statusIdpk := some "85000000-0000-0000-0000-000000000001"
  statusPayload := [("energy",.obj [("sellable",.int 100)])]
  openingBudgetBalance := 500
  openingEnergyBalance := 100
  budgetBalance := 575
  energyBalance := 90

def posted (sequenceNo : Int) (type : OperationType) (budget energy : ℚ) : LedgerEntry where
  cycleId := "C1"
  sequenceNo := sequenceNo
  operationType := type
  idpk := "s1"
  sourceMsgId := none
  negotiationId := none
  budgetDelta := budget
  energyDelta := energy
  budgetAfter := 0
  energyAfter := 0

def settledSnapshot : WalletBalanceSnapshot where
  cycleId := some "C1"
  sourceSwapId := some "s1"
  walletAsOf := some 0
  kwhAvailable := .finite 90
  kwhHeld := .finite 0
  crAvailable := .finite 575
  crHeld := .finite 0

/-- The sale settled and its transport was charged. -/
def afterSale : Accounts where
  db := {
    books := {
      cycles := ⟨[sold],List.nodup_singleton _⟩
      ledger := [posted 1 .swapSettled 80 (-10),posted 2 .swapTransport (-5) 0] }
    snapshots := [settledSnapshot] }
  snapshots := [{ settledSnapshot with source := .event, recordedAt := 0 }]

def wire (entryId asset kind reference : String) (amount : Int) (createdAt : String) : Json :=
  .obj [("entryId",.str entryId),("cycleId",.str "C1"),("asset",.str asset),("kind",.str kind),
    ("amount",.int amount),("reference",.str reference),("createdAt",.str createdAt)]

def opening : List Json :=
  [wire "e1" "KWH" "mint" "m1" 100 "1970-01-01T00:00:00Z",
    wire "e2" "CR" "swap" "s1" 80 "1970-01-01T00:00:00Z",
    wire "e3" "KWH" "swap" "s1" (-10) "1970-01-01T00:00:00Z",
    wire "e4" "CR" "transport" "s1" (-5) "1970-01-01T00:00:00Z"]

/-- The wallet shows the same balances a minute later, and these entries. -/
def answering (entries : List Json) : WalletAnswers where
  balance := .ok (.obj [("cityId",.str "AAA"),("asOf",.str "1970-01-01T00:01:00Z"),
    ("assets",.obj [
      ("KWH",.obj [("available",.int 90),("held",.int 0)]),
      ("CR",.obj [("available",.int 575),("held",.int 0),("creditLine",.int 0)])])])
  pages _ _ := .ok (.obj [("entries",.arr entries)])

def city : Config := (Node.offline "AAA" []).cfg

theorem sale_sound : ∃ after report,
    reconcileWallet city afterSale none (answering opening) 0 = .ok (after,report) ∧
      report.status = .agrees ∧ ∃ b : Basis, report.cycleId = some b.cycle.cycleId ∧
        b.Sound city (answering opening) afterSale.statement after.db after.snapshots
          after.statement := by
  have run : ((reconcileWallet city afterSale none (answering opening) 0).toOption.map
      fun p => p.2.status) = some .agrees := by decide +kernel
  cases h : reconcileWallet city afterSale none (answering opening) 0 with
  | error e =>
    rw [h] at run
    cases run
  | ok p =>
    rw [h] at run
    have matched : p.2.status = .agrees := Option.some.inj run
    exact ⟨p.1,p.2,rfl,matched,match_sound h matched⟩

/-- The wallet corrected the cycle a minute after the instant of the balance. -/
def corrected : List Json :=
  opening ++ [wire "e5" "CR" "correction" "x1" (-1) "1970-01-01T00:02:00Z"]

/-- An entry of another kind after the instant of the balance does not prevent a MATCH,
and entries that were read once count when the wallet shows none of them any more. -/
theorem later_entry_unseen :
    (∃ after report, reconcileWallet city afterSale none (answering corrected) 0 = .ok (after,report) ∧
      report.status = .agrees ∧
        ∃ e ∈ after.statement, e.cycleId = report.cycleId ∧ e.kind ∉ kinds.map Prod.fst) ∧
    ∃ first shown after report,
      reconcileWallet city afterSale none (answering opening) 0 = .ok (first,shown) ∧
        reconcileWallet city first none (answering []) 0 = .ok (after,report) ∧
          report.status = .agrees := by
  constructor
  · have run : ((reconcileWallet city afterSale none (answering corrected) 0).toOption.map
        fun p => (p.2.status,p.2.cycleId,(p.1.statement.rows.filter fun e =>
          e.cycleId = p.2.cycleId ∧ e.kind ∉ kinds.map Prod.fst).length)) =
            some (.agrees,some "C1",1) := by decide +kernel
    cases h : reconcileWallet city afterSale none (answering corrected) 0 with
    | error e =>
      rw [h] at run
      cases run
    | ok p =>
      rw [h] at run
      obtain ⟨status,rest⟩ := Prod.mk.inj (Option.some.inj run)
      obtain ⟨e,he⟩ := List.exists_mem_of_length_pos (Nat.lt_of_lt_of_eq Nat.one_pos
        (Prod.mk.inj rest).2.symm)
      obtain ⟨mem,found⟩ := List.mem_filter.mp he
      exact ⟨p.1,p.2,rfl,status,e,mem,of_decide_eq_true found⟩
  · have run : ((reconcileWallet city afterSale none (answering opening) 0).toOption.bind
        fun p => (reconcileWallet city p.1 none (answering []) 0).toOption.map fun q =>
          q.2.status) = some .agrees := by decide +kernel
    cases h : reconcileWallet city afterSale none (answering opening) 0 with
    | error e =>
      rw [h] at run
      cases run
    | ok p =>
      rw [h] at run
      dsimp only [Except.toOption,Option.bind_some] at run
      cases g : reconcileWallet city p.1 none (answering []) 0 with
      | error e =>
        rw [g] at run
        cases run
      | ok q =>
        rw [g] at run
        exact ⟨p.1,p.2,q.1,q.2,rfl,g,Option.some.inj run⟩

end Reconciliation

end EnergyNode
