import EnergyNode.CycleMetricRuns

/-! The row of a closed cycle as the figures of its facts. -/
namespace EnergyNode
open Lib

namespace CycleMetrics
open Ledger StoredLedger CycleAccounting

/-! ### Entries and facts -/

/-- A way to select entries that only looks at those of facts. -/
structure Selects (select : LedgerEntry → Bool) : Prop where
  plain : ∀ e, select (plain e) = select e
  counted : ∀ e, select e → counted e.operationType

theorem buyerSwap_reads (e : LedgerEntry) (h : buyerSwap e) : e.operationType = .swapSettled ∧
    e.details.give = some .cr ∧ e.details.take = some .kwh := by
  simp only [buyerSwap,Bool.and_eq_true,decide_eq_true_eq] at h
  exact ⟨h.1.1.1.1,h.1.1.1.2,h.1.1.2⟩

theorem sellerSwap_reads (e : LedgerEntry) (h : sellerSwap e) : e.operationType = .swapSettled ∧
    e.details.give = some .kwh ∧ e.details.take = some .cr := by
  simp only [sellerSwap,Bool.and_eq_true,decide_eq_true_eq] at h
  exact ⟨h.1.1.1,h.1.1.2,h.1.2⟩

theorem buyerTransport_reads (e : LedgerEntry) (h : buyerTransport e) :
    e.operationType = .swapTransport := by
  simp only [buyerTransport,Bool.and_eq_true,decide_eq_true_eq] at h
  exact h.1

theorem imbalance_reads (e : LedgerEntry) (h : imbalance e) :
    e.operationType = .imbalanceSettlement := by
  simpa [imbalance] using h

theorem buyerSwap_selects : Selects buyerSwap where
  plain _ := rfl
  counted e h := by
    rw [(buyerSwap_reads e h).1]
    rfl

theorem sellerSwap_selects : Selects sellerSwap where
  plain _ := rfl
  counted e h := by
    rw [(sellerSwap_reads e h).1]
    rfl

theorem buyerTransport_selects : Selects buyerTransport where
  plain _ := rfl
  counted e h := by
    rw [buyerTransport_reads e h]
    rfl

theorem imbalance_selects : Selects imbalance where
  plain _ := rfl
  counted e h := by
    rw [imbalance_reads e h]
    rfl

section Entries
variable {db : Db} {k : String} {select : LedgerEntry → Bool} {β : Type} {g : LedgerEntry → β}

/-- What is selected of the cycle stands among what the ledger notes. -/
theorem selected_noted (selects : Selects select) (reads : ∀ e, g (plain e) = g e) :
    ((ledgerOf db k).filter select).map g =
      (((noted db.books.ledger).filter fun e => e.cycleId = k).filter select).map g := by
  unfold ledgerOf noted
  rw [List.filter_map,List.filter_map,List.map_map,List.filter_filter,List.filter_filter,
    List.filter_filter]
  rw [show g ∘ plain = g from funext reads]
  congr 1
  apply List.filter_congr
  intro e _
  simp only [Function.comp_apply,selects.plain]
  rw [show (plain e).cycleId = e.cycleId from rfl]
  cases sel : select e with
  | false => simp
  | true => simp [selects.counted e sel]

/-- The entries of the told facts, part by part. -/
theorem selected_facts {γ : Type} {facts : List Fact} (part : Fact → Option γ)
    (entry : γ → LedgerEntry) (own : ∀ f ∈ facts, f.entry.filter select = (part f).map entry) :
    (facts.filterMap Fact.entry).filter select = (facts.filterMap part).map entry := by
  rw [List.filter_filterMap,List.map_filterMap]
  apply List.filterMap_congr
  intro f hf
  exact own f hf

end Entries

/-! The entry of each kind of fact. -/

def bill (r : SwapRecord) : LedgerEntry := written (swapEffect r (-r.giveAmount,r.takeAmount))

def sold (r : SwapRecord) : LedgerEntry := written (swapEffect r (r.takeAmount,-r.giveAmount))

section Kinds
variable {k : String} {f : Fact}

/-- An entry of a swap with other assets is not selected. -/
theorem swap_unselected {record : SwapRecord} {give take : Asset} {select : LedgerEntry → Bool}
    (reads : ∀ e, select e → e.details.give = some give ∧ e.details.take = some take)
    (other : ¬ (record.giveAsset = give ∧ record.takeAsset = take)) :
    (Fact.settled record).entry.filter select = none := by
  rw [Option.filter_eq_none_iff]
  intro e he sel
  obtain ⟨effect,posts,rfl⟩ := Option.map_eq_some_iff.mp he
  obtain ⟨d,_,rfl⟩ := Option.map_eq_some_iff.mp posts
  obtain ⟨given,taken⟩ := reads _ sel
  exact other ⟨Option.some_inj.mp given,Option.some_inj.mp taken⟩

theorem unselected {select : LedgerEntry → Bool} {type : OperationType}
    (reads : ∀ e, select e → e.operationType = type) (other : f.key.1 ≠ type) :
    f.entry.filter select = none := by
  rw [Option.filter_eq_none_iff]
  intro e he sel
  apply other
  rw [← key_of_entry he]
  exact reads e sel

theorem purchase_entry (valid : f.Valid k) :
    f.entry.filter buyerSwap = f.purchase?.map bill := by
  cases f with
  | settled record =>
    by_cases own : record.giveAsset = .cr ∧ record.takeAsset = .kwh
    · have deltas : assetEffects record = some (-record.giveAmount,record.takeAmount) := by
        unfold assetEffects
        rw [own.1,own.2]
        simp [legEffect]
      obtain ⟨_,given,taken⟩ := valid
      rw [own.1] at given
      rw [own.2] at taken
      obtain ⟨n,positive,amount⟩ := taken
      have entry : (Fact.settled record).entry = some (bill record) := by
        simp only [Fact.entry,Fact.effect,deltas,Option.map_some]
        rfl
      have part : (Fact.settled record).purchase? = some record := if_pos own
      have selected : buyerSwap (bill record) = true := by
        have energy : 0 < record.takeAmount := by
          rw [amount]
          exact_mod_cast positive
        have budget : -record.giveAmount ≤ 0 := by linarith [given.1]
        unfold buyerSwap bill written swapEffect
        simp [own,energy,budget]
      rw [entry,part,Option.filter_some,if_pos selected,Option.map_some]
    · rw [swap_unselected (fun e h => (buyerSwap_reads e h).2) own,
        show (Fact.settled record).purchase? = none from if_neg own]
      rfl
  | trade t => exact unselected (fun e h => (buyerSwap_reads e h).1) (by simp [Fact.key])
  | settlement s => exact unselected (fun e h => (buyerSwap_reads e h).1) (by simp [Fact.key])

theorem sale_entry (valid : f.Valid k) : f.entry.filter sellerSwap = f.sale?.map sold := by
  cases f with
  | settled record =>
    by_cases own : record.giveAsset = .kwh ∧ record.takeAsset = .cr
    · have deltas : assetEffects record = some (record.takeAmount,-record.giveAmount) := by
        unfold assetEffects
        rw [own.1,own.2]
        simp [legEffect]
      obtain ⟨_,_,taken⟩ := valid
      rw [own.2] at taken
      have entry : (Fact.settled record).entry = some (sold record) := by
        simp only [Fact.entry,Fact.effect,deltas,Option.map_some]
        rfl
      have part : (Fact.settled record).sale? = some record := if_pos own
      have selected : sellerSwap (sold record) = true := by
        have budget : 0 ≤ record.takeAmount := taken.1
        unfold sellerSwap sold written swapEffect
        simp [own,budget]
      rw [entry,part,Option.filter_some,if_pos selected,Option.map_some]
    · rw [swap_unselected (fun e h => (sellerSwap_reads e h).2) own,
        show (Fact.settled record).sale? = none from if_neg own]
      rfl
  | trade t => exact unselected (fun e h => (sellerSwap_reads e h).1) (by simp [Fact.key])
  | settlement s => exact unselected (fun e h => (sellerSwap_reads e h).1) (by simp [Fact.key])

theorem transport_entry (f : Fact) : f.entry.filter buyerTransport =
    f.buyerTrade?.map fun t => written (transportEffect t) := by
  cases f with
  | settled record => exact unselected buyerTransport_reads (by simp [Fact.key])
  | settlement s => exact unselected buyerTransport_reads (by simp [Fact.key])
  | trade t =>
    unfold Fact.entry Fact.effect Fact.buyerTrade?
    dsimp only
    by_cases own : t.role = .buyer
    · have selected : buyerTransport (written (transportEffect t)) = true := by
        unfold buyerTransport written transportEffect
        simp [own]
      rw [if_pos own,if_pos own,Option.map_some,Option.map_some,Option.filter_some,if_pos selected]
    · rw [if_neg own,if_neg own]
      rfl

theorem imbalance_entry (f : Fact) : f.entry.filter imbalance =
    f.settlement?.map fun s => written (settlementEffect s) := by
  cases f with
  | settled record => exact unselected imbalance_reads (by simp [Fact.key])
  | trade t => exact unselected imbalance_reads (by simp [Fact.key])
  | settlement s => rfl

end Kinds

/-! ### The ledger of a cycle -/

section Ledgers
variable {base db : Db} {k : String} {facts told : List Fact} {cycle : Cycle}
  {strategy : StrategyConfig}

theorem cycle_of_entry {f : Fact} {e : LedgerEntry} (he : f.entry = some e) :
    e.cycleId = f.cycleId := by
  obtain ⟨effect,posts,rfl⟩ := Option.map_eq_some_iff.mp he
  cases f with
  | settled record =>
    obtain ⟨d,_,rfl⟩ := Option.map_eq_some_iff.mp posts
    rfl
  | trade t =>
    have own : (if t.role = .buyer then some (transportEffect t) else none) = some effect := posts
    split at own <;> cases own
    rfl
  | settlement s =>
    cases posts
    rfl

/-- Everything counted that the ledger notes of the cycle is an entry of a fact. -/
theorem noted_cycle (held : Holds base.books db.books told)
    (ready : Ready base k facts cycle strategy) (valid : ∀ f ∈ told, f.Valid k) :
    (noted db.books.ledger).filter (fun e => e.cycleId = k) = told.filterMap Fact.entry := by
  have before : (noted base.books.ledger).filter (fun e => e.cycleId = k) = [] := by
    rw [List.filter_eq_nil_iff]
    intro e he own
    obtain ⟨e',he',rfl⟩ := List.mem_map.mp he
    obtain ⟨mem,posts⟩ := List.mem_filter.mp he'
    rw [ready.silent e' mem (of_decide_eq_true own)] at posts
    cases posts
  have after : (told.filterMap Fact.entry).filter (fun e => e.cycleId = k) =
      told.filterMap Fact.entry := by
    rw [List.filter_eq_self]
    intro e he
    obtain ⟨f,hf,entry⟩ := List.mem_filterMap.mp he
    exact decide_eq_true ((cycle_of_entry entry).trans (valid f hf).1)
  rw [held.entries,List.filter_append,before,after,List.nil_append]

/-- A figure of the ledger is one of the facts. -/
theorem figure {γ β : Type} {select : LedgerEntry → Bool} {g : LedgerEntry → β}
    (held : Holds base.books db.books told) (ready : Ready base k facts cycle strategy)
    (valid : ∀ f ∈ told, f.Valid k) (selects : Selects select) (reads : ∀ e, g (plain e) = g e)
    (part : Fact → Option γ) (entry : γ → LedgerEntry)
    (own : ∀ f : Fact, f.Valid k → f.entry.filter select = (part f).map entry) :
    ((ledgerOf db k).filter select).map g = (told.filterMap part).map fun p => g (entry p) := by
  rw [selected_noted selects reads,noted_cycle held ready valid,
    selected_facts part entry fun f hf => own f (valid f hf),List.map_map]
  rfl

theorem settlementsOf_eq_nil (held : Holds base.books db.books told)
    (ready : Ready base k facts cycle strategy) (valid : ∀ f ∈ told, f.Valid k) :
    settlementsOf db k = [] ↔ settlements told = [] := by
  have rows : settlementsOf db k = [] ↔ ∀ p ∈ paidIn db.books, p.2 ≠ k := by
    unfold settlementsOf paidIn
    simp [List.filter_eq_nil_iff]
  have part : settlements told = [] ↔ ∀ f ∈ told, f.settlement? = none := by
    unfold settlements
    rw [List.filterMap_eq_nil_iff]
  rw [rows,part,held.settlements]
  constructor
  · intro h f hf
    cases f with
    | settlement s =>
      have paid : (s.settlementId,s.cycleId) ∈ told.filterMap Fact.paidIn? :=
        List.mem_filterMap.mpr ⟨_,hf,rfl⟩
      exact absurd (valid _ hf).1 (h _ (List.mem_append_right _ paid))
    | _ => rfl
  · intro h p hp
    rcases List.mem_append.mp hp with old | new
    · obtain ⟨s,hs,rfl⟩ := List.mem_map.mp old
      exact ready.unpaid s hs
    · obtain ⟨f,hf,paid⟩ := List.mem_filterMap.mp new
      have none_ := h f hf
      cases f with
      | settlement s => cases none_
      | _ => cases paid

end Ledgers

/-! ### Sums over the facts -/

section Sums
variable {facts told : List Fact} {k : String}

theorem purchase_amounts (valid : ∀ f ∈ facts, f.Valid k) {r : SwapRecord}
    (hr : r ∈ purchases facts) :
    (0 ≤ r.giveAmount ∧ Cents r.giveAmount) ∧ ∃ n : Nat, 0 < n ∧ r.takeAmount = n := by
  obtain ⟨f,hf,own⟩ := List.mem_filterMap.mp hr
  cases f with
  | settled record =>
    have picked : (if record.giveAsset = .cr ∧ record.takeAsset = .kwh then some record else none) =
        some r := own
    split at picked
    · rename_i assets
      cases picked
      obtain ⟨_,given,taken⟩ := valid _ hf
      rw [assets.1] at given
      rw [assets.2] at taken
      exact ⟨given,taken⟩
    · cases picked
  | _ => cases own

theorem sale_amount (valid : ∀ f ∈ facts, f.Valid k) {r : SwapRecord} (hr : r ∈ sales facts) :
    Cents r.takeAmount := by
  obtain ⟨f,hf,own⟩ := List.mem_filterMap.mp hr
  cases f with
  | settled record =>
    have picked : (if record.giveAsset = .kwh ∧ record.takeAsset = .cr then some record else none) =
        some r := own
    split at picked
    · rename_i assets
      cases picked
      obtain ⟨_,_,taken⟩ := valid _ hf
      rw [assets.2] at taken
      exact taken.2
    · cases picked
  | _ => cases own

theorem trade_amount (valid : ∀ f ∈ facts, f.Valid k) {t : TradeRecord}
    (ht : t ∈ buyerTrades facts) : Cents t.transportTotal := by
  obtain ⟨f,hf,own⟩ := List.mem_filterMap.mp ht
  cases f with
  | trade u =>
    have picked : (if u.role = .buyer then some u else none) = some t := own
    split at picked <;> cases picked
    exact (valid _ hf).2
  | _ => cases own

theorem settlement_amount (valid : ∀ f ∈ facts, f.Valid k) {s : ImbalanceSettlement}
    (hs : s ∈ settlements facts) : Cents s.total := by
  obtain ⟨f,hf,own⟩ := List.mem_filterMap.mp hs
  cases f with
  | settlement r =>
    cases own
    exact (valid _ hf).2
  | _ => cases own

theorem cents_sum {γ : Type} {l : List γ} {g : γ → ℚ} (h : ∀ a ∈ l, Cents (g a)) :
    Cents (l.map g).sum := by
  refine Cents.sum fun q hq => ?_
  obtain ⟨a,ha,rfl⟩ := List.mem_map.mp hq
  exact h a ha

theorem whole_energy (valid : ∀ f ∈ facts, f.Valid k) : ∃ n : Int, energyBought facts = n := by
  unfold energyBought
  have each : ∀ r ∈ purchases facts, ∃ n : Int, r.takeAmount = n := fun r hr => by
    obtain ⟨_,n,_,amount⟩ := purchase_amounts valid hr
    exact ⟨n,by rw [amount]; push_cast; rfl⟩
  generalize purchases facts = l at each
  induction l with
  | nil => exact ⟨0,by simp⟩
  | cons r l ih =>
    obtain ⟨n,hn⟩ := each r (List.mem_cons_self ..)
    obtain ⟨m,hm⟩ := ih fun r hr => each r (List.mem_cons_of_mem _ hr)
    exact ⟨n + m,by rw [List.map_cons,List.sum_cons,hn,hm]; push_cast; rfl⟩

theorem sum_perm {γ : Type} (perm : told.Perm facts) (part : Fact → Option γ) (g : γ → ℚ) :
    ((told.filterMap part).map g).sum = ((facts.filterMap part).map g).sum :=
  ((perm.filterMap part).map g).sum_eq

/-- The figures do not depend on the order in which the facts are listed. -/
theorem figures_perm (cycle : Cycle) (perm : told.Perm facts) :
    figures cycle told = figures cycle facts := by
  have none_ : settlements told = [] ↔ settlements facts = [] := by
    have same := (perm.filterMap Fact.settlement?).length_eq
    unfold settlements
    rw [← List.length_eq_zero_iff,same,List.length_eq_zero_iff]
  have complete : Complete told ↔ Complete facts := by
    have bought (p : SwapRecord) : p ∈ purchases told ↔ p ∈ purchases facts :=
      (perm.filterMap Fact.purchase?).mem_iff
    have traded (t : TradeRecord) : t ∈ buyerTrades told ↔ t ∈ buyerTrades facts :=
      (perm.filterMap Fact.buyerTrade?).mem_iff
    unfold Complete
    simp only [none_,bought,traded,ne_eq]
  have energy : energyBought told = energyBought facts := sum_perm perm _ _
  have paid_ : paid told = paid facts := sum_perm perm _ _
  have received_ : received told = received facts := sum_perm perm _ _
  have transport_ : transport told = transport facts := sum_perm perm _ _
  have liquidated_ : liquidated told = liquidated facts := sum_perm perm _ _
  unfold figures
  simp only [none_,complete,energy,paid_,received_,transport_,liquidated_]

end Sums

/-! ### The row -/

section Rows
variable {base db : Db} {k : String} {facts told : List Fact} {cycle cycle' : Cycle}
  {strategy : StrategyConfig} {now : Instant}

theorem neg_sum {γ : Type} (l : List γ) (g : γ → ℚ) :
    (l.map fun a => -g a).sum = -(l.map g).sum := by
  rw [List.sum_neg,List.map_map]
  rfl

theorem swapOf_bill (r : SwapRecord) : swapOf (bill r) = settlementKey r := by
  unfold swapOf bill written swapEffect settlementKey
  dsimp only
  cases r.swapId with
  | none => rfl
  | some swapId =>
    dsimp only
    split <;> rfl

theorem swapOf_transport (t : TradeRecord) : swapOf (written (transportEffect t)) = t.swapId := by
  unfold swapOf written transportEffect
  dsimp only
  split
  · rfl
  · rfl

section Ledger
variable (held : Holds base.books db.books told) (ready : Ready base k facts cycle strategy)
  (valid : ∀ f ∈ told, f.Valid k)
include held ready valid

theorem bought_eq : bought (ledgerOf db k) = energyBought told :=
  congrArg List.sum (figure held ready valid buyerSwap_selects (fun _ => rfl) Fact.purchase? bill
    fun _ => purchase_entry)

theorem buyCost_eq : buyCost (ledgerOf db k) = paid told := by
  have total : moved buyerSwap (ledgerOf db k) = -paid told :=
    (congrArg List.sum (figure held ready valid buyerSwap_selects (fun _ => rfl) Fact.purchase? bill
      fun _ => purchase_entry)).trans (neg_sum _ _)
  unfold buyCost
  rw [total,neg_neg]
  exact centsHalfUp_of_cents (cents_sum fun r hr => (purchase_amounts valid hr).1.2)

theorem saleRevenue_eq : saleRevenue (ledgerOf db k) = received told := by
  have total : moved sellerSwap (ledgerOf db k) = received told :=
    congrArg List.sum (figure held ready valid sellerSwap_selects (fun _ => rfl) Fact.sale? sold
      fun _ => sale_entry)
  unfold saleRevenue
  rw [total]
  exact centsHalfUp_of_cents (cents_sum fun r hr => sale_amount valid hr)

theorem transportCost_eq : transportCost (ledgerOf db k) = transport told := by
  have total : moved buyerTransport (ledgerOf db k) = -transport told :=
    (congrArg List.sum (figure held ready valid buyerTransport_selects (fun _ => rfl)
      Fact.buyerTrade? _ fun f _ => transport_entry f)).trans (neg_sum _ _)
  unfold transportCost
  rw [total,neg_neg]
  exact centsHalfUp_of_cents (cents_sum fun t ht => trade_amount valid ht)

theorem imbalance_eq_nil : (ledgerOf db k).filter imbalance = [] ↔ settlements told = [] := by
  have entries := figure (g := plain) held ready valid imbalance_selects (fun _ => rfl)
    Fact.settlement? _ fun f _ => imbalance_entry f
  rw [← List.map_eq_nil_iff (f := plain),entries,List.map_eq_nil_iff]
  rfl

theorem settlementCost_eq : settlementCost (ledgerOf db k) =
    if settlements told = [] then none else some (-liquidated told) := by
  have total : moved imbalance (ledgerOf db k) = liquidated told :=
    congrArg List.sum (figure held ready valid imbalance_selects (fun _ => rfl) Fact.settlement? _
      fun f _ => imbalance_entry f)
  have whole : Cents (liquidated told) := cents_sum fun s hs => settlement_amount valid hs
  unfold settlementCost
  simp only [List.isEmpty_iff,imbalance_eq_nil held ready valid,total]
  rw [centsHalfUp_of_cents whole.neg]

theorem missingTransport_eq_nil : missingTransport (ledgerOf db k) = [] ↔
    ∀ p ∈ purchases told, ∃ t ∈ buyerTrades told, t.swapId = settlementKey p := by
  have bought := figure (g := swapOf) held ready valid buyerSwap_selects (fun _ => rfl)
    Fact.purchase? bill fun _ => purchase_entry
  have carried := figure (g := swapOf) held ready valid buyerTransport_selects (fun _ => rfl)
    Fact.buyerTrade? _ fun f _ => transport_entry f
  simp only [swapOf_bill] at bought
  simp only [swapOf_transport] at carried
  unfold missingTransport
  rw [bought,carried,List.filter_eq_nil_iff]
  simp only [List.mem_dedup,decide_eq_true_eq,not_not,List.mem_map,forall_exists_index,and_imp,
    forall_apply_eq_imp_iff₂]
  rfl

theorem state_eq (after : closed cycle' now = true) :
    state cycle' (settlementsOf db k) (ledgerOf db k) now =
      if settlements told = [] then .awaitingSettlement
      else if Complete told then .final
      else .awaitingTransport := by
  unfold state
  simp only [after,Bool.not_true,Bool.false_eq_true,if_false,List.isEmpty_iff,Bool.or_eq_true,
    settlementsOf_eq_nil held ready valid,imbalance_eq_nil held ready valid,or_self]
  by_cases none_ : settlements told = []
  · rw [if_pos none_,if_pos none_]
  · rw [if_neg none_,if_neg none_]
    have missing := missingTransport_eq_nil held ready valid
    by_cases all : missingTransport (ledgerOf db k) = []
    · have complete : Complete told := ⟨none_,missing.mp all⟩
      rw [if_neg (not_not.mpr all),if_pos complete]
    · have partial_ : ¬ Complete told := fun both => all (missing.mpr both.2)
      rw [if_pos all,if_neg partial_]

theorem realCost_eq : realCost (ledgerOf db k) (if settlements told = [] then .awaitingSettlement
      else if Complete told then .final else .awaitingTransport) =
    if Complete told then some (paid told + transport told - liquidated told - received told)
    else none := by
  unfold realCost
  rw [settlementCost_eq held ready valid,buyCost_eq held ready valid,
    transportCost_eq held ready valid,saleRevenue_eq held ready valid]
  by_cases none_ : settlements told = []
  · have partial_ : ¬ Complete told := fun both => both.1 none_
    rw [if_pos none_,if_neg partial_]
    rfl
  · rw [if_neg none_,if_neg none_]
    by_cases all : Complete told
    · have whole : Cents (paid told + transport told + -liquidated told - received told) := by
        apply Cents.sub
        · apply Cents.add
          · exact (cents_sum fun r hr => (purchase_amounts valid hr).1.2).add
              (cents_sum fun t ht => trade_amount valid ht)
          · exact Cents.neg (cents_sum fun s hs => settlement_amount valid hs)
        · exact cents_sum fun r hr => sale_amount valid hr
      rw [if_pos all,if_pos all,if_pos rfl,Option.map_some,centsHalfUp_of_cents whole,← sub_eq_add_neg]
    · rw [if_neg all,if_neg all]
      rfl

/-- The row as it is measured of a closed cycle. -/
theorem measure_figures (strategy' : StrategyConfig) (own : cycle'.cycleId = k) (after : closed cycle' now = true) :
    ∃ row, measure db cycle' strategy' now = .ok row ∧ row.cycleId = k ∧
      figuresOf row = figures cycle' told := by
  have energy := bought_eq held ready valid
  obtain ⟨n,whole⟩ := whole_energy valid
  unfold measure
  dsimp only
  rw [own,energy,state_eq held ready valid after,realCost_eq held ready valid,
    buyCost_eq held ready valid,transportCost_eq held ready valid,settlementCost_eq held ready valid,
    if_neg (by rw [whole,Int.floor_intCast]; simp)]
  exact ⟨_,rfl,rfl,rfl⟩

end Ledger

theorem save_figures (metrics : Metrics) (row : CycleStrategyMetric) :
    (save metrics row).1.get? row.cycleId = some (save metrics row).2 ∧
      figuresOf (save metrics row).2 = figuresOf row := by
  unfold save
  cases inserted : metrics.insert? row with
  | some metrics' =>
    obtain ⟨free,rfl⟩ := Table.insert?_eq_some.mp inserted
    refine ⟨?_,rfl⟩
    dsimp only
    rw [Table.get?_insert,if_pos rfl]
  | none =>
    cases stored : metrics.get? row.cycleId with
    | none =>
      unfold Table.insert? at inserted
      rw [dif_pos stored] at inserted
      cases inserted
    | some old =>
      have key : old.cycleId = row.cycleId := Table.key_of_get? stored
      dsimp only
      split
      · rename_i same
        exact ⟨stored,(congrArg figuresOf same).symm.trans rfl⟩
      · exact ⟨Table.get?_set_self stored,rfl⟩

theorem frame_cycle {c : Cycle} (same : frame c = frame cycle) : c.cycleId = cycle.cycleId ∧
    c.statusIdpk = cycle.statusIdpk ∧ c.strategyVersion = cycle.strategyVersion ∧
      deficit c = deficit cycle ∧ ∀ now, closed c now = closed cycle now := by
  have read {γ : Type} (f : Cycle → γ) (reads : ∀ c, f (frame c) = f c) : f c = f cycle := by
    rw [← reads c,same,reads]
  exact ⟨read Cycle.cycleId fun _ => rfl,read Cycle.statusIdpk fun _ => rfl,
    read Cycle.strategyVersion fun _ => rfl,read deficit fun _ => rfl,
    fun now => read (closed · now) fun _ => rfl⟩

/-- A refresh of the closed cycle leaves the figures of the facts told. -/
theorem refresh_figures (cfg : Config) {log : List Fact} {s : State} (ready : Ready base k facts cycle strategy)
    (valid : ∀ f ∈ facts, f.Valid k) (reached : Reached base k facts cycle log s)
    (after : closed cycle now = true) :
    ∃ row, (turn cfg s (.refresh k now)).metrics.get? k = some row ∧
      figuresOf row = figures cycle (firsts facts log) := by
  obtain ⟨c,found,same⟩ := Option.map_eq_some_iff.mp reached.known
  obtain ⟨cycleId,status,bound,deficit_,closed_⟩ := frame_cycle same
  have own : c.cycleId = k := Table.key_of_get? found
  have valid' : ∀ f ∈ firsts facts log, f.Valid k := fun f hf => valid f (mem_firsts.mp hf).2
  obtain ⟨version,bound_,strategy_⟩ := Option.bind_eq_some_iff.mp ready.bound
  obtain ⟨row,measured,key,figures_⟩ := measure_figures reached.holds ready
    valid' strategy own ((closed_ now).trans after)
  obtain ⟨stored,kept⟩ := save_figures s.metrics row
  have served : refreshCycleMetrics s.db s.metrics k now =
      .ok ((save s.metrics row).1,some (save s.metrics row).2) := by
    unfold refreshCycleMetrics
    rw [found,Option.filter_some,if_pos (by rw [status]; exact ready.status)]
    dsimp only
    rw [bound,bound_]
    dsimp only
    rw [reached.strategies,strategy_]
    dsimp only
    rw [measured]
    rfl
  refine ⟨(save s.metrics row).2,?_,?_⟩
  · unfold turn
    dsimp only
    rw [served,← key]
    exact stored
  · rw [kept,figures_]
    unfold figures
    rw [deficit_]

end Rows

/-! ### Books as their columns keep them -/

/-- Every cycle is as its columns keep it. -/
def Stored (books : Books) : Prop := ∀ c ∈ books.cycles, storedCycle c = c

section Stored
variable {books : Books}

theorem stored_empty : Stored {} := fun _ hc => nomatch hc

theorem stored_store (books : Books) : Stored (store books) := by
  intro c hc
  obtain ⟨old,_,rfl⟩ := List.mem_map.mp hc
  have twice (o : Option ℚ) : (o.map centsHalfUp).map centsHalfUp = o.map centsHalfUp := by
    rw [Option.map_map]
    congr 1
    exact funext FactRedelivery.centsHalfUp_idem
  unfold storedCycle
  dsimp only
  simp only [twice,FactRedelivery.centsHalfUp_idem]

theorem stored_committed {db : Db} {result : Result Books} (h : Stored db.books) :
    Stored (MarketExtinction.committed db result).books := by
  unfold MarketExtinction.committed
  split
  · exact stored_store _
  · exact h

theorem stored_placeholder (h : Stored books) (k : String) :
    Stored (Opening.getOrCreateCycle books k) := by
  rcases getOrCreateCycle_cases books k with ⟨same,_⟩ | ⟨free,created⟩
  · rw [same]
    exact h
  · rw [created]
    intro c hc
    have inserted : c ∈ books.cycles.insert (blank k) free := hc
    rcases Table.mem_insert.mp inserted with old | rfl
    · exact h c old
    · have zero : centsHalfUp 0 = 0 := centsHalfUp_of_cents Cents.zero
      unfold storedCycle blank
      simp [zero]

theorem stored_entry (cfg : Config) (db : Db) (entry : MarketExtinction.Entry)
    (h : Stored db.books) : Stored (MarketExtinction.step cfg db entry).books := by
  cases entry with
  | ledger op =>
    cases op with
    | effect posting =>
      unfold MarketExtinction.step StoredLedger.step
      dsimp only
      split
      · exact stored_store _
      · exact h
    | statement payload now =>
      unfold MarketExtinction.step StoredLedger.step
      dsimp only
      split
      · exact stored_store _
      · exact h
    | placeholder k => exact stored_placeholder h k
  | settled record => exact stored_committed h
  | fact payload => exact stored_committed h
  | sweep locked now => exact stored_committed h

end Stored

/-! ### The metrics as a function of the facts -/

/-- In whatever order the facts of a cycle arrive, as often as they are repeated
and wherever the cycle is measured in between, a last refresh past its close
leaves the figures of the facts. -/
theorem metrics_of_facts (cfg : Config) (db : Db) (metrics : Metrics) (k : String)
    (facts : List Fact) (cycle : Cycle) (strategy : StrategyConfig) (turns : List Turn)
    (closesAt now : Instant) (sound : Sound db.books) (stored : Stored db.books)
    (ready : Ready db k facts cycle strategy) (valid : ∀ f ∈ facts, f.Valid k)
    (distinct : (facts.map Fact.key).Nodup)
    (tells : ∀ f m, .deliver f m ∈ turns → f ∈ facts ∧ Tells cfg m f)
    (all : ∀ f ∈ facts, ∃ m, .deliver f m ∈ turns)
    (closes : cycle.marketClosesAt = some closesAt) (past : closesAt ≤ now) :
    ∃ row, (run (turn cfg) ⟨db,metrics⟩ (turns ++ [.refresh k now])).metrics.get? k = some row ∧
      figuresOf row = figures cycle facts ∧ (row.status = .final ↔ Complete facts) ∧
      (row.status = .final → row.realCost =
        some (paid facts + transport facts - liquidated facts - received facts)) := by
  have kept : storedCycle cycle = cycle := stored cycle (Table.mem_of_get? ready.known)
  have start : Reached db k facts cycle [] ⟨db,metrics⟩ :=
    { sound := sound
      holds := ⟨(List.append_nil _).symm,(List.append_nil _).symm,(List.append_nil _).symm⟩
      known := by
        rw [ready.known]
        rfl
      strategies := rfl }
  have reached := start.run sound ready kept valid distinct turns tells
  have after : closed cycle now = true := by
    unfold closed
    rw [closes]
    exact decide_eq_true past
  obtain ⟨row,final,same⟩ := refresh_figures cfg ready valid reached after
  have arrived : (firsts facts (delivered turns)).Perm facts := by
    rw [List.perm_ext_iff_of_nodup nodup_firsts (List.Nodup.of_map _ distinct)]
    intro f
    rw [mem_firsts]
    refine ⟨fun both => both.2,fun mem => ⟨?_,mem⟩⟩
    obtain ⟨m,hm⟩ := all f mem
    exact List.mem_filterMap.mpr ⟨_,hm,rfl⟩
  have figures_ : figuresOf row = figures cycle facts := same.trans (figures_perm cycle arrived)
  have status : row.status = (figures cycle facts).status := congrArg Figures.status figures_
  have real : row.realCost = (figures cycle facts).realCost := congrArg Figures.realCost figures_
  have complete : row.status = .final ↔ Complete facts := by
    rw [status]
    unfold figures
    dsimp only
    by_cases none_ : settlements facts = []
    · rw [if_pos none_]
      exact ⟨fun h => (nomatch h),fun both => absurd none_ both.1⟩
    · rw [if_neg none_]
      by_cases own : Complete facts
      · rw [if_pos own]
        exact ⟨fun _ => own,fun _ => rfl⟩
      · rw [if_neg own]
        exact ⟨fun h => (nomatch h),fun both => absurd both own⟩
  refine ⟨row,?_,figures_,complete,fun final_ => ?_⟩
  · rw [run_append]
    exact final
  · rw [real]
    exact if_pos (complete.mp final_)

/-- C1 closes half an hour past the hour. -/
def announced : MarketExtinction.Entry :=
  .ledger (.statement {
    idpk := "88000000-0000-0000-0000-000000000001"
    msgId := "88000000-0000-0000-0000-000000000002"
    type := .statusStatement
    timestamp := 0
    cycleId := some "C1"
    data := [("energy",.obj [("generationCapacity",.int 3),("consumption",.int 5),
        ("generationCost",.int 1)]),("validUntil",.str "2026-01-01T01:00:00Z"),
      ("market",.obj [("closesAt",.str "2026-01-01T00:30:00Z")])] } 0)

def announcedDb : Db := MarketExtinction.step FactRedelivery.trading {} announced

/-- 10 kWh are bought for 20 credits. -/
def purchase : SwapRecord where
  idpk := "b1"
  swapId := some "s1"
  cycleId := "C1"
  role := .acceptor
  counterpartCityId := "BBB"
  giveAsset := .cr
  giveAmount := 20
  takeAsset := .kwh
  takeAmount := 10
  idempotencyKey := "b1"
  createdAt := 0

/-- Their transport costs five. -/
def carriage : TradeRecord where
  swapId := "s1"
  cycleId := "C1"
  msgId := "81000000-0000-0000-0000-000000000002"
  idpk := "81000000-0000-0000-0000-000000000001"
  offerId := some "BBB-C1"
  seller := "BBB"
  buyer := "AAA"
  role := .buyer
  counterpartCityId := "BBB"
  quantity := 10
  pricePerEnergy := 2
  energyTotal := 20
  transportPerEnergy := 1 / 2
  transportTotal := 5
  routeEnabled := true

def halfPast : Instant := 1767227400000000

/-- Two kWh short at three credits. -/
def shortfall : Payload where
  idpk := "88000000-0000-0000-0000-000000000003"
  msgId := "88000000-0000-0000-0000-000000000004"
  type := .imbalanceSettlement
  timestamp := 0
  cycleId := some "C1"
  data := [("settlementId",.str "i1"),("kwhHeld",.int 0),("deficit",.int 2),("coverage",.int (-2)),
    ("pricePerEnergy",.int 3),("total",.int (-6)),("balanceAfter",.int 0)]

def debt : ImbalanceSettlement where
  settlementId := "i1"
  cycleId := "C1"
  msgId := "88000000-0000-0000-0000-000000000004"
  idpk := "88000000-0000-0000-0000-000000000003"
  kwhHeld := 0
  deficit := 2
  coverage := -2
  pricePerEnergy := 3
  total := -6
  balanceAfter := 0

/-- The transport is told before the purchase, the debt twice. -/
def told : List Turn :=
  [.deliver (.trade carriage) (.fact (FactRedelivery.paid 5)),
    .refresh "C1" halfPast,
    .deliver (.settlement debt) (.fact shortfall),
    .deliver (.settled purchase) (.settled purchase),
    .deliver (.settlement debt) (.fact shortfall)]

theorem cost_measured : ∃ row, (run (turn FactRedelivery.trading) ⟨announcedDb,.empty⟩
      (told ++ [.refresh "C1" halfPast])).metrics.get? "C1" = some row ∧
    row.status = .final ∧ row.realCost = some 31 := by
  have cycle_ : (announcedDb.books.cycles.get? "C1").map (fun c =>
      (c.statusIdpk.isSome,c.strategyVersion.bind announcedDb.strategies.get?,c.marketClosesAt)) =
        some (true,some (Strategies.initial 0),some halfPast) := by decide +kernel
  obtain ⟨cycle,known,terms⟩ := Option.map_eq_some_iff.mp cycle_
  simp only [Prod.mk.injEq] at terms
  obtain ⟨status,bound,closes⟩ := terms
  have carried : FactRedelivery.factOf FactRedelivery.trading (FactRedelivery.paid 5) =
      some (.trade carriage) := by decide +kernel
  have owed : FactRedelivery.factOf FactRedelivery.trading shortfall = some (.settlement debt) := by
    decide +kernel
  have ledger : announcedDb.books.ledger = [] := by decide +kernel
  have trades : announcedDb.books.trades.rows = [] := by decide +kernel
  have settlements : announcedDb.books.settlements.rows = [] := by decide +kernel
  obtain ⟨row,stored,_,complete,real⟩ := metrics_of_facts FactRedelivery.trading announcedDb .empty
    "C1" [.settled purchase,.trade carriage,.settlement debt] cycle (Strategies.initial 0) told
    halfPast halfPast (MarketExtinction.sound_entry _ {} announced sound_empty)
    (stored_entry _ {} announced stored_empty)
    { known := known
      status := status
      bound := bound
      silent := by simp [ledger]
      unpaid := by
        intro s hs
        rw [Table.mem_rows,settlements] at hs
        cases hs
      unused := by simp [ledger]
      untold := by simp [swapIds,trades]
      unsettled := by simp [paidIn,settlements] }
    (by
      simp only [List.forall_mem_cons,List.not_mem_nil,false_implies,implies_true,and_true]
      exact ⟨⟨rfl,⟨by decide,by decide +kernel⟩,10,by decide,by rfl⟩,⟨rfl,by decide +kernel⟩,
        ⟨rfl,by decide +kernel⟩⟩)
    (by decide)
    (by
      simp only [told,List.mem_cons,List.not_mem_nil,or_false]
      rintro f m (h | h | h | h | h) <;> cases h
      · exact ⟨by simp,carriage,carried,rfl⟩
      · exact ⟨by simp,debt,owed,rfl⟩
      · exact ⟨by simp,rfl⟩
      · exact ⟨by simp,debt,owed,rfl⟩)
    (by
      simp only [List.forall_mem_cons,List.not_mem_nil,false_implies,implies_true,and_true]
      exact ⟨⟨.settled purchase,by simp [told]⟩,⟨.fact (FactRedelivery.paid 5),by simp [told]⟩,
        ⟨.fact shortfall,by simp [told]⟩⟩)
    closes le_rfl
  have final_ : row.status = .final := complete.mpr (by decide)
  refine ⟨row,stored,final_,(real final_).trans ?_⟩
  decide +kernel

end CycleMetrics

end EnergyNode
