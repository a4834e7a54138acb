import EnergyNode.StoredLedger

/-! The extinction of the energy of closed markets. The close effect of a cycle
has one key for all sweeps, so the first burn is also the last one: energy that
arrives afterwards stays, and the sweep reports burns the ledger did not take. -/
namespace EnergyNode
open Lib

namespace MarketExtinction
open Ledger StoredLedger CycleAccounting

/-- A committed transaction on the books. -/
inductive Entry where
  | ledger (op : Op)
  /-- The settlement of a swap, delivered or observed, early or late. -/
  | settled (record : SwapRecord)
  /-- A trade-recorded or an imbalance-settlement. -/
  | fact (payload : Payload)
  | sweep (locked : List String) (now : Instant)

def committed (db : Db) (result : Result Books) : Db :=
  match result with
  | .ok books => { db with books := store books }
  | .error _ => db

def step (cfg : Config) (db : Db) : Entry → Db
  | .ledger op => StoredLedger.step cfg db op
  | .settled record => committed db (applySwapSettled cfg db.books record)
  | .fact payload => committed db ((TradeEvents.processWalletFact cfg db.books payload).map Prod.fst)
  | .sweep locked now =>
      committed db ((finalizeClosedMarkets cfg db.books locked now).map Prod.fst)

/-- The sweep returns, leaves no energy in the cycles it examined and reports
as many burns as the ledger took. -/
def Extinguishes (cfg : Config) (books : Books) (locked : List String) (now : Instant) : Prop :=
  ∃ after report, finalizeClosedMarkets cfg books locked now = .ok (after,report) ∧
    (∀ k ∈ examinedCycles books locked now, ∀ c, (store after).cycles.get? k = some c →
      c.energyBalance = 0) ∧
    books.ledger.length + report.burnsApplied = (store after).ledger.length

/-- No examined cycle with energy left was burnt before under the key the
sweep would use. -/
def Unburnt (books : Books) (locked : List String) (now : Instant) : Prop :=
  ∀ k ∈ examinedCycles books locked now, ∀ c, books.cycles.get? k = some c →
    c.energyBalance = 0 ∨ existing? books (closeEffect books c) = none

/-- The energy the sweep leaves in a cycle. -/
def residue (books : Books) (c : Cycle) : ℚ :=
  if (existing? books (closeEffect books c)).isSome then c.energyBalance else 0

/-- The burns it counts for the cycle, and those the ledger takes. -/
def counted (c : Cycle) : Nat := if c.energyBalance = 0 then 0 else 1

def taken (books : Books) (c : Cycle) : Nat :=
  if (existing? books (closeEffect books c)).isSome then 0 else counted c

/-- What closing one cycle leaves as it was for the others. -/
structure Closes (books after : Books) (k : String) : Prop where
  ordered : Ordered after
  settlements : after.settlements = books.settlements
  others : ∀ x ≠ k, after.cycles.get? x = books.cycles.get? x
  fresh : ∀ c : Cycle, c.cycleId ≠ k →
    existing? after (closeEffect after c) = existing? books (closeEffect books c)

section Sweep
variable {cfg : Config} {books : Books}

theorem closeEffect_congr {a b : Books} (h : b.settlements = a.settlements) (c : Cycle) :
    closeEffect b c = closeEffect a c := by
  unfold closeEffect
  rw [h]

theorem Closes.refl (ordered : Ordered books) (k : String) : Closes books books k :=
  ⟨ordered,rfl,fun _ _ => rfl,fun _ _ => rfl⟩

/-- Two cycles never share the key of their close effects. -/
theorem closeEffect_key {a b : Cycle}
    (h : (closeEffect books a).idpk = (closeEffect books b).idpk)
    (same : (closeEffect books a).operationType = (closeEffect books b).operationType) :
    a.cycleId = b.cycleId := by
  unfold closeEffect at h same
  dsimp only at h same
  split at h <;> split at h <;> simp_all

theorem closes_posted {c : Cycle} {k : String} (ordered : Ordered books)
    (found : books.cycles.get? k = some c) :
    Closes books (posted books c (closeEffect books c)) k := by
  have key : c.cycleId = k := Table.key_of_get? found
  have at_ : books.cycles.get? (closeEffect books c).cycleId = some c := by
    rw [← found,← key]
    rfl
  refine ⟨ordered_posted ordered at_,rfl,?_,?_⟩
  · intro x hx
    rw [get?_posted at_]
    refine if_neg ?_
    rw [← key] at hx
    exact hx
  · intro other hother
    have effects : closeEffect (posted books c (closeEffect books c)) other =
        closeEffect books other := closeEffect_congr rfl other
    unfold existing?
    rw [effects]
    have ledger : (posted books c (closeEffect books c)).ledger =
        books.ledger ++ [nextEntry c (closeEffect books c)] := rfl
    rw [ledger,List.find?_append]
    have unlike : ¬ ((closeEffect books c).idpk = (closeEffect books other).idpk ∧
        (closeEffect books c).operationType = (closeEffect books other).operationType) := by
      rintro ⟨idpk,type⟩
      exact hother ((closeEffect_key idpk type).symm.trans key)
    have none_ : [nextEntry c (closeEffect books c)].find? (fun entry =>
        entry.idpk = (closeEffect books other).idpk ∧
          entry.operationType = (closeEffect books other).operationType) = none := by
      rw [List.find?_singleton]
      exact if_neg fun same => unlike (of_decide_eq_true same)
    rw [none_,Option.or_none]

/-- One turn of the sweep. -/
theorem closeCycle_spec (cfg : Config) {c : Cycle} {k : String} (report : Finalization)
    (ordered : Ordered books) (found : books.cycles.get? k = some c) :
    ∃ after c', closeCycle cfg (books,report) k = .ok (after,
        { cyclesExamined := report.cyclesExamined + 1
          burnsApplied := report.burnsApplied + counted c }) ∧
      Closes books after k ∧ after.cycles.get? k = some c' ∧
      c'.energyBalance = residue books c ∧
      after.ledger.length = books.ledger.length + taken books c := by
  have key : c.cycleId = k := Table.key_of_get? found
  have at_ : books.cycles.get? (closeEffect books c).cycleId = some c := by
    rw [← found,← key]
    rfl
  unfold closeCycle
  dsimp only
  rw [found]
  dsimp only
  by_cases empty : c.energyBalance = 0
  · rw [if_pos empty]
    refine ⟨books,c,?_,.refl ordered k,found,?_,?_⟩
    · simp [counted,empty]
    · simp [residue,empty]
    · simp [taken,counted,empty]
  · rw [if_neg empty]
    have one : counted c = 1 := if_neg empty
    cases burnt : existing? books (closeEffect books c) with
    | some entry =>
      have replay : applyLedgerEffect cfg books (closeEffect books c) =
          .ok (books,entry,false) := by
        unfold applyLedgerEffect post
        rw [at_,burnt]
        rfl
      rw [replay,one]
      refine ⟨books,c,rfl,.refl ordered k,found,?_,?_⟩
      · simp [residue,burnt]
      · simp [taken,burnt]
    | none =>
      have burn : applyLedgerEffect cfg books (closeEffect books c) =
          .ok (posted books c (closeEffect books c),nextEntry c (closeEffect books c),true) := by
        have still : (closeEffect books c).budgetDelta = 0 := rfl
        unfold applyLedgerEffect
        rw [post_fresh ordered.numbered at_ burnt]
        simp [bind,Except.bind,pure,Except.pure,still]
      rw [burn,one]
      refine ⟨_,advance c (closeEffect books c),rfl,closes_posted ordered found,?_,?_,?_⟩
      · rw [get?_posted at_]
        exact if_pos key.symm
      · unfold residue
        rw [burnt]
        simp [advance,closeEffect]
      · simp [taken,burnt,one,posted]

/-- The whole sweep, over the books it started from. -/
theorem closeCycles_spec (cfg : Config) (l : List String) (report : Finalization)
    (ordered : Ordered books) (distinct : l.Nodup)
    (present : ∀ k ∈ l, ∃ c, books.cycles.get? k = some c) :
    ∃ after done, l.foldlM (closeCycle cfg) (books,report) = .ok (after,done) ∧
      Ordered after ∧
      (∀ k ∈ l, ∀ c, books.cycles.get? k = some c →
        ∃ c', after.cycles.get? k = some c' ∧ c'.energyBalance = residue books c) ∧
      (∀ k ∉ l, after.cycles.get? k = books.cycles.get? k) ∧
      done.burnsApplied = report.burnsApplied +
        (l.map fun k => ((books.cycles.get? k).map counted).getD 0).sum ∧
      after.ledger.length = books.ledger.length +
        (l.map fun k => ((books.cycles.get? k).map (taken books)).getD 0).sum := by
  induction l generalizing books report with
  | nil =>
    exact ⟨books,report,rfl,ordered,fun _ hk => (nomatch hk),fun _ _ => rfl,rfl,rfl⟩
  | cons k rest ih =>
    rw [List.nodup_cons] at distinct
    obtain ⟨c,found⟩ := present k (List.mem_cons_self ..)
    obtain ⟨mid,c',hmid,closes,left,energy,length⟩ := closeCycle_spec cfg report ordered found
    have apart {x : String} (hx : x ∈ rest) : x ≠ k := by
      rintro rfl
      exact distinct.1 hx
    have same {x : String} (hx : x ∈ rest) : mid.cycles.get? x = books.cycles.get? x :=
      closes.others x (apart hx)
    obtain ⟨after,done,hdone,ordered',swept,kept,burns,entries⟩ := ih
      { cyclesExamined := report.cyclesExamined + 1
        burnsApplied := report.burnsApplied + counted c } closes.ordered distinct.2 fun x hx => by
          rw [same hx]
          exact present x (List.mem_cons_of_mem _ hx)
    refine ⟨after,done,?_,ordered',?_,?_,?_,?_⟩
    · rw [List.foldlM_cons,hmid]
      exact hdone
    · intro x hx d hd
      rcases List.mem_cons.mp hx with rfl | hx
      · cases found.symm.trans hd
        exact ⟨c',(kept x distinct.1).trans left,energy⟩
      · obtain ⟨d',hd',left'⟩ := swept x hx d ((same hx).trans hd)
        refine ⟨d',hd',left'.trans ?_⟩
        unfold residue
        rw [closes.fresh d (Table.key_of_get? hd ▸ apart hx)]
    · intro x hx
      rw [List.mem_cons,not_or] at hx
      rw [kept x hx.2,closes.others x hx.1]
    · rw [burns,List.map_cons,List.sum_cons,found]
      have tail : (rest.map fun x => ((mid.cycles.get? x).map counted).getD 0) =
          rest.map fun x => ((books.cycles.get? x).map counted).getD 0 :=
        List.map_congr_left fun x hx => by rw [same hx]
      rw [tail]
      exact Nat.add_assoc ..
    · rw [entries,length,List.map_cons,List.sum_cons,found]
      have tail : (rest.map fun x => ((mid.cycles.get? x).map (taken mid)).getD 0) =
          rest.map fun x => ((books.cycles.get? x).map (taken books)).getD 0 := by
        refine List.map_congr_left fun x hx => ?_
        rw [same hx]
        cases hd : books.cycles.get? x with
        | none => rfl
        | some d =>
          have fresh := closes.fresh d (Table.key_of_get? hd ▸ apart hx)
          simp only [Option.map_some,Option.getD_some,taken,fresh]
      rw [tail]
      exact Nat.add_assoc ..

theorem examined_present {locked : List String} {now : Instant} {k : String}
    (hk : k ∈ examinedCycles books locked now) : ∃ c, books.cycles.get? k = some c := by
  unfold examinedCycles closedCycles at hk
  have listed := List.mem_of_mem_filter hk
  rw [List.mem_insertionSort] at listed
  obtain ⟨c,hc,rfl⟩ := List.mem_map.mp listed
  exact ⟨c,Table.get?_of_mem (List.mem_of_mem_filter hc)⟩

theorem nodup_examined (locked : List String) (now : Instant) :
    (examinedCycles books locked now).Nodup := by
  unfold examinedCycles closedCycles
  refine List.Nodup.filter _ ?_
  rw [(List.perm_insertionSort _ _).nodup_iff]
  exact books.cycles.nodup.sublist (List.filter_sublist.map _)

/-- A sweep extinguishes what it examines exactly when none of it was burnt
before under the same key. -/
theorem extinguishes_iff (cfg : Config) (sound : Sound books) (locked : List String)
    (now : Instant) : Extinguishes cfg books locked now ↔ Unburnt books locked now := by
  obtain ⟨after,done,hdone,_,swept,_,burns,entries⟩ :=
    closeCycles_spec cfg (examinedCycles books locked now) {} sound.toOrdered
      (nodup_examined locked now) fun k hk => examined_present hk
  have length : (store after).ledger.length = after.ledger.length := List.length_map _
  constructor
  · rintro ⟨after',report,h,zero,_⟩ k hk c hc
    cases hdone.symm.trans h
    obtain ⟨c',hc',left⟩ := swept k hk c hc
    by_cases empty : c.energyBalance = 0
    · exact .inl empty
    · refine .inr ?_
      have none_ := zero k hk (storedCycle c') (by rw [get?_store,hc']; rfl)
      have cents := (sound.exact_.cycle c (Table.mem_of_get? hc)).2.2.2
      cases burnt : existing? books (closeEffect books c) with
      | none => rfl
      | some entry =>
        unfold storedCycle residue at *
        dsimp only at none_
        rw [left,burnt] at none_
        exact absurd ((centsHalfUp_of_cents cents).symm.trans none_) empty
  · intro unburnt
    refine ⟨after,done,hdone,?_,?_⟩
    · intro k hk c hc
      rw [get?_store,Option.map_eq_some_iff] at hc
      obtain ⟨c',hc',rfl⟩ := hc
      obtain ⟨old,hold⟩ := examined_present hk
      obtain ⟨d,hd,left⟩ := swept k hk old hold
      cases hd.symm.trans hc'
      have zero : residue books old = 0 := by
        unfold residue
        rcases unburnt k hk old hold with empty | fresh
        · rw [empty,ite_self]
        · rw [fresh]
          rfl
      unfold storedCycle
      dsimp only
      rw [left,zero]
      exact centsHalfUp_of_cents Cents.zero
    · rw [length,entries,burns,zero_add]
      congr 1
      apply congrArg List.sum
      refine List.map_congr_left fun k hk => ?_
      obtain ⟨c,hc⟩ := examined_present hk
      rw [hc]
      simp only [Option.map_some,Option.getD_some]
      unfold taken
      rcases unburnt k hk c hc with empty | fresh
      · simp [counted,empty]
      · rw [fresh]
        rfl

end Sweep

/-! ### Every history -/

theorem sound_committed {db : Db} {result : Result Books} (sound : Sound db.books)
    (h : ∀ books, result = .ok books → Ordered books) : Sound (committed db result).books := by
  cases result with
  | error _ => exact sound
  | ok books => exact (h books rfl).stored

theorem sound_entry (cfg : Config) (db : Db) (entry : Entry) (sound : Sound db.books) :
    Sound (step cfg db entry).books := by
  cases entry with
  | ledger op => exact sound_step db op sound
  | settled record =>
    exact sound_committed sound fun books h => received_ordered.settled h sound.toOrdered
  | fact payload =>
    refine sound_committed sound fun books h => ?_
    obtain ⟨⟨done,audit⟩,hdone,rfl⟩ := Fallible.map_ok.mp h
    exact received_ordered.fact hdone sound.toOrdered
  | sweep locked now =>
    refine sound_committed sound fun books h => ?_
    obtain ⟨⟨swept,report⟩,hswept,rfl⟩ := Fallible.map_ok.mp h
    exact received_ordered.sweep hswept sound.toOrdered

/-- Every sweep of the history extinguishes. -/
def SweepExtinguishes (cfg : Config) (db : Db) : Entry → Prop
  | .sweep locked now => Extinguishes cfg db.books locked now
  | _ => True

/-- Every sweep of the history finds nothing it burnt before. -/
def SweepUnburnt (db : Db) : Entry → Prop
  | .sweep locked now => Unburnt db.books locked now
  | _ => True

/-- Over any history, the sweeps leave no energy and count their burns right
exactly when none of them meets energy in a cycle whose close effect the ledger
already holds. -/
theorem closed_energy_zero (cfg : Config) (history : List Entry) :
    Along (step cfg) (SweepExtinguishes cfg) {} history ↔
      Along (step cfg) SweepUnburnt {} history := by
  have runs (db : Db) (sound : Sound db.books) :
      Along (step cfg) (SweepExtinguishes cfg) db history ↔
        Along (step cfg) SweepUnburnt db history := by
    induction history generalizing db with
    | nil => exact Iff.rfl
    | cons entry rest ih =>
      have first : SweepExtinguishes cfg db entry ↔ SweepUnburnt db entry := by
        cases entry with
        | sweep locked now => exact extinguishes_iff cfg sound locked now
        | _ => exact Iff.rfl
      exact and_congr first (ih _ (sound_entry cfg db entry sound))
  exact runs {} sound_empty

/-- The sweep burns two, ten bought arrive late, and the next sweep counts a
burn that leaves the ten where they are. -/
def lateSettlement : List Entry :=
  [.ledger (opening "C1" "opened" "2026-01-01T00:00:00Z"),
    .sweep [] 1767225600000000,
    .settled { idpk := "purchase", swapId := some "w1", cycleId := "C1", role := .acceptor
               counterpartCityId := "BBB", giveAsset := .cr, giveAmount := 20
               takeAsset := .kwh, takeAmount := 10, status := .settled
               idempotencyKey := "purchase", createdAt := 0 },
    .sweep [] 1767225600000000]

/-- The books when the ten have arrived. -/
def lateBooks : Books :=
  (run (step (.drawing "AAA" ["u1"])) {} (lateSettlement.take 3)).books

theorem late_energy_stays :
    ¬ ∀ (cfg : Config) (history : List Entry),
      Along (step cfg) (SweepExtinguishes cfg) {} history := by
  intro h
  obtain ⟨_,_,_,last,_⟩ := h (.drawing "AAA" ["u1"]) lateSettlement
  obtain ⟨after,report,done,_,count⟩ : Extinguishes (.drawing "AAA" ["u1"]) lateBooks []
    1767225600000000 := last
  have reported : (finalizeClosedMarkets (.drawing "AAA" ["u1"]) lateBooks []
      1767225600000000).toOption.map (fun s => (s.2.burnsApplied,s.1.ledger.length)) =
        some (1,2) := by
    decide +kernel
  have before : lateBooks.ledger.length = 2 := by decide +kernel
  have stored : (store after).ledger.length = after.ledger.length := List.length_map _
  rw [done] at reported
  obtain ⟨burns,entries⟩ := Prod.mk.inj (Option.some.inj reported)
  dsimp only at burns entries
  omega

end MarketExtinction

end EnergyNode
