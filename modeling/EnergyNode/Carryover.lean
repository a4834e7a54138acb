import EnergyNode.CycleAccounting
import EnergyNode.Lib.Fallible

/-! What posting an effect does to the books, and what the chain of carried
money does: it posts at most one difference into each opened cycle, after
which every opened cycle was carried what the one before it holds. -/
namespace EnergyNode
open Lib

namespace Ledger

/-- The columns of a cycle that no effect writes and the chronology reads. -/
def place (c : Cycle) : String × Option String × Option Instant :=
  (c.cycleId,c.statusIdpk,c.validUntil)

/-- Every entry was numbered by a cycle that still counts. -/
def Numbered (books : Books) : Prop :=
  ∀ e ∈ books.ledger, ∃ c, books.cycles.get? e.cycleId = some c ∧ e.sequenceNo ≤ c.lastSequence

def entriesOf (books : Books) (cycleId : String) : List LedgerEntry :=
  books.ledger.filter fun e => e.cycleId = cycleId

def budgetTotal (f : ℚ → ℚ) (books : Books) (cycleId : String) : ℚ :=
  ((entriesOf books cycleId).map fun e => f e.budgetDelta).sum

def energyTotal (f : ℚ → ℚ) (books : Books) (cycleId : String) : ℚ :=
  ((entriesOf books cycleId).map fun e => f e.energyDelta).sum

/-- What the cycle before, if any, holds. -/
def held (books : Books) (previous : Option String) : ℚ :=
  ((previous.bind books.cycles.get?).map Cycle.budgetBalance).getD 0

def posted (books : Books) (cycle : Cycle) (effect : Effect) : Books :=
  { books with
    cycles := books.cycles.set (advance cycle effect)
    ledger := books.ledger ++ [nextEntry cycle effect] }

section Posted
variable {books : Books} {cycle : Cycle} {effect : Effect}

theorem post_fresh (numbered : Numbered books) (found : books.cycles.get? effect.cycleId = some cycle)
    (fresh : existing? books effect = none) :
    post books effect = .ok (posted books cycle effect,nextEntry cycle effect,true) := by
  have free : sequenceTaken books (nextEntry cycle effect) = false := by
    unfold sequenceTaken
    rw [List.any_eq_false]
    intro e he taken
    obtain ⟨same,number⟩ := of_decide_eq_true taken
    obtain ⟨c,hc,le⟩ := numbered e he
    have own : e.cycleId = effect.cycleId := same
    rw [own,found] at hc
    cases hc
    have next : e.sequenceNo = cycle.lastSequence + 1 := number
    omega
  unfold post
  rw [found,fresh]
  dsimp only
  rw [free]
  rfl

theorem post_cases {books' : Books} {entry : LedgerEntry} {applied : Bool}
    (h : post books effect = .ok (books',entry,applied)) :
    (applied = false ∧ books' = books ∧ existing? books effect = some entry) ∨
      (applied = true ∧ existing? books effect = none ∧
        ∃ cycle, books.cycles.get? effect.cycleId = some cycle ∧
          books' = posted books cycle effect) := by
  unfold post at h
  split at h
  · cases h
  · rename_i cycle found
    split at h
    · rename_i old replayed
      cases h
      exact .inl ⟨rfl,rfl,replayed⟩
    · rename_i fresh
      dsimp only at h
      split at h <;> cases h
      exact .inr ⟨rfl,fresh,cycle,found,rfl⟩

variable (found : books.cycles.get? effect.cycleId = some cycle)
include found

theorem advance_key : (advance cycle effect).cycleId = effect.cycleId := by
  have own : cycle.cycleId = effect.cycleId := Table.key_of_get? found
  exact own

theorem get?_posted (k : String) :
    (posted books cycle effect).cycles.get? k =
      if k = effect.cycleId then some (advance cycle effect) else books.cycles.get? k := by
  unfold posted
  dsimp only
  rw [Table.get?_set,advance_key found]
  by_cases h : effect.cycleId = k
  · rw [if_pos h,if_pos h.symm,← h,found]
    rfl
  · rw [if_neg h,if_neg (Ne.symm h)]

theorem numbered_posted (numbered : Numbered books) : Numbered (posted books cycle effect) := by
  intro e he
  rw [get?_posted found]
  rcases List.mem_append.mp he with old | new
  · obtain ⟨c,hc,le⟩ := numbered e old
    by_cases same : e.cycleId = effect.cycleId
    · rw [same,found] at hc
      cases hc
      refine ⟨_,if_pos same,?_⟩
      exact le.trans (by simp [advance])
    · exact ⟨c,by rw [if_neg same,hc],le⟩
  · cases List.mem_singleton.mp new
    exact ⟨_,if_pos rfl,le_rfl⟩

theorem places_posted :
    (posted books cycle effect).cycles.rows.map place = books.cycles.rows.map place := by
  unfold posted Table.set
  dsimp only
  rw [List.map_map]
  apply List.map_congr_left
  intro c hc
  rw [Function.comp_apply]
  split
  · rename_i same
    have own := Table.get?_of_mem (t := books.cycles) hc
    rw [same,advance_key found,found] at own
    cases own
    rfl
  · rfl

omit found

theorem entriesOf_posted (k : String) :
    entriesOf (posted books cycle effect) k =
      entriesOf books k ++ if effect.cycleId = k then [nextEntry cycle effect] else [] := by
  unfold entriesOf posted
  dsimp only
  rw [List.filter_append]
  congr 1
  by_cases h : effect.cycleId = k <;> simp [nextEntry,h]

theorem budgetTotal_posted (f : ℚ → ℚ) (k : String) :
    budgetTotal f (posted books cycle effect) k =
      budgetTotal f books k + if effect.cycleId = k then f effect.budgetDelta else 0 := by
  unfold budgetTotal
  rw [entriesOf_posted]
  by_cases h : effect.cycleId = k <;> simp [h,nextEntry]

theorem energyTotal_posted (f : ℚ → ℚ) (k : String) :
    energyTotal f (posted books cycle effect) k =
      energyTotal f books k + if effect.cycleId = k then f effect.energyDelta else 0 := by
  unfold energyTotal
  rw [entriesOf_posted]
  by_cases h : effect.cycleId = k <;> simp [h,nextEntry]

theorem credited_posted (k : String) :
    credited (posted books cycle effect) k = credited books k +
      if effect.cycleId = k ∧ effect.operationType = .budgetCarryover then effect.budgetDelta
      else 0 := by
  unfold credited posted
  dsimp only
  rw [List.filter_append,List.map_append,List.sum_append]
  congr 1
  by_cases h : effect.cycleId = k ∧ effect.operationType = .budgetCarryover <;>
    simp [nextEntry,h]

end Posted

/-- A balance with the money that came, if any did, on top. -/
def credit (balance came : ℚ) : ℚ := if came = 0 then balance else plus balance came

@[simp] theorem credit_zero (balance : ℚ) : credit balance 0 = balance := if_pos rfl

theorem credit_cents {balance came : ℚ} (hb : Cents balance) (hc : Cents came) :
    credit balance came = balance + came := by
  unfold credit
  split
  · rename_i none
    rw [none,add_zero]
  · exact plus_cents hb hc

/-- A balance beside which money came, if any did: nothing is added to it. -/
def beside (balance came : ℚ) : ℚ := if came = 0 then balance else plus balance 0

@[simp] theorem beside_zero (balance : ℚ) : beside balance 0 = balance := if_pos rfl

@[simp] theorem beside_plus (a b came : ℚ) : beside (plus a b) came = plus a b := by
  unfold beside
  rw [plus_plus_zero,ite_self]

theorem beside_cents {balance : ℚ} (whole : Cents balance) (came : ℚ) :
    beside balance came = balance := by
  unfold beside
  rw [plus_cents whole Cents.zero,add_zero,ite_self]

/-- The books after money was carried: each cycle holds what was credited to it
on top, written as at most one entry, and nothing else moved. -/
structure Shift (books books' : Books) : Prop where
  places : books'.cycles.rows.map place = books.cycles.rows.map place
  numbered : Numbered books → Numbered books'
  cycles (k : String) (c : Cycle) : books.cycles.get? k = some c →
    ∃ n, books'.cycles.get? k = some { c with
      budgetBalance := credit c.budgetBalance (credited books' k - credited books k)
      energyBalance := beside c.energyBalance (credited books' k - credited books k)
      lastSequence := n }
  missing (k : String) : books.cycles.get? k = none → books'.cycles.get? k = none
  budgets (f : ℚ → ℚ) (k : String) : f 0 = 0 →
    budgetTotal f books' k = budgetTotal f books k + f (credited books' k - credited books k)
  energies (f : ℚ → ℚ) (k : String) : f 0 = 0 → energyTotal f books' k = energyTotal f books k
  entries : ∃ added, books'.ledger = books.ledger ++ added ∧ ∀ e ∈ added,
    e.operationType = .budgetCarryover ∧ e.energyDelta = 0 ∧ e.budgetDelta ≠ 0 ∧
      e.budgetDelta = credited books' e.cycleId - credited books e.cycleId

theorem Shift.refl (books : Books) : Shift books books where
  places := rfl
  numbered := id
  cycles k c h := ⟨c.lastSequence,by rw [h]; simp⟩
  missing _ := id
  budgets f k zero := by simp [zero]
  energies _ _ _ := rfl
  entries := ⟨[],(List.append_nil _).symm,fun _ he => nomatch he⟩

/-- Two shifts into different cycles make one. -/
theorem Shift.trans {a b c : Books} (h : Shift a b) (g : Shift b c)
    (apart : ∀ k, credited b k = credited a k ∨ credited c k = credited b k) : Shift a c where
  places := g.places.trans h.places
  numbered := g.numbered ∘ h.numbered
  cycles k x hx := by
    obtain ⟨n,hn⟩ := h.cycles k x hx
    obtain ⟨m,hm⟩ := g.cycles k _ hn
    refine ⟨m,?_⟩
    rw [hm]
    dsimp only
    rcases apart k with still | still <;> rw [still,sub_self,credit_zero,beside_zero]
  missing k hx := g.missing k (h.missing k hx)
  budgets f k zero := by
    rw [g.budgets f k zero,h.budgets f k zero]
    rcases apart k with e | e <;> rw [e] <;> simp [zero]
  energies f k zero := (g.energies f k zero).trans (h.energies f k zero)
  entries := by
    obtain ⟨first,hfirst,own⟩ := h.entries
    obtain ⟨second,hsecond,then_⟩ := g.entries
    refine ⟨first ++ second,by rw [hsecond,hfirst,List.append_assoc],?_⟩
    intro e he
    rcases List.mem_append.mp he with he | he
    · obtain ⟨type,energy,moved,delta⟩ := own e he
      refine ⟨type,energy,moved,?_⟩
      rcases apart e.cycleId with still | still
      · rw [still,sub_self] at delta
        exact absurd delta moved
      · rw [still,delta]
    · obtain ⟨type,energy,moved,delta⟩ := then_ e he
      refine ⟨type,energy,moved,?_⟩
      rcases apart e.cycleId with still | still
      · rw [← still,delta]
      · rw [still,sub_self] at delta
        exact absurd delta moved

theorem Shift.held {a b : Books} (h : Shift a b) {k : String}
    (same : credited b k = credited a k) : held b (some k) = held a (some k) := by
  unfold Ledger.held
  rw [Option.bind_some,Option.bind_some]
  cases hk : a.cycles.get? k with
  | none => rw [h.missing k hk]
  | some c =>
    obtain ⟨n,hn⟩ := h.cycles k c hk
    rw [hn]
    simp [same]

/-- The drawn identifier was never used, so the carried difference is fresh. -/
theorem existing?_carryEffect (cfg : Config) (books : Books) (k : String) (d : ℚ) :
    existing? books (carryEffect cfg books k d) = none := by
  unfold existing?
  rw [List.find?_eq_none]
  intro e he same
  have own : e.idpk = cfg.uuid4 (books.ledger.map LedgerEntry.idpk) := (of_decide_eq_true same).1
  apply cfg.fresh (books.ledger.map LedgerEntry.idpk)
  rw [← own]
  exact List.mem_map_of_mem he

theorem shift_posted {cfg : Config} {books : Books} {cycle : Cycle} {k : String} {d : ℚ}
    (found : books.cycles.get? k = some cycle) (moved : d ≠ 0) :
    Shift books (posted books cycle (carryEffect cfg books k d)) := by
  have at_ : books.cycles.get? (carryEffect cfg books k d).cycleId = some cycle := found
  have amount (x : String) : credited (posted books cycle (carryEffect cfg books k d)) x -
      credited books x = if k = x then d else 0 := by
    rw [credited_posted]
    simp [carryEffect]
  refine ⟨places_posted at_,numbered_posted at_,?_,?_,?_,?_,[nextEntry cycle _],rfl,?_⟩
  · intro x c hx
    rw [get?_posted at_,amount]
    by_cases h : x = k
    · cases h
      cases found.symm.trans hx
      refine ⟨cycle.lastSequence + 1,?_⟩
      rw [if_pos (show k = (carryEffect cfg books k d).cycleId from rfl),if_pos rfl,credit,
        if_neg moved,beside,if_neg moved]
      rfl
    · exact ⟨c.lastSequence,by simp [carryEffect,h,Ne.symm h,hx]⟩
  · intro x hx
    rw [get?_posted at_]
    by_cases h : x = k
    · cases h
      cases found.symm.trans hx
    · exact (if_neg h).trans hx
  · intro f x zero
    rw [budgetTotal_posted,amount]
    by_cases h : k = x
    · rw [if_pos h]
      exact congrArg _ (if_pos h)
    · rw [if_neg h,zero]
      exact congrArg _ (if_neg h)
  · intro f x zero
    rw [energyTotal_posted]
    simp [carryEffect,zero]
  · intro e he
    cases List.mem_singleton.mp he
    refine ⟨rfl,rfl,moved,?_⟩
    rw [amount]
    exact (if_pos rfl).symm

theorem carryInto_eq (cfg : Config) (books : Books) (previous : Option String) (k : String) :
    carryInto cfg books previous k =
      if plus (held books previous) (-credited books k) = 0 then .ok books
      else (post books (carryEffect cfg books k
        (plus (held books previous) (-credited books k)))).map Prod.fst := by
  unfold carryInto held
  cases previous.bind books.cycles.get? <;> rfl

/-- One turn brings its cycle what the previous one holds beyond its credit. -/
theorem carryInto_spec (cfg : Config) {books : Books} {cycle : Cycle} {k : String}
    (previous : Option String) (numbered : Numbered books)
    (found : books.cycles.get? k = some cycle) :
    ∃ books', carryInto cfg books previous k = .ok books' ∧ Shift books books' ∧
      credited books' k = credited books k + plus (held books previous) (-credited books k) ∧
      ∀ x ≠ k, credited books' x = credited books x := by
  rw [carryInto_eq]
  by_cases same : plus (held books previous) (-credited books k) = 0
  · rw [if_pos same]
    exact ⟨books,rfl,.refl books,by rw [same,add_zero],fun _ _ => rfl⟩
  · rw [if_neg same,post_fresh numbered found (existing?_carryEffect ..)]
    refine ⟨_,rfl,shift_posted found same,?_,?_⟩
    · rw [credited_posted]
      simp [carryEffect]
    · intro x hx
      rw [credited_posted]
      simp [carryEffect,Ne.symm hx]

/-- Along the list, every cycle was credited what the one before it holds. -/
def Carried (books : Books) : Option String → List String → Prop
  | _, [] => True
  | previous, k :: rest => credited books k = held books previous ∧ Carried books (some k) rest

theorem Carried.congr {a b : Books} {previous : Option String} {l : List String}
    (first : held b previous = held a previous)
    (same : ∀ k ∈ l, credited b k = credited a k ∧ held b (some k) = held a (some k))
    (h : Carried a previous l) : Carried b previous l := by
  induction l generalizing previous with
  | nil => trivial
  | cons k rest ih =>
    have own := same k (List.mem_cons_self ..)
    exact ⟨by rw [own.1,first,h.1],
      ih own.2 (fun x hx => same x (List.mem_cons_of_mem _ hx)) h.2⟩

/-- Along the list, every cycle got what the one before it holds beyond its credit. -/
def Credits (old new : Books) : Option String → List String → Prop
  | _, [] => True
  | previous, k :: rest =>
      credited new k = credited old k + plus (held new previous) (-credited old k) ∧
        Credits old new (some k) rest

theorem Credits.congr {old mid new : Books} {previous : Option String} {l : List String}
    (same : ∀ k ∈ l, credited mid k = credited old k) (h : Credits mid new previous l) :
    Credits old new previous l := by
  induction l generalizing previous with
  | nil => trivial
  | cons k rest ih =>
    refine ⟨?_,ih (fun x hx => same x (List.mem_cons_of_mem _ hx)) h.2⟩
    rw [h.1,same k (List.mem_cons_self ..)]

/-- The loop succeeds and gives the whole chain its money. -/
theorem carryAll_spec (cfg : Config) (l : List String) {books : Books} (previous : Option String)
    (numbered : Numbered books) (present : ∀ k ∈ l, (books.cycles.get? k).isSome)
    (distinct : l.Nodup) (before : ∀ p ∈ previous, p ∉ l) :
    ∃ books', carryAll cfg books previous l = .ok books' ∧ Shift books books' ∧
      Credits books books' previous l ∧ ∀ k ∉ l, credited books' k = credited books k := by
  induction l generalizing books previous with
  | nil => exact ⟨books,rfl,.refl books,trivial,fun _ _ => rfl⟩
  | cons k rest ih =>
    rw [List.nodup_cons] at distinct
    obtain ⟨cycle,found⟩ := Option.isSome_iff_exists.mp (present k (List.mem_cons_self ..))
    obtain ⟨mid,hmid,first,own,others⟩ := carryInto_spec cfg previous numbered found
    have still (x : String) (hx : x ∈ rest) : (mid.cycles.get? x).isSome := by
      obtain ⟨c,hc⟩ := Option.isSome_iff_exists.mp (present x (List.mem_cons_of_mem _ hx))
      obtain ⟨n,hn⟩ := first.cycles x c hc
      rw [hn]
      rfl
    obtain ⟨last,hlast,then_,chain,kept⟩ := ih (some k) (first.numbered numbered) still distinct.2
      (fun p hp => by cases hp; exact distinct.1)
    have keptAt : credited last k = credited mid k := kept k distinct.1
    have later (x : String) (hx : x ∈ rest) : credited mid x = credited books x :=
      others x fun same => distinct.1 (same ▸ hx)
    refine ⟨last,?_,first.trans then_ ?_,⟨?_,chain.congr later⟩,?_⟩
    · unfold carryAll
      rw [hmid]
      exact hlast
    · intro x
      by_cases hx : x = k
      · exact .inr (hx ▸ keptAt)
      · exact .inl (others x hx)
    · rw [keptAt,own]
      cases previous with
      | none => rfl
      | some p =>
        have hp := before p rfl
        rw [List.mem_cons,not_or] at hp
        rw [then_.held (kept p hp.2),first.held (others p hp.1)]
    · intro x hx
      rw [List.mem_cons,not_or] at hx
      rw [kept x hx.2,others x hx.1]

/-- A carried chain needs no further entry. -/
theorem carryAll_carried (cfg : Config) {books : Books} {l : List String}
    {previous : Option String} (h : Carried books previous l) :
    carryAll cfg books previous l = .ok books := by
  induction l generalizing previous with
  | nil => rfl
  | cons k rest ih =>
    have turn : carryInto cfg books previous k = .ok books := by
      rw [carryInto_eq,h.1,plus_neg_self,if_pos rfl]
    unfold carryAll
    rw [turn]
    exact ih h.2

/-- The budgets are whole cents. -/
structure Whole (books : Books) : Prop where
  cycle : ∀ c ∈ books.cycles, Cents c.budgetBalance
  entry : ∀ e ∈ books.ledger, Cents e.budgetDelta

section Whole
variable {books books' : Books}

theorem Whole.credited (h : Whole books) (k : String) : Cents (Ledger.credited books k) := by
  refine Cents.sum fun q hq => ?_
  obtain ⟨e,he,rfl⟩ := List.mem_map.mp hq
  exact h.entry e (List.mem_of_mem_filter he)

theorem Whole.held (h : Whole books) (previous : Option String) :
    Cents (Ledger.held books previous) := by
  unfold Ledger.held
  cases found : previous.bind books.cycles.get? with
  | none => exact Cents.zero
  | some c =>
    obtain ⟨k,_,hk⟩ := Option.bind_eq_some_iff.mp found
    exact h.cycle c (Table.mem_of_get? hk)

theorem whole_posted {effect : Effect} {cycle : Cycle} (h : Whole books)
    (found : books.cycles.get? effect.cycleId = some cycle) (cents : Cents effect.budgetDelta) :
    Whole (posted books cycle effect) := by
  have own := h.cycle cycle (Table.mem_of_get? found)
  constructor
  · intro c hc
    have stored := Table.get?_of_mem hc
    rw [get?_posted found] at stored
    split at stored
    · cases stored
      show Cents (plus cycle.budgetBalance effect.budgetDelta)
      rw [plus_cents own cents]
      exact own.add cents
    · exact h.cycle c (Table.mem_of_get? stored)
  · intro e he
    rcases List.mem_append.mp he with old | new
    · exact h.entry e old
    · rw [List.mem_singleton.mp new]
      exact cents

theorem whole_carryInto {cfg : Config} {previous : Option String} {k : String} (h : Whole books)
    (turn : carryInto cfg books previous k = .ok books') : Whole books' := by
  rw [carryInto_eq] at turn
  split at turn
  · cases turn
    exact h
  · obtain ⟨⟨_,entry,applied⟩,done,rfl⟩ := Fallible.map_ok.mp turn
    rcases post_cases done with ⟨_,same,_⟩ | ⟨_,_,cycle,found,same⟩
    · exact same ▸ h
    · dsimp only
      rw [same]
      refine whole_posted h found ?_
      show Cents (plus _ _)
      rw [plus_cents (h.held previous) (h.credited k).neg]
      exact (h.held previous).add (h.credited k).neg

/-- The money of a chain in whole cents is carried in whole cents. -/
theorem whole_carryAll {cfg : Config} {l : List String} {previous : Option String} (h : Whole books)
    (all : carryAll cfg books previous l = .ok books') : Whole books' := by
  induction l generalizing books previous with
  | nil =>
    cases all
    exact h
  | cons k rest ih =>
    obtain ⟨mid,turn,all⟩ := Fallible.bind_ok.mp all
    exact ih (whole_carryInto h turn) all

/-- In whole cents, each cycle is left credited what the one before it holds. -/
theorem Credits.carried {previous : Option String} {l : List String} (before : Whole books)
    (after : Whole books') (h : Credits books books' previous l) : Carried books' previous l := by
  induction l generalizing previous with
  | nil => trivial
  | cons k rest ih =>
    refine ⟨?_,ih h.2⟩
    rw [h.1,plus_cents (after.held previous) (before.credited k).neg]
    ring

theorem Shift.whole (h : Shift books books') (before : Whole books) (after : Whole books')
    (k : String) (c : Cycle) (hk : books.cycles.get? k = some c) :
    let came := Ledger.credited books' k - Ledger.credited books k
    ∃ n, books'.cycles.get? k = some { c with
      budgetBalance := c.budgetBalance + came
      energyBalance := beside c.energyBalance came
      lastSequence := n } := by
  obtain ⟨n,hn⟩ := h.cycles k c hk
  rw [credit_cents (before.cycle c (Table.mem_of_get? hk))
    ((after.credited k).sub (before.credited k))] at hn
  exact ⟨n,hn⟩

end Whole

theorem held_some {books : Books} {k : String} {c : Cycle} (h : books.cycles.get? k = some c) :
    held books (some k) = c.budgetBalance := by
  unfold held
  rw [Option.bind_some,h]
  rfl

/-- In a carried chain a cycle was credited the worth of all before it. -/
theorem Carried.credited_eq {books : Books} {worth : String → ℚ} {l : List String}
    {previous : Option String} (h : Carried books previous l)
    (balanced : ∀ k ∈ l, held books (some k) = worth k + credited books k) :
    ∀ k ∈ l, credited books k =
      held books previous + ((l.takeWhile (· ≠ k)).map worth).sum := by
  induction l generalizing previous with
  | nil => simp
  | cons first rest ih =>
    intro k hk
    by_cases same : k = first
    · cases same
      rw [List.takeWhile_cons]
      simp [h.1]
    · have tail := ih h.2 (fun x hx => balanced x (List.mem_cons_of_mem _ hx)) k
        ((List.mem_cons.mp hk).resolve_left same)
      rw [tail,balanced first (List.mem_cons_self ..),h.1,List.takeWhile_cons]
      simp only [ne_eq,Ne.symm same,not_false_eq_true,decide_true,if_true,List.map_cons,
        List.sum_cons]
      ring

/-- The last cycle of a carried chain holds the worth of all of them. -/
theorem Carried.last_eq {books : Books} {worth : String → ℚ} {l : List String}
    {previous : Option String} (h : Carried books previous l)
    (balanced : ∀ k ∈ l, held books (some k) = worth k + credited books k) :
    held books (l.getLast?.or previous) = held books previous + (l.map worth).sum := by
  induction l generalizing previous with
  | nil => simp
  | cons first rest ih =>
    have tail := ih h.2 fun x hx => balanced x (List.mem_cons_of_mem _ hx)
    have own := balanced first (List.mem_cons_self ..)
    rw [List.map_cons,List.sum_cons]
    cases hr : rest.getLast? with
    | none =>
      have empty := List.getLast?_eq_none_iff.mp hr
      subst empty
      rw [own,h.1] at tail
      simp only [List.getLast?_singleton,Option.some_or,List.map_nil,List.sum_nil,add_zero]
      rw [own,h.1]
      ring
    | some last =>
      rw [hr,own,h.1] at tail
      rw [List.getLast?_cons,hr]
      simp only [Option.getD_some,Option.some_or] at tail ⊢
      rw [tail]
      ring

def openedIds (books : Books) : List String := (openedCycles books).map Cycle.cycleId

/-- The chronology only reads the places of the cycles. -/
theorem openedCycles_places (books : Books) :
    (openedCycles books).map place =
      ((books.cycles.rows.map place).filter fun p => p.2.1.isSome && p.2.2.isSome).insertionSort
        fun a b => a.2.2.getD 0 ≤ b.2.2.getD 0 := by
  unfold openedCycles
  rw [List.filter_map]
  exact List.map_insertionSort _ _ place _ fun _ _ _ _ => Iff.rfl

theorem places_ids (books : Books) : openedIds books = ((openedCycles books).map place).map Prod.fst := by
  rw [List.map_map]
  rfl

theorem places_deadlines (books : Books) : (openedCycles books).map Cycle.validUntil =
    ((openedCycles books).map place).map fun p => p.2.2 := by
  rw [List.map_map]
  rfl

theorem openedCycles_congr {a b : Books}
    (h : b.cycles.rows.map place = a.cycles.rows.map place) :
    openedIds b = openedIds a ∧
      (openedCycles b).map Cycle.validUntil = (openedCycles a).map Cycle.validUntil := by
  rw [places_ids,places_ids,places_deadlines,places_deadlines,openedCycles_places,
    openedCycles_places,h]
  exact ⟨rfl,rfl⟩

theorem mem_openedIds {books : Books} {k : String} : k ∈ openedIds books ↔
    ∃ c, books.cycles.get? k = some c ∧ c.statusIdpk.isSome ∧ c.validUntil.isSome := by
  unfold openedIds openedCycles
  rw [List.mem_map]
  constructor
  · rintro ⟨c,hc,rfl⟩
    rw [List.mem_insertionSort,List.mem_filter,Bool.and_eq_true] at hc
    exact ⟨c,Table.get?_of_mem (t := books.cycles) hc.1,hc.2⟩
  · rintro ⟨c,hc,opened⟩
    refine ⟨c,?_,Table.key_of_get? hc⟩
    rw [List.mem_insertionSort,List.mem_filter,Bool.and_eq_true]
    exact ⟨Table.mem_of_get? hc,opened⟩

theorem nodup_openedIds (books : Books) : (openedIds books).Nodup := by
  unfold openedIds openedCycles
  rw [((List.perm_insertionSort _ _).map Cycle.cycleId).nodup_iff]
  exact books.cycles.nodup.sublist (List.filter_sublist.map _)

/-- Opened cycles do not share a deadline. -/
def Chronological (books : Books) : Prop := ((openedCycles books).map Cycle.validUntil).Nodup

theorem synchronize_spec (cfg : Config) {books : Books} (numbered : Numbered books)
    (distinct : Chronological books) :
    ∃ books', synchronizeBudgetCarryover cfg books = .ok books' ∧ Shift books books' ∧
      Credits books books' none (openedIds books) ∧
      ∀ k ∉ openedIds books, credited books' k = credited books k := by
  have present (k : String) (hk : k ∈ openedIds books) : (books.cycles.get? k).isSome := by
    obtain ⟨c,hc,_⟩ := mem_openedIds.mp hk
    rw [hc]
    rfl
  obtain ⟨books',h,rest⟩ := carryAll_spec cfg (openedIds books) none numbered present
    (nodup_openedIds books) (fun p hp => nomatch hp)
  refine ⟨books',?_,rest⟩
  unfold synchronizeBudgetCarryover
  exact (if_pos distinct).trans h

theorem synchronize_chronological {cfg : Config} {books books' : Books}
    (h : synchronizeBudgetCarryover cfg books = .ok books') : Chronological books := by
  unfold synchronizeBudgetCarryover at h
  dsimp only at h
  split at h
  · assumption
  · cases h

/-- What a cycle was given besides what was carried into it. -/
def uncarried (books : Books) (k : String) : ℚ :=
  ((books.ledger.filter fun e => e.cycleId = k ∧ e.operationType ≠ .budgetCarryover).map
    LedgerEntry.budgetDelta).sum

def openingOf (books : Books) (k : String) : ℚ :=
  ((books.cycles.get? k).map Cycle.openingBudgetBalance).getD 0

def worth (books : Books) (k : String) : ℚ := openingOf books k + uncarried books k

/-- Every budget is its opening and its entries. -/
def Balanced (books : Books) : Prop :=
  ∀ k c, books.cycles.get? k = some c →
    c.budgetBalance = c.openingBudgetBalance + budgetTotal id books k

theorem credited_add_uncarried (books : Books) (k : String) :
    credited books k + uncarried books k = budgetTotal id books k := by
  unfold credited uncarried budgetTotal entriesOf
  induction books.ledger with
  | nil => simp
  | cons e l ih =>
    by_cases own : e.cycleId = k
    · by_cases carry : e.operationType = .budgetCarryover
      · simp only [List.filter_cons,own,carry,and_self,decide_true,if_true,List.map_cons,
          List.sum_cons,ne_eq,not_true_eq_false,and_false,decide_false,Bool.false_eq_true,
          if_false,id_eq] at ih ⊢
        rw [← ih]
        ring
      · simp only [List.filter_cons,own,carry,and_self,and_false,decide_true,decide_false,
          if_true,List.map_cons,List.sum_cons,ne_eq,not_false_eq_true,Bool.false_eq_true,
          if_false,id_eq] at ih ⊢
        rw [← ih]
        ring
    · simpa [List.filter_cons,own] using ih

theorem Shift.worth {a b : Books} (h : Shift a b) (k : String) :
    Ledger.worth b k = Ledger.worth a k := by
  have total := h.budgets id k rfl
  have before := credited_add_uncarried a k
  have after := credited_add_uncarried b k
  have opening : openingOf b k = openingOf a k := by
    unfold openingOf
    cases hk : a.cycles.get? k with
    | none => rw [h.missing k hk]
    | some c =>
      obtain ⟨n,hn⟩ := h.cycles k c hk
      rw [hn]
      rfl
  unfold Ledger.worth
  rw [opening]
  rw [id_eq] at total
  linarith

theorem Shift.balanced {a b : Books} (h : Shift a b) (before : Whole a) (after : Whole b)
    (balanced : Balanced a) : Balanced b := by
  intro k c hc
  cases hk : a.cycles.get? k with
  | none =>
    rw [h.missing k hk] at hc
    cases hc
  | some old =>
    obtain ⟨n,hn⟩ := h.whole before after k old hk
    cases hn.symm.trans hc
    dsimp only
    rw [h.budgets id k rfl,balanced k old hk,id_eq]
    ring

theorem Balanced.held {books : Books} (balanced : Balanced books) {k : String}
    (hk : k ∈ openedIds books) :
    Ledger.held books (some k) = worth books k + credited books k := by
  obtain ⟨c,hc,_⟩ := mem_openedIds.mp hk
  have total := credited_add_uncarried books k
  have own : openingOf books k = c.openingBudgetBalance := by
    unfold openingOf
    rw [hc]
    rfl
  unfold worth
  rw [held_some hc,balanced k c hc,own]
  linarith

theorem synchronize_shift {cfg : Config} {books books' : Books} (numbered : Numbered books)
    (h : synchronizeBudgetCarryover cfg books = .ok books') :
    Shift books books' ∧ Credits books books' none (openedIds books) ∧
      ∀ k ∉ openedIds books, credited books' k = credited books k := by
  obtain ⟨done,hdone,spec⟩ := synchronize_spec cfg numbered (synchronize_chronological h)
  cases hdone.symm.trans h
  exact spec

theorem synchronize_whole {cfg : Config} {books books' : Books} (numbered : Numbered books)
    (whole : Whole books) (h : synchronizeBudgetCarryover cfg books = .ok books') :
    Whole books' ∧ Carried books' none (openedIds books') := by
  obtain ⟨shift,credits,_⟩ := synchronize_shift numbered h
  unfold synchronizeBudgetCarryover at h
  dsimp only at h
  split at h
  · have after := whole_carryAll whole h
    rw [(openedCycles_congr shift.places).1]
    exact ⟨after,credits.carried whole after⟩
  · cases h

/-- What an applied effect does: its entry, and the carryover it sets off. -/
theorem applyLedgerEffect_cases {cfg : Config} {books books' : Books} {effect : Effect}
    {entry : LedgerEntry} {applied : Bool}
    (h : applyLedgerEffect cfg books effect = .ok (books',entry,applied)) :
    (books' = books ∧ existing? books effect = some entry) ∨
      ∃ cycle, books.cycles.get? effect.cycleId = some cycle ∧ existing? books effect = none ∧
        (effect.budgetDelta = 0 ∧ books' = posted books cycle effect ∨ effect.budgetDelta ≠ 0 ∧
          synchronizeBudgetCarryover cfg (posted books cycle effect) = .ok books') := by
  unfold applyLedgerEffect at h
  obtain ⟨⟨mid,old,fresh⟩,hp,rest⟩ := Fallible.bind_ok.mp h
  clear h
  dsimp only at rest
  rcases post_cases hp with ⟨rfl,rfl,replayed⟩ | ⟨rfl,new,cycle,found,rfl⟩
  · rw [if_neg (by simp)] at rest
    cases rest
    exact .inl ⟨rfl,replayed⟩
  · refine .inr ⟨cycle,found,new,?_⟩
    by_cases still : effect.budgetDelta = 0
    · rw [if_neg (by simp [still])] at rest
      cases rest
      exact .inl ⟨still,rfl⟩
    · rw [if_pos ⟨rfl,still⟩] at rest
      obtain ⟨done,hd,rest⟩ := Fallible.bind_ok.mp rest
      cases rest
      exact .inr ⟨still,hd⟩

end Ledger

end EnergyNode
