import EnergyNode.BookRules
import EnergyNode.Lib.Run
import EnergyNode.Lib.Sorting
import EnergyNode.StoredLedger

/-! Versions of the strategy (AD6): how one is created, and what any order of
creations and openings leaves. The cycle a version is bound to decides it by its
official opening hour, not by the version in force. -/
namespace EnergyNode
open Lib

namespace Strategies

/-! ### A new version -/

structure Request where
  markup : Decimal
  fraction : Decimal
  bidAcceptancePolicy : String
  offerSelectionPolicy : String
  spanSeconds : Int
  priceOverride : Option Decimal := none
  quantityCap : Option Int := none
  expectedVersion : Option Nat := none

def finite? : Decimal → Option ℚ
  | .finite q => some q
  | .special => none

/-- What the columns hold of a request: four decimals, or cents. -/
structure Terms where
  markup : ℚ
  fraction : ℚ
  bidAcceptancePolicy : String
  offerSelectionPolicy : String
  spanSeconds : Int
  priceOverride : Option ℚ
  quantityCap : Option Int
deriving DecidableEq

def priceOverride : Option Decimal → Result (Option ℚ)
  | none => .ok none
  | some value =>
      match (finite? value).filter (0 < ·) with
      | none => .error (.value "offer_price_override debe ser positivo y finito")
      | some price =>
          match quantized Decimal.precision price with
          | none => .error .type
          | some cents =>
              if cents = price then .ok (some price)
              else .error (.value "offer_price_override debe expresarse en centavos")

/-- Largest value of an Integer column. -/
def maxInteger : Int := 2 ^ 31 - 1

def terms (r : Request) : Result Terms := do
  let some markup := (finite? r.markup).filter (0 < ·)
    | throw (.value "offer_price_markup debe ser positivo y finito")
  let some fraction := (finite? r.fraction).filter fun q => 0 ≤ q ∧ q ≤ 1
    | throw (.value "offer_quantity_fraction debe estar entre 0 y 1")
  unless r.bidAcceptancePolicy ∈ ["FIFO","MAX_REMAINING","BATCH"] do
    throw (.value "politica de aceptacion desconocida")
  unless r.offerSelectionPolicy ∈ ["CHEAPEST_EFFECTIVE_PRICE","MIN_DISTANCE"] do
    throw (.value "politica de seleccion desconocida")
  if r.spanSeconds < 0 then throw (.value "span_seconds debe ser un entero no negativo")
  let priceOverride ← priceOverride r.priceOverride
  if r.quantityCap.any (· < 0) then
    throw (.value "offer_quantity_cap debe ser entero no negativo")
  return {
    markup := StoredLedger.storedPrice markup
    fraction := StoredLedger.storedPrice fraction
    bidAcceptancePolicy := r.bidAcceptancePolicy
    offerSelectionPolicy := r.offerSelectionPolicy
    spanSeconds := r.spanSeconds
    priceOverride := priceOverride
    quantityCap := r.quantityCap }

/-- The insertion is refused when a value does not fit its column. -/
def fits (t : Terms) : Bool :=
  t.markup < 10 ^ 6 && t.priceOverride.all (· < 10 ^ 18) && t.spanSeconds ≤ maxInteger &&
    t.quantityCap.all (· ≤ maxInteger)

def pendingVersion (version : Nat) (t : Terms) (now : Instant) : StrategyConfig where
  version := version
  status := "PENDING"
  createdAt := now
  bidAcceptancePolicy := t.bidAcceptancePolicy
  offerSelectionPolicy := t.offerSelectionPolicy
  spanSeconds := t.spanSeconds
  offerPriceMarkup := t.markup
  offerQuantityFraction := t.fraction
  offerPriceOverride := t.priceOverride
  offerQuantityCap := t.quantityCap

/-- `create_pending_strategy`. -/
def createPending (strategies : Table) (r : Request) (now : Instant) : Result Table := do
  let t ← terms r
  let strategies := ensureInitial strategies now
  let some current := newest strategies.rows | throw .type
  if r.expectedVersion.any (· ≠ current.version) then throw (.value "Version obsoleta")
  unless fits t do throw .database
  match strategies.insert? (pendingVersion (current.version + 1) t now) with
  | some strategies => return strategies
  | none => throw .database

/-! ### The newest and the oldest of a list -/

section Order
variable {configs : List StrategyConfig} {s : StrategyConfig}

instance : Std.Total fun a b : StrategyConfig => b.version ≤ a.version :=
  ⟨fun a b => Nat.le_total b.version a.version⟩

instance : IsTrans StrategyConfig fun a b => b.version ≤ a.version :=
  ⟨fun _ _ _ h k => Nat.le_trans k h⟩

instance : Std.Total fun a b : StrategyConfig => a.version ≤ b.version :=
  ⟨fun a b => Nat.le_total a.version b.version⟩

instance : IsTrans StrategyConfig fun a b => a.version ≤ b.version :=
  ⟨fun _ _ _ h k => Nat.le_trans h k⟩

theorem newest_some (h : newest configs = some s) :
    s ∈ configs ∧ ∀ other ∈ configs, other.version ≤ s.version :=
  head?_insertionSort (fun a b : StrategyConfig => b.version ≤ a.version) h

theorem newest_none (h : newest configs = none) : configs = [] :=
  (head?_insertionSort_eq_none fun a b : StrategyConfig => b.version ≤ a.version).mp h

end Order

/-! ### The versions of a city -/

/-- One version is in force; the smaller ones are over, the larger ones wait. -/
def InForce (strategies : Table) (active : StrategyConfig) : Prop :=
  active ∈ strategies ∧ active.status = "ACTIVE" ∧ ∀ s ∈ strategies,
    (s.version < active.version → s.status = "ARCHIVED") ∧
      (active.version < s.version → s.status = "PENDING")

def Versioned (strategies : Table) : Prop :=
  strategies.rows = [] ∨ ∃ active, InForce strategies active

theorem InForce.version_eq {strategies : Table} {active s : StrategyConfig}
    (h : InForce strategies active) (hs : s ∈ strategies) (status : s.status = "ACTIVE") :
    s = active := by
  apply Table.eq_of_key hs h.1
  rcases Nat.lt_trichotomy s.version active.version with lt | eq | gt
  · have stood := (h.2.2 s hs).1 lt
    rw [status] at stood
    exact absurd stood (by decide)
  · exact eq
  · have stood := (h.2.2 s hs).2 gt
    rw [status] at stood
    exact absurd stood (by decide)

theorem Versioned.one {strategies : Table} (h : Versioned strategies) :
    ∀ a ∈ strategies, ∀ b ∈ strategies, a.status = "ACTIVE" → b.status = "ACTIVE" → a = b := by
  intro a ha b hb sa sb
  rcases h with empty | ⟨active,force⟩
  · rw [Table.mem_rows,empty] at ha
    exact absurd ha List.not_mem_nil
  · exact (force.version_eq ha sa).trans (force.version_eq hb sb).symm

/-- What a version says, beside its state. -/
structure SameTerms (s s' : StrategyConfig) : Prop where
  version : s'.version = s.version
  createdAt : s'.createdAt = s.createdAt
  markup : s'.offerPriceMarkup = s.offerPriceMarkup
  fraction : s'.offerQuantityFraction = s.offerQuantityFraction
  bidAcceptancePolicy : s'.bidAcceptancePolicy = s.bidAcceptancePolicy
  offerSelectionPolicy : s'.offerSelectionPolicy = s.offerSelectionPolicy
  spanSeconds : s'.spanSeconds = s.spanSeconds
  priceOverride : s'.offerPriceOverride = s.offerPriceOverride
  quantityCap : s'.offerQuantityCap = s.offerQuantityCap

theorem SameTerms.refl (s : StrategyConfig) : SameTerms s s :=
  ⟨rfl,rfl,rfl,rfl,rfl,rfl,rfl,rfl,rfl⟩

/-- No version disappears or changes its terms, and the one in force grows. -/
structure Succeeds (a b : Table) : Prop where
  terms : ∀ s ∈ a, ∃ s' ∈ b, SameTerms s s'
  active : ∀ s, InForce a s → ∃ s', InForce b s' ∧ s.version ≤ s'.version

theorem Succeeds.refl (strategies : Table) : Succeeds strategies strategies :=
  ⟨fun s h => ⟨s,h,.refl s⟩,fun s h => ⟨s,h,le_rfl⟩⟩

theorem Succeeds.trans {a b c : Table} (h : Succeeds a b) (k : Succeeds b c) : Succeeds a c where
  terms s hs := by
    obtain ⟨s',hs',e⟩ := h.terms s hs
    obtain ⟨s'',hs'',e'⟩ := k.terms s' hs'
    exact ⟨s'',hs'',e'.version.trans e.version,e'.createdAt.trans e.createdAt,
      e'.markup.trans e.markup,e'.fraction.trans e.fraction,
      e'.bidAcceptancePolicy.trans e.bidAcceptancePolicy,
      e'.offerSelectionPolicy.trans e.offerSelectionPolicy,e'.spanSeconds.trans e.spanSeconds,
      e'.priceOverride.trans e.priceOverride,e'.quantityCap.trans e.quantityCap⟩
  active s hs := by
    obtain ⟨s',hs',le⟩ := h.active s hs
    obtain ⟨s'',hs'',le'⟩ := k.active s' hs'
    exact ⟨s'',hs'',le.trans le'⟩

theorem InForce.unique {strategies : Table} {a b : StrategyConfig} (ha : InForce strategies a)
    (hb : InForce strategies b) : a = b := hb.version_eq ha.1 ha.2.1

theorem ensureInitial_versioned {strategies : Table} (h : Versioned strategies) (now : Instant) :
    (∃ active, InForce (ensureInitial strategies now) active) ∧
      Succeeds strategies (ensureInitial strategies now) := by
  unfold ensureInitial
  split
  · rename_i s hs
    rcases h with empty | some
    · have mem := (newest_some hs).1
      rw [empty] at mem
      exact absurd mem List.not_mem_nil
    · exact ⟨some,.refl _⟩
  · rename_i missing
    have empty := newest_none missing
    have free : strategies.get? (initial now).version = none := by
      rw [Table.get?_eq_none]
      intro s hs
      rw [Table.mem_rows,empty] at hs
      exact absurd hs List.not_mem_nil
    have inserted : strategies.insert? (initial now) = some (strategies.insert (initial now) free) :=
      Table.insert?_eq_some.mpr ⟨free,rfl⟩
    have only (s : StrategyConfig) : s ∈ strategies.insert (initial now) free ↔ s = initial now := by
      rw [Table.mem_insert,Table.mem_rows,empty]
      simp
    rw [inserted,Option.getD_some]
    refine ⟨⟨initial now,(only _).mpr rfl,rfl,fun s hs => ?_⟩,fun s hs => ?_,fun s hs => ?_⟩
    · obtain rfl := (only s).mp hs
      exact ⟨fun lt => absurd lt (lt_irrefl _),fun lt => absurd lt (lt_irrefl _)⟩
    · rw [Table.mem_rows,empty] at hs
      exact absurd hs List.not_mem_nil
    · have mem := hs.1
      rw [Table.mem_rows,empty] at mem
      exact absurd mem List.not_mem_nil

theorem createPending_versioned {strategies strategies' : Table} {r : Request} {now : Instant}
    (h : Versioned strategies) (created : createPending strategies r now = .ok strategies') :
    (∃ active, InForce strategies' active) ∧ Succeeds strategies strategies' := by
  obtain ⟨t,_,created⟩ := Fallible.bind_ok.mp created
  obtain ⟨⟨active,force⟩,succeeds⟩ := ensureInitial_versioned h now
  dsimp only at created
  split at created
  swap
  · cases created
  rename_i current hc
  obtain ⟨mem,top⟩ := newest_some hc
  simp only [Fallible.throw_bind,Fallible.refuse_ok,Fallible.require_ok] at created
  obtain ⟨_,_,created⟩ := created
  split at created
  swap
  · cases created
  rename_i inserted
  cases created
  obtain ⟨free,rfl⟩ := Table.insert?_eq_some.mp inserted
  let next := pendingVersion (current.version + 1) t now
  have member (s : StrategyConfig) : s ∈ (ensureInitial strategies now).insert next free ↔
      s ∈ ensureInitial strategies now ∨ s = next := Table.mem_insert
  have still {a : StrategyConfig} (ha : InForce (ensureInitial strategies now) a) :
      InForce ((ensureInitial strategies now).insert next free) a := by
    refine ⟨(member a).mpr (.inl ha.1),ha.2.1,fun s hs => ?_⟩
    rcases (member s).mp hs with old | rfl
    · exact ha.2.2 s old
    · have below : a.version < next.version := Nat.lt_succ_of_le (top a ha.1)
      exact ⟨fun above => absurd above (Nat.lt_asymm below),fun _ => rfl⟩
  refine ⟨⟨active,still force⟩,succeeds.trans ⟨fun s hs => ?_,fun a ha => ?_⟩⟩
  · exact ⟨s,(member s).mpr (.inl hs),.refl s⟩
  · exact ⟨a,still ha,le_rfl⟩

/-! ### The version of an opening -/

/-- The largest version created by the opening, or the smallest of all. -/
def Chosen (strategies : Table) (openedAt : Instant) (version : Nat) : Prop :=
  (∃ s ∈ strategies, s.version = version ∧ s.createdAt ≤ openedAt ∧
    ∀ other ∈ strategies, other.createdAt ≤ openedAt → other.version ≤ version) ∨
  ((∀ s ∈ strategies, openedAt < s.createdAt) ∧ ∃ s ∈ strategies, s.version = version ∧
    ∀ other ∈ strategies, version ≤ other.version)

/-- The choice reads the versions and their dates only. -/
theorem Chosen.kept {a b : Table} {openedAt : Instant} {version : Nat}
    (h : Chosen a openedAt version)
    (back : ∀ s' ∈ b, ∃ s ∈ a, s'.version = s.version ∧ s'.createdAt = s.createdAt)
    (on : ∀ s ∈ a, ∃ s' ∈ b, SameTerms s s') : Chosen b openedAt version := by
  rcases h with ⟨s,hs,key,before,top⟩ | ⟨late,s,hs,key,least⟩
  · obtain ⟨s',hs',same⟩ := on s hs
    refine .inl ⟨s',hs',same.version.trans key,same.createdAt.trans_le before,?_⟩
    intro other' hother' created
    obtain ⟨other,hother,version,date⟩ := back other' hother'
    rw [version]
    exact top other hother (date ▸ created)
  · obtain ⟨s',hs',same⟩ := on s hs
    refine .inr ⟨?_,s',hs',same.version.trans key,?_⟩
    · intro other' hother'
      obtain ⟨other,hother,_,date⟩ := back other' hother'
      rw [date]
      exact late other hother
    · intro other' hother'
      obtain ⟨other,hother,version,_⟩ := back other' hother'
      rw [version]
      exact least other hother

theorem atOpening_chosen {strategies : Table} {openedAt : Instant} {s : StrategyConfig}
    (h : atOpening strategies openedAt = some s) :
    s ∈ strategies ∧ Chosen strategies openedAt s.version := by
  unfold atOpening at h
  cases created : newest (strategies.rows.filter fun s => s.createdAt ≤ openedAt) with
  | some found =>
    rw [created] at h
    cases h
    obtain ⟨mem,top⟩ := newest_some created
    rw [List.mem_filter,decide_eq_true_eq] at mem
    refine ⟨mem.1,.inl ⟨s,mem.1,rfl,mem.2,fun other hother before => top other ?_⟩⟩
    exact List.mem_filter.mpr ⟨hother,by simpa using before⟩
  | none =>
    rw [created] at h
    obtain ⟨mem,least⟩ :=
      head?_insertionSort (fun a b : StrategyConfig => a.version ≤ b.version) h
    refine ⟨mem,.inr ⟨fun other hother => ?_,s,mem,rfl,least⟩⟩
    have missing := List.filter_eq_nil_iff.mp (newest_none created) other hother
    simpa using missing

/-- What a newer version leaves of the others. -/
theorem archived_status {old current : StrategyConfig} {version : Nat}
    (around : (old.version < version → old.status = "ARCHIVED") ∧
      (version < old.version → old.status = "PENDING"))
    (above : version < current.version) (own : old.version = version → old.status = "ACTIVE") :
    (old.version < current.version → (archived current old).status = "ARCHIVED") ∧
      (current.version < old.version → (archived current old).status = "PENDING") := by
  constructor
  · intro below
    rcases Nat.lt_trichotomy old.version version with lt | eq | gt
    · have stood := around.1 lt
      simp [archived,stood]
    · have active := own eq
      simp [archived,active]
    · have pending := around.2 gt
      simp [archived,pending,below]
  · intro beyond
    have pending := around.2 (above.trans beyond)
    simp [archived,pending,Nat.not_lt.mpr beyond.le]

/-- An older version becomes no version in force: only a waiting one takes over. -/
theorem activate_versioned {strategies : Table} {active current : StrategyConfig}
    (force : InForce strategies active) (mem : current ∈ strategies) (cycleId : String) :
    (∃ active', InForce (activate strategies current cycleId) active' ∧
      active.version ≤ active'.version) ∧
    ∀ s ∈ strategies, ∃ s' ∈ activate strategies current cycleId, SameTerms s s' := by
  unfold activate
  split
  · exact ⟨⟨active,force,le_rfl⟩,fun s hs => ⟨s,hs,.refl s⟩⟩
  rename_i pending
  rw [not_ne_iff] at pending
  dsimp only
  split
  · exact ⟨⟨active,force,le_rfl⟩,fun s hs => ⟨s,hs,.refl s⟩⟩
  have above : active.version < current.version := by
    rcases Nat.lt_trichotomy current.version active.version with lt | eq | gt
    · have stood := (force.2.2 current mem).1 lt
      rw [pending] at stood
      exact absurd stood (by decide)
    · have same : current = active := Table.eq_of_key mem force.1 eq
      rw [same,force.2.1] at pending
      exact absurd pending (by decide)
    · exact gt
  let next : StrategyConfig :=
    { current with status := "ACTIVE", effectiveFromCycleId := some cycleId }
  have member (s : StrategyConfig) : s ∈ (strategies.mapRows (archived current)
      (archived_version current)).set next ↔ (∃ old ∈ strategies, archived current old = s ∧
        s.version ≠ current.version) ∨ s = next := by
    rw [Table.mem_set]
    constructor
    · rintro (⟨hs,hne⟩ | ⟨rfl,_⟩)
      · obtain ⟨old,hold,rfl⟩ := Table.mem_mapRows.mp hs
        exact .inl ⟨old,hold,rfl,hne⟩
      · exact .inr rfl
    · rintro (⟨old,hold,rfl,hne⟩ | rfl)
      · exact .inl ⟨Table.mem_mapRows.mpr ⟨old,hold,rfl⟩,hne⟩
      · exact .inr ⟨rfl,archived current current,Table.mem_mapRows.mpr ⟨current,mem,rfl⟩,
          archived_version current current⟩
  refine ⟨⟨next,⟨(member next).mpr (.inr rfl),rfl,fun s hs => ?_⟩,above.le⟩,fun s hs => ?_⟩
  · rcases (member s).mp hs with ⟨old,hold,rfl,_⟩ | rfl
    · rw [archived_version]
      exact archived_status (force.2.2 old hold) above fun key => by
        rw [Table.eq_of_key hold force.1 key]
        exact force.2.1
    · exact ⟨fun lt => absurd lt (lt_irrefl _),fun lt => absurd lt (lt_irrefl _)⟩
  · by_cases key : s.version = current.version
    · have same : s = current := Table.eq_of_key hs mem key
      exact ⟨next,(member next).mpr (.inr rfl),same ▸ ⟨rfl,rfl,rfl,rfl,rfl,rfl,rfl,rfl,rfl⟩⟩
    · refine ⟨archived current s,(member _).mpr (.inl ⟨s,hs,rfl,?_⟩),?_⟩
      · rwa [archived_version]
      · unfold archived
        split
        · exact ⟨rfl,rfl,rfl,rfl,rfl,rfl,rfl,rfl,rfl⟩
        · exact .refl s

theorem archived_createdAt (current s : StrategyConfig) :
    (archived current s).createdAt = s.createdAt := by
  unfold archived
  split <;> rfl

theorem activate_versions {strategies : Table} {current : StrategyConfig}
    (mem : current ∈ strategies) (cycleId : String) :
    ∀ s' ∈ activate strategies current cycleId,
      ∃ s ∈ strategies, s'.version = s.version ∧ s'.createdAt = s.createdAt := by
  intro s' hs'
  unfold activate at hs'
  split at hs'
  · exact ⟨s',hs',rfl,rfl⟩
  dsimp only at hs'
  split at hs'
  · exact ⟨s',hs',rfl,rfl⟩
  rcases Table.mem_set.mp hs' with ⟨hs',_⟩ | ⟨rfl,_⟩
  · obtain ⟨s,hs,rfl⟩ := Table.mem_mapRows.mp hs'
    exact ⟨s,hs,archived_version current s,archived_createdAt current s⟩
  · exact ⟨current,mem,rfl,rfl⟩

/-- What one binding does: the versions go on, and a free cycle takes the version
of its opening. -/
theorem bind_spec {strategies strategies' : Table} {cycle cycle' : Cycle} {now : Instant}
    (h : Versioned strategies) (bound : bind strategies cycle now = .ok (strategies',cycle')) :
    Versioned strategies' ∧ Succeeds strategies strategies' ∧
      (strategies' = strategies ∧ cycle' = cycle ∧ cycle.strategyVersion.isSome ∨
        cycle.strategyVersion = none ∧ (∃ active, InForce strategies' active) ∧ ∃ version,
          cycle' = { cycle with strategyVersion := some version } ∧
            Chosen strategies' (cycle.marketOpensAt.getD now) version) := by
  unfold bind at bound
  split at bound
  · rename_i version hv
    split at bound <;> cases bound
    exact ⟨h,.refl _,.inl ⟨rfl,rfl,by rw [hv]; rfl⟩⟩
  rename_i free
  dsimp only at bound
  obtain ⟨⟨active,force⟩,succeeds⟩ := ensureInitial_versioned h now
  split at bound
  · cases bound
  rename_i current hc
  cases bound
  obtain ⟨mem,chosen⟩ := atOpening_chosen hc
  obtain ⟨⟨active',force',le⟩,same⟩ := activate_versioned force mem cycle.cycleId
  have next : Succeeds (ensureInitial strategies now)
      (activate (ensureInitial strategies now) current cycle.cycleId) :=
    ⟨same,fun s hs => ⟨active',force',by rw [hs.unique force]; exact le⟩⟩
  refine ⟨.inr ⟨active',force'⟩,succeeds.trans next,.inr ⟨free,⟨active',force'⟩,current.version,rfl,?_⟩⟩
  exact chosen.kept (activate_versions mem cycle.cycleId) same

/-! ### Runs -/

inductive Act where
  | create (r : Request) (now : Instant)
  /-- A cycle whose schedule has this opening hour. -/
  | bind (cycleId : String) (opensAt : Option Instant) (now : Instant)
  /-- The statement of a cycle, as it arrives. -/
  | statement (payload : Payload) (now : Instant)

def Act.now : Act → Instant
  | create _ now | bind _ _ now | statement _ now => now

def bindCycle (db : Db) (cycleId : String) (opensAt : Option Instant) (now : Instant) : Result Db :=
  let books := Opening.getOrCreateCycle db.books cycleId
  match books.cycles.get? cycleId with
  | none => .error .database
  | some cycle =>
      (Strategies.bind db.strategies { cycle with marketOpensAt := opensAt } now).map fun bound =>
        { db with
          books := { books with cycles := books.cycles.set bound.2 }
          strategies := bound.1 }

def step (cfg : Config) (db : Db) : Act → Db
  | .create r now =>
      match createPending db.strategies r now with
      | .ok strategies => { db with strategies := strategies }
      | .error _ => db
  | .bind cycleId opensAt now =>
      match bindCycle db cycleId opensAt now with
      | .ok db => db
      | .error _ => db
  | .statement payload now =>
      match Opening.applyStatement cfg db payload now with
      | .ok (some opened) => opened
      | _ => db

/-- A cycle keeps its version, and a version it takes is the one of its opening. -/
structure Binds (db db' : Db) (now : Instant) : Prop where
  kept : ∀ k c version, db.books.cycles.get? k = some c → c.strategyVersion = some version →
    ∃ c', db'.books.cycles.get? k = some c' ∧ c'.strategyVersion = some version
  chosen : ∀ k c' version, db'.books.cycles.get? k = some c' →
    c'.strategyVersion = some version →
      (∃ c, db.books.cycles.get? k = some c ∧ c.strategyVersion = some version) ∨
        Chosen db'.strategies (c'.marketOpensAt.getD now) version

def column (c : Cycle) : Option Nat × Option Instant := (c.strategyVersion,c.marketOpensAt)

section Steps
variable {cfg : Config} {db db' : Db} {now : Instant}

theorem Binds.of_cycles (h : db'.books.cycles = db.books.cycles) : Binds db db' now :=
  ⟨fun _ c _ hc hv => ⟨c,h ▸ hc,hv⟩,fun _ c _ hc hv => .inl ⟨c,h ▸ hc,hv⟩⟩

/-- A placeholder is bound to no version. -/
theorem placeholder_get? (books : Books) (k : String) {j : String} {c : Cycle} {version : Nat}
    (hv : c.strategyVersion = some version) :
    (Opening.getOrCreateCycle books k).cycles.get? j = some c ↔ books.cycles.get? j = some c := by
  rcases StoredLedger.getOrCreateCycle_cases books k with ⟨same,_⟩ | ⟨free,created⟩
  · rw [same]
  · rw [created]
    show (books.cycles.insert (StoredLedger.blank k) free).get? j = some c ↔ _
    rw [Table.get?_insert]
    split
    · rename_i key
      constructor
      · intro h
        cases h
        cases hv
      · intro h
        rw [key,h] at free
        cases free
    · rfl

/-- The books around a binding: a placeholder before, entries after. -/
theorem binds_written {k : String} {found opened bound : Cycle}
    (versions : Versioned db.strategies)
    (placed : (Opening.getOrCreateCycle db.books k).cycles.get? k = some found)
    (h : Strategies.bind db.strategies opened now = .ok (db'.strategies,bound))
    (same : opened.cycleId = found.cycleId ∧ opened.strategyVersion = found.strategyVersion)
    (after : ∀ j, (db'.books.cycles.get? j).map column =
      (((Opening.getOrCreateCycle db.books k).cycles.set bound).get? j).map column) :
    Versioned db'.strategies ∧ Succeeds db.strategies db'.strategies ∧ Binds db db' now := by
  obtain ⟨versioned,succeeds,result⟩ := bind_spec versions h
  have key : bound.cycleId = k := by
    have id : bound.cycleId = opened.cycleId := by
      rcases result with ⟨_,rfl,_⟩ | ⟨_,_,_,rfl,_⟩ <;> rfl
    rw [id,same.1,Table.key_of_get? placed]
  have own (j : String) : ((Opening.getOrCreateCycle db.books k).cycles.set bound).get? j =
      if k = j then some bound else (Opening.getOrCreateCycle db.books k).cycles.get? j := by
    rw [Table.get?_set,key]
    split
    · rename_i e
      rw [← e,placed]
      rfl
    · rfl
  refine ⟨versioned,succeeds,fun j c version hc hv => ?_,fun j c' version hc' hv => ?_⟩
  · have there := (placeholder_get? db.books k hv).mpr hc
    have column' := after j
    rw [own] at column'
    split at column'
    · rename_i e
      subst e
      rw [placed] at there
      cases there
      obtain ⟨c',hc',e⟩ := Option.map_eq_some_iff.mp column'
      have version' : c'.strategyVersion = bound.strategyVersion := congrArg Prod.fst e
      refine ⟨c',hc',?_⟩
      rw [version']
      rcases result with ⟨_,rfl,_⟩ | ⟨free,_⟩
      · exact same.2.trans hv
      · rw [same.2,hv] at free
        cases free
    · rw [there] at column'
      obtain ⟨c',hc',e⟩ := Option.map_eq_some_iff.mp column'
      exact ⟨c',hc',(congrArg Prod.fst e).trans hv⟩
  · have column' := after j
    rw [own,hc'] at column'
    split at column'
    · rename_i e
      subst e
      have e := Option.some.inj column'
      have version' : bound.strategyVersion = some version := (congrArg Prod.fst e).symm.trans hv
      rcases result with ⟨_,rfl,_⟩ | ⟨_,_,chosenVersion,rfl,chosen⟩
      · have found' : found.strategyVersion = some version := same.2.symm.trans version'
        exact .inl ⟨found,(placeholder_get? db.books k found').mp placed,found'⟩
      · cases version'
        rw [show c'.marketOpensAt = opened.marketOpensAt from congrArg Prod.snd e]
        exact .inr chosen
    · obtain ⟨c,hc,e⟩ := Option.map_eq_some_iff.mp column'.symm
      have version' : c.strategyVersion = some version := (congrArg Prod.fst e).trans hv
      exact .inl ⟨c,(placeholder_get? db.books k version').mp hc,version'⟩

theorem step_versions (versions : Versioned db.strategies) (a : Act) :
    Versioned (step cfg db a).strategies ∧ Succeeds db.strategies (step cfg db a).strategies ∧
      Binds db (step cfg db a) a.now := by
  have unchanged : Versioned db.strategies ∧ Succeeds db.strategies db.strategies ∧
      Binds db db a.now := ⟨versions,.refl _,.of_cycles rfl⟩
  cases a with
  | create r now =>
    unfold step
    dsimp only
    split
    · rename_i created
      obtain ⟨active,succeeds⟩ := createPending_versioned versions created
      exact ⟨.inr active,succeeds,.of_cycles rfl⟩
    · exact unchanged
  | bind cycleId opensAt now =>
    unfold step
    dsimp only
    split
    · rename_i db' h
      unfold bindCycle at h
      dsimp only at h
      split at h
      · cases h
      rename_i found placed
      obtain ⟨⟨strategies,bound⟩,hb,rfl⟩ := Fallible.map_ok.mp h
      exact binds_written versions placed hb ⟨rfl,rfl⟩ fun _ => rfl
    · exact unchanged
  | statement payload now =>
    unfold step
    dsimp only
    split
    · rename_i opened h
      obtain ⟨k,s,c,c',_,_,placed,bound,synced⟩ := applyStatement_bind h
      exact binds_written versions placed bound ⟨rfl,rfl⟩
        ((respected_column column fun _ _ => rfl).synchronize synced)
    · exact unchanged

end Steps

/-- In any order of creations and openings one version is in force, the smaller
are over and the larger wait, versions keep their terms, and a cycle is bound
once, to the version of its opening. -/
theorem strategy_versions (cfg : Config) (acts : List Act) :
    Always (step cfg) (fun db => Versioned db.strategies ∧ ∀ a ∈ db.strategies,
      ∀ b ∈ db.strategies, a.status = "ACTIVE" → b.status = "ACTIVE" → a = b) {} acts ∧
    Along (step cfg) (fun db a => Succeeds db.strategies (step cfg db a).strategies ∧
      Binds db (step cfg db a) a.now) {} acts := by
  have versioned : Always (step cfg) (fun db => Versioned db.strategies) {} acts :=
    always_of_step (fun db a h _ => (step_versions h a).1) (.inl rfl) (along_true _ _)
  refine ⟨versioned.mono fun db h => ⟨h,h.one⟩,along_of_always (fun db a h _ => ?_) versioned⟩
  exact (step_versions h a).2

end Strategies

end EnergyNode
