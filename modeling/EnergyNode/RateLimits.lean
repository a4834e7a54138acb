import EnergyNode.Db
import EnergyNode.Lib.Fallible
import EnergyNode.Lib.Run
import EnergyNode.Lib.SlidingWindow

/-! The outgoing request limiter: a window of sixty seconds for each category,
the limits the central announces, and the pauses the wallet asks for. A call
that is granted counts from then on, whatever its answer. -/
namespace EnergyNode
open Lib

namespace RateLimits

inductive Category where
  | walletRead | walletWrite | marketOffer | centralRequest
deriving DecidableEq

/-- DEFAULT_LIMITS. -/
def Category.defaultLimit : Category → Nat
  | walletRead => 300
  | walletWrite => 120
  | marketOffer => 60
  | centralRequest => 10

/-- LIMIT_FIELD; the central announces no limit of its own requests. -/
def Category.limitField : Category → Option String
  | walletRead => some "walletReadsPerMinute"
  | walletWrite => some "walletWritesPerMinute"
  | marketOffer => some "marketOpsPerMinute"
  | centralRequest => none

/-- `market_opens_at DESC NULLS LAST`. -/
def opensLater (a b : Cycle) : Bool :=
  match a.marketOpensAt, b.marketOpensAt with
  | some x, some y => y ≤ x
  | some _, none => true
  | none, some _ => false
  | none, none => true

def latestCycle (cycles : Table Cycle.cycleId) : Option Cycle :=
  ((cycles.rows.filter fun c => c.statusIdpk.isSome).insertionSort fun a b => opensLater a b).head?

/-- The limit a cycle's statement announces, if it is a positive integer. -/
def announced (cycle : Cycle) (field : String) : Option Int := do
  let market ← (cycle.statusPayload.get "market").obj?
  let limits ← (Fields.get market "limits").obj?
  ((Fields.get limits field).int?).filter (0 < ·)

/-- `_limit`: an announcement only lowers the default. -/
def limit (cycles : Table Cycle.cycleId) (category : Category) : Nat :=
  match category.limitField.bind fun field => (latestCycle cycles).bind (announced · field) with
  | some value => min category.defaultLimit value.toNat
  | none => category.defaultLimit

theorem announced_pos {cycle : Cycle} {field : String} {value : Int}
    (h : announced cycle field = some value) : 0 < value := by
  obtain ⟨market,_,h⟩ := Option.bind_eq_some_iff.mp h
  obtain ⟨limits,_,h⟩ := Option.bind_eq_some_iff.mp h
  simpa using (Option.filter_eq_some_iff.mp h).2

theorem limit_le (cycles : Table Cycle.cycleId) (category : Category) :
    limit cycles category ≤ category.defaultLimit := by
  unfold limit
  cases category.limitField.bind fun field => (latestCycle cycles).bind (announced · field) with
  | none => exact le_rfl
  | some value => exact min_le_left _ _

theorem limit_pos (cycles : Table Cycle.cycleId) (category : Category) :
    0 < limit cycles category := by
  have default : 0 < category.defaultLimit := by cases category <;> decide
  unfold limit
  cases h : category.limitField.bind fun field => (latestCycle cycles).bind (announced · field) with
  | none => exact default
  | some value =>
    obtain ⟨field,_,h⟩ := Option.bind_eq_some_iff.mp h
    obtain ⟨cycle,_,h⟩ := Option.bind_eq_some_iff.mp h
    have := announced_pos h
    simp only [lt_min_iff]
    omega

/-- A row of `operational_rate_limits`; a missing row is an empty one. -/
structure Bucket where
  attempts : List Instant := []
  blockedUntil : Option Instant := none
deriving DecidableEq

def window : Int := seconds 60

/-- `ceil(delta.total_seconds())`. -/
def ceilSeconds (delta : Int) : Int := -(-delta / 1000000)

def Bucket.blocks (bucket : Bucket) (now : Instant) : Bool := bucket.blockedUntil.any (now < ·)

/-- The attempts of the last minute, in order. -/
def Bucket.recent (bucket : Bucket) (now : Instant) : List Instant :=
  (Lib.recent window now bucket.attempts).insertionSort (· ≤ ·)

/-- `reserve`: zero for a grant, else the seconds to wait. -/
def reserve (cycles : Table Cycle.cycleId) (category : Category) (bucket : Bucket) (now : Instant) :
    Bucket × Int :=
  match bucket.blockedUntil.filter (now < ·) with
  | some deadline => (bucket,max 1 (ceilSeconds (deadline - now)))
  | none =>
      if limit cycles category ≤ (bucket.recent now).length then
        (bucket,max 1 (ceilSeconds ((bucket.recent now).headD 0 + window - now)))
      else ({ bucket with attempts := bucket.recent now ++ [now] },0)

/-- `block`: a deadline is only ever moved later. -/
def block (bucket : Bucket) (duration : Int) (now : Instant) : Result Bucket :=
  if duration < 0 then .error (.value "bloqueo de límite inválido")
  else
    let deadline := now + seconds duration
    match bucket.blockedUntil with
    | none => .ok { bucket with blockedUntil := some deadline }
    | some until_ =>
        if until_ < deadline then .ok { bucket with blockedUntil := some deadline }
        else .ok bucket

section Reserve
variable {cycles : Table Cycle.cycleId} {category : Category} {bucket : Bucket} {now : Instant}

theorem recent_perm (bucket : Bucket) (now : Instant) :
    (bucket.recent now).Perm (Lib.recent window now bucket.attempts) :=
  List.perm_insertionSort ..

theorem filter_blocks : bucket.blockedUntil.filter (now < ·) = none ↔ bucket.blocks now = false := by
  cases h : bucket.blockedUntil <;> simp [Bucket.blocks,h]

/-- A call is granted exactly when no pause is on and the window has room. -/
theorem reserve_granted : (reserve cycles category bucket now).2 = 0 ↔
    bucket.blocks now = false ∧
      (Lib.recent window now bucket.attempts).length < limit cycles category := by
  unfold reserve
  rw [← filter_blocks,← (recent_perm bucket now).length_eq]
  cases bucket.blockedUntil.filter (now < ·) with
  | some deadline =>
    simp only [reduceCtorEq,false_and,iff_false]
    omega
  | none =>
    dsimp only
    split
    · dsimp only
      simp only [true_and]
      omega
    · rename_i room
      exact ⟨fun _ => ⟨rfl,not_le.mp room⟩,fun _ => rfl⟩

theorem reserve_bucket : (reserve cycles category bucket now).1 =
    if (reserve cycles category bucket now).2 = 0 then
      { bucket with attempts := bucket.recent now ++ [now] }
    else bucket := by
  by_cases granted : (reserve cycles category bucket now).2 = 0
  · rw [if_pos granted]
    obtain ⟨free,room⟩ := reserve_granted.mp granted
    unfold reserve
    rw [filter_blocks.mpr free]
    dsimp only
    rw [if_neg (by rw [(recent_perm bucket now).length_eq]; omega)]
  · rw [if_neg granted]
    unfold reserve at granted ⊢
    cases paused : bucket.blockedUntil.filter (now < ·) with
    | some deadline => rfl
    | none =>
      rw [paused] at granted
      dsimp only at granted ⊢
      split
      · rfl
      · rename_i room
        rw [if_neg room] at granted
        exact (granted rfl).elim

theorem le_ceilSeconds (delta : Int) : delta ≤ seconds (ceilSeconds delta) := by
  unfold ceilSeconds seconds
  omega

/-- When the window defers, the wait lets its first attempt out. -/
theorem reserve_wait (free : bucket.blocks now = false)
    (deferred : (reserve cycles category bucket now).2 ≠ 0) :
    ∃ t ∈ Lib.recent window now bucket.attempts,
      t ≤ now + seconds (reserve cycles category bucket now).2 - window := by
  have full : limit cycles category ≤ (bucket.recent now).length := by
    rw [(recent_perm bucket now).length_eq]
    by_contra room
    exact deferred (reserve_granted.mpr ⟨free,not_le.mp room⟩)
  have wait : (reserve cycles category bucket now).2 =
      max 1 (ceilSeconds ((bucket.recent now).headD 0 + window - now)) := by
    unfold reserve
    rw [filter_blocks.mpr free]
    dsimp only
    rw [if_pos full]
  cases oldest : bucket.recent now with
  | nil =>
    rw [oldest] at full
    exact absurd (limit_pos cycles category) (not_lt.mpr full)
  | cons t rest =>
    refine ⟨t,(recent_perm bucket now).mem_iff.mp (oldest ▸ List.mem_cons_self ..),?_⟩
    rw [wait,oldest,List.headD_cons]
    have enough := le_ceilSeconds (t + window - now)
    unfold seconds at *
    omega

theorem blocks_iff : bucket.blocks now = true ↔ ∃ deadline ∈ bucket.blockedUntil, now < deadline := by
  cases h : bucket.blockedUntil <;> simp [Bucket.blocks,h]

end Reserve

/-- What a deadline that may be missing has become. -/
def Later (a b : Option Instant) : Prop := ∀ deadline ∈ a, ∃ deadline' ∈ b, deadline ≤ deadline'

theorem Later.refl (d : Option Instant) : Later d d := fun x hx => ⟨x,hx,le_rfl⟩

theorem Later.trans {a b d : Option Instant} (h : Later a b) (k : Later b d) : Later a d := by
  intro x hx
  obtain ⟨y,hy,le⟩ := h x hx
  obtain ⟨z,hz,le'⟩ := k y hy
  exact ⟨z,hz,le.trans le'⟩

theorem block_ok (bucket : Bucket) {duration : Int} (now : Instant) (valid : 0 ≤ duration) :
    ∃ bucket', block bucket duration now = .ok bucket' := by
  unfold block
  rw [if_neg (not_lt.mpr valid)]
  cases bucket.blockedUntil with
  | none => exact ⟨_,rfl⟩
  | some until_ =>
    by_cases later : until_ < now + seconds duration
    · exact ⟨_,if_pos later⟩
    · exact ⟨_,if_neg later⟩

theorem block_spec {bucket bucket' : Bucket} {duration : Int} {now : Instant}
    (h : block bucket duration now = .ok bucket') :
    bucket'.attempts = bucket.attempts ∧ Later bucket.blockedUntil bucket'.blockedUntil ∧
      ∃ deadline ∈ bucket'.blockedUntil, now + seconds duration ≤ deadline := by
  unfold block at h
  obtain ⟨_,h⟩ := Fallible.refuse_ok.mp h
  unfold Later
  cases old : bucket.blockedUntil with
  | none =>
    rw [old] at h
    cases h
    simp
  | some until_ =>
    rw [old] at h
    dsimp only at h
    split at h
    · rename_i later
      cases h
      simp [later.le]
    · rename_i later
      cases h
      simpa [old] using later

end RateLimits

end EnergyNode
