import EnergyNode.RateLimits

/-! The limiter across a run of calls, pauses and announcements: the bucket
keeps what the window needs of the grants, so the bounds hold of the grants. -/
namespace EnergyNode
open Lib

namespace RateLimits

structure Limiter where
  cycles : Table Cycle.cycleId
  buckets : Category → Bucket := fun _ => {}

/-- The central's announcements arrive with the cycles they change. -/
inductive Event where
  | reserve (category : Category) (now : Instant)
  | block (category : Category) (duration : Int) (now : Instant)
  | announce (cycles : Table Cycle.cycleId) (now : Instant)

def Event.time : Event → Instant
  | reserve _ now | block _ _ now | announce _ now => now

namespace Limiter

def limit (s : Limiter) (c : Category) : Nat := RateLimits.limit s.cycles c

def call (s : Limiter) (c : Category) (now : Instant) : Bucket × Int :=
  RateLimits.reserve s.cycles c (s.buckets c) now

/-- The answer to a call: zero, or the seconds to wait. -/
def answer (s : Limiter) (c : Category) (now : Instant) : Int := (s.call c now).2

def deadline (s : Limiter) (c : Category) : Option Instant := (s.buckets c).blockedUntil

def put (s : Limiter) (c : Category) (bucket : Bucket) : Limiter :=
  { s with buckets := fun d => if d = c then bucket else s.buckets d }

@[simp] theorem put_cycles (s : Limiter) (c : Category) (bucket : Bucket) :
    (s.put c bucket).cycles = s.cycles := rfl

@[simp] theorem put_self (s : Limiter) (c : Category) (bucket : Bucket) :
    (s.put c bucket).buckets c = bucket := if_pos rfl

theorem put_other (s : Limiter) {c d : Category} (bucket : Bucket) (h : d ≠ c) :
    (s.put c bucket).buckets d = s.buckets d := if_neg h

/-- A call of `block` that raises leaves the row as it was. -/
def step (s : Limiter) : Event → Limiter
  | .reserve c now => s.put c (s.call c now).1
  | .block c duration now =>
      match RateLimits.block (s.buckets c) duration now with
      | .ok bucket => s.put c bucket
      | .error _ => s
  | .announce cycles _ => { s with cycles := cycles }

def grants (s : Limiter) (c : Category) : Event → Bool
  | .reserve d now => d = c && s.answer c now = 0
  | _ => false

/-- When a run granted the calls of a category. -/
def granted (c : Category) : Limiter → List Event → List Instant
  | _, [] => []
  | s, e :: rest => (if s.grants c e then [e.time] else []) ++ granted c (s.step e) rest

variable {s : Limiter} {c : Category} {e : Event} {events l m : List Event} {now t : Instant}

theorem granted_append : granted c s (l ++ m) = granted c s l ++ granted c (run step s l) m := by
  induction l generalizing s with
  | nil => rfl
  | cons e l ih =>
    rw [List.cons_append,granted,ih,granted,List.append_assoc]
    rfl

theorem granted_snoc : granted c s (l ++ [e]) =
    granted c s l ++ if (run step s l).grants c e then [e.time] else [] := by
  rw [granted_append]
  simp [granted]

theorem run_snoc : run step s (l ++ [e]) = (run step s l).step e := run_append ..

theorem mem_granted (h : t ∈ granted c s events) : ∃ e ∈ events, e.time = t := by
  induction events generalizing s with
  | nil => cases h
  | cons e rest ih =>
    rcases List.mem_append.mp h with h | h
    · split at h
      · exact ⟨e,List.mem_cons_self ..,(List.mem_singleton.mp h).symm⟩
      · cases h
    · obtain ⟨e',he,rfl⟩ := ih h
      exact ⟨e',List.mem_cons_of_mem e he,rfl⟩

/-! ### What a step does -/

theorem step_block {bucket : Bucket} {d : Category} {duration : Int}
    (h : RateLimits.block (s.buckets d) duration now = .ok bucket) :
    s.step (.block d duration now) = s.put d bucket := by
  unfold step
  dsimp only
  rw [h]

theorem step_refused {fault : Fault} {d : Category} {duration : Int}
    (h : RateLimits.block (s.buckets d) duration now = .error fault) :
    s.step (.block d duration now) = s := by
  unfold step
  dsimp only
  rw [h]

/-- A category's row changes by a grant, by a pause of its own, or not at all. -/
theorem step_cases (s : Limiter) (c : Category) (e : Event) :
    s.grants c e = true ∧ (s.step e).buckets c =
        { s.buckets c with attempts := (s.buckets c).recent e.time ++ [e.time] } ∨
    s.grants c e = false ∧ ((s.step e).buckets c = s.buckets c ∨
      ∃ duration now, e = .block c duration now ∧
        RateLimits.block (s.buckets c) duration now = .ok ((s.step e).buckets c)) := by
  cases e with
  | reserve d now =>
    by_cases same : d = c
    · subst same
      have row : (s.step (.reserve d now)).buckets d = (s.call d now).1 := put_self ..
      rw [row]
      unfold grants answer call
      rw [reserve_bucket]
      by_cases ok : (RateLimits.reserve s.cycles d (s.buckets d) now).2 = 0
      · simp [ok,Event.time]
      · simp [ok]
    · exact .inr ⟨by simp [grants,same],.inl (put_other s _ (Ne.symm same))⟩
  | block d duration now =>
    refine .inr ⟨rfl,?_⟩
    cases blocked : RateLimits.block (s.buckets d) duration now with
    | error _ =>
      rw [step_refused blocked]
      exact .inl rfl
    | ok bucket =>
      rw [step_block blocked]
      by_cases same : c = d
      · subst same
        rw [put_self]
        exact .inr ⟨duration,now,rfl,blocked⟩
      · exact .inl (put_other s _ same)
  | announce cycles now => exact .inr ⟨rfl,.inl rfl⟩

/-- A step leaves the attempts of a category as they were, or adds a grant to
those the window still sees. -/
theorem step_attempts : ((s.step e).buckets c).attempts =
    if s.grants c e then (s.buckets c).recent e.time ++ [e.time] else (s.buckets c).attempts := by
  obtain ⟨granted,row⟩ | ⟨granted,row | ⟨_,_,_,blocked⟩⟩ := step_cases s c e
  · rw [row,if_pos granted]
  · rw [row,granted]
    rfl
  · rw [(block_spec blocked).1,granted]
    rfl

theorem step_deadline : Later (s.deadline c) ((s.step e).deadline c) := by
  unfold deadline
  obtain ⟨_,row⟩ | ⟨_,row | ⟨_,_,_,blocked⟩⟩ := step_cases s c e
  · rw [row]
    exact Later.refl _
  · rw [row]
    exact Later.refl _
  · exact (block_spec blocked).2.1

theorem run_deadline (s : Limiter) (c : Category) (events : List Event) :
    Later (s.deadline c) ((run step s events).deadline c) :=
  run_related (fun a b => Later (deadline a c) (deadline b c)) (fun _ => Later.refl _)
    (fun h k => Later.trans h k) (fun _ _ _ _ => step_deadline)
    (always_of_step (Q := fun _ => True) (fun _ _ _ _ => trivial) trivial (along_true s events))
    (along_true s events)

/-- Without a pause of its own a category keeps its deadline. -/
theorem run_unpaused (calm : ∀ duration at_, Event.block c duration at_ ∉ events) :
    (run step s events).deadline c = s.deadline c := by
  induction events generalizing s with
  | nil => rfl
  | cons e rest ih =>
    rw [run_cons,ih fun duration at_ he => calm duration at_ (List.mem_cons_of_mem e he)]
    unfold deadline
    obtain ⟨_,row⟩ | ⟨_,row | ⟨duration,at_,rfl,_⟩⟩ := step_cases s c e
    · rw [row]
    · rw [row]
    · exact absurd (List.mem_cons_self ..) (calm duration at_)

/-! ### The grants and the row -/

section Fresh
variable (fresh : (s.buckets c).attempts = [])

include fresh

/-- From the instants that were reached on, the row shows what the log shows. -/
theorem tracks (reached : ∀ e ∈ events, e.time ≤ t) :
    (Lib.recent window t ((run step s events).buckets c).attempts).Perm
      (Lib.recent window t (granted c s events)) := by
  induction events using List.reverseRecOn with
  | nil =>
    rw [run_nil,fresh]
    rfl
  | append_singleton events e ih =>
    have past := ih fun e' he => reached e' (List.mem_append_left _ he)
    rw [run_snoc,granted_snoc,step_attempts]
    by_cases ok : (run step s events).grants c e = true
    · have now : e.time ≤ t := reached e (List.mem_append_right _ (List.mem_singleton_self e))
      rw [if_pos ok,if_pos ok,Lib.recent_append,Lib.recent_append]
      apply List.Perm.append_right
      apply (Lib.recent_perm (recent_perm _ _)).trans
      rw [recent_recent now]
      exact past
    · rw [if_neg ok,if_neg ok,List.append_nil]
      exact past

/-- A grant finds room in the window that ends with it. -/
theorem granted_in_force (reached : ∀ e ∈ events, e.time ≤ now)
    (ok : (run step s events).answer c now = 0) :
    (Lib.recent window now (granted c s events ++ [now])).length ≤ (run step s events).limit c := by
  have room := (reserve_granted.mp ok).2
  rw [(tracks fresh reached).length_eq] at room
  rw [Lib.recent_append,List.length_append]
  have one : (Lib.recent window now [now]).length ≤ 1 := List.length_filter_le ..
  unfold limit
  omega

end Fresh

/-- The limit of a category is never lowered after an instant. -/
def NotLowered (c : Category) (since : Instant) (s : Limiter) (events : List Event) : Prop :=
  Along step (fun s e => since < e.time → s.limit c ≤ (s.step e).limit c) s events

theorem step_limit (announces : ∀ cycles at_, e ≠ .announce cycles at_) :
    (s.step e).limit c = s.limit c := by
  cases e with
  | reserve d now => rfl
  | block d duration now =>
    cases blocked : RateLimits.block (s.buckets d) duration now with
    | error _ => rw [step_refused blocked]
    | ok bucket =>
      rw [step_block blocked]
      rfl
  | announce cycles now => exact absurd rfl (announces cycles now)

/-- While the limit is not lowered, the grants since an instant are within it. -/
theorem granted_since {since : Instant} (fresh : (s.buckets c).attempts = [])
    (ordered : (events.map Event.time).Pairwise (· ≤ ·)) (kept : NotLowered c since s events)
    (near : ∀ t ∈ granted c s events, t ≤ since + window) :
    ((granted c s events).filter fun t => since < t).length ≤ (run step s events).limit c := by
  induction events using List.reverseRecOn with
  | nil => exact Nat.zero_le _
  | append_singleton events e ih =>
    rw [List.map_append,List.pairwise_append] at ordered
    obtain ⟨before,_,bound⟩ := ordered
    have reached : ∀ e' ∈ events, e'.time ≤ e.time := fun e' he =>
      bound _ (List.mem_map_of_mem he) _ (List.mem_singleton_self _)
    obtain ⟨kept,⟨last,_⟩⟩ := along_append.mp kept
    rw [granted_snoc] at near ⊢
    rw [run_snoc]
    by_cases early : e.time ≤ since
    · -- everything granted so far is too old to count
      have old : ((granted c s events ++
          if (run step s events).grants c e = true then [e.time] else []).filter
            fun t => since < t) = [] := by
        rw [List.filter_eq_nil_iff]
        intro t ht
        rw [decide_eq_true_eq,not_lt]
        rcases List.mem_append.mp ht with ht | ht
        · obtain ⟨e',he,rfl⟩ := mem_granted ht
          exact (reached e' he).trans early
        · split at ht
          · rw [List.mem_singleton.mp ht]
            exact early
          · cases ht
      rw [old]
      exact Nat.zero_le _
    by_cases ok : (run step s events).grants c e = true
    · rw [if_pos ok] at near ⊢
      cases e with
      | reserve d now =>
        have call : d = c ∧ (run step s events).answer c now = 0 := by simpa [grants] using ok
        have here : now ≤ since + window := near now (List.mem_append_right _ (List.mem_singleton_self _))
        have room := granted_in_force fresh reached call.2
        rw [step_limit fun _ _ h => by cases h]
        refine le_trans ?_ room
        unfold Lib.recent
        rw [← List.countP_eq_length_filter,← List.countP_eq_length_filter]
        apply List.countP_mono_left
        intro t _ ht
        simp only [decide_eq_true_eq] at ht ⊢
        change now - window < t
        linarith
      | block d duration now => cases ok
      | announce cycles now => cases ok
    · rw [if_neg ok,List.append_nil] at near ⊢
      exact (ih before kept near).trans (last (not_le.mp early))

theorem grants_reserve : s.grants c (.reserve c now) = true ↔ s.answer c now = 0 := by
  simp [grants]

theorem paced (fresh : (s.buckets c).attempts = [])
    (ordered : (events.map Event.time).Pairwise (· ≤ ·)) :
    Paced window c.defaultLimit (granted c s events) := by
  induction events using List.reverseRecOn with
  | nil =>
    intro before t after h
    cases before <;> cases h
  | append_singleton events e ih =>
    rw [List.map_append,List.pairwise_append] at ordered
    obtain ⟨before,_,bound⟩ := ordered
    rw [granted_snoc]
    by_cases ok : (run step s events).grants c e = true
    · rw [if_pos ok,paced_append_singleton]
      refine ⟨ih before,?_⟩
      cases e with
      | reserve d now =>
        obtain ⟨rfl,ok⟩ : d = c ∧ (run step s events).answer c now = 0 := by
          simpa [grants] using ok
        have reached : ∀ e' ∈ events, e'.time ≤ now := fun e' he =>
          bound _ (List.mem_map_of_mem he) _ (List.mem_singleton_self _)
        exact (granted_in_force fresh reached ok).trans (limit_le _ d)
      | block d duration now => cases ok
      | announce cycles now => cases ok
    · rw [if_neg ok,List.append_nil]
      exact ih before

/-- A call that a pause still covers is not granted. -/
theorem granted_after_deadline {deadline_ : Instant} (ok : s.answer c now = 0)
    (paused : ∃ d ∈ s.deadline c, deadline_ ≤ d) : deadline_ ≤ now := by
  obtain ⟨d,hd,le⟩ := paused
  by_contra early
  have free := (reserve_granted.mp ok).1
  rw [blocks_iff.mpr ⟨d,hd,lt_of_lt_of_le (not_le.mp early) le⟩] at free
  cases free

theorem block_deadline {duration : Int} (valid : 0 ≤ duration) :
    ∃ d ∈ (s.step (.block c duration now)).deadline c, now + seconds duration ≤ d := by
  obtain ⟨bucket,blocked⟩ := block_ok (s.buckets c) now valid
  rw [step_block blocked]
  unfold deadline
  rw [put_self]
  exact (block_spec blocked).2.2

/-- The wait of a deferral ends it, when nothing happens in between. -/
theorem granted_after_wait {before between : List Event} (fresh : (s.buckets c).attempts = [])
    (ordered : ((before ++ .reserve c now :: between).map Event.time).Pairwise (· ≤ ·))
    (reached : ∀ e ∈ before ++ .reserve c now :: between,
      e.time ≤ now + seconds ((run step s before).answer c now))
    (deferred : (run step s before).answer c now ≠ 0)
    (free : ((run step s before).buckets c).blocks now = false)
    (calm : ∀ duration at_, Event.block c duration at_ ∉ between)
    (quiet : granted c ((run step s before).step (.reserve c now)) between = [])
    (kept : NotLowered c (now - window) s (before ++ .reserve c now :: between)) :
    (run step s (before ++ .reserve c now :: between)).answer c
      (now + seconds ((run step s before).answer c now)) = 0 := by
  have later : now ≤ now + seconds ((run step s before).answer c now) :=
    reached (.reserve c now) (List.mem_append_right _ (List.mem_cons_self ..))
  have past : ∀ e ∈ before, e.time ≤ now := by
    intro e he
    rw [List.map_append,List.pairwise_append] at ordered
    exact ordered.2.2 _ (List.mem_map_of_mem he) _ (List.mem_cons_self ..)
  have same : granted c s (before ++ .reserve c now :: between) = granted c s before := by
    rw [granted_append,granted,if_neg (by rw [grants_reserve]; exact deferred),quiet]
    simp
  have count := granted_since fresh ordered kept (by
    intro t ht
    rw [same] at ht
    obtain ⟨e,he,rfl⟩ := mem_granted ht
    rw [sub_add_cancel]
    exact past e he)
  obtain ⟨t,seen,left⟩ := reserve_wait free deferred
  rw [(tracks fresh past).mem_iff] at seen
  have room := length_recent_lt later seen left
  refine reserve_granted.mpr ⟨?_,?_⟩
  · -- the pauses are those of the deferral, and they were over
    have calm' : ∀ duration at_, Event.block c duration at_ ∉ Event.reserve c now :: between := by
      intro duration at_ h
      rcases List.mem_cons.mp h with h | h
      · cases h
      · exact calm duration at_ h
    have kept : ((run step s (before ++ .reserve c now :: between)).buckets c).blockedUntil =
        ((run step s before).buckets c).blockedUntil := by
      rw [run_append]
      exact run_unpaused calm'
    rw [Bool.eq_false_iff,ne_eq,blocks_iff,kept]
    rintro ⟨d,hd,early⟩
    rw [blocks_iff.mpr ⟨d,hd,later.trans_lt early⟩] at free
    cases free
  · rw [(tracks fresh reached).length_eq,same]
    rw [same] at count
    exact room.trans_le count

/-- What the limiter promises of a category across a run. -/
structure Limited (s : Limiter) (c : Category) (events : List Event) : Prop where
  fromStart (a : Instant) :
    ((granted c s events).filter fun t => a ≤ t ∧ t < a + window).length ≤ c.defaultLimit
  untilEnd (a : Instant) :
    ((granted c s events).filter fun t => a < t ∧ t ≤ a + window).length ≤ c.defaultLimit
  inForce (before : List Event) (now : Instant) (after : List Event) :
    events = before ++ .reserve c now :: after → (run step s before).answer c now = 0 →
      ((granted c s (before ++ [.reserve c now])).filter fun t => now - window < t).length ≤
        (run step s before).limit c
  paused (before : List Event) (duration : Int) (at_ : Instant) (between : List Event)
    (now : Instant) (after : List Event) :
    events = before ++ .block c duration at_ :: between ++ .reserve c now :: after → 0 ≤ duration →
      (run step s (before ++ .block c duration at_ :: between)).answer c now = 0 →
        at_ + seconds duration ≤ now
  extended (before : List Event) (e : Event) (after : List Event) : events = before ++ e :: after →
    Later ((run step s before).deadline c) ((run step s (before ++ [e])).deadline c)
  waited (before : List Event) (now : Instant) (between after : List Event) :
    events = before ++ .reserve c now :: between ++
        .reserve c (now + seconds ((run step s before).answer c now)) :: after →
      (run step s before).answer c now ≠ 0 → ((run step s before).buckets c).blocks now = false →
      (∀ duration at_, Event.block c duration at_ ∉ between) →
      granted c ((run step s before).step (.reserve c now)) between = [] →
      NotLowered c (now - window) s (before ++ .reserve c now :: between) →
        (run step s (before ++ .reserve c now :: between)).answer c
          (now + seconds ((run step s before).answer c now)) = 0

def start (cycles : Table Cycle.cycleId) : Limiter := { cycles := cycles }

theorem limiter (cycles : Table Cycle.cycleId) (c : Category) (events : List Event)
    (ordered : (events.map Event.time).Pairwise (· ≤ ·)) : Limited (start cycles) c events := by
  have fresh : ((start cycles).buckets c).attempts = [] := rfl
  have past {before after : List Event} {e : Event} (split : events = before ++ e :: after) :
      ∀ e' ∈ before, e'.time ≤ e.time := by
    intro e' he
    rw [split,List.map_append,List.pairwise_append] at ordered
    exact ordered.2.2 _ (List.mem_map_of_mem he) _ (List.mem_cons_self ..)
  constructor
  case fromStart =>
    intro a
    apply (paced fresh ordered).window
    intro u v hu hv
    simp only [decide_eq_true_eq] at hu hv
    linarith [hu.1,hv.2]
  case untilEnd =>
    intro a
    apply (paced fresh ordered).window
    intro u v hu hv
    simp only [decide_eq_true_eq] at hu hv
    linarith [hu.1,hv.2]
  case inForce =>
    intro before now after split ok
    rw [granted_snoc,if_pos (grants_reserve.mpr ok)]
    exact granted_in_force fresh (past split) ok
  case paused =>
    intro before duration at_ between now after split valid ok
    obtain ⟨d,hd,le⟩ := block_deadline valid
    rw [run_append,run_cons] at ok
    obtain ⟨d',hd',le'⟩ := run_deadline ((run step (start cycles) before).step
      (.block c duration at_)) c between d hd
    exact granted_after_deadline ok ⟨d',hd',le.trans le'⟩
  case extended =>
    intro before e after split
    rw [run_snoc]
    exact step_deadline
  case waited =>
    intro before now between after split deferred free calm quiet kept
    refine granted_after_wait fresh ?_ (past split) deferred free calm quiet kept
    rw [split,List.map_append,List.pairwise_append] at ordered
    exact ordered.1

/-! ### Two offers a minute -/

def announcing (most : Int) : Table Cycle.cycleId :=
  ⟨[{ cycleId := "C1", statusIdpk := some "86000000-0000-0000-0000-000000000001",
      statusPayload := [("market",.obj [("limits",.obj [("marketOpsPerMinute",.int most)])])] }],
    List.nodup_singleton _⟩

/-- Two offers are announced and a third has to wait. -/
def crowded : List Event :=
  [.reserve .marketOffer 0,.reserve .marketOffer (seconds 10),.reserve .marketOffer (seconds 20)]

theorem crowded_limited : Limited (start (announcing 2)) .marketOffer crowded :=
  limiter (announcing 2) .marketOffer crowded (by decide)

/-- The limit was two for the whole last minute, yet the wait ends without a
grant: the central announces one while the call waits. -/
theorem lowered_while_waiting :
    let s := start (announcing 2)
    let before := crowded.take 2
    let now := seconds 20
    let between := [Event.announce (announcing 1) (seconds 30)]
    (run step s before).answer .marketOffer now = 40 ∧
      ((run step s before).buckets .marketOffer).blocks now = false ∧
      NotLowered .marketOffer (now - window) s before ∧
      (∀ duration at_, Event.block .marketOffer duration at_ ∉ between) ∧
      granted .marketOffer ((run step s before).step (.reserve .marketOffer now)) between = [] ∧
      (run step s (before ++ .reserve .marketOffer now :: between)).answer .marketOffer
        (now + seconds 40) ≠ 0 := by
  refine ⟨by decide +kernel,by decide +kernel,?_,?_,rfl,by decide +kernel⟩
  · exact ⟨fun _ => le_rfl,fun _ => le_rfl,trivial⟩
  · intro duration at_ h
    cases List.mem_singleton.mp h

end Limiter

end RateLimits

end EnergyNode
