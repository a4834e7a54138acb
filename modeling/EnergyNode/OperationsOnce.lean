import EnergyNode.IdpkClaims

/-! At most once: an idpk is spent by the operation carried out under it, and
what is not carried out does nothing. A redelivery is only noted. -/
namespace EnergyNode
open Lib

namespace IdpkClaims
open Ingest

/-- The database without its record of who was received. -/
def unnoted (db : Db) : Db := { db with inbox := [], processed := .empty }

/-- At most the question for the statement of the message's cycle. -/
def Unserved (cfg : Config) (db : Db) (payload : Payload) (now : Instant) (after : Db) : Prop :=
  unnoted after = unnoted db ∨ unnoted after = unnoted (requestStatement cfg db payload now)

/-- The note under a spent idpk: a duplicate, or another operation that was refused. -/
def Noted (payload : Payload) (before after : Db) : Prop :=
  if repeats before payload then
    after = audit before payload .duplicate (some "idpk already processed")
  else after = audit before payload .notProcessed (some "IDPK_PAYLOAD_CONFLICT")

/-- What a delivery does: it carries its operation out under an idpk no operation
had, a spent idpk is only noted, and so is what is not carried out. -/
def AtMostOnce (env : Env) (t : Trace) : Node.Action → Prop
  | .ingest payload now =>
      (applies env t.db payload now → payload.idpk ∉ t.applied) ∧
      (payload.type.isIdempotent → payload.idpk ∈ t.applied →
        Noted payload t.db (step env t (.ingest payload now)).db) ∧
      (Covered payload → applies env t.db payload now = false →
        Unserved env.cfg t.db payload now (step env t (.ingest payload now)).db)
  | _ => True

/-- No operation was carried out twice, and each one keeps its idpk. -/
structure Spent (t : Trace) : Prop where
  once : t.applied.Nodup
  kept : ∀ k ∈ t.applied, Claimed t.db k

variable {env : Env} {t : Trace} {payload : Payload} {now : Instant}

theorem unnoted_request (cfg : Config) (db : Db) (payload : Payload) (now : Instant)
    (processed : Table ProcessedIdpk.idpk) :
    unnoted (requestStatement cfg { db with processed := processed } payload now) =
      unnoted (requestStatement cfg db payload now) := by
  unfold requestStatement
  split
  · rfl
  split <;> rfl

theorem unnoted_claim {db claimed : Db} (claim : claim? db payload = some claimed) :
    ∃ processed, claimed = { db with processed := processed } := by
  unfold claim? at claim
  split at claim
  · obtain ⟨processed,_,rfl⟩ := Option.map_eq_some_iff.mp claim
    exact ⟨processed,rfl⟩
  · cases claim
    exact ⟨db.processed,rfl⟩

theorem unnoted_returnClaim (db : Db) (payload : Payload) (verdict : Verdict) :
    unnoted (returnClaim db payload verdict) = unnoted db := by
  unfold returnClaim
  split <;> rfl

theorem claim?_spent {db : Db} (claims : payload.type.isIdempotent) (taken : Claimed db payload.idpk) :
    claim? db payload = none := by
  unfold claim?
  rw [if_pos claims,Option.map_eq_none_iff]
  cases inserted : db.processed.insert? (claimRow payload) with
  | none => rfl
  | some processed =>
    have free := (Table.insert?_eq_some.mp inserted).1
    unfold Claimed at taken
    rw [show db.processed.get? payload.idpk = none from free] at taken
    cases taken

/-- A spent idpk serves nobody. -/
theorem noted_spent (claims : payload.type.isIdempotent) (taken : Claimed t.db payload.idpk) :
    Noted payload t.db (step env t (.ingest payload now)).db := by
  have noted : (step env t (.ingest payload now)).db =
      audit t.db payload (repeated t.db payload).status (repeated t.db payload).reason := by
    show (ingest env.cfg env.jwt t.db payload now).1 = _
    unfold ingest process
    rw [claim?_spent claims taken]
  unfold Noted
  rw [noted]
  unfold repeated
  split <;> rfl

/-- An operation that was carried out does not give its idpk back. -/
theorem keeps_applied {db : Db} {verdict : Verdict} (claims : payload.type.isIdempotent)
    (h : served? env db payload now = some verdict) (done : verdict.status ≠ .notProcessed) :
    verdict.unclaim = false := by
  obtain ⟨claimed,after,claim,served⟩ := served?_some h
  cases reply : isReply payload.type with
  | false =>
    have returned := returned_dispatch served claims reply
    exact returned.trans (decide_eq_false done)
  | true =>
    rw [dispatch_reply reply] at served
    exact (refused_reply served).1

theorem claimed_of_applies (h : applies env t.db payload now) :
    Claimed (step env t (.ingest payload now)).db payload.idpk := by
  unfold applies at h
  rw [Bool.and_eq_true,Option.any_eq_true] at h
  obtain ⟨claims,verdict,served,done⟩ := h
  exact claimed_ingest.mpr
    (.inr ⟨rfl,claims,verdict,served,keeps_applied claims served (of_decide_eq_true done)⟩)

/-- No action takes the idpk of an operation away. -/
theorem claimed_step (env : Env) (t : Trace) (a : Node.Action) {k : String} (taken : Claimed t.db k) :
    Claimed (step env t a).db k := by
  by_cases own : ∃ d now, a = .ingest d now
  · obtain ⟨d,now,rfl⟩ := own
    exact claimed_ingest.mpr (.inl taken)
  · unfold Claimed
    rw [show (step env t a).db = Node.step env t.db a from rfl,
      processed_step env t.db a fun d now same => own ⟨d,now,same⟩]
    exact taken

theorem unserved_idle (covered : Covered payload) (idle : applies env t.db payload now = false) :
    Unserved env.cfg t.db payload now (step env t (.ingest payload now)).db := by
  show Unserved _ _ _ _ (ingest env.cfg env.jwt t.db payload now).1
  unfold ingest
  cases processed : process env.cfg env.jwt t.db payload now with
  | error fault => exact .inl rfl
  | ok ended =>
    obtain ⟨done,verdict⟩ := ended
    obtain ⟨rfl,_⟩ | ⟨claimed,after,claim,served,rfl⟩ := process_cases processed
    · exact .inl rfl
    have refused : verdict.status = .notProcessed := by
      by_contra other
      have own : served? env t.db payload now = some verdict := by
        unfold served?
        rw [claim]
        dsimp only
        rw [served]
      unfold applies at idle
      rw [idempotent_of_covered covered,own] at idle
      simp [other] at idle
    obtain ⟨table,rfl⟩ := unnoted_claim claim
    refine .inr ?_
    show unnoted (returnClaim after payload verdict) = _
    rw [unnoted_returnClaim]
    rcases untouched_dispatch served covered refused with rfl | ⟨cycleId,type,cycle,rfl⟩
    · exact unnoted_request ..
    · rw [← unnoted_request env.cfg t.db payload now table]
      unfold requestStatement
      rw [cycle,type]
      dsimp only
      rw [if_neg (by decide)]
      dsimp only
      rw [getOrCreateCycle_again]

theorem spent_begun (db : Db) : Spent (begun db) where
  once := db.processed.nodup
  kept k listed := ((@faithful_begun (Node.offline "" []) db).claims k).mpr listed

theorem fresh_applies (spent : Spent t) (h : applies env t.db payload now) :
    payload.idpk ∉ t.applied := by
  intro listed
  have claims : payload.type.isIdempotent := by
    unfold applies at h
    exact (Bool.and_eq_true_iff.mp h).1
  unfold applies served? at h
  rw [claim?_spent claims (spent.kept _ listed)] at h
  simp at h

theorem spent_step (env : Env) (spent : Spent t) (a : Node.Action) : Spent (step env t a) := by
  have old : ∀ k ∈ t.applied, Claimed (step env t a).db k := fun k listed =>
    claimed_step env t a (spent.kept k listed)
  cases a with
  | ingest payload now =>
    by_cases carried : applies env t.db payload now
    · have grown : (step env t (.ingest payload now)).applied = t.applied ++ [payload.idpk] :=
        if_pos carried
      constructor
      · rw [grown,List.nodup_append]
        refine ⟨spent.once,List.nodup_singleton _,fun k listed other own same => ?_⟩
        rw [same,List.mem_singleton.mp own] at listed
        exact fresh_applies spent carried listed
      · rw [grown]
        intro k listed
        rcases List.mem_append.mp listed with before | own
        · exact old k before
        · rw [List.mem_singleton.mp own]
          exact claimed_of_applies carried
    · have same : (step env t (.ingest payload now)).applied = t.applied := if_neg carried
      exact ⟨same ▸ spent.once,same ▸ old⟩
  | _ => exact ⟨spent.once,old⟩

theorem atMostOnce_of_spent (spent : Spent t) (a : Node.Action) : AtMostOnce env t a := by
  cases a with
  | ingest payload now =>
    exact ⟨fresh_applies spent,fun claims listed => noted_spent claims (spent.kept _ listed),
      unserved_idle⟩
  | _ => trivial

/-- Over any run from any database, an operation is carried out at most once under
its idpk, and no delivery but that one does more than ask for a statement. -/
theorem operations_once (env : Env) (db : Db) (acts : List Node.Action) :
    Always (step env) Spent (begun db) acts ∧ Along (step env) (AtMostOnce env) (begun db) acts := by
  have spent : Always (step env) Spent (begun db) acts :=
    always_of_step (fun t a h _ => spent_step env h a) (spent_begun db) (along_true _ acts)
  exact ⟨spent,along_of_always (fun t a h _ => atMostOnce_of_spent h a) spent⟩

end IdpkClaims

end EnergyNode
