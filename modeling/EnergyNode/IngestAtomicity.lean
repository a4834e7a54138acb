import EnergyNode.Lib.Transaction
import EnergyNode.Services
import EnergyNode.StoredLedger

/-! `ingest_protocol_message` call by call: what is stored when one of its calls
to the database raises. -/
namespace EnergyNode
open Lib

namespace IngestAtomicity

/-- The database, and the audit row of the message in hand: no query of a
handler selects a row that is still RECEIVED. -/
structure Reception where
  db : Db
  row : Option InboundMessage := none

def Reception.whole (r : Reception) : Db := { r.db with inbox := r.db.inbox ++ r.row.toList }

/-- The calls that may raise. A claim goes with the city lock before it. -/
inductive Point where
  | reception | receptionRefresh | claim | request | service | commit
  /-- `session.refresh` after the commit of `mark_inbound_result`. -/
  | refresh
  /-- `record.cycle_id`, which the commit has expired. -/
  | reload
deriving DecidableEq

structure Trouble where
  outage : Option (Outage Point Reception) := none
  /-- The commit of the FAILED mark raises too. -/
  auditFails : Bool := false

abbrev Ended := Lib.Ended Fault Reception Ingest.Verdict

/-- `mark_inbound_result`, before any commit. -/
def mark (payload : Payload) (status : InboundStatus) (reason : Option String) (r : Reception) :
    Reception :=
  { r with row := some ⟨payload,status,reason⟩ }

/-- The branches whose `mark_inbound_result` commits and reads the row again. -/
def marksItself (payload : Payload) (verdict : Ingest.Verdict) : Bool :=
  payload.type = .statusStatement && verdict.status = .duplicate || !payload.type.isIdempotent

/-- The result is marked and committed; what follows a commit may still raise.
The metrics are refreshed in a `try` of their own. -/
def conclude (payload : Payload) (outage : Option (Outage Point Reception)) (verdict : Ingest.Verdict)
    (s : Session Reception) : Ended :=
  (s.write (mark payload verdict.status verdict.reason)).call outage .commit .database fun s =>
    if marksItself payload verdict then
      s.commit.call outage .refresh .database fun s => (s,.ok verdict)
    else if payload.type = .swapSettled && verdict.status = .processed then
      s.commit.call outage .reload .database fun s => (s,.ok verdict)
    else (s.commit,.ok verdict)

/-- The `try` of the handler. -/
def handle (cfg : Config) (jwt : Jwt) (payload : Payload) (now : Instant)
    (outage : Option (Outage Point Reception)) (s : Session Reception) : Ended :=
  s.call outage .claim .database fun s =>
    match Ingest.claim? s.working.db payload with
    | none =>
        let verdict := Ingest.repeated s.working.db payload
        (s.write (mark payload verdict.status verdict.reason)).call outage .commit .database fun s =>
          (s.commit,.ok verdict)
    | some claimed =>
        (s.write fun r => { r with db := claimed }).call outage .request .database fun s =>
          (s.write fun r => { r with db := Ingest.requestStatement cfg r.db payload now }).call outage
            .service .database fun s =>
              match Ingest.dispatch cfg jwt s.working.db payload now with
              | .error fault => (s,.error fault)
              | .ok (db,verdict) =>
                  conclude payload outage verdict
                    (s.write fun r => { r with db := Ingest.returnClaim db payload verdict })

/-- Its `except`: everything is rolled back, and the row says FAILED. -/
def failed (payload : Payload) (auditFails : Bool) (s : Session Reception) : Session Reception :=
  if auditFails then s.rollback else (s.rollback.write (mark payload .failed none)).commit

/-- `ingest_protocol_message`. -/
def ingestMessage (cfg : Config) (jwt : Jwt) (db : Db) (payload : Payload) (now : Instant)
    (trouble : Trouble) : Ended :=
  ((Session.opened ⟨db,none⟩).write (mark payload .received none)).call trouble.outage .reception
    .database fun s =>
      s.commit.call trouble.outage .receptionRefresh .database fun s =>
        match handle cfg jwt payload now trouble.outage s with
        | (s,.ok verdict) => (s,.ok verdict)
        | (s,.error fault) => (failed payload trouble.auditFails s,.error fault)

/-! ### Without trouble -/

section Calm
variable (cfg : Config) (jwt : Jwt) (db : Db) (payload : Payload) (now : Instant)

theorem conclude_calm (verdict : Ingest.Verdict) (s : Session Reception) :
    conclude payload none verdict s = ((s.write (mark payload verdict.status verdict.reason)).commit,.ok verdict) := by
  unfold conclude
  rw [Session.call_none]
  split
  · rfl
  · split <;> rfl

/-- When no call raises, the session ends where the transaction of the node does. -/
theorem ingestMessage_calm :
    let ended := ingestMessage cfg jwt db payload now {}
    let (done,reply) := Ingest.ingest cfg jwt db payload now
    ended.1.stored.whole = done ∧ reply = match ended.2 with
      | .ok verdict => .answered verdict
      | .error fault => .failed fault := by
  unfold ingestMessage handle Ingest.ingest Ingest.process
  simp only [Session.call_none]
  have start : ((Session.opened ⟨db,none⟩).write (mark payload .received none)).commit.working.db = db := rfl
  rw [start]
  cases claimed : Ingest.claim? db payload with
  | none => exact ⟨rfl,rfl⟩
  | some mid =>
    dsimp only [Session.working_write]
    cases handled : Ingest.dispatch cfg jwt (Ingest.requestStatement cfg mid payload now) payload now with
    | error fault => exact ⟨rfl,rfl⟩
    | ok done =>
      obtain ⟨done,verdict⟩ := done
      dsimp only
      rw [conclude_calm]
      exact ⟨rfl,rfl⟩

end Calm

/-! ### What a failure leaves -/

/-- A swap-settled that finds its record. -/
def Settles (cfg : Config) (db : Db) (payload : Payload) (now : Instant) : Prop :=
  payload.type = .swapSettled ∧ ∃ claimed done record, Ingest.claim? db payload = some claimed ∧
    WalletEvents.processSwapEvent cfg (Ingest.requestStatement cfg claimed payload now) .settled
      payload.data (Ingest.rejection payload) now = .ok (done,some record)

/-- A status-statement its cycle has applied before, though nobody claimed its idpk. -/
def Repeats (db : Db) (payload : Payload) : Prop :=
  payload.type = .statusStatement ∧ (Ingest.claim? db payload).isSome ∧ ∃ k cycle,
    payload.cycleId = some k ∧ db.books.cycles.get? k = some cycle ∧ cycle.statusIdpk = some payload.idpk

/-- A message of no branch, of a cycle that makes the node ask for its statement. -/
def Asks (db : Db) (payload : Payload) : Prop :=
  payload.type.isIdempotent = false ∧ ∃ k, payload.cycleId = some k ∧ (db.books.cycles.get? k = none ∨
    (db.books.cycles.get? k).bind Cycle.statusIdpk = none ∧
      db.outbox.rows.any (InformationRequests.unresolved "status-statement") = false)

/-- The call that raises comes after a commit that stored something. -/
def Exposed (cfg : Config) (db : Db) (payload : Payload) (now : Instant) (trouble : Trouble) : Prop :=
  (∃ torn, trouble.outage = some ⟨.reload,torn⟩) ∧ Settles cfg db payload now ∨
    (∃ torn, trouble.outage = some ⟨.refresh,torn⟩) ∧ (Repeats db payload ∨ Asks db payload)

/-- The failure can be written on the row. -/
def Trouble.reported (trouble : Trouble) : Prop :=
  trouble.auditFails = false ∧ ∀ o ∈ trouble.outage, o.point ≠ .reception ∧ o.point ≠ .receptionRefresh

/-- If the call fails, only the audit row of the message says so. -/
def Undone (cfg : Config) (jwt : Jwt) (db : Db) (payload : Payload) (now : Instant) (trouble : Trouble) :
    Prop :=
  let ended := ingestMessage cfg jwt db payload now trouble
  ∀ fault, ended.2 = .error fault → ended.1.stored.db = db ∧
    (trouble.reported → ended.1.stored.row = some ⟨payload,.failed,none⟩)

section Failures
variable {cfg : Config} {jwt : Jwt} {db : Db} {payload : Payload} {now : Instant}
  {outage : Option (Outage Point Reception)} {verdict : Ingest.Verdict} {s : Session Reception}

/-- A call after the commit may raise only where it has nothing to undo. -/
theorem atomic_after {point : Point}
    (h : (∃ torn, outage = some ⟨point,torn⟩) → s.working.db = s.stored.db) :
    Session.Atomic Reception.db s
      (s.commit.call outage point .database fun s => ((s,.ok verdict) : Ended)) := by
  unfold Session.call
  split
  · rename_i o found
    intro _ _
    obtain ⟨own,at_⟩ := Option.filter_eq_some_iff.mp found
    refine h ⟨o.torn,?_⟩
    rw [own,← of_decide_eq_true at_]
  · exact Session.atomic_done _ _ _

theorem conclude_atomic
    (refresh : marksItself payload verdict → (∃ torn, outage = some ⟨.refresh,torn⟩) →
      s.working.db = s.stored.db)
    (reload : payload.type = .swapSettled → verdict.status = .processed →
      ¬ ∃ torn, outage = some ⟨.reload,torn⟩) :
    Session.Atomic Reception.db s (conclude payload outage verdict s) := by
  unfold conclude
  refine Session.Atomic.call (s := s.write _) ?_
  split
  · rename_i own
    exact atomic_after (s := s.write _) (refresh own)
  · split
    · rename_i settled
      rw [Bool.and_eq_true,decide_eq_true_eq,decide_eq_true_eq] at settled
      exact atomic_after (s := s.write _) fun raised => absurd raised (reload settled.1 settled.2)
    · exact Session.atomic_done _ _ _

/-- A status-statement asks for nothing. -/
theorem request_statement (cfg : Config) (db : Db) (now : Instant) (type : payload.type = .statusStatement) :
    Ingest.requestStatement cfg db payload now = db := by
  unfold Ingest.requestStatement
  split
  · rfl
  · exact if_pos type

theorem books_claim {claimed : Db} (hc : Ingest.claim? db payload = some claimed) :
    claimed.books = db.books := by
  unfold Ingest.claim? at hc
  split at hc
  · obtain ⟨_,_,rfl⟩ := Option.map_eq_some_iff.mp hc
    rfl
  · cases hc
    rfl

/-- The cycle that has applied the statement is one the books hold. -/
theorem applied_iff {books : Books} {k idpk : String} :
    (∃ cycle, (Opening.getOrCreateCycle books k).cycles.get? k = some cycle ∧ cycle.statusIdpk = some idpk) ↔
      ∃ cycle, books.cycles.get? k = some cycle ∧ cycle.statusIdpk = some idpk := by
  rcases StoredLedger.getOrCreateCycle_cases books k with ⟨same,_⟩ | ⟨free,made⟩
  · rw [same]
  · have missing : books.cycles.get? k = none := free
    have blank : (Opening.getOrCreateCycle books k).cycles.get? k = some (StoredLedger.blank k) := by
      rw [made]
      dsimp only
      rw [Table.get?_insert]
      exact if_pos rfl
    rw [blank,missing]
    constructor
    · rintro ⟨_,⟨⟩,never⟩
      cases never
    · rintro ⟨_,⟨⟩,_⟩

theorem repeats_of_duplicate {claimed done : Db} (type : payload.type = .statusStatement)
    (hc : Ingest.claim? db payload = some claimed)
    (h : Ingest.dispatch cfg jwt (Ingest.requestStatement cfg claimed payload now) payload now =
      .ok (done,verdict)) (duplicate : verdict.status = .duplicate) :
    Repeats db payload := by
  unfold Ingest.dispatch at h
  rw [type,request_statement cfg claimed now type] at h
  dsimp only at h
  unfold Ingest.statusStatement at h
  obtain ⟨applied,ha,h⟩ := Fallible.bind_ok.mp h
  cases applied with
  | some opened =>
    cases h
    cases duplicate
  | none =>
    refine ⟨type,by rw [hc]; rfl,?_⟩
    unfold Opening.applyStatement at ha
    dsimp only at ha
    split at ha
    · rename_i k hk
      split at ha
      · rename_i cycle found
        split at ha
        · rename_i again
          obtain ⟨old,there,same⟩ := applied_iff.mp ⟨cycle,books_claim hc ▸ found,again⟩
          exact ⟨k,old,hk,there,same⟩
        · obtain ⟨_,_,ha⟩ := Fallible.bind_ok.mp ha
          obtain ⟨⟨_,_⟩,_,ha⟩ := Fallible.bind_ok.mp ha
          obtain ⟨_,_,ha⟩ := Fallible.bind_ok.mp ha
          cases ha
      · cases ha
    · cases ha

/-- A statement its cycle has applied is a duplicate, and nothing else. -/
theorem dispatch_repeats {claimed : Db} (hc : Ingest.claim? db payload = some claimed)
    (repeats : Repeats db payload) :
    Ingest.dispatch cfg jwt (Ingest.requestStatement cfg claimed payload now) payload now =
      .ok (claimed,{ status := .duplicate, reason := some "status-statement already applied" }) := by
  obtain ⟨type,_,k,cycle,hk,found,again⟩ := repeats
  rw [← books_claim hc] at found
  obtain ⟨row,there,same⟩ := applied_iff.mpr ⟨cycle,found,again⟩
  rw [request_statement cfg claimed now type]
  unfold Ingest.dispatch
  rw [type]
  dsimp only
  unfold Ingest.statusStatement Opening.applyStatement
  rw [hk]
  dsimp only
  rw [there]
  dsimp only
  rw [if_pos same]
  rfl

theorem claim_other (other : payload.type.isIdempotent = false) : Ingest.claim? db payload = some db := by
  unfold Ingest.claim?
  rw [if_neg (by rw [other]; exact Bool.false_ne_true)]

theorem dispatch_other (cfg : Config) (jwt : Jwt) (db : Db) (now : Instant)
    (other : payload.type.isIdempotent = false) :
    ∃ verdict : Ingest.Verdict, verdict.unclaim = false ∧ Ingest.dispatch cfg jwt db payload now = .ok (db,verdict) := by
  unfold Ingest.dispatch
  cases type : payload.type with
  | request | error | offer | offerUpdated | offerWithdrawn | marketClosed | unknown _ => exact ⟨_,rfl,rfl⟩
  | _ =>
    rw [type] at other
    cases other

/-- A node that does not ask keeps everything as it was. -/
theorem request_quiet (other : payload.type.isIdempotent = false) (quiet : ¬ Asks db payload) :
    Ingest.requestStatement cfg db payload now = db := by
  unfold Ingest.requestStatement
  split
  · rfl
  · rename_i k hk
    split
    · rfl
    · have known : ∃ cycle, db.books.cycles.get? k = some cycle := by
        by_contra missing
        refine quiet ⟨other,k,hk,.inl ?_⟩
        rw [not_exists] at missing
        exact Option.eq_none_iff_forall_ne_some.mpr missing
      obtain ⟨cycle,found⟩ := known
      have own : cycle.cycleId = k := Table.key_of_get? found
      have books : Opening.getOrCreateCycle db.books k = db.books := by
        rcases StoredLedger.getOrCreateCycle_cases db.books k with ⟨same,_⟩ | ⟨free,_⟩
        · exact same
        · have missing : db.books.cycles.get? k = none := free
          rw [found] at missing
          cases missing
      dsimp only
      rw [books]
      split
      · rfl
      · rename_i unopened
        have asked : db.outbox.rows.any (InformationRequests.unresolved "status-statement") = true := by
          by_contra unasked
          refine quiet ⟨other,k,hk,.inr ⟨?_,Bool.not_eq_true _ ▸ unasked⟩⟩
          exact Option.not_isSome_iff_eq_none.mp unopened
        unfold InformationRequests.enqueue
        rw [if_pos asked]

theorem settles_of_processed {claimed done : Db} (type : payload.type = .swapSettled)
    (hc : Ingest.claim? db payload = some claimed)
    (h : Ingest.dispatch cfg jwt (Ingest.requestStatement cfg claimed payload now) payload now =
      .ok (done,verdict)) (processed : verdict.status = .processed) : Settles cfg db payload now := by
  unfold Ingest.dispatch at h
  rw [type] at h
  dsimp only at h
  unfold Ingest.swapEvent at h
  obtain ⟨⟨after,record⟩,he,h⟩ := Fallible.bind_ok.mp h
  cases record with
  | none =>
    cases h
    cases processed
  | some record => exact ⟨type,claimed,after,record,hc,he⟩

theorem handle_atomic {trouble : Trouble} (free : ¬ Exposed cfg db payload now trouble)
    (working : s.working.db = db) (stored : s.stored.db = db) :
    Session.Atomic Reception.db s (handle cfg jwt payload now trouble.outage s) := by
  unfold handle
  refine Session.Atomic.call ?_
  rw [working]
  cases hc : Ingest.claim? db payload with
  | none => exact Session.Atomic.call (s := s.write _) (Session.atomic_done _ _ _)
  | some claimed =>
    refine Session.Atomic.call (s := s.write _) (Session.Atomic.call (s := (s.write _).write _) ?_)
    dsimp only [Session.working_write]
    cases hd : Ingest.dispatch cfg jwt (Ingest.requestStatement cfg claimed payload now) payload now with
    | error fault => exact Session.atomic_raise _ _
    | ok handled =>
      obtain ⟨done,verdict⟩ := handled
      refine conclude_atomic (s := ((s.write _).write _).write _) (fun own raised => ?_) fun type processed raised =>
        free (.inl ⟨raised,settles_of_processed type hc hd processed⟩)
      show Ingest.returnClaim done payload verdict = s.stored.db
      unfold marksItself at own
      rw [Bool.or_eq_true,Bool.and_eq_true,decide_eq_true_eq,decide_eq_true_eq,Bool.not_eq_true'] at own
      rcases own with ⟨type,duplicate⟩ | other
      · exact absurd (.inr ⟨raised,.inl (repeats_of_duplicate type hc hd duplicate)⟩) free
      · rw [claim_other other] at hc
        cases hc
        have quiet : ¬ Asks db payload := fun asks => free (.inr ⟨raised,.inr asks⟩)
        rw [request_quiet other quiet] at hd
        obtain ⟨said,kept,same⟩ := dispatch_other cfg jwt db now other
        rw [same] at hd
        cases hd
        unfold Ingest.returnClaim
        rw [kept,stored]
        rfl

theorem stored_failed (s : Session Reception) (auditFails : Bool) :
    (failed payload auditFails s).stored.db = s.stored.db ∧
      (auditFails = false → (failed payload auditFails s).stored.row = some ⟨payload,.failed,none⟩) := by
  unfold failed
  cases auditFails with
  | true => exact ⟨rfl,fun never => nomatch never⟩
  | false => exact ⟨rfl,fun _ => rfl⟩

theorem undone_of_unexposed {trouble : Trouble} (free : ¬ Exposed cfg db payload now trouble) :
    Undone cfg jwt db payload now trouble := by
  intro fault raised
  generalize result : ingestMessage cfg jwt db payload now trouble = ended at raised ⊢
  unfold ingestMessage Session.call at result
  split at result
  · rename_i o found
    obtain ⟨own,at_⟩ := Option.filter_eq_some_iff.mp found
    rw [← result]
    exact ⟨rfl,fun reported => absurd (of_decide_eq_true at_) (reported.2 o own).1⟩
  · split at result
    · rename_i o found
      obtain ⟨own,at_⟩ := Option.filter_eq_some_iff.mp found
      rw [← result]
      exact ⟨rfl,fun reported => absurd (of_decide_eq_true at_) (reported.2 o own).2⟩
    · dsimp only at result
      split at result
      · rw [← result] at raised
        cases raised
      · rename_i s e handled
        have atomic := @handle_atomic cfg jwt db payload now _ trouble free rfl rfl e (by rw [handled])
        rw [handled] at atomic
        rw [← result]
        obtain ⟨kept,row⟩ := @stored_failed payload s trouble.auditFails
        exact ⟨kept.trans atomic,fun reported => row reported.1⟩

/-- A run in which only a call after the reception raises. -/
theorem ingestMessage_late {trouble : Trouble} {o : Outage Point Reception} (ho : trouble.outage = some o)
    (late : o.point ≠ .reception ∧ o.point ≠ .receptionRefresh) :
    ingestMessage cfg jwt db payload now trouble =
      match handle cfg jwt payload now (some o) (Session.opened ⟨db,some ⟨payload,.received,none⟩⟩) with
      | (s,.ok verdict) => (s,.ok verdict)
      | (s,.error fault) => (failed payload trouble.auditFails s,.error fault) := by
  unfold ingestMessage
  rw [ho,Session.call_other late.1,Session.call_other late.2]
  rfl

/-- What was stored before the failing call stays. -/
theorem not_undone {trouble : Trouble} {o : Outage Point Reception} (ho : trouble.outage = some o)
    (late : o.point ≠ .reception ∧ o.point ≠ .receptionRefresh) {s : Session Reception} {fault : Fault}
    (ends : handle cfg jwt payload now (some o) (Session.opened ⟨db,some ⟨payload,.received,none⟩⟩) =
      (s,.error fault)) (stored : s.stored.db ≠ db) : ¬ Undone cfg jwt db payload now trouble := by
  intro undone
  have done : ingestMessage cfg jwt db payload now trouble = (failed payload trouble.auditFails s,.error fault) := by
    rw [ingestMessage_late ho late,ends]
  have kept := (undone fault (by rw [done])).1
  rw [done,(stored_failed s trouble.auditFails).1] at kept
  exact stored kept

/-- A run whose first commit is passed: the calls before it do not raise. -/
theorem handle_claimed {o : Outage Point Reception} {claimed done : Db}
    (late : o.point = .refresh ∨ o.point = .reload) (hc : Ingest.claim? db payload = some claimed)
    (hd : Ingest.dispatch cfg jwt (Ingest.requestStatement cfg claimed payload now) payload now =
      .ok (done,verdict)) (row : Option InboundMessage) :
    ∃ s : Session Reception, s.stored.db = db ∧ s.working.db = Ingest.returnClaim done payload verdict ∧
      handle cfg jwt payload now (some o) (Session.opened ⟨db,row⟩) = conclude payload (some o) verdict s := by
  have other {point : Point} (early : point ≠ .refresh ∧ point ≠ .reload) : o.point ≠ point := by
    rintro rfl
    rcases late with h | h
    · exact early.1 h
    · exact early.2 h
  unfold handle
  rw [Session.call_other (other (by decide)),show (Session.opened (⟨db,row⟩ : Reception)).working.db = db from rfl,
    hc]
  dsimp only
  rw [Session.call_other (other (by decide)),Session.call_other (other (by decide))]
  dsimp only [Session.working_write]
  rw [hd]
  exact ⟨_,rfl,rfl,rfl⟩

theorem conclude_raises {torn : Reception} {point : Point}
    (raises : point = .refresh ∧ marksItself payload verdict ∨ point = .reload ∧
      marksItself payload verdict = false ∧ payload.type = .swapSettled ∧ verdict.status = .processed) :
    ∃ t : Session Reception, t.stored.db = s.working.db ∧
      conclude payload (some ⟨point,torn⟩) verdict s = (t,.error .database) := by
  unfold conclude
  rcases raises with ⟨rfl,own⟩ | ⟨rfl,own,type,processed⟩
  · rw [Session.call_other Point.noConfusion,if_pos own,Session.call_raises]
    exact ⟨_,rfl,rfl⟩
  · rw [Session.call_other Point.noConfusion,own,if_neg (by decide),if_pos (by rw [type,processed]; rfl),
      Session.call_raises]
    exact ⟨_,rfl,rfl⟩

/-- The claim of an idempotent message is new, so its commit is seen. -/
theorem ne_of_claimed {claimed done : Db} (idempotent : payload.type.isIdempotent)
    (hc : Ingest.claim? db payload = some claimed) (same : done.processed = claimed.processed) : done ≠ db := by
  rintro rfl
  unfold Ingest.claim? at hc
  rw [if_pos idempotent] at hc
  obtain ⟨processed,hi,rfl⟩ := Option.map_eq_some_iff.mp hc
  obtain ⟨free,rfl⟩ := Table.insert?_eq_some.mp hi
  have taken : (done.processed.insert (Ingest.claimRow payload) free).get? payload.idpk =
      some (Ingest.claimRow payload) := by
    rw [Table.get?_insert]
    exact if_pos rfl
  rw [← show done.processed = done.processed.insert (Ingest.claimRow payload) free from same] at taken
  rw [show done.processed.get? payload.idpk = none from free] at taken
  cases taken

theorem processed_request (claimed : Db) :
    (Ingest.requestStatement cfg claimed payload now).processed = claimed.processed := by
  unfold Ingest.requestStatement
  split
  · rfl
  · split <;> rfl

/-- A node that asks has stored something new. -/
theorem ne_of_asks (asks : Asks db payload) : Ingest.requestStatement cfg db payload now ≠ db := by
  obtain ⟨other,k,hk,why⟩ := asks
  have ordinary : payload.type ≠ .statusStatement := by
    intro type
    rw [type] at other
    cases other
  intro same
  have books := congrArg Db.books same
  have outbox := congrArg Db.outbox same
  unfold Ingest.requestStatement at books outbox
  rw [hk] at books outbox
  dsimp only at books outbox
  rw [if_neg ordinary] at books outbox
  dsimp only at books outbox
  rcases why with missing | ⟨unopened,unasked⟩
  · -- the placeholder of the cycle is there now
    rcases StoredLedger.getOrCreateCycle_cases db.books k with ⟨_,there⟩ | ⟨free,made⟩
    · rw [missing] at there
      cases there
    · have there : (Opening.getOrCreateCycle db.books k).cycles.get? k = some (StoredLedger.blank k) := by
        rw [made]
        dsimp only
        rw [Table.get?_insert]
        exact if_pos rfl
      rw [books,missing] at there
      cases there
  · -- one more request is in the outbox
    rw [books] at outbox
    rw [unopened] at outbox
    have grown := congrArg (fun t : Outbox => t.rows.length) outbox
    unfold InformationRequests.enqueue at grown
    rw [unasked] at grown
    simp [Outbox.rows_enqueue] at grown

/-- What the commit stored before the failing call is still there. -/
theorem not_undone_of_late {trouble : Trouble} {torn : Reception} {point : Point} {claimed done : Db}
    (ho : trouble.outage = some ⟨point,torn⟩) (hc : Ingest.claim? db payload = some claimed)
    (hd : Ingest.dispatch cfg jwt (Ingest.requestStatement cfg claimed payload now) payload now =
      .ok (done,verdict)) (kept : verdict.unclaim = false) (changed : done ≠ db)
    (raises : point = .refresh ∧ marksItself payload verdict ∨ point = .reload ∧
      marksItself payload verdict = false ∧ payload.type = .swapSettled ∧ verdict.status = .processed) :
    ¬ Undone cfg jwt db payload now trouble := by
  have late : point = .refresh ∨ point = .reload := raises.imp And.left And.left
  have after : point ≠ .reception ∧ point ≠ .receptionRefresh := by
    rcases late with rfl | rfl <;> exact ⟨Point.noConfusion,Point.noConfusion⟩
  obtain ⟨s,_,working,ends⟩ := handle_claimed (o := ⟨point,torn⟩) late hc hd (some ⟨payload,.received,none⟩)
  obtain ⟨t,stored,raised⟩ := conclude_raises raises
  refine not_undone ho after (ends.trans raised) ?_
  rw [stored,working]
  unfold Ingest.returnClaim
  rw [kept]
  exact changed

end Failures

/-- A failure leaves the database as it was exactly when the call that raised does
not come after a commit that stored something. -/
theorem ingest_atomic_iff (cfg : Config) (jwt : Jwt) (db : Db) (payload : Payload) (now : Instant)
    (trouble : Trouble) :
    Undone cfg jwt db payload now trouble ↔ ¬ Exposed cfg db payload now trouble := by
  refine ⟨fun undone exposed => ?_,undone_of_unexposed⟩
  rcases exposed with ⟨⟨torn,ho⟩,type,claimed,done,record,hc,he⟩ | ⟨⟨torn,ho⟩,repeats | asks⟩
  · have hd : Ingest.dispatch cfg jwt (Ingest.requestStatement cfg claimed payload now) payload now =
        .ok (done,{}) := by
      unfold Ingest.dispatch
      rw [type]
      dsimp only
      unfold Ingest.swapEvent
      rw [he,Fallible.ok_bind]
      rfl
    have log := (WalletEvents.service_processSwapEvent he).log
    have changed := ne_of_claimed (by rw [type]; rfl) hc
      ((congrArg Log.processed log).trans (processed_request claimed))
    refine not_undone_of_late ho hc hd rfl changed (.inr ⟨rfl,?_,type,rfl⟩) undone
    unfold marksItself
    rw [type]
    rfl
  · have type := repeats.1
    obtain ⟨claimed,hc⟩ := Option.isSome_iff_exists.mp repeats.2.1
    have changed := ne_of_claimed (by rw [type]; rfl) hc rfl
    refine not_undone_of_late ho hc (dispatch_repeats hc repeats) rfl changed (.inl ⟨rfl,?_⟩) undone
    unfold marksItself
    rw [type]
    rfl
  · obtain ⟨verdict,kept,hd⟩ := dispatch_other cfg jwt (Ingest.requestStatement cfg db payload now) now asks.1
    refine not_undone_of_late ho (claim_other asks.1) hd kept (ne_of_asks asks) (.inl ⟨rfl,?_⟩) undone
    unfold marksItself
    rw [asks.1,Bool.not_false,Bool.or_true]

/-- A sale of 60 kWh that the wallet calls `s1`. -/
def sale : Db :=
  Lib.run (Node.step Node.seller) (Node.opened "C1")
    (.sellerOffer "C1" 100 0 :: Node.proposed "60000000-0000-0000-0000-000000000001"
      "60000000-0000-0000-0000-000000000002" "s1" 60 1)

def saleSettled : Payload := Node.walletMessage .swapSettled "u1" "u2" [("swapId",.str "s1")]

/-- The settlement is on the ledger, and the message is reported as failed. -/
theorem settled_and_failed :
    let trouble : Trouble := { outage := some ⟨.reload,⟨sale,none⟩⟩ }
    let ended := ingestMessage Node.seller.cfg Node.seller.jwt sale saleSettled 2 trouble
    ended.1.stored.row.map InboundMessage.status = some .failed ∧
      ¬ Undone Node.seller.cfg Node.seller.jwt sale saleSettled 2 trouble := by
  refine ⟨by decide +kernel,fun undone => ?_⟩
  have raised : (ingestMessage Node.seller.cfg Node.seller.jwt sale saleSettled 2
      { outage := some ⟨.reload,⟨sale,none⟩⟩ }).2 = .error .database := by decide +kernel
  have kept := congrArg (fun db : Db => db.books.ledger.length) (undone .database raised).1
  exact absurd kept (by decide +kernel)

end IngestAtomicity

end EnergyNode
