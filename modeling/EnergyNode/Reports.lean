import EnergyNode.Buying
import EnergyNode.Ingest

/-! The negotiation reports of a city: the operations with their validated
balances, their attempts in the outbox, and what the central's errors, the
publication results and the end of the cycle do to them. -/
namespace EnergyNode
open Lib

namespace Reports

def isReport (row : OutboundMessage) : Bool := row.content.type = .negotiationReport

/-- A report that was not published yet, or is to be sent again. -/
def waiting (status : ReportStatus) : Bool := status = .pending || status = .deferred

/-- `latest_report`: ids grow with the insertions. -/
def latest? (reports : Table NegotiationReport.idpk) (cycleId : String) : Option NegotiationReport :=
  (reports.rows.filter fun r => r.cycleId = cycleId).getLast?

/-- `_outbounds`. -/
def attempts (outbox : Outbox) (idpk : String) : List OutboundMessage :=
  outbox.rows.filter fun row => row.idpk = idpk && isReport row

def dispatchable (row : OutboundMessage) : Bool := isReport row && row.dispatchRequired

def stopped (reason : String) (row : OutboundMessage) : OutboundMessage :=
  { row with dispatchRequired := false, lastError := some reason }

/-- Why the reports of a cycle are not sent any more. -/
def overReason (now : Instant) (cycle : Cycle) : Option String :=
  match cycle.validUntil with
  | none => some "CYCLE_UNKNOWN"
  | some validUntil =>
      if cycle.statusIdpk = none then some "CYCLE_UNKNOWN"
      else if cycle.schedulerState = "CLOSED" ∨ validUntil ≤ now then some "CYCLE_EXPIRED"
      else none

/-- What stops a row; cycles in `locked` are held by another transaction. -/
def doomed (cycles : Table Cycle.cycleId) (locked : List String) (now : Instant)
    (row : OutboundMessage) : Option String :=
  if dispatchable row then
    ((row.cycleId.filter (· ∉ locked)).bind cycles.get?).bind (overReason now)
  else none

def stopDoomed (doom : OutboundMessage → Option String) (row : OutboundMessage) : OutboundMessage :=
  match doom row with
  | some reason => stopped reason row
  | none => row

theorem stopDoomed_msgId (doom : OutboundMessage → Option String) (row : OutboundMessage) :
    (stopDoomed doom row).msgId = row.msgId := by
  unfold stopDoomed
  split <;> rfl

/-- The report of a stopped row, while it waits. -/
def endDoomed (outbox : Outbox) (doom : OutboundMessage → Option String)
    (status : String → ReportStatus) (report : NegotiationReport) : NegotiationReport :=
  match (attempts outbox report.idpk).findSome? doom with
  | some reason =>
      if waiting report.status then { report with status := status reason, reason := some reason }
      else report
  | none => report

theorem endDoomed_idpk (outbox : Outbox) (doom : OutboundMessage → Option String)
    (status : String → ReportStatus) (report : NegotiationReport) :
    (endDoomed outbox doom status report).idpk = report.idpk := by
  unfold endDoomed
  split
  · split <;> rfl
  · rfl

def overStatus (reason : String) : ReportStatus :=
  if reason = "CYCLE_EXPIRED" then .expired else .rejected

/-- `expire_report_dispatches`. -/
def expireReportDispatches (db : Db) (locked : List String) (now : Instant) : Db :=
  let doom := doomed db.books.cycles locked now
  { db with
    outbox := db.outbox.mapRows (stopDoomed doom) (stopDoomed_msgId doom)
    diplomacy := { db.diplomacy with
      reports := db.diplomacy.reports.mapRows (endDoomed db.outbox doom overStatus)
        (endDoomed_idpk db.outbox doom overStatus) } }

def reportIds (db : Db) : List String :=
  db.outbox.ids ++ db.diplomacy.reports.rows.map NegotiationReport.idpk ++
    db.diplomacy.reports.rows.map NegotiationReport.msgId

def newReport (cfg : Config) (db : Db) (cycleId : String) (budget energy : ℚ) :
    NegotiationReport where
  idpk := cfg.uuid4 (reportIds db)
  msgId := cfg.uuid4 (reportIds db ++ [cfg.uuid4 (reportIds db)])
  cycleId := cycleId
  budgetBalance := budget
  energyBalance := energy

/-- `generate_negotiation_report`: unchanged balances are the same operation. -/
def generate (cfg : Config) (db : Db) (cycleId : String) (now : Instant) :
    Result (Db × NegotiationReport) := do
  let some cycle := db.books.cycles.get? cycleId
    | throw (.value ("Cycle " ++ cycleId ++ " not found"))
  Ingest.reportWindowOpen cycle now
  let (budget, energy) ← Ledger.validateCycleConsistency db.books cycleId
  match (latest? db.diplomacy.reports cycleId).filter fun r =>
      r.budgetBalance = budget ∧ r.energyBalance = energy with
  | some previous => return (db, previous)
  | none =>
      match db.diplomacy.reports.insert? (newReport cfg db cycleId budget energy) with
      | some reports =>
          return ({ db with diplomacy := { db.diplomacy with reports := reports } },
            newReport cfg db cycleId budget energy)
      | none => throw .database

/-- An older report of the cycle that still waits for its publication. -/
def outdated (cycleId idpk : String) (row : OutboundMessage) : Option String :=
  if dispatchable row ∧ row.cycleId = some cycleId ∧ row.idpk ≠ idpk then some "SUPERSEDED" else none

def supersedeReport (outbox : Outbox) (cycleId idpk : String) (report : NegotiationReport) :
    NegotiationReport :=
  if (attempts outbox report.idpk).any fun row => (outdated cycleId idpk row).isSome then
    if waiting report.status then { report with status := .superseded } else report
  else report

theorem supersedeReport_idpk (outbox : Outbox) (cycleId idpk : String) (report : NegotiationReport) :
    (supersedeReport outbox cycleId idpk report).idpk = report.idpk := by
  unfold supersedeReport
  split
  · split <;> rfl
  · rfl

def supersede (db : Db) (cycleId idpk : String) : Db :=
  { db with
    outbox := db.outbox.mapRows (stopDoomed (outdated cycleId idpk))
      (stopDoomed_msgId (outdated cycleId idpk))
    diplomacy := { db.diplomacy with
      reports := db.diplomacy.reports.mapRows (supersedeReport db.outbox cycleId idpk)
        (supersedeReport_idpk db.outbox cycleId idpk) } }

def attemptDraft (report : NegotiationReport) (cycle : Cycle) (routingKey : Option String)
    (now : Instant) : Draft where
  content := .negotiationReport report.budgetBalance report.energyBalance
  cycleId := some cycle.cycleId
  routingKey := routingKey
  createdAt := now
  availableAt := cycle.reportWindowOpensAt
  expiresAt := cycle.validUntil

/-- A deferred report is finished before it is corrected; an ended one stays. -/
def held (status : ReportStatus) : Bool :=
  status = .deferred || status = .expired || status = .rejected

/-- One due cycle of `enqueue_due_negotiation_reports`. -/
def enqueueReport (cfg : Config) (now : Instant) (db : Db) (cycleId : String) : Result Db :=
  match db.books.cycles.get? cycleId with
  | none => .ok db
  | some cycle =>
      if (latest? db.diplomacy.reports cycleId).any fun r => held r.status then .ok db
      else do
        let (db, report) ← generate cfg db cycleId now
        if !(attempts db.outbox report.idpk).isEmpty then return db
        let db := supersede db cycleId report.idpk
        match db.outbox.insert?
            ⟨attemptDraft report cycle (some cfg.centralRoutingKey) now,report.msgId,report.idpk⟩ with
        | some outbox => return { db with outbox := outbox }
        | none => throw .database

def due (now : Instant) (cycle : Cycle) : Bool :=
  cycle.schedulerState = "REPORT_WINDOW" && cycle.statusIdpk.isSome &&
    cycle.reportWindowOpensAt.any (· ≤ now) && cycle.validUntil.any (now < ·)

/-- `enqueue_due_negotiation_reports`; each of its two readings skips the cycles
locked at that moment. -/
def enqueueDue (cfg : Config) (db : Db) (locked locked' : List String) (now : Instant) :
    Result Db :=
  let db := expireReportDispatches db locked now
  ((db.books.cycles.rows.filter fun c => due now c && c.cycleId ∉ locked').map Cycle.cycleId).foldlM
    (enqueueReport cfg now) db

/-! ### Errors of the central -/

/-- ERROR_CODES; only the first reason says when the window opens. -/
inductive ErrorReason where
  | tooEarly (opensAt : Instant)
  | cycleUnknown | cycleExpired | priceAboveCap | overCapacity
deriving DecidableEq

def ErrorReason.text : ErrorReason → String
  | tooEarly _ => "REPORT_TOO_EARLY"
  | cycleUnknown => "CYCLE_UNKNOWN"
  | cycleExpired => "CYCLE_EXPIRED"
  | priceAboveCap => "PRICE_ABOVE_CAP"
  | overCapacity => "OVER_CAPACITY"

structure ReportError where
  cycleId : String
  target : String
  reason : ErrorReason

def setReport (db : Db) (report : NegotiationReport) : Db :=
  { db with diplomacy := { db.diplomacy with reports := db.diplomacy.reports.set report } }

def setCycle (db : Db) (cycle : Cycle) : Db :=
  { db with books := { db.books with cycles := db.books.cycles.set cycle } }

def setRow (db : Db) (row : OutboundMessage) : Db := { db with outbox := db.outbox.set row }

/-- The attempt, its report and its cycle that an error is about; a late error
concerns neither an older attempt nor an older report. -/
structure Concerned where
  cycle : Cycle
  target : OutboundMessage
  report : NegotiationReport

def concerned? (db : Db) (e : ReportError) : Option Concerned := do
  let cycle ← db.books.cycles.get? e.cycleId
  let target ← (db.outbox.get? e.target).filter fun row => isReport row && row.cycleId = some e.cycleId
  let report ← db.diplomacy.reports.get? target.idpk
  guard ((attempts db.outbox report.idpk).getLast?.map OutboundMessage.msgId = some target.msgId)
  guard ((latest? db.diplomacy.reports cycle.cycleId).map NegotiationReport.idpk = some report.idpk)
  guard (report.status ≠ .expired ∧ report.status ≠ .rejected)
  return ⟨cycle,target,report⟩

/-- A deferred report leaves again under a new message: same operation, same
balances. -/
def retry (cfg : Config) (db : Db) (c : Concerned) (cycle : Cycle) (now : Instant) : Db :=
  let draft := attemptDraft c.report cycle c.target.routingKey now
  { db with outbox := Buying.enqueueAs cfg db.outbox c.report.idpk draft }

def ended (reason : ErrorReason) (cycle : Cycle) (now : Instant) : Bool :=
  reason = .cycleExpired || match cycle.validUntil with
    | some validUntil => validUntil ≤ now
    | none => true

/-- What an accepted error does; the cycle's own row is held by this transaction. -/
def respond (cfg : Config) (db : Db) (c : Concerned) (reason : ErrorReason) (locked : List String)
    (now : Instant) : Db :=
  let db := setRow db (stopped reason.text c.target)
  let report := { c.report with reason := some reason.text }
  if ended reason c.cycle now then
    expireReportDispatches
      (setCycle (setReport db { report with status := .expired })
        { c.cycle with schedulerState := "CLOSED" }) (locked.filter (· ≠ c.cycle.cycleId)) now
  else match reason with
    | .tooEarly opensAt =>
        let cycle := { c.cycle with
          reportWindowOpensAt := some (max (c.cycle.reportWindowOpensAt.getD opensAt) opensAt) }
        let db := setCycle db cycle
        if c.cycle.validUntil.any (· ≤ opensAt) then setReport db { report with status := .expired }
        else if opensAt ≤ now then setReport db { report with status := .rejected }
        else retry cfg (setReport db { report with status := .deferred }) c cycle now
    | _ => setReport db { report with status := .rejected }

/-- `process_report_error`. -/
def processReportError (cfg : Config) (db : Db) (e : ReportError) (locked : List String)
    (now : Instant) : Db :=
  match concerned? db e with
  | none => db
  | some c => respond cfg db c e.reason locked now

/-! ### Publication results -/

/-- The errors a late publication does not erase. -/
def businessErrors : List String :=
  ["REPORT_TOO_EARLY","CYCLE_EXPIRED","CYCLE_UNKNOWN","SUPERSEDED","PRICE_ABOVE_CAP","OVER_CAPACITY"]

def publishedRow (row : OutboundMessage) : OutboundMessage :=
  { row with
    dispatchRequired := false
    lastError := row.lastError.filter (· ∈ businessErrors)
    status := .published
    attemptCount := if row.status = .published then row.attemptCount else row.attemptCount + 1 }

/-- `mark_negotiation_report_sent`. -/
def markSent (db : Db) (row : OutboundMessage) : Db :=
  match db.diplomacy.reports.get? row.idpk with
  | none => db
  | some report =>
      let last := (attempts db.outbox report.idpk).getLast?.all fun a => a.msgId = row.msgId
      if last ∧ row.lastError.all (· = "") ∧ waiting report.status then
        setReport db { report with status := .published, reason := none }
      else db

def failedRow (error : String) (row : OutboundMessage) : OutboundMessage :=
  if row.status ≠ .published ∧ row.dispatchRequired then
    { row with status := .failed, lastError := some error, attemptCount := row.attemptCount + 1 }
  else row

/-- `update_outbound_audit` for an attempt of a report; `none` is a success. -/
def reportResult (db : Db) (row : OutboundMessage) (error : Option String) : Db :=
  match error with
  | none => markSent (setRow db (publishedRow row)) (publishedRow row)
  | some error => setRow db (failedRow error row)

end Reports

end EnergyNode
