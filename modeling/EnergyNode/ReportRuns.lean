import EnergyNode.ReportSteps

/-! Runs of the reports' scheduler, of the central's errors, of the publication
results and of the polls, with any change of the books in between. -/
namespace EnergyNode
open Lib

namespace Reports

inductive Act where
  /-- What the other services keep. -/
  | change (books : Books) (market : Market) (negotiations : Table Negotiation.idpk)
  /-- Another service's message; a report is never sent this way. -/
  | send (draft : Draft)
  | enqueueDue (locked locked' : List String) (now : Instant)
  | error (e : ReportError) (locked : List String) (now : Instant)
  | result (msgId : String) (error : Option String)
  | expire (locked : List String) (now : Instant)
  | poll (locked closed : List String) (now : Instant)

/-- The result of a publication; the other messages have their own handling. -/
def result (db : Db) (msgId : String) (error : Option String) : Db :=
  match db.outbox.get? msgId with
  | none => db
  | some row =>
      if isReport row then reportResult db row error
      else { db with outbox := match error with
        | none => Buying.markPublished db.outbox msgId
        | some error => Buying.markFailed db.outbox msgId error }

def step (cfg : Config) (db : Db) : Act → Db
  | .change books market negotiations =>
      { db with
        books := books, market := market
        diplomacy := { db.diplomacy with negotiations := negotiations } }
  | .send draft =>
      if draft.content.type = .negotiationReport then db
      else { db with outbox := db.outbox.enqueue cfg draft }
  | .enqueueDue locked locked' now =>
      match Reports.enqueueDue cfg db locked locked' now with
      | .ok db => db
      | .error _ => db
  | .error e locked now => processReportError cfg db e locked now
  | .result msgId error => result db msgId error
  | .expire locked now => expireReportDispatches db locked now
  | .poll locked closed now => OutboundDispatch.prepare cfg db locked closed now

variable {cfg : Config} {db : Db}

theorem quiet_markPublished (msgId : String) :
    Quiet db { db with outbox := Buying.markPublished db.outbox msgId } := by
  unfold Buying.markPublished
  split
  · exact .refl db
  rename_i row hget
  have stored : db.outbox.get? row.msgId = some row := Table.key_of_get? hget ▸ hget
  split
  · exact ⟨Table.pointwise_set RowKept.refl stored ⟨⟨rfl,rfl,rfl,rfl⟩,nofun⟩,(Quiet.refl db).reports⟩
  · exact ⟨Table.pointwise_set RowKept.refl stored ⟨⟨rfl,rfl,rfl,rfl⟩,nofun⟩,(Quiet.refl db).reports⟩

theorem quiet_markFailed (msgId error : String) :
    Quiet db { db with outbox := Buying.markFailed db.outbox msgId error } := by
  unfold Buying.markFailed
  split
  · exact .refl db
  rename_i row hget
  have stored : db.outbox.get? row.msgId = some row := Table.key_of_get? hget ▸ hget
  split
  · exact .refl db
  · exact ⟨Table.pointwise_set RowKept.refl stored ⟨⟨rfl,rfl,rfl,rfl⟩,id⟩,(Quiet.refl db).reports⟩

theorem quiet_result (msgId : String) (error : Option String) :
    Quiet db (result db msgId error) := by
  unfold result
  split
  · exact .refl db
  rename_i row hget
  split
  · exact quiet_reportResult error hget
  split
  · exact quiet_markPublished msgId
  · exact quiet_markFailed msgId _

theorem step_sound (a : Act) : Sound db (step cfg db a) := by
  cases a with
  | change books market negotiations =>
    exact Quiet.sound ⟨(Quiet.refl db).rows,(Quiet.refl db).reports⟩
  | send draft =>
    unfold step
    dsimp only
    split
    · exact .refl db
    · rename_i h
      refine sound_other (Outbox.get?_fresh cfg db.outbox []) ?_
      unfold isReport
      simpa using h
  | enqueueDue locked locked' now =>
    unfold step
    dsimp only
    split
    · rename_i h
      exact enqueueDue_sound h
    · exact .refl db
  | error e locked now => exact processReportError_sound e locked
  | result msgId error => exact (quiet_result msgId error).sound
  | expire locked now => exact (quiet_expire locked).sound
  | poll locked closed now => exact sound_prepare locked closed

theorem orderly_empty : Orderly {} := by
  have rows (row : OutboundMessage) : row ∉ ({} : Db).outbox := List.not_mem_nil
  have reports (report : NegotiationReport) : report ∉ ({} : Db).diplomacy.reports :=
    List.not_mem_nil
  exact ⟨fun row h => absurd h (rows row),fun row h => absurd h (rows row),
    fun row h => absurd h (rows row),fun report h => absurd h (reports report)⟩

/-- One message of a cycle may leave: the latest attempt of its latest report. -/
structure OneAtATime (db : Db) : Prop where
  latest : ∀ row ∈ db.outbox, dispatchable row → ∃ report ∈ db.diplomacy.reports,
    row.cycleId = some report.cycleId ∧ latest? db.diplomacy.reports report.cycleId = some report ∧
      (attempts db.outbox report.idpk).getLast? = some row
  one : ∀ a ∈ db.outbox, ∀ b ∈ db.outbox, dispatchable a → dispatchable b →
    a.cycleId = b.cycleId → a = b

/-- The reports a poll lists are inside the window of their cycle. -/
def Punctual (db : Db) : Prop :=
  ∀ limit now, ∀ row ∈ OutboundDispatch.select db limit now, isReport row →
    ∃ cycle ∈ db.books.cycles, row.cycleId = some cycle.cycleId ∧
      (∃ opensAt, cycle.reportWindowOpensAt = some opensAt ∧ opensAt ≤ now) ∧
      (∃ validUntil, cycle.validUntil = some validUntil ∧ now < validUntil) ∧
      cycle.schedulerState ≠ "CLOSED"

/-- An error leads to new attempts of its own report only. -/
def Repeats (db : Db) (a : Act) (db' : Db) : Prop :=
  ∀ e locked now, a = .error e locked now → ∀ row ∈ db'.outbox, isReport row →
    (∀ old ∈ db.outbox, old.msgId ≠ row.msgId) →
      ∃ target, db.outbox.get? e.target = some target ∧ row.idpk = target.idpk ∧
        row.content = target.content ∧ row.msgId ≠ target.msgId

theorem Orderly.oneAtATime (h : Orderly db) : OneAtATime db := by
  have latest : ∀ row ∈ db.outbox, dispatchable row → ∃ report ∈ db.diplomacy.reports,
      row.cycleId = some report.cycleId ∧
        latest? db.diplomacy.reports report.cycleId = some report ∧
        (attempts db.outbox report.idpk).getLast? = some row := by
    intro row hrow hd
    have hr : isReport row := by
      unfold dispatchable at hd
      rw [Bool.and_eq_true] at hd
      exact hd.1
    obtain ⟨report,hmem,carries⟩ := h.carried row hrow hr
    have hlatest := h.latest row hrow hd _ carries.cycleId
    have hlast := h.last row hrow hd
    obtain ⟨report',hl,key⟩ := Option.map_eq_some_iff.mp hlatest
    obtain ⟨row',hl',key'⟩ := Option.map_eq_some_iff.mp hlast
    obtain rfl : report' = report :=
      Table.eq_of_key (mem_latest? hl).1 hmem (key.trans carries.idpk.symm)
    obtain rfl : row' = row :=
      Table.eq_of_key (mem_attempts.mp (List.mem_of_getLast? hl')).1 hrow key'
    exact ⟨report',hmem,carries.cycleId,hl,key ▸ hl'⟩
  refine ⟨latest,?_⟩
  intro a ha b hb da db' same
  obtain ⟨ra,_,ca,la,ga⟩ := latest a ha da
  obtain ⟨rb,_,cb,lb,gb⟩ := latest b hb db'
  have cycle : ra.cycleId = rb.cycleId := Option.some.inj (ca.symm.trans (same.trans cb))
  rw [cycle,lb] at la
  obtain rfl := Option.some.inj la
  exact Option.some.inj (ga.symm.trans gb)

theorem punctual (db : Db) : Punctual db := by
  intro limit now row hrow hr
  obtain ⟨_,listed⟩ := OutboundDispatch.mem_select hrow
  unfold OutboundDispatch.listed at listed
  simp only [Bool.and_eq_true,hr,Bool.not_true,Bool.false_or] at listed
  unfold OutboundDispatch.reportOpen at listed
  obtain ⟨cycle,hcycle,inside⟩ := (Option.any_eq_true _ _).mp listed.2
  obtain ⟨cycleId,hrow',hget⟩ := Option.bind_eq_some_iff.mp hcycle
  simp only [Bool.and_eq_true,decide_eq_true_eq,Option.any_eq_true] at inside
  obtain ⟨⟨⟨_,valid⟩,opens⟩,state⟩ := inside
  refine ⟨cycle,Table.mem_of_get? hget,?_,opens,valid,state⟩
  rw [hrow',Table.key_of_get? hget]

/-- Only a deferred report is sent again, under a new message. -/
theorem processReportError_repeats (h : Orderly db) (e : ReportError) (locked : List String)
    (now : Instant) : Repeats db (.error e locked now) (processReportError cfg db e locked now) := by
  intro _ _ _ same
  cases same
  intro row hrow _ fresh
  have old {next : Db} (quiet : Quiet db next) (hrow : row ∈ next.outbox) : False := by
    obtain ⟨old,hold,kept⟩ := Pointwise.mem_right quiet.rows hrow
    exact fresh old hold kept.msgId.symm
  unfold processReportError at hrow
  split at hrow
  · exact (fresh row hrow rfl).elim
  rename_i c hc
  have concerns := concerned?_concerns hc
  rcases respond_cases concerns h cfg e.reason locked now with
    quiet | ⟨next,cycle,quiet,_,_,same⟩
  · exact (old quiet hrow).elim
  rw [same] at hrow
  have free := Outbox.get?_fresh cfg next.outbox [c.report.idpk]
  rcases (Table.mem_insert (h := free)).mp hrow with hrow | rfl
  · exact (old quiet hrow).elim
  · have key : c.report.idpk = c.target.idpk := Table.key_of_get? concerns.report
    exact ⟨c.target,concerns.target,key,
      (concerns.carries h).content.symm,(fresh c.target (Table.mem_of_get? concerns.target)).symm⟩

/-- Over every run, only the latest attempt of the latest report of a cycle may
leave, inside the window of its cycle; a retry repeats the operation under a new
message, and a finished report stays so. -/
theorem one_report_at_a_time (cfg : Config) (acts : List Act) :
    Always (step cfg) (fun db => OneAtATime db ∧ Punctual db) {} acts ∧
      Along (step cfg) (fun db a => Grows db (step cfg db a) ∧ Repeats db a (step cfg db a))
        {} acts := by
  have orderly : Always (step cfg) Orderly {} acts :=
    always_of_step (fun db a h _ => (step_sound a h).1) orderly_empty (along_true _ _)
  refine ⟨orderly.mono fun db h => ⟨h.oneAtATime,punctual db⟩,?_⟩
  refine along_of_always (fun db a h _ => ⟨(step_sound a h).2,?_⟩) orderly
  rintro e locked now rfl
  exact processReportError_repeats h e locked now e locked now rfl

end Reports

end EnergyNode
