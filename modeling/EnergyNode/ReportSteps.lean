import EnergyNode.BuyingSteps
import EnergyNode.ReportDispatch

/-! The operations on the reports, one by one, and the runs made of them. -/
namespace EnergyNode
open Lib

variable {cfg : Config} {db db' : Db} {now : Instant}

namespace Reports

theorem waiting_not_final {status : ReportStatus} (h : waiting status) : ¬ final status := by
  cases status <;> simp_all [waiting,final]

/-! ### Rows that stop, reports that end -/

theorem kept_stopDoomed (doom : OutboundMessage → Option String) (row : OutboundMessage) :
    RowKept row (stopDoomed doom row) := by
  unfold stopDoomed
  split
  · exact ⟨⟨rfl,rfl,rfl,rfl⟩,fun h => nomatch h⟩
  · exact .refl row

/-- A new status of a report that is not finished. -/
theorem kept_status {report : NegotiationReport} {status : ReportStatus} {reason : Option String}
    (live : ¬ final report.status) (h : status ≠ .superseded) :
    ReportKept report { report with status := status, reason := reason } :=
  ⟨⟨rfl,rfl,rfl,rfl,fun hf => absurd hf live⟩,fun hs => absurd hs h⟩

theorem kept_endDoomed (outbox : Outbox) (doom : OutboundMessage → Option String)
    (report : NegotiationReport) :
    ReportKept report (endDoomed outbox doom overStatus report) := by
  unfold endDoomed
  split
  · split
    · rename_i hw
      refine kept_status (waiting_not_final hw) ?_
      unfold overStatus
      split <;> decide
    · exact .refl report
  · exact .refl report

theorem quiet_expire (locked : List String) :
    Quiet db (expireReportDispatches db locked now) where
  rows := Pointwise.of_map _ fun row _ => kept_stopDoomed _ row
  reports := Pointwise.of_map _ fun report _ => kept_endDoomed _ _ report

theorem quiet_setRow (row row' : OutboundMessage) (h : db.outbox.get? row'.msgId = some row)
    (kept : RowKept row row') : Quiet db (setRow db row') where
  rows := Table.pointwise_set RowKept.refl h kept
  reports := (Quiet.refl db).reports

theorem quiet_setCycle (db : Db) (cycle : Cycle) : Quiet db (setCycle db cycle) where
  rows := (Quiet.refl db).rows
  reports := (Quiet.refl db).reports

theorem quiet_setReport (report report' : NegotiationReport)
    (h : db.diplomacy.reports.get? report'.idpk = some report) (kept : ReportKept report report') :
    Quiet db (setReport db report') where
  rows := (Quiet.refl db).rows
  reports := Table.pointwise_set ReportKept.refl h kept

theorem kept_publishedRow (row : OutboundMessage) : RowKept row (publishedRow row) :=
  ⟨⟨rfl,rfl,rfl,rfl⟩,fun h => nomatch h⟩

theorem kept_failedRow (error : String) (row : OutboundMessage) :
    RowKept row (failedRow error row) := by
  unfold failedRow
  split
  · exact ⟨⟨rfl,rfl,rfl,rfl⟩,id⟩
  · exact .refl row

theorem quiet_markSent (row : OutboundMessage) : Quiet db (markSent db row) := by
  unfold markSent
  split
  · exact .refl db
  rename_i report hget
  dsimp only
  split
  · rename_i h
    have key := Table.key_of_get? hget
    refine quiet_setReport report _ (key ▸ hget) ?_
    exact kept_status (waiting_not_final h.2.2) (by decide)
  · exact .refl db

theorem quiet_reportResult {msgId : String} {row : OutboundMessage} (error : Option String)
    (h : db.outbox.get? msgId = some row) : Quiet db (reportResult db row error) := by
  have key := Table.key_of_get? h
  subst key
  unfold reportResult
  split
  · exact (quiet_setRow row (publishedRow row) h (kept_publishedRow row)).trans
      (quiet_markSent _)
  · rename_i error
    have same : (failedRow error row).msgId = row.msgId := (kept_failedRow error row).msgId
    exact quiet_setRow row _ (by rw [same,h]) (kept_failedRow error row)

/-! ### Errors of the central -/

structure Concerns (db : Db) (e : ReportError) (c : Concerned) : Prop where
  cycle : db.books.cycles.get? e.cycleId = some c.cycle
  target : db.outbox.get? e.target = some c.target
  isReport : isReport c.target
  targetCycle : c.target.cycleId = some e.cycleId
  report : db.diplomacy.reports.get? c.target.idpk = some c.report
  last : lastId db.outbox c.report.idpk = some c.target.msgId
  latest : latestId db.diplomacy.reports e.cycleId = some c.report.idpk
  live : c.report.status ≠ .expired ∧ c.report.status ≠ .rejected

theorem concerned?_concerns {e : ReportError} {c : Concerned} (h : concerned? db e = some c) :
    Concerns db e c := by
  unfold concerned? at h
  obtain ⟨cycle,hcycle,h⟩ := Option.bind_eq_some_iff.mp h
  obtain ⟨target,htarget,h⟩ := Option.bind_eq_some_iff.mp h
  obtain ⟨report,hreport,h⟩ := Option.bind_eq_some_iff.mp h
  obtain ⟨_,hlast,h⟩ := Option.bind_eq_some_iff.mp h
  obtain ⟨_,hlatest,h⟩ := Option.bind_eq_some_iff.mp h
  obtain ⟨_,hlive,h⟩ := Option.bind_eq_some_iff.mp h
  cases h
  obtain ⟨hget,hguard⟩ := Option.filter_eq_some_iff.mp htarget
  simp only [Bool.and_eq_true,decide_eq_true_eq] at hguard
  rw [Fallible.guard_some] at hlast hlatest hlive
  rw [Table.key_of_get? hcycle] at hlatest
  exact ⟨hcycle,hget,hguard.1,hguard.2,hreport,hlast,hlatest,hlive⟩

namespace Concerns
variable {e : ReportError} {c : Concerned}

theorem carries (h : Concerns db e c) (orderly : Orderly db) : Carries c.target c.report := by
  obtain ⟨report,hmem,carries⟩ := orderly.carried c.target (Table.mem_of_get? h.target) h.isReport
  have same : report = c.report := Table.eq_of_key hmem (Table.mem_of_get? h.report)
    (by rw [carries.idpk,Table.key_of_get? h.report])
  exact same ▸ carries

theorem reportCycle (h : Concerns db e c) (orderly : Orderly db) :
    c.report.cycleId = e.cycleId := by
  have carried := (h.carries orderly).cycleId
  rw [h.targetCycle] at carried
  exact (Option.some.inj carried).symm

theorem not_final (h : Concerns db e c) (orderly : Orderly db) : ¬ final c.report.status := by
  have hs : c.report.status ≠ .superseded := by
    intro hs
    have := orderly.replaced c.report (Table.mem_of_get? h.report) hs
    rw [h.reportCycle orderly] at this
    exact this h.latest
  have := h.live
  unfold final
  simp_all

/-- The target is the only attempt of the cycle that could leave. -/
theorem alone (h : Concerns db e c) (orderly : Orderly db) {row : OutboundMessage}
    (hrow : row ∈ db.outbox) (hd : dispatchable row) (hc : row.cycleId = some e.cycleId) :
    row.msgId = c.target.msgId := by
  have key := orderly.latest row hrow hd e.cycleId hc
  rw [h.latest] at key
  have last := orderly.last row hrow hd
  rw [← Option.some.inj key,h.last] at last
  exact (Option.some.inj last).symm

theorem quiet_stop (h : Concerns db e c) (reason : String) :
    Quiet db (setRow db (stopped reason c.target)) := by
  have key : c.target.msgId = e.target := Table.key_of_get? h.target
  refine quiet_setRow c.target _ ?_ ⟨⟨rfl,rfl,rfl,rfl⟩,fun h => nomatch h⟩
  exact key.symm ▸ h.target

/-- The report takes a status and a reason, beside a change of its attempt and
its cycle. -/
theorem quiet_status (h : Concerns db e c) (orderly : Orderly db) {next : Db}
    (quiet : Quiet db next) (same : next.diplomacy.reports = db.diplomacy.reports)
    (status : ReportStatus) (reason : Option String) (hs : status ≠ .superseded) :
    Quiet db (setReport next { c.report with status := status, reason := reason }) := by
  refine quiet.trans (quiet_setReport c.report _ ?_ (kept_status (h.not_final orderly) hs))
  rw [same]
  exact (Table.key_of_get? h.report).symm ▸ h.report

end Concerns

/-- The deferred report leaves again as its latest attempt. -/
theorem sound_retry {e : ReportError} {c : Concerned} (h : Concerns db e c) (orderly : Orderly db)
    {next : Db} (quiet : Quiet db next) (cycle : Cycle) (hc : cycle.cycleId = e.cycleId)
    (text : String) (stop : next.outbox = db.outbox.set (stopped text c.target)) :
    Sound db (retry cfg next c cycle now) := by
  refine quiet.sound.trans ?_
  obtain ⟨report,mem,same⟩ := Pointwise.mem_left quiet.reports (Table.mem_of_get? h.report)
  have reportCycle : report.cycleId = e.cycleId := same.cycleId.trans (h.reportCycle orderly)
  unfold retry Buying.enqueueAs
  refine sound_attempt report (Outbox.get?_fresh cfg _ _) mem ⟨same.idpk,?_,?_⟩ ?_ ?_
  · rw [reportCycle,← hc]
    rfl
  · rw [same.budget,same.energy]
    rfl
  · rw [latestId_of_reports (quiet.reports.imp fun _ _ h => h.toSameReport),reportCycle,h.latest,
      same.idpk]
  · intro row hrow hd
    rw [reportCycle]
    rw [stop] at hrow
    rcases Table.mem_set.mp hrow with ⟨hrow,hne⟩ | ⟨rfl,_⟩
    · exact fun hc => hne (h.alone orderly hrow hd hc)
    · simp [dispatchable,stopped] at hd

/-- An error stops its target; only a deferred report leaves again. -/
theorem respond_cases {e : ReportError} {c : Concerned} (h : Concerns db e c) (orderly : Orderly db)
    (cfg : Config) (reason : ErrorReason) (locked : List String) (now : Instant) :
    Quiet db (respond cfg db c reason locked now) ∨ ∃ next cycle, Quiet db next ∧
      next.outbox = db.outbox.set (stopped reason.text c.target) ∧ cycle.cycleId = e.cycleId ∧
      respond cfg db c reason locked now = retry cfg next c cycle now := by
  have stop := h.quiet_stop reason.text
  have key : c.cycle.cycleId = e.cycleId := Table.key_of_get? h.cycle
  unfold respond
  dsimp only
  split
  · have expired := h.quiet_status orderly stop rfl .expired (some reason.text) (by decide)
    have closed := expired.trans (quiet_setCycle _ { c.cycle with schedulerState := "CLOSED" })
    exact .inl (closed.trans (quiet_expire _))
  split
  · rename_i opensAt _
    let later : Cycle := { c.cycle with
      reportWindowOpensAt := some (max (c.cycle.reportWindowOpensAt.getD opensAt) opensAt) }
    have moved := stop.trans (quiet_setCycle _ later)
    split
    · exact .inl (h.quiet_status orderly moved rfl .expired _ (by decide))
    split
    · exact .inl (h.quiet_status orderly moved rfl .rejected _ (by decide))
    · exact .inr ⟨_,later,h.quiet_status orderly moved rfl .deferred _ (by decide),rfl,key,rfl⟩
  · exact .inl (h.quiet_status orderly stop rfl .rejected _ (by decide))

theorem respond_sound {e : ReportError} {c : Concerned} (h : Concerns db e c) (orderly : Orderly db)
    (reason : ErrorReason) (locked : List String) :
    Sound db (respond cfg db c reason locked now) := by
  rcases respond_cases h orderly cfg reason locked now with quiet | ⟨next,cycle,quiet,stop,hc,same⟩
  · exact quiet.sound
  · rw [same]
    exact sound_retry h orderly quiet cycle hc _ stop

theorem processReportError_sound (e : ReportError) (locked : List String) :
    Sound db (processReportError cfg db e locked now) := by
  intro orderly
  unfold processReportError
  split
  · exact Sound.refl db orderly
  · rename_i c hc
    exact respond_sound (concerned?_concerns hc) orderly e.reason locked orderly

/-! ### A new report -/

/-- What `generate` leaves: the report of the cycle is its latest. -/
structure Issued (db next : Db) (cycleId : String) (report : NegotiationReport) : Prop where
  outbox : next.outbox = db.outbox
  mem : report ∈ next.diplomacy.reports
  cycle : report.cycleId = cycleId
  latest : latestId next.diplomacy.reports cycleId = some report.idpk
  other : ∀ c, c ≠ cycleId →
    latestId next.diplomacy.reports c = latestId db.diplomacy.reports c
  old : ∀ r ∈ db.diplomacy.reports, r ∈ next.diplomacy.reports
  new : ∀ r ∈ next.diplomacy.reports, r ∈ db.diplomacy.reports ∨ r = report
  live : Orderly db → report.status ≠ .superseded
  sent : next = db ∨ attempts next.outbox report.idpk = []

theorem latestId_insert (reports : Table NegotiationReport.idpk) (report : NegotiationReport)
    (free) (cycleId : String) : latestId (reports.insert report free) cycleId =
      if report.cycleId = cycleId then some report.idpk else latestId reports cycleId := by
  unfold latestId latest?
  rw [Table.rows_insert,List.filter_append]
  split
  · rename_i h
    rw [List.filter_cons_of_pos (by simpa using h),List.filter_nil,List.getLast?_append,
      List.getLast?_singleton]
    rfl
  · rename_i h
    rw [List.filter_cons_of_neg (by simpa using h),List.filter_nil,List.append_nil]

theorem mem_latest? {reports : Table NegotiationReport.idpk} {cycleId : String}
    {report : NegotiationReport} (h : latest? reports cycleId = some report) :
    report ∈ reports ∧ report.cycleId = cycleId := by
  have mem := List.mem_of_getLast? h
  rw [List.mem_filter,decide_eq_true_eq] at mem
  exact mem

/-- A new report has no attempts. -/
theorem attempts_fresh (cfg : Config) (db : Db) :
    attempts db.outbox (cfg.uuid4 (reportIds db)) = [] := by
  rw [List.eq_nil_iff_forall_not_mem]
  intro row hrow
  obtain ⟨mem,key,_⟩ := mem_attempts.mp hrow
  apply cfg.fresh (reportIds db)
  rw [← key]
  refine List.mem_append_left _ (List.mem_append_left _ ?_)
  exact List.mem_append_right _ (List.mem_map_of_mem mem)

theorem generate_issued {cycleId : String} {next : Db} {report : NegotiationReport}
    (h : generate cfg db cycleId now = .ok (next,report)) : Issued db next cycleId report := by
  unfold generate at h
  split at h
  swap
  · cases h
  obtain ⟨_,_,h⟩ := Fallible.bind_ok.mp h
  obtain ⟨⟨budget,energy⟩,_,h⟩ := Fallible.bind_ok.mp h
  dsimp only at h
  split at h
  · rename_i previous hp
    cases h
    obtain ⟨hlatest,_⟩ := Option.filter_eq_some_iff.mp hp
    obtain ⟨mem,cycle⟩ := mem_latest? hlatest
    have latest : latestId db.diplomacy.reports cycleId = some report.idpk := by
      unfold latestId
      rw [hlatest]
      rfl
    refine ⟨rfl,mem,cycle,latest,fun _ _ => rfl,fun _ h => h,fun _ h => .inl h,?_,.inl rfl⟩
    intro orderly hs
    have := orderly.replaced _ mem hs
    rw [cycle] at this
    exact this latest
  · split at h
    · rename_i reports hi
      cases h
      obtain ⟨free,rfl⟩ := Table.insert?_eq_some.mp hi
      have mem (r : NegotiationReport) := Table.mem_insert (b := r) (h := free)
      refine ⟨rfl,(mem _).mpr (.inr rfl),rfl,?_,?_,fun r h => (mem r).mpr (.inl h),
        fun r => (mem r).mp,nofun,.inr (attempts_fresh cfg db)⟩
      · exact (latestId_insert _ _ free _).trans (if_pos rfl)
      · intro c hc
        exact (latestId_insert _ _ free _).trans (if_neg (Ne.symm hc))
    · cases h

theorem same_supersede (outbox : Outbox) (cycleId idpk : String) (report : NegotiationReport) :
    SameReport report (supersedeReport outbox cycleId idpk report) := by
  unfold supersedeReport
  split
  · split
    · rename_i hw
      exact ⟨rfl,rfl,rfl,rfl,fun hf => absurd hf (waiting_not_final hw)⟩
    · exact .refl report
  · exact .refl report

theorem superseded_of {outbox : Outbox} {cycleId idpk : String} {report : NegotiationReport}
    (h : (supersedeReport outbox cycleId idpk report).status = .superseded) :
    report.status = .superseded ∨ ∃ row ∈ attempts outbox report.idpk,
      (outdated cycleId idpk row).isSome := by
  unfold supersedeReport at h
  split at h
  · rename_i hany
    obtain ⟨row,hrow,ho⟩ := List.any_eq_true.mp hany
    exact .inr ⟨row,hrow,ho⟩
  · exact .inl h

theorem outdated_isSome {cycleId idpk : String} {row : OutboundMessage} :
    (outdated cycleId idpk row).isSome ↔
      dispatchable row ∧ row.cycleId = some cycleId ∧ row.idpk ≠ idpk := by
  unfold outdated
  split
  · rename_i h
    exact ⟨fun _ => h,fun _ => rfl⟩
  · rename_i h
    exact ⟨nofun,fun hp => absurd hp h⟩

namespace Issued
variable {next : Db} {cycleId : String} {report : NegotiationReport}

/-- A row that still leaves after the older reports are stopped is of another
cycle: nothing of this report was sent yet. -/
theorem other_cycle (fresh : attempts next.outbox report.idpk = []) {row : OutboundMessage}
    (hrow : row ∈ next.outbox)
    (hd : dispatchable (stopDoomed (outdated cycleId report.idpk) row)) :
    dispatchable row ∧ row.cycleId ≠ some cycleId ∧
      stopDoomed (outdated cycleId report.idpk) row = row := by
  unfold stopDoomed at hd ⊢
  split at hd
  · simp [dispatchable,stopped] at hd
  rename_i none
  have live : ¬ (dispatchable row ∧ row.cycleId = some cycleId ∧ row.idpk ≠ report.idpk) := by
    rw [← outdated_isSome,none]
    exact nofun
  refine ⟨hd,fun hc => ?_,rfl⟩
  have hr : isReport row := by
    unfold dispatchable at hd
    rw [Bool.and_eq_true] at hd
    exact hd.1
  by_cases key : row.idpk = report.idpk
  · have : row ∈ attempts next.outbox report.idpk := mem_attempts.mpr ⟨hrow,key,hr⟩
    rw [fresh] at this
    exact absurd this List.not_mem_nil
  · exact live ⟨hd,hc,key⟩

theorem rows (next : Db) (cycleId idpk : String) :
    List.Forall₂ RowKept next.outbox.rows (supersede next cycleId idpk).outbox.rows :=
  Pointwise.of_map _ fun row _ => kept_stopDoomed _ row

theorem reports (next : Db) (cycleId idpk : String) : List.Forall₂ SameReport
    next.diplomacy.reports.rows (supersede next cycleId idpk).diplomacy.reports.rows :=
  Pointwise.of_map _ fun report _ => same_supersede _ _ _ report

theorem sound (h : Issued db next cycleId report)
    (fresh : attempts next.outbox report.idpk = []) :
    Sound db (supersede next cycleId report.idpk) := by
  intro orderly
  have last := lastId_of_rows
    ((rows next cycleId report.idpk).imp fun _ _ h => h.toSameMessage)
  have latest := latestId_of_reports (reports next cycleId report.idpk)
  have hout := h.outbox
  refine ⟨⟨?_,?_,?_,?_⟩,⟨?_,?_,?_⟩⟩
  · intro row' hrow' hr
    obtain ⟨row,hrow,kept⟩ := Pointwise.mem_right (rows next cycleId report.idpk) hrow'
    obtain ⟨r,hmem,carries⟩ := orderly.carried row (hout ▸ hrow) (kept.isReport ▸ hr)
    obtain ⟨r',hmem',same⟩ := Pointwise.mem_left (reports next cycleId report.idpk) (h.old r hmem)
    exact ⟨r',hmem',carries.kept kept.toSameMessage same⟩
  · intro row' hrow' hd c hc
    obtain ⟨row,hrow,rfl⟩ := List.mem_map.mp hrow'
    obtain ⟨hd,hne,same⟩ := other_cycle fresh hrow hd
    rw [same] at hc ⊢
    have other : c ≠ cycleId := fun e => hne (e ▸ hc)
    rw [latest,h.other c other]
    exact orderly.latest row (hout ▸ hrow) hd c hc
  · intro row' hrow' hd
    obtain ⟨row,hrow,rfl⟩ := List.mem_map.mp hrow'
    obtain ⟨hd,_,same⟩ := other_cycle fresh hrow hd
    rw [same,last,hout]
    exact orderly.last row (hout ▸ hrow) hd
  · intro r' hr' hs
    obtain ⟨r,hr,rfl⟩ := List.mem_map.mp hr'
    have same := same_supersede next.outbox cycleId report.idpk r
    rw [latest,same.cycleId,same.idpk]
    intro hl
    rcases superseded_of hs with before | ⟨row,hrow,ho⟩
    · rcases h.new r hr with hr | rfl
      · by_cases hc : r.cycleId = cycleId
        · rw [hc,h.latest] at hl
          have : r = report := Table.eq_of_key (h.old r hr) h.mem (Option.some.inj hl).symm
          exact h.live orderly (this ▸ before)
        · rw [h.other _ hc] at hl
          exact orderly.replaced r hr before hl
      · exact h.live orderly before
    · obtain ⟨hd,hc,hne⟩ := outdated_isSome.mp ho
      obtain ⟨hmem,key,hrep⟩ := mem_attempts.mp hrow
      obtain ⟨r₀,hr₀,carries⟩ := orderly.carried row (hout ▸ hmem) hrep
      have own : r₀ = r := Table.eq_of_key (h.old r₀ hr₀) hr (carries.idpk.trans key)
      have cycle : r.cycleId = cycleId := by
        have := carries.cycleId
        rw [hc,own] at this
        exact (Option.some.inj this).symm
      rw [cycle,h.latest] at hl
      exact hne (key.trans (Option.some.inj hl).symm)
  · intro row hrow
    obtain ⟨row',hrow',kept⟩ := Pointwise.mem_left (rows next cycleId report.idpk) (hout ▸ hrow)
    exact ⟨row',hrow',kept.toSameMessage⟩
  · intro row' hrow' _
    obtain ⟨row,hrow,kept⟩ := Pointwise.mem_right (rows next cycleId report.idpk) hrow'
    exact .inl ⟨row,hout ▸ hrow,kept.toSameMessage⟩
  · intro r hr hf
    obtain ⟨r',hr',same⟩ := Pointwise.mem_left (reports next cycleId report.idpk) (h.old r hr)
    exact ⟨r',hr',same.idpk,same.final hf⟩

end Issued

theorem enqueueReport_sound {cycleId : String}
    (h : enqueueReport cfg now db cycleId = .ok db') : Sound db db' := by
  unfold enqueueReport at h
  split at h
  · cases h
    exact .refl _
  rename_i cycle hget
  split at h
  · cases h
    exact .refl _
  obtain ⟨⟨next,report⟩,hg,h⟩ := Fallible.bind_ok.mp h
  dsimp only at h
  have issued := generate_issued hg
  have key := Table.key_of_get? hget
  split at h
  · rename_i sent
    cases h
    rcases issued.sent with rfl | fresh
    · exact .refl _
    · simp [fresh] at sent
  rename_i sent
  have fresh : attempts next.outbox report.idpk = [] := by simpa using sent
  split at h
  · rename_i outbox hi
    cases h
    obtain ⟨free,rfl⟩ := Table.insert?_eq_some.mp hi
    have same := same_supersede next.outbox cycleId report.idpk report
    refine (issued.sound fresh).trans (sound_attempt (supersedeReport next.outbox cycleId
      report.idpk report) free (List.mem_map_of_mem issued.mem) ⟨same.idpk,?_,?_⟩ ?_ ?_)
    · rw [same.cycleId,issued.cycle,← key]
      rfl
    · rw [same.budget,same.energy]
      rfl
    · rw [latestId_of_reports (Issued.reports next cycleId report.idpk),same.cycleId,same.idpk,
        issued.cycle,issued.latest]
    · intro row hrow hd
      rw [same.cycleId,issued.cycle]
      obtain ⟨old,hold,rfl⟩ := List.mem_map.mp hrow
      obtain ⟨_,hne,stays⟩ := Issued.other_cycle fresh hold hd
      exact stays.symm ▸ hne
  · cases h

theorem enqueueDue_sound {locked locked' : List String}
    (h : enqueueDue cfg db locked locked' now = .ok db') : Sound db db' := by
  unfold enqueueDue at h
  dsimp only at h
  have expired : Quiet db (expireReportDispatches db locked now) := quiet_expire locked
  refine expired.sound.trans ?_
  exact Fallible.foldlM_rel Sound .refl (fun h k => h.trans k) (enqueueReport cfg now)
    (fun _ _ _ => enqueueReport_sound) _ h

/-! ### The transaction of a poll -/

/-- A row read before is stopped, whatever was written since. -/
theorem quiet_stopListed {row : OutboundMessage} {rows : List OutboundMessage}
    (h : Buying.Listed db.outbox (row :: rows)) (error : Option String)
    (stop : db'.outbox = db.outbox.set { row with dispatchRequired := false, lastError := error })
    (same : db'.diplomacy.reports = db.diplomacy.reports) : Quiet db db' where
  rows := by
    obtain ⟨stored,hs,ht⟩ := h row (List.mem_cons_self ..)
    rw [stop]
    refine Table.pointwise_set RowKept.refl (a := stored) hs ⟨⟨?_,?_,?_,?_⟩,nofun⟩
    · exact congrArg Talk.msgId ht.symm
    · exact congrArg Talk.idpk ht.symm
    · exact congrArg Talk.cycleId ht.symm
    · exact congrArg Talk.content ht.symm
  reports := same ▸ (Quiet.refl db).reports

theorem sound_renewOne {row : OutboundMessage} {rows : List OutboundMessage}
    (h : Buying.Listed db.outbox (row :: rows)) (hr : Buying.renewable row) :
    Sound db (Buying.renewOne cfg now db row) := by
  have bid : ¬ isReport row := by
    unfold Buying.renewable at hr
    simp only [Bool.and_eq_true,decide_eq_true_eq] at hr
    unfold isReport
    simp [hr.1.1]
  unfold Buying.renewOne
  dsimp only
  split
  · exact Quiet.sound (quiet_stopListed h _ rfl rfl)
  split
  · exact Quiet.sound (quiet_stopListed h _ rfl rfl)
  · rename_i b hb
    let stopped : Outbox := db.outbox.set { row with dispatchRequired := false }
    let renewed : Db := { db with
      market := { db.market with
        bids := db.market.bids.set { b with msgId := cfg.uuid4 (stopped.ids ++ [row.idpk]) } }
      outbox := stopped }
    have quiet : Quiet db renewed := quiet_stopListed h row.lastError rfl rfl
    exact quiet.sound.trans (sound_other (Outbox.get?_fresh cfg stopped [row.idpk]) bid)

theorem sound_renewFailed : Sound db (Buying.renewFailed cfg db now) := by
  unfold Buying.renewFailed
  have listed : Buying.Listed db.outbox (db.outbox.rows.filter Buying.renewable) := by
    intro row hrow
    exact ⟨row,Table.get?_of_mem (List.mem_filter.mp hrow).1,rfl⟩
  have all : ∀ row ∈ db.outbox.rows.filter Buying.renewable, Buying.renewable row :=
    fun row hrow => (List.mem_filter.mp hrow).2
  revert listed all
  generalize db.outbox.rows.filter Buying.renewable = rows
  intro listed all
  induction rows generalizing db with
  | nil => exact .refl db
  | cons row rows ih =>
    have renewable := all row (List.mem_cons_self ..)
    obtain ⟨_,rest⟩ : Moves cfg (fun _ _ => True) db.desk
        (Buying.renewOne cfg now db row).desk ∧
        Buying.Listed (Buying.renewOne cfg now db row).outbox rows :=
      Buying.renewOne_moves renewable listed
    exact (sound_renewOne listed renewable).trans
      (ih rest fun r hr => all r (List.mem_cons_of_mem _ hr))

/-- A proposal whose cycle goes on is left alone; the others stop. -/
theorem expireProposal_effect (db : Db) (closed : List String) (now : Instant)
    (row : OutboundMessage) :
    let next := Negotiations.expireProposal closed now db row
    next = db ∨ next.diplomacy.reports = db.diplomacy.reports ∧ next.outbox =
      db.outbox.set { row with dispatchRequired := false, lastError := some "CYCLE_EXPIRED" } := by
  intro next
  unfold next Negotiations.expireProposal
  dsimp only
  repeat' split
  all_goals first
    | exact .inl rfl
    | exact .inr ⟨rfl,rfl⟩

theorem sound_expireProposal {row : OutboundMessage} {rows : List OutboundMessage}
    (closed : List String) (h : Buying.Listed db.outbox (row :: rows)) :
    Sound db (Negotiations.expireProposal closed now db row) ∧
      Buying.Listed (Negotiations.expireProposal closed now db row).outbox rows := by
  have rest : Buying.Listed db.outbox rows := fun r hr => h r (List.mem_cons_of_mem _ hr)
  rcases expireProposal_effect db closed now row with same | ⟨reports,stop⟩
  · rw [same]
    exact ⟨.refl db,rest⟩
  · refine ⟨(quiet_stopListed h _ stop reports).sound,?_⟩
    rw [stop]
    apply Buying.listed_set rest
    intro old hold
    obtain ⟨stored,hs,ht⟩ := h row (List.mem_cons_self ..)
    rw [show old = stored from Option.some.inj (hold.symm.trans hs)]
    exact ht

theorem sound_expireProposals (closed : List String) :
    Sound db (Negotiations.expireProposals closed db now) := by
  unfold Negotiations.expireProposals
  have listed : Buying.Listed db.outbox (db.outbox.rows.filter Negotiations.isProposal) := by
    intro row hrow
    exact ⟨row,Table.get?_of_mem (List.mem_filter.mp hrow).1,rfl⟩
  revert listed
  generalize db.outbox.rows.filter Negotiations.isProposal = rows
  intro listed
  induction rows generalizing db with
  | nil => exact .refl db
  | cons row rows ih =>
    have turn : Sound db (Negotiations.expireProposal closed now db row) ∧ _ :=
      sound_expireProposal closed listed
    exact turn.1.trans (ih turn.2)

theorem sound_prepare (locked closed : List String) :
    Sound db (OutboundDispatch.prepare cfg db locked closed now) :=
  ((quiet_expire locked).sound.trans sound_renewFailed).trans (sound_expireProposals closed)

end Reports

end EnergyNode
