import EnergyNode.Lib.Pointwise
import EnergyNode.Lib.Run
import EnergyNode.OutboundDispatch

/-! One report of a cycle at a time: over every run of the scheduler, the
errors of the central, the publication results and the polls, only the latest
attempt of the latest report may leave. -/
namespace EnergyNode
open Lib

namespace Reports

/-- The statuses that mean the report is never sent again. -/
def final (status : ReportStatus) : Bool :=
  status = .expired || status = .rejected || status = .superseded

def latestId (reports : Table NegotiationReport.idpk) (cycleId : String) : Option String :=
  (latest? reports cycleId).map NegotiationReport.idpk

def lastId (outbox : Outbox) (idpk : String) : Option String :=
  (attempts outbox idpk).getLast?.map OutboundMessage.msgId

/-! ### What stays of a row and of a report -/

structure SameMessage (row row' : OutboundMessage) : Prop where
  msgId : row'.msgId = row.msgId
  idpk : row'.idpk = row.idpk
  cycleId : row'.cycleId = row.cycleId
  content : row'.content = row.content

theorem SameMessage.trans {a b c : OutboundMessage} (h : SameMessage a b) (k : SameMessage b c) :
    SameMessage a c :=
  ⟨k.msgId.trans h.msgId,k.idpk.trans h.idpk,k.cycleId.trans h.cycleId,k.content.trans h.content⟩

theorem SameMessage.isReport {a b : OutboundMessage} (h : SameMessage a b) :
    Reports.isReport a = Reports.isReport b := by
  unfold Reports.isReport
  rw [h.content]

/-- A message may only stop being dispatched. -/
structure RowKept (row row' : OutboundMessage) : Prop extends SameMessage row row' where
  dispatch : row'.dispatchRequired → row.dispatchRequired

theorem RowKept.refl (row : OutboundMessage) : RowKept row row := ⟨⟨rfl,rfl,rfl,rfl⟩,id⟩

theorem RowKept.dispatchable {a b : OutboundMessage} (h : RowKept a b) (hb : dispatchable b) :
    dispatchable a := by
  unfold Reports.dispatchable at hb ⊢
  rw [Bool.and_eq_true] at hb ⊢
  exact ⟨h.toSameMessage.isReport ▸ hb.1,h.dispatch hb.2⟩

structure SameReport (report report' : NegotiationReport) : Prop where
  idpk : report'.idpk = report.idpk
  cycleId : report'.cycleId = report.cycleId
  budget : report'.budgetBalance = report.budgetBalance
  energy : report'.energyBalance = report.energyBalance
  final : final report.status → final report'.status

/-- Nothing is superseded without a successor. -/
structure ReportKept (report report' : NegotiationReport) : Prop extends
    SameReport report report' where
  superseded : report'.status = .superseded → report.status = .superseded

theorem SameReport.refl (report : NegotiationReport) : SameReport report report :=
  ⟨rfl,rfl,rfl,rfl,id⟩

theorem ReportKept.refl (report : NegotiationReport) : ReportKept report report := ⟨.refl report,id⟩

structure Quiet (db db' : Db) : Prop where
  rows : List.Forall₂ RowKept db.outbox.rows db'.outbox.rows
  reports : List.Forall₂ ReportKept db.diplomacy.reports.rows db'.diplomacy.reports.rows

theorem Quiet.refl (db : Db) : Quiet db db :=
  ⟨List.forall₂_same.mpr fun row _ => .refl row,List.forall₂_same.mpr fun r _ => .refl r⟩

theorem Quiet.trans {a b c : Db} (h : Quiet a b) (k : Quiet b c) : Quiet a c where
  rows := Pointwise.trans (fun _ _ _ h k => ⟨h.toSameMessage.trans k.toSameMessage,
    h.dispatch ∘ k.dispatch⟩) h.rows k.rows
  reports := Pointwise.trans (fun _ _ _ h k =>
    ⟨⟨k.idpk.trans h.idpk,k.cycleId.trans h.cycleId,k.budget.trans h.budget,
      k.energy.trans h.energy,k.final ∘ h.final⟩,h.superseded ∘ k.superseded⟩) h.reports k.reports

theorem getLast?_map_eq {α β : Type} {l m : List α} {f : α → β} (h : l.map f = m.map f) :
    l.getLast?.map f = m.getLast?.map f := by
  rw [← List.getLast?_map,← List.getLast?_map,h]

theorem lastId_of_rows {outbox outbox' : Outbox}
    (h : List.Forall₂ SameMessage outbox.rows outbox'.rows) (idpk : String) :
    lastId outbox' idpk = lastId outbox idpk := by
  have same := Pointwise.filter (fun row => row.idpk = idpk && isReport row)
    (fun _ _ h => by rw [h.idpk,h.isReport]) h
  exact (getLast?_map_eq (Pointwise.map_eq _ (fun _ _ h => h.msgId.symm) same)).symm

theorem latestId_of_reports {reports reports' : Table NegotiationReport.idpk}
    (h : List.Forall₂ SameReport reports.rows reports'.rows) (cycleId : String) :
    latestId reports' cycleId = latestId reports cycleId := by
  have same := Pointwise.filter (fun report => decide (report.cycleId = cycleId))
    (fun _ _ h => by rw [h.cycleId]) h
  exact (getLast?_map_eq (Pointwise.map_eq _ (fun _ _ h => h.idpk.symm) same)).symm

/-! ### The invariant -/

/-- The report that an attempt carries. -/
structure Carries (row : OutboundMessage) (report : NegotiationReport) : Prop where
  idpk : report.idpk = row.idpk
  cycleId : row.cycleId = some report.cycleId
  content : row.content = .negotiationReport report.budgetBalance report.energyBalance

theorem Carries.kept {row row' : OutboundMessage} {report report' : NegotiationReport}
    (h : Carries row report) (hr : SameMessage row row') (hs : SameReport report report') :
    Carries row' report' :=
  ⟨by rw [hs.idpk,h.idpk,hr.idpk],by rw [hr.cycleId,h.cycleId,hs.cycleId],
    by rw [hr.content,h.content,hs.budget,hs.energy]⟩

structure Orderly (db : Db) : Prop where
  carried : ∀ row ∈ db.outbox, isReport row →
    ∃ report ∈ db.diplomacy.reports, Carries row report
  latest : ∀ row ∈ db.outbox, dispatchable row → ∀ cycleId, row.cycleId = some cycleId →
    latestId db.diplomacy.reports cycleId = some row.idpk
  last : ∀ row ∈ db.outbox, dispatchable row → lastId db.outbox row.idpk = some row.msgId
  replaced : ∀ report ∈ db.diplomacy.reports, report.status = .superseded →
    latestId db.diplomacy.reports report.cycleId ≠ some report.idpk

/-- What the steps of a run do to the messages and reports there are: messages
stay, a new attempt has a new identifier and repeats the earlier ones, and a
finished report stays so. -/
structure Grows (db db' : Db) : Prop where
  kept : ∀ row ∈ db.outbox, ∃ row' ∈ db'.outbox, SameMessage row row'
  attempt : ∀ row' ∈ db'.outbox, isReport row' → (∃ row ∈ db.outbox, SameMessage row row') ∨
    (∀ row ∈ db.outbox, row.msgId ≠ row'.msgId) ∧
      ∀ row ∈ attempts db.outbox row'.idpk, row.content = row'.content
  ended : ∀ report ∈ db.diplomacy.reports, final report.status →
    ∃ report' ∈ db'.diplomacy.reports, report'.idpk = report.idpk ∧ final report'.status

theorem mem_attempts {outbox : Outbox} {idpk : String} {row : OutboundMessage} :
    row ∈ attempts outbox idpk ↔ row ∈ outbox ∧ row.idpk = idpk ∧ isReport row := by
  unfold attempts
  rw [List.mem_filter,Table.mem_rows,Bool.and_eq_true,decide_eq_true_eq]

theorem Grows.refl (db : Db) : Grows db db :=
  ⟨fun row h => ⟨row,h,rfl,rfl,rfl,rfl⟩,fun row h _ => .inl ⟨row,h,rfl,rfl,rfl,rfl⟩,
    fun report h hf => ⟨report,h,rfl,hf⟩⟩

theorem Grows.trans {a b c : Db} (h : Grows a b) (k : Grows b c) : Grows a c where
  kept row hrow := by
    obtain ⟨row',hrow',same⟩ := h.kept row hrow
    obtain ⟨row'',hrow'',same'⟩ := k.kept row' hrow'
    exact ⟨row'',hrow'',same.trans same'⟩
  attempt row'' hrow'' hr := by
    rcases k.attempt row'' hrow'' hr with ⟨row',hrow',same'⟩ | ⟨fresh,repeats⟩
    · have hr' : isReport row' := same'.isReport ▸ hr
      rcases h.attempt row' hrow' hr' with ⟨row,hrow,same⟩ | ⟨fresh,repeats⟩
      · exact .inl ⟨row,hrow,same.trans same'⟩
      · rw [same'.msgId,same'.idpk,same'.content]
        exact .inr ⟨fresh,repeats⟩
    · refine .inr ⟨fun row hrow => ?_,fun row hrow => ?_⟩
      · obtain ⟨row',hrow',same⟩ := h.kept row hrow
        rw [← same.msgId]
        exact fresh row' hrow'
      · obtain ⟨mem,key,hr⟩ := mem_attempts.mp hrow
        obtain ⟨row',hrow',same⟩ := h.kept row mem
        rw [← same.content]
        exact repeats row' (mem_attempts.mpr ⟨hrow',same.idpk.trans key,same.isReport ▸ hr⟩)
  ended report hreport hf := by
    obtain ⟨report',hreport',key,hf⟩ := h.ended report hreport hf
    obtain ⟨report'',hreport'',key',hf⟩ := k.ended report' hreport' hf
    exact ⟨report'',hreport'',key'.trans key,hf⟩

/-- A sound step, from any orderly state. -/
def Sound (db db' : Db) : Prop := Orderly db → Orderly db' ∧ Grows db db'

theorem Sound.refl (db : Db) : Sound db db := fun h => ⟨h,.refl db⟩

theorem Sound.trans {a b c : Db} (h : Sound a b) (k : Sound b c) : Sound a c := by
  intro orderly
  obtain ⟨orderly,grows⟩ := h orderly
  obtain ⟨orderly,grows'⟩ := k orderly
  exact ⟨orderly,grows.trans grows'⟩

theorem Quiet.sound {db db' : Db} (h : Quiet db db') : Sound db db' := by
  intro orderly
  have last := lastId_of_rows (h.rows.imp fun _ _ h => h.toSameMessage)
  have latest := latestId_of_reports (h.reports.imp fun _ _ h => h.toSameReport)
  refine ⟨⟨?_,?_,?_,?_⟩,⟨?_,?_,?_⟩⟩
  · intro row' hrow' hr
    obtain ⟨row,hrow,kept⟩ := Pointwise.mem_right h.rows hrow'
    obtain ⟨report,hreport,carries⟩ := orderly.carried row hrow (kept.isReport ▸ hr)
    obtain ⟨report',hreport',kept'⟩ := Pointwise.mem_left h.reports hreport
    exact ⟨report',hreport',carries.kept kept.toSameMessage kept'.toSameReport⟩
  · intro row' hrow' hd cycleId hc
    obtain ⟨row,hrow,kept⟩ := Pointwise.mem_right h.rows hrow'
    rw [latest,kept.idpk]
    exact orderly.latest row hrow (kept.dispatchable hd) cycleId (kept.cycleId ▸ hc)
  · intro row' hrow' hd
    obtain ⟨row,hrow,kept⟩ := Pointwise.mem_right h.rows hrow'
    rw [last,kept.idpk,kept.msgId]
    exact orderly.last row hrow (kept.dispatchable hd)
  · intro report' hreport' hs
    obtain ⟨report,hreport,kept⟩ := Pointwise.mem_right h.reports hreport'
    rw [latest,kept.cycleId,kept.idpk]
    exact orderly.replaced report hreport (kept.superseded hs)
  · intro row hrow
    obtain ⟨row',hrow',kept⟩ := Pointwise.mem_left h.rows hrow
    exact ⟨row',hrow',kept.toSameMessage⟩
  · intro row' hrow' _
    obtain ⟨row,hrow,kept⟩ := Pointwise.mem_right h.rows hrow'
    exact .inl ⟨row,hrow,kept.toSameMessage⟩
  · intro report hreport hf
    obtain ⟨report',hreport',kept⟩ := Pointwise.mem_left h.reports hreport
    exact ⟨report',hreport',kept.idpk,kept.final hf⟩

/-! ### New messages -/

theorem attempts_insert (outbox : Outbox) (row : OutboundMessage) (free) (idpk : String) :
    attempts (outbox.insert row free) idpk =
      attempts outbox idpk ++ if row.idpk = idpk && isReport row then [row] else [] := by
  unfold attempts
  rw [Table.rows_insert,List.filter_append,List.filter_cons,List.filter_nil]

theorem grows_insert {db : Db} {row : OutboundMessage} (free : db.outbox.get? row.msgId = none)
    (h : isReport row → ∀ old ∈ attempts db.outbox row.idpk, old.content = row.content) :
    Grows db { db with outbox := db.outbox.insert row free } where
  kept old hold := ⟨old,(Table.mem_insert (h := free)).mpr (.inl hold),rfl,rfl,rfl,rfl⟩
  attempt row' hrow' hr := by
    rcases (Table.mem_insert (h := free)).mp hrow' with hold | rfl
    · exact .inl ⟨row',hold,rfl,rfl,rfl,rfl⟩
    · exact .inr ⟨Table.get?_eq_none.mp free,h hr⟩
  ended report hreport hf := ⟨report,hreport,rfl,hf⟩

/-- A message of another service. -/
theorem sound_other {db : Db} {row : OutboundMessage} (free : db.outbox.get? row.msgId = none)
    (hr : ¬ isReport row) : Sound db { db with outbox := db.outbox.insert row free } := by
  intro orderly
  have hd : ¬ dispatchable row := by
    unfold dispatchable
    rw [Bool.and_eq_true]
    exact fun h => hr h.1
  have last (idpk : String) : lastId (db.outbox.insert row free) idpk = lastId db.outbox idpk := by
    unfold lastId
    rw [attempts_insert,if_neg (by simp [hr]),List.append_nil]
  refine ⟨⟨?_,?_,?_,orderly.replaced⟩,grows_insert free fun h => absurd h hr⟩
  · intro other hother ho
    rcases (Table.mem_insert (h := free)).mp hother with hother | rfl
    · exact orderly.carried other hother ho
    · exact absurd ho hr
  · intro other hother ho
    rcases (Table.mem_insert (h := free)).mp hother with hother | rfl
    · exact orderly.latest other hother ho
    · exact absurd ho hd
  · intro other hother ho
    rcases (Table.mem_insert (h := free)).mp hother with hother | rfl
    · rw [last]
      exact orderly.last other hother ho
    · exact absurd ho hd

theorem Carries.content_eq {db : Db} {a b : OutboundMessage} {ra rb : NegotiationReport}
    (ha : Carries a ra) (hb : Carries b rb) (ma : ra ∈ db.diplomacy.reports)
    (mb : rb ∈ db.diplomacy.reports) (key : a.idpk = b.idpk) :
    a.content = b.content ∧ a.cycleId = b.cycleId := by
  obtain rfl : ra = rb := Table.eq_of_key ma mb (by rw [ha.idpk,hb.idpk,key])
  exact ⟨ha.content.trans hb.content.symm,ha.cycleId.trans hb.cycleId.symm⟩

/-- An attempt of the latest report, when nothing else of the cycle may leave. -/
theorem sound_attempt {db : Db} {row : OutboundMessage} (report : NegotiationReport)
    (free : db.outbox.get? row.msgId = none) (mem : report ∈ db.diplomacy.reports)
    (carries : Carries row report)
    (latest : latestId db.diplomacy.reports report.cycleId = some report.idpk)
    (alone : ∀ old ∈ db.outbox, dispatchable old → old.cycleId ≠ some report.cycleId) :
    Sound db { db with outbox := db.outbox.insert row free } := by
  intro orderly
  have hr : isReport row := by
    unfold isReport
    rw [carries.content]
    rfl
  have own (idpk : String) (h : row.idpk = idpk) :
      lastId (db.outbox.insert row free) idpk = some row.msgId := by
    unfold lastId
    rw [attempts_insert,if_pos (by simp [h,hr]),List.getLast?_append,List.getLast?_singleton]
    rfl
  have other (idpk : String) (h : row.idpk ≠ idpk) :
      lastId (db.outbox.insert row free) idpk = lastId db.outbox idpk := by
    unfold lastId
    rw [attempts_insert,if_neg (by simp [h]),List.append_nil]
  have repeats : ∀ old ∈ attempts db.outbox row.idpk,
      old.content = row.content ∧ old.cycleId = row.cycleId := by
    intro old hold
    obtain ⟨hmem,key,ho⟩ := mem_attempts.mp hold
    obtain ⟨report',hmem',carries'⟩ := orderly.carried old hmem ho
    exact carries'.content_eq carries hmem' mem key
  refine ⟨⟨?_,?_,?_,orderly.replaced⟩,grows_insert free fun _ old hold => (repeats old hold).1⟩
  · intro old hold ho
    rcases (Table.mem_insert (h := free)).mp hold with hold | rfl
    · exact orderly.carried old hold ho
    · exact ⟨report,mem,carries⟩
  · intro old hold ho cycleId hc
    rcases (Table.mem_insert (h := free)).mp hold with hold | rfl
    · exact orderly.latest old hold ho cycleId hc
    · obtain rfl : report.cycleId = cycleId := by simpa [carries.cycleId] using hc
      rw [latest,carries.idpk]
  · intro old hold ho
    rcases (Table.mem_insert (h := free)).mp hold with hold | rfl
    · by_cases key : row.idpk = old.idpk
      · have hold' : old ∈ attempts db.outbox row.idpk := by
          unfold dispatchable at ho
          rw [Bool.and_eq_true] at ho
          exact mem_attempts.mpr ⟨hold,key.symm,ho.1⟩
        exact absurd ((repeats old hold').2.trans carries.cycleId) (alone old hold ho)
      · rw [other _ key]
        exact orderly.last old hold ho
    · exact own _ rfl

end Reports

end EnergyNode
