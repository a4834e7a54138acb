import EnergyNode.BookRules
import EnergyNode.ReportRuns
import EnergyNode.StoredLedger

/-! The instant the central gives for the reports of a cycle. An error takes the
later of two instants; a statement that names one takes it as it is. -/
namespace EnergyNode
open Lib

namespace Reports

def nextState (now validUntil opensAt : Instant) (state : String) : String :=
  if validUntil ≤ now then "CLOSED"
  else if opensAt ≤ now ∧ state ≠ "REPORT_WINDOW" then "REPORT_WINDOW"
  else if state = "PENDING" then "NEGOTIATING"
  else state

/-- One cycle of `process_cycle_windows`. -/
def advanced (cfg : Config) (now : Instant) (cycle : Cycle) : Cycle :=
  match cycle.validUntil with
  | none => cycle
  | some validUntil =>
      if cycle.schedulerState = "CLOSED" then cycle
      else
        let opensAt := cycle.reportWindowOpensAt.getD (validUntil - cfg.reportWindow)
        { cycle with
          reportWindowOpensAt := some opensAt
          schedulerState := nextState now validUntil opensAt cycle.schedulerState }

theorem advanced_cycleId (cfg : Config) (now : Instant) (cycle : Cycle) :
    (advanced cfg now cycle).cycleId = cycle.cycleId := by
  unfold advanced
  split
  · rfl
  · split <;> rfl

def unlocked (locked : List String) (f : Cycle → Cycle) (cycle : Cycle) : Cycle :=
  if cycle.cycleId ∈ locked then cycle else f cycle

theorem unlocked_cycleId {f : Cycle → Cycle} (hf : ∀ c, (f c).cycleId = c.cycleId)
    (locked : List String) (cycle : Cycle) : (unlocked locked f cycle).cycleId = cycle.cycleId := by
  unfold unlocked
  split
  · rfl
  · exact hf cycle

/-- `process_cycle_windows`. -/
def processCycleWindows (cfg : Config) (db : Db) (locked : List String) (now : Instant) : Db :=
  let cycles := db.books.cycles.mapRows (unlocked locked (advanced cfg now))
    (unlocked_cycleId (advanced_cycleId cfg now) locked)
  { db with books := { db.books with cycles := cycles } }

inductive Turn where
  | message (payload : Payload) (now : Instant)
  | error (e : ReportError) (locked : List String) (now : Instant)
  | windows (locked : List String) (now : Instant)
  | enqueueDue (locked locked' : List String) (now : Instant)
  | result (msgId : String) (error : Option String)
  | poll (locked closed : List String) (now : Instant)

def turn (env : Env) (db : Db) : Turn → Db
  | .message payload now => (Ingest.ingest env.cfg env.jwt db payload now).1
  | .error e locked now => processReportError env.cfg db e locked now
  | .windows locked now => processCycleWindows env.cfg db locked now
  | .enqueueDue locked locked' now => step env.cfg db (.enqueueDue locked locked' now)
  | .result msgId error => step env.cfg db (.result msgId error)
  | .poll locked closed now => step env.cfg db (.poll locked closed now)

/-! ### What never moves a window earlier -/

structure NotEarlier (c c' : Cycle) : Prop where
  window : ∀ w, c.reportWindowOpensAt = some w → ∃ w', c'.reportWindowOpensAt = some w' ∧ w ≤ w'
  closed : c.schedulerState = "CLOSED" → c'.schedulerState = "CLOSED"

theorem NotEarlier.refl (c : Cycle) : NotEarlier c c := ⟨fun w h => ⟨w,h,le_rfl⟩,id⟩

/-- The cycle `k` keeps its window, or opens it later. -/
def Later (k : String) (a b : Books) : Prop :=
  ∀ c, a.cycles.get? k = some c → ∃ c', b.cycles.get? k = some c' ∧ NotEarlier c c'

section Frame
variable {k : String} {cfg : Config} {db db' : Db} {now : Instant}

theorem Later.of_cycles {a b : Books} (h : b.cycles = a.cycles) : Later k a b := by
  intro c hc
  exact ⟨c,h ▸ hc,.refl c⟩

theorem Later.refl (books : Books) : Later k books books := .of_cycles rfl

theorem Later.trans {a b c : Books} (h : Later k a b) (g : Later k b c) : Later k a c := by
  intro x hx
  obtain ⟨y,hy,first⟩ := h x hx
  obtain ⟨z,hz,second⟩ := g y hy
  refine ⟨z,hz,fun w hw => ?_,second.closed ∘ first.closed⟩
  obtain ⟨w',hw',le⟩ := first.window w hw
  obtain ⟨w'',hw'',le'⟩ := second.window w' hw'
  exact ⟨w'',hw'',le.trans le'⟩

/-- A replaced cycle keeps its window, or is another one. -/
theorem Later.set {a b : Books} {old : Cycle} (new : Cycle) (h : b.cycles = a.cycles.set new)
    (stored : a.cycles.get? new.cycleId = some old)
    (same : new.cycleId = k → NotEarlier old new) : Later k a b := by
  intro c hc
  rw [h,Table.get?_set]
  split
  · rename_i key
    rw [key,hc] at stored
    cases stored
    exact ⟨new,by rw [hc]; rfl,same key⟩
  · exact ⟨c,hc,.refl c⟩

theorem later_placeholder (books : Books) (cycleId : String) :
    Later k books (Opening.getOrCreateCycle books cycleId) := by
  intro c hc
  refine ⟨c,?_,.refl c⟩
  unfold Opening.getOrCreateCycle
  split
  · rename_i cycles inserted
    obtain ⟨free,rfl⟩ := Table.insert?_eq_some.mp inserted
    show (books.cycles.insert { cycleId := cycleId } free).get? k = some c
    rw [Table.get?_insert,if_neg,hc]
    rintro rfl
    rw [hc] at free
    cases free
  · exact hc

theorem later_received : Received (Later k) where
  refl := .refl
  trans h g := h.trans g
  post := by
    intro books books' effect rest h
    unfold Ledger.post at h
    split at h
    · cases h
    rename_i cycle found
    split at h
    · cases h
      exact .refl _
    dsimp only at h
    split at h <;> cases h
    have key : cycle.cycleId = effect.cycleId := Table.key_of_get? found
    have stored : books.cycles.get? (Ledger.advance cycle effect).cycleId = some cycle :=
      (congrArg books.cycles.get? key).trans found
    exact Later.set _ rfl stored fun _ => ⟨fun w h => ⟨w,h,le_rfl⟩,id⟩
  placeholder := later_placeholder
  trade _ := .of_cycles rfl
  paid _ := .of_cycles rfl

theorem later_windows (locked : List String) :
    Later k db.books (processCycleWindows cfg db locked now).books := by
  intro c hc
  refine ⟨unlocked locked (advanced cfg now) c,?_,?_⟩
  · have same := Table.get?_mapRows db.books.cycles (unlocked locked (advanced cfg now))
      (unlocked_cycleId (advanced_cycleId cfg now) locked) k
    rw [hc] at same
    exact same
  unfold unlocked advanced
  split
  · exact .refl c
  split
  · exact .refl c
  split
  · exact .refl c
  · rename_i open_
    refine ⟨fun w h => ⟨w,?_,le_rfl⟩,fun closed => absurd closed open_⟩
    rw [h]
    rfl

theorem later_respond {e : ReportError} {c : Concerned} (h : Concerns db e c)
    (reason : ErrorReason) (locked : List String) :
    Later k db.books (respond cfg db c reason locked now).books := by
  have key := Table.key_of_get? h.cycle
  have stored : db.books.cycles.get? c.cycle.cycleId = some c.cycle := key.symm ▸ h.cycle
  unfold respond
  dsimp only
  split
  · exact Later.set { c.cycle with schedulerState := "CLOSED" } rfl stored fun _ =>
      ⟨fun w h => ⟨w,h,le_rfl⟩,fun _ => rfl⟩
  split
  · rename_i opensAt _
    have moved (books : Books) (same : books.cycles = db.books.cycles.set { c.cycle with
        reportWindowOpensAt := some (max (c.cycle.reportWindowOpensAt.getD opensAt) opensAt) }) :
        Later k db.books books := by
      refine Later.set _ same stored fun _ => ⟨fun w h => ⟨_,rfl,?_⟩,id⟩
      rw [h]
      exact le_max_left w opensAt
    split
    · exact moved _ rfl
    split
    · exact moved _ rfl
    · exact moved _ rfl
  · exact .of_cycles rfl

theorem later_error (e : ReportError) (locked : List String) :
    Later k db.books (processReportError cfg db e locked now).books := by
  unfold processReportError
  split
  · exact .refl _
  · rename_i c hc
    exact later_respond (concerned?_concerns hc) e.reason locked

/-! The dispatch of the reports reads the books only. -/

theorem generate_books {cycleId : String} {report : NegotiationReport}
    (h : generate cfg db cycleId now = .ok (db',report)) : db'.books = db.books := by
  unfold generate at h
  split at h
  swap
  · cases h
  obtain ⟨_,_,h⟩ := Fallible.bind_ok.mp h
  obtain ⟨_,_,h⟩ := Fallible.bind_ok.mp h
  dsimp only at h
  split at h
  · cases h
    rfl
  · split at h <;> cases h
    rfl

theorem enqueueReport_books {cycleId : String}
    (h : enqueueReport cfg now db cycleId = .ok db') : db'.books = db.books := by
  unfold enqueueReport at h
  split at h
  · cases h
    rfl
  split at h
  · cases h
    rfl
  obtain ⟨⟨next,report⟩,hg,h⟩ := Fallible.bind_ok.mp h
  have same := generate_books hg
  dsimp only at h
  split at h
  · cases h
    exact same
  split at h <;> cases h
  exact same

theorem enqueueDue_books {locked locked' : List String}
    (h : enqueueDue cfg db locked locked' now = .ok db') : db'.books = db.books := by
  unfold enqueueDue at h
  dsimp only at h
  have same := Fallible.foldlM_rel (fun a b : Db => b.books = a.books) (fun _ => rfl)
    (fun h k => k.trans h) (enqueueReport cfg now) (fun _ _ _ => enqueueReport_books) _ h
  exact same

theorem renewFailed_books : (Buying.renewFailed cfg db now).books = db.books := by
  unfold Buying.renewFailed
  generalize db.outbox.rows.filter Buying.renewable = rows
  induction rows generalizing db with
  | nil => rfl
  | cons row rows ih =>
    rw [List.foldl_cons,ih]
    unfold Buying.renewOne
    dsimp only
    split
    · rfl
    · split <;> rfl

theorem prepare_books (locked closed : List String) :
    (OutboundDispatch.prepare cfg db locked closed now).books = db.books :=
  (Negotiations.expireProposals_books closed).trans renewFailed_books

theorem result_books (msgId : String) (error : Option String) :
    (result db msgId error).books = db.books := by
  unfold result
  split
  · rfl
  split
  · unfold reportResult
    split
    · unfold markSent
      split
      · rfl
      · dsimp only
        split <;> rfl
    · rfl
  · rfl

end Frame

/-! ### A re-sent statement -/

/-- `market.reportOpensAt`, where it is an instant. -/
def reportOpensAt (data : Fields) : Option Instant :=
  Opening.marketTime (((data.get "market").obj?).getD []) "reportOpensAt"

/-- A statement of the cycle that still counts and names an instant for the
reports names none before `t`, or the window of its `validUntil` opens later. -/
def Honours (env : Env) (k : String) (t : Instant) (db : Db) : Turn → Prop
  | .message payload _ => payload.type = .statusStatement → payload.cycleId = some k →
      db.processed.get? payload.idpk = none → ∀ s r, Opening.statement payload.data = .ok s →
        reportOpensAt payload.data = some r → t ≤ max r (s.validUntil - env.cfg.reportWindow)
  | _ => True

section Statement
variable {cfg : Config} {db opened : Db} {payload : Payload} {now : Instant}

theorem applyStatement_cycle (h : Opening.applyStatement cfg db payload now = .ok (some opened)) :
    ∃ k s c version, payload.cycleId = some k ∧ Opening.statement payload.data = .ok s ∧
      (Opening.getOrCreateCycle db.books k).cycles.get? k = some c ∧
      Ledger.synchronizeBudgetCarryover cfg { Opening.getOrCreateCycle db.books k with
        cycles := (Opening.getOrCreateCycle db.books k).cycles.set
          { Opening.configureSchedule cfg (Opening.rebaseline c payload s) s.validUntil
              (payload.data.get "market") with strategyVersion := version } } =
        .ok opened.books := by
  obtain ⟨k,s,c,c',hk,hs,hc,hb,synced⟩ := applyStatement_bind h
  obtain ⟨version,same⟩ := StoredLedger.bind_cycle hb
  exact ⟨k,s,c,version,hk,hs,hc,same ▸ synced⟩

/-- The window after a statement opens no earlier than what it names, and than
before when it names nothing. -/
theorem configured_window (cycle : Cycle) (validUntil t : Instant) (market : Json)
    (held : ∃ w, cycle.reportWindowOpensAt = some w ∧ t ≤ w)
    (named : ∀ r, Opening.marketTime ((market.obj?).getD []) "reportOpensAt" = some r →
      t ≤ max r (validUntil - cfg.reportWindow)) :
    ∃ w, (Opening.configureSchedule cfg cycle validUntil market).reportWindowOpensAt = some w ∧
      t ≤ w := by
  obtain ⟨w,hw,le⟩ := held
  refine ⟨_,rfl,?_⟩
  unfold Option.orElse
  dsimp only
  rw [hw]
  cases r : Opening.marketTime ((market.obj?).getD []) "reportOpensAt" with
  | some r' => exact named r' r
  | none => exact le.trans (le_max_left w _)

end Statement

/-! ### Runs -/

/-- The cycle is closed when it was over, and else its window opens from `t` on. -/
def Held (past : Prop) (k : String) (t : Instant) (books : Books) : Prop :=
  ∃ c, books.cycles.get? k = some c ∧ (past → c.schedulerState = "CLOSED") ∧
    (¬ past → ∃ w, c.reportWindowOpensAt = some w ∧ t ≤ w)

section Runs
variable {past : Prop} {k : String} {t : Instant} {env : Env} {db : Db}

theorem Held.later {a b : Books} (h : Held past k t a) (later : Later k a b) : Held past k t b := by
  obtain ⟨c,hc,closed,window⟩ := h
  obtain ⟨c',hc',moved⟩ := later c hc
  refine ⟨c',hc',fun o => moved.closed (closed o),fun o => ?_⟩
  obtain ⟨w,hw,le⟩ := window o
  obtain ⟨w',hw',le'⟩ := moved.window w hw
  exact ⟨w',hw',le.trans le'⟩

theorem held_received : Received fun a b => Held past k t a → Held past k t b where
  refl _ := id
  trans h g := g ∘ h
  post h held := held.later (later_received.post h)
  placeholder books cycleId held := held.later (later_placeholder books cycleId)
  trade h held := held.later (later_received.trade h)
  paid h held := held.later (later_received.paid h)

theorem held_statement {payload : Payload} {now : Instant} {claimed opened : Db}
    (held : Held past k t claimed.books)
    (h : Opening.applyStatement env.cfg claimed payload now = .ok (some opened))
    (honours : ¬ past → payload.cycleId = some k → ∀ s r, Opening.statement payload.data = .ok s →
      reportOpensAt payload.data = some r → t ≤ max r (s.validUntil - env.cfg.reportWindow)) :
    Held past k t opened.books := by
  obtain ⟨k',s,c,version,hk,hs,hc,synced⟩ := applyStatement_cycle h
  refine Held.later ?_ (later_received.synchronize synced)
  have placed := held.later (later_placeholder claimed.books k')
  have key := Table.key_of_get? hc
  let next : Cycle := { Opening.configureSchedule env.cfg (Opening.rebaseline c payload s)
    s.validUntil (payload.data.get "market") with strategyVersion := version }
  have nextKey : next.cycleId = k' := key
  by_cases own : k' = k
  · subst own
    obtain ⟨c',hc',closed,window⟩ := placed
    rw [hc] at hc'
    cases hc'
    have stored : ((Opening.getOrCreateCycle claimed.books k').cycles.set next).get? k' = some next := by
      rw [Table.get?_set,if_pos nextKey,hc]
      rfl
    exact ⟨next,stored,closed,fun o =>
      configured_window _ s.validUntil t _ (window o) fun r => honours o hk s r hs⟩
  · have stored : (Opening.getOrCreateCycle claimed.books k').cycles.get? next.cycleId = some c :=
      nextKey.symm ▸ hc
    exact placed.later (Later.set next rfl stored fun e => absurd (nextKey.symm.trans e) own)

theorem held_turn (held : Held past k t db.books) (a : Turn) (honours : ¬ past → Honours env k t db a) :
    Held past k t (turn env db a).books := by
  cases a with
  | message payload now =>
    refine held_received.ingest env.cfg env.jwt db payload now ?_ held
    intro claimed opened claim type applied held
    have same : Held past k t claimed.books := by
      rw [Received.claim?_books claim]
      exact held
    refine held_statement same applied fun o own => ?_
    refine honours o type own ?_
    unfold Ingest.claim? at claim
    rw [if_pos (by rw [type]; rfl)] at claim
    obtain ⟨processed,inserted,_⟩ := Option.map_eq_some_iff.mp claim
    exact (Table.insert?_eq_some.mp inserted).1
  | error e locked now => exact held.later (later_error e locked)
  | windows locked now => exact held.later (later_windows locked)
  | enqueueDue locked locked' now =>
    show Held past k t (step env.cfg db _).books
    unfold step
    dsimp only
    split
    · rename_i h
      rw [enqueueDue_books h]
      exact held
    · exact held
  | result msgId error =>
    show Held past k t (result db msgId error).books
    rw [result_books]
    exact held
  | poll locked closed now =>
    show Held past k t (OutboundDispatch.prepare env.cfg db locked closed now).books
    rw [prepare_books]
    exact held

/-- A held cycle lists no report of its own before `t`. -/
theorem Held.listed (held : Held past k t db.books) {limit : Nat} {now : Instant}
    {row : OutboundMessage} (h : row ∈ OutboundDispatch.select db limit now) (hr : isReport row)
    (own : row.cycleId = some k) : t ≤ now := by
  obtain ⟨cycle,hmem,hc,⟨w,hw,le⟩,_,state⟩ := punctual db limit now row h hr
  obtain ⟨c,hget,closed,window⟩ := held
  rw [own,Option.some.injEq] at hc
  rw [hc,Table.get?_of_mem hmem] at hget
  cases hget
  by_cases o : past
  · exact absurd (closed o) state
  · obtain ⟨w',hw',le'⟩ := window o
    rw [hw] at hw'
    cases hw'
    exact le'.trans le

/-- An accepted error closes a cycle that is over, and else moves its window. -/
theorem held_announced {e : ReportError} {c : Concerned} (h : concerned? db e = some c)
    (tooEarly : e.reason = .tooEarly t) (locked : List String) (now : Instant) :
    Held (ended e.reason c.cycle now) e.cycleId t
      (processReportError env.cfg db e locked now).books := by
  have concerns := concerned?_concerns h
  have key : c.cycle.cycleId = e.cycleId := Table.key_of_get? concerns.cycle
  have stored (cycle : Cycle) (same : cycle.cycleId = e.cycleId) :
      (db.books.cycles.set cycle).get? e.cycleId = some cycle := by
    rw [Table.get?_set,if_pos same,concerns.cycle]
    rfl
  unfold processReportError
  rw [h]
  dsimp only
  unfold respond
  dsimp only
  split
  · rename_i past
    exact ⟨_,stored { c.cycle with schedulerState := "CLOSED" } key,fun _ => rfl,
      fun o => absurd past o⟩
  rename_i open_
  rw [tooEarly]
  dsimp only
  let later : Cycle := { c.cycle with
    reportWindowOpensAt := some (max (c.cycle.reportWindowOpensAt.getD t) t) }
  have moved (books : Books) (same : books.cycles = db.books.cycles.set later) :
      Held (ended (.tooEarly t) c.cycle now) e.cycleId t books :=
    ⟨later,same ▸ stored later key,fun o => absurd (tooEarly ▸ o) open_,
      fun _ => ⟨_,rfl,le_max_right _ t⟩⟩
  split
  · exact moved _ rfl
  split
  · exact moved _ rfl
  · exact moved _ rfl

/-- After the central has announced `t`, the window of the cycle opens from `t`
on as long as the statements honour it, and no report of the cycle leaves before.
An error that comes too late closes the cycle instead. -/
theorem window_kept (env : Env) (db : Db) (e : ReportError) (c : Concerned) (t : Instant)
    (locked : List String) (now : Instant) (turns : List Turn)
    (accepted : concerned? db e = some c) (announced : e.reason = .tooEarly t)
    (honoured : ended e.reason c.cycle now = false → Along (turn env) (Honours env e.cycleId t)
      (processReportError env.cfg db e locked now) turns) :
    Always (turn env) (fun db =>
      (ended e.reason c.cycle now = false → ∃ cycle w, db.books.cycles.get? e.cycleId = some cycle ∧
        cycle.reportWindowOpensAt = some w ∧ t ≤ w) ∧
      ∀ limit instant, ∀ row ∈ OutboundDispatch.select db limit instant, isReport row →
        row.cycleId = some e.cycleId → t ≤ instant)
      (processReportError env.cfg db e locked now) turns := by
  have conditions : Along (turn env)
      (fun db a => ¬ ended e.reason c.cycle now → Honours env e.cycleId t db a)
      (processReportError env.cfg db e locked now) turns := by
    by_cases past : ended e.reason c.cycle now
    · exact (along_true _ _).mono fun _ _ _ open_ => absurd past open_
    · exact (honoured (by simpa using past)).mono fun _ _ h _ => h
  have held := always_of_step (Q := fun db => Held (ended e.reason c.cycle now) e.cycleId t db.books)
    (fun db a h honours => held_turn h a honours) (held_announced accepted announced locked now)
    conditions
  refine held.mono fun db h =>
    ⟨fun open_ => ?_,fun limit instant row hrow hr own => h.listed hrow hr own⟩
  obtain ⟨cycle,hget,_,window⟩ := h
  obtain ⟨w,hw,le⟩ := window (by rw [open_]; exact Bool.false_ne_true)
  exact ⟨cycle,w,hget,hw,le⟩

end Runs

/-! ### The statement of the cycle arrives again -/

/-- The message of the report, whose operation is drawn before. -/
def sentMsgId : String := "82000000-0000-0000-0000-0000000000a2"

def reporter : Env where
  cfg := { Config.drawing "AAA" ["82000000-0000-0000-0000-0000000000a1",sentMsgId,
    "82000000-0000-0000-0000-0000000000a3"] with reportWindow := seconds 300 }
  jwt := (Node.offline "AAA" []).jwt

/-- Cycle C1 is valid until one o'clock and takes reports from `opensAt` on. -/
def schedule (idpk opensAt : String) (named : idpk ≠ "" := by decide) : Turn :=
  .message (Node.envelope .statusStatement idpk idpk none
    [("energy",.obj [("generationCapacity",.int 5),("consumption",.int 3),
        ("generationCost",.int 1)]),
      ("validUntil",.str "2026-01-01T01:00:00Z"),
      ("market",.obj [("reportOpensAt",.str opensAt)])] named) 0

/-- Five minutes to one. -/
def fiveTo : Instant := ((Moment.ofText "2026-01-01T00:55:00Z").map Moment.time).getD 0

/-- The report of C1 was enqueued when its window opened. -/
def reported : Db :=
  run (turn reporter) {} [schedule "82000000-0000-0000-0000-000000000001" "2026-01-01T00:55:00Z",
    .windows [] fiveTo,.enqueueDue [] [] fiveTo]

/-- The central wants it three minutes later. -/
def tooEarly : ReportError := ⟨"C1",sentMsgId,.tooEarly (fiveTo + seconds 180)⟩

def again (opensAt : String) : Turn := schedule "82000000-0000-0000-0000-000000000002" opensAt

theorem window_reopened :
    (∃ c, concerned? reported tooEarly = some c ∧ ended tooEarly.reason c.cycle fiveTo = false) ∧
      ¬ Always (turn reporter) (fun db => ∃ cycle w, db.books.cycles.get? "C1" = some cycle ∧
          cycle.reportWindowOpensAt = some w ∧ fiveTo + seconds 180 ≤ w)
        (processReportError reporter.cfg reported tooEarly [] fiveTo)
        [again "2026-01-01T00:55:00Z"] := by
  constructor
  · have accepted : (concerned? reported tooEarly).any
        fun c => !ended tooEarly.reason c.cycle fiveTo := by decide +kernel
    obtain ⟨c,hc,open_⟩ := (Option.any_eq_true _ _).mp accepted
    exact ⟨c,hc,by simpa using open_⟩
  · intro held
    obtain ⟨cycle,w,hget,hw,le⟩ := held.final
    have back : ((run (turn reporter) (processReportError reporter.cfg reported tooEarly [] fiveTo)
        [again "2026-01-01T00:55:00Z"]).books.cycles.get? "C1").bind Cycle.reportWindowOpensAt =
          some fiveTo := by decide +kernel
    rw [hget,Option.bind_some,hw,Option.some.injEq] at back
    rw [back] at le
    exact absurd le (by decide +kernel)

theorem window_kept_again :
    ∃ c, concerned? reported tooEarly = some c ∧ Always (turn reporter) (fun db =>
      (ended tooEarly.reason c.cycle fiveTo = false → ∃ cycle w,
        db.books.cycles.get? tooEarly.cycleId = some cycle ∧
          cycle.reportWindowOpensAt = some w ∧ fiveTo + seconds 180 ≤ w) ∧
      ∀ limit instant, ∀ row ∈ OutboundDispatch.select db limit instant, isReport row →
        row.cycleId = some tooEarly.cycleId → fiveTo + seconds 180 ≤ instant)
      (processReportError reporter.cfg reported tooEarly [] fiveTo)
      [again "2026-01-01T00:58:00Z"] := by
  have accepted : (concerned? reported tooEarly).isSome := by decide +kernel
  obtain ⟨c,hc⟩ := Option.isSome_iff_exists.mp accepted
  refine ⟨c,hc,window_kept reporter reported tooEarly c _ [] fiveTo _ hc rfl fun _ => ⟨?_,trivial⟩⟩
  intro _ _ _ s r _ hr
  have named : reportOpensAt (Node.envelope .statusStatement
      "82000000-0000-0000-0000-000000000002" "82000000-0000-0000-0000-000000000002" none
      [("energy",.obj [("generationCapacity",.int 5),("consumption",.int 3),
          ("generationCost",.int 1)]),
        ("validUntil",.str "2026-01-01T01:00:00Z"),
        ("market",.obj [("reportOpensAt",.str "2026-01-01T00:58:00Z")])]).data =
        some (fiveTo + seconds 180) := by decide +kernel
  rw [show r = fiveTo + seconds 180 from Option.some.inj (hr.symm.trans named)]
  exact le_max_left _ _

end Reports

end EnergyNode
