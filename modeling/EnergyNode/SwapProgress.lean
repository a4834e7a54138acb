import EnergyNode.Deals
import EnergyNode.Lib.Run

/-! The stages of a swap record, and the acceptances the buyer still has to
send. Records move forward only and unconfirmed acceptances stay work, unless a
`swap-proposed` reaches an acceptance of ours. -/
namespace EnergyNode
open Lib WalletEvents

/-- SUBMITTED < PROPOSED < ACCEPT_SUBMITTED < final. -/
def SwapStatus.stage : SwapStatus → Nat
  | submitted => 0
  | proposed => 1
  | acceptSubmitted => 2
  | settled | rejected | expired | cancelled => 3

/-- Never backwards, and from a final status to SETTLED only. -/
def SwapStatus.Advances (a b : SwapStatus) : Prop :=
  if a.terminal then b = a ∨ b = .settled else a.stage ≤ b.stage

instance (a b : SwapStatus) : Decidable (a.Advances b) := by
  unfold SwapStatus.Advances
  infer_instance

namespace SwapStatus

@[simp] theorem advances_refl (a : SwapStatus) : a.Advances a := by
  unfold Advances
  split
  · exact .inl rfl
  · exact le_rfl

theorem stage_of_terminal {a : SwapStatus} (h : a.terminal) : a.stage = 3 := by
  cases a <;> first | rfl | cases h

theorem stage_le (a : SwapStatus) : a.stage ≤ 3 := by
  cases a <;> decide

/-- A live status may end in any final one. -/
theorem advances_terminal {a b : SwapStatus} (live : a.terminal = false) (ends : b.terminal) :
    a.Advances b := by
  rw [Advances,live,stage_of_terminal ends]
  exact stage_le a

theorem Advances.trans {a b c : SwapStatus} (h : a.Advances b) (k : b.Advances c) :
    a.Advances c := by
  unfold Advances at h k ⊢
  split
  · rename_i final
    rw [if_pos final] at h
    rcases h with rfl | rfl
    · rwa [if_pos final] at k
    · exact .inr (k.elim id id)
  · rename_i live
    rw [if_neg live] at h
    split at k
    · rename_i final
      have last : c.terminal := by
        rcases k with rfl | rfl
        · exact final
        · rfl
      rw [stage_of_terminal last]
      exact stage_le a
    · exact h.trans k

end SwapStatus

namespace SwapProgress
open SwapAccept

/-- Every record is still there, at its stage or a later one. -/
def Progress (m n : Market) : Prop :=
  ∀ r ∈ m.swaps.rows, ∃ s ∈ n.swaps.get? r.idpk, r.status.Advances s.status

instance (m n : Market) : Decidable (Progress m n) :=
  inferInstanceAs (Decidable (∀ _ ∈ m.swaps.rows, _))

/-- A `swap-proposed` is found to be about a live acceptance of ours. -/
def misdirected (m : Market) : Cause → Bool
  | .event .proposed data _ =>
      match correlate m.swaps data with
      | .ok (some r) => r.role = .acceptor && !r.status.terminal
      | _ => false
  | _ => false

def Spared (db : Db) (a : Node.Action) : Prop :=
  ∀ c ∈ Node.causes db a, misdirected (Node.reading db a c) c = false

instance (db : Db) (a : Node.Action) : Decidable (Spared db a) :=
  inferInstanceAs (Decidable (∀ _ ∈ _, _))

/-- The acceptances an action confirms. -/
def confirmed (db : Db) (a : Node.Action) : List String :=
  (Node.causes db a).filterMap fun
    | .confirmation k => some k
    | _ => none

def confirmations (env : Env) : Db → List Node.Action → List String
  | _, [] => []
  | db, a :: run => confirmed db a ++ confirmations env (Node.step env db a) run

theorem mem_confirmed {db : Db} {a : Node.Action} {k : String} :
    k ∈ confirmed db a ↔ .confirmation k ∈ Node.causes db a := by
  unfold confirmed
  rw [List.mem_filterMap]
  constructor
  · rintro ⟨c,hc,h⟩
    split at h
    · cases h
      exact hc
    · cases h
  · intro hc
    exact ⟨_,hc,rfl⟩

/-- Where a record may stand, given whether its acceptance was confirmed. -/
def Steady (done : Prop) (r : SwapRecord) : Prop :=
  match r.role with
  | .proposer => r.status ≠ .acceptSubmitted
  | .acceptor => r.status.terminal ∨ isAcceptance r ∧
      (unanswered r ∨ r.status = .acceptSubmitted ∧ done)

theorem Steady.mono {p q : Prop} {r : SwapRecord} (h : Steady p r) (imp : p → q) :
    Steady q r := by
  unfold Steady at h ⊢
  cases role : r.role with
  | proposer =>
    rw [role] at h
    exact h
  | acceptor =>
    rw [role] at h
    exact h.imp_right fun ⟨own,work⟩ => ⟨own,work.imp_right fun ⟨sent,done⟩ => ⟨sent,imp done⟩⟩

theorem steady_terminal {done : Prop} {r : SwapRecord} (h : r.status.terminal) :
    Steady done r := by
  unfold Steady
  cases r.role with
  | proposer =>
    intro sent
    rw [sent] at h
    cases h
  | acceptor => exact .inl h

theorem isAcceptance_congr {r s : SwapRecord} (h : SameDeal r s) :
    isAcceptance s = isAcceptance r := by
  unfold isAcceptance
  rw [h.role,h.sourceBidIdpk,h.acceptIdempotencyKey]

theorem Steady.live_acceptor {done : Prop} {r : SwapRecord} (h : Steady done r)
    (role : r.role = .acceptor) (live : r.status.terminal = false) :
    isAcceptance r ∧ (unanswered r ∨ r.status = .acceptSubmitted ∧ done) := by
  unfold Steady at h
  rw [role] at h
  exact h.resolve_left (by rw [live]; decide)

theorem steady_proposer {done : Prop} {r : SwapRecord} (role : r.role = .proposer) :
    Steady done r ↔ r.status ≠ .acceptSubmitted := by
  unfold Steady
  rw [role]

theorem steady_acceptor {done : Prop} {r : SwapRecord} (role : r.role = .acceptor)
    (own : isAcceptance r) (work : unanswered r ∨ r.status = .acceptSubmitted ∧ done) :
    Steady done r := by
  unfold Steady
  rw [role]
  exact .inr ⟨own,work⟩

/-- What the record of one key was, is and may be. -/
structure Moved (done : Prop) (before after : Option SwapRecord) : Prop where
  steady : ∀ s, after = some s → Steady done s
  advances : ∀ r, before = some r → ∃ s, after = some s ∧ r.status.Advances s.status

theorem Moved.refl {done : Prop} {x : Option SwapRecord} (h : ∀ r, x = some r → Steady done r) :
    Moved done x x :=
  ⟨h,fun r hr => ⟨r,hr,r.status.advances_refl⟩⟩

theorem Moved.trans {done : Prop} {x y z : Option SwapRecord} (h : Moved done x y)
    (k : Moved done y z) : Moved done x z := by
  refine ⟨k.steady,fun r hr => ?_⟩
  obtain ⟨s,hs,first⟩ := h.advances r hr
  obtain ⟨u,hu,second⟩ := k.advances s hs
  exact ⟨u,hu,first.trans second⟩

theorem moved_some {done : Prop} {r s : SwapRecord} (steady : Steady done s)
    (advances : r.status.Advances s.status) : Moved done (some r) (some s) := by
  refine ⟨?_,?_⟩
  · intro u h
    cases h
    exact steady
  · intro u h
    cases h
    exact ⟨s,rfl,advances⟩

theorem moved_none {done : Prop} {s : SwapRecord} (steady : Steady done s) :
    Moved done none (some s) := by
  refine ⟨?_,?_⟩
  · intro r h
    cases h
    exact steady
  · intro r h
    cases h

/-- A record that keeps its status keeps its place. -/
theorem moved_same {done : Prop} {r s : SwapRecord} (deal : SameDeal r s)
    (status : s.status = r.status) (h : Steady done r)
    (work : r.role = .acceptor → unanswered r → unanswered s ∨ done) :
    Moved done (some r) (some s) := by
  have stays : r.status.Advances s.status := by
    rw [status]
    exact r.status.advances_refl
  refine moved_some ?_ stays
  cases role : r.role with
  | proposer =>
    rw [steady_proposer role] at h
    rw [steady_proposer (deal.role.trans role),status]
    exact h
  | acceptor =>
    by_cases final : r.status.terminal
    · exact steady_terminal (by rw [status]; exact final)
    rw [Bool.not_eq_true] at final
    obtain ⟨own,due⟩ := h.live_acceptor role final
    have own' : isAcceptance s := (isAcceptance_congr deal).trans own
    refine steady_acceptor (deal.role.trans role) own' ?_
    rcases due with due | ⟨sent,known⟩
    · rcases work role due with due' | known
      · exact .inl due'
      · unfold unanswered at due ⊢
        rw [status]
        cases hs : r.status with
        | submitted => exact .inl rfl
        | acceptSubmitted => exact .inr ⟨rfl,known⟩
        | _ => simp [hs] at due
    · exact .inr ⟨status.trans sent,known⟩

theorem moved_terminal {done : Prop} {r s : SwapRecord} (live : r.status.terminal = false)
    (ends : s.status.terminal) : Moved done (some r) (some s) :=
  moved_some (steady_terminal ends) (SwapStatus.advances_terminal live ends)

theorem EventType.terminal_status {type : EventType} (h : type ≠ .proposed) :
    type.status.terminal := by
  cases type <;> first | rfl | exact absurd rfl h

/-- A proposer that is still live was at most PROPOSED. -/
theorem moved_proposed {done : Prop} {r s : SwapRecord} (deal : SameDeal r s)
    (live : r.status.terminal = false) (role : r.role = .proposer) (status : s.status = .proposed)
    (h : Steady done r) : Moved done (some r) (some s) := by
  rw [steady_proposer role] at h
  refine moved_some ?_ ?_
  · rw [steady_proposer (deal.role.trans role),status]
    decide
  · rw [status]
    cases hr : r.status <;> first | decide | exact absurd hr h | (rw [hr] at live; cases live)

theorem moved_sent {done : Prop} {r s : SwapRecord} (deal : SameDeal r s)
    (live : r.status.terminal = false) (role : r.role = .acceptor)
    (status : s.status = .acceptSubmitted) (h : Steady done r)
    (work : r.role = .acceptor → unanswered r → unanswered s ∨ done) :
    Moved done (some r) (some s) := by
  obtain ⟨own,due⟩ := h.live_acceptor role live
  refine moved_some ?_ ?_
  · refine steady_acceptor (deal.role.trans role) ((isAcceptance_congr deal).trans own) ?_
    rcases due with due | ⟨_,known⟩
    · exact (work role due).imp_right fun known => ⟨status,known⟩
    · exact .inr ⟨status,known⟩
  · rw [status]
    cases hr : r.status <;> first | decide | (rw [hr] at live; cases live)

/-- One move, seen from one key. -/
theorem moved_deal {m : Market} {Q : Cause → Prop} {k : String} {d e : Deal} {done : Prop}
    (move : DealMove m Q k d e)
    (spares : ∀ type data rejection, Q (.event type data rejection) →
      misdirected m (.event type data rejection) = false)
    (confirms : Q (.confirmation k) → done) (h : ∀ r, d.swap = some r → Steady done r) :
    Moved done d.swap e.swap := by
  cases move with
  | still => exact .refl h
  | arrived => exact .refl h
  | rejected => exact .refl h
  | own => exact .refl h
  | closed => exact .refl h
  | answered => exact .refl h
  | reserved b price now => exact moved_none ((steady_proposer rfl).mpr nofun)
  | taken r role _ status =>
    refine moved_none ?_
    rcases status with ⟨fresh,own⟩ | refused
    · exact steady_acceptor role own (.inl (by rw [unanswered,fresh]; rfl))
    · exact steady_terminal (by rw [refused]; rfl)
  | event r s type data rejection swapId cause found _ live _ deal status =>
    by_cases proposed : type = .proposed
    · subst proposed
      cases role : r.role with
      | proposer => exact moved_proposed deal live role status (h r rfl)
      | acceptor =>
        have aside := spares _ _ _ cause
        simp [misdirected,found,role,live] at aside
    · exact moved_terminal live (by rw [status]; exact EventType.terminal_status proposed)
  | revised r s type data rejection _ _ _ final deal _ _ status =>
    have ends : s.status.terminal := by
      rw [status]
      split
      · rfl
      · exact final
    refine moved_some (steady_terminal ends) ?_
    rw [SwapStatus.Advances,if_pos final,status]
    split
    · exact .inr rfl
    · exact .inl rfl
  | expired r s reason _ _ live _ status => exact moved_terminal live (by rw [status]; rfl)
  | kept r s _ deal status _ _ work =>
    have work' (role : r.role = .acceptor) (due : unanswered r) : unanswered s ∨ done :=
      (work role due).imp_right confirms
    rcases status with same | ⟨live,⟨role,status⟩ | ⟨role,status⟩⟩
    · exact moved_same deal same (h r rfl) work'
    · exact moved_proposed deal live role status (h r rfl)
    · exact moved_sent deal live role status (h r rfl) work'
  | claimed r s _ deal before after _ _ role =>
    refine moved_same deal (after.trans before.symm) (h r rfl) fun other => ?_
    rw [role] at other
    cases other
  | refused r s _ _ _ status _ _ live => exact moved_terminal live (by rw [status]; rfl)

theorem moved_moves {cfg : Config} {P : Market → Cause → Prop} {d d' : Desk} {done : Prop}
    (moves : Moves cfg P d d') (k : String)
    (spares : ∀ m type data rejection, P m (.event type data rejection) →
      misdirected m (.event type data rejection) = false)
    (confirms : ∀ m, P m (.confirmation k) → done)
    (h : ∀ r, d.market.swaps.get? k = some r → Steady done r) :
    Moved done (d.market.swaps.get? k) (d'.market.swaps.get? k) := by
  induction moves with
  | refl => exact .refl h
  | tail _ move ih =>
    exact ih.trans (moved_deal (Market.deal_move move k) (spares _) (confirms _) ih.steady)

/-- What every action does to the record of one key. -/
theorem moved_step (env : Env) (db : Db) (a : Node.Action) (k : String) {done : Prop}
    (spared : Spared db a) (confirms : k ∈ confirmed db a → done)
    (h : ∀ r, db.market.swaps.get? k = some r → Steady done r) :
    Moved done (db.market.swaps.get? k) ((Node.step env db a).market.swaps.get? k) := by
  refine moved_moves (Node.step_moves env db a) k ?_ ?_ h
  · rintro m type data rejection ⟨hc,other | read⟩
    · cases other
    · rw [read]
      exact spared _ hc
  · rintro m ⟨hc,_⟩
    exact confirms (mem_confirmed.mpr hc)

/-- The records of a state, given the acceptances confirmed so far. -/
def AllSteady (past : List String) (m : Market) : Prop :=
  ∀ k r, m.swaps.get? k = some r → Steady (k ∈ past) r

theorem steady_step (env : Env) {db : Db} {a : Node.Action} {past : List String}
    (spared : Spared db a) (h : AllSteady past db.market) :
    AllSteady (past ++ confirmed db a) (Node.step env db a).market ∧
      Progress db.market (Node.step env db a).market := by
  have moved (k : String) : Moved (k ∈ past ++ confirmed db a) (db.market.swaps.get? k)
      ((Node.step env db a).market.swaps.get? k) :=
    moved_step env db a k spared
    (List.mem_append_right _) fun r hr => (h k r hr).mono (List.mem_append_left _)
  refine ⟨fun k => (moved k).steady,?_⟩
  intro r hr
  obtain ⟨s,hs,advances⟩ := (moved r.idpk).advances r (Table.get?_of_mem hr)
  exact ⟨s,hs,advances⟩

theorem steady_run (env : Env) {start : Db} {past : List String} {run : List Node.Action}
    (spared : Along (Node.step env) Spared start run) (h : AllSteady past start.market) :
    AllSteady (past ++ confirmations env start run) (Lib.run (Node.step env) start run).market ∧
      Along (Node.step env) (fun db a => Progress db.market (Node.step env db a).market)
        start run := by
  induction run generalizing start past with
  | nil =>
    refine ⟨?_,trivial⟩
    rw [confirmations,List.append_nil]
    exact h
  | cons a run ih =>
    obtain ⟨steady,progress⟩ := steady_step env spared.1 h
    obtain ⟨rest,along⟩ := ih spared.2 steady
    rw [List.append_assoc] at rest
    exact ⟨rest,progress,along⟩

/-- A live acceptance that nothing confirmed is work, but for its retry time. -/
def Pursued (past : List String) (m : Market) : Prop :=
  ∀ r ∈ m.swaps.rows, r.role = .acceptor → r.status.terminal = false → r.idpk ∉ past →
    ∀ now, waiting r now = false → acceptWork r now

theorem pursued_of_steady {past : List String} {m : Market} (h : AllSteady past m) :
    Pursued past m := by
  intro r hr role live unknown now free
  obtain ⟨own,due⟩ := (h r.idpk r (Table.get?_of_mem hr)).live_acceptor role live
  have work : unanswered r := due.resolve_right fun sent => unknown sent.2
  rw [acceptWork,own,free,work]
  rfl

/-- Over every run in which no `swap-proposed` reaches a live acceptance of
ours, no record goes back and no unconfirmed acceptance is forgotten. -/
theorem swaps_progress (env : Env) (start : Db) (empty : start.market = {})
    (run : List Node.Action) (spared : Along (Node.step env) Spared start run) :
    Along (Node.step env) (fun db a => Progress db.market (Node.step env db a).market) start run ∧
      Pursued (confirmations env start run) (Lib.run (Node.step env) start run).market := by
  have steady : AllSteady [] start.market := by
    intro k r hr
    rw [empty] at hr
    cases hr
  obtain ⟨rest,along⟩ := steady_run env spared steady
  exact ⟨along,pursued_of_steady rest⟩

/-- The acceptance of the purchase is on its way. -/
def sent : List Node.Action :=
  Node.purchase ++ [.leaseAccept Node.lease (seconds 63),.sendAccept Node.lease (seconds 63)]

def proposedEvent : Payload :=
  Node.walletMessage .swapProposed "w1" "w2" [("swapId",.str "s9")]

/-- The proposal of the swap, read as news about our acceptance of it, takes the
record back to PROPOSED, which nobody sends again. -/
theorem proposal_resets_acceptance :
    let run := sent ++ [.ingest proposedEvent (seconds 64)]
    ¬Along (Node.step Node.buyer)
        (fun db a => Progress db.market (Node.step Node.buyer db a).market) (Node.opened "C1") run ∧
      ¬Pursued (confirmations Node.buyer (Node.opened "C1") run)
        (Lib.run (Node.step Node.buyer) (Node.opened "C1") run).market := by
  intro run
  refine ⟨by decide +kernel,?_⟩
  have forgotten : ∃ r ∈ (Lib.run (Node.step Node.buyer) (Node.opened "C1") run).market.swaps.rows,
      r.role = .acceptor ∧ r.status.terminal = false ∧
        r.idpk ∉ confirmations Node.buyer (Node.opened "C1") run ∧
        waiting r (seconds 100) = false ∧ acceptWork r (seconds 100) = false := by
    decide +kernel
  obtain ⟨r,hr,role,live,unknown,free,idle⟩ := forgotten
  intro pursued
  have due := pursued r hr role live unknown (seconds 100) free
  rw [idle] at due
  cases due

theorem sent_progress :
    Along (Node.step Node.buyer)
        (fun db a => Progress db.market (Node.step Node.buyer db a).market)
        (Node.opened "C1") sent ∧
      Pursued (confirmations Node.buyer (Node.opened "C1") sent)
        (Lib.run (Node.step Node.buyer) (Node.opened "C1") sent).market :=
  swaps_progress Node.buyer (Node.opened "C1") rfl sent (by decide +kernel)

end SwapProgress

end EnergyNode
