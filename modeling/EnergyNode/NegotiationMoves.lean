import EnergyNode.Carryover
import EnergyNode.NegotiationFiles

/-! The services of the negotiations, each of them made of moves of the file. -/
namespace EnergyNode
open Lib

namespace Negotiations
open Ledger

/-! ### The ledger -/

section Books
variable {cfg : Config} {books books' : Books} {effect : Effect}

theorem dealt_posted (books : Books) (cycle : Cycle) (effect : Effect) : dealt (posted books cycle effect) =
    dealt books ++ if isDealt effect.operationType then [nextEntry cycle effect] else [] := by
  unfold dealt posted
  dsimp only
  rw [List.filter_append,List.filter_singleton,Bool.cond_eq_ite]
  rfl

theorem dealt_carryInto {previous : Option String} {k : String}
    (h : carryInto cfg books previous k = .ok books') : dealt books' = dealt books := by
  rw [carryInto_eq] at h
  split at h
  · cases h
    rfl
  · obtain ⟨⟨done,entry,applied⟩,hp,rfl⟩ := Fallible.map_ok.mp h
    rcases post_cases hp with ⟨_,rfl,_⟩ | ⟨_,_,cycle,_,rfl⟩
    · rfl
    · have other : ¬ isDealt OperationType.budgetCarryover := Bool.false_ne_true
      rw [dealt_posted]
      exact (congrArg _ (if_neg other)).trans (List.append_nil _)

theorem dealt_carryAll {previous : Option String} {l : List String}
    (h : carryAll cfg books previous l = .ok books') : dealt books' = dealt books := by
  induction l generalizing books previous with
  | nil =>
    cases h
    rfl
  | cons k l ih =>
    obtain ⟨mid,hm,rest⟩ := Fallible.bind_ok.mp h
    exact (ih rest).trans (dealt_carryInto hm)

theorem dealt_synchronize (h : synchronizeBudgetCarryover cfg books = .ok books') :
    dealt books' = dealt books := by
  unfold synchronizeBudgetCarryover at h
  dsimp only at h
  split at h
  · exact dealt_carryAll h
  · cases h

/-- An effect of the ledger: applied before, or its entry comes last. -/
theorem dealt_apply {entry : LedgerEntry} {applied : Bool}
    (h : applyLedgerEffect cfg books effect = .ok (books',entry,applied)) :
    (applied = false ∧ books' = books ∧ existing? books effect = some entry) ∨
      (applied = true ∧ ∃ cycle, books.cycles.get? effect.cycleId = some cycle ∧ dealt books' =
        dealt books ++ if isDealt effect.operationType then [nextEntry cycle effect] else []) := by
  unfold applyLedgerEffect at h
  obtain ⟨⟨mid,old,fresh⟩,hp,rest⟩ := Fallible.bind_ok.mp h
  clear h
  dsimp only at rest
  rcases post_cases hp with ⟨rfl,rfl,replayed⟩ | ⟨rfl,_,cycle,found,rfl⟩
  · rw [if_neg (by simp)] at rest
    cases rest
    exact .inl ⟨rfl,rfl,replayed⟩
  · have own := dealt_posted books cycle effect
    by_cases still : effect.budgetDelta = 0
    · rw [if_neg (by simp [still])] at rest
      cases rest
      exact .inr ⟨rfl,cycle,found,own⟩
    · rw [if_pos ⟨rfl,still⟩] at rest
      obtain ⟨done,hd,rest⟩ := Fallible.bind_ok.mp rest
      cases rest
      exact .inr ⟨rfl,cycle,found,(dealt_synchronize hd).trans own⟩

theorem dealt_getOrCreateCycle (books : Books) (k : String) :
    dealt (Opening.getOrCreateCycle books k) = dealt books := by
  unfold Opening.getOrCreateCycle
  split <;> rfl

end Books

/-! ### The status of one negotiation -/

theorem transition_cases {n m : Negotiation} {status : NegotiationStatus} {now : Instant}
    (h : transition n status now = .ok m) : m = n ∨ status ∈ n.status.allowed ∧
      m = { n with status := status, updatedAt := now, deadlineAt := deadline n status now } := by
  unfold transition at h
  split at h
  · cases h
    exact .inl rfl
  · split at h
    · rename_i allowed
      cases h
      exact .inr ⟨allowed,rfl⟩
    · cases h

theorem transition_keeps {n m : Negotiation} {status : NegotiationStatus} {now : Instant}
    (h : transition n status now = .ok m) : Keeps n m := by
  rcases transition_cases h with rfl | ⟨_,rfl⟩ <;> exact ⟨⟨rfl,rfl,rfl,rfl⟩,rfl,rfl,rfl⟩

theorem ne_rejected_of_allowed {n : Negotiation} {status : NegotiationStatus}
    (h : status ∈ n.status.allowed) : n.status ≠ .rejected := by
  intro closed
  rw [closed] at h
  cases h

theorem transition_open {n m : Negotiation} {status : NegotiationStatus} {now : Instant}
    (h : transition n status now = .ok m) (ne : status ≠ .rejected) : Open n m := by
  rcases transition_cases h with rfl | ⟨allowed,rfl⟩
  · exact .inl rfl
  · exact .inr ⟨ne_rejected_of_allowed allowed,ne⟩

/-- A negotiation that takes a confirmation or a payment was not rejected. -/
theorem transition_live {n m : Negotiation} {status : NegotiationStatus} {now : Instant}
    (h : transition n status now = .ok m) (towards : status = .confirmed ∨ status = .paid) :
    n.status ≠ .rejected ∧ m.status ≠ .rejected := by
  rcases transition_cases h with rfl | ⟨allowed,rfl⟩
  · refine ⟨fun closed => ?_,fun closed => ?_⟩ <;>
    · unfold transition at h
      rw [closed] at h
      rcases towards with rfl | rfl <;> cases h
  · refine ⟨ne_rejected_of_allowed allowed,?_⟩
    rcases towards with rfl | rfl <;> exact NegotiationStatus.noConfusion

theorem moveTo_cases (n : Negotiation) (status : NegotiationStatus) (now : Instant) :
    transition n status now = .ok (moveTo n status now) ∨ moveTo n status now = n := by
  unfold moveTo
  split
  · rename_i m h
    exact .inl h
  · exact .inr rfl

theorem moveTo_keeps (n : Negotiation) (status : NegotiationStatus) (now : Instant) :
    Keeps n (moveTo n status now) := by
  rcases moveTo_cases n status now with h | h
  · exact transition_keeps h
  · rw [h]
    exact ⟨⟨rfl,rfl,rfl,rfl⟩,rfl,rfl,rfl⟩

theorem moveTo_open (n : Negotiation) {status : NegotiationStatus} (ne : status ≠ .rejected)
    (now : Instant) : Open n (moveTo n status now) := by
  rcases moveTo_cases n status now with h | h
  · exact transition_open h ne
  · rw [h]
    exact .inl rfl

theorem timedOut_keeps (now : Instant) (n : Negotiation) :
    Keeps n (timedOut now n) ∧ Open n (timedOut now n) := by
  unfold timedOut
  split
  · split
    · exact ⟨⟨⟨rfl,rfl,rfl,rfl⟩,rfl,rfl,rfl⟩,.inl rfl⟩
    · exact ⟨moveTo_keeps n .timeout now,moveTo_open n NegotiationStatus.noConfusion now⟩
  · exact ⟨⟨⟨rfl,rfl,rfl,rfl⟩,rfl,rfl,rfl⟩,.inl rfl⟩

theorem Keeps.trans {a b c : Negotiation} (h : Keeps a b) (k : Keeps b c) : Keeps a c :=
  ⟨⟨k.id.trans h.id,k.idpk.trans h.idpk,k.direction.trans h.direction,k.cycleId.trans h.cycleId⟩,
    k.confirmedEnergy.trans h.confirmedEnergy,k.confirmedPrice.trans h.confirmedPrice,
    k.paymentQuantity.trans h.paymentQuantity⟩

/-! ### Which negotiation a message is about -/

theorem get?_withLatest {d : Diplomacy} {msgId : String} {n : Negotiation}
    (h : withLatest? d msgId = some n) : d.negotiations.get? n.idpk = some n :=
  Table.get?_of_mem (List.mem_of_find?_eq_some h)

theorem get?_proposalNegotiation {d : Diplomacy} {outbox : Outbox} {target : String} {n : Negotiation}
    (h : proposalNegotiation d outbox target = some n) : d.negotiations.get? n.idpk = some n := by
  unfold proposalNegotiation at h
  split at h
  · rw [Table.key_of_get? h]
    exact h
  · exact get?_withLatest h

theorem get?_confirmationNegotiation {db : Db} {target : String} {n : Negotiation}
    (h : confirmationNegotiation db target = some n) :
    db.diplomacy.negotiations.get? n.idpk = some n := by
  unfold confirmationNegotiation at h
  split at h
  · exact Table.get?_of_mem (List.mem_of_find?_eq_some h)
  · cases answered : (confirmedTarget? db.inbox target).bind
        (proposalNegotiation db.diplomacy db.outbox) with
    | none =>
      rw [answered] at h
      exact get?_withLatest h
    | some m =>
      rw [answered] at h
      cases h
      obtain ⟨_,_,found⟩ := Option.bind_eq_some_iff.mp answered
      exact get?_proposalNegotiation found

theorem get?_enqueue (cfg : Config) (outbox : Outbox) (draft : Draft) (msgId : String) :
    (outbox.enqueue cfg draft).get? msgId = if Outbox.freshMsgId cfg outbox = msgId
      then some ⟨draft,Outbox.freshMsgId cfg outbox,Outbox.freshIdpk cfg outbox⟩
      else outbox.get? msgId :=
  Table.get?_insert ..

/-- A request for information is no proposal. -/
theorem proposalNegotiation_enqueue (cfg : Config) (d : Diplomacy) (outbox : Outbox) (ask : String)
    (now : Instant) (target : String) :
    proposalNegotiation d (InformationRequests.enqueue cfg outbox ask now) target =
      proposalNegotiation d outbox target := by
  unfold InformationRequests.enqueue
  split
  · rfl
  · unfold proposalNegotiation
    rw [get?_enqueue]
    by_cases own : Outbox.freshMsgId cfg outbox = target
    · have fresh : outbox.get? target = none := by
        rw [← own]
        exact Outbox.get?_fresh cfg outbox []
      rw [if_pos own,fresh]
      rfl
    · rw [if_neg own]

theorem proposalNegotiation_request (cfg : Config) (db : Db) (payload : Payload) (now : Instant)
    (target : String) :
    proposalNegotiation (Ingest.requestStatement cfg db payload now).diplomacy
        (Ingest.requestStatement cfg db payload now).outbox target =
      proposalNegotiation db.diplomacy db.outbox target := by
  unfold Ingest.requestStatement
  split
  · rfl
  · split
    · rfl
    · dsimp only
      split
      · rfl
      · exact proposalNegotiation_enqueue cfg db.diplomacy db.outbox "status-statement" now target

theorem file_request (cfg : Config) (db : Db) (payload : Payload) (now : Instant) :
    file (Ingest.requestStatement cfg db payload now) = file db := by
  unfold Ingest.requestStatement
  split
  · rfl
  · split
    · rfl
    · unfold file
      dsimp only
      rw [dealt_getOrCreateCycle]

/-! ### The services -/

section Services
variable {T : Terms} {cfg : Config} {db db' : Db}

theorem file_stop (db : Db) (n : Negotiation) : file (stopDispatches db n) = file db := rfl

theorem moves_store {n m : Negotiation} (hn : db.diplomacy.negotiations.get? n.idpk = some n)
    (kept : Keeps n m) (status : Open n m) : FileMoves T (file db) (file (store db m)) :=
  .single (.moved n m hn kept status)

theorem moves_acknowledge {target : String} {now : Instant}
    (h : acknowledge db target now = .ok db') : FileMoves T (file db) (file db') := by
  unfold acknowledge at h
  split at h
  · cases h
    exact .refl
  · rename_i n found
    obtain ⟨m,hm,rfl⟩ := Fallible.map_ok.mp h
    exact moves_store (get?_proposalNegotiation found) (transition_keeps hm)
      (transition_open hm NegotiationStatus.noConfusion)

/-- A refusal takes the negotiation it is about to REJECTED, or is not its business. -/
theorem moves_reject {n m : Negotiation} {now : Instant} (hn : db.diplomacy.negotiations.get? n.idpk = some n)
    (hm : transition n .rejected now = .ok m) (cause : T.refused n) :
    FileMoves T (file db) (file (stopDispatches (store db m) m)) := by
  rcases transition_cases hm with rfl | ⟨_,same⟩
  · exact moves_store hn (transition_keeps hm) (.inl rfl)
  · refine .single (.refused n m hn (transition_keeps hm) cause ?_)
    rw [same]

theorem moves_refuse {target : String} {now : Instant} (h : refuse db target now = .ok db')
    (cause : ∀ n, proposalNegotiation db.diplomacy db.outbox target = some n → refusable n.status →
      T.refused n) : FileMoves T (file db) (file db') := by
  unfold refuse at h
  split at h
  · cases h
    exact .refl
  · rename_i n found
    obtain ⟨found,able⟩ := Option.filter_eq_some_iff.mp found
    obtain ⟨m,hm,rfl⟩ := Fallible.map_ok.mp h
    exact moves_reject (get?_proposalNegotiation found) hm (cause n found able)

theorem moves_refuseProposal {e : ProtocolError} {now : Instant} (h : refuseProposal db e now = .ok db')
    (cause : ∀ n, proposalNegotiation db.diplomacy db.outbox e.target = some n →
      some n.cycleId = e.cycleId → refusable n.status → T.refused n) :
    FileMoves T (file db) (file db') := by
  unfold refuseProposal at h
  split at h
  · cases h
    exact .refl
  · rename_i n found
    obtain ⟨found,able⟩ := Option.filter_eq_some_iff.mp found
    obtain ⟨m,hm,rfl⟩ := Fallible.map_ok.mp h
    rw [Bool.and_eq_true,decide_eq_true_eq] at able
    exact moves_reject (get?_proposalNegotiation found) hm (cause n found able.1 able.2)

theorem lt_nextId {d : Diplomacy} {n : Negotiation} (hn : n ∈ d.negotiations) : n.id < nextId d := by
  have le (l : List Nat) (start : Nat) : start ≤ l.foldl max start ∧ ∀ x ∈ l, x ≤ l.foldl max start := by
    induction l generalizing start with
    | nil => exact ⟨le_rfl,fun _ hx => absurd hx List.not_mem_nil⟩
    | cons y l ih =>
      obtain ⟨above,each⟩ := ih (max start y)
      refine ⟨(le_max_left start y).trans above,fun x hx => ?_⟩
      rcases List.mem_cons.mp hx with rfl | hx
      · exact (le_max_right start x).trans above
      · exact each x hx
  exact Nat.lt_succ_of_le ((le _ 0).2 n.id (List.mem_map_of_mem hn))

theorem moves_open {n : Negotiation} {negotiations : Table Negotiation.idpk}
    (h : db.diplomacy.negotiations.insert? n = some negotiations) (unconfirmed : n.confirmedEnergy = none)
    (unpriced : n.confirmedPrice = none) (unpaid : n.paymentQuantity = none) (status : n.status ≠ .rejected)
    (id : n.id = nextId db.diplomacy) :
    FileMove T (file db) { file db with negotiations := negotiations } := by
  obtain ⟨free,rfl⟩ := Table.insert?_eq_some.mp h
  refine .opened n free unconfirmed unpriced unpaid status fun m hm => ?_
  rw [id]
  exact lt_nextId hm

theorem moves_propose {cycleId idpk msgId direction : String} {quantity price : ℚ} {now : Instant} :
    FileMoves T (file db) (file (propose db cycleId idpk msgId direction quantity price now).1) := by
  unfold propose
  dsimp only
  split
  · rename_i negotiations inserted
    exact .single (moves_open inserted rfl rfl rfl NegotiationStatus.noConfusion rfl)
  · exact .refl

theorem moves_enqueueProposal {p : Proposal} {now : Instant}
    (h : enqueueProposal cfg db p now = .ok db') : FileMoves T (file db) (file db') := by
  unfold enqueueProposal at h
  split at h
  · simp only [Fallible.throw_bind,Fallible.require_ok,Fallible.refuse_ok] at h
    obtain ⟨_,_,_,_,_,h⟩ := h
    obtain ⟨_,_,h⟩ := Fallible.bind_ok.mp h
    split at h
    · rename_i negotiations inserted
      cases h
      exact .single (moves_open inserted rfl rfl rfl NegotiationStatus.noConfusion rfl)
    · cases h
  · cases h

theorem moves_processExpired (now : Instant) : FileMoves T (file db) (file (processExpired db now)) :=
  .single (.swept (timedOut now) (timedOut_idpk now) (fun n => (timedOut_keeps now n).1)
    fun n => (timedOut_keeps now n).2)

/-- The row is renewed and then moved to another status. -/
theorem moved_renewed {f : File} {n later : Negotiation} {status : NegotiationStatus}
    (hn : f.negotiations.get? n.idpk = some n) (renewed : Keeps n later) (same : later.status = n.status)
    (ne : status ≠ .rejected) (now : Instant) :
    FileMove T f { f with negotiations := f.negotiations.set (moveTo later status now) } := by
  refine .moved n _ hn (renewed.trans (moveTo_keeps later status now)) ?_
  have moved := moveTo_open later ne now
  unfold Open at moved ⊢
  rw [same] at moved
  exact moved

/-- A retry writes its own row only. -/
theorem retryOne_spec (T : Terms) (cfg : Config) (now : Instant) (db : Db) {n : Negotiation}
    (hn : db.diplomacy.negotiations.get? n.idpk = some n) :
    FileMoves T (file db) (file (retryOne cfg now db n)) ∧ ∀ k, k ≠ n.idpk →
      (retryOne cfg now db n).diplomacy.negotiations.get? k = db.diplomacy.negotiations.get? k := by
  unfold retryOne
  split
  · exact ⟨.refl,fun _ _ => rfl⟩
  · rename_i cycle _
    dsimp only
    refine ⟨.single (moved_renewed (n := n) hn ?_ ?_ NegotiationStatus.noConfusion now),
      fun k ne => Table.get?_set_ne _ ?_⟩
    · exact ⟨⟨rfl,rfl,rfl,rfl⟩,rfl,rfl,rfl⟩
    · rfl
    · rw [moveTo_idpk]
      exact ne.symm

theorem moves_retryTimedOut (now : Instant) : FileMoves T (file db) (file (retryTimedOut cfg db now)) := by
  have fold (l : List Negotiation) (db : Db) (unique : (l.map Negotiation.idpk).Nodup)
      (stored : ∀ n ∈ l, db.diplomacy.negotiations.get? n.idpk = some n) :
      FileMoves T (file db) (file (l.foldl (retryOne cfg now) db)) := by
    induction l generalizing db with
    | nil => exact .refl
    | cons n l ih =>
      rw [List.map_cons,List.nodup_cons] at unique
      obtain ⟨moved,others⟩ := retryOne_spec T cfg now db (stored n (List.mem_cons_self ..))
      refine moved.trans (ih _ unique.2 fun m hm => ?_)
      rw [others m.idpk fun same => unique.1 (same ▸ List.mem_map_of_mem hm)]
      exact stored m (List.mem_cons_of_mem _ hm)
  refine fold _ db (db.diplomacy.negotiations.nodup.sublist ((List.filter_sublist).map _)) fun n hn => ?_
  exact Table.get?_of_mem (List.mem_of_mem_filter hn)

theorem moves_expireProposal (closed : List String) (now : Instant) (row : OutboundMessage) :
    FileMoves T (file db) (file (expireProposal closed now db row)) := by
  unfold expireProposal
  refine iteInduction (motive := fun db' => FileMoves T (file db) (file db')) (fun _ => ?_) fun _ => .refl
  dsimp only
  split
  · exact .refl
  · rename_i n found
    obtain ⟨found,_⟩ := Option.filter_eq_some_iff.mp found
    rw [← Table.key_of_get? found] at found
    refine .single (moved_renewed (n := n) found ?_ ?_ NegotiationStatus.noConfusion now)
    · exact ⟨⟨rfl,rfl,rfl,rfl⟩,rfl,rfl,rfl⟩
    · rfl

theorem moves_expireProposals (closed : List String) (now : Instant) :
    FileMoves T (file db) (file (expireProposals closed db now)) := by
  unfold expireProposals
  generalize db.outbox.rows.filter isProposal = l
  induction l generalizing db with
  | nil => exact .refl
  | cons row l ih => exact (moves_expireProposal closed now row).trans ih

theorem moves_published {msgId : String} {now : Instant} (h : published db msgId now = .ok db') :
    FileMoves T (file db) (file db') := by
  unfold published at h
  split at h
  · cases h
    exact .refl
  · dsimp only at h
    split at h
    · split at h
      · cases h
        exact .refl
      · rename_i n found
        obtain ⟨found,_⟩ := Option.filter_eq_some_iff.mp found
        obtain ⟨m,hm,rfl⟩ := Fallible.map_ok.mp h
        exact .single (.moved n m (get?_withLatest found) (transition_keeps hm)
          (transition_open hm NegotiationStatus.noConfusion))
    · split at h
      · cases h
        exact .refl
      · rename_i n found
        obtain ⟨m,hm,rfl⟩ := Fallible.map_ok.mp h
        have stored : db.diplomacy.negotiations.get? n.idpk = some n :=
          Table.get?_of_mem (List.mem_of_find?_eq_some found)
        exact .single (.moved n m stored (transition_keeps hm)
          (transition_open hm NegotiationStatus.noConfusion))
    · cases h
      exact .refl

theorem file_scheduled (db : Db) (cycleId state : String) : file (scheduled db cycleId state) = file db := by
  unfold scheduled
  split <;> rfl

end Services

/-! ### Confirmations and payments -/

/-- The energy effect of a sale fits in what the cycle had left. -/
def Admitted (books : Books) (e : LedgerEntry) : Prop :=
  e.operationType = .giveConfirmed → ∀ cycle, books.cycles.get? e.cycleId = some cycle →
    cycle.generationCapacity.isSome → ∃ capacity ∈ cycle.generationCapacity,
      ∃ consumption ∈ cycle.consumption,
        -e.energyDelta ≤ max 0 (capacity - consumption) - soldEnergy books e.cycleId

section Amounts
variable {T : Terms} {cfg : Config} {db db' : Db} {now : Instant}

theorem checkConfirmation_ok {c : Confirmation} {n : Negotiation} (h : checkConfirmation db c = .ok n) :
    0 < c.energy ∧ 0 ≤ c.price ∧ proposalNegotiation db.diplomacy db.outbox c.target = some n ∧
      n.direction = c.word ∧ n.cycleId = c.cycleId := by
  unfold checkConfirmation at h
  simp only [Fallible.throw_bind,Fallible.require_ok] at h
  obtain ⟨positive,nonneg,h⟩ := h
  refine ⟨positive,nonneg,?_⟩
  split at h
  · rename_i found
    simp only [Fallible.require_ok] at h
    obtain ⟨own,direction,h⟩ := h
    split at h
    · split at h
      · obtain ⟨_,_,h⟩ := Fallible.bind_ok.mp h
        simp only [Fallible.require_ok,Fallible.pure_ok] at h
        rw [← h.2.2]
        exact ⟨found,direction,own⟩
      · simp only [Fallible.require_ok,Fallible.pure_ok] at h
        rw [← h.2]
        exact ⟨found,direction,own⟩
    · simp only [Fallible.require_ok,Fallible.pure_ok] at h
      rw [← h.2]
      exact ⟨found,direction,own⟩
  · cases h

theorem mem_effectOf {books : Books} {n : Negotiation} {type : OperationType} {e : LedgerEntry}
    (h : effectOf? books n type = some e) (kind : isDealt type) :
    e ∈ dealt books ∧ e.negotiationId = some n.id ∧ e.operationType = type := by
  have found := List.find?_some h
  obtain ⟨about,same⟩ := of_decide_eq_true found
  refine ⟨List.mem_filter.mpr ⟨List.mem_of_find?_eq_some h,?_⟩,about,same⟩
  rw [same]
  exact kind

theorem remaining_le {books : Books} {cycle : Cycle} {energy remaining : ℚ} (positive : 0 < energy)
    (h : remainingSellableEnergy books cycle = .ok remaining) (fits : energy ≤ remaining) :
    ∃ capacity ∈ cycle.generationCapacity, ∃ consumption ∈ cycle.consumption,
      energy ≤ max 0 (capacity - consumption) - soldEnergy books cycle.cycleId := by
  unfold remainingSellableEnergy at h
  split at h
  · rename_i capacity consumption _ hcapacity hconsumption _
    cases h
    refine ⟨capacity,hcapacity,consumption,hconsumption,?_⟩
    rcases le_max_iff.mp fits with none | some
    · exact absurd positive (not_lt.mpr none)
    · exact some
  · cases h

/-- The energy effect of a confirmation, once. -/
theorem confirmEnergy_ok {c : Confirmation} {n : Negotiation} {books : Books} {applied : Bool}
    (positive : 0 < c.energy) (h : confirmEnergy cfg db.books c n = .ok (books,applied)) :
    (books = db.books ∧ applied = false ∧ ∃ e, effectOf? books n c.operation = some e ∧
      e.energyDelta = c.energyDelta ∧ (n.confirmedPrice.isSome → n.confirmedPrice = some c.price)) ∨
    (effectOf? db.books n c.operation = none ∧ (books = db.books ∧
        (∃ old, existing? books (confirmationEffect c n) = some old) ∨
      ∃ cycle, dealt books = dealt db.books ++ [nextEntry cycle (confirmationEffect c n)] ∧
        Admitted db.books (nextEntry cycle (confirmationEffect c n)))) := by
  unfold confirmEnergy at h
  split at h
  · rename_i e found
    split at h
    · cases h
    · rename_i same
      split at h
      · cases h
      · rename_i price
        cases h
        rw [not_ne_iff] at same
        refine .inl ⟨rfl,rfl,e,found,same,fun some => ?_⟩
        by_contra differs
        exact price ⟨some,differs⟩
  · rename_i fresh
    refine .inr ⟨fresh,?_⟩
    have kind : isDealt c.operation = true := by
      unfold Confirmation.operation
      split <;> rfl
    have posted (admitted : ∀ entry : LedgerEntry, entry.cycleId = c.cycleId →
        entry.operationType = c.operation → entry.energyDelta = c.energyDelta → Admitted db.books entry)
        {entry : LedgerEntry} {now : Bool}
        (ha : applyLedgerEffect cfg db.books (confirmationEffect c n) = .ok (books,entry,now)) :
        books = db.books ∧ (∃ old, existing? books (confirmationEffect c n) = some old) ∨
          ∃ cycle, dealt books = dealt db.books ++ [nextEntry cycle (confirmationEffect c n)] ∧
            Admitted db.books (nextEntry cycle (confirmationEffect c n)) := by
      rcases dealt_apply ha with ⟨_,rfl,old⟩ | ⟨_,cycle,_,grown⟩
      · exact .inl ⟨rfl,entry,old⟩
      · refine .inr ⟨cycle,?_,admitted _ rfl rfl rfl⟩
        rw [grown]
        exact congrArg _ (if_pos kind)
    simp only [Fallible.throw_bind] at h
    split at h
    · rename_i cycle found
      split at h
      · rename_i counted
        obtain ⟨remaining,hr,h⟩ := Fallible.bind_ok.mp h
        rw [Fallible.require_ok] at h
        obtain ⟨fits,h⟩ := h
        obtain ⟨⟨done,_,_⟩,ha,h⟩ := Fallible.bind_ok.mp h
        cases h
        refine posted (fun entry named type delta _ other there _ => ?_) ha
        rw [named,found] at there
        cases there
        have own : cycle.cycleId = entry.cycleId := (Table.key_of_get? found).trans named.symm
        have amount : -entry.energyDelta = c.energy := by
          rw [delta,Confirmation.energyDelta,if_pos counted.1,neg_neg]
        rw [amount,← own]
        exact remaining_le positive hr fits
      · rename_i uncounted
        obtain ⟨⟨done,_,_⟩,ha,h⟩ := Fallible.bind_ok.mp h
        cases h
        refine posted (fun entry named type _ sale other there known => ?_) ha
        rw [named,found] at there
        cases there
        refine absurd ⟨?_,known⟩ uncounted
        rw [type] at sale
        unfold Confirmation.operation at sale
        split at sale
        · assumption
        · cases sale
    · rename_i missing
      obtain ⟨⟨done,_,_⟩,ha,h⟩ := Fallible.bind_ok.mp h
      cases h
      refine posted (fun entry named _ _ _ other there _ => ?_) ha
      rw [named] at there
      exact absurd there (missing other)

theorem file_written {books : Books} {outbox : Outbox} {e : LedgerEntry} (m : Negotiation)
    (grown : dealt books = dealt db.books ++ [e]) :
    file (store { db with books := books, outbox := outbox } m) =
      { file db with negotiations := (file db).negotiations.set m, entries := (file db).entries ++ [e] } := by
  unfold file store
  dsimp only
  rw [grown]

theorem isDealt_operation (c : Confirmation) : isDealt c.operation = true := by
  unfold Confirmation.operation
  split <;> rfl

/-- A confirmation writes its negotiation, with its effect unless that was there. -/
theorem move_confirm {c : Confirmation} {m : Negotiation} {applied : Bool}
    (h : processConfirmation cfg db c now = .ok (db',m,applied))
    (named : (db.processed.get? c.idpk).isSome)
    (fresh : ∀ e ∈ dealt db.books, e.idpk = c.idpk → e.operationType = .paymentSent)
    (admitted : ∀ e, Admitted db.books e → T.admitted e) :
    FileMove T (file db) (file db') ∧ db'.diplomacy.negotiations.get? m.idpk = some m ∧
      m.confirmedEnergy = some c.energy ∧ m.confirmedPrice = some c.price ∧
      (applied = true → ∃ n, proposalNegotiation db.diplomacy db.outbox c.target = some n ∧
        n.direction = c.word ∧ effectOf? db.books n c.operation = none) := by
  unfold processConfirmation at h
  obtain ⟨n,hn,h⟩ := Fallible.bind_ok.mp h
  obtain ⟨⟨books,own⟩,hb,h⟩ := Fallible.bind_ok.mp h
  obtain ⟨done,ht,h⟩ := Fallible.bind_ok.mp h
  obtain ⟨positive,nonneg,found,direction,place⟩ := checkConfirmation_ok hn
  have stored := get?_proposalNegotiation found
  have kept := transition_keeps ht
  obtain ⟨live,lasting⟩ := transition_live ht (.inl rfl)
  rw [Fallible.pure_ok] at h
  generalize hl : (if done.paymentQuantity.isNone then { done with latestMsgId := some c.msgId } else done) =
    last at h
  cases h
  have same : m.idpk = done.idpk ∧ m.id = done.id ∧ m.direction = done.direction ∧
      m.confirmedEnergy = done.confirmedEnergy ∧ m.confirmedPrice = done.confirmedPrice ∧
      m.paymentQuantity = done.paymentQuantity ∧ m.status = done.status ∧
      m.cycleId = done.cycleId := by
    rw [← hl]
    split <;> exact ⟨rfl,rfl,rfl,rfl,rfl,rfl,rfl,rfl⟩
  obtain ⟨key,id,way,energy,price,payment,status,cycle⟩ := same
  have confirmed : Confirmed n m c.give c.energy c.price :=
    { id := id.trans kept.id
      idpk := key.trans kept.idpk
      direction := way.trans kept.direction
      cycleId := cycle.trans kept.cycleId
      word := direction
      confirmedEnergy := energy.trans kept.confirmedEnergy
      confirmedPrice := price.trans kept.confirmedPrice
      paymentQuantity := payment.trans kept.paymentQuantity
      nonneg := ⟨positive.le,nonneg⟩
      open_ := ⟨live,status ▸ lasting⟩ }
  refine ⟨?_,?_,confirmed.confirmedEnergy,confirmed.confirmedPrice,fun now => ?_⟩
  · rcases confirmEnergy_ok positive hb with ⟨rfl,_,e,he,delta,price⟩ | ⟨new,⟨rfl,old,ho⟩ | ⟨cycle,grown,fits⟩⟩
    · obtain ⟨there,about,type⟩ := mem_effectOf he (isDealt_operation c)
      exact .reconfirmed n m e c.give c.energy c.price stored confirmed there about type delta price
    · -- the idpk was free, so no confirmation of it can be on the ledger
      unfold existing? at ho
      have own := List.find?_some ho
      obtain ⟨idpk,type⟩ := of_decide_eq_true own
      have kind : isDealt old.operationType := type ▸ isDealt_operation c
      have sent := fresh old (List.mem_filter.mpr ⟨List.mem_of_find?_eq_some ho,kind⟩) idpk
      rw [sent] at type
      unfold confirmationEffect Confirmation.operation at type
      dsimp only at type
      split at type <;> cases type
    · have moved := FileMove.confirmed (T := T) (f := file db) n m
        (nextEntry cycle (confirmationEffect c n)) c.give c.energy c.price stored confirmed ?_ rfl rfl rfl
        place.symm named (admitted _ fits)
      · rw [file_stop,file_written m grown]
        exact moved
      · intro x hx about type
        have missed := List.find?_eq_none.mp new x (List.mem_of_mem_filter hx)
        exact missed (decide_eq_true ⟨about,type⟩)
  · refine Table.get?_set_self (b := n) ?_
    rw [confirmed.idpk]
    exact stored
  · rcases confirmEnergy_ok positive hb with ⟨_,never,_⟩ | ⟨new,_⟩
    · rw [never] at now
      cases now
    · exact ⟨n,found,direction,new⟩

theorem expectedPayment_ok {n : Negotiation} {quantity : ℚ} (h : expectedPayment n = .ok quantity) :
    ∃ energy price, n.confirmedEnergy = some energy ∧ n.confirmedPrice = some price ∧
      quantity = amountDue energy price := by
  unfold expectedPayment at h
  split at h
  · rename_i energy price he hp
    split at h
    · rename_i rounded
      cases h
      exact ⟨energy,price,he,hp,(quantizedUp_some.mp rounded).2.symm⟩
    · cases h
  · cases h
  · cases h

/-- Our payment of a purchase, once. -/
theorem moves_take {n : Negotiation} {energy price : ℚ} (h : enqueueTakePayment cfg db n now = .ok db')
    (hn : db.diplomacy.negotiations.get? n.idpk = some n) (henergy : n.confirmedEnergy = some energy)
    (hprice : n.confirmedPrice = some price) (priced : T.priced energy price) :
    FileMoves T (file db) (file db') := by
  unfold enqueueTakePayment at h
  simp only [Fallible.throw_bind,Fallible.require_ok] at h
  obtain ⟨direction,status,h⟩ := h
  split at h
  · rw [Fallible.refuse_ok,Fallible.pure_ok] at h
    cases h.2
    exact .refl
  · rename_i unpaid
    obtain ⟨quantity,hq,h⟩ := Fallible.bind_ok.mp h
    obtain ⟨_,_,same,amount,rfl⟩ := expectedPayment_ok hq
    rw [henergy,Option.some.injEq] at same
    rw [hprice,Option.some.injEq] at amount
    subst same amount
    split at h
    · obtain ⟨⟨books,entry,applied⟩,ha,h⟩ := Fallible.bind_ok.mp h
      rw [Fallible.require_ok,Fallible.pure_ok] at h
      obtain ⟨now,rfl⟩ := h
      rcases dealt_apply ha with ⟨never,_⟩ | ⟨_,cycle,_,grown⟩
      · rw [never] at now
        cases now
      · have open_ : n.status ≠ .rejected := by
          rintro closed
          rw [closed] at status
          rcases status with h | h <;> cases h
        refine .single ?_
        rw [file_written _ grown]
        exact .paid n _ _ energy price hn
          { id := rfl
            idpk := rfl
            direction := rfl
            cycleId := rfl
            confirmedEnergy := ⟨rfl,henergy⟩
            confirmedPrice := ⟨rfl,hprice⟩
            unpaid := Option.not_isSome_iff_eq_none.mp unpaid
            paymentQuantity := rfl
            open_ := ⟨open_,open_⟩ } ⟨rfl,.inl ⟨direction,rfl,rfl⟩⟩ priced
    · cases h

theorem checkPayment_ok {p : Payment} {n : Negotiation} (h : checkPayment db p = .ok n) :
    confirmationNegotiation db p.becauseOf = some n ∧ n.direction = "give" ∧ n.status ≠ .rejected ∧
      expectedPayment n = .ok p.quantity := by
  unfold checkPayment at h
  simp only [Fallible.throw_bind,Fallible.require_ok] at h
  obtain ⟨_,h⟩ := h
  split at h
  · rename_i found
    simp only [Fallible.require_ok,Fallible.refuse_ok] at h
    obtain ⟨_,direction,_,known,h⟩ := h
    obtain ⟨quantity,expected,h⟩ := Fallible.bind_ok.mp h
    rw [Fallible.require_ok,Fallible.pure_ok] at h
    obtain ⟨same,rfl⟩ := h
    rw [not_or] at known
    exact ⟨found,direction,known.2,same ▸ expected⟩
  · cases h

/-- The payment of a sale, once. -/
theorem moves_givePayment {p : Payment} {applied : Bool}
    (h : processGivePayment cfg db p now = .ok (db',applied)) (named : (db.processed.get? p.idpk).isSome)
    (priced : ∀ n, confirmationNegotiation db p.becauseOf = some n → ∀ energy price,
      n.confirmedEnergy = some energy → n.confirmedPrice = some price → T.priced energy price) :
    FileMoves T (file db) (file db') := by
  unfold processGivePayment at h
  obtain ⟨n,hn,h⟩ := Fallible.bind_ok.mp h
  obtain ⟨found,direction,open_,expected⟩ := checkPayment_ok hn
  have stored := get?_confirmationNegotiation found
  split at h
  · simp only [Fallible.throw_bind,Fallible.refuse_ok,Fallible.pure_ok] at h
    cases h.2
    exact .refl
  · rename_i unpaid
    obtain ⟨⟨books,entry,fresh⟩,ha,h⟩ := Fallible.bind_ok.mp h
    dsimp only at h
    rcases dealt_apply ha with ⟨rfl,rfl,_⟩ | ⟨rfl,cycle,_,grown⟩
    · cases h
      exact .refl
    · obtain ⟨energy,price,henergy,hprice,amount⟩ := expectedPayment_ok expected
      rw [if_neg (by decide)] at h
      -- a negotiation that had timed out is confirmed again before it is paid
      have settle (mid : Negotiation) (kept : Keeps n mid)
          (h : (do
            let n ← transition { mid with paymentQuantity := some p.quantity } .paid now
            return (stopDispatches (store { db with books := books } n) n, true) : Result (Db × Bool)) =
              .ok (db',applied)) : FileMoves T (file db) (file db') := by
        obtain ⟨last,hl,h⟩ := Fallible.bind_ok.mp h
        cases h
        have paid := transition_keeps hl
        have lasting := (transition_live hl (.inr rfl)).2
        refine .single ?_
        rw [file_stop,file_written last grown]
        exact .paid n last _ energy price stored
          { id := paid.id.trans kept.id
            idpk := paid.idpk.trans kept.idpk
            direction := paid.direction.trans kept.direction
            cycleId := paid.cycleId.trans kept.cycleId
            confirmedEnergy := ⟨paid.confirmedEnergy.trans kept.confirmedEnergy,henergy⟩
            confirmedPrice := ⟨paid.confirmedPrice.trans kept.confirmedPrice,hprice⟩
            unpaid := Option.not_isSome_iff_eq_none.mp unpaid
            paymentQuantity := by rw [paid.paymentQuantity,amount]
            open_ := ⟨open_,lasting⟩ } ⟨rfl,.inr ⟨direction,rfl,amount,named⟩⟩
          (priced n found energy price henergy hprice)
      split at h
      · obtain ⟨mid,hm,h⟩ := Fallible.bind_ok.mp h
        exact settle mid (transition_keeps hm) h
      · exact settle n ⟨⟨rfl,rfl,rfl,rfl⟩,rfl,rfl,rfl⟩ h

end Amounts

end Negotiations

end EnergyNode
