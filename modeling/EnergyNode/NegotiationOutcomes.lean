import EnergyNode.Lib.Run
import EnergyNode.BookRules
import EnergyNode.LedgerConsistency
import EnergyNode.NegotiationSteps

/-! What a refusal may still do. TIMEOUT takes a late refusal of an earlier
attempt, also when the negotiation had been confirmed before it timed out. -/
namespace EnergyNode
open Lib

namespace NegotiationOutcomes
open Ledger Negotiations StoredLedger

/-- The payment the central owes for the negotiation is taken, unless its cents need
more digits than the context has or its effect is not one of these. -/
def Payable (cfg : Config) (db : Db) (n : Negotiation) (effects : Effect → Prop) : Prop :=
  ∃ energy price, n.confirmedEnergy = some energy ∧ n.confirmedPrice = some price ∧
    ∀ quantity ∈ quantizedUp Decimal.precision (keep Decimal.precision (energy * price)),
      ∀ p now, confirmationNegotiation db p.becauseOf = some n → p.cycleId = n.cycleId →
        p.quantity = quantity → effects (paymentEffect p n) →
          ∃ done, processGivePayment cfg db p now = .ok done

/-- The effects the ledger does not refuse. -/
def Accepts (cfg : Config) (books : Books) (effect : Effect) : Prop :=
  ∃ done, applyLedgerEffect cfg books effect = .ok done

structure Neutral (cfg : Config) (db : Db) : Prop where
  rejected : ∀ n ∈ db.diplomacy.negotiations, n.status = .rejected →
    ∀ e ∈ db.books.ledger, e.negotiationId = some n.id → isDealt e.operationType = false
  payable : ∀ n ∈ db.diplomacy.negotiations, (effectOf? db.books n .giveConfirmed).isSome →
    Payable cfg db n (Accepts cfg db.books)

/-- Every sale that moved energy can be paid, whatever else the ledger holds. -/
def Redeemable (cfg : Config) (db : Db) : Prop :=
  ∀ n ∈ db.diplomacy.negotiations, (effectOf? db.books n .giveConfirmed).isSome →
    Payable cfg db n fun _ => True

/-- No refusal and no error of this turn answers a negotiation that is confirmed on the ledger. -/
def Spares (w : World) (turn : Turn) : Prop :=
  ∀ n, Answers w turn n → refusable n.status →
    ∀ e ∈ w.db.books.ledger, e.negotiationId = some n.id → isConfirmation e.operationType = false

/-- A confirmation is entered in the cycle of its negotiation. -/
def Placed (f : File) : Prop :=
  ∀ n ∈ f.negotiations, ∀ e ∈ f.entries, e.negotiationId = some n.id →
    isConfirmation e.operationType → e.cycleId = n.cycleId

/-- A refused negotiation was never confirmed. -/
def Unconfirmed (f : File) : Prop := ∀ n ∈ f.negotiations, n.status = .rejected → n.confirmedEnergy = none

section Moves
variable {T : Terms} {f g : File}

theorem Unconfirmed.write (h : Unconfirmed f) {n m : Negotiation} (same : Same n m)
    (own : m.status = .rejected → m.confirmedEnergy = none) (entries : List LedgerEntry) :
    Unconfirmed { f with negotiations := f.negotiations.set m, entries := entries } := by
  intro x hx closed
  rcases mem_set_cases same hx with rfl | ⟨old,_⟩
  · exact own closed
  · exact h x old closed

theorem unconfirmed_of_open (h : Unconfirmed f) {n m : Negotiation} (hn : n ∈ f.negotiations)
    (kept : Keeps n m) (status : Open n m) (closed : m.status = .rejected) : m.confirmedEnergy = none := by
  rcases status with same | ⟨_,open_⟩
  · rw [kept.confirmedEnergy]
    exact h n hn (same ▸ closed)
  · exact absurd closed open_

theorem Unconfirmed.move (refused : ∀ n, T.refused n → n.confirmedEnergy = none)
    (move : FileMove T f g) (h : Unconfirmed f) : Unconfirmed g := by
  cases move with
  | claimed row free => exact h
  | returned idpk unused => exact h
  | opened n free unconfirmed unpriced unpaid status newest =>
    intro x hx closed
    have split : x ∈ f.negotiations.insert n free := hx
    rcases Table.mem_insert.mp split with old | rfl
    · exact h x old closed
    · exact unconfirmed
  | moved n m hn kept status =>
    exact h.write kept.toSame (unconfirmed_of_open h (Table.mem_of_get? hn) kept status) f.entries
  | swept g hg kept status =>
    intro x hx closed
    have drawn : x ∈ f.negotiations.mapRows g hg := hx
    obtain ⟨n,hn,rfl⟩ := Table.mem_mapRows.mp drawn
    exact unconfirmed_of_open h hn (kept n) (status n) closed
  | refused n m hn kept cause status =>
    refine h.write kept.toSame (fun _ => ?_) f.entries
    rw [kept.confirmedEnergy]
    exact refused n cause
  | confirmed n m e give energy price hn confirmed new about type delta place named cause =>
    exact h.write confirmed.toSame (fun closed => absurd closed confirmed.open_.2) _
  | reconfirmed n m e give energy price hn confirmed he about type delta same =>
    exact h.write confirmed.toSame (fun closed => absurd closed confirmed.open_.2) f.entries
  | paid n m e energy price hn paid pays cause =>
    exact h.write paid.toSame (fun closed => absurd closed paid.open_.2) _

theorem Unconfirmed.moves (refused : ∀ n, T.refused n → n.confirmedEnergy = none)
    (moves : FileMoves T f g) (h : Unconfirmed f) : Unconfirmed g := by
  induction moves with
  | refl => exact h
  | tail _ move ih => exact ih.move refused move

theorem Unconfirmed.stored (h : Unconfirmed f) : Unconfirmed f.stored := by
  intro x hx closed
  obtain ⟨n,hn,rfl⟩ := List.mem_map.mp hx
  show n.confirmedEnergy.map centsHalfUp = none
  rw [h n hn closed]
  rfl

theorem Placed.write (h : Placed f) (filed : Filed f) {n m : Negotiation}
    (hn : f.negotiations.get? n.idpk = some n) (same : Same n m) {added : List LedgerEntry}
    (own : ∀ e ∈ added, isConfirmation e.operationType →
      e.negotiationId = some n.id ∧ e.cycleId = n.cycleId) :
    Placed { f with negotiations := f.negotiations.set m, entries := f.entries ++ added } := by
  have hmem := Table.mem_of_get? hn
  intro x hx e he about kind
  rcases mem_set_cases same hx with rfl | ⟨old,other⟩ <;> rcases List.mem_append.mp he with before | new
  · rw [same.cycleId]
    exact h n hmem e before (same.id ▸ about) kind
  · rw [same.cycleId]
    exact (own e new kind).2
  · exact h x old e before about kind
  · have named := (own e new kind).1
    rw [about,Option.some.injEq] at named
    exact absurd (filed.ids x old n hmem named) other

theorem Placed.keep (h : Placed f) (filed : Filed f) {n m : Negotiation}
    (hn : f.negotiations.get? n.idpk = some n) (same : Same n m) :
    Placed { f with negotiations := f.negotiations.set m } := by
  have none : ∀ e ∈ ([] : List LedgerEntry), isConfirmation e.operationType →
      e.negotiationId = some n.id ∧ e.cycleId = n.cycleId := fun _ he => absurd he List.not_mem_nil
  have written := h.write filed hn same none
  rw [List.append_nil] at written
  exact written

theorem Placed.move (filed : Filed f) (move : FileMove T f g) (h : Placed f) : Placed g := by
  cases move with
  | claimed row free => exact h
  | returned idpk unused => exact h
  | opened n free unconfirmed unpriced unpaid status newest =>
    intro x hx e he about
    have split : x ∈ f.negotiations.insert n free := hx
    rcases Table.mem_insert.mp split with old | rfl
    · exact h x old e he about
    · -- the new negotiation has no effect yet
      obtain ⟨m,hm,named,_⟩ := filed.explained e he
      rw [about,Option.some.injEq] at named
      exact absurd named.symm (newest m hm).ne
  | moved n m hn kept status => exact h.keep filed hn kept.toSame
  | swept g hg kept status =>
    intro x hx e he about kind
    have drawn : x ∈ f.negotiations.mapRows g hg := hx
    obtain ⟨n,hn,rfl⟩ := Table.mem_mapRows.mp drawn
    rw [(kept n).cycleId]
    exact h n hn e he ((kept n).id ▸ about) kind
  | refused n m hn kept cause status => exact h.keep filed hn kept.toSame
  | confirmed n m e give energy price hn confirmed new about type delta place named cause =>
    refine h.write filed hn confirmed.toSame fun x hx _ => ?_
    cases List.mem_singleton.mp hx
    exact ⟨about,place⟩
  | reconfirmed n m e give energy price hn confirmed he about type delta same =>
    exact h.keep filed hn confirmed.toSame
  | paid n m e energy price hn paid pays cause =>
    refine h.write filed hn paid.toSame fun x hx kind => ?_
    cases List.mem_singleton.mp hx
    rcases pays.2 with ⟨_,type,_⟩ | ⟨_,type,_⟩ <;> rw [type] at kind <;> cases kind

theorem Placed.moves (filed : Filed f) (moves : FileMoves T f g) (h : Placed f) : Placed g := by
  induction moves with
  | refl => exact h
  | tail before move ih => exact ih.move (filed.moves before) move

theorem Placed.stored (h : Placed f) : Placed f.stored := by
  intro x hx e he about kind
  obtain ⟨n,hn,rfl⟩ := List.mem_map.mp hx
  obtain ⟨old,ho,rfl⟩ := List.mem_map.mp he
  exact h n hn old ho about kind

/-- An effect of a negotiation says that the negotiation is confirmed. -/
theorem confirmed_of_effect (filed : Filed f) {n : Negotiation} (hn : n ∈ f.negotiations)
    {e : LedgerEntry} (he : e ∈ f.entries) (about : e.negotiationId = some n.id) :
    n.confirmedEnergy.isSome := by
  have explains := filed.owner hn he about
  cases kind : isConfirmation e.operationType with
  | true =>
    obtain ⟨_,_,_,energy,stored,_⟩ := explains.energy kind
    rw [stored]
    rfl
  | false =>
    have dealt : isPayment e.operationType = true := explains.payment_of_unconfirmed kind
    exact (filed.settled n hn (explains.payment dealt)).1

end Moves

/-- The rows and the effects agree, and nothing refused was confirmed. -/
structure Fair (w : World) : Prop where
  filed : Filed (file w.db)
  unconfirmed : Unconfirmed (file w.db)
  placed : Placed (file w.db)

theorem mem_of_answers {w : World} {turn : Turn} {n : Negotiation} (h : Answers w turn n) :
    n ∈ w.db.diplomacy.negotiations := by
  cases turn with
  | message payload now =>
    obtain ⟨_,_,_,found⟩ := h
    exact Table.mem_of_get? (get?_proposalNegotiation found)
  | error e now => exact Table.mem_of_get? (get?_proposalNegotiation h.2.2)
  | _ => exact absurd h not_false

theorem Fair.step (env : Env) {w : World} {turn : Turn} (fair : Fair w) (spares : Spares w turn) :
    Fair (Negotiations.step env w turn) := by
  have refused (n : Negotiation) (answered : (terms w turn).refused n) : n.confirmedEnergy = none := by
    obtain ⟨answers,able⟩ := answered
    by_contra confirmed
    obtain ⟨_,e,he,about,kind⟩ :=
      fair.filed.confirmed n (mem_of_answers answers) (Option.isSome_iff_ne_none.mpr confirmed)
    rw [spares n answers able e (List.mem_of_mem_filter he) about] at kind
    cases kind
  rcases step_moves env fair.filed turn with same | ⟨db,moved,after⟩
  · rw [same]
    exact fair
  · refine ⟨step_filed env fair.filed turn,?_,?_⟩ <;> rw [after,file_commit]
    · exact (fair.unconfirmed.moves refused moved).stored
    · exact (fair.placed.moves fair.filed moved).stored

/-! ### The books in order -/

theorem ordered_scheduled {db : Db} (cycleId state : String) (h : Ordered db.books) :
    Ordered (scheduled db cycleId state).books := by
  unfold scheduled
  split
  · exact h
  · rename_i cycle found
    refine h.rewrite (c := cycle) ?_ rfl rfl
    rw [← Table.key_of_get? found] at found
    exact found

theorem World.done_ordered {w : World} {result : Result Db} (h : Ordered w.db.books)
    (own : ∀ db, result = .ok db → Ordered db.books) : Ordered (w.done result).db.books := by
  unfold World.done
  split
  · rename_i db
    exact (own db rfl).stored.toOrdered
  · exact h

/-- Every turn leaves the books in order. -/
theorem ordered_step (env : Env) {w : World} (turn : Turn) (h : Ordered w.db.books) :
    Ordered (Negotiations.step env w turn).db.books := by
  have kept {db : Db} (same : db.books = w.db.books) : Ordered db.books := same ▸ h
  cases turn with
  | message payload now =>
    unfold Negotiations.step
    dsimp only
    split
    · refine World.done_ordered h fun db done => ?_
      cases done
      refine received_ordered.ingest env.cfg env.jwt w.db payload now
        (fun claimed opened claim _ done ordered => ?_) h
      refine ordered_statement done ?_
      rw [Received.claim?_books claim]
      exact ordered
    · exact h
  | error e now =>
    unfold Negotiations.step
    dsimp only
    split
    · exact h
    · split
      · rename_i db done
        exact (kept (refuseProposal_books done)).stored.toOrdered
      · exact h
  | propose p now =>
    unfold Negotiations.step
    dsimp only
    split
    · exact h
    · exact World.done_ordered h fun db done => kept (enqueueProposal_books done)
  | published msgId now => exact World.done_ordered h fun db done => kept (published_books done)
  | publishFailed msgId error =>
    refine World.done_ordered h fun db done => ?_
    cases done
    exact h
  | expire now =>
    refine World.done_ordered h fun db done => ?_
    cases done
    exact h
  | retry now =>
    refine World.done_ordered h fun db done => ?_
    cases done
    exact kept retryTimedOut_books
  | list closed now =>
    refine World.done_ordered h fun db done => ?_
    cases done
    exact kept (expireProposals_books closed)
  | schedule cycleId state =>
    refine World.done_ordered h fun db done => ?_
    cases done
    exact ordered_scheduled cycleId state h

section Paying
variable {cfg : Config} {db : Db} {n : Negotiation}

theorem transition_paid {now : Instant} (status : n.status = .confirmed ∨ n.status = .paid) :
    ∃ m, transition n .paid now = .ok m := by
  unfold transition
  rcases status with h | h <;> rw [h]
  · exact ⟨_,rfl⟩
  · exact ⟨_,rfl⟩

/-- Every open negotiation can be confirmed again. -/
theorem transition_confirmed (now : Instant) (open_ : n.status ≠ .rejected)
    (unconfirmed : n.status ≠ .confirmed ∧ n.status ≠ .paid) :
    ∃ m, transition n .confirmed now = .ok m ∧ m.status = .confirmed := by
  unfold transition
  cases h : n.status with
  | confirmed => exact absurd h unconfirmed.1
  | paid => exact absurd h unconfirmed.2
  | rejected => exact absurd h open_
  | _ => exact ⟨_,rfl,rfl⟩

/-- The payment of a sale is one that was received. -/
theorem received_of_give {e : LedgerEntry} (h : Explains n e) (direction : n.direction = "give")
    (kind : isPayment e.operationType) : e.operationType = .paymentReceived := by
  unfold Explains at h
  split at h <;> rename_i type
  · rw [type] at kind
    cases kind
  · rw [type] at kind
    cases kind
  · exact type
  · rw [direction] at h
    exact absurd h.1 (by decide)
  · cases h

theorem checkPayment_of {p : Payment} {quantity : ℚ} (nonneg : 0 ≤ quantity)
    (expected : expectedPayment n = .ok quantity) (found : confirmationNegotiation db p.becauseOf = some n)
    (cycle : p.cycleId = n.cycleId) (amount : p.quantity = quantity) (direction : n.direction = "give")
    (sold : (effectOf? db.books n .giveConfirmed).isSome) (energy : n.confirmedEnergy.isSome)
    (open_ : n.status ≠ .rejected) : checkPayment db p = .ok n := by
  have moved : (effectOf? db.books n .giveConfirmed).isNone = false := by
    rw [Option.isNone_eq_false_iff]
    exact sold
  have confirmed : n.confirmedEnergy.isNone = false := by
    rw [Option.isNone_eq_false_iff]
    exact energy
  unfold checkPayment
  rw [if_pos (amount ▸ nonneg),found]
  dsimp only
  rw [if_pos cycle.symm,if_pos direction,if_neg (by rw [moved]; simp),
    if_neg (by rw [confirmed]; simp [open_]),expected]
  show (if p.quantity = quantity then _ else _) = _
  rw [if_pos amount]
  rfl

/-- A payment that passes its checks is taken when the ledger accepts it; one that
was taken before has to be there. -/
theorem processGivePayment_ok {p : Payment} (check : checkPayment db p = .ok n) (now : Instant)
    (open_ : n.status ≠ .rejected) (accepted : Accepts cfg db.books (paymentEffect p n))
    (received : n.paymentQuantity.isSome → (effectOf? db.books n .paymentReceived).isSome) :
    ∃ done, processGivePayment cfg db p now = .ok done := by
  obtain ⟨⟨books,entry,applied⟩,effect⟩ := accepted
  unfold processGivePayment
  rw [check,Fallible.ok_bind]
  by_cases paid : n.paymentQuantity.isSome
  · have there : (effectOf? db.books n .paymentReceived).isNone = false := by
      rw [Option.isNone_eq_false_iff]
      exact received paid
    rw [if_pos paid]
    dsimp only
    rw [if_neg (by rw [there]; exact Bool.false_ne_true)]
    exact ⟨_,rfl⟩
  · rw [if_neg paid,effect,Fallible.ok_bind]
    dsimp only
    cases applied with
    | false => exact ⟨_,rfl⟩
    | true =>
      rw [if_neg (by decide)]
      split
      · rename_i earlier
        obtain ⟨m,hm,confirmed⟩ := transition_confirmed now open_ earlier
        rw [hm,Fallible.ok_bind]
        obtain ⟨last,hl⟩ := @transition_paid { m with paymentQuantity := some p.quantity } now (.inl confirmed)
        rw [hl]
        exact ⟨_,rfl⟩
      · rename_i confirmed
        rw [not_and_or,not_ne_iff,not_ne_iff] at confirmed
        obtain ⟨last,hl⟩ := @transition_paid { n with paymentQuantity := some p.quantity } now confirmed
        rw [pure_bind,hl]
        exact ⟨_,rfl⟩

/-- A sale that was confirmed and is not refused may be paid for. -/
theorem payable (cfg : Config) (filed : Filed (file db)) (unconfirmed : Unconfirmed (file db))
    (hn : n ∈ db.diplomacy.negotiations) (sold : (effectOf? db.books n .giveConfirmed).isSome) :
    Payable cfg db n (Accepts cfg db.books) := by
  obtain ⟨e,he⟩ := Option.isSome_iff_exists.mp sold
  obtain ⟨there,about,type⟩ := mem_effectOf he rfl
  have explains := filed.owner hn there about
  unfold Explains at explains
  rw [type] at explains
  obtain ⟨direction,henergy⟩ := explains
  have energy : n.confirmedEnergy.isSome := by
    rw [henergy]
    rfl
  obtain ⟨price,hprice⟩ := Option.isSome_iff_exists.mp (filed.confirmed n hn energy).1
  have open_ : n.status ≠ .rejected := by
    intro closed
    rw [unconfirmed n hn closed] at energy
    cases energy
  have due : 0 ≤ -e.energyDelta * price :=
    mul_nonneg ((filed.signed n hn).1 _ henergy) ((filed.signed n hn).2 _ hprice)
  refine ⟨_,price,henergy,hprice,fun quantity fits p now found cycle amount accepted => ?_⟩
  have expected : expectedPayment n = .ok quantity := by
    unfold expectedPayment
    rw [henergy,hprice]
    dsimp only
    rw [fits]
  have nonneg : 0 ≤ quantity := by
    rw [← (quantizedUp_some.mp fits).2]
    exact centsHalfUp_nonneg (keep_nonneg due)
  have check := checkPayment_of nonneg expected found cycle amount direction sold energy open_
  refine processGivePayment_ok check now open_ accepted fun paid => ?_
  -- what was paid before is on the ledger
  obtain ⟨_,x,hx,own,kind⟩ := filed.settled n hn paid
  refine List.find?_isSome.mpr ⟨x,List.mem_of_mem_filter hx,decide_eq_true ⟨own,?_⟩⟩
  exact received_of_give (filed.owner hn hx own) direction kind

/-- Books in order accept the payment of what they hold a confirmation of. -/
theorem accepts_payment (cfg : Config) (ordered : Ordered db.books) (placed : Placed (file db))
    (hn : n ∈ db.diplomacy.negotiations) (sold : (effectOf? db.books n .giveConfirmed).isSome)
    {p : Payment} (own : p.cycleId = n.cycleId) : Accepts cfg db.books (paymentEffect p n) := by
  obtain ⟨e,he⟩ := Option.isSome_iff_exists.mp sold
  obtain ⟨there,about,type⟩ := mem_effectOf he rfl
  have place : e.cycleId = n.cycleId := placed n hn e there about (by rw [type]; rfl)
  obtain ⟨c,found,_⟩ := ordered.numbered e (List.mem_of_mem_filter there)
  have known : db.books.cycles.get? (paymentEffect p n).cycleId = some c := by
    rw [show (paymentEffect p n).cycleId = e.cycleId from own.trans place.symm]
    exact found
  exact LedgerConsistency.effect_taken cfg ordered known

end Paying

theorem Unnegotiated.fair {w : World} (h : Unnegotiated w.db) : Fair w := by
  have nobody (n : Negotiation) : n ∉ w.db.diplomacy.negotiations.rows := by
    rw [h.negotiations]
    exact List.not_mem_nil
  exact ⟨h.filed,fun n hn => absurd hn (nobody n),fun n hn => absurd hn (nobody n)⟩

theorem Fair.neutral (cfg : Config) {w : World} (fair : Fair w) : Neutral cfg w.db where
  rejected n hn closed e he about := by
    by_contra dealt
    rw [Bool.not_eq_false] at dealt
    have there : e ∈ (file w.db).entries := List.mem_filter.mpr ⟨he,dealt⟩
    have confirmed := confirmed_of_effect fair.filed hn there about
    rw [fair.unconfirmed n hn closed] at confirmed
    cases confirmed
  payable _ hn sold := payable cfg fair.filed fair.unconfirmed hn sold

theorem Fair.redeemable (cfg : Config) {w : World} (fair : Fair w) (ordered : Ordered w.db.books) :
    Redeemable cfg w.db := by
  intro n hn sold
  obtain ⟨energy,price,henergy,hprice,taken⟩ := (fair.neutral cfg).payable n hn sold
  refine ⟨energy,price,henergy,hprice,fun quantity fits p now found own amount _ => ?_⟩
  exact taken quantity fits p now found own amount (accepts_payment cfg ordered fair.placed hn sold own)

/-- In every run whose refusals and errors spare the confirmed negotiations, a
refused negotiation has no effect and a sale that moved energy can be paid; when
the books were in order, the ledger never refuses the payment. -/
theorem rejection_neutral (env : Env) (w : World) (start : Unnegotiated w.db) (turns : List Turn)
    (spared : Along (step env) Spares w turns) :
    Always (step env) (fun w => Neutral env.cfg w.db) w turns ∧
      (Ordered w.db.books → Always (step env) (fun w => Redeemable env.cfg w.db) w turns) := by
  have always : Always (step env) Fair w turns :=
    always_of_step (fun _ _ fair spares => Fair.step env fair spares) (Unnegotiated.fair start) spared
  refine ⟨always.mono fun _ fair => fair.neutral env.cfg,fun ordered => ?_⟩
  have inOrder : Always (step env) (fun w => Ordered w.db.books) w turns :=
    always_of_step (P := fun _ _ => True) (fun w turn h _ => ordered_step env (w := w) turn h) ordered
      (along_true w turns)
  exact (always.and inOrder).mono fun _ both => both.1.redeemable env.cfg both.2

/-- The central buys the first offer at 21, then lets it time out. -/
def sold : List Turn :=
  offers "give" "q1" first ++
    [answer .give "q2" "q3" first [("energy",.int 5),("pricePerEnergy",.int 21)] (seconds 2),
      .expire (seconds 40)]

/-- A late refusal of the attempt that had been confirmed. -/
def late : Turn := answer .nack "q4" "q5" first [] (seconds 41)

/-- What the central owes for it. -/
def owed : Payment := ⟨"C1","q6","q7","q3",105⟩

/-- A second offer is refused, and the first one paid for. -/
def paidFor : List Turn :=
  [answer .give "q2" "q3" first [("energy",.int 5),("pricePerEnergy",.int 21)] (seconds 2),
    answer .nack "q8" "q9" second [] (seconds 3),
    .message (Node.envelope .transfer "q6" "q7" none
      [("becauseOf",.str "q3"),("quantity",.int 105)]) (seconds 4)]

theorem refused_after_sale :
    let w := Lib.run (step central) negotiating (sold ++ [late])
    Unnegotiated negotiating.db ∧
      ¬ Always (step central) (fun w => Neutral central.cfg w.db) negotiating (sold ++ [late]) ∧
      (processGivePayment central.cfg w.db owed (seconds 42)).toBool = false := by
  refine ⟨negotiating_unnegotiated,fun always => ?_,by decide +kernel⟩
  have effect : ∃ n ∈ (Lib.run (step central) negotiating (sold ++ [late])).db.diplomacy.negotiations.rows,
      n.status = .rejected ∧
        ∃ e ∈ (Lib.run (step central) negotiating (sold ++ [late])).db.books.ledger,
          e.negotiationId = some n.id ∧ isDealt e.operationType = true := by decide +kernel
  obtain ⟨n,hn,closed,e,he,about,dealt⟩ := effect
  have none := always.final.rejected n hn closed e he about
  rw [dealt] at none
  cases none

def refuses : Turn → Bool
  | .message payload _ => payload.type = .nack
  | .error _ _ => true
  | _ => false

theorem spares_of_not_refuses (w : World) {turn : Turn} (h : refuses turn = false) : Spares w turn := by
  intro n answers
  cases turn with
  | message payload now => exact absurd answers.1 (of_decide_eq_false h)
  | error e now => cases h
  | _ => exact absurd answers not_false

theorem spares_nack {w : World} {idpk msgId target : String} {now : Instant} {named : idpk ≠ ""}
    (unconfirmed : (proposalNegotiation w.db.diplomacy w.db.outbox target).all fun n =>
      w.db.books.ledger.all fun e => e.negotiationId ≠ some n.id || !isConfirmation e.operationType) :
    Spares w (answer .nack idpk msgId target [] now named) := by
  rintro n ⟨_,said,hs,found⟩ _ e he about
  have own : target = said := Except.ok.inj hs
  rw [own,found,Option.all_some,List.all_eq_true] at unconfirmed
  have free := unconfirmed e he
  rw [about] at free
  simpa using free

theorem rejection_neutral_shown :
    let turns := offers "give" "q1" first ++ offers "give" "q10" second ++ paidFor
    let w := Lib.run (step central) negotiating turns
    w.db.diplomacy.negotiations.rows.map Negotiation.status = [.paid,.rejected] ∧
      Always (step central) (fun w => Neutral central.cfg w.db ∧ Redeemable central.cfg w.db)
        negotiating turns := by
  refine ⟨by decide +kernel,?_⟩
  have offered : Along (step central) Spares negotiating
      (offers "give" "q1" first ++ offers "give" "q10" second) :=
    ⟨spares_of_not_refuses _ rfl,spares_of_not_refuses _ rfl,spares_of_not_refuses _ rfl,
      spares_of_not_refuses _ rfl,trivial⟩
  have spared : Along (step central) Spares negotiating
      (offers "give" "q1" first ++ offers "give" "q10" second ++ paidFor) :=
    along_append.mpr ⟨offered,spares_of_not_refuses _ rfl,spares_nack (by decide +kernel),
      spares_of_not_refuses _ rfl,trivial⟩
  have start : Ordered negotiating.db.books :=
    ⟨fun _ he => absurd he List.not_mem_nil,by unfold Chronological; decide +kernel⟩
  obtain ⟨neutral,redeemable⟩ :=
    rejection_neutral central negotiating negotiating_unnegotiated _ spared
  exact neutral.and (redeemable start)

end NegotiationOutcomes

end EnergyNode
