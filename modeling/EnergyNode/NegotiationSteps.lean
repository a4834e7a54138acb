import EnergyNode.NegotiationMoves

/-! A message, and a turn of the node, as moves of the file of the negotiations. -/
namespace EnergyNode
open Lib

namespace Negotiations
open Ledger

/-! ### Messages -/

section Messages
variable {T : Terms} {cfg : Config} {jwt : Jwt} {db db' : Db} {now : Instant} {payload : Payload}
  {verdict : Ingest.Verdict}

theorem moves_statement (h : Ingest.statusStatement cfg db payload now = .ok (db',verdict)) :
    FileMoves T (file db) (file db') ∧ verdict.unclaim = false := by
  unfold Ingest.statusStatement at h
  obtain ⟨done,ha,h⟩ := Fallible.bind_ok.mp h
  cases done with
  | none =>
    cases h
    exact ⟨.refl,rfl⟩
  | some opened =>
    cases h
    refine ⟨?_,rfl⟩
    unfold Opening.applyStatement at ha
    split at ha
    · rename_i cycleId _
      dsimp only at ha
      split at ha
      · split at ha
        · cases ha
        · obtain ⟨_,_,ha⟩ := Fallible.bind_ok.mp ha
          obtain ⟨⟨strategies,bound⟩,_,ha⟩ := Fallible.bind_ok.mp ha
          obtain ⟨books,hb,ha⟩ := Fallible.bind_ok.mp ha
          cases ha
          have same : dealt books = dealt db.books :=
            (dealt_synchronize hb).trans (dealt_getOrCreateCycle db.books cycleId)
          unfold file
          dsimp only
          rw [same]
      · cases ha
    · cases ha

theorem moves_funding {cycleId : String} {quantity : Decimal}
    (h : Ingest.funding cfg db payload cycleId quantity = .ok (db',verdict)) : file db' = file db := by
  unfold Ingest.funding at h
  dsimp only at h
  split at h
  · obtain ⟨⟨books,entry,applied⟩,ha,h⟩ := Fallible.bind_ok.mp h
    cases h
    unfold file
    dsimp only
    rcases dealt_apply ha with ⟨_,rfl,_⟩ | ⟨_,cycle,_,grown⟩
    · rw [dealt_getOrCreateCycle]
    · have other : ¬ isDealt OperationType.transferIn := Bool.false_ne_true
      have same : dealt books = dealt db.books :=
        (grown.trans ((congrArg _ (if_neg other)).trans (List.append_nil _))).trans
          (dealt_getOrCreateCycle db.books cycleId)
      rw [same]
  · cases h
    unfold file
    dsimp only
    rw [dealt_getOrCreateCycle]

/-- The message pays for a sale that is stored with these amounts. -/
def Sells (db : Db) (payload : Payload) (energy price : ℚ) : Prop :=
  payload.type = .transfer ∧ ∃ because n,
    BidReplies.spelled (payload.data.get "becauseOf") = some because ∧
      confirmationNegotiation db because = some n ∧ n.confirmedEnergy = some energy ∧
        n.confirmedPrice = some price

theorem moves_transfer (type : payload.type = .transfer) (h : Ingest.transfer cfg db payload now = .ok (db',verdict))
    (named : (db.processed.get? payload.idpk).isSome)
    (priced : ∀ energy price, Sells db payload energy price → T.priced energy price) :
    FileMoves T (file db) (file db') ∧ (verdict.unclaim → file db' = file db) := by
  unfold Ingest.transfer at h
  obtain ⟨cycleId,_,h⟩ := Fallible.bind_ok.mp h
  obtain ⟨quantity,_,h⟩ := Fallible.bind_ok.mp h
  split at h
  · rw [moves_funding h]
    exact ⟨.refl,fun _ => rfl⟩
  · cases h
  · split at h
    · rename_i because spelled
      obtain ⟨⟨done,fresh⟩,hp,h⟩ := Fallible.bind_ok.mp h
      cases h
      refine ⟨moves_givePayment hp named fun n found energy price he hp => ?_,
        fun returned => absurd returned Bool.false_ne_true⟩
      exact priced energy price ⟨type,because,n,spelled,found,he,hp⟩
    · cases h

theorem moves_negotiationProposal (h : Ingest.negotiationProposal db payload now = .ok (db',verdict)) :
    FileMoves T (file db) (file db') ∧ verdict.unclaim = false := by
  unfold Ingest.negotiationProposal at h
  obtain ⟨cycleId,_,h⟩ := Fallible.bind_ok.mp h
  have same : file { db with books := Opening.getOrCreateCycle db.books cycleId } = file db := by
    unfold file
    dsimp only
    rw [dealt_getOrCreateCycle]
  dsimp only at h
  split at h
  · cases h
    rw [same]
    exact ⟨.refl,rfl⟩
  · obtain ⟨direction,_,h⟩ := Fallible.bind_ok.mp h
    split at h
    · obtain ⟨quantity,_,h⟩ := Fallible.bind_ok.mp h
      obtain ⟨price,_,h⟩ := Fallible.bind_ok.mp h
      cases h
      rw [← same]
      exact ⟨moves_propose,rfl⟩
    · cases h

/-- The message is the first confirmation of a purchase, with these amounts. -/
def Buys (db : Db) (payload : Payload) (energy price : ℚ) : Prop :=
  payload.type = .take ∧ Ingest.finite payload.data "energy" = .ok energy ∧
    Ingest.finite payload.data "pricePerEnergy" = .ok price ∧
    ∃ target n, Ingest.target payload = .ok target ∧
      proposalNegotiation db.diplomacy db.outbox target = some n ∧ n.direction = "take" ∧
      effectOf? db.books n .takeConfirmed = none

theorem moves_confirmation (h : Ingest.confirmation cfg db payload now = .ok (db',verdict))
    (named : (db.processed.get? payload.idpk).isSome)
    (fresh : ∀ e ∈ dealt db.books, e.idpk = payload.idpk → e.operationType = .paymentSent)
    (admitted : ∀ e, Admitted db.books e → T.admitted e)
    (priced : ∀ energy price, Buys db payload energy price → T.priced energy price) :
    FileMoves T (file db) (file db') ∧ verdict.unclaim = false := by
  unfold Ingest.confirmation at h
  obtain ⟨cycleId,_,h⟩ := Fallible.bind_ok.mp h
  obtain ⟨energy,he,h⟩ := Fallible.bind_ok.mp h
  obtain ⟨price,hp,h⟩ := Fallible.bind_ok.mp h
  obtain ⟨target,ht,h⟩ := Fallible.bind_ok.mp h
  obtain ⟨⟨mid,n,applied⟩,hc,h⟩ := Fallible.bind_ok.mp h
  obtain ⟨moved,stored,henergy,hprice,first⟩ := move_confirm (T := T) hc named fresh admitted
  dsimp only at h
  split at h
  · rename_i purchase
    obtain ⟨done,hd,h⟩ := Fallible.bind_ok.mp h
    cases h
    rw [Bool.and_eq_true,decide_eq_true_eq] at purchase
    have buys : Buys db payload energy price := by
      obtain ⟨m,found,direction,new⟩ := first purchase.1
      have take : ¬ payload.type = .give := by
        rw [purchase.2]
        exact MessageType.noConfusion
      refine ⟨purchase.2,he,hp,target,m,ht,found,?_,?_⟩
      · rw [direction]
        exact if_neg (by rw [decide_eq_true_eq]; exact take)
      · rw [← new]
        exact congrArg _ (if_neg (by rw [decide_eq_true_eq]; exact take)).symm
    exact ⟨(Relation.ReflTransGen.single moved).trans
      (moves_take hd stored henergy hprice (priced energy price buys)),rfl⟩
  · cases h
    exact ⟨.single moved,rfl⟩

theorem moves_acknowledgement (h : Ingest.acknowledgement db payload now = .ok (db',verdict)) :
    FileMoves T (file db) (file db') ∧ verdict.unclaim = false := by
  unfold Ingest.acknowledgement at h
  obtain ⟨target,_,h⟩ := Fallible.bind_ok.mp h
  obtain ⟨done,ha,h⟩ := Fallible.bind_ok.mp h
  cases h
  exact ⟨moves_acknowledge ha,rfl⟩

theorem moves_refusal (h : Ingest.refusal db payload now = .ok (db',verdict))
    (cause : ∀ target n, Ingest.target payload = .ok target →
      proposalNegotiation db.diplomacy db.outbox target = some n → refusable n.status → T.refused n) :
    FileMoves T (file db) (file db') ∧ verdict.unclaim = false := by
  unfold Ingest.refusal at h
  obtain ⟨target,ht,h⟩ := Fallible.bind_ok.mp h
  obtain ⟨done,ha,h⟩ := Fallible.bind_ok.mp h
  cases h
  exact ⟨moves_refuse ha fun n => cause target n ht,rfl⟩

theorem ledger_request (cfg : Config) (db : Db) (payload : Payload) (now : Instant) :
    (Ingest.requestStatement cfg db payload now).books.ledger = db.books.ledger := by
  unfold Ingest.requestStatement
  split
  · rfl
  · split
    · rfl
    · dsimp only
      unfold Opening.getOrCreateCycle
      split <;> rfl

theorem confirmationNegotiation_request (cfg : Config) (db : Db) (payload : Payload) (now : Instant)
    (target : String) :
    confirmationNegotiation (Ingest.requestStatement cfg db payload now) target =
      confirmationNegotiation db target := by
  have kept : (Ingest.requestStatement cfg db payload now).inbox = db.inbox ∧
      (Ingest.requestStatement cfg db payload now).diplomacy = db.diplomacy := by
    unfold Ingest.requestStatement
    split
    · exact ⟨rfl,rfl⟩
    · split <;> exact ⟨rfl,rfl⟩
  have proposals := funext (proposalNegotiation_request cfg db payload now)
  unfold confirmationNegotiation
  rw [ledger_request,kept.1,proposals,kept.2]

theorem admitted_request (cfg : Config) (db : Db) (payload : Payload) (now : Instant) {e : LedgerEntry}
    (h : Admitted (Ingest.requestStatement cfg db payload now).books e) : Admitted db.books e := by
  intro sale cycle found known
  have there : (Ingest.requestStatement cfg db payload now).books.cycles.get? e.cycleId = some cycle := by
    unfold Ingest.requestStatement
    split
    · exact found
    · split
      · exact found
      · dsimp only
        unfold Opening.getOrCreateCycle
        split
        · rename_i cycles inserted
          obtain ⟨free,rfl⟩ := Table.insert?_eq_some.mp inserted
          dsimp only
          rw [Table.get?_insert,if_neg,found]
          intro own
          rw [own,found] at free
          cases free
        · exact found
  have admitted := h sale cycle there known
  unfold soldEnergy at admitted ⊢
  rw [ledger_request] at admitted
  exact admitted

/-- What a message about negotiations may count on. -/
structure Grounds (T : Terms) (db : Db) (payload : Payload) : Prop where
  refused : payload.type = .nack → ∀ target n, Ingest.target payload = .ok target →
    proposalNegotiation db.diplomacy db.outbox target = some n → refusable n.status → T.refused n
  admitted : ∀ e, Admitted db.books e → T.admitted e
  sold : ∀ energy price, Sells db payload energy price → T.priced energy price
  bought : ∀ energy price, Buys db payload energy price → T.priced energy price

theorem moves_dispatch (kind : payload.type ∈ negotiationTypes)
    (h : Ingest.dispatch cfg jwt db payload now = .ok (db',verdict))
    (named : (db.processed.get? payload.idpk).isSome)
    (fresh : ∀ e ∈ dealt db.books, e.idpk = payload.idpk → e.operationType = .paymentSent)
    (grounds : Grounds T db payload) :
    FileMoves T (file db) (file db') ∧ (verdict.unclaim → file db' = file db) := by
  have claimed (moved : FileMoves T (file db) (file db') ∧ verdict.unclaim = false) :
      FileMoves T (file db) (file db') ∧ (verdict.unclaim → file db' = file db) := by
    refine ⟨moved.1,fun returned => ?_⟩
    rw [moved.2] at returned
    cases returned
  unfold Ingest.dispatch at h
  simp only [negotiationTypes,List.mem_cons,List.not_mem_nil,or_false] at kind
  rcases kind with type | type | type | type | type | type | type <;> rw [type] at h
  · exact claimed (moves_statement h)
  · exact moves_transfer type h named grounds.sold
  · exact claimed (moves_negotiationProposal h)
  · exact claimed (moves_acknowledgement h)
  · exact claimed (moves_refusal h (grounds.refused type))
  · exact claimed (moves_confirmation h named fresh grounds.admitted grounds.bought)
  · exact claimed (moves_confirmation h named fresh grounds.admitted grounds.bought)

theorem isIdempotent_of_mem {type : MessageType} (h : type ∈ negotiationTypes) : type.isIdempotent := by
  simp only [negotiationTypes,List.mem_cons,List.not_mem_nil,or_false] at h
  rcases h with rfl | rfl | rfl | rfl | rfl | rfl | rfl <;> rfl

/-- A message moves the file; a fault, or a repetition, leaves it as it was. -/
theorem moves_ingest (filed : Filed (file db)) (kind : payload.type ∈ negotiationTypes)
    (grounds : Grounds T db payload) :
    FileMoves T (file db) (file (Ingest.ingest cfg jwt db payload now).1) := by
  unfold Ingest.ingest
  split
  · rename_i done verdict h
    show FileMoves T (file db) (file done)
    obtain ⟨rfl,-⟩ | ⟨claimed,after,hc,hd,rfl⟩ := Ingest.process_cases h
    · exact .refl
    · unfold Ingest.claim? at hc
      rw [if_pos (isIdempotent_of_mem kind)] at hc
      obtain ⟨processed,hi,rfl⟩ := Option.map_eq_some_iff.mp hc
      obtain ⟨free,rfl⟩ := Table.insert?_eq_some.mp hi
      have fresh : ∀ e ∈ dealt db.books, e.idpk = payload.idpk → e.operationType = .paymentSent := by
        intro e he own
        by_contra other
        have claim := filed.claimed e he other
        rw [own,show (file db).claims.get? payload.idpk = none from free] at claim
        cases claim
      generalize hr : ({ db with processed := _ } : Db) = mid at hd
      have first : FileMove T (file db) (file mid) := by
        rw [← hr]
        exact .claimed (Ingest.claimRow payload) free
      have same := file_request cfg mid payload now
      have entries : dealt (Ingest.requestStatement cfg mid payload now).books = dealt db.books := by
        have := congrArg File.entries same
        rw [← hr] at this ⊢
        exact this
      have names : ((Ingest.requestStatement cfg mid payload now).processed.get? payload.idpk).isSome := by
        have claims : (Ingest.requestStatement cfg mid payload now).processed = mid.processed :=
          congrArg File.claims same
        rw [claims,← hr]
        dsimp only
        have own : (Ingest.claimRow payload).idpk = payload.idpk := rfl
        rw [Table.get?_insert,if_pos own]
        rfl
      obtain ⟨moved,returned⟩ := moves_dispatch (T := T) kind hd names (entries ▸ fresh)
        { refused := fun type target n ht found => grounds.refused type target n ht (by
            rw [proposalNegotiation_request] at found
            rw [← hr] at found
            exact found)
          admitted := fun e admitted => grounds.admitted e (by
            have kept := admitted_request cfg mid payload now admitted
            rw [← hr] at kept
            exact kept)
          sold := fun energy price sells => grounds.sold energy price (by
            obtain ⟨type,because,n,spelled,found,he,hp⟩ := sells
            rw [confirmationNegotiation_request] at found
            rw [← hr] at found
            exact ⟨type,because,n,spelled,found,he,hp⟩)
          bought := fun energy price buys => grounds.bought energy price (by
            obtain ⟨type,he,hp,target,n,ht,found,direction,new⟩ := buys
            rw [proposalNegotiation_request] at found
            unfold effectOf? at new
            rw [ledger_request] at new
            rw [← hr] at found new
            exact ⟨type,he,hp,target,n,ht,found,direction,new⟩) }
      rw [same] at moved
      refine (Relation.ReflTransGen.single first).trans (moved.trans ?_)
      unfold Ingest.returnClaim
      split
      · rename_i unclaim
        refine .single (.returned payload.idpk fun e he own => fresh e ?_ own)
        rw [returned unclaim,same,← hr] at he
        exact he
      · exact .refl
  · exact .refl

end Messages

/-! ### Turns -/

/-- What the columns keep of the file. -/
def File.stored (f : File) : File :=
  ⟨f.negotiations.mapRows storedNegotiation storedNegotiation_idpk,
    f.entries.map StoredLedger.storedEntry,f.claims⟩

theorem file_commit (db : Db) : file (commit db) = (file db).stored := by
  unfold file commit File.stored dealt StoredLedger.store
  dsimp only
  rw [List.filter_map]
  rfl

theorem redrawn_stored : Redrawn storedNegotiation StoredLedger.storedEntry where
  same _ := ⟨rfl,rfl,rfl,rfl⟩
  entry _ := ⟨rfl,rfl,rfl⟩
  explains n e h := by
    unfold Explains at h ⊢
    unfold StoredLedger.storedEntry storedNegotiation
    dsimp only
    split at h
    · exact ⟨h.1,by rw [h.2,Option.map_some,centsHalfUp_neg]⟩
    · exact ⟨h.1,by rw [h.2,Option.map_some]⟩
    · exact ⟨h.1,by rw [h.2,Option.map_some]⟩
    · exact ⟨h.1,by rw [h.2,Option.map_some,centsHalfUp_neg]⟩
    · exact h
  amounts _ := ⟨Option.isSome_map ..,Option.isSome_map ..,Option.isSome_map ..⟩
  signed n h := by
    refine ⟨fun energy he => ?_,fun price hp => ?_⟩
    · obtain ⟨old,ho,rfl⟩ := Option.map_eq_some_iff.mp he
      exact centsHalfUp_nonneg (h.1 old ho)
    · obtain ⟨old,ho,rfl⟩ := Option.map_eq_some_iff.mp hp
      exact centsHalfUp_nonneg (h.2 old ho)

/-- The turn is a refusal, or an error, that answers the negotiation. -/
def Answers (w : World) : Turn → Negotiation → Prop
  | .message payload _, n => payload.type = .nack ∧ ∃ target, Ingest.target payload = .ok target ∧
      proposalNegotiation w.db.diplomacy w.db.outbox target = some n
  | .error e _, n => e.msgId ∉ w.errors ∧ some n.cycleId = e.cycleId ∧
      proposalNegotiation w.db.diplomacy w.db.outbox e.target = some n
  | _, _ => False

/-- The amounts a turn pays for: those a sale is stored with, or those a purchase is
confirmed with. -/
def Prices (w : World) : Turn → ℚ → ℚ → Prop
  | .message payload _, energy, price =>
      Sells w.db payload energy price ∨ Buys w.db payload energy price
  | _, _, _ => False

def terms (w : World) (turn : Turn) : Terms where
  refused n := Answers w turn n ∧ refusable n.status
  admitted := Admitted w.db.books
  priced := Prices w turn

/-- A turn leaves everything as it was, or moves the file and commits. -/
theorem step_moves (env : Env) {w : World} (filed : Filed (file w.db)) (turn : Turn) :
    step env w turn = w ∨ ∃ db, FileMoves (terms w turn) (file w.db) (file db) ∧
      (step env w turn).db = commit db := by
  cases turn with
  | message payload now =>
    unfold step
    dsimp only
    split
    · rename_i kind
      exact .inr ⟨_,moves_ingest filed kind
        { refused := fun type target n ht found able => ⟨⟨type,target,ht,found⟩,able⟩
          admitted := fun _ fits => fits
          sold := fun energy price sells => .inl sells
          bought := fun energy price buys => .inr buys },rfl⟩
    · exact .inl rfl
  | error e now =>
    unfold step
    dsimp only
    split
    · exact .inl rfl
    · rename_i new
      split
      · rename_i db h
        exact .inr ⟨db,moves_refuseProposal h fun n found cycle able => ⟨⟨new,cycle,found⟩,able⟩,rfl⟩
      · exact .inl rfl
  | propose p now =>
    unfold step
    dsimp only
    split
    · exact .inl rfl
    · cases h : enqueueProposal env.cfg w.db p now with
      | ok db => exact .inr ⟨db,moves_enqueueProposal h,rfl⟩
      | error fault => exact .inl rfl
  | published msgId now =>
    unfold step
    dsimp only
    cases h : Negotiations.published w.db msgId now with
    | ok db => exact .inr ⟨db,moves_published h,rfl⟩
    | error fault => exact .inl rfl
  | publishFailed msgId error =>
    exact .inr ⟨{ w.db with outbox := Buying.markFailed w.db.outbox msgId error },.refl,rfl⟩
  | expire now => exact .inr ⟨_,moves_processExpired now,rfl⟩
  | retry now => exact .inr ⟨_,moves_retryTimedOut now,rfl⟩
  | list closed now => exact .inr ⟨_,moves_expireProposals closed now,rfl⟩
  | schedule cycleId state =>
    refine .inr ⟨scheduled w.db cycleId state,?_,rfl⟩
    rw [file_scheduled]

theorem Filed.stored {f : File} (filed : Filed f) : Filed f.stored :=
  filed.redraw storedNegotiation_idpk redrawn_stored

theorem step_filed (env : Env) {w : World} (filed : Filed (file w.db)) (turn : Turn) :
    Filed (file (step env w turn).db) := by
  rcases step_moves env filed turn with same | ⟨db,moved,after⟩
  · rw [same]
    exact filed
  · rw [after,file_commit]
    exact (filed.moves moved).stored

/-! ### What the columns hold -/

/-- The amounts are ones the columns can keep. -/
structure Rounded (db : Db) : Prop where
  amounts : ∀ n ∈ db.diplomacy.negotiations,
    (∀ energy ∈ n.confirmedEnergy, Cents energy) ∧ ∀ price ∈ n.confirmedPrice, Cents price
  cycles : ∀ c ∈ db.books.cycles,
    (∀ capacity ∈ c.generationCapacity, Cents capacity) ∧ ∀ consumption ∈ c.consumption, Cents consumption
  entries : ∀ e ∈ db.books.ledger, StoredLedger.storedEntry e = e

theorem cents_stored {x : Option ℚ} : ∀ q ∈ x.map centsHalfUp, Cents q := by
  intro q hq
  obtain ⟨old,_,rfl⟩ := Option.map_eq_some_iff.mp hq
  exact cents_centsHalfUp old

theorem rounded_commit (db : Db) : Rounded (commit db) where
  amounts n hn := by
    obtain ⟨old,_,rfl⟩ := List.mem_map.mp hn
    exact ⟨cents_stored,cents_stored⟩
  cycles c hc := by
    obtain ⟨old,_,rfl⟩ := List.mem_map.mp hc
    exact ⟨cents_stored,cents_stored⟩
  entries e he := by
    obtain ⟨old,_,rfl⟩ := List.mem_map.mp he
    unfold StoredLedger.storedEntry
    dsimp only
    rw [centsHalfUp_of_cents (cents_centsHalfUp old.budgetDelta),
      centsHalfUp_of_cents (cents_centsHalfUp old.energyDelta),
      centsHalfUp_of_cents (cents_centsHalfUp old.budgetAfter),
      centsHalfUp_of_cents (cents_centsHalfUp old.energyAfter)]

theorem Rounded.energyDelta {db : Db} (h : Rounded db) {e : LedgerEntry} (he : e ∈ db.books.ledger) :
    Cents e.energyDelta := by
  rw [← h.entries e he]
  exact cents_centsHalfUp e.energyDelta

theorem step_rounded (env : Env) {w : World} (filed : Filed (file w.db)) (h : Rounded w.db) (turn : Turn) :
    Rounded (step env w turn).db := by
  rcases step_moves env filed turn with same | ⟨db,_,after⟩
  · rw [same]
    exact h
  · rw [after]
    exact rounded_commit db

/-- A node that has not negotiated yet. -/
structure Unnegotiated (db : Db) : Prop where
  negotiations : db.diplomacy.negotiations.rows = []
  undealt : dealt db.books = []
  rounded : Rounded db

theorem Unnegotiated.filed {db : Db} (h : Unnegotiated db) : Filed (file db) := by
  have nobody (n : Negotiation) : n ∉ (file db).negotiations := by
    show n ∉ db.diplomacy.negotiations.rows
    rw [h.negotiations]
    exact List.not_mem_nil
  have nothing (e : LedgerEntry) : e ∉ (file db).entries := by
    show e ∉ dealt db.books
    rw [h.undealt]
    exact List.not_mem_nil
  have none (id : Nat) (kind : OperationType → Bool) : (effects (file db).entries id kind).length ≤ 1 := by
    rw [show (file db).entries = [] from h.undealt]
    exact Nat.zero_le 1
  exact
    { ids := fun n hn => absurd hn (nobody n)
      explained := fun e he => absurd he (nothing e)
      energyOnce := fun id => none id isConfirmation
      paymentOnce := fun id => none id isPayment
      confirmed := fun n hn => absurd hn (nobody n)
      settled := fun n hn => absurd hn (nobody n)
      claimed := fun e he => absurd he (nothing e)
      signed := fun n hn => absurd hn (nobody n) }

theorem negotiating_unnegotiated : Unnegotiated negotiating.db where
  negotiations := rfl
  undealt := rfl
  rounded :=
    { amounts := fun _ hn => absurd hn List.not_mem_nil
      cycles := by decide +kernel
      entries := fun _ he => absurd he List.not_mem_nil }

end Negotiations

end EnergyNode
