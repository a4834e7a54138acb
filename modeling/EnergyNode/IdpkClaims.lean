import EnergyNode.AuditFrame
import EnergyNode.IngestAtomicity
import EnergyNode.MarketClosing
import EnergyNode.NegotiationMoves
import EnergyNode.Refusals

/-! The claims of the reception: which idpks are taken, which operations were
carried out under them, and the one branch where the two part. -/
namespace EnergyNode
open Lib

namespace Ingest
variable {cfg : Config} {jwt : Jwt} {db : Db} {payload : Payload} {now : Instant}

/-! ### A delivery among earlier ones -/

theorem unaudited_dispatch (cfg : Config) (jwt : Jwt) (now : Instant) (covered : Covered payload) :
    Unaudited fun db => dispatch cfg jwt db payload now := by
  intro db inbox
  rcases covered with own | ⟨type,normal⟩
  · unfold dispatch
    dsimp only
    generalize payload.type = type at own
    cases type with
    | bid => exact unaudited_bid cfg payload now db inbox
    | bidAccepted => exact unaudited_bidReply payload now db inbox
    | bidRejected => exact unaudited_bidReply payload now db inbox
    | swapProposed => exact unaudited_swapEvent cfg jwt payload now .proposed db inbox
    | swapSettled => exact unaudited_swapEvent cfg jwt payload now .settled db inbox
    | swapRejected => exact unaudited_swapEvent cfg jwt payload now .rejected db inbox
    | swapCancelled => exact unaudited_swapEvent cfg jwt payload now .cancelled db inbox
    | swapExpired => exact unaudited_swapEvent cfg jwt payload now .expired db inbox
    | tradeRecorded => exact unaudited_walletFact cfg payload db inbox
    | imbalanceSettlement => exact unaudited_walletFact cfg payload db inbox
    | _ => cases own
  · unfold dispatch
    dsimp only
    rw [type]
    dsimp only
    unfold transfer
    rw [normal]
    cases requireCycleId payload with
    | error e => rfl
    | ok cycleId =>
      cases decimal payload.data "quantity" with
      | error e => rfl
      | ok quantity => exact unaudited_funding cfg payload cycleId quantity db inbox

theorem requestStatement_audited (cfg : Config) (db : Db) (inbox : List InboundMessage)
    (payload : Payload) (now : Instant) : requestStatement cfg (db.audited inbox) payload now =
      (requestStatement cfg db payload now).audited inbox := by
  unfold requestStatement
  split
  · rfl
  split <;> rfl

theorem claim?_audited (db : Db) (inbox : List InboundMessage) (payload : Payload) :
    claim? (db.audited inbox) payload = (claim? db payload).map (Db.audited · inbox) := by
  unfold claim?
  split
  · rw [Db.audited_processed]
    cases db.processed.insert? (claimRow payload) <;> rfl
  · rfl

theorem returnClaim_audited (db : Db) (inbox : List InboundMessage) (payload : Payload)
    (verdict : Verdict) : returnClaim (db.audited inbox) payload verdict =
      (returnClaim db payload verdict).audited inbox := by
  unfold returnClaim
  split <;> rfl

/-- The key is free, so nobody asks the audit who used it. -/
theorem unaudited_process (covered : Covered payload) (free : (claim? db payload).isSome)
    (inbox : List InboundMessage) : process cfg jwt (db.audited inbox) payload now =
      (process cfg jwt db payload now).map (Prod.map (Db.audited · inbox) id) := by
  unfold process
  rw [claim?_audited]
  obtain ⟨claimed,claim⟩ := Option.isSome_iff_exists.mp free
  rw [claim,Option.map_some]
  dsimp only
  rw [requestStatement_audited]
  have served := unaudited_dispatch cfg jwt now covered (requestStatement cfg claimed payload now) inbox
  dsimp only at served
  rw [served]
  cases dispatch cfg jwt (requestStatement cfg claimed payload now) payload now with
  | error e => rfl
  | ok done => exact congrArg (fun db => Except.ok (db,_)) (returnClaim_audited ..)

/-- Nothing the database keeps of earlier deliveries under the idpk. -/
def forgotten (db : Db) (idpk : String) : Db :=
  { db with
    inbox := db.inbox.filter fun row => row.payload.idpk ≠ idpk
    processed := removeClaim db.processed idpk }

/-- The delivery is answered, and served, as if no other had come before it. -/
def AsFirst (env : Env) (db : Db) (payload : Payload) (now : Instant) : Prop :=
  let delivered := ingest env.cfg env.jwt db payload now
  let first := ingest env.cfg env.jwt (forgotten db payload.idpk) payload now
  delivered.2 = first.2 ∧ delivered.1.audited [] = first.1.audited []

theorem claim?_of_free (free : db.processed.get? payload.idpk = none) :
    (claim? db payload).isSome := by
  unfold claim?
  split
  · rw [Option.isSome_map,Table.insert?_eq_some.mpr ⟨free,rfl⟩]
    rfl
  · rfl

theorem asFirst_of_free (env : Env) (now : Instant) (covered : Covered payload)
    (free : db.processed.get? payload.idpk = none) : AsFirst env db payload now := by
  have forgot : forgotten db payload.idpk =
      db.audited (db.inbox.filter fun row => row.payload.idpk ≠ payload.idpk) := by
    unfold forgotten
    rw [removeClaim_free free]
    rfl
  unfold AsFirst ingest
  dsimp only
  rw [forgot,unaudited_process covered (claim?_of_free free)]
  cases process env.cfg env.jwt db payload now with
  | error e => exact ⟨rfl,rfl⟩
  | ok done => exact ⟨rfl,rfl⟩

/-- How the message is served, when its claim is its own. -/
def served? (env : Env) (db : Db) (payload : Payload) (now : Instant) : Option Verdict :=
  match claim? db payload with
  | none => none
  | some claimed =>
      match dispatch env.cfg env.jwt (requestStatement env.cfg claimed payload now) payload now with
      | .ok (_,verdict) => some verdict
      | .error _ => none

end Ingest

/-- `is_idpk_processed`. -/
def Claimed (db : Db) (idpk : String) : Prop := (db.processed.get? idpk).isSome

instance (db : Db) (idpk : String) : Decidable (Claimed db idpk) :=
  inferInstanceAs (Decidable ((db.processed.get? idpk).isSome = true))

namespace IdpkClaims
open Ingest

theorem processed_request (cfg : Config) (db : Db) (payload : Payload) (now : Instant) :
    (requestStatement cfg db payload now).processed = db.processed := by
  unfold requestStatement
  split
  · rfl
  split <;> rfl

theorem processed_dispatch {env : Env} {db db' : Db} {payload : Payload} {now : Instant}
    {verdict : Verdict} (h : dispatch env.cfg env.jwt db payload now = .ok (db',verdict)) :
    db'.processed = db.processed := congrArg Log.processed (service_dispatch h).log

/-- The market feed has identifiers of its own. -/
theorem processed_persist (cfg : Config) (db : Db) (d : Payload) :
    (MarketFeed.persist cfg db d).processed = db.processed := by
  cases he : MarketFeed.event? d with
  | none =>
    unfold MarketFeed.persist
    rw [he]
  | some e =>
    obtain ⟨sender,event⟩ := e
    cases hc : MarketFeed.claimed db sender d with
    | some old =>
      obtain ⟨audit,same⟩ := FeedConfluence.persist_claimed cfg he hc
      rw [same]
      rfl
    | none =>
      obtain ⟨audit,same⟩ := FeedConfluence.persist_fresh cfg he hc
      rw [same]
      show (MarketFeed.applyEvent cfg _ d sender event _).1.processed = _
      unfold MarketFeed.applyEvent
      split <;> split <;> rfl

theorem get?_removeClaim_self (claims : Table ProcessedIdpk.idpk) (idpk : String) :
    (removeClaim claims idpk).get? idpk = none := by
  refine Table.get?_eq_none.mpr fun row hrow => ?_
  exact of_decide_eq_true (List.mem_filter.mp hrow).2

section Step
variable {env : Env} {db : Db} {payload : Payload} {now : Instant} {k : String}

/-- A fresh claim adds its key, and no message of another kind makes one. -/
theorem claimed_claim {claimed : Db} (claim : claim? db payload = some claimed) :
    (Claimed claimed k ↔ Claimed db k ∨ k = payload.idpk ∧ payload.type.isIdempotent) ∧
      (payload.type.isIdempotent → ¬Claimed db payload.idpk) := by
  unfold claim? at claim
  split at claim
  · rename_i claims
    obtain ⟨processed,inserted,rfl⟩ := Option.map_eq_some_iff.mp claim
    obtain ⟨free,rfl⟩ := Table.insert?_eq_some.mp inserted
    refine ⟨?_,fun _ taken => ?_⟩
    · unfold Claimed
      rw [Table.get?_insert]
      by_cases own : (claimRow payload).idpk = k
      · rw [if_pos own]
        exact ⟨fun _ => .inr ⟨own.symm,claims⟩,fun _ => rfl⟩
      · rw [if_neg own]
        refine ⟨.inl,?_⟩
        rintro (old | ⟨same,_⟩)
        · exact old
        · exact absurd same.symm own
    · unfold Claimed at taken
      rw [show db.processed.get? payload.idpk = none from free] at taken
      cases taken
  · rename_i other
    cases claim
    refine ⟨⟨.inl,?_⟩,fun claims => absurd claims other⟩
    rintro (old | ⟨_,claims⟩)
    · exact old
    · exact absurd claims other

/-- A key is taken by the message that is served under it and does not return it. -/
theorem claimed_ingest : Claimed (ingest env.cfg env.jwt db payload now).1 k ↔ Claimed db k ∨
    k = payload.idpk ∧ payload.type.isIdempotent ∧
      ∃ verdict, served? env db payload now = some verdict ∧ verdict.unclaim = false := by
  unfold served? ingest process
  cases claim : claim? db payload with
  | none => simp [Claimed,audit]
  | some claimed =>
    dsimp only
    cases served : dispatch env.cfg env.jwt (requestStatement env.cfg claimed payload now) payload
        now with
    | error fault => simp [Claimed,audit]
    | ok done =>
      obtain ⟨after,verdict⟩ := done
      obtain ⟨grown,fresh⟩ := claimed_claim (k := k) claim
      have kept : after.processed = claimed.processed :=
        (processed_dispatch served).trans (processed_request ..)
      have same : Claimed after k ↔ Claimed claimed k := by
        unfold Claimed
        rw [kept]
      show Claimed (returnClaim after payload verdict) k ↔ _
      unfold returnClaim
      split
      · rename_i returned
        have claims : payload.type.isIdempotent := by
          by_contra other
          obtain ⟨_,keeps,again⟩ := IngestAtomicity.dispatch_other env.cfg env.jwt
            (requestStatement env.cfg claimed payload now) now (Bool.not_eq_true _ ▸ other)
          rw [served] at again
          cases again
          rw [returned] at keeps
          cases keeps
        have taken : ¬∃ v, some verdict = some v ∧ v.unclaim = false := by
          rintro ⟨_,⟨⟩,keeps⟩
          rw [returned] at keeps
          cases keeps
        rw [or_iff_left fun own => taken own.2.2]
        by_cases own : k = payload.idpk
        · subst own
          refine iff_of_false ?_ (fresh claims)
          unfold Claimed
          dsimp only
          rw [get?_removeClaim_self]
          exact Bool.false_ne_true
        · unfold Claimed
          dsimp only
          rw [Negotiations.get?_removeClaim own]
          exact same.trans (grown.trans (or_iff_left fun new => own new.1))
      · rename_i keeps
        rw [same,grown]
        refine or_congr_right (and_congr_right fun _ => ?_)
        exact ⟨fun claims => ⟨claims,verdict,rfl,Bool.not_eq_true _ ▸ keeps⟩,And.left⟩

/-! ### Replies -/

/-- The target of a reply, as far as it spells a UUID. -/
def target? (payload : Payload) : Option String :=
  (BidReplies.spelled (payload.data.get "target")).bind uuidText

/-- The reply is about a pending bid of ours, and answers it in full or raises. -/
def Answers (db : Db) (payload : Payload) (now : Instant) (target : String) : Prop :=
  ∃ bid, BidReplies.addressed db payload target = .ok bid ∧
    (BidReplies.raises payload bid ∨ ∃ next, BidReplies.resolved payload bid now = .ok next)

theorem refused_reply {db' : Db} {verdict : Verdict}
    (h : bidReply db payload now = .ok (db',verdict)) : verdict.unclaim = false ∧
      (verdict.status = .notProcessed →
        ∃ target, target? payload = some target ∧ ¬Answers db payload now target) := by
  obtain ⟨⟨settled,refusal⟩,hp,h⟩ := Fallible.bind_ok.mp h
  unfold BidReplies.processBidReply at hp
  split at hp
  · cases hp
  rename_i target spelled
  have refuse {e : BidReplies.Refusal} (unfit : ¬Answers db payload now target)
      (ended : (settled,refusal) = (db,some e)) : verdict.unclaim = false ∧
        (verdict.status = .notProcessed →
          ∃ target, target? payload = some target ∧ ¬Answers db payload now target) := by
    cases ended
    cases h
    exact ⟨rfl,fun _ => ⟨target,spelled,unfit⟩⟩
  split at hp
  · rename_i e missing
    refine refuse (e := e) ?_ (Except.ok.inj hp).symm
    rintro ⟨bid,found,_⟩
    rw [missing] at found
    cases found
  rename_i bid found
  split at hp
  · cases hp
  rename_i reads
  split at hp
  · rename_i e invalid
    refine refuse (e := e) ?_ (Except.ok.inj hp).symm
    rintro ⟨other,again,complete⟩
    rw [found] at again
    cases again
    obtain ⟨next,valid⟩ := complete.resolve_left reads
    rw [invalid] at valid
    cases valid
  split at hp
  · cases hp
  cases hp
  cases h
  exact ⟨rfl,fun refused => absurd refused (by decide)⟩

/-- A reply that answers no bid is refused, whatever is wrong with it. -/
theorem unanswered_reply {target : String} (spelled : target? payload = some target)
    (unfit : ¬Answers db payload now target) : ∃ reason, bidReply db payload now =
      .ok (db,{ status := .notProcessed, reason := some reason }) := by
  unfold target? at spelled
  unfold bidReply BidReplies.processBidReply
  rw [spelled]
  dsimp only
  cases found : BidReplies.addressed db payload target with
  | error e => exact ⟨_,rfl⟩
  | ok bid =>
    dsimp only
    by_cases raises : BidReplies.raises payload bid
    · exact absurd ⟨bid,found,.inl raises⟩ unfit
    · rw [if_neg raises]
      cases read : BidReplies.resolved payload bid now with
      | error e => exact ⟨_,rfl⟩
      | ok next => exact absurd ⟨bid,found,.inr ⟨next,read⟩⟩ unfit

/-- The question for a statement is no bid, so it is no target of a reply. -/
theorem addressed_request (cfg : Config) {claimed : Db} (claim : claim? db payload = some claimed)
    (target : String) : BidReplies.addressed (requestStatement cfg claimed payload now) payload target =
      BidReplies.addressed db payload target := by
  have market : (requestStatement cfg claimed payload now).market = db.market :=
    congrArg Desk.market ((congrArg Prod.fst (front_requestStatement _ _ _)).trans (desk_claim? claim))
  have outbox : claimed.outbox = db.outbox := by
    unfold claim? at claim
    split at claim
    · obtain ⟨_,_,rfl⟩ := Option.map_eq_some_iff.mp claim
      rfl
    · cases claim
      rfl
  have bids : ((requestStatement cfg claimed payload now).outbox.get? target).filter
        (fun row => row.content.type = .bid) =
      (db.outbox.get? target).filter fun row => row.content.type = .bid := by
    rw [← outbox]
    unfold requestStatement
    split
    · rfl
    split
    · rfl
    dsimp only
    split
    · rfl
    unfold InformationRequests.enqueue
    split
    · rfl
    rw [Negotiations.get?_enqueue]
    by_cases own : Outbox.freshMsgId cfg claimed.outbox = target
    · have fresh : claimed.outbox.get? target = none := by
        rw [← own]
        exact Outbox.get?_fresh cfg claimed.outbox []
      rw [if_pos own,fresh]
      rfl
    · rw [if_neg own]
  unfold BidReplies.addressed
  rw [market,bids]

theorem answers_request (cfg : Config) {claimed : Db} (claim : claim? db payload = some claimed)
    (target : String) : Answers (requestStatement cfg claimed payload now) payload now target ↔
      Answers db payload now target := by
  unfold Answers
  rw [addressed_request cfg claim]

theorem dispatch_reply (reply : isReply payload.type) :
    dispatch env.cfg env.jwt db payload now = bidReply db payload now := by
  unfold dispatch
  generalize payload.type = type at reply
  cases type <;> first | rfl | cases reply

end Step

/-! ### Runs -/

/-- The node, and the idpks of the operations it carried out so far. -/
structure Trace where
  db : Db
  applied : List String := []

/-- The message is served under its own claim, and processed or found done. -/
def applies (env : Env) (db : Db) (payload : Payload) (now : Instant) : Bool :=
  payload.type.isIdempotent &&
    (served? env db payload now).any fun verdict => verdict.status ≠ .notProcessed

def step (env : Env) (t : Trace) (a : Node.Action) : Trace where
  db := Node.step env t.db a
  applied := match a with
    | .ingest payload now =>
        if applies env t.db payload now then t.applied ++ [payload.idpk] else t.applied
    | _ => t.applied

/-- What the database has claimed at the start counts as carried out. -/
def begun (db : Db) : Trace := ⟨db,db.processed.rows.map ProcessedIdpk.idpk⟩

/-- An idpk is claimed if and only if its operation was carried out, and every
operation that was not can still be sent under its idpk, as if for the first time. -/
structure Faithful (env : Env) (t : Trace) : Prop where
  claims : ∀ idpk, Claimed t.db idpk ↔ idpk ∈ t.applied
  resend : ∀ payload now, Covered payload → payload.idpk ∉ t.applied → AsFirst env t.db payload now

/-- A message that is not carried out leaves its audit row, and at most the question
for the statement of its cycle. -/
def Harmless (env : Env) (t : Trace) : Node.Action → Prop
  | .ingest payload now => Covered payload → applies env t.db payload now = false →
      ∃ status reason, Node.step env t.db (.ingest payload now) = audit t.db payload status reason ∨
        Node.step env t.db (.ingest payload now) =
          audit (requestStatement env.cfg t.db payload now) payload status reason
  | _ => True

/-- A reply under a free idpk answers a pending bid of ours, in full. -/
def Answered (t : Trace) : Node.Action → Prop
  | .ingest payload now => isReply payload.type → ¬Claimed t.db payload.idpk →
      ∀ target ∈ target? payload, Answers t.db payload now target
  | _ => True

variable {env : Env}

theorem Faithful.of_claims {t : Trace} (h : ∀ idpk, Claimed t.db idpk ↔ idpk ∈ t.applied) :
    Faithful env t where
  claims := h
  resend payload now covered unapplied := by
    refine asFirst_of_free env now covered (Option.not_isSome_iff_eq_none.mp fun taken => ?_)
    exact unapplied ((h payload.idpk).mp taken)

theorem faithful_begun (db : Db) : Faithful env (begun db) := by
  refine .of_claims fun idpk => ?_
  constructor
  · intro taken
    obtain ⟨row,found⟩ := Option.isSome_iff_exists.mp taken
    exact List.mem_map.mpr ⟨row,Table.mem_of_get? found,Table.key_of_get? found⟩
  · intro listed
    obtain ⟨row,stored,rfl⟩ := List.mem_map.mp listed
    show (db.processed.get? row.idpk).isSome
    rw [Table.get?_of_mem stored]
    rfl

/-- An action that brings no message of the protocol neither claims nor returns. -/
theorem processed_step (env : Env) (db : Db) (a : Node.Action) (own : ∀ d now, a ≠ .ingest d now) :
    (Node.step env db a).processed = db.processed := by
  cases brings : Node.bringsMessage a with
  | false => exact congrArg Log.processed (MarketClosing.service_step env db a brings).log
  | true =>
    cases a with
    | ingest d now => exact absurd rfl (own d now)
    | feed d => exact processed_persist env.cfg db d
    | _ => cases brings

theorem served?_some {db : Db} {payload : Payload} {now : Instant} {verdict : Verdict}
    (h : served? env db payload now = some verdict) : ∃ claimed done, claim? db payload = some claimed ∧
      dispatch env.cfg env.jwt (requestStatement env.cfg claimed payload now) payload now =
        .ok (done,verdict) := by
  unfold served? at h
  split at h
  · cases h
  rename_i claimed claim
  split at h <;> cases h
  rename_i done served
  exact ⟨claimed,done,claim,served⟩

/-- Of the messages served, only a reply that answers nothing keeps its claim
unprocessed. -/
theorem returned_served {t : Trace} {payload : Payload} {now : Instant} {verdict : Verdict}
    (claims : payload.type.isIdempotent) (ok : Answered t (.ingest payload now))
    (h : served? env t.db payload now = some verdict) : verdict.Returned := by
  obtain ⟨claimed,done,claim,served⟩ := served?_some h
  cases reply : isReply payload.type with
  | false => exact returned_dispatch served claims reply
  | true =>
    rw [dispatch_reply reply] at served
    obtain ⟨keeps,unfit⟩ := refused_reply served
    have processed : verdict.status ≠ .notProcessed := by
      intro refused
      obtain ⟨target,spelled,unanswered⟩ := unfit refused
      have free := (claimed_claim (k := payload.idpk) claim).2 claims
      exact unanswered ((answers_request env.cfg claim target).mpr (ok reply free target spelled))
    exact keeps.trans (decide_eq_false processed).symm

/-- A message of the protocol leaves the claims and the operations in step, when
the replies among them are answers. -/
theorem claims_ingest {t : Trace} {payload : Payload} {now : Instant}
    (h : ∀ idpk, Claimed t.db idpk ↔ idpk ∈ t.applied) (ok : Answered t (.ingest payload now))
    (idpk : String) : Claimed (step env t (.ingest payload now)).db idpk ↔
      idpk ∈ (step env t (.ingest payload now)).applied := by
  have kept : (payload.type.isIdempotent ∧ ∃ verdict,
      served? env t.db payload now = some verdict ∧ verdict.unclaim = false) ↔
        applies env t.db payload now := by
    unfold applies
    rw [Bool.and_eq_true,Option.any_eq_true]
    refine and_congr_right fun claims => exists_congr fun verdict => and_congr_right fun served => ?_
    rw [returned_served claims ok served,decide_eq_false_iff_not,decide_eq_true_eq]
  refine claimed_ingest.trans ?_
  rw [kept,h idpk]
  show _ ↔ idpk ∈ if applies env t.db payload now then t.applied ++ [payload.idpk] else t.applied
  by_cases carried : applies env t.db payload now
  · rw [if_pos carried,List.mem_append,List.mem_singleton]
    exact or_congr_right (and_iff_left carried)
  · rw [if_neg carried]
    exact or_iff_left fun own => carried own.2

theorem faithful_step {t : Trace} {a : Node.Action} (h : Faithful env t) (ok : Answered t a) :
    Faithful env (step env t a) := by
  refine .of_claims ?_
  by_cases own : ∃ d now, a = .ingest d now
  · obtain ⟨d,now,rfl⟩ := own
    exact claims_ingest h.claims ok
  · have other : ∀ d now, a ≠ .ingest d now := fun d now same => own ⟨d,now,same⟩
    have applied : (step env t a).applied = t.applied := by
      cases a with
      | ingest d now => exact absurd rfl (other d now)
      | _ => rfl
    intro idpk
    unfold Claimed
    rw [applied,show (step env t a).db = Node.step env t.db a from rfl,processed_step env t.db a other]
    exact h.claims idpk

/-- A refused reply under a free idpk takes it, though nothing was carried out. -/
theorem answered_of_faithful {t : Trace} {a : Node.Action} (h : Faithful env t)
    (h' : Faithful env (step env t a)) : Answered t a := by
  cases a with
  | ingest payload now =>
    intro reply free target spelled
    by_contra unfit
    have claims : payload.type.isIdempotent := by
      generalize payload.type = type at reply
      cases type <;> first | rfl | cases reply
    obtain ⟨claimed,claim⟩ := Option.isSome_iff_exists.mp
      (claim?_of_free (Option.not_isSome_iff_eq_none.mp free))
    obtain ⟨reason,refused⟩ := unanswered_reply spelled fun fits =>
      unfit ((answers_request env.cfg claim target).mp fits)
    have served : served? env t.db payload now =
        some { status := .notProcessed, reason := some reason } := by
      unfold served?
      rw [claim]
      dsimp only
      rw [dispatch_reply reply,refused]
    have taken : Claimed (step env t (.ingest payload now)).db payload.idpk :=
      claimed_ingest.mpr (.inr ⟨rfl,claims,_,served,rfl⟩)
    have idle : (step env t (.ingest payload now)).applied = t.applied := by
      refine if_neg ?_
      unfold applies
      rw [served]
      simp
    exact free ((h.claims _).mpr (idle ▸ (h'.claims _).mp taken))
  | _ => trivial

theorem harmless_of_answered {t : Trace} {a : Node.Action} (ok : Answered t a) : Harmless env t a := by
  cases a with
  | ingest payload now =>
    intro covered idle
    have claims := idempotent_of_covered covered
    show ∃ status reason, (ingest env.cfg env.jwt t.db payload now).1 = _ ∨
      (ingest env.cfg env.jwt t.db payload now).1 = _
    unfold ingest
    cases processed : process env.cfg env.jwt t.db payload now with
    | error fault => exact ⟨_,_,.inl rfl⟩
    | ok ended =>
      obtain ⟨done,verdict⟩ := ended
      obtain ⟨rfl,_⟩ | ⟨claimed,after,claim,served,rfl⟩ := process_cases processed
      · exact ⟨_,_,.inl rfl⟩
      · have own : served? env t.db payload now = some verdict := by
          unfold served?
          rw [claim]
          dsimp only
          rw [served]
        have refused : verdict.status = .notProcessed := by
          by_contra done
          unfold applies at idle
          rw [claims,own] at idle
          simp [done] at idle
        refine ⟨verdict.status,verdict.reason,.inr ?_⟩
        exact congrArg (audit · payload verdict.status verdict.reason)
          (returned_refused claim served covered refused (returned_served claims ok own))
  | _ => trivial

/-- From any database and over any run, an idpk is claimed exactly when its operation
was carried out, what was not leaves nothing and can be sent again, if and only if
every reply under a free idpk answers a pending bid. -/
theorem claimed_iff_applied (env : Env) (db : Db) (acts : List Node.Action) :
    Always (step env) (Faithful env) (begun db) acts ∧ Along (step env) (Harmless env) (begun db) acts ↔
      Along (step env) Answered (begun db) acts := by
  constructor
  · rintro ⟨faithful,_⟩
    exact along_of_always (fun t a (h : Faithful env t) h' => answered_of_faithful h h') faithful
  · intro answered
    exact ⟨always_of_step (fun t a h ok => faithful_step h ok) (faithful_begun db) answered,
      answered.mono fun t a ok => harmless_of_answered ok⟩

/-- BBB accepts the bid of the purchase for the given amount. -/
def acceptance (msgId : String) (amount : Int) : Payload :=
  Node.envelope .bidAccepted "89000000-0000-0000-0000-000000000001" msgId (some "BBB")
    [("target",.str Node.lease),("offerId",.str "BBB-C1"),("quantity",.int 10),
      ("pricePerEnergy",.int 2),("amount",.int amount),("swapId",.str "s9"),("swapToken",.str "t"),
      ("expiresAt",.str "1970-01-01T00:02:00Z")]

/-- The amount BBB named first is not that of the price. -/
def misnamed : List Node.Action := Node.purchase.take 3 ++ [.ingest (acceptance "a2" 21) (seconds 62)]

/-- The city after that answer. -/
def misled : Trace := run (step Node.buyer) (begun (Node.opened "C1")) misnamed

/-- A refused acceptance keeps its idpk, though it was never applied: corrected and
sent again it is a conflict, where it would have settled the bid on its own. -/
theorem corrected_acceptance_lost :
    let corrected := acceptance "a3" 20
    (Claimed misled.db corrected.idpk ∧ corrected.idpk ∉ misled.applied ∧
      (ingest Node.buyer.cfg Node.buyer.jwt misled.db corrected (seconds 63)).2 =
        .answered { status := .notProcessed, reason := some "IDPK_PAYLOAD_CONFLICT" } ∧
      (ingest Node.buyer.cfg Node.buyer.jwt (forgotten misled.db corrected.idpk) corrected
        (seconds 63)).2 = .answered {}) ∧
    ¬Always (step Node.buyer) (Faithful Node.buyer) (begun (Node.opened "C1")) misnamed := by
  intro corrected
  have taken : Claimed misled.db corrected.idpk := by decide +kernel
  have idle : corrected.idpk ∉ misled.applied := by decide +kernel
  refine ⟨⟨taken,idle,by decide +kernel,by decide +kernel⟩,fun faithful => ?_⟩
  exact idle ((faithful.final.claims corrected.idpk).mp taken)

end IdpkClaims

end EnergyNode
