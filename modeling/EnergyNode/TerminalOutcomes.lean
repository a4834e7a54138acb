import EnergyNode.Deals
import EnergyNode.Lib.Run

/-! How a swap that ended without settling is learned: from its AMQP event,
from a recovery observation or from the sweep. The three agree on the record and
on the reservation; only the sweep closes the bid. -/
namespace EnergyNode
open Lib WalletEvents

def SwapStatus.failed : SwapStatus → Bool
  | rejected | expired | cancelled => true
  | _ => false

def WalletEvents.EventType.fails : EventType → Bool
  | rejected | expired | cancelled => true
  | _ => false

theorem WalletEvents.EventType.failed_status (type : EventType) :
    type.status.failed = type.fails := by
  cases type <;> rfl

/-- RESERVED or ACCEPTED. -/
def BidStatus.live : BidStatus → Bool
  | reserved | accepted => true
  | _ => false

theorem BidStatus.not_live_of_closed {s : BidStatus} (h : SwapTimeouts.bidClosed s) :
    s.live = false := by
  cases s <;> first | rfl | cases h

theorem MarketBid.not_live_closed (b : MarketBid) : b.closed.status.live = false := by
  unfold MarketBid.closed
  split
  · rename_i h
    exact BidStatus.not_live_of_closed h
  · rfl

/-- What the three tables say about one swap. -/
structure Outcome where
  swap : Option SwapStatus
  reservation : Option ReservationStatus
  bid : Option BidStatus
deriving DecidableEq

def Deal.outcome (d : Deal) : Outcome where
  swap := d.swap.map SwapRecord.status
  reservation := d.reservation.map OfferReservation.status
  bid := d.bid.map MarketBid.status

namespace TerminalOutcomes
open WalletRecovery SwapTimeouts

/-- The bid of a swap is gone or already in a final state. -/
def bidResolved (m : Market) (k : String) : Bool :=
  match m.bids.get? k with
  | none => true
  | some bid => bidClosed bid.status

/-- Where an ended swap leaves its key; `closes` when the bid is closed as well. -/
def ended (d : Deal) (r : SwapRecord) (type : EventType) (closes : Bool) : Outcome :=
  if r.status.terminal then d.outcome
  else
    { swap := some type.status
      reservation := (d.reservation.map fun h => h.movedBy r .release).map OfferReservation.status
      bid := (if closes then d.bid.map MarketBid.closed else d.bid).map MarketBid.status }

theorem carriedBy_failed (h : OfferReservation) (r : SwapRecord) {type : EventType}
    (fails : type.fails) : h.carriedBy r type = h.movedBy r .release := by
  cases type <;> first | rfl | cases fails

theorem deal_desk {db db' : Db} (h : db'.desk = db.desk) (k : String) :
    db'.market.deal k = db.market.deal k := by
  rw [show db'.market = db.market from congrArg Desk.market h]

/-- An event that fails a swap, seen from the swap's key. -/
theorem processed_ended {db db' : Db} {type : EventType} {data : Fields} {r : SwapRecord}
    {out : Option SwapRecord} (h : Processed db db' type data out) (fails : type.fails)
    (found : correlate db.market.swaps data = .ok (some r)) :
    out.isSome ∧
      (db'.market.deal r.idpk).outcome = ended (db.market.deal r.idpk) r type false := by
  have hr := get?_correlated found
  have notSettled : type ≠ .settled := by
    rintro rfl
    cases fails
  cases h with
  | unknown none _ =>
    rw [found] at none
    cases none
  | revised r' s found' terminal deal _ _ status _ desk =>
    rw [found] at found'
    cases found'
    have market : db'.market = db.market.setSwap s := congrArg Desk.market desk
    refine ⟨rfl,?_⟩
    rw [market,Market.deal_setSwap_self hr deal,ended,if_pos terminal]
    rw [if_neg notSettled] at status
    simp only [Deal.outcome,Market.deal,hr,Option.map_some,status]
  | moved r' s swapId found' live _ deal status _ _ _ desk =>
    rw [found] at found'
    cases found'
    have market : db'.market = (db.market.carried r type).setSwap s := congrArg Desk.market desk
    have before := Market.deal_carried_self db.market r type
    simp only [Market.deal,Deal.mk.injEq] at before
    have stored : (db.market.carried r type).swaps.get? r.idpk = some r := by
      rw [swaps_carried,hr]
    refine ⟨rfl,?_⟩
    rw [market,Market.deal_setSwap_self stored deal,before.1,before.2.1,ended,
      if_neg (by rw [live]; decide)]
    simp only [Deal.outcome,Market.deal,Option.map_some,status,carriedBy_failed _ r fails]
    rfl

theorem processed_bids {db db' : Db} {type : EventType} {data : Fields}
    {out : Option SwapRecord} (h : Processed db db' type data out) :
    db'.market.bids = db.market.bids := by
  cases h with
  | unknown _ desk => rw [show db'.market = db.market from congrArg Desk.market desk]
  | revised r s _ _ _ _ _ _ _ desk =>
    rw [show db'.market = db.market.setSwap s from congrArg Desk.market desk]
    rfl
  | moved r s swapId _ _ _ _ _ _ _ _ desk =>
    rw [show db'.market = (db.market.carried r type).setSwap s from congrArg Desk.market desk]
    exact Market.bids_carried _ _ _

/-- The ways the node learns how a swap ended. -/
inductive Path where
  | event | observation | sweep
deriving DecidableEq

def Path.closes : Path → Bool
  | sweep => true
  | _ => false

/-- A swap of ours that the wallet knows under an identifier. -/
structure Known (m : Market) (r : SwapRecord) (swapId : String) : Prop where
  proposer : r.role = .proposer
  id : r.swapId = some swapId
  named : swapId ≠ ""
  found : withSwapId? m.swaps swapId = some r

theorem Known.correlate {m : Market} {r : SwapRecord} {swapId : String} (h : Known m r swapId)
    (more : Fields) :
    WalletEvents.correlate m.swaps (observedData r swapId more) = .ok (some r) := by
  have id : eventSwapId (observedData r swapId more) = .ok (some swapId) := by
    simp [eventSwapId,observedData,Fields.get,keyText,Json.orElse,Json.truthy,h.named]
  exact correlate_known id h.found

/-- `d` is the state after the node learned, on a path, that the swap ended as
`type`. A closed record is not swept again. -/
inductive Learns (env : Env) (db : Db) (r : SwapRecord) (swapId : String) (type : EventType) :
    Path → Db → Prop where
  | event (payload : Payload) (now : Instant) (done : Db) :
      EventType.ofMessage payload.type = some type →
      WalletEvents.correlate db.market.swaps payload.data = .ok (some r) →
      Ingest.ingest env.cfg env.jwt db payload now = (done,.answered {}) →
      Learns env db r swapId type .event done
  | observation (seen : Observation) (now : Instant) (done : Db) :
      seen.status.event? = some type →
      applyWalletObservation env.cfg db r seen now = .ok (done,true) →
      Learns env db r swapId type .observation done
  | sweep (response : Fields) (now : Instant) (done : Db) :
      sameSwap response swapId → terminalEvent? (statusText response) = some type →
      (r.status.terminal ∨ stale r now) →
      Node.sweep env.cfg db r.idpk (.body (.obj response)) now = .ok done →
      Learns env db r swapId type .sweep done

theorem dispatch_event {env : Env} {db : Db} {payload : Payload} {now : Instant}
    {type : EventType} (ht : EventType.ofMessage payload.type = some type) :
    Ingest.dispatch env.cfg env.jwt db payload now =
      Ingest.swapEvent env.cfg env.jwt db payload type now := by
  unfold Ingest.dispatch
  cases hp : payload.type <;> rw [hp] at ht <;> cases ht <;> rfl

theorem swapEvent_answered {env : Env} {db done : Db} {payload : Payload} {now : Instant}
    {type : EventType} (fails : type.fails)
    (h : Ingest.swapEvent env.cfg env.jwt db payload type now = .ok (done,{})) :
    ∃ out, Processed db done type payload.data (some out) := by
  obtain ⟨⟨db₁,out⟩,hp,h⟩ := Fallible.bind_ok.mp h
  have processed := processSwapEvent_spec hp
  cases out with
  | none => cases h
  | some s =>
    dsimp only at h
    split at h
    · rename_i proposed
      subst proposed
      cases fails
    · cases h
      exact ⟨s,processed⟩

theorem repeated_ne (db : Db) (payload : Payload) : Ingest.repeated db payload ≠ {} := by
  unfold Ingest.repeated
  split <;> decide

/-- The event message leaves what the event leaves of the rows before it. -/
theorem ingested {env : Env} {db done : Db} {payload : Payload} {now : Instant}
    {type : EventType} (ht : EventType.ofMessage payload.type = some type) (fails : type.fails)
    (h : Ingest.ingest env.cfg env.jwt db payload now = (done,.answered {})) :
    ∃ before after out, before.desk = db.desk ∧
      Processed before after type payload.data (some out) ∧ done.desk = after.desk := by
  unfold Ingest.ingest at h
  split at h
  · rename_i db₁ verdict hp
    simp only [Prod.mk.injEq,Ingest.Reply.answered.injEq] at h
    obtain ⟨rfl,rfl⟩ := h
    obtain ⟨-,repeated⟩ | ⟨claimed,db₂,hc,hd,rfl⟩ := Ingest.process_cases hp
    · exact absurd repeated.symm (repeated_ne db payload)
    · rw [dispatch_event ht] at hd
      obtain ⟨out,processed⟩ := swapEvent_answered fails hd
      refine ⟨_,_,out,?_,processed,rfl⟩
      exact (congrArg Prod.fst (Ingest.front_requestStatement _ _ _)).trans (Ingest.desk_claim? hc)
  · cases h

theorem event_ended {env : Env} {db done : Db} {r : SwapRecord} {payload : Payload}
    {now : Instant} {type : EventType} (fails : type.fails)
    (ht : EventType.ofMessage payload.type = some type)
    (found : WalletEvents.correlate db.market.swaps payload.data = .ok (some r))
    (h : Ingest.ingest env.cfg env.jwt db payload now = (done,.answered {})) :
    (done.market.deal r.idpk).outcome = ended (db.market.deal r.idpk) r type false := by
  obtain ⟨before,after,out,start,processed,finish⟩ := ingested ht fails h
  have market : before.market = db.market := congrArg Desk.market start
  have outcome := (processed_ended processed fails (r := r) (by rw [market]; exact found)).2
  rw [deal_desk finish,outcome,deal_desk start]

theorem observation_ended {cfg : Config} {db done : Db} {r : SwapRecord} {swapId : String}
    {seen : Observation} {now : Instant} {type : EventType} (fails : type.fails)
    (known : Known db.market r swapId) (reports : seen.status.event? = some type)
    (h : applyWalletObservation cfg db r seen now = .ok (done,true)) :
    (done.market.deal r.idpk).outcome = ended (db.market.deal r.idpk) r type false := by
  unfold applyWalletObservation at h
  simp only [known.id] at h
  split at h
  · cases h
  split at h
  · rename_i terminal
    cases h
    rw [ended,if_pos terminal]
  simp only [reports] at h
  obtain ⟨⟨db₁,out⟩,hp,h⟩ := Fallible.bind_ok.mp h
  cases h
  exact (processed_ended (processSwapEvent_spec hp) fails (known.correlate _)).2

theorem closeBid_outcome {db : Db} {r : SwapRecord} (role : r.role = .proposer)
    (named : r.idpk ≠ "") : ((closeBid db r).market.deal r.idpk).outcome =
      { (db.market.deal r.idpk).outcome with
        bid := ((db.market.bids.get? r.idpk).map MarketBid.closed).map MarketBid.status } := by
  have key : bidKey r = some r.idpk := by rw [bidKey,role]
  rw [closeBid,Market.deal_setBidExpired,if_pos ⟨key,named⟩]
  rfl

theorem sweep_ended {cfg : Config} {db done : Db} {r : SwapRecord} {swapId : String}
    {response : Fields} {now : Instant} {type : EventType} (fails : type.fails)
    (known : Known db.market r swapId) (named : r.idpk ≠ "") (same : sameSwap response swapId)
    (reports : terminalEvent? (statusText response) = some type)
    (due : r.status.terminal ∨ stale r now)
    (h : Node.sweep cfg db r.idpk (.body (.obj response)) now = .ok done) :
    (done.market.deal r.idpk).outcome = ended (db.market.deal r.idpk) r type true := by
  have hr : db.market.swaps.get? r.idpk = some r :=
    Table.get?_of_mem (List.mem_of_find?_eq_some known.found)
  unfold Node.sweep at h
  rw [hr,Option.filter_some] at h
  rcases due with terminal | due
  · have fresh : stale r now = false := by simp [stale,terminal]
    rw [fresh] at h
    cases h
    rw [ended,if_pos terminal]
  · have live : ¬r.status.terminal = true := by
      intro terminal
      simp [stale,terminal] at due
    have unsettled : statusText response ≠ "settled" := by
      intro settled
      rw [settled] at reports
      cases reports
    simp only [due,if_true] at h
    obtain ⟨⟨db₁,verdict⟩,hp,rfl⟩ := Fallible.map_ok.mp h
    have sent : neverSent r = false := by simp [neverSent,known.id]
    unfold sweepRecord at hp
    simp only [sent,Bool.false_eq_true,if_false,known.id,if_neg known.named,same,Bool.not_true,
      if_neg unsettled,reports] at hp
    obtain ⟨⟨db₂,out⟩,hs,hp⟩ := Fallible.bind_ok.mp hp
    cases hp
    have learned := (processed_ended (processSwapEvent_spec hs) fails (known.correlate [])).2
    rw [closeBid_outcome known.proposer named,learned,processed_bids (processSwapEvent_spec hs),
      ended,ended,if_neg live,if_neg live]
    rfl

/-- Whatever the path, a swap that failed leaves its key as `ended` says. -/
theorem learned_outcome {env : Env} {db done : Db} {r : SwapRecord} {swapId : String}
    {type : EventType} {path : Path} (fails : type.fails) (known : Known db.market r swapId)
    (named : r.idpk ≠ "") (h : Learns env db r swapId type path done) :
    (done.market.deal r.idpk).outcome = ended (db.market.deal r.idpk) r type path.closes := by
  cases h with
  | event payload now _ ht found answered => exact event_ended fails ht found answered
  | observation seen now _ reports applied => exact observation_ended fails known reports applied
  | sweep response now _ same reports due swept =>
    exact sweep_ended fails known named same reports due swept

theorem closed_status_iff (bid : Option MarketBid) :
    bid.map MarketBid.status = (bid.map MarketBid.closed).map MarketBid.status ↔
      ∀ b, bid = some b → bidClosed b.status := by
  cases bid with
  | none => simp
  | some b =>
    simp only [Option.map_some,Option.some.injEq,MarketBid.closed,forall_eq']
    cases closed : bidClosed b.status with
    | true => simp
    | false =>
      simp only [Bool.false_eq_true,if_false,iff_false]
      intro same
      rw [same] at closed
      cases closed

theorem bidResolved_iff (m : Market) (k : String) :
    bidResolved m k ↔ ∀ b, m.bids.get? k = some b → bidClosed b.status := by
  unfold bidResolved
  cases m.bids.get? k with
  | none => simp
  | some b => simp

/-- Two paths leave the same statuses exactly when both or neither close the
bid, or when nothing was left to close. -/
theorem ended_eq_iff (m : Market) (r : SwapRecord) (type : EventType) (p q : Path) :
    ended (m.deal r.idpk) r type p.closes = ended (m.deal r.idpk) r type q.closes ↔
      p.closes = q.closes ∨ r.status.terminal ∨ bidResolved m r.idpk := by
  rw [bidResolved_iff,← closed_status_iff]
  by_cases terminal : r.status.terminal
  · simp [ended,terminal]
  · simp only [ended,if_neg terminal]
    cases p.closes <;> cases q.closes <;> simp [Market.deal,terminal,eq_comm]

/-- Every incoming bid and every proposal of ours has a key. -/
structure Named (k : String) (d : Deal) : Prop where
  bid : ∀ b, d.bid = some b → b.direction = .incoming → k ≠ ""
  swap : ∀ r, d.swap = some r → r.role = .proposer → k ≠ ""

/-- What a bid rests on while it is RESERVED or ACCEPTED. -/
structure Backing (d : Deal) (b : MarketBid) (r : SwapRecord) (h : OfferReservation) : Prop where
  swap : d.swap = some r
  role : r.role = .proposer
  alive : r.status.failed = false
  reservation : d.reservation = some h
  held : h.status = .hold ∨ r.status = .settled

/-- An incoming bid is RESERVED or ACCEPTED only on a swap that has not failed,
and with its energy held until that swap settles. -/
def Guarded (d : Deal) : Prop :=
  ∀ b, d.bid = some b → b.direction = .incoming → b.status.live → ∃ r h, Backing d b r h

variable {P : Cause → Prop}

theorem Named.withSwap {k : String} {bid : Option MarketBid} {x y : Option OfferReservation}
    {r s : SwapRecord} (h : Named k ⟨bid,x,some r⟩) (deal : SameDeal r s) :
    Named k ⟨bid,y,some s⟩ := by
  refine ⟨h.bid,?_⟩
  rintro _ ⟨⟩ proposer
  exact h.swap r rfl (deal.role ▸ proposer)

theorem Named.withBid {k : String} {b c : MarketBid} {x : Option OfferReservation}
    {swap : Option SwapRecord} (h : Named k ⟨some b,x,swap⟩) (same : c.direction = b.direction) :
    Named k ⟨some c,x,swap⟩ := by
  refine ⟨?_,h.swap⟩
  rintro _ ⟨⟩ incoming
  exact h.bid b rfl (same ▸ incoming)

theorem named_deal {m : Market} {k : String} {d e : Deal} (move : DealMove m P k d e)
    (h : Named k d) : Named k e := by
  cases move with
  | still => exact h
  | arrived b _ own =>
    refine ⟨?_,h.swap⟩
    rintro _ ⟨⟩ incoming
    rcases own with outgoing | arrives
    · rw [outgoing] at incoming
      cases incoming
    · exact arrives.1
  | rejected b c same => exact h.withBid same.direction
  | own b c same => exact h.withBid same.direction
  | closed b => exact h.withBid b.closed_direction
  | reserved b price now _ incoming =>
    have named := h.bid b rfl incoming
    exact ⟨fun _ _ _ => named,fun _ _ _ => named⟩
  | answered b x r swapId now => exact h.withBid rfl
  | taken r role =>
    refine ⟨h.bid,?_⟩
    rintro _ ⟨⟩ proposer
    rw [role] at proposer
    cases proposer
  | event r s type data rejection swapId _ _ _ _ _ deal => exact h.withSwap deal
  | revised r s type data rejection _ _ _ _ deal => exact h.withSwap deal
  | @expired b _ _ r s reason _ _ _ deal _ _ _ bid =>
    rcases bid with ⟨rfl,_⟩ | rfl
    · exact h.withSwap deal
    · cases b with
      | none => exact h.withSwap deal
      | some b => exact (h.withBid b.closed_direction).withSwap deal
  | kept r s _ deal => exact h.withSwap deal
  | claimed r s _ deal => exact h.withSwap deal
  | refused r s _ _ deal => exact h.withSwap deal

/-- The key of a live swap whose open incoming bid an event would leave behind. -/
def stranded (m : Market) : Cause → Option String
  | .event type data _ =>
      match correlate m.swaps data with
      | .ok (some r) =>
          if type.fails ∧ r.status.terminal = false ∧ (m.bids.get? r.idpk).any (fun b =>
              b.direction = .incoming ∧ b.status.live) then some r.idpk
          else none
      | _ => none
  | _ => none

theorem stranded_of {m : Market} {r : SwapRecord} {b : MarketBid} {type : EventType}
    {data : Fields} (rejection : Json) (found : correlate m.swaps data = .ok (some r))
    (fails : type.fails) (alive : r.status.terminal = false) (hb : m.bids.get? r.idpk = some b)
    (incoming : b.direction = .incoming) (live : b.status.live) :
    stranded m (.event type data rejection) = some r.idpk := by
  simp only [stranded,found,hb,Option.any_some,incoming,live]
  simp [fails,alive]

theorem Backing.withSwap {bid : Option MarketBid} {b : MarketBid} {x : Option OfferReservation}
    {r s : SwapRecord} {h : OfferReservation} (back : Backing ⟨bid,x,some r⟩ b r h)
    (deal : SameDeal r s) (alive : s.status.failed = false)
    (settled : r.status = .settled → s.status = .settled) : Backing ⟨bid,x,some s⟩ b s h where
  swap := rfl
  role := deal.role.trans back.role
  alive := alive
  reservation := back.reservation
  held := back.held.imp_right settled

/-- A bid that another state of the bid replaces is guarded as that one is. -/
theorem guarded_of_not_live {c : MarketBid} {x : Option OfferReservation}
    {swap : Option SwapRecord} (h : c.direction = .outgoing ∨ c.status.live = false) :
    Guarded ⟨some c,x,swap⟩ := by
  rintro _ ⟨⟩ incoming live
  rcases h with outgoing | resolved
  · rw [outgoing] at incoming
    cases incoming
  · rw [resolved] at live
    cases live

theorem not_settled_of_live {r : SwapRecord} (h : r.status.terminal = false) :
    r.status ≠ .settled := by
  intro settled
  rw [settled] at h
  cases h

/-- A swap that goes on backs the bid as before. -/
theorem Guarded.withSwap {bid : Option MarketBid} {x : Option OfferReservation} {r s : SwapRecord}
    (h : Guarded ⟨bid,x,some r⟩) (deal : SameDeal r s)
    (goes : r.status.failed = false →
      s.status.failed = false ∧ (r.status = .settled → s.status = .settled)) :
    Guarded ⟨bid,x,some s⟩ := by
  intro b hb incoming live
  obtain ⟨r',h',back⟩ := h b hb incoming live
  cases back.swap
  obtain ⟨alive,settled⟩ := goes back.alive
  exact ⟨s,h',back.withSwap deal alive settled⟩

/-- So does one that an event moves on, with the energy it moves. -/
theorem Guarded.carried {bid : Option MarketBid} {x : Option OfferReservation} {r s : SwapRecord}
    {type : EventType} (h : Guarded ⟨bid,x,some r⟩) (deal : SameDeal r s)
    (alive : r.status.terminal = false) (goes : type.fails = false)
    (status : s.status = type.status) :
    Guarded ⟨bid,x.map fun h => h.carriedBy r type,some s⟩ := by
  intro b hb incoming live
  obtain ⟨r',h',back⟩ := h b hb incoming live
  cases back.swap
  have held := back.held.resolve_right (not_settled_of_live alive)
  have reservation : x = some h' := back.reservation
  refine ⟨s,h'.carriedBy r type,rfl,deal.role.trans back.role,?_,?_,?_⟩
  · rw [status,EventType.failed_status,goes]
  · rw [reservation]
    rfl
  · cases type with
    | proposed => exact .inl held
    | settled => exact .inr status
    | rejected => cases goes
    | expired => cases goes
    | cancelled => cases goes

/-- The swap of an acceptance backs no incoming bid. -/
theorem Guarded.acceptor {bid : Option MarketBid} {x : Option OfferReservation} {r : SwapRecord}
    {e : Deal} (h : Guarded ⟨bid,x,some r⟩) (role : r.role = .acceptor) (same : e.bid = bid) :
    Guarded e := by
  intro b hb incoming live
  obtain ⟨r',h',back⟩ := h b (same.symm.trans hb) incoming live
  cases back.swap
  cases role.symm.trans back.role

theorem guarded_deal {m : Market} {k : String} {d e : Deal} (move : DealMove m P k d e)
    (here : d = m.deal k) (named : Named k d)
    (spares : ∀ type data rejection, P (.event type data rejection) →
      stranded m (.event type data rejection) ≠ some k)
    (h : Guarded d) : Guarded e := by
  cases move with
  | still => exact h
  | arrived b _ own =>
    refine guarded_of_not_live (own.imp_right ?_)
    rintro ⟨_,_,status⟩
    rcases status with status | status <;> rw [status] <;> rfl
  | rejected b c _ _ status =>
    refine guarded_of_not_live (.inr ?_)
    rw [status]
    rfl
  | own b c _ outgoing => exact guarded_of_not_live (.inl outgoing)
  | closed b => exact guarded_of_not_live (.inr b.not_live_closed)
  | reserved b price now _ _ _ _ =>
    rintro _ ⟨⟩ _ _
    exact ⟨_,_,rfl,rfl,rfl,rfl,.inl rfl⟩
  | @answered s b x r swapId now incoming reserved =>
    rintro _ ⟨⟩ _ _
    obtain ⟨r',h',back⟩ := h b rfl incoming (by rw [reserved]; rfl)
    exact ⟨r',h',back.swap,back.role,back.alive,back.reservation,back.held⟩
  | taken r =>
    intro b hb incoming live
    obtain ⟨r',h',back⟩ := h b hb incoming live
    cases back.swap
  | @event bid x r s type data rejection swapId cause found key alive _ deal status =>
    cases fails : type.fails with
    | false => exact h.carried deal alive fails status
    | true =>
      intro b hb incoming live
      obtain ⟨r',h',back⟩ := h b hb incoming live
      have bids : m.bids.get? k = bid := congrArg Deal.bid here.symm
      have stuck := stranded_of rejection found fails alive (key ▸ bids.trans hb) incoming live
      exact absurd (key ▸ stuck) (spares _ _ _ cause)
  | revised r s type data rejection _ _ _ _ deal _ _ status =>
    refine h.withSwap deal fun alive => ⟨?_,fun settled => ?_⟩
    · rw [status]
      split
      · rfl
      · exact alive
    · rw [status,settled,ite_self]
  | @expired bid _ x r s reason _ _ _ _ _ _ _ closes =>
    rcases closes with ⟨rfl,ours⟩ | rfl
    · rcases ours with acceptor | unnamed
      · exact h.acceptor acceptor rfl
      · rintro b hb incoming _
        exact absurd unnamed (named.bid b hb incoming)
    · cases bid with
      | none => rintro _ ⟨⟩
      | some b => exact guarded_of_not_live (.inr b.not_live_closed)
  | kept r s _ deal status =>
    refine h.withSwap deal fun alive => ?_
    rcases status with same | ⟨live,moved⟩
    · exact ⟨same ▸ alive,same ▸ id⟩
    · refine ⟨?_,fun settled => absurd settled (not_settled_of_live live)⟩
      rcases moved with ⟨_,status⟩ | ⟨_,status⟩ <;> rw [status] <;> rfl
  | claimed r s _ deal before after =>
    have same : s.status = r.status := after.trans before.symm
    exact h.withSwap deal fun alive => ⟨same ▸ alive,same ▸ id⟩
  | refused r s _ acceptor => exact h.acceptor acceptor rfl

/-- The sweep closes the bid of the record it sweeps; no other action does. -/
def closing : Node.Action → Option String
  | .sweep idpk _ _ => some idpk
  | _ => none

/-- No swap with an open bid is learned to have failed, but by its own sweep. -/
def Calm (db : Db) (a : Node.Action) : Prop :=
  ∀ c ∈ Node.causes db a, stranded (Node.reading db a c) c = none ∨
    stranded (Node.reading db a c) c = closing a

instance (db : Db) (a : Node.Action) : Decidable (Calm db a) :=
  inferInstanceAs (Decidable (∀ _ ∈ _, _))

/-- Every key is named, and its bid guarded. -/
def Tidy (m : Market) : Prop := ∀ k, Named k (m.deal k) ∧ Guarded (m.deal k)

theorem named_moves {cfg : Config} {P : Market → Cause → Prop} {d d' : Desk}
    (moves : Moves cfg P d d') (k : String) (h : Named k (d.market.deal k)) :
    Named k (d'.market.deal k) := by
  induction moves with
  | refl => exact h
  | tail _ move ih => exact named_deal (Market.deal_move move k) ih

theorem guarded_moves {cfg : Config} {P : Market → Cause → Prop} {d d' : Desk}
    (moves : Moves cfg P d d') (k : String)
    (spares : ∀ m type data rejection, P m (.event type data rejection) →
      stranded m (.event type data rejection) ≠ some k)
    (named : Named k (d.market.deal k)) (h : Guarded (d.market.deal k)) :
    Guarded (d'.market.deal k) := by
  induction moves with
  | refl => exact h
  | tail before move ih =>
    exact guarded_deal (Market.deal_move move k) rfl (named_moves before k named) (spares _) ih

theorem guarded_closeBid {db : Db} {r : SwapRecord} (role : r.role = .proposer)
    (named : r.idpk ≠ "") : Guarded ((closeBid db r).market.deal r.idpk) := by
  have key : bidKey r = some r.idpk := by rw [bidKey,role]
  rw [closeBid,Market.deal_setBidExpired,if_pos ⟨key,named⟩]
  cases db.market.bids.get? r.idpk with
  | none => rintro _ ⟨⟩
  | some b => exact guarded_of_not_live (.inr b.not_live_closed)

theorem open_of_stranded {m : Market} {c : Cause} {k : String} (h : stranded m c = some k) :
    ∃ b, m.bids.get? k = some b ∧ b.direction = .incoming ∧ b.status.live := by
  unfold stranded at h
  split at h
  · split at h
    · rename_i r _
      split at h
      · rename_i stuck
        cases h
        obtain ⟨b,hb,alive⟩ := (Option.any_eq_true _ _).mp stuck.2.2
        rw [decide_eq_true_eq] at alive
        exact ⟨b,hb,alive⟩
      · cases h
    · cases h
  · cases h

/-- A swept record whose bid the event alone would strand has that bid closed. -/
theorem guarded_sweep {env : Env} {db : Db} {k : String} {answer : GetAnswer} {now : Instant}
    (named : Named k (db.market.deal k)) (h : Guarded (db.market.deal k)) {b : MarketBid}
    (hb : db.market.bids.get? k = some b) (incoming : b.direction = .incoming)
    (live : b.status.live) :
    Guarded ((Node.step env db (.sweep k answer now)).market.deal k) := by
  show Guarded ((Node.attempted db (Node.sweep env.cfg db k answer now)).market.deal k)
  unfold Node.attempted
  split
  · rename_i done hs
    unfold Node.sweep at hs
    split at hs
    · cases hs
      exact h
    · rename_i r hr
      have hget := (Option.filter_eq_some_iff.mp hr).1
      have key := Table.key_of_get? hget
      have found : db.market.swaps.get? r.idpk = some r := key ▸ hget
      obtain ⟨⟨db₁,verdict⟩,hp,rfl⟩ := Fallible.map_ok.mp hs
      have through {P : Market → Cause → Prop} (moves : Moves env.cfg P db.desk db₁.desk)
          (spares : ∀ m type data rejection, P m (.event type data rejection) →
            type.fails = false) : Guarded (db₁.market.deal k) := by
        refine guarded_moves moves k ?_ named h
        intro m type data rejection cause stuck
        have fails := spares m type data rejection cause
        unfold stranded at stuck
        simp only [fails,Bool.false_eq_true,false_and,if_false] at stuck
        split at stuck <;> cases stuck
      cases sweepRecord_spec hp with
      | still same =>
        subst same
        exact h
      | expired reason _ same =>
        subst same
        refine through (P := fun _ c => c = .expiry r.idpk reason)
          (expireRecord_moves reason now found rfl) ?_
        rintro _ _ _ _ ⟨⟩
      | settled data rejection out _ processed =>
        refine through (P := fun _ c => c = .event .settled data rejection)
          (processed_moves processed rfl) ?_
        rintro _ _ _ _ ⟨⟩
        rfl
      | ended event data rejection out db₂ _ _ same =>
        obtain ⟨r',x,back⟩ := h b hb incoming live
        have ours : some r = some r' := hget.symm.trans back.swap
        cases ours
        subst same key
        exact guarded_closeBid back.role (named.bid b hb incoming)
  · exact h

theorem tidy_step (env : Env) (db : Db) (a : Node.Action) (calm : Calm db a)
    (h : Tidy db.market) : Tidy (Node.step env db a).market := by
  intro k
  obtain ⟨named,guarded⟩ := h k
  have moves := Node.step_moves env db a
  refine ⟨named_moves moves k named,?_⟩
  by_cases stuck : ∃ c ∈ Node.causes db a, stranded (Node.reading db a c) c = some k
  · obtain ⟨c,hc,stuck⟩ := stuck
    have own : closing a = some k := by
      rcases calm c hc with none | own
      · rw [none] at stuck
        cases stuck
      · exact own.symm.trans stuck
    cases a with
    | sweep idpk answer now =>
      cases own
      obtain ⟨b,hb,incoming,live⟩ := open_of_stranded stuck
      exact guarded_sweep named guarded hb incoming live
    | _ => cases own
  · refine guarded_moves moves k ?_ named guarded
    rintro m type data rejection ⟨hc,other | read⟩ strands
    · cases other
    · rw [read] at strands
      exact stuck ⟨_,hc,strands⟩

theorem tidy_empty : Tidy {} := by
  intro k
  refine ⟨⟨?_,?_⟩,?_⟩ <;> rintro _ ⟨⟩

/-- RESERVED or ACCEPTED means that the swap has not failed, and RESERVED that
the energy is held until the swap settles. -/
def BidsBacked (m : Market) : Prop :=
  ∀ b ∈ m.bids.rows, b.direction = .incoming → (b.status = .reserved ∨ b.status = .accepted) →
    (∀ r ∈ m.swaps.get? b.idpk,
      r.status ≠ .rejected ∧ r.status ≠ .expired ∧ r.status ≠ .cancelled) ∧
    (b.status = .reserved → (∃ h ∈ m.reservations.get? b.idpk, h.status = .hold) ∨
      ∃ r ∈ m.swaps.get? b.idpk, r.status = .settled)

instance (m : Market) : Decidable (BidsBacked m) :=
  inferInstanceAs (Decidable (∀ _ ∈ m.bids.rows, _))

theorem bidsBacked_of_tidy {m : Market} (h : Tidy m) : BidsBacked m := by
  intro b hb incoming open_
  have live : b.status.live := by rcases open_ with e | e <;> rw [e] <;> rfl
  obtain ⟨r,x,back⟩ := (h b.idpk).2 b (Table.get?_of_mem hb) incoming live
  have hr : m.swaps.get? b.idpk = some r := back.swap
  refine ⟨?_,fun _ => ?_⟩
  · intro s hs
    cases hr.symm.trans hs
    have alive := back.alive
    refine ⟨?_,?_,?_⟩ <;> intro status <;> rw [status] at alive <;> cases alive
  · exact back.held.imp (fun held => ⟨x,back.reservation,held⟩) (fun done => ⟨r,hr,done⟩)

/-- The outcomes of two paths agree in a state exactly when both or neither
sweep, or when the record was closed or its bid resolved before. -/
def PathsAgree (env : Env) (db : Db) : Prop :=
  ∀ r swapId type p q d e, Known db.market r swapId → type.fails →
    Learns env db r swapId type p d → Learns env db r swapId type q e →
    ((d.market.deal r.idpk).outcome = (e.market.deal r.idpk).outcome ↔
      p.closes = q.closes ∨ r.status.terminal ∨ bidResolved db.market r.idpk)

theorem pathsAgree_of_named {env : Env} {db : Db} (h : ∀ k, Named k (db.market.deal k)) :
    PathsAgree env db := by
  intro r swapId type p q d e known fails left right
  have hr := Table.get?_of_mem (t := db.market.swaps) (List.mem_of_find?_eq_some known.found)
  have named : r.idpk ≠ "" := (h r.idpk).swap r hr known.proposer
  rw [learned_outcome fails known named left,learned_outcome fails known named right]
  exact ended_eq_iff db.market r type p q

/-- In every reachable state the paths agree exactly as `PathsAgree` says, and
while no open bid is left behind every bid of every state is backed. -/
theorem terminal_outcomes (env : Env) (start : Db) (empty : start.market = {})
    (run : List Node.Action) :
    Always (Node.step env) (PathsAgree env) start run ∧
      (Along (Node.step env) Calm start run →
        Always (Node.step env) (fun db => BidsBacked db.market) start run) := by
  have tidy : Tidy start.market := empty ▸ tidy_empty
  refine ⟨?_,?_⟩
  · have names : Always (Node.step env) (fun db => ∀ k, Named k (db.market.deal k)) start run :=
      always_of_step (P := fun _ _ => True)
        (fun db a h _ k => named_moves (Node.step_moves env db a) k (h k))
        (fun k => (tidy k).1) (along_true start run)
    exact names.mono fun _ => pathsAgree_of_named
  · intro calm
    have kept : Always (Node.step env) (fun db => Tidy db.market) start run :=
      always_of_step (fun db a h calm => tidy_step env db a calm h) tidy calm
    exact kept.mono fun _ => bidsBacked_of_tidy

/-- One sale, known to the wallet as s1. -/
def sale : List Node.Action :=
  .sellerOffer "C1" 100 0 :: Node.proposed "10000000-0000-0000-0000-000000000001"
    "20000000-0000-0000-0000-000000000001" "s1" 60 1

def rejectedEvent : Payload :=
  Node.walletMessage .swapRejected "e1" "20000000-0000-0000-0000-000000000002"
    [("swapId",.str "s1"),("idpk",.str "10000000-0000-0000-0000-000000000001")]

def rejectedState : Json := .obj [("swapId",.str "s1"),("status",.str "rejected")]

/-- The event leaves the bid of a rejected swap RESERVED without a hold, the
sweep of the same state EXPIRED. -/
theorem event_strands_bid :
    let k := "10000000-0000-0000-0000-000000000001"
    let db := Lib.run (Node.step Node.seller) (Node.opened "C1") sale
    let told := Node.step Node.seller db (.ingest rejectedEvent 2)
    let swept := Node.step Node.seller db (.sweep k (.body rejectedState) 60000000)
    (told.market.deal k).outcome = ⟨some .rejected,some .released,some .reserved⟩ ∧
      (swept.market.deal k).outcome = ⟨some .rejected,some .released,some .expired⟩ ∧
      ¬BidsBacked told.market := by
  decide +kernel

theorem swept_sale_backed :
    let run := sale ++ [.sweep "10000000-0000-0000-0000-000000000001" (.body rejectedState) 60000000,
      .ingest rejectedEvent 60000001]
    Always (Node.step Node.seller) (PathsAgree Node.seller) (Node.opened "C1") run ∧
      Always (Node.step Node.seller) (fun db => BidsBacked db.market) (Node.opened "C1") run := by
  intro run
  obtain ⟨agree,backed⟩ := terminal_outcomes Node.seller (Node.opened "C1") rfl run
  exact ⟨agree,backed (by decide +kernel)⟩

end TerminalOutcomes

end EnergyNode
