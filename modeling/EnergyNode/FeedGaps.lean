import EnergyNode.BuyCandidates
import EnergyNode.MarketClosing

/-! Gaps of the feed: what a vendor announced before one may be out of date, so
nobody bids on it until the vendor has spoken again. -/
namespace EnergyNode
open Lib

namespace MarketFeed

/-- A cycle of the central whose market is open. -/
def onFeed (now : Instant) (cycle : Cycle) : Bool :=
  cycle.statusIdpk.isSome && cycle.marketOpensAt.any (· ≤ now) && cycle.marketClosesAt.any (now < ·)

def affected (db : Db) (now : Instant) : List String :=
  (db.books.cycles.rows.filter (onFeed now)).map Cycle.cycleId

def markGap (now : Instant) (cycles : Table MarketCycle.cycleId) (cycleId : String) :
    Table MarketCycle.cycleId :=
  let cycles := marketCycle cycles cycleId
  match cycles.get? cycleId with
  | some market => cycles.set { market with feedGapAt := some now }
  | none => cycles

/-- `record_market_feed_gap`: the open cycles are marked, and the central is asked
for what can be asked for. -/
def recordMarketFeedGap (cfg : Config) (db : Db) (now : Instant) : Db :=
  { db with
    marketCycles := (affected db now).foldl (markGap now) db.marketCycles
    outbox := ["status-statement","distance-table"].foldl
      (fun outbox ask => InformationRequests.enqueue cfg outbox ask now) db.outbox }

/-- The last gap of a cycle. -/
def gapAt (cycles : Table MarketCycle.cycleId) (cycleId : String) : Option Instant :=
  (cycles.get? cycleId).bind MarketCycle.feedGapAt

section Marks
variable {cycles : Table MarketCycle.cycleId} {cycleId : String} {now : Instant}

theorem gapAt_marketCycle (cycles : Table MarketCycle.cycleId) (other cycleId : String) :
    gapAt (marketCycle cycles other) cycleId = gapAt cycles cycleId := by
  unfold gapAt
  cases found : cycles.get? cycleId with
  | some market => rw [MarketClosing.get?_marketCycle found]
  | none =>
    unfold marketCycle
    cases inserted : cycles.insert? { cycleId := other } with
    | none => rw [Option.getD_none,found]
    | some grown =>
      obtain ⟨free,rfl⟩ := Table.insert?_eq_some.mp inserted
      rw [Option.getD_some,Table.get?_insert]
      split
      · rfl
      · rw [found]

theorem get?_marketCycle_self (cycles : Table MarketCycle.cycleId) (cycleId : String) :
    ((marketCycle cycles cycleId).get? cycleId).isSome := by
  unfold marketCycle
  cases inserted : cycles.insert? { cycleId := cycleId } with
  | some grown =>
    obtain ⟨free,rfl⟩ := Table.insert?_eq_some.mp inserted
    rw [Option.getD_some,Table.get?_insert,if_pos rfl]
    rfl
  | none =>
    cases found : cycles.get? cycleId with
    | some market => exact found ▸ rfl
    | none =>
      have free : cycles.get? (MarketCycle.cycleId { cycleId := cycleId }) = none := found
      unfold Table.insert? at inserted
      rw [dif_pos free] at inserted
      cases inserted

theorem gapAt_markGap (now : Instant) (cycles : Table MarketCycle.cycleId) (other cycleId : String) :
    gapAt (markGap now cycles other) cycleId =
      if cycleId = other then some now else gapAt cycles cycleId := by
  unfold markGap
  obtain ⟨market,found⟩ := Option.isSome_iff_exists.mp (get?_marketCycle_self cycles other)
  have key : market.cycleId = other := Table.key_of_get? found
  dsimp only
  rw [found]
  by_cases own : cycleId = other
  · subst own
    rw [if_pos rfl]
    unfold gapAt
    dsimp only
    rw [Table.get?_set,if_pos key,found]
    rfl
  · rw [if_neg own,← gapAt_marketCycle cycles other]
    unfold gapAt
    dsimp only
    rw [Table.get?_set_ne]
    exact fun same => own (same.symm.trans key)

theorem gapAt_marks (now : Instant) (cycles : Table MarketCycle.cycleId) (ids : List String)
    (cycleId : String) : gapAt (ids.foldl (markGap now) cycles) cycleId =
      if cycleId ∈ ids then some now else gapAt cycles cycleId := by
  induction ids generalizing cycles with
  | nil => rfl
  | cons id ids ih =>
    rw [List.foldl_cons,ih,gapAt_markGap]
    by_cases own : cycleId = id <;> by_cases later : cycleId ∈ ids <;> simp [own,later]

end Marks

/-- A noted gap is the last one of every cycle it affects, and of no other. -/
theorem gapAt_record (cfg : Config) (db : Db) (now : Instant) (cycleId : String) :
    gapAt (recordMarketFeedGap cfg db now).marketCycles cycleId =
      if cycleId ∈ affected db now then some now else gapAt db.marketCycles cycleId :=
  gapAt_marks ..

section Steps
variable {cfg : Config} {db : Db} {d : Payload}

theorem gapAt_set {cycles : Table MarketCycle.cycleId} {old new : MarketCycle}
    (stored : ∀ market, cycles.get? old.cycleId = some market → market.feedGapAt = old.feedGapAt)
    (key : new.cycleId = old.cycleId) (kept : new.feedGapAt = old.feedGapAt) (cycleId : String) :
    gapAt (cycles.set new) cycleId = gapAt cycles cycleId := by
  unfold gapAt
  rw [Table.get?_set]
  split
  · rename_i own
    subst own
    rw [key]
    cases found : cycles.get? old.cycleId with
    | none => rfl
    | some market => exact kept.trans (stored market found).symm
  · rfl

/-- A message of the feed moves no gap. -/
theorem gapAt_persist (cfg : Config) (db : Db) (d : Payload) (cycleId : String) :
    gapAt (persist cfg db d).marketCycles cycleId = gapAt db.marketCycles cycleId := by
  cases he : event? d with
  | none =>
    unfold persist
    rw [he]
  | some e =>
    obtain ⟨sender,event⟩ := e
    cases hc : claimed db sender d with
    | some old =>
      obtain ⟨audit,same⟩ := FeedConfluence.persist_claimed cfg he hc
      rw [same]
      rfl
    | none =>
      obtain ⟨audit,same⟩ := FeedConfluence.persist_fresh cfg he hc
      rw [same]
      show gapAt (applyEvent cfg _ d sender event _).1.marketCycles cycleId = _
      have opened : gapAt (FeedConfluence.claiming db sender d).marketCycles cycleId =
          gapAt db.marketCycles cycleId := gapAt_marketCycle ..
      unfold applyEvent
      split
      · split
        · exact opened
        · dsimp only
          unfold applyMarketClosed
          have kept (cycles : Table MarketCycle.cycleId) (old : MarketCycle) (time : Instant)
              (stored : ∀ market, cycles.get? old.cycleId = some market →
                market.feedGapAt = old.feedGapAt) :
              gapAt (cycles.set
                { old with closedAt := some time, closedMsgId := some d.msgId }) cycleId =
                gapAt cycles cycleId := gapAt_set stored (by rfl) (by rfl) cycleId
          refine (kept _ (FeedConfluence.marketOf db d) d.timestamp ?_).trans opened
          intro market found
          rw [FeedConfluence.marketOf_key] at found
          unfold FeedConfluence.marketOf
          rw [show (marketCycle db.marketCycles (d.cycleId.getD "")).get? (d.cycleId.getD "") =
            some market from found]
          rfl
      · split <;> exact opened

/-- The messages of the protocol leave the feed alone. -/
theorem marketCycles_ingest (env : Env) (db : Db) (d : Payload) (now : Instant) :
    (Ingest.ingest env.cfg env.jwt db d now).1.marketCycles = db.marketCycles := by
  unfold Ingest.ingest
  cases processed : Ingest.process env.cfg env.jwt db d now with
  | error fault => rfl
  | ok ended =>
    obtain ⟨done,verdict⟩ := ended
    obtain ⟨rfl,_⟩ | ⟨taken,after,claim,served,rfl⟩ := Ingest.process_cases processed
    · rfl
    · have claimed : taken.marketCycles = db.marketCycles := by
        unfold Ingest.claim? at claim
        split at claim
        · obtain ⟨_,_,rfl⟩ := Option.map_eq_some_iff.mp claim
          rfl
        · cases claim
          rfl
      have asked : Service env.cfg taken (Ingest.requestStatement env.cfg taken d now) :=
        .of_front (Ingest.front_requestStatement taken d now)
      have kept := congrArg Log.marketCycles (asked.trans (Ingest.service_dispatch served)).log
      show (Ingest.returnClaim after d verdict).marketCycles = _
      unfold Ingest.returnClaim
      split <;> exact kept.trans claimed

/-- Only the connector's notes move the gaps of a node. -/
theorem gapAt_step (env : Env) (db : Db) (a : Node.Action) (cycleId : String) :
    gapAt (Node.step env db a).marketCycles cycleId = gapAt db.marketCycles cycleId := by
  cases brings : Node.bringsMessage a with
  | false =>
    rw [show (Node.step env db a).marketCycles = db.marketCycles from
      congrArg Log.marketCycles (MarketClosing.service_step env db a brings).log]
  | true =>
    cases a with
    | ingest d now =>
      show gapAt (Ingest.ingest env.cfg env.jwt db d now).1.marketCycles cycleId = _
      rw [marketCycles_ingest]
    | feed d => exact gapAt_persist env.cfg db d cycleId
    | _ => cases brings

end Steps

/-! ### Purchases -/

section Purchases
open Buying
variable {cfg : Config} {db : Db} {order : Order} {now : Instant} {o : BookOffer} {w : Window}

/-- What is bought was announced after the last gap of its cycle. -/
theorem select_after_gap (h : select cfg db order now = .ok (o,w)) :
    o.snapshot ∈ db.feed ∧ o.snapshot.cycleId = order.cycleId ∧
      ∀ gap ∈ gapAt db.marketCycles order.cycleId, gap < o.snapshot.lastEventAt := by
  unfold select at h
  obtain ⟨terms,_,h⟩ := Fallible.bind_ok.mp h
  split at h
  · rename_i found chosen
    have listed := List.mem_of_find?_eq_some chosen
    unfold candidates at listed
    rw [List.mem_insertionSort,List.mem_filter] at listed
    obtain ⟨booked,fit⟩ := listed
    have picked : found = o := by
      dsimp only at h
      split at h
      · cases h
      split at h
      · cases h
      cases h
      rfl
    subst picked
    unfold marketBook at booked
    split at booked
    · cases booked
    obtain ⟨s,fed,rfl⟩ := List.mem_map.mp booked
    obtain ⟨stored,own⟩ := List.mem_filter.mp fed
    have cycle : s.cycleId = order.cycleId := by
      rw [Bool.and_eq_true,decide_eq_true_eq] at own
      exact own.1
    refine ⟨stored,cycle,fun gap marked => ?_⟩
    have calm : gapRisk db s = false := by
      unfold eligible at fit
      simp only [Bool.and_eq_true,Bool.not_eq_true',Bool.or_eq_false_iff] at fit
      exact fit.1.1.1.2.2
    exact gapRisk_eq_false.mp calm gap (by rw [cycle]; exact marked)
  · cases h

theorem select_offer (h : select cfg db order now = .ok (o,w)) : o.snapshot.offerId = order.offerId := by
  unfold select at h
  obtain ⟨terms,_,h⟩ := Fallible.bind_ok.mp h
  split at h
  · rename_i found chosen
    dsimp only at h
    split at h
    · cases h
    split at h
    · cases h
    cases h
    have named := List.find?_some chosen
    exact of_decide_eq_true named
  · cases h

theorem select_of_created (h : (enqueueBuyBid cfg db order now).2 = .created) :
    ∃ o w, select cfg db order now = .ok (o,w) := by
  unfold enqueueBuyBid at h
  split at h
  · cases h
  split at h
  · split at h <;> cases h
  · split at h
    · cases h
    · rename_i o w selected
      exact ⟨o,w,selected⟩

end Purchases

end MarketFeed

end EnergyNode
