import EnergyNode.Deals
import EnergyNode.WalletCalls

/-! The locks of the sweep over the stale swaps. It commits nothing, so what it
sent on the answer for one record is held when it asks about the next; the bid it
closes after an event waits for the next flush. -/
namespace EnergyNode
open Lib

namespace SweepLocks
open WalletEvents WalletRecovery SwapTimeouts WalletCalls

/-- The record of the swap that the wallet reports on changes with the event. -/
def moves (db : Db) (record : SwapRecord) (type : EventType) (rejection : Json) : Bool :=
  match record.swapId.bind (withSwapId? db.market.swaps) with
  | none => false
  | some r => !r.status.terminal || (type = .settled && r.status ≠ .settled) ||
      Locks.repairs r type rejection

def closes (market : Market) (record : SwapRecord) : Bool :=
  match (bidKey record).bind market.bids.get? with
  | none => false
  | some bid => bid.idpk ≠ "" && !bidClosed bid.status

/-- The sweep sends an UPDATE of its own on the answer for this record: it was never
sent, it is unknown after a refused POST, or its swap ended and changes with that. -/
def writes (db : Db) (record : SwapRecord) (answer : GetAnswer) : Bool :=
  neverSent record || consulted record && match answer with
    | .error code => record.proposalBlockedAt.isSome && code = some 404
    | .body (.obj response) => sameSwap response (record.swapId.getD "") &&
        if statusText response = "settled" then moves db record .settled .null
        else match terminalEvent? (statusText response) with
          | none => false
          | some event =>
              moves db record event (if event = .rejected then reasonJson response else .null)
    | .body _ => false

/-- The wallet says that the swap of the record ended without a settlement. -/
def ended (record : SwapRecord) (answer : GetAnswer) : Bool :=
  consulted record && match answer with
    | .body (.obj response) => sameSwap response (record.swapId.getD "") &&
        statusText response ≠ "settled" && (terminalEvent? (statusText response)).isSome
    | _ => false

/-- The answer makes the sweep look for the record of the swap, which flushes the
session. -/
def queries (record : SwapRecord) (answer : GetAnswer) : Bool :=
  ended record answer || consulted record && match answer with
    | .body (.obj response) => sameSwap response (record.swapId.getD "") &&
        statusText response = "settled"
    | _ => false

/-- The turn leaves the bid it closes for the next flush. -/
def leaves (db : Db) (record : SwapRecord) (answer : GetAnswer) : Bool :=
  ended record answer && closes db.market record

/-- The ledger refuses the settlement of a record, which ends the sweep. -/
def Refused (cfg : Config) (db : Db) (record : SwapRecord) (answer : GetAnswer) : Prop :=
  ∃ response r e, answer = .body (.obj response) ∧ statusText response = "settled" ∧
    record.swapId.bind (withSwapId? db.market.swaps) = some r ∧
    CycleAccounting.applySwapSettled cfg db.books r = .error e

/-- The first record on whose answer an UPDATE is sent, its own or one that was left
for a flush, is followed by one the wallet is asked about. -/
def FollowedBy (cfg : Config) (db : Db) (answers : String → GetAnswer) :
    Bool → List SwapRecord → Prop
  | _, [] => False
  | unflushed, record :: later =>
      let answer := answers record.idpk
      if writes db record answer then ¬ Refused cfg db record answer ∧ ∃ r ∈ later, consulted r
      else if unflushed ∧ queries record answer then ∃ r ∈ later, consulted r
      else FollowedBy cfg db answers (unflushed || leaves db record answer) later

/-! ### Events on the record of a swap -/

section Events
variable {cfg : Config} {db : Db} {record r : SwapRecord} {swapId : String} {now : Instant}
  {type : EventType} {rejection : Json}

theorem consulted_eq (record : SwapRecord) : consulted record = !blank record.swapId := by
  unfold consulted
  cases sent : neverSent record with
  | false => rfl
  | true =>
    unfold neverSent at sent
    simp only [Bool.and_eq_true] at sent
    obtain ⟨⟨⟨⟨_,unknown⟩,_⟩,_⟩,_⟩ := sent
    rw [Option.isNone_iff_eq_none.mp unknown]
    rfl

theorem consulted_named (id : record.swapId = some swapId) (named : swapId ≠ "") :
    consulted record = true := by
  rw [consulted_eq,id]
  simpa [blank] using named

theorem eventSwapId_ownData (record : SwapRecord) (named : swapId ≠ "") :
    eventSwapId (ownData record swapId) = .ok (some swapId) := by
  simp [eventSwapId,ownData,Fields.get,keyText,Json.orElse,Json.truthy,named]

theorem correlate_ownData (record : SwapRecord) (named : swapId ≠ "")
    (found : withSwapId? db.market.swaps swapId = some r) :
    correlate db.market.swaps (ownData record swapId) = .ok (some r) :=
  correlate_known (eventSwapId_ownData record named) found

theorem swapId_of_found (found : withSwapId? db.market.swaps swapId = some r) :
    r.swapId = some swapId := by simpa using List.find?_some found

theorem snapshots_ownData (record : SwapRecord) (type : EventType) :
    snapshots db type r (ownData record swapId) = .ok db.snapshots := rfl

/-- The settlement is posted by what the record says of the swap. -/
theorem applySwapSettled_learned (books : Books) {type : EventType} {data : Fields}
    (known : blank r.swapId = false) (id : Option String) :
    CycleAccounting.applySwapSettled cfg books
      { learn r type id data with status := .settled, settledAt := some now } =
    CycleAccounting.applySwapSettled cfg books r := by
  have same : (learn r type id data).swapId = r.swapId := by
    unfold learn
    rw [known]
    rfl
  unfold CycleAccounting.applySwapSettled CycleAccounting.swapEffect CycleAccounting.settlementKey
  dsimp only
  rw [same]
  rfl

theorem keyText_reason (type : EventType) (response : Fields) :
    ∃ text, keyText (if type = .rejected then reasonJson response else .null) = .ok text := by
  split
  · unfold reasonJson
    split
    · rename_i reason _
      cases hr : (Json.str reason).truthy with
      | false => exact ⟨none,by simp [keyText,hr]⟩
      | true => exact ⟨some reason,by simp [keyText,hr]⟩
    · exact ⟨none,rfl⟩
  · exact ⟨none,rfl⟩

theorem moves_eq (id : record.swapId = some swapId)
    (found : withSwapId? db.market.swaps swapId = some r) :
    moves db record type rejection = (!r.status.terminal ||
      (type = .settled && r.status ≠ .settled) || Locks.repairs r type rejection) := by
  unfold moves
  rw [id]
  change (match withSwapId? db.market.swaps swapId with
    | none => false
    | some r => _) = _
  rw [found]

theorem locks_event (named : swapId ≠ "") (found : withSwapId? db.market.swaps swapId = some r) :
    Locks.processSwapEvent db type (ownData record swapId) rejection =
      if r.status.terminal then Locks.processTerminal db r type rejection
      else Locks.transition db r type (some swapId) (ownData record swapId) := by
  unfold Locks.processSwapEvent
  rw [correlate_ownData record named found,eventSwapId_ownData record named]

theorem event_terminal (named : swapId ≠ "") (found : withSwapId? db.market.swaps swapId = some r)
    (terminal : r.status.terminal = true) :
    processSwapEvent cfg db type (ownData record swapId) rejection now =
      (processTerminal cfg db r type rejection now).map fun done => (done.1,some done.2) := by
  unfold processSwapEvent
  rw [correlate_ownData record named found]
  simp only [Fallible.ok_bind,terminal,if_true]
  rfl

theorem event_live (named : swapId ≠ "") (found : withSwapId? db.market.swaps swapId = some r)
    (live : r.status.terminal = false) :
    processSwapEvent cfg db type (ownData record swapId) rejection now =
      (transition cfg db (learn r type (some swapId) (ownData record swapId)) type
        (ownData record swapId) rejection now).map fun done =>
          (storeRecord done.1 done.2,some done.2) := by
  unfold processSwapEvent
  rw [correlate_ownData record named found]
  simp only [Fallible.ok_bind,live,Bool.false_eq_true,if_false,eventSwapId_ownData record named]
  cases transition cfg db (learn r type (some swapId) (ownData record swapId)) type
    (ownData record swapId) rejection now with
  | error e => rfl
  | ok done =>
    simp only [Fallible.ok_bind,snapshots_ownData]
    rfl

theorem repaired_eq (r : SwapRecord) (type : EventType) (rejection : Json) :
    repaired r type rejection = if Locks.repairs r type rejection then
      (keyText rejection).map fun reason => { r with rejectionReason := reason } else .ok r := by
  unfold repaired Locks.repairs
  simp only [Bool.and_eq_true,Bool.or_eq_true,decide_eq_true_eq,and_assoc]

/-- An event that moves nothing takes no lock and stores what is there. -/
theorem event_still (cfg : Config) (now : Instant) (id : record.swapId = some swapId) (named : swapId ≠ "")
    (found : withSwapId? db.market.swaps swapId = some r)
    (still : moves db record type rejection = false) :
    Locks.processSwapEvent db type (ownData record swapId) rejection = [] ∧
      processSwapEvent cfg db type (ownData record swapId) rejection now = .ok (db,some r) := by
  rw [moves_eq id found] at still
  simp only [Bool.or_eq_false_iff,Bool.not_eq_false'] at still
  obtain ⟨⟨terminal,late⟩,lost⟩ := still
  have early : ¬ (type = .settled ∧ r.status ≠ .settled) := by simpa using late
  have here : db.market.swaps.get? r.idpk = some r :=
    Table.get?_of_mem (List.mem_of_find?_eq_some found)
  have stored : storeRecord db r = db := by
    unfold storeRecord
    rw [Table.set_eq_self here]
  rw [locks_event named found,event_terminal named found terminal,if_pos terminal]
  unfold Locks.processTerminal processTerminal
  rw [repaired_eq,lost,if_neg early]
  simp only [Bool.false_eq_true,if_false,Fallible.ok_bind,if_neg early,stored,true_and]
  rfl

theorem event_locks (id : record.swapId = some swapId) (named : swapId ≠ "")
    (found : withSwapId? db.market.swaps swapId = some r) (ends : type ≠ .proposed)
    (moved : moves db record type rejection = true) :
    Locks.processSwapEvent db type (ownData record swapId) rejection ≠ [] := by
  rw [moves_eq id found] at moved
  rw [locks_event named found]
  cases terminal : r.status.terminal with
  | false =>
    unfold Locks.transition
    cases type with
    | proposed => exact absurd rfl ends
    | settled => exact List.cons_ne_nil _ _
    | rejected => exact List.cons_ne_nil _ _
    | expired => exact List.cons_ne_nil _ _
    | cancelled => exact List.cons_ne_nil _ _
  | true =>
    rw [terminal] at moved
    unfold Locks.processTerminal
    rw [if_pos rfl]
    split
    · exact List.append_ne_nil_of_right_ne_nil _ (List.cons_ne_nil _ _)
    · rename_i early
      have late : (decide (type = .settled) && decide (r.status ≠ .settled)) = false := by
        simpa using early
      rw [late] at moved
      have lost : Locks.repairs r type rejection = true := by simpa using moved
      rw [if_pos lost]
      exact List.cons_ne_nil _ _

/-- A repaired reason does not change what is settled. -/
theorem repaired_done (cfg : Config) (books : Books) (r : SwapRecord) (type : EventType)
    {text : Option String} (ht : keyText rejection = .ok text) :
    ∃ s, repaired r type rejection = .ok s ∧ CycleAccounting.applySwapSettled cfg books s =
      CycleAccounting.applySwapSettled cfg books r := by
  rw [repaired_eq,ht]
  split
  · exact ⟨_,rfl,rfl⟩
  · exact ⟨r,rfl,rfl⟩

theorem known_of_found (named : swapId ≠ "") (found : withSwapId? db.market.swaps swapId = some r) :
    blank r.swapId = false := by
  rw [swapId_of_found found]
  simpa [blank] using named

theorem keyText_rejected {text : Option String} (record : SwapRecord) (swapId : String)
    (ht : keyText rejection = .ok text) :
    ∃ reason, keyText ((rejection.orElse ((ownData record swapId).get "reason")).orElse
      (.str unknownRejection)) = .ok reason := by
  have bare : (ownData record swapId).get "reason" = .null := rfl
  unfold Json.orElse
  rw [bare]
  cases spelled : rejection.truthy with
  | true =>
    simp only [if_true,spelled]
    exact ⟨text,ht⟩
  | false => exact ⟨some unknownRejection,rfl⟩

/-- An event ends with an error only where the ledger refuses the settlement. -/
theorem event_done (cfg : Config) (now : Instant) (record : SwapRecord) (type : EventType)
    (named : swapId ≠ "") (found : withSwapId? db.market.swaps swapId = some r)
    (text : ∃ text, keyText rejection = .ok text)
    (posts : type = .settled → r.status ≠ .settled →
      ∃ books, CycleAccounting.applySwapSettled cfg db.books r = .ok books) :
    ∃ done, processSwapEvent cfg db type (ownData record swapId) rejection now = .ok done := by
  obtain ⟨text,ht⟩ := text
  cases terminal : r.status.terminal with
  | true =>
    obtain ⟨s,hs,same⟩ := repaired_done cfg db.books r type ht
    rw [event_terminal named found terminal]
    unfold processTerminal
    rw [hs]
    simp only [Fallible.ok_bind]
    split
    · rename_i late
      obtain ⟨books,hb⟩ := posts late.1 late.2
      rw [same,hb]
      exact ⟨_,rfl⟩
    · exact ⟨_,rfl⟩
  | false =>
    rw [event_live named found terminal]
    unfold transition
    cases type with
    | proposed => exact ⟨_,rfl⟩
    | settled =>
      obtain ⟨books,hb⟩ := posts rfl fun settled => by rw [settled] at terminal; cases terminal
      dsimp only
      rw [applySwapSettled_learned db.books (known_of_found named found) _,hb]
      exact ⟨_,rfl⟩
    | rejected =>
      obtain ⟨reason,hr⟩ := keyText_rejected record swapId ht
      dsimp only
      rw [hr]
      exact ⟨_,rfl⟩
    | expired => exact ⟨_,rfl⟩
    | cancelled => exact ⟨_,rfl⟩

theorem event_refused {e : Fault} (named : swapId ≠ "")
    (found : withSwapId? db.market.swaps swapId = some r) (open_ : r.status ≠ .settled)
    (refuses : CycleAccounting.applySwapSettled cfg db.books r = .error e) :
    processSwapEvent cfg db .settled (ownData record swapId) .null now = .error e := by
  cases terminal : r.status.terminal with
  | true =>
    obtain ⟨s,hs,same⟩ := repaired_done cfg db.books r .settled (show keyText .null = .ok none from rfl)
    rw [event_terminal named found terminal]
    unfold processTerminal
    rw [hs]
    simp only [Fallible.ok_bind]
    rw [if_pos ⟨trivial,open_⟩,same,refuses]
    rfl
  | false =>
    rw [event_live named found terminal]
    unfold transition
    dsimp only
    rw [applySwapSettled_learned db.books (known_of_found named found) _,refuses]
    rfl

end Events

/-! ### The turn of one record -/

section Turns
variable {cfg : Config} {db : Db} {record : SwapRecord} {answer : GetAnswer} {swapId : String}
  {now : Instant}

/-- What the sweep of a live record sends and returns, by what it writes. -/
structure Turn (cfg : Config) (db : Db) (record : SwapRecord) (answer : GetAnswer)
    (now : Instant) : Prop where
  still : writes db record answer = false → ∃ rest v,
    Locks.sweepRecord db record answer =
      (if queries record answer then some { locks := [], unflushed := rest } else none) ∧
    (rest = [] ↔ leaves db record answer = false) ∧
    sweepRecord cfg db record answer now =
      .ok (if leaves db record answer then closeBid db record else db,v)
  locks : writes db record answer = true →
    ∃ sent, Locks.sweepRecord db record answer = some sent ∧ sent.locks ≠ []
  ends : writes db record answer = true → Refused cfg db record answer →
    ∃ e, sweepRecord cfg db record answer now = .error e
  goes : writes db record answer = true → ¬ Refused cfg db record answer →
    ∃ done, sweepRecord cfg db record answer now = .ok done

theorem Turn.of_still {v : Verdict} (unwritten : writes db record answer = false)
    (unasked : queries record answer = false)
    (unsent : Locks.sweepRecord db record answer = none)
    (same : sweepRecord cfg db record answer now = .ok (db,v)) : Turn cfg db record answer now where
  still := by
    intro _
    have kept : leaves db record answer = false := by
      unfold leaves
      rw [(Bool.or_eq_false_iff.mp unasked).1,Bool.false_and]
    refine ⟨[],v,?_,⟨fun _ => kept,fun _ => rfl⟩,?_⟩
    · rw [unsent,unasked]
      rfl
    · rw [same,kept]
      rfl
  locks := fun written => absurd unwritten (by rw [written]; decide)
  ends := fun written => absurd unwritten (by rw [written]; decide)
  goes := fun written => absurd unwritten (by rw [written]; decide)

theorem Turn.of_expired (done : Db × Verdict) (written : writes db record answer = true)
    (live : record.status.terminal = false)
    (sent : Locks.sweepRecord db record answer = Locks.expireRecord db.market record)
    (result : sweepRecord cfg db record answer now = .ok done)
    (posts : ¬ Refused cfg db record answer) : Turn cfg db record answer now where
  still := fun unwritten => absurd unwritten (by rw [written]; decide)
  locks := by
    intro _
    rw [sent]
    unfold Locks.expireRecord
    rw [live]
    exact ⟨_,rfl,List.cons_ne_nil _ _⟩
  ends := fun _ refused => absurd refused posts
  goes := fun _ _ => ⟨done,result⟩

theorem found_of_known (here : record ∈ db.market.swaps) (id : record.swapId = some swapId) :
    ∃ r, withSwapId? db.market.swaps swapId = some r := by
  refine Option.isSome_iff_exists.mp (List.find?_isSome.mpr ⟨record,here,?_⟩)
  rw [id]
  exact decide_eq_true rfl

theorem closeBid_still (still : closes db.market record = false) :
    Locks.setBidExpired db.market (bidKey record) = [] ∧ closeBid db record = db := by
  unfold closes at still
  unfold Locks.setBidExpired closeBid SwapTimeouts.setBidExpired
  cases key : bidKey record with
  | none => exact ⟨rfl,rfl⟩
  | some idpk =>
    dsimp only
    cases hb : db.market.bids.get? idpk with
    | none => exact ⟨rfl,rfl⟩
    | some bid =>
      have same : bid.idpk = idpk := Table.key_of_get? hb
      rw [key] at still
      change (match db.market.bids.get? idpk with
        | none => false
        | some bid => bid.idpk ≠ "" && !bidClosed bid.status) = false at still
      rw [hb] at still
      have closed : idpk = "" ∨ bidClosed bid.status = true := by
        simpa [same,or_iff_not_imp_left] using still
      dsimp only
      rw [if_pos closed,if_pos closed]
      exact ⟨rfl,rfl⟩

theorem setBidExpired_ne (closing : closes db.market record = true) :
    Locks.setBidExpired db.market (bidKey record) ≠ [] := by
  unfold closes at closing
  unfold Locks.setBidExpired
  cases key : bidKey record with
  | none =>
    rw [key] at closing
    cases closing
  | some idpk =>
    rw [key] at closing
    change (match db.market.bids.get? idpk with
      | none => false
      | some bid => bid.idpk ≠ "" && !bidClosed bid.status) = true at closing
    dsimp only
    cases hb : db.market.bids.get? idpk with
    | none =>
      rw [hb] at closing
      cases closing
    | some bid =>
      rw [hb] at closing
      have same : bid.idpk = idpk := Table.key_of_get? hb
      have open_ : ¬ (idpk = "" ∨ bidClosed bid.status = true) := by
        simpa [same] using closing
      dsimp only
      rw [if_neg open_]
      exact List.cons_ne_nil _ _

end Turns

section Sweep
variable {cfg : Config} {db : Db} {record : SwapRecord} {answer : GetAnswer} {swapId : String}
  {now : Instant} {response : Fields}

theorem terminalEvent?_ends {status : String} {event : EventType}
    (h : terminalEvent? status = some event) : event ≠ .settled ∧ event ≠ .proposed := by
  unfold terminalEvent? at h
  split at h <;> cases h <;> decide

theorem open_of_moves {r : SwapRecord} {rejection : Json} (id : record.swapId = some swapId)
    (found : withSwapId? db.market.swaps swapId = some r)
    (moved : moves db record .settled rejection = true) : r.status ≠ .settled := by
  intro settled
  rw [moves_eq id found,settled] at moved
  unfold Locks.repairs at moved
  rw [settled] at moved
  cases moved

/-- The answer says that the swap was settled. -/
theorem turn_settled (here : record ∈ db.market.swaps) (sent : neverSent record = false)
    (id : record.swapId = some swapId) (named : swapId ≠ "") (same : sameSwap response swapId = true)
    (settled : statusText response = "settled") :
    Turn cfg db record (.body (.obj response)) now := by
  obtain ⟨r,found⟩ := found_of_known here id
  have asked := consulted_named id named
  have written : writes db record (.body (.obj response)) = moves db record .settled .null := by
    simp [writes,sent,asked,id,same,settled]
  have going : ended record (.body (.obj response)) = false := by simp [ended,settled]
  have looked : queries record (.body (.obj response)) = true := by
    simp [queries,asked,id,same,settled]
  have statements : Locks.sweepRecord db record (.body (.obj response)) = some
      { locks := Locks.processSwapEvent db .settled (ownData record swapId) .null } := by
    simp [Locks.sweepRecord,sent,id,named,same,settled]
  have result : sweepRecord cfg db record (.body (.obj response)) now =
      (processSwapEvent cfg db .settled (ownData record swapId) .null now).map
        fun done => (done.1,Verdict.settled) := by
    simp only [sweepRecord,sent,id,if_neg named,same,settled,Bool.false_eq_true,if_false,
      Bool.not_true,if_true]
    rfl
  constructor
  · intro still
    obtain ⟨locks,stored⟩ := event_still cfg now id named found (written.symm.trans still)
    have kept : leaves db record (.body (.obj response)) = false := by
      unfold leaves
      rw [going,Bool.false_and]
    refine ⟨[],Verdict.settled,?_,⟨fun _ => kept,fun _ => rfl⟩,?_⟩
    · rw [statements,locks,looked]
      rfl
    · rw [result,stored,kept]
      rfl
  · intro moved
    exact ⟨_,statements,event_locks id named found (by decide) (written.symm.trans moved)⟩
  · rintro moved ⟨_,r',e,_,_,hr,refuses⟩
    rw [id] at hr
    cases found.symm.trans hr
    rw [result,event_refused named found (open_of_moves id found (written.symm.trans moved)) refuses]
    exact ⟨e,rfl⟩
  · intro moved posts
    have done := event_done cfg now record .settled named found
      (show ∃ text, keyText .null = .ok text from ⟨none,rfl⟩) fun _ _ => by
        cases hb : CycleAccounting.applySwapSettled cfg db.books r with
        | ok books => exact ⟨books,rfl⟩
        | error e => exact absurd ⟨response,r,e,rfl,settled,by rw [id]; exact found,hb⟩ posts
    obtain ⟨done,hd⟩ := done
    rw [result,hd]
    exact ⟨_,rfl⟩

/-- The answer says that the swap ended without a settlement. -/
theorem turn_ended {event : EventType} (here : record ∈ db.market.swaps)
    (sent : neverSent record = false) (id : record.swapId = some swapId) (named : swapId ≠ "")
    (same : sameSwap response swapId = true) (unsettled : statusText response ≠ "settled")
    (finished : terminalEvent? (statusText response) = some event) :
    Turn cfg db record (.body (.obj response)) now := by
  obtain ⟨r,found⟩ := found_of_known here id
  obtain ⟨other,ends⟩ := terminalEvent?_ends finished
  have asked := consulted_named id named
  have written : writes db record (.body (.obj response)) =
      moves db record event (if event = .rejected then reasonJson response else .null) := by
    simp [writes,sent,asked,id,same,unsettled,finished]
  have gone : ended record (.body (.obj response)) = true := by
    simp [ended,asked,id,same,unsettled,finished]
  have left : leaves db record (.body (.obj response)) = closes db.market record := by
    unfold leaves
    rw [gone,Bool.true_and]
  have statements : Locks.sweepRecord db record (.body (.obj response)) = some
      { locks := Locks.processSwapEvent db event (ownData record swapId)
          (if event = .rejected then reasonJson response else .null)
        unflushed := Locks.setBidExpired db.market (bidKey record) } := by
    simp [Locks.sweepRecord,sent,id,named,same,unsettled,finished]
  have result : sweepRecord cfg db record (.body (.obj response)) now =
      (processSwapEvent cfg db event (ownData record swapId)
        (if event = .rejected then reasonJson response else .null) now).map
          fun done => (closeBid done.1 record,Verdict.terminal event) := by
    simp only [sweepRecord,sent,id,if_neg named,same,if_neg unsettled,finished,Bool.false_eq_true,
      if_false,Bool.not_true]
    rfl
  have text := keyText_reason event response
  constructor
  · intro still
    obtain ⟨locks,stored⟩ := event_still cfg now id named found (written.symm.trans still)
    refine ⟨Locks.setBidExpired db.market (bidKey record),Verdict.terminal event,?_,?_,?_⟩
    · rw [statements,locks,queries,gone]
      rfl
    · rw [left]
      exact ⟨fun none_ => eq_false_of_ne_true fun closing => setBidExpired_ne closing none_,
        fun still => (closeBid_still still).1⟩
    · rw [result,stored,left]
      cases closing : closes db.market record with
      | true => rfl
      | false =>
        rw [Except.map,(closeBid_still closing).2]
        rfl
  · intro moved
    exact ⟨_,statements,event_locks id named found ends (written.symm.trans moved)⟩
  · rintro _ ⟨_,_,_,h,settled,_⟩
    cases h
    exact absurd settled unsettled
  · intro _ _
    obtain ⟨done,hd⟩ := event_done cfg now record event named found text fun settled => absurd settled other
    rw [result,hd]
    exact ⟨_,rfl⟩

theorem turn (here : record ∈ db.market.swaps) (live : record.status.terminal = false) :
    Turn cfg db record answer now := by
  cases sent : neverSent record with
  | true =>
    have unknown : record.swapId = none := by
      unfold neverSent at sent
      simp only [Bool.and_eq_true] at sent
      exact Option.isNone_iff_eq_none.mp sent.1.1.1.2
    refine .of_expired (expireRecord cfg db record "PROPOSAL_NEVER_SENT" now,.expired)
      (by simp [writes,sent]) live (by simp [Locks.sweepRecord,sent])
      (by simp only [sweepRecord,sent,if_true]) ?_
    rintro ⟨_,_,_,_,_,hr,_⟩
    rw [unknown] at hr
    cases hr
  | false =>
  cases id : record.swapId with
  | none =>
    have unasked : consulted record = false := by simp [consulted_eq,id,blank]
    exact .of_still (v := .indeterminate) (by simp [writes,sent,unasked])
      (by simp [queries,ended,unasked]) (by simp [Locks.sweepRecord,sent,id])
      (by simp [sweepRecord,sent,id])
  | some swapId =>
  by_cases named : swapId = ""
  · have unasked : consulted record = false := by simp [consulted_eq,id,blank,named]
    exact .of_still (v := .indeterminate) (by simp [writes,sent,unasked])
      (by simp [queries,ended,unasked]) (by simp [Locks.sweepRecord,sent,id,named])
      (by simp [sweepRecord,sent,id,named])
  have asked := consulted_named id named
  cases answer with
  | error code =>
    by_cases missing : record.proposalBlockedAt.isSome = true ∧ code = some 404
    · refine .of_expired (expireRecord cfg db record "WALLET_SWAP_NOT_FOUND" now,.expired)
        (by simp [writes,sent,asked,missing]) live
        (by simp [Locks.sweepRecord,sent,id,named,missing])
        (by simp only [sweepRecord,sent,id,if_neg named,if_pos missing,Bool.false_eq_true,if_false]) ?_
      rintro ⟨_,_,_,h,_⟩
      cases h
    · refine .of_still (v := .indeterminate) ?_ (by simp [queries,ended])
        (by simp [Locks.sweepRecord,sent,id,named,missing])
        (by simp [sweepRecord,sent,id,named,missing])
      simpa [writes,sent,asked] using missing
  | body value =>
    cases value with
    | obj response =>
      cases same : sameSwap response swapId with
      | false =>
        exact .of_still (v := .indeterminate) (by simp [writes,sent,id,same])
          (by simp [queries,ended,id,same]) (by simp [Locks.sweepRecord,sent,id,named,same])
          (by simp [sweepRecord,sent,id,named,same])
      | true =>
        by_cases settled : statusText response = "settled"
        · exact turn_settled here sent id named same settled
        cases finished : terminalEvent? (statusText response) with
        | some event => exact turn_ended here sent id named same settled finished
        | none =>
          have unwritten : writes db record (.body (.obj response)) = false := by
            simp [writes,sent,settled,finished]
          have unasked : queries record (.body (.obj response)) = false := by
            simp [queries,ended,settled,finished]
          have unsent : Locks.sweepRecord db record (.body (.obj response)) = none := by
            simp [Locks.sweepRecord,sent,id,named,same,settled,finished]
          by_cases alive : statusText response = "proposed" ∨ statusText response = "accepted"
          · exact .of_still (v := .alive (passed record.expiresAt now)) unwritten unasked unsent
              (by simp [sweepRecord,sent,id,named,same,settled,finished,alive])
          · exact .of_still (v := .unsupported) unwritten unasked unsent
              (by simp [sweepRecord,sent,id,named,same,settled,finished,alive])
    | _ =>
      exact .of_still (v := .indeterminate) (by simp [writes,sent]) (by simp [queries,ended])
        (by simp [Locks.sweepRecord,sent,id,named]) (by simp [sweepRecord,sent,id,named])

end Sweep

/-! ### The sweep keeps the identifiers of the swaps -/

section Runs
variable {cfg : Config} {db db' : Db} {answers : String → GetAnswer} {now : Instant}

/-- The identifiers of the swaps are as they were. -/
def SameIds (db db' : Db) : Prop :=
  ∀ k, (db'.market.swaps.get? k).map SwapRecord.swapId =
    (db.market.swaps.get? k).map SwapRecord.swapId

theorem SameIds.refl (db : Db) : SameIds db db := fun _ => rfl

theorem SameIds.trans {db'' : Db} (h : SameIds db db') (k : SameIds db' db'') : SameIds db db'' :=
  fun key => (k key).trans (h key)

end Runs

/-! ### The sweep of all records -/

section Sweeps
variable {cfg : Config} {db db' : Db} {answers : String → GetAnswer} {now : Instant}
  {held unflushed : List Lock} {record : SwapRecord} {records : List SwapRecord}

/-- The calls for one record and the locks its answer makes the sweep take. -/
def turnOps (now : Instant) (answers : String → GetAnswer) (db : Db) (unflushed : List Lock)
    (record : SwapRecord) : List (Op Lock Ask) :=
  (if consulted record then
    .call (.getSwap (record.swapId.getD "")) ::
      if cancels now record (answers record.idpk) then [.call (.cancel (record.swapId.getD ""))]
      else []
  else []) ++ [.take (Locks.taken unflushed (Locks.sweepRecord db record (answers record.idpk)))]

theorem expireOne_eq (here : db.market.swaps.get? record.idpk = some record) :
    expireOne cfg now answers db unflushed record.idpk =
      ⟨turnOps now answers db unflushed record,
        (sweepRecord cfg db record (answers record.idpk) now).map fun done =>
          (done.1,Locks.left unflushed (Locks.sweepRecord db record (answers record.idpk)))⟩ := by
  unfold expireOne turnOps
  rw [here]
  dsimp only
  cases consulted record with
  | false => cases sweepRecord cfg db record (answers record.idpk) now <;> rfl
  | true =>
    cases cancels now record (answers record.idpk) <;>
      cases sweepRecord cfg db record (answers record.idpk) now <;> rfl

end Sweeps

end SweepLocks

end EnergyNode
