import EnergyNode.BookRules
import EnergyNode.Lib.FirstOccurrence
import EnergyNode.Lib.Run
import EnergyNode.SweepLocks

/-! How far one sweep gets. It examines the stale swaps in the order of their
ids, up to its limit, and the answer for a record settles the first one that
carries its swapId. -/
namespace EnergyNode
open Lib

namespace SweepProgress
open WalletEvents WalletRecovery SwapTimeouts WalletCalls

/-- The event of a swap that the wallet reports as ended. -/
def ended? (record : SwapRecord) (answer : GetAnswer) : Option EventType :=
  match record.swapId, answer with
  | some swapId, .body (.obj response) =>
      if swapId = "" ∨ !sameSwap response swapId then none
      else if statusText response = "settled" then some .settled
      else terminalEvent? (statusText response)
  | _, _ => none

def resolvable (now : Instant) (answers : String → GetAnswer) (record : SwapRecord) : Bool :=
  stale record now && (ended? record (answers record.idpk)).isSome

/-- The stale records whose swaps have ended, in the order of their ids. -/
def resolvables (now : Instant) (answers : String → GetAnswer) (db : Db) : List SwapRecord :=
  db.market.swaps.rows.filter (resolvable now answers)

def settles (answers : String → GetAnswer) (record : SwapRecord) : Bool :=
  ended? record (answers record.idpk) = some .settled

def resolved (db : Db) (idpk : String) : Bool :=
  ((db.market.swaps.get? idpk).map fun record => record.status.terminal) = some true

/-! ### The turn of a record -/

section Turn
variable {cfg : Config} {db db' : Db} {record r : SwapRecord} {answer : GetAnswer} {now : Instant}
  {type : EventType} {swapId : String} {verdict : Verdict}

theorem terminalEvent?_ne {status : String} (h : terminalEvent? status = some type) :
    type ≠ .proposed ∧ type ≠ .settled := by
  unfold terminalEvent? at h
  split at h <;> cases h <;> decide

theorem ended?_ne (h : ended? record answer = some type) : type ≠ .proposed := by
  unfold ended? at h
  split at h
  · split at h
    · cases h
    split at h
    · cases h
      decide
    · exact (terminalEvent?_ne h).1
  · cases h

/-- The state after an event of the sweep. -/
def afterEvent (type : EventType) (record : SwapRecord) (db : Db) : Db :=
  if type = .settled then db else closeBid db record

/-- The sweep of a record whose swap ended is the event of its end. -/
theorem sweepRecord_ended (cfg : Config) (db : Db) (now : Instant)
    (h : ended? record answer = some type) :
    ∃ swapId rejection verdict, record.swapId = some swapId ∧ swapId ≠ "" ∧
      (∃ text, keyText rejection = .ok text) ∧
      sweepRecord cfg db record answer now =
        (processSwapEvent cfg db type (ownData record swapId) rejection now).map fun done =>
          (afterEvent type record done.1,verdict) := by
  unfold ended? at h
  split at h
  · rename_i swapId response id
    have sent : neverSent record = false := by
      unfold neverSent
      rw [id]
      simp
    split at h
    · cases h
    rename_i same
    rw [not_or] at same
    obtain ⟨named,same⟩ := same
    unfold sweepRecord
    simp only [sent,id,if_neg named,if_neg same,Bool.false_eq_true,if_false]
    split at h
    · rename_i settled
      cases h
      refine ⟨swapId,.null,.settled,rfl,named,⟨none,rfl⟩,?_⟩
      rw [if_pos settled]
      cases processSwapEvent cfg db .settled (ownData record swapId) .null now <;> rfl
    · rename_i open_
      have other := (terminalEvent?_ne h).2
      refine ⟨swapId,if type = .rejected then reasonJson response else .null,.terminal type,rfl,
        named,SweepLocks.keyText_reason type response,?_⟩
      rw [if_neg open_,h]
      dsimp only
      unfold afterEvent
      simp only [if_neg other]
      cases processSwapEvent cfg db type (ownData record swapId)
        (if type = .rejected then reasonJson response else .null) now <;> rfl
  · cases h

theorem sweepRecord_open (cfg : Config) (db : Db) (now : Instant) (h : ended? record answer = none) :
    ∃ done verdict, sweepRecord cfg db record answer now = .ok (done,verdict) ∧
      (done = db ∨ ∃ reason, done = expireRecord cfg db record reason now) := by
  unfold sweepRecord
  split
  · exact ⟨_,_,rfl,.inr ⟨_,rfl⟩⟩
  split
  · exact ⟨_,_,rfl,.inl rfl⟩
  rename_i swapId id
  split
  · exact ⟨_,_,rfl,.inl rfl⟩
  rename_i named
  split
  · split
    · exact ⟨_,_,rfl,.inr ⟨_,rfl⟩⟩
    · exact ⟨_,_,rfl,.inl rfl⟩
  · rename_i response
    split
    · exact ⟨_,_,rfl,.inl rfl⟩
    rename_i same
    unfold ended? at h
    rw [id] at h
    dsimp only at h ⊢
    rw [if_neg (not_or.mpr ⟨named,same⟩)] at h
    split at h
    · cases h
    rename_i open_
    rw [if_neg open_,h]
    dsimp only
    split <;> exact ⟨_,_,rfl,.inl rfl⟩
  · exact ⟨_,_,rfl,.inl rfl⟩

/-- The end of a swap ends the record that carries its swapId. -/
theorem event_stored (named : swapId ≠ "") (found : withSwapId? db.market.swaps swapId = some r)
    {rejection : Json} {out : Option SwapRecord} (ends : type ≠ .proposed)
    (h : processSwapEvent cfg db type (ownData record swapId) rejection now = .ok (db',out)) :
    ∃ s, s.idpk = r.idpk ∧ s.swapId = r.swapId ∧ s.status.terminal ∧
      db'.market.swaps = db.market.swaps.set s := by
  have known := SweepLocks.correlate_ownData record named found
  cases processSwapEvent_spec h with
  | unknown other _ => cases known.symm.trans other
  | revised r' s own terminal deal id _ status _ desk =>
    cases known.symm.trans own
    refine ⟨s,deal.idpk,id,?_,congrArg (fun d : Desk => d.market.swaps) desk⟩
    rw [status]
    split
    · rfl
    · exact terminal
  | moved r' s swapId' own _ _ deal status id _ _ desk =>
    cases known.symm.trans own
    refine ⟨s,deal.idpk,?_,?_,?_⟩
    · rw [id]
      unfold learn
      rw [SweepLocks.known_of_found named found]
      rfl
    · rw [status]
      cases type with
      | proposed => exact absurd rfl ends
      | settled | rejected | expired | cancelled => rfl
    · have swaps := congrArg (fun d : Desk => d.market.swaps) desk
      exact swaps.trans (by rw [Market.setSwap,swaps_carried])

/-- What the books owe to the end of a swap. -/
def booked (cfg : Config) (books : Books) (type : EventType) (record : SwapRecord) : Result Books :=
  if type = .settled then CycleAccounting.applySwapSettled cfg books record else .ok books

theorem event_books (named : swapId ≠ "") (found : withSwapId? db.market.swaps swapId = some r)
    (live : r.status.terminal = false) {rejection : Json} {out : Option SwapRecord}
    (h : processSwapEvent cfg db type (ownData record swapId) rejection now = .ok (db',out)) :
    booked cfg db.books type r = .ok db'.books := by
  rw [SweepLocks.event_live named found live] at h
  obtain ⟨⟨done,s⟩,moved,h⟩ := Fallible.map_ok.mp h
  cases h
  unfold booked
  unfold transition at moved
  cases type with
  | proposed =>
    cases moved
    rfl
  | settled =>
    obtain ⟨books,posted,moved⟩ := Fallible.bind_ok.mp moved
    rw [SweepLocks.applySwapSettled_learned db.books (SweepLocks.known_of_found named found) _] at posted
    cases moved
    rw [if_pos rfl,posted]
    unfold storeRecord
    dsimp only
    rw [Received.moveReservation_books]
  | rejected =>
    obtain ⟨reason,_,moved⟩ := Fallible.bind_ok.mp moved
    cases moved
    unfold storeRecord
    dsimp only
    rw [Received.moveReservation_books]
    rfl
  | expired | cancelled =>
    cases moved
    unfold storeRecord
    dsimp only
    rw [Received.moveReservation_books]
    rfl

theorem expireRecord_stored (cfg : Config) (now : Instant)
    (here : db.market.swaps.get? record.idpk = some record) (reason : String) : ∃ s, s.idpk = record.idpk ∧ s.swapId = record.swapId ∧
      (expireRecord cfg db record reason now).market.swaps = db.market.swaps.set s ∧
      (expireRecord cfg db record reason now).books = db.books := by
  cases live : record.status.terminal with
  | true =>
    unfold expireRecord
    rw [if_pos live]
    exact ⟨record,rfl,rfl,(Table.set_eq_self here).symm,rfl⟩
  | false =>
    have desk := @expireRecord_desk cfg db record reason now live
    refine ⟨{ record with status := .expired, rejectionReason := some reason },rfl,rfl,
      (congrArg (fun d : Desk => d.market.swaps) desk).trans ?_,?_⟩
    · dsimp only
      rw [Market.swaps_setBidExpired,swaps_moved]
      rfl
    · unfold expireRecord closeBid
      simp only [live,Bool.false_eq_true,if_false,Received.moveReservation_books]
      rfl

/-- The turn of an open swap changes its own record only. -/
theorem turn_open (cfg : Config) (now : Instant)
    (here : db.market.swaps.get? record.idpk = some record)
    (open_ : ended? record answer = none) :
    ∃ done verdict s, sweepRecord cfg db record answer now = .ok (done,verdict) ∧
      s.idpk = record.idpk ∧ s.swapId = record.swapId ∧
      done.market.swaps = db.market.swaps.set s ∧ done.books = db.books := by
  obtain ⟨done,verdict,h,rfl | ⟨reason,rfl⟩⟩ := sweepRecord_open cfg db now open_
  · exact ⟨_,verdict,record,h,rfl,rfl,(Table.set_eq_self here).symm,rfl⟩
  · obtain ⟨s,idpk,id,swaps,books⟩ := expireRecord_stored cfg now here reason
    exact ⟨_,verdict,s,h,idpk,id,swaps,books⟩

/-- The turn of an ended swap changes the first record that carries its swapId. -/
theorem turn_ended (here : record ∈ db.market.swaps) (ends : ended? record answer = some type)
    (h : sweepRecord cfg db record answer now = .ok (db',verdict)) :
    ∃ r s, record.swapId.bind (withSwapId? db.market.swaps) = some r ∧ s.idpk = r.idpk ∧
      s.swapId = r.swapId ∧ s.status.terminal ∧ db'.market.swaps = db.market.swaps.set s ∧
      (r.status.terminal = false → booked cfg db.books type r = .ok db'.books) := by
  obtain ⟨swapId,rejection,verdict',id,named,_,eq⟩ := sweepRecord_ended cfg db now ends
  rw [eq] at h
  obtain ⟨⟨done,out⟩,event,h⟩ := Fallible.map_ok.mp h
  obtain ⟨r,found⟩ := SweepLocks.found_of_known here id
  obtain ⟨s,idpk,id',terminal,swaps⟩ := event_stored named found (ended?_ne ends) event
  have after : db'.market.swaps = done.market.swaps ∧ db'.books = done.books := by
    cases h
    unfold afterEvent closeBid
    split
    · exact ⟨rfl,rfl⟩
    · exact ⟨Market.swaps_setBidExpired .. ,rfl⟩
  refine ⟨r,s,by rw [id]; exact found,idpk,id',terminal,after.1.trans swaps,fun live => ?_⟩
  rw [after.2]
  exact event_books named found live event

/-- It raises only when the books refuse the settlement. -/
theorem turn_booked (now : Instant) (ends : ended? record answer = some type)
    (found : record.swapId.bind (withSwapId? db.market.swaps) = some r) {books : Books}
    (booked_ : booked cfg db.books type r = .ok books) :
    ∃ done, sweepRecord cfg db record answer now = .ok done := by
  obtain ⟨swapId,rejection,verdict',id,named,text,eq⟩ := sweepRecord_ended cfg db now ends
  rw [id] at found
  obtain ⟨done,event⟩ := SweepLocks.event_done cfg now record type named found text
    fun settled _ => ⟨books,by
      unfold booked at booked_
      rwa [if_pos settled] at booked_⟩
  rw [eq,event]
  exact ⟨_,rfl⟩

end Turn

/-! ### What the sweep of some records reaches -/

section Reach
variable {cfg : Config} {db db' : Db} {answers : String → GetAnswer} {now : Instant}
  {record : SwapRecord} {records : List SwapRecord}

/-- The identifiers of the records, in the order of their ids. -/
def keys (db : Db) : List (String × Option String) :=
  db.market.swaps.rows.map fun r => (r.idpk,r.swapId)

theorem keys_set {s r : SwapRecord} (here : r ∈ db.market.swaps) (idpk : s.idpk = r.idpk)
    (id : s.swapId = r.swapId) (swaps : db'.market.swaps = db.market.swaps.set s) :
    keys db' = keys db := by
  unfold keys
  rw [swaps]
  show ((db.market.swaps.rows.map _).map _) = _
  rw [List.map_map]
  refine List.map_congr_left fun c hc => ?_
  rw [Function.comp_apply]
  split
  · rename_i same
    rw [Table.eq_of_key hc here (same.trans idpk),idpk,id]
  · rfl

theorem get?_keys (same : keys db' = keys db) (k : String) :
    (db'.market.swaps.get? k).map SwapRecord.swapId =
      (db.market.swaps.get? k).map SwapRecord.swapId := by
  have first (d : Db) : (d.market.swaps.get? k).map SwapRecord.swapId =
      ((keys d).find? fun row => row.1 = k).map Prod.snd := by
    unfold keys Table.get?
    rw [List.find?_map,Option.map_map]
    rfl
  rw [first,first,same]

theorem withSwapId?_keys (same : keys db' = keys db) (swapId : String) :
    (withSwapId? db'.market.swaps swapId).map SwapRecord.idpk =
      (withSwapId? db.market.swaps swapId).map SwapRecord.idpk := by
  have first (d : Db) : (withSwapId? d.market.swaps swapId).map SwapRecord.idpk =
      ((keys d).find? fun row => row.2 = some swapId).map Prod.fst := by
    unfold keys withSwapId?
    rw [List.find?_map,Option.map_map]
    rfl
  rw [first,first,same]

theorem ended?_congr {r s : SwapRecord} (same : s.swapId = r.swapId) (answer : GetAnswer) :
    ended? s answer = ended? r answer := by
  unfold ended?
  rw [same]

/-- The record that the turn of `idpk` may change. -/
def target (answers : String → GetAnswer) (db : Db) (idpk : String) : Option String :=
  (db.market.swaps.get? idpk).bind fun record =>
    match ended? record (answers idpk) with
    | none => some idpk
    | some _ => (record.swapId.bind (withSwapId? db.market.swaps)).map SwapRecord.idpk

theorem target_congr (same : keys db' = keys db) (idpk : String) :
    target answers db' idpk = target answers db idpk := by
  have row := get?_keys same idpk
  unfold target
  cases new : db'.market.swaps.get? idpk with
  | none =>
    rw [new,Option.map_none,eq_comm,Option.map_eq_none_iff] at row
    rw [row]
    rfl
  | some s =>
    rw [new,Option.map_some,eq_comm,Option.map_eq_some_iff] at row
    obtain ⟨r,old,id⟩ := row
    rw [old,Option.bind_some,Option.bind_some,ended?_congr id.symm]
    cases ended? r (answers idpk) with
    | none => rfl
    | some type =>
      dsimp only
      rw [id]
      cases s.swapId with
      | none => rfl
      | some swapId => exact withSwapId?_keys same swapId

/-- The database after the turn of a record; no turn reads what waits for a flush. -/
def afterTurn (cfg : Config) (now : Instant) (answers : String → GetAnswer) (db : Db)
    (record : SwapRecord) : Result Db :=
  (expireOne cfg now answers db [] record.idpk).result.map Prod.fst

/-- The database after the turns of the records. -/
def afterSweep (cfg : Config) (now : Instant) (answers : String → GetAnswer) (db : Db)
    (records : List SwapRecord) : Result Db :=
  (sweep cfg now answers db [] records).result.map Prod.fst

theorem result_expireOne (unflushed : List Lock) :
    (expireOne cfg now answers db unflushed record.idpk).result.map Prod.fst =
      match db.market.swaps.get? record.idpk with
      | none => .ok db
      | some found => (sweepRecord cfg db found (answers record.idpk) now).map Prod.fst := by
  cases here : db.market.swaps.get? record.idpk with
  | none =>
    unfold expireOne
    rw [here]
    rfl
  | some found =>
    have key := Table.key_of_get? here
    rw [← key] at here ⊢
    rw [SweepLocks.expireOne_eq here]
    dsimp only
    cases sweepRecord cfg db found (answers found.idpk) now <;> rfl

theorem afterTurn_eq {found : SwapRecord} (here : db.market.swaps.get? record.idpk = some found) :
    afterTurn cfg now answers db record =
      (sweepRecord cfg db found (answers record.idpk) now).map Prod.fst := by
  unfold afterTurn
  rw [result_expireOne,here]

theorem result_sweep (unflushed : List Lock) :
    (sweep cfg now answers db unflushed records).result.map Prod.fst =
      afterSweep cfg now answers db records := by
  induction records generalizing db unflushed with
  | nil => rfl
  | cons record records ih =>
    have step (waiting : List Lock) :
        (sweep cfg now answers db waiting (record :: records)).result.map Prod.fst =
          (expireOne cfg now answers db waiting record.idpk).result.map Prod.fst >>= fun db =>
            afterSweep cfg now answers db records := by
      change (Traced.bind (expireOne cfg now answers db waiting record.idpk) fun done =>
        sweep cfg now answers done.1 done.2 records).result.map Prod.fst = _
      unfold Traced.bind
      cases (expireOne cfg now answers db waiting record.idpk).result with
      | error e => rfl
      | ok done => exact ih done.2
    rw [afterSweep,step,step,result_expireOne,result_expireOne]

theorem turn_frame (h : afterTurn cfg now answers db record = .ok db') :
    keys db' = keys db ∧ ∀ k, target answers db record.idpk ≠ some k →
      db'.market.swaps.get? k = db.market.swaps.get? k := by
  cases here : db.market.swaps.get? record.idpk with
  | none =>
    unfold afterTurn at h
    rw [result_expireOne,here] at h
    cases h
    exact ⟨rfl,fun _ _ => rfl⟩
  | some found =>
    have key : found.idpk = record.idpk := Table.key_of_get? here
    rw [afterTurn_eq here] at h
    obtain ⟨⟨done,verdict⟩,swept,rfl⟩ := Fallible.map_ok.mp h
    unfold target
    rw [here,Option.bind_some]
    cases ends : ended? found (answers record.idpk) with
    | none =>
      obtain ⟨_,_,s,turn,idpk,id,swaps,_⟩ := turn_open cfg now (key ▸ here) ends
      cases turn.symm.trans swept
      refine ⟨keys_set (Table.mem_of_get? here) idpk id swaps,fun k other => ?_⟩
      rw [swaps]
      exact Table.get?_set_ne _ fun same => other (by rw [← same,idpk,key])
    | some type =>
      obtain ⟨r,s,own,idpk,id,_,swaps,_⟩ := turn_ended (Table.mem_of_get? here) ends swept
      obtain ⟨swapId,_,carried⟩ := Option.bind_eq_some_iff.mp own
      refine ⟨keys_set (List.mem_of_find?_eq_some carried) idpk id swaps,fun k other => ?_⟩
      dsimp only at other
      rw [own,Option.map_some] at other
      rw [swaps]
      exact Table.get?_set_ne _ fun same => other (by rw [← same,idpk])

theorem afterSweep_cons (records : List SwapRecord) : afterSweep cfg now answers db (record :: records) =
    afterTurn cfg now answers db record >>= fun db' => afterSweep cfg now answers db' records := by
  change (Traced.bind (expireOne cfg now answers db [] record.idpk) fun done =>
    sweep cfg now answers done.1 done.2 records).result.map Prod.fst = _
  unfold Traced.bind afterTurn
  cases (expireOne cfg now answers db [] record.idpk).result with
  | error e => rfl
  | ok done => exact result_sweep done.2

/-- A record that no turn is about stays as it was. -/
theorem sweep_frame (h : afterSweep cfg now answers db records = .ok db') {k : String}
    (aside : ∀ e ∈ records, target answers db e.idpk ≠ some k) :
    db'.market.swaps.get? k = db.market.swaps.get? k := by
  induction records generalizing db with
  | nil =>
    cases h
    rfl
  | cons record records ih =>
    rw [afterSweep_cons] at h
    obtain ⟨mid,first,rest⟩ := Fallible.bind_ok.mp h
    obtain ⟨same,frame⟩ := turn_frame first
    rw [ih rest fun e he => by
      rw [target_congr same]
      exact aside e (List.mem_cons_of_mem record he)]
    exact frame k (aside record (List.mem_cons_self ..))

/-- The entry a turn makes in the books. -/
def booking (cfg : Config) (answers : String → GetAnswer) (books : Books) (record : SwapRecord) :
    Result Books :=
  if settles answers record then CycleAccounting.applySwapSettled cfg books record else .ok books

theorem booking_eq {type : EventType} (ends : ended? record (answers record.idpk) = some type)
    (books : Books) : booking cfg answers books record = booked cfg books type record := by
  unfold booking booked settles
  rw [ends]
  simp

/-- Live records that are untouched so far, each the first to carry its swapId. -/
structure Ahead (answers : String → GetAnswer) (db : Db) (records : List SwapRecord) : Prop where
  keys : (records.map SwapRecord.idpk).Nodup
  stored : ∀ e ∈ records, db.market.swaps.get? e.idpk = some e
  live : ∀ e ∈ records, e.status.terminal = false
  own : ∀ e ∈ records, (ended? e (answers e.idpk)).isSome →
    e.swapId.bind (withSwapId? db.market.swaps) = some e

theorem Ahead.target (ahead : Ahead answers db records) {e : SwapRecord} (he : e ∈ records) :
    target answers db e.idpk = some e.idpk := by
  unfold SweepProgress.target
  rw [ahead.stored e he,Option.bind_some]
  cases ends : ended? e (answers e.idpk) with
  | none => rfl
  | some type =>
    dsimp only
    rw [ahead.own e he (by rw [ends]; rfl),Option.map_some]

theorem Ahead.other (ahead : Ahead answers db (record :: records)) {e : SwapRecord}
    (he : e ∈ records) : record.idpk ≠ e.idpk := by
  intro same
  have fresh := (List.nodup_cons.mp ahead.keys).1
  exact fresh (same ▸ List.mem_map_of_mem he)

theorem Ahead.tail (ahead : Ahead answers db (record :: records))
    (h : afterTurn cfg now answers db record = .ok db') : Ahead answers db' records := by
  obtain ⟨same,frame⟩ := turn_frame h
  have stays {e : SwapRecord} (he : e ∈ records) :
      db'.market.swaps.get? e.idpk = db.market.swaps.get? e.idpk := by
    refine frame e.idpk ?_
    rw [ahead.target (List.mem_cons_self ..)]
    exact fun h => ahead.other he (Option.some.inj h)
  have stored (e : SwapRecord) (he : e ∈ records) : db'.market.swaps.get? e.idpk = some e :=
    (stays he).trans (ahead.stored e (List.mem_cons_of_mem record he))
  refine ⟨(List.nodup_cons.mp ahead.keys).2,stored,
    fun e he => ahead.live e (List.mem_cons_of_mem record he),fun e he ends => ?_⟩
  have before := ahead.own e (List.mem_cons_of_mem record he) ends
  cases id : e.swapId with
  | none =>
    rw [id] at before
    cases before
  | some swapId =>
    rw [id,Option.bind_some] at before
    have first := withSwapId?_keys same swapId
    rw [before,Option.map_some,Option.map_eq_some_iff] at first
    obtain ⟨found,carried,key⟩ := first
    have row := Table.get?_of_mem (List.mem_of_find?_eq_some carried)
    rw [key,stored e he,Option.some.injEq] at row
    rw [Option.bind_some,carried,row]

/-- The turn of a record that is ahead completes when the books take its entry. -/
theorem turn_ahead (cfg : Config) (now : Instant)
    (ahead : Ahead answers db (record :: records)) :
    (∀ books, booking cfg answers db.books record = .ok books →
      ∃ db', afterTurn cfg now answers db record = .ok db') ∧
    ∀ db', afterTurn cfg now answers db record = .ok db' →
      booking cfg answers db.books record = .ok db'.books ∧
        ((ended? record (answers record.idpk)).isSome → resolved db' record.idpk) := by
  have head := List.mem_cons_self (a := record) (l := records)
  have here := ahead.stored record head
  rw [afterTurn_eq here]
  cases ends : ended? record (answers record.idpk) with
  | none =>
    have quiet : settles answers record = false := by
      unfold settles
      rw [ends]
      rfl
    obtain ⟨done,verdict,s,turn,_,_,_,books⟩ := turn_open cfg now here ends
    rw [turn]
    refine ⟨fun _ _ => ⟨done,rfl⟩,fun db' h => ?_⟩
    cases h
    unfold booking
    rw [quiet,books]
    exact ⟨rfl,fun none => by cases none⟩
  | some type =>
    have own := ahead.own record head (by rw [ends]; rfl)
    refine ⟨fun books taken => ?_,fun db' h => ?_⟩
    · rw [booking_eq ends] at taken
      obtain ⟨done,swept⟩ := turn_booked now ends own taken
      rw [swept]
      exact ⟨done.1,rfl⟩
    · obtain ⟨⟨done,verdict⟩,swept,rfl⟩ := Fallible.map_ok.mp h
      obtain ⟨r,s,own',idpk,_,terminal,swaps,books⟩ := turn_ended (Table.mem_of_get? here) ends swept
      rw [own,Option.some.injEq] at own'
      subst own'
      refine ⟨(booking_eq ends _).trans (books (ahead.live record head)),fun _ => ?_⟩
      unfold resolved
      rw [swaps,← idpk,Table.get?_set_self (b := record) (by rw [idpk]; exact here),Option.map_some,
        terminal]
      exact decide_eq_true rfl

/-- The sweep of records that are ahead resolves every one whose swap has ended,
unless the books refuse an entry. -/
theorem sweep_ahead (cfg : Config) (now : Instant) (ahead : Ahead answers db records) :
    ((∃ db', afterSweep cfg now answers db records = .ok db') ↔
      ∃ books, records.foldlM (booking cfg answers) db.books = .ok books) ∧
    ∀ db', afterSweep cfg now answers db records = .ok db' →
      ∀ e ∈ records, (ended? e (answers e.idpk)).isSome → resolved db' e.idpk := by
  induction records generalizing db with
  | nil => exact ⟨⟨fun _ => ⟨db.books,rfl⟩,fun _ => ⟨db,rfl⟩⟩,fun _ _ e he => nomatch he⟩
  | cons record records ih =>
    obtain ⟨completes,turn⟩ := turn_ahead cfg now ahead
    rw [afterSweep_cons]
    simp only [List.foldlM_cons,Fallible.bind_ok]
    refine ⟨⟨?_,?_⟩,?_⟩
    · rintro ⟨db',mid,first,rest⟩
      obtain ⟨books,later⟩ := (ih (ahead.tail first)).1.mp ⟨db',rest⟩
      exact ⟨books,mid.books,(turn mid first).1,later⟩
    · rintro ⟨books,taken,first,rest⟩
      obtain ⟨mid,done⟩ := completes taken first
      have same := Except.ok.inj (first.symm.trans (turn mid done).1)
      obtain ⟨db',later⟩ := (ih (ahead.tail done)).1.mpr ⟨books,same ▸ rest⟩
      exact ⟨db',mid,done,later⟩
    · rintro db' ⟨mid,first,rest⟩ e he ends
      have next := ahead.tail first
      rcases List.mem_cons.mp he with rfl | he
      · have still := sweep_frame rest (k := e.idpk) fun other hother => by
          rw [next.target hother]
          exact fun h => ahead.other hother (Option.some.inj h).symm
        unfold resolved
        rw [still]
        exact (turn mid first).2 ends
      · exact (ih next).2 db' rest e he ends

end Reach

/-! ### One call -/

section Call
variable {cfg : Config} {db db' : Db} {answers : String → GetAnswer} {now : Instant} {limit : Nat}

theorem expireStale_result : (expireStaleSwaps cfg now answers db limit).result =
    (afterSweep cfg now answers db (staleRecords now db limit)).map (expireBids cfg · now) := by
  change (Traced.bind (sweep cfg now answers db [] (staleRecords now db limit)) _).result = _
  unfold Traced.bind afterSweep
  cases (sweep cfg now answers db [] (staleRecords now db limit)).result <;> rfl

/-- One call resolves every stale record whose swap has ended, if the limit allows
as many. -/
def Progresses (cfg : Config) (now : Instant) (answers : String → GetAnswer) (db : Db)
    (limit : Nat) : Prop :=
  (resolvables now answers db).length ≤ limit →
    ∃ db', (expireStaleSwaps cfg now answers db limit).result = .ok db' ∧
      ∀ r ∈ resolvables now answers db, resolved db' r.idpk

/-- Every such record is among the first stale ones, no earlier one carries its
swapId, and the books take the settlements of those examined. -/
structure Reaches (cfg : Config) (now : Instant) (answers : String → GetAnswer) (db : Db)
    (limit : Nat) : Prop where
  examined : ∀ r ∈ resolvables now answers db, r ∈ staleRecords now db limit
  own : ∀ r ∈ resolvables now answers db, r.swapId.bind (withSwapId? db.market.swaps) = some r
  posted : ∃ books, (staleRecords now db limit).foldlM (booking cfg answers) db.books = .ok books

theorem mem_resolvables {r : SwapRecord} : r ∈ resolvables now answers db ↔
    r ∈ db.market.swaps ∧ stale r now = true ∧ (ended? r (answers r.idpk)).isSome := by
  unfold resolvables resolvable
  rw [List.mem_filter,Bool.and_eq_true]
  rfl

theorem live_of_stale {r : SwapRecord} (h : stale r now = true) : r.status.terminal = false := by
  unfold stale at h
  rw [Bool.and_eq_true,Bool.not_eq_true'] at h
  exact h.1

/-- A record beyond the limit, or behind another of its swapId, stays open. -/
theorem unreached {r : SwapRecord} (hr : r ∈ resolvables now answers db)
    (missed : ¬ (r ∈ staleRecords now db limit ∧
      r.swapId.bind (withSwapId? db.market.swaps) = some r))
    (h : (expireStaleSwaps cfg now answers db limit).result = .ok db') :
    resolved db' r.idpk = false := by
  obtain ⟨here,due,ends⟩ := mem_resolvables.mp hr
  rw [expireStale_result] at h
  obtain ⟨swept,run,rfl⟩ := Fallible.map_ok.mp h
  have aside : ∀ e ∈ staleRecords now db limit, target answers db e.idpk ≠ some r.idpk := by
    intro e he about
    obtain ⟨there,_⟩ := List.mem_filter.mp (List.mem_of_mem_take he)
    unfold target at about
    rw [Table.get?_of_mem there,Option.bind_some] at about
    cases end_ : ended? e (answers e.idpk) with
    | none =>
      rw [end_] at about
      have same := Table.eq_of_key there here (Option.some.inj about)
      rw [← same,end_] at ends
      cases ends
    | some type =>
      rw [end_] at about
      dsimp only at about
      obtain ⟨found,first,key⟩ := Option.map_eq_some_iff.mp about
      obtain ⟨swapId,id,first⟩ := Option.bind_eq_some_iff.mp first
      have same := Table.eq_of_key (List.mem_of_find?_eq_some first) here key
      subst same
      have carries := SweepLocks.swapId_of_found first
      refine missed ⟨mem_take_of_find? first he (decide_eq_true id) due,?_⟩
      rw [carries,Option.bind_some,first]
  unfold resolved
  rw [show (expireBids cfg swept now).market.swaps = swept.market.swaps from rfl,
    sweep_frame run aside,Table.get?_of_mem here,Option.map_some,live_of_stale due]
  rfl

theorem ahead_of_own (limit : Nat)
    (own : ∀ r ∈ resolvables now answers db, r.swapId.bind (withSwapId? db.market.swaps) = some r) :
    Ahead answers db (staleRecords now db limit) where
  keys := by
    unfold staleRecords
    exact db.market.swaps.nodup.sublist
      (((List.take_sublist _ _).trans List.filter_sublist).map _)
  stored e he := Table.get?_of_mem (List.mem_filter.mp (List.mem_of_mem_take he)).1
  live e he := live_of_stale (List.mem_filter.mp (List.mem_of_mem_take he)).2
  own e he ends :=
    have listed := List.mem_filter.mp (List.mem_of_mem_take he)
    own e (mem_resolvables.mpr ⟨listed.1,listed.2,ends⟩)

/-- One call resolves all of them exactly when it reaches them all. -/
theorem sweep_progress (cfg : Config) (now : Instant) (answers : String → GetAnswer) (db : Db)
    (limit : Nat) : Progresses cfg now answers db limit ↔
      limit < (resolvables now answers db).length ∨ Reaches cfg now answers db limit := by
  constructor
  · intro progress
    by_cases many : limit < (resolvables now answers db).length
    · exact .inl many
    obtain ⟨db',h,all⟩ := progress (not_lt.mp many)
    have reached (r : SwapRecord) (hr : r ∈ resolvables now answers db) :
        r ∈ staleRecords now db limit ∧
          r.swapId.bind (withSwapId? db.market.swaps) = some r := by
      by_contra missed
      have done := all r hr
      rw [unreached hr missed h] at done
      cases done
    have own := fun r hr => (reached r hr).2
    rw [expireStale_result] at h
    obtain ⟨swept,h,_⟩ := Fallible.map_ok.mp h
    exact .inr ⟨fun r hr => (reached r hr).1,own,(sweep_ahead cfg now (ahead_of_own limit own)).1.mp ⟨swept,h⟩⟩
  · rintro (many | reaches) few
    · exact absurd few (not_le.mpr many)
    · obtain ⟨completes,resolves⟩ :=
        sweep_ahead cfg now (ahead_of_own limit reaches.own)
      obtain ⟨swept,h⟩ := completes.mpr reaches.posted
      refine ⟨expireBids cfg swept now,?_,fun r hr => ?_⟩
      · rw [expireStale_result,h]
        rfl
      · exact resolves swept h r (reaches.examined r hr) (mem_resolvables.mp hr).2.2

end Call

/-! ### A proposal without an answer -/

def shop : Env := Node.offline "AAA" ["83000000-0000-0000-0000-0000000000a1",Node.lease]

/-- The proposal of the first sale got no answer; the wallet calls the second `s2`. -/
def unanswered : Db :=
  Lib.run (Node.step shop) (Node.opened "C1")
    (.sellerOffer "C1" 100 0 ::
      .ingest (Node.bidMessage "83000000-0000-0000-0000-000000000001"
        "83000000-0000-0000-0000-000000000002" "C1" "BBB" "AAA-C1" 30) 1 ::
      .claimProposal [] 1 ::
      Node.proposed "83000000-0000-0000-0000-000000000003" "83000000-0000-0000-0000-000000000004"
        "s2" 30 2)

/-- The wallet reports the second swap as expired. -/
def secondExpired (idpk : String) : GetAnswer :=
  if idpk = "83000000-0000-0000-0000-000000000003" then
    .body (.obj [("swapId",.str "s2"),("status",.str "expired")])
  else .error none

/-- With a limit of one, the first record takes every turn. -/
theorem expired_swap_starved : ¬ Progresses shop.cfg (seconds 100) secondExpired unanswered 1 := by
  intro progress
  have listed : (resolvables (seconds 100) secondExpired unanswered).map SwapRecord.idpk =
      ["83000000-0000-0000-0000-000000000003"] := by decide +kernel
  have open_ : ((expireStaleSwaps shop.cfg (seconds 100) secondExpired unanswered 1).result.map
      fun db => resolved db "83000000-0000-0000-0000-000000000003") = .ok false := by decide +kernel
  obtain ⟨db',h,all⟩ := progress (by
    rw [← List.length_map SwapRecord.idpk,listed]
    exact le_rfl)
  obtain ⟨r,hr,key⟩ := List.mem_map.mp (listed ▸ List.mem_singleton_self _)
  have done := all r hr
  rw [key] at done
  rw [h] at open_
  have still : resolved db' "83000000-0000-0000-0000-000000000003" = false := Except.ok.inj open_
  rw [still] at done
  cases done

end SweepProgress

end EnergyNode
