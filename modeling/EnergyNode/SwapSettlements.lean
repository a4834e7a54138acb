import EnergyNode.FeedConfluence
import EnergyNode.ReportWindow
import EnergyNode.SingleOperation
import EnergyNode.SwapEntries

/-! The entries of settled swaps over a run. A record stays settled once it is, so
each one posts one entry at most, with the legs it still carries. -/
namespace EnergyNode
open Lib Ledger WalletEvents

namespace SwapEntries
open CycleAccounting SingleOperation

/-- The entry of a settled record: its cycle, its legs and, where known, its swap. -/
structure Settles (r : SwapRecord) (e : LedgerEntry) : Prop where
  status : r.status = .settled
  cycle : e.cycleId = r.cycleId
  deltas : assetEffects r = some (e.budgetDelta,e.energyDelta)
  swap : ∀ id, e.details.swapId = some id → id ≠ "" → r.swapId = some id

theorem Settles.next {r s : SwapRecord} {e : LedgerEntry} (h : Settles r e) (frozen : Frozen r s)
    (status : s.status = .settled) : Settles s e where
  status := status
  cycle := h.cycle.trans frozen.deal.cycleId.symm
  deltas := by
    unfold assetEffects
    rw [frozen.deal.giveAsset,frozen.deal.giveAmount,frozen.deal.takeAsset,frozen.deal.takeAmount]
    exact h.deltas
  swap := by
    intro id carried named
    have known := h.swap id carried named
    rw [frozen.swapId (by simp [blank,known,named]),known]

theorem settled_deal {m : Market} {Q : Cause → Prop} {k : String} {d e : Deal}
    (move : DealMove m Q k d e) {r : SwapRecord} (hr : d.swap = some r)
    (status : r.status = .settled) : ∃ s, e.swap = some s ∧ s.status = .settled := by
  have final : r.status.terminal = true := by
    rw [status]
    rfl
  have ended (live : r.status.terminal = false) : False := by
    rw [final] at live
    cases live
  cases move with
  | still | arrived | rejected | own | closed | answered => exact ⟨r,hr,status⟩
  | reserved | taken => cases hr
  | event _ _ _ _ _ _ _ _ _ live =>
    cases hr
    exact (ended live).elim
  | revised _ s type _ _ _ _ _ _ _ _ _ after =>
    cases hr
    refine ⟨s,rfl,?_⟩
    rw [after,status]
    split <;> rfl
  | expired _ _ _ _ _ live =>
    cases hr
    exact (ended live).elim
  | kept _ s _ _ after =>
    cases hr
    rcases after with same | ⟨live,_⟩
    · exact ⟨s,rfl,same.trans status⟩
    · exact (ended live).elim
  | claimed _ _ _ _ before =>
    cases hr
    rw [status] at before
    cases before
  | refused _ _ _ _ _ _ _ _ live =>
    cases hr
    exact (ended live).elim

theorem settled_moves {cfg : Config} {P : Market → Cause → Prop} {d d' : Desk}
    (moves : Moves cfg P d d') {k : String} {r : SwapRecord}
    (hr : d.market.swaps.get? k = some r) (status : r.status = .settled) :
    ∃ s, d'.market.swaps.get? k = some s ∧ Frozen r s ∧ s.status = .settled := by
  induction moves with
  | refl => exact ⟨r,hr,.refl r,status⟩
  | tail _ move ih =>
    obtain ⟨s,hs,frozen,status⟩ := ih
    have next := Market.deal_move move k
    obtain ⟨u,hu,frozen'⟩ := frozen_deal next hs
    obtain ⟨u',hu',status⟩ := settled_deal next hs status
    cases hu.symm.trans hu'
    exact ⟨u,hu,frozen.trans frozen',status⟩

/-- The entry of a record that settled between the two states. -/
def Posts (db db' : Db) (k : String) (e : LedgerEntry) : Prop :=
  (∀ r, db.market.swaps.get? k = some r → r.status ≠ .settled) ∧
    ∃ s, db'.market.swaps.get? k = some s ∧ Settles s e

/-- Settled records stay, and the new entries are of records that settled since. -/
structure Settling (db db' : Db) : Prop where
  kept : ∀ k r, db.market.swaps.get? k = some r → r.status = .settled →
    ∃ s, db'.market.swaps.get? k = some s ∧ Frozen r s ∧ s.status = .settled
  posted : ∃ ks : List String, ks.Nodup ∧ ∃ new,
    swapEntries db'.books = swapEntries db.books ++ new ∧ List.Forall₂ (Posts db db') ks new

variable {cfg : Config} {jwt : Jwt} {db mid db' : Db} {now : Instant}

/-! ### Composition -/

theorem Posts.later {k : String} {e : LedgerEntry} (h : Posts db mid k e) (k' : Settling mid db') :
    Posts db db' k e := by
  obtain ⟨fresh,s,hs,settles⟩ := h
  obtain ⟨u,hu,frozen,status⟩ := k'.kept k s hs settles.status
  exact ⟨fresh,u,hu,settles.next frozen status⟩

theorem Posts.earlier {k : String} {e : LedgerEntry} (h : Settling db mid) (p : Posts mid db' k e) :
    Posts db db' k e := by
  refine ⟨?_,p.2⟩
  intro r hr status
  obtain ⟨s,hs,_,still⟩ := h.kept k r hr status
  exact p.1 s hs still

theorem exists_of_mem_left {α β : Type} {R : α → β → Prop} {as : List α} {bs : List β}
    (h : List.Forall₂ R as bs) {a : α} (ha : a ∈ as) : ∃ b ∈ bs, R a b := by
  induction h with
  | nil => cases ha
  | cons here _ ih =>
    rcases List.mem_cons.mp ha with rfl | later
    · exact ⟨_,List.mem_cons_self,here⟩
    · obtain ⟨b,hb,rel⟩ := ih later
      exact ⟨b,List.mem_cons_of_mem _ hb,rel⟩

theorem Settling.trans (h : Settling db mid) (k : Settling mid db') : Settling db db' where
  kept := by
    intro key r hr status
    obtain ⟨s,hs,frozen,status⟩ := h.kept key r hr status
    obtain ⟨u,hu,frozen',status⟩ := k.kept key s hs status
    exact ⟨u,hu,frozen.trans frozen',status⟩
  posted := by
    obtain ⟨ks,nodup,new,grown,posts⟩ := h.posted
    obtain ⟨ks',nodup',new',grown',posts'⟩ := k.posted
    refine ⟨ks ++ ks',List.nodup_append'.mpr ⟨nodup,nodup',?_⟩,new ++ new',?_,?_⟩
    · intro key here there
      obtain ⟨_,_,_,s,hs,settles⟩ := exists_of_mem_left posts here
      obtain ⟨_,_,fresh,_⟩ := exists_of_mem_left posts' there
      exact fresh s hs settles.status
    · rw [grown',grown,List.append_assoc]
    · exact List.rel_append (posts.imp fun _ _ p => p.later k)
        (posts'.imp fun _ _ p => Posts.earlier h p)

/-- The moves of the market alone. -/
abbrev Free : Market → Cause → Prop := fun _ _ => True

theorem Settling.of_moves {P : Market → Cause → Prop} (moves : Moves cfg P db.desk db'.desk)
    (same : swapEntries db'.books = swapEntries db.books) : Settling db db' where
  kept := fun _ _ hr status => settled_moves moves hr status
  posted := ⟨[],.nil,[],by rw [same,List.append_nil],.nil⟩

theorem Settling.of_books {P : Market → Cause → Prop} (moves : Moves cfg P db.desk db'.desk)
    (same : db'.books = db.books) : Settling db db' := .of_moves moves (by rw [same])

theorem Settling.of_desk (cfg : Config) (desk : db'.desk = db.desk)
    (same : swapEntries db'.books = swapEntries db.books) : Settling db db' := by
  have still : Moves cfg Free db.desk db'.desk := by rw [desk]
  exact .of_moves still same

theorem Settling.refl (db : Db) : Settling db db where
  kept := fun _ r hr status => ⟨r,hr,.refl r,status⟩
  posted := ⟨[],.nil,[],(List.append_nil _).symm,.nil⟩

/-! ### Wallet events -/

theorem swapEntries_settled {books books' : Books} {record : SwapRecord}
    (h : applySwapSettled cfg books record = .ok books') :
    swapEntries books' = swapEntries books ∨ ∃ cycle deltas, assetEffects record = some deltas ∧
      swapEntries books' = swapEntries books ++ [nextEntry cycle (swapEffect record deltas)] := by
  unfold applySwapSettled at h
  split at h
  · rename_i deltas _ legs
    obtain ⟨⟨done,rest⟩,applied,rfl⟩ := Fallible.map_ok.mp h
    rcases swapEntries_effect applied with same | ⟨_,cycle,grown⟩
    · exact .inl same
    · exact .inr ⟨cycle,deltas,legs,grown⟩
  · cases h
    exact .inl rfl

/-- An event posts the entry of a record it settles, or none. -/
def Entered (books books' : Books) (r s : SwapRecord) : Prop :=
  swapEntries books' = swapEntries books ∨
    r.status ≠ .settled ∧ ∃ e, Settles s e ∧ swapEntries books' = swapEntries books ++ [e]

theorem entered_settled {books books' : Books} {r record s : SwapRecord}
    (h : applySwapSettled cfg books record = .ok books') (before : r.status ≠ .settled)
    (legs : assetEffects s = assetEffects record) (cycle : s.cycleId = record.cycleId)
    (id : s.swapId = record.swapId) (status : s.status = .settled) : Entered books books' r s := by
  rcases swapEntries_settled h with same | ⟨cycle',deltas,hd,grown⟩
  · exact .inl same
  · refine .inr ⟨before,_,⟨status,cycle.symm,legs.trans hd,?_⟩,grown⟩
    intro swapId carried _
    exact id.trans carried

theorem entered_terminal {r s : SwapRecord} {type : EventType} {rejection : Json}
    (h : processTerminal cfg db r type rejection now = .ok (db',s)) :
    Entered db.books db'.books r s := by
  obtain ⟨repaired,hr,h⟩ := Fallible.bind_ok.mp h
  obtain ⟨reason,rfl⟩ := repaired_spec hr
  split at h
  · rename_i late
    obtain ⟨books,posted,h⟩ := Fallible.bind_ok.mp h
    cases h
    exact entered_settled posted late.2 rfl rfl rfl rfl
  · cases h
    exact .inl rfl

theorem entered_transition {r s : SwapRecord} {type : EventType} {data : Fields} {rejection : Json}
    (live : r.status.terminal = false)
    (h : transition cfg db r type data rejection now = .ok (db',s)) :
    Entered db.books db'.books r s := by
  unfold transition at h
  cases type with
  | proposed =>
    cases h
    exact .inl rfl
  | settled =>
    obtain ⟨books,posted,h⟩ := Fallible.bind_ok.mp h
    cases h
    rw [Received.moveReservation_books]
    refine entered_settled posted ?_ rfl rfl rfl rfl
    intro settled
    rw [settled] at live
    cases live
  | rejected =>
    obtain ⟨reason,_,h⟩ := Fallible.bind_ok.mp h
    cases h
    exact .inl (by rw [Received.moveReservation_books])
  | expired | cancelled =>
    cases h
    exact .inl (by rw [Received.moveReservation_books])

theorem entered_event {type : EventType} {data : Fields} {rejection : Json}
    {out : Option SwapRecord}
    (h : processSwapEvent cfg db type data rejection now = .ok (db',out)) :
    swapEntries db'.books = swapEntries db.books ∨ ∃ r s,
      db.market.swaps.get? s.idpk = some r ∧ out = some s ∧ Entered db.books db'.books r s := by
  have processed := processSwapEvent_spec h
  obtain ⟨found,hf,h⟩ := Fallible.bind_ok.mp h
  cases found with
  | none =>
    cases h
    exact .inl rfl
  | some r =>
    have hr := get?_correlated hf
    dsimp only at h
    split at h
    · obtain ⟨⟨done,s⟩,ended,h⟩ := Fallible.bind_ok.mp h
      cases h
      have deal := (processTerminal_spec ended).1
      exact .inr ⟨r,s,deal.idpk.symm ▸ hr,rfl,entered_terminal ended⟩
    · rename_i live
      rw [Bool.not_eq_true] at live
      obtain ⟨swapId,_,h⟩ := Fallible.bind_ok.mp h
      obtain ⟨⟨done,s⟩,moved,h⟩ := Fallible.bind_ok.mp h
      obtain ⟨snapshots,_,h⟩ := Fallible.bind_ok.mp h
      cases h
      have deal := (sameDeal_learn r type swapId data).trans (transition_spec moved).1
      refine .inr ⟨r,s,deal.idpk.symm ▸ hr,rfl,?_⟩
      rcases entered_transition (r := learn r type swapId data) live moved with same | entered
      · exact .inl same
      · exact .inr entered

theorem settling_event {type : EventType} {data : Fields} {rejection : Json}
    {out : Option SwapRecord}
    (h : processSwapEvent cfg db type data rejection now = .ok (db',out)) : Settling db db' := by
  have processed := processSwapEvent_spec h
  have told : Free db.market (.event type data rejection) := trivial
  have moves : Moves cfg Free db.desk db'.desk := processed_moves processed told
  rcases entered_event h with same | ⟨r,s,hr,rfl,same | ⟨before,e,settles,grown⟩⟩
  · exact .of_moves moves same
  · exact .of_moves moves same
  · refine ⟨fun _ _ => settled_moves moves,[s.idpk],List.nodup_singleton _,[e],grown,?_⟩
    refine .cons ⟨?_,s,processed.get?,settles⟩ .nil
    intro r' hr'
    cases hr.symm.trans hr'
    exact before

/-! ### What the wallet tells -/

open WalletRecovery

theorem settling_observation {r : SwapRecord} {seen : Observation} {known : Bool}
    (hr : db.market.swaps.get? r.idpk = some r)
    (h : applyWalletObservation cfg db r seen now = .ok (db',known)) : Settling db db' := by
  have moves : Moves cfg Free db.desk db'.desk :=
    applyWalletObservation_moves hr h fun _ _ => trivial
  unfold applyWalletObservation at h
  split at h
  · cases h
    exact .refl db
  split at h
  · cases h
    exact .refl db
  split at h
  · cases h
    exact .refl db
  split at h
  · obtain ⟨⟨done,out⟩,event,h⟩ := Fallible.bind_ok.mp h
    cases h
    exact settling_event event
  split at h
  · obtain ⟨⟨done,out⟩,event,h⟩ := Fallible.bind_ok.mp h
    cases h
    exact settling_event event
  · cases h
    exact .of_books moves rfl
  · split at h <;> cases h
    · exact .of_books moves rfl
    · exact .refl db

theorem finish_books (db : Db) (attempt : SwapDispatch.ProposalAttempt)
    (verdict : SwapDispatch.Verdict) (now : Instant) :
    (SwapDispatch.finish db attempt verdict now).books = db.books := by
  unfold SwapDispatch.finish
  split
  · rfl
  split
  · rfl
  split <;> rfl

theorem settling_finish (cfg : Config) (db : Db) (attempt : SwapDispatch.ProposalAttempt)
    (verdict : SwapDispatch.Verdict) (now : Instant) :
    Settling db (SwapDispatch.finish db attempt verdict now) := by
  have moves : Moves cfg Free db.desk (SwapDispatch.finish db attempt verdict now).desk :=
    SwapDispatch.finish_moves db attempt verdict now (fun _ _ => trivial) fun _ => trivial
  exact .of_books moves (finish_books db attempt verdict now)

theorem settling_recoverProposal {attempt : SwapDispatch.ProposalAttempt} {answer : GetAnswer}
    (h : Node.recoverProposal cfg db attempt answer now = .ok db') : Settling db db' := by
  unfold Node.recoverProposal at h
  split at h
  · cases h
    exact .refl db
  obtain ⟨⟨done,known⟩,recovered,rfl⟩ := Fallible.map_ok.mp h
  unfold SwapDispatch.recoverAttempt at recovered
  split at recovered
  · cases recovered
    exact .refl db
  rename_i r hr
  split at recovered
  · cases recovered
    exact .refl db
  obtain ⟨⟨mid,known⟩,seen,recovered⟩ := Fallible.bind_ok.mp recovered
  have first := settling_observation (Table.key_of_get? hr ▸ hr) seen
  dsimp only at recovered
  split at recovered <;> cases recovered
  · exact first.trans (settling_finish cfg mid attempt _ now)
  · exact first

theorem settling_settleProposal {attempt : SwapDispatch.ProposalAttempt}
    {answer : SwapDispatch.WriteAnswer}
    (h : SwapDispatch.settleAttempt cfg db attempt answer now = .ok db') : Settling db db' := by
  have first := settling_finish cfg db attempt (SwapDispatch.judge answer).1 now
  unfold SwapDispatch.settleAttempt at h
  dsimp only at h
  split at h
  · rename_i seen r _ hr
    split at h
    · obtain ⟨⟨done,known⟩,applied,rfl⟩ := Fallible.map_ok.mp h
      exact first.trans (settling_observation (Table.key_of_get? hr ▸ hr) applied)
    · cases h
      exact first
  · cases h
    exact first

theorem expireRecord_books (cfg : Config) (db : Db) (r : SwapRecord) (reason : String)
    (now : Instant) : (SwapTimeouts.expireRecord cfg db r reason now).books = db.books := by
  unfold SwapTimeouts.expireRecord
  split
  · rfl
  · exact Received.moveReservation_books ..

theorem settling_expireRecord (cfg : Config) {r : SwapRecord} (reason : String) (now : Instant)
    (hr : db.market.swaps.get? r.idpk = some r) :
    Settling db (SwapTimeouts.expireRecord cfg db r reason now) :=
  .of_books (P := Free) (SwapTimeouts.expireRecord_moves reason now hr trivial)
    (expireRecord_books cfg db r reason now)

theorem settling_closeBid (cfg : Config) (db : Db) (r : SwapRecord) :
    Settling db (SwapTimeouts.closeBid db r) := by
  have moves : Moves cfg Free db.desk (SwapTimeouts.closeBid db r).desk :=
    SwapTimeouts.closeBid_moves db r
  exact .of_books moves rfl

theorem settling_sweepRecord {r : SwapRecord} {answer : GetAnswer} {verdict : SwapTimeouts.Verdict}
    (hr : db.market.swaps.get? r.idpk = some r)
    (h : SwapTimeouts.sweepRecord cfg db r answer now = .ok (db',verdict)) : Settling db db' := by
  unfold SwapTimeouts.sweepRecord at h
  split at h
  · cases h
    exact settling_expireRecord cfg _ now hr
  split at h
  · cases h
    exact .refl db
  split at h
  · cases h
    exact .refl db
  split at h
  · split at h <;> cases h
    · exact settling_expireRecord cfg _ now hr
    · exact .refl db
  · split at h
    · cases h
      exact .refl db
    dsimp only at h
    split at h
    · obtain ⟨⟨done,out⟩,event,h⟩ := Fallible.bind_ok.mp h
      cases h
      exact settling_event event
    split at h
    · obtain ⟨⟨mid,out⟩,event,h⟩ := Fallible.bind_ok.mp h
      cases h
      exact (settling_event event).trans (settling_closeBid cfg mid r)
    · split at h <;> cases h <;> exact .refl db
  · cases h
    exact .refl db

theorem settling_sweep {k : String} {answer : GetAnswer}
    (h : Node.sweep cfg db k answer now = .ok db') : Settling db db' := by
  unfold Node.sweep at h
  split at h
  · cases h
    exact .refl db
  rename_i r found
  obtain ⟨hr,_⟩ := Option.filter_eq_some_iff.mp found
  obtain ⟨⟨done,verdict⟩,swept,rfl⟩ := Fallible.map_ok.mp h
  exact settling_sweepRecord (Table.key_of_get? hr ▸ hr) swept

theorem settled_books (db : Db) (k : String) : (SwapAccept.settled db k).books = db.books := by
  unfold SwapAccept.settled
  split <;> rfl

theorem settling_recoverAccept {k : String} {answer : GetAnswer} {known : Bool}
    (h : SwapAccept.recover cfg db k answer now = .ok (db',known)) : Settling db db' := by
  unfold SwapAccept.recover at h
  split at h
  · cases h
    exact .refl db
  rename_i r found
  obtain ⟨_,hr,_⟩ := SwapAccept.acceptance_spec found
  have ended (db : Db) : Settling db (SwapAccept.settled db k) := by
    have moves : Moves cfg Free db.desk (SwapAccept.settled db k).desk :=
      SwapAccept.settled_moves db k fun _ => trivial
    exact .of_books moves (settled_books db k)
  split at h
  · cases h
    exact .refl db
  split at h
  · cases h
    exact ended db
  obtain ⟨⟨mid,found⟩,seen,h⟩ := Fallible.bind_ok.mp h
  have first := settling_observation hr seen
  dsimp only at h
  split at h <;> cases h
  · exact first.trans (ended mid)
  · exact first

theorem accept_books (db : Db) (k : String) (outcome : SwapAccept.Outcome) (now : Instant) :
    (SwapAccept.finish db k outcome now).books = db.books := by
  unfold SwapAccept.finish
  split
  · rfl
  split
  · exact settled_books db k
  split <;> rfl

theorem settling_settleAccept {k : String} {answer : SwapDispatch.WriteAnswer} {check : GetAnswer}
    (h : SwapAccept.settleAnswer cfg db k answer check now = .ok db') : Settling db db' := by
  have ended (outcome : SwapAccept.Outcome) (db : Db) :
      Settling db (SwapAccept.finish db k outcome now) := by
    have moves : Moves cfg Free db.desk (SwapAccept.finish db k outcome now).desk :=
      SwapAccept.finish_moves db k outcome now (fun _ _ => trivial) (fun _ => trivial)
        fun _ => trivial
    exact .of_books moves (accept_books db k outcome now)
  unfold SwapAccept.settleAnswer at h
  split at h
  · cases h
    exact .refl db
  · obtain ⟨⟨mid,found⟩,seen,h⟩ := Fallible.bind_ok.mp h
    have first := settling_recoverAccept seen
    dsimp only at h
    split at h <;> cases h
    · exact first
    · exact first.trans (ended _ mid)
  · cases h
    exact ended _ db

/-! ### Messages -/

theorem settling_swapEvent {payload : Payload} {type : EventType} {verdict : Ingest.Verdict}
    (h : Ingest.swapEvent cfg jwt db payload type now = .ok (db',verdict)) : Settling db db' := by
  obtain ⟨⟨mid,record⟩,event,h⟩ := Fallible.bind_ok.mp h
  have first := settling_event event
  have processed := processSwapEvent_spec event
  dsimp only at h
  split at h
  · cases h
    exact first
  · rename_i s
    have told : Settling mid (SellerBidAccepted.enqueueBidAccepted cfg jwt mid s payload.data
        payload.sender now) := by
      have moves : Moves cfg Free mid.desk (SellerBidAccepted.enqueueBidAccepted cfg jwt mid s
          payload.data payload.sender now).desk :=
        SellerBidAccepted.enqueueBidAccepted_moves jwt _ _ _ processed.get? trivial
      exact .of_books moves (Received.enqueueBidAccepted_books ..)
    split at h <;> cases h
    · exact first.trans told
    · exact first

theorem settling_dispatch {payload : Payload} {verdict : Ingest.Verdict}
    (h : Ingest.dispatch cfg jwt db payload now = .ok (db',verdict)) : Settling db db' := by
  cases event : payload.type.isSwapEvent with
  | false =>
    exact .of_moves (P := Free) (Ingest.dispatch_moves h (fun _ _ => trivial) fun _ _ => trivial)
      (swapEntries_dispatch event h)
  | true =>
    unfold Ingest.dispatch at h
    cases type : payload.type with
    | swapProposed | swapSettled | swapRejected | swapCancelled | swapExpired =>
      rw [type] at h
      exact settling_swapEvent h
    | _ =>
      rw [type] at event
      cases event

theorem settling_ingest (cfg : Config) (jwt : Jwt) (db : Db) (payload : Payload) (now : Instant) :
    Settling db (Ingest.ingest cfg jwt db payload now).1 := by
  unfold Ingest.ingest
  cases processed : Ingest.process cfg jwt db payload now with
  | error fault => exact .of_desk cfg rfl rfl
  | ok ended =>
    obtain ⟨done,verdict⟩ := ended
    have audited : Settling done (Ingest.audit done payload verdict.status verdict.reason) :=
      .of_desk cfg rfl rfl
    refine Settling.trans ?_ audited
    obtain ⟨rfl,_⟩ | ⟨claimed,served,claim,dispatched,rfl⟩ := Ingest.process_cases processed
    · exact .refl _
    have opened : Settling db (Ingest.requestStatement cfg claimed payload now) := by
      refine .of_desk cfg ?_ ?_
      · have opened : (Ingest.requestStatement cfg claimed payload now).desk = claimed.desk :=
          congrArg Prod.fst (Ingest.front_requestStatement ..)
        exact opened.trans (Ingest.desk_claim? claim)
      · rw [← Received.claim?_books claim]
        exact swapEntries_requestStatement cfg claimed payload now
    have returned : Settling served (Ingest.returnClaim served payload verdict) :=
      .of_desk cfg (Ingest.desk_returnClaim ..) (by rw [Received.returnClaim_books])
    exact (opened.trans (settling_dispatch dispatched)).trans returned

/-! ### The other actions -/

theorem feed_books (cfg : Config) (db : Db) (payload : Payload) :
    (MarketFeed.persist cfg db payload).books = db.books := by
  cases he : MarketFeed.event? payload with
  | none =>
    unfold MarketFeed.persist
    rw [he]
  | some event =>
    obtain ⟨sender,event⟩ := event
    cases hc : MarketFeed.claimed db sender payload with
    | some old =>
      obtain ⟨audit,same⟩ := FeedConfluence.persist_claimed cfg he hc
      rw [same]
      rfl
    | none =>
      obtain ⟨audit,same⟩ := FeedConfluence.persist_fresh cfg he hc
      rw [same]
      show (MarketFeed.applyEvent cfg (FeedConfluence.claiming db sender payload) payload sender
        event (FeedConfluence.marketOf db payload)).1.books = db.books
      unfold MarketFeed.applyEvent
      split <;> split <;> rfl

theorem sellerBids_books {locked : List String} {maxOffers : Nat} {out : Db × SellerBids.Tally}
    (h : SellerBids.processDueSellerBids cfg db locked maxOffers now = .ok out) :
    out.1.books = db.books := by
  have reserves (a : Db × SellerBids.Tally) (bid : MarketBid) (b : Db × SellerBids.Tally)
      (h : SellerBids.reserveNext cfg now a bid = .ok b) : b.1.books = a.1.books := by
    obtain ⟨⟨done,outcome⟩,reserved,h⟩ := Fallible.bind_ok.mp h
    cases h
    exact Received.reserved_books reserved
  have rounds {bids : List MarketBid} {a b : Db × SellerBids.Tally}
      (h : bids.foldlM (SellerBids.reserveNext cfg now) a = .ok b) : b.1.books = a.1.books :=
    Fallible.foldlM_rel (fun a b : Db × SellerBids.Tally => b.1.books = a.1.books) (fun _ => rfl)
      (fun first second => second.trans first) _ reserves _ h
  unfold SellerBids.processDueSellerBids at h
  split at h
  · cases h
  refine Fallible.foldlM_rel (fun a b : Db × SellerBids.Tally => b.1.books = a.1.books)
    (fun _ => rfl) (fun first second => second.trans first) _ ?_ _ h
  intro a offerId b turn
  unfold SellerBids.processOffer at turn
  dsimp only at turn
  split at turn
  · cases turn
    rfl
  split at turn
  · cases turn
    rfl
  obtain ⟨policy,_,turn⟩ := Fallible.bind_ok.mp turn
  split at turn
  · cases turn
    rfl
  · have same := rounds turn
    exact same

theorem reprice_books {offerId : String} {price : Decimal}
    (h : SellerOffers.changeLocalOfferPrice cfg db offerId price now = .ok db') :
    db'.books = db.books := by
  unfold SellerOffers.changeLocalOfferPrice at h
  split at h
  · cases h
  split at h
  · cases h
  dsimp only at h
  split at h
  · cases h
  repeat' split at h
  all_goals
    cases h
    try rfl

theorem withdraw_books {offerId : String}
    (h : SellerOffers.withdrawLocalOffer cfg db offerId now = .ok db') : db'.books = db.books := by
  unfold SellerOffers.withdrawLocalOffer at h
  split at h
  · cases h
  split at h
  · cases h
    rfl
  · cases h
  split at h <;> cases h
  rfl

theorem closeExpired_books (cfg : Config) (db : Db) (now : Instant) :
    (SellerOffers.closeExpiredLocalOffers cfg db now).books = db.books := by
  unfold SellerOffers.closeExpiredLocalOffers
  generalize SellerOffers.expiredCycles _ _ _ = cycles
  induction cycles generalizing db with
  | nil => rfl
  | cons cycleId cycles ih => exact (ih _).trans rfl

theorem claim_books {locked : List String} {out : Db × Option SwapDispatch.ProposalAttempt}
    (h : SwapDispatch.claimOne cfg db locked now = .ok out) : out.1.books = db.books := by
  unfold SwapDispatch.claimOne at h
  split at h
  · cases h
    rfl
  · obtain ⟨_,_,h⟩ := Fallible.bind_ok.mp h
    cases h
    rfl

theorem take_books (cfg : Config) (jwt : Jwt) (db : Db) (k : String) (jwks : Jwks) (now : Instant) :
    (SwapAccept.takeAcceptedBid cfg jwt db k jwks now).books = db.books := by
  have added (db : Db) (r : SwapRecord) : (SwapAccept.addRecord db r).books = db.books := by
    unfold SwapAccept.addRecord
    split <;> rfl
  unfold SwapAccept.takeAcceptedBid
  split
  · rfl
  split
  · rfl
  dsimp only
  split
  · exact added ..
  split
  · rfl
  · exact added ..

theorem lease_books (db : Db) (k : String) (now : Instant) :
    (SwapAccept.lease db k now).books = db.books := by
  unfold SwapAccept.lease
  split
  · rfl
  split <;> rfl

theorem send_books (db : Db) (k : String) (now : Instant) :
    (SwapAccept.send db k now).1.books = db.books := by
  unfold SwapAccept.send
  split
  · rfl
  split
  · exact settled_books db k
  · rfl

theorem buy_books (cfg : Config) (db : Db) (order : Buying.Order) (now : Instant) :
    (Buying.enqueueBuyBid cfg db order now).1.books = db.books := by
  have placed {o : Buying.BookOffer} {w : Buying.Window} {offers : Table MarketOffer.offerId}
      {done : Db} (h : Buying.place cfg db order o w offers now = some done) :
      done.books = db.books := by
    obtain ⟨bids,_,rfl⟩ := Option.map_eq_some_iff.mp h
    rfl
  unfold Buying.enqueueBuyBid
  repeat' split
  all_goals
    first
    | rfl
    | exact placed ‹_›

theorem closeMarkets_entries {locked : List String}
    (h : Node.closeMarkets cfg db locked now = .ok db') :
    db'.desk = db.desk ∧ swapEntries db'.books = swapEntries db.books := by
  obtain ⟨⟨books,report⟩,swept,rfl⟩ := Fallible.map_ok.mp h
  exact ⟨rfl,swapEntries_sweep swept⟩

/-- Every action of the node settles what it posts. -/
theorem settling_step (env : Env) (db : Db) (a : Node.Action) :
    Settling db (Node.step env db a) := by
  have moves := Node.step_moves env db a
  have attempted {result : Result Db} (h : ∀ db', result = .ok db' → Settling db db') :
      Settling db (Node.attempted db result) := by
    cases result with
    | error fault => exact .refl db
    | ok db' => exact h db' rfl
  have frame {result : Result Db} (h : ∀ db', result = .ok db' → db'.books = db.books) :
      (Node.attempted db result).books = db.books := by
    cases result with
    | error fault => rfl
    | ok db' => exact h db' rfl
  cases a with
  | ingest payload now => exact settling_ingest env.cfg env.jwt db payload now
  | feed payload => exact .of_books moves (feed_books env.cfg db payload)
  | sellerBids locked maxOffers now =>
    refine .of_books moves (frame fun _ h => ?_)
    obtain ⟨out,done,rfl⟩ := Fallible.map_ok.mp h
    exact sellerBids_books done
  | sellerOffer cycleId walletAvailable now =>
    refine .of_books moves (frame fun _ h => ?_)
    rcases SellerOffers.enqueueSellerOffer_cases h with rfl | ⟨_,_,_,_,_,_,_,rfl⟩ <;> rfl
  | reprice offerId price now => exact .of_books moves (frame fun _ => reprice_books)
  | withdraw offerId now => exact .of_books moves (frame fun _ => withdraw_books)
  | closeExpired now => exact .of_books moves (closeExpired_books env.cfg db now)
  | claimProposal locked now =>
    refine .of_books moves (frame fun _ h => ?_)
    obtain ⟨out,done,rfl⟩ := Fallible.map_ok.mp h
    exact claim_books done
  | recoverProposal attempt answer now => exact attempted fun _ => settling_recoverProposal
  | settleProposal attempt answer now => exact attempted fun _ => settling_settleProposal
  | sweep k answer now => exact attempted fun _ => settling_sweep
  | expireBids now => exact .of_books moves rfl
  | takeAccepted k jwks now => exact .of_books moves (take_books env.cfg env.jwt db k jwks now)
  | leaseAccept k now => exact .of_books moves (lease_books db k now)
  | recoverAccept k answer now =>
    refine attempted fun _ h => ?_
    obtain ⟨out,done,rfl⟩ := Fallible.map_ok.mp h
    exact settling_recoverAccept done
  | sendAccept k now => exact .of_books moves (send_books db k now)
  | settleAccept k answer check now => exact attempted fun _ => settling_settleAccept
  | buy order now => exact .of_books moves (buy_books env.cfg db order now)
  | renewBids now => exact .of_books moves Reports.renewFailed_books
  | published msgId => exact .of_books moves rfl
  | publishFailed msgId error => exact .of_books moves rfl
  | closeMarkets locked now =>
    refine attempted fun _ h => ?_
    obtain ⟨desk,same⟩ := closeMarkets_entries h
    exact .of_desk env.cfg desk same

/-! ### A run -/

/-- The entries of the swaps are those of distinct settled records. -/
def Booked (db : Db) : Prop :=
  ∃ ks : List String, ks.Nodup ∧
    List.Forall₂ (fun k e => ∃ r, db.market.swaps.get? k = some r ∧ Settles r e) ks
      (swapEntries db.books)

theorem booked_empty (h : swapEntries db.books = []) : Booked db := ⟨[],.nil,by rw [h]; exact .nil⟩

theorem Booked.next (h : Booked db) (step : Settling db db') : Booked db' := by
  obtain ⟨ks,nodup,entries⟩ := h
  obtain ⟨ks',nodup',new,grown,posts⟩ := step.posted
  refine ⟨ks ++ ks',List.nodup_append'.mpr ⟨nodup,nodup',?_⟩,?_⟩
  · intro k here there
    obtain ⟨_,_,r,hr,settles⟩ := exists_of_mem_left entries here
    obtain ⟨_,_,fresh,_⟩ := exists_of_mem_left posts there
    exact fresh r hr settles.status
  · rw [grown]
    refine List.rel_append (entries.imp ?_) (posts.imp fun _ _ p => p.2)
    rintro k e ⟨r,hr,settles⟩
    obtain ⟨s,hs,frozen,status⟩ := step.kept k r hr settles.status
    exact ⟨s,hs,settles.next frozen status⟩

theorem booked_step (env : Env) {db : Db} (a : Node.Action) (h : Booked db) :
    Booked (Node.step env db a) := h.next (settling_step env db a)

end SwapEntries

end EnergyNode
