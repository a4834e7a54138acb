import EnergyNode.BuyingSteps
import EnergyNode.Lib.Pointwise
import EnergyNode.Lib.Run

/-! The life of our own bids. A bid leaves in attempts: every one repeats the
operation under a message of its own, at most the newest may leave, and a bid
that was answered is not sent again. -/
namespace EnergyNode
open Lib

namespace BidAttempts

def isBid (row : OutboundMessage) : Bool := row.content.type = .bid

/-- The rows of the outbox that carry bids. -/
def letters (outbox : Outbox) : List OutboundMessage := outbox.rows.filter isBid

/-- The attempts of a bid, in the order of their ids. -/
def attempts (outbox : Outbox) (idpk : String) : List OutboundMessage :=
  (letters outbox).filter fun row => row.idpk = idpk

def outgoing (market : Market) : List MarketBid :=
  market.bids.rows.filter fun bid => bid.direction = .outgoing

def lastId (outbox : Outbox) (idpk : String) : Option String :=
  (attempts outbox idpk).getLast?.map OutboundMessage.msgId

def answered (bid : MarketBid) : Bool := bid.status = .accepted || bid.status = .rejected

/-- Our bids and their attempts. -/
def standing (db : Db) : List MarketBid × List OutboundMessage :=
  (outgoing db.market,letters db.outbox)

inductive Act where
  | buy (order : Buying.Order) (now : Instant)
  | published (msgId : String)
  | failed (msgId error : String)
  | renew (now : Instant)
  /-- A message of the connector, the answers to our bids among them. -/
  | reply (payload : Payload) (now : Instant)
  /-- The sweep, record by record, and its end. -/
  | sweep (idpk : String) (answer : WalletRecovery.GetAnswer) (now : Instant)
  | expire (now : Instant)
  /-- A transaction that leaves our bids and their attempts as they are. -/
  | elsewhere (db : Db)

def step (env : Env) (db : Db) : Act → Db
  | .buy order now => Node.step env db (.buy order now)
  | .published msgId => Node.step env db (.published msgId)
  | .failed msgId error => Node.step env db (.publishFailed msgId error)
  | .renew now => Node.step env db (.renewBids now)
  | .reply payload now =>
      if payload.type = .bidAccepted ∨ payload.type = .bidRejected then
        Node.step env db (.ingest payload now)
      else db
  | .sweep idpk answer now => Node.step env db (.sweep idpk answer now)
  | .expire now => Node.step env db (.expireBids now)
  | .elsewhere next => if standing next = standing db then next else db

/-! ### What stays of a row and of a bid -/

structure SameAttempt (row row' : OutboundMessage) : Prop where
  msgId : row'.msgId = row.msgId
  idpk : row'.idpk = row.idpk
  content : row'.content = row.content
  cycleId : row'.cycleId = row.cycleId
  routingKey : row'.routingKey = row.routingKey
  exchangeName : row'.exchangeName = row.exchangeName

theorem SameAttempt.trans {a b c : OutboundMessage} (h : SameAttempt a b) (k : SameAttempt b c) :
    SameAttempt a c where
  msgId := k.msgId.trans h.msgId
  idpk := k.idpk.trans h.idpk
  content := k.content.trans h.content
  cycleId := k.cycleId.trans h.cycleId
  routingKey := k.routingKey.trans h.routingKey
  exchangeName := k.exchangeName.trans h.exchangeName

/-- An attempt may only stop. -/
structure RowKept (row row' : OutboundMessage) : Prop extends SameAttempt row row' where
  dispatch : row'.dispatchRequired → row.dispatchRequired

theorem RowKept.refl (row : OutboundMessage) : RowKept row row := ⟨⟨rfl,rfl,rfl,rfl,rfl,rfl⟩,id⟩

/-- A pending bid is answered or expires, an accepted one may still expire. -/
def Advances (s t : BidStatus) : Prop := t = s ∨ s = .pending ∨ t = .expired ∧ s ≠ .rejected

theorem Advances.trans {s t u : BidStatus} (h : Advances s t) (k : Advances t u) : Advances s u := by
  unfold Advances at *
  rcases h with rfl | rfl | ⟨rfl,ne⟩
  · exact k
  · exact .inr (.inl rfl)
  · rcases k with rfl | k | ⟨rfl,_⟩
    · exact .inr (.inr ⟨rfl,ne⟩)
    · cases k
    · exact .inr (.inr ⟨rfl,ne⟩)

structure SameBid (bid bid' : MarketBid) : Prop where
  idpk : bid'.idpk = bid.idpk
  direction : bid'.direction = bid.direction
  terms : bid'.terms = bid.terms
  status : Advances bid.status bid'.status

structure BidKept (bid bid' : MarketBid) : Prop extends SameBid bid bid' where
  msgId : bid'.msgId = bid.msgId

theorem BidKept.refl (bid : MarketBid) : BidKept bid bid := ⟨⟨rfl,rfl,rfl,.inl rfl⟩,rfl⟩

/-! ### The invariant -/

/-- The bid an attempt is of. -/
structure Carries (row : OutboundMessage) (bid : MarketBid) : Prop where
  idpk : bid.idpk = row.idpk
  content : row.content = .bid bid.offerId bid.quantity
  cycleId : row.cycleId = some bid.cycleId
  routingKey : row.routingKey = some ("city." ++ bid.counterpartCityId)
  exchangeName : row.exchangeName = "energy.x"

structure Orderly (db : Db) : Prop where
  carried : ∀ row ∈ letters db.outbox, ∃ bid ∈ outgoing db.market, Carries row bid
  newest : ∀ bid ∈ outgoing db.market, lastId db.outbox bid.idpk = some bid.msgId
  latest : ∀ row ∈ letters db.outbox, row.dispatchRequired →
    lastId db.outbox row.idpk = some row.msgId
  ended : ∀ bid ∈ outgoing db.market, answered bid → ∀ row ∈ attempts db.outbox bid.idpk,
    ¬ row.dispatchRequired

/-- What a step does to a bid that is not pending: its status only advances, it
gets no attempt, and none leaves that had stopped. -/
structure Closed (db db' : Db) (bid : MarketBid) : Prop where
  advanced : ∃ bid' ∈ outgoing db'.market, bid'.idpk = bid.idpk ∧ Advances bid.status bid'.status
  same : (attempts db'.outbox bid.idpk).map OutboundMessage.msgId =
    (attempts db.outbox bid.idpk).map OutboundMessage.msgId
  stopped : (∀ row ∈ attempts db.outbox bid.idpk, ¬ row.dispatchRequired) →
    ∀ row ∈ attempts db'.outbox bid.idpk, ¬ row.dispatchRequired

/-- A sound step, from any orderly state. -/
def Sound (db db' : Db) : Prop :=
  Orderly db → Orderly db' ∧ ∀ bid ∈ outgoing db.market, bid.status ≠ .pending → Closed db db' bid

theorem Advances.ne_pending {s t : BidStatus} (h : Advances s t) (hs : s ≠ .pending) :
    t ≠ .pending := by
  rcases h with rfl | rfl | ⟨rfl,_⟩
  · exact hs
  · exact absurd rfl hs
  · decide

theorem mem_outgoing {market : Market} {bid : MarketBid} :
    bid ∈ outgoing market ↔ bid ∈ market.bids ∧ bid.direction = .outgoing := by
  unfold outgoing
  rw [List.mem_filter,decide_eq_true_eq]
  rfl

theorem mem_letters {outbox : Outbox} {row : OutboundMessage} :
    row ∈ letters outbox ↔ row ∈ outbox ∧ isBid row := by
  unfold letters
  rw [List.mem_filter]
  rfl

theorem mem_attempts {outbox : Outbox} {idpk : String} {row : OutboundMessage} :
    row ∈ attempts outbox idpk ↔ row ∈ letters outbox ∧ row.idpk = idpk := by
  unfold attempts
  rw [List.mem_filter,decide_eq_true_eq]

theorem outgoing_eq {market : Market} {a b : MarketBid} (ha : a ∈ outgoing market)
    (hb : b ∈ outgoing market) (key : a.idpk = b.idpk) : a = b :=
  Table.eq_of_key (mem_outgoing.mp ha).1 (mem_outgoing.mp hb).1 key

theorem Closed.refl (db : Db) {bid : MarketBid} (h : bid ∈ outgoing db.market) : Closed db db bid :=
  ⟨⟨bid,h,rfl,.inl rfl⟩,rfl,id⟩

theorem Sound.refl (db : Db) : Sound db db := fun h => ⟨h,fun _ hb _ => .refl db hb⟩

theorem Sound.trans {a b c : Db} (h : Sound a b) (k : Sound b c) : Sound a c := by
  intro orderly
  obtain ⟨orderly,closed⟩ := h orderly
  obtain ⟨orderly,closed'⟩ := k orderly
  refine ⟨orderly,fun bid hbid live => ?_⟩
  obtain ⟨⟨bid',hbid',key,advanced⟩,same,stopped⟩ := closed bid hbid live
  obtain ⟨⟨bid'',hbid'',key',advanced'⟩,same',stopped'⟩ :=
    closed' bid' hbid' (advanced.ne_pending live)
  rw [key] at key' same' stopped'
  exact ⟨⟨bid'',hbid'',key',advanced.trans advanced'⟩,same'.trans same,stopped' ∘ stopped⟩

/-! ### Steps that send nothing -/

structure Quiet (db db' : Db) : Prop where
  rows : List.Forall₂ RowKept (letters db.outbox) (letters db'.outbox)
  bids : List.Forall₂ BidKept (outgoing db.market) (outgoing db'.market)
  ended : ∀ bid' ∈ outgoing db'.market, answered bid' →
    (∃ bid ∈ outgoing db.market, bid.idpk = bid'.idpk ∧ answered bid) ∨
      ∀ row ∈ attempts db'.outbox bid'.idpk, ¬ row.dispatchRequired

theorem Quiet.of_standing {db db' : Db} (h : standing db' = standing db) : Quiet db db' := by
  obtain ⟨bids,rows⟩ := Prod.mk.inj h
  refine ⟨?_,?_,fun bid hbid done => .inl ⟨bid,bids ▸ hbid,rfl,done⟩⟩
  · rw [show letters db'.outbox = letters db.outbox from rows]
    exact List.forall₂_same.mpr fun row _ => .refl row
  · rw [show outgoing db'.market = outgoing db.market from bids]
    exact List.forall₂_same.mpr fun bid _ => .refl bid

theorem attempts_kept {outbox outbox' : Outbox}
    (h : List.Forall₂ RowKept (letters outbox) (letters outbox')) (idpk : String) :
    List.Forall₂ RowKept (attempts outbox idpk) (attempts outbox' idpk) :=
  Pointwise.filter _ (fun _ _ h => by rw [h.idpk]) h

theorem ids_kept {outbox outbox' : Outbox}
    (h : List.Forall₂ RowKept (letters outbox) (letters outbox')) (idpk : String) :
    (attempts outbox' idpk).map OutboundMessage.msgId =
      (attempts outbox idpk).map OutboundMessage.msgId :=
  (Pointwise.map_eq _ (fun _ _ h => h.msgId.symm) (attempts_kept h idpk)).symm

theorem lastId_of_ids {outbox outbox' : Outbox} {idpk : String}
    (h : (attempts outbox' idpk).map OutboundMessage.msgId =
      (attempts outbox idpk).map OutboundMessage.msgId) :
    lastId outbox' idpk = lastId outbox idpk := by
  unfold lastId
  rw [← List.getLast?_map,← List.getLast?_map,h]

theorem Carries.kept {row row' : OutboundMessage} {bid bid' : MarketBid} (h : Carries row bid)
    (hr : SameAttempt row row') (hb : SameBid bid bid') : Carries row' bid' := by
  have terms := hb.terms
  unfold MarketBid.terms at terms
  obtain ⟨cycle,offer,city,quantity⟩ : _ ∧ _ ∧ _ ∧ _ := by simpa using terms
  refine ⟨?_,?_,?_,?_,?_⟩
  · rw [hb.idpk,h.idpk,hr.idpk]
  · rw [hr.content,h.content,offer,quantity]
  · rw [hr.cycleId,h.cycleId,cycle]
  · rw [hr.routingKey,h.routingKey,city]
  · rw [hr.exchangeName,h.exchangeName]

theorem Quiet.sound {db db' : Db} (h : Quiet db db') : Sound db db' := by
  intro orderly
  have last (idpk : String) := lastId_of_ids (ids_kept h.rows idpk)
  have stopped (idpk : String) (still : ∀ row ∈ attempts db.outbox idpk, ¬ row.dispatchRequired) :
      ∀ row ∈ attempts db'.outbox idpk, ¬ row.dispatchRequired := by
    intro row' hrow' required
    obtain ⟨row,hrow,kept⟩ := Pointwise.mem_right (attempts_kept h.rows idpk) hrow'
    exact still row hrow (kept.dispatch required)
  refine ⟨⟨?_,?_,?_,?_⟩,?_⟩
  · intro row' hrow'
    obtain ⟨row,hrow,kept⟩ := Pointwise.mem_right h.rows hrow'
    obtain ⟨bid,hbid,carries⟩ := orderly.carried row hrow
    obtain ⟨bid',hbid',kept'⟩ := Pointwise.mem_left h.bids hbid
    exact ⟨bid',hbid',carries.kept kept.toSameAttempt kept'.toSameBid⟩
  · intro bid' hbid'
    obtain ⟨bid,hbid,kept⟩ := Pointwise.mem_right h.bids hbid'
    rw [last,kept.idpk,kept.msgId]
    exact orderly.newest bid hbid
  · intro row' hrow' required
    obtain ⟨row,hrow,kept⟩ := Pointwise.mem_right h.rows hrow'
    rw [last,kept.idpk,kept.msgId]
    exact orderly.latest row hrow (kept.dispatch required)
  · intro bid' hbid' done
    rcases h.ended bid' hbid' done with ⟨bid,hbid,key,done⟩ | still
    · rw [← key]
      exact stopped bid.idpk (orderly.ended bid hbid done)
    · exact still
  · intro bid hbid _
    obtain ⟨bid',hbid',kept⟩ := Pointwise.mem_left h.bids hbid
    exact ⟨⟨bid',hbid',kept.idpk,kept.status⟩,ids_kept h.rows bid.idpk,stopped bid.idpk⟩

section Steps
variable {cfg : Config} {db db' : Db} {now : Instant}

theorem letters_insert (outbox : Outbox) (row : OutboundMessage) (free) :
    letters (outbox.insert row free) = letters outbox ++ if isBid row then [row] else [] := by
  unfold letters
  rw [Table.rows_insert,List.filter_append,List.filter_cons,List.filter_nil]

theorem letters_enqueue_other (outbox : Outbox) (draft : Draft) (h : draft.content.type ≠ .bid) :
    letters (outbox.enqueue cfg draft) = letters outbox := by
  refine (letters_insert outbox ⟨draft,_,_⟩ _).trans ?_
  rw [if_neg (by unfold isBid; simpa using h),List.append_nil]

theorem rows_set {outbox : Outbox} {row : OutboundMessage} (row' : OutboundMessage)
    (h : outbox.get? row'.msgId = some row) (kept : RowKept row row') :
    List.Forall₂ RowKept (letters outbox) (letters (outbox.set row')) :=
  Pointwise.filter isBid (fun _ _ h => by unfold isBid; rw [h.content])
    (Table.pointwise_set RowKept.refl h kept)

theorem quiet_rows {outbox : Outbox} (h : List.Forall₂ RowKept (letters db.outbox) (letters outbox)) :
    Quiet db { db with outbox := outbox } :=
  ⟨h,List.forall₂_same.mpr fun bid _ => .refl bid,fun bid hbid done => .inl ⟨bid,hbid,rfl,done⟩⟩

theorem quiet_published (msgId : String) :
    Quiet db { db with outbox := Buying.markPublished db.outbox msgId } := by
  apply quiet_rows
  unfold Buying.markPublished
  split
  · exact List.forall₂_same.mpr fun row _ => .refl row
  rename_i row found
  have stored : db.outbox.get? row.msgId = some row := Table.key_of_get? found ▸ found
  dsimp only
  split
  · exact rows_set _ stored ⟨⟨rfl,rfl,rfl,rfl,rfl,rfl⟩,nofun⟩
  · exact rows_set _ stored ⟨⟨rfl,rfl,rfl,rfl,rfl,rfl⟩,nofun⟩

theorem quiet_failed (msgId error : String) :
    Quiet db { db with outbox := Buying.markFailed db.outbox msgId error } := by
  apply quiet_rows
  unfold Buying.markFailed
  split
  · exact List.forall₂_same.mpr fun row _ => .refl row
  rename_i row found
  have stored : db.outbox.get? row.msgId = some row := Table.key_of_get? found ▸ found
  split
  · exact List.forall₂_same.mpr fun row _ => .refl row
  · exact rows_set _ stored ⟨⟨rfl,rfl,rfl,rfl,rfl,rfl⟩,id⟩

/-! ### Answers -/

theorem quiet_reply {payload : Payload} {refusal : Option BidReplies.Refusal}
    (h : BidReplies.processBidReply db payload now = .ok (db',refusal)) : Quiet db db' := by
  obtain rfl | ⟨target,bid,bid',found,settled,rfl⟩ := BidReplies.processBidReply_cases h
  · exact .of_standing rfl
  obtain ⟨hget,outgoing_,pending⟩ := BidReplies.addressed_spec found
  obtain ⟨key,direction,msgId,terms⟩ := BidReplies.resolved_spec settled
  have kept : BidKept bid bid' := ⟨⟨key,direction,terms,.inr (.inl pending)⟩,msgId⟩
  have stored : db.market.bids.get? bid'.idpk = some bid := key ▸ hget
  have stops (row : OutboundMessage) : RowKept row (BidReplies.stopped bid'.idpk row) := by
    unfold BidReplies.stopped
    split
    · exact ⟨⟨rfl,rfl,rfl,rfl,rfl,rfl⟩,nofun⟩
    · exact .refl row
  refine ⟨?_,?_,?_⟩
  · refine Pointwise.filter isBid (fun _ _ h => ?_) (Pointwise.of_map _ fun row _ => stops row)
    unfold isBid
    rw [h.content]
  · refine Pointwise.filter _ (fun _ _ h => ?_) (Table.pointwise_set BidKept.refl stored kept)
    rw [h.direction]
  · intro other hother done
    obtain ⟨hother,direction⟩ := mem_outgoing.mp hother
    rcases Table.mem_set.mp hother with ⟨hother,_⟩ | ⟨rfl,_⟩
    · exact .inl ⟨other,mem_outgoing.mpr ⟨hother,direction⟩,rfl,done⟩
    · refine .inr fun row hrow required => ?_
      obtain ⟨hrow,key⟩ := mem_attempts.mp hrow
      obtain ⟨hrow,kind⟩ := mem_letters.mp hrow
      obtain ⟨old,_,rfl⟩ := List.mem_map.mp hrow
      have same := stops old
      unfold BidReplies.stopped at required
      split at required
      · cases required
      · rename_i live
        refine live ⟨?_,?_,required⟩
        · rw [← same.idpk]
          exact key
        · rw [← same.content]
          exact of_decide_eq_true kind

/-- A message that is an answer to a bid, with its reception. -/
theorem sound_ingest {jwt : Jwt} {payload : Payload}
    (h : payload.type = .bidAccepted ∨ payload.type = .bidRejected) :
    Sound db (Ingest.ingest cfg jwt db payload now).1 := by
  have audited (done : Db) (status : InboundStatus) (reason : Option String) :
      Sound done (Ingest.audit done payload status reason) := by
    apply Quiet.sound
    exact .of_standing rfl
  unfold Ingest.ingest
  split
  swap
  · exact audited db .failed none
  rename_i done verdict hp
  refine Sound.trans ?_ (audited done _ _)
  obtain ⟨rfl,-⟩ | ⟨taken,served,ht,hd,rfl⟩ := Ingest.process_cases hp
  · exact .refl _
  have claimed : Quiet db taken := by
    unfold Ingest.claim? at ht
    split at ht
    · obtain ⟨processed,_,rfl⟩ := Option.map_eq_some_iff.mp ht
      exact .of_standing rfl
    · cases ht
      exact .of_standing rfl
  have asked : Quiet taken (Ingest.requestStatement cfg taken payload now) := by
    apply Quiet.of_standing
    unfold Ingest.requestStatement
    split
    · rfl
    split
    · rfl
    dsimp only
    split
    · rfl
    unfold InformationRequests.enqueue
    split
    · rfl
    · have request : (InformationRequests.requestDraft "status-statement" cfg.centralRoutingKey
          now).content.type ≠ .bid := by
        intro h
        cases h
      exact Prod.ext rfl (letters_enqueue_other _ _ request)
  have replied : Quiet (Ingest.requestStatement cfg taken payload now) served := by
    have branch : Ingest.bidReply (Ingest.requestStatement cfg taken payload now) payload now =
        .ok (served,verdict) := by
      unfold Ingest.dispatch at hd
      rcases h with type | type <;> rw [type] at hd <;> exact hd
    obtain ⟨refusal,reply⟩ := Ingest.bidReply_cases branch
    exact quiet_reply reply
  refine claimed.sound.trans (asked.sound.trans (replied.sound.trans ?_))
  unfold Ingest.returnClaim
  split
  · apply Quiet.sound
    exact .of_standing rfl
  · exact .refl _

/-! ### Expiry -/

/-- Our bids expire, or stay; their attempts stay as they are. -/
theorem quiet_bids {market : Market} (h : List.Forall₂ (fun bid bid' => bid' = bid ∨
      bid.status ≠ .rejected ∧ bid' = { bid with status := .expired })
        db.market.bids.rows market.bids.rows) : Quiet db { db with market := market } := by
  have kept : List.Forall₂ BidKept db.market.bids.rows market.bids.rows := by
    refine h.imp fun bid bid' same => ?_
    rcases same with rfl | ⟨open_,rfl⟩
    · exact .refl _
    · exact ⟨⟨rfl,rfl,rfl,.inr (.inr ⟨rfl,open_⟩)⟩,rfl⟩
  refine ⟨List.forall₂_same.mpr fun row _ => .refl row,
    Pointwise.filter _ (fun _ _ h => by rw [h.direction]) kept,fun bid' hbid' done => ?_⟩
  obtain ⟨hbid',direction⟩ := mem_outgoing.mp hbid'
  obtain ⟨bid,hbid,same⟩ := Pointwise.mem_right h hbid'
  rcases same with rfl | ⟨_,rfl⟩
  · exact .inl ⟨bid',mem_outgoing.mpr ⟨hbid,direction⟩,rfl,done⟩
  · cases done

theorem quiet_expireBids : Quiet db (SwapTimeouts.expireBids cfg db now) := by
  refine quiet_bids (Pointwise.of_map _ fun bid _ => ?_)
  unfold SwapTimeouts.expireBid
  split
  · rename_i stale
    refine .inr ⟨fun rejected => ?_,rfl⟩
    simp [SwapTimeouts.staleAccepted,SwapTimeouts.stalePending,rejected] at stale
  · exact .inl rfl

theorem quiet_setBidExpired (idpk : Option String) :
    Quiet db { db with market := SwapTimeouts.setBidExpired db.market idpk } := by
  unfold SwapTimeouts.setBidExpired
  split
  · exact .of_standing rfl
  rename_i idpk
  split
  · exact .of_standing rfl
  rename_i bid found
  split
  · exact .of_standing rfl
  rename_i live
  rw [not_or] at live
  have stored : db.market.bids.get? bid.idpk = some bid := Table.key_of_get? found ▸ found
  refine quiet_bids (Table.pointwise_set (fun _ => .inl rfl) stored (.inr ⟨fun rejected => ?_,rfl⟩))
  rw [rejected] at live
  exact live.2 rfl

theorem standing_moveReservation (record : SwapRecord) (action : WalletEvents.Action) :
    standing (WalletEvents.moveReservation cfg db record action now) = standing db := by
  have confirmed (outbox : Outbox) (offer : MarketOffer) : letters
      (SellerOffers.enqueueConfirmedOfferUpdate cfg db.calendar outbox offer now) =
        letters outbox := by
    unfold SellerOffers.enqueueConfirmedOfferUpdate
    split
    · rfl
    · exact letters_enqueue_other _ _ (by simp [Content.type])
  unfold WalletEvents.moveReservation
  split
  · rfl
  split
  · rfl
  unfold WalletEvents.updateOfferAndReservation
  split
  · rfl
  split
  · rfl
  dsimp only
  split
  · rfl
  · exact Prod.ext rfl (confirmed _ _)

theorem standing_transition {record done : SwapRecord} {type : WalletEvents.EventType}
    {data : Fields} {rejection : Json}
    (h : WalletEvents.transition cfg db record type data rejection now = .ok (db',done)) :
    standing db' = standing db := by
  unfold WalletEvents.transition at h
  split at h
  · cases h
    rfl
  · obtain ⟨books,_,h⟩ := Fallible.bind_ok.mp h
    cases h
    exact standing_moveReservation _ _
  · obtain ⟨reason,_,h⟩ := Fallible.bind_ok.mp h
    cases h
    exact standing_moveReservation _ _
  · cases h
    exact standing_moveReservation _ _
  · cases h
    exact standing_moveReservation _ _

theorem standing_swapEvent {type : WalletEvents.EventType} {data : Fields} {rejection : Json}
    {record : Option SwapRecord}
    (h : WalletEvents.processSwapEvent cfg db type data rejection now = .ok (db',record)) :
    standing db' = standing db := by
  unfold WalletEvents.processSwapEvent at h
  obtain ⟨found,_,h⟩ := Fallible.bind_ok.mp h
  split at h
  swap
  · cases h
    rfl
  split at h
  · obtain ⟨⟨db₁,done⟩,terminal,h⟩ := Fallible.bind_ok.mp h
    cases h
    unfold WalletEvents.processTerminal at terminal
    obtain ⟨repaired,_,terminal⟩ := Fallible.bind_ok.mp terminal
    dsimp only at terminal
    split at terminal
    · obtain ⟨books,_,terminal⟩ := Fallible.bind_ok.mp terminal
      cases terminal
      rfl
    · cases terminal
      rfl
  · obtain ⟨swapId,_,h⟩ := Fallible.bind_ok.mp h
    obtain ⟨⟨db₁,done⟩,moved,h⟩ := Fallible.bind_ok.mp h
    obtain ⟨snapshots,_,h⟩ := Fallible.bind_ok.mp h
    cases h
    have kept := standing_transition moved
    exact kept

theorem sound_expireRecord (record : SwapRecord) (reason : String) :
    Sound db (SwapTimeouts.expireRecord cfg db record reason now) := by
  unfold SwapTimeouts.expireRecord
  split
  · exact .refl db
  refine Sound.trans (Quiet.of_standing ?_).sound (quiet_setBidExpired _).sound
  exact standing_moveReservation _ _

theorem sound_sweepRecord {record : SwapRecord} {answer : WalletRecovery.GetAnswer}
    {verdict : SwapTimeouts.Verdict}
    (h : SwapTimeouts.sweepRecord cfg db record answer now = .ok (db',verdict)) : Sound db db' := by
  unfold SwapTimeouts.sweepRecord at h
  split at h
  · cases h
    exact sound_expireRecord record _
  split at h
  · cases h
    exact .refl db
  split at h
  · cases h
    exact .refl db
  split at h
  · split at h <;> cases h
    · exact sound_expireRecord record _
    · exact .refl db
  · split at h
    · cases h
      exact .refl db
    dsimp only at h
    split at h
    · obtain ⟨⟨db₁,done⟩,event,h⟩ := Fallible.bind_ok.mp h
      cases h
      exact (Quiet.of_standing (standing_swapEvent event)).sound
    split at h
    · obtain ⟨⟨db₁,done⟩,event,h⟩ := Fallible.bind_ok.mp h
      cases h
      exact (Quiet.of_standing (standing_swapEvent event)).sound.trans (quiet_setBidExpired _).sound
    · split at h <;> cases h <;> exact .refl db
  · cases h
    exact .refl db

/-! ### New attempts -/

theorem attempts_insert (outbox : Outbox) (row : OutboundMessage) (free) (idpk : String) :
    attempts (outbox.insert row free) idpk =
      attempts outbox idpk ++ if isBid row ∧ row.idpk = idpk then [row] else [] := by
  unfold attempts
  rw [letters_insert,List.filter_append]
  by_cases kind : isBid row <;> by_cases key : row.idpk = idpk <;> simp [kind,key]

theorem lastId_insert (outbox : Outbox) (row : OutboundMessage) (free) (h : isBid row)
    (idpk : String) : lastId (outbox.insert row free) idpk =
      if row.idpk = idpk then some row.msgId else lastId outbox idpk := by
  unfold lastId
  rw [attempts_insert]
  by_cases key : row.idpk = idpk
  · rw [if_pos ⟨h,key⟩,if_pos key,List.getLast?_append,List.getLast?_singleton]
    rfl
  · rw [if_neg (fun k => key k.2),if_neg key,List.append_nil]

/-- An attempt of a pending bid none of whose attempts may leave; the bid is the
one it names, new or renewed. -/
structure Attempt (db db' : Db) (bid : MarketBid) (row : OutboundMessage) : Prop where
  free : db.outbox.get? row.msgId = none
  outbox : db'.outbox = db.outbox.insert row free
  carries : Carries row bid
  msgId : bid.msgId = row.msgId
  pending : bid.status = .pending
  bids : ∀ b, b ∈ outgoing db'.market ↔ b ∈ outgoing db.market ∧ b.idpk ≠ bid.idpk ∨ b = bid
  live : ∀ b ∈ outgoing db.market, b.idpk = bid.idpk → b.status = .pending
  terms : ∀ b ∈ outgoing db.market, b.idpk = bid.idpk → SameBid b bid
  alone : ∀ old ∈ attempts db.outbox bid.idpk, ¬ old.dispatchRequired

theorem Attempt.sound (bid : MarketBid) (row : OutboundMessage) (h : Attempt db db' bid row) :
    Sound db db' := by
  intro orderly
  have kind : isBid row := by
    unfold isBid
    rw [h.carries.content]
    rfl
  have key : row.idpk = bid.idpk := h.carries.idpk.symm
  have last (idpk : String) : lastId db'.outbox idpk =
      if row.idpk = idpk then some row.msgId else lastId db.outbox idpk := by
    rw [h.outbox]
    exact lastId_insert db.outbox row h.free kind idpk
  have list (idpk : String) : attempts db'.outbox idpk =
      attempts db.outbox idpk ++ if isBid row ∧ row.idpk = idpk then [row] else [] := by
    rw [h.outbox]
    exact attempts_insert db.outbox row h.free idpk
  have other {idpk : String} (ne : idpk ≠ bid.idpk) :
      attempts db'.outbox idpk = attempts db.outbox idpk := by
    rw [list,if_neg (fun k => ne (k.2.symm.trans key)),List.append_nil]
  have own : bid ∈ outgoing db'.market := (h.bids bid).mpr (.inr rfl)
  have mem {old : OutboundMessage} (hold : old ∈ letters db'.outbox) :
      old ∈ letters db.outbox ∨ old = row := by
    rw [h.outbox,letters_insert,if_pos kind] at hold
    simpa using hold
  refine ⟨⟨?_,?_,?_,?_⟩,?_⟩
  · intro old hold
    rcases mem hold with hold | rfl
    · obtain ⟨b,hb,carries⟩ := orderly.carried old hold
      by_cases same : b.idpk = bid.idpk
      · exact ⟨bid,own,carries.kept ⟨rfl,rfl,rfl,rfl,rfl,rfl⟩ (h.terms b hb same)⟩
      · exact ⟨b,(h.bids b).mpr (.inl ⟨hb,same⟩),carries⟩
    · exact ⟨bid,own,h.carries⟩
  · intro b hb
    rcases (h.bids b).mp hb with ⟨hb,ne⟩ | rfl
    · rw [last,if_neg (fun k => ne (k.symm.trans key))]
      exact orderly.newest b hb
    · rw [last,if_pos key,h.msgId]
  · intro old hold required
    rcases mem hold with hold | rfl
    · by_cases same : old.idpk = bid.idpk
      · exact absurd required (h.alone old (mem_attempts.mpr ⟨hold,same⟩))
      · rw [last,if_neg (fun k => same (k.symm.trans key))]
        exact orderly.latest old hold required
    · rw [last,if_pos rfl]
  · intro b hb done
    rcases (h.bids b).mp hb with ⟨hb,ne⟩ | rfl
    · rw [other ne]
      exact orderly.ended b hb done
    · unfold answered at done
      rw [h.pending] at done
      cases done
  · intro b hb live
    have ne : b.idpk ≠ bid.idpk := fun same => live (h.live b hb same)
    refine ⟨⟨b,(h.bids b).mpr (.inl ⟨hb,ne⟩),rfl,.inl rfl⟩,?_,?_⟩
    · rw [other ne]
    · rw [other ne]
      exact id

/-- A new bid has no attempts yet. -/
theorem attempts_unknown (orderly : Orderly db) {idpk : String}
    (h : db.market.bids.get? idpk = none) : attempts db.outbox idpk = [] := by
  rw [List.eq_nil_iff_forall_not_mem]
  intro row hrow
  obtain ⟨hrow,key⟩ := mem_attempts.mp hrow
  obtain ⟨bid,hbid,carries⟩ := orderly.carried row hrow
  exact Table.get?_eq_none.mp h bid (mem_outgoing.mp hbid).1 (carries.idpk.trans key)

theorem sound_buy (order : Buying.Order) : Sound db (Buying.enqueueBuyBid cfg db order now).1 := by
  intro orderly
  have same : Sound db db := .refl db
  unfold Buying.enqueueBuyBid
  split
  · exact same orderly
  split
  · split <;> exact same orderly
  rename_i new
  split
  · exact same orderly
  rename_i o w _
  split
  · exact same orderly
  rename_i offers _
  split
  · rename_i placed hplaced
    unfold Buying.place at hplaced
    obtain ⟨bids,hb,rfl⟩ := Option.map_eq_some_iff.mp hplaced
    obtain ⟨free,rfl⟩ := Table.insert?_eq_some.mp hb
    have absent (b : MarketBid) (hb : b ∈ outgoing db.market) : b.idpk ≠ order.idpk :=
      Table.get?_eq_none.mp new b (mem_outgoing.mp hb).1
    let bid := Buying.outgoing order o.snapshot.cityId
      (cfg.uuid4 (db.outbox.ids ++ [order.idpk])) now
    let row : OutboundMessage := ⟨Buying.bidDraft order o.snapshot.cityId w.lastBidAt now,
      cfg.uuid4 (db.outbox.ids ++ [order.idpk]),order.idpk⟩
    refine Attempt.sound bid row ⟨Outbox.get?_fresh cfg _ _,rfl,
      ⟨rfl,rfl,rfl,rfl,rfl⟩,rfl,rfl,fun b => ?_,fun b hb key => absurd key (absent b hb),
      fun b hb key => absurd key (absent b hb),?_⟩ orderly
    · rw [mem_outgoing]
      show b ∈ db.market.bids.insert bid free ∧ _ ↔ _
      rw [Table.mem_insert,mem_outgoing]
      constructor
      · rintro ⟨hb | rfl,direction⟩
        · exact .inl ⟨⟨hb,direction⟩,Table.get?_eq_none.mp free b hb⟩
        · exact .inr rfl
      · rintro (⟨⟨hb,direction⟩,_⟩ | rfl)
        · exact ⟨.inl hb,direction⟩
        · exact ⟨.inr rfl,rfl⟩
    · show ∀ old ∈ attempts db.outbox order.idpk, _
      rw [attempts_unknown orderly new]
      intro old hold
      cases hold
  · exact same orderly

section Renewal
variable {previous : OutboundMessage}

/-- Nothing of the bid may leave once its latest attempt has stopped. -/
theorem alone_stopped (orderly : Orderly db) (stored : db.outbox.get? previous.msgId = some previous)
    (kind : isBid previous) (required : previous.dispatchRequired) {stopped : OutboundMessage}
    (same : RowKept previous stopped) (still : ¬ stopped.dispatchRequired) :
    ∀ old ∈ attempts (db.outbox.set stopped) previous.idpk, ¬ old.dispatchRequired := by
  have mem := mem_letters.mpr ⟨Table.mem_of_get? stored,kind⟩
  intro old hold live
  obtain ⟨hold,key⟩ := mem_attempts.mp hold
  obtain ⟨hold,kind'⟩ := mem_letters.mp hold
  rcases Table.mem_set.mp hold with ⟨hold,ne⟩ | ⟨rfl,_⟩
  · have last := orderly.latest old (mem_letters.mpr ⟨hold,kind'⟩) live
    rw [key,orderly.latest previous mem required] at last
    exact ne ((Option.some.inj last).symm.trans same.msgId.symm)
  · exact still live

theorem sound_renewOne (stored : db.outbox.get? previous.msgId = some previous)
    (hr : Buying.renewable previous) : Sound db (Buying.renewOne cfg now db previous) := by
  unfold Buying.renewable at hr
  simp only [Bool.and_eq_true,decide_eq_true_eq] at hr
  obtain ⟨⟨type,_⟩,required⟩ := hr
  have kind : isBid previous := decide_eq_true type
  have stop (lastError : Option String) : RowKept previous
      { previous with dispatchRequired := false, lastError := lastError } :=
    ⟨⟨rfl,rfl,rfl,rfl,rfl,rfl⟩,nofun⟩
  have first (lastError : Option String) : Sound db { db with
      outbox := Table.set db.outbox
        { previous with dispatchRequired := false, lastError := lastError } } := by
    let next : OutboundMessage := { previous with dispatchRequired := false, lastError := lastError }
    exact (quiet_rows (rows_set next stored (stop lastError))).sound
  intro orderly
  unfold Buying.renewOne
  dsimp only
  split
  · exact first _ orderly
  split
  · exact first _ orderly
  rename_i bid found
  obtain ⟨hget,hguard⟩ := Option.filter_eq_some_iff.mp found
  simp only [Bool.and_eq_true,decide_eq_true_eq] at hguard
  obtain ⟨⟨direction,pending⟩,_⟩ := hguard
  have key : bid.idpk = previous.idpk := Table.key_of_get? hget
  have mem : bid ∈ outgoing db.market := mem_outgoing.mpr ⟨Table.mem_of_get? hget,direction⟩
  obtain ⟨owner,howner,carries⟩ :=
    orderly.carried previous (mem_letters.mpr ⟨Table.mem_of_get? stored,kind⟩)
  obtain rfl : owner = bid := outgoing_eq howner mem (carries.idpk.trans key.symm)
  let stopped : Outbox := Table.set db.outbox { previous with dispatchRequired := false }
  let renewed : MarketBid := { owner with msgId := cfg.uuid4 (stopped.ids ++ [previous.idpk]) }
  let row : OutboundMessage := ⟨{ previous.toDraft with
    status := .pending, attemptCount := 0, lastError := none, createdAt := now },
    renewed.msgId,previous.idpk⟩
  have same {b : MarketBid} (hb : b ∈ outgoing db.market) (k : b.idpk = renewed.idpk) : b = owner :=
    outgoing_eq hb mem k
  refine (first previous.lastError).trans (Attempt.sound renewed row
    ⟨Outbox.get?_fresh cfg _ _,rfl,?_,rfl,pending,fun b => ?_,fun b hb k => same hb k ▸ pending,
      fun b hb k => ?_,?_⟩) orderly
  · exact ⟨carries.idpk,carries.content,carries.cycleId,carries.routingKey,carries.exchangeName⟩
  · rw [mem_outgoing]
    show b ∈ db.market.bids.set renewed ∧ _ ↔ _ ∧ _ ∨ _
    rw [Table.mem_set]
    constructor
    · rintro ⟨⟨hb,ne⟩ | ⟨rfl,_⟩,direction⟩
      · exact .inl ⟨mem_outgoing.mpr ⟨hb,direction⟩,ne⟩
      · exact .inr rfl
    · rintro (⟨hb,ne⟩ | rfl)
      · obtain ⟨hb,direction⟩ := mem_outgoing.mp hb
        exact ⟨.inl ⟨hb,ne⟩,direction⟩
      · exact ⟨.inr ⟨rfl,owner,Table.mem_of_get? hget,rfl⟩,direction⟩
  · rw [same hb k]
    exact ⟨rfl,rfl,rfl,.inl rfl⟩
  · show ∀ old ∈ attempts _ owner.idpk, _
    rw [key]
    exact alone_stopped orderly stored kind required (stop previous.lastError) nofun

theorem get?_renewOne {other : OutboundMessage} (ne : other.msgId ≠ previous.msgId)
    (stored : db.outbox.get? other.msgId = some other) :
    (Buying.renewOne cfg now db previous).outbox.get? other.msgId = some other := by
  have kept (stopped : OutboundMessage) (key : stopped.msgId = previous.msgId) :
      (db.outbox.set stopped).get? other.msgId = some other := by
    rw [Table.get?_set_ne _ (key ▸ ne.symm),stored]
  unfold Buying.renewOne
  dsimp only
  split
  · exact kept _ rfl
  split
  · exact kept _ rfl
  · unfold Buying.enqueueAs
    rw [Table.get?_insert,if_neg]
    · exact kept _ rfl
    · intro key
      let stopped : OutboundMessage := { previous with dispatchRequired := false }
      have fresh := Outbox.get?_fresh cfg (db.outbox.set stopped) [previous.idpk]
      rw [show cfg.uuid4 _ = other.msgId from key,kept stopped rfl] at fresh
      cases fresh

theorem sound_renewals (rows : List OutboundMessage) (nodup : (rows.map OutboundMessage.msgId).Nodup)
    (h : ∀ row ∈ rows, db.outbox.get? row.msgId = some row ∧ Buying.renewable row) :
    Sound db (rows.foldl (Buying.renewOne cfg now) db) := by
  induction rows generalizing db with
  | nil => exact .refl db
  | cons row rows ih =>
    rw [List.map_cons,List.nodup_cons] at nodup
    obtain ⟨stored,hr⟩ := h row (List.mem_cons_self ..)
    refine (sound_renewOne stored hr).trans (ih nodup.2 fun other hother => ?_)
    obtain ⟨stored,hr⟩ := h other (List.mem_cons_of_mem _ hother)
    refine ⟨get?_renewOne (fun same => nodup.1 ?_) stored,hr⟩
    rw [← same]
    exact List.mem_map_of_mem hother

end Renewal

theorem sound_renew : Sound db (Buying.renewFailed cfg db now) := by
  refine sound_renewals _ (db.outbox.nodup.sublist (List.filter_sublist.map _)) fun row hrow => ?_
  obtain ⟨hrow,hr⟩ := List.mem_filter.mp hrow
  exact ⟨Table.get?_of_mem hrow,hr⟩

end Steps

/-! ### Runs -/

section Runs
variable {env : Env} {db : Db}

theorem step_sound (a : Act) : Sound db (step env db a) := by
  cases a with
  | buy order now => exact sound_buy order
  | published msgId => exact (quiet_published msgId).sound
  | failed msgId error => exact (quiet_failed msgId error).sound
  | renew now => exact sound_renew
  | reply payload now =>
    unfold step
    dsimp only
    split
    · rename_i type
      exact sound_ingest type
    · exact .refl db
  | sweep idpk answer now =>
    unfold step Node.step Node.sweep Node.attempted
    dsimp only
    split
    · rename_i swept
      split at swept
      · cases swept
        exact .refl db
      · obtain ⟨⟨db₁,verdict⟩,hs,rfl⟩ := Fallible.map_ok.mp swept
        exact sound_sweepRecord hs
    · exact .refl db
  | expire now => exact quiet_expireBids.sound
  | elsewhere next =>
    unfold step
    dsimp only
    split
    · rename_i same
      exact (Quiet.of_standing same).sound
    · exact .refl db

theorem orderly_empty : Orderly {} where
  carried _ h := nomatch h
  newest _ h := nomatch h
  latest _ h := nomatch h
  ended _ h := nomatch h

/-- The attempts of a bid repeat it to its destination, its own message is that of
the newest, and at most one of them may leave. -/
structure Consistent (db : Db) (bid : MarketBid) : Prop where
  repeated : ∀ row ∈ attempts db.outbox bid.idpk, Carries row bid
  newest : (attempts db.outbox bid.idpk).getLast?.map OutboundMessage.msgId = some bid.msgId
  one : ∀ a ∈ attempts db.outbox bid.idpk, ∀ b ∈ attempts db.outbox bid.idpk,
    a.dispatchRequired → b.dispatchRequired → a = b

/-- The bid was answered with `status`: it never gets the other answer, nothing of
it leaves, and its attempts are those there were. -/
structure Decided (ids : List String) (bid : MarketBid) (db : Db) : Prop where
  status : ∃ now ∈ outgoing db.market, now.idpk = bid.idpk ∧
    (now.status = bid.status ∨ now.status = .expired)
  silent : ∀ row ∈ attempts db.outbox bid.idpk, ¬ row.dispatchRequired
  attempts : (attempts db.outbox bid.idpk).map OutboundMessage.msgId = ids

theorem Orderly.consistent (h : Orderly db) {bid : MarketBid} (hb : bid ∈ outgoing db.market) :
    Consistent db bid := by
  refine ⟨fun row hrow => ?_,h.newest bid hb,fun a ha b hb da db' => ?_⟩
  · obtain ⟨hrow,key⟩ := mem_attempts.mp hrow
    obtain ⟨owner,howner,carries⟩ := h.carried row hrow
    obtain rfl : owner = bid := outgoing_eq howner hb (carries.idpk.trans key)
    exact carries
  · obtain ⟨ha,ka⟩ := mem_attempts.mp ha
    obtain ⟨hb,kb⟩ := mem_attempts.mp hb
    have la := h.latest a ha da
    have lb := h.latest b hb db'
    rw [ka] at la
    rw [kb,la] at lb
    exact Table.eq_of_key (mem_letters.mp ha).1 (mem_letters.mp hb).1 (Option.some.inj lb)

theorem Decided.step {ids : List String} {bid : MarketBid} (orderly : Orderly db)
    (done : bid.status ≠ .pending) (h : Decided ids bid db) (a : Act) :
    Decided ids bid (step env db a) := by
  obtain ⟨⟨old,hold,key,status⟩,silent,same⟩ := h
  have live : old.status ≠ .pending := by
    rcases status with status | status
    · rw [status]
      exact done
    · rw [status]
      decide
  obtain ⟨⟨now,hnow,key',advanced⟩,same',stopped⟩ := (step_sound a orderly).2 old hold live
  rw [key] at key' same' stopped
  refine ⟨⟨now,hnow,key',?_⟩,stopped silent,same'.trans same⟩
  rcases advanced with e | e | ⟨e,_⟩
  · rw [e]
    exact status
  · exact absurd e live
  · exact .inr e

/-- Over every run, the attempts of our bids are consistent, and an answered bid
keeps its answer and is not sent again. -/
theorem bid_lifecycle (env : Env) (acts later : List Act) :
    Always (step env) (fun db => ∀ bid ∈ outgoing db.market, Consistent db bid) {} acts ∧
      ∀ bid ∈ outgoing (run (step env) {} acts).market, answered bid →
        Always (step env) (Decided ((attempts (run (step env) {} acts).outbox bid.idpk).map
          OutboundMessage.msgId) bid) (run (step env) {} acts) later := by
  have orderly : Always (step env) Orderly {} acts :=
    always_of_step (fun db a h _ => (step_sound a h).1) orderly_empty (along_true _ _)
  refine ⟨orderly.mono fun db h bid => h.consistent,fun bid hb done => ?_⟩
  have live : bid.status ≠ .pending := by
    intro pending
    unfold answered at done
    rw [pending] at done
    cases done
  have start := orderly.final
  have decided : Always (step env) (fun db => Orderly db ∧ Decided _ bid db)
      (run (step env) {} acts) later :=
    always_of_step (fun db a h _ => ⟨(step_sound a h.1).1,h.2.step h.1 live a⟩)
      ⟨start,⟨⟨bid,hb,rfl,.inl rfl⟩,start.ended bid hb done,rfl⟩⟩ (along_true _ _)
  exact decided.mono fun db h => h.2

end Runs

end BidAttempts

end EnergyNode
