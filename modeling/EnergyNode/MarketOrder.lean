import EnergyNode.FeedAgreement
import EnergyNode.Lib.FirstOccurrence
import EnergyNode.ReportRuns

/-! The messages of our offers leave in order. The backend lists one only when
every earlier one of its cycle is PUBLISHED; the connector publishes what it was
listed and reports the result, which may come late, twice or never. -/
namespace EnergyNode
open Lib

namespace MarketOrder
open OutboundDispatch

/-- The cycle whose feed a row belongs to. -/
def feedCycle (row : OutboundMessage) : Option String := if isMarket row then row.cycleId else none

def names (outbox : Outbox) : List (String × Option String) :=
  outbox.rows.map fun row => (row.msgId,feedCycle row)

/-- The market messages of a cycle, in the order of their ids. -/
def announced (outbox : Outbox) (cycleId : String) : List String :=
  ((names outbox).filter fun n => n.2 = some cycleId).map Prod.fst

/-- What a transaction may do to the market messages when the connector has
reported no more than `reported`: it appends unpublished ones, and none becomes
PUBLISHED but these. -/
structure Follows (reported : List String) (a b : Outbox) : Prop where
  names : names a <+: names b
  published : ∀ row ∈ b.rows, (feedCycle row).isSome → row.status = .published →
    row.msgId ∈ reported ∨ ∃ old ∈ a.rows, old.msgId = row.msgId ∧ (feedCycle old).isSome ∧
      old.status = .published

instance (reported : List String) (a b : Outbox) : Decidable (Follows reported a b) :=
  decidable_of_iff
    (MarketOrder.names a <+: MarketOrder.names b ∧
      ∀ row ∈ b.rows, (feedCycle row).isSome → row.status = .published →
        row.msgId ∈ reported ∨ ∃ old ∈ a.rows, old.msgId = row.msgId ∧ (feedCycle old).isSome ∧
          old.status = .published)
    ⟨fun h => ⟨h.1,h.2⟩,fun h => ⟨h.names,h.published⟩⟩

/-! ### The connector -/

/-- The types the connector asks a quota for. -/
def metered (row : OutboundMessage) : Bool := isMarket row || row.content.type = .request

/-- `reserve_outbound_quota`: `retryAfter` is the answer of the shared limiter;
`none` is a 409. -/
def reserveQuota (outbox : Outbox) (msgId : String) (retryAfter : Nat) (now : Instant) :
    Option (Outbox × Bool) :=
  match outbox.get? msgId with
  | none => none
  | some row =>
      if !row.dispatchRequired || row.status = .published then none
      else if !(isMarket row || row.content.type = .request &&
          row.requestAsk.any (· ∈ ["status-statement","distance-table"])) then none
      else if row.expiresAt.any (· ≤ now) then none
      else if row.availableAt.any (now < ·) then some (outbox,false)
      else some (outbox.set { row with
        availableAt := some (now + seconds (if retryAfter = 0 then 15 else retryAfter)) },
        retryAfter = 0)

/-- How the attempt to publish an item ends. -/
inductive Fate where
  /-- `select_outbound_destination` refuses the item. -/
  | misdirected
  /-- The quota request fails on the way, before or after it was served. -/
  | unanswered (served : Bool)
  /-- The publication fails, though the broker may have taken the message; then
  the batch goes on, or ends with the connection. -/
  | failed (taken unavailable : Bool)
  | confirmed
deriving DecidableEq

structure Attempt where
  now : Instant
  retryAfter : Nat
  /-- The text of the exception, where there is one. -/
  error : String
  fate : Fate

structure World where
  db : Db := {}
  /-- What is left of the batch of each publisher. -/
  batches : Nat → List OutboundMessage := fun _ => []
  /-- What the broker took, in order. -/
  sent : List String := []
  /-- The results on their way to the backend, `none` for PUBLISHED. -/
  results : List (String × Option String) := []

namespace World

def report (w : World) (msgId : String) (error : Option String) : World :=
  { w with results := w.results ++ [(msgId,error)] }

/-- `publish_protocol_message` and what is reported of it. -/
def publish (w : World) (publisher : Nat) (item : OutboundMessage) (a : Attempt) : World :=
  match a.fate with
  | .failed taken unavailable =>
      { w with
        sent := if taken then w.sent ++ [item.msgId] else w.sent
        batches := if unavailable then Function.update w.batches publisher [] else w.batches }.report
          item.msgId (some a.error)
  | _ => { w with sent := w.sent ++ [item.msgId] }.report item.msgId none

/-- One round of the loop over the items. -/
def turn (w : World) (publisher : Nat) (item : OutboundMessage) (a : Attempt) : World :=
  if item.expiresAt.any (· ≤ a.now) then w
  else if a.fate = .misdirected then w.report item.msgId (some a.error)
  else if metered item then
    match reserveQuota w.db.outbox item.msgId a.retryAfter a.now with
    | none => w.report item.msgId (some a.error)
    | some (outbox,allowed) =>
        let reserved := { w with db := { w.db with outbox := outbox } }
        match a.fate with
        | .unanswered served => (if served then reserved else w).report item.msgId (some a.error)
        | _ => if allowed then reserved.publish publisher item a else reserved
  else w.publish publisher item a

end World

/-! ### The system -/

inductive Act where
  /-- An operation on our offer of the cycle, which holds the row of the offer. -/
  | produce (cycleId : String) (operation : FeedAgreement.Operation) (moment : Instant)
  | close (cycleId : String)
  /-- A transaction that leaves the market messages as they are, or appends some. -/
  | elsewhere (db : Db)
  | poll (publisher limit : Nat) (locked closed : List String) (now : Instant)
  | attempt (publisher : Nat) (a : Attempt)
  /-- The connector starts again, and forgets its batch. -/
  | reconnect (publisher : Nat)
  /-- A result arrives; it may arrive again. -/
  | deliver (i : Nat)

def step (cfg : Config) (w : World) : Act → World
  | .produce cycleId operation moment =>
      { w with db := FeedAgreement.transaction cfg cycleId w.db moment operation }
  | .close cycleId => { w with db := SellerOffers.closeLocalOffers cfg w.db cycleId }
  | .elsewhere db => if Follows [] w.db.outbox db.outbox then { w with db := db } else w
  | .poll publisher limit locked closed now =>
      let db := prepare cfg w.db locked closed now
      { w with
        db := db
        batches := Function.update w.batches publisher (select db limit now) }
  | .attempt publisher a =>
      match w.batches publisher with
      | [] => w
      | item :: rest =>
          { w with batches := Function.update w.batches publisher rest }.turn publisher item a
  | .reconnect publisher => { w with batches := Function.update w.batches publisher [] }
  | .deliver i =>
      match w.results[i]? with
      | none => w
      | some (msgId,error) => { w with db := Reports.result w.db msgId error }

/-! ### What a transaction does to the market messages -/

section Names
variable {outbox : Outbox} {cycleId msgId : String}

theorem names_nodup (outbox : Outbox) : ((names outbox).map Prod.fst).Nodup := by
  unfold names
  rw [List.map_map]
  exact outbox.nodup

theorem mem_announced : msgId ∈ announced outbox cycleId ↔ (msgId,some cycleId) ∈ names outbox := by
  unfold announced
  rw [List.mem_map]
  constructor
  · rintro ⟨⟨_,_⟩,h,rfl⟩
    rw [List.mem_filter,decide_eq_true_eq] at h
    obtain ⟨h,rfl⟩ := h
    exact h
  · intro h
    exact ⟨_,List.mem_filter.mpr ⟨h,by simp⟩,rfl⟩

theorem announced_nodup (outbox : Outbox) (cycleId : String) : (announced outbox cycleId).Nodup :=
  (names_nodup outbox).sublist (List.filter_sublist.map Prod.fst)

/-- A message belongs to one feed at most. -/
theorem feedCycle_eq {c d : Option String} (h : (msgId,c) ∈ names outbox)
    (k : (msgId,d) ∈ names outbox) : c = d := by
  have same := List.inj_on_of_nodup_map (names_nodup outbox) h k rfl
  exact congrArg Prod.snd same

theorem announced_append {a b : Outbox} {new : List (String × Option String)}
    (h : names b = names a ++ new) (cycleId : String) : announced b cycleId =
      announced a cycleId ++ (new.filter fun n => n.2 = some cycleId).map Prod.fst := by
  unfold announced
  rw [h,List.filter_append,List.map_append]

theorem mem_names {row : OutboundMessage} (h : row ∈ outbox) :
    (row.msgId,feedCycle row) ∈ names outbox := List.mem_map_of_mem h

theorem names_set {row : OutboundMessage} (h : (row.msgId,feedCycle row) ∈ names outbox) :
    names (outbox.set row) = names outbox := by
  unfold names
  show (outbox.rows.map _).map _ = _
  rw [List.map_map]
  apply List.map_congr_left
  intro old hold
  by_cases key : old.msgId = row.msgId
  · have own := mem_names hold
    rw [key] at own
    simp [key,feedCycle_eq own h]
  · simp [key]

end Names

namespace Follows
variable {reported : List String} {a b c : Outbox}

theorem refl (outbox : Outbox) : Follows reported outbox outbox :=
  ⟨List.prefix_refl _,fun row h _ hs => .inr ⟨row,h,rfl,by assumption,hs⟩⟩

theorem trans (h : Follows reported a b) (k : Follows reported b c) : Follows reported a c where
  names := h.names.trans k.names
  published row hrow market published := by
    rcases k.published row hrow market published with mem | ⟨old,hold,key,market,published⟩
    · exact .inl mem
    · rw [← key]
      exact h.published old hold market published

theorem mono {more : List String} (h : Follows reported a b) (hm : reported ⊆ more) :
    Follows more a b :=
  ⟨h.names,fun row hrow market published => (h.published row hrow market published).imp_left
    fun mem => hm mem⟩

theorem insert {row : OutboundMessage} (free : a.get? row.msgId = none)
    (h : row.status ≠ .published) : Follows reported a (a.insert row free) where
  names := ⟨[(row.msgId,feedCycle row)],by simp [MarketOrder.names]⟩
  published other hother market published := by
    rw [Table.rows_insert,List.mem_append,List.mem_singleton] at hother
    rcases hother with hother | rfl
    · exact .inr ⟨other,hother,rfl,market,published⟩
    · exact absurd published h

theorem enqueue (cfg : Config) {draft : Draft} (h : draft.status ≠ .published) :
    Follows reported a (a.enqueue cfg draft) := insert (Outbox.get?_fresh cfg a []) h

/-- A row under the same name, PUBLISHED as before or as reported. -/
theorem set {row : OutboundMessage} (name : (row.msgId,feedCycle row) ∈ MarketOrder.names a)
    (h : (feedCycle row).isSome → row.status = .published → row.msgId ∈ reported ∨
      ∃ old ∈ a.rows, old.msgId = row.msgId ∧ (feedCycle old).isSome ∧ old.status = .published) :
    Follows reported a (a.set row) where
  names := names_set name ▸ List.prefix_refl _
  published other hother market published := by
    rcases Table.mem_set.mp hother with ⟨hother,_⟩ | ⟨rfl,_⟩
    · exact .inr ⟨other,hother,rfl,market,published⟩
    · exact h market published

theorem mapRows {f : OutboundMessage → OutboundMessage} (hf)
    (h : ∀ row, feedCycle (f row) = feedCycle row ∧ (f row).status = row.status) :
    Follows reported a (a.mapRows f hf) where
  names := by
    have same : MarketOrder.names (a.mapRows f hf) = MarketOrder.names a := by
      unfold MarketOrder.names
      show (a.rows.map f).map _ = _
      rw [List.map_map]
      apply List.map_congr_left
      intro row _
      simp [hf,(h row).1]
    exact same ▸ List.prefix_refl _
  published row hrow market published := by
    obtain ⟨old,hold,rfl⟩ := List.mem_map.mp hrow
    rw [(h old).1] at market
    rw [(h old).2] at published
    exact .inr ⟨old,hold,(hf old).symm,market,published⟩

/-- Messages of other kinds, handled one after another. -/
theorem fold {turn : Db → OutboundMessage → Db} {reported : List String}
    (h : ∀ db row, (row.msgId,none) ∈ MarketOrder.names db.outbox → feedCycle row = none →
      Follows reported db.outbox (turn db row).outbox) :
    ∀ (rows : List OutboundMessage) (db : Db),
      (∀ row ∈ rows, (row.msgId,none) ∈ MarketOrder.names db.outbox ∧ feedCycle row = none) →
        Follows reported db.outbox (rows.foldl turn db).outbox
  | [], db, _ => refl db.outbox
  | row :: rows, db, listed => by
      obtain ⟨name,other⟩ := listed row (List.mem_cons_self ..)
      have first := h db row name other
      refine first.trans (fold h rows (turn db row) fun next hnext => ?_)
      obtain ⟨name,other⟩ := listed next (List.mem_cons_of_mem _ hnext)
      exact ⟨first.names.subset name,other⟩

end Follows

theorem feedCycle_other {row : OutboundMessage} (h : isMarket row = false) :
    feedCycle row = none := by
  unfold feedCycle
  rw [h]
  rfl

section Producers
variable {cfg : Config} {db : Db} {reported : List String}

theorem follows_confirmed (calendar : Calendar) (outbox : Outbox) (offer : MarketOffer)
    (now : Instant) : Follows reported outbox
      (SellerOffers.enqueueConfirmedOfferUpdate cfg calendar outbox offer now) := by
  unfold SellerOffers.enqueueConfirmedOfferUpdate
  split
  · exact .refl outbox
  · exact .enqueue cfg nofun

theorem follows_create {cycleId : String} {available : ℚ} {now : Instant} {db' : Db}
    (h : SellerOffers.enqueueSellerOffer cfg db cycleId available now = .ok db') :
    Follows reported db.outbox db'.outbox := by
  obtain rfl | ⟨cycle,free,quantity,price,-,-,-,rfl⟩ := SellerOffers.enqueueSellerOffer_cases h
  · exact .refl _
  · exact .enqueue cfg nofun

theorem follows_reprice {offerId : String} {price : Decimal} {now : Instant} {db' : Db}
    (h : SellerOffers.changeLocalOfferPrice cfg db offerId price now = .ok db') :
    Follows reported db.outbox db'.outbox := by
  unfold SellerOffers.changeLocalOfferPrice at h
  split at h
  · cases h
  split at h
  · cases h
  dsimp only at h
  split at h
  · cases h
  split at h
  · cases h
  split at h
  · cases h
  split at h <;> cases h
  · exact .refl _
  · exact follows_confirmed _ _ _ _

theorem follows_withdraw {offerId : String} {now : Instant} {db' : Db}
    (h : SellerOffers.withdrawLocalOffer cfg db offerId now = .ok db') :
    Follows reported db.outbox db'.outbox := by
  unfold SellerOffers.withdrawLocalOffer at h
  split at h
  · cases h
  split at h
  · cases h
    exact .refl _
  · cases h
  · split at h <;> cases h
    exact .enqueue cfg nofun

theorem follows_commit (offerId bidIdpk : String) (action : WalletEvents.Action) (now : Instant) :
    Follows reported db.outbox
      (WalletEvents.updateOfferAndReservation cfg db offerId bidIdpk action now).outbox := by
  unfold WalletEvents.updateOfferAndReservation
  split
  · exact .refl _
  split
  · exact .refl _
  dsimp only
  split
  · exact .refl _
  · exact follows_confirmed _ _ _ _

theorem follows_attempted {result : Result Db}
    (h : ∀ db', result = .ok db' → Follows reported db.outbox db'.outbox) :
    Follows reported db.outbox (FeedAgreement.attempted db result).outbox := by
  cases result with
  | error f => exact .refl _
  | ok db' => exact h db' rfl

theorem follows_transaction (cycleId : String) (moment : Instant)
    (operation : FeedAgreement.Operation) : Follows reported db.outbox
      (FeedAgreement.transaction cfg cycleId db moment operation).outbox := by
  cases operation with
  | create available => exact follows_attempted fun _ h => follows_create h
  | commit bidIdpk => exact follows_commit _ _ _ _
  | reprice price => exact follows_attempted fun _ h => follows_reprice h
  | withdraw => exact follows_attempted fun _ h => follows_withdraw h

theorem follows_close (cycleId : String) : Follows reported db.outbox
    (SellerOffers.closeLocalOffers cfg db cycleId).outbox := by
  refine .mapRows (SellerOffers.silenced_msgId cycleId) fun row => ?_
  unfold SellerOffers.silenced
  split <;> exact ⟨rfl,rfl⟩

/-! ### Polls -/

theorem follows_expireReports (locked : List String) (now : Instant) :
    Follows reported db.outbox (Reports.expireReportDispatches db locked now).outbox := by
  refine .mapRows (Reports.stopDoomed_msgId _) fun row => ?_
  unfold Reports.stopDoomed
  split <;> exact ⟨rfl,rfl⟩

theorem isMarket_of_type {row : OutboundMessage} {type : MessageType}
    (h : row.content.type = type)
    (other : type ≠ .offer ∧ type ≠ .offerUpdated ∧ type ≠ .offerWithdrawn) :
    isMarket row = false := by
  unfold isMarket SellerOffers.isOfferEvent
  cases content : row.content <;> simp_all [Content.type]

theorem follows_renewOne {row : OutboundMessage} (now : Instant)
    (name : (row.msgId,none) ∈ names db.outbox) (other : feedCycle row = none) :
    Follows reported db.outbox (Buying.renewOne cfg now db row).outbox := by
  have stop (lastError : Option String) : Follows reported db.outbox
      (db.outbox.set { row with dispatchRequired := false, lastError := lastError }) := by
    have same : feedCycle { row with dispatchRequired := false, lastError := lastError } = none :=
      other
    refine .set ?_ fun market => ?_
    · rw [same]
      exact name
    · rw [same] at market
      cases market
  unfold Buying.renewOne
  dsimp only
  split
  · exact stop _
  split
  · exact stop _
  · exact (stop _).trans (.insert (Outbox.get?_fresh cfg _ _) nofun)

theorem follows_expireProposal {row : OutboundMessage} (closed : List String) (now : Instant)
    (name : (row.msgId,none) ∈ names db.outbox) (other : feedCycle row = none) :
    Follows reported db.outbox (Negotiations.expireProposal closed now db row).outbox := by
  have stop : Follows reported db.outbox (db.outbox.set
      { row with dispatchRequired := false, lastError := some "CYCLE_EXPIRED" }) := by
    have same : feedCycle { row with
      dispatchRequired := false, lastError := some "CYCLE_EXPIRED" } = none := other
    refine .set ?_ fun market => ?_
    · rw [same]
      exact name
    · rw [same] at market
      cases market
  unfold Negotiations.expireProposal
  dsimp only
  repeat' split
  all_goals
    first
    | exact stop
    | exact .refl _

theorem follows_prepare (locked closed : List String) (now : Instant) :
    Follows reported db.outbox (prepare cfg db locked closed now).outbox := by
  have listed {db : Db} {p : OutboundMessage → Bool} (hp : ∀ row, p row → isMarket row = false) :
      ∀ row ∈ db.outbox.rows.filter p,
        (row.msgId,none) ∈ names db.outbox ∧ feedCycle row = none := by
    intro row hrow
    obtain ⟨hrow,kind⟩ := List.mem_filter.mp hrow
    have other := feedCycle_other (hp row kind)
    exact ⟨other ▸ mem_names hrow,other⟩
  refine (follows_expireReports locked now).trans (.trans (.fold
    (fun db row name other => follows_renewOne now name other) _ _ (listed fun row kind => ?_))
    (.fold (fun db row name other => follows_expireProposal closed now name other) _ _
      (listed fun row kind => ?_)))
  · unfold Buying.renewable at kind
    simp only [Bool.and_eq_true,decide_eq_true_eq] at kind
    exact isMarket_of_type kind.1.1 (by decide)
  · unfold Negotiations.isProposal at kind
    simp only [Bool.and_eq_true,decide_eq_true_eq] at kind
    exact isMarket_of_type kind.1 (by decide)

end Producers

/-! ### Results and quotas -/

section Results
variable {db : Db} {reported : List String} {msgId : String} {row : OutboundMessage}

/-- A stored row with other columns, as PUBLISHED as reported. -/
theorem follows_column {outbox : Outbox} (found : outbox.get? msgId = some row)
    (row' : OutboundMessage) (same : (row'.msgId,feedCycle row') = (row.msgId,feedCycle row))
    (h : row'.status = .published → row.msgId ∈ reported ∨ row.status = .published) :
    Follows reported outbox (outbox.set row') := by
  have mem := Table.mem_of_get? found
  refine .set (same ▸ mem_names mem) fun market published => ?_
  rw [Prod.mk.injEq] at same
  rw [same.1]
  refine (h published).imp_right fun hs => ⟨row,mem,rfl,?_,hs⟩
  rw [← same.2]
  exact market

theorem follows_markPublished (outbox : Outbox) (h : msgId ∈ reported) :
    Follows reported outbox (Buying.markPublished outbox msgId) := by
  unfold Buying.markPublished
  split
  · exact .refl _
  rename_i row found
  have reported : row.msgId ∈ reported := (Table.key_of_get? found).symm ▸ h
  dsimp only
  split
  · exact follows_column found _ rfl fun _ => .inl reported
  · exact follows_column found _ rfl fun _ => .inl reported

theorem follows_markFailed (outbox : Outbox) (error : String) :
    Follows reported outbox (Buying.markFailed outbox msgId error) := by
  unfold Buying.markFailed
  split
  · exact .refl _
  rename_i row found
  split
  · exact .refl _
  · exact follows_column found _ rfl nofun

theorem markSent_outbox : (Reports.markSent db row).outbox = db.outbox := by
  unfold Reports.markSent
  split
  · rfl
  · dsimp only
    split <;> rfl

theorem follows_reportResult (found : db.outbox.get? msgId = some row) (hr : Reports.isReport row)
    (error : Option String) :
    Follows reported db.outbox (Reports.reportResult db row error).outbox := by
  have other : isMarket row = false := by
    unfold Reports.isReport at hr
    exact isMarket_of_type (of_decide_eq_true hr) (by decide)
  have stored (row' : OutboundMessage) (key : row'.msgId = row.msgId)
      (content : row'.content = row.content) :
      Follows reported db.outbox (db.outbox.set row') := by
    have other' : feedCycle row' = none := by
      apply feedCycle_other
      unfold isMarket
      rw [content]
      exact other
    refine .set ?_ fun market => ?_
    · rw [other',key,← feedCycle_other other]
      exact mem_names (Table.mem_of_get? found)
    · rw [other'] at market
      cases market
  unfold Reports.reportResult
  split
  · rw [markSent_outbox]
    exact stored _ rfl rfl
  · refine stored _ ?_ ?_
    · unfold Reports.failedRow
      split <;> rfl
    · unfold Reports.failedRow
      split <;> rfl

theorem follows_result {error : Option String} (h : error = none → msgId ∈ reported) :
    Follows reported db.outbox (Reports.result db msgId error).outbox := by
  unfold Reports.result
  split
  · exact .refl _
  rename_i row found
  split
  · rename_i hr
    exact follows_reportResult found hr error
  dsimp only
  split
  · exact follows_markPublished _ (h rfl)
  · exact follows_markFailed _ _

theorem follows_quota {outbox reserved : Outbox} {retryAfter : Nat} {now : Instant}
    {allowed : Bool} (h : reserveQuota outbox msgId retryAfter now = some (reserved,allowed)) :
    Follows reported outbox reserved := by
  unfold reserveQuota at h
  split at h
  · cases h
  rename_i row found
  split at h
  · cases h
  split at h
  · cases h
  split at h
  · cases h
  split at h <;> cases h
  · exact .refl _
  · exact follows_column found _ rfl .inr

end Results

/-! ### The invariant -/

/-- The earlier messages of its feed were taken by the broker. -/
def Preceded (w : World) (item : OutboundMessage) : Prop :=
  ∀ cycleId, feedCycle item = some cycleId →
    ∀ id ∈ (announced w.db.outbox cycleId).takeWhile (· ≠ item.msgId), id ∈ w.sent

structure Sound (w : World) : Prop where
  known : ∀ id ∈ w.sent, id ∈ (names w.db.outbox).map Prod.fst
  items : ∀ publisher, ∀ item ∈ w.batches publisher,
    (item.msgId,feedCycle item) ∈ names w.db.outbox ∧ Preceded w item
  confirmed : ∀ row ∈ w.db.outbox.rows, (feedCycle row).isSome → row.status = .published →
    row.msgId ∈ w.sent
  results : ∀ msgId, (msgId,none) ∈ w.results → msgId ∈ w.sent
  ordered : ∀ cycleId,
    firsts (announced w.db.outbox cycleId) w.sent <+: announced w.db.outbox cycleId

section Steps
variable {cfg : Config} {w : World}

theorem sound_empty : Sound {} where
  known _ h := nomatch h
  items _ _ h := nomatch h
  confirmed _ h := nomatch h
  results _ h := nomatch h
  ordered _ := List.nil_prefix

/-- What is appended comes after the item. -/
theorem Preceded.follows {item : OutboundMessage} (preceded : Preceded w item) (db : Db)
    (f : Follows w.sent w.db.outbox db.outbox)
    (name : (item.msgId,feedCycle item) ∈ names w.db.outbox) :
    (item.msgId,feedCycle item) ∈ names db.outbox ∧ Preceded { w with db := db } item := by
  refine ⟨f.names.subset name,fun cycleId own => ?_⟩
  obtain ⟨new,same⟩ := f.names
  show ∀ id ∈ (announced db.outbox cycleId).takeWhile _, id ∈ w.sent
  rw [announced_append same.symm,takeWhile_append (mem_announced.mpr (own ▸ name))]
  exact preceded cycleId own

theorem Sound.follows (h : Sound w) {db : Db} (f : Follows w.sent w.db.outbox db.outbox) :
    Sound { w with db := db } := by
  obtain ⟨new,same⟩ := f.names
  have more (cycleId : String) := announced_append same.symm cycleId
  refine ⟨fun id hid => ?_,fun p item hitem => ?_,fun row hrow market published => ?_,h.results,
    fun cycleId => ?_⟩
  · exact (f.names.map Prod.fst).subset (h.known id hid)
  · obtain ⟨name,preceded⟩ := h.items p item hitem
    exact preceded.follows db f name
  · rcases f.published row hrow market published with taken | ⟨old,hold,key,market,published⟩
    · exact taken
    · exact key ▸ h.confirmed old hold market published
  · show firsts (announced db.outbox cycleId) w.sent <+: announced db.outbox cycleId
    rw [more,firsts_append]
    · exact (h.ordered cycleId).trans (List.prefix_append _ _)
    · intro id hnew taken
      have nodup := names_nodup db.outbox
      rw [← same,List.map_append] at nodup
      obtain ⟨n,hn,rfl⟩ := List.mem_map.mp hnew
      exact (List.nodup_append.mp nodup).2.2 _ (h.known _ taken) _
        (List.mem_map_of_mem (List.mem_filter.mp hn).1) rfl

/-- The broker takes a message of a batch. -/
theorem Sound.send (h : Sound w) {item : OutboundMessage}
    (name : (item.msgId,feedCycle item) ∈ names w.db.outbox) (preceded : Preceded w item) :
    Sound { w with sent := w.sent ++ [item.msgId] } := by
  have grown {id : String} (hid : id ∈ w.sent) : id ∈ w.sent ++ [item.msgId] :=
    List.mem_append_left _ hid
  refine ⟨fun id hid => ?_,fun p other hother => ?_,fun row hrow market published => ?_,
    fun id hid => grown (h.results id hid),fun cycleId => ?_⟩
  · rcases List.mem_append.mp hid with hid | hid
    · exact h.known id hid
    · rw [List.mem_singleton.mp hid]
      exact List.mem_map_of_mem (f := Prod.fst) name
  · obtain ⟨name,before⟩ := h.items p other hother
    exact ⟨name,fun cycleId own id hid => grown (before cycleId own id hid)⟩
  · exact grown (h.confirmed row hrow market published)
  · refine prefix_firsts_snoc (announced_nodup _ _) (h.ordered cycleId) fun mem => ?_
    exact preceded cycleId (feedCycle_eq name (mem_announced.mp mem))

theorem Sound.report (h : Sound w) {msgId : String} {error : Option String}
    (ok : error = none → msgId ∈ w.sent) : Sound (w.report msgId error) where
  known := h.known
  items := h.items
  confirmed := h.confirmed
  results id hid := by
    rcases List.mem_append.mp hid with hid | hid
    · exact h.results id hid
    · rw [List.mem_singleton,Prod.mk.injEq] at hid
      rw [hid.1]
      exact ok hid.2.symm
  ordered := h.ordered

/-- A publisher has another batch. -/
theorem Sound.batch (h : Sound w) (publisher : Nat) {batch : List OutboundMessage}
    (ok : ∀ item ∈ batch, (item.msgId,feedCycle item) ∈ names w.db.outbox ∧ Preceded w item) :
    Sound { w with batches := Function.update w.batches publisher batch } where
  known := h.known
  items p item hitem := by
    by_cases same : p = publisher
    · subst same
      have own : Function.update w.batches p batch p = batch := Function.update_self ..
      exact ok item (own ▸ hitem)
    · have other : Function.update w.batches publisher batch p = w.batches p :=
        Function.update_of_ne same ..
      exact h.items p item (other ▸ hitem)
  confirmed := h.confirmed
  results := h.results
  ordered := h.ordered

theorem Sound.forget (h : Sound w) (publisher : Nat) :
    Sound { w with batches := Function.update w.batches publisher [] } := by
  refine h.batch publisher fun item hitem => ?_
  cases hitem

theorem Sound.publish (h : Sound w) (publisher : Nat) {item : OutboundMessage} (a : Attempt)
    (name : (item.msgId,feedCycle item) ∈ names w.db.outbox) (preceded : Preceded w item) :
    Sound (w.publish publisher item a) := by
  unfold World.publish
  split
  · rename_i taken unavailable _
    refine Sound.report ?_ nofun
    have tried : Sound { w with sent := if taken then w.sent ++ [item.msgId] else w.sent } := by
      split
      · exact h.send name preceded
      · exact h
    split
    · exact tried.forget publisher
    · exact tried
  · exact (h.send name preceded).report fun _ => List.mem_append_right _ (List.mem_singleton_self _)

theorem Sound.turn (h : Sound w) (publisher : Nat) {item : OutboundMessage} (a : Attempt)
    (name : (item.msgId,feedCycle item) ∈ names w.db.outbox) (preceded : Preceded w item) :
    Sound (w.turn publisher item a) := by
  unfold World.turn
  split
  · exact h
  split
  · exact h.report nofun
  split
  swap
  · exact h.publish publisher a name preceded
  split
  · exact h.report nofun
  rename_i outbox allowed quota
  have reserved : Sound { w with db := { w.db with outbox := outbox } } :=
    h.follows (follows_quota quota)
  dsimp only
  split
  · rename_i served _
    cases served
    · exact h.report nofun
    · exact reserved.report nofun
  split
  · obtain ⟨name,preceded⟩ := preceded.follows { w.db with outbox := outbox } (follows_quota quota) name
    exact reserved.publish publisher a name preceded
  · exact reserved

/-- What is listed had every earlier message of its cycle PUBLISHED. -/
theorem published_of_listed {db : Db} {limit : Nat} {now : Instant} {row previous : OutboundMessage}
    {cycleId : String} (h : row ∈ select db limit now) (own : feedCycle row = some cycleId)
    (hp : previous ∈ earlier db.outbox row) (same : feedCycle previous = some cycleId) :
    previous.status = .published := by
  have market {row : OutboundMessage} (h : feedCycle row = some cycleId) :
      isMarket row ∧ row.cycleId = some cycleId := by
    unfold feedCycle at h
    split at h
    · exact ⟨by assumption,h⟩
    · cases h
  obtain ⟨_,listed⟩ := mem_select h
  unfold OutboundDispatch.listed blocked at listed
  simp only [Bool.and_eq_true,Bool.not_eq_true',Bool.and_eq_false_iff,(market own).1,
    Bool.true_eq_false,false_or] at listed
  have free : ¬ precedes row previous := by
    have none_ := listed.1.1.1.1.1
    rw [List.any_eq_false] at none_
    exact none_ previous hp
  unfold precedes at free
  obtain ⟨kind,cycle⟩ := market same
  rw [kind,cycle,(market own).2] at free
  simpa using free

theorem Sound.listed (h : Sound w) {limit : Nat} {now : Instant} {item : OutboundMessage}
    (hitem : item ∈ select w.db limit now) :
    (item.msgId,feedCycle item) ∈ names w.db.outbox ∧ Preceded w item := by
  have name := mem_names (mem_select hitem).1
  refine ⟨name,fun cycleId own id hid => ?_⟩
  have alone : ∀ n ∈ names w.db.outbox, n.1 = item.msgId → decide (n.2 = some cycleId) := by
    intro n hn key
    have other : (item.msgId,n.2) ∈ names w.db.outbox := key ▸ hn
    exact decide_eq_true ((feedCycle_eq other name).trans own)
  obtain ⟨n,hn,same,rfl⟩ := mem_takeWhile_select alone hid
  unfold names at hn
  rw [List.takeWhile_map] at hn
  obtain ⟨previous,hp,rfl⟩ := List.mem_map.mp hn
  have cycle : feedCycle previous = some cycleId := of_decide_eq_true same
  have before : previous ∈ earlier w.db.outbox item := hp
  refine h.confirmed previous ((List.takeWhile_prefix _).subset before) ?_
    (published_of_listed hitem own before cycle)
  rw [cycle]
  rfl

theorem step_sound (h : Sound w) (a : Act) : Sound (step cfg w a) := by
  cases a with
  | produce cycleId operation moment => exact h.follows (follows_transaction cycleId moment operation)
  | close cycleId => exact h.follows (follows_close cycleId)
  | elsewhere db =>
    unfold step
    dsimp only
    split
    · rename_i f
      exact h.follows (f.mono (List.nil_subset _))
    · exact h
  | poll publisher limit locked closed now =>
    have prepared : Sound { w with db := prepare cfg w.db locked closed now } :=
      h.follows (follows_prepare locked closed now)
    exact prepared.batch publisher fun item hitem => prepared.listed hitem
  | attempt publisher a =>
    unfold step
    dsimp only
    split
    · exact h
    rename_i item rest batch
    have listed (other : OutboundMessage) (mem : other ∈ item :: rest) :=
      h.items publisher other (batch ▸ mem)
    have advanced := h.batch publisher fun other mem => listed other (List.mem_cons_of_mem _ mem)
    obtain ⟨name,preceded⟩ := listed item (List.mem_cons_self ..)
    exact advanced.turn publisher a name preceded
  | reconnect publisher => exact h.forget publisher
  | deliver i =>
    unfold step
    dsimp only
    split
    · exact h
    rename_i msgId error result
    refine h.follows (follows_result fun ok => h.results msgId ?_)
    rw [← ok]
    exact List.mem_of_getElem? result

end Steps

/-- What a poll lists of the market had every earlier message of its cycle
PUBLISHED. -/
def ListsInOrder (a : Act) (w : World) : Prop :=
  ∀ publisher limit locked closed now, a = .poll publisher limit locked closed now →
    ∀ item ∈ w.batches publisher, isMarket item → ∀ previous ∈ earlier w.db.outbox item,
      isMarket previous → item.cycleId.isSome → previous.cycleId = item.cycleId →
        previous.status = .published

/-- Over every run, the first publications of the market messages of a cycle are,
in their order, the first of its messages in the outbox, and a poll lists such a
message only after the earlier ones. -/
theorem first_published_in_order (cfg : Config) (acts : List Act) :
    Always (step cfg) (fun w => ∀ cycleId,
        firsts (announced w.db.outbox cycleId) w.sent <+: announced w.db.outbox cycleId) {} acts ∧
      Along (step cfg) (fun w a => ListsInOrder a (step cfg w a)) {} acts := by
  have sound : Always (step cfg) Sound {} acts :=
    always_of_step (fun w a h _ => step_sound h a) sound_empty (along_true _ _)
  refine ⟨sound.mono fun w h => h.ordered,?_⟩
  refine along_of_always (Q := Sound) (fun w a _ _ => ?_) sound
  rintro publisher limit locked closed now rfl item hitem market previous hp kind some_ same
  have own : Function.update w.batches publisher
      (select (prepare cfg w.db locked closed now) limit now) publisher =
        select (prepare cfg w.db locked closed now) limit now := Function.update_self ..
  have listed : item ∈ select (prepare cfg w.db locked closed now) limit now := own ▸ hitem
  obtain ⟨cycleId,cycle⟩ := Option.isSome_iff_exists.mp some_
  have own : feedCycle item = some cycleId := by
    unfold feedCycle
    rw [if_pos market,cycle]
  refine published_of_listed listed own hp ?_
  unfold feedCycle
  rw [if_pos kind,same,cycle]

end MarketOrder

end EnergyNode
