import EnergyNode.FeedConfluence
import EnergyNode.Node

/-! The feed of a listener agrees with our offer. Every operation on the offer
dates its message with a clock it reads before it waits for the row, and the
listener drops what is not newer than the last message it applied. -/
namespace EnergyNode
open Lib

namespace FeedAgreement
open MarketFeed SellerOffers

/-- A row of the outbox, as the market hears it. -/
structure Announcement where
  idpk : String
  msgId : String
  content : Content
  cycleId : Option String
  createdAt : Instant
deriving DecidableEq

def announcementOf (row : OutboundMessage) : Announcement where
  idpk := row.idpk
  msgId := row.msgId
  content := row.content
  cycleId := row.cycleId
  createdAt := row.createdAt

/-- The offer an offer event is about. -/
def offerOf : Content → Option String
  | .offer offerId .. => some offerId
  | .offerUpdated offerId .. => some offerId
  | .offerWithdrawn offerId => some offerId
  | _ => none

/-- The announcements of an offer in outbox order. -/
def announcements (offerId : String) (outbox : Outbox) : List Announcement :=
  (outbox.rows.map announcementOf).filter fun a => offerOf a.content = some offerId

/-! ### The listener -/

/-- `data` of an announcement as the listener reads it; `float` is what the text
of `float(price)` denotes. -/
def eventOf (float : ℚ → ℚ) : Content → Option Event
  | .offer offerId quantity price => some (.offer offerId quantity (float price))
  | .offerUpdated offerId remaining price => some (.updated offerId remaining (float price))
  | .offerWithdrawn offerId => some (.withdrawn offerId)
  | _ => none

def envelope (city : String) (a : Announcement) (named : a.idpk ≠ "") : Payload where
  idpk := a.idpk
  named := named
  msgId := a.msgId
  type := a.content.type
  timestamp := a.createdAt
  cycleId := a.cycleId
  cityId := some city

def hear (float : ℚ → ℚ) (city : String) (feed : Feed) (a : Announcement) : Feed :=
  match eventOf float a.content with
  | none => feed
  | some event =>
      if named : a.idpk ≠ "" then
        (applyOfferEvent feed (envelope city a named) (a.cycleId.getD "") city event).1
      else feed

/-- The feed of a listener that heard exactly these announcements. -/
def heard (float : ℚ → ℚ) (city : String) (said : List Announcement) : Feed :=
  said.foldl (hear float city) Table.empty

def feedState : OfferStatus → FeedState
  | .active => .active
  | .withdrawn => .withdrawn
  | .closed => .closed

/-- The snapshot shows the offer; of a withdrawn one nothing is left for sale. -/
def Agrees : Option MarketOffer → Option MarketFeedOffer → Prop
  | none, none => True
  | some o, some s =>
      s.state = feedState o.status ∧ s.pricePerEnergy = some o.pricePerEnergy ∧
        s.remaining = some (if o.status = .withdrawn then 0 else o.remainingQuantity)
  | _, _ => False

/-! ### The operations -/

inductive Operation where
  | create (walletAvailable : ℚ)
  | commit (bidIdpk : String)
  | reprice (price : Decimal)
  | withdraw

structure World where
  db : Db
  clock : Instant
  /-- Operations that wait for the row, with the instant they read. -/
  waiting : List (Operation × Instant) := []

inductive Turn where
  | advance (micros : Nat)
  | read (operation : Operation)
  /-- The operation gets the row, and commits. -/
  | lock (i : Nat)
  /-- A transaction that leaves the offer and its announcements as they are. -/
  | elsewhere (db : Db)

section Run
variable (cfg : Config) (cycleId : String)

def attempted (db : Db) (result : Result Db) : Db :=
  match result with
  | .ok done => done
  | .error _ => db

/-- The transaction of an operation, dated `moment`. -/
def transaction (db : Db) (moment : Instant) : Operation → Db
  | .create available => attempted db (enqueueSellerOffer cfg db cycleId available moment)
  | .commit bidIdpk =>
      WalletEvents.updateOfferAndReservation cfg db (localOfferId cfg cycleId) bidIdpk .commit moment
  | .reprice price =>
      attempted db (changeLocalOfferPrice cfg db (localOfferId cfg cycleId) price moment)
  | .withdraw => attempted db (withdrawLocalOffer cfg db (localOfferId cfg cycleId) moment)

/-- Our offer of the cycle and what was announced of it. -/
def standing (db : Db) : Option MarketOffer × List Announcement :=
  (db.market.offers.get? (localOfferId cfg cycleId),
    announcements (localOfferId cfg cycleId) db.outbox)

def step (w : World) : Turn → World
  | .advance d => { w with clock := w.clock + d }
  | .read operation => { w with waiting := w.waiting ++ [(operation,w.clock)] }
  | .lock i =>
      match w.waiting[i]? with
      | none => w
      | some (operation, moment) =>
          { w with
            db := transaction cfg cycleId w.db moment operation
            waiting := w.waiting.eraseIdx i }
  | .elsewhere db =>
      if standing cfg cycleId db = standing cfg cycleId w.db then { w with db := db } else w

/-- `lastOfferAt` and the end of the market are ahead. -/
def trading (calendar : Calendar) (moment : Instant) : Bool :=
  (calendar.cycles.get? cycleId).any fun cycle =>
    (cycle.marketLastOfferAt.any fun lastOfferAt => moment < lastOfferAt) &&
      (cycle.marketClosesAt.all fun closesAt => moment < closesAt) &&
      !calendar.marketClosed cycleId

/-- Whoever gets the row read its clock while the market still took offers. -/
def Trading (w : World) : Turn → Prop
  | .lock i => ∀ p ∈ w.waiting[i]?, trading cycleId w.db.calendar p.2
  | _ => True

/-- The price of the offer keeps its digits as a float. -/
def Priced (w : World) (turn : Turn) : Prop :=
  ∀ o ∈ (standing cfg cycleId (step cfg cycleId w turn).db).1, Significant 15 o.pricePerEnergy

/-- Whoever gets the row read its clock after everything announced so far was dated. -/
def InOrder (w : World) : Turn → Prop
  | .lock i => ∀ p ∈ w.waiting[i]?, ∀ a ∈ (standing cfg cycleId w.db).2, a.createdAt < p.2
  | _ => True

/-- A listener of all announcements sees our offer as it stands. -/
def Faithful (float : ℚ → ℚ) (w : World) : Prop :=
  Agrees (standing cfg cycleId w.db).1
    ((heard float cfg.cityId (standing cfg cycleId w.db).2).get? (cycleId,cfg.cityId))

end Run

/-! ### What an operation does to the offer and its announcements -/

section Effects
variable {cfg : Config} {cycleId : String} {db : Db} {moment : Instant}

/-- A row of our local offer of the cycle. -/
structure Home (cfg : Config) (cycleId : String) (o : MarketOffer) : Prop where
  offerId : o.offerId = localOfferId cfg cycleId
  cycleId : o.cycleId = cycleId
  cityId : o.cityId = cfg.cityId
  isLocal : o.isLocal = true

/-- The announcement says `content`, in this cycle and dated `moment`. -/
structure Told (cycleId : String) (moment : Instant) (content : Content) (a : Announcement) :
    Prop where
  content : a.content = content
  cycleId : a.cycleId = some cycleId
  createdAt : a.createdAt = moment
  named : a.idpk ≠ ""

inductive Effect (cfg : Config) (cycleId : String) (moment : Instant) :
    Option MarketOffer × List Announcement → Option MarketOffer × List Announcement → Prop where
  | still (s) : Effect cfg cycleId moment s s
  | created {said : List Announcement} {quantity : Int} {price : ℚ} {a : Announcement}
      (told : Told cycleId moment (.offer (localOfferId cfg cycleId) quantity price) a) :
      Effect cfg cycleId moment (none,said)
        (some (newOffer cfg cycleId quantity price),said ++ [a])
  | updated {said : List Announcement} {o o' : MarketOffer} {a : Announcement}
      (home : Home cfg cycleId o') (active : o.status = .active) (active' : o'.status = .active)
      (told : Told cycleId moment
        (.offerUpdated (localOfferId cfg cycleId) o'.remainingQuantity o'.pricePerEnergy) a) :
      Effect cfg cycleId moment (some o,said) (some o',said ++ [a])
  | withdrawn {said : List Announcement} {o : MarketOffer} {a : Announcement}
      (active : o.status = .active)
      (told : Told cycleId moment (.offerWithdrawn (localOfferId cfg cycleId)) a) :
      Effect cfg cycleId moment (some o,said) (some { o with status := .withdrawn },said ++ [a])
  /-- A sale settled after the withdrawal is nobody's news. -/
  | settled {said : List Announcement} {o : MarketOffer} {quantity : Int}
      (gone : o.status ≠ .active) :
      Effect cfg cycleId moment (some o,said) (some (WalletEvents.sold o quantity),said)

theorem announcements_enqueue (cfg : Config) (offerId : String) (outbox : Outbox) (draft : Draft) :
    announcements offerId (outbox.enqueue cfg draft) = announcements offerId outbox ++
      if offerOf draft.content = some offerId then
        [⟨Outbox.freshIdpk cfg outbox,Outbox.freshMsgId cfg outbox,draft.content,draft.cycleId,
          draft.createdAt⟩]
      else [] := by
  unfold announcements
  rw [Outbox.rows_enqueue,List.map_append,List.filter_append]
  by_cases own : offerOf draft.content = some offerId <;> simp [announcementOf,own]

theorem canBroadcast_home {calendar : Calendar} {o : MarketOffer} (home : Home cfg cycleId o) :
    canBroadcast cfg calendar o moment = trading cycleId calendar moment := by
  have ours : (!o.isLocal || decide (o.cityId ≠ cfg.cityId)) = false := by
    simp [home.isLocal,home.cityId]
  unfold canBroadcast trading
  rw [ours,if_neg Bool.false_ne_true,home.cycleId]
  cases calendar.cycles.get? cycleId with
  | none => rfl
  | some cycle =>
    dsimp only [Option.any_some]
    cases cycle.marketLastOfferAt with
    | none => rfl
    | some lastOfferAt => cases cycle.marketClosesAt <;> rfl

theorem announcements_broadcast (named : ∀ used, cfg.uuid4 used ≠ "") (calendar : Calendar)
    (outbox : Outbox) {o : MarketOffer} (home : Home cfg cycleId o) (content : Content)
    (moment : Instant) (own : offerOf content = some (localOfferId cfg cycleId)) :
    ∃ a, Told cycleId moment content a ∧
      announcements (localOfferId cfg cycleId) (broadcast cfg calendar outbox o content moment) =
        announcements (localOfferId cfg cycleId) outbox ++ [a] := by
  unfold broadcast
  rw [announcements_enqueue,if_pos own]
  exact ⟨_,⟨rfl,congrArg some home.cycleId,rfl,named _⟩,rfl⟩

theorem announcements_confirmed (named : ∀ used, cfg.uuid4 used ≠ "") (calendar : Calendar)
    (outbox : Outbox) {o : MarketOffer} (home : Home cfg cycleId o) (active : o.status = .active)
    (open_ : trading cycleId calendar moment = true) :
    ∃ a, Told cycleId moment
        (.offerUpdated (localOfferId cfg cycleId) o.remainingQuantity o.pricePerEnergy) a ∧
      announcements (localOfferId cfg cycleId)
          (enqueueConfirmedOfferUpdate cfg calendar outbox o moment) =
        announcements (localOfferId cfg cycleId) outbox ++ [a] := by
  unfold enqueueConfirmedOfferUpdate
  rw [canBroadcast_home home,open_,active,home.offerId]
  exact announcements_broadcast named calendar outbox home _ moment rfl

theorem home_newOffer (quantity : Int) (price : ℚ) :
    Home cfg cycleId (newOffer cfg cycleId quantity price) := ⟨rfl,rfl,rfl,rfl⟩

theorem create_effect (named : ∀ used, cfg.uuid4 used ≠ "") {db' : Db} {available : ℚ}
    (h : enqueueSellerOffer cfg db cycleId available moment = .ok db') :
    Effect cfg cycleId moment (standing cfg cycleId db) (standing cfg cycleId db') := by
  obtain rfl | ⟨cycle,free,quantity,price,found,-,-,rfl⟩ := enqueueSellerOffer_cases h
  · exact .still _
  have stored : (db.market.offers.insert (newOffer cfg cycleId quantity price) free).get?
      (localOfferId cfg cycleId) = some (newOffer cfg cycleId quantity price) :=
    (Table.get?_insert _ _ free _).trans (if_pos rfl)
  have own : offerOf (offerDraft cfg cycle (newOffer cfg cycleId quantity price)
      moment).content = some (localOfferId cfg cycleId) := rfl
  unfold standing
  dsimp only
  rw [stored,free,announcements_enqueue,if_pos own]
  exact .created ⟨rfl,congrArg some (Table.key_of_get? found),rfl,named _⟩

theorem found_local {o : MarketOffer}
    (h : localOffer? cfg db.market (localOfferId cfg cycleId) = some o) :
    db.market.offers.get? (localOfferId cfg cycleId) = some o :=
  (Option.filter_eq_some_iff.mp h).1

theorem standing_found {o : MarketOffer}
    (found : db.market.offers.get? (localOfferId cfg cycleId) = some o) :
    standing cfg cycleId db = (some o,announcements (localOfferId cfg cycleId) db.outbox) := by
  rw [standing,found]

/-- The standing of a database in which our offer was stored again. -/
theorem standing_set {o o' : MarketOffer} {db' : Db} (home : Home cfg cycleId o')
    (found : db.market.offers.get? (localOfferId cfg cycleId) = some o)
    (offers : db'.market.offers = db.market.offers.set o') :
    standing cfg cycleId db' =
      (some o',announcements (localOfferId cfg cycleId) db'.outbox) := by
  unfold standing
  rw [offers,Table.get?_set,if_pos home.offerId,found]
  rfl

theorem reprice_effect (named : ∀ used, cfg.uuid4 used ≠ "") {db' : Db} {price : Decimal}
    (home : ∀ o ∈ (standing cfg cycleId db).1, Home cfg cycleId o)
    (open_ : trading cycleId db.calendar moment = true)
    (h : changeLocalOfferPrice cfg db (localOfferId cfg cycleId) price moment = .ok db') :
    Effect cfg cycleId moment (standing cfg cycleId db) (standing cfg cycleId db') := by
  unfold changeLocalOfferPrice at h
  split at h
  · cases h
  split at h
  · cases h
  dsimp only at h
  split at h
  · cases h
  rename_i o hl
  have found := found_local hl
  split at h
  · cases h
  rename_i active
  split at h
  · cases h
  split at h <;> cases h
  · exact .still _
  · rename_i price _ _ _ _
    have own := home o found
    have home' : Home cfg cycleId { o with pricePerEnergy := centsHalfUp price } :=
      ⟨own.offerId,own.cycleId,own.cityId,own.isLocal⟩
    obtain ⟨a,told,said⟩ := announcements_confirmed named db.calendar db.outbox home'
      (not_not.mp active) open_
    rw [standing_found found,standing_set home' found rfl]
    dsimp only
    rw [said]
    exact .updated home' (not_not.mp active) (not_not.mp active) told

theorem withdraw_effect (named : ∀ used, cfg.uuid4 used ≠ "") {db' : Db}
    (home : ∀ o ∈ (standing cfg cycleId db).1, Home cfg cycleId o)
    (h : withdrawLocalOffer cfg db (localOfferId cfg cycleId) moment = .ok db') :
    Effect cfg cycleId moment (standing cfg cycleId db) (standing cfg cycleId db') := by
  unfold withdrawLocalOffer at h
  split at h
  · cases h
  rename_i o hl
  have found := found_local hl
  have own := home o found
  split at h
  · cases h
    exact .still _
  · cases h
  · rename_i active
    split at h <;> cases h
    have home' : Home cfg cycleId { o with status := .withdrawn } :=
      ⟨own.offerId,own.cycleId,own.cityId,own.isLocal⟩
    obtain ⟨a,told,said⟩ := announcements_broadcast named db.calendar db.outbox home'
      (.offerWithdrawn o.offerId) moment (congrArg some own.offerId)
    rw [own.offerId] at told
    rw [standing_found found,standing_set home' found rfl]
    dsimp only
    rw [said]
    exact .withdrawn active told

theorem commit_effect (named : ∀ used, cfg.uuid4 used ≠ "") (bidIdpk : String)
    (home : ∀ o ∈ (standing cfg cycleId db).1, Home cfg cycleId o)
    (open_ : trading cycleId db.calendar moment = true) :
    Effect cfg cycleId moment (standing cfg cycleId db) (standing cfg cycleId
      (WalletEvents.updateOfferAndReservation cfg db (localOfferId cfg cycleId) bidIdpk .commit
        moment)) := by
  unfold WalletEvents.updateOfferAndReservation
  split
  · exact .still _
  rename_i r _
  dsimp only
  cases found : db.market.offers.get? (localOfferId cfg cycleId) with
  | none => exact .still _
  | some o =>
    have own := home o found
    have home' : Home cfg cycleId (WalletEvents.sold o r.quantity) :=
      ⟨own.offerId,own.cycleId,own.cityId,own.isLocal⟩
    dsimp only
    rw [standing_found found,standing_set home' found rfl]
    dsimp only
    by_cases active : o.status = .active
    · obtain ⟨a,told,said⟩ := announcements_confirmed named db.calendar db.outbox home' active open_
      rw [said]
      exact .updated home' active active told
    · have quiet : enqueueConfirmedOfferUpdate cfg db.calendar db.outbox
          (WalletEvents.sold o r.quantity) moment = db.outbox := by
        unfold enqueueConfirmedOfferUpdate
        rw [if_pos]
        rw [decide_eq_true (show (WalletEvents.sold o r.quantity).status ≠ .active from active)]
        rfl
      rw [quiet]
      exact .settled active

/-- What an operation does in time. -/
theorem transaction_effect (named : ∀ used, cfg.uuid4 used ≠ "") (operation : Operation)
    (home : ∀ o ∈ (standing cfg cycleId db).1, Home cfg cycleId o)
    (open_ : trading cycleId db.calendar moment = true) :
    Effect cfg cycleId moment (standing cfg cycleId db)
      (standing cfg cycleId (transaction cfg cycleId db moment operation)) := by
  have settled {result : Result Db}
      (h : ∀ db', result = .ok db' →
        Effect cfg cycleId moment (standing cfg cycleId db) (standing cfg cycleId db')) :
      Effect cfg cycleId moment (standing cfg cycleId db)
        (standing cfg cycleId (attempted db result)) := by
    cases result with
    | error _ => exact .still _
    | ok db' => exact h db' rfl
  cases operation with
  | create available => exact settled fun _ h => create_effect named h
  | commit bidIdpk => exact commit_effect named bidIdpk home open_
  | reprice price => exact settled fun _ h => reprice_effect named home open_ h
  | withdraw => exact settled fun _ h => withdraw_effect named home h

end Effects

/-! ### What the listener makes of it -/

section Listener
variable {cfg : Config} {cycleId : String} {float : ℚ → ℚ} {moment : Instant}

/-- The listener has the offer as it stands, dated by an announcement of it. -/
structure Shown (cfg : Config) (cycleId : String) (float : ℚ → ℚ) (o : MarketOffer)
    (said : List Announcement) (s : MarketFeedOffer) : Prop where
  stored : (heard float cfg.cityId said).get? (cycleId,cfg.cityId) = some s
  offerId : s.offerId = localOfferId cfg cycleId
  home : Home cfg cycleId o
  live : o.status ≠ .closed
  agrees : Agrees (some o) (some s)
  dated : ∃ a ∈ said, a.createdAt = s.lastEventAt

/-- The invariant of runs whose announcements are dated in outbox order. -/
inductive Followed (cfg : Config) (cycleId : String) (float : ℚ → ℚ) :
    Option MarketOffer × List Announcement → Prop where
  | unsold : Followed cfg cycleId float (none,[])
  | shown {o : MarketOffer} {said : List Announcement} {s : MarketFeedOffer}
      (shown : Shown cfg cycleId float o said s) : Followed cfg cycleId float (some o,said)

theorem Followed.home {state : Option MarketOffer × List Announcement}
    (h : Followed cfg cycleId float state) : ∀ o ∈ state.1, Home cfg cycleId o := by
  cases h with
  | unsold => exact fun _ h => absurd h (Option.not_mem_none _)
  | shown shown =>
    intro o ho
    cases ho
    exact shown.home

theorem Followed.faithful {state : Option MarketOffer × List Announcement}
    (h : Followed cfg cycleId float state) :
    Agrees state.1 ((heard float cfg.cityId state.2).get? (cycleId,cfg.cityId)) := by
  cases h with
  | unsold => exact trivial
  | shown shown =>
    dsimp only
    rw [shown.stored]
    exact shown.agrees

theorem heard_append (city : String) (said : List Announcement) (a : Announcement) :
    heard float city (said ++ [a]) = hear float city (heard float city said) a :=
  List.foldl_append

/-- What hearing a told announcement amounts to. -/
theorem hear_told (float : ℚ → ℚ) (city : String) (feed : Feed) {content : Content}
    {a : Announcement} {event : Event} (told : Told cycleId moment content a) (reads : eventOf float content = some event) :
    ∃ d : Payload, d.timestamp = moment ∧ d.msgId = a.msgId ∧
      hear float city feed a = (applyOfferEvent feed d cycleId city event).1 := by
  refine ⟨envelope city a told.named,told.createdAt,rfl,?_⟩
  unfold hear
  rw [told.content,reads]
  dsimp only
  rw [dif_pos told.named,told.cycleId]
  rfl

/-- A listener that knows the offer applies a message that is news. -/
theorem hear_news {said : List Announcement} {o : MarketOffer} {s : MarketFeedOffer}
    {content : Content} {a : Announcement} {event : Event}
    (shown : Shown cfg cycleId float o said s) (active : o.status = .active)
    (order : ∀ x ∈ said, x.createdAt < moment) (told : Told cycleId moment content a)
    (reads : eventOf float content = some event) (own : event.offerId = localOfferId cfg cycleId)
    (offers : event ≠ .closed) :
    ∃ d : Payload, d.timestamp = moment ∧ gone s moment = false ∧
      (heard float cfg.cityId (said ++ [a])).get? (cycleId,cfg.cityId) =
        some (FeedConfluence.afterEvent d s event) := by
  obtain ⟨d,time,_,heard_⟩ := hear_told float cfg.cityId (heard float cfg.cityId said) told reads
  refine ⟨d,time,?_,?_⟩
  · obtain ⟨x,hx,dated⟩ := shown.dated
    have later : ¬moment ≤ s.lastEventAt := by
      rw [← dated]
      exact not_le.mpr (order x hx)
    have state : s.state = .active := by
      rw [shown.agrees.1,active]
      rfl
    simp [gone,state,later]
  · have key : s.place = (cycleId,cfg.cityId) := Table.key_of_get? shown.stored
    rw [heard_append,heard_,FeedConfluence.applyOfferEvent_known shown.stored
      (shown.offerId.trans own.symm) offers,Table.get?_set,FeedConfluence.afterEvent_place,key,
      if_pos rfl,shown.stored]
    rfl

theorem followed_created {quantity : Int} {price : ℚ} {a : Announcement}
    (exact_ : float price = price)
    (told : Told cycleId moment (.offer (localOfferId cfg cycleId) quantity price) a) :
    Followed cfg cycleId float (some (newOffer cfg cycleId quantity price),[a]) := by
  obtain ⟨d,time,_,heard_⟩ := hear_told float cfg.cityId Table.empty told rfl
  have stored : (heard float cfg.cityId [a]).get? (cycleId,cfg.cityId) = some
      (firstSight d cycleId cfg.cityId (.offer (localOfferId cfg cycleId) quantity (float price))) := by
    show (hear float cfg.cityId Table.empty a).get? _ = _
    rw [heard_]
    exact FeedConfluence.applyOfferEvent_blank (Table.get?_empty _)
  refine .shown ⟨stored,rfl,home_newOffer _ _,OfferStatus.noConfusion,⟨rfl,?_,rfl⟩,a,List.mem_singleton.mpr rfl,?_⟩
  · exact congrArg some exact_
  · exact told.createdAt.trans time.symm

theorem followed_effect (exact_ : ∀ q, Significant 15 q → float q = q)
    {state state' : Option MarketOffer × List Announcement}
    (followed : Followed cfg cycleId float state) (effect : Effect cfg cycleId moment state state')
    (order : ∀ x ∈ state.2, x.createdAt < moment)
    (priced : ∀ o ∈ state'.1, Significant 15 o.pricePerEnergy) :
    Followed cfg cycleId float state' := by
  cases effect with
  | still => exact followed
  | created told =>
    cases followed with
    | unsold => exact followed_created (exact_ _ (priced _ rfl)) told
  | @updated said o o' a home active active' told =>
    cases followed with
    | @shown _ _ s shown =>
      obtain ⟨d,time,news,stored⟩ := hear_news shown active order told rfl rfl Event.noConfusion
      have applied : FeedConfluence.afterEvent d s (.updated (localOfferId cfg cycleId)
          o'.remainingQuantity (float o'.pricePerEnergy)) = { s with
            remaining := some o'.remainingQuantity
            pricePerEnergy := some (float o'.pricePerEnergy)
            lastEventAt := d.timestamp, lastEventMsgId := d.msgId } := by
        simp only [FeedConfluence.afterEvent,time,news,Bool.false_eq_true,if_false]
      rw [applied] at stored
      refine .shown ⟨stored,shown.offerId,home,?_,⟨?_,?_,?_⟩,a,?_,?_⟩
      · rw [active']
        exact OfferStatus.noConfusion
      · have before := shown.agrees.1
        rw [active] at before
        rw [active']
        exact before
      · exact congrArg some (exact_ _ (priced o' rfl))
      · rw [active',if_neg OfferStatus.noConfusion]
      · exact List.mem_append_right _ (List.mem_singleton.mpr rfl)
      · exact told.createdAt.trans time.symm
  | @withdrawn said o a active told =>
    cases followed with
    | @shown _ _ s shown =>
      obtain ⟨d,time,news,stored⟩ := hear_news shown active order told rfl rfl Event.noConfusion
      have applied : FeedConfluence.afterEvent d s (.withdrawn (localOfferId cfg cycleId)) =
          { s with
            state := .withdrawn, remaining := some 0
            lastEventAt := d.timestamp, lastEventMsgId := d.msgId } := by
        simp only [FeedConfluence.afterEvent,time,news,Bool.false_eq_true,if_false]
      rw [applied] at stored
      have home : Home cfg cycleId { o with status := .withdrawn } :=
        ⟨shown.home.offerId,shown.home.cycleId,shown.home.cityId,shown.home.isLocal⟩
      refine .shown ⟨stored,shown.offerId,home,OfferStatus.noConfusion,
        ⟨rfl,shown.agrees.2.1,?_⟩,a,?_,?_⟩
      · rw [if_pos rfl]
      · exact List.mem_append_right _ (List.mem_singleton.mpr rfl)
      · exact told.createdAt.trans time.symm
  | @settled said o quantity gone =>
    cases followed with
    | @shown _ _ s shown =>
      have withdrawn : o.status = .withdrawn := by
        cases h : o.status with
        | active => exact absurd h gone
        | withdrawn => rfl
        | closed => exact absurd h shown.live
      have home : Home cfg cycleId (WalletEvents.sold o quantity) :=
        ⟨shown.home.offerId,shown.home.cycleId,shown.home.cityId,shown.home.isLocal⟩
      obtain ⟨state,price,remaining⟩ := shown.agrees
      rw [if_pos withdrawn] at remaining
      refine .shown ⟨shown.stored,shown.offerId,home,shown.live,⟨state,price,?_⟩,shown.dated⟩
      rw [if_pos (show (WalletEvents.sold o quantity).status = .withdrawn from withdrawn)]
      exact remaining

end Listener

/-! ### Runs -/

section Runs
variable {cfg : Config} {cycleId : String} {float : ℚ → ℚ}

theorem followed_step (exact_ : ∀ q, Significant 15 q → float q = q)
    (named : ∀ used, cfg.uuid4 used ≠ "") {w : World} {turn : Turn}
    (followed : Followed cfg cycleId float (standing cfg cycleId w.db))
    (trading_ : Trading cycleId w turn) (priced : Priced cfg cycleId w turn)
    (order : InOrder cfg cycleId w turn) :
    Followed cfg cycleId float (standing cfg cycleId (step cfg cycleId w turn).db) := by
  cases turn with
  | advance d => exact followed
  | read operation => exact followed
  | lock i =>
    unfold Priced at priced
    simp only [step] at priced ⊢
    cases hw : w.waiting[i]? with
    | none => exact followed
    | some p =>
      obtain ⟨operation,moment⟩ := p
      rw [hw] at priced
      dsimp only at priced ⊢
      have effect := transaction_effect named operation followed.home (trading_ _ hw)
      exact followed_effect exact_ followed effect (order _ hw) priced
  | elsewhere db =>
    simp only [step]
    split
    · rename_i same
      dsimp only
      rw [same]
      exact followed
    · exact followed

/-- A cycle in which we offered nothing yet. -/
def Unoffered (cfg : Config) (cycleId : String) (db : Db) : Prop :=
  standing cfg cycleId db = (none,[])

/-- Whoever hears all announcements in outbox order sees our offer as it stands
after every run whose operations get the row in the order of their clocks. -/
theorem feed_agrees (cfg : Config) (cycleId : String) (float : ℚ → ℚ)
    (exact_ : ∀ q, Significant 15 q → float q = q) (named : ∀ used, cfg.uuid4 used ≠ "")
    (db : Db) (clock : Instant) (fresh : Unoffered cfg cycleId db) (turns : List Turn)
    (trading_ : Along (step cfg cycleId) (Trading cycleId) ⟨db,clock,[]⟩ turns)
    (priced : Along (step cfg cycleId) (Priced cfg cycleId) ⟨db,clock,[]⟩ turns)
    (order : Along (step cfg cycleId) (InOrder cfg cycleId) ⟨db,clock,[]⟩ turns) :
    Always (step cfg cycleId) (Faithful cfg cycleId float) ⟨db,clock,[]⟩ turns := by
  have start : Followed cfg cycleId float (standing cfg cycleId db) := by
    rw [fresh]
    exact .unsold
  have followed : Always (step cfg cycleId)
      (fun w => Followed cfg cycleId float (standing cfg cycleId w.db)) ⟨db,clock,[]⟩ turns := by
    refine always_of_step ?_ start (trading_.and (priced.and order))
    intro w turn h ⟨trading_,priced,order⟩
    exact followed_step exact_ named h trading_ priced order
  exact followed.mono fun _ h => h.faithful

end Runs

section Examples

instance (cycleId : String) (w : World) (turn : Turn) : Decidable (Trading cycleId w turn) := by
  cases turn <;> unfold Trading <;> infer_instance

instance (cfg : Config) (cycleId : String) (w : World) (turn : Turn) :
    Decidable (InOrder cfg cycleId w turn) := by
  cases turn <;> unfold InOrder <;> infer_instance

instance : ∀ o s, Decidable (Agrees o s)
  | none, none => inferInstanceAs (Decidable True)
  | some _, some _ => inferInstanceAs (Decidable (_ ∧ _ ∧ _))
  | some _, none => inferInstanceAs (Decidable False)
  | none, some _ => inferInstanceAs (Decidable False)

instance (cfg : Config) (cycleId : String) (float : ℚ → ℚ) (w : World) :
    Decidable (Faithful cfg cycleId float w) := by
  unfold Faithful
  infer_instance

def selling : World := ⟨Node.opened "C1",0,[]⟩

def after (n : Nat) : Turn := .advance (n * 1000000)

/-- The offer of the cycle at 6/5, ten seconds into the market. -/
def offered : List Turn := [after 10,.read (.create 100),.lock 0]

theorem significant_prices {w : World} {turn : Turn}
    (h : ∀ o ∈ (standing Node.seller.cfg "C1" (step Node.seller.cfg "C1" w turn).db).1,
      o.pricePerEnergy = 6 / 5 ∨ o.pricePerEnergy = 3) : Priced Node.seller.cfg "C1" w turn := by
  intro o ho
  rcases h o ho with price | price <;> rw [price]
  · exact ⟨12,-1,by decide,by norm_num⟩
  · exact ⟨3,0,by decide,by norm_num⟩

/-- A withdrawal reads its clock a second before a new price does, and gets the
row after it: the listener takes the withdrawal for old news and keeps the offer. -/
theorem withdrawal_overtaken :
    let turns := offered ++ [after 10,.read .withdraw,after 1,.read (.reprice (.finite 3)),
      .lock 1,.lock 0]
    Along (step Node.seller.cfg "C1") (Trading "C1") selling turns ∧
      Along (step Node.seller.cfg "C1") (Priced Node.seller.cfg "C1") selling turns ∧
      ¬Always (step Node.seller.cfg "C1") (Faithful Node.seller.cfg "C1" fun q => q) selling turns := by
  intro turns
  refine ⟨by decide +kernel,?_,fun always => ?_⟩
  · have prices : Along (step Node.seller.cfg "C1") (fun w turn =>
        ∀ o ∈ (standing Node.seller.cfg "C1" (step Node.seller.cfg "C1" w turn).db).1,
          o.pricePerEnergy = 6 / 5 ∨ o.pricePerEnergy = 3) selling turns := by
      decide +kernel
    exact prices.mono fun _ _ => significant_prices
  · have stale : ¬Faithful Node.seller.cfg "C1" (fun q => q)
        (run (step Node.seller.cfg "C1") selling turns) := by
      decide +kernel
    exact stale always.final

theorem seller_named (used : List String) : Node.seller.cfg.uuid4 used ≠ "" :=
  draw_ne_empty (by decide) used

/-- The new price first, and then the withdrawal. -/
theorem withdrawal_heard :
    let turns := offered ++ [after 10,.read (.reprice (.finite 3)),after 1,.read .withdraw,
      .lock 0,.lock 0]
    Always (step Node.seller.cfg "C1") (Faithful Node.seller.cfg "C1" fun q => q) selling turns := by
  intro turns
  have prices : Along (step Node.seller.cfg "C1") (fun w turn =>
      ∀ o ∈ (standing Node.seller.cfg "C1" (step Node.seller.cfg "C1" w turn).db).1,
        o.pricePerEnergy = 6 / 5 ∨ o.pricePerEnergy = 3) selling turns := by
    decide +kernel
  exact feed_agrees Node.seller.cfg "C1" (fun q => q) (fun _ _ => rfl) seller_named
    (Node.opened "C1") 0 rfl turns (by decide +kernel)
    (prices.mono fun _ _ => significant_prices) (by decide +kernel)

end Examples

end FeedAgreement

end EnergyNode
