import EnergyNode.Lib.Fallible
import EnergyNode.Lib.Run
import EnergyNode.MarketFeed

/-! The feed does not depend on the order of delivery. Whatever part of a
city's history has been heard, the snapshot shows its latest message, and it
knows the base offer exactly when that was heard too. -/
namespace EnergyNode
open Lib

namespace FeedConfluence
open MarketFeed

/-- What one city announces about its offer of one cycle. -/
structure History where
  city : String
  cycleId : String
  offerId : String
  offer : Payload
  updates : List Payload
  withdrawal : Option Payload

namespace History

def messages (h : History) : List Payload := h.offer :: (h.updates ++ h.withdrawal.toList)

def place (h : History) : String × String := (h.cycleId,h.city)

structure WellFormed (h : History) : Prop where
  offered : ∃ quantity price, event? h.offer = some (h.city,.offer h.offerId quantity price)
  updated : ∀ u ∈ h.updates, ∃ remaining price,
    event? u = some (h.city,.updated h.offerId remaining price)
  withdrawn : ∀ w ∈ h.withdrawal, event? w = some (h.city,.withdrawn h.offerId)
  cycle : ∀ m ∈ h.messages, m.cycleId = some h.cycleId
  idpks : (h.messages.map Payload.idpk).Nodup
  msgIds : (h.messages.map Payload.msgId).Nodup
  times : h.messages.Pairwise fun a b => a.timestamp < b.timestamp

end History

/-- A message of another city or cycle: it shares no identifier with the
history under the same sender, and does not close its market. -/
def Foreign (h : History) (d : Payload) : Prop :=
  ∀ sender event, event? d = some (sender,event) →
    (sender = h.city → d.cycleId ≠ some h.cycleId ∧ d.idpk ∉ h.messages.map Payload.idpk ∧
      d.msgId ∉ h.messages.map Payload.msgId) ∧
    (event = .closed → d.cycleId ≠ some h.cycleId)

/-- A delivery: of a message, again under the same or a fresh `msgId`, or of a
foreign one. -/
inductive Delivery (h : History) : Payload → Prop where
  | copy (m : Payload) (msgId : String) : m ∈ h.messages →
      (msgId = m.msgId ∨ msgId ∉ h.messages.map Payload.msgId) →
      Delivery h { m with msgId := msgId }
  | foreign (d : Payload) : Foreign h d → Delivery h d

/-- Nothing of the history was heard, and its market is open. -/
structure Unheard (h : History) (db : Db) : Prop where
  blank : db.feed.get? h.place = none
  running : ∀ market, db.marketCycles.get? h.cycleId = some market → market.closedAt = none
  unclaimed : ∀ c ∈ db.feedClaims, c.sender = h.city →
    c.payload.idpk ∉ h.messages.map Payload.idpk ∧ c.payload.msgId ∉ h.messages.map Payload.msgId

def Heard (h : History) (db : Db) (m : Payload) : Prop :=
  ∃ c ∈ db.feedClaims, c.sender = h.city ∧ c.payload.idpk = m.idpk

/-- How a snapshot shows the latest event heard. -/
inductive Shows (offered : Prop) (s : MarketFeedOffer) : Event → Prop where
  | offer {id quantity price} : s.state = .active → s.remaining = some quantity →
      s.pricePerEnergy = some price → Shows offered s (.offer id quantity price)
  | known {id remaining price} : offered → s.state = .active → s.remaining = some remaining →
      s.pricePerEnergy = some price → Shows offered s (.updated id remaining price)
  | early {id remaining price} : ¬ offered → s.state = .unresolved →
      s.remaining = some remaining → s.pricePerEnergy = some price →
      Shows offered s (.updated id remaining price)
  | withdrawn {id} : s.state = .withdrawn → s.remaining = some 0 →
      Shows offered s (.withdrawn id)

theorem Shows.doubted {offered : Prop} {s : MarketFeedOffer} {event : Event}
    (h : Shows offered s event) : Shows offered { s with uncertain := true } event := by
  cases h with
  | offer state remaining price => exact .offer state remaining price
  | known base state remaining price => exact .known base state remaining price
  | early base state remaining price => exact .early base state remaining price
  | withdrawn state remaining => exact .withdrawn state remaining

/-- A snapshot is past its events once withdrawn, else up to its latest. -/
theorem Shows.gone_iff {offered : Prop} {s : MarketFeedOffer} {event : Event}
    (h : Shows offered s event) (time : Instant) :
    gone s time = true ↔ (∃ id, event = .withdrawn id) ∨ time ≤ s.lastEventAt := by
  unfold gone
  cases h with
  | offer state _ _ => simp [state]
  | known _ state _ _ => simp [state]
  | early _ state _ _ => simp [state]
  | withdrawn state _ => simp [state]

/-- The snapshot shows the latest message heard. -/
structure Latest (h : History) (db : Db) (s : MarketFeedOffer) (m : Payload) : Prop where
  mem : m ∈ h.messages
  heard : Heard h db m
  time : s.lastEventAt = m.timestamp
  last : ∀ x ∈ h.messages, Heard h db x → x.timestamp ≤ m.timestamp
  offerId : s.offerId = h.offerId
  shows_ : ∃ event, event? m = some (h.city,event) ∧ Shows (Heard h db h.offer) s event

structure Tracks (h : History) (db : Db) : Prop where
  running : ∀ market, db.marketCycles.get? h.cycleId = some market → market.closedAt = none
  own : ∀ c ∈ db.feedClaims, c.sender = h.city → ∀ m ∈ h.messages,
    c.payload.msgId = m.msgId → c.payload.idpk = m.idpk
  blank : db.feed.get? h.place = none → ∀ m ∈ h.messages, ¬ Heard h db m
  snapshot : ∀ s, db.feed.get? h.place = some s → ∃ m, Latest h db s m

section Track
variable {h : History} {db : Db}

theorem Unheard.tracks (start : Unheard h db) : Tracks h db where
  running := start.running
  own c hc sender m hm same := by
    have fresh := (start.unclaimed c hc sender).2
    rw [same] at fresh
    exact absurd (List.mem_map_of_mem hm) fresh
  blank _ m hm := by
    rintro ⟨c,hc,sender,same⟩
    have fresh := (start.unclaimed c hc sender).1
    rw [same] at fresh
    exact fresh (List.mem_map_of_mem hm)
  snapshot s hs := by
    rw [start.blank] at hs
    cases hs

/-- What the invariant reads of the database. -/
theorem Tracks.congr {db' : Db} (tracks : Tracks h db)
    (feed : db'.feed.get? h.place = db.feed.get? h.place)
    (running : ∀ market, db'.marketCycles.get? h.cycleId = some market → market.closedAt = none)
    (own : ∀ c ∈ db'.feedClaims, c.sender = h.city → ∀ m ∈ h.messages,
      c.payload.msgId = m.msgId → c.payload.idpk = m.idpk)
    (heard : ∀ m ∈ h.messages, Heard h db' m ↔ Heard h db m) : Tracks h db' where
  running := running
  own := own
  blank hb m hm := by
    rw [heard m hm]
    exact tracks.blank (feed ▸ hb) m hm
  snapshot s hs := by
    obtain ⟨m,latest⟩ := tracks.snapshot s (feed ▸ hs)
    have offer := heard h.offer (List.mem_cons_self ..)
    refine ⟨m,latest.mem,(heard m latest.mem).mpr latest.heard,latest.time,?_,latest.offerId,?_⟩
    · intro x hx seen
      exact latest.last x hx ((heard x hx).mp seen)
    · obtain ⟨event,he,shows_⟩ := latest.shows_
      refine ⟨event,he,?_⟩
      rw [propext offer]
      exact shows_

theorem Tracks.received (tracks : Tracks h db) (d : Payload) (audit : Audit) :
    Tracks h (MarketFeed.received db d audit) :=
  tracks.congr rfl tracks.running tracks.own fun _ _ => Iff.rfl

end Track

section Reception
variable {cfg : Config} {db : Db} {d : Payload} {sender : String} {event : Event}

theorem event?_cycle {e : String × Event} (h : event? d = some e) :
    ∃ cycleId, d.cycleId = some cycleId := by
  unfold event? at h
  obtain ⟨_,valid,_⟩ := Option.bind_eq_some_iff.mp h
  exact Option.isSome_iff_exists.mp (Fallible.guard_some.mp valid).2.1

/-- The schema reads a copy like the original. -/
theorem event?_copy {m : Payload} {x : String} {e : String × Event} (h : event? m = some e)
    (apart : x ≠ m.idpk) : event? { m with msgId := x } = some e := by
  unfold event? at h ⊢
  obtain ⟨u,valid,h⟩ := Option.bind_eq_some_iff.mp h
  refine Option.bind_eq_some_iff.mpr ⟨u,?_,h⟩
  exact Fallible.guard_some.mpr ⟨Ne.symm apart,(Fallible.guard_some.mp valid).2⟩

theorem event?_self {m : Payload} : event? { m with msgId := m.idpk } = none := by
  unfold event?
  simp [guard]

/-- The claimed envelope, before its event is applied. -/
def claiming (db : Db) (sender : String) (d : Payload) : Db :=
  { db with
    feedClaims := db.feedClaims ++ [⟨sender,d⟩]
    marketCycles := marketCycle db.marketCycles (d.cycleId.getD "") }

def marketOf (db : Db) (d : Payload) : MarketCycle :=
  ((marketCycle db.marketCycles (d.cycleId.getD "")).get? (d.cycleId.getD "")).getD
    { cycleId := d.cycleId.getD "" }

theorem persist_fresh (cfg : Config) (h : event? d = some (sender,event)) (fresh : claimed db sender d = none) :
    ∃ audit, persist cfg db d = received
      (applyEvent cfg (claiming db sender d) d sender event (marketOf db d)).1 d audit := by
  unfold persist
  rw [h]
  dsimp only
  rw [fresh]
  exact ⟨_,rfl⟩

theorem persist_claimed (cfg : Config) {old : MarketEventClaim} (h : event? d = some (sender,event))
    (taken : claimed db sender d = some old) :
    ∃ audit, persist cfg db d = received db d audit := by
  unfold persist
  rw [h]
  dsimp only
  rw [taken]
  exact ⟨_,rfl⟩

theorem marketOf_key : (marketOf db d).cycleId = d.cycleId.getD "" := by
  unfold marketOf
  cases hm : (marketCycle db.marketCycles (d.cycleId.getD "")).get? (d.cycleId.getD "") with
  | none => rfl
  | some market => exact Table.key_of_get? hm

theorem marketCycle_running {cycles : Table MarketCycle.cycleId} {k x : String}
    (running : ∀ market, cycles.get? k = some market → market.closedAt = none) :
    ∀ market, (marketCycle cycles x).get? k = some market → market.closedAt = none := by
  intro market hm
  unfold marketCycle Table.insert? at hm
  split at hm
  · rw [Option.getD_some,Table.get?_insert] at hm
    split at hm
    · cases hm
      rfl
    · exact running market hm
  · exact running market hm

theorem marketOf_running {k : String} (hk : d.cycleId = some k)
    (running : ∀ market, db.marketCycles.get? k = some market → market.closedAt = none) :
    (marketOf db d).closedAt = none := by
  unfold marketOf
  rw [hk,Option.getD_some]
  cases hm : (marketCycle db.marketCycles k).get? k with
  | none => rfl
  | some market => exact marketCycle_running running market hm

/-- An offer event only touches the snapshot of its own city and cycle. -/
theorem applyOfferEvent_other (feed : Feed) (d : Payload) (cycleId city : String) (event : Event)
    {k : String × String} (other : k ≠ (cycleId,city)) :
    (applyOfferEvent feed d cycleId city event).1.get? k = feed.get? k := by
  have sight : (firstSight d cycleId city event).place = (cycleId,city) := by
    unfold firstSight
    cases event <;> rfl
  unfold applyOfferEvent
  split
  · split
    · rename_i inserted hins
      obtain ⟨free,rfl⟩ := Table.insert?_eq_some.mp hins
      rw [Table.get?_insert,sight,if_neg (Ne.symm other)]
    · rfl
  · rename_i snapshot hs
    have own := Table.key_of_get? hs
    have kept (s : MarketFeedOffer) (same : s.place = snapshot.place) :
        (feed.set s).get? k = feed.get? k := by
      rw [Table.get?_set,same,own,if_neg (Ne.symm other)]
    unfold doubted
    split
    · exact kept _ rfl
    · split
      · split
        · exact kept _ rfl
        · exact kept _ rfl
      · split
        · exact kept _ rfl
        · exact kept _ rfl
      · split
        · exact kept _ rfl
        · exact kept _ rfl
      · rfl

/-- What an event of its own offer makes of a snapshot. -/
def afterEvent (d : Payload) (s : MarketFeedOffer) : Event → MarketFeedOffer
  | .offer _ quantity _ =>
      if s.state = .unresolved ∧ d.timestamp < s.lastEventAt then
        { s with initialQuantity := some quantity, state := .active, uncertain := true }
      else { s with uncertain := true }
  | .updated _ remaining price =>
      if gone s d.timestamp then { s with uncertain := true }
      else { s with
        remaining := some remaining, pricePerEnergy := some price
        lastEventAt := d.timestamp, lastEventMsgId := d.msgId }
  | .withdrawn _ =>
      if gone s d.timestamp then { s with uncertain := true }
      else { s with
        state := .withdrawn, remaining := some 0
        lastEventAt := d.timestamp, lastEventMsgId := d.msgId }
  | .closed => s

theorem afterEvent_place (s : MarketFeedOffer) : (afterEvent d s event).place = s.place := by
  unfold afterEvent
  cases event <;> dsimp only <;> first | rfl | split <;> rfl

theorem applyOfferEvent_blank {feed : Feed} {cycleId city : String}
    (blank : feed.get? (cycleId,city) = none) :
    (applyOfferEvent feed d cycleId city event).1.get? (cycleId,city) =
      some (firstSight d cycleId city event) := by
  have sight : (firstSight d cycleId city event).place = (cycleId,city) := by
    unfold firstSight
    cases event <;> rfl
  have free : feed.get? (firstSight d cycleId city event).place = none := by
    rw [sight]
    exact blank
  unfold applyOfferEvent
  rw [blank]
  dsimp only
  unfold Table.insert?
  rw [dif_pos free,Table.get?_insert,if_pos sight]

theorem applyOfferEvent_known {feed : Feed} {cycleId city : String} {s : MarketFeedOffer}
    (hs : feed.get? (cycleId,city) = some s) (own : s.offerId = event.offerId)
    (offers : event ≠ .closed) :
    (applyOfferEvent feed d cycleId city event).1 = feed.set (afterEvent d s event) := by
  unfold applyOfferEvent
  rw [hs]
  dsimp only
  rw [if_neg (fun other => other own)]
  cases event with
  | offer _ _ _ =>
    dsimp only [afterEvent]
    split <;> rfl
  | updated _ _ _ =>
    dsimp only [afterEvent]
    split <;> rfl
  | withdrawn _ =>
    dsimp only [afterEvent]
    split <;> rfl
  | closed => exact absurd rfl offers

end Reception

section Foreign
variable {cfg : Config} {h : History} {db : Db} {d : Payload}

theorem foreign_claims {sender : String} {event : Event} (tracks : Tracks h db)
    (foreign : Foreign h d) (he : event? d = some (sender,event)) :
    (∀ c ∈ (claiming db sender d).feedClaims, c.sender = h.city → ∀ m ∈ h.messages,
      c.payload.msgId = m.msgId → c.payload.idpk = m.idpk) ∧
    ∀ m ∈ h.messages, Heard h (claiming db sender d) m ↔ Heard h db m := by
  have apart := (foreign sender event he).1
  constructor
  · intro c hc own m hm same
    rcases List.mem_append.mp hc with old | new
    · exact tracks.own c old own m hm same
    · cases List.mem_singleton.mp new
      exact absurd (same ▸ List.mem_map_of_mem hm) (apart own).2.2
  · intro m hm
    constructor
    · rintro ⟨c,hc,own,same⟩
      rcases List.mem_append.mp hc with old | new
      · exact ⟨c,old,own,same⟩
      · cases List.mem_singleton.mp new
        exact absurd (same ▸ List.mem_map_of_mem hm) (apart own).2.1
    · rintro ⟨c,hc,own,same⟩
      exact ⟨c,List.mem_append_left _ hc,own,same⟩

theorem shut_other {cycleId : String} {k : String × String} (other : k.1 ≠ cycleId)
    (feed : Feed) : (feed.mapRows (shut cycleId) (shut_place cycleId)).get? k = feed.get? k := by
  rw [Table.get?_mapRows]
  cases hs : feed.get? k with
  | none => rfl
  | some s =>
    have key : s.place = k := Table.key_of_get? hs
    have elsewhere : s.cycleId ≠ cycleId := by
      intro same
      apply other
      rw [← key,← same]
      rfl
    rw [Option.map_some,shut,if_neg (fun h => elsewhere h.1)]

theorem foreign_tracks (tracks : Tracks h db) (foreign : Foreign h d) :
    Tracks h (persist cfg db d) := by
  cases he : event? d with
  | none =>
    unfold persist
    rw [he]
    exact tracks
  | some e =>
    obtain ⟨sender,event⟩ := e
    cases hc : claimed db sender d with
    | some old =>
      obtain ⟨audit,same⟩ := persist_claimed cfg he hc
      rw [same]
      exact tracks.received d audit
    | none =>
      obtain ⟨audit,same⟩ := persist_fresh cfg he hc
      obtain ⟨own,heard⟩ := foreign_claims tracks foreign he
      obtain ⟨cycleId,hcycle⟩ := event?_cycle he
      have named : d.cycleId.getD "" = cycleId := by rw [hcycle]; rfl
      have still : Tracks h (claiming db sender d) :=
        tracks.congr rfl (marketCycle_running tracks.running) own heard
      rw [same]
      refine Tracks.received ?_ d audit
      unfold applyEvent
      split
      · have elsewhere : cycleId ≠ h.cycleId := by
          intro e
          exact (foreign sender .closed he).2 rfl (hcycle.trans (congrArg some e))
        split
        · exact still
        · refine still.congr (shut_other ?_ _) ?_ still.own fun _ _ => Iff.rfl
          · rw [marketOf_key,named]
            exact Ne.symm elsewhere
          · intro market hm
            unfold applyMarketClosed SellerOffers.closeLocalOffers at hm
            dsimp only at hm
            rw [Table.get?_set,if_neg] at hm
            · exact still.running market hm
            · dsimp only
              rw [marketOf_key,named]
              exact elsewhere
      · split
        · exact still
        · refine still.congr ?_ still.running still.own fun _ _ => Iff.rfl
          refine applyOfferEvent_other _ _ _ _ _ ?_
          rw [marketOf_key,named]
          intro e
          obtain ⟨cycle,city⟩ := Prod.mk.inj e
          exact ((foreign sender event he).1 city.symm).1 (hcycle.trans (congrArg some cycle.symm))

end Foreign

/-! ### The messages of a well-formed history -/

section Messages
variable {h : History} (wf : h.WellFormed) {m x : Payload}
include wf

theorem message_kind (hm : m ∈ h.messages) :
    m = h.offer ∧ (∃ quantity price, event? m = some (h.city,.offer h.offerId quantity price)) ∨
      m ∈ h.updates ∧
        (∃ remaining price, event? m = some (h.city,.updated h.offerId remaining price)) ∨
      m ∈ h.withdrawal ∧ event? m = some (h.city,.withdrawn h.offerId) := by
  rcases List.mem_cons.mp hm with rfl | hm
  · exact .inl ⟨rfl,wf.offered⟩
  rcases List.mem_append.mp hm with hm | hm
  · exact .inr (.inl ⟨hm,wf.updated m hm⟩)
  · have hw := Option.mem_toList.mp hm
    exact .inr (.inr ⟨hw,wf.withdrawn m hw⟩)

theorem offer_of_event {quantity : Int} {price : ℚ} {id : String} (hm : m ∈ h.messages)
    (he : event? m = some (h.city,.offer id quantity price)) : m = h.offer := by
  rcases message_kind wf hm with ⟨same,_⟩ | ⟨_,_,_,other⟩ | ⟨_,other⟩
  · exact same
  · cases he.symm.trans other
  · cases he.symm.trans other

theorem withdrawal_of_event {id : String} (hm : m ∈ h.messages)
    (he : event? m = some (h.city,.withdrawn id)) : m ∈ h.withdrawal := by
  rcases message_kind wf hm with ⟨_,_,_,other⟩ | ⟨_,_,_,other⟩ | ⟨hw,_⟩
  · cases he.symm.trans other
  · cases he.symm.trans other
  · exact hw

theorem offer_first (hx : x ∈ h.messages) (other : x ≠ h.offer) :
    h.offer.timestamp < x.timestamp := by
  have first := (List.pairwise_cons.mp wf.times).1
  exact first x ((List.mem_cons.mp hx).resolve_left other)

theorem withdrawal_last (hm : m ∈ h.withdrawal) (hx : x ∈ h.messages) (other : x ≠ m) :
    x.timestamp < m.timestamp := by
  obtain ⟨first,rest⟩ := List.pairwise_cons.mp wf.times
  have listed : m ∈ h.updates ++ h.withdrawal.toList :=
    List.mem_append_right _ (Option.mem_toList.mpr hm)
  rcases List.mem_cons.mp hx with rfl | hx
  · exact first m listed
  rcases List.mem_append.mp hx with hx | hx
  · exact (List.pairwise_append.mp rest).2.2 x hx m (Option.mem_toList.mpr hm)
  · exact absurd (Option.mem_unique (Option.mem_toList.mp hx) hm) other

theorem same_time (hm : m ∈ h.messages) (hx : x ∈ h.messages) (same : x.timestamp = m.timestamp) :
    x = m := by
  have distinct : (h.messages.map Payload.timestamp).Nodup := by
    refine List.Pairwise.map _ (fun a b lt => ?_) wf.times
    exact ne_of_lt lt
  exact List.inj_on_of_nodup_map distinct hx hm same

end Messages

/-! ### A copy of a message -/

section Copy
variable {cfg : Config} {h : History} {db db' : Db} {m m₀ d : Payload} {event event₀ : Event}
  {s s' : MarketFeedOffer}

/-- The message just heard is the latest. -/
theorem latest_new (hm : m ∈ h.messages) (heard : Heard h db' m)
    (time : s.lastEventAt = m.timestamp)
    (last : ∀ x ∈ h.messages, Heard h db' x → x.timestamp ≤ m.timestamp)
    (offerId : s.offerId = h.offerId) (he : event? m = some (h.city,event))
    (shows_ : Shows (Heard h db' h.offer) s event) : Latest h db' s m :=
  ⟨hm,heard,time,last,offerId,event,he,shows_⟩

/-- The earlier message stays the latest. -/
theorem latest_stays (latest : Latest h db s m₀)
    (heard : ∀ x ∈ h.messages, Heard h db' x ↔ Heard h db x ∨ x = m)
    (he₀ : event? m₀ = some (h.city,event₀))
    (time' : s'.lastEventAt = s.lastEventAt) (id' : s'.offerId = s.offerId)
    (before : m.timestamp ≤ m₀.timestamp) (shown : Shows (Heard h db' h.offer) s' event₀) :
    Latest h db' s' m₀ := by
  have old := (heard m₀ latest.mem).mpr (.inl latest.heard)
  refine latest_new latest.mem old (time'.trans latest.time) ?_ (id'.trans latest.offerId) he₀ shown
  intro x hx seen
  rcases (heard x hx).mp seen with seen | rfl
  · exact latest.last x hx seen
  · exact before

/-- The message takes its place. -/
theorem latest_moves (latest : Latest h db s m₀) (hm : m ∈ h.messages)
    (heard : ∀ x ∈ h.messages, Heard h db' x ↔ Heard h db x ∨ x = m)
    (he : event? m = some (h.city,event)) (time : d.timestamp = m.timestamp)
    (time' : s'.lastEventAt = d.timestamp) (id' : s'.offerId = s.offerId)
    (after : m₀.timestamp ≤ m.timestamp) (shown : Shows (Heard h db' h.offer) s' event) :
    Latest h db' s' m := by
  have new := (heard m hm).mpr (.inr rfl)
  refine latest_new hm new (time'.trans time) ?_ (id'.trans latest.offerId) he shown
  intro x hx seen
  rcases (heard x hx).mp seen with seen | rfl
  · exact (latest.last x hx seen).trans after
  · exact le_rfl

theorem unheard_ne (unheard : ¬ Heard h db m) (latest : Latest h db s m₀) : m ≠ m₀ := by
  rintro rfl
  exact unheard latest.heard

section Kinds
variable (wf : h.WellFormed) (hm : m ∈ h.messages) (time : d.timestamp = m.timestamp)
  (unheard : ¬ Heard h db m)
  (heard : ∀ x ∈ h.messages, Heard h db' x ↔ Heard h db x ∨ x = m) (latest : Latest h db s m₀)
include wf hm time unheard heard latest

/-- The base offer, after a later message. -/
theorem offer_heard (same : m = h.offer) {id : String} {quantity : Int} {price : ℚ}
    (kind : event = .offer id quantity price) : ∃ x, Latest h db' (afterEvent d s event) x := by
  subst kind
  obtain ⟨event₀,he₀,shows_⟩ := latest.shows_
  have apart := unheard_ne unheard latest
  have later := offer_first wf latest.mem (fun e => apart (same.trans e.symm))
  rw [← same] at later
  refine ⟨m₀,?_⟩
  cases shows_ with
  | offer _ _ _ =>
    have base := offer_of_event wf latest.mem he₀
    exact absurd (same.trans base.symm) apart
  | known offered _ _ _ => exact absurd (same ▸ offered) unheard
  | early _ state remaining price =>
    have new := (heard m hm).mpr (.inr rfl)
    have cond : s.state = .unresolved ∧ d.timestamp < s.lastEventAt := by
      rw [time,latest.time]
      exact ⟨state,later⟩
    unfold afterEvent
    dsimp only
    rw [if_pos cond]
    exact latest_stays latest heard he₀ rfl rfl later.le (.known (same ▸ new) rfl remaining price)
  | withdrawn state remaining =>
    unfold afterEvent
    dsimp only
    rw [if_neg (fun c => by rw [state] at c; exact nomatch c.1)]
    exact latest_stays latest heard he₀ rfl rfl later.le (.withdrawn state remaining)

theorem update_heard (he : event? m = some (h.city,event)) {id : String} {remaining : Int}
    {price : ℚ} (kind : event = .updated id remaining price) :
    ∃ x, Latest h db' (afterEvent d s event) x := by
  subst kind
  obtain ⟨event₀,he₀,shows_⟩ := latest.shows_
  have apart := unheard_ne unheard latest
  have otherwise : Heard h db' h.offer ↔ Heard h db h.offer := by
    rw [heard h.offer (List.mem_cons_self ..)]
    refine or_iff_left ?_
    intro same
    obtain ⟨q,p',offered⟩ := wf.offered
    rw [same,he] at offered
    cases offered
  have shown₀ : Shows (Heard h db' h.offer) s event₀ := by
    rw [propext otherwise]
    exact shows_
  unfold afterEvent
  dsimp only
  by_cases late : gone s d.timestamp = true
  · rw [if_pos late]
    refine ⟨m₀,latest_stays latest heard he₀ rfl rfl ?_ shown₀.doubted⟩
    rcases (shows_.gone_iff _).mp late with ⟨id,rfl⟩ | before
    · exact (withdrawal_last wf (withdrawal_of_event wf latest.mem he₀) hm apart).le
    · rw [time,latest.time] at before
      exact before
  · rw [if_neg late]
    have ahead := mt (shows_.gone_iff d.timestamp).mpr late
    rw [not_or,time,latest.time,not_le] at ahead
    refine ⟨m,latest_moves latest hm heard he time rfl rfl ahead.2.le ?_⟩
    cases shown₀ with
    | offer state _ _ =>
      have base := offer_of_event wf latest.mem he₀
      have old := (heard m₀ latest.mem).mpr (.inl latest.heard)
      exact .known (base ▸ old) state rfl rfl
    | known base state _ _ => exact .known base state rfl rfl
    | early base state _ _ => exact .early base state rfl rfl
    | withdrawn _ _ => exact absurd ⟨_,rfl⟩ ahead.1

/-- The withdrawal, after everything else. -/
theorem removal_heard (he : event? m = some (h.city,event)) (hw : m ∈ h.withdrawal)
    {id : String} (kind : event = .withdrawn id) :
    ∃ x, Latest h db' (afterEvent d s event) x := by
  subst kind
  obtain ⟨event₀,he₀,shows_⟩ := latest.shows_
  have apart := unheard_ne unheard latest
  have earlier := withdrawal_last wf hw latest.mem (Ne.symm apart)
  have live : ¬ gone s d.timestamp = true := by
    rw [shows_.gone_iff,time,latest.time]
    rintro (⟨id,rfl⟩ | before)
    · have last := withdrawal_of_event wf latest.mem he₀
      exact apart (Option.mem_unique hw last)
    · exact absurd earlier (not_lt.mpr before)
  unfold afterEvent
  dsimp only
  rw [if_neg live]
  exact ⟨m,latest_moves latest hm heard he time rfl rfl earlier.le (.withdrawn rfl rfl)⟩

end Kinds

variable (wf : h.WellFormed) (tracks : Tracks h db) (hm : m ∈ h.messages)
  (he : event? m = some (h.city,event)) (time : d.timestamp = m.timestamp)
  (unheard : ¬ Heard h db m)
  (heard : ∀ x ∈ h.messages, Heard h db' x ↔ Heard h db x ∨ x = m)
  (feed : db'.feed = (applyOfferEvent db.feed d h.cycleId h.city event).1)
include wf tracks hm he time unheard heard feed

omit unheard in
/-- The first message heard of the city. -/
theorem first_heard (blank : db.feed.get? h.place = none) :
    ∃ s, db'.feed.get? h.place = some s ∧ ∃ x, Latest h db' s x := by
  have new := (heard m hm).mpr (.inr rfl)
  have only (x : Payload) (hx : x ∈ h.messages) (seen : Heard h db' x) : x = m :=
    ((heard x hx).mp seen).resolve_left (tracks.blank blank x hx)
  have stored : db'.feed.get? h.place = some (firstSight d h.cycleId h.city event) := by
    rw [feed]
    exact applyOfferEvent_blank blank
  refine ⟨_,stored,m,?_⟩
  have last (x : Payload) (hx : x ∈ h.messages) (seen : Heard h db' x) :
      x.timestamp ≤ m.timestamp := by rw [only x hx seen]
  rcases message_kind wf hm with ⟨same,q,p,kind⟩ | ⟨_,r,p,kind⟩ | ⟨_,kind⟩ <;>
    cases he.symm.trans kind
  · exact latest_new hm new time last rfl he (.offer rfl rfl rfl)
  · refine latest_new hm new time last rfl he (.early ?_ rfl rfl rfl)
    intro seen
    have same := only h.offer (List.mem_cons_self ..) seen
    obtain ⟨q,p',offered⟩ := wf.offered
    rw [same,he] at offered
    cases offered
  · exact latest_new hm new time last rfl he (.withdrawn rfl rfl)

/-- A message heard when the city already has a snapshot. -/
theorem next_heard {s : MarketFeedOffer} (hs : db.feed.get? h.place = some s) :
    ∃ s', db'.feed.get? h.place = some s' ∧ ∃ x, Latest h db' s' x := by
  obtain ⟨m₀,latest⟩ := tracks.snapshot s hs
  have place : s.place = h.place := Table.key_of_get? hs
  have own : event.offerId = h.offerId ∧ event ≠ .closed := by
    rcases message_kind wf hm with ⟨_,_,_,kind⟩ | ⟨_,_,_,kind⟩ | ⟨_,kind⟩ <;>
      cases he.symm.trans kind <;> exact ⟨rfl,fun e => nomatch e⟩
  have stored : db'.feed.get? h.place = some (afterEvent d s event) := by
    rw [feed,applyOfferEvent_known hs (latest.offerId.trans own.1.symm) own.2,Table.get?_set,
      afterEvent_place,place,if_pos rfl,hs]
    rfl
  refine ⟨_,stored,?_⟩
  rcases message_kind wf hm with ⟨same,q,p,kind⟩ | ⟨_,r,p,kind⟩ | ⟨hw,kind⟩ <;>
    cases he.symm.trans kind
  · exact offer_heard wf hm time unheard heard latest same rfl
  · exact update_heard wf hm time unheard heard latest he rfl
  · exact removal_heard wf hm time unheard heard latest he hw rfl

end Copy

/-! ### Every delivery -/

section Delivered
variable {cfg : Config} {h : History} {db : Db}

theorem heard_claiming {m : Payload} (distinct : (h.messages.map Payload.idpk).Nodup)
    (hm : m ∈ h.messages) (msgId : String) : ∀ x ∈ h.messages,
      Heard h (claiming db h.city { m with msgId := msgId }) x ↔ Heard h db x ∨ x = m := by
  intro x hx
  constructor
  · rintro ⟨c,hc,sender,same⟩
    rcases List.mem_append.mp hc with old | new
    · exact .inl ⟨c,old,sender,same⟩
    · cases List.mem_singleton.mp new
      exact .inr (List.inj_on_of_nodup_map distinct hx hm same.symm)
  · rintro (⟨c,hc,sender,same⟩ | rfl)
    · exact ⟨c,List.mem_append_left _ hc,sender,same⟩
    · exact ⟨_,List.mem_append_right _ (List.mem_singleton_self _),rfl,rfl⟩

/-- The database once an event of an open market was heard. -/
def hearing (h : History) (db : Db) (d : Payload) (event : Event) : Db :=
  { claiming db h.city d with
    feed := (applyOfferEvent db.feed d h.cycleId h.city event).1 }

/-- The delivery of a copy not claimed before. -/
theorem fresh_tracks (wf : h.WellFormed) (tracks : Tracks h db) {m : Payload}
    {event : Event} (hm : m ∈ h.messages) {msgId : String}
    (fresh : msgId = m.msgId ∨ msgId ∉ h.messages.map Payload.msgId)
    (he : event? m = some (h.city,event))
    (unheard : ¬ Heard h db m) : Tracks h (hearing h db { m with msgId := msgId } event) := by
  have heard : ∀ x ∈ h.messages,
      Heard h (hearing h db { m with msgId := msgId } event) x ↔ Heard h db x ∨ x = m :=
    heard_claiming wf.idpks hm msgId
  obtain ⟨s,hs,x,latest⟩ : ∃ s,
      (hearing h db { m with msgId := msgId } event).feed.get? h.place = some s ∧
      ∃ x, Latest h (hearing h db { m with msgId := msgId } event) s x := by
    cases hs : db.feed.get? h.place with
    | none =>
      exact first_heard (d := { m with msgId := msgId }) wf tracks hm he rfl heard rfl hs
    | some s =>
      exact next_heard (d := { m with msgId := msgId }) wf tracks hm he rfl unheard heard rfl hs
  refine ⟨?_,?_,?_,?_⟩
  · exact marketCycle_running tracks.running
  · intro c hmem sender x hx same
    rcases List.mem_append.mp hmem with old | new
    · exact tracks.own c old sender x hx same
    · cases List.mem_singleton.mp new
      rcases fresh with original | unused
      · have ids := wf.msgIds
        rw [List.inj_on_of_nodup_map ids hx hm (same.symm.trans original)]
      · have listed : msgId = x.msgId := same
        exact absurd (listed ▸ List.mem_map_of_mem hx) unused
  · intro blank
    rw [hs] at blank
    cases blank
  · intro s' hs'
    cases hs.symm.trans hs'
    exact ⟨x,latest⟩

/-- In an open market an event of its own cycle is applied to the feed. -/
theorem applyEvent_hearing (cfg : Config) (tracks : Tracks h db) {d : Payload} {event : Event}
    (offers : event ≠ .closed) (cycle : d.cycleId = some h.cycleId) :
    (applyEvent cfg (claiming db h.city d) d h.city event (marketOf db d)).1 =
      hearing h db d event := by
  have running := marketOf_running cycle tracks.running
  have named : (marketOf db d).cycleId = h.cycleId := by
    rw [marketOf_key,cycle]
    rfl
  unfold applyEvent
  cases event with
  | closed => exact absurd rfl offers
  | _ =>
    dsimp only
    rw [running,named]
    rfl

/-- Delivering a copy keeps the invariant; the original is then heard. -/
theorem copy_tracks (cfg : Config) (wf : h.WellFormed) (tracks : Tracks h db) {m : Payload}
    (hm : m ∈ h.messages) {msgId : String}
    (fresh : msgId = m.msgId ∨ msgId ∉ h.messages.map Payload.msgId) :
    Tracks h (persist cfg db { m with msgId := msgId }) ∧
      (msgId = m.msgId → Heard h (persist cfg db { m with msgId := msgId }) m) := by
  obtain ⟨event,he,offers⟩ : ∃ event, event? m = some (h.city,event) ∧ event ≠ .closed := by
    rcases message_kind wf hm with ⟨_,_,_,kind⟩ | ⟨_,_,_,kind⟩ | ⟨_,kind⟩ <;>
      exact ⟨_,kind,fun e => nomatch e⟩
  by_cases void : msgId = m.idpk
  · have refused : event? { m with msgId := msgId } = none := by
      rw [void]
      exact event?_self
    have same : persist cfg db { m with msgId := msgId } = db := by
      unfold persist
      rw [refused]
    rw [same]
    refine ⟨tracks,fun original => ?_⟩
    subst original
    rw [he] at refused
    cases refused
  have read := event?_copy he void
  cases hc : claimed db h.city { m with msgId := msgId } with
  | some old =>
    obtain ⟨audit,same⟩ := persist_claimed cfg read hc
    rw [same]
    refine ⟨tracks.received _ _,fun original => ?_⟩
    have matched := List.find?_some hc
    rw [Bool.and_eq_true,Bool.or_eq_true,decide_eq_true_iff,decide_eq_true_iff,
      decide_eq_true_iff] at matched
    refine ⟨old,List.mem_of_find?_eq_some hc,matched.1,?_⟩
    rcases matched.2 with idpk | id
    · exact idpk
    · exact tracks.own old (List.mem_of_find?_eq_some hc) matched.1 m hm (id.trans original)
  | none =>
    obtain ⟨audit,same⟩ := persist_fresh cfg read hc
    have unheard : ¬ Heard h db m := by
      rintro ⟨c,hmem,sender,idpk⟩
      have miss := List.find?_eq_none.mp hc c hmem
      simp [sender,idpk] at miss
    have cycle : ({ m with msgId := msgId } : Payload).cycleId = some h.cycleId := wf.cycle m hm
    rw [same,applyEvent_hearing cfg tracks offers cycle]
    refine ⟨(fresh_tracks wf tracks hm fresh he unheard).received _ _,fun _ => ?_⟩
    exact (heard_claiming wf.idpks hm msgId m hm).mpr (.inr rfl)

/-- Nobody unhears a message. -/
theorem heard_persist (cfg : Config) {d m : Payload} (heard : Heard h db m) :
    Heard h (persist cfg db d) m := by
  obtain ⟨c,hc,sender,same⟩ := heard
  cases he : event? d with
  | none =>
    unfold persist
    rw [he]
    exact ⟨c,hc,sender,same⟩
  | some e =>
    obtain ⟨city,event⟩ := e
    cases taken : claimed db city d with
    | some old =>
      obtain ⟨audit,eq⟩ := persist_claimed cfg he taken
      rw [eq]
      exact ⟨c,hc,sender,same⟩
    | none =>
      obtain ⟨audit,eq⟩ := persist_fresh cfg he taken
      rw [eq]
      refine ⟨c,?_,sender,same⟩
      have claims : (applyEvent cfg (claiming db city d) d city event (marketOf db d)).1.feedClaims =
          (claiming db city d).feedClaims := by
        unfold applyEvent
        split <;> split <;> rfl
      exact claims ▸ List.mem_append_left _ hc

theorem delivery_tracks (cfg : Config) (wf : h.WellFormed) (tracks : Tracks h db) {d : Payload}
    (delivery : Delivery h d) : Tracks h (persist cfg db d) := by
  cases delivery with
  | copy m msgId hm fresh => exact (copy_tracks cfg wf tracks hm fresh).1
  | foreign _ foreign => exact foreign_tracks tracks foreign

/-- After any deliveries the invariant holds, and all originals among them were heard. -/
theorem deliveries_track (cfg : Config) (wf : h.WellFormed) (l : List Payload)
    (deliveries : ∀ d ∈ l, Delivery h d) (tracks : Tracks h db) :
    Tracks h (run (persist cfg) db l) ∧
      ∀ m ∈ h.messages, (m ∈ l ∨ Heard h db m) → Heard h (run (persist cfg) db l) m := by
  induction l generalizing db with
  | nil => exact ⟨tracks,fun m _ seen => seen.resolve_left (List.not_mem_nil)⟩
  | cons d rest ih =>
    have one := delivery_tracks cfg wf tracks (deliveries d (List.mem_cons_self ..))
    obtain ⟨last,heard⟩ := ih (fun x hx => deliveries x (List.mem_cons_of_mem _ hx)) one
    refine ⟨last,fun m hm seen => heard m hm ?_⟩
    rcases seen with listed | seen
    · rcases List.mem_cons.mp listed with rfl | later
      · exact .inr ((copy_tracks cfg wf tracks hm (.inl rfl)).2 rfl)
      · exact .inl later
    · exact .inr (heard_persist cfg seen)

/-- When everything was heard, the latest message is the last of the history. -/
theorem latest_unique (wf : h.WellFormed) {a b : Db} {s t : MarketFeedOffer} {m x : Payload}
    (allA : ∀ m ∈ h.messages, Heard h a m) (allB : ∀ m ∈ h.messages, Heard h b m)
    (first : Latest h a s m) (second : Latest h b t x) : x = m := by
  refine same_time wf first.mem second.mem (le_antisymm ?_ ?_)
  · exact first.last x second.mem (allA x second.mem)
  · exact second.last m first.mem (allB m first.mem)

theorem own_delivery {m : Payload} (hm : m ∈ h.messages) : Delivery h m :=
  .copy m m.msgId hm (.inl rfl)

/-- Two snapshots that show the same event of a history fully heard. -/
theorem shows_agree {offered : Prop} (base : offered) {s t : MarketFeedOffer} {event : Event}
    (first : Shows offered s event) (second : Shows offered t event) :
    s.state = t.state ∧ s.remaining = t.remaining ∧
      ((∃ id, event = .withdrawn id) ∨ s.pricePerEnergy = t.pricePerEnergy) := by
  cases first with
  | offer state remaining price =>
    cases second with
    | offer state' remaining' price' =>
      exact ⟨state.trans state'.symm,remaining.trans remaining'.symm,
        .inr (price.trans price'.symm)⟩
  | known _ state remaining price =>
    cases second with
    | known _ state' remaining' price' =>
      exact ⟨state.trans state'.symm,remaining.trans remaining'.symm,
        .inr (price.trans price'.symm)⟩
    | early not _ _ _ => exact absurd base not
  | early not _ _ _ => exact absurd base not
  | withdrawn state remaining =>
    cases second with
    | withdrawn state' remaining' =>
      exact ⟨state.trans state'.symm,remaining.trans remaining'.symm,.inl ⟨_,rfl⟩⟩

/-- Any delivery of a whole history, repeated and among foreign messages as may
be, ends where the single delivery in order does. -/
theorem feed_confluence (cfg : Config) (wf : h.WellFormed) (start : Unheard h db)
    (l : List Payload) (deliveries : ∀ d ∈ l, Delivery h d) (complete : ∀ m ∈ h.messages, m ∈ l) :
    ∃ s t, (run (persist cfg) db l).feed.get? h.place = some s ∧
      (run (persist cfg) db h.messages).feed.get? h.place = some t ∧
      s.state = t.state ∧ s.remaining = t.remaining ∧ s.lastEventAt = t.lastEventAt ∧
      (h.withdrawal = none → s.pricePerEnergy = t.pricePerEnergy) := by
  have offered : h.offer ∈ h.messages := List.mem_cons_self ..
  obtain ⟨tracks,heard⟩ := deliveries_track cfg wf l deliveries start.tracks
  obtain ⟨tracks',heard'⟩ := deliveries_track cfg wf h.messages (fun m hm => own_delivery hm)
    start.tracks
  have all : ∀ m ∈ h.messages, Heard h (run (persist cfg) db l) m :=
    fun m hm => heard m hm (.inl (complete m hm))
  have all' : ∀ m ∈ h.messages, Heard h (run (persist cfg) db h.messages) m :=
    fun m hm => heard' m hm (.inl hm)
  cases hs : (run (persist cfg) db l).feed.get? h.place with
  | none => exact absurd (all _ offered) (tracks.blank hs _ offered)
  | some s =>
    cases ht : (run (persist cfg) db h.messages).feed.get? h.place with
    | none => exact absurd (all' _ offered) (tracks'.blank ht _ offered)
    | some t =>
      obtain ⟨m,latest⟩ := tracks.snapshot s hs
      obtain ⟨x,latest'⟩ := tracks'.snapshot t ht
      cases latest_unique wf all all' latest latest'
      obtain ⟨event,he,shown⟩ := latest.shows_
      obtain ⟨event',he',shown'⟩ := latest'.shows_
      cases he.symm.trans he'
      rw [eq_true (all _ offered)] at shown
      rw [eq_true (all' _ offered)] at shown'
      obtain ⟨state,remaining,price⟩ := shows_agree trivial shown shown'
      refine ⟨s,t,rfl,rfl,state,remaining,latest.time.trans latest'.time.symm,?_⟩
      intro kept
      rcases price with ⟨id,rfl⟩ | price
      · have last := withdrawal_of_event wf latest.mem he
        rw [kept] at last
        cases last
      · exact price

end Delivered

/-- An announcement of another city about its offer of C1. -/
def announcement (type : MessageType) (city idpk msgId : String) (time : Instant) (data : Fields)
    (named : idpk ≠ "" := by decide) : Payload where
  idpk := idpk
  named := named
  msgId := msgId
  type := type
  timestamp := time
  cycleId := some "C1"
  cityId := some city
  data := ("offerId",.str (city ++ "-C1")) :: data

def sale : Payload :=
  announcement .offer "BBB" "i1" "m1" 1 [("quantity",.int 10),("pricePerEnergy",.int 2)]

def dearer : Payload :=
  announcement .offerUpdated "BBB" "i2" "m2" 2 [("remaining",.int 4),("pricePerEnergy",.int 3)]

def gone_ : Payload := announcement .offerWithdrawn "BBB" "i3" "m3" 3 []

/-- The offer another city has for the same cycle, under the same identifiers. -/
def elsewhere : Payload :=
  announcement .offer "CCC" "i1" "m1" 1 [("quantity",.int 7),("pricePerEnergy",.int 1)]

def soldOut : History := ⟨"BBB","C1","BBB-C1",sale,[dearer],some gone_⟩

theorem soldOut_wellFormed : soldOut.WellFormed where
  offered := ⟨10,2,by decide +kernel⟩
  updated u hu := by
    cases List.mem_singleton.mp hu
    exact ⟨4,3,by decide +kernel⟩
  withdrawn w hw := by
    cases hw
    decide +kernel
  cycle := by decide +kernel
  idpks := by decide +kernel
  msgIds := by decide +kernel
  times := by decide +kernel

/-- The withdrawal comes first, the offer twice and the update last. -/
def shuffled : List Payload := [gone_,elsewhere,{ sale with msgId := "m9" },sale,dearer]

theorem shuffled_confluent :
    ∃ s t, (run (persist (.drawing "AAA" [])) {} shuffled).feed.get? soldOut.place = some s ∧
      (run (persist (.drawing "AAA" [])) {} soldOut.messages).feed.get? soldOut.place = some t ∧
      s.state = t.state ∧ s.remaining = t.remaining ∧ s.lastEventAt = t.lastEventAt ∧
      (soldOut.withdrawal = none → s.pricePerEnergy = t.pricePerEnergy) := by
  have start : Unheard soldOut {} := by
    constructor
    · rfl
    · intro _ hm
      cases hm
    · intro _ hc
      cases hc
  refine feed_confluence _ soldOut_wellFormed start _ ?_ ?_
  · intro d hd
    simp only [shuffled,List.mem_cons,List.not_mem_nil,or_false] at hd
    rcases hd with rfl | rfl | rfl | rfl | rfl
    · exact own_delivery (by simp [soldOut,History.messages])
    · refine .foreign _ fun sender event he => ?_
      have read : event? elsewhere = some ("CCC",.offer "CCC-C1" 7 1) := by decide +kernel
      cases read.symm.trans he
      constructor
      · intro same
        exact absurd same (by decide)
      · intro same
        cases same
    · exact .copy sale "m9" (List.mem_cons_self ..) (.inr (by decide +kernel))
    · exact own_delivery (List.mem_cons_self ..)
    · exact own_delivery (by simp [soldOut,History.messages])
  · intro m hm
    simp only [soldOut,History.messages,List.cons_append,List.nil_append,List.mem_cons,
      Option.mem_toList,Option.some.injEq] at hm
    simp only [shuffled,List.mem_cons]
    rcases hm with rfl | rfl | rfl <;> simp

end FeedConfluence

end EnergyNode
