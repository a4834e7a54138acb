import EnergyNode.Connector.DirectedQueue
import EnergyNode.FeedGaps

/-! The market queue: the connector notes the gap before it reads on, and forgets
an announcement only when the master has it, or the evidence that it was none. -/
namespace EnergyNode
open Lib

namespace Connector

/-! ### The announcements -/

/-- MARKET_FEED_TYPES. -/
def marketFeedTypes : List String := ["offer","offer-updated","offer-withdrawn","market-closed"]

/-- The members a `market-closed` may have. -/
def closureMembers : List String := ["idpk","msgId","type","timestamp","sender","cycleId","data"]

/-- The first check of `validate_market_feed` that fails, with its text. -/
def require (holds : Bool) (message : String) (said : message ≠ "" := by simp) : Option Told :=
  if holds then none else some ⟨message,said⟩

def validateClosure (m : Envelope) (data : Fields) (user : Option String) : Option Told :=
  require (isCentral m.sender && (m.raw.lookup "cityId").isNone && user.isNone && data.isEmpty &&
    m.raw.all fun member => member.1 ∈ closureMembers) "market-closed requiere sender central"

/-- The quantity and the price an offer or its update names. -/
def validateAmounts (data : Fields) (quantity : String) : Option Told :=
  require (data.get quantity).int?.isSome ("data." ++ quantity ++ " debe ser entero") <|>
  require (isNumber (data.get "pricePerEnergy")) "data.pricePerEnergy debe ser numérico finito"

theorem user_said : "AMQP user_id no corresponde al cityId" ≠ "" := by simp

def validateOffer (m : Envelope) (data : Fields) (user : Option String) : Option Told :=
  require (isCityCode m.cityId && isNull m.sender) "Oferta requiere cityId válido" <|>
  require (user = m.cityId.text?.map ("city." ++ ·)) "AMQP user_id no corresponde al cityId" user_said <|>
  require (isText (data.get "offerId")) "data.offerId debe ser un string no vacío" <|>
  if m.type = "offer" then validateAmounts data "quantity"
  else if m.type = "offer-updated" then validateAmounts data "remaining"
  else none

/-- `validate_market_feed`; `none` is a valid announcement. -/
def validateMarketFeed (iso : FromIso) (payload : Fields) (user : Option String) : Option Told :=
  match parseEnvelope iso payload with
  | .error (.missingMsgId text) => some text
  | .error (.malformed text) => some text
  | .ok m =>
      require (m.type ∈ marketFeedTypes) "Tipo ajeno al feed de mercado" <|>
      require (m.idpk ≠ m.msgId) "idpk y msgId deben ser distintos" <|>
      require m.timestamp.aware "timestamp requiere zona horaria" <|>
      require (isText m.cycleId) "cycleId es obligatorio" <|>
      match m.data with
      | none => some (told "data debe ser un objeto")
      | some data =>
          if m.type = "market-closed" then validateClosure m data user
          else validateOffer m data user

/-- What `process_market_message` reads in a delivery. -/
def readAnnouncement (iso : FromIso) (d : Delivery) : Except Discard Fields :=
  match decodeIncomingPayload d with
  | .error exc => .error exc
  | .ok payload =>
      match validateMarketFeed iso payload d.user with
      | some text => .error { reason := text, payload := some payload }
      | none => .ok payload

/-! ### The consumer -/

/-- `receive_market_feed`, with the request model as pydantic reads it. -/
def receiveMarketFeed (env : Env) (schema : Fields → Option Payload) (payload : Fields)
    (b : Backend) : Backend × Status :=
  match (schema payload).filter fun p => (MarketFeed.event? p).isSome with
  | none => (b, .refused)
  | some p => ({ b with trace := IdpkClaims.step env b.trace (.feed p) }, .ok)

/-- `process_market_message`: even a 4xx of the master leaves the message queued. -/
def processMarketMessage {iso : FromIso} (env : Env) (schema : Fields → Option Payload)
    (b : Backend) (d : Delivery) (c : Circumstances iso) : Backend × Bool :=
  match readAnnouncement iso d with
  | .error exc => discard d exc c b
  | .ok payload =>
      match forwardToMaster c.forward (receiveMarketFeed env schema payload) b with
      | (b, .ack) => (b, c.settled)
      | (b, _) => (b, false)

/-- An open connection to the market queue: when its gap was noted, and the cycles
that were open then. -/
structure Session where
  since : Instant
  cycles : List String

structure MarketLink where
  backend : Backend
  session : Option Session := none

/-- What happens beside the queue. -/
inductive MarketEvent where
  /-- A new connection, which first notes the gap. -/
  | connect (gap : Wire) (now : Instant)
  | disconnect
  | node (a : Node.Action)

/-- `note_market_feed_gap`. -/
def noteMarketFeedGap (env : Env) (now : Instant) (b : Backend) : Backend × Status :=
  let db := MarketFeed.recordMarketFeedGap env.cfg b.trace.db now
  ({ b with trace := { b.trace with db := db } }, .ok)

def beside (env : Env) (l : MarketLink) : MarketEvent → MarketLink
  | .connect gap now =>
      match forwardToMaster gap (noteMarketFeedGap env now) l.backend with
      | (b, .ack) =>
          { backend := b
            session := some ⟨now,MarketFeed.affected l.backend.trace.db now⟩ }
      | (b, _) => { backend := b }
  | .disconnect => { l with session := none }
  | .node a =>
      { l with backend := { l.backend with trace := IdpkClaims.step env l.backend.trace a } }

/-- `consume_market_forever`: nothing is read before the gap was noted. -/
def market (iso : FromIso) (env : Env) (schema : Fields → Option Payload) :
    Consumer MarketLink Delivery (Circumstances iso) MarketEvent where
  handle l d c :=
    match l.session with
    | none => (l, false)
    | some _ =>
        let (b, off) := processMarketMessage env schema l.backend d c
        ({ l with backend := b }, off)
  beside := beside env

/-! ### What a turn leaves -/

section Turns
variable {iso : FromIso} {env : Env} {schema : Fields → Option Payload} {b b' : Backend} {d : Delivery}

/-- What became of an announcement that the broker has forgotten. -/
inductive Recorded (iso : FromIso) (schema : Fields → Option Payload) (b : Backend)
    (d : Delivery) : Prop where
  | discarded {e : Evidence} (kept : e ∈ b.evidence) (status : e.status = .discarded)
      (raw : e.rawPayload = some d.raw)
  | stored {payload : Fields} {p : Payload} {row : InboundMessage}
      (read : readAnnouncement iso d = .ok payload)
      (known : schema payload = some p) (kept : row ∈ b.trace.db.inbox) (own : row.payload = p)

theorem Recorded.grow (h : Recorded iso schema b d) (grows : b.Grows b') : Recorded iso schema b' d := by
  cases h with
  | discarded kept status raw => exact .discarded (grows.evidence _ kept) status raw
  | stored read known kept own => exact .stored read known (grows.inbox _ kept) own

theorem persist_noted (cfg : Config) {db : Db} {p : Payload} (event : (MarketFeed.event? p).isSome) :
    ∃ row ∈ (MarketFeed.persist cfg db p).inbox, row.payload = p := by
  obtain ⟨⟨sender,event⟩,he⟩ := Option.isSome_iff_exists.mp event
  cases hc : MarketFeed.claimed db sender p with
  | some old =>
    obtain ⟨audit,same⟩ := FeedConfluence.persist_claimed cfg he hc
    rw [same]
    exact ⟨_,List.mem_append_right _ (List.mem_singleton_self _),rfl⟩
  | none =>
    obtain ⟨audit,same⟩ := FeedConfluence.persist_fresh cfg he hc
    rw [same]
    exact ⟨_,List.mem_append_right _ (List.mem_singleton_self _),rfl⟩

theorem serves_receiveMarketFeed (env : Env) (schema : Fields → Option Payload) (payload : Fields)
    (b : Backend) :
    b.Serves (receiveMarketFeed env schema payload b).1 := by
  unfold receiveMarketFeed
  split
  · exact .refl b
  · exact ⟨grows_step ..,rfl,fun h => IdpkClaims.spent_step env h _⟩

theorem gapAt_receiveMarketFeed (env : Env) (schema : Fields → Option Payload) (payload : Fields)
    (b : Backend) (cycleId : String) :
    MarketFeed.gapAt (receiveMarketFeed env schema payload b).1.trace.db.marketCycles cycleId =
      MarketFeed.gapAt b.trace.db.marketCycles cycleId := by
  unfold receiveMarketFeed
  split
  · rfl
  · exact MarketFeed.gapAt_step env b.trace.db _ cycleId

theorem recorded_receiveMarketFeed {payload : Fields}
    (h : receiveMarketFeed env schema payload b = (b',.ok)) :
    ∃ p row, schema payload = some p ∧ row ∈ b'.trace.db.inbox ∧ row.payload = p := by
  unfold receiveMarketFeed at h
  split at h
  · cases h
  · rename_i p known
    obtain ⟨read,event⟩ := Option.filter_eq_some_iff.mp known
    cases h
    obtain ⟨row,there,own⟩ := persist_noted env.cfg event
    exact ⟨p,row,read,there,own⟩

theorem serves_noteMarketFeedGap (env : Env) (now : Instant) (b : Backend) :
    b.Serves (noteMarketFeedGap env now b).1 :=
  ⟨⟨fun _ h => h,fun _ h => h,fun _ h => h,fun _ h => h⟩,rfl,fun h => spent_processed h rfl⟩

/-- A turn leaves the gaps as they are, publishes nothing, and takes the message
off the queue only once it is recorded. -/
theorem turn_market (env : Env) (schema : Fields → Option Payload) (b : Backend) (d : Delivery)
    (c : Circumstances iso) :
    b.Serves (processMarketMessage env schema b d c).1 ∧
      ((processMarketMessage env schema b d c).2 = true →
        Recorded iso schema (processMarketMessage env schema b d c).1 d) ∧
      ∀ cycleId,
        MarketFeed.gapAt (processMarketMessage env schema b d c).1.trace.db.marketCycles cycleId =
        MarketFeed.gapAt b.trace.db.marketCycles cycleId := by
  unfold processMarketMessage
  cases read : readAnnouncement iso d with
  | error exc =>
    obtain ⟨served,kept⟩ := discard_kept d exc c b
    refine ⟨served,fun off => ?_,fun cycleId => ?_⟩
    · obtain ⟨e,there,status,raw⟩ := kept off
      exact .discarded there status raw
    · dsimp only
      rw [trace_discard]
  | ok payload =>
    dsimp only
    have served := serves_forward c.forward (serves_receiveMarketFeed env schema payload) b
    have still := forward_rel (R := fun b b' => ∀ cycleId,
        MarketFeed.gapAt b'.trace.db.marketCycles cycleId =
          MarketFeed.gapAt b.trace.db.marketCycles cycleId)
      (fun _ _ => rfl) (gapAt_receiveMarketFeed env schema payload) c.forward b
    cases same : forwardToMaster c.forward (receiveMarketFeed env schema payload) b with
    | mk b' outcome =>
      rw [same] at served still
      cases outcome with
      | ack =>
        refine ⟨served,fun _ => ?_,still⟩
        obtain ⟨p,row,known,there,own⟩ := recorded_receiveMarketFeed (forward_ack same)
        exact .stored read known there own
      | drop => exact ⟨served,Bool.noConfusion,still⟩
      | retry => exact ⟨served,Bool.noConfusion,still⟩

end Turns

/-! ### Runs -/

section Runs
variable {iso : FromIso} {env : Env} {schema : Fields → Option Payload} {l : MarketLink}

/-- The cycles of the open connection have its gap as their last one. -/
def Heeds (l : MarketLink) : Prop :=
  ∀ s ∈ l.session, ∀ cycleId ∈ s.cycles,
    MarketFeed.gapAt l.backend.trace.db.marketCycles cycleId = some s.since

/-- Whoever buys on this connection, in a cycle that was open when it was made, buys
what its vendor announced after that. -/
def Informed (cfg : Config) (l : MarketLink) : Prop :=
  ∀ s ∈ l.session, ∀ (order : Buying.Order) (now : Instant), order.cycleId ∈ s.cycles →
    (Buying.enqueueBuyBid cfg l.backend.trace.db order now).2 = .created →
      ∃ snapshot ∈ l.backend.trace.db.feed, snapshot.cycleId = order.cycleId ∧
        snapshot.offerId = order.offerId ∧ s.since < snapshot.lastEventAt

theorem informed_of_heeds (cfg : Config) (heeds : Heeds l) : Informed cfg l := by
  intro s open_ order now own created
  obtain ⟨o,w,selected⟩ := MarketFeed.select_of_created created
  obtain ⟨fed,cycle,after⟩ := MarketFeed.select_after_gap selected
  exact ⟨o.snapshot,fed,cycle,MarketFeed.select_offer selected,after s.since (heeds s open_ _ own)⟩

theorem heeds_beside (env : Env) (heeds : Heeds l) (e : MarketEvent) : Heeds (beside env l e) := by
  cases e with
  | disconnect => exact fun s none => absurd none (Option.not_mem_none s)
  | node a =>
    intro s open_ cycleId own
    exact (MarketFeed.gapAt_step env l.backend.trace.db a cycleId).trans (heeds s open_ cycleId own)
  | connect gap now =>
    unfold beside
    dsimp only
    split
    · rename_i b same
      have noted := forward_ack same
      cases noted
      intro s open_ cycleId own
      cases open_
      exact (MarketFeed.gapAt_record env.cfg _ now cycleId).trans (if_pos own)
    · exact fun s none => absurd none (Option.not_mem_none s)

theorem serves_beside (env : Env) (l : MarketLink) (e : MarketEvent) :
    l.backend.Serves (beside env l e).backend := by
  cases e with
  | disconnect => exact .refl _
  | node a => exact ⟨grows_step ..,rfl,fun h => IdpkClaims.spent_step env h a⟩
  | connect gap now =>
    have served := serves_forward gap (serves_noteMarketFeedGap env now) l.backend
    unfold beside
    dsimp only
    split <;> rename_i same <;> rw [same] at served <;> exact served

theorem serves_handle (env : Env) (schema : Fields → Option Payload) (l : MarketLink) (d : Delivery)
    (c : Circumstances iso) : l.backend.Serves ((market iso env schema).handle l d c).1.backend := by
  show l.backend.Serves (match l.session with
    | none => (l,false)
    | some _ => ({ l with backend := (processMarketMessage env schema l.backend d c).1 },
        (processMarketMessage env schema l.backend d c).2)).1.backend
  split
  · exact .refl _
  · exact (turn_market env schema l.backend d c).1

theorem heeds_handle (heeds : Heeds l) (d : Delivery) (c : Circumstances iso) :
    Heeds ((market iso env schema).handle l d c).1 := by
  show Heeds (match l.session with
    | none => (l,false)
    | some _ => ({ l with backend := (processMarketMessage env schema l.backend d c).1 },
        (processMarketMessage env schema l.backend d c).2)).1
  split
  · exact heeds
  · intro s open_ cycleId own
    exact ((turn_market env schema l.backend d c).2.2 cycleId).trans (heeds s open_ cycleId own)

theorem recorded_handle (env : Env) (schema : Fields → Option Payload) (l : MarketLink) (d : Delivery)
    (c : Circumstances iso) (off : ((market iso env schema).handle l d c).2 = true) :
    Recorded iso schema ((market iso env schema).handle l d c).1.backend d := by
  have unfolded : (market iso env schema).handle l d c = match l.session with
    | none => (l,false)
    | some _ => ({ l with backend := (processMarketMessage env schema l.backend d c).1 },
        (processMarketMessage env schema l.backend d c).2) := rfl
  rw [unfolded] at off ⊢
  cases open_ : l.session with
  | none =>
    rw [open_] at off
    cases off
  | some s =>
    rw [open_] at off
    exact (turn_market env schema l.backend d c).2.1 off

/-- A connector that has not connected yet. -/
def unconnected (db : Db) : Channel MarketLink Delivery where
  server := { backend := { trace := IdpkClaims.begun db } }

/-- Over any run of deliveries, lost calls, reconnections and actions of the node, no
announcement is lost, and no purchase rests on what may have changed in a gap. -/
theorem market_queue (iso : FromIso) (env : Env) (schema : Fields → Option Payload) (db : Db)
    (acts : List (Channel.Act Delivery (Circumstances iso) MarketEvent)) :
    Always (Channel.step (market iso env schema))
      (fun c => Channel.Kept (fun l d => Recorded iso schema l.backend d) c ∧
        Informed env.cfg c.server ∧ IdpkClaims.Spent c.server.backend.trace)
      (unconnected db) acts := by
  have settles : Channel.Settles (market iso env schema) fun l d => Recorded iso schema l.backend d :=
    { taken := fun l d c off => recorded_handle env schema l d c off
      handled := fun l d e c recorded => recorded.grow (serves_handle env schema l d c).grows
      beside := fun l d e recorded => recorded.grow (serves_beside env l e).grows }
  have nothing : Channel.Kept (fun l d => Recorded iso schema l.backend d) (unconnected db) :=
    fun d hd => absurd hd List.not_mem_nil
  have start : Heeds (unconnected db).server ∧
      IdpkClaims.Spent (unconnected db).server.backend.trace :=
    ⟨fun s none => absurd none (Option.not_mem_none s),IdpkClaims.spent_begun db⟩
  have sound : Always (Channel.step (market iso env schema))
      (fun c => (∀ d ∈ c.queue, d ∈ c.arrived) ∧
      Heeds c.server ∧ IdpkClaims.Spent c.server.backend.trace) (unconnected db) acts := by
    refine Channel.delivered_run (fun _ l => Heeds l ∧ IdpkClaims.Spent l.backend.trace)
      (fun _ _ _ h => h) (fun _ l d c _ h => ?_) (fun _ l e h => ?_)
      (fun d hd => absurd hd List.not_mem_nil) start acts
    · exact ⟨heeds_handle h.1 d c,(serves_handle env schema l d c).spent h.2⟩
    · exact ⟨heeds_beside env h.1 e,(serves_beside env l e).spent h.2⟩
  exact (Channel.never_lost settles nothing acts).and
    (sound.mono fun c h => ⟨informed_of_heeds env.cfg h.2.1,h.2.2⟩)

end Runs

end Connector

end EnergyNode
