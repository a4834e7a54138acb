import EnergyNode.Connector.DirectedQueue
import EnergyNode.SenderIdentity

/-! What other cities can do to us. Their messages reach their own bids, the state of
a negotiation and new rows; money, swaps, offers and everybody else's bids stay. -/
namespace EnergyNode
open Lib

/-- The terms of a negotiation, without its state. -/
def Negotiation.terms (n : Negotiation) : Negotiation :=
  { n with status := .proposed, deadlineAt := none, updatedAt := 0 }

/-- What a message of the users `U` leaves of the database. -/
structure Isolated (cfg : Config) (U : Option String → Prop) (db db' : Db) : Prop where
  ledger : db'.books.ledger = db.books.ledger
  trades : db'.books.trades = db.books.trades
  settlements : db'.books.settlements = db.books.settlements
  cycles : db.books.cycles.Extends db'.books.cycles
  offers : db'.market.offers = db.market.offers
  reservations : db.market.reservations.Extends db'.market.reservations
  swaps : db.market.swaps.Extends db'.market.swaps
  /-- The bids of other cities, and those we sent them. -/
  bids : ∀ k b, db.market.bids.get? k = some b → ¬U (some ("city." ++ b.counterpartCityId)) →
    db'.market.bids.get? k = some b
  negotiations : ∀ k n, db.diplomacy.negotiations.get? k = some n →
    ∃ n', db'.diplomacy.negotiations.get? k = some n' ∧ n'.terms = n.terms
  reports : db.diplomacy.reports.Extends db'.diplomacy.reports
  distances : db'.diplomacy.distances = db.diplomacy.distances
  feed : db'.feed = db.feed
  marketCycles : db'.marketCycles = db.marketCycles
  strategies : db'.strategies = db.strategies
  snapshots : db'.snapshots = db.snapshots
  /-- We write nothing but questions to the central and rejections to them. -/
  outbox : ∀ row ∈ db'.outbox,
    (∃ old ∈ db.outbox, row.msgId = old.msgId ∧ row.content = old.content ∧
      row.routingKey = old.routingKey) ∨
    (row.content.type = .bidRejected ∧ U row.routingKey) ∨
    (row.content.type = .request ∧ row.routingKey = some cfg.centralRoutingKey)

namespace Isolated
variable {cfg : Config} {U : Option String → Prop} {a b c : Db}

theorem refl (db : Db) : Isolated cfg U db db where
  ledger := rfl
  trades := rfl
  settlements := rfl
  cycles := .refl _
  offers := rfl
  reservations := .refl _
  swaps := .refl _
  bids _ _ found _ := found
  negotiations _ n found := ⟨n,found,rfl⟩
  reports := .refl _
  distances := rfl
  feed := rfl
  marketCycles := rfl
  strategies := rfl
  snapshots := rfl
  outbox row there := .inl ⟨row,there,rfl,rfl,rfl⟩

theorem trans (h : Isolated cfg U a b) (k : Isolated cfg U b c) : Isolated cfg U a c where
  ledger := k.ledger.trans h.ledger
  trades := k.trades.trans h.trades
  settlements := k.settlements.trans h.settlements
  cycles := h.cycles.trans k.cycles
  offers := k.offers.trans h.offers
  reservations := h.reservations.trans k.reservations
  swaps := h.swaps.trans k.swaps
  bids key bid found other := k.bids key bid (h.bids key bid found other) other
  negotiations key n found := by
    obtain ⟨n',there,same⟩ := h.negotiations key n found
    obtain ⟨n'',then_,same'⟩ := k.negotiations key n' there
    exact ⟨n'',then_,same'.trans same⟩
  reports := h.reports.trans k.reports
  distances := k.distances.trans h.distances
  feed := k.feed.trans h.feed
  marketCycles := k.marketCycles.trans h.marketCycles
  strategies := k.strategies.trans h.strategies
  snapshots := k.snapshots.trans h.snapshots
  outbox row there := by
    rcases k.outbox row there with ⟨old,hold,id,content,route⟩ | new
    · rcases h.outbox old hold with
        ⟨older,holder,id',content',route'⟩ | ⟨type,own⟩ | ⟨type,own⟩
      · exact .inl ⟨older,holder,id.trans id',content.trans content',route.trans route'⟩
      · exact .inr (.inl ⟨content ▸ type,route ▸ own⟩)
      · exact .inr (.inr ⟨content ▸ type,route ▸ own⟩)
    · exact .inr new

/-- Who else may speak does not matter to what stays. -/
theorem mono {V : Option String → Prop} (h : Isolated cfg U a b) (le : ∀ u, U u → V u) :
    Isolated cfg V a b :=
  { h with
    bids := fun k bid found other => h.bids k bid found fun own => other (le _ own)
    outbox := fun row there => (h.outbox row there).imp_right (Or.imp_left (And.imp_right (le _))) }

/-- The reception notes what it likes. -/
theorem noted (h : Isolated cfg U a b) (same : IdpkClaims.unnoted b = IdpkClaims.unnoted c) :
    Isolated cfg U a c := by
  have bare : Isolated cfg U a (IdpkClaims.unnoted b) := { h with }
  rw [same] at bare
  exact { bare with }

end Isolated

namespace Ingest
variable {cfg : Config} {U : Option String → Prop} {db db' : Db} {payload : Payload} {now : Instant}
  {verdict : Verdict}

/-! ### The parts -/

theorem extends_getOrCreateCycle (books : Books) (cycleId : String) :
    books.cycles.Extends (Opening.getOrCreateCycle books cycleId).cycles := by
  unfold Opening.getOrCreateCycle
  split
  · rename_i cycles inserted
    exact Table.extends_insert? inserted
  · exact .refl _

theorem isolated_cycle (db : Db) (cycleId : String) :
    Isolated cfg U db { db with books := Opening.getOrCreateCycle db.books cycleId } := by
  have frame : (Opening.getOrCreateCycle db.books cycleId).ledger = db.books.ledger ∧
      (Opening.getOrCreateCycle db.books cycleId).trades = db.books.trades ∧
      (Opening.getOrCreateCycle db.books cycleId).settlements = db.books.settlements := by
    unfold Opening.getOrCreateCycle
    split <;> exact ⟨rfl,rfl,rfl⟩
  exact { Isolated.refl db with
    ledger := frame.1
    trades := frame.2.1
    settlements := frame.2.2
    cycles := extends_getOrCreateCycle db.books cycleId }

theorem isolated_outbox {db : Db} {outbox : Outbox}
    (h : ∀ row ∈ outbox,
      (∃ old ∈ db.outbox, row.msgId = old.msgId ∧ row.content = old.content ∧
        row.routingKey = old.routingKey) ∨
      (row.content.type = .bidRejected ∧ U row.routingKey) ∨
      (row.content.type = .request ∧ row.routingKey = some cfg.centralRoutingKey)) :
    Isolated cfg U db { db with outbox := outbox } :=
  { (Isolated.refl db : Isolated cfg U db db) with outbox := h }

theorem isolated_request (db : Db) (payload : Payload) (now : Instant) :
    Isolated cfg U db (requestStatement cfg db payload now) := by
  unfold requestStatement
  split
  · exact .refl db
  rename_i cycleId _
  split
  · exact .refl db
  refine (isolated_cycle db cycleId).trans (isolated_outbox fun row there => ?_)
  split at there
  · exact .inl ⟨row,there,rfl,rfl,rfl⟩
  unfold InformationRequests.enqueue at there
  split at there
  · exact .inl ⟨row,there,rfl,rfl,rfl⟩
  rcases Outbox.mem_enqueue.mp there with old | rfl
  · exact .inl ⟨row,old,rfl,rfl,rfl⟩
  · exact .inr (.inr ⟨rfl,rfl⟩)

/-- A rejection goes to the buyer it names. -/
theorem isolated_rejection {outbox : Outbox} {r : SellerBids.Rejected}
    (h : SellerBids.enqueueBidRejected cfg db.outbox r now = .ok outbox)
    (own : U (some ("city." ++ r.buyer))) : Isolated cfg U db { db with outbox := outbox } := by
  refine isolated_outbox fun row there => ?_
  obtain ⟨target,_,⟨rfl,_⟩ | rfl⟩ := SellerBids.enqueueBidRejected_cases h
  · exact .inl ⟨row,there,rfl,rfl,rfl⟩
  · rcases Outbox.mem_enqueue.mp there with old | rfl
    · exact .inl ⟨row,old,rfl,rfl,rfl⟩
    · exact .inr (.inl ⟨rfl,own⟩)

/-- The row of a bid changes when its own city speaks. -/
theorem isolated_setBid {bid next : MarketBid} (stored : db.market.bids.get? bid.idpk = some bid)
    (key : next.idpk = bid.idpk) (own : U (some ("city." ++ bid.counterpartCityId))) :
    Isolated cfg U db { db with market := { db.market with bids := db.market.bids.set next } } :=
  { Isolated.refl db with
    bids := fun k b found other => by
      show (db.market.bids.set next).get? k = some b
      rw [Table.get?_set_ne,found]
      rintro rfl
      rw [key,stored] at found
      cases found
      exact other own }

theorem isolated_insertBid {bid : MarketBid} (free : db.market.bids.get? bid.idpk = none) :
    Isolated cfg U db { db with market := { db.market with bids := db.market.bids.insert bid free } } :=
  { Isolated.refl db with bids := fun k b found _ => Table.extends_insert _ _ free k b found }

/-! ### Bids -/

theorem isolated_reserve {idpk : String} {outcome : SellerBids.Outcome}
    (h : SellerBids.reserveIncomingBid cfg db idpk now = .ok (db',outcome))
    (own : ∀ bid, db.market.bids.get? idpk = some bid →
      U (some ("city." ++ bid.counterpartCityId))) :
    Isolated cfg U db db' := by
  obtain ⟨bid,found,⟨_,rfl⟩ | ⟨_,rejected | reserved⟩⟩ := SellerBids.reserveIncomingBid_cases h
  · exact .refl db'
  all_goals
    have stored : db.market.bids.get? bid.idpk = some bid := by
      have there := (Option.filter_eq_some_iff.mp found).1
      rw [Table.key_of_get? there]
      exact there
    have mine : U (some ("city." ++ bid.counterpartCityId)) :=
      own bid (Option.filter_eq_some_iff.mp found).1
  · obtain ⟨reason,available,_,h⟩ := rejected
    unfold SellerBids.reject at h
    obtain ⟨outbox,sent,h⟩ := Fallible.bind_ok.mp h
    cases h
    exact (isolated_rejection sent mine).trans (isolated_setBid stored rfl mine)
  · obtain ⟨offer,freeReservation,freeSwap,_,_,rfl⟩ := reserved
    have changed : Isolated cfg U db { db with market := { db.market with
        bids := db.market.bids.set (SellerBids.reservedBid bid offer.pricePerEnergy) } } :=
      isolated_setBid stored rfl mine
    exact { changed with
      reservations := Table.extends_insert _ _ freeReservation
      swaps := Table.extends_insert _ _ freeSwap }

theorem isolated_ingress {c : String} {status : InboundStatus} {reason : Option String}
    (h : SellerBids.processIncomingBid cfg db payload now = .ok (db',status,reason))
    (named : payload.cityId = some c) (own : U (some ("city." ++ c))) :
    Isolated cfg U db db' ∧ (status ≠ .notProcessed → reason = none →
      ∀ bid, db'.market.bids.get? payload.idpk = some bid → bid.counterpartCityId = c) := by
  unfold SellerBids.processIncomingBid at h
  split at h
  · cases h
    exact ⟨.refl db,fun done => absurd rfl done⟩
  rename_i data read
  have buyer : data.buyer = c := by
    obtain ⟨_,_,h⟩ := Option.bind_eq_some_iff.mp read
    obtain ⟨buyer,city,h⟩ := Option.bind_eq_some_iff.mp h
    obtain ⟨_,_,h⟩ := Option.bind_eq_some_iff.mp h
    obtain ⟨_,_,h⟩ := Option.bind_eq_some_iff.mp h
    obtain ⟨_,_,h⟩ := Option.bind_eq_some_iff.mp h
    cases h
    exact Option.some.inj (city.symm.trans named)
  dsimp only at h
  split at h
  · rename_i free
    have key : ∀ refused, (SellerBids.arrivingBid payload data refused now).idpk = payload.idpk := by
      intro refused
      unfold SellerBids.arrivingBid
      split <;> rfl
    have counterpart : ∀ refused,
        (SellerBids.arrivingBid payload data refused now).counterpartCityId = c := by
      intro refused
      unfold SellerBids.arrivingBid
      split <;> exact buyer
    have inserted : Isolated cfg U db { db with market :=
        if (SellerBids.offerOf? cfg db.market data.offerId data.cycleId).isSome then
          { db.market with bids := db.market.bids.insert _ free }
        else db.market } := by
      split
      · exact isolated_insertBid free
      · exact .refl db
    split at h
    · cases h
      refine ⟨inserted,fun _ _ bid found => ?_⟩
      dsimp only at found
      split at found
      · rw [Table.get?_insert,if_pos (key _)] at found
        cases found
        exact counterpart _
      · rw [key] at free
        rw [free] at found
        cases found
    · obtain ⟨outbox,sent,h⟩ := Fallible.bind_ok.mp h
      cases h
      refine ⟨inserted.trans (isolated_rejection sent ?_),fun _ none => by cases none⟩
      show U (some ("city." ++ data.buyer))
      rw [buyer]
      exact own
  · split at h
    · split at h
      · cases h
        exact ⟨.refl db,fun _ none => by cases none⟩
      · cases h
        exact ⟨.refl db,fun done => absurd rfl done⟩
    · cases h
      exact ⟨.refl db,fun done => absurd rfl done⟩

theorem isolated_bid {c : String} (h : bid cfg db payload now = .ok (db',verdict))
    (named : payload.cityId = some c) (own : U (some ("city." ++ c))) : Isolated cfg U db db' := by
  obtain ⟨⟨arrived,status,reason⟩,received,h⟩ := Fallible.bind_ok.mp h
  obtain ⟨isolated,mine⟩ := isolated_ingress received named own
  dsimp only at h
  split at h
  · cases h
    exact isolated
  rename_i done
  split at h
  · cases h
    exact isolated
  rename_i unreasoned
  obtain ⟨policy,_,h⟩ := Fallible.bind_ok.mp h
  split at h
  · cases h
    exact isolated
  obtain ⟨⟨reserved,outcome⟩,served,h⟩ := Fallible.bind_ok.mp h
  have reason_ : reason = none := Option.not_isSome_iff_eq_none.mp unreasoned
  have last : Isolated cfg U arrived reserved :=
    isolated_reserve served fun bid found => mine done reason_ bid found ▸ own
  dsimp only at h
  split at h <;> cases h <;> exact isolated.trans last

theorem addressed_sender {target : String} {bid : MarketBid}
    (h : BidReplies.addressed db payload target = .ok bid) :
    payload.cityId = some bid.counterpartCityId := by
  unfold BidReplies.addressed at h
  simp only [Fallible.throw_bind] at h
  split at h
  · split at h
    · split at h
      · rename_i agrees
        split at h <;> cases h
        exact agrees.2.2.1
      · cases h
    · cases h
  · cases h

theorem isolated_reply {c : String} (h : bidReply db payload now = .ok (db',verdict))
    (named : payload.cityId = some c) (own : U (some ("city." ++ c))) : Isolated cfg U db db' := by
  obtain ⟨refusal,h⟩ := bidReply_cases h
  obtain rfl | ⟨target,bid,next,found,settled,rfl⟩ := BidReplies.processBidReply_cases h
  · exact .refl db'
  have counterpart : bid.counterpartCityId = c :=
    Option.some.inj ((addressed_sender found).symm.trans named)
  have answered : Isolated cfg U db { db with market := { db.market with
      bids := db.market.bids.set next } } :=
    isolated_setBid (BidReplies.addressed_spec found).1 (BidReplies.resolved_spec settled).1
      (counterpart ▸ own)
  refine answered.trans (isolated_outbox fun row there => ?_)
  obtain ⟨old,kept,rfl⟩ := Table.mem_mapRows.mp there
  refine .inl ⟨old,kept,BidReplies.stopped_msgId .., ?_⟩
  unfold BidReplies.stopped
  split <;> exact ⟨rfl,rfl⟩

/-! ### Negotiations -/

theorem isolated_negotiations {negotiations : Table Negotiation.idpk}
    (h : ∀ k n, db.diplomacy.negotiations.get? k = some n →
      ∃ n', negotiations.get? k = some n' ∧ n'.terms = n.terms) :
    Isolated cfg U db { db with diplomacy := { db.diplomacy with negotiations := negotiations } } :=
  { Isolated.refl db with negotiations := h }

theorem isolated_store {n m : Negotiation} (stored : db.diplomacy.negotiations.get? n.idpk = some n)
    (key : m.idpk = n.idpk) (terms : m.terms = n.terms) :
    Isolated cfg U db (Negotiations.store db m) := by
  refine isolated_negotiations fun k old found => ?_
  by_cases same : k = m.idpk
  · subst same
    rw [key,stored] at found
    cases found
    exact ⟨m,Table.get?_set_self (key ▸ stored),terms⟩
  · exact ⟨old,(Table.get?_set_ne _ (Ne.symm same)).trans found,rfl⟩

theorem terms_transition {n m : Negotiation} {status : NegotiationStatus}
    (h : Negotiations.transition n status now = .ok m) : m.idpk = n.idpk ∧ m.terms = n.terms := by
  rcases Negotiations.transition_cases h with rfl | ⟨_,rfl⟩ <;> exact ⟨rfl,rfl⟩

theorem isolated_acknowledgement (h : acknowledgement db payload now = .ok (db',verdict)) :
    Isolated cfg U db db' := by
  obtain ⟨target,_,h⟩ := Fallible.bind_ok.mp h
  obtain ⟨done,acknowledged,h⟩ := Fallible.bind_ok.mp h
  cases h
  unfold Negotiations.acknowledge at acknowledged
  split at acknowledged
  · cases acknowledged
    exact .refl _
  rename_i n found
  obtain ⟨m,moved,h⟩ := Fallible.map_ok.mp acknowledged
  cases h
  obtain ⟨key,terms⟩ := terms_transition moved
  exact isolated_store (Negotiations.get?_proposalNegotiation found) key terms

theorem isolated_refusal (h : refusal db payload now = .ok (db',verdict)) :
    Isolated cfg U db db' := by
  obtain ⟨target,_,h⟩ := Fallible.bind_ok.mp h
  obtain ⟨done,refused,h⟩ := Fallible.bind_ok.mp h
  cases h
  unfold Negotiations.refuse at refused
  split at refused
  · cases refused
    exact .refl _
  rename_i n found
  obtain ⟨m,moved,h⟩ := Fallible.map_ok.mp refused
  cases h
  obtain ⟨key,terms⟩ := terms_transition moved
  have stored := Negotiations.get?_proposalNegotiation (Option.filter_eq_some_iff.mp found).1
  refine (isolated_store stored key terms).trans (isolated_outbox fun row there => ?_)
  obtain ⟨old,kept,rfl⟩ := Table.mem_mapRows.mp there
  refine .inl ⟨old,kept,Negotiations.silenced_msgId .., ?_⟩
  unfold Negotiations.silenced
  split <;> exact ⟨rfl,rfl⟩

theorem isolated_negotiationProposal (h : negotiationProposal db payload now = .ok (db',verdict)) :
    Isolated cfg U db db' := by
  unfold negotiationProposal at h
  obtain ⟨cycleId,_,h⟩ := Fallible.bind_ok.mp h
  have opened : Isolated cfg U db { db with books := Opening.getOrCreateCycle db.books cycleId } :=
    isolated_cycle db cycleId
  dsimp only at h
  split at h
  · cases h
    exact opened
  obtain ⟨direction,_,h⟩ := Fallible.bind_ok.mp h
  split at h
  · obtain ⟨quantity,_,h⟩ := Fallible.bind_ok.mp h
    obtain ⟨price,_,h⟩ := Fallible.bind_ok.mp h
    cases h
    refine opened.trans ?_
    unfold Negotiations.propose
    dsimp only
    split
    · rename_i negotiations inserted
      exact isolated_negotiations fun k n found => ⟨n,Table.extends_insert? inserted k n found,rfl⟩
    · exact .refl _
  · cases h

theorem isolated_negotiationReport (h : negotiationReport db payload now = .ok (db',verdict)) :
    Isolated cfg U db db' := by
  unfold negotiationReport at h
  simp only [Fallible.throw_bind] at h
  obtain ⟨cycleId,_,h⟩ := Fallible.bind_ok.mp h
  split at h
  · obtain ⟨_,_,h⟩ := Fallible.bind_ok.mp h
    split at h
    · cases h
      exact .refl _
    obtain ⟨_,_,h⟩ := Fallible.bind_ok.mp h
    obtain ⟨_,_,h⟩ := Fallible.bind_ok.mp h
    split at h
    · rename_i reports inserted
      split at h <;> cases h
      exact { (Isolated.refl db : Isolated cfg U db db) with reports := Table.extends_insert? inserted }
    · cases h
  · cases h

/-! ### A message of a city -/

/-- What a city of `U` may have said; in what is about a bid it is the city of the bid. -/
structure Speaks (U : Option String → Prop) (payload : Payload) : Prop where
  type : payload.type.name ∈ "ack" :: "nack" :: Connector.cityTypes
  named : payload.type.name ∈ Connector.cityTypes →
    ∃ c, payload.cityId = some c ∧ U (some ("city." ++ c))

theorem isolated_dispatch {jwt : Jwt} (speaks : Speaks U payload)
    (h : dispatch cfg jwt db payload now = .ok (db',verdict)) : Isolated cfg U db db' := by
  unfold dispatch at h
  have spoken := speaks.type
  have named := speaks.named
  cases type : payload.type with
  | ack =>
    rw [type] at h
    exact isolated_acknowledgement h
  | nack =>
    rw [type] at h
    exact isolated_refusal h
  | negotiationProposal =>
    rw [type] at h
    exact isolated_negotiationProposal h
  | negotiationReport =>
    rw [type] at h
    exact isolated_negotiationReport h
  | bid =>
    rw [type] at h named
    obtain ⟨c,named,own⟩ := named (by decide)
    exact isolated_bid h named own
  | bidAccepted | bidRejected =>
    rw [type] at h named
    obtain ⟨c,named,own⟩ := named (by decide)
    exact isolated_reply h named own
  | request | error | offer | offerUpdated | offerWithdrawn | marketClosed | unknown name =>
    rw [type] at h
    cases h
    exact .refl _
  | _ =>
    rw [type] at spoken
    exact absurd spoken (by decide)

theorem isolated_process {jwt : Jwt} (speaks : Speaks U payload)
    (h : process cfg jwt db payload now = .ok (db',verdict)) : Isolated cfg U db db' := by
  rcases process_cases h with ⟨rfl,_⟩ | ⟨claimed,served,claim,dispatched,rfl⟩
  · exact .refl db'
  have claims : Isolated cfg U db claimed := by
    unfold claim? at claim
    split at claim
    · obtain ⟨table,_,rfl⟩ := Option.map_eq_some_iff.mp claim
      exact { (Isolated.refl db : Isolated cfg U db db) with }
    · cases claim
      exact .refl db
  refine (claims.trans (isolated_request claimed payload now)).trans
    ((isolated_dispatch speaks dispatched).trans ?_)
  unfold returnClaim
  split
  · exact { (Isolated.refl served : Isolated cfg U served served) with }
  · exact .refl served

theorem isolated_ingest {jwt : Jwt} (speaks : Speaks U payload) :
    Isolated cfg U db (ingest cfg jwt db payload now).1 := by
  unfold ingest
  split
  · rename_i done verdict same
    exact { isolated_process speaks same with }
  · exact { (Isolated.refl db : Isolated cfg U db db) with }

end Ingest

namespace Connector

/-! ### The connector lets nobody else through -/

section Deliveries
variable {iso : FromIso} {S : Schemas} {st : Settings}

/-- Of those that are not the central, only a city under its own name is heard, or
an answer. -/
theorem spoken_of_forwarded {draws : Draws iso} {cityId : String} {payload : Fields}
    {user : Option String} (reached : SenderIdentity.forwarded draws cityId payload user)
    (city : user ≠ some "central") :
    ∃ type, (payload.get "type").text? = some type ∧
      type ∈ "transfer" :: "ack" :: "nack" :: cityTypes ∧
      (type ∈ cityTypes →
        ∃ c, (payload.get "cityId").text? = some c ∧ user = some ("city." ++ c)) := by
  obtain ⟨m,read,trusted,valid⟩ := SenderIdentity.forwarded_iff.mp reached
  obtain ⟨regular,known,identity⟩ := validateMessage_none.mp valid
  obtain ⟨ownCity,ownCentral⟩ := (SenderIdentity.impostor_none regular.1).mp trusted
  obtain ⟨_,asCentral,asCity,_⟩ := validateIdentity_none.mp identity
  have foreign : m.type ∉ centralTypes := fun central =>
    city (ownCentral (asCentral central).1 (asCentral central).2)
  refine ⟨m.type,(parsed read).type,?_,fun spoken => ?_⟩
  · by_cases spoken : m.type ∈ cityTypes
    · exact List.mem_cons_of_mem _ (List.mem_cons_of_mem _ (List.mem_cons_of_mem _ spoken))
    · have shared := (shared_iff m.type).mpr ⟨known,foreign,spoken⟩
      simp only [sharedTypes,List.mem_cons,List.not_mem_nil,or_false] at shared
      rcases shared with type | type | type <;> rw [type] <;> decide
  · obtain ⟨code,alone⟩ := asCity foreign spoken
    obtain ⟨c,text,_⟩ := SenderIdentity.cityCode_text code
    refine ⟨c,(parsed read).cityId ▸ text,?_⟩
    rw [ownCity code alone,text]
    rfl

theorem trace_createInboundAudit (e : Evidence) (b : Backend) :
    (createInboundAudit e b).1.trace = b.trace := by
  unfold createInboundAudit
  split <;> rfl

theorem trace_createOutboundAudit (a : Answer) (b : Backend) :
    (createOutboundAudit a b).1.trace = b.trace := by
  unfold createOutboundAudit
  split
  · rfl
  split
  · split <;> rfl
  · split <;> rfl

theorem trace_updateOutboundAudit (msgId : String) (error : Option String) (b : Backend) :
    (updateOutboundAudit msgId error b).1.trace = b.trace := by
  unfold updateOutboundAudit
  split <;> rfl

theorem trace_forward (wire : Wire) {serve : Backend → Backend × Status}
    (h : ∀ b : Backend, (serve b).1.trace = b.trace) (b : Backend) :
    (forwardToMaster wire serve b).1.trace = b.trace :=
  forward_rel (R := fun b b' => b'.trace = b.trace) (fun _ => rfl) h wire b

theorem trace_publish (route : String) (response : Fields) (how : Publication) (b : Backend) :
    (publishProtocolMessage st route response how b).1.trace = b.trace := by
  unfold publishProtocolMessage
  split
  · rfl
  · cases how <;> rfl

theorem trace_reply (route : String) (response : Fields) (c : Circumstances iso) (b : Backend) :
    (reply st route response c b).1.trace = b.trace := by
  unfold reply
  cases answerRow st route response with
  | none => rfl
  | some row =>
    dsimp only
    have registered := trace_forward c.register (trace_createOutboundAudit row) b
    generalize forwardToMaster c.register (createOutboundAudit row) b = first at registered ⊢
    obtain ⟨b₁,outcome⟩ := first
    cases outcome with
    | ack =>
      dsimp only
      have sent : (publishProtocolMessage st route response c.publication b₁).1.trace = b₁.trace :=
        trace_publish route response c.publication b₁
      generalize publishProtocolMessage st route response c.publication b₁ = second at sent ⊢
      obtain ⟨b₂,taken⟩ := second
      cases taken with
      | true =>
        dsimp only
        have told := trace_forward c.outcome (trace_updateOutboundAudit row.msgId none) b₂
        generalize forwardToMaster c.outcome (updateOutboundAudit row.msgId none) b₂ = third at told ⊢
        obtain ⟨b₃,last⟩ := third
        cases last <;> exact told.trans (sent.trans registered)
      | false =>
        exact (trace_forward c.outcome (trace_updateOutboundAudit row.msgId (some c.error)) b₂).trans
          (sent.trans registered)
    | drop | retry => exact registered

theorem trace_complete (handling : Handling) (route : Option String) (c : Circumstances iso)
    (b : Backend) : (completeSuccessfulMessage st handling route c b).1.trace = b.trace := by
  unfold completeSuccessfulMessage
  split
  · split
    · exact trace_reply ..
    · rfl
  · rfl

theorem forward_trace (wire : Wire) (serve : Backend → Backend × Status) (b : Backend) :
    (forwardToMaster wire serve b).1.trace = b.trace ∨
      (forwardToMaster wire serve b).1.trace = (serve b).1.trace := by
  unfold forwardToMaster
  cases wire with
  | broken => exact .inl rfl
  | lost => exact .inr rfl
  | answered =>
    right
    dsimp only
    split <;> rename_i same <;> rw [same]

theorem trace_served (env : Env) (handling : Handling) (route : Option String) (payload : Fields)
    (c : Circumstances iso) (b : Backend) :
    let served := match forwardToMaster c.forward (post env S payload c) b with
      | (b, .ack) => completeSuccessfulMessage st handling route c b
      | (b, .drop) => (b, c.settled)
      | (b, .retry) => (b, false)
    served.1.trace = b.trace ∨ served.1.trace = (post env S payload c b).1.trace := by
  have posted := forward_trace c.forward (post env S payload c) b
  generalize forwardToMaster c.forward (post env S payload c) b = answer at posted ⊢
  obtain ⟨b',outcome⟩ := answer
  cases outcome with
  | ack =>
    dsimp only
    rw [trace_complete]
    exact posted
  | drop | retry => exact posted

/-- What a delivery does to the master's books is done by its message, which reached
the master, if it did. -/
theorem trace_consume (env : Env) (b : Backend) (d : Delivery) (c : Circumstances iso) :
    (consume env S st b d c).1.trace = b.trace ∨
      ∃ payload, decodeIncomingPayload d = .ok payload ∧
        SenderIdentity.forwarded c.draws st.cityId payload d.user ∧
        (consume env S st b d c).1.trace = (post env S payload c b).1.trace := by
  unfold consume
  cases read : decodeIncomingPayload d with
  | error exc =>
    left
    have kept := trace_forward c.audit (trace_createInboundAudit (buildDiscardAuditPayload d exc)) b
    dsimp only
    split <;> rename_i same <;> rw [same] at kept <;> exact kept
  | ok payload =>
    dsimp only
    have reached (served : (planProtocolResponse c.draws st.cityId payload d.user).action ∈
        [Action.ack,Action.ignore]) :
        SenderIdentity.forwarded c.draws st.cityId payload d.user = true := by
      unfold SenderIdentity.forwarded
      exact decide_eq_true served
    have plan := planned c.draws st.cityId payload d.user
    generalize planProtocolResponse c.draws st.cityId payload d.user = handling at plan reached ⊢
    generalize sender : authenticatedInboundRoute st d.user = route
    cases plan with
    | discard action =>
      rw [action]
      exact .inl (trace_discard ..)
    | ignore action answer =>
      rw [action] at reached ⊢
      exact (trace_served env handling route payload c b).imp_right
        fun changed => ⟨payload,rfl,reached (by decide),changed⟩
    | ack action prepared worded =>
      rw [action] at reached ⊢
      cases route with
      | none => exact .inl (trace_discard ..)
      | some key =>
        exact (trace_served env handling (some key) payload c b).imp_right
          fun changed => ⟨payload,rfl,reached (by decide),changed⟩
    | @nack response action prepared worded =>
      rw [action,prepared]
      left
      cases route with
      | none => exact trace_discard ..
      | some key =>
        have kept := trace_forward c.audit
          (trace_createInboundAudit (buildNackAuditPayload payload response d.user)) b
        dsimp only
        split <;> rename_i same <;> rw [same] at kept
        · exact (trace_reply ..).trans kept
        · exact kept
        · exact kept

/-- The request model of the master keeps the type and the city that the fields name. -/
def Reads (S : Schemas) : Prop :=
  ∀ fields p, S.message fields = some p →
    (fields.get "type").text? = some p.type.name ∧ p.cityId = (fields.get "cityId").text?

/-- A delivery of another city that is no transfer. -/
structure Foreign (d : Delivery) : Prop where
  city : d.user ≠ some "central"
  payment : ∀ payload, decodeIncomingPayload d = .ok payload →
    (payload.get "type").text? ≠ some "transfer"

theorem isolated_consume (env : Env) (reads : Reads S) {d : Delivery} (foreign : Foreign d)
    (b : Backend) (c : Circumstances iso) :
    Isolated env.cfg (· = d.user) b.trace.db (consume env S st b d c).1.trace.db := by
  rcases trace_consume env b d c with same | ⟨payload,read,reached,same⟩ <;> rw [same]
  · exact .refl _
  obtain ⟨type,text,spoken,named⟩ := spoken_of_forwarded reached foreign.city
  have unpaid : type ∈ "ack" :: "nack" :: cityTypes :=
    (List.mem_cons.mp spoken).resolve_left fun paid => foreign.payment payload read (paid ▸ text)
  have kind : isError payload = false := by
    unfold isError
    rw [text]
    refine decide_eq_false fun raised => ?_
    cases raised
    exact absurd unpaid (by decide)
  unfold post postMessage
  rw [kind,if_neg Bool.false_ne_true]
  cases read : S.message payload with
  | none => exact .refl _
  | some p =>
    obtain ⟨own,city⟩ := reads payload p read
    have type_ : p.type.name = type := Option.some.inj (own.symm.trans text)
    refine Ingest.isolated_ingest ⟨type_ ▸ unpaid,fun spoken => ?_⟩
    obtain ⟨name,said,user⟩ := named (type_ ▸ spoken)
    exact ⟨name,city.trans said,user.symm⟩

end Deliveries

/-! ### Runs -/

section Runs
variable {iso : FromIso}

/-- Only other cities write, and the queue delivers as it likes. -/
def Outside : Channel.Act Delivery (Circumstances iso) Node.Action → Prop
  | .arrive d => Foreign d
  | .deliver _ _ => True
  | .beside _ => False

theorem isolated_step {S : Schemas} {st : Settings} (env : Env) (reads : Reads S)
    {c : Channel Backend Delivery} {place : Nat} {how : Circumstances iso} {d : Delivery}
    (at_ : c.queue[place]? = some d) (foreign : Foreign d) :
    Isolated env.cfg (· = d.user) c.server.trace.db
      (Channel.step (directed env S st) c (.deliver place how)).server.trace.db := by
  unfold Channel.step
  dsimp only
  rw [at_]
  exact isolated_consume env reads foreign c.server how

/-- In any run, a delivery of another city leaves our money, swaps, offers and the
bids of everybody else as they were, and makes us write to it and to the central at
most; and so do any number of them, in any order, however often they come again. -/
theorem cities_isolated (env : Env) (S : Schemas) (st : Settings) (iso : FromIso) (reads : Reads S)
    (db : Db) (acts : List (Channel.Act Delivery (Circumstances iso) Node.Action)) :
    Along (Channel.step (directed env S st))
        (fun c a => ∀ place how d, a = .deliver place how → c.queue[place]? = some d →
          Foreign d → Isolated env.cfg (· = d.user) c.server.trace.db
            (Channel.step (directed env S st) c a).server.trace.db) (fresh db) acts ∧
      ((∀ a ∈ acts, Outside a) →
        Always (Channel.step (directed env S st))
          (fun c => Isolated env.cfg (fun user => ∃ d ∈ c.arrived, user = d.user) db
            c.server.trace.db) (fresh db) acts) := by
  constructor
  · refine (along_true _ acts).mono fun c a _ place how d same at_ foreign => ?_
    rw [same]
    exact isolated_step env reads at_ foreign
  intro outside
  refine (always_of_step (Q := fun c : Channel Backend Delivery =>
      (∀ d ∈ c.queue, d ∈ c.arrived) ∧ (∀ d ∈ c.arrived, Foreign d) ∧
      Isolated env.cfg (fun user => ∃ d ∈ c.arrived, user = d.user) db c.server.trace.db)
    (fun c a inv own => ?_) ?_ (along_of_mem outside)).mono fun c h => h.2.2
  swap
  · exact ⟨fun d hd => absurd hd List.not_mem_nil,fun d hd => absurd hd List.not_mem_nil,.refl db⟩
  obtain ⟨waiting,foreign,isolated⟩ := inv
  cases a with
  | arrive d =>
    refine ⟨fun e he => ?_,fun e he => ?_,isolated.mono ?_⟩
    · rcases List.mem_append.mp he with old | new
      · exact List.mem_append_left _ (waiting e old)
      · exact List.mem_append_right _ new
    · rcases List.mem_append.mp he with old | new
      · exact foreign e old
      · rw [List.mem_singleton.mp new]
        exact own
    · rintro user ⟨e,there,same⟩
      exact ⟨e,List.mem_append_left _ there,same⟩
  | deliver place how =>
    cases at_ : c.queue[place]? with
    | none =>
      unfold Channel.step
      dsimp only
      rw [at_]
      exact ⟨waiting,foreign,isolated⟩
    | some d =>
      have there := waiting d (List.mem_of_getElem? at_)
      have served : Isolated env.cfg (· = d.user) c.server.trace.db
          (Channel.step (directed env S st) c (.deliver place how)).server.trace.db :=
        isolated_step env reads at_ (foreign d there)
      have arrived : (Channel.step (directed env S st) c (.deliver place how)).arrived = c.arrived := by
        unfold Channel.step
        dsimp only
        rw [at_]
      have queue : ∀ e ∈
          (Channel.step (directed env S st) c (.deliver place how)).queue, e ∈ c.queue := by
        unfold Channel.step
        dsimp only
        rw [at_]
        intro e he
        dsimp only at he
        split at he
        · exact List.mem_of_mem_eraseIdx he
        · exact he
      rw [arrived]
      refine ⟨fun e he => waiting e (queue e he),foreign,isolated.trans (served.mono ?_)⟩
      rintro user rfl
      exact ⟨d,there,rfl⟩
  | beside what => exact own.elim

/-- A bid of BBB, and how the master reads it. -/
def bidOfB : Payload := Node.bidMessage "60000000-0000-0000-0000-000000000005"
  "60000000-0000-0000-0000-000000000006" "C1" "BBB" "AAA-C1" 10

def readsBids : Schemas where
  message fields :=
    if (fields.get "type").text? = some "bid" ∧ (fields.get "cityId").text? = some "BBB" then
      some bidOfB
    else none
  error _ := none

def bidDelivery : Delivery := ⟨"",some (.obj (ResponderProtocol.bidOf "C1" 10)),some "city.BBB"⟩

theorem foreign_bidDelivery : Foreign bidDelivery where
  city := by decide
  payment payload read := by
    unfold decodeIncomingPayload bidDelivery at read
    dsimp only at read
    split at read
    · cases read
    split at read <;> cases read
    decide

/-- A bid delivered twice concerns BBB alone. -/
theorem bid_isolated :
    let ended := run
      (Channel.step (directed Node.seller readsBids ⟨"AAA",ResponderProtocol.deployed⟩))
      (fresh (Node.opened "C1"))
      [.arrive bidDelivery,.deliver 0 { draws := SenderIdentity.drawn, forward := .lost },
        .deliver 0 { draws := SenderIdentity.drawn }]
    ended.server.trace.applied = [bidOfB.idpk] ∧
      Isolated Node.seller.cfg (fun user => ∃ d ∈ ended.arrived, user = d.user) (Node.opened "C1")
        ended.server.trace.db := by
  have reads : Reads readsBids := by
    intro fields p read
    obtain ⟨⟨type,city⟩,same⟩ := Option.ite_none_right_eq_some.mp read
    cases same
    exact ⟨type,city.symm⟩
  refine ⟨by decide +kernel,?_⟩
  refine Always.final ((cities_isolated Node.seller readsBids ⟨"AAA",ResponderProtocol.deployed⟩
    Moment.ofText reads (Node.opened "C1") _).2 fun a ha => ?_)
  simp only [List.mem_cons,List.not_mem_nil,or_false] at ha
  rcases ha with rfl | rfl | rfl
  · exact foreign_bidDelivery
  · trivial
  · trivial

end Runs

end Connector

end EnergyNode
