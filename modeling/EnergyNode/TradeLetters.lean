import EnergyNode.AgreedTrades
import EnergyNode.Letters

/-! What stands behind the letters of trade. A bid we send asks what our bid asks; an
acceptance quotes the price frozen in the bid it accepts, and goes to its city. -/
namespace EnergyNode
open Lib

namespace TradeLetters
open AgreedTrades SellerBids

variable {cfg : Config} {P : Market → Cause → Prop} {d d' : Desk} {db db' : Db} {payload : Payload}
  {now : Instant}

/-! ### The bids of other cities -/

/-- The same bid later: its message stays and, once it was taken, its price. -/
structure Stays (b c : MarketBid) : Prop where
  terms : c.terms = b.terms
  direction : c.direction = b.direction
  msgId : c.msgId = b.msgId
  price : b.status ≠ .pending →
    c.status ≠ .pending ∧ c.acceptedPricePerEnergy = b.acceptedPricePerEnergy

theorem Stays.refl (b : MarketBid) : Stays b b := ⟨rfl,rfl,rfl,fun taken => ⟨taken,rfl⟩⟩

theorem Stays.trans {b c e : MarketBid} (h : Stays b c) (k : Stays c e) : Stays b e where
  terms := k.terms.trans h.terms
  direction := k.direction.trans h.direction
  msgId := k.msgId.trans h.msgId
  price taken := by
    obtain ⟨still,same⟩ := h.price taken
    obtain ⟨still,same'⟩ := k.price still
    exact ⟨still,same'.trans same⟩

theorem stays_closed {b : MarketBid} (incoming : b.direction = .incoming) : Stays b b.closed where
  terms := b.closed_same.terms
  direction := b.closed_direction
  msgId := b.closed_same.msgId (b.closed_direction.trans incoming)
  price taken := by
    refine ⟨(b.closed_same.answered taken).2,?_⟩
    unfold MarketBid.closed
    split <;> rfl

theorem stays_deal {m : Market} {Q : Cause → Prop} {k : String} {d e : Deal}
    (move : DealMove m Q k d e) {b : MarketBid} (hb : d.bid = some b)
    (incoming : b.direction = .incoming) : ∃ c, e.bid = some c ∧ Stays b c := by
  cases move with
  | still | taken | event | revised | kept | claimed | refused => exact ⟨b,hb,.refl b⟩
  | arrived => cases hb
  | rejected _ c same pending =>
    cases hb
    have direction := same.direction.trans incoming
    exact ⟨c,rfl,same.terms,same.direction,same.msgId direction,fun taken => absurd pending taken⟩
  | own _ c same outgoing =>
    cases hb
    rw [same.direction,incoming] at outgoing
    cases outgoing
  | closed =>
    cases hb
    exact ⟨_,rfl,stays_closed incoming⟩
  | reserved _ _ _ _ _ pending =>
    cases hb
    exact ⟨_,rfl,rfl,rfl,rfl,fun taken => absurd pending taken⟩
  | answered =>
    cases hb
    exact ⟨_,rfl,rfl,rfl,rfl,fun _ => ⟨BidStatus.noConfusion,rfl⟩⟩
  | @expired own _ _ _ _ _ _ _ _ _ _ _ _ closes =>
    have here : own = some b := hb
    rcases closes with ⟨same,_⟩ | same
    · exact ⟨b,same.trans here,.refl b⟩
    · refine ⟨b.closed,?_,stays_closed incoming⟩
      dsimp only
      rw [same,here,Option.map_some]

theorem stays_moves (moves : Moves cfg P d d') {k : String} {b : MarketBid}
    (hb : d.market.bids.get? k = some b) (incoming : b.direction = .incoming) :
    ∃ c, d'.market.bids.get? k = some c ∧ Stays b c := by
  induction moves with
  | refl => exact ⟨b,hb,.refl b⟩
  | tail _ move ih =>
    obtain ⟨c,hc,stays⟩ := ih
    obtain ⟨e,he,next⟩ := stays_deal (Market.deal_move move k) hc (stays.direction.trans incoming)
    exact ⟨e,he,stays.trans next⟩

/-- A bid of another city's was there, or its arrival caused a move. -/
theorem arrival_moves (moves : Moves cfg P d d') {k : String} {c : MarketBid}
    (free : d.market.bids.get? k = none) (hc : d'.market.bids.get? k = some c)
    (incoming : c.direction = .incoming) : ∃ m msgId, P m (.bid k msgId) := by
  induction moves generalizing c with
  | refl => cases free.symm.trans hc
  | @tail mid _ before move ih =>
    cases hm : mid.market.bids.get? k with
    | some b =>
      obtain ⟨e,he,_,direction⟩ := bid_moves (.single move) hm
      cases he.symm.trans hc
      exact ih hm (direction.symm.trans incoming)
    | none =>
      have deal := Market.deal_move move k
      generalize hd : mid.market.deal k = deal₁ at deal
      generalize he : Market.deal _ k = deal₂ at deal
      have none_ : deal₁.bid = none := hd ▸ hm
      have some_ : deal₂.bid = some c := he ▸ hc
      cases deal with
      | arrived b _ origin =>
        cases some_
        rcases origin with outgoing | ⟨_,cause,_⟩
        · rw [incoming] at outgoing
          cases outgoing
        · exact ⟨_,_,cause⟩
      | still | taken | event | revised | kept | claimed | refused =>
        cases none_.symm.trans some_
      | rejected | own | closed | reserved | answered => cases none_
      | @expired own _ _ _ _ _ _ _ _ _ _ _ _ closes =>
        have free : own = none := none_
        rcases closes with ⟨same,_⟩ | same
        · cases (same.symm.trans some_).symm.trans free
        · rw [free,Option.map_none] at same
          cases same.symm.trans some_

/-- The bid is what a message asks for. -/
structure AskedBy (payload : Payload) (k : String) (c : MarketBid) : Prop where
  type : payload.type = .bid
  idpk : payload.idpk = k
  msgId : c.msgId = payload.msgId
  data : ∃ data, bidData? payload = some data ∧
    c.terms = (data.cycleId,data.offerId,data.buyer,data.quantity)

theorem AskedBy.stays {k : String} {b c : MarketBid} (h : AskedBy payload k b) (stays : Stays b c) :
    AskedBy payload k c where
  type := h.type
  idpk := h.idpk
  msgId := stays.msgId.trans h.msgId
  data := by
    obtain ⟨data,read,terms⟩ := h.data
    exact ⟨data,read,stays.terms.trans terms⟩

theorem arrivingBid_asked {data : BidData} (refused : Option (RejectionReason × Option Int))
    (now : Instant) (type : payload.type = .bid) (read : bidData? payload = some data) :
    AskedBy payload payload.idpk (arrivingBid payload data refused now) := by
  cases refused with
  | none => exact ⟨type,rfl,rfl,data,read,rfl⟩
  | some reason => exact ⟨type,rfl,rfl,data,read,rfl⟩

theorem asked_processIncomingBid {status : InboundStatus} {reason : Option String}
    (type : payload.type = .bid)
    (h : processIncomingBid cfg db payload now = .ok (db',status,reason)) {k : String}
    {c : MarketBid} (free : db.market.bids.get? k = none) (hc : db'.market.bids.get? k = some c) :
    AskedBy payload k c := by
  have inserted (data : BidData) (read : bidData? payload = some data)
      (refused : Option (RejectionReason × Option Int)) (known : Bool)
      (fresh : db.market.bids.get? (arrivingBid payload data refused now).idpk = none)
      (hc : (if known then { db.market with
        bids := db.market.bids.insert (arrivingBid payload data refused now) fresh }
        else db.market).bids.get? k = some c) : AskedBy payload k c := by
    split at hc
    · rw [Table.get?_insert] at hc
      split at hc
      · rename_i own
        cases hc
        have asked := arrivingBid_asked refused now type read
        have key : (arrivingBid payload data refused now).idpk = payload.idpk := by
          cases refused <;> rfl
        exact (key.symm.trans own) ▸ asked
      · cases free.symm.trans hc
    · cases free.symm.trans hc
  unfold processIncomingBid at h
  split at h
  · cases h
    cases free.symm.trans hc
  rename_i data read
  dsimp only at h
  split at h
  · rename_i fresh
    split at h
    · cases h
      exact inserted data read _ _ fresh hc
    · obtain ⟨outbox,_,h⟩ := Fallible.bind_ok.mp h
      cases h
      exact inserted data read _ _ fresh hc
  · split at h
    · split at h <;> cases h <;> cases free.symm.trans hc
    · cases h
      cases free.symm.trans hc

theorem asked_bid {verdict : Ingest.Verdict} (type : payload.type = .bid)
    (h : Ingest.bid cfg db payload now = .ok (db',verdict)) {k : String} {c : MarketBid}
    (free : db.market.bids.get? k = none) (hc : db'.market.bids.get? k = some c)
    (incoming : c.direction = .incoming) : AskedBy payload k c := by
  unfold Ingest.bid at h
  obtain ⟨⟨db₁,status,reason⟩,first,h⟩ := Fallible.bind_ok.mp h
  dsimp only at h
  split at h
  · cases h
    exact asked_processIncomingBid type first free hc
  split at h
  · cases h
    exact asked_processIncomingBid type first free hc
  obtain ⟨policy,_,h⟩ := Fallible.bind_ok.mp h
  split at h
  · cases h
    exact asked_processIncomingBid type first free hc
  obtain ⟨⟨db₂,outcome⟩,reserved,h⟩ := Fallible.bind_ok.mp h
  have moves : Moves cfg (fun _ _ => False) db₁.desk db₂.desk := reserveIncomingBid_moves reserved
  have later (hc : db₂.market.bids.get? k = some c) : AskedBy payload k c := by
    cases hb : db₁.market.bids.get? k with
    | none =>
      obtain ⟨_,_,absurd⟩ := arrival_moves moves hb hc incoming
      exact absurd.elim
    | some b =>
      obtain ⟨e,he,_,direction⟩ := bid_moves moves hb
      cases he.symm.trans hc
      obtain ⟨e,he,stays⟩ := stays_moves moves hb (direction.symm.trans incoming)
      cases he.symm.trans hc
      exact (asked_processIncomingBid type first free hb).stays stays
  dsimp only at h
  split at h <;> cases h <;> exact later hc

theorem asked_ingest (cfg : Config) (jwt : Jwt) {k : String} {c : MarketBid}
    (type : payload.type = .bid) (free : db.market.bids.get? k = none)
    (hc : (Ingest.ingest cfg jwt db payload now).1.market.bids.get? k = some c)
    (incoming : c.direction = .incoming) : AskedBy payload k c := by
  unfold Ingest.ingest at hc
  cases processed : Ingest.process cfg jwt db payload now with
  | error fault =>
    rw [processed] at hc
    cases free.symm.trans hc
  | ok done =>
    obtain ⟨after,verdict⟩ := done
    rw [processed] at hc
    obtain ⟨rfl,_⟩ | ⟨claimed,served,claim,dispatched,rfl⟩ := Ingest.process_cases processed
    · cases free.symm.trans hc
    have opened : (Ingest.requestStatement cfg claimed payload now).desk = db.desk :=
      (congrArg Prod.fst (Ingest.front_requestStatement ..)).trans (Ingest.desk_claim? claim)
    have returned := Ingest.desk_returnClaim served payload verdict
    unfold Ingest.dispatch at dispatched
    rw [type] at dispatched
    refine asked_bid type dispatched ?_ ?_ incoming
    · rw [show (Ingest.requestStatement cfg claimed payload now).market = db.market from
        congrArg Desk.market opened]
      exact free
    · have stored : (Ingest.returnClaim served payload verdict).market.bids.get? k = some c := hc
      rwa [show (Ingest.returnClaim served payload verdict).market = served.market from
        congrArg Desk.market returned] at stored

theorem bid_cause {a : Node.Action} {k msgId : String} (h : .bid k msgId ∈ Node.causes db a) :
    ∃ payload now, a = .ingest payload now ∧ payload.type = .bid := by
  rcases Node.mem_causes h with ⟨payload,now,rfl,brought⟩ | ⟨_,_,_,_,h⟩ | h | h
  · refine ⟨payload,now,rfl,?_⟩
    unfold Ingest.brought at brought
    split at brought
    · split at brought <;> simp at brought
    · split at brought
      · assumption
      · cases brought
  · cases h
  · cases h
  · cases h

/-- A bid of another city's was there, or the message of the step asks for it. -/
theorem incoming_step (env : Env) (db : Db) (a : Node.Action) {k : String} {c : MarketBid}
    (hc : (Node.step env db a).market.bids.get? k = some c) (incoming : c.direction = .incoming) :
    (∃ b, db.market.bids.get? k = some b ∧ b.direction = .incoming ∧ Stays b c) ∨
      ∃ payload now, a = .ingest payload now ∧ AskedBy payload k c := by
  have moves := Node.step_moves env db a
  cases hb : db.market.bids.get? k with
  | some b =>
    obtain ⟨e,he,_,direction⟩ := bid_moves moves hb
    cases he.symm.trans hc
    have incoming := direction.symm.trans incoming
    obtain ⟨e,he,stays⟩ := stays_moves moves hb incoming
    cases he.symm.trans hc
    exact .inl ⟨b,rfl,incoming,stays⟩
  | none =>
    obtain ⟨_,_,cause⟩ := arrival_moves moves hb hc incoming
    obtain ⟨payload,now,rfl,type⟩ := bid_cause cause.1
    exact .inr ⟨payload,now,rfl,asked_ingest env.cfg env.jwt type hb hc incoming⟩

/-! ### The letters -/

theorem Answers.moves {l : Letter} (h : l.Answers d.market) (moves : Moves cfg P d d') :
    l.Answers d'.market := by
  obtain ⟨b,price,amount,swapId,token,expiresAt,hb,incoming,taken,frozen,content,route⟩ := h
  obtain ⟨c,hc,stays⟩ := stays_moves moves hb incoming
  obtain ⟨taken,same⟩ := stays.price taken
  have terms := stays.terms
  simp only [MarketBid.terms,Prod.mk.injEq] at terms
  obtain ⟨_,offer,city,quantity⟩ := terms
  refine ⟨c,price,amount,swapId,token,expiresAt,Table.key_of_get? hc ▸ hc,
    stays.direction.trans incoming,taken,same.trans frozen,?_,?_⟩
  · rw [content,stays.msgId,offer,quantity]
  · rw [route,city]

theorem Asks.moves {l : Letter} (h : l.Asks d.market) (moves : Moves cfg P d d') :
    l.Asks d'.market := by
  obtain ⟨b,hb,outgoing,content,cycle,route⟩ := h
  obtain ⟨c,hc,terms,direction⟩ := bid_moves moves hb
  simp only [MarketBid.terms,Prod.mk.injEq] at terms
  obtain ⟨cycleId,offer,city,quantity⟩ := terms
  refine ⟨c,hc,direction.trans outgoing,?_,?_,?_⟩
  · rw [content,offer,quantity]
  · rw [cycle,cycleId]
  · rw [route,city]

/-- The letter is no trade, or the market backs it. -/
def Backed (m : Market) (l : Letter) : Prop := l.Plain ∨ l.Answers m ∨ l.Asks m

theorem Backed.moves {l : Letter} (h : Backed d.market l) (moves : Moves cfg P d d') :
    Backed d'.market l :=
  h.imp_right (Or.imp (fun answers => Answers.moves answers moves)
    fun asks => Asks.moves asks moves)

def AllBacked (db : Db) : Prop := ∀ l ∈ db.outbox.letters, Backed db.market l

theorem plain_trade {content : Content} (h : content.type = .bid ∨ content.type = .bidAccepted) :
    content.plain = false := by
  cases content <;> first | rfl | (rcases h with h | h <;> cases h)

theorem backed_bid {m : Market} {l : Letter} (h : Backed m l) (type : l.content.type = .bid) :
    l.Asks m := by
  rcases h with plain | ⟨_,_,_,_,_,_,_,_,_,_,content,_⟩ | asks
  · rw [Letter.Plain,plain_trade (.inl type)] at plain
    cases plain
  · rw [content] at type
    cases type
  · exact asks

theorem backed_answer {m : Market} {l : Letter} (h : Backed m l)
    (type : l.content.type = .bidAccepted) : l.Answers m := by
  rcases h with plain | answers | ⟨_,_,_,content,_⟩
  · rw [Letter.Plain,plain_trade (.inr type)] at plain
    cases plain
  · exact answers
  · rw [content] at type
    cases type

theorem listed_of_letters {outbox : Outbox} {rows : List OutboundMessage}
    (h : ∀ row ∈ rows, row.letter ∈ outbox.letters) : Buying.Listed outbox rows := by
  intro row hrow
  obtain ⟨stored,there,same⟩ := Outbox.mem_letters.mp (h row hrow)
  have key : stored.msgId = row.msgId := congrArg Letter.msgId same
  refine ⟨stored,key ▸ Table.get?_of_mem there,?_⟩
  show (⟨stored.msgId,stored.idpk,stored.content,stored.targetMsgId,stored.cycleId⟩ : Talk) = _
  rw [key,show stored.idpk = row.idpk from congrArg Letter.idpk same,
    show stored.content = row.content from congrArg Letter.content same,
    show stored.targetMsgId = row.targetMsgId from congrArg Letter.targetMsgId same,
    show stored.cycleId = row.cycleId from congrArg Letter.cycleId same]
  rfl

theorem type_of_renewable {row : OutboundMessage} (h : Buying.renewable row) :
    row.content.type = .bid := by
  unfold Buying.renewable at h
  simp only [Bool.and_eq_true,decide_eq_true_eq] at h
  exact h.1.1

/-- The renewals, one after another. -/
theorem asking_renewals (rows : List OutboundMessage) (bids : ∀ row ∈ rows, Buying.renewable row)
    (sent : ∀ row ∈ rows, row.letter ∈ db.outbox.letters)
    (asks : ∀ row ∈ rows, row.letter.Asks db.market) :
    Asking db (rows.foldl (Buying.renewOne cfg now) db) ∧
      Moves cfg P db.desk (rows.foldl (Buying.renewOne cfg now) db).desk := by
  induction rows generalizing db with
  | nil => exact ⟨.refl _,.refl⟩
  | cons row rows ih =>
    have here : row ∈ row :: rows := List.mem_cons_self
    have first : Asking db (Buying.renewOne cfg now db row) :=
      Buying.asking_renewOne (sent row here) (asks row here)
    have moves : Moves cfg P db.desk (Buying.renewOne cfg now db row).desk :=
      (Buying.renewOne_moves (bids row here) (listed_of_letters sent)).1
    obtain ⟨rest,later⟩ := ih (fun r hr => bids r (List.mem_cons_of_mem _ hr))
      (fun r hr => first.kept.subset (sent r (List.mem_cons_of_mem _ hr)))
      (fun r hr => Asks.moves (asks r (List.mem_cons_of_mem _ hr)) moves)
    exact ⟨(first.mono fun _ asks => Asks.moves asks later).trans rest,moves.trans later⟩

theorem asking_renewFailed (cfg : Config) (now : Instant) (h : AllBacked db) :
    Asking db (Buying.renewFailed cfg db now) := by
  have listed (row : OutboundMessage) (hrow : row ∈ db.outbox.rows.filter Buying.renewable) :
      row.letter ∈ db.outbox.letters ∧ row.letter.Asks db.market := by
    obtain ⟨there,renews⟩ := List.mem_filter.mp hrow
    have sent := Outbox.mem_letters.mpr ⟨row,there,rfl⟩
    exact ⟨sent,backed_bid (h _ sent) (type_of_renewable renews)⟩
  exact (asking_renewals (P := fun _ _ => True) _ (fun row hrow => (List.mem_filter.mp hrow).2)
    (fun row hrow => (listed row hrow).1) fun row hrow => (listed row hrow).2).1

/-- Every action adds letters that the market it leaves backs. -/
theorem adds_step (env : Env) (a : Node.Action) (h : AllBacked db) :
    db.outbox.Adds (Backed (Node.step env db a).market) (Node.step env db a).outbox := by
  cases silent : Node.sendsBids a with
  | false => exact (answering_step env db a silent).mono fun _ kind => kind.imp_right .inl
  | true =>
    cases a with
    | buy order now =>
      exact (Buying.asking_enqueueBuyBid db order now).mono fun _ asks => .inr (.inr asks)
    | renewBids now => exact (asking_renewFailed env.cfg now h).mono fun _ asks => .inr (.inr asks)
    | _ => cases silent

theorem backed_step (env : Env) (a : Node.Action) (h : AllBacked db) :
    AllBacked (Node.step env db a) := by
  intro l hl
  rcases (adds_step env a h).mem hl with old | backed
  · exact (h l old).moves (Node.step_moves env db a)
  · exact backed

/-- Every letter of a run stays, word for word, and every letter of trade in it is
backed by its bid whenever one looks. -/
theorem letters_backed (env : Env) (start : Db) (silent : start.outbox.rows = [])
    (run : List Node.Action) :
    Along (Node.step env)
        (fun db a => db.outbox.letters <+: (Node.step env db a).outbox.letters) start run ∧
      Always (Node.step env) AllBacked start run := by
  have blank : AllBacked start := by
    intro l hl
    rw [Outbox.letters,silent] at hl
    cases hl
  have backed : Always (Node.step env) AllBacked start run :=
    always_of_step (P := fun _ _ => True) (fun _ a h _ => backed_step env a h) blank
      (along_true start run)
  exact ⟨along_of_always (fun _ a h _ => (adds_step env a h).kept) backed,backed⟩

theorem sale_backed :
    (∃ l ∈ (Lib.run (Node.step BidAcceptance.vendor) (Node.opened "C1")
      BidAcceptance.sale).outbox.letters, l.content = BidAcceptance.answer) ∧
    Along (Node.step BidAcceptance.vendor)
        (fun db a => db.outbox.letters <+: (Node.step BidAcceptance.vendor db a).outbox.letters)
        (Node.opened "C1") BidAcceptance.sale ∧
      Always (Node.step BidAcceptance.vendor) AllBacked (Node.opened "C1") BidAcceptance.sale :=
  ⟨by decide +kernel,
    letters_backed BidAcceptance.vendor (Node.opened "C1") rfl BidAcceptance.sale⟩

end TradeLetters

end EnergyNode
