import EnergyNode.Lib.Parties
import EnergyNode.TradeLetters

/-! Any number of cities that trade. Where the network carries in a city's name only
what that city wrote, the two ledgers of a trade agree: what one side sells for, the
other pays, and nothing is made or lost between them. -/
namespace EnergyNode
open Lib

namespace CityLedgers
open AgreedTrades TradeLetters SwapEntries BidAcceptance

variable {ι : Type}

abbrev World (ι : Type) := ι → Db

/-- The `data` of a letter of trade on the wire. -/
def wire (float : ℚ → ℚ) (iso : Instant → String) : Content → Fields
  | .bid offerId quantity => [("offerId",.str offerId),("quantity",.int quantity)]
  | content => wireData float iso content

/-- A price that the wire keeps. -/
def Priced : Content → Prop
  | .bidAccepted _ _ _ pricePerEnergy _ _ _ _ => Significant 15 pricePerEnergy
  | _ => True

/-- The payload is this letter, sent to that city. -/
structure Carries (float : ℚ → ℚ) (iso : Instant → String) (receiver : Config) (l : Letter)
    (p : Payload) : Prop where
  route : l.routingKey = some ("city." ++ receiver.cityId)
  type : p.type = l.content.type
  idpk : p.idpk = l.idpk
  msgId : p.msgId = l.msgId
  cycleId : p.cycleId = l.cycleId
  data : p.data = wire float iso l.content
  priced : Priced l.content

variable (env : ι → Env) (float : ℚ → ℚ) (iso : Instant → String)

/-- A bid or its acceptance that arrives in a city's name is a letter of that city. -/
def Honest (w : World ι) (a : ι × Node.Action) : Prop :=
  ∀ payload now, a.2 = .ingest payload now →
    payload.type = .bid ∨ payload.type = .bidAccepted →
    ∀ j, payload.cityId = some (env j).cfg.cityId →
      ∃ l ∈ (w j).outbox.letters, Carries float iso (env a.1).cfg l payload

/-- The bid came as this letter. -/
structure Came (receiver : Config) (k : String) (b : MarketBid) (l : Letter) : Prop where
  route : l.routingKey = some ("city." ++ receiver.cityId)
  idpk : l.idpk = k
  msgId : l.msgId = b.msgId
  content : l.content = .bid b.offerId b.quantity
  cycleId : l.cycleId = some b.cycleId

/-- What a city knows of another is what that city wrote to it. -/
structure Linked (w : World ι) : Prop where
  backed : ∀ i, AllBacked (w i)
  asked : ∀ i j k b, (w i).market.bids.get? k = some b → b.direction = .incoming →
    b.counterpartCityId = (env j).cfg.cityId →
    ∃ l ∈ (w j).outbox.letters, Came (env i).cfg k b l
  told : ∀ i j, ∀ row ∈ (w i).inbox, row.payload.type = .bidAccepted →
    row.payload.cityId = some (env j).cfg.cityId →
    ∃ l ∈ (w j).outbox.letters, Carries float iso (env i).cfg l row.payload

variable {env float iso} {w : World ι}

theorem linked_fresh (market : ∀ i, (w i).market = {}) (inbox : ∀ i, (w i).inbox = [])
    (silent : ∀ i, (w i).outbox.rows = []) : Linked env float iso w where
  backed := by
    intro i l hl
    rw [Outbox.letters,silent i] at hl
    cases hl
  asked := by
    intro i j k b hb
    rw [market i] at hb
    cases hb
  told := by
    intro i j row hrow
    rw [inbox i] at hrow
    cases hrow

/-- A bid or its acceptance arrives. -/
def brings : Node.Action → Bool
  | .ingest payload _ => payload.type = .bid ∨ payload.type = .bidAccepted
  | _ => false

theorem honest_quiet {a : ι × Node.Action} (quiet : brings a.2 = false) :
    Honest env float iso w a := by
  intro payload now arrives trade
  rw [arrives,brings,decide_eq_false_iff_not] at quiet
  exact absurd trade quiet

/-! ### Two sides of a trade -/

/-- The two entries of one trade: the same cycle, and opposite effects. -/
structure Mirrors (e f : LedgerEntry) : Prop where
  cycleId : f.cycleId = e.cycleId
  budget : e.budgetDelta + f.budgetDelta = 0
  energy : e.energyDelta + f.energyDelta = 0

theorem letter_eq {outbox : Outbox} {l m : Letter} (hl : l ∈ outbox.letters)
    (hm : m ∈ outbox.letters) (same : l.msgId = m.msgId) : l = m := by
  obtain ⟨r,hr,rfl⟩ := Outbox.mem_letters.mp hl
  obtain ⟨s,hs,rfl⟩ := Outbox.mem_letters.mp hm
  rw [Table.eq_of_key hr hs same]

theorem letter_of_talk {outbox : Outbox} {x : Talk} (hx : x ∈ outbox.talk) :
    ∃ l ∈ outbox.letters, l.msgId = x.msgId ∧ l.idpk = x.idpk := by
  obtain ⟨⟨row,hrow,rfl⟩,_⟩ := Outbox.mem_talk.mp hx
  exact ⟨row.letter,Outbox.mem_letters.mpr ⟨row,hrow,rfl⟩,rfl,rfl⟩

theorem city_of_route {a b : String} (h : some ("city." ++ a) = some ("city." ++ b)) : a = b := by
  have same := congrArg String.toList (Option.some.inj h)
  rw [String.toList_append,String.toList_append] at same
  exact String.toList_injective (List.append_cancel_left same)

theorem read_price {q agreed : ℚ} (h : BidReplies.price (.float q) = some agreed) :
    agreed = q := by
  unfold BidReplies.price at h
  dsimp only at h
  split at h <;> cases h
  rfl

/-- The buyer took the price that its seller froze. -/
theorem same_price (h : Linked env float iso w) (exact_ : ∀ q, Significant 15 q → float q = q)
    {i j : ι} {k : String} {b c : MarketBid} {price agreed : ℚ}
    (hb : (w i).market.bids.get? k = some b) (frozen : b.acceptedPricePerEnergy = some price)
    (home : c.counterpartCityId = (env i).cfg.cityId)
    (agrees : Agreed (w j).desk (w j).inbox k c agreed) : agreed = price := by
  obtain ⟨x,hx,bid,own,row,hrow,type,_,sender,target,read⟩ := agrees
  obtain ⟨l,hl,carries⟩ := h.told j i row hrow type (sender.trans (congrArg some home))
  obtain ⟨a,quoted,amount,swapId,token,expiresAt,ha,incoming,_,frozen',content,route⟩ :=
    backed_answer (h.backed i l hl) (carries.type.symm.trans type)
  have city : a.counterpartCityId = (env j).cfg.cityId :=
    city_of_route (route.symm.trans carries.route)
  have data := carries.data
  have digits := carries.priced
  rw [content] at data digits
  rw [data] at target read
  have names : a.msgId = x.msgId := Option.some.inj target
  -- the message that the answer names is the letter our bid came as
  obtain ⟨m,hm,came⟩ := h.asked i j a.idpk a ha incoming city
  obtain ⟨n,hn,msgId,idpk⟩ := letter_of_talk hx
  obtain rfl : m = n := letter_eq hm hn (came.msgId.trans (names.trans msgId.symm))
  have key : a.idpk = k := came.idpk.symm.trans (idpk.trans own)
  rw [key] at ha
  cases hb.symm.trans ha
  cases frozen.symm.trans frozen'
  exact (read_price read).trans (exact_ _ digits)

/-- The two sides of one bid book opposite amounts. -/
theorem mirrored (h : Linked env float iso w) (exact_ : ∀ q, Significant 15 q → float q = q)
    {i j : ι} {k : String} {b : MarketBid} {e f : LedgerEntry}
    (hb : (w i).market.bids.get? k = some b) (incoming : b.direction = .incoming)
    (city : b.counterpartCityId = (env j).cfg.cityId) (sold : Trade (w i) k e)
    (bought : Trade (w j) k f) : Mirrors e f := by
  obtain ⟨l,hl,came⟩ := h.asked i j k b hb incoming city
  obtain ⟨c,hc,outgoing,content,cycle,route⟩ :=
    backed_bid (h.backed j l hl) (by rw [came.content]; rfl)
  rw [came.idpk] at hc
  have home : c.counterpartCityId = (env i).cfg.cityId :=
    city_of_route (route.symm.trans came.route)
  have same := content.symm.trans came.content
  injection same with _ quantity
  have inCycle : c.cycleId = b.cycleId := Option.some.inj (cycle.symm.trans came.cycleId)
  cases sold with
  | purchase _ _ hb' away =>
    cases hb.symm.trans hb'
    cases incoming.symm.trans away
  | sale _ price hb' _ frozen cycleId budget energy =>
    cases hb.symm.trans hb'
    cases bought with
    | sale _ _ hc' toward =>
      cases hc.symm.trans hc'
      cases outgoing.symm.trans toward
    | purchase _ agreed hc' _ agrees cycleId' budget' energy' =>
      cases hc.symm.trans hc'
      obtain rfl := same_price h exact_ hb frozen home agrees
      refine ⟨by rw [cycleId',cycleId,inCycle],?_,?_⟩
      · rw [budget,budget',quantity,mul_comm]
        exact add_neg_cancel _
      · rw [energy,energy',quantity]
        exact neg_add_cancel _

/-! ### One step -/

variable [DecidableEq ι]

def step (env : ι → Env) : World ι → ι × Node.Action → World ι :=
  together fun i db a => Node.step (env i) db a

theorem Came.stays {receiver : Config} {k : String} {b c : MarketBid} {l : Letter}
    (h : Came receiver k b l) (stays : Stays b c) : Came receiver k c l := by
  have terms := stays.terms
  simp only [MarketBid.terms,Prod.mk.injEq] at terms
  obtain ⟨cycle,offer,_,quantity⟩ := terms
  exact ⟨h.route,h.idpk,h.msgId.trans stays.msgId.symm,by rw [h.content,offer,quantity],
    by rw [h.cycleId,cycle]⟩

theorem bidData?_read {payload : Payload} {data : SellerBids.BidData}
    (h : SellerBids.bidData? payload = some data) :
    payload.cycleId = some data.cycleId ∧ payload.cityId = some data.buyer ∧
      (payload.data.get "offerId").text? = some data.offerId ∧
      (payload.data.get "quantity").int? = some data.quantity := by
  unfold SellerBids.bidData? at h
  simp only [Option.bind_eq_bind,Option.bind_eq_some_iff] at h
  obtain ⟨cycleId,cycle,buyer,city,offerId,offer,quantity,amount,_,_,h⟩ := h
  cases h
  exact ⟨cycle,city,offer,amount⟩

/-- The bid a carried letter asks for came as that letter. -/
theorem came_of_carries {receiver : Config} {k : String} {c : MarketBid} {payload : Payload}
    {l : Letter} (asked : AskedBy payload k c) (carries : Carries float iso receiver l payload) :
    Came receiver k c l := by
  obtain ⟨data,read,terms⟩ := asked.data
  obtain ⟨cycle,_,offer,quantity⟩ := bidData?_read read
  simp only [MarketBid.terms,Prod.mk.injEq] at terms
  obtain ⟨cycleId,offerId,_,amount⟩ := terms
  have type : l.content.type = .bid := carries.type.symm.trans asked.type
  obtain ⟨o,q,content⟩ : ∃ o q, l.content = .bid o q := by
    cases content : l.content <;> rw [content] at type <;> first | exact ⟨_,_,rfl⟩ | cases type
  rw [carries.data,content] at offer quantity
  have sameOffer : o = data.offerId := Option.some.inj offer
  have sameQuantity : q = data.quantity := Option.some.inj quantity
  refine ⟨carries.route,carries.idpk.symm.trans asked.idpk,
    carries.msgId.symm.trans asked.msgId.symm,?_,?_⟩
  · rw [content,sameOffer,sameQuantity,offerId,amount]
  · rw [← carries.cycleId,cycle,cycleId]

/-- An acceptance in the inbox was there, or the step brought it. -/
theorem answer_row (env : Env) (db : Db) (a : Node.Action) {row : InboundMessage}
    (hrow : row ∈ (Node.step env db a).inbox) (type : row.payload.type = .bidAccepted) :
    row ∈ db.inbox ∨ ∃ now, a = .ingest row.payload now := by
  cases brings : Node.bringsMessage a with
  | false =>
    have same : (Node.step env db a).inbox = db.inbox :=
      congrArg Log.inbox (MarketClosing.service_step env db a brings).log
    exact .inl (same ▸ hrow)
  | true =>
    cases a with
    | ingest payload now =>
      obtain ⟨status,reason,grown⟩ := Ingest.inbox_ingest env.cfg env.jwt db payload now
      have hrow : row ∈ (Ingest.ingest env.cfg env.jwt db payload now).1.inbox := hrow
      rw [grown] at hrow
      refine (List.mem_append.mp hrow).imp_right fun new => ?_
      rw [List.mem_singleton.mp new]
      exact ⟨now,rfl⟩
    | feed payload =>
      have hrow : row ∈ (MarketFeed.persist env.cfg db payload).inbox := hrow
      rcases Ingest.inbox_feed env.cfg db payload with same | ⟨event,status,reason,grown⟩
      · exact .inl (same ▸ hrow)
      rw [grown] at hrow
      refine (List.mem_append.mp hrow).imp_right fun new => ?_
      rw [List.mem_singleton.mp new] at type
      exact absurd type (event_type event)
    | _ => cases brings

theorem letters_step (h : Linked env float iso w) (a : ι × Node.Action) (j : ι) {l : Letter}
    (hl : l ∈ (w j).outbox.letters) : l ∈ (step env w a j).outbox.letters := by
  by_cases here : j = a.1
  · subst here
    rw [step,together_self]
    exact (adds_step (env a.1) a.2 (h.backed a.1)).kept.subset hl
  · rw [step,together_ne here]
    exact hl

theorem linked_step (a : ι × Node.Action) (honest : Honest env float iso w a)
    (h : Linked env float iso w) : Linked env float iso (step env w a) where
  backed := together_keeps (fun _ b => backed_step (env a.1) b) h.backed
  asked := by
    intro i j k c hc incoming city
    by_cases here : i = a.1
    · subst here
      rw [step,together_self] at hc
      rcases incoming_step (env a.1) (w a.1) a.2 hc incoming with
        ⟨b,hb,incoming,stays⟩ | ⟨payload,now,brought,asked⟩
      · have counterpart := counterpart_of_terms stays.terms
        obtain ⟨l,hl,came⟩ := h.asked a.1 j k b hb incoming (counterpart.symm.trans city)
        exact ⟨l,letters_step h a j hl,came.stays stays⟩
      · obtain ⟨data,read,terms⟩ := asked.data
        simp only [MarketBid.terms,Prod.mk.injEq] at terms
        have sender : payload.cityId = some (env j).cfg.cityId := by
          rw [(bidData?_read read).2.1,← terms.2.2.1,city]
        obtain ⟨l,hl,carries⟩ := honest payload now brought (.inl asked.type) j sender
        exact ⟨l,letters_step h a j hl,came_of_carries asked carries⟩
    · rw [step,together_ne here] at hc
      obtain ⟨l,hl,came⟩ := h.asked i j k c hc incoming city
      exact ⟨l,letters_step h a j hl,came⟩
  told := by
    intro i j row hrow type city
    have before (old : row ∈ (w i).inbox) : ∃ l ∈ (step env w a j).outbox.letters,
        Carries float iso (env i).cfg l row.payload := by
      obtain ⟨l,hl,carries⟩ := h.told i j row old type city
      exact ⟨l,letters_step h a j hl,carries⟩
    by_cases here : i = a.1
    · subst here
      rw [step,together_self] at hrow
      rcases answer_row (env a.1) (w a.1) a.2 hrow type with old | ⟨now,brought⟩
      · exact before old
      · obtain ⟨l,hl,carries⟩ := honest row.payload now brought (.inr type) j city
        exact ⟨l,letters_step h a j hl,carries⟩
    · rw [step,together_ne here] at hrow
      exact before hrow

/-! ### A run -/

section Runs
variable (env) (float iso) {start : World ι}

/-- From empty markets, in every city each settled swap is the trade of one bid, and
where a bid is settled by its seller and by its buyer, what one gains the other gives. -/
theorem cities_agree (exact_ : ∀ q, Significant 15 q → float q = q)
    (market : ∀ i, (start i).market = {}) (inbox : ∀ i, (start i).inbox = [])
    (silent : ∀ i, (start i).outbox.rows = [])
    (entries : ∀ i, swapEntries (start i).books = []) (run : List (ι × Node.Action))
    (honest : Along (step env) (Honest env float iso) start run)
    (canonical : ∀ i, Canonical (Lib.run (step env) start run i)) :
    let final := Lib.run (step env) start run
    (∀ i, Traded (final i)) ∧
      ∀ i j k b e f, (final i).market.bids.get? k = some b → b.direction = .incoming →
        b.counterpartCityId = (env j).cfg.cityId → Trade (final i) k e → Trade (final j) k f →
        Mirrors e f := by
  intro final
  have linked : Linked env float iso final :=
    Always.final (always_of_step (fun _ a h honest => linked_step a honest h)
      (linked_fresh market inbox silent) honest)
  refine ⟨?_,fun i j k b e f hb incoming city => mirrored linked exact_ hb incoming city⟩
  intro i
  have own : final i = Lib.run (Node.step (env i)) (start i) (own i run) := run_together run
  rw [own]
  refine traded_of_fair (fair_run (env i) (fair_empty (market i) (inbox i) (entries i)) ?_)
  rw [← own]
  exact canonical i

end Runs

/-! ### A trade of two cities -/

def vendor : Env :=
  { BidAcceptance.vendor with cfg := .drawing "BBB" [Node.lease,"u2","u3","u4","u5","u6"] }

def pair : Bool → Env
  | false => Node.buyer
  | true => vendor

/-- What the vendor answers, as the buyer receives it. -/
def reply : Payload :=
  Node.envelope .bidAccepted "u6" "u5" (some "BBB") (wireData (fun q => q) spoken answer)

def settled : Node.Action :=
  .ingest (Node.walletMessage .swapSettled "settlement5" "settlement6" [("swapId",.str "s9")])
    (seconds 67)

/-- An offer is announced, bought, sold and settled. -/
def traded : List (Bool × Node.Action) :=
  (sale.take 2).map (true,·) ++ (Node.purchase.take 3).map (false,·) ++
    (sale.drop 2).map (true,·) ++ [(false,.ingest reply (seconds 62))] ++
    (Node.purchase.drop 4).map (false,·) ++ [(true,settled),(false,settled)]

theorem carried {outbox : Outbox} {receiver : Config} {payload : Payload} (content : Content)
    (sent : ∃ l ∈ outbox.letters, l.content = content ∧
      l.routingKey = some ("city." ++ receiver.cityId) ∧ payload.idpk = l.idpk ∧
      payload.msgId = l.msgId ∧ payload.cycleId = l.cycleId)
    (type : payload.type = content.type) (data : payload.data = wire float iso content)
    (priced : Priced content) : ∃ l ∈ outbox.letters, Carries float iso receiver l payload := by
  obtain ⟨l,hl,rfl,route,idpk,msgId,cycleId⟩ := sent
  exact ⟨l,hl,route,type,idpk,msgId,cycleId,data,priced⟩

theorem traded_honest : Along (step pair) (Honest pair (fun q => q) spoken)
    (fun _ => Node.opened "C1") traded := by
  refine ⟨honest_quiet rfl,honest_quiet rfl,honest_quiet rfl,honest_quiet rfl,honest_quiet rfl,?_,
    honest_quiet rfl,honest_quiet rfl,honest_quiet rfl,?_,honest_quiet rfl,honest_quiet rfl,
    honest_quiet rfl,trivial⟩
  · rintro payload now ⟨⟩ _ j city
    cases j with
    | true => exact absurd city (by decide)
    | false => exact carried (.bid "BBB-C1" 10) (by decide +kernel) rfl rfl trivial
  · rintro payload now ⟨⟩ _ j city
    cases j with
    | false => exact absurd city (by decide)
    | true =>
      exact carried answer (by decide +kernel) rfl rfl ⟨2,0,by decide,by norm_num⟩

theorem traded_agree :
    let final := Lib.run (step pair) (fun _ => Node.opened "C1") traded
    ((swapEntries (final true).books).map (fun e => (e.budgetDelta,e.energyDelta)) = [(20,-10)] ∧
      (swapEntries (final false).books).map (fun e => (e.budgetDelta,e.energyDelta)) =
        [(-20,10)]) ∧
    (∀ i, Traded (final i)) ∧
      ∀ i j k b e f, (final i).market.bids.get? k = some b → b.direction = .incoming →
        b.counterpartCityId = (pair j).cfg.cityId → Trade (final i) k e → Trade (final j) k f →
        Mirrors e f :=
  ⟨by decide +kernel,cities_agree pair (fun q => q) spoken (fun _ _ => rfl) (fun _ => rfl)
    (fun _ => rfl) (fun _ => rfl) (fun _ => rfl) traded traded_honest (by
      have sent : ∀ i, ∀ x ∈ (Lib.run (step pair) (fun _ => Node.opened "C1") traded i).outbox.talk,
          x.content.type = .bid → uuidText x.msgId = some x.msgId := by
        decide +kernel
      exact sent)⟩

end CityLedgers

end EnergyNode
