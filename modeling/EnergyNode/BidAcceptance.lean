import EnergyNode.Stock
import EnergyNode.Lib.Run

/-! The answer `bid-accepted`: one row for a bid at most, stored by a
`swap-proposed` of the central that quotes the record of the bid, and accepted
by the buyer's own validation of it. -/
namespace EnergyNode
open Lib WalletEvents

namespace BidAcceptance
open SellerBidAccepted

/-- The acceptances among what the node has to say. -/
def acceptances (talk : List Talk) : List Talk :=
  talk.filter fun t => t.content.type = .bidAccepted

theorem mem_acceptances {talk : List Talk} {x : Talk} :
    x ∈ acceptances talk ↔ x ∈ talk ∧ x.content.type = .bidAccepted := by
  rw [acceptances,List.mem_filter,decide_eq_true_eq]

theorem acceptances_append (talk : List Talk) (x : Talk) :
    acceptances (talk ++ [x]) =
      acceptances talk ++ if x.content.type = .bidAccepted then [x] else [] := by
  rw [acceptances,List.filter_append,acceptances]
  by_cases h : x.content.type = .bidAccepted <;> simp [h]

theorem acceptances_append_other (talk : List Talk) {x : Talk}
    (h : x.content.type ≠ .bidAccepted) : acceptances (talk ++ [x]) = acceptances talk := by
  rw [acceptances_append,if_neg h,List.append_nil]

theorem acceptances_rejects {msgId : String} {t u : List Talk} (h : Rejects msgId t u) :
    acceptances u = acceptances t := by
  cases h with
  | kept => rfl
  | added _ rejection =>
    refine acceptances_append_other t ?_
    simp only [Talk.isRejection,Bool.and_eq_true,decide_eq_true_eq] at rejection
    rw [rejection.1]
    decide

theorem acceptances_bid (t : List Talk) {x : Talk} (h : x.content.type = .bid) :
    acceptances (t ++ [x]) = acceptances t := by
  refine acceptances_append_other t ?_
  rw [h]
  decide

/-- Only an announcement adds an acceptance, and only a bid's first. -/
theorem acceptances_move {cfg : Config} {P : Market → Cause → Prop} {m n : Market}
    {t u : List Talk} (move : Move cfg P ⟨m,t⟩ ⟨n,u⟩) :
    acceptances u = acceptances t ∨ P m .announcement ∧ ∃ x msgId, u = t ++ [x] ∧
      x.isAcceptance msgId ∧ ∀ y ∈ t, ¬ y.isAcceptance msgId := by
  cases move with
  | offers => exact .inl rfl
  | offerAdded => exact .inl rfl
  | bidArrived _ _ _ _ _ _ status =>
    rcases status with ⟨_,same⟩ | ⟨_,rejects⟩
    · exact .inl (by rw [same])
    · exact .inl (acceptances_rejects rejects)
  | strayRefused _ _ _ _ rejects => exact .inl (acceptances_rejects rejects)
  | bidRefused _ _ _ _ _ _ _ rejects => exact .inl (acceptances_rejects rejects)
  | reserved => exact .inl rfl
  | event => exact .inl rfl
  | revised => exact .inl rfl
  | expired => exact .inl rfl
  | kept => exact .inl rfl
  | claimed => exact .inl rfl
  | refused => exact .inl rfl
  | answered r b _ _ _ x _ _ _ _ _ _ _ _ acceptance fresh cause =>
    exact .inr ⟨cause,x,b.msgId,rfl,acceptance,fresh⟩
  | bidClosed => exact .inl rfl
  | bidsExpired => exact .inl rfl
  | resolved => exact .inl rfl
  | taken => exact .inl rfl
  | referenced => exact .inl rfl
  | placed _ _ x _ _ bid => exact .inl (acceptances_bid t bid)
  | renewed _ _ x _ _ bid => exact .inl (acceptances_bid t bid)

/-- A message is accepted once at most. -/
def Once (talk : List Talk) : Prop :=
  ∀ msgId, ((acceptances talk).countP fun x => x.targetMsgId = some msgId) ≤ 1

theorem isAcceptance_iff {x : Talk} {msgId : String} : x.isAcceptance msgId ↔
    x.content.type = .bidAccepted ∧ x.targetMsgId = some msgId := by
  rw [Talk.isAcceptance,Bool.and_eq_true,decide_eq_true_eq,decide_eq_true_eq]

theorem once_append {talk : List Talk} {x : Talk} {msgId : String} (h : Once talk)
    (acceptance : x.isAcceptance msgId) (fresh : ∀ y ∈ talk, ¬ y.isAcceptance msgId) :
    Once (talk ++ [x]) := by
  obtain ⟨type,target⟩ := isAcceptance_iff.mp acceptance
  intro id
  rw [acceptances_append,if_pos type,List.countP_append,List.countP_singleton]
  by_cases same : x.targetMsgId = some id
  · rw [target,Option.some.injEq] at same
    subst same
    have none : (acceptances talk).countP (fun y => y.targetMsgId = some msgId) = 0 := by
      refine List.countP_eq_zero.mpr fun y hy => ?_
      obtain ⟨hy,type⟩ := mem_acceptances.mp hy
      intro named
      exact fresh y hy (isAcceptance_iff.mpr ⟨type,of_decide_eq_true named⟩)
    rw [none,target]
    simp
  · simpa [same] using h id

theorem once_move {cfg : Config} {P : Market → Cause → Prop} {m n : Market} {t u : List Talk}
    (move : Move cfg P ⟨m,t⟩ ⟨n,u⟩) (h : Once t) : Once u := by
  rcases acceptances_move move with same | ⟨_,x,msgId,same,acceptance,fresh⟩
  · intro id
    rw [same]
    exact h id
  · rw [same]
    exact once_append h acceptance fresh

theorem once_moves {cfg : Config} {P : Market → Cause → Prop} {d d' : Desk}
    (moves : Moves cfg P d d') (h : Once d.talk) : Once d'.talk := by
  induction moves with
  | refl => exact h
  | tail _ move ih => exact once_move move ih

theorem quiet_moves {cfg : Config} {P : Market → Cause → Prop} {d d' : Desk}
    (moves : Moves cfg P d d') (quiet : ∀ m, ¬P m .announcement) :
    acceptances d'.talk = acceptances d.talk := by
  induction moves with
  | refl => rfl
  | tail _ move ih =>
    rcases acceptances_move move with same | ⟨loud,_⟩
    · exact same.trans ih
    · exact absurd loud (quiet _)

/-- What the central announced about the record of a bid, and what the answer
to the bid says of it. -/
structure Quotes (env : Env) (db : Db) (payload : Payload) (now : Instant) (b : MarketBid)
    (r : SwapRecord) (x : Talk) : Prop where
  event : payload.type = .swapProposed ∧ payload.sender = some "central"
  bid : db.market.bids.get? b.idpk = some b
  reserved : b.direction = .incoming ∧ b.status = .reserved
  held : ∃ h ∈ db.market.reservations.get? b.idpk,
    h.offerId = b.offerId ∧ h.status = .hold ∧ h.quantity = b.quantity
  record : ∃ old ∈ db.market.swaps.get? b.idpk, SameDeal old r
  memo : r.memo = some b.offerId ∧ (payload.data.get "memo").text? = some b.offerId
  legs : legsMatch (payload.data.get "give") (payload.data.get "take") r
  swap : r.swapId = (payload.data.get "swapId").text?
  content : ∃ swapId token expiresAt price, r.swapId = some swapId ∧ swapId ≠ "" ∧
    (payload.data.get "token").text? = some token ∧
    matchingWalletToken env.cfg env.jwt token r swapId expiresAt now ∧
    b.acceptedPricePerEnergy = some price ∧ 0 ≤ price ∧
    r.takeAmount = centsHalfUp (price * b.quantity) ∧
    x.content = .bidAccepted b.msgId b.offerId b.quantity price r.takeAmount swapId token
      expiresAt ∧
    x.targetMsgId = some b.msgId ∧ x.cycleId = some b.cycleId

theorem proposal?_quotes {cfg : Config} {jwt : Jwt} {r : SwapRecord} {data : Fields}
    {sender : Option String} {now : Instant} {p : Proposal}
    (h : proposal? cfg jwt r data sender now = some p) :
    sender = some "central" ∧ r.status = .proposed ∧ p.swapId ≠ "" ∧ r.swapId = some p.swapId ∧
      (data.get "swapId").text? = some p.swapId ∧ r.memo = (data.get "memo").text? ∧
      legsMatch (data.get "give") (data.get "take") r ∧ (data.get "token").text? = some p.token ∧
      matchingWalletToken cfg jwt p.token r p.swapId p.expiresAt now := by
  unfold proposal? at h
  simp only [Option.bind_eq_bind,Option.bind_eq_some_iff] at h
  obtain ⟨_,hs,_,_,_,_,swapId,hswap,expiresAt,_,_,hlive,_,hid,h⟩ := h
  obtain ⟨_,_,_,hlegs,token,htoken,_,hmatch,_,_,stored,_,_,_,h⟩ := h
  cases h
  obtain ⟨central,_,proposed⟩ := Fallible.guard_some.mp hs
  obtain ⟨id,memo⟩ := Fallible.guard_some.mp hid
  exact ⟨central,proposed,(Fallible.guard_some.mp hlive).1,id,hswap,memo,
    Fallible.guard_some.mp hlegs,htoken,Fallible.guard_some.mp hmatch⟩

theorem answerable?_quotes {m : Market} {outbox : Outbox} {r : SwapRecord} {b : MarketBid}
    {price : ℚ} (h : answerable? m outbox r = some (b,price)) :
    m.bids.get? r.idpk = some b ∧ b.direction = .incoming ∧ b.status = .reserved ∧
      r.memo = some b.offerId ∧ b.acceptedPricePerEnergy = some price ∧ 0 ≤ price ∧
      centsHalfUp (price * b.quantity) = r.takeAmount ∧
      ∃ h ∈ m.reservations.get? b.idpk,
        h.offerId = b.offerId ∧ h.status = .hold ∧ h.quantity = b.quantity := by
  unfold answerable? at h
  simp only [Option.bind_eq_bind,Option.bind_eq_some_iff] at h
  obtain ⟨bid,hb,_,hs,_,hterms,value,hvalue,_,hprice,reservation,hr,_,hh,_,_,h⟩ := h
  cases h
  obtain ⟨incoming,reserved⟩ := Fallible.guard_some.mp hs
  obtain ⟨_,memo,_⟩ := Fallible.guard_some.mp hterms
  obtain ⟨positive,take⟩ := Fallible.guard_some.mp hprice
  exact ⟨hb,incoming,reserved,memo.symm,hvalue,positive,take,reservation,hr,
    Fallible.guard_some.mp hh⟩

theorem talk_enqueueBidAccepted (cfg : Config) (jwt : Jwt) (db : Db) (r : SwapRecord)
    (data : Fields) (sender : Option String) (now : Instant) :
    (enqueueBidAccepted cfg jwt db r data sender now).outbox.talk = db.outbox.talk ∨
      ∃ p b price x, proposal? cfg jwt r data sender now = some p ∧
        answerable? db.market db.outbox r = some (b,price) ∧
        (enqueueBidAccepted cfg jwt db r data sender now).outbox.talk = db.outbox.talk ++ [x] ∧
        x.content = (acceptedDraft b price r p now).content ∧ x.targetMsgId = some b.msgId ∧
        x.cycleId = some b.cycleId := by
  unfold enqueueBidAccepted
  cases hp : proposal? cfg jwt r data sender now with
  | none => exact .inl rfl
  | some p =>
    cases ha : answerable? db.market db.outbox r with
    | none => exact .inl rfl
    | some found => exact .inr ⟨p,found.1,found.2,_,rfl,rfl,Outbox.talk_enqueue _ _ _,rfl,rfl,rfl⟩

theorem Processed.talk {db db₁ : Db} {type : EventType} {data : Fields} {out : Option SwapRecord}
    (h : Processed db db₁ type data out) : db₁.outbox.talk = db.outbox.talk := by
  cases h with
  | unknown _ desk => exact congrArg Desk.talk desk
  | revised _ _ _ _ _ _ _ _ _ desk => exact congrArg Desk.talk desk
  | moved _ _ _ _ _ _ _ _ _ _ _ desk => exact congrArg Desk.talk desk

/-- The record an announcement leaves PROPOSED is the bid's own. -/
theorem quotes_of_processed {env : Env} {db db₁ : Db} {payload : Payload} {now : Instant}
    {s : SwapRecord} {p : Proposal} {b : MarketBid} {price : ℚ} {x : Talk}
    (ht : payload.type = .swapProposed)
    (processed : Processed db db₁ .proposed payload.data (some s))
    (hp : proposal? env.cfg env.jwt s payload.data payload.sender now = some p)
    (ha : answerable? db₁.market db₁.outbox s = some (b,price))
    (content : x.content = (acceptedDraft b price s p now).content)
    (target : x.targetMsgId = some b.msgId) (cycle : x.cycleId = some b.cycleId) :
    Quotes env db payload now b s x := by
  obtain ⟨central,proposed,named,id,told,memo,legs,token,claims⟩ := proposal?_quotes hp
  obtain ⟨hb,incoming,reserved,offer,frozen,positive,take,held⟩ := answerable?_quotes ha
  have key : b.idpk = s.idpk := Table.key_of_get? hb
  cases processed with
  | revised r _ _ final _ _ _ status =>
    rw [if_neg (by decide),proposed] at status
    rw [← status] at final
    cases final
  | moved r _ swapId found live _ deal _ _ _ _ desk =>
    have market : db₁.market = db.market.setSwap s := congrArg Desk.market desk
    rw [market] at hb held
    have old : db.market.swaps.get? b.idpk = some r := by
      rw [key,deal.idpk]
      exact get?_correlated found
    refine ⟨⟨ht,central⟩,key ▸ hb,⟨incoming,reserved⟩,held,⟨r,old,deal⟩,
      ⟨offer,memo.symm.trans offer⟩,legs,id.trans told.symm,?_⟩
    exact ⟨p.swapId,p.token,p.expiresAt,price,id,named,token,claims,frozen,positive,take.symm,
      content,target,cycle⟩

theorem acceptances_swapEvent {env : Env} {db done : Db} {payload : Payload} {now : Instant}
    {verdict : Ingest.Verdict} (ht : payload.type = .swapProposed)
    (h : Ingest.swapEvent env.cfg env.jwt db payload .proposed now = .ok (done,verdict)) :
    acceptances done.outbox.talk = acceptances db.outbox.talk ∨
      ∃ b r x, acceptances done.outbox.talk = acceptances db.outbox.talk ++ [x] ∧
        Quotes env db payload now b r x := by
  obtain ⟨⟨db₁,out⟩,hp,h⟩ := Fallible.bind_ok.mp h
  have processed := processSwapEvent_spec hp
  cases out with
  | none =>
    cases h
    cases processed with
    | unknown _ desk => exact .inl (congrArg (fun d => acceptances d.talk) desk)
  | some s =>
    cases h
    rcases talk_enqueueBidAccepted env.cfg env.jwt db₁ s payload.data payload.sender now with same | added
    · rw [same,Processed.talk processed]
      exact .inl rfl
    · obtain ⟨p,b,price,x,hp,ha,same,content,target,cycle⟩ := added
      refine .inr ⟨b,s,x,?_,quotes_of_processed ht processed hp ha content target cycle⟩
      rw [same,Processed.talk processed,acceptances_append,if_pos (by rw [content]; rfl)]

theorem Quotes.congr {env : Env} {db db' : Db} {payload : Payload} {now : Instant} {b : MarketBid}
    {r : SwapRecord} {x : Talk} (h : Quotes env db payload now b r x)
    (same : db.market = db'.market) : Quotes env db' payload now b r x where
  event := h.event
  bid := same ▸ h.bid
  reserved := h.reserved
  held := same ▸ h.held
  record := same ▸ h.record
  memo := h.memo
  legs := h.legs
  swap := h.swap
  content := h.content

theorem acceptances_ingest (env : Env) (db : Db) {payload : Payload} (now : Instant)
    (ht : payload.type = .swapProposed) :
    acceptances (Ingest.ingest env.cfg env.jwt db payload now).1.outbox.talk =
        acceptances db.outbox.talk ∨
      ∃ b r x, acceptances (Ingest.ingest env.cfg env.jwt db payload now).1.outbox.talk =
        acceptances db.outbox.talk ++ [x] ∧ Quotes env db payload now b r x := by
  unfold Ingest.ingest
  split
  · rename_i db₁ verdict hp
    obtain ⟨rfl,-⟩ | ⟨claimed,db₂,hc,hd,rfl⟩ := Ingest.process_cases hp
    · exact .inl rfl
    · have before : (Ingest.requestStatement env.cfg claimed payload now).desk = db.desk :=
        (congrArg Prod.fst (Ingest.front_requestStatement _ _ _)).trans (Ingest.desk_claim? hc)
      have talk : (Ingest.requestStatement env.cfg claimed payload now).outbox.talk =
          db.outbox.talk := congrArg Desk.talk before
      have after : (Ingest.returnClaim db₂ payload verdict).outbox.talk = db₂.outbox.talk :=
        congrArg Desk.talk (Ingest.desk_returnClaim db₂ payload verdict)
      have dispatched : Ingest.swapEvent env.cfg env.jwt
          (Ingest.requestStatement env.cfg claimed payload now) payload .proposed now =
            .ok (db₂,verdict) := by
        unfold Ingest.dispatch at hd
        rw [ht] at hd
        exact hd
      have spec := acceptances_swapEvent ht dispatched
      rw [talk] at spec
      show acceptances (Ingest.returnClaim db₂ payload verdict).outbox.talk = _ ∨
        ∃ b r x, acceptances (Ingest.returnClaim db₂ payload verdict).outbox.talk = _ ∧ _
      rw [after]
      refine spec.imp_right ?_
      rintro ⟨b,r,x,added,quotes⟩
      exact ⟨b,r,x,added,quotes.congr (congrArg Desk.market before)⟩
  · exact .inl rfl

/-- Only a `swap-proposed` brings an announcement. -/
theorem announcement_cause {db : Db} {a : Node.Action} (h : .announcement ∈ Node.causes db a) :
    ∃ payload now, a = .ingest payload now ∧ payload.type = .swapProposed := by
  rcases Node.mem_causes h with ⟨payload,now,rfl,brought⟩ | ⟨_,_,_,_,h⟩ | h | h
  · refine ⟨payload,now,rfl,?_⟩
    unfold Ingest.brought at brought
    split at brought
    · rename_i type known
      by_cases proposed : type = .proposed
      · subst proposed
        revert known
        cases payload.type <;> simp [EventType.ofMessage]
      · rw [if_neg proposed] at brought
        cases List.mem_singleton.mp brought
    · split at brought
      · cases List.mem_singleton.mp brought
      · cases brought
  · cases h
  · cases h
  · cases h

/-- An acceptance that a step adds quotes the announcement the step delivers. -/
theorem acceptances_step (env : Env) (db : Db) (a : Node.Action) {x : Talk}
    (h : x ∈ acceptances (Node.step env db a).outbox.talk) :
    x ∈ acceptances db.outbox.talk ∨
      ∃ payload now b r, a = .ingest payload now ∧ Quotes env db payload now b r x := by
  by_cases loud : .announcement ∈ Node.causes db a
  · obtain ⟨payload,now,rfl,type⟩ := announcement_cause loud
    rcases acceptances_ingest env db now type with same | ⟨b,r,y,same,quotes⟩
    · exact .inl (same ▸ h)
    · have added : x ∈ acceptances db.outbox.talk ++ [y] := same ▸ h
      rcases List.mem_append.mp added with old | new
      · exact .inl old
      · cases List.mem_singleton.mp new
        exact .inr ⟨payload,now,b,r,rfl,quotes⟩
  · have same := quiet_moves (Node.step_moves env db a) fun _ cause => loud cause.1
    left
    have h' : x ∈ acceptances (Node.step env db a).desk.talk := h
    rw [same] at h'
    exact h'

/-- The step of a run that stored an acceptance. -/
theorem acceptances_run (env : Env) {db : Db} {run : List Node.Action} {x : Talk}
    (h : x ∈ acceptances (Lib.run (Node.step env) db run).outbox.talk) :
    x ∈ acceptances db.outbox.talk ∨ ∃ before payload now after b r,
      run = before ++ .ingest payload now :: after ∧
        Quotes env (Lib.run (Node.step env) db before) payload now b r x := by
  induction run generalizing db with
  | nil => exact .inl h
  | cons a run ih =>
    rcases ih h with here | ⟨before,payload,now,after,b,r,split,quotes⟩
    · refine (acceptances_step env db a here).imp_right ?_
      rintro ⟨payload,now,b,r,rfl,quotes⟩
      exact ⟨[],payload,now,run,b,r,rfl,quotes⟩
    · exact .inr ⟨a :: before,payload,now,after,b,r,by rw [split]; rfl,quotes⟩

/-- The `data` of an acceptance on the wire. `float` is what the text of
`float(decimal)` denotes and `iso` the text of an instant. -/
def wireData (float : ℚ → ℚ) (iso : Instant → String) : Content → Fields
  | .bidAccepted target offerId quantity pricePerEnergy amount swapId swapToken expiresAt =>
      [("target",.str target),("offerId",.str offerId),("quantity",.int quantity),
        ("pricePerEnergy",.float (float pricePerEnergy)),("amount",.float (float amount)),
        ("swapId",.str swapId),("swapToken",.str swapToken),("expiresAt",.str (iso expiresAt))]
  | _ => []

/-- The envelope of a stored acceptance, as the other city receives it. -/
structure Delivered (float : ℚ → ℚ) (iso : Instant → String) (cfg : Config) (x : Talk)
    (reply : Payload) : Prop where
  type : reply.type = x.content.type
  cycleId : reply.cycleId = x.cycleId
  cityId : reply.cityId = some cfg.cityId
  data : reply.data = wireData float iso x.content

/-- The prices keep their digits as floats, and the expiry its text. -/
def Spelled (iso : Instant → String) : Content → Prop
  | .bidAccepted _ _ _ pricePerEnergy amount _ _ expiresAt =>
      Significant 15 pricePerEnergy ∧ Significant 15 amount ∧
        Moment.ofText (iso expiresAt) = some ⟨expiresAt,true⟩
  | _ => True

/-- The buyer's own side of a bid that `seller` received as `b`. -/
structure Asked (home : Db) (seller : String) (b out : MarketBid) : Prop where
  sent : ∃ row ∈ home.outbox.get? b.msgId,
    row.content.type = .bid ∧ row.idpk = out.idpk ∧ row.cycleId = some b.cycleId
  bid : home.market.bids.get? out.idpk = some out
  pending : out.direction = .outgoing ∧ out.status = .pending
  terms : out.terms = (b.cycleId,b.offerId,seller,b.quantity)
  target : uuidText b.msgId = some b.msgId

open BidReplies in
/-- What makes the answer to a bid acceptable to its buyer. -/
theorem acceptedSwap_ok {out : MarketBid} {data : Fields} {swapId token expiresAt : String}
    {price amount : ℚ} {time : Instant} (positive : 0 < out.quantity)
    (hquantity : (data.get "quantity").int? = some out.quantity)
    (hswap : (data.get "swapId").text? = some swapId) (named : swapId ≠ "")
    (htoken : (data.get "swapToken").text? = some token) (tokened : token ≠ "")
    (hexpires : (data.get "expiresAt").text? = some expiresAt)
    (dated : Moment.ofText expiresAt = some ⟨time,true⟩)
    (hprice : BidReplies.price (data.get "pricePerEnergy") = some price)
    (hamount : BidReplies.price (data.get "amount") = some amount)
    (rounded : expectedAmount price out.quantity = some amount) :
    acceptedSwap out data = .ok swapId := by
  have terms : acceptedTerms out data = .ok (swapId,price,amount) := by
    unfold acceptedTerms
    simp only [hquantity,hswap,htoken,hexpires,hprice,hamount,dated,positive,and_self,if_true,
      Option.filter_some,decide_not,named,tokened,decide_false,Bool.not_false]
    rfl
  unfold acceptedSwap
  rw [terms]
  simp only [Fallible.ok_bind,rounded,if_true]
  rfl

/-- A quoted amount fits the context of the buyer. -/
theorem expectedAmount_quoted {price amount : ℚ} {quantity : Int}
    (rounded : amount = centsHalfUp (price * quantity)) (digits : Significant 15 amount) :
    BidReplies.expectedAmount price quantity = some amount := by
  obtain ⟨n,e,small,near,quoted⟩ := digits
  refine quantizedUp_some.mpr ⟨?_,rounded.symm⟩
  have hundred : (halfUp (price * quantity * 100) : ℚ) = amount * 100 := by
    rw [rounded,centsHalfUp,div_mul_cancel₀ _ (by norm_num)]
  have power : (10 : ℚ) ^ e ≤ 10 ^ (10 : ℤ) := zpow_le_zpow_right₀ (by norm_num) (abs_le.mp near).2
  have numeral : |(n : ℚ)| ≤ 10 ^ 15 := by exact_mod_cast small.le
  have size : |(halfUp (price * quantity * 100) : ℚ)| ≤ 10 ^ 27 := by
    have positive : (0 : ℚ) < 10 ^ e := zpow_pos (by norm_num) e
    rw [hundred,quoted,abs_mul,abs_mul,abs_of_pos positive]
    calc |(n : ℚ)| * 10 ^ e * |100| ≤ 10 ^ 15 * 10 ^ (10 : ℤ) * |100| := by gcongr
      _ = 10 ^ 27 := by norm_num
  have room : (10 : ℚ) ^ 27 < 10 ^ Decimal.precision := by norm_num [Decimal.precision]
  exact_mod_cast size.trans_lt room

open BidReplies in
theorem acceptedSwap_wire {out : MarketBid} {float : ℚ → ℚ} {iso : Instant → String}
    {target offerId swapId token : String} {price amount : ℚ} {expiresAt : Instant}
    (positive : 0 < out.quantity) (named : swapId ≠ "") (tokened : token ≠ "") (priced : 0 ≤ price)
    (exactPrice : float price = price) (exactAmount : float amount = amount)
    (rounded : amount = centsHalfUp (price * out.quantity)) (digits : Significant 15 amount)
    (dated : Moment.ofText (iso expiresAt) = some ⟨expiresAt,true⟩) :
    acceptedSwap out (wireData float iso (.bidAccepted target offerId out.quantity price amount
      swapId token expiresAt)) = .ok swapId := by
  have costs : 0 ≤ amount := by
    rw [rounded]
    have whole : (0 : ℚ) ≤ out.quantity := by exact_mod_cast positive.le
    exact centsHalfUp_nonneg (mul_nonneg priced whole)
  refine acceptedSwap_ok positive rfl rfl named rfl tokened rfl dated ?_ ?_
    (expectedAmount_quoted rounded digits)
  · show (if 0 ≤ float price then some (float price) else none) = some price
    rw [exactPrice,if_pos priced]
  · show (if 0 ≤ float amount then some (float amount) else none) = some amount
    rw [exactAmount,if_pos costs]

theorem token_of_matching {cfg : Config} {jwt : Jwt} {token swapId : String} {r : SwapRecord}
    {expiresAt now : Instant} (h : matchingWalletToken cfg jwt token r swapId expiresAt now) :
    token ≠ "" := by
  rintro rfl
  simp [matchingWalletToken] at h

open BidReplies in
/-- The bid a delivered acceptance is about. -/
theorem addressed_of_asked {home : Db} {seller : String} {b out : MarketBid} {reply : Payload}
    (asked : Asked home seller b out) (cycle : reply.cycleId = some b.cycleId)
    (city : reply.cityId = some seller)
    (offer : (reply.data.get "offerId").text? = some b.offerId) :
    addressed home reply b.msgId = .ok out := by
  obtain ⟨row,hrow,type,idpk,rowCycle⟩ := asked.sent
  have terms := asked.terms
  simp only [MarketBid.terms,Prod.mk.injEq] at terms
  obtain ⟨outCycle,outOffer,outCity,_⟩ := terms
  have found : (home.outbox.get? b.msgId).filter (fun row => row.content.type = .bid) =
      some row := by
    rw [show home.outbox.get? b.msgId = some row from hrow,Option.filter_some,
      decide_eq_true type,if_pos rfl]
  have own : outgoingBid? home.market row.idpk = some out := by
    rw [outgoingBid?,idpk,asked.bid,Option.filter_some,decide_eq_true asked.pending.1,if_pos rfl]
  unfold addressed
  rw [found]
  dsimp only
  rw [own]
  dsimp only
  rw [if_pos ⟨by rw [cycle,outCycle],by rw [rowCycle,outCycle],by rw [city,outCity],
    by rw [offer,outOffer]⟩]
  simp only [asked.pending.2,if_true]
  rfl

open BidReplies in
/-- The buyer accepts what its seller says about its own pending bid. -/
theorem reply_accepted {env : Env} {db home : Db} {payload reply : Payload} {now later : Instant}
    {b out : MarketBid} {r : SwapRecord} {x : Talk} {float : ℚ → ℚ} {iso : Instant → String}
    (quotes : Quotes env db payload now b r x) (sound : db.market.Sound)
    (asked : Asked home env.cfg.cityId b out) (delivered : Delivered float iso env.cfg x reply)
    (exact_ : ∀ q, Significant 15 q → float q = q) (spelled : Spelled iso x.content) :
    ∃ swapId done, r.swapId = some swapId ∧
      processBidReply home reply later = .ok (done,none) ∧
      done.market.bids.get? out.idpk = some (BidReplies.acceptedBid out swapId later) := by
  obtain ⟨swapId,token,expiresAt,price,hid,named,_,matching,_,priced,take,content,_,cycle⟩ :=
    quotes.content
  rw [content] at spelled
  obtain ⟨digits,digits',dated⟩ := spelled
  have terms := asked.terms
  simp only [MarketBid.terms,Prod.mk.injEq] at terms
  obtain ⟨_,_,_,quantity⟩ := terms
  obtain ⟨h,hh,_,_,held⟩ := quotes.held
  have positive : 0 < out.quantity := by
    rw [quantity,← held]
    exact sound.positive h (Table.mem_of_get? hh)
  have type : reply.type = .bidAccepted := by rw [delivered.type,content]; rfl
  have data := delivered.data
  rw [content] at data
  have offer : (reply.data.get "offerId").text? = some b.offerId := by rw [data]; rfl
  have target : (spelled (reply.data.get "target")).bind uuidText = some b.msgId := by
    have said : spelled (reply.data.get "target") = some b.msgId := by rw [data]; rfl
    rw [said,Option.bind_some]
    exact asked.target
  have address := addressed_of_asked asked (delivered.cycleId.trans cycle) delivered.cityId offer
  have answer : acceptedSwap out reply.data = .ok swapId := by
    rw [data,← quantity]
    exact acceptedSwap_wire positive named (token_of_matching matching) priced (exact_ _ digits)
      (exact_ _ digits') (by rw [quantity]; exact take) digits' dated
  have reads : raises reply out = false := by
    unfold raises
    rw [roundable_of_accepted answer,Bool.or_false,unhashableReason,type]
    rfl
  have storable : unstorableReason reply = false := by simp [unstorableReason,type]
  refine ⟨swapId,{ home with
    market := { home.market with
      bids := home.market.bids.set (BidReplies.acceptedBid out swapId later) }
    outbox := home.outbox.mapRows (stopped out.idpk) (stopped_msgId out.idpk) },hid,?_,?_⟩
  · unfold processBidReply
    rw [target]
    dsimp only
    rw [address]
    dsimp only
    rw [reads,if_neg (by decide),resolved,if_pos type,answer]
    dsimp only [Except.map]
    rw [storable,if_neg (by decide)]
    rfl
  · exact Table.get?_set_self (a := BidReplies.acceptedBid out swapId later) asked.bid

/-- Every acceptance in the outbox was stored by a `swap-proposed` of the central
that quotes the record of its bid, while that bid was reserved; no bid has two;
and the buyer of the bid accepts it. -/
theorem acceptances_quoted (env : Env) (start : Db) (empty : start.market = {})
    (silent : acceptances start.outbox.talk = []) (run : List Node.Action) :
    let final := Lib.run (Node.step env) start run
    (∀ x ∈ acceptances final.outbox.talk, ∃ before payload now after b r,
      run = before ++ .ingest payload now :: after ∧
      Quotes env (Lib.run (Node.step env) start before) payload now b r x ∧
      ∀ home out reply later float iso, Asked home env.cfg.cityId b out →
        Delivered float iso env.cfg x reply → (∀ q, Significant 15 q → float q = q) →
        Spelled iso x.content →
        ∃ swapId done, r.swapId = some swapId ∧
          BidReplies.processBidReply home reply later = .ok (done,none) ∧
          done.market.bids.get? out.idpk = some (BidReplies.acceptedBid out swapId later)) ∧
    ∀ b : MarketBid, ((acceptances final.outbox.talk).countP fun x =>
      x.targetMsgId = some b.msgId) ≤ 1 := by
  intro final
  refine ⟨?_,?_⟩
  · intro x hx
    rcases acceptances_run env hx with old | ⟨before,payload,now,after,b,r,split,quotes⟩
    · rw [silent] at old
      cases old
    refine ⟨before,payload,now,after,b,r,split,quotes,?_⟩
    have sound : (Lib.run (Node.step env) start before).market.Sound :=
      Always.final (always_of_step (P := fun _ _ => True) (Q := fun db => db.market.Sound)
        (fun db a h _ => Market.sound_moves (Node.step_moves env db a) h)
        (empty ▸ Market.sound_empty) (along_true start before))
    intro home out reply later float iso asked delivered exact_ spelled
    exact reply_accepted quotes sound asked delivered exact_ spelled
  · have once : Once final.outbox.talk :=
      Always.final (always_of_step (P := fun _ _ => True) (Q := fun db => Once db.outbox.talk)
        (fun db a h _ => once_moves (Node.step_moves env db a) h)
        (fun _ => by rw [silent]; exact Nat.zero_le _) (along_true start run))
    exact fun b => once b.msgId

/-- The city that sells `Node.purchase`. -/
def vendor : Env where
  cfg := .drawing "BBB" [Node.lease]
  jwt := { Node.buyer.jwt with
    unverified := fun _ =>
      some (Node.promised ++ [("iat",.int 0),("iss",.str "wallet.energyshark")]) }

def sale : List Node.Action :=
  let attempt : SwapDispatch.ProposalAttempt :=
    { idpk := Node.purchaseIdpk, claimToken := Node.lease, idempotencyKey := Node.purchaseIdpk
      giveAmount := 10, takeAmount := 20, counterpartCityId := "AAA", memo := "BBB-C1"
      expiresAt := 3, attemptCount := 1 }
  [.sellerOffer "C1" 100 0,
    .reprice "BBB-C1" (.finite 2) 0,
    .ingest (Node.bidMessage Node.purchaseIdpk Node.lease "C1" "AAA" "BBB-C1" 10) 1,
    .claimProposal [] 2,
    .settleProposal attempt (.response 202 (.obj [("swapId",.str "s9")])) 3,
    .ingest (Node.walletMessage .swapProposed "p1" "p2"
      (Node.promised.filter (fun f => f.1 ∈ ["memo","proposer","give","take"]) ++
        [("idpk",.str Node.purchaseIdpk),("swapId",.str "s9"),("token",.str "t"),
          ("expiresAt",.str "1970-01-01T00:02:00Z")])) 4]

/-- The buyer of that sale, before the answer. -/
def waiting : Db := Lib.run (Node.step Node.buyer) (Node.opened "C1") (Node.purchase.take 3)

def answer : Content :=
  .bidAccepted Node.lease "BBB-C1" 10 2 20 "s9" "t" (seconds 120)

def spoken (_ : Instant) : String := "1970-01-01T00:02:00Z"

theorem waiting_asked {b : MarketBid} (msgId : b.msgId = Node.lease) (cycle : b.cycleId = "C1")
    (offer : b.offerId = "BBB-C1") (quantity : b.quantity = 10) :
    ∃ out, out.idpk = Node.purchaseIdpk ∧ Asked waiting "BBB" b out := by
  have bid : (waiting.market.bids.get? Node.purchaseIdpk).isSome = true := by decide +kernel
  obtain ⟨out,hout⟩ := Option.isSome_iff_exists.mp bid
  have key : out.idpk = Node.purchaseIdpk := Table.key_of_get? hout
  have facts : ∀ x ∈ waiting.market.bids.get? Node.purchaseIdpk,
      (x.direction = .outgoing ∧ x.status = .pending) ∧
        x.terms = ("C1","BBB-C1","BBB",10) := by decide +kernel
  have row : ∃ row ∈ waiting.outbox.get? Node.lease,
      row.content.type = .bid ∧ row.idpk = Node.purchaseIdpk ∧ row.cycleId = some "C1" := by
    decide +kernel
  have spelled : uuidText Node.lease = some Node.lease := by decide +kernel
  refine ⟨out,key,?_,key ▸ hout,(facts out hout).1,?_,?_⟩
  · rw [msgId,key,cycle]
    exact row
  · rw [cycle,offer,quantity]
    exact (facts out hout).2
  · rw [msgId]
    exact spelled

/-- The answer to the sale, as the buyer receives it. -/
def reply : Payload :=
  Node.envelope .bidAccepted "r1" "r2" (some "BBB") (wireData (fun q => q) spoken answer)

theorem sale_accepted : ∃ x ∈ acceptances
      (Lib.run (Node.step vendor) (Node.opened "C1") sale).outbox.talk,
    Delivered (fun q => q) spoken vendor.cfg x reply ∧ ∃ out done, out.idpk = Node.purchaseIdpk ∧
      BidReplies.processBidReply waiting reply (seconds 62) = .ok (done,none) ∧
      done.market.bids.get? out.idpk = some (BidReplies.acceptedBid out "s9" (seconds 62)) := by
  have told : ∃ x ∈ acceptances (Lib.run (Node.step vendor) (Node.opened "C1") sale).outbox.talk,
      x.content = answer ∧ x.cycleId = some "C1" := by decide +kernel
  obtain ⟨x,hx,content,cycle⟩ := told
  obtain ⟨_,payload,now,_,b,r,_,quotes,accepts⟩ :=
    (acceptances_quoted vendor (Node.opened "C1") rfl (by decide) sale).1 x hx
  obtain ⟨_,_,_,_,known,_,_,_,_,_,_,quoted,_,inCycle⟩ := quotes.content
  rw [content,answer] at quoted
  injection quoted with msgId offer quantity _ _ swap
  rw [cycle,Option.some.injEq] at inCycle
  obtain ⟨out,key,asked⟩ := waiting_asked msgId.symm inCycle.symm offer.symm quantity.symm
  have delivered : Delivered (fun q => q) spoken vendor.cfg x reply :=
    ⟨by rw [content]; rfl,cycle.symm,rfl,by rw [content]; rfl⟩
  have digits : Spelled spoken x.content := by
    rw [content]
    exact ⟨⟨2,0,by decide,by norm_num⟩,⟨20,0,by decide,by norm_num⟩,by decide +kernel⟩
  obtain ⟨swapId,done,named,accepted,stored⟩ :=
    accepts waiting out reply (seconds 62) _ _ asked delivered (fun _ _ => rfl) digits
  obtain rfl : swapId = "s9" :=
    Option.some.inj (named.symm.trans (known.trans (congrArg some swap.symm)))
  exact ⟨x,hx,delivered,out,done,key,accepted,stored⟩

end BidAcceptance

end EnergyNode
