import EnergyNode.BidTurns

/-! One tick for all offers with due bids. What it does to one offer leaves the
others alone, so each gets the greedy allocation of what was available when the
tick began. -/
namespace EnergyNode
open Lib

namespace SellerBids
variable {cfg : Config} {db db' : Db} {now : Instant}

/-! ### The offers of a tick -/

/-- The offer is left out, or its bids take their turns. -/
theorem processOffer_cases {locked : List String} {offerId : String} {s t : Db × Tally}
    (h : processOffer cfg locked now s offerId = .ok t) :
    t.1 = s.1 ∨ ∃ policy tally, offerId ∉ locked ∧
      (ordered (pending s.1.market offerId) policy).foldlM (reserveNext cfg now) (s.1,tally) =
        .ok t := by
  unfold processOffer at h
  dsimp only at h
  split at h
  · cases h
    exact .inl rfl
  · rename_i offer found
    obtain ⟨found,free⟩ := Option.filter_eq_some_iff.mp found
    have key := (SellerOffers.localOffer?_spec found).2.1
    rw [key] at h
    split at h
    · cases h
      exact .inl rfl
    obtain ⟨policy,_,h⟩ := Fallible.bind_ok.mp h
    split at h
    · cases h
      exact .inl rfl
    exact .inr ⟨policy,_,of_decide_eq_true free,h⟩

theorem processOffer_due {locked : List String} {s : Db × Tally} {offer : MarketOffer}
    {policy : Policy} (found : SellerOffers.localOffer? cfg s.1.market offer.offerId = some offer)
    (free : offer.offerId ∉ locked) (known : cycleAcceptancePolicy s.1 offer.cycleId = .ok policy)
    (ready : policy = .fifo ∨ due s.1 offer (pending s.1.market offer.offerId) now = true) :
    ∃ tally, processOffer cfg locked now s offer.offerId =
      (ordered (pending s.1.market offer.offerId) policy).foldlM (reserveNext cfg now) (s.1,tally) := by
  unfold processOffer
  dsimp only
  rw [found,Option.filter_some,if_pos (decide_eq_true free)]
  dsimp only
  split
  · rename_i none
    rw [List.isEmpty_iff.mp none]
    exact ⟨s.2,rfl⟩
  · have waits : (policy ≠ .fifo && !due s.1 offer (pending s.1.market offer.offerId) now) = false := by
      rcases ready with rfl | ready
      · rfl
      · rw [ready,Bool.not_true,Bool.and_false]
    rw [known,Fallible.ok_bind,waits]
    exact ⟨_,rfl⟩

/-- The waiting bids of the offers that no other worker holds. -/
def Waiting (locked ids : List String) (market : Market) (bid : MarketBid) : Prop :=
  ∃ offerId ∈ ids, offerId ∉ locked ∧ bid ∈ pending market offerId

theorem spares_processOffer {locked : List String} {offerId : String} {s t : Db × Tally}
    (h : processOffer cfg locked now s offerId = .ok t) :
    Spares (Waiting locked [offerId] s.1.market) s.1 t.1 := by
  rcases processOffer_cases h with same | ⟨policy,tally,free,turns⟩
  · rw [same]
    exact .refl _ _
  · have perm := ordered_perm (pending s.1.market offerId) policy
    have read := (read_pending s.1 offerId).perm perm
    exact (spares_run (s := (s.1,tally)) read turns).mono fun b hb =>
      ⟨offerId,List.mem_singleton_self offerId,free,perm.mem_iff.mp hb⟩

theorem Waiting.offerId {locked ids : List String} {market : Market} {bid : MarketBid}
    (h : Waiting locked ids market bid) : bid.offerId ∈ ids ∧ bid.offerId ∉ locked := by
  obtain ⟨offerId,listed,free,waiting⟩ := h
  rw [(mem_pending.mp waiting).2.1]
  exact ⟨listed,free⟩

theorem Waiting.pending {locked ids : List String} {market : Market} {bid : MarketBid}
    (h : Waiting locked ids market bid) : bid ∈ SellerBids.pending market bid.offerId := by
  obtain ⟨offerId,listed,free,waiting⟩ := h
  rwa [(mem_pending.mp waiting).2.1]

/-- What waits at other offers waits on. -/
theorem waiting_congr {locked ids others : List String} {a b : Db}
    (spares : Spares (Waiting locked ids a.market) a b) (apart : ∀ offerId ∈ others, offerId ∉ ids)
    {bid : MarketBid} (h : Waiting locked others b.market bid) : Waiting locked others a.market bid := by
  obtain ⟨offerId,listed,free,waiting⟩ := h
  refine ⟨offerId,listed,free,?_⟩
  rwa [← spares.pending offerId fun t ht e => apart offerId listed (e ▸ ht.offerId.1)]

/-- Bids of two offers are two rows. -/
theorem pending_ne {market : Market} {offerId other : String} {a b : MarketBid}
    (ha : a ∈ pending market offerId) (hb : b ∈ pending market other) (ne : offerId ≠ other) :
    a.idpk ≠ b.idpk := by
  intro same
  have row := Table.eq_of_key (mem_pending.mp ha).1 (mem_pending.mp hb).1 same
  apply ne
  rw [← (mem_pending.mp ha).2.1,← (mem_pending.mp hb).2.1,row]

theorem candidateOffers_nodup (cfg : Config) (market : Market) (maxOffers : Nat) :
    (candidateOffers cfg market maxOffers).Nodup := by
  unfold candidateOffers
  refine List.Nodup.sublist (List.take_sublist _ _) ?_
  refine (((List.perm_insertionSort _ _).map MarketOffer.offerId).nodup_iff).mpr ?_
  exact market.offers.nodup.sublist (List.filter_sublist.map _)

theorem spares_offers {locked ids : List String} {s t : Db × Tally} (distinct : ids.Nodup)
    (h : ids.foldlM (processOffer cfg locked now) s = .ok t) :
    Spares (Waiting locked ids s.1.market) s.1 t.1 := by
  induction ids generalizing s with
  | nil =>
    rw [List.foldlM_nil,Fallible.pure_ok] at h
    exact h ▸ .refl _ _
  | cons offerId ids ih =>
    rw [List.foldlM_cons] at h
    obtain ⟨u,first,rest⟩ := Fallible.bind_ok.mp h
    obtain ⟨fresh,distinct⟩ := List.nodup_cons.mp distinct
    have turn := spares_processOffer first
    refine (turn.mono ?_).trans ((ih distinct rest).mono fun bid hbid => ?_)
    · rintro bid ⟨_,listed,waiting⟩
      exact ⟨_,List.mem_cons.mpr (.inl (List.mem_singleton.mp listed)),waiting⟩
    · have apart : ∀ other ∈ ids, other ∉ [offerId] := fun other hother h =>
        fresh (List.mem_singleton.mp h ▸ hother)
      obtain ⟨other,listed,waiting⟩ := waiting_congr turn apart hbid
      exact ⟨other,List.mem_cons_of_mem offerId listed,waiting⟩

/-- An offer the tick takes up: its bids are due by the policy of its cycle. -/
structure Due (cfg : Config) (db : Db) (locked : List String) (maxOffers : Nat) (now : Instant)
    (offer : MarketOffer) (policy : Policy) : Prop extends Selling cfg now db offer where
  candidate : offer.offerId ∈ candidateOffers cfg db.market maxOffers
  unlocked : offer.offerId ∉ locked
  known : cycleAcceptancePolicy db offer.cycleId = .ok policy
  ready : policy = .fifo ∨ due db offer (pending db.market offer.offerId) now = true
  validated : ∀ bid ∈ pending db.market offer.offerId, Validated cfg db offer bid

section Tick
variable {locked : List String} {maxOffers : Nat} {offer : MarketOffer} {policy : Policy}
  {tally : Tally}

/-- The tick around the turn of one candidate. -/
theorem tick_around {offerId : String} (candidate : offerId ∈ candidateOffers cfg db.market maxOffers)
    (h : processDueSellerBids cfg db locked maxOffers now = .ok (db',tally)) :
    ∃ before after s t, offerId ∉ before ∧ offerId ∉ after ∧
      Spares (Waiting locked before db.market) db s.1 ∧
      processOffer cfg locked now s offerId = .ok t ∧
      Spares (Waiting locked after t.1.market) t.1 db' := by
  unfold processDueSellerBids at h
  split at h
  · cases h
  have distinct := candidateOffers_nodup cfg db.market maxOffers
  obtain ⟨before,after,split⟩ := List.append_of_mem candidate
  rw [split] at distinct h
  rw [List.foldlM_append] at h
  obtain ⟨s,first,h⟩ := Fallible.bind_ok.mp h
  rw [List.foldlM_cons] at h
  obtain ⟨t,own,rest⟩ := Fallible.bind_ok.mp h
  obtain ⟨distinctBefore,distinctAfter,apart⟩ := List.nodup_append.mp distinct
  obtain ⟨apart',distinctAfter⟩ := List.nodup_cons.mp distinctAfter
  refine ⟨before,after,s,t,?_,apart',spares_offers distinctBefore first,own,
    spares_offers distinctAfter rest⟩
  exact fun listed => apart offerId listed offerId (List.mem_cons_self ..) rfl

/-- What other offers did leaves a due offer due, with the bids it had. -/
theorem Due.turn {ids : List String} {s t : Db × Tally}
    (due_ : Due cfg db locked maxOffers now offer policy) (other : offer.offerId ∉ ids)
    (earlier : Spares (Waiting locked ids db.market) db s.1)
    (own : processOffer cfg locked now s offer.offerId = .ok t) :
    pending s.1.market offer.offerId = pending db.market offer.offerId ∧
    ∀ turn ∈ Greedy.turns MarketBid.quantity (availableKwh db.market offer)
        (ordered (pending db.market offer.offerId) policy),
      Answered now offer t.1 turn.1 turn.2 := by
  have untouched (bid : MarketBid) (h : Waiting locked ids db.market bid) :
      bid.offerId ≠ offer.offerId := by
    intro e
    exact other (e ▸ h.offerId.1)
  have waiting := earlier.pending offer.offerId untouched
  have room : availableKwh s.1.market offer = availableKwh db.market offer := by
    unfold availableKwh
    rw [earlier.held offer.offerId untouched]
  have selling := due_.toSelling.spares earlier
  have known : cycleAcceptancePolicy s.1 offer.cycleId = .ok policy := by
    unfold cycleAcceptancePolicy
    rw [earlier.books,earlier.strategies]
    exact due_.known
  have ready : policy = .fifo ∨
      due s.1 offer (pending s.1.market offer.offerId) now = true := by
    unfold due
    rw [earlier.books,waiting]
    exact due_.ready
  obtain ⟨tally',run⟩ := processOffer_due selling.found due_.unlocked known ready
  rw [run,waiting] at own
  have perm := ordered_perm (pending db.market offer.offerId) policy
  have queue : Queue cfg now offer (ordered (pending db.market offer.offerId) policy) (s.1,tally') :=
    { selling := selling
      keys := ((read_pending db offer.offerId).perm perm).keys
      validated := fun bid hbid => (due_.validated bid (perm.mem_iff.mp hbid)).spares earlier
      waiting := fun bid hbid => waiting ▸ perm.mem_iff.mp hbid }
  exact ⟨waiting,fun turn hturn => answered_run queue own turn (room.symm ▸ hturn)⟩

/-- Every due bid has its answer when the tick ends, whatever it did before and after. -/
theorem answered_tick (due_ : Due cfg db locked maxOffers now offer policy)
    (h : processDueSellerBids cfg db locked maxOffers now = .ok (db',tally)) :
    ∀ turn ∈ Greedy.turns MarketBid.quantity (availableKwh db.market offer)
        (ordered (pending db.market offer.offerId) policy),
      Answered now offer db' turn.1 turn.2 := by
  obtain ⟨before,after,s,t,other,apart,earlier,own,later⟩ := tick_around due_.candidate h
  obtain ⟨waiting,answered⟩ := due_.turn other earlier own
  intro turn hturn
  refine (answered turn hturn).spares later ?_
  intro bid hbid
  -- What waits later is what waited when the turn began.
  have aside : ∀ offerId ∈ after, offerId ∉ [offer.offerId] := fun offerId hid h =>
    apart (List.mem_singleton.mp h ▸ hid)
  have hbid := waiting_congr (spares_processOffer own) aside hbid
  have perm := ordered_perm (pending db.market offer.offerId) policy
  have mine : turn.1 ∈ pending s.1.market offer.offerId := by
    rw [waiting]
    refine perm.mem_iff.mp ?_
    rw [← Greedy.map_turns MarketBid.quantity (availableKwh db.market offer)
      (ordered (pending db.market offer.offerId) policy)]
    exact List.mem_map_of_mem hturn
  exact pending_ne hbid.pending mine fun e => apart (e ▸ hbid.offerId.1)

end Tick

/-! ### The allocation -/

section Allocation
variable {offer : MarketOffer} {policy : Policy}

/-- The bids that the greedy allocation in the order of the policy accepts. -/
def accepted (db : Db) (offer : MarketOffer) (policy : Policy) (read : List MarketBid) :
    List MarketBid :=
  Greedy.taken MarketBid.quantity (availableKwh db.market offer) (ordered read policy)

def isReserved (db : Db) (bid : MarketBid) : Bool :=
  (db.market.bids.get? bid.idpk).map MarketBid.status = some .reserved

/-- What the tick makes of the bids it read at an offer. -/
structure Allocated (now : Instant) (db db' : Db) (offer : MarketOffer) (policy : Policy)
    (read : List MarketBid) : Prop where
  answered : ∀ turn ∈ Greedy.turns MarketBid.quantity (availableKwh db.market offer)
    (ordered read policy), Answered now offer db' turn.1 turn.2
  reserved : ∀ bid ∈ read, isReserved db' bid ↔ bid ∈ accepted db offer policy read
  others : ∀ bid ∈ db.market.bids, bid.offerId = offer.offerId → bid ∉ read →
    db'.market.bids.get? bid.idpk = some bid
  within : ((read.filter (isReserved db')).map MarketBid.quantity).sum ≤
    availableKwh db.market offer
  optimal : policy = .batch → ∀ chosen : List MarketBid, chosen.Subperm read →
    (chosen.map MarketBid.quantity).sum ≤ availableKwh db.market offer →
    chosen.length ≤ (read.filter (isReserved db')).length

theorem mem_accepted {read : List MarketBid} {bid : MarketBid} :
    bid ∈ accepted db offer policy read ↔ ∃ room,
      (bid,room) ∈ Greedy.turns MarketBid.quantity (availableKwh db.market offer)
        (ordered read policy) ∧ bid.quantity ≤ room := by
  simp [accepted,Greedy.taken]

theorem turn_of_mem (db : Db) (offer : MarketOffer) (policy : Policy) {read : List MarketBid}
    {bid : MarketBid} (h : bid ∈ read) :
    ∃ room, (bid,room) ∈ Greedy.turns MarketBid.quantity (availableKwh db.market offer)
      (ordered read policy) := by
  have listed := (ordered_perm read policy).mem_iff.mpr h
  rw [← Greedy.map_turns MarketBid.quantity (availableKwh db.market offer)
    (ordered read policy)] at listed
  obtain ⟨⟨_,room⟩,hturn,rfl⟩ := List.mem_map.mp listed
  exact ⟨room,hturn⟩

theorem accepted_sublist (read : List MarketBid) :
    (accepted db offer policy read).Sublist (ordered read policy) := Greedy.taken_sublist _ _

theorem reserved_iff {read : List MarketBid}
    (answered : ∀ turn ∈ Greedy.turns MarketBid.quantity (availableKwh db.market offer)
      (ordered read policy), Answered now offer db' turn.1 turn.2) {bid : MarketBid}
    (h : bid ∈ read) : isReserved db' bid ↔ bid ∈ accepted db offer policy read := by
  unfold isReserved
  rw [decide_eq_true_eq]
  constructor
  · intro reserved
    obtain ⟨room,hturn⟩ := turn_of_mem db offer policy h
    obtain ⟨next,stored,status⟩ := (answered _ hturn).status
    rw [stored,Option.map_some,Option.some.injEq,status] at reserved
    split at reserved
    · rename_i fits
      exact mem_accepted.mpr ⟨room,hturn,fits⟩
    · cases reserved
  · intro taken
    obtain ⟨room,hturn,fits⟩ := mem_accepted.mp taken
    rw [((answered _ hturn).reserved fits).1]
    rfl

theorem reserved_perm {read : List MarketBid} (distinct : read.Nodup)
    (answered : ∀ turn ∈ Greedy.turns MarketBid.quantity (availableKwh db.market offer)
      (ordered read policy), Answered now offer db' turn.1 turn.2) :
    (read.filter (isReserved db')).Perm (accepted db offer policy read) := by
  have perm := ordered_perm read policy
  refine (List.perm_ext_iff_of_nodup (distinct.filter _)
    ((perm.nodup_iff.mpr distinct).sublist (accepted_sublist read))).mpr fun bid => ?_
  rw [List.mem_filter]
  constructor
  · rintro ⟨h,reserved⟩
    exact (reserved_iff answered h).mp reserved
  · intro taken
    have h := perm.mem_iff.mp ((accepted_sublist read).subset taken)
    exact ⟨h,(reserved_iff answered h).mpr taken⟩

theorem spares_tick {locked : List String} {maxOffers : Nat} {tally : Tally}
    (h : processDueSellerBids cfg db locked maxOffers now = .ok (db',tally)) :
    Spares (Waiting locked (candidateOffers cfg db.market maxOffers) db.market) db db' := by
  unfold processDueSellerBids at h
  split at h
  · cases h
  · exact spares_offers (candidateOffers_nodup cfg db.market maxOffers) h

theorem allocated {locked : List String} {maxOffers : Nat} {tally : Tally}
    (due_ : Due cfg db locked maxOffers now offer policy) {read : List MarketBid}
    (perm : read.Perm (pending db.market offer.offerId))
    (h : processDueSellerBids cfg db locked maxOffers now = .ok (db',tally)) :
    Allocated now db db' offer policy read := by
  have waiting := read_pending db offer.offerId
  have same : ordered read policy = ordered (pending db.market offer.offerId) policy :=
    ordered_congr perm fun a ha b hb => waiting.eq_of_key ha hb
  have answered := answered_tick due_ h
  rw [← same] at answered
  have taken := reserved_perm (List.Nodup.of_map _ (waiting.perm perm).keys) answered
  refine ⟨answered,fun bid => reserved_iff answered,?_,?_,?_⟩
  · intro bid hbid own unread
    rw [(spares_tick h).bids]
    · exact Table.get?_of_mem hbid
    · intro other hother key
      have row := Table.eq_of_key (mem_pending.mp hother.pending).1 hbid key
      have mine := hother.pending
      rw [row,own] at mine
      exact unread (perm.mem_iff.mpr mine)
  · rw [(taken.map MarketBid.quantity).sum_eq]
    exact Greedy.sum_taken_le (le_max_left 0 _) _
  · rintro rfl chosen sub fits
    rw [taken.length_eq]
    refine Greedy.taken_optimal (batch_ascending read) ?_
      (sub.trans (ordered_perm read .batch).symm.subperm) fits
    intro bid hbid
    obtain ⟨minBid,known,enough⟩ :=
      (due_.validated bid (perm.mem_iff.mp ((ordered_perm read .batch).mem_iff.mp hbid))).minBid
    obtain ⟨cycle,_,known⟩ := Option.bind_eq_some_iff.mp known
    exact (minBid?_pos known).le.trans enough

end Allocation

/-! ### The tick completes -/

/-- A bid that neither a reservation nor an earlier answer stands in the way of. -/
structure Answerable (db : Db) (bid : MarketBid) : Prop where
  buyer : cityCode bid.counterpartCityId
  cycleId : bid.cycleId ≠ ""
  offerId : bid.offerId ≠ ""
  quantity : 1 ≤ bid.quantity
  target : ∃ target, uuidText bid.msgId = some target
  unanswered : ∀ row ∈ db.outbox, row.content.type = .bidRejected →
    row.targetMsgId ≠ uuidText bid.msgId
  unreserved : db.market.reservations.get? bid.idpk = none
  unswapped : db.market.swaps.get? bid.idpk = none

theorem Answerable.spares {T : MarketBid → Prop} {a b : Db} {bid : MarketBid}
    (h : Answerable a bid) (spares : Spares T a b)
    (apart : ∀ t, T t → t.idpk ≠ bid.idpk ∧ uuidText t.msgId ≠ uuidText bid.msgId) :
    Answerable b bid where
  buyer := h.buyer
  cycleId := h.cycleId
  offerId := h.offerId
  quantity := h.quantity
  target := h.target
  unanswered row hrow rejection same := by
    rcases spares.answers row hrow with old | ⟨t,ht,answers⟩
    · exact h.unanswered row old rejection same
    · exact (apart t ht).2 (answers.symm.trans same)
  unreserved := (spares.reservations _ fun t ht => (apart t ht).1).trans h.unreserved
  unswapped := (spares.swaps _ fun t ht => (apart t ht).1).trans h.unswapped

/-- Only a rejection for the quantity quotes what was left. -/
theorem refusal_available {bid : MarketBid} {offer : Option MarketOffer} {reason : RejectionReason}
    {available : Option Int} (h : refusal cfg db bid offer now = some (reason,available)) :
    (reason = .quantityUnavailable ∧ ∃ room, available = some room ∧ 0 ≤ room ∧ room < bid.quantity) ∨
      (reason ≠ .quantityUnavailable ∧ available = none) := by
  unfold refusal at h
  dsimp only at h
  split at h
  · cases h
    exact .inr ⟨by decide,rfl⟩
  split at h
  · cases h
    exact .inr ⟨by decide,rfl⟩
  rename_i offer
  split at h
  · cases h
    exact .inr ⟨by decide,rfl⟩
  split at h
  · cases h
    exact .inr ⟨by decide,rfl⟩
  split at h
  · cases h
    exact .inr ⟨by decide,rfl⟩
  split at h
  · cases h
    exact .inr ⟨by decide,rfl⟩
  split at h
  · rename_i large
    cases h
    exact .inl ⟨rfl,_,rfl,le_max_left 0 _,large⟩
  · cases h

theorem reject_completes {bid : MarketBid} {offer : Option MarketOffer} {reason : RejectionReason}
    {available : Option Int} (ready : Answerable db bid)
    (refused : refusal cfg db bid offer now = some (reason,available)) :
    ∃ done, reject cfg db bid reason available now = .ok done := by
  obtain ⟨target,spelled⟩ := ready.target
  have named : rejectionTarget ⟨bid.msgId,bid.cycleId,bid.offerId,bid.quantity,
      bid.counterpartCityId,reason,available⟩ = .ok target := by
    unfold rejectionTarget
    dsimp only
    rw [if_pos ready.buyer,if_neg ready.cycleId,if_neg ready.offerId,
      if_neg (not_lt.mpr ready.quantity),spelled]
    rcases refusal_available refused with ⟨rfl,room,rfl,natural,large⟩ | ⟨other,rfl⟩
    · dsimp only
      rw [if_neg (not_lt.mpr natural),if_neg (not_le.mpr large)]
      rfl
    · cases reason with
      | quantityUnavailable => exact absurd rfl other
      | bidTooSmall | offerWithdrawn | marketClosed | selfTrade => rfl
  have unanswered : (db.outbox.rows.find? fun row =>
      decide (row.content.type = .bidRejected ∧ row.targetMsgId = some target)) = none := by
    rw [List.find?_eq_none]
    intro row hrow answers
    rw [decide_eq_true_eq] at answers
    exact ready.unanswered row hrow answers.1 (answers.2.trans spelled.symm)
  unfold reject enqueueBidRejected
  rw [named,Fallible.ok_bind,unanswered]
  exact ⟨_,rfl⟩

theorem reserve_completes {bid : MarketBid} (stored : db.market.bids.get? bid.idpk = some bid)
    (incoming : bid.direction = .incoming) (status : bid.status = .pending)
    (ready : Answerable db bid) :
    ∃ done, reserveIncomingBid cfg db bid.idpk now = .ok done := by
  have found : incomingBid? db.market bid.idpk = some bid := by
    unfold incomingBid?
    rw [stored,Option.filter_some,decide_eq_true incoming]
    rfl
  unfold reserveIncomingBid
  simp only [found,status]
  cases refused : refusal cfg db bid (offerOf? cfg db.market bid.offerId bid.cycleId) now with
  | some refusal =>
    obtain ⟨reason,available⟩ := refusal
    obtain ⟨done,rejected⟩ := reject_completes ready refused
    dsimp only
    rw [rejected]
    exact ⟨_,rfl⟩
  | none =>
    cases named : offerOf? cfg db.market bid.offerId bid.cycleId with
    | none =>
      rw [named] at refused
      unfold refusal at refused
      dsimp only at refused
      split at refused <;> cases refused
    | some offer =>
      dsimp only
      rw [dif_pos ⟨ready.unreserved,ready.unswapped⟩]
      exact ⟨_,rfl⟩

/-- Bids of distinct messages, each of which can be answered. -/
theorem run_completes {bids : List MarketBid} {s : Db × Tally} (read : Read bids s.1)
    (waiting : ∀ bid ∈ bids, bid.direction = .incoming ∧ bid.status = .pending)
    (ready : ∀ bid ∈ bids, Answerable s.1 bid)
    (distinct : ∀ a ∈ bids, ∀ b ∈ bids, uuidText a.msgId = uuidText b.msgId → a = b) :
    ∃ t, bids.foldlM (reserveNext cfg now) s = .ok t := by
  induction bids generalizing s with
  | nil => exact ⟨s,rfl⟩
  | cons bid bids ih =>
    have head := List.mem_cons_self (a := bid) (l := bids)
    obtain ⟨⟨after,outcome⟩,reserved⟩ : ∃ done,
        reserveIncomingBid cfg s.1 bid.idpk now = .ok done :=
      reserve_completes (read.stored bid head) (waiting bid head).1 (waiting bid head).2
        (ready bid head)
    have first : reserveNext cfg now s bid = .ok (after,s.2.count outcome) := by
      unfold reserveNext
      rw [reserved]
      rfl
    have turn := spares_reserveNext (read.stored bid head) first
    obtain ⟨t,rest⟩ := ih (s := (after,s.2.count outcome)) (read.tail turn)
      (fun b hb => waiting b (List.mem_cons_of_mem bid hb))
      (fun b hb => (ready b (List.mem_cons_of_mem bid hb)).spares turn fun t ht => by
        subst ht
        refine ⟨(read.other b hb).symm,fun same => read.other b hb ?_⟩
        rw [distinct t head b (List.mem_cons_of_mem t hb) same])
      (fun a ha b hb => distinct a (List.mem_cons_of_mem bid ha) b (List.mem_cons_of_mem bid hb))
    refine ⟨t,?_⟩
    rw [List.foldlM_cons,first]
    exact rest

/-- Every offer taken up has a policy, its bids can be answered, and no two of
them came by one message. -/
structure Completable (cfg : Config) (db : Db) (locked ids : List String) : Prop where
  known : ∀ offerId ∈ ids, offerId ∉ locked → ∀ offer,
    SellerOffers.localOffer? cfg db.market offerId = some offer →
      ∃ policy, cycleAcceptancePolicy db offer.cycleId = .ok policy
  answerable : ∀ bid, Waiting locked ids db.market bid → Answerable db bid
  distinct : ∀ a b, Waiting locked ids db.market a → Waiting locked ids db.market b →
    uuidText a.msgId = uuidText b.msgId → a = b

theorem processOffer_completes {locked : List String} {offerId : String} {s : Db × Tally}
    (h : Completable cfg s.1 locked [offerId]) :
    ∃ t, processOffer cfg locked now s offerId = .ok t := by
  unfold processOffer
  dsimp only
  split
  · exact ⟨s,rfl⟩
  · rename_i offer found
    obtain ⟨found,free⟩ := Option.filter_eq_some_iff.mp found
    have key := (SellerOffers.localOffer?_spec found).2.1
    have free := of_decide_eq_true free
    rw [key]
    split
    · exact ⟨s,rfl⟩
    obtain ⟨policy,known⟩ := h.known offerId (List.mem_singleton_self offerId) free offer found
    rw [known,Fallible.ok_bind]
    split
    · exact ⟨_,rfl⟩
    have perm := ordered_perm (pending s.1.market offerId) policy
    have listed (bid : MarketBid) (hbid : bid ∈ ordered (pending s.1.market offerId) policy) :
        Waiting locked [offerId] s.1.market bid :=
      ⟨offerId,List.mem_singleton_self offerId,free,perm.mem_iff.mp hbid⟩
    refine run_completes (s := (s.1,_)) ((read_pending s.1 offerId).perm perm)
      (fun bid hbid => (mem_pending.mp (perm.mem_iff.mp hbid)).2.2)
      (fun bid hbid => h.answerable bid (listed bid hbid))
      (fun a ha b hb => h.distinct a b (listed a ha) (listed b hb))

theorem offers_complete {locked ids : List String} {s : Db × Tally} (distinct : ids.Nodup)
    (h : Completable cfg s.1 locked ids) :
    ∃ t, ids.foldlM (processOffer cfg locked now) s = .ok t := by
  induction ids generalizing s with
  | nil => exact ⟨s,rfl⟩
  | cons offerId ids ih =>
    obtain ⟨fresh,distinct⟩ := List.nodup_cons.mp distinct
    have among {market : Market} {bid : MarketBid} (hb : Waiting locked [offerId] market bid) :
        Waiting locked (offerId :: ids) market bid := by
      obtain ⟨other,listed,waiting⟩ := hb
      exact ⟨other,List.mem_cons.mpr (.inl (List.mem_singleton.mp listed)),waiting⟩
    have later {market : Market} {bid : MarketBid} (hb : Waiting locked ids market bid) :
        Waiting locked (offerId :: ids) market bid := by
      obtain ⟨other,listed,waiting⟩ := hb
      exact ⟨other,List.mem_cons_of_mem offerId listed,waiting⟩
    have alone : Completable cfg s.1 locked [offerId] :=
      { known := fun other hother => h.known other (by
          rw [List.mem_singleton.mp hother]
          exact List.mem_cons_self ..)
        answerable := fun bid hb => h.answerable bid (among hb)
        distinct := fun a b ha hb => h.distinct a b (among ha) (among hb) }
    obtain ⟨u,first⟩ : ∃ u, processOffer cfg locked now s offerId = .ok u :=
      processOffer_completes alone
    have turn := spares_processOffer first
    have apart : ∀ other ∈ ids, other ∉ [offerId] := fun other hother e =>
      fresh (List.mem_singleton.mp e ▸ hother)
    have next : Completable cfg u.1 locked ids := by
      refine ⟨?_,?_,?_⟩
      · intro other hother free offer found
        have found' : SellerOffers.localOffer? cfg s.1.market other = some offer := by
          unfold SellerOffers.localOffer?
          rw [← turn.offers]
          exact found
        obtain ⟨policy,known⟩ :=
          h.known other (List.mem_cons_of_mem offerId hother) free offer found'
        refine ⟨policy,?_⟩
        unfold cycleAcceptancePolicy
        rw [turn.books,turn.strategies]
        exact known
      · intro bid hbid
        have before := waiting_congr turn apart hbid
        refine (h.answerable bid (later before)).spares turn fun t ht => ?_
        have ne : t ≠ bid := by
          rintro rfl
          exact apart _ before.offerId.1 ht.offerId.1
        exact ⟨fun key => ne (Table.eq_of_key (mem_pending.mp ht.pending).1
          (mem_pending.mp before.pending).1 key),fun same => ne (h.distinct t bid (among ht)
            (later before) same)⟩
      · intro a b ha hb
        exact h.distinct a b (later (waiting_congr turn apart ha))
          (later (waiting_congr turn apart hb))
    obtain ⟨t,rest⟩ := ih distinct next
    refine ⟨t,?_⟩
    rw [List.foldlM_cons,first]
    exact rest

/-- What a tick that completes does to an offer it takes up is the greedy
allocation in the order of its policy, however its bids are read; and it
completes unless two bids came by one message, or one was answered before. -/
theorem deferred_allocation {locked : List String} {maxOffers : Nat} {offer : MarketOffer}
    {policy : Policy} (due_ : Due cfg db locked maxOffers now offer policy) {read : List MarketBid}
    (perm : read.Perm (pending db.market offer.offerId)) :
    (∀ db' tally, processDueSellerBids cfg db locked maxOffers now = .ok (db',tally) →
      Allocated now db db' offer policy read) ∧
    (Completable cfg db locked (candidateOffers cfg db.market maxOffers) →
      ∃ db' tally, processDueSellerBids cfg db locked maxOffers now = .ok (db',tally)) := by
  refine ⟨fun db' tally h => allocated due_ perm h,fun complete => ?_⟩
  have examined : ¬ maxOffers < 1 := by
    intro none
    obtain rfl : maxOffers = 0 := by omega
    cases due_.candidate
  unfold processDueSellerBids
  rw [if_neg examined]
  obtain ⟨⟨db',tally⟩,done⟩ := offers_complete (s := (db,{}))
    (candidateOffers_nodup cfg db.market maxOffers) complete
  exact ⟨db',tally,done⟩

/-! ### A batch of bids -/

def seller : Config := .drawing "AAA" []

def soldOffer : MarketOffer where
  offerId := "AAA-C1"
  cycleId := "C1"
  cityId := "AAA"
  isLocal := true
  initialQuantity := 5
  remainingQuantity := 5
  pricePerEnergy := 2
  status := .active

def soldCycle : Cycle where
  cycleId := "C1"
  strategyVersion := some 1
  marketOpensAt := some 0
  marketLastBidAt := some (seconds 60)
  marketClosesAt := some (seconds 70)
  statusPayload := [("market",.obj [("minBid",.int 1)])]

def batches : StrategyConfig where
  version := 1
  status := "ACTIVE"
  createdAt := 0
  bidAcceptancePolicy := "BATCH"
  offerPriceMarkup := 1
  offerQuantityFraction := 1

/-- Five kWh are on sale for a minute. -/
def onSale : Db where
  books := { cycles := ⟨[soldCycle],List.nodup_singleton _⟩ }
  market := { offers := ⟨[soldOffer],List.nodup_singleton _⟩ }
  strategies := ⟨[batches],List.nodup_singleton _⟩

def bidFor (idpk msgId : String) (quantity : Int) (named : idpk ≠ "" := by decide) : Payload where
  idpk := idpk
  named := named
  msgId := msgId
  type := .bid
  timestamp := 0
  cycleId := some "C1"
  cityId := some "BBB"
  data := [("offerId",.str "AAA-C1"),("quantity",.int quantity)]

def arrive (db : Db) (payload : Payload) : Db :=
  match processIncomingBid seller db payload 0 with
  | .ok (db, _) => db
  | .error _ => db

def firstMsg : String := "84000000-0000-0000-0000-0000000000a1"
def secondMsg : String := "84000000-0000-0000-0000-0000000000a2"

/-- Two bids came by one message, and neither fits beside the first. -/
def twice : Db :=
  ((arrive · (bidFor "84000000-0000-0000-0000-000000000003" secondMsg 5)) ∘
    (arrive · (bidFor "84000000-0000-0000-0000-000000000002" secondMsg 4)) ∘
    (arrive · (bidFor "84000000-0000-0000-0000-000000000001" firstMsg 4))) onSale

def batch : Db :=
  ((arrive · (bidFor "84000000-0000-0000-0000-000000000005" secondMsg 3)) ∘
    (arrive · (bidFor "84000000-0000-0000-0000-000000000004" firstMsg 4))) onSale

/-- The second answer to a message contradicts the first: the tick rolls back. -/
theorem one_message_conflicts :
    (pending twice.market "AAA-C1").map MarketBid.quantity = [4,4,5] ∧
    availableKwh twice.market soldOffer = 5 ∧
    due twice soldOffer (pending twice.market "AAA-C1") (seconds 3) = true ∧
    (Greedy.turns MarketBid.quantity 5 (ordered (pending twice.market "AAA-C1") .batch)).map
      Prod.snd = [5,1,1] ∧
    (processDueSellerBids seller twice [] 25 (seconds 3)).map Prod.snd =
      .error (.runtime "CONFLICTING_BID_REJECTION") := by
  refine ⟨?_,?_,?_,?_,?_⟩ <;> decide +kernel

def smaller : MarketBid where
  idpk := "84000000-0000-0000-0000-000000000005"
  msgId := secondMsg
  cycleId := "C1"
  direction := .incoming
  offerId := "AAA-C1"
  counterpartCityId := "BBB"
  quantity := 3
  status := .pending
  createdAt := 0

def larger : MarketBid :=
  { smaller with idpk := "84000000-0000-0000-0000-000000000004", msgId := firstMsg, quantity := 4 }

theorem pending_batch : pending batch.market "AAA-C1" = [larger,smaller] := by decide +kernel

theorem batch_due : Due seller batch [] 25 (seconds 3) soldOffer .batch where
  found := by decide +kernel
  active := rfl
  bidding := by decide +kernel
  trading := by decide +kernel
  candidate := by decide +kernel
  unlocked := List.not_mem_nil
  known := by decide +kernel
  ready := .inr (by decide +kernel)
  validated bid h := by
    rw [show soldOffer.offerId = "AAA-C1" from rfl,pending_batch] at h
    rcases List.mem_pair.mp h with rfl | rfl
    · exact ⟨rfl,by decide,1,rfl,by decide⟩
    · exact ⟨rfl,by decide,1,rfl,by decide⟩

theorem candidates_batch : candidateOffers seller batch.market 25 = ["AAA-C1"] := by decide +kernel

theorem batch_completable :
    Completable seller batch [] (candidateOffers seller batch.market 25) := by
  rw [candidates_batch]
  have waiting (bid : MarketBid) (h : Waiting [] ["AAA-C1"] batch.market bid) :
      bid = larger ∨ bid = smaller := by
    obtain ⟨offerId,listed,_,h⟩ := h
    rw [List.mem_singleton.mp listed,pending_batch] at h
    exact List.mem_pair.mp h
  refine ⟨?_,?_,?_⟩
  · intro offerId listed _ offer found
    rw [List.mem_singleton.mp listed,show SellerOffers.localOffer? seller batch.market "AAA-C1" =
      some soldOffer by decide +kernel] at found
    cases found
    exact ⟨.batch,batch_due.known⟩
  · intro bid h
    have sent : ∀ row, row ∉ batch.outbox := fun row h => by cases h
    rcases waiting bid h with rfl | rfl
    · exact ⟨by decide,by decide,by decide,by decide,⟨firstMsg,by decide +kernel⟩,
        fun row h => absurd h (sent row),by decide +kernel,by decide +kernel⟩
    · exact ⟨by decide,by decide,by decide,by decide,⟨secondMsg,by decide +kernel⟩,
        fun row h => absurd h (sent row),by decide +kernel,by decide +kernel⟩
  · intro a b ha hb same
    have apart : uuidText larger.msgId ≠ uuidText smaller.msgId := by decide +kernel
    rcases waiting a ha with rfl | rfl <;> rcases waiting b hb with rfl | rfl
    · rfl
    · exact absurd same apart
    · exact absurd same.symm apart
    · rfl

theorem batch_allocation : ∃ db' tally,
    processDueSellerBids seller batch [] 25 (seconds 3) = .ok (db',tally) ∧
      Allocated (seconds 3) batch db' soldOffer .batch [smaller,larger] := by
  obtain ⟨all,completes⟩ := deferred_allocation batch_due
    ((List.Perm.swap larger smaller []).trans (.of_eq pending_batch.symm))
  obtain ⟨db',tally,done⟩ := completes batch_completable
  exact ⟨db',tally,done,all db' tally done⟩

end SellerBids

end EnergyNode
