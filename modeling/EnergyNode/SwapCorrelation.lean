import EnergyNode.SingleOperation

/-! Which record a swap belongs to. An answer of the wallet and the record of an
accepted bid bring a `swap_id` nobody compares with those of the other records;
where each stands for the record's own operation, no two records have one, and a
settlement finds the deal the wallet settled. -/
namespace EnergyNode
open Lib WalletEvents

namespace SwapCorrelation
open SwapTokens SwapAccept SwapTimeouts

/-- A swap as the wallet has it: `proposer` gives `give` for `take` of `acceptor`. -/
structure WalletSwap where
  proposer : String
  acceptor : String
  offerId : String
  give : Leg
  take : Leg
deriving DecidableEq

/-- What a swap is to us: the sale to a bid, or the purchase by a bid of ours. -/
inductive Operation where
  | sale (bidIdpk : String)
  | purchase (bidIdpk : String)
deriving DecidableEq

def operation (r : SwapRecord) : Operation :=
  match r.role with
  | .proposer => .sale r.idpk
  | .acceptor => .purchase (r.sourceBidIdpk.getD "")

/-- The operation a swapId was issued for, the one a call's key stands for, and the
terms the wallet has an operation on. -/
structure Wallet where
  issued : String → Option Operation
  keyed : String → Option Operation
  terms : Operation → WalletSwap

/-- The keys an event may find a record by. -/
def keysOf (r : SwapRecord) : List String :=
  r.idpk :: r.idempotencyKey :: r.acceptIdempotencyKey.toList

/-- The record is about this swap: its offer, its counterpart and its legs. -/
def About (cfg : Config) (m : Market) (x : WalletSwap) (r : SwapRecord) : Prop :=
  match r.role with
  | .proposer =>
      x.proposer = cfg.cityId ∧ x.acceptor = r.counterpartCityId ∧ r.memo = some x.offerId ∧
        x.give = ⟨r.giveAsset,r.giveAmount⟩ ∧ x.take = ⟨r.takeAsset,r.takeAmount⟩
  | .acceptor =>
      x.acceptor = cfg.cityId ∧ x.proposer = r.counterpartCityId ∧
        x.give = ⟨r.takeAsset,r.takeAmount⟩ ∧ x.take = ⟨r.giveAsset,r.giveAmount⟩ ∧
        ∃ k ∈ r.sourceBidIdpk, ∃ b ∈ m.bids.get? k, b.direction = .outgoing ∧ b.offerId = x.offerId

/-- The wallet keeps a sale on the terms of its record, and a key to one operation. -/
structure Honest (cfg : Config) (wallet : Wallet) (m : Market) : Prop where
  sales : ∀ r ∈ m.swaps, r.role = .proposer → About cfg m (wallet.terms (operation r)) r
  keys : ∀ r ∈ m.swaps, ∀ key ∈ keysOf r, ∀ o ∈ wallet.keyed key, o = operation r

/-- The swap of every record stands for its operation, and a purchase is on its terms. -/
structure Coherent (cfg : Config) (wallet : Wallet) (m : Market) : Prop where
  issued : ∀ r ∈ m.swaps, ∀ id, r.swapId = some id → wallet.issued id = some (operation r)
  bought : ∀ r ∈ m.swaps, r.role = .acceptor → About cfg m (wallet.terms (operation r)) r

/-- The swap a bid of ours and its answer describe. -/
def asked (cfg : Config) (b : MarketBid) (data : Fields) : WalletSwap where
  proposer := b.counterpartCityId
  acceptor := cfg.cityId
  offerId := b.offerId
  give := ⟨.kwh,b.quantity⟩
  take := ⟨.cr,decimal (data.get "amount")⟩

/-- The key of the event stands for an operation, and its swapId for the same. -/
def Names (wallet : Wallet) (data : Fields) : Prop :=
  ∀ key, keyText (data.get "idpk") = .ok (some key) →
    ∃ o ∈ wallet.keyed key, ∀ id, eventSwapId data = .ok (some id) → wallet.issued id = some o

/-- The operation an event is about: that of its swapId, or else of its key. -/
def Concerns (wallet : Wallet) (data : Fields) (o : Operation) : Prop :=
  match eventSwapId data with
  | .ok (some id) => wallet.issued id = some o
  | _ => ∃ key, keyText (data.get "idpk") = .ok (some key) ∧ wallet.keyed key = some o

/-- No record has the swapId of the event. -/
def Unknown (m : Market) (data : Fields) : Prop :=
  ∀ id, eventSwapId data = .ok (some id) → withSwapId? m.swaps id = none

/-- The answer to a POST names the swap of its own operation, and an event that finds
a record by its key names one operation. -/
def Genuine (wallet : Wallet) (m : Market) : Cause → Prop
  | .answer k id => ∀ r ∈ m.swaps.get? k, wallet.issued id = some (operation r)
  | .event _ data _ => Unknown m data → ∀ r, correlate m.swaps data = .ok (some r) → Names wallet data
  | _ => True

/-- The answer to a bid leaves a record: its token is verified or refused for good. -/
def recorded (jwt : Jwt) (jwks : Jwks) (b : MarketBid) (data : Fields) (now : Instant) : Bool :=
  match verifyBidToken jwt jwks b data now with
  | .ok _ => true
  | .error reason => !retryable reason

/-- The swap of an accepted bid that leaves a record is the purchase by this bid, on
the terms the bid and its answer describe. -/
def Answered (env : Env) (wallet : Wallet) (db : Db) : Node.Action → Prop
  | .takeAccepted k jwks now => ∀ b ∈ (db.market.bids.get? k).filter (awaitsAcceptance db.market),
      ∀ payload ∈ acceptance? db b, recorded env.jwt jwks b payload.data now → ∀ id ∈ b.swapId,
        wallet.issued id = some (.purchase k) ∧
          wallet.terms (.purchase k) = asked env.cfg b payload.data
  | _ => True

structure GenuineStep (env : Env) (wallet : Wallet) (db : Db) (a : Node.Action) : Prop where
  causes : ∀ c ∈ Node.causes db a, Genuine wallet (Node.reading db a c) c
  answered : Answered env wallet db a

/-- The record each settlement finds is on the terms the wallet settled. -/
def Settles (cfg : Config) (wallet : Wallet) (db : Db) (a : Node.Action) : Prop :=
  ∀ data rejection, .event .settled data rejection ∈ Node.causes db a →
    let m := Node.reading db a (.event .settled data rejection)
    ∀ r, correlate m.swaps data = .ok (some r) →
      ∃ o, Concerns wallet data o ∧ About cfg m (wallet.terms o) r

/-! ### What a move does to the records -/

section Moves
variable {cfg : Config} {P : Market → Cause → Prop} {m n : Market} {t u : List Talk}

/-- How a record comes to a swap it did not have. -/
inductive Learned (m : Market) (Q : Cause → Prop) (r : SwapRecord) (id : String) : Prop where
  | event {type : EventType} {data : Fields} {rejection : Json} (cause : Q (.event type data rejection))
      (named : eventSwapId data = .ok (some id)) (unknown : Unknown m data)
      (found : correlate m.swaps data = .ok (some r))
  | answer (cause : Q (.answer r.idpk id))

inductive SwapsMove (m : Market) (Q : Cause → Prop) : Table SwapRecord.idpk → Prop where
  | same : SwapsMove m Q m.swaps
  | stored (r s : SwapRecord) (hr : m.swaps.get? r.idpk = some r) (deal : SameDeal r s)
      (id : s.swapId = r.swapId ∨ ∃ id, s.swapId = some id ∧ Learned m Q r id) :
      SwapsMove m Q (m.swaps.set s)
  | intended (r : SwapRecord) (free) (blank : r.swapId = none) (role : r.role = .proposer) :
      SwapsMove m Q (m.swaps.insert r free)
  | taken (b : MarketBid) (r : SwapRecord) (free) (cause : Q (.acceptance b.idpk))
      (hb : m.bids.get? b.idpk = some b) (id : r.swapId = b.swapId) :
      SwapsMove m Q (m.swaps.insert r free)

/-- A record that is found by something else than its swap has none that is known. -/
theorem learned_of_learn {Q : Cause → Prop} {r : SwapRecord} {type : EventType} {data : Fields}
    {rejection : Json} {swapId : Option String} (cause : Q (.event type data rejection))
    (found : correlate m.swaps data = .ok (some r)) (named : eventSwapId data = .ok swapId) :
    (learn r type swapId data).swapId = r.swapId ∨
      ∃ id, (learn r type swapId data).swapId = some id ∧ Learned m Q r id := by
  unfold learn
  dsimp only
  split
  · rename_i new
    rw [Bool.and_eq_true,Bool.not_eq_true'] at new
    cases swapId with
    | none => exact absurd new.2 (by decide)
    | some id =>
      refine .inr ⟨id,rfl,.event cause named (fun other same => ?_) found⟩
      cases named.symm.trans same
      cases known : withSwapId? m.swaps id with
      | none => rfl
      | some other =>
        have carries : other.swapId = some id := by simpa using List.find?_some known
        cases (correlate_known named known).symm.trans found
        rw [carries] at new
        exact absurd new.1 (by rw [new.2]; decide)
  · exact .inl rfl

theorem swaps_move (h : Move cfg P ⟨m,t⟩ ⟨n,u⟩) : SwapsMove m (P m) n.swaps := by
  cases h with
  | offers | offerAdded | bidArrived | strayRefused | bidRefused | answered | resolved | referenced
  | placed | renewed | bidsExpired => exact .same
  | bidClosed k =>
    rw [Market.swaps_setBidExpired]
    exact .same
  | reserved b o now freeReservation freeSwap => exact .intended _ freeSwap rfl rfl
  | event r s type data rejection swapId cause found live hid deal status id proposal lease =>
    show SwapsMove m (P m) ((m.carried r type).swaps.set s)
    rw [swaps_carried]
    refine .stored r s (get?_correlated found) deal ?_
    rw [id]
    exact learned_of_learn cause found hid
  | revised r s type data rejection cause found terminal deal id =>
    exact .stored r s (get?_correlated found) deal (.inl id)
  | expired r reason cause hr live =>
    rw [Market.swaps_setBidExpired,swaps_moved]
    exact .stored r _ hr ⟨rfl,rfl,rfl,rfl,rfl,rfl,rfl,rfl,rfl,rfl,rfl,rfl⟩ (.inl rfl)
  | kept r s hr deal status id =>
    refine .stored r s hr deal (id.imp_right ?_)
    rintro ⟨id,cause,_,_,named⟩
    exact ⟨id,named,.answer cause⟩
  | claimed r now hr =>
    exact .stored r (SwapDispatch.claimed cfg m r now) hr
      ⟨rfl,rfl,rfl,rfl,rfl,rfl,rfl,rfl,rfl,rfl,rfl,rfl⟩ (.inl rfl)
  | refused r s cause hr acceptance_ live deal status id => exact .stored r s hr deal (.inl id)
  | taken b r free cause hb waits role memo id => exact .taken b r free cause hb id

theorem mem_stored {swaps : Table SwapRecord.idpk} {s x : SwapRecord} (h : x ∈ swaps.set s) :
    x = s ∨ x ∈ swaps := by
  rcases Table.mem_set.mp h with ⟨old,_⟩ | ⟨new,_⟩
  · exact .inr old
  · exact .inl new

/-- What a record is about survives every move. -/
theorem About.next {x : WalletSwap} {r s : SwapRecord} (about : About cfg m x r)
    (h : Move cfg P ⟨m,t⟩ ⟨n,u⟩) (deal : SameDeal r s) : About cfg n x s := by
  unfold About at about ⊢
  rw [deal.role,deal.counterpartCityId,deal.memo,deal.giveAsset,deal.giveAmount,deal.takeAsset,
    deal.takeAmount,deal.sourceBidIdpk]
  cases hr : r.role with
  | proposer =>
    rw [hr] at about
    exact about
  | acceptor =>
    rw [hr] at about
    obtain ⟨ours,counterpart,give,take,k,hk,b,hb,outgoing,offer⟩ := about
    obtain ⟨c,hc,same⟩ := (Market.deal_move h k).bid hb outgoing
    have terms := same.terms
    simp only [MarketBid.terms,Prod.mk.injEq] at terms
    exact ⟨ours,counterpart,give,take,k,hk,c,hc,same.direction.trans outgoing,terms.2.1.trans offer⟩

/-- A sale is on the terms of its record wherever the record is. -/
theorem About.sale {x : WalletSwap} {r s : SwapRecord} (role : r.role = .proposer)
    (about : About cfg m x r) (n : Market) (deal : SameDeal r s) : About cfg n x s := by
  unfold About at about ⊢
  rw [deal.role,deal.counterpartCityId,deal.memo,deal.giveAsset,deal.giveAmount,deal.takeAsset,
    deal.takeAmount]
  rw [role] at about ⊢
  exact about

theorem operation_congr {r s : SwapRecord} (deal : SameDeal r s) : operation s = operation r := by
  unfold operation
  rw [deal.role,deal.idpk,deal.sourceBidIdpk]

theorem keysOf_congr {r s : SwapRecord} (deal : SameDeal r s) : keysOf s = keysOf r := by
  unfold keysOf
  rw [deal.idpk,deal.idempotencyKey,deal.acceptIdempotencyKey]

/-- What the records of a move may count on. -/
structure Grounds (wallet : Wallet) (m : Market) (Q : Cause → Prop) : Prop where
  answer : ∀ k id, Q (.answer k id) → ∀ r ∈ m.swaps.get? k, wallet.issued id = some (operation r)
  event : ∀ type data rejection, Q (.event type data rejection) → Unknown m data → ∀ id r,
    eventSwapId data = .ok (some id) → correlate m.swaps data = .ok (some r) →
      wallet.issued id = some (operation r)
  quiet : ∀ k, ¬Q (.acceptance k)

theorem coherent_move {wallet : Wallet} (h : Move cfg P ⟨m,t⟩ ⟨n,u⟩)
    (grounds : Grounds wallet m (P m)) (coherent : Coherent cfg wallet m) :
    Coherent cfg wallet n := by
  have moved := swaps_move h
  have kept {r s : SwapRecord} (hr : r ∈ m.swaps) (deal : SameDeal r s) (role : s.role = .acceptor) :
      About cfg n (wallet.terms (operation s)) s := by
    rw [operation_congr deal]
    exact (coherent.bought r hr (deal.role ▸ role)).next h deal
  suffices (∀ r ∈ n.swaps, ∀ id, r.swapId = some id → wallet.issued id = some (operation r)) ∧
      ∀ r ∈ n.swaps, r.role = .acceptor → About cfg n (wallet.terms (operation r)) r from
    ⟨this.1,this.2⟩
  generalize n.swaps = swaps at moved
  cases moved with
  | same => exact ⟨coherent.issued,fun r hr => kept hr (.refl r)⟩
  | stored r s hr deal id =>
    have here := Table.mem_of_get? hr
    constructor
    · intro x hx k carries
      rcases mem_stored hx with rfl | old
      · rw [operation_congr deal]
        rcases id with same | ⟨k',named,learned⟩
        · exact coherent.issued r here k (same ▸ carries)
        · cases named.symm.trans carries
          cases learned with
          | event cause named unknown found => exact grounds.event _ _ _ cause unknown _ _ named found
          | answer cause => exact grounds.answer _ _ cause r hr
      · exact coherent.issued x old k carries
    · intro x hx role
      rcases mem_stored hx with rfl | old
      · exact kept here deal role
      · exact kept old (.refl x) role
  | intended r free blank role =>
    constructor
    · intro x hx k carries
      rcases Table.mem_insert.mp hx with old | rfl
      · exact coherent.issued x old k carries
      · rw [blank] at carries
        cases carries
    · intro x hx bought
      rcases Table.mem_insert.mp hx with old | rfl
      · exact kept old (.refl x) bought
      · rw [role] at bought
        cases bought
  | taken b r free cause => exact absurd cause (grounds.quiet _)

end Moves

/-! ### The record of an accepted bid -/

section Taken
variable {cfg : Config} {jwt : Jwt} {jwks : Jwks} {now : Instant}

theorem verified_legs {token : Json} {expected : Expected} {claims : Fields}
    (h : verifySwapToken jwt jwks token expected now = .ok claims) :
    claimAmount claims "give" "SWAP_TOKEN_GIVE_INVALID" = .ok expected.give ∧
      claimAmount claims "take" "SWAP_TOKEN_TAKE_INVALID" = .ok expected.take := by
  unfold verifySwapToken at h
  simp only [Fallible.throw_bind] at h
  split at h <;> try cases h
  split at h
  · cases h
  split at h <;> try cases h
  split at h <;> try cases h
  split at h <;> try cases h
  split at h <;> try cases h
  obtain ⟨key,_,h⟩ := Fallible.bind_ok.mp h
  obtain ⟨claims',_,h⟩ := Fallible.bind_ok.mp h
  split at h <;> try cases h
  split at h
  · cases h
  split at h <;> try cases h
  split at h <;> try cases h
  obtain ⟨give,hgive,h⟩ := Fallible.bind_ok.mp h
  split at h <;> try cases h
  rename_i given
  obtain ⟨take,htake,h⟩ := Fallible.bind_ok.mp h
  split at h <;> try cases h
  rename_i taken
  split at h <;> cases h
  exact ⟨given ▸ hgive,taken ▸ htake⟩

/-- A leg that was checked is the one the record keeps. -/
theorem claimLeg_of_amount {claims : Fields} {name reason : String} {leg : Leg}
    (h : claimAmount claims name reason = .ok leg) : claimLeg claims name = leg := by
  unfold claimAmount at h
  split at h <;> try cases h
  rename_i fields hf
  split at h <;> try cases h
  rename_i asset amount ha hm
  split at h <;> cases h
  unfold claimLeg
  rw [hf]
  show (⟨(assetOf (Fields.get fields "asset")).getD (.other ""),decimal (Fields.get fields "amount")⟩ : Leg) = _
  rw [ha,decimal,hm]
  rfl

/-- The record of an accepted bid is about the swap the bid and its answer describe. -/
theorem about_taken {db : Db} {b : MarketBid} {data claims : Fields} {key : String}
    (hb : db.market.bids.get? b.idpk = some b) (outgoing : b.direction = .outgoing)
    (verified : verifyBidToken jwt jwks b data now = .ok claims) :
    About cfg db.market (asked cfg b data) (newAcceptorRecord b data claims key now) := by
  unfold verifyBidToken at verified
  simp only [Fallible.throw_bind] at verified
  split at verified <;> try cases verified
  split at verified
  · cases verified
  split at verified <;> try cases verified
  obtain ⟨give,take⟩ := verified_legs verified
  have gives := claimLeg_of_amount give
  have takes := claimLeg_of_amount take
  refine ⟨rfl,rfl,?_,?_,b.idpk,rfl,b,hb,outgoing,rfl⟩
  · show _ = (⟨(claimLeg claims "give").asset,(claimLeg claims "give").amount⟩ : Leg)
    rw [gives]
    rfl
  · show _ = (⟨(claimLeg claims "take").asset,(claimLeg claims "take").amount⟩ : Leg)
    rw [takes]
    rfl

theorem about_rejected {db : Db} {b : MarketBid} {data : Fields} {reason key : String}
    (hb : db.market.bids.get? b.idpk = some b) (outgoing : b.direction = .outgoing) :
    About cfg db.market (asked cfg b data) (rejectedRecord b data reason key now) :=
  ⟨rfl,rfl,rfl,rfl,b.idpk,rfl,b,hb,outgoing,rfl⟩

theorem coherent_add {wallet : Wallet} {db : Db} {r : SwapRecord}
    (coherent : Coherent cfg wallet db.market)
    (issued : ∀ id, r.swapId = some id → wallet.issued id = some (operation r))
    (about : About cfg db.market (wallet.terms (operation r)) r) :
    Coherent cfg wallet (addRecord db r).market := by
  unfold addRecord
  cases hi : db.market.swaps.insert? r with
  | none => exact coherent
  | some swaps =>
    obtain ⟨free,rfl⟩ := Table.insert?_eq_some.mp hi
    constructor
    · intro x hx id carries
      change x ∈ db.market.swaps.insert r free at hx
      rcases Table.mem_insert.mp hx with old | rfl
      · exact coherent.issued x old id carries
      · exact issued id carries
    · intro x hx bought
      change x ∈ db.market.swaps.insert r free at hx
      rcases Table.mem_insert.mp hx with old | rfl
      · exact coherent.bought x old bought
      · exact about

theorem coherent_taken {env : Env} {wallet : Wallet} {db : Db} (k : String)
    (answered : Answered env wallet db (.takeAccepted k jwks now))
    (coherent : Coherent env.cfg wallet db.market) :
    Coherent env.cfg wallet (takeAcceptedBid env.cfg env.jwt db k jwks now).market := by
  unfold takeAcceptedBid
  cases hb : (db.market.bids.get? k).filter (awaitsAcceptance db.market) with
  | none => exact coherent
  | some b =>
    obtain ⟨found,waits⟩ := Option.filter_eq_some_iff.mp hb
    have key := Table.key_of_get? found
    subst key
    unfold awaitsAcceptance at waits
    simp only [Bool.and_eq_true,decide_eq_true_eq] at waits
    obtain ⟨⟨⟨outgoing,_⟩,named⟩,_⟩ := waits
    obtain ⟨id,hid⟩ := Option.isSome_iff_exists.mp named
    dsimp only
    split
    · exact coherent
    rename_i payload hp
    have own (leaves : recorded env.jwt jwks b payload.data now = true) :=
      answered b hb payload hp leaves
    -- both records name the operation of this bid
    have added {r : SwapRecord} (same : r.swapId = b.swapId) (stands : operation r = .purchase b.idpk)
        (leaves : recorded env.jwt jwks b payload.data now = true)
        (about : About env.cfg db.market (asked env.cfg b payload.data) r) :
        Coherent env.cfg wallet (addRecord db r).market := by
      refine coherent_add coherent (fun id carries => ?_) ?_
      · rw [stands]
        exact (own leaves id (same ▸ carries)).1
      · rw [stands,(own leaves id hid).2]
        exact about
    split
    · rename_i verified
      exact added rfl rfl (by rw [recorded,verified]) (about_taken found outgoing verified)
    · rename_i reason refused
      split
      · exact coherent
      · rename_i final
        refine added rfl rfl ?_ (about_rejected found outgoing)
        rw [recorded,refused]
        simpa using final

end Taken

/-! ### Runs -/

section Runs
variable {env : Env} {wallet : Wallet}

theorem mem_keysOf {r : SwapRecord} {key : String} : key ∈ keysOf r ↔
    r.idpk = key ∨ r.idempotencyKey = key ∨ r.acceptIdempotencyKey = some key := by
  simp [keysOf,eq_comm]

/-- A record that is not found by its swap is found by one of its keys. -/
theorem correlate_key {m : Market} {data : Fields} {r : SwapRecord} (unknown : Unknown m data)
    (found : correlate m.swaps data = .ok (some r)) :
    ∃ key ∈ keysOf r, keyText (data.get "idpk") = .ok (some key) := by
  obtain ⟨swapId,named,found⟩ := Fallible.bind_ok.mp found
  have missing : swapId.bind (withSwapId? m.swaps) = none := by
    cases swapId with
    | none => rfl
    | some id => exact unknown id named
  rw [missing] at found
  obtain ⟨text,spelled,found⟩ := Fallible.bind_ok.mp found
  cases text with
  | none => cases found
  | some key =>
    refine ⟨key,mem_keysOf.mpr ?_,spelled⟩
    have hit : (m.swaps.get? key <|> withAcceptKey? m.swaps key <|> withIdempotencyKey? m.swaps key) =
        some r := Except.ok.inj found
    rw [Option.orElse_eq_orElse,Option.orElse_eq_or,Option.or_eq_some_iff] at hit
    rcases hit with row | ⟨_,rest⟩
    · exact .inl (Table.key_of_get? row)
    · rw [Option.orElse_eq_or,Option.or_eq_some_iff] at rest
      rcases rest with accepted | ⟨_,posted⟩
      · exact .inr (.inr (by simpa using List.find?_some accepted))
      · exact .inr (.inl (by simpa using List.find?_some posted))

/-- An event that finds a record by a key names the operation of that record. -/
theorem Honest.named {cfg : Config} {m : Market} (honest : Honest cfg wallet m) {data : Fields}
    {r : SwapRecord} (unknown : Unknown m data) (found : correlate m.swaps data = .ok (some r))
    (names : Names wallet data) : Concerns wallet data (operation r) ∧
      ∀ id, eventSwapId data = .ok (some id) → wallet.issued id = some (operation r) := by
  obtain ⟨key,own,spelled⟩ := correlate_key unknown found
  obtain ⟨o,keyed,issued⟩ := names key spelled
  cases honest.keys r (correlate_mem found) key own o keyed
  refine ⟨?_,issued⟩
  unfold Concerns
  split
  · rename_i id named
    exact issued id named
  · exact ⟨key,spelled,keyed⟩

/-- The answer of a POST is stored on a record with the deal it had. -/
theorem finish_mem {db : Db} {attempt : SwapDispatch.ProposalAttempt} {verdict : SwapDispatch.Verdict}
    {now : Instant} {r : SwapRecord}
    (hr : r ∈ (SwapDispatch.finish db attempt verdict now).market.swaps) :
    ∃ s ∈ db.market.swaps, SameDeal s r := by
  unfold SwapDispatch.finish at hr
  split at hr
  · exact ⟨r,hr,.refl r⟩
  rename_i record found
  have here := Table.mem_of_get? found
  split at hr
  · exact ⟨r,hr,.refl r⟩
  split at hr <;> rcases mem_stored hr with rfl | old
  · exact ⟨record,here,rfl,rfl,rfl,rfl,rfl,rfl,rfl,rfl,rfl,rfl,rfl,rfl⟩
  · exact ⟨r,old,.refl r⟩
  · exact ⟨record,here,(SwapDispatch.finishLive_kept record _ verdict now).1⟩
  · exact ⟨r,old,.refl r⟩

theorem reading_mem {db : Db} {a : Node.Action} {c : Cause} {r : SwapRecord}
    (hr : r ∈ (Node.reading db a c).swaps) : ∃ s ∈ db.market.swaps, SameDeal s r := by
  cases a with
  | settleProposal attempt answer now =>
    cases c with
    | answer => exact ⟨r,hr,.refl r⟩
    | _ => exact finish_mem hr
  | _ => exact ⟨r,hr,.refl r⟩

theorem honest_reading {cfg : Config} {db : Db} {a : Node.Action} {c : Cause}
    (honest : Honest cfg wallet db.market) : Honest cfg wallet (Node.reading db a c) where
  sales r hr role := by
    obtain ⟨s,hs,deal⟩ := reading_mem hr
    have own : s.role = .proposer := deal.role ▸ role
    rw [operation_congr deal]
    exact (honest.sales s hs own).sale own _ deal
  keys r hr key own o keyed := by
    obtain ⟨s,hs,deal⟩ := reading_mem hr
    rw [operation_congr deal]
    exact honest.keys s hs key (keysOf_congr deal ▸ own) o keyed

/-- Only `accept_pending_swaps` takes up an accepted bid. -/
theorem acceptance_cause {db : Db} {a : Node.Action} {k : String}
    (h : .acceptance k ∈ Node.causes db a) : ∃ jwks now, a = .takeAccepted k jwks now := by
  rcases Node.mem_causes h with ⟨payload,now,rfl,brought⟩ | ⟨_,jwks,now,rfl,same⟩ | h | h
  · unfold Ingest.brought at brought
    split at brought
    · split at brought <;> simp at brought
    · split at brought <;> simp at brought
  · cases same
    exact ⟨jwks,now,rfl⟩
  · cases h
  · cases h

theorem coherent_moves {P : Market → Cause → Prop} {d d' : Desk} (moves : Moves env.cfg P d d')
    (grounds : ∀ m, Grounds wallet m (P m)) (coherent : Coherent env.cfg wallet d.market) :
    Coherent env.cfg wallet d'.market := by
  induction moves with
  | refl => exact coherent
  | tail _ move ih => exact coherent_move move (grounds _) ih

theorem grounds_step {db : Db} {a : Node.Action} (honest : Honest env.cfg wallet db.market)
    (genuine : GenuineStep env wallet db a) (quiet : ∀ k, .acceptance k ∉ Node.causes db a)
    (m : Market) : Grounds wallet m (Node.Caused db a m) where
  answer k id caused := by
    rw [caused.2.resolve_left Bool.false_ne_true]
    exact genuine.causes _ caused.1
  event type data rejection caused unknown id r named found := by
    rw [caused.2.resolve_left Bool.false_ne_true] at unknown found
    exact ((honest_reading honest).named unknown found (genuine.causes _ caused.1 unknown r found)).2
      id named
  quiet k caused := quiet k caused.1

theorem coherent_step {db : Db} (a : Node.Action) (honest : Honest env.cfg wallet db.market)
    (genuine : GenuineStep env wallet db a) (coherent : Coherent env.cfg wallet db.market) :
    Coherent env.cfg wallet (Node.step env db a).market := by
  by_cases taken : ∃ k, .acceptance k ∈ Node.causes db a
  · obtain ⟨k,h⟩ := taken
    obtain ⟨jwks,now,rfl⟩ := acceptance_cause h
    exact coherent_taken k genuine.answered coherent
  · exact coherent_moves (Node.step_moves env db a)
      (grounds_step honest genuine fun k h => taken ⟨k,h⟩) coherent

end Runs

section Examples

/-- A purchase, and the sale of ten kWh that the wallet calls `swapId`. -/
def traded (swapId : String) : List Node.Action :=
  Node.purchase ++ .sellerOffer "C1" 100 (seconds 64) ::
    Node.proposed "50000000-0000-0000-0000-000000000001" "50000000-0000-0000-0000-000000000002"
      swapId 10 (seconds 65)

def settled (swapId : String) : Node.Action :=
  .ingest (Node.walletMessage .swapSettled "settlement1" "settlement2" [("swapId",.str swapId)]) (seconds 66)

def saleIdpk : String := "50000000-0000-0000-0000-000000000001"

/-- The sale as `swapId`, and the purchase as it was offered to us as s9. -/
def sold (swapId : String) : Wallet where
  issued id :=
    if id = swapId then some (.sale saleIdpk)
    else if id = "s9" then some (.purchase Node.purchaseIdpk)
    else none
  keyed _ := none
  terms
    | .sale _ => ⟨"AAA","BBB","AAA-C1",⟨.kwh,10⟩,⟨.cr,12⟩⟩
    | .purchase _ => ⟨"BBB","AAA","BBB-C1",⟨.kwh,10⟩,⟨.cr,20⟩⟩

instance {cfg : Config} {m : Market} {x : WalletSwap} {r : SwapRecord} : Decidable (About cfg m x r) := by
  unfold About
  split <;> infer_instance

instance {cfg : Config} {wallet : Wallet} {m : Market} : Decidable (Honest cfg wallet m) :=
  decidable_of_iff ((∀ r ∈ m.swaps.rows,
      r.role = .proposer → About cfg m (wallet.terms (operation r)) r) ∧
    ∀ r ∈ m.swaps.rows, ∀ key ∈ keysOf r, ∀ o ∈ wallet.keyed key, o = operation r)
    ⟨fun h => ⟨h.1,h.2⟩,fun h => ⟨h.sales,h.keys⟩⟩

instance decidableFound {α : Type} {e : Result (Option α)} {Q : α → Prop} [DecidablePred Q] :
    Decidable (∀ a, e = .ok (some a) → Q a) :=
  match e with
  | .ok (some a) => decidable_of_iff (Q a)
      ⟨fun h _ same => Option.some.inj (Except.ok.inj same) ▸ h,fun h => h a rfl⟩
  | .ok none => .isTrue nofun
  | .error _ => .isTrue nofun

instance {m : Market} {data : Fields} : Decidable (Unknown m data) :=
  inferInstanceAs (Decidable (∀ id, eventSwapId data = .ok (some id) → withSwapId? m.swaps id = none))

instance {wallet : Wallet} {data : Fields} : Decidable (Names wallet data) :=
  inferInstanceAs (Decidable (∀ key, keyText (data.get "idpk") = .ok (some key) →
    ∃ o ∈ wallet.keyed key, ∀ id, eventSwapId data = .ok (some id) → wallet.issued id = some o))

instance decidableGenuine {wallet : Wallet} {m : Market} : ∀ c, Decidable (Genuine wallet m c)
  | .answer k id => inferInstanceAs (Decidable
      (∀ r ∈ m.swaps.get? k, wallet.issued id = some (operation r)))
  | .event _ data _ => inferInstanceAs (Decidable (Unknown m data →
      ∀ r, correlate m.swaps data = .ok (some r) → Names wallet data))
  | .acceptance .. | .expiry .. | .refusal .. | .confirmation .. | .announcement .. | .bid .. | .dispatch =>
      .isTrue trivial

instance decidableAnswered {env : Env} {wallet : Wallet} {db : Db} :
    ∀ a, Decidable (Answered env wallet db a)
  | .takeAccepted k jwks now => inferInstanceAs (Decidable
      (∀ b ∈ (db.market.bids.get? k).filter (awaitsAcceptance db.market),
        ∀ payload ∈ acceptance? db b, recorded env.jwt jwks b payload.data now → ∀ id ∈ b.swapId,
          wallet.issued id = some (.purchase k) ∧
            wallet.terms (.purchase k) = asked env.cfg b payload.data))
  | .ingest .. | .feed .. | .sellerBids .. | .sellerOffer .. | .reprice .. | .withdraw ..
  | .closeExpired .. | .claimProposal .. | .recoverProposal .. | .settleProposal .. | .sweep ..
  | .expireBids .. | .leaseAccept .. | .recoverAccept .. | .sendAccept .. | .settleAccept ..
  | .buy .. | .renewBids .. | .published .. | .publishFailed .. | .closeMarkets .. => .isTrue trivial

instance {env : Env} {wallet : Wallet} {db : Db} {a : Node.Action} :
    Decidable (GenuineStep env wallet db a) :=
  decidable_of_iff ((∀ c ∈ Node.causes db a, Genuine wallet (Node.reading db a c) c) ∧
    Answered env wallet db a) ⟨fun h => ⟨h.1,h.2⟩,fun h => ⟨h.causes,h.answered⟩⟩

end Examples

end SwapCorrelation

end EnergyNode
