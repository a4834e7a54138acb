import EnergyNode.RecoverySteps

/-! The buyer's acceptance of swaps as moves. -/
namespace EnergyNode
open Lib

variable {cfg : Config} {P : Market → Cause → Prop}

namespace SwapAccept
open WalletEvents WalletRecovery

theorem addRecord_moves {db : Db} {b : MarketBid} {r : SwapRecord}
    (hP : P db.market (.acceptance b.idpk)) (hb : db.market.bids.get? b.idpk = some b)
    (hw : awaitsAcceptance db.market b) (role : r.role = .acceptor) (memo : r.memo = none)
    (id : r.swapId = b.swapId) (source : r.sourceBidIdpk = some b.idpk)
    (attempts : r.proposalAttemptCount = 0) (key : r.idempotencyKey = r.idpk)
    (status : r.status = .submitted ∧ isAcceptance r ∨ r.status = .rejected) :
    Moves cfg P db.desk (addRecord db r).desk := by
  unfold addRecord
  cases hi : db.market.swaps.insert? r with
  | none => exact .refl
  | some swaps =>
    obtain ⟨free,rfl⟩ := Table.insert?_eq_some.mp hi
    exact .single (.taken b r free hP hb hw role memo id source attempts key status)

theorem takeAcceptedBid_moves (jwt : Jwt) (db : Db) (idpk : String) (jwks : Jwks) (now : Instant)
    (hP : P db.market (.acceptance idpk)) :
    Moves cfg P db.desk (takeAcceptedBid cfg jwt db idpk jwks now).desk := by
  unfold takeAcceptedBid
  cases hb : (db.market.bids.get? idpk).filter (awaitsAcceptance db.market) with
  | none => exact .refl
  | some b =>
    obtain ⟨hb,hw⟩ := Option.filter_eq_some_iff.mp hb
    have key := Table.key_of_get? hb
    subst key
    dsimp only
    split
    · exact .refl
    split
    · exact addRecord_moves hP hb hw rfl rfl rfl rfl rfl rfl (.inl ⟨rfl,rfl⟩)
    split
    · exact .refl
    · exact addRecord_moves hP hb hw rfl rfl rfl rfl rfl rfl (.inr rfl)

theorem acceptance_spec {db : Db} {idpk : String} {r : SwapRecord}
    (h : acceptance db idpk = some r) :
    r.idpk = idpk ∧ db.market.swaps.get? r.idpk = some r ∧ isAcceptance r := by
  obtain ⟨hr,ha⟩ := Option.filter_eq_some_iff.mp h
  have key := Table.key_of_get? hr
  exact ⟨key,key ▸ hr,ha⟩

theorem role_of_isAcceptance {r : SwapRecord} (h : isAcceptance r) : r.role = .acceptor := by
  unfold isAcceptance at h
  simp only [Bool.and_eq_true,decide_eq_true_eq] at h
  exact h.1.1

theorem lease_moves (db : Db) (idpk : String) (now : Instant) (hD : ∀ m, P m .dispatch) :
    Moves cfg P db.desk (lease db idpk now).desk := by
  unfold lease
  cases ha : acceptance db idpk with
  | none => exact .refl
  | some r =>
    obtain ⟨_,hr,_⟩ := acceptance_spec ha
    dsimp only
    split
    · exact .refl
    · exact kept_move hr ⟨rfl,rfl,rfl,rfl,rfl,rfl,rfl,rfl,rfl,rfl,rfl,rfl⟩ rfl ⟨rfl,rfl⟩
        (.inl rfl) (fun _ work => .inl work) (.inr (hD _))

theorem settled_moves (db : Db) (idpk : String) (hD : ∀ m, P m .dispatch) :
    Moves cfg P db.desk (settled db idpk).desk := by
  unfold settled
  cases hr : db.market.swaps.get? idpk with
  | none => exact .refl
  | some r =>
    have hr' : db.market.swaps.get? r.idpk = some r := Table.key_of_get? hr ▸ hr
    exact kept_move hr' ⟨rfl,rfl,rfl,rfl,rfl,rfl,rfl,rfl,rfl,rfl,rfl,rfl⟩ rfl ⟨rfl,rfl⟩
      (.inl rfl) (fun _ work => .inl work) (.inr (hD _))

/-- The events a GET of the buyer's side reconstructs. -/
def recovered (db : Db) (idpk : String) (answer : GetAnswer) : List Cause :=
  match acceptance db idpk with
  | none => []
  | some r =>
      match inspectKnownSwap r.swapId answer with
      | none => []
      | some seen => observed r seen

theorem heard_recovered {db : Db} {idpk : String} {answer : GetAnswer} {c : Cause}
    (h : c ∈ recovered db idpk answer) : c.heard = true := by
  unfold recovered at h
  split at h
  · cases h
  split at h
  · cases h
  · exact heard_observed h

theorem recover_moves {db db' : Db} {idpk : String} {answer : GetAnswer} {now : Instant}
    {known : Bool} (h : recover cfg db idpk answer now = .ok (db',known))
    (hP : ∀ c ∈ recovered db idpk answer, P db.market c) (hD : ∀ m, P m .dispatch) : Moves cfg P db.desk db'.desk := by
  unfold recover at h
  unfold recovered at hP
  cases ha : acceptance db idpk with
  | none =>
    simp only [ha] at h
    cases h
    exact .refl
  | some r =>
    obtain ⟨_,hr,_⟩ := acceptance_spec ha
    simp only [ha] at h hP
    cases hs : inspectKnownSwap r.swapId answer with
    | none =>
      simp only [hs] at h
      cases h
      exact .refl
    | some seen =>
      simp only [hs] at h hP
      split at h
      · cases h
        exact settled_moves db idpk hD
      obtain ⟨⟨db₁,found⟩,ho,h⟩ := Fallible.bind_ok.mp h
      have first : Moves cfg P db.desk db₁.desk := applyWalletObservation_moves hr ho hP
      cases found with
      | true =>
        obtain ⟨rfl,_⟩ := Prod.mk.injEq .. ▸ Fallible.pure_ok.mp h
        exact first.trans (settled_moves _ _ hD)
      | false =>
        obtain ⟨rfl,_⟩ := Prod.mk.injEq .. ▸ Fallible.pure_ok.mp h
        exact first

theorem recover_unknown {db db' : Db} {idpk : String} {answer : GetAnswer} {now : Instant}
    (h : recover cfg db idpk answer now = .ok (db',false)) : db' = db := by
  unfold recover at h
  split at h
  · cases h
    rfl
  split at h
  · cases h
    rfl
  split at h
  · cases h
  obtain ⟨⟨db₁,found⟩,ho,h⟩ := Fallible.bind_ok.mp h
  cases found with
  | true => cases h
  | false =>
    obtain ⟨rfl,_⟩ := Prod.mk.injEq .. ▸ Fallible.pure_ok.mp h
    exact applyWalletObservation_unknown ho

theorem send_moves (db : Db) (idpk : String) (now : Instant) (hD : ∀ m, P m .dispatch) :
    Moves cfg P db.desk (send db idpk now).1.desk := by
  unfold send
  cases ha : acceptance db idpk with
  | none => exact .refl
  | some r =>
    obtain ⟨_,hr,hacc⟩ := acceptance_spec ha
    dsimp only
    split
    · exact settled_moves db idpk hD
    · rename_i guards
      simp only [not_or,Bool.not_eq_true] at guards
      exact kept_move hr ⟨rfl,rfl,rfl,rfl,rfl,rfl,rfl,rfl,rfl,rfl,rfl,rfl⟩ rfl ⟨rfl,rfl⟩
        (.inr ⟨guards.2.1,.inr ⟨role_of_isAcceptance hacc,rfl⟩⟩) (fun _ _ => .inl rfl)
        (.inr (hD _))

/-- A 202 confirms the acceptance it answers. -/
def confirmedBy (answer : SwapDispatch.WriteAnswer) (idpk : String) : List Cause :=
  if outcomeOf answer = some .accepted then [.confirmation idpk] else []

theorem mem_confirmedBy {answer : SwapDispatch.WriteAnswer} {idpk : String}
    (h : outcomeOf answer = some .accepted) : .confirmation idpk ∈ confirmedBy answer idpk := by
  rw [confirmedBy,if_pos h]
  exact List.mem_singleton_self _

theorem finish_moves (db : Db) (idpk : String) (outcome : Outcome) (now : Instant)
    (hP : ∀ code, outcome = .rejected code → P db.market (.refusal idpk))
    (hok : outcome = .accepted → P db.market (.confirmation idpk)) (hD : ∀ m, P m .dispatch) :
    Moves cfg P db.desk (finish db idpk outcome now).desk := by
  unfold finish
  cases ha : acceptance db idpk with
  | none => exact .refl
  | some r =>
    obtain ⟨key,hr,hacc⟩ := acceptance_spec ha
    dsimp only
    split
    · exact settled_moves db idpk hD
    rename_i live
    rw [Bool.not_eq_true] at live
    cases outcome with
    | accepted =>
      exact kept_move hr ⟨rfl,rfl,rfl,rfl,rfl,rfl,rfl,rfl,rfl,rfl,rfl,rfl⟩ rfl ⟨rfl,rfl⟩
        (.inr ⟨live,.inr ⟨role_of_isAcceptance hacc,rfl⟩⟩) (fun _ _ => .inr (key ▸ hok rfl))
        (.inr (hD _))
    | retry code retryAfter =>
      refine kept_move hr ⟨rfl,rfl,rfl,rfl,rfl,rfl,rfl,rfl,rfl,rfl,rfl,rfl⟩ rfl ⟨rfl,rfl⟩
        (.inl rfl) ?_ (.inr (hD _))
      intro _ work
      unfold unanswered at work ⊢
      cases status : r.status <;> simp [status] at work ⊢
    | rejected code =>
      exact .single (.refused r _ (key ▸ hP code rfl) hr hacc live
        ⟨rfl,rfl,rfl,rfl,rfl,rfl,rfl,rfl,rfl,rfl,rfl,rfl⟩ rfl rfl ⟨rfl,rfl⟩ (hD _))

theorem settleAnswer_moves {db db' : Db} {idpk : String} {answer : SwapDispatch.WriteAnswer}
    {check : GetAnswer} {now : Instant} (h : settleAnswer cfg db idpk answer check now = .ok db')
    (hrefusal : P db.market (.refusal idpk))
    (hok : outcomeOf answer = some .accepted → P db.market (.confirmation idpk))
    (hP : ∀ c ∈ recovered db idpk check, P db.market c) (hD : ∀ m, P m .dispatch) : Moves cfg P db.desk db'.desk := by
  unfold settleAnswer at h
  split at h
  · cases h
    exact .refl
  · obtain ⟨⟨db₁,found⟩,hf,h⟩ := Fallible.bind_ok.mp h
    cases found with
    | true =>
      obtain rfl := Fallible.pure_ok.mp h
      exact recover_moves hf hP hD
    | false =>
      cases recover_unknown hf
      obtain rfl := Fallible.pure_ok.mp h
      exact finish_moves _ _ _ _ (fun _ _ => hrefusal) nofun hD
  · rename_i outcome hne known
    cases h
    refine finish_moves _ _ _ _ ?_ (fun accepted => hok (known.trans (congrArg some accepted))) hD
    intro code hcode
    exact absurd hcode (hne code)

end SwapAccept

end EnergyNode
