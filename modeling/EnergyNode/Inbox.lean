import EnergyNode.MarketClosing

/-! The inbox as a log: a message adds its own row, and no action removes one. -/
namespace EnergyNode
open Lib

namespace Ingest
variable {cfg : Config} {jwt : Jwt} {db db' : Db} {payload : Payload} {now : Instant}
  {verdict : Verdict}

theorem inbox_request (cfg : Config) (db : Db) (payload : Payload) (now : Instant) :
    (requestStatement cfg db payload now).inbox = db.inbox := by
  unfold requestStatement
  split
  · rfl
  split <;> rfl

theorem inbox_claim (h : claim? db payload = some db') : db'.inbox = db.inbox := by
  unfold claim? at h
  split at h
  · obtain ⟨processed,_,rfl⟩ := Option.map_eq_some_iff.mp h
    rfl
  · cases h
    rfl

theorem inbox_returnClaim (db : Db) (payload : Payload) (verdict : Verdict) :
    (returnClaim db payload verdict).inbox = db.inbox := by
  unfold returnClaim
  split <;> rfl

/-- The transaction of a message leaves its row to the audit. -/
theorem inbox_process (h : process cfg jwt db payload now = .ok (db',verdict)) :
    db'.inbox = db.inbox := by
  obtain ⟨rfl,_⟩ | ⟨claimed,served,claim,dispatched,rfl⟩ := process_cases h
  · rfl
  · have kept : served.inbox = (requestStatement cfg claimed payload now).inbox :=
      congrArg Log.inbox (service_dispatch dispatched).log
    rw [inbox_returnClaim,kept,inbox_request,inbox_claim claim]

theorem inbox_ingest (cfg : Config) (jwt : Jwt) (db : Db) (payload : Payload) (now : Instant) :
    ∃ status reason,
      (ingest cfg jwt db payload now).1.inbox = db.inbox ++ [⟨payload,status,reason⟩] := by
  unfold ingest
  cases processed : process cfg jwt db payload now with
  | error fault => exact ⟨.failed,none,rfl⟩
  | ok ended =>
    refine ⟨ended.2.status,ended.2.reason,?_⟩
    show ended.1.inbox ++ _ = _
    rw [inbox_process processed]

/-- An announcement adds its own row, or is no event of the feed. -/
theorem inbox_feed (cfg : Config) (db : Db) (d : Payload) :
    (MarketFeed.persist cfg db d).inbox = db.inbox ∨ (MarketFeed.event? d).isSome ∧
      ∃ status reason, (MarketFeed.persist cfg db d).inbox = db.inbox ++ [⟨d,status,reason⟩] := by
  cases he : MarketFeed.event? d with
  | none =>
    unfold MarketFeed.persist
    rw [he]
    exact .inl rfl
  | some event =>
    obtain ⟨sender,event⟩ := event
    refine .inr ⟨rfl,?_⟩
    cases hc : MarketFeed.claimed db sender d with
    | some old =>
      obtain ⟨audit,same⟩ := FeedConfluence.persist_claimed cfg he hc
      exact ⟨audit.1,audit.2,congrArg Db.inbox same⟩
    | none =>
      obtain ⟨audit,same⟩ := FeedConfluence.persist_fresh cfg he hc
      refine ⟨audit.1,audit.2,(congrArg Db.inbox same).trans ?_⟩
      have kept : (MarketFeed.applyEvent cfg (FeedConfluence.claiming db sender d) d sender event
          (FeedConfluence.marketOf db d)).1.inbox = db.inbox := by
        unfold MarketFeed.applyEvent
        split <;> split <;> rfl
      show _ ++ _ = _
      rw [kept]

/-- No action of the node removes a row of the inbox. -/
theorem inbox_step (env : Env) (db : Db) (a : Node.Action) :
    db.inbox <+: (Node.step env db a).inbox := by
  cases brings : Node.bringsMessage a with
  | false =>
    rw [show (Node.step env db a).inbox = db.inbox from
      congrArg Log.inbox (MarketClosing.service_step env db a brings).log]
  | true =>
    cases a with
    | ingest d now =>
      obtain ⟨status,reason,same⟩ := inbox_ingest env.cfg env.jwt db d now
      exact ⟨_,same.symm⟩
    | feed d =>
      rcases inbox_feed env.cfg db d with same | ⟨_,status,reason,same⟩
      · exact ⟨[],(List.append_nil _).trans same.symm⟩
      · exact ⟨_,same.symm⟩
    | _ => cases brings

end Ingest

end EnergyNode
