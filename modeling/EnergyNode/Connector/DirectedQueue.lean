import EnergyNode.Connector.Consumers
import EnergyNode.Inbox
import EnergyNode.ResponderProtocol
import EnergyNode.Verdicts

/-! The directed queue: whatever fails between the broker, the connector and the
master, no delivery is lost, no answer is made up, and no operation is repeated. -/
namespace EnergyNode
open Lib

namespace Connector

/-! ### What a step leaves -/

/-- Evidence, errors, the inbox and what was published only grow. -/
structure Backend.Grows (b b' : Backend) : Prop where
  evidence : ∀ e ∈ b.evidence, e ∈ b'.evidence
  errors : ∀ e ∈ b.errors, e ∈ b'.errors
  published : ∀ l ∈ b.published, l ∈ b'.published
  inbox : ∀ row ∈ b.trace.db.inbox, row ∈ b'.trace.db.inbox

namespace Backend.Grows
variable {a b c : Backend}

theorem refl (b : Backend) : b.Grows b := ⟨fun _ h => h,fun _ h => h,fun _ h => h,fun _ h => h⟩

theorem trans (h : a.Grows b) (k : b.Grows c) : a.Grows c where
  evidence e he := k.evidence e (h.evidence e he)
  errors e he := k.errors e (h.errors e he)
  published l hl := k.published l (h.published l hl)
  inbox row hrow := k.inbox row (h.inbox row hrow)

end Backend.Grows

section Inbox
open Ingest
variable {env : Env} {db : Db} {payload : Payload} {now : Instant}

theorem replyStatus_failed (fault : Fault) : replyStatus (.failed fault) ≠ .ok := by
  cases fault <;> exact Status.noConfusion

/-- A message adds its own row, marked as failed exactly if it got no 2xx. -/
theorem inbox_answered (env : Env) (db : Db) (payload : Payload) (now : Instant) :
    ∃ row : InboundMessage, (ingest env.cfg env.jwt db payload now).1.inbox = db.inbox ++ [row] ∧
      row.payload = payload ∧
      (row.status = .failed ↔ replyStatus (ingest env.cfg env.jwt db payload now).2 ≠ .ok) := by
  unfold ingest
  cases processed : process env.cfg env.jwt db payload now with
  | error fault =>
      exact ⟨⟨payload,.failed,none⟩,rfl,rfl,iff_of_true rfl (replyStatus_failed fault)⟩
  | ok ended =>
    obtain ⟨done,verdict⟩ := ended
    have concluded : verdict.status ≠ .failed := by
      rcases concluded_process processed with done | done | done <;> rw [done] <;> decide
    have answered : verdict.status = .failed ↔ replyStatus (.answered verdict) ≠ .ok :=
      iff_of_false concluded fun other => other rfl
    refine ⟨⟨payload,verdict.status,verdict.reason⟩,?_,rfl,answered⟩
    exact congrArg (· ++ [(⟨payload,verdict.status,verdict.reason⟩ : InboundMessage)])
      (inbox_process processed)

end Inbox

/-! ### The endpoints -/

theorem log_reportError (cfg : Config) (db : Db) (e : Reports.ReportError) (locked : List String)
    (now : Instant) : (Reports.processReportError cfg db e locked now).log = db.log := by
  unfold Reports.processReportError
  split
  · rfl
  unfold Reports.respond
  dsimp only
  split
  · rfl
  split
  · split
    · rfl
    split <;> rfl
  · rfl

theorem log_refuseProposal {db db' : Db} {e : Negotiations.ProtocolError} {now : Instant}
    (h : Negotiations.refuseProposal db e now = .ok db') : db'.log = db.log := by
  unfold Negotiations.refuseProposal at h
  split at h
  · cases h
    rfl
  · obtain ⟨n,_,rfl⟩ := Fallible.map_ok.mp h
    rfl

section Endpoints
variable {env : Env} {S : Schemas} {b : Backend}

theorem grows_createInboundAudit (e : Evidence) (b : Backend) : b.Grows (createInboundAudit e b).1 := by
  unfold createInboundAudit
  split
  · exact { Backend.Grows.refl b with evidence := fun _ h => List.mem_append_left _ h }
  · exact .refl b

theorem grows_createOutboundAudit (a : Answer) (b : Backend) : b.Grows (createOutboundAudit a b).1 := by
  unfold createOutboundAudit
  split
  · exact .refl b
  split
  · split <;> exact .refl b
  · split <;> exact ⟨fun _ h => h,fun _ h => h,fun _ h => h,fun _ h => h⟩

theorem grows_updateOutboundAudit (msgId : String) (error : Option String) (b : Backend) :
    b.Grows (updateOutboundAudit msgId error b).1 := by
  unfold updateOutboundAudit
  split <;> exact ⟨fun _ h => h,fun _ h => h,fun _ h => h,fun _ h => h⟩

theorem grows_step (env : Env) (b : Backend) (a : Node.Action) :
    b.Grows { b with trace := IdpkClaims.step env b.trace a } :=
  { Backend.Grows.refl b with inbox := (Ingest.inbox_step env b.trace.db a).subset }

/-- What the master has of a payload it answered with this status. -/
inductive Heard (S : Schemas) (b : Backend) (payload : Fields) (status : Status) : Prop where
  /-- The message is in the inbox, as failed if it was refused. -/
  | message {p : Payload} {row : InboundMessage} (kind : isError payload = false)
      (read : S.message payload = some p) (stored : row ∈ b.trace.db.inbox) (own : row.payload = p)
      (answered : row.status = .failed ↔ status ≠ .ok)
  | error {e kept : ErrorMessage} (kind : isError payload) (read : S.error payload = some e)
      (stored : kept ∈ b.errors) (own : kept.msgId = e.msgId)
  /-- The connector lets a message through that the master's schema does not read. -/
  | foreign (refused : status ≠ .ok)
      (unread : if isError payload then S.error payload = none else S.message payload = none)

theorem grows_ingestProtocolError (e : ErrorMessage) (locked : List String) (now : Instant)
    (b : Backend) : b.Grows (ingestProtocolError env e locked now b).1 := by
  unfold ingestProtocolError
  split
  · exact .refl b
  dsimp only
  split
  · rename_i db' refused
    have log : db'.log = b.trace.db.log := (log_refuseProposal refused).trans (log_reportError ..)
    refine ⟨fun _ h => h,fun _ h => List.mem_append_left _ h,fun _ h => h,fun row hrow => ?_⟩
    show row ∈ db'.inbox
    rw [show db'.inbox = b.trace.db.inbox from congrArg Log.inbox log]
    exact hrow
  · exact .refl b

theorem grows_post {iso : FromIso} (payload : Fields) (c : Circumstances iso) (b : Backend) :
    b.Grows (post env S payload c b).1 := by
  unfold post postError postMessage
  split
  · split
    · exact .refl b
    · exact grows_ingestProtocolError ..
  · split
    · exact .refl b
    · exact grows_step ..

/-- Only a fault of the master itself leaves nothing behind. -/
theorem heard_post (env : Env) (S : Schemas) {iso : FromIso} {payload : Fields}
    {c : Circumstances iso} {b : Backend}
    (h : (post env S payload c b).2 ≠ .failed) :
    Heard S (post env S payload c b).1 payload (post env S payload c b).2 := by
  unfold post postError postMessage at h ⊢
  cases kind : isError payload with
  | true =>
    simp only [kind,if_true] at h ⊢
    cases read : S.error payload with
    | none => exact .foreign Status.noConfusion (by rw [kind,if_pos rfl]; exact read)
    | some e =>
      simp only [read] at h ⊢
      unfold ingestProtocolError at h ⊢
      split at h
      · rename_i known
        rw [if_pos known]
        obtain ⟨kept,stored,own⟩ := List.mem_map.mp known
        exact .error kind read stored own
      · rename_i fresh
        rw [if_neg fresh]
        dsimp only at h ⊢
        split at h
        · exact .error kind read (List.mem_append_right _ (List.mem_singleton_self _)) rfl
        · exact absurd rfl h
  | false =>
    simp only [kind,Bool.false_eq_true,if_false] at h ⊢
    cases read : S.message payload with
    | none => exact .foreign Status.noConfusion (by rw [kind,if_neg Bool.false_ne_true]; exact read)
    | some p =>
      obtain ⟨row,grown,own,answered⟩ := inbox_answered env b.trace.db p c.now
      refine .message kind read ?_ own answered
      show row ∈ (Ingest.ingest env.cfg env.jwt b.trace.db p c.now).1.inbox
      rw [grown]
      exact List.mem_append_right _ (List.mem_singleton_self _)

theorem Heard.grow {b b' : Backend} {payload : Fields} {status : Status} (h : Heard S b payload status)
    (grows : b.Grows b') : Heard S b' payload status := by
  cases h with
  | message kind read stored own answered =>
    exact .message kind read (grows.inbox _ stored) own answered
  | error kind read stored own => exact .error kind read (grows.errors _ stored) own
  | foreign refused unread => exact .foreign refused unread

/-- A call to the master: it publishes nothing and repeats no operation. -/
structure Backend.Serves (b b' : Backend) : Prop where
  grows : b.Grows b'
  published : b'.published = b.published
  spent : IdpkClaims.Spent b.trace → IdpkClaims.Spent b'.trace

theorem Backend.Serves.refl (b : Backend) : b.Serves b := ⟨.refl b,rfl,fun h => h⟩

theorem serves_createInboundAudit (e : Evidence) (b : Backend) :
    b.Serves (createInboundAudit e b).1 := by
  refine ⟨grows_createInboundAudit e b,?_,?_⟩ <;> unfold createInboundAudit <;> split
  · rfl
  · rfl
  · exact fun h => h
  · exact fun h => h

theorem serves_createOutboundAudit (a : Answer) (b : Backend) :
    b.Serves (createOutboundAudit a b).1 := by
  refine ⟨grows_createOutboundAudit a b,?_,fun h => ?_⟩
  · unfold createOutboundAudit
    split
    · rfl
    split <;> split <;> rfl
  · have same : (createOutboundAudit a b).1.trace = b.trace := by
      unfold createOutboundAudit
      split
      · rfl
      split <;> split <;> rfl
    rw [same]
    exact h

theorem serves_updateOutboundAudit (msgId : String) (error : Option String) (b : Backend) :
    b.Serves (updateOutboundAudit msgId error b).1 := by
  refine ⟨grows_updateOutboundAudit msgId error b,?_,?_⟩ <;> unfold updateOutboundAudit <;> split
  · rfl
  · rfl
  · exact fun h => h
  · exact fun h => h

/-- The errors of the central claim no idpk. -/
theorem spent_processed {t : IdpkClaims.Trace} {db : Db} (h : IdpkClaims.Spent t)
    (same : db.processed = t.db.processed) : IdpkClaims.Spent { t with db := db } where
  once := h.once
  kept k listed := by
    unfold Claimed
    rw [same]
    exact h.kept k listed

theorem serves_post (env : Env) (S : Schemas) {iso : FromIso} (payload : Fields)
    (c : Circumstances iso) (b : Backend) :
    b.Serves (post env S payload c b).1 := by
  refine ⟨grows_post payload c b,?_,?_⟩
  · unfold post postError postMessage ingestProtocolError
    split
    · split
      · rfl
      split
      · rfl
      dsimp only
      split <;> rfl
    · split <;> rfl
  · intro spent
    unfold post postError postMessage ingestProtocolError
    split
    · split
      · exact spent
      split
      · exact spent
      dsimp only
      split
      · rename_i db' refused
        have log : db'.log = b.trace.db.log := (log_refuseProposal refused).trans (log_reportError ..)
        exact spent_processed spent (congrArg Log.processed log)
      · exact spent
    · split
      · exact spent
      · exact IdpkClaims.spent_step env spent _

/-- A call leaves the master as it was, or as the endpoint leaves it. -/
theorem forward_rel {R : Backend → Backend → Prop} {serve : Backend → Backend × Status}
    (refl : ∀ b, R b b) (h : ∀ b, R b (serve b).1) (wire : Wire) (b : Backend) :
    R b (forwardToMaster wire serve b).1 := by
  unfold forwardToMaster
  cases wire with
  | broken => exact refl b
  | lost => exact h b
  | answered =>
    have served := h b
    dsimp only
    split <;> rename_i same <;> rw [same] at served <;> exact served

theorem serves_forward (wire : Wire) {serve : Backend → Backend × Status}
    (h : ∀ b : Backend, b.Serves (serve b).1) (b : Backend) :
    b.Serves (forwardToMaster wire serve b).1 :=
  forward_rel .refl h wire b

theorem forward_ack {wire : Wire} {serve : Backend → Backend × Status} {b b' : Backend}
    (h : forwardToMaster wire serve b = (b',.ack)) : serve b = (b',.ok) := by
  unfold forwardToMaster at h
  cases wire with
  | answered =>
    dsimp only at h
    split at h <;> cases h
    assumption
  | _ => cases h

theorem forward_drop {wire : Wire} {serve : Backend → Backend × Status} {b b' : Backend}
    (h : forwardToMaster wire serve b = (b',.drop)) : serve b = (b',.refused) := by
  unfold forwardToMaster at h
  cases wire with
  | answered =>
    dsimp only at h
    split at h <;> cases h
    assumption
  | _ => cases h

end Endpoints

/-! ### The answers -/

/-- The text of a payload's `msgId`, as it came or in canonical form. -/
def Names (payload : Fields) (target : String) : Prop :=
  BidReplies.spelled (payload.get "msgId") = some target ∨ uuid? (payload.get "msgId") = some target

/-- A payload that is itself an answer. -/
def isAnswer (payload : Fields) : Bool := (payload.get "type").text?.any (· ∈ noAckTypes)

def Acks (iso : FromIso) (cityId : String) (payload response : Fields) : Prop :=
  ∃ (draws : Draws iso) (target : String), Names payload target ∧
    response = buildAck draws cityId target

def Nacks (iso : FromIso) (cityId : String) (payload response : Fields) : Prop :=
  ∃ (draws : Draws iso) (target : String) (refusal : Refusal) (cycleId : Json),
    Names payload target ∧ response = buildNack draws cityId target refusal cycleId

/-- What the handler plans for a payload. -/
inductive Planned (iso : FromIso) (cityId : String) (payload : Fields) (h : Handling) : Prop where
  | discard (action : h.action = .discard)
  | ignore (action : h.action = .ignore) (answer : isAnswer payload)
  | ack {response : Fields} (action : h.action = .ack) (prepared : h.response = some response)
      (worded : Acks iso cityId payload response)
  | nack {response : Fields} (action : h.action = .nack) (prepared : h.response = some response)
      (worded : Nacks iso cityId payload response)

section Plan
variable {iso : FromIso} {draws : Draws iso} {cityId : String} {payload : Fields}
  {user : Option String} {m : Envelope}

theorem parsed_names (h : parseEnvelope iso payload = .ok m) : Names payload m.msgId := by
  right
  unfold parseEnvelope at h
  split at h
  · cases h
  rename_i raw found
  have there : payload.get "msgId" = raw := by
    unfold Fields.get
    rw [found]
    rfl
  rw [there]
  split at h
  · cases h
  rename_i msgId read
  split at h
  · cases h
  split at h
  · cases h
  split at h
  · cases h
  split at h
  · cases h
  split at h <;> cases h <;> exact read

theorem planned_refused (read : parseEnvelope iso payload = .ok m) (reason : Told) (refusal : Refusal) :
    Planned iso cityId payload (refused draws cityId m reason refusal) := by
  unfold refused
  split
  · exact .discard rfl
  · exact .nack rfl rfl ⟨draws,m.msgId,refusal,m.cycleId,parsed_names read,rfl⟩

theorem planned (draws : Draws iso) (cityId : String) (payload : Fields) (user : Option String) :
    Planned iso cityId payload (planProtocolResponse draws cityId payload user) := by
  unfold planProtocolResponse
  cases read : parseEnvelope iso payload with
  | error e =>
    cases e with
    | missingMsgId text => exact .discard rfl
    | malformed text =>
      dsimp only
      split
      · exact .discard rfl
      · obtain ⟨target,spelled,_⟩ := malformed_msgId read
        refine .nack rfl rfl ⟨draws,rawTarget payload,_,_,.inl ?_,rfl⟩
        unfold rawTarget
        rw [spelled]
        rfl
  | ok m =>
    dsimp only
    split
    · exact planned_refused read ..
    split
    · exact planned_refused read ..
    split
    · exact .ack rfl rfl ⟨draws,m.msgId,parsed_names read,rfl⟩
    · rename_i silent
      refine .ignore rfl ?_
      unfold isAnswer
      rw [(parsed read).type]
      simpa [shouldSendAck] using silent

end Plan

/-! ### One delivery -/

section Turns
variable {iso : FromIso} (S : Schemas) (st : Settings)

/-- A letter in our name to the authenticated sender of the delivery. -/
structure To (d : Delivery) (l : Letter) : Prop where
  exchange : l.exchange = st.exchanges.directed
  user : l.user = "city." ++ st.cityId
  route : authenticatedInboundRoute st d.user = some l.routingKey

/-- The evidence of a message that was refused with a nack. -/
def Noted (b : Backend) (payload : Fields) : Prop :=
  ∃ e ∈ b.evidence, e.status = .nacked ∧ e.payload = some payload

/-- Why a letter was sent for a delivery: the master answered what it acks, and
keeps the evidence of what it refuses. -/
def Warranted (iso : FromIso) (b : Backend) (d : Delivery) (l : Letter) : Prop :=
  To st d l ∧ ∃ payload, decodeIncomingPayload d = .ok payload ∧
    ((Acks iso st.cityId payload l.payload ∧ Heard S b payload .ok) ∨
      (Nacks iso st.cityId payload l.payload ∧ Noted b payload))

/-- What became of a delivery that the broker has forgotten. -/
inductive Settled (iso : FromIso) (b : Backend) (d : Delivery) : Prop where
  /-- Its body is kept as text, with the reason. -/
  | discarded {e : Evidence} (kept : e ∈ b.evidence) (status : e.status = .discarded)
      (raw : e.rawPayload = some d.raw)
  /-- It was refused, with evidence and a nack. -/
  | nacked {payload : Fields} {l : Letter} (read : decodeIncomingPayload d = .ok payload)
      (noted : Noted b payload) (sent : l ∈ b.published) (sender : To st d l)
      (worded : Nacks iso st.cityId payload l.payload)
  /-- The master heard it; what it answered and is no answer itself was acked. -/
  | heard {payload : Fields} {status : Status} (read : decodeIncomingPayload d = .ok payload)
      (heard : Heard S b payload status)
      (acked : status = .ok → isAnswer payload = false →
        ∃ l ∈ b.published, To st d l ∧ Acks iso st.cityId payload l.payload)

variable {S st}

theorem Noted.grow {b b' : Backend} {payload : Fields} (h : Noted b payload) (grows : b.Grows b') :
    Noted b' payload := by
  obtain ⟨e,kept,own⟩ := h
  exact ⟨e,grows.evidence e kept,own⟩

theorem Warranted.grow {b b' : Backend} {d : Delivery} {l : Letter} (h : Warranted S st iso b d l)
    (grows : b.Grows b') : Warranted S st iso b' d l := by
  obtain ⟨sender,payload,read,why⟩ := h
  exact ⟨sender,payload,read,why.imp (And.imp_right fun heard => heard.grow grows)
    (And.imp_right fun noted => noted.grow grows)⟩

theorem Settled.grow {b b' : Backend} {d : Delivery} (h : Settled S st iso b d) (grows : b.Grows b') :
    Settled S st iso b' d := by
  cases h with
  | discarded kept status raw => exact .discarded (grows.evidence _ kept) status raw
  | nacked read noted sent sender worded =>
    exact .nacked read (noted.grow grows) (grows.published _ sent) sender worded
  | heard read heard acked =>
    refine .heard read (heard.grow grows) fun ok own => ?_
    obtain ⟨l,sent,why⟩ := acked ok own
    exact ⟨l,grows.published l sent,why⟩

variable (S st)

/-- What a turn of the consumer makes of the master for a delivery. -/
structure Turn (iso : FromIso) (b : Backend) (d : Delivery) (r : Backend × Bool) : Prop where
  grows : b.Grows r.1
  spent : IdpkClaims.Spent b.trace → IdpkClaims.Spent r.1.trace
  letters : ∀ l ∈ r.1.published, l ∈ b.published ∨ Warranted S st iso r.1 d l
  settled : r.2 = true → Settled S st iso r.1 d

variable {S st}
variable {b b' : Backend} {d : Delivery} {payload : Fields} {r : Backend × Bool}

/-- A turn that stops after its calls, without a letter. -/
theorem Turn.of_serves (h : b.Serves b') {off : Bool} (settled : off = true → Settled S st iso b' d) :
    Turn S st iso b d (b',off) where
  grows := h.grows
  spent := h.spent
  letters _ hl := .inl (h.published ▸ hl)
  settled := settled

/-- A turn that goes on after its first call. -/
theorem Turn.after (h : b.Serves b') (turn : Turn S st iso b' d r) : Turn S st iso b d r where
  grows := h.grows.trans turn.grows
  spent spent := turn.spent (h.spent spent)
  letters l hl := (turn.letters l hl).imp_left fun old => h.published ▸ old
  settled := turn.settled

theorem turn_publish {route : String} {response : Fields} (how : Publication)
    (sender : authenticatedInboundRoute st d.user = some route)
    (why : ∀ l : Letter, To st d l → l.payload = response → Warranted S st iso b d l) :
    Turn S st iso b d ((publishProtocolMessage st route response how b).1,false) ∧
      ((publishProtocolMessage st route response how b).2 = true →
        ∃ l ∈ (publishProtocolMessage st route response how b).1.published,
          To st d l ∧ l.payload = response) := by
  have grown (l : Letter) : b.Grows { b with published := b.published ++ [l] } :=
    { Backend.Grows.refl b with published := fun _ h => List.mem_append_left _ h }
  have own : To st d ⟨st.exchanges.directed,route,"city." ++ st.cityId,response⟩ :=
    ⟨rfl,rfl,sender⟩
  have sent : Turn S st iso b d
      ({ b with published :=
          b.published ++ [⟨st.exchanges.directed,route,"city." ++ st.cityId,response⟩] },
        false) := by
    refine ⟨grown _,fun h => h,fun l hl => ?_,Bool.noConfusion⟩
    rcases List.mem_append.mp hl with old | new
    · exact .inl old
    · rw [List.mem_singleton.mp new]
      exact .inr ((why _ own rfl).grow (grown _))
  unfold publishProtocolMessage
  split
  · exact ⟨.of_serves (.refl b) Bool.noConfusion,Bool.noConfusion⟩
  · cases how with
    | confirmed =>
        exact ⟨sent,fun _ => ⟨_,List.mem_append_right _ (List.mem_singleton_self _),own,rfl⟩⟩
    | unconfirmed => exact ⟨sent,Bool.noConfusion⟩
    | refused => exact ⟨.of_serves (.refl b) Bool.noConfusion,Bool.noConfusion⟩

/-- What a first turn learns may be settled by the calls that follow. -/
theorem Turn.then {b₁ b₂ : Backend} (turn : Turn S st iso b d (b₁,false)) (h : b₁.Serves b₂)
    {off : Bool}
    (settled : off = true → Settled S st iso b₂ d) : Turn S st iso b d (b₂,off) where
  grows := turn.grows.trans h.grows
  spent spent := h.spent (turn.spent spent)
  letters l hl := (turn.letters l (h.published ▸ hl)).imp_right fun why => why.grow h.grows
  settled := settled

theorem turn_reply {route : String} {response : Fields} (c : Circumstances iso)
    (sender : authenticatedInboundRoute st d.user = some route)
    (why : ∀ b' : Backend, b.Grows b' → ∀ l : Letter, To st d l → l.payload = response →
      Warranted S st iso b' d l)
    (settles : ∀ b' : Backend, b.Grows b' →
      (∃ l ∈ b'.published, To st d l ∧ l.payload = response) →
      Settled S st iso b' d) : Turn S st iso b d (reply st route response c b) := by
  unfold reply
  split
  · exact .of_serves (.refl b) Bool.noConfusion
  rename_i row _
  have registered := serves_forward c.register (serves_createOutboundAudit row) b
  split
  · rename_i b₁ same
    rw [same] at registered
    obtain ⟨turn,sent⟩ := turn_publish c.publication sender (why b₁ registered.grows)
    refine .after registered ?_
    split
    · rename_i b₂ done
      rw [done] at turn sent
      have told := serves_forward c.outcome (serves_updateOutboundAudit row.msgId none) b₂
      split
      · rename_i b₃ last
        rw [last] at told
        refine turn.then told fun _ =>
          settles b₃ ((registered.grows.trans turn.grows).trans told.grows) ?_
        obtain ⟨l,stored,own⟩ := sent rfl
        exact ⟨l,told.grows.published l stored,own⟩
      · rename_i b₃ other _ last
        rw [last] at told
        exact turn.then told Bool.noConfusion
    · rename_i b₂ done
      rw [done] at turn
      exact turn.then
        (serves_forward c.outcome (serves_updateOutboundAudit row.msgId (some c.error)) b₂)
        Bool.noConfusion
  · rename_i b₁ other _ same
    rw [same] at registered
    exact .of_serves registered Bool.noConfusion

theorem createInboundAudit_valid {e : Evidence} (valid : e.valid = true) (b : Backend) :
    createInboundAudit e b = ({ b with evidence := b.evidence ++ [e] },.ok) := by
  unfold createInboundAudit
  rw [if_pos valid]

theorem discard_valid (d : Delivery) (exc : Discard) :
    (buildDiscardAuditPayload d exc).valid = true := by
  have said : exc.reason.1 ≠ "" := exc.reason.2
  simp [Evidence.valid,buildDiscardAuditPayload,said]

/-- A nack always has a reason and a text, so its evidence is never refused. -/
theorem nack_valid {response : Fields} (worded : Nacks iso st.cityId payload response)
    (user : Option String) : (buildNackAuditPayload payload response user).valid = true := by
  obtain ⟨draws,target,refusal,cycleId,_,rfl⟩ := worded
  have said : refusal.message.1 ≠ "" := refusal.message.2
  simp [Evidence.valid,buildNackAuditPayload,dataOf,buildNack,Fields.get,List.lookup_cons,Json.text?,
    Json.obj?,said]

theorem settled_discarded (d : Delivery) (exc : Discard) (b : Backend) :
    Settled S st iso { b with evidence := b.evidence ++ [buildDiscardAuditPayload d exc] } d :=
  .discarded (List.mem_append_right _ (List.mem_singleton_self _)) rfl rfl

/-- The evidence of a discarded message is never refused. -/
theorem discard_kept (d : Delivery) (exc : Discard) (c : Circumstances iso) (b : Backend) :
    b.Serves (discard d exc c b).1 ∧ ((discard d exc c b).2 = true →
      ∃ e ∈ (discard d exc c b).1.evidence,
        e.status = .discarded ∧ e.rawPayload = some d.raw) := by
  have served := serves_forward c.audit (serves_createInboundAudit (buildDiscardAuditPayload d exc)) b
  unfold discard
  split
  · rename_i b' same
    rw [same] at served
    refine ⟨served,fun _ => ?_⟩
    have kept := forward_ack same
    rw [createInboundAudit_valid (discard_valid d exc)] at kept
    cases kept
    exact ⟨_,List.mem_append_right _ (List.mem_singleton_self _),rfl,rfl⟩
  · rename_i b' other _ same
    rw [same] at served
    exact ⟨served,Bool.noConfusion⟩

theorem trace_discard (d : Delivery) (exc : Discard) (c : Circumstances iso) (b : Backend) :
    (discard d exc c b).1.trace = b.trace := by
  have noted (e : Evidence) (b : Backend) : (createInboundAudit e b).1.trace = b.trace := by
    unfold createInboundAudit
    split <;> rfl
  have kept := forward_rel (R := fun b b' => b'.trace = b.trace) (fun _ => rfl)
    (noted (buildDiscardAuditPayload d exc)) c.audit b
  unfold discard
  split <;> rename_i same <;> rw [same] at kept <;> exact kept

theorem turn_discard (d : Delivery) (exc : Discard) (c : Circumstances iso) (b : Backend) :
    Turn S st iso b d (discard d exc c b) := by
  obtain ⟨served,kept⟩ := discard_kept d exc c b
  refine .of_serves served fun off => ?_
  obtain ⟨e,there,status,raw⟩ := kept off
  exact .discarded there status raw

theorem turn_undecodable (d : Delivery) (exc : Discard) (c : Circumstances iso) (b : Backend) :
    Turn S st iso b d
      (match forwardToMaster c.audit (createInboundAudit (buildDiscardAuditPayload d exc)) b with
        | (b, .retry) => (b, false)
        | (b, _) => (b, c.settled)) := by
  have served := serves_forward c.audit (serves_createInboundAudit (buildDiscardAuditPayload d exc)) b
  cases same : forwardToMaster c.audit (createInboundAudit (buildDiscardAuditPayload d exc)) b with
  | mk b' outcome =>
    rw [same] at served
    cases outcome with
    | retry => exact .of_serves served Bool.noConfusion
    | ack =>
      refine .of_serves served fun _ => ?_
      have kept := forward_ack same
      rw [createInboundAudit_valid (discard_valid d exc)] at kept
      cases kept
      exact settled_discarded d exc b
    | drop =>
      have refused := forward_drop same
      rw [createInboundAudit_valid (discard_valid d exc)] at refused
      cases refused

theorem turn_nack {route : String} {response : Fields} (c : Circumstances iso)
    (read : decodeIncomingPayload d = .ok payload) (worded : Nacks iso st.cityId payload response)
    (sender : authenticatedInboundRoute st d.user = some route) :
    Turn S st iso b d
      (match forwardToMaster c.audit
          (createInboundAudit (buildNackAuditPayload payload response d.user)) b with
        | (b, .ack) => reply st route response c b
        | (b, .drop) => (b, c.settled)
        | (b, .retry) => (b, false)) := by
  have served := serves_forward c.audit
    (serves_createInboundAudit (buildNackAuditPayload payload response d.user)) b
  cases same : forwardToMaster c.audit
      (createInboundAudit (buildNackAuditPayload payload response d.user)) b with
  | mk b' outcome =>
    rw [same] at served
    cases outcome with
    | retry => exact .of_serves served Bool.noConfusion
    | drop =>
      have refused := forward_drop same
      rw [createInboundAudit_valid (nack_valid worded d.user)] at refused
      cases refused
    | ack =>
      have kept := forward_ack same
      rw [createInboundAudit_valid (nack_valid worded d.user)] at kept
      cases kept
      have noted : Noted { b with
          evidence := b.evidence ++ [buildNackAuditPayload payload response d.user] } payload :=
        ⟨_,List.mem_append_right _ (List.mem_singleton_self _),rfl,rfl⟩
      refine .after served (turn_reply c sender ?_ ?_)
      · intro b₂ grows l to_ own
        exact ⟨to_,payload,read,.inr ⟨own ▸ worded,noted.grow grows⟩⟩
      · rintro b₂ grows ⟨l,sent,to_,own⟩
        exact .nacked read (noted.grow grows) sent to_ (own ▸ worded)

theorem turn_complete {b : Backend} (env : Env) {handling : Handling} (c : Circumstances iso)
    (read : decodeIncomingPayload d = .ok payload) (plan : Planned iso st.cityId payload handling)
    (reaches : handling.action = .ack ∨ handling.action = .ignore) {route : Option String}
    (sender : authenticatedInboundRoute st d.user = route) :
    Turn S st iso b d
      (match forwardToMaster c.forward (post env S payload c) b with
        | (b, .ack) => completeSuccessfulMessage st handling route c b
        | (b, .drop) => (b, c.settled)
        | (b, .retry) => (b, false)) := by
  have served := serves_forward c.forward (serves_post env S payload c) b
  cases same : forwardToMaster c.forward (post env S payload c) b with
  | mk b' outcome =>
    rw [same] at served
    cases outcome with
    | retry => exact .of_serves served Bool.noConfusion
    | drop =>
      have refused := forward_drop same
      refine .of_serves served fun _ => ?_
      have heard := heard_post env S
        (show (post env S payload c b).2 ≠ .failed by rw [refused]; exact Status.noConfusion)
      rw [refused] at heard
      exact .heard read heard fun ok => absurd ok Status.noConfusion
    | ack =>
      have answered := forward_ack same
      have heard := heard_post env S
        (show (post env S payload c b).2 ≠ .failed by rw [answered]; exact Status.noConfusion)
      rw [answered] at heard
      dsimp only at heard ⊢
      unfold completeSuccessfulMessage
      cases plan with
      | discard action => rw [action] at reaches; rcases reaches with other | other <;> cases other
      | nack action _ _ => rw [action] at reaches; rcases reaches with other | other <;> cases other
      | ignore action answer =>
        rw [action,if_neg Action.noConfusion]
        refine .of_serves served fun _ => .heard read heard fun _ own => ?_
        rw [answer] at own
        cases own
      | ack action prepared worded =>
        rw [action,if_pos rfl,prepared]
        cases named : route.filter (· ≠ "") with
        | none => exact .of_serves served Bool.noConfusion
        | some key =>
          have own : route = some key := (Option.filter_eq_some_iff.mp named).1
          refine .after served (turn_reply c (sender.trans own) ?_ ?_)
          · intro b₂ grows l to_ same
            exact ⟨to_,payload,read,.inl ⟨same ▸ worded,heard.grow grows⟩⟩
          · rintro b₂ grows ⟨l,sent,to_,same⟩
            exact .heard read (heard.grow grows) fun _ _ => ⟨l,sent,to_,same ▸ worded⟩

/-- One turn of the consumer. -/
theorem turn_consume (env : Env) (b : Backend) (d : Delivery) (c : Circumstances iso) :
    Turn S st iso b d (consume env S st b d c) := by
  unfold consume
  cases read : decodeIncomingPayload d with
  | error exc => exact turn_undecodable d exc c b
  | ok payload =>
    dsimp only
    have plan := planned c.draws st.cityId payload d.user
    generalize planProtocolResponse c.draws st.cityId payload d.user = handling at plan ⊢
    generalize sender : authenticatedInboundRoute st d.user = route
    cases plan with
    | discard action =>
      rw [action]
      exact turn_discard ..
    | ignore action answer =>
      rw [action]
      exact turn_complete env c read (.ignore action answer) (.inr action) sender
    | ack action prepared worded =>
      rw [action]
      cases route with
      | none => exact turn_discard ..
      | some key => exact turn_complete env c read (.ack action prepared worded) (.inl action) sender
    | nack action prepared worded =>
      rw [action,prepared]
      cases route with
      | none => exact turn_discard ..
      | some key => exact turn_nack c read worded sender

end Turns

/-! ### Runs -/

section Runs
variable (env : Env) (S : Schemas) (st : Settings) (iso : FromIso)

/-- Every letter answers a delivery, and no operation was carried out twice. -/
structure Sound (arrived : List Delivery) (b : Backend) : Prop where
  letters : ∀ l ∈ b.published, ∃ d ∈ arrived, Warranted S st iso b d l
  spent : IdpkClaims.Spent b.trace

variable {S st iso} {arrived : List Delivery} {b : Backend}

theorem Sound.arrive (h : Sound S st iso arrived b) (d : Delivery) :
    Sound S st iso (arrived ++ [d]) b where
  letters l hl := by
    obtain ⟨old,there,why⟩ := h.letters l hl
    exact ⟨old,List.mem_append_left _ there,why⟩
  spent := h.spent

theorem Sound.turn (h : Sound S st iso arrived b) {d : Delivery} (there : d ∈ arrived)
    {r : Backend × Bool} (turn : Turn S st iso b d r) : Sound S st iso arrived r.1 where
  letters l hl := by
    rcases turn.letters l hl with old | why
    · obtain ⟨e,hers,why⟩ := h.letters l old
      exact ⟨e,hers,why.grow turn.grows⟩
    · exact ⟨d,there,why⟩
  spent := turn.spent h.spent

theorem Sound.beside (h : Sound S st iso arrived b) (a : Node.Action) :
    Sound S st iso arrived { b with trace := IdpkClaims.step env b.trace a } where
  letters l hl := by
    obtain ⟨d,there,why⟩ := h.letters l hl
    exact ⟨d,there,why.grow (grows_step env b a)⟩
  spent := IdpkClaims.spent_step env h.spent a

/-- The connector in front of a master that it has not reached yet. -/
def fresh (db : Db) : Channel Backend Delivery where
  server := { trace := IdpkClaims.begun db }

/-- Whatever calls fail or lose their answer, wherever the connector stops, and
whatever the node does meanwhile: a delivery waits or is settled, every letter
answers a delivery, and no operation is carried out twice. -/
theorem directed_queue (env : Env) (S : Schemas) (st : Settings) (iso : FromIso) (db : Db)
    (acts : List (Channel.Act Delivery (Circumstances iso) Node.Action)) :
    Always (Channel.step (directed env S st))
      (fun c => Channel.Kept (Settled S st iso) c ∧ Sound S st iso c.arrived c.server)
      (fresh db) acts := by
  have settles : Channel.Settles (directed env S st) (Settled S st iso) :=
    { taken := fun b d c off => (turn_consume env b d c).settled off
      handled := fun b d e c settled => settled.grow (turn_consume env b d c).grows
      beside := fun b e a settled => settled.grow (grows_step env b a) }
  have nothing : Channel.Kept (Settled S st iso) (fresh db) := fun d hd => absurd hd List.not_mem_nil
  have start : Sound S st iso (fresh db).arrived (fresh db).server :=
    ⟨fun l hl => absurd hl List.not_mem_nil,IdpkClaims.spent_begun db⟩
  have sound : Always (Channel.step (directed env S st))
      (fun c => (∀ d ∈ c.queue, d ∈ c.arrived) ∧
      Sound S st iso c.arrived c.server) (fresh db) acts := by
    refine Channel.delivered_run (Sound S st iso) (fun l b d h => h.arrive d)
      (fun l b d c there h => ?_) (fun l b a h => h.beside env a)
      (fun d hd => absurd hd List.not_mem_nil) start acts
    exact h.turn there (turn_consume env b d c)
  exact (Channel.never_lost settles nothing acts).and (sound.mono fun c h => h.2)

/-- A bid of BBB whose first answer is lost is served once, and acked once. -/
example :
    let bid := Node.bidMessage "60000000-0000-0000-0000-000000000005"
      "60000000-0000-0000-0000-000000000006" "C1" "BBB" "AAA-C1" 10
    let S : Schemas := { message := fun _ => some bid, error := fun _ => none }
    let d : Delivery := ⟨"",some (.obj (ResponderProtocol.bidOf "C1" 10)),some "city.BBB"⟩
    let ended := run (Channel.step (directed Node.seller S ⟨"AAA",ResponderProtocol.deployed⟩))
      (fresh (Node.opened "C1"))
      [.arrive d,.deliver 0 { draws := SenderIdentity.drawn, forward := .lost },
        .deliver 0 { draws := SenderIdentity.drawn }]
    ended.queue.length = 0 ∧ ended.server.published.length = 1 ∧
      ended.server.trace.applied = [bid.idpk] ∧
      ended.server.trace.db.inbox.map InboundMessage.status = [.processed,.duplicate] := by
  decide +kernel

end Runs

end Connector

end EnergyNode
