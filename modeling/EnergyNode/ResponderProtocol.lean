import EnergyNode.SenderIdentity

/-! The answers of the connector, read by the connector. An ack is one of its own
messages; a nack that repeats an empty `cycleId` is one its reader refuses. -/
namespace EnergyNode

namespace ResponderProtocol
open Connector Outbound

/-- The reader of this program accepts the payload. -/
def Understood (iso : FromIso) (payload : Fields) : Prop :=
  ∃ m, parseEnvelope iso payload = .ok m ∧ validateMessage iso m = none

/-- The outbox item the connector registers for a response. -/
def itemOf (e : Exchanges) (response : Fields) (key : String) : Item where
  payload := response
  type := (response.get "type").text?.getD ""
  msgId := (BidReplies.spelled (response.get "msgId")).getD ""
  idpk := (BidReplies.spelled (response.get "idpk")).getD ""
  exchange := some e.directed
  routingKey := some key

/-- Every authenticated sender has a route for the response. -/
def Routed (iso : FromIso) (e : Exchanges) (cityId : String) (user : Option String)
    (response : Fields) : Prop :=
  ∀ key, routingKeyForDirectedResponse user e.centralRoutingKey = some key →
    ∃ route, selectOutboundDestination iso e cityId (itemOf e response key) = .ok route

/-- The payload is answered with a nack. -/
def Refusable (iso : FromIso) (payload : Fields) (user : Option String) : Prop :=
  match parseEnvelope iso payload with
  | .error (.missingMsgId _) => False
  | .error (.malformed _) => ¬(payload.get "type").text?.any (· ∈ noAckTypes)
  | .ok m => m.type ∉ noAckTypes ∧ ((impostor? m user).isSome ∨ (validateMessage iso m).isSome)

variable {iso : FromIso} {draws : Draws iso} {cityId : String} {payload : Fields}
  {user : Option String} {m : Envelope} {e : Exchanges}

/-! ### What is answered -/

theorem refused_response (m : Envelope) (reason : Told) (refusal : Refusal) :
    (refused draws cityId m reason refusal).response =
      if m.type ∈ noAckTypes then none
      else some (buildNack draws cityId m.msgId refusal m.cycleId) := by
  unfold refused
  split <;> rfl

/-- An ack answers what was accepted, a nack what was refused. -/
theorem response_cases {response : Fields}
    (h : (planProtocolResponse draws cityId payload user).response = some response) :
    (¬Refusable iso payload user ∧ ∃ target, (uuidText target).isSome ∧
      response = buildAck draws cityId target) ∨
    Refusable iso payload user ∧ ∃ target refusal, (uuidText target).isSome ∧
      response = buildNack draws cityId target refusal (payload.get "cycleId") := by
  unfold planProtocolResponse at h
  unfold Refusable
  cases read : parseEnvelope iso payload with
  | error failure =>
    rw [read] at h
    cases failure with
    | missingMsgId text => cases h
    | malformed text =>
      dsimp only at h ⊢
      split at h
      · cases h
      · rename_i answerable
        cases h
        obtain ⟨target,spelled,canonical⟩ := malformed_msgId read
        refine .inr ⟨answerable,rawTarget payload,_,?_,rfl⟩
        unfold rawTarget
        rw [spelled]
        exact canonical
  | ok m =>
    have own := parsed read
    rw [read] at h
    dsimp only at h ⊢
    cases false_ : impostor? m user with
    | some found =>
      simp only [false_] at h
      rw [refused_response,own.cycleId] at h
      split at h
      · cases h
      · rename_i answerable
        cases h
        exact .inr ⟨⟨answerable,.inl rfl⟩,m.msgId,found.2,own.msgId,rfl⟩
    | none =>
      simp only [false_] at h
      cases invalid : validateMessage iso m with
      | some refusal =>
        simp only [invalid] at h
        rw [refused_response,own.cycleId] at h
        split at h
        · cases h
        · rename_i answerable
          cases h
          exact .inr ⟨⟨answerable,.inr rfl⟩,m.msgId,refusal,own.msgId,rfl⟩
      | none =>
        simp only [invalid] at h
        split at h <;> cases h
        exact .inl ⟨by simp,m.msgId,own.msgId,rfl⟩

theorem refusable_answered (draws : Draws iso) (cityId : String) (h : Refusable iso payload user) : ∃ target refusal,
    (planProtocolResponse draws cityId payload user).response =
      some (buildNack draws cityId target refusal (payload.get "cycleId")) := by
  unfold Refusable at h
  unfold planProtocolResponse
  cases read : parseEnvelope iso payload with
  | error failure =>
    rw [read] at h
    cases failure with
    | missingMsgId text => exact h.elim
    | malformed text => exact ⟨_,_,by dsimp only; rw [if_neg h]⟩
  | ok m =>
    have own := parsed read
    rw [read] at h
    obtain ⟨answerable,reason⟩ := h
    dsimp only
    cases false_ : impostor? m user with
    | some found =>
      refine ⟨m.msgId,found.2,?_⟩
      dsimp only
      rw [refused_response,if_neg answerable,own.cycleId]
    | none =>
      rw [false_] at reason
      obtain ⟨refusal,invalid⟩ := Option.isSome_iff_exists.mp (reason.resolve_left (by decide))
      refine ⟨m.msgId,refusal,?_⟩
      simp only [invalid]
      rw [refused_response,if_neg answerable,own.cycleId]

/-- An answer is never answered. -/
theorem answers_unanswered (h : (payload.get "type").text?.any (· ∈ noAckTypes)) :
    (planProtocolResponse draws cityId payload user).response = none := by
  unfold planProtocolResponse
  cases read : parseEnvelope iso payload with
  | error failure =>
    cases failure with
    | missingMsgId text => rfl
    | malformed text =>
      dsimp only
      rw [if_pos h]
      rfl
  | ok m =>
    rw [(parsed read).type] at h
    have answer : m.type ∈ noAckTypes := by simpa using h
    dsimp only
    cases impostor? m user with
    | some found =>
      dsimp only
      rw [refused_response,if_pos answer]
    | none =>
      dsimp only
      cases validateMessage iso m with
      | some refusal =>
        dsimp only
        rw [refused_response,if_pos answer]
      | none =>
        dsimp only
        rw [if_neg (by simpa [shouldSendAck] using answer)]

/-! ### What the answers are -/

theorem isUuid_str (text : String) : isUuid (.str text) = (uuidText text).isSome := by
  unfold isUuid uuid? BidReplies.spelled
  rw [Option.bind_some]

theorem isUuidText_str (text : String) : isUuidText (.str text) = (uuidText text).isSome := by
  unfold isUuidText Json.text?
  rw [Option.bind_some]

section Answers
variable (draws) (cityId)

/-- A response as its own reader sees it. -/
def answer (type : String) (moment : Moment) (data raw : Fields) : Envelope where
  idpk := draws.idpk
  msgId := draws.msgId
  type := type
  timestamp := moment
  data := some data
  cityId := .str cityId
  sender := .null
  cycleId := .null
  raw := raw

/-- An answer meets the rules that its own contents meet. -/
theorem answer_valid {type : String} {moment : Moment} {data raw : Fields}
    (response : type ∈ answerTypes) (aware : moment.aware = true) :
    validateMessage iso (answer draws cityId type moment data raw) = none ↔
      validateContent iso (answer draws cityId type moment data raw) = none := by
  have shared : type ∈ sharedTypes := by
    revert response
    simp only [answerTypes,sharedTypes,List.mem_cons,List.not_mem_nil,or_false]
    tauto
  obtain ⟨known,central,city⟩ := (shared_iff type).mp shared
  have cycle : validateCycle (answer draws cityId type moment data raw) = none := by
    simp only [answerTypes,List.mem_cons,List.not_mem_nil,or_false] at response
    rcases response with rfl | rfl <;> rfl
  rw [validateMessage_none,validateIdentity_none]
  constructor
  · exact fun h => h.1.2.2.2
  · intro content
    refine ⟨⟨draws.distinct,aware,cycle,content⟩,known,.inl rfl,?_,?_,?_⟩
    · exact fun h => absurd h central
    · exact fun _ h => absurd h city
    · exact fun _ _ => ⟨fun both => Bool.false_ne_true both.2,.inl rfl⟩

theorem ack_parsed (target : String) {moment : Moment} (stamped : instant? iso draws.stamp = some moment) :
    parseEnvelope iso (buildAck draws cityId target) =
      .ok (answer draws cityId "ack" moment [("target",.str target)] (buildAck draws cityId target)) := by
  unfold parseEnvelope
  simp only [buildAck,List.lookup_cons,List.lookup_nil,Fields.get]
  simp [uuid?,BidReplies.spelled,Json.text?,draws.idpk_uuid,draws.msgId_uuid,stamped]
  rfl

theorem ack_read {target : String} (canonical : (uuidText target).isSome) :
    Understood iso (buildAck draws cityId target) := by
  obtain ⟨moment,stamped,aware⟩ := draws.stamp_aware
  refine ⟨_,ack_parsed draws cityId target stamped,?_⟩
  rw [answer_valid draws cityId (by decide) aware]
  have uuid : isUuid (Fields.get [("target",.str target)] "target") = true :=
    (isUuid_str target).trans canonical
  exact ensure_none.mpr uuid

def nackData (target : String) (refusal : Refusal) (cycleId : Json) : Fields :=
  [("target",.str target),("message",.str refusal.message.1)] ++ nackCycle cycleId

theorem nack_parsed (target : String) (refusal : Refusal) (cycleId : Json) {moment : Moment}
    (stamped : instant? iso draws.stamp = some moment) :
    parseEnvelope iso (buildNack draws cityId target refusal cycleId) =
      .ok (answer draws cityId "nack" moment (nackData target refusal cycleId)
        (buildNack draws cityId target refusal cycleId)) := by
  unfold parseEnvelope
  simp only [buildNack,List.lookup_cons,List.lookup_nil,Fields.get]
  simp [uuid?,BidReplies.spelled,Json.text?,draws.idpk_uuid,draws.msgId_uuid,stamped]
  rfl

/-- The reader looks the code up in the table it was taken from. -/
theorem listed_lookup (refusal : Refusal) : nackCodes.lookup refusal.reason = some refusal.code := by
  have all : ∀ row ∈ nackCodes, nackCodes.lookup row.1 = some row.2 := by decide
  exact all _ refusal.listed

theorem nackData_cycle (target : String) (refusal : Refusal) (cycleId : Json) :
    ((nackData target refusal cycleId).lookup "cycleId").all isText = true ↔
      cycleId.text? ≠ some "" := by
  unfold nackData nackCycle
  cases text : cycleId.text? with
  | none => simp [List.lookup_cons,List.lookup_nil]
  | some word =>
    by_cases short : word.length ≤ 64
    · by_cases empty : word = "" <;>
        simp [Option.filter,short,List.lookup_cons,isText,Json.text?,empty]
    · have full : word ≠ "" := by
        rintro rfl
        exact short (by decide)
      simp [Option.filter,short,List.lookup_cons,List.lookup_nil,full]

theorem nackData_target (target : String) (refusal : Refusal) (cycleId : Json) :
    (nackData target refusal cycleId).get "target" = .str target := rfl

/-- A nack is understood unless it repeats an empty `cycleId`. -/
theorem nack_read {target : String} (refusal : Refusal) (cycleId : Json)
    (canonical : (uuidText target).isSome) :
    Understood iso (buildNack draws cityId target refusal cycleId) ↔ cycleId.text? ≠ some "" := by
  obtain ⟨moment,stamped,aware⟩ := draws.stamp_aware
  have read := nack_parsed draws cityId target refusal cycleId stamped
  have contents : validateContent iso (answer draws cityId "nack" moment (nackData target refusal cycleId)
      (buildNack draws cityId target refusal cycleId)) = none ↔ cycleId.text? ≠ some "" := by
    rw [← nackData_cycle target refusal cycleId]
    have code : codeOf? nackCodes ((buildNack draws cityId target refusal cycleId).get "reason") =
        some refusal.code := listed_lookup refusal
    have same : ((buildNack draws cityId target refusal cycleId).get "code").pyEq (.int refusal.code) =
        true := by
      show (Json.int refusal.code).pyEq (.int refusal.code) = true
      simp [Json.pyEq,Json.number?]
    have text : isText (.str refusal.message.1) = true := by
      simp [isText,Json.text?,Option.filter,refusal.message.2]
    show validateNack _ = none ↔ _
    unfold validateNack withData
    dsimp only [answer]
    rw [code]
    dsimp only
    rw [same,nackData_target]
    have target_ : isUuid (.str target) = true := (isUuid_str target).trans canonical
    have said : isText ((nackData target refusal cycleId).get "message") = true := text
    simp [ensure_none,target_,said]
  constructor
  · rintro ⟨m,parsed_,valid⟩
    cases read.symm.trans parsed_
    exact contents.mp ((answer_valid draws cityId (by decide) aware).mp valid)
  · intro full
    exact ⟨_,read,(answer_valid draws cityId (by decide) aware).mpr (contents.mpr full)⟩

/-! ### Where the answers go -/

theorem route_own {key : String} (h : routingKeyForDirectedResponse user e.centralRoutingKey = some key) :
    key = e.centralRoutingKey ∨ cityRoute key = true := by
  unfold routingKeyForDirectedResponse at h
  split at h
  · cases h
  split at h
  · rename_i city
    cases h
    exact .inr city
  split at h <;> cases h
  exact .inl rfl

theorem check_ok {holds : Bool} {text : String} (h : holds = true) : check holds text = .ok () := by
  rw [check,if_pos h]

theorem answer_routed {response : Fields} {type : String} (set : official e) (kind : type ∈ answerTypes)
    (named : (response.get "type").text? = some type)
    (msgId : BidReplies.spelled (response.get "msgId") = some draws.msgId)
    (idpk : BidReplies.spelled (response.get "idpk") = some draws.idpk)
    (valid : validateV3 iso response type cityId = .ok ()) :
    Routed iso e cityId user response := by
  intro key route
  have own := route_own route
  have type_ : (itemOf e response key).type = type := by
    show ((response.get "type").text?).getD "" = type
    rw [named]
    rfl
  have placed : destination e cityId (itemOf e response key) = .ok (e.directed,key) := by
    unfold destination
    rw [type_]
    simp only [answerTypes,List.mem_cons,List.not_mem_nil,or_false] at kind
    have kept : ((itemOf e response key).routingKey.filter fun key =>
        key = e.centralRoutingKey || cityRoute key) = some key := by
      simp only [itemOf,Option.filter]
      rw [if_pos (by simpa using own)]
    have directed : ((itemOf e response key).exchange.filter (· ≠ "")).getD e.directed = e.directed := by
      simp only [itemOf,Option.filter]
      split <;> rfl
    rcases kind with rfl | rfl <;>
      · rw [if_neg (by decide),if_neg (by rw [directed]; simp),if_neg (by decide),if_neg (by decide),
          if_pos (by decide),kept]
  have v3 : type ∈ v3Types := by
    simp only [answerTypes,List.mem_cons,List.not_mem_nil,or_false] at kind
    rcases kind with rfl | rfl <;> decide
  refine ⟨(e.directed,key),?_⟩
  unfold selectOutboundDestination
  rw [type_,check_ok (by show decide ((response.get "type").text? = some type) = true; simpa using named),
    check_ok (by simp [itemOf,msgId]),check_ok (by simp [itemOf,idpk])]
  simp only [bind,Except.bind]
  rw [if_pos v3,check_ok set]
  show (validateV3 iso response type cityId).bind _ = _
  rw [valid]
  exact placed

/-- The envelope of an answer meets the outbound contract; its `data` decides. -/
theorem answer_v3 {response data : Fields} {type : String} (kind : type ∈ answerTypes)
    (city : response.get "cityId" = .str cityId) (idpk : response.get "idpk" = .str draws.idpk)
    (msgId : response.get "msgId" = .str draws.msgId) (stamp : response.get "timestamp" = .str draws.stamp)
    (cycle : response.lookup "cycleId" = none) (contents : response.get "data" = .obj data)
    {target : String} (named : data.get "target" = .str target) (canonical : (uuidText target).isSome)
    (refusal : checkRefusal response data type = .ok ()) :
    validateV3 iso response type cityId = .ok () := by
  obtain ⟨moment,stamped,aware⟩ := draws.stamp_aware
  have fields_ : fields iso type = [("target",isUuidText)] := by
    simp only [answerTypes,List.mem_cons,List.not_mem_nil,or_false] at kind
    rcases kind with rfl | rfl <;> rfl
  have other : type ∉ marketTypes ++ bidTypes ++ ["negotiation-report"] := by
    simp only [answerTypes,List.mem_cons,List.not_mem_nil,or_false] at kind
    rcases kind with rfl | rfl <;> decide
  have uuids : (isUuidText (.str draws.idpk) && isUuidText (.str draws.msgId)) = true := by
    simp [isUuidText,Json.text?,draws.idpk_uuid,draws.msgId_uuid]
  have dated : isDatetime iso (.str draws.stamp) = true := by
    simp [isDatetime,Json.text?,stamped,Option.filter,aware]
  have required_ : required data type (fields iso type) = .ok () := by
    have uuid : isUuidText (data.get "target") = true := by
      rw [named,isUuidText_str]
      exact canonical
    rw [fields_]
    simp only [required,uuid,check_ok]
    rfl
  unfold validateV3
  rw [city,idpk,msgId,stamp,contents,if_neg other,absentOr,cycle]
  rw [check_ok (by simp [Json.text?]),check_ok uuids,check_ok (by simp [Json.text?,draws.distinct]),
    check_ok dated,check_ok (by rfl)]
  show (required data type (fields iso type)).bind (fun _ => checkRefusal response data type) = _
  rw [required_]
  exact refusal

theorem ack_routed {target : String} (set : official e) (canonical : (uuidText target).isSome) :
    Routed iso e cityId user (buildAck draws cityId target) := by
  refine answer_routed draws cityId set (by decide) rfl rfl rfl ?_
  exact answer_v3 draws cityId (by decide) rfl rfl rfl rfl rfl rfl rfl canonical rfl

theorem nack_routed {target : String} (refusal : Refusal) (cycleId : Json) (set : official e)
    (canonical : (uuidText target).isSome) :
    Routed iso e cityId user (buildNack draws cityId target refusal cycleId) := by
  refine answer_routed draws cityId set (by decide) rfl rfl rfl ?_
  refine answer_v3 draws cityId (by decide) rfl rfl rfl rfl rfl rfl rfl canonical ?_
  have code : listedCode nackCodes (buildNack draws cityId target refusal cycleId) = true := by
    have lookup := listed_lookup refusal
    simp [listedCode,buildNack,Fields.get,List.lookup_cons,Json.text?,lookup,Json.pyEq,Json.number?]
  have short : absentOr (nackData target refusal cycleId) "cycleId"
      (fun value => value.text?.any (·.length ≤ 64)) = true := by
    unfold absentOr nackData nackCycle
    cases text : cycleId.text? with
    | none => rfl
    | some word =>
      by_cases short : word.length ≤ 64 <;> simp [Option.filter,short,List.lookup_cons,List.lookup_nil,Json.text?]
  unfold checkRefusal
  rw [if_pos (by decide),if_pos (by decide),if_neg (by decide),if_pos (by decide),if_pos (by decide),
    check_ok code,check_ok (by rfl)]
  exact check_ok short

end Answers

/-- Every answer the connector builds is one it would accept and can route, but
for the refusal of a message whose `cycleId` is the empty text; and no answer is
answered. -/
theorem responder_consistent (iso : FromIso) (draws : Draws iso) (e : Exchanges) (set : official e)
    (cityId : String) (payload : Fields) (user : Option String) :
    ((∀ response, (planProtocolResponse draws cityId payload user).response = some response →
        Understood iso response ∧ Routed iso e cityId user response) ↔
      ¬((payload.get "cycleId").text? = some "" ∧ Refusable iso payload user)) ∧
    ((payload.get "type").text?.any (· ∈ noAckTypes) →
      (planProtocolResponse draws cityId payload user).response = none) := by
  refine ⟨⟨?_,?_⟩,answers_unanswered⟩
  · rintro fluent ⟨empty,refusable⟩
    obtain ⟨target,refusal,answered⟩ := refusable_answered draws cityId refusable
    obtain ⟨understood,_⟩ := fluent _ answered
    rcases response_cases answered with ⟨accepted,_⟩ | ⟨_,target',refusal',canonical,same⟩
    · exact accepted refusable
    · rw [same] at understood
      exact (nack_read draws cityId refusal' _ canonical).mp understood empty
  · intro full response answered
    rcases response_cases answered with ⟨_,target,canonical,rfl⟩ | ⟨refusable,target,refusal,canonical,rfl⟩
    · exact ⟨ack_read draws cityId canonical,ack_routed draws cityId set canonical⟩
    · have named : (payload.get "cycleId").text? ≠ some "" := fun empty => full ⟨empty,refusable⟩
      exact ⟨(nack_read draws cityId refusal _ canonical).mpr named,
        nack_routed draws cityId refusal _ set canonical⟩

section Examples

instance : Decidable (Refusable iso payload user) := by
  unfold Refusable
  split <;> infer_instance

/-- A bid of BBB. -/
def bidOf (cycleId : String) (quantity : Int) : Fields :=
  [("idpk",.str "60000000-0000-0000-0000-000000000005"),
    ("msgId",.str "60000000-0000-0000-0000-000000000006"),("type",.str "bid"),
    ("timestamp",.str "1970-01-01T00:01:00Z"),("cityId",.str "BBB"),("cycleId",.str cycleId),
    ("data",.obj [("offerId",.str "AAA-C1"),("quantity",.int quantity)])]

def deployed : Exchanges := ⟨"energy.x","market","central"⟩

/-- The nack of a bid of the empty cycle repeats it, and the connector refuses it. -/
theorem cycleless_misunderstood : ∃ response,
    (planProtocolResponse SenderIdentity.drawn "AAA" (bidOf "" 10) (some "city.BBB")).response =
      some response ∧ ¬Understood Moment.ofText response := by
  have refusable : Refusable Moment.ofText (bidOf "" 10) (some "city.BBB") := by
    decide +kernel
  obtain ⟨target,refusal,answered⟩ :=
    refusable_answered SenderIdentity.drawn "AAA" refusable
  refine ⟨_,answered,fun understood => ?_⟩
  rcases response_cases answered with ⟨accepted,_⟩ | ⟨_,target',refusal',canonical,same⟩
  · exact accepted refusable
  · rw [same] at understood
    exact (nack_read SenderIdentity.drawn "AAA" refusal' _ canonical).mp understood rfl

/-- A bid of nothing is refused in words the connector understands. -/
theorem empty_bid_understood : ∃ response,
    (planProtocolResponse SenderIdentity.drawn "AAA" (bidOf "C1" 0) (some "city.BBB")).response =
      some response ∧ Understood Moment.ofText response ∧
      Routed Moment.ofText deployed "AAA" (some "city.BBB") response := by
  have refusable : Refusable Moment.ofText (bidOf "C1" 0) (some "city.BBB") := by
    decide +kernel
  obtain ⟨target,refusal,answered⟩ :=
    refusable_answered SenderIdentity.drawn "AAA" refusable
  have consistent := responder_consistent Moment.ofText SenderIdentity.drawn deployed (by decide) "AAA"
    (bidOf "C1" 0) (some "city.BBB")
  exact ⟨_,answered,consistent.1.mpr (fun h => absurd h.1 (by decide)) _ answered⟩

end Examples

end ResponderProtocol

end EnergyNode
