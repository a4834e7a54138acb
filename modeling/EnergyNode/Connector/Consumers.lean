import EnergyNode.Connector.Handler
import EnergyNode.Lib.Channel
import EnergyNode.NegotiationAttempts
import EnergyNode.OperationsOnce
import EnergyNode.Reports

/-! The consumer of the directed queue: what the connector asks of the master for
a delivery, what the master keeps, and when the broker may forget the message. -/
namespace EnergyNode
open Lib

namespace Connector

/-- A message of the broker: its body, what `json.loads` reads there, and the user
the broker vouches for. -/
structure Delivery where
  raw : String
  body : Option Json
  user : Option String

/-- `DiscardMessage`. -/
structure Discard where
  reason : Told
  payload : Option Fields := none
  /-- The values the reason goes on to quote. -/
  quoted : List Json := []

theorem missing_said : "El mensaje no contiene msgId" ≠ "" := by simp

/-- `decode_incoming_payload`. -/
def decodeIncomingPayload (d : Delivery) : Except Discard Fields :=
  match d.body with
  | none => .error { reason := told "El mensaje no es JSON válido" }
  | some (.obj payload) =>
      match payload.lookup "msgId" with
      | none => .error
          { reason := told "El mensaje no contiene msgId" missing_said, payload := some payload }
      | some msgId =>
          match uuid? msgId with
          | none => .error
              { reason := told "El mensaje no contiene un msgId UUID válido", payload := some payload }
          | some _ => .ok payload
  | some _ => .error { reason := told "El mensaje JSON no es un objeto" }

/-! ### What the master keeps -/

inductive EvidenceStatus where
  | discarded | nacked
deriving DecidableEq

/-- An audit row of a message that did not reach the services. The columns of the
identifiers hold the `str` of a value that is not null. -/
structure Evidence where
  status : EvidenceStatus
  msgId : Json
  idpk : Json
  type : Option String
  cycleId : Option String
  sender : Option String
  payload : Option Fields
  rawPayload : Option String := none
  reasonCode : Option String := none
  reason : String
  quoted : List Json := []

/-- `audit_text`. -/
def auditText (payload : Option Fields) (name : String) : Option String :=
  ((payload.getD []).get name).text?

/-- `build_discard_audit_payload`. -/
def buildDiscardAuditPayload (d : Delivery) (exc : Discard) : Evidence where
  status := .discarded
  msgId := (exc.payload.getD []).get "msgId"
  idpk := (exc.payload.getD []).get "idpk"
  type := auditText exc.payload "type"
  cycleId := auditText exc.payload "cycleId"
  sender := auditText exc.payload "sender"
  payload := exc.payload
  rawPayload := some d.raw
  reason := exc.reason
  quoted := exc.quoted

def userJson (user : Option String) : Json := (user.map Json.str).getD .null

/-- `response.get("data", {})`. -/
def dataOf (response : Fields) : Fields := ((response.get "data").obj?).getD []

/-- `build_nack_audit_payload`. -/
def buildNackAuditPayload (payload response : Fields) (user : Option String) : Evidence where
  status := .nacked
  msgId := payload.get "msgId"
  idpk := payload.get "idpk"
  type := auditText (some payload) "type"
  cycleId := auditText (some payload) "cycleId"
  sender := ((auditText (some payload) "sender").filter (· ≠ "")).orElse fun _ =>
    auditText (some payload) "cityId"
  payload := some payload
  reasonCode := (response.get "reason").text?
  reason := (((dataOf response).get "message").text?).getD "Mensaje rechazado por el protocolo"
  quoted := if (response.get "reason").text? = some "IDENTITY_MISMATCH" then
    [userJson user,payload.get "cityId"] else []

/-- An outbound audit row of a reply of ours. Nothing dispatches it: the connector
publishes it at once and reports the result. -/
structure Answer where
  msgId : String
  idpk : String
  type : String
  target : Option String
  routingKey : String
  exchange : String
  payload : Fields
  status : OutboundStatus := .pending
  attemptCount : Nat := 0
  lastError : Option String := none

/-- What the broker took from us. -/
structure Letter where
  exchange : String
  routingKey : String
  user : String
  payload : Fields

/-- `ProtocolErrorPayload`. -/
structure ErrorMessage where
  msgId : String
  cycleId : String
  target : String
  reason : Reports.ErrorReason

/-- The master with the operations it carried out, and the broker's outgoing side. -/
structure Backend where
  trace : IdpkClaims.Trace
  evidence : List Evidence := []
  errors : List ErrorMessage := []
  answers : Table Answer.msgId := .empty
  published : List Letter := []

/-- The request models of the master, which pydantic reads. -/
structure Schemas where
  message : Fields → Option Payload
  error : Fields → Option ErrorMessage

/-- The environment variables of the connector. -/
structure Settings where
  cityId : String
  exchanges : Outbound.Exchanges

/-! ### The endpoints -/

/-- The class of an HTTP answer: 2xx, 4xx, anything else. -/
inductive Status where
  | ok | refused | failed
deriving DecidableEq

/-- `InboundMessageAuditIn`. -/
def Evidence.valid (e : Evidence) : Bool :=
  e.reason ≠ "" && (e.status ≠ .nacked || e.reasonCode.isSome)

/-- `create_inbound_audit`. -/
def createInboundAudit (e : Evidence) (b : Backend) : Backend × Status :=
  if e.valid then ({ b with evidence := b.evidence ++ [e] }, .ok) else (b, .refused)

/-- `create_outbound_audit` for a reply. -/
def createOutboundAudit (a : Answer) (b : Backend) : Backend × Status :=
  if (b.trace.db.outbox.get? a.msgId).isSome then (b, .refused)
  else match b.answers.get? a.msgId with
    | some old =>
        if old.exchange = a.exchange ∧ old.routingKey = a.routingKey ∧
            Json.pyEq (.obj old.payload) (.obj a.payload) then (b, .ok)
        else (b, .refused)
    | none =>
        match b.answers.insert? a with
        | some answers => ({ b with answers := answers }, .ok)
        | none => (b, .failed)

/-- `mark_outbound_published` and `mark_outbound_failed`. -/
def reported (a : Answer) (error : Option String) : Answer :=
  match error with
  | none =>
      if a.status = .published then a
      else { a with
        status := .published, attemptCount := a.attemptCount + 1, lastError := none }
  | some error =>
      if a.status = .published ∨ (a.status = .failed ∧ a.lastError = some error) then a
      else { a with
        status := .failed, attemptCount := a.attemptCount + 1, lastError := some error }

/-- `update_outbound_audit` for a reply; `none` is a success. -/
def updateOutboundAudit (msgId : String) (error : Option String) (b : Backend) : Backend × Status :=
  match b.answers.get? msgId with
  | none => (b, .refused)
  | some a => ({ b with answers := b.answers.set (reported a error) }, .ok)

/-- The status of an `ingest_protocol_message`: only a ValueError is a 422. -/
def replyStatus : Ingest.Reply → Status
  | .answered _ => .ok
  | .failed (.value _) => .refused
  | .failed _ => .failed

/-- `/internal/messages`. -/
def postMessage (env : Env) (S : Schemas) (payload : Fields) (now : Instant) (b : Backend) :
    Backend × Status :=
  match S.message payload with
  | none => (b, .refused)
  | some p =>
      ({ b with trace := IdpkClaims.step env b.trace (.ingest p now) },
        replyStatus (Ingest.ingest env.cfg env.jwt b.trace.db p now).2)

/-- `ingest_protocol_error`: any fault rolls back and is a 500. -/
def ingestProtocolError (env : Env) (e : ErrorMessage) (locked : List String) (now : Instant)
    (b : Backend) : Backend × Status :=
  if e.msgId ∈ b.errors.map ErrorMessage.msgId then (b, .ok)
  else
    let db := Reports.processReportError env.cfg b.trace.db ⟨e.cycleId,e.target,e.reason⟩ locked now
    match Negotiations.refuseProposal db ⟨e.msgId,e.target,some e.cycleId⟩ now with
    | .ok db => ({ b with trace := { b.trace with db := db }, errors := b.errors ++ [e] }, .ok)
    | .error _ => (b, .failed)

/-- `/internal/protocol/errors`. -/
def postError (env : Env) (S : Schemas) (payload : Fields) (locked : List String) (now : Instant)
    (b : Backend) : Backend × Status :=
  match S.error payload with
  | none => (b, .refused)
  | some e => ingestProtocolError env e locked now b

/-! ### The consumer -/

/-- What a call meets: the master, nobody, or a master whose answer is lost. A
connector that stops before or after the call leaves what the last two leave. -/
inductive Wire where
  | answered | broken | lost
deriving DecidableEq

inductive Outcome where
  | ack | drop | retry
deriving DecidableEq

/-- `forward_to_master`. -/
def forwardToMaster (wire : Wire) (serve : Backend → Backend × Status) (b : Backend) :
    Backend × Outcome :=
  match wire with
  | .broken => (b, .retry)
  | .lost => ((serve b).1, .retry)
  | .answered =>
      match serve b with
      | (b, .ok) => (b, .ack)
      | (b, .refused) => (b, .drop)
      | (b, .failed) => (b, .retry)

/-- How a publication ends: taken, refused, or taken without a confirmation. -/
inductive Publication where
  | confirmed | refused | unconfirmed
deriving DecidableEq

/-- All a delivery depends on beside the master's state. -/
structure Circumstances (iso : FromIso) where
  draws : Draws iso
  now : Instant := 0
  locked : List String := []
  audit : Wire := .answered
  forward : Wire := .answered
  register : Wire := .answered
  outcome : Wire := .answered
  publication : Publication := .confirmed
  error : String := ""
  /-- The broker takes our final word on the message. -/
  settled : Bool := true

section Consume
variable {iso : FromIso} (env : Env) (S : Schemas) (st : Settings)

/-- `authenticated_inbound_route`. -/
def authenticatedInboundRoute (user : Option String) : Option String :=
  routingKeyForDirectedResponse user st.exchanges.centralRoutingKey

/-- `build_outbound_audit_payload`; `none` when the master's schema refuses it. -/
def answerRow (route : String) (response : Fields) : Option Answer := do
  let msgId ← (response.get "msgId").text?.bind uuidText
  let idpk ← (response.get "idpk").text?.bind uuidText
  let type ← (response.get "type").text?
  return {
    msgId := msgId, idpk := idpk, type := type, target := ((dataOf response).get "target").text?
    routingKey := route, exchange := st.exchanges.directed, payload := response }

/-- `publish_protocol_message`: the user is the city that the payload names. -/
def publishProtocolMessage (route : String) (response : Fields) (how : Publication) (b : Backend) :
    Backend × Bool :=
  match ((response.get "cityId").text?.filter (· ≠ "")).filter fun city =>
      "city." ++ city = "city." ++ st.cityId with
  | none => (b, false)
  | some _ =>
      let letter : Letter := ⟨st.exchanges.directed,route,"city." ++ st.cityId,response⟩
      match how with
      | .confirmed => ({ b with published := b.published ++ [letter] }, true)
      | .unconfirmed => ({ b with published := b.published ++ [letter] }, false)
      | .refused => (b, false)

/-- A reply is registered, published, and its result registered; an exception on
the way closes the connection, and the message comes again. -/
def reply (route : String) (response : Fields) (c : Circumstances iso) (b : Backend) :
    Backend × Bool :=
  match answerRow st route response with
  | none => (b, false)
  | some row =>
      match forwardToMaster c.register (createOutboundAudit row) b with
      | (b, .ack) =>
          match publishProtocolMessage st route response c.publication b with
          | (b, true) =>
              match forwardToMaster c.outcome (updateOutboundAudit row.msgId none) b with
              | (b, .ack) => (b, c.settled)
              | (b, _) => (b, false)
          | (b, false) =>
              ((forwardToMaster c.outcome (updateOutboundAudit row.msgId (some c.error)) b).1, false)
      | (b, _) => (b, false)

/-- `complete_successful_message`. -/
def completeSuccessfulMessage (handling : Handling) (route : Option String) (c : Circumstances iso)
    (b : Backend) : Backend × Bool :=
  if handling.action = .ack then
    match route.filter (· ≠ ""), handling.response with
    | some route, some response => reply st route response c b
    | _, _ => (b, false)
  else (b, c.settled)

/-- A message that cannot be answered leaves the queue once its evidence is kept. -/
def discard (d : Delivery) (exc : Discard) (c : Circumstances iso) (b : Backend) : Backend × Bool :=
  match forwardToMaster c.audit (createInboundAudit (buildDiscardAuditPayload d exc)) b with
  | (b, .ack) => (b, c.settled)
  | (b, _) => (b, false)

/-- `select_master_url`. -/
def isError (payload : Fields) : Bool := (payload.get "type").text? = some "error"

def post (payload : Fields) (c : Circumstances iso) (b : Backend) : Backend × Status :=
  if isError payload then postError env S payload c.locked c.now b
  else postMessage env S payload c.now b

/-- One turn of `consume_forever`; the flag says whether the broker forgets the message. -/
def consume (b : Backend) (d : Delivery) (c : Circumstances iso) : Backend × Bool :=
  match decodeIncomingPayload d with
  | .error exc =>
      -- Undecodable: the only place where a refused evidence also lets the message go.
      match forwardToMaster c.audit (createInboundAudit (buildDiscardAuditPayload d exc)) b with
      | (b, .retry) => (b, false)
      | (b, _) => (b, c.settled)
  | .ok payload =>
      let handling := planProtocolResponse c.draws st.cityId payload d.user
      let route := authenticatedInboundRoute st d.user
      match handling.action, route, handling.response with
      | .ack, none, _ | .nack, none, _ =>
          discard d
            { reason := told "Sin ruta AMQP autenticada para responder; user_id="
              payload := some payload, quoted := [userJson d.user] } c b
      | .discard, _, _ =>
          discard d
            { reason := handling.discardReason.getD
                (told "Respuesta de protocolo inválida: se descarta para evitar bucles")
              payload := some payload } c b
      | .nack, some route, some response =>
          match forwardToMaster c.audit
              (createInboundAudit (buildNackAuditPayload payload response d.user)) b with
          | (b, .ack) => reply st route response c b
          | (b, .drop) => (b, c.settled)
          | (b, .retry) => (b, false)
      | .nack, some _, none => (b, false)
      | _, _, _ =>
          match forwardToMaster c.forward (post env S payload c) b with
          | (b, .ack) => completeSuccessfulMessage st handling route c b
          | (b, .drop) => (b, c.settled)
          | (b, .retry) => (b, false)

/-- The directed queue in front of the master; beside it, the node goes on. -/
def directed : Consumer Backend Delivery (Circumstances iso) Node.Action where
  handle := consume env S st
  beside b a := { b with trace := IdpkClaims.step env b.trace a }

end Consume

end Connector

end EnergyNode
