import EnergyNode.Connector.Envelope

/-! What the connector answers, and where an outgoing message may go. The
handler publishes nothing: it decides an action and builds its response. -/
namespace EnergyNode

namespace Connector

/-- Two fresh identifiers and the text of the clock, which reads back. -/
structure Draws (iso : FromIso) where
  idpk : String
  msgId : String
  stamp : String
  idpk_uuid : uuidText idpk = some idpk
  msgId_uuid : uuidText msgId = some msgId
  distinct : idpk ≠ msgId
  stamp_aware : ∃ moment, instant? iso stamp = some moment ∧ moment.aware = true

section Responses
variable {iso : FromIso} (draws : Draws iso) (cityId : String)

/-- `build_ack`. -/
def buildAck (msgId : String) : Fields :=
  [("idpk",.str draws.idpk),("msgId",.str draws.msgId),("type",.str "ack"),
    ("timestamp",.str draws.stamp),("cityId",.str cityId),("data",.obj [("target",.str msgId)])]

/-- The cycle a refusal repeats: any text of up to 64 characters. -/
def nackCycle (cycleId : Json) : Fields :=
  match cycleId.text?.filter (·.length ≤ 64) with
  | some text => [("cycleId",.str text)]
  | none => []

/-- `build_nack`. -/
def buildNack (target : String) (refusal : Refusal) (cycleId : Json) : Fields :=
  [("idpk",.str draws.idpk),("msgId",.str draws.msgId),("type",.str "nack"),
    ("timestamp",.str draws.stamp),("cityId",.str cityId),("reason",.str refusal.reason),
    ("code",.int refusal.code),
    ("data",.obj ([("target",.str target),("message",.str refusal.message.1)] ++ nackCycle cycleId))]

end Responses

/-- NO_ACK_TYPES. -/
def noAckTypes : List String := ["ack","nack","error"]

def shouldSendAck (m : Envelope) : Bool := m.type ∉ noAckTypes

inductive Action where
  | ack | nack | ignore | discard
deriving DecidableEq

structure Handling where
  action : Action
  message : Option Envelope := none
  response : Option Fields := none
  discardReason : Option Told := none

/-- The user of the broker contradicts the identity the envelope declares;
with the texts for a discarded answer and for the sender. -/
def impostor? (m : Envelope) (user : Option String) : Option (Told × Refusal) :=
  if m.idpk ≠ m.msgId ∧ isCityCode m.cityId ∧ isNull m.sender ∧
      user ≠ m.cityId.text?.map ("city." ++ ·) then
    some (told "Identidad inválida en respuesta de protocolo",
      { reason := "IDENTITY_MISMATCH", code := 403
        message := told "AMQP user_id no corresponde al cityId" })
  else if m.idpk ≠ m.msgId ∧ isCentral m.sender ∧ isNull m.cityId ∧ user ≠ some "central" then
    some (told "Respuesta que declara sender central sin identidad AMQP central",
      { reason := "MALFORMED_MESSAGE", code := 422
        message := told "sender central requiere AMQP user_id central", listed := malformed_listed })
  else none

section Plan
variable {iso : FromIso} (draws : Draws iso) (cityId : String)

def discarded (message : Option Envelope) (reason : Told) : Handling :=
  { action := .discard, message := message, discardReason := some reason }

/-- A refused message is answered, unless it is an answer itself. -/
def refused (m : Envelope) (reason : Told) (refusal : Refusal) : Handling :=
  if m.type ∈ noAckTypes then discarded (some m) reason
  else { action := .nack, message := some m
         response := some (buildNack draws cityId m.msgId refusal m.cycleId) }

/-- `str(payload["msgId"])`, which has been read as a UUID. -/
def rawTarget (payload : Fields) : String := (BidReplies.spelled (payload.get "msgId")).getD ""

/-- `plan_protocol_response`. -/
def planProtocolResponse (payload : Fields) (user : Option String) : Handling :=
  match parseEnvelope iso payload with
  | .error (.missingMsgId text) => discarded none text
  | .error (.malformed text) =>
      if (payload.get "type").text?.any (· ∈ noAckTypes) then discarded none text
      else { action := .nack
             response := some (buildNack draws cityId (rawTarget payload)
               { reason := "MALFORMED_MESSAGE", code := 422, message := text
                 listed := malformed_listed }
               (payload.get "cycleId")) }
  | .ok m =>
      match impostor? m user with
      | some (reason,refusal) => refused draws cityId m reason refusal
      | none =>
          match validateMessage iso m with
          | some refusal => refused draws cityId m refusal.message refusal
          | none =>
              if shouldSendAck m then
                { action := .ack, message := some m, response := some (buildAck draws cityId m.msgId) }
              else { action := .ignore, message := some m }

end Plan

/-! ### Destinations -/

def marketTypes : List String := ["offer","offer-updated","offer-withdrawn"]

def bidTypes : List String := ["bid","bid-accepted","bid-rejected"]

/-- The types that go to the central alone. -/
def reportTypes : List String := ["request","negotiation-report"]

def answerTypes : List String := ["ack","nack"]

def v3Types : List String := marketTypes ++ bidTypes ++ reportTypes ++ answerTypes

def legacyDirectedTypes : List String := ["negotiation-proposal","give","take","transfer"]

def bidRejectionCodes : List (String × Int) :=
  [("QUANTITY_UNAVAILABLE",409),("OFFER_WITHDRAWN",410),("BID_TOO_SMALL",422),
    ("MARKET_CLOSED",410),("SELF_TRADE",422)]

/-- CITY_ROUTING_KEY.fullmatch. -/
def cityRoute (text : String) : Bool :=
  text.toList.take 5 = "city.".toList && cityCode (String.ofList (text.toList.drop 5))

/-- `routing_key_for_directed_response`. -/
def routingKeyForDirectedResponse (user : Option String) (centralRoutingKey : String) :
    Option String :=
  match user with
  | none => none
  | some user =>
      if cityRoute user then some user
      else if user = "central" then some centralRoutingKey
      else none

namespace Outbound

def isUuidText (value : Json) : Bool := (value.text?.bind uuidText).isSome

def isInteger (value : Json) : Bool := value.int?.isSome

/-- `math.isfinite`: an integer too large for a float is refused. -/
def isFinite : Json → Bool
  | .int n => n.natAbs < 2 ^ 1024 - 2 ^ 970
  | .float _ => true
  | _ => false

def isAsk (value : Json) : Bool := value.text?.any (· ∈ ["status-statement","distance-table"])

/-- The members of `data` each type must have, with their checks. -/
def fields (iso : FromIso) : String → List (String × (Json → Bool))
  | "offer" => [("offerId",isText),("quantity",isInteger),("pricePerEnergy",isFinite)]
  | "offer-updated" => [("offerId",isText),("remaining",isInteger),("pricePerEnergy",isFinite)]
  | "offer-withdrawn" => [("offerId",isText)]
  | "bid" => [("offerId",isText),("quantity",isInteger)]
  | "bid-accepted" =>
      [("target",isUuidText),("offerId",isText),("quantity",isInteger),("pricePerEnergy",isFinite),
        ("amount",isFinite),("swapId",isText),("swapToken",isText),("expiresAt",isDatetime iso)]
  | "bid-rejected" => [("target",isUuidText),("offerId",isText)]
  | "request" => [("ask",isAsk)]
  | "negotiation-report" => [("budgetBalance",isFinite),("energyBalance",isFinite)]
  | "ack" => [("target",isUuidText)]
  | "nack" => [("target",isUuidText)]
  | _ => []

def check (holds : Bool) (text : String) : Except String Unit :=
  if holds then .ok () else .error text

/-- `_required`. -/
def required (data : Fields) (type : String) : List (String × (Json → Bool)) → Except String Unit
  | [] => .ok ()
  | (name,holds) :: rest => do
      check (holds (data.get name)) (type ++ ".data." ++ name ++ " no cumple el contrato v3")
      required data type rest

def absentOr (data : Fields) (name : String) (holds : Json → Bool) : Bool :=
  (data.lookup name).all holds

/-- `codes.get(reason) == payload.get("code")`: an unknown reason goes without a code. -/
def listedCode (codes : List (String × Int)) (payload : Fields) : Bool :=
  match (payload.get "reason").text? with
  | none => false
  | some reason =>
      match codes.lookup reason with
      | some code => (payload.get "code").pyEq (.int code)
      | none => isNull (payload.get "code")

/-- The rules of the two kinds of refusal. -/
def checkRefusal (payload data : Fields) (type : String) : Except String Unit := do
  if type ∈ ["nack","bid-rejected"] then
    check (listedCode (if type = "nack" then nackCodes else bidRejectionCodes) payload)
      "reason/code no corresponde al tipo de rechazo v3"
  if type = "bid-rejected" then
    check ((payload.get "reason").text? ≠ some "QUANTITY_UNAVAILABLE" || isInteger (data.get "available"))
      "QUANTITY_UNAVAILABLE requiere data.available entero"
    check (absentOr data "available" isInteger) "bid-rejected.data.available debe ser entero"
    check (absentOr data "requested" isInteger) "bid-rejected.data.requested debe ser entero"
  if type ∈ ["bid-rejected","nack"] then
    check (absentOr data "message" fun value => value.text?.isSome) "data.message debe ser string"
  if type = "nack" then
    check (absentOr data "cycleId" fun value => value.text?.any (·.length ≤ 64))
      "nack.data.cycleId debe tener máximo 64 caracteres"

/-- `_validate_v3`. -/
def validateV3 (iso : FromIso) (payload : Fields) (type cityId : String) : Except String Unit := do
  check ((payload.get "cityId").text? = some cityId) "cityId saliente no corresponde a esta ciudad"
  check (isUuidText (payload.get "idpk") && isUuidText (payload.get "msgId"))
    "idpk y msgId deben ser UUID válidos"
  check ((payload.get "idpk").text? ≠ (payload.get "msgId").text?) "idpk y msgId deben ser distintos"
  check (isDatetime iso (payload.get "timestamp")) "timestamp debe ser ISO 8601 con zona horaria"
  if type ∈ marketTypes ++ bidTypes ++ ["negotiation-report"] then
    check (isText (payload.get "cycleId")) "cycleId es obligatorio"
  else
    check (absentOr payload "cycleId" fun value => value.text?.isSome) "cycleId debe ser string"
  match payload.get "data" with
  | .obj data => do
      required data type (fields iso type)
      checkRefusal payload data type
  | _ => .error "data debe ser un objeto"

structure Item where
  payload : Fields
  type : String
  msgId : String
  idpk : String
  exchange : Option String
  routingKey : Option String

/-- The exchanges of the deployment. -/
structure Exchanges where
  directed : String
  market : String
  centralRoutingKey : String

def official (e : Exchanges) : Bool := e.directed = "energy.x" && e.market = "market"

/-- The exchange and the route that were persisted with the message. -/
def destination (e : Exchanges) (cityId : String) (item : Item) : Except String (String × String) :=
  if item.type ∈ marketTypes then
    if item.exchange = some e.market ∧ item.routingKey = some ("market.offer." ++ cityId) then
      .ok (e.market,"market.offer." ++ cityId)
    else .error "Oferta requiere exchange market y routing key propia persistidos"
  else if (item.exchange.filter (· ≠ "")).getD e.directed ≠ e.directed then
    .error "Mensaje dirigido requiere el exchange energy.x"
  else if item.type ∈ bidTypes then
    if item.exchange ≠ some e.directed then .error "Bid requiere exchange dirigido persistido"
    else match item.routingKey.filter cityRoute with
      | some key => .ok (e.directed,key)
      | none => .error "Bid requiere routing key city.{DESTINATARIO}"
  else if item.type ∈ reportTypes then
    if item.routingKey = some e.centralRoutingKey then .ok (e.directed,e.centralRoutingKey)
    else .error "Mensaje a central requiere su routing key"
  else if item.type ∈ answerTypes then
    match item.routingKey.filter fun key => key = e.centralRoutingKey || cityRoute key with
    | some key => .ok (e.directed,key)
    | none => .error "ACK/NACK requiere routing key de central o ciudad"
  else .ok (e.directed,item.routingKey.getD e.centralRoutingKey)

/-- `select_outbound_destination`. -/
def selectOutboundDestination (iso : FromIso) (e : Exchanges) (cityId : String) (item : Item) :
    Except String (String × String) := do
  check ((item.payload.get "type").text? = some item.type) "type y payload del outbox no coinciden"
  check (BidReplies.spelled (item.payload.get "msgId") = some item.msgId)
    "msgId y payload del outbox no coinciden"
  check (BidReplies.spelled (item.payload.get "idpk") = some item.idpk)
    "idpk y payload del outbox no coinciden"
  if item.type ∈ v3Types then
    check (official e) "Exchanges v3 configurados no corresponden al contrato oficial"
    validateV3 iso item.payload item.type cityId
  else
    check (item.type ∈ legacyDirectedTypes) ("Tipo saliente no autorizado: " ++ item.type)
  destination e cityId item

end Outbound

end Connector

end EnergyNode
