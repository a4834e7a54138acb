import EnergyNode.BidReplies

/-! What the connector makes of a decoded payload: the common envelope and the
rules of each message type. The payload is the dictionary `json.loads` returns. -/
namespace EnergyNode

namespace Connector

/-- `datetime.fromisoformat` as a parameter: only its answers are used. -/
abbrev FromIso := String → Option Moment

/-- A text for a human reader, never empty. -/
abbrev Told := { text : String // text ≠ "" }

def told (text : String) (said : text ≠ "" := by simp) : Told := ⟨text,said⟩

/-- `UUID(str(value))` in its canonical text. -/
def uuid? (value : Json) : Option String := (BidReplies.spelled value).bind uuidText

/-- A datetime text with the `Z` of UTC written out. -/
def instant? (iso : FromIso) (text : String) : Option Moment :=
  iso (String.ofList (text.toList.flatMap fun c => if c = 'Z' then "+00:00".toList else [c]))

structure Envelope where
  idpk : String
  msgId : String
  type : String
  timestamp : Moment
  data : Option Fields
  cityId : Json
  sender : Json
  cycleId : Json
  raw : Fields

inductive ParseError where
  /-- `MissingMsgIdError`: there is nothing an answer could refer to. -/
  | missingMsgId (text : Told)
  | malformed (text : Told)

def requiredFields : List String := ["idpk","msgId","type","timestamp"]

def missingFields (payload : Fields) : List String :=
  requiredFields.filter fun name => (payload.lookup name).isNone

/-- `parse_envelope`. -/
def parseEnvelope (iso : FromIso) (payload : Fields) : Except ParseError Envelope :=
  match payload.lookup "msgId" with
  | none => .error (.missingMsgId (told "El mensaje no contiene msgId"))
  | some raw =>
      match uuid? raw with
      | none => .error (.missingMsgId (told "msgId no es un UUID válido para correlación"))
      | some msgId =>
          if missingFields payload ≠ [] then
            .error (.malformed
              (told ("Faltan campos obligatorios: " ++ ", ".intercalate (missingFields payload))))
          else match uuid? (payload.get "idpk") with
            | none => .error (.malformed (told "idpk y msgId deben ser UUID válidos"))
            | some idpk =>
                match (payload.get "type").text?.filter (· ≠ "") with
                | none => .error (.malformed (told "type debe ser un string no vacío"))
                | some type =>
                    match (BidReplies.spelled (payload.get "timestamp")).bind (instant? iso) with
                    | none => .error (.malformed (told "timestamp debe ser ISO 8601"))
                    | some timestamp =>
                        match payload.get "data" with
                        | .null => .ok (envelope idpk msgId type timestamp none)
                        | .obj data => .ok (envelope idpk msgId type timestamp (some data))
                        | _ => .error (.malformed (told "data debe ser un objeto JSON"))
where
  envelope (idpk msgId type : String) (timestamp : Moment) (data : Option Fields) : Envelope :=
    { idpk := idpk, msgId := msgId, type := type, timestamp := timestamp, data := data
      cityId := payload.get "cityId", sender := payload.get "sender"
      cycleId := payload.get "cycleId", raw := payload }

/-- What a parsed envelope has of its payload. -/
structure Parsed (payload : Fields) (m : Envelope) : Prop where
  msgId : (uuidText m.msgId).isSome
  type : (payload.get "type").text? = some m.type
  cityId : m.cityId = payload.get "cityId"
  sender : m.sender = payload.get "sender"
  cycleId : m.cycleId = payload.get "cycleId"

theorem parsed {iso : FromIso} {payload : Fields} {m : Envelope}
    (h : parseEnvelope iso payload = .ok m) : Parsed payload m := by
  unfold parseEnvelope at h
  split at h
  · cases h
  split at h
  · cases h
  rename_i msgId read
  obtain ⟨_,_,canonical⟩ := Option.bind_eq_some_iff.mp read
  split at h
  · cases h
  split at h
  · cases h
  split at h
  · cases h
  rename_i type named
  have text := (Option.filter_eq_some_iff.mp named).1
  split at h
  · cases h
  split at h <;> cases h <;> exact ⟨uuidText_canonical canonical,text,rfl,rfl,rfl⟩

/-- Even a payload that does not parse has a `msgId` to answer to. -/
theorem malformed_msgId {iso : FromIso} {payload : Fields} {text : Told}
    (h : parseEnvelope iso payload = .error (.malformed text)) :
    ∃ target, BidReplies.spelled (payload.get "msgId") = some target ∧ (uuidText target).isSome := by
  unfold parseEnvelope at h
  split at h
  · cases h
  rename_i raw found
  split at h
  · cases h
  rename_i msgId read
  obtain ⟨target,spelled,canonical⟩ := Option.bind_eq_some_iff.mp read
  have there : payload.get "msgId" = raw := by
    unfold Fields.get
    rw [found]
    rfl
  exact ⟨target,there ▸ spelled,by rw [canonical]; rfl⟩

/-! ### Refusals -/

/-- NACK_CODES. -/
def nackCodes : List (String × Int) :=
  [("MALFORMED_MESSAGE",422),("UNKNOWN_TYPE",400),("IDPK_EQUALS_MSGID",422),
    ("IDENTITY_MISMATCH",403)]

/-- An invalid ValidationResult: a reason of the table, its code and a text. -/
structure Refusal where
  reason : String
  code : Int
  message : Told
  listed : (reason,code) ∈ nackCodes := by decide

theorem malformed_listed : ("MALFORMED_MESSAGE",(422 : Int)) ∈ nackCodes := by decide

/-- `_malformed`. -/
def malformed (message : Told) : Option Refusal :=
  some { reason := "MALFORMED_MESSAGE", code := 422, message := message }

/-- The first check that fails; a rule of the source is one line. -/
def ensure (holds : Bool) (message : String) (said : message ≠ "" := by simp) : Option Refusal :=
  if holds then none else malformed ⟨message,said⟩

/-! ### Values -/

/-- ERROR_CODES. -/
def errorCodes : String → List Int
  | "REPORT_TOO_EARLY" => [422,425]
  | "CYCLE_UNKNOWN" => [404]
  | "CYCLE_EXPIRED" => [410]
  | "PRICE_ABOVE_CAP" => [422]
  | "OVER_CAPACITY" => [409]
  | _ => []

/-- `_is_number`: integers and finite floats. -/
def isNumber : Json → Bool
  | .int _ | .float _ => true
  | _ => false

def isPositiveNumber : Json → Bool
  | .int n => 0 < n
  | .float q => 0 < q
  | _ => false

def isUuid (value : Json) : Bool := (uuid? value).isSome

/-- `_is_datetime`: a text with a time zone. -/
def isDatetime (iso : FromIso) (value : Json) : Bool :=
  ((value.text?.bind (instant? iso)).filter (·.aware)).isSome

def isText (value : Json) : Bool := (value.text?.filter (· ≠ "")).isSome

/-- CITY_CODE.fullmatch on a text. -/
def isCityCode (value : Json) : Bool := (value.text?.filter fun text => cityCode text).isSome

def isNull : Json → Bool
  | .null => true
  | _ => false

def isCentral (sender : Json) : Bool := sender.text? = some "central"

/-! ### The catalogue -/

def centralTypes : List String :=
  ["status-statement","distance-table","demand-statement","give","take","error","swap-proposed",
    "swap-settled","swap-rejected","swap-cancelled","swap-expired","trade-recorded",
    "imbalance-settlement"]

def cityTypes : List String :=
  ["request","negotiation-proposal","negotiation-report","bid","bid-accepted","bid-rejected"]

/-- The types both the central and a city may send. -/
def sharedTypes : List String := ["ack","nack","transfer"]

def knownTypes : List String :=
  ["ack","nack","error","request","status-statement","transfer","demand-statement",
    "negotiation-proposal","give","take","negotiation-report","distance-table","bid",
    "bid-accepted","bid-rejected","swap-proposed","swap-settled","swap-rejected",
    "swap-cancelled","swap-expired","trade-recorded","imbalance-settlement"]

theorem shared_iff (type : String) :
    type ∈ sharedTypes ↔ type ∈ knownTypes ∧ type ∉ centralTypes ∧ type ∉ cityTypes := by
  constructor
  · intro h
    simp only [sharedTypes,List.mem_cons,List.not_mem_nil,or_false] at h
    rcases h with rfl | rfl | rfl <;> decide
  · rintro ⟨known,central,city⟩
    have all : ∀ name ∈ knownTypes, name ∉ centralTypes → name ∉ cityTypes → name ∈ sharedTypes := by
      decide
    exact all type known central city

/-- `_validate_identity`. -/
def validateIdentity (m : Envelope) : Option Refusal :=
  if !isNull m.sender && !isNull m.cityId then
    malformed (told "El mensaje no puede contener sender y cityId simultáneamente")
  else if m.type ∈ centralTypes then
    ensure (isCentral m.sender && isNull m.cityId)
      (m.type ++ " debe estar identificado como mensaje de la central")
  else if m.type ∈ cityTypes then
    if !isCityCode m.cityId then malformed (told (m.type ++ " debe incluir un cityId válido"))
    else ensure (isNull m.sender) (m.type ++ " no debe incluir sender")
  else if isNull m.sender && isNull m.cityId then
    malformed (told "El mensaje debe incluir sender o cityId")
  else ensure (isNull m.sender || isCentral m.sender) "sender debe ser 'central'"

def cycleTypes : List String :=
  ["status-statement","transfer","demand-statement","negotiation-proposal","give","take",
    "negotiation-report","error","bid","bid-accepted","bid-rejected"]

/-- `_validate_cycle`. -/
def validateCycle (m : Envelope) : Option Refusal :=
  if m.type = "request" ∧ (m.raw.lookup "cycleId").isSome then
    malformed (told "request no debe incluir cycleId")
  else if m.type ∈ cycleTypes then
    ensure (isText m.cycleId) (m.type ++ " debe incluir cycleId")
  else none

/-! ### Contents -/

def withData (m : Envelope) (rules : Fields → Option Refusal) : Option Refusal :=
  match m.data with
  | none => malformed (told (m.type ++ " debe incluir data"))
  | some data => rules data

def numeric (data : Fields) (name said : String) : Option Refusal :=
  ensure (isNumber (data.get name)) (said ++ " debe ser numérico")

def validateStatusStatement (iso : FromIso) (m : Envelope) : Option Refusal :=
  withData m fun data =>
    match data.get "energy" with
    | .obj energy =>
        (["generationCapacity","consumption","generationCost"].findSome? fun name =>
          if (energy.lookup name).isNone then malformed (told ("Falta data.energy." ++ name))
          else numeric energy name ("data.energy." ++ name)) <|>
        ensure (data.lookup "validUntil").isSome "Falta data.validUntil" <|>
        ensure (isDatetime iso (data.get "validUntil"))
          "data.validUntil debe ser un datetime ISO 8601"
    | _ => malformed (told "data.energy debe ser un objeto")

def validateTransfer (m : Envelope) : Option Refusal :=
  withData m fun data =>
    numeric data "quantity" "data.quantity" <|>
    ensure ((data.lookup "becauseOf").all isUuid) "data.becauseOf debe ser un UUID válido"

def validateDemandStatement (m : Envelope) : Option Refusal :=
  withData m fun data =>
    match data.get "balance" with
    | .obj balance => ["quantity","valuePerKwh"].findSome? fun name =>
        numeric balance name ("data.balance." ++ name)
    | _ => malformed (told "data.balance debe ser un objeto")

def validateNegotiationProposal (m : Envelope) : Option Refusal :=
  withData m fun data =>
    ensure ((data.get "direction").text?.any (· ∈ ["take","give"]))
      "data.direction debe ser take o give" <|>
    ensure (isPositiveNumber (data.get "quantity")) "data.quantity debe ser mayor que cero" <|>
    numeric data "pricePerEnergy" "data.pricePerEnergy"

/-- The rules of `give` and `take`. -/
def validateConfirmation (m : Envelope) : Option Refusal :=
  withData m fun data =>
    ensure (isUuid (data.get "target")) "data.target debe ser un UUID válido" <|>
    ensure (isPositiveNumber (data.get "energy")) "data.energy debe ser mayor que cero" <|>
    numeric data "pricePerEnergy" "data.pricePerEnergy"

def validateNegotiationReport (m : Envelope) : Option Refusal :=
  withData m fun data =>
    numeric data "budgetBalance" "data.budgetBalance" <|>
    numeric data "energyBalance" "data.energyBalance"

def validateRequest (m : Envelope) : Option Refusal :=
  withData m fun data => ensure (isText (data.get "ask")) "data.ask debe ser un string no vacío"

def validateAck (m : Envelope) : Option Refusal :=
  withData m fun data => ensure (isUuid (data.get "target")) "data.target debe ser un UUID válido"

/-- The code a table lists for a reason, if it knows the reason. -/
def codeOf? (table : List (String × Int)) (reason : Json) : Option Int :=
  reason.text?.bind fun text => table.lookup text

def validateNack (m : Envelope) : Option Refusal :=
  withData m fun data =>
    match codeOf? nackCodes (m.raw.get "reason") with
    | none => malformed (told "reason de NACK desconocido")
    | some code =>
        ensure ((m.raw.get "code").pyEq (.int code)) "reason y code del NACK no coinciden" <|>
        ensure (isUuid (data.get "target")) "data.target debe ser un UUID válido" <|>
        ensure (isText (data.get "message")) "data.message debe ser un string no vacío" <|>
        ensure ((data.lookup "cycleId").all isText) "data.cycleId debe ser un string no vacío"

def validateError (iso : FromIso) (m : Envelope) : Option Refusal :=
  withData m fun data =>
    match (m.raw.get "reason").text?.filter fun reason => errorCodes reason ≠ [] with
    | none => malformed (told "reason de error desconocido")
    | some reason =>
        ensure ((errorCodes reason).any fun code => (m.raw.get "code").pyEq (.int code))
          "reason y code del error no coinciden" <|>
        ensure (isUuid (data.get "target")) "data.target debe ser un UUID válido" <|>
        ensure (isText (data.get "message")) "data.message debe ser un string no vacío" <|>
        ensure (reason ≠ "REPORT_TOO_EARLY" || isDatetime iso (data.get "opensAt"))
          "REPORT_TOO_EARLY requiere data.opensAt con zona horaria" <|>
        ensure (reason ≠ "PRICE_ABOVE_CAP" || isNumber (data.get "cap"))
          "PRICE_ABOVE_CAP debe incluir data.cap" <|>
        ensure (reason ≠ "OVER_CAPACITY" || isNumber (data.get "spare"))
          "OVER_CAPACITY debe incluir data.spare"

def validateRoute (route : String × Json) : Option Refusal :=
  match route.2 with
  | .obj values =>
      numeric values "distance" (route.1 ++ ".distance") <|>
      numeric values "transportCost" (route.1 ++ ".transportCost") <|>
      ensure (Fields.get values "enabled").bool?.isSome (route.1 ++ ".enabled debe ser booleano")
  | _ => malformed (told ("Distancia para " ++ route.1 ++ " debe ser un objeto"))

def validateDistanceTable (m : Envelope) : Option Refusal :=
  withData m fun data =>
    match data.get "distances" with
    | .obj distances => distances.findSome? validateRoute
    | _ => malformed (told "data.distances debe ser un objeto")

/-- Reception only; of the v3 messages just the bid has rules of its own here. -/
def validateV3DirectedData (m : Envelope) : Option Refusal :=
  withData m fun data =>
    if m.type = "bid" then
      ensure (isText (data.get "offerId")) "bid.data.offerId debe ser un string no vacío" <|>
      ensure ((data.get "quantity").int?.any (0 < ·))
        "bid.data.quantity debe ser un entero positivo"
    else none

/-- CONTENT_VALIDATORS. -/
def validateContent (iso : FromIso) (m : Envelope) : Option Refusal :=
  match m.type with
  | "status-statement" => validateStatusStatement iso m
  | "transfer" => validateTransfer m
  | "demand-statement" => validateDemandStatement m
  | "negotiation-proposal" => validateNegotiationProposal m
  | "give" | "take" => validateConfirmation m
  | "negotiation-report" => validateNegotiationReport m
  | "request" => validateRequest m
  | "ack" => validateAck m
  | "nack" => validateNack m
  | "error" => validateError iso m
  | "distance-table" => validateDistanceTable m
  | _ => validateV3DirectedData m

/-- `validate_message`; `none` is a valid message. -/
def validateMessage (iso : FromIso) (m : Envelope) : Option Refusal :=
  if m.idpk = m.msgId then
    some { reason := "IDPK_EQUALS_MSGID", code := 422, message := told "idpk debe ser distinto de msgId" }
  else if m.type ∉ knownTypes then
    some { reason := "UNKNOWN_TYPE", code := 400
           message := told ("Tipo de mensaje desconocido: " ++ m.type) }
  else if !m.timestamp.aware then malformed (told "timestamp debe incluir zona horaria")
  else validateIdentity m <|> validateCycle m <|> validateContent iso m

/-- The rules a message meets beside those of its identity. -/
def Regular (iso : FromIso) (m : Envelope) : Prop :=
  m.idpk ≠ m.msgId ∧ m.timestamp.aware = true ∧ validateCycle m = none ∧
    validateContent iso m = none

section Valid
variable {iso : FromIso} {m : Envelope}

theorem ensure_none {holds : Bool} {text : String} {said : text ≠ ""} :
    ensure holds text said = none ↔ holds = true := by
  unfold ensure malformed
  split <;> simp_all

theorem validateMessage_none : validateMessage iso m = none ↔
    Regular iso m ∧ m.type ∈ knownTypes ∧ validateIdentity m = none := by
  unfold validateMessage Regular
  split
  · simp_all
  split
  · simp_all
  split
  · simp_all [malformed]
  · simp_all
    tauto

/-- The shape of the identity that each group of types accepts. -/
theorem validateIdentity_none : validateIdentity m = none ↔
    (isNull m.sender ∨ isNull m.cityId) ∧
      (m.type ∈ centralTypes → isCentral m.sender ∧ isNull m.cityId) ∧
      (m.type ∉ centralTypes → m.type ∈ cityTypes → isCityCode m.cityId ∧ isNull m.sender) ∧
      (m.type ∉ centralTypes → m.type ∉ cityTypes →
        ¬(isNull m.sender ∧ isNull m.cityId) ∧ (isNull m.sender ∨ isCentral m.sender)) := by
  unfold validateIdentity
  split
  · simp_all [malformed]
  rename_i single
  split
  · rename_i central
    rw [ensure_none]
    simp_all
  rename_i central
  split
  · rename_i city
    split
    · simp_all [malformed]
    · rw [ensure_none]
      simp_all
  rename_i city
  split
  · simp_all [malformed]
  · rw [ensure_none]
    cases sender : isNull m.sender <;> cases city : isNull m.cityId <;> simp_all

end Valid

end Connector

end EnergyNode
