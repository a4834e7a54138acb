import EnergyNode.Connector.Handler

/-! Who may speak in whose name. The handler compares the declared identity with
the user of the broker, but an ack, a nack or a transfer may declare a `cityId`
that is no city code, and then nobody compares anything. -/
namespace EnergyNode

namespace SenderIdentity
open Connector

/-- The payload reaches the master. -/
def forwarded {iso : FromIso} (draws : Draws iso) (cityId : String) (payload : Fields)
    (user : Option String) : Bool :=
  (planProtocolResponse draws cityId payload user).action ∈ [Action.ack,Action.ignore]

/-- The identity a payload declares is that of the AMQP user. -/
def Authentic (payload : Fields) (user : Option String) : Prop :=
  (isCentral (payload.get "sender") ∧ isNull (payload.get "cityId") ∧ user = some "central") ∨
    ∃ c, (payload.get "cityId").text? = some c ∧ cityCode c ∧ isNull (payload.get "sender") ∧
      user = some ("city." ++ c)

/-- An ack, a nack or a transfer in order, of a city that is no city code. -/
def Nameless (iso : FromIso) (payload : Fields) : Prop :=
  ∃ m, parseEnvelope iso payload = .ok m ∧ m.type ∈ sharedTypes ∧ Regular iso m ∧
    isNull m.sender ∧ ¬isNull m.cityId ∧ ¬isCityCode m.cityId

variable {iso : FromIso} {draws : Draws iso} {cityId : String} {payload : Fields}
  {user : Option String} {m : Envelope}

theorem refused_action (draws : Draws iso) (cityId : String) (m : Envelope) (reason : Told) (refusal : Refusal) :
    (refused draws cityId m reason refusal).action ∉ [Action.ack,Action.ignore] := by
  unfold refused
  split <;> simp [discarded]

/-- What reaches the master was parsed, compared and validated. -/
theorem forwarded_iff : forwarded draws cityId payload user ↔
    ∃ m, parseEnvelope iso payload = .ok m ∧ impostor? m user = none ∧ validateMessage iso m = none := by
  unfold forwarded planProtocolResponse
  cases read : parseEnvelope iso payload with
  | error e =>
    cases e with
    | missingMsgId text => simp [discarded]
    | malformed text =>
      dsimp only
      split <;> simp [discarded]
  | ok m =>
    cases same : impostor? m user with
    | some found =>
      have out := refused_action draws cityId m found.1 found.2
      simpa [same] using out
    | none =>
      cases valid : validateMessage iso m with
      | some refusal =>
        have out := refused_action draws cityId m refusal.message refusal
        simpa [same,valid] using out
      | none =>
        dsimp only
        split <;> simp [same,valid]

theorem impostor_none (distinct : m.idpk ≠ m.msgId) : impostor? m user = none ↔
    (isCityCode m.cityId → isNull m.sender → user = m.cityId.text?.map ("city." ++ ·)) ∧
      (isCentral m.sender → isNull m.cityId → user = some "central") := by
  unfold impostor?
  split
  · rename_i city
    simp_all
  split
  · rename_i central
    simp_all
  · simp_all

theorem not_null_of_central {sender : Json} (h : isCentral sender = true) : isNull sender = false := by
  cases sender <;> simp_all [isCentral,isNull,Json.text?]

theorem cityCode_text {value : Json} (h : isCityCode value = true) :
    ∃ c, value.text? = some c ∧ cityCode c = true := by
  unfold isCityCode at h
  obtain ⟨c,hc⟩ := Option.isSome_iff_exists.mp h
  obtain ⟨text,code⟩ := Option.filter_eq_some_iff.mp hc
  exact ⟨c,text,code⟩

/-- A payload reaches the master in its sender's own name, but for the answers
and transfers of a city that is no city code. -/
theorem sender_authenticated (iso : FromIso) (draws : Draws iso) (cityId : String)
    (payload : Fields) (user : Option String) :
    (forwarded draws cityId payload user → Authentic payload user) ↔ ¬Nameless iso payload := by
  constructor
  · intro claim ⟨m,parsed,shared,regular,sender,named,uncoded⟩
    have city_ := (Connector.parsed parsed).cityId
    have sender_ := (Connector.parsed parsed).sender
    obtain ⟨known,central,city⟩ := (shared_iff m.type).mp shared
    have trusted : impostor? m user = none := by
      refine (impostor_none regular.1).mpr ⟨fun code => absurd code uncoded,fun said => ?_⟩
      exact absurd sender (by rw [not_null_of_central said]; decide)
    have valid : validateMessage iso m = none := by
      refine validateMessage_none.mpr ⟨regular,known,validateIdentity_none.mpr ⟨.inl sender,?_,?_,?_⟩⟩
      · exact fun h => absurd h central
      · exact fun _ h => absurd h city
      · exact fun _ _ => ⟨fun both => named both.2,.inl sender⟩
    rcases claim (forwarded_iff.mpr ⟨m,parsed,trusted,valid⟩) with ⟨said,_⟩ | ⟨c,text,code,_⟩
    · rw [sender_] at sender
      exact absurd sender (by rw [not_null_of_central said]; decide)
    · apply uncoded
      rw [city_]
      unfold isCityCode
      rw [text]
      simp [code]
  · intro named reached
    obtain ⟨m,parsed,trusted,valid⟩ := forwarded_iff.mp reached
    have city_ := (Connector.parsed parsed).cityId
    have sender_ := (Connector.parsed parsed).sender
    obtain ⟨regular,known,identity⟩ := validateMessage_none.mp valid
    obtain ⟨ownCity,ownCentral⟩ := (impostor_none regular.1).mp trusted
    obtain ⟨single,asCentral,asCity,asEither⟩ := validateIdentity_none.mp identity
    have ofCentral (said : isCentral m.sender) (alone : isNull m.cityId) : Authentic payload user :=
      .inl ⟨sender_ ▸ said,city_ ▸ alone,ownCentral said alone⟩
    have ofCity (code : isCityCode m.cityId) (alone : isNull m.sender) : Authentic payload user := by
      obtain ⟨c,text,code'⟩ := cityCode_text code
      refine .inr ⟨c,city_ ▸ text,code',sender_ ▸ alone,?_⟩
      rw [ownCity code alone,text]
      rfl
    by_cases central : m.type ∈ centralTypes
    · exact ofCentral (asCentral central).1 (asCentral central).2
    by_cases city : m.type ∈ cityTypes
    · exact ofCity (asCity central city).1 (asCity central city).2
    obtain ⟨some_,_⟩ := asEither central city
    by_cases sender : isNull m.sender
    · refine ofCity ?_ sender
      by_contra uncoded
      have shared := (shared_iff m.type).mpr ⟨known,central,city⟩
      exact named ⟨m,parsed,shared,regular,sender,fun alone => some_ ⟨sender,alone⟩,uncoded⟩
    · have said := (asEither central city).2.resolve_left sender
      exact ofCentral said (single.resolve_left sender)

section Examples

def drawn : Draws Moment.ofText where
  idpk := "60000000-0000-0000-0000-000000000001"
  msgId := "60000000-0000-0000-0000-000000000002"
  stamp := "1970-01-01T00:01:00Z"
  idpk_uuid := by decide +kernel
  msgId_uuid := by decide +kernel
  distinct := by decide
  stamp_aware := ⟨⟨60000000,true⟩,by decide +kernel,rfl⟩

/-- A transfer of a city nobody is. -/
def anonymous : Fields :=
  [("idpk",.str "60000000-0000-0000-0000-000000000003"),
    ("msgId",.str "60000000-0000-0000-0000-000000000004"),("type",.str "transfer"),
    ("timestamp",.str "1970-01-01T00:01:00Z"),("cityId",.str "central"),("cycleId",.str "C1"),
    ("data",.obj [("quantity",.int 100),("balanceAfter",.int 100),("creditLine",.int 0)])]

/-- BBB has its transfer taken for that of a city called "central". -/
theorem anonymous_forwarded :
    forwarded drawn "AAA" anonymous (some "city.BBB") ∧
      ¬Authentic anonymous (some "city.BBB") := by
  refine ⟨by decide +kernel,?_⟩
  rintro (⟨said,_⟩ | ⟨c,text,code,_⟩)
  · exact absurd said (by decide)
  · cases text
    exact absurd code (by decide)

end Examples

end SenderIdentity

end EnergyNode
