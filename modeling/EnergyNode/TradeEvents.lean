import EnergyNode.CycleAccounting
import EnergyNode.Lib.Precision

/-! Consummated facts of the central: recorded trades and imbalance
settlements, stored once under their business identity. -/
namespace EnergyNode
open Lib

namespace TradeEvents

/-- `_str`. -/
def text (value : Json) : Option String := value.text?.filter (· ≠ "")

/-- `_str(..., allow_none=True)`: the outer `none` is a rejected value. -/
def textOrNull : Json → Option (Option String)
  | .null => some none
  | value => (text value).map some

def tradeOf (cfg : Config) (payload : Payload) (cycleId : String) : Option (Option TradeRecord) := do
  let data := payload.data
  let swapId ← text (data.get "swapId")
  let offerId ← textOrNull (data.get "offerId")
  let seller ← text (data.get "seller")
  let buyer ← text (data.get "buyer")
  let quantity ← (data.get "quantity").int?
  guard (0 < quantity)
  let price ← Decimal.number (data.get "pricePerEnergy")
  let energyTotal ← Decimal.number (data.get "energyTotal")
  let transportPerEnergy ← Decimal.number (data.get "transportPerEnergy")
  let transportTotal ← Decimal.number (data.get "transportTotal")
  let routeEnabled ← (data.get "routeEnabled").bool?
  let trade (role : TradeRole) (counterpart : String) : TradeRecord :=
    { swapId := swapId, cycleId := cycleId, msgId := payload.msgId, idpk := payload.idpk
      offerId := offerId, seller := seller, buyer := buyer, role := role
      counterpartCityId := counterpart, quantity := quantity, pricePerEnergy := price
      energyTotal := energyTotal, transportPerEnergy := transportPerEnergy
      transportTotal := transportTotal, routeEnabled := routeEnabled }
  -- The inner `none` is a trade between other cities.
  if cfg.cityId = seller then return some (trade .seller buyer)
  else if cfg.cityId = buyer then return some (trade .buyer seller)
  else return none

def sameTrade (a b : TradeRecord) : Bool :=
  a.seller = b.seller && a.buyer = b.buyer && a.quantity = b.quantity &&
    a.transportTotal = b.transportTotal

abbrev Audit := InboundStatus × Option String

/-- `process_trade_recorded`. -/
def processTradeRecorded (cfg : Config) (books : Books) (payload : Payload) :
    Result (Books × Audit) :=
  match payload.cycleId.filter (· ≠ "") with
  | none => .ok (books, .notProcessed, some "MISSING_CYCLE")
  | some cycleId =>
      match tradeOf cfg payload cycleId with
      | none => .ok (books, .notProcessed, some "INVALID_TRADE_RECORDED")
      | some none => .ok (books, .notProcessed, some "TRADE_NOT_ADDRESSED_TO_US")
      | some (some trade) =>
          match books.trades.insert? trade, books.trades.get? trade.swapId with
          | some trades, _ => do
              let books ← CycleAccounting.applyTradeTransport cfg
                { books with trades := trades } trade
              return (books, .processed, none)
          | none, some stored =>
              if sameTrade stored trade then .ok (books, .duplicate, none)
              else .ok (books, .notProcessed, some "TRADE_CONFLICT")
          | none, none => .error .database

def settlementOf (payload : Payload) (cycleId : String) : Option ImbalanceSettlement := do
  let data := payload.data
  let settlementId ← text (data.get "settlementId")
  let kwhHeld ← (data.get "kwhHeld").int?
  let deficit ← (data.get "deficit").int?
  let coverage ← (data.get "coverage").int?
  let price ← Decimal.number (data.get "pricePerEnergy")
  let total ← Decimal.number (data.get "total")
  let balanceAfter ← Decimal.number (data.get "balanceAfter")
  guard (0 ≤ kwhHeld ∧ 0 ≤ deficit)
  return {
    settlementId := settlementId, cycleId := cycleId, msgId := payload.msgId, idpk := payload.idpk
    kwhHeld := kwhHeld, deficit := deficit, coverage := coverage, pricePerEnergy := price
    total := total, balanceAfter := balanceAfter }

def sameSettlement (a b : ImbalanceSettlement) : Bool :=
  a.coverage = b.coverage && a.total = b.total && a.balanceAfter = b.balanceAfter

/-- The arithmetic of a settlement: its coverage, then its total in cents. A
quantisation that needs more digits than the context has raises. -/
def settlementRefusal (s : ImbalanceSettlement) : Result (Option String) :=
  if s.coverage ≠ s.kwhHeld - s.deficit then .ok (some "IMBALANCE_COVERAGE_MISMATCH")
  else match quantized Decimal.precision (keep Decimal.precision (s.coverage * s.pricePerEnergy)),
      quantized Decimal.precision s.total with
    | some expected, some total =>
        .ok (if total ≠ expected then some "IMBALANCE_TOTAL_MISMATCH" else none)
    | _, _ => .error .type

/-- `process_imbalance_settlement`. -/
def processImbalanceSettlement (cfg : Config) (books : Books) (payload : Payload) :
    Result (Books × Audit) :=
  match payload.cycleId.filter (· ≠ "") with
  | none => .ok (books, .notProcessed, some "MISSING_CYCLE")
  | some cycleId =>
      match settlementOf payload cycleId with
      | none => .ok (books, .notProcessed, some "INVALID_IMBALANCE_SETTLEMENT")
      | some s =>
          match settlementRefusal s with
          | .error fault => .error fault
          | .ok (some reason) => .ok (books, .notProcessed, some reason)
          | .ok none =>
              match books.settlements.insert? s, books.settlements.get? s.settlementId with
              | some settlements, _ => do
                  let books ← CycleAccounting.applyImbalanceSettlement cfg
                    { books with settlements := settlements } s
                  return (books, .processed, none)
              | none, some stored =>
                  if sameSettlement stored s then .ok (books, .duplicate, none)
                  else .ok (books, .notProcessed, some "IMBALANCE_CONFLICT")
              | none, none => .error .database

/-- `process_wallet_fact`. -/
def processWalletFact (cfg : Config) (books : Books) (payload : Payload) :
    Result (Books × Audit) :=
  match payload.type with
  | .tradeRecorded => processTradeRecorded cfg books payload
  | .imbalanceSettlement => processImbalanceSettlement cfg books payload
  | _ => .error (.value "tipo de hecho wallet no soportado")

end TradeEvents

end EnergyNode
