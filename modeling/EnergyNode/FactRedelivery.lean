import EnergyNode.LedgerRules
import EnergyNode.Lib.Precision
import EnergyNode.MarketExtinction

/-! A fact delivered twice. The stored row has been through its columns, the
second delivery has not: the comparison recognises a repeated fact as long as
the amounts it compares have no more decimals than their columns. -/
namespace EnergyNode
open Lib

namespace FactRedelivery
open TradeEvents StoredLedger MarketExtinction

/-- What a well-formed message of the central states. -/
inductive Fact where
  | trade (t : TradeRecord)
  | settlement (s : ImbalanceSettlement)
deriving DecidableEq

namespace Fact

/-- The row of the books that holds a fact. -/
def In (books : Books) : Fact → Prop
  | trade t => books.trades.get? t.swapId = some t
  | settlement s => books.settlements.get? s.settlementId = some s

/-- The fact as its columns keep it. -/
def stored : Fact → Fact
  | trade t => trade (storedTrade t)
  | settlement s => settlement (storedSettlement s)

/-- Two messages about one swap or one settlement. -/
def About : Fact → Fact → Prop
  | trade t, trade u => t.swapId = u.swapId
  | settlement s, settlement r => s.settlementId = r.settlementId
  | _, _ => False

/-- The comparison of the handler. -/
def same : Fact → Fact → Bool
  | trade t, trade u => sameTrade t u
  | settlement s, settlement r => sameSettlement s r
  | _, _ => false

/-- The amounts among what it compares. -/
def amounts : Fact → List ℚ
  | trade t => [t.transportTotal]
  | settlement s => [s.total,s.balanceAfter]

/-- The names and whole numbers among it. -/
def terms : Fact → List String × List Int
  | trade t => ([t.seller,t.buyer],[t.quantity])
  | settlement s => ([],[s.coverage])

def conflict : Fact → String
  | trade _ => "TRADE_CONFLICT"
  | settlement _ => "IMBALANCE_CONFLICT"

/-- What a handler does with the fact it read. -/
def record (cfg : Config) (books : Books) : Fact → Result (Books × Audit)
  | trade t =>
      match books.trades.insert? t, books.trades.get? t.swapId with
      | some trades, _ => do
          let books ← CycleAccounting.applyTradeTransport cfg { books with trades := trades } t
          return (books, .processed, none)
      | none, some stored =>
          if sameTrade stored t then .ok (books, .duplicate, none)
          else .ok (books, .notProcessed, some "TRADE_CONFLICT")
      | none, none => .error .database
  | settlement s =>
      match books.settlements.insert? s, books.settlements.get? s.settlementId with
      | some settlements, _ => do
          let books ← CycleAccounting.applyImbalanceSettlement cfg
            { books with settlements := settlements } s
          return (books, .processed, none)
      | none, some stored =>
          if sameSettlement stored s then .ok (books, .duplicate, none)
          else .ok (books, .notProcessed, some "IMBALANCE_CONFLICT")
      | none, none => .error .database

/-- Another story: other terms, or an amount at least one cent away. -/
def Differs (f g : Fact) : Prop :=
  f.terms ≠ g.terms ∨ ∃ p ∈ f.amounts.zip g.amounts, 1/100 ≤ |p.1 - p.2|

end Fact

/-- The fact a message states, when it is in order and addressed to this city. -/
def factOf (cfg : Config) (payload : Payload) : Option Fact :=
  (payload.cycleId.filter (· ≠ "")).bind fun cycleId =>
    match payload.type with
    | .tradeRecorded => (tradeOf cfg payload cycleId).join.map .trade
    | .imbalanceSettlement =>
        ((settlementOf payload cycleId).filter fun s => settlementRefusal s = .ok none).map .settlement
    | _ => none

/-- The same operation again, under another envelope. -/
structure Redelivers (first again : Payload) : Prop where
  type : again.type = first.type
  cycleId : again.cycleId = first.cycleId
  data (name : String) : again.data.get name = first.data.get name

/-- A message about the fact that states something else. -/
def Contradicts (cfg : Config) (first other : Payload) : Prop :=
  ∃ f g, factOf cfg first = some f ∧ factOf cfg other = some g ∧ f.About g ∧ f.Differs g

def Accepted (cfg : Config) (books : Books) (payload : Payload) : Prop :=
  ∃ after, processWalletFact cfg books payload = .ok (after,.processed,none)

/-- A repetition is a duplicate that changes nothing; another story is refused. -/
def Recognises (cfg : Config) (books : Books) (first : Payload) : Prop :=
  (∀ again, Redelivers first again →
    processWalletFact cfg books again = .ok (books,.duplicate,none)) ∧
  ∀ other f, Contradicts cfg first other → factOf cfg first = some f →
    processWalletFact cfg books other = .ok (books,.notProcessed,some f.conflict)

/-- The compared amounts of a message fit their columns. -/
def Exact (cfg : Config) (payload : Payload) : Prop :=
  ∀ f, factOf cfg payload = some f → ∀ q ∈ f.amounts, Cents q

/-! ### The rows stay -/

section Rows
variable {cfg : Config} {books books' : Books} {f : Fact}

theorem Fact.In.congr (trades : books'.trades = books.trades)
    (settlements : books'.settlements = books.settlements) (h : f.In books) : f.In books' := by
  cases f with
  | trade t =>
    show books'.trades.get? t.swapId = some t
    rw [trades]
    exact h
  | settlement s =>
    show books'.settlements.get? s.settlementId = some s
    rw [settlements]
    exact h

theorem storedPrice_idem (q : ℚ) : storedPrice (storedPrice q) = storedPrice q := by
  unfold storedPrice
  rw [div_mul_cancel₀ _ (by norm_num),halfUp_int]

theorem centsHalfUp_idem (q : ℚ) : centsHalfUp (centsHalfUp q) = centsHalfUp q :=
  centsHalfUp_of_cents (cents_centsHalfUp q)

theorem Fact.stored_idem (f : Fact) : f.stored.stored = f.stored := by
  cases f <;>
    simp only [Fact.stored,storedTrade,storedSettlement,storedPrice_idem,centsHalfUp_idem]

theorem Fact.In.store (h : f.In books) : f.stored.In (store books) := by
  cases f with
  | trade t =>
    have kept := Table.get?_mapRows books.trades storedTrade (fun _ => rfl) t.swapId
    exact kept.trans (congrArg (Option.map storedTrade) h)
  | settlement s =>
    have kept := Table.get?_mapRows books.settlements storedSettlement (fun _ => rfl) s.settlementId
    exact kept.trans (congrArg (Option.map storedSettlement) h)

/-- Entries and placeholders leave the facts alone, a new fact joins those
already there. -/
theorem received_facts (f : Fact) : Received fun a b => f.In a → f.In b where
  refl _ := id
  trans h g kept := g (h kept)
  post := by
    intro books books' effect rest h kept
    unfold Ledger.post at h
    split at h
    · cases h
    split at h
    · cases h
      exact kept
    dsimp only at h
    split at h <;> cases h
    exact kept.congr rfl rfl
  placeholder books k kept := by
    rcases getOrCreateCycle_cases books k with ⟨same,_⟩ | ⟨free,created⟩
    · rw [same]
      exact kept
    · rw [created]
      exact kept.congr rfl rfl
  trade := by
    intro books t trades h kept
    obtain ⟨free,rfl⟩ := Table.insert?_eq_some.mp h
    cases f with
    | settlement s => exact kept
    | trade u =>
      have old : books.trades.get? u.swapId = some u := kept
      show (books.trades.insert t free).get? u.swapId = some u
      rw [Table.get?_insert,if_neg,old]
      intro e
      rw [e,old] at free
      cases free
  paid := by
    intro books s settlements h kept
    obtain ⟨free,rfl⟩ := Table.insert?_eq_some.mp h
    cases f with
    | trade t => exact kept
    | settlement r =>
      have old : books.settlements.get? r.settlementId = some r := kept
      show (books.settlements.insert s free).get? r.settlementId = some r
      rw [Table.get?_insert,if_neg,old]
      intro e
      rw [e,old] at free
      cases free

theorem facts_statement {db db' : Db} {payload : Payload} {now : Instant}
    (h : Opening.applyStatement cfg db payload now = .ok (some db')) (kept : f.In db.books) :
    f.In db'.books := by
  obtain ⟨k,s,c,c',_,_,_,_,synced⟩ := applyStatement_bind h
  have placed := (received_facts f).placeholder db.books k kept
  exact (received_facts f).synchronize synced (placed.congr rfl rfl)

end Rows

/-! ### The answer to a fact -/

section Answers
variable {cfg : Config} {books books' : Books} {payload : Payload} {f g : Fact}

/-- A message that states a fact is served as that fact. -/
theorem processWalletFact_read (read : factOf cfg payload = some g) :
    processWalletFact cfg books payload = g.record cfg books := by
  obtain ⟨cycleId,cycle,read⟩ := Option.bind_eq_some_iff.mp read
  split at read
  · rename_i type
    obtain ⟨t,traded,rfl⟩ := Option.map_eq_some_iff.mp read
    have parsed : tradeOf cfg payload cycleId = some (some t) := Option.join_eq_some_iff.mp traded
    have served : processWalletFact cfg books payload = processTradeRecorded cfg books payload := by
      unfold processWalletFact
      rw [type]
    rw [served]
    unfold processTradeRecorded
    rw [cycle]
    dsimp only
    rw [parsed]
    rfl
  · rename_i type
    obtain ⟨s,settled,rfl⟩ := Option.map_eq_some_iff.mp read
    obtain ⟨parsed,checked⟩ := Option.filter_eq_some_iff.mp settled
    have served : processWalletFact cfg books payload =
        processImbalanceSettlement cfg books payload := by
      unfold processWalletFact
      rw [type]
    rw [served]
    unfold processImbalanceSettlement
    rw [cycle]
    dsimp only
    rw [parsed]
    dsimp only
    rw [of_decide_eq_true checked]
    rfl
  · cases read

/-- A fact about a stored one is compared with it. -/
theorem Fact.record_stored (kept : f.In books) (about : f.About g) : g.record cfg books =
    .ok (books,if f.same g then (.duplicate,none) else (.notProcessed,some f.conflict)) := by
  cases f <;> cases g
  · rename_i u t
    have old : books.trades.get? t.swapId = some u := by
      rw [← show u.swapId = t.swapId from about]
      exact kept
    have taken : books.trades.insert? t = none := by
      unfold Table.insert?
      rw [dif_neg (by rw [old]; simp)]
    unfold Fact.record
    dsimp only
    rw [taken,old]
    dsimp only
    rw [show (Fact.trade u).same (.trade t) = sameTrade u t from rfl]
    split <;> rfl
  · exact absurd about id
  · exact absurd about id
  · rename_i r s
    have old : books.settlements.get? s.settlementId = some r := by
      rw [← show r.settlementId = s.settlementId from about]
      exact kept
    have taken : books.settlements.insert? s = none := by
      unfold Table.insert?
      rw [dif_neg (by rw [old]; simp)]
    unfold Fact.record
    dsimp only
    rw [taken,old]
    dsimp only
    rw [show (Fact.settlement r).same (.settlement s) = sameSettlement r s from rfl]
    split <;> rfl

theorem processWalletFact_stored (read : factOf cfg payload = some g) (kept : f.In books)
    (about : f.About g) : processWalletFact cfg books payload = .ok (books,
      if f.same g then (.duplicate,none) else (.notProcessed,some f.conflict)) := by
  rw [processWalletFact_read read,Fact.record_stored kept about]

/-- An accepted message states a fact, which the books then hold. -/
theorem processed_fact (h : processWalletFact cfg books payload = .ok (books',.processed,none)) :
    ∃ f, factOf cfg payload = some f ∧ f.In books' := by
  unfold processWalletFact at h
  split at h
  · rename_i type
    unfold processTradeRecorded at h
    split at h
    · cases h
    rename_i cycleId cycle
    split at h
    · cases h
    · cases h
    rename_i t parsed
    split at h
    · rename_i trades _ inserted
      obtain ⟨done,applied,h⟩ := Fallible.bind_ok.mp h
      cases h
      obtain ⟨free,rfl⟩ := Table.insert?_eq_some.mp inserted
      refine ⟨.trade t,?_,(received_facts _).transport applied ?_⟩
      · unfold factOf
        rw [cycle,Option.bind_some,type]
        dsimp only
        rw [parsed]
        rfl
      · show (books.trades.insert t free).get? t.swapId = some t
        rw [Table.get?_insert,if_pos rfl]
    · split at h <;> cases h
    · cases h
  · rename_i type
    unfold processImbalanceSettlement at h
    split at h
    · cases h
    rename_i cycleId cycle
    split at h
    · cases h
    rename_i s parsed
    split at h
    · cases h
    · cases h
    rename_i checked
    split at h
    · rename_i settlements _ inserted
      obtain ⟨done,applied,h⟩ := Fallible.bind_ok.mp h
      cases h
      obtain ⟨free,rfl⟩ := Table.insert?_eq_some.mp inserted
      refine ⟨.settlement s,?_,(received_facts _).settlement applied ?_⟩
      · unfold factOf
        rw [cycle,Option.bind_some,type]
        dsimp only
        rw [parsed,Option.filter_some,if_pos (by simpa using checked)]
        rfl
      · show (books.settlements.insert s free).get? s.settlementId = some s
        rw [Table.get?_insert,if_pos rfl]
    · split at h <;> cases h
    · cases h
  · cases h

end Answers

section Runs
variable {cfg : Config} {f : Fact}

theorem Fact.In.committed {db : Db} {result : Result Books} (settled : f.stored = f)
    (kept : f.In db.books) (h : ∀ books, result = .ok books → f.In books) :
    f.In (MarketExtinction.committed db result).books := by
  unfold MarketExtinction.committed
  split
  · rename_i books
    exact settled ▸ (h books rfl).store
  · exact kept

/-- No transaction on the books touches a stored fact. -/
theorem Fact.In.step (settled : f.stored = f) (db : Db) (entry : Entry) (kept : f.In db.books) :
    f.In (MarketExtinction.step cfg db entry).books := by
  cases entry with
  | ledger op =>
    cases op with
    | effect posting =>
      unfold MarketExtinction.step StoredLedger.step
      dsimp only
      split
      · rename_i applied
        exact settled ▸ ((received_facts f).effect applied kept).store
      · exact kept
    | statement payload now =>
      unfold MarketExtinction.step StoredLedger.step
      dsimp only
      split
      · rename_i applied
        exact settled ▸ (facts_statement applied kept).store
      · exact kept
    | placeholder k =>
      unfold MarketExtinction.step StoredLedger.step
      dsimp only
      exact (received_facts f).placeholder db.books k kept
  | settled record =>
    exact kept.committed settled fun books applied => (received_facts f).settled applied kept
  | fact payload =>
    refine kept.committed settled fun books applied => ?_
    obtain ⟨⟨done,audit⟩,processed,rfl⟩ := Fallible.map_ok.mp applied
    exact (received_facts f).fact processed kept
  | sweep locked now =>
    refine kept.committed settled fun books applied => ?_
    obtain ⟨⟨done,report⟩,swept,rfl⟩ := Fallible.map_ok.mp applied
    exact (received_facts f).sweep swept kept

/-- A fact, once accepted, stays in the books as its columns rounded it. -/
theorem accepted_stays {db : Db} {first : Payload} (accepted : Accepted cfg db.books first)
    (later : List Entry) : ∃ f, factOf cfg first = some f ∧
      f.stored.In (run (MarketExtinction.step cfg) db (.fact first :: later)).books := by
  obtain ⟨after,processed⟩ := accepted
  obtain ⟨f,read,kept⟩ := processed_fact processed
  refine ⟨f,read,?_⟩
  have there : f.stored.In (MarketExtinction.step cfg db (.fact first)).books := by
    show f.stored.In (MarketExtinction.committed db _).books
    rw [processed]
    exact kept.store
  have free : Along (MarketExtinction.step cfg) (fun _ _ => True)
      (MarketExtinction.step cfg db (.fact first)) later := along_true _ later
  have always : Always (MarketExtinction.step cfg) (fun db => f.stored.In db.books)
      (MarketExtinction.step cfg db (.fact first)) later :=
    always_of_step (fun db entry kept _ => kept.step f.stored_idem db entry) there free
  exact always.final

end Runs

/-! ### What the comparison tells apart -/

section Comparison
variable {cfg : Config} {first again : Payload} {f g : Fact}

theorem centsHalfUp_eq_self {q : ℚ} : centsHalfUp q = q ↔ Cents q :=
  ⟨fun h => h ▸ cents_centsHalfUp q,centsHalfUp_of_cents⟩

theorem centsHalfUp_near (q : ℚ) : |centsHalfUp q - q| ≤ 1/200 := by
  have e : centsHalfUp q - q = (halfUp (q * 100) - q * 100) / 100 := by
    unfold centsHalfUp
    ring
  rw [e,abs_div,abs_of_pos (show (0 : ℚ) < 100 by norm_num)]
  have near := halfUp_near (q * 100)
  linarith

theorem same_iff (about : f.About g) : f.stored.same g ↔ f.terms = g.terms ∧
    ∀ p ∈ f.amounts.zip g.amounts, centsHalfUp p.1 = p.2 := by
  cases f <;> cases g
  · simp [Fact.stored,Fact.same,sameTrade,storedTrade,Fact.terms,Fact.amounts,and_assoc]
  · exact absurd about id
  · exact absurd about id
  · simp [Fact.stored,Fact.same,sameSettlement,storedSettlement,Fact.terms,Fact.amounts,and_assoc]

/-- A cent apart is never mistaken for a rounding. -/
theorem differs_not_same (about : f.About g) (differs : f.Differs g) : f.stored.same g = false := by
  rw [Bool.eq_false_iff]
  intro same
  obtain ⟨terms,amounts⟩ := (same_iff about).mp same
  rcases differs with other | ⟨p,hp,apart⟩
  · exact other terms
  · have near := centsHalfUp_near p.1
    rw [amounts p hp,abs_sub_comm] at near
    linarith

theorem Redelivers.get (same : Redelivers first again) : again.data.get = first.data.get :=
  funext same.data

/-- A field is read alike, and what follows is restated. -/
theorem bind_restated {α β : Type} {x : Option α} {read restated : α → Option β} {g : β → β}
    (h : ∀ a, restated a = (read a).map g) : x.bind restated = (x.bind read).map g := by
  cases x with
  | none => rfl
  | some a => exact h a

theorem tradeOf_redelivered (same : Redelivers first again) (cycleId : String) :
    tradeOf cfg again cycleId = (tradeOf cfg first cycleId).map
      (Option.map fun t => { t with msgId := again.msgId, idpk := again.idpk }) := by
  unfold tradeOf
  dsimp only
  rw [same.get]
  iterate 11 refine bind_restated fun _ => ?_
  split
  · rfl
  split <;> rfl

theorem settlementOf_redelivered (same : Redelivers first again) (cycleId : String) :
    settlementOf again cycleId = (settlementOf first cycleId).map
      fun s => { s with msgId := again.msgId, idpk := again.idpk } := by
  unfold settlementOf
  dsimp only
  rw [same.get]
  iterate 8 refine bind_restated fun _ => ?_
  rfl

/-- The repetition states the same fact. -/
theorem factOf_redelivered (same : Redelivers first again) (read : factOf cfg first = some f) :
    ∃ g, factOf cfg again = some g ∧ f.About g ∧ g.terms = f.terms ∧ g.amounts = f.amounts := by
  unfold factOf at read ⊢
  rw [same.type,same.cycleId]
  obtain ⟨cycleId,cycle,read⟩ := Option.bind_eq_some_iff.mp read
  rw [cycle,Option.bind_some]
  split at read
  · obtain ⟨t,traded,rfl⟩ := Option.map_eq_some_iff.mp read
    have parsed : tradeOf cfg first cycleId = some (some t) := Option.join_eq_some_iff.mp traded
    rw [tradeOf_redelivered same,parsed]
    exact ⟨_,rfl,rfl,rfl,rfl⟩
  · obtain ⟨s,settled,rfl⟩ := Option.map_eq_some_iff.mp read
    obtain ⟨parsed,checked⟩ := Option.filter_eq_some_iff.mp settled
    have again_ : settlementRefusal { s with msgId := again.msgId, idpk := again.idpk } = .ok none :=
      of_decide_eq_true checked
    rw [settlementOf_redelivered same,parsed,Option.map_some,Option.filter_some,
      if_pos (decide_eq_true again_)]
    exact ⟨_,rfl,rfl,rfl,rfl⟩
  · cases read

/-- A stored fact meets its own repetition. -/
theorem same_repeated (about : f.About g) (terms : g.terms = f.terms)
    (amounts : g.amounts = f.amounts) : f.stored.same g ↔ ∀ q ∈ f.amounts, Cents q := by
  rw [same_iff about,amounts,terms]
  have pairs : ∀ l : List ℚ, (∀ p ∈ l.zip l, centsHalfUp p.1 = p.2) ↔ ∀ q ∈ l, Cents q := by
    intro l
    induction l with
    | nil => simp
    | cons q l ih =>
      rw [List.zip_cons_cons,List.forall_mem_cons,List.forall_mem_cons,ih,centsHalfUp_eq_self]
  rw [pairs]
  exact and_iff_right rfl

end Comparison

/-- An accepted fact is recognised for ever when the amounts it is compared by
fit their columns, and only then. -/
theorem redelivery_recognised (cfg : Config) (before later : List Entry) (first : Payload)
    (accepted : Accepted cfg (run (MarketExtinction.step cfg) {} before).books first) :
    Recognises cfg (run (MarketExtinction.step cfg) {} (before ++ .fact first :: later)).books first ↔
      Exact cfg first := by
  obtain ⟨f,read,kept⟩ := accepted_stays accepted later
  rw [← run_append] at kept
  set books := (run (MarketExtinction.step cfg) {} (before ++ .fact first :: later)).books
  have about {g : Fact} (h : f.About g) : f.stored.About g := by
    cases f <;> cases g <;> exact h
  have conflict : f.stored.conflict = f.conflict := by cases f <;> rfl
  have answer {again : Payload} {g : Fact} (hg : factOf cfg again = some g) (h : f.About g) :
      processWalletFact cfg books again = .ok (books,
        if f.stored.same g then (.duplicate,none) else (.notProcessed,some f.conflict)) := by
    rw [processWalletFact_stored hg kept (about h),conflict]
  constructor
  · rintro ⟨repeated,_⟩ g hg
    rw [read] at hg
    cases hg
    obtain ⟨g,hg,own,terms,amounts⟩ := factOf_redelivered ⟨rfl,rfl,fun _ => rfl⟩ read
    have said := repeated first ⟨rfl,rfl,fun _ => rfl⟩
    rw [answer hg own] at said
    rw [← same_repeated own terms amounts]
    by_contra apart
    rw [if_neg apart] at said
    cases said
  · intro fits
    constructor
    · intro again same
      obtain ⟨g,hg,own,terms,amounts⟩ := factOf_redelivered same read
      rw [answer hg own,if_pos ((same_repeated own terms amounts).mpr (fits f read))]
    · rintro other f' ⟨f'',g,first_,other_,own,differs⟩ again
      rw [read] at first_ again
      cases first_
      cases again
      rw [answer other_ own,differs_not_same own differs]
      rfl

/-- A purchase of 10 kWh from BBB, with its transport. -/
def recorded (idpk msgId : String) (transport : ℚ) (named : idpk ≠ "" := by decide) : Payload where
  idpk := idpk
  named := named
  msgId := msgId
  type := .tradeRecorded
  timestamp := 0
  cycleId := some "C1"
  sender := some "central"
  data := [("swapId",.str "s1"),("offerId",.str "BBB-C1"),("seller",.str "BBB"),("buyer",.str "AAA"),
    ("quantity",.int 10),("pricePerEnergy",.int 2),("energyTotal",.int 20),
    ("transportPerEnergy",.float (transport / 10)),("transportTotal",.float transport),
    ("routeEnabled",.bool true)]

def trading : Config := .drawing "AAA" []

def paid (transport : ℚ) : Payload :=
  recorded "81000000-0000-0000-0000-000000000001" "81000000-0000-0000-0000-000000000002" transport

def retried (transport : ℚ) : Payload :=
  recorded "81000000-0000-0000-0000-000000000003" "81000000-0000-0000-0000-000000000004" transport

theorem paid_accepted (transport : ℚ) : Accepted trading {} (paid transport) := ⟨_,rfl⟩

/-- A transport of 12.345 is stored as 12.35, and its repetition contradicts it. -/
theorem third_decimal_conflicts : Accepted trading {} (paid (12345 / 1000)) ∧
    Redelivers (paid (12345 / 1000)) (retried (12345 / 1000)) ∧
    (processWalletFact trading
      (run (MarketExtinction.step trading) {} [.fact (paid (12345 / 1000))]).books
      (retried (12345 / 1000))).map Prod.snd = .ok (.notProcessed,some "TRADE_CONFLICT") := by
  refine ⟨paid_accepted _,⟨rfl,rfl,fun _ => rfl⟩,?_⟩
  decide +kernel

theorem whole_cents_recognised :
    Recognises trading
      (run (MarketExtinction.step trading) {} ([] ++ .fact (paid (1234 / 100)) :: [])).books
      (paid (1234 / 100)) ↔ Exact trading (paid (1234 / 100)) :=
  redelivery_recognised trading [] [] (paid (1234 / 100)) (paid_accepted _)

end FactRedelivery

end EnergyNode
