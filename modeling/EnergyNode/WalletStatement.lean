import EnergyNode.Db
import EnergyNode.Lib.Fallible
import EnergyNode.Lib.Rounding

/-! What the wallet answers about the city's account: the official balance, and
the statement page by page, read from its head and stored once per entry, as it was
when it was first read. -/
namespace EnergyNode
open Lib

/-- The exceptions of a read; `wallet` is WalletError. -/
inductive ReadFault where
  | wallet (message : String)
  | otherCity (cityId : Json)
  | attribute
  | type
  | database

abbrev Reading := Except ReadFault

inductive WalletAsset where
  | cr | kwh
deriving DecidableEq

def WalletAsset.name : WalletAsset → String
  | cr => "CR"
  | kwh => "KWH"

structure WalletStatementEntry where
  entryId : String
  cycleId : Option String
  asset : WalletAsset
  kind : String
  amount : ℚ
  reference : String
  createdAt : Instant
deriving DecidableEq

structure WalletBalanceResponse where
  kwhAvailable : Decimal
  kwhHeld : Decimal
  crAvailable : Decimal
  crHeld : Decimal
  creditLine : Decimal
  timestamp : Json
  lastSettledCycle : Json
  balanceAtLastCloseCr : Option Decimal

structure WalletStatementPage where
  entries : List Json
  nextCursor : Option String

namespace WalletStatement

abbrev Entries := Table WalletStatementEntry.entryId

/-- `_parse_instant`: only a text with an offset denotes an instant. -/
def parseInstant (value : Json) : Option Instant :=
  ((value.text?.bind Moment.ofText).filter Moment.aware).map Moment.time

def notContract : ReadFault := .wallet "Respuesta de GET /balance no cumple v3.0.1"

/-- `data[name]`: a missing member and a value without members are refused alike. -/
def member (data : Json) (name : String) : Reading Json :=
  match data.obj?.bind (·.lookup name) with
  | some value => .ok value
  | none => .error notContract

def decimal (value : Json) : Reading Decimal :=
  match Decimal.ofJson value with
  | some amount => .ok amount
  | none => .error notContract

/-- `last_close.get("CR")`, where an empty or missing close reads as `{}`. -/
def lastClose (data : Fields) : Reading (Option Decimal) :=
  let close := data.get "balanceAtLastClose"
  if close.truthy then
    match close with
    | .obj close =>
        match Fields.get close "CR" with
        | .null => .ok none
        | amount => (decimal amount).map some
    | _ => .error .attribute
  else .ok none

/-- What `GET /balance` answered, as `get_balance` checks it. -/
def getBalance (cityId : String) (answer : Reading Json) : Reading WalletBalanceResponse := do
  let data ← answer
  let assets ← member data "assets"
  let kwh ← member assets "KWH"
  let cr ← member assets "CR"
  let city ← member data "cityId"
  if city.text? ≠ some cityId then throw (.otherCity city)
  let fields := data.obj?.getD []
  let kwhAvailable ← (member kwh "available").bind decimal
  let kwhHeld ← (member kwh "held").bind decimal
  let crAvailable ← (member cr "available").bind decimal
  let crHeld ← (member cr "held").bind decimal
  let creditLine ← (member cr "creditLine").bind decimal
  let balanceAtLastCloseCr ← lastClose fields
  return {
    kwhAvailable := kwhAvailable
    kwhHeld := kwhHeld
    crAvailable := crAvailable
    crHeld := crHeld
    creditLine := creditLine
    timestamp := fields.get "asOf"
    lastSettledCycle := fields.get "lastSettledCycle"
    balanceAtLastCloseCr := balanceAtLastCloseCr }

/-- One page, as `get_statement` checks it. -/
def getStatement (answer : Reading Json) : Reading WalletStatementPage := do
  let data ← answer
  let some fields := data.obj?
    | throw (.wallet "GET /statement no respetó el contrato {entries,nextCursor}")
  let .arr entries := fields.get "entries"
    | throw (.wallet "GET /statement no respetó el contrato {entries,nextCursor}")
  match fields.get "nextCursor" with
  | .null => return { entries := entries, nextCursor := none }
  | .str cursor => return { entries := entries, nextCursor := some cursor }
  | _ => throw (.wallet "GET /statement devolvió nextCursor inválido")

/-- The wallet: what it answers to the n-th request for a page. An empty cursor
is not sent. -/
abbrev Pages := Nat → Option String → Reading Json

def ask (wallet : Pages) (n : Nat) (cursor : Option String) : Reading WalletStatementPage :=
  getStatement (wallet n (cursor.filter (· ≠ "")))

/-- A text column is compared with texts and nulls only. -/
def columnText : Json → Reading (Option String)
  | .null => .ok none
  | .str s => .ok (some s)
  | _ => .error .database

def entryIds (entries : List Json) : List Json :=
  entries.filterMap fun item => item.obj?.map fun entry => Fields.get entry "entryId"

/-- Whether every entry of a page is stored; a page that repeats one is not. -/
def knownPage (stored : Entries) (entries : List Json) : Reading Bool := do
  let ids ← (entryIds entries).mapM columnText
  let known := (ids.filterMap id).dedup.filter fun entryId => (stored.get? entryId).isSome
  return !ids.isEmpty && known.length = ids.length

/-- What the loop over the pages holds. -/
structure Progress where
  entries : List Json := []
  cursor : Option String := none
  seenCursors : List String := []
  knownPages : Nat := 0
  pages : Nat := 0

structure Fetched where
  entries : List Json
  complete : Bool
  pages : Nat

def overlapPages : Nat := 2

/-- The turns of `fetch_incremental_statement_entries` that are left. -/
def fetchPages (stored : Entries) (wallet : Pages) (fullScan : Bool) : Nat → Progress → Reading Fetched
  | 0, _ => throw (.wallet "GET /statement excedió el máximo de páginas")
  | left + 1, p => do
      let page ← ask wallet p.pages p.cursor
      let entries := p.entries ++ page.entries
      let known ← knownPage stored page.entries
      let knownPages := if known then p.knownPages + 1 else 0
      match page.nextCursor with
      | none => return { entries := entries, complete := true, pages := p.pages + 1 }
      | some cursor =>
          if cursor ∈ p.seenCursors then
            throw (.wallet "GET /statement repitió el mismo nextCursor")
          if fullScan = false ∧ overlapPages ≤ knownPages then
            return { entries := entries, complete := false, pages := p.pages + 1 }
          fetchPages stored wallet fullScan left {
            entries := entries
            cursor := some cursor
            seenCursors := cursor :: p.seenCursors
            knownPages := knownPages
            pages := p.pages + 1 }

def maxPages : Nat := 100

def fetchIncrementalStatementEntries (stored : Entries) (wallet : Pages) (fullScan : Bool) :
    Reading Fetched :=
  fetchPages stored wallet fullScan maxPages {}

/-- `asset in {"CR", "KWH"}`; a value that cannot be hashed is a TypeError. -/
def assetOf : Json → Reading (Option WalletAsset)
  | .str "CR" => .ok (some .cr)
  | .str "KWH" => .ok (some .kwh)
  | .arr _ => .error .type
  | .obj _ => .error .type
  | _ => .ok none

/-- The column `amount` keeps four decimals, of twenty digits. -/
def storedAmount (amount : ℚ) : Reading ℚ :=
  if |halfUp (amount * 10000)| < 10 ^ 20 then .ok (halfUp (amount * 10000) / 10000)
  else .error .database

/-- The row of an entry that is not stored yet. -/
def newEntry (entryId : String) (entry : Fields) : Reading WalletStatementEntry := do
  let invalid := ReadFault.wallet ("statement entry " ++ entryId ++ " inválido")
  let some asset ← assetOf (entry.get "asset") | throw invalid
  let .str kind := entry.get "kind" | throw invalid
  let some createdAt := parseInstant (entry.get "createdAt") | throw invalid
  let some reference := (entry.get "reference").text?.filter (· ≠ "")
    | throw (.wallet ("statement entry " ++ entryId ++ " sin reference"))
  let some amount := Decimal.ofJson (entry.get "amount")
    | throw (.wallet "asiento de statement con monto no numérico")
  let some amount := amount.finite?
    | throw (.wallet "asiento de statement con monto no finito")
  let cycleId ← columnText (entry.get "cycleId")
  let amount ← storedAmount amount
  return {
    entryId := entryId
    cycleId := cycleId
    asset := asset
    kind := kind
    amount := amount
    reference := reference
    createdAt := createdAt }

/-- Stores an entry unless its identifier already is; the flag says which. -/
def storeStatementEntry (stored : Entries) (entry : Json) : Reading (Entries × Bool) := do
  let .obj entry := entry | throw .attribute
  let some entryId := (Fields.get entry "entryId").text?.filter (· ≠ "")
    | throw (.wallet "statement entry sin entryId")
  if (stored.get? entryId).isSome then return (stored,false)
  let row ← newEntry entryId entry
  match stored.insert? row with
  | some stored => return (stored,true)
  | none => throw .database

/-- `store_statement_entries`, with the number of new entries. -/
def storeStatementEntries : Entries → List Json → Reading (Entries × Nat)
  | stored, [] => return (stored,0)
  | stored, entry :: rest => do
      let (stored, created) ← storeStatementEntry stored entry
      let (stored, count) ← storeStatementEntries stored rest
      return (stored,count + if created then 1 else 0)

/-! ### What was read -/

/-- The pages from a cursor to the end of the statement, each as the wallet answered it. -/
inductive Whole (wallet : Pages) : Nat → Option String → List WalletStatementPage → Prop
  | last {n : Nat} {cursor : Option String} {page : WalletStatementPage} :
      ask wallet n cursor = .ok page → page.nextCursor = none → Whole wallet n cursor [page]
  | more {n : Nat} {cursor : Option String} {page : WalletStatementPage} {next : String}
      {rest : List WalletStatementPage} :
      ask wallet n cursor = .ok page → page.nextCursor = some next →
        Whole wallet (n + 1) (some next) rest → Whole wallet n cursor (page :: rest)

section Fetch
variable {stored : Entries} {wallet : Pages} {full : Bool} {left : Nat} {p : Progress}
  {fetched : Fetched}

/-- A turn ends the loop at the last page or by the overlap, or goes on with the next cursor. -/
theorem fetchPages_cases (h : fetchPages stored wallet full (left + 1) p = .ok fetched) :
    ∃ page known, ask wallet p.pages p.cursor = .ok page ∧
      (page.nextCursor = none ∧
        fetched = { entries := p.entries ++ page.entries, complete := true, pages := p.pages + 1 } ∨
      fetched.complete = false ∨
      ∃ next, page.nextCursor = some next ∧
        fetchPages stored wallet full left {
          entries := p.entries ++ page.entries
          cursor := some next
          seenCursors := next :: p.seenCursors
          knownPages := known
          pages := p.pages + 1 } = .ok fetched) := by
  unfold fetchPages at h
  obtain ⟨page,asked,h⟩ := Fallible.bind_ok.mp h
  obtain ⟨known,_,h⟩ := Fallible.bind_ok.mp h
  refine ⟨page,if known then p.knownPages + 1 else 0,asked,?_⟩
  dsimp only at h
  cases next : page.nextCursor with
  | none =>
    rw [next] at h
    exact .inl ⟨rfl,(Fallible.pure_ok.mp h).symm⟩
  | some cursor =>
    rw [next] at h
    dsimp only at h
    by_cases seen : cursor ∈ p.seenCursors
    · rw [if_pos seen] at h
      cases h
    rw [if_neg seen] at h
    by_cases enough : full = false ∧
        overlapPages ≤ if known then p.knownPages + 1 else 0
    · rw [if_pos enough] at h
      obtain rfl := Fallible.pure_ok.mp h
      exact .inr (.inl rfl)
    · rw [if_neg enough] at h
      exact .inr (.inr ⟨cursor,rfl,h⟩)

theorem fetchPages_whole (h : fetchPages stored wallet full left p = .ok fetched)
    (complete : fetched.complete = true) :
    ∃ pages, Whole wallet p.pages p.cursor pages ∧
      fetched.entries = p.entries ++ pages.flatMap WalletStatementPage.entries := by
  induction left generalizing p with
  | zero => cases h
  | succ left ih =>
    obtain ⟨page,known,asked,⟨last,rfl⟩ | partial_ | ⟨next,more,h⟩⟩ := fetchPages_cases h
    · exact ⟨[page],.last asked last,by simp⟩
    · rw [partial_] at complete
      cases complete
    · obtain ⟨pages,whole,entries⟩ := ih h
      refine ⟨page :: pages,.more asked more whole,?_⟩
      rw [entries,List.flatMap_cons,List.append_assoc]

end Fetch

def entryIdOf (entry : Json) : Option String :=
  entry.obj?.bind fun fields => (Fields.get fields "entryId").text?

/-- What storing a reading leaves: every entry has a row, the rows there were stay as
they are, and a new row is the first entry of the reading under its identifier. -/
structure Stores (before : Entries) (entries : List Json) (after : Entries) : Prop where
  kept (row : WalletStatementEntry) : row ∈ before → row ∈ after
  rows (entry : Json) : entry ∈ entries → ∃ row ∈ after, entryIdOf entry = some row.entryId
  new (row : WalletStatementEntry) : row ∈ after → row ∈ before ∨
    before.get? row.entryId = none ∧ ∃ fields,
      entries.find? (entryIdOf · = some row.entryId) = some (.obj fields) ∧
        newEntry row.entryId fields = .ok row

theorem newEntry_id {entryId : String} {entry : Fields} {row : WalletStatementEntry}
    (h : newEntry entryId entry = .ok row) : row.entryId = entryId := by
  unfold newEntry at h
  obtain ⟨asset,_,h⟩ := Fallible.bind_ok.mp h
  cases asset with
  | none => cases h
  | some asset =>
  dsimp only at h
  cases kind : entry.get "kind" with
  | str kind =>
    rw [kind] at h
    dsimp only at h
    cases createdAt : parseInstant (entry.get "createdAt") with
    | none =>
      rw [createdAt] at h
      cases h
    | some createdAt' =>
    rw [createdAt] at h
    dsimp only at h
    cases reference : (entry.get "reference").text?.filter (· ≠ "") with
    | none =>
      rw [reference] at h
      cases h
    | some reference' =>
    rw [reference] at h
    dsimp only at h
    cases number : Decimal.ofJson (entry.get "amount") with
    | none =>
      rw [number] at h
      cases h
    | some amount =>
    rw [number] at h
    dsimp only at h
    cases finite : amount.finite? with
    | none =>
      rw [finite] at h
      cases h
    | some q =>
      rw [finite] at h
      obtain ⟨cycleId,_,h⟩ := Fallible.bind_ok.mp h
      obtain ⟨amount,_,h⟩ := Fallible.bind_ok.mp h
      cases Fallible.pure_ok.mp h
      rfl
  | _ =>
    rw [kind] at h
    cases h

section Store
variable {stored stored' : Entries} {entry : Json} {entries : List Json} {created : Bool} {n : Nat}

/-- An entry whose identifier is stored changes nothing; another adds its row. -/
theorem storeStatementEntry_spec (h : storeStatementEntry stored entry = .ok (stored',created)) :
    ∃ fields entryId, entry = .obj fields ∧ entryIdOf entry = some entryId ∧
      (stored' = stored ∧ (stored.get? entryId).isSome ∨ ∃ row free,
        newEntry entryId fields = .ok row ∧ stored' = stored.insert row free) := by
  unfold storeStatementEntry at h
  cases entry with
  | obj fields =>
    dsimp only at h
    cases named : (Fields.get fields "entryId").text?.filter (· ≠ "") with
    | none =>
      rw [named] at h
      cases h
    | some entryId =>
      rw [named] at h
      have text : entryIdOf (.obj fields) = some entryId := (Option.filter_eq_some_iff.mp named).1
      refine ⟨fields,entryId,rfl,text,?_⟩
      dsimp only at h
      by_cases known : (stored.get? entryId).isSome
      · rw [if_pos known] at h
        cases Fallible.pure_ok.mp h
        exact .inl ⟨rfl,known⟩
      rw [if_neg known] at h
      obtain ⟨row,made,h⟩ := Fallible.bind_ok.mp h
      cases inserted : stored.insert? row with
      | none =>
        rw [inserted] at h
        cases h
      | some next =>
        rw [inserted] at h
        cases Fallible.pure_ok.mp h
        obtain ⟨free,rfl⟩ := Table.insert?_eq_some.mp inserted
        exact .inr ⟨row,free,made,rfl⟩
  | _ => cases h

theorem Stores.refl (stored : Entries) : Stores stored [] stored where
  kept _ := id
  rows _ he := (List.not_mem_nil he).elim
  new _ := .inl

/-- The first entry under an identifier is the one that counts. -/
theorem Stores.cons {next : Entries} (first : storeStatementEntry stored entry = .ok (next,created))
    (rest : Stores next entries stored') : Stores stored (entry :: entries) stored' := by
  obtain ⟨fields,entryId,rfl,named,⟨rfl,known⟩ | ⟨row,free,made,rfl⟩⟩ :=
    storeStatementEntry_spec first
  · obtain ⟨old,found⟩ := Option.isSome_iff_exists.mp known
    refine ⟨rest.kept,fun e he => ?_,fun r hr => (rest.new r hr).imp_right ?_⟩
    · rcases List.mem_cons.mp he with rfl | he
      · exact ⟨old,rest.kept old (Table.mem_of_get? found),
          named.trans (congrArg some (Table.key_of_get? found).symm)⟩
      · exact rest.rows e he
    · rintro ⟨missing,own⟩
      refine ⟨missing,?_⟩
      rw [List.find?_cons_of_neg]
      · exact own
      · rw [decide_eq_true_eq,named,Option.some.injEq]
        rintro rfl
        cases missing.symm.trans found
  · have key := newEntry_id made
    have stays : row ∈ stored' := rest.kept row (Table.mem_insert.mpr (.inr rfl))
    refine ⟨fun r hr => rest.kept r (Table.mem_insert.mpr (.inl hr)),fun e he => ?_,fun r hr => ?_⟩
    · rcases List.mem_cons.mp he with rfl | he
      · exact ⟨row,stays,named.trans (congrArg some key.symm)⟩
      · exact rest.rows e he
    · rcases rest.new r hr with there | ⟨missing,own⟩
      · rcases Table.mem_insert.mp there with old | rfl
        · exact .inl old
        · refine .inr ⟨free,fields,?_,key ▸ made⟩
          rw [List.find?_cons_of_pos]
          rw [decide_eq_true_eq,named,key]
      · rw [Table.get?_insert] at missing
        split at missing
        · cases missing
        · rename_i other
          refine .inr ⟨missing,?_⟩
          rw [List.find?_cons_of_neg]
          · exact own
          · rw [decide_eq_true_eq,named,Option.some.injEq,← key]
            exact other

theorem storeStatementEntries_spec (h : storeStatementEntries stored entries = .ok (stored',n)) :
    Stores stored entries stored' := by
  induction entries generalizing stored n with
  | nil =>
    cases Fallible.pure_ok.mp h
    exact .refl _
  | cons entry rest ih =>
    obtain ⟨⟨next,created⟩,first,h⟩ := Fallible.bind_ok.mp h
    obtain ⟨⟨last,count⟩,others,h⟩ := Fallible.bind_ok.mp h
    cases Fallible.pure_ok.mp h
    exact .cons first (ih others)

end Store

end WalletStatement

end EnergyNode
