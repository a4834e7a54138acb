import EnergyNode.NegotiationAttempts
import EnergyNode.Reports

/-! What the connector polls: the rows of the outbox that may leave now. -/
namespace EnergyNode
open Lib

namespace OutboundDispatch
open Reports

/-- The feed messages of our own offers. -/
def isMarket (row : OutboundMessage) : Bool := SellerOffers.isOfferEvent row.content

/-- The rows with a smaller id. -/
def earlier (outbox : Outbox) (row : OutboundMessage) : List OutboundMessage :=
  outbox.rows.takeWhile fun r => r.msgId ≠ row.msgId

/-- An earlier feed message of the cycle that nobody has published yet. -/
def precedes (row : OutboundMessage) (previous : OutboundMessage) : Bool :=
  isMarket previous && previous.cycleId.isSome && previous.cycleId = row.cycleId &&
    previous.status ≠ .published

def blocked (outbox : Outbox) (row : OutboundMessage) : Bool :=
  isMarket row && (earlier outbox row).any (precedes row)

/-- The cycle of a report is inside its window. -/
def reportOpen (cycles : Table Cycle.cycleId) (now : Instant) (row : OutboundMessage) : Bool :=
  (row.cycleId.bind cycles.get?).any fun c =>
    c.statusIdpk.isSome && c.validUntil.any (now < ·) && c.reportWindowOpensAt.any (· ≤ now) &&
      c.schedulerState ≠ "CLOSED"

def listed (db : Db) (now : Instant) (row : OutboundMessage) : Bool :=
  !blocked db.outbox row && row.dispatchRequired && (row.status = .pending || row.status = .failed) &&
    row.availableAt.all (· ≤ now) && row.expiresAt.all (now < ·) &&
    (!isReport row || reportOpen db.books.cycles now row)

/-- The query of `list_outbound_dispatch`. -/
def select (db : Db) (limit : Nat) (now : Instant) : List OutboundMessage :=
  ((db.outbox.rows.filter (listed db now)).insertionSort fun a b => a.createdAt ≤ b.createdAt).take
    limit

/-- The transaction before the query: what is over stops, failed bids leave
again. `locked` are the cycles of other transactions, `closed` those with a
`closed_at`. -/
def prepare (cfg : Config) (db : Db) (locked closed : List String) (now : Instant) : Db :=
  Negotiations.expireProposals closed (Buying.renewFailed cfg (expireReportDispatches db locked now) now)
    now

theorem mem_select {db : Db} {limit : Nat} {now : Instant} {row : OutboundMessage}
    (h : row ∈ select db limit now) : row ∈ db.outbox ∧ listed db now row := by
  have sorted := List.mem_of_mem_take h
  rw [List.mem_insertionSort,List.mem_filter] at sorted
  exact sorted

end OutboundDispatch

end EnergyNode
