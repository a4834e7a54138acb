import EnergyNode.Lib.Run
import EnergyNode.NegotiationSteps

/-! What a negotiation leaves on the ledger over its attempts. A purchase is paid
in the transaction that confirms it, with the amounts of the message; the columns
keep them rounded. -/
namespace EnergyNode
open Lib

namespace NegotiationEffects
open Ledger Negotiations

/-- The payment of a negotiation is what its stored amounts come to. -/
def Settles (n : Negotiation) (e : LedgerEntry) : Prop :=
  ∃ energy price, n.confirmedEnergy = some energy ∧ n.confirmedPrice = some price ∧
    (e.operationType = .paymentReceived → e.budgetDelta = centsHalfUp (energy * price)) ∧
    (e.operationType = .paymentSent → e.budgetDelta = -centsHalfUp (energy * price))

structure Once (db : Db) : Prop where
  energy : ∀ n ∈ db.diplomacy.negotiations, (effects db.books.ledger n.id isConfirmation).length ≤ 1
  payment : ∀ n ∈ db.diplomacy.negotiations, (effects db.books.ledger n.id isPayment).length ≤ 1
  settles : ∀ n ∈ db.diplomacy.negotiations, ∀ e ∈ db.books.ledger, e.negotiationId = some n.id →
    isPayment e.operationType → Settles n e

/-- The sales a turn confirms fit in what their cycles had left before it. -/
def Fits (env : Env) (w : World) (turn : Turn) : Prop :=
  ∀ e ∈ (step env w turn).db.books.ledger, e ∉ w.db.books.ledger → Admitted w.db.books e

/-- What is due for the amounts is what the columns keep of them comes to. -/
def Steady (energy price : ℚ) : Prop :=
  amountDue energy price = centsHalfUp (centsHalfUp energy * centsHalfUp price)

instance (energy price : ℚ) : Decidable (Steady energy price) := inferInstanceAs (Decidable (_ = _))

/-- Whatever is paid for has amounts that come to the same in the columns. -/
def Steadily (w : World) (turn : Turn) : Prop :=
  ∀ energy price, Prices w turn energy price → Steady energy price

/-- The payment `m` records is what the columns keep of its amounts comes to. -/
def Due (m : Negotiation) : Prop := ∀ quantity ∈ m.paymentQuantity,
  ∃ energy price, m.confirmedEnergy = some energy ∧ m.confirmedPrice = some price ∧
    quantity = centsHalfUp (centsHalfUp energy * centsHalfUp price)

def Priced (f : File) : Prop := ∀ n ∈ f.negotiations, Due n

section Moves
variable {T : Terms} {f g : File}

theorem Priced.write (h : Priced f) {n m : Negotiation} (same : Same n m)
    (own : Due m) (entries : List LedgerEntry) :
    Priced { f with negotiations := f.negotiations.set m, entries := entries } := by
  intro x hx
  rcases mem_set_cases same hx with rfl | ⟨old,_⟩
  · exact own
  · exact h x old

theorem Priced.kept (h : Priced f) {n m : Negotiation} (hn : n ∈ f.negotiations) (kept : Keeps n m) :
    Due m := by
  unfold Due
  rw [kept.paymentQuantity,kept.confirmedEnergy,kept.confirmedPrice]
  exact h n hn

theorem Priced.move (steady : ∀ energy price, T.priced energy price → Steady energy price)
    (move : FileMove T f g) (filed : Filed f) (h : Priced f) : Priced g := by
  cases move with
  | claimed row free => exact h
  | returned idpk unused => exact h
  | opened n free unconfirmed unpriced unpaid status newest =>
    intro x hx quantity paid
    have split : x ∈ f.negotiations.insert n free := hx
    rcases Table.mem_insert.mp split with old | rfl
    · exact h x old quantity paid
    · rw [unpaid] at paid
      cases paid
  | moved n m hn kept status => exact h.write kept.toSame (h.kept (Table.mem_of_get? hn) kept) f.entries
  | swept g hg kept status =>
    intro x hx
    have drawn : x ∈ f.negotiations.mapRows g hg := hx
    obtain ⟨n,hn,rfl⟩ := Table.mem_mapRows.mp drawn
    exact h.kept hn (kept n)
  | refused n m hn kept cause status =>
    exact h.write kept.toSame (h.kept (Table.mem_of_get? hn) kept) f.entries
  | confirmed n m e give energy price hn confirmed new about type delta place named cause =>
    -- what was paid had been confirmed before
    refine h.write confirmed.toSame (fun quantity paid => ?_) _
    rw [confirmed.paymentQuantity] at paid
    have hmem := Table.mem_of_get? hn
    obtain ⟨energy,_⟩ := filed.settled n hmem (Option.isSome_iff_exists.mpr ⟨quantity,paid⟩)
    obtain ⟨_,x,hx,own,kind⟩ := filed.confirmed n hmem energy
    rw [filed.unconfirmed hmem confirmed.word new x hx own] at kind
    cases kind
  | reconfirmed n m e give energy price hn confirmed he about type delta same =>
    have kept := filed.repeats (Table.mem_of_get? hn) confirmed he about type delta same
    exact h.write kept.toSame (h.kept (Table.mem_of_get? hn) kept) f.entries
  | paid n m e energy price hn paid pays cause =>
    refine h.write paid.toSame (fun quantity own => ?_) _
    rw [paid.paymentQuantity] at own
    cases own
    exact ⟨energy,price,paid.confirmedEnergy.1.trans paid.confirmedEnergy.2,
      paid.confirmedPrice.1.trans paid.confirmedPrice.2,steady energy price cause⟩

theorem Priced.moves (steady : ∀ energy price, T.priced energy price → Steady energy price)
    (moves : FileMoves T f g) (filed : Filed f) (h : Priced f) : Priced g := by
  induction moves with
  | refl => exact h
  | tail before move ih => exact ih.move steady move (filed.moves before)

theorem Priced.stored (h : Priced f) : Priced f.stored := by
  intro x hx quantity own
  obtain ⟨n,hn,rfl⟩ := List.mem_map.mp hx
  obtain ⟨paid,hp,rfl⟩ := Option.map_eq_some_iff.mp own
  obtain ⟨energy,price,henergy,hprice,rfl⟩ := h n hn paid hp
  refine ⟨centsHalfUp energy,centsHalfUp price,congrArg (Option.map centsHalfUp) henergy,
    congrArg (Option.map centsHalfUp) hprice,?_⟩
  rw [centsHalfUp_of_cents (cents_centsHalfUp _),centsHalfUp_of_cents (cents_centsHalfUp energy),
    centsHalfUp_of_cents (cents_centsHalfUp price)]

/-- A confirmation that the moves posted was admitted. -/
theorem admitted_of_moves (moves : FileMoves T f g) :
    ∀ e ∈ g.entries, isConfirmation e.operationType → e ∈ f.entries ∨ T.admitted e := by
  induction moves with
  | refl => exact fun e he _ => .inl he
  | tail _ move ih =>
    intro e he kind
    cases move with
    | confirmed n m x give energy price hn confirmed new about type delta place named cause =>
      rcases List.mem_append.mp he with old | last
      · exact ih e old kind
      · cases List.mem_singleton.mp last
        exact .inr cause
    | paid n m x energy price hn paid pays cause =>
      rcases List.mem_append.mp he with old | last
      · exact ih e old kind
      · cases List.mem_singleton.mp last
        rcases pays.2 with ⟨_,type,_⟩ | ⟨_,type,_⟩ <;> rw [type] at kind <;> cases kind
    | _ => exact ih e he kind

end Moves

/-- The rows and the effects agree, what was paid is what they come to, and all
is as the columns keep it. -/
structure Settled (w : World) : Prop where
  filed : Filed (file w.db)
  priced : Priced (file w.db)
  rounded : Rounded w.db

theorem Settled.step (env : Env) {w : World} {turn : Turn} (h : Settled w) (ok : Steadily w turn) :
    Settled (Negotiations.step env w turn) := by
  refine ⟨step_filed env h.filed turn,?_,step_rounded env h.filed h.rounded turn⟩
  rcases step_moves env h.filed turn with same | ⟨db,moved,after⟩
  · rw [same]
    exact h.priced
  · rw [after,file_commit]
    exact (h.priced.moves (T := terms w turn) ok moved h.filed).stored

theorem Unnegotiated.settled {w : World} (h : Unnegotiated w.db) : Settled w := by
  refine ⟨h.filed,fun n hn => ?_,h.rounded⟩
  have nobody : n ∈ w.db.diplomacy.negotiations.rows := hn
  rw [h.negotiations] at nobody
  exact absurd nobody List.not_mem_nil

theorem effects_dealt (books : Books) (id : Nat) {kind : OperationType → Bool}
    (part : ∀ type, kind type → isDealt type) : effects (dealt books) id kind = effects books.ledger id kind := by
  unfold effects dealt
  rw [List.filter_filter]
  refine List.filter_congr fun e _ => ?_
  cases counted : kind e.operationType with
  | false => rw [Bool.and_false,Bool.false_and]
  | true => rw [part _ counted,Bool.and_true]

theorem isDealt_of_isPayment {type : OperationType} (h : isPayment type) : isDealt type := by
  unfold isDealt
  rw [h,Bool.or_true]

theorem isDealt_of_isConfirmation {type : OperationType} (h : isConfirmation type) : isDealt type := by
  unfold isDealt
  rw [h,Bool.true_or]

theorem Settled.once {w : World} (h : Settled w) : Once w.db where
  energy n _ := by
    rw [← effects_dealt w.db.books n.id fun _ => isDealt_of_isConfirmation]
    exact h.filed.energyOnce n.id
  payment n _ := by
    rw [← effects_dealt w.db.books n.id fun _ => isDealt_of_isPayment]
    exact h.filed.paymentOnce n.id
  settles n hn e he about kind := by
    have there : e ∈ (file w.db).entries := List.mem_filter.mpr ⟨he,isDealt_of_isPayment kind⟩
    have explains := h.filed.owner hn there about
    obtain ⟨quantity,paid⟩ := Option.isSome_iff_exists.mp (explains.payment kind)
    obtain ⟨energy,price,henergy,hprice,amount⟩ := h.priced n hn quantity paid
    obtain ⟨energies,prices⟩ := h.rounded.amounts n hn
    rw [centsHalfUp_of_cents (energies energy henergy),centsHalfUp_of_cents (prices price hprice)]
      at amount
    refine ⟨energy,price,henergy,hprice,fun type => ?_,fun type => ?_⟩
    · unfold Explains at explains
      rw [type] at explains
      have own := explains.2.symm.trans paid
      cases own
      exact amount
    · unfold Explains at explains
      rw [type] at explains
      have own := explains.2.symm.trans paid
      cases own
      rw [← amount,neg_neg]

theorem Admitted.stored {db : Db} (rounded : Rounded db) {e : LedgerEntry} (h : Admitted db.books e) :
    Admitted db.books (StoredLedger.storedEntry e) := by
  intro sale cycle found known
  obtain ⟨capacity,hc,consumption,hk,fits⟩ := h sale cycle found known
  refine ⟨capacity,hc,consumption,hk,?_⟩
  obtain ⟨capacities,consumptions⟩ := rounded.cycles cycle (Table.mem_of_get? found)
  have sold : Cents (soldEnergy db.books e.cycleId) := by
    refine Cents.sum fun q hq => ?_
    obtain ⟨x,hx,rfl⟩ := List.mem_map.mp hq
    exact (rounded.energyDelta (List.mem_of_mem_filter hx)).neg
  have capped : Cents (max 0 (capacity - consumption)) := by
    rcases max_choice 0 (capacity - consumption) with h | h <;> rw [h]
    · exact Cents.zero
    · exact (capacities capacity hc).sub (consumptions consumption hk)
  have rounds := centsHalfUp_mono fits
  rw [centsHalfUp_of_cents (capped.sub sold),centsHalfUp_neg] at rounds
  exact rounds

theorem Settled.fits (env : Env) {w : World} (h : Settled w) (turn : Turn) : Fits env w turn := by
  intro e he new
  rcases step_moves env h.filed turn with same | ⟨db,moved,after⟩
  · rw [same] at he
    exact absurd he new
  · rw [after] at he
    obtain ⟨old,ho,rfl⟩ := List.mem_map.mp he
    intro sale
    have kind : isConfirmation old.operationType = true := by
      rw [show old.operationType = .giveConfirmed from sale]
      rfl
    have there : old ∈ (file db).entries := List.mem_filter.mpr ⟨ho,isDealt_of_isConfirmation kind⟩
    rcases admitted_of_moves moved old there kind with kept | admitted
    · have earlier := List.mem_of_mem_filter kept
      rw [h.rounded.entries old earlier] at new
      exact absurd earlier new
    · exact Admitted.stored h.rounded admitted sale

/-- The first attempt times out; the second one leaves before the first is
confirmed, and the confirmation comes twice. -/
def retried : List Turn :=
  offers "give" "r1" first ++
    [.expire (seconds 40),.retry (seconds 41),.published second (seconds 42),
      answer .give "r2" "r3" first [("energy",.int 5),("pricePerEnergy",.int 21)] (seconds 43),
      answer .give "r4" "r5" second [("energy",.int 5),("pricePerEnergy",.int 21)] (seconds 44),
      .message (Node.envelope .transfer "r6" "r7" none
        [("becauseOf",.str "r3"),("quantity",.int 105)]) (seconds 45)]

/-- A purchase that is confirmed with that energy at 20. -/
def bought (energy : ℚ) : List Turn :=
  offers "take" "r8" first ++
    [answer .take "r9" "r10" first [("energy",.float energy),("pricePerEnergy",.int 20)] (seconds 2)]

def pays : Turn → Bool
  | .message payload _ => payload.type = .take || payload.type = .transfer
  | _ => false

end NegotiationEffects

end EnergyNode
