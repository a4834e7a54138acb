import EnergyNode.NegotiationAttempts

/-! What a transaction may do to the negotiations and to their effects on the
ledger: a few kinds of moves, and what every one of them preserves. -/
namespace EnergyNode
open Lib

namespace Negotiations
open Ledger

def isPayment (type : OperationType) : Bool := type = .paymentReceived || type = .paymentSent

/-- An effect of a negotiation. -/
def isDealt (type : OperationType) : Bool := isConfirmation type || isPayment type

/-- The negotiations, their effects on the ledger and the claimed idpks. -/
structure File where
  negotiations : Table Negotiation.idpk
  entries : List LedgerEntry
  claims : Table ProcessedIdpk.idpk

def dealt (books : Books) : List LedgerEntry := books.ledger.filter fun e => isDealt e.operationType

def file (db : Db) : File := ⟨db.diplomacy.negotiations,dealt db.books,db.processed⟩

/-- `m` is a later row of the negotiation `n`. -/
structure Same (n m : Negotiation) : Prop where
  id : m.id = n.id
  idpk : m.idpk = n.idpk
  direction : m.direction = n.direction
  cycleId : m.cycleId = n.cycleId

/-- Only the status may have moved. -/
structure Keeps (n m : Negotiation) : Prop extends Same n m where
  confirmedEnergy : m.confirmedEnergy = n.confirmedEnergy
  confirmedPrice : m.confirmedPrice = n.confirmedPrice
  paymentQuantity : m.paymentQuantity = n.paymentQuantity

/-- The status stays, or moves between the statuses other than REJECTED. -/
def Open (n m : Negotiation) : Prop := m.status = n.status ∨ n.status ≠ .rejected ∧ m.status ≠ .rejected

/-- The energy effect of a confirmation. -/
def confirms (give : Bool) (energy : ℚ) : ℚ := if give then -energy else energy

def word (give : Bool) : String := if give then "give" else "take"

def operation (give : Bool) : OperationType := if give then .giveConfirmed else .takeConfirmed

structure Confirmed (n m : Negotiation) (give : Bool) (energy price : ℚ) : Prop extends Same n m where
  word : n.direction = word give
  confirmedEnergy : m.confirmedEnergy = some energy
  confirmedPrice : m.confirmedPrice = some price
  paymentQuantity : m.paymentQuantity = n.paymentQuantity
  nonneg : 0 ≤ energy ∧ 0 ≤ price
  open_ : n.status ≠ .rejected ∧ m.status ≠ .rejected

structure Paid (n m : Negotiation) (energy price : ℚ) : Prop extends Same n m where
  confirmedEnergy : m.confirmedEnergy = n.confirmedEnergy ∧ n.confirmedEnergy = some energy
  confirmedPrice : m.confirmedPrice = n.confirmedPrice ∧ n.confirmedPrice = some price
  unpaid : n.paymentQuantity = none
  paymentQuantity : m.paymentQuantity = some (amountDue energy price)
  open_ : n.status ≠ .rejected ∧ m.status ≠ .rejected

/-- The effect that pays: sent for a purchase, received for a sale. -/
def Pays (claims : Table ProcessedIdpk.idpk) (n : Negotiation) (quantity : ℚ) (e : LedgerEntry) : Prop :=
  e.negotiationId = some n.id ∧
    (n.direction = "take" ∧ e.operationType = .paymentSent ∧ e.budgetDelta = -quantity ∨
      n.direction = "give" ∧ e.operationType = .paymentReceived ∧ e.budgetDelta = quantity ∧
        (claims.get? e.idpk).isSome)

/-- What is known of a negotiation that is refused, of an energy effect that is
posted, and of the amounts that are paid. -/
structure Terms where
  refused : Negotiation → Prop
  admitted : LedgerEntry → Prop
  priced : ℚ → ℚ → Prop

/-- One move of the file. -/
inductive FileMove (T : Terms) : File → File → Prop where
  | claimed {f : File} (row : ProcessedIdpk) (free) :
      FileMove T f { f with claims := f.claims.insert row free }
  | returned {f : File} (idpk : String)
      (unused : ∀ e ∈ f.entries, e.idpk = idpk → e.operationType = .paymentSent) :
      FileMove T f { f with claims := Ingest.removeClaim f.claims idpk }
  | opened {f : File} (n : Negotiation) (free) (unconfirmed : n.confirmedEnergy = none)
      (unpriced : n.confirmedPrice = none) (unpaid : n.paymentQuantity = none)
      (status : n.status ≠ .rejected)
      (newest : ∀ m ∈ f.negotiations, m.id < n.id) :
      FileMove T f { f with negotiations := f.negotiations.insert n free }
  | moved {f : File} (n m : Negotiation) (hn : f.negotiations.get? n.idpk = some n) (kept : Keeps n m)
      (status : Open n m) : FileMove T f { f with negotiations := f.negotiations.set m }
  | swept {f : File} (g : Negotiation → Negotiation) (hg) (kept : ∀ n, Keeps n (g n))
      (status : ∀ n, Open n (g n)) :
      FileMove T f { f with negotiations := f.negotiations.mapRows g hg }
  | refused {f : File} (n m : Negotiation) (hn : f.negotiations.get? n.idpk = some n) (kept : Keeps n m)
      (cause : T.refused n) (status : m.status = .rejected) :
      FileMove T f { f with negotiations := f.negotiations.set m }
  | confirmed {f : File} (n m : Negotiation) (e : LedgerEntry) (give : Bool) (energy price : ℚ)
      (hn : f.negotiations.get? n.idpk = some n) (confirmed : Confirmed n m give energy price)
      (new : ∀ x ∈ f.entries, x.negotiationId = some n.id → x.operationType ≠ operation give)
      (about : e.negotiationId = some n.id) (type : e.operationType = operation give)
      (delta : e.energyDelta = confirms give energy) (place : e.cycleId = n.cycleId)
      (named : (f.claims.get? e.idpk).isSome)
      (cause : T.admitted e) :
      FileMove T f { f with negotiations := f.negotiations.set m, entries := f.entries ++ [e] }
  | reconfirmed {f : File} (n m : Negotiation) (e : LedgerEntry) (give : Bool) (energy price : ℚ)
      (hn : f.negotiations.get? n.idpk = some n) (confirmed : Confirmed n m give energy price)
      (he : e ∈ f.entries) (about : e.negotiationId = some n.id)
      (type : e.operationType = operation give) (delta : e.energyDelta = confirms give energy)
      (same : n.confirmedPrice.isSome → n.confirmedPrice = some price) :
      FileMove T f { f with negotiations := f.negotiations.set m }
  | paid {f : File} (n m : Negotiation) (e : LedgerEntry) (energy price : ℚ)
      (hn : f.negotiations.get? n.idpk = some n) (paid : Paid n m energy price)
      (pays : Pays f.claims n (amountDue energy price) e) (cause : T.priced energy price) :
      FileMove T f { f with negotiations := f.negotiations.set m, entries := f.entries ++ [e] }

abbrev FileMoves (T : Terms) : File → File → Prop := Relation.ReflTransGen (FileMove T)

/-! ### What every move preserves -/

/-- The negotiation says of itself what the effect says of it. -/
def Explains (n : Negotiation) (e : LedgerEntry) : Prop :=
  match e.operationType with
  | .giveConfirmed => n.direction = "give" ∧ n.confirmedEnergy = some (-e.energyDelta)
  | .takeConfirmed => n.direction = "take" ∧ n.confirmedEnergy = some e.energyDelta
  | .paymentReceived => n.direction = "give" ∧ n.paymentQuantity = some e.budgetDelta
  | .paymentSent => n.direction = "take" ∧ n.paymentQuantity = some (-e.budgetDelta)
  | _ => False

/-- What is confirmed is never negative. -/
def Signed (n : Negotiation) : Prop :=
  (∀ energy ∈ n.confirmedEnergy, 0 ≤ energy) ∧ ∀ price ∈ n.confirmedPrice, 0 ≤ price

def effects (entries : List LedgerEntry) (id : Nat) (kind : OperationType → Bool) : List LedgerEntry :=
  entries.filter fun e => e.negotiationId = some id && kind e.operationType

/-- Every effect is one negotiation's, and a negotiation has at most one of a kind. -/
structure Filed (f : File) : Prop where
  ids : ∀ n ∈ f.negotiations, ∀ m ∈ f.negotiations, n.id = m.id → n = m
  explained : ∀ e ∈ f.entries, ∃ n ∈ f.negotiations, e.negotiationId = some n.id ∧ Explains n e
  energyOnce : ∀ id, (effects f.entries id isConfirmation).length ≤ 1
  paymentOnce : ∀ id, (effects f.entries id isPayment).length ≤ 1
  confirmed : ∀ n ∈ f.negotiations, n.confirmedEnergy.isSome →
    n.confirmedPrice.isSome ∧ ∃ e ∈ f.entries, e.negotiationId = some n.id ∧ isConfirmation e.operationType
  settled : ∀ n ∈ f.negotiations, n.paymentQuantity.isSome → n.confirmedEnergy.isSome ∧
    ∃ e ∈ f.entries, e.negotiationId = some n.id ∧ isPayment e.operationType
  claimed : ∀ e ∈ f.entries, e.operationType ≠ .paymentSent → (f.claims.get? e.idpk).isSome
  signed : ∀ n ∈ f.negotiations, Signed n

section Rows
variable {t : Table Negotiation.idpk} {n m x : Negotiation}

theorem mem_set_self (hn : t.get? n.idpk = some n) (same : Same n m) : m ∈ t.set m :=
  Table.mem_set.mpr (.inr ⟨rfl,n,Table.mem_of_get? hn,same.idpk.symm⟩)

theorem mem_set_other (hn : t.get? n.idpk = some n) (same : Same n m) (hx : x ∈ t) (ne : x ≠ n) :
    x ∈ t.set m := by
  refine Table.mem_set.mpr (.inl ⟨hx,fun key => ne ?_⟩)
  exact Table.eq_of_key hx (Table.mem_of_get? hn) (key.trans same.idpk)

theorem mem_set_cases (same : Same n m) (hx : x ∈ t.set m) : x = m ∨ x ∈ t ∧ x ≠ n := by
  rcases Table.mem_set.mp hx with ⟨old,key⟩ | ⟨new,_⟩
  · refine .inr ⟨old,?_⟩
    rintro rfl
    exact key same.idpk.symm
  · exact .inl new

end Rows

theorem Explains.congr {n m : Negotiation} {e : LedgerEntry} (direction : m.direction = n.direction)
    (energy : isConfirmation e.operationType → m.confirmedEnergy = n.confirmedEnergy)
    (payment : isPayment e.operationType → m.paymentQuantity = n.paymentQuantity) (h : Explains n e) :
    Explains m e := by
  unfold Explains at h ⊢
  cases type : e.operationType with
  | giveConfirmed | takeConfirmed =>
    rw [type] at h energy
    exact ⟨direction.trans h.1,(energy rfl).trans h.2⟩
  | paymentReceived | paymentSent =>
    rw [type] at h payment
    exact ⟨direction.trans h.1,(payment rfl).trans h.2⟩
  | _ =>
    rw [type] at h
    exact h

theorem Keeps.signed {n m : Negotiation} (kept : Keeps n m) (h : Signed n) : Signed m := by
  unfold Signed
  rw [kept.confirmedEnergy,kept.confirmedPrice]
  exact h

theorem Explains.energy {n : Negotiation} {e : LedgerEntry} (h : Explains n e)
    (kind : isConfirmation e.operationType) :
    ∃ give, n.direction = word give ∧ e.operationType = operation give ∧
      ∃ energy, n.confirmedEnergy = some energy ∧ e.energyDelta = confirms give energy := by
  unfold Explains at h
  split at h <;> rename_i type
  · exact ⟨true,h.1,type,_,h.2,by simp [confirms]⟩
  · exact ⟨false,h.1,type,_,h.2,rfl⟩
  · rw [type] at kind
    cases kind
  · rw [type] at kind
    cases kind
  · cases h

theorem Explains.payment {n : Negotiation} {e : LedgerEntry} (h : Explains n e)
    (kind : isPayment e.operationType) : n.paymentQuantity.isSome := by
  unfold Explains at h
  split at h <;> rename_i type
  · rw [type] at kind
    cases kind
  · rw [type] at kind
    cases kind
  · rw [h.2]
    rfl
  · rw [h.2]
    rfl
  · cases h

/-- An effect is one of the two kinds. -/
theorem Explains.payment_of_unconfirmed {n : Negotiation} {e : LedgerEntry} (h : Explains n e)
    (other : isConfirmation e.operationType = false) : isPayment e.operationType = true := by
  unfold Explains at h
  split at h <;> rename_i type
  · rw [type] at other
    cases other
  · rw [type] at other
    cases other
  · rw [type]
    rfl
  · rw [type]
    rfl
  · cases h

theorem word_inj {a b : Bool} (h : word a = word b) : a = b := by
  cases a <;> cases b <;> first | rfl | exact absurd h (by decide)

section Preserved
variable {T : Terms} {f g : File}

/-- The negotiation an effect is about. -/
theorem Filed.owner (h : Filed f) {n : Negotiation} (hn : n ∈ f.negotiations) {e : LedgerEntry}
    (he : e ∈ f.entries) (about : e.negotiationId = some n.id) : Explains n e := by
  obtain ⟨m,hm,same,explains⟩ := h.explained e he
  rw [about,Option.some.injEq] at same
  exact h.ids n hn m hm same ▸ explains

/-- The row of one negotiation is written, with the effects that come with it. -/
theorem Filed.write (h : Filed f) {n m : Negotiation} {added : List LedgerEntry}
    (hn : f.negotiations.get? n.idpk = some n) (same : Same n m)
    (kept : ∀ e ∈ f.entries, e.negotiationId = some n.id → Explains n e → Explains m e)
    (fresh : ∀ e ∈ added, e.negotiationId = some n.id ∧ Explains m e ∧
      (e.operationType ≠ .paymentSent → (f.claims.get? e.idpk).isSome))
    (once : ∀ kind ∈ [isConfirmation,isPayment],
      (effects f.entries n.id kind ++ added.filter fun e => kind e.operationType).length ≤ 1)
    (confirmed : m.confirmedEnergy.isSome → m.confirmedPrice.isSome ∧
      ∃ e ∈ f.entries ++ added, e.negotiationId = some n.id ∧ isConfirmation e.operationType)
    (settled : m.paymentQuantity.isSome → m.confirmedEnergy.isSome ∧
      ∃ e ∈ f.entries ++ added, e.negotiationId = some n.id ∧ isPayment e.operationType)
    (signed : Signed m) :
    Filed { f with negotiations := f.negotiations.set m, entries := f.entries ++ added } := by
  have hmem := Table.mem_of_get? hn
  have count (kind : OperationType → Bool) (hk : kind ∈ [isConfirmation,isPayment])
      (before : ∀ id, (effects f.entries id kind).length ≤ 1) (id : Nat) :
      (effects (f.entries ++ added) id kind).length ≤ 1 := by
    unfold effects
    rw [List.filter_append]
    by_cases own : id = n.id
    · subst own
      have about : (added.filter fun e => e.negotiationId = some n.id && kind e.operationType) =
          added.filter fun e => kind e.operationType :=
        List.filter_congr fun e he => by simp [(fresh e he).1]
      rw [about]
      exact once kind hk
    · have other : (added.filter fun e => e.negotiationId = some id && kind e.operationType) = [] := by
        refine List.filter_eq_nil_iff.mpr fun e he counted => own ?_
        rw [(fresh e he).1,Bool.and_eq_true,decide_eq_true_eq,Option.some.injEq] at counted
        exact counted.1.symm
      rw [other,List.append_nil]
      exact before id
  exact
    { ids := by
        intro x hx y hy eq
        rcases mem_set_cases same hx with rfl | ⟨oldx,nex⟩ <;>
          rcases mem_set_cases same hy with rfl | ⟨oldy,ney⟩
        · rfl
        · exact absurd (h.ids y oldy n hmem (eq.symm.trans same.id)) ney
        · exact absurd (h.ids x oldx n hmem (eq.trans same.id)) nex
        · exact h.ids x oldx y oldy eq
      explained := by
        intro e he
        rcases List.mem_append.mp he with old | new
        · obtain ⟨x,hx,about,explains⟩ := h.explained e old
          by_cases own : x = n
          · subst own
            exact ⟨m,mem_set_self hn same,same.id ▸ about,kept e old about explains⟩
          · exact ⟨x,mem_set_other hn same hx own,about,explains⟩
        · obtain ⟨about,explains,_⟩ := fresh e new
          exact ⟨m,mem_set_self hn same,same.id ▸ about,explains⟩
      energyOnce := count isConfirmation (List.mem_cons_self ..) h.energyOnce
      paymentOnce := count isPayment (List.mem_cons_of_mem _ (List.mem_singleton_self _)) h.paymentOnce
      confirmed := by
        intro x hx some
        rcases mem_set_cases same hx with rfl | ⟨old,_⟩
        · rw [same.id]
          exact confirmed some
        · obtain ⟨price,e,he,rest⟩ := h.confirmed x old some
          exact ⟨price,e,List.mem_append_left _ he,rest⟩
      settled := by
        intro x hx some
        rcases mem_set_cases same hx with rfl | ⟨old,_⟩
        · rw [same.id]
          exact settled some
        · obtain ⟨energy,e,he,rest⟩ := h.settled x old some
          exact ⟨energy,e,List.mem_append_left _ he,rest⟩
      claimed := by
        intro e he type
        rcases List.mem_append.mp he with old | new
        · exact h.claimed e old type
        · exact (fresh e new).2.2 type
      signed := by
        intro x hx
        rcases mem_set_cases same hx with rfl | ⟨old,_⟩
        · exact signed
        · exact h.signed x old }

/-- A negotiation may take a later row that keeps its amounts. -/
theorem Filed.keep (h : Filed f) {n m : Negotiation} (hn : f.negotiations.get? n.idpk = some n)
    (kept : Keeps n m) : Filed { f with negotiations := f.negotiations.set m } := by
  have hmem := Table.mem_of_get? hn
  have written := @Filed.write f h n m [] hn kept.toSame
    (fun _ _ _ explains => explains.congr kept.direction (fun _ => kept.confirmedEnergy)
      fun _ => kept.paymentQuantity)
    (fun _ he => absurd he List.not_mem_nil) ?once ?confirmed ?settled (kept.signed (h.signed n hmem))
  · rw [List.append_nil] at written
    exact written
  · intro kind hk
    rw [List.filter_nil,List.append_nil]
    rcases List.mem_cons.mp hk with rfl | hk
    · exact h.energyOnce n.id
    · cases List.mem_singleton.mp hk
      exact h.paymentOnce n.id
  · rw [kept.confirmedEnergy,kept.confirmedPrice,List.append_nil]
    exact h.confirmed n hmem
  · rw [kept.paymentQuantity,kept.confirmedEnergy,List.append_nil]
    exact h.settled n hmem

/-- Nothing confirms a negotiation but its own energy effect. -/
theorem Filed.unconfirmed (h : Filed f) {n : Negotiation} (hn : n ∈ f.negotiations) {give : Bool}
    (own : n.direction = word give)
    (new : ∀ x ∈ f.entries, x.negotiationId = some n.id → x.operationType ≠ operation give) :
    ∀ e ∈ f.entries, e.negotiationId = some n.id → isConfirmation e.operationType = false := by
  intro e he about
  by_contra counted
  rw [Bool.not_eq_false] at counted
  obtain ⟨other,said,type,_⟩ := (h.owner hn he about).energy counted
  exact new e he about (by rw [type,word_inj (said.symm.trans own)])

/-- A negotiation is confirmed: its first energy effect. -/
theorem Filed.confirm (h : Filed f) {n m : Negotiation} {e : LedgerEntry} {give : Bool}
    {energy price : ℚ} (hn : f.negotiations.get? n.idpk = some n)
    (confirmed : Confirmed n m give energy price)
    (new : ∀ x ∈ f.entries, x.negotiationId = some n.id → x.operationType ≠ operation give)
    (about : e.negotiationId = some n.id) (type : e.operationType = operation give)
    (delta : e.energyDelta = confirms give energy) (named : (f.claims.get? e.idpk).isSome) :
    Filed { f with negotiations := f.negotiations.set m, entries := f.entries ++ [e] } := by
  have hmem := Table.mem_of_get? hn
  have kind : isConfirmation e.operationType = true ∧ isPayment e.operationType = false := by
    rw [type]
    cases give <;> exact ⟨rfl,rfl⟩
  have none := h.unconfirmed hmem confirmed.word new
  have last : e ∈ f.entries ++ [e] := List.mem_append_right _ (List.mem_singleton_self e)
  refine h.write hn confirmed.toSame ?_ ?_ ?_ ?_ ?_ ?_
  · intro x hx named explains
    refine explains.congr confirmed.direction (fun counted => ?_) fun _ => confirmed.paymentQuantity
    rw [none x hx named] at counted
    cases counted
  · intro x hx
    cases List.mem_singleton.mp hx
    refine ⟨about,?_,fun _ => named⟩
    unfold Explains
    rw [type]
    cases give
    · exact ⟨confirmed.direction.trans confirmed.word,by rw [confirmed.confirmedEnergy,delta]; rfl⟩
    · refine ⟨confirmed.direction.trans confirmed.word,?_⟩
      rw [confirmed.confirmedEnergy,delta]
      simp [confirms]
  · intro k hk
    rcases List.mem_cons.mp hk with rfl | hk
    · have nothing : effects f.entries n.id isConfirmation = [] := by
        refine List.filter_eq_nil_iff.mpr fun x hx counted => ?_
        rw [Bool.and_eq_true,decide_eq_true_eq] at counted
        rw [none x hx counted.1] at counted
        cases counted.2
      rw [nothing,List.nil_append]
      exact List.length_filter_le _ [e]
    · cases List.mem_singleton.mp hk
      rw [List.filter_cons_of_neg (by rw [kind.2]; exact Bool.false_ne_true),List.filter_nil,
        List.append_nil]
      exact h.paymentOnce n.id
  · intro _
    rw [confirmed.confirmedPrice]
    exact ⟨rfl,e,last,about,kind.1⟩
  · intro some
    rw [confirmed.paymentQuantity] at some
    obtain ⟨_,x,hx,rest⟩ := h.settled n hmem some
    rw [confirmed.confirmedEnergy]
    exact ⟨rfl,x,List.mem_append_left _ hx,rest⟩
  · unfold Signed
    rw [confirmed.confirmedEnergy,confirmed.confirmedPrice]
    exact ⟨fun _ he => Option.some.inj he ▸ confirmed.nonneg.1,
      fun _ hp => Option.some.inj hp ▸ confirmed.nonneg.2⟩

/-- A negotiation is paid: its first payment. -/
theorem Filed.pay (h : Filed f) {n m : Negotiation} {e : LedgerEntry} {energy price : ℚ}
    (hn : f.negotiations.get? n.idpk = some n) (paid : Paid n m energy price)
    (pays : Pays f.claims n (amountDue energy price) e) :
    Filed { f with negotiations := f.negotiations.set m, entries := f.entries ++ [e] } := by
  have hmem := Table.mem_of_get? hn
  obtain ⟨about,way⟩ := pays
  have kind : isPayment e.operationType = true ∧ isConfirmation e.operationType = false := by
    rcases way with ⟨_,type,_⟩ | ⟨_,type,_⟩ <;> rw [type] <;> exact ⟨rfl,rfl⟩
  have none : ∀ x ∈ f.entries, x.negotiationId = some n.id → isPayment x.operationType = false := by
    intro x hx named
    by_contra counted
    rw [Bool.not_eq_false] at counted
    have some := (h.owner hmem hx named).payment counted
    rw [paid.unpaid] at some
    cases some
  have last : e ∈ f.entries ++ [e] := List.mem_append_right _ (List.mem_singleton_self e)
  refine h.write hn paid.toSame ?_ ?_ ?_ ?_ ?_ ?_
  · intro x hx named explains
    refine explains.congr paid.direction (fun _ => paid.confirmedEnergy.1) fun counted => ?_
    rw [none x hx named] at counted
    cases counted
  · intro x hx
    cases List.mem_singleton.mp hx
    unfold Explains
    rcases way with ⟨direction,type,delta⟩ | ⟨direction,type,delta,named⟩
    · rw [type,paid.paymentQuantity,delta,neg_neg]
      exact ⟨about,⟨paid.direction.trans direction,rfl⟩,fun ne => absurd rfl ne⟩
    · rw [type,paid.paymentQuantity,delta]
      exact ⟨about,⟨paid.direction.trans direction,rfl⟩,fun _ => named⟩
  · intro k hk
    rcases List.mem_cons.mp hk with rfl | hk
    · rw [List.filter_cons_of_neg (by rw [kind.2]; exact Bool.false_ne_true),List.filter_nil,
        List.append_nil]
      exact h.energyOnce n.id
    · cases List.mem_singleton.mp hk
      have nothing : effects f.entries n.id isPayment = [] := by
        refine List.filter_eq_nil_iff.mpr fun x hx counted => ?_
        rw [Bool.and_eq_true,decide_eq_true_eq] at counted
        rw [none x hx counted.1] at counted
        cases counted.2
      rw [nothing,List.nil_append]
      exact List.length_filter_le _ [e]
  · intro some
    rw [paid.confirmedEnergy.1] at some
    obtain ⟨price,x,hx,rest⟩ := h.confirmed n hmem some
    rw [paid.confirmedPrice.1]
    exact ⟨price,x,List.mem_append_left _ hx,rest⟩
  · intro _
    rw [paid.confirmedEnergy.1,paid.confirmedEnergy.2]
    exact ⟨rfl,e,last,about,kind.1⟩
  · unfold Signed
    rw [paid.confirmedEnergy.1,paid.confirmedPrice.1]
    exact h.signed n hmem

theorem get?_removeClaim {claims : Table ProcessedIdpk.idpk} {idpk k : String} (ne : k ≠ idpk) :
    (Ingest.removeClaim claims idpk).get? k = claims.get? k := by
  unfold Ingest.removeClaim Table.get?
  dsimp only
  rw [List.find?_filter]
  congr 1
  funext row
  by_cases own : row.idpk = k <;> simp [own,ne]

/-- A confirmation that repeats the stored effect changes no amount. -/
theorem Filed.repeats (h : Filed f) {n m : Negotiation} {e : LedgerEntry} {give : Bool}
    {energy price : ℚ} (hn : n ∈ f.negotiations) (confirmed : Confirmed n m give energy price)
    (he : e ∈ f.entries) (about : e.negotiationId = some n.id) (type : e.operationType = operation give)
    (delta : e.energyDelta = confirms give energy)
    (same : n.confirmedPrice.isSome → n.confirmedPrice = some price) : Keeps n m := by
  have kind : isConfirmation e.operationType := by
    rw [type]
    cases give <;> rfl
  obtain ⟨other,_,again,amount,stored,fixed⟩ := (h.owner hn he about).energy kind
  have way : other = give := by
    rw [type] at again
    cases other <;> cases give <;> first | rfl | cases again
  subst way
  have equal : amount = energy := by
    rw [delta] at fixed
    cases other
    · exact fixed.symm
    · exact (neg_injective fixed).symm
  refine ⟨confirmed.toSame,?_,?_,confirmed.paymentQuantity⟩
  · rw [confirmed.confirmedEnergy,stored,equal]
  · rw [confirmed.confirmedPrice]
    refine (same ?_).symm
    exact (h.confirmed n hn (by rw [stored]; rfl)).1

/-- Every row and every effect is written again, one for one. -/
structure Redrawn (g : Negotiation → Negotiation) (r : LedgerEntry → LedgerEntry) : Prop where
  same : ∀ n, Same n (g n)
  entry : ∀ e, (r e).negotiationId = e.negotiationId ∧ (r e).operationType = e.operationType ∧
    (r e).idpk = e.idpk
  explains : ∀ n e, Explains n e → Explains (g n) (r e)
  amounts : ∀ n, (g n).confirmedEnergy.isSome = n.confirmedEnergy.isSome ∧
    (g n).confirmedPrice.isSome = n.confirmedPrice.isSome ∧
      (g n).paymentQuantity.isSome = n.paymentQuantity.isSome
  signed : ∀ n, Signed n → Signed (g n)

theorem effects_map {r : LedgerEntry → LedgerEntry} (entry : ∀ e, (r e).negotiationId = e.negotiationId ∧
    (r e).operationType = e.operationType ∧ (r e).idpk = e.idpk) (entries : List LedgerEntry) (id : Nat)
    (kind : OperationType → Bool) : effects (entries.map r) id kind = (effects entries id kind).map r := by
  unfold effects
  rw [List.filter_map]
  congr 1
  refine List.filter_congr fun e _ => ?_
  rw [Function.comp_apply,(entry e).1,(entry e).2.1]

theorem Filed.redraw (h : Filed f) {g : Negotiation → Negotiation} {r : LedgerEntry → LedgerEntry}
    (hg : ∀ n, (g n).idpk = n.idpk) (drawn : Redrawn g r) :
    Filed ⟨f.negotiations.mapRows g hg,f.entries.map r,f.claims⟩ := by
  have old (x : Negotiation) (hx : x ∈ f.negotiations.mapRows g hg) : ∃ n ∈ f.negotiations, g n = x :=
    Table.mem_mapRows.mp hx
  have counted {n : Negotiation} {kind : OperationType → Bool}
      (there : ∃ e ∈ f.entries, e.negotiationId = some n.id ∧ kind e.operationType) :
      ∃ e ∈ f.entries.map r, e.negotiationId = some (g n).id ∧ kind e.operationType := by
    obtain ⟨e,he,about,type⟩ := there
    refine ⟨r e,List.mem_map_of_mem he,?_,?_⟩
    · rw [(drawn.entry e).1,(drawn.same n).id]
      exact about
    · rw [(drawn.entry e).2.1]
      exact type
  exact
    { ids := by
        intro x hx y hy same
        obtain ⟨n,hn,rfl⟩ := old x hx
        obtain ⟨m,hm,rfl⟩ := old y hy
        rw [(drawn.same n).id,(drawn.same m).id] at same
        rw [h.ids n hn m hm same]
      explained := by
        intro e he
        obtain ⟨e,old,rfl⟩ := List.mem_map.mp he
        obtain ⟨n,hn,about,explains⟩ := h.explained e old
        have moved : g n ∈ f.negotiations.mapRows g hg := Table.mem_mapRows.mpr ⟨n,hn,rfl⟩
        refine ⟨g n,moved,?_,drawn.explains n e explains⟩
        rw [(drawn.entry e).1,(drawn.same n).id]
        exact about
      energyOnce := by
        intro id
        rw [effects_map drawn.entry,List.length_map]
        exact h.energyOnce id
      paymentOnce := by
        intro id
        rw [effects_map drawn.entry,List.length_map]
        exact h.paymentOnce id
      confirmed := by
        intro x hx some
        obtain ⟨n,hn,rfl⟩ := old x hx
        rw [(drawn.amounts n).1] at some
        obtain ⟨price,there⟩ := h.confirmed n hn some
        rw [(drawn.amounts n).2.1]
        exact ⟨price,counted there⟩
      settled := by
        intro x hx some
        obtain ⟨n,hn,rfl⟩ := old x hx
        rw [(drawn.amounts n).2.2] at some
        obtain ⟨energy,there⟩ := h.settled n hn some
        rw [(drawn.amounts n).1]
        exact ⟨energy,counted there⟩
      claimed := by
        intro e he type
        obtain ⟨e,old,rfl⟩ := List.mem_map.mp he
        rw [(drawn.entry e).2.1] at type
        rw [(drawn.entry e).2.2]
        exact h.claimed e old type
      signed := by
        intro x hx
        obtain ⟨n,hn,rfl⟩ := old x hx
        exact drawn.signed n (h.signed n hn) }

theorem Filed.move (move : FileMove T f g) (h : Filed f) : Filed g := by
  cases move with
  | claimed row free =>
    refine { h with claimed := fun e he type => ?_ }
    rw [Table.get?_insert]
    split
    · rfl
    · exact h.claimed e he type
  | returned idpk unused =>
    refine { h with claimed := fun e he type => ?_ }
    rw [get?_removeClaim fun own => type (unused e he own)]
    exact h.claimed e he type
  | opened n free unconfirmed unpriced unpaid status newest =>
    have split (x : Negotiation) (hx : x ∈ f.negotiations.insert n free) : x ∈ f.negotiations ∨ x = n :=
      Table.mem_insert.mp hx
    exact
      { ids := by
          intro x hx y hy same
          rcases split x hx with oldx | rfl <;> rcases split y hy with oldy | rfl
          · exact h.ids x oldx y oldy same
          · exact absurd same (newest x oldx).ne
          · exact absurd same.symm (newest y oldy).ne
          · rfl
        explained := by
          intro e he
          obtain ⟨x,hx,rest⟩ := h.explained e he
          have kept : x ∈ f.negotiations.insert n free := Table.mem_insert.mpr (.inl hx)
          exact ⟨x,kept,rest⟩
        energyOnce := h.energyOnce
        paymentOnce := h.paymentOnce
        confirmed := by
          intro x hx some
          rcases split x hx with old | rfl
          · exact h.confirmed x old some
          · rw [unconfirmed] at some
            cases some
        settled := by
          intro x hx some
          rcases split x hx with old | rfl
          · exact h.settled x old some
          · rw [unpaid] at some
            cases some
        claimed := h.claimed
        signed := by
          intro x hx
          rcases split x hx with old | rfl
          · exact h.signed x old
          · unfold Signed
            rw [unconfirmed,unpriced]
            exact ⟨by rintro _ ⟨⟩,by rintro _ ⟨⟩⟩ }
  | moved n m hn kept status => exact h.keep hn kept
  | swept g hg kept status =>
    have redrawn : Redrawn g id :=
      { same := fun n => (kept n).toSame
        entry := fun _ => ⟨rfl,rfl,rfl⟩
        explains := fun n _ explains =>
          explains.congr (kept n).direction (fun _ => (kept n).confirmedEnergy) fun _ => (kept n).paymentQuantity
        amounts := fun n => ⟨congrArg _ (kept n).confirmedEnergy,congrArg _ (kept n).confirmedPrice,
          congrArg _ (kept n).paymentQuantity⟩
        signed := fun n => (kept n).signed }
    have swept := h.redraw hg redrawn
    rw [List.map_id] at swept
    exact swept
  | refused n m hn kept cause status => exact h.keep hn kept
  | confirmed n m e give energy price hn confirmed new about type delta place named cause =>
    exact h.confirm hn confirmed new about type delta named
  | reconfirmed n m e give energy price hn confirmed he about type delta same =>
    exact h.keep hn (h.repeats (Table.mem_of_get? hn) confirmed he about type delta same)
  | paid n m e energy price hn paid pays cause => exact h.pay hn paid pays

theorem Filed.moves (moves : FileMoves T f g) (h : Filed f) : Filed g := by
  induction moves with
  | refl => exact h
  | tail _ move ih => exact ih.move move

end Preserved

end Negotiations

end EnergyNode
