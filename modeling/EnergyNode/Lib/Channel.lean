import EnergyNode.Lib.Run

/-! A queue in front of a server, read by a consumer that takes a message off only
when it says so: whatever else happens the message stays and comes again. -/
namespace EnergyNode.Lib

variable {σ δ ι κ : Type}

/-- The server, what waits for it, and all that was ever sent to it. -/
structure Channel (σ δ : Type) where
  server : σ
  queue : List δ := []
  arrived : List δ := []

/-- What a delivery does to the server, and whether it takes the message off; and
what happens to the server beside the queue. -/
structure Consumer (σ δ ι κ : Type) where
  handle : σ → δ → ι → σ × Bool
  beside : σ → κ → σ

namespace Channel

inductive Act (δ ι κ : Type) where
  | arrive (d : δ)
  /-- The message at this place of the queue is delivered. -/
  | deliver (place : Nat) (how : ι)
  | beside (what : κ)

def step (consumer : Consumer σ δ ι κ) (c : Channel σ δ) : Act δ ι κ → Channel σ δ
  | .arrive d => { c with queue := c.queue ++ [d], arrived := c.arrived ++ [d] }
  | .deliver place how =>
      match c.queue[place]? with
      | none => c
      | some d =>
          let (server,off) := consumer.handle c.server d how
          { c with server := server, queue := if off then c.queue.eraseIdx place else c.queue }
  | .beside what => { c with server := consumer.beside c.server what }

/-- What is known of a message once it is off the queue, and is never unlearned. -/
structure Settles (consumer : Consumer σ δ ι κ) (Settled : σ → δ → Prop) : Prop where
  taken : ∀ s d how, (consumer.handle s d how).2 = true → Settled (consumer.handle s d how).1 d
  handled : ∀ s d e how, Settled s e → Settled (consumer.handle s d how).1 e
  beside : ∀ s e what, Settled s e → Settled (consumer.beside s what) e

/-- Nothing that arrived is lost: it waits, or it is settled. -/
def Kept (Settled : σ → δ → Prop) (c : Channel σ δ) : Prop :=
  ∀ d ∈ c.arrived, d ∈ c.queue ∨ Settled c.server d

variable {consumer : Consumer σ δ ι κ} {Settled : σ → δ → Prop} {c : Channel σ δ}

theorem mem_eraseIdx_or {l : List δ} {i : Nat} {d e : δ} (at_ : l[i]? = some d) (h : e ∈ l) :
    e ∈ l.eraseIdx i ∨ e = d := by
  obtain ⟨j,hj,rfl⟩ := List.mem_iff_getElem.mp h
  by_cases same : j = i
  · subst same
    right
    rw [List.getElem?_eq_getElem hj] at at_
    exact Option.some.inj at_
  · left
    rw [List.mem_eraseIdx_iff_getElem?]
    exact ⟨j,same,List.getElem?_eq_getElem hj⟩

theorem kept_step (h : Settles consumer Settled) (a : Act δ ι κ) (kept : Kept Settled c) :
    Kept Settled (step consumer c a) := by
  cases a with
  | arrive d =>
    intro e he
    rcases List.mem_append.mp he with old | new
    · exact (kept e old).imp_left fun waits => List.mem_append_left _ waits
    · exact .inl (List.mem_append_right _ new)
  | deliver place how =>
    unfold step
    dsimp only
    cases at_ : c.queue[place]? with
    | none => exact kept
    | some d =>
      intro e he
      dsimp only at he ⊢
      rcases kept e he with waits | settled
      · cases off : (consumer.handle c.server d how).2 with
        | false =>
          rw [if_neg Bool.false_ne_true]
          exact .inl waits
        | true =>
          rw [if_pos rfl]
          refine (mem_eraseIdx_or at_ waits).imp_right ?_
          rintro rfl
          exact h.taken _ _ _ off
      · exact .inr (h.handled _ _ _ _ settled)
  | beside what => exact fun e he => (kept e he).imp_right (h.beside _ _ _)

/-- No run loses a message. -/
theorem never_lost (h : Settles consumer Settled) (kept : Kept Settled c) (acts : List (Act δ ι κ)) :
    Always (step consumer) (Kept Settled) c acts :=
  always_of_step (fun _ a kept _ => kept_step h a kept) kept (along_true c acts)

/-- Whatever deliveries and everything beside preserve holds on every run, also of
the messages that arrived: only such a message is ever delivered. -/
theorem delivered_run (Inv : List δ → σ → Prop) (arrives : ∀ l s d, Inv l s → Inv (l ++ [d]) s)
    (handled : ∀ l s d how, d ∈ l → Inv l s → Inv l (consumer.handle s d how).1)
    (beside : ∀ l s what, Inv l s → Inv l (consumer.beside s what))
    (waiting : ∀ d ∈ c.queue, d ∈ c.arrived) (start : Inv c.arrived c.server)
    (acts : List (Act δ ι κ)) :
    Always (step consumer)
      (fun c => (∀ d ∈ c.queue, d ∈ c.arrived) ∧ Inv c.arrived c.server) c acts := by
  refine always_of_step (fun c a inv _ => ?_) ⟨waiting,start⟩ (along_true c acts)
  obtain ⟨waiting,inv⟩ := inv
  cases a with
  | arrive d =>
    refine ⟨fun e he => ?_,arrives _ _ d inv⟩
    rcases List.mem_append.mp he with old | new
    · exact List.mem_append_left _ (waiting e old)
    · exact List.mem_append_right _ new
  | deliver place how =>
    unfold step
    dsimp only
    cases at_ : c.queue[place]? with
    | none => exact ⟨waiting,inv⟩
    | some d =>
      refine ⟨fun e he => ?_,handled _ _ d how (waiting d (List.mem_of_getElem? at_)) inv⟩
      dsimp only at he
      split at he
      · exact waiting e (List.mem_of_mem_eraseIdx he)
      · exact waiting e he
  | beside what => exact ⟨waiting,beside _ _ what inv⟩

end Channel

end EnergyNode.Lib
