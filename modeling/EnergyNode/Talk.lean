import EnergyNode.SellerOffers

/-! Two views of the outbox. The talk is its commercial part: the bids we sent
and the answers we owe. The notices are the messages of the market exchange
about our offers, with whether they are still to be sent. -/
namespace EnergyNode
open Lib

structure Talk where
  msgId : String
  idpk : String
  content : Content
  targetMsgId : Option String
  cycleId : Option String
deriving DecidableEq

def Content.commercial : Content → Bool
  | .bidRejected .. | .bidAccepted .. | .bid .. => true
  | _ => false

def OutboundMessage.talk (row : OutboundMessage) : Talk :=
  ⟨row.msgId,row.idpk,row.content,row.targetMsgId,row.cycleId⟩

namespace Outbox

def talk (outbox : Outbox) : List Talk :=
  (outbox.rows.map OutboundMessage.talk).filter fun t => t.content.commercial

theorem mem_talk {outbox : Outbox} {t : Talk} :
    t ∈ outbox.talk ↔ (∃ row ∈ outbox, row.talk = t) ∧ t.content.commercial := by
  unfold talk
  rw [List.mem_filter,List.mem_map]
  rfl

private theorem talk_append (outbox : Outbox) (row : OutboundMessage) :
    ((outbox.rows ++ [row]).map OutboundMessage.talk).filter (fun t => t.content.commercial) =
      outbox.talk ++ if row.content.commercial then [row.talk] else [] := by
  rw [List.map_append,List.filter_append,talk]
  congr 1
  by_cases h : row.content.commercial <;> simp [OutboundMessage.talk,h]

theorem talk_insert (outbox : Outbox) (row : OutboundMessage) (free) :
    talk (outbox.insert row free) =
      outbox.talk ++ if row.content.commercial then [row.talk] else [] :=
  talk_append outbox row

theorem talk_enqueue (cfg : Config) (outbox : Outbox) (draft : Draft) :
    (outbox.enqueue cfg draft).talk = outbox.talk ++ if draft.content.commercial then
      [⟨freshMsgId cfg outbox,freshIdpk cfg outbox,draft.content,draft.targetMsgId,
        draft.cycleId⟩] else [] :=
  talk_append outbox ⟨draft,freshMsgId cfg outbox,freshIdpk cfg outbox⟩

theorem talk_enqueue_other (cfg : Config) (outbox : Outbox) (draft : Draft)
    (h : draft.content.commercial = false) : (outbox.enqueue cfg draft).talk = outbox.talk := by
  rw [talk_enqueue,h,if_neg (by simp),List.append_nil]

theorem talk_mapRows (outbox : Outbox) (f : OutboundMessage → OutboundMessage) (hf)
    (h : ∀ row, (f row).talk = row.talk) : talk (outbox.mapRows f hf) = outbox.talk := by
  unfold talk Table.mapRows
  rw [List.map_map]
  congr 1
  exact List.map_congr_left fun row _ => h row

theorem talk_set (outbox : Outbox) (row : OutboundMessage)
    (h : ∀ old, outbox.get? row.msgId = some old → old.talk = row.talk) :
    talk (outbox.set row) = outbox.talk := by
  unfold talk Table.set
  rw [List.map_map]
  congr 1
  apply List.map_congr_left
  intro old hold
  simp only [Function.comp_apply]
  split
  · rename_i hk
    exact (h old (Table.get?_eq_some.mpr ⟨hold,hk⟩)).symm
  · rfl

end Outbox

theorem Content.type_of_offerEvent {content : Content} (h : SellerOffers.isOfferEvent content) :
    content.type ∈ [.offer,.offerUpdated,.offerWithdrawn] := by
  unfold SellerOffers.isOfferEvent at h
  split at h
  · simp [Content.type]
  · simp [Content.type]
  · simp [Content.type]
  · cases h

structure Notice where
  msgId : String
  content : Content
  cycleId : Option String
  dispatchable : Bool
deriving DecidableEq

/-- The connector is given only what is required and not yet published. -/
def OutboundMessage.notice (row : OutboundMessage) : Notice :=
  ⟨row.msgId,row.content,row.cycleId,row.dispatchRequired && row.status ≠ .published⟩

namespace Outbox

def notices (outbox : Outbox) : List Notice :=
  (outbox.rows.map OutboundMessage.notice).filter fun n => SellerOffers.isOfferEvent n.content

theorem mem_notices {outbox : Outbox} {n : Notice} : n ∈ outbox.notices ↔
    (∃ row ∈ outbox, row.notice = n) ∧ SellerOffers.isOfferEvent n.content := by
  unfold notices
  rw [List.mem_filter,List.mem_map]
  rfl

theorem notices_insert (outbox : Outbox) (row : OutboundMessage) (free) :
    notices (outbox.insert row free) =
      outbox.notices ++ if SellerOffers.isOfferEvent row.content then [row.notice] else [] := by
  show ((outbox.rows ++ [row]).map OutboundMessage.notice).filter _ = _
  rw [List.map_append,List.filter_append,notices]
  congr 1
  by_cases h : SellerOffers.isOfferEvent row.content <;> simp [OutboundMessage.notice,h]

theorem notices_enqueue (cfg : Config) (outbox : Outbox) (draft : Draft) :
    (outbox.enqueue cfg draft).notices =
      outbox.notices ++ if SellerOffers.isOfferEvent draft.content then
        [⟨freshMsgId cfg outbox,draft.content,draft.cycleId,
          draft.dispatchRequired && draft.status ≠ .published⟩] else [] :=
  notices_insert outbox ⟨draft,freshMsgId cfg outbox,freshIdpk cfg outbox⟩ _

theorem notices_enqueue_other (cfg : Config) (outbox : Outbox) (draft : Draft)
    (h : SellerOffers.isOfferEvent draft.content = false) :
    (outbox.enqueue cfg draft).notices = outbox.notices := by
  rw [notices_enqueue,h,if_neg (by simp),List.append_nil]

/-- Rows that stay what they are, and announcements that stay as they are. -/
theorem notices_mapRows (outbox : Outbox) (f : OutboundMessage → OutboundMessage) (hf)
    (content : ∀ row, (f row).content = row.content)
    (same : ∀ row, SellerOffers.isOfferEvent row.content → (f row).notice = row.notice) :
    notices (outbox.mapRows f hf) = outbox.notices := by
  unfold notices Table.mapRows
  rw [List.map_map,List.filter_map,List.filter_map]
  have kept : (fun n : Notice => SellerOffers.isOfferEvent n.content) ∘
      OutboundMessage.notice ∘ f = (fun n : Notice => SellerOffers.isOfferEvent n.content) ∘
        OutboundMessage.notice := by
    funext row
    exact congrArg SellerOffers.isOfferEvent (content row)
  rw [kept]
  apply List.map_congr_left
  intro row hrow
  exact same row (List.mem_filter.mp hrow).2

theorem notices_set (outbox : Outbox) (row : OutboundMessage)
    (h : ∀ old, outbox.get? row.msgId = some old → old.notice = row.notice) :
    notices (outbox.set row) = outbox.notices := by
  unfold notices Table.set
  rw [List.map_map]
  congr 1
  apply List.map_congr_left
  intro old hold
  simp only [Function.comp_apply]
  split
  · rename_i hk
    exact (h old (Table.get?_eq_some.mpr ⟨hold,hk⟩)).symm
  · rfl

end Outbox

end EnergyNode
