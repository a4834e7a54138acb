import EnergyNode.CycleMetricFacts

/-! What a delivery does, new or repeated, and the row that any run of deliveries
and refreshes leaves after a last refresh of the closed cycle. -/
namespace EnergyNode
open Lib

namespace CycleMetrics
open Ledger StoredLedger CycleAccounting

/-- The books after a fact was told for the first time. -/
structure Gains (books books' : Books) (f : Fact) : Prop where
  ordered : Ordered books'
  entries : noted books'.ledger = noted books.ledger ++ f.entry.toList
  trades : swapIds books' = swapIds books ++ f.swapId?.toList
  settlements : paidIn books' = paidIn books ++ f.paidIn?.toList
  frames : ∀ k, (books'.cycles.get? k).map frame = (books.cycles.get? k).map frame

/-- Nothing of the fact is known. -/
structure New (books : Books) (f : Fact) : Prop where
  key : f.key ∉ (noted books.ledger).map keyOf
  swapId : ∀ id, f.swapId? = some id → id ∉ swapIds books
  paidIn : ∀ id, f.paidIn? = some id → id.1 ∉ (CycleMetrics.paidIn books).map Prod.fst

section Deliveries
variable {cfg : Config} {books : Books} {cycle : Cycle} {record : SwapRecord} {t : TradeRecord}
  {s : ImbalanceSettlement}

theorem settled_new (cfg : Config) (ordered : Ordered books)
    (found : books.cycles.get? record.cycleId = some cycle) (new : New books (.settled record)) :
    ∃ books', applySwapSettled cfg books record = .ok books' ∧ Gains books books' (.settled record) := by
  unfold applySwapSettled
  rw [found]
  cases deltas : assetEffects record with
  | none =>
    refine ⟨books,rfl,ordered,?_,?_,?_,fun _ => rfl⟩
    · simp [Fact.entry,Fact.effect,deltas]
    · exact (List.append_nil _).symm
    · exact (List.append_nil _).symm
  | some d =>
    have fresh : existing? books (swapEffect record d) = none := (existing?_eq_none rfl).mpr new.key
    obtain ⟨books',rest,posted,grown⟩ := effect_new cfg ordered found fresh
    dsimp only
    rw [posted]
    refine ⟨books',rfl,grown.ordered,?_,?_,?_,grown.frames⟩
    · rw [grown.noted]
      simp [Fact.entry,Fact.effect,deltas,swapEffect,counted]
    · unfold swapIds
      rw [grown.trades]
      exact (List.append_nil _).symm
    · unfold paidIn
      rw [grown.settlements]
      exact (List.append_nil _).symm

theorem trade_new (cfg : Config) (ordered : Ordered books)
    (found : books.cycles.get? t.cycleId = some cycle) (new : New books (.trade t)) :
    ∃ books' audit, (FactRedelivery.Fact.trade t).record cfg books = .ok (books',audit) ∧
      Gains books books' (.trade t) := by
  have free : books.trades.get? t.swapId = none :=
    Table.get?_eq_none.mpr fun a ha own => new.swapId _ rfl (List.mem_map.mpr ⟨a,ha,own⟩)
  have inserted : books.trades.insert? t = some (books.trades.insert t free) :=
    Table.insert?_eq_some.mpr ⟨free,rfl⟩
  set stored : Books := { books with trades := books.trades.insert t free } with stored_
  have ordered' : Ordered stored := ⟨ordered.numbered,ordered.chronological⟩
  have ids : swapIds stored = swapIds books ++ [t.swapId] := by
    unfold swapIds
    rw [stored_,Table.rows_insert,List.map_append]
    rfl
  unfold FactRedelivery.Fact.record
  dsimp only
  rw [inserted]
  dsimp only
  rw [← stored_]
  unfold applyTradeTransport
  rw [show stored.cycles.get? t.cycleId = some cycle from found]
  cases role : t.role with
  | seller =>
    refine ⟨stored,_,rfl,ordered',?_,ids,(List.append_nil _).symm,fun _ => rfl⟩
    simp [Fact.entry,Fact.effect,role,stored_]
  | buyer =>
    have fresh : existing? stored (transportEffect t) = none := (existing?_eq_none rfl).mpr new.key
    obtain ⟨books',rest,posted,grown⟩ := effect_new cfg ordered' found fresh
    dsimp only
    rw [posted]
    refine ⟨books',_,rfl,grown.ordered,?_,?_,?_,grown.frames⟩
    · rw [grown.noted]
      simp [Fact.entry,Fact.effect,role,transportEffect,counted,stored_]
    · unfold swapIds at ids ⊢
      rw [grown.trades,ids]
      rfl
    · unfold paidIn
      rw [grown.settlements]
      exact (List.append_nil _).symm

theorem paid_new (cfg : Config) (ordered : Ordered books)
    (found : books.cycles.get? s.cycleId = some cycle) (new : New books (.settlement s)) :
    ∃ books' audit, (FactRedelivery.Fact.settlement s).record cfg books = .ok (books',audit) ∧
      Gains books books' (.settlement s) := by
  have free : books.settlements.get? s.settlementId = none := by
    refine Table.get?_eq_none.mpr fun a ha own => ?_
    apply new.paidIn _ rfl
    unfold paidIn
    rw [List.map_map]
    exact List.mem_map.mpr ⟨a,ha,own⟩
  have inserted : books.settlements.insert? s = some (books.settlements.insert s free) :=
    Table.insert?_eq_some.mpr ⟨free,rfl⟩
  set stored : Books := { books with settlements := books.settlements.insert s free } with stored_
  have ordered' : Ordered stored := ⟨ordered.numbered,ordered.chronological⟩
  have fresh : existing? stored (settlementEffect s) = none := (existing?_eq_none rfl).mpr new.key
  obtain ⟨books',posted,grown⟩ := settlement_new cfg ordered' found fresh
  unfold FactRedelivery.Fact.record
  dsimp only
  rw [inserted]
  dsimp only
  rw [← stored_,posted]
  refine ⟨books',_,rfl,grown.ordered,grown.noted,?_,?_,grown.frames⟩
  · unfold swapIds
    rw [grown.trades]
    exact (List.append_nil _).symm
  · unfold paidIn
    rw [grown.settlements,stored_,Table.rows_insert,List.map_append]
    rfl

/-! A fact told again. -/

theorem settled_again (cfg : Config) (found : books.cycles.get? record.cycleId = some cycle)
    (known : (Fact.settled record).entry ≠ none →
      (Fact.settled record).key ∈ (noted books.ledger).map keyOf) :
    applySwapSettled cfg books record = .ok books := by
  unfold applySwapSettled
  rw [found]
  cases deltas : assetEffects record with
  | none => rfl
  | some d =>
    have key := known (by simp [Fact.entry,Fact.effect,deltas])
    cases old : existing? books (swapEffect record d) with
    | none => exact absurd key ((existing?_eq_none rfl).mp old)
    | some entry =>
      have again : applyLedgerEffect cfg books (swapEffect record d) = .ok (books,entry,false) :=
        effect_again (show books.cycles.get? (swapEffect record d).cycleId = some cycle from found) old
      dsimp only
      rw [again]
      rfl

theorem trade_again (cfg : Config) (known : t.swapId ∈ swapIds books) :
    ∃ audit, (FactRedelivery.Fact.trade t).record cfg books = .ok (books,audit) := by
  obtain ⟨u,hu,own⟩ := List.mem_map.mp known
  have kept : (FactRedelivery.Fact.trade u).In books := Table.get?_of_mem hu
  exact ⟨_,FactRedelivery.Fact.record_stored kept (g := .trade t) own⟩

theorem paid_again (cfg : Config) (known : s.settlementId ∈ (paidIn books).map Prod.fst) :
    ∃ audit, (FactRedelivery.Fact.settlement s).record cfg books = .ok (books,audit) := by
  unfold paidIn at known
  rw [List.map_map] at known
  obtain ⟨r,hr,own⟩ := List.mem_map.mp known
  have kept : (FactRedelivery.Fact.settlement r).In books := Table.get?_of_mem hr
  exact ⟨_,FactRedelivery.Fact.record_stored kept (g := .settlement s) own⟩

end Deliveries

/-! ### Messages -/

section Messages
variable {cfg : Config} {db : Db} {cycle : Cycle} {f : Fact} {m : MarketExtinction.Entry}

/-- What a delivery of a fact does to the books. -/
def served (cfg : Config) (books : Books) : Fact → Result Books
  | .settled record => applySwapSettled cfg books record
  | .trade t => ((FactRedelivery.Fact.trade t).record cfg books).map Prod.fst
  | .settlement s => ((FactRedelivery.Fact.settlement s).record cfg books).map Prod.fst

/-- The fact under the envelope it came in. -/
theorem tells_served (db : Db) (tells : Tells cfg m f) : ∃ g : Fact, g.key = f.key ∧ g.cycleId = f.cycleId ∧
    g.entry = f.entry ∧ g.swapId? = f.swapId? ∧ g.paidIn? = f.paidIn? ∧
      MarketExtinction.step cfg db m = MarketExtinction.committed db (served cfg db.books g) := by
  cases f with
  | settled record =>
    cases m with
    | settled r =>
      have same : terms r = terms record := tells
      unfold terms at same
      simp only [Prod.mk.injEq] at same
      obtain ⟨idpk,swapId,cycleId,give,given,take,taken⟩ := same
      have posts : swapEffect r = swapEffect record := by
        funext deltas
        simp only [swapEffect,settlementKey,idpk,swapId,cycleId,give,take]
      refine ⟨.settled r,?_,cycleId,?_,rfl,rfl,rfl⟩
      · simp only [Fact.key,settlementKey,swapId,idpk]
      · simp only [Fact.entry,Fact.effect,assetEffects,posts,give,given,take,taken]
    | _ => exact absurd tells id
  | trade t =>
    cases m with
    | fact payload =>
      obtain ⟨u,read,same⟩ : ∃ u, FactRedelivery.factOf cfg payload = some (.trade u) ∧
        t = { u with msgId := t.msgId, idpk := t.idpk } := tells
      refine ⟨.trade u,?_,?_,?_,?_,rfl,?_⟩
      · rw [same]
        rfl
      · rw [same]
        rfl
      · rw [same]
        simp only [Fact.entry,Fact.effect]
        split <;> rfl
      · rw [same]
        rfl
      · exact congrArg (fun done => MarketExtinction.committed db (done.map Prod.fst))
          (FactRedelivery.processWalletFact_read read)
    | _ => exact absurd tells id
  | settlement s =>
    cases m with
    | fact payload =>
      obtain ⟨r,read,same⟩ : ∃ r, FactRedelivery.factOf cfg payload = some (.settlement r) ∧
        s = { r with msgId := s.msgId, idpk := s.idpk } := tells
      refine ⟨.settlement r,?_,?_,?_,rfl,?_,?_⟩
      · rw [same]
        rfl
      · rw [same]
        rfl
      · rw [same]
        rfl
      · rw [same]
        rfl
      · exact congrArg (fun done => MarketExtinction.committed db (done.map Prod.fst))
          (FactRedelivery.processWalletFact_read read)
    | _ => exact absurd tells id

theorem served_new (cfg : Config) {books : Books} (ordered : Ordered books)
    (found : books.cycles.get? f.cycleId = some cycle) (new : New books f) :
    ∃ books', served cfg books f = .ok books' ∧ Gains books books' f := by
  cases f with
  | settled record => exact settled_new cfg ordered found new
  | trade t =>
    obtain ⟨books',audit,told,gains⟩ := trade_new cfg ordered found new
    exact ⟨books',congrArg (Except.map Prod.fst) told,gains⟩
  | settlement s =>
    obtain ⟨books',audit,told,gains⟩ := paid_new cfg ordered found new
    exact ⟨books',congrArg (Except.map Prod.fst) told,gains⟩

/-- The fact was told before. -/
structure Known (books : Books) (f : Fact) : Prop where
  key : f.entry ≠ none → f.key ∈ (noted books.ledger).map keyOf
  swapId : ∀ id, f.swapId? = some id → id ∈ swapIds books
  paidIn : ∀ id, f.paidIn? = some id → id.1 ∈ (CycleMetrics.paidIn books).map Prod.fst

theorem served_again (cfg : Config) {books : Books}
    (found : books.cycles.get? f.cycleId = some cycle) (known : Known books f) :
    served cfg books f = .ok books := by
  cases f with
  | settled record => exact settled_again cfg found known.key
  | trade t =>
    obtain ⟨audit,told⟩ := trade_again cfg (known.swapId _ rfl)
    exact congrArg (Except.map Prod.fst) told
  | settlement s =>
    obtain ⟨audit,told⟩ := paid_again cfg (known.paidIn _ rfl)
    exact congrArg (Except.map Prod.fst) told

end Messages

/-! ### Commits -/

section Commits
variable {books : Books} {cycle : Cycle} {f : Fact} {k : String}

/-- Entries in cents are stored as they are. -/
theorem noted_store (cents : ∀ e ∈ noted books.ledger, Cents e.budgetDelta ∧ Cents e.energyDelta) :
    noted (store books).ledger = noted books.ledger := by
  unfold noted at cents ⊢
  rw [show (store books).ledger = books.ledger.map storedEntry from rfl,List.filter_map,List.map_map]
  apply List.map_congr_left
  intro e he
  obtain ⟨moved,delivered⟩ := cents (plain e) (List.mem_map_of_mem he)
  have budget : centsHalfUp e.budgetDelta = e.budgetDelta := centsHalfUp_of_cents moved
  have energy : centsHalfUp e.energyDelta = e.energyDelta := centsHalfUp_of_cents delivered
  show plain (storedEntry e) = plain e
  unfold plain storedEntry
  dsimp only
  rw [budget,energy]

theorem swapIds_store : swapIds (store books) = swapIds books := List.map_map ..

theorem paidIn_store : paidIn (store books) = paidIn books := List.map_map ..

theorem frame_store (stored : storedCycle cycle = cycle)
    (h : (books.cycles.get? k).map frame = some (frame cycle)) :
    ((store books).cycles.get? k).map frame = some (frame cycle) := by
  obtain ⟨c,hc,same⟩ := Option.map_eq_some_iff.mp h
  have commutes (x : Cycle) : frame (storedCycle x) = storedCycle (frame x) := by
    have zero : centsHalfUp 0 = 0 := centsHalfUp_of_cents Cents.zero
    unfold frame storedCycle
    dsimp only
    rw [zero]
  rw [get?_store,hc,Option.map_some,Option.map_some,commutes,same,← commutes,stored]

theorem Amount.cents {asset : Asset} {amount : ℚ} {d : ℚ × ℚ} (h : Amount asset amount)
    (leg : legEffect asset amount = some d) : Cents d.1 ∧ Cents d.2 := by
  cases asset with
  | cr =>
    cases leg
    exact ⟨h.2,Cents.zero⟩
  | kwh =>
    cases leg
    obtain ⟨n,_,rfl⟩ := h
    exact ⟨Cents.zero,cents_iff.mpr ⟨n * 100,by push_cast; ring⟩⟩
  | other name => cases leg

theorem entry_cents {e : LedgerEntry} (valid : f.Valid k) (he : f.entry = some e) :
    Cents e.budgetDelta ∧ Cents e.energyDelta := by
  obtain ⟨effect,posts,rfl⟩ := Option.map_eq_some_iff.mp he
  cases f with
  | settled record =>
    obtain ⟨d,deltas,rfl⟩ := Option.map_eq_some_iff.mp posts
    obtain ⟨given,hg,taken,ht,rfl⟩ : ∃ g, legEffect record.giveAsset record.giveAmount = some g ∧
        ∃ t, legEffect record.takeAsset record.takeAmount = some t ∧ (t.1 - g.1,t.2 - g.2) = d := by
      simpa [assetEffects,Option.bind_eq_some_iff] using deltas
    have give := valid.2.1.cents hg
    have take := valid.2.2.cents ht
    exact ⟨take.1.sub give.1,take.2.sub give.2⟩
  | trade t =>
    have own : (if t.role = .buyer then some (transportEffect t) else none) = some effect := posts
    split at own <;> cases own
    exact ⟨Cents.neg valid.2,Cents.zero⟩
  | settlement s =>
    cases posts
    exact ⟨valid.2,Cents.zero⟩

end Commits

/-! ### What was told and what was not -/

section Held
variable {base : Db} {books : Books} {k : String} {facts told : List Fact} {cycle : Cycle}
  {strategy : StrategyConfig} {f : Fact}

theorem key_of_entry {e : LedgerEntry} (he : f.entry = some e) : keyOf e = f.key := by
  obtain ⟨effect,posts,rfl⟩ := Option.map_eq_some_iff.mp he
  cases f with
  | settled record =>
    obtain ⟨d,_,rfl⟩ := Option.map_eq_some_iff.mp posts
    rfl
  | trade t =>
    have own : (if t.role = .buyer then some (transportEffect t) else none) = some effect := posts
    split at own <;> cases own
    rfl
  | settlement s =>
    cases posts
    rfl

theorem key_of_swapId {id : String} (h : f.swapId? = some id) : f.key = (.swapTransport,id) := by
  cases f <;> cases h
  rfl

theorem key_of_paidIn {id : String × String} (h : f.paidIn? = some id) :
    f.key = (.imbalanceSettlement,id.1) := by
  cases f <;> cases h
  rfl

theorem Holds.known (h : Holds base.books books told) (mem : f ∈ told) : Known books f where
  key posts := by
    obtain ⟨e,he⟩ := Option.ne_none_iff_exists'.mp posts
    rw [h.entries,List.map_append,← key_of_entry he]
    exact List.mem_append_right _ (List.mem_map_of_mem (List.mem_filterMap.mpr ⟨f,mem,he⟩))
  swapId id own := by
    rw [h.trades]
    exact List.mem_append_right _ (List.mem_filterMap.mpr ⟨f,mem,own⟩)
  paidIn id own := by
    rw [h.settlements,List.map_append]
    exact List.mem_append_right _ (List.mem_map_of_mem (List.mem_filterMap.mpr ⟨f,mem,own⟩))

theorem Holds.new (h : Holds base.books books told) (ready : Ready base k facts cycle strategy)
    (distinct : (facts.map Fact.key).Nodup) (own : ∀ g ∈ told, g ∈ facts) (mem : f ∈ facts)
    (untold : f ∉ told) : New books f := by
  have other {g : Fact} (hg : g ∈ told) : g.key ≠ f.key := fun same =>
    untold (List.inj_on_of_nodup_map distinct (own g hg) mem same ▸ hg)
  constructor
  · rw [h.entries,List.map_append,List.mem_append,keys_noted]
    rintro (old | new)
    · obtain ⟨e,he,key⟩ := List.mem_map.mp old
      exact ready.unused f mem (List.mem_map.mpr ⟨e,List.mem_of_mem_filter he,key⟩)
    · obtain ⟨e,he,key⟩ := List.mem_map.mp new
      obtain ⟨g,hg,entry⟩ := List.mem_filterMap.mp he
      exact other hg ((key_of_entry entry).symm.trans key)
  · intro id hid
    rw [h.trades,List.mem_append]
    rintro (old | new)
    · exact ready.untold f mem id hid old
    · obtain ⟨g,hg,same⟩ := List.mem_filterMap.mp new
      exact other hg ((key_of_swapId same).trans (key_of_swapId hid).symm)
  · intro id hid
    rw [h.settlements,List.map_append,List.mem_append]
    rintro (old | new)
    · exact ready.unsettled f mem id hid old
    · obtain ⟨p,hp,same⟩ := List.mem_map.mp new
      obtain ⟨g,hg,paid⟩ := List.mem_filterMap.mp hp
      refine other hg ?_
      rw [key_of_paidIn paid,key_of_paidIn hid,same]

theorem Holds.gains {books' : Books} (h : Holds base.books books told) (gains : Gains books books' f) :
    Holds base.books books' (told ++ [f]) where
  entries := by
    rw [gains.entries,h.entries,List.filterMap_append,List.append_assoc]
    cases he : f.entry <;> simp [he]
  trades := by
    rw [gains.trades,h.trades,List.filterMap_append,List.append_assoc]
    cases he : f.swapId? <;> simp [he]
  settlements := by
    rw [gains.settlements,h.settlements,List.filterMap_append,List.append_assoc]
    cases he : f.paidIn? <;> simp [he]

theorem Holds.store (h : Holds base.books books told) (base_ : Sound base.books)
    (valid : ∀ f ∈ told, f.Valid k) : Holds base.books (store books) told where
  entries := by
    rw [noted_store,h.entries]
    intro e he
    rw [h.entries] at he
    rcases List.mem_append.mp he with old | new
    · obtain ⟨e',he',rfl⟩ := List.mem_map.mp old
      exact base_.exact_.entry e' (List.mem_of_mem_filter he')
    · obtain ⟨g,hg,entry⟩ := List.mem_filterMap.mp new
      exact entry_cents (valid g hg) entry
  trades := swapIds_store.trans h.trades
  settlements := paidIn_store.trans h.settlements

end Held

/-! ### Runs -/

/-- What holds after some deliveries. -/
structure Reached (base : Db) (k : String) (facts : List Fact) (cycle : Cycle) (log : List Fact)
    (s : State) : Prop where
  sound : Sound s.db.books
  holds : Holds base.books s.db.books (firsts facts log)
  known : (s.db.books.cycles.get? k).map frame = some (frame cycle)
  strategies : s.db.strategies = base.strategies

section Runs
variable {cfg : Config} {base : Db} {k : String} {facts log : List Fact} {cycle : Cycle}
  {strategy : StrategyConfig} {s : State}

theorem Reached.deliver {f : Fact} {m : MarketExtinction.Entry} (base_ : Sound base.books)
    (ready : Ready base k facts cycle strategy) (stored : storedCycle cycle = cycle)
    (valid : ∀ f ∈ facts, f.Valid k) (distinct : (facts.map Fact.key).Nodup)
    (h : Reached base k facts cycle log s) (mem : f ∈ facts) (tells : Tells cfg m f) :
    Reached base k facts cycle (log ++ [f]) (turn cfg s (.deliver f m)) := by
  obtain ⟨g,key,cycleId,entry,swapId,paidIn,step⟩ := tells_served s.db tells
  obtain ⟨c,found,_⟩ := Option.map_eq_some_iff.mp h.known
  have here : s.db.books.cycles.get? g.cycleId = some c := by
    rw [cycleId,(valid f mem).1]
    exact found
  have own : ∀ g ∈ firsts facts log, g ∈ facts := fun g hg => (mem_firsts.mp hg).2
  unfold turn
  dsimp only
  rw [step]
  by_cases again : f ∈ log
  · have old := h.holds.known (mem_firsts.mpr ⟨again,mem⟩)
    have known : Known s.db.books g :=
      ⟨by rw [entry,key]; exact old.key,by rw [swapId]; exact old.swapId,
        by rw [paidIn]; exact old.paidIn⟩
    rw [served_again cfg here known]
    have same : firsts facts (log ++ [f]) = firsts facts log := by
      rw [firsts_snoc,if_neg fun new => new.2 again]
    refine ⟨h.sound.toOrdered.stored,?_,frame_store stored h.known,h.strategies⟩
    rw [same]
    exact h.holds.store base_ fun g hg => valid g (own g hg)
  · have fresh := h.holds.new ready distinct own mem fun told => again (mem_firsts.mp told).1
    have new : New s.db.books g :=
      ⟨by rw [key]; exact fresh.key,by rw [swapId]; exact fresh.swapId,
        by rw [paidIn]; exact fresh.paidIn⟩
    obtain ⟨books',done,gains⟩ := served_new cfg h.sound.toOrdered here new
    rw [done]
    have more : firsts facts (log ++ [f]) = firsts facts log ++ [f] := by
      rw [firsts_snoc,if_pos ⟨mem,again⟩]
    have gains : Gains s.db.books books' f :=
      ⟨gains.ordered,entry ▸ gains.entries,swapId ▸ gains.trades,paidIn ▸ gains.settlements,
        gains.frames⟩
    refine ⟨gains.ordered.stored,?_,frame_store stored ((gains.frames k).trans h.known),h.strategies⟩
    rw [more]
    apply (h.holds.gains gains).store base_
    intro g hg
    rcases List.mem_append.mp hg with old | new
    · exact valid g (own g old)
    · exact List.mem_singleton.mp new ▸ valid f mem

theorem turn_refresh (cfg : Config) (s : State) (cycleId : String) (now : Instant) :
    (turn cfg s (.refresh cycleId now)).db = s.db := by
  unfold turn
  dsimp only
  split <;> rfl

/-- Deliveries told facts, in any order and any number of times. -/
theorem Reached.run (base_ : Sound base.books) (ready : Ready base k facts cycle strategy)
    (stored : storedCycle cycle = cycle) (valid : ∀ f ∈ facts, f.Valid k)
    (distinct : (facts.map Fact.key).Nodup) (turns : List Turn)
    (tells : ∀ f m, .deliver f m ∈ turns → f ∈ facts ∧ Tells cfg m f)
    (h : Reached base k facts cycle log s) :
    Reached base k facts cycle (log ++ delivered turns) (Lib.run (turn cfg) s turns) := by
  induction turns generalizing s log with
  | nil => simpa [delivered] using h
  | cons t rest ih =>
    have later (f : Fact) (m : MarketExtinction.Entry) (hm : .deliver f m ∈ rest) :=
      tells f m (List.mem_cons_of_mem _ hm)
    rw [run_cons]
    cases t with
    | deliver f m =>
      obtain ⟨mem,told⟩ := tells f m (List.mem_cons_self ..)
      have first := h.deliver base_ ready stored valid distinct mem told
      have next := ih later first
      rwa [List.append_assoc] at next
    | refresh cycleId now =>
      have same := turn_refresh cfg s cycleId now
      have next : Reached base k facts cycle log (turn cfg s (.refresh cycleId now)) :=
        ⟨by rw [same]; exact h.sound,by rw [same]; exact h.holds,by rw [same]; exact h.known,
          by rw [same]; exact h.strategies⟩
      exact ih later next

end Runs

end CycleMetrics

end EnergyNode
