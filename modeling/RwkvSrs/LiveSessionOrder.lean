import RwkvSrs.LiveSessionSlots
import Mathlib.Data.List.Sort

/-!
Order maintenance. A full rebuild and a partial merge both leave the ranked
listing of the live slots in `ordered_slots`; the merge needs the old listing
to be ranked for every slot it does not touch, and the update marks to be at
most the mark generation, which holds across the wrap of the generation.
-/

namespace RwkvSrs.LiveSessionOrder

open RwkvSrs.KeyedOrder RwkvSrs.LiveTypes RwkvSrs.LiveSessionState RwkvSrs.LiveSessionRank
open RwkvSrs.LiveSessionIndex RwkvSrs.LiveSessionSlots

set_option autoImplicit false
set_option linter.unusedSectionVars false

variable {F : Type} [SessionFloat F]

def MarksBounded (state : LivePredictionSessionState F) : Prop :=
  ∀ mark ∈ state.updateMarks, mark ≤ state.updateMarkGeneration

private theorem below_advanced {mark generation : UInt64} (bounded : mark ≤ generation)
    (noWrap : generation + 1 ≠ 0) : mark < generation + 1 := by
  rw [UInt64.lt_iff_toNat_lt, UInt64.toNat_add]
  rw [UInt64.le_iff_toNat_le] at bounded
  have apart : (generation + 1).toNat ≠ 0 := fun zero => noWrap (UInt64.toNat_inj.mp zero)
  rw [UInt64.toNat_add] at apart
  have limit := generation.toNat_lt
  have one : (1 : UInt64).toNat = 1 := rfl
  omega

theorem advance_mark_shape (state : LivePredictionSessionState F) :
    ∃ marks generation, state.advanceUpdateMark =
        { state with updateMarks := marks, updateMarkGeneration := generation } ∧
      marks.length = state.updateMarks.length := by
  unfold LivePredictionSessionState.advanceUpdateMark
  by_cases wrapped : state.updateMarkGeneration + 1 = 0
  · simp only [wrapped, if_true]
    exact ⟨_, _, rfl, List.length_map _⟩
  · simp only [wrapped, if_false]
    exact ⟨_, _, rfl, rfl⟩

theorem advance_mark_strict {state : LivePredictionSessionState F} (bounded : MarksBounded state) :
    (∀ mark ∈ state.advanceUpdateMark.updateMarks,
        mark < state.advanceUpdateMark.updateMarkGeneration) ∧
      state.advanceUpdateMark.updateMarkGeneration ≠ 0 := by
  unfold LivePredictionSessionState.advanceUpdateMark
  by_cases wrapped : state.updateMarkGeneration + 1 = 0
  · simp only [wrapped, if_true]
    refine ⟨?_, by decide⟩
    intro mark member
    obtain ⟨_, _, rfl⟩ := List.mem_map.mp member
    decide
  · simp only [wrapped, if_false]
    exact ⟨fun mark member => below_advanced (bounded mark member) wrapped, wrapped⟩

/-- A new mark generation is carried by no slot, also right after the wrap. -/
theorem advance_unmarked {state : LivePredictionSessionState F} (bounded : MarksBounded state)
    (slot : Nat) : state.advanceUpdateMark.marked slot = false := by
  obtain ⟨strict, nonzero⟩ := advance_mark_strict bounded
  unfold LivePredictionSessionState.marked LivePredictionSessionState.updateMark
  rw [beq_eq_false_iff_ne]
  by_cases inRange : slot < state.advanceUpdateMark.updateMarks.length
  · rw [List.getD_eq_getElem _ _ inRange]
    exact (UInt64.ne_of_lt (strict _ (List.getElem_mem inRange)))
  · rw [List.getD_eq_default _ _ (by omega)]
    exact nonzero.symm

theorem advance_mark_bounded {state : LivePredictionSessionState F} (bounded : MarksBounded state) :
    MarksBounded state.advanceUpdateMark := fun mark member =>
  UInt64.le_of_lt ((advance_mark_strict bounded).1 mark member)

theorem set_all_length (slots : List Nat) (mark : UInt64) (marks : List UInt64) :
    (slots.foldl (fun marks slot => marks.set slot mark) marks).length = marks.length := by
  induction slots generalizing marks with
  | nil => rfl
  | cons slot slots ih => rw [List.foldl_cons, ih, List.length_set]

theorem set_all_getD (slots : List Nat) (mark : UInt64) (marks : List UInt64)
    (inRange : ∀ slot ∈ slots, slot < marks.length) (other : Nat) :
    (slots.foldl (fun marks slot => marks.set slot mark) marks).getD other 0 =
      if other ∈ slots then mark else marks.getD other 0 := by
  induction slots generalizing marks with
  | nil => simp
  | cons slot slots ih =>
      have slotRange : slot < marks.length := inRange slot (by simp)
      rw [List.foldl_cons, ih _ (by
        intro later member
        rw [List.length_set]
        exact inRange later (List.mem_cons_of_mem _ member)), getD_set slotRange]
      by_cases later : other ∈ slots
      · simp [later]
      · by_cases same : other = slot
        · simp [same]
        · simp [later, same]

theorem mark_slots_bounded {state : LivePredictionSessionState F} (bounded : MarksBounded state)
    (slots : List Nat) : MarksBounded (state.markSlots slots) := by
  have step : ∀ (rest : List Nat) (marks : List UInt64),
      (∀ mark ∈ marks, mark ≤ state.updateMarkGeneration) →
      ∀ mark ∈ rest.foldl (fun marks slot => marks.set slot state.updateMarkGeneration) marks,
        mark ≤ state.updateMarkGeneration := by
    intro rest
    induction rest with
    | nil => intro marks below; exact below
    | cons slot rest ih =>
        intro marks below
        apply ih
        intro mark member
        rcases List.mem_or_eq_of_mem_set member with old | new
        · exact below mark old
        · exact new ▸ UInt64.le_refl _
  exact step slots state.updateMarks bounded

theorem marked_after_mark {state : LivePredictionSessionState F} (bounded : MarksBounded state)
    {slots : List Nat} (inRange : ∀ slot ∈ slots, slot < state.updateMarks.length) (slot : Nat) :
    (state.advanceUpdateMark.markSlots slots).marked slot = decide (slot ∈ slots) := by
  have fresh := advance_unmarked bounded slot
  obtain ⟨marks, generation, shape, sameLength⟩ := advance_mark_shape state
  unfold LivePredictionSessionState.marked LivePredictionSessionState.updateMark
    LivePredictionSessionState.markSlots at *
  rw [shape] at fresh ⊢
  simp only at fresh ⊢
  rw [set_all_getD slots generation marks (sameLength ▸ inRange)]
  by_cases member : slot ∈ slots
  · simp [member]
  · simp only [member, if_false, decide_false]
    exact fresh

theorem rank_index (state : LivePredictionSessionState F) :
    (indexOf state).rank = slotKey state := rfl

private theorem rebuild_sorts (state : LivePredictionSessionState F) :
    state.rebuildOrder.orderedSlots = sortByKey (slotKey state)
      ((List.range state.statuses.length).filter fun slot => state.status slot != .removed) := by
  have relation : (fun left right => state.compareSlots left right ≠ .gt) =
      fun left right => slotKey state left ≤ slotKey state right := by
    funext left right
    rw [ne_eq, compare_slots_greater, not_lt]
  unfold LivePredictionSessionState.rebuildOrder sortByKey
  simp only [relation]

private theorem distinct_keys {index : LiveIndex F} (mapped : index.Mapped) {slots : List Nat}
    (distinct : slots.Nodup) (live : ∀ slot ∈ slots, index.Live slot) :
    slots.Pairwise fun left right => index.rank left ≠ index.rank right := by
  refine List.Pairwise.imp_of_mem ?_ distinct
  intro left right leftMember rightMember different same
  exact different (LiveIndex.rank_separates mapped (live left leftMember) (live right rightMember) same)

theorem rebuild_ordered {state : LivePredictionSessionState F} (sized : SlotsSized state)
    (mapped : (indexOf state).Mapped) : (indexOf state).Ordered state.rebuildOrder.orderedSlots := by
  have listed : ∀ slot, slot ∈ (List.range state.statuses.length).filter
      (fun slot => state.status slot != .removed) ↔ (indexOf state).Live slot := by
    intro slot
    rw [List.mem_filter, List.mem_range, bne_iff_ne]
    constructor
    · intro both
      exact both.2
    · intro live
      exact ⟨sized.statuses ▸ LiveIndex.live_in_range mapped live, live⟩
  have distinct := distinct_keys mapped (List.nodup_range.filter _)
    fun slot member => (listed slot).mp member
  rw [rebuild_sorts]
  exact {
    ranked := sort_by_key_ranked _ _ distinct
    listed := fun slot => (mem_sort_by_key _ _ slot).trans (listed slot) }

private theorem updated_entries (state : LivePredictionSessionState F) (slots : List Nat) :
    (slots.map fun slot => RankEntry.mk (state.rankKey slot) slot).insertionSort
        (fun left right => state.compareRankEntries left right ≠ .gt) =
      (sortByKey (slotKey state) slots).map fun slot => RankEntry.mk (state.rankKey slot) slot := by
  have agrees : ∀ left ∈ slots, ∀ right ∈ slots,
      (slotKey state left ≤ slotKey state right ↔
        state.compareRankEntries ⟨state.rankKey left, left⟩ ⟨state.rankKey right, right⟩ ≠ .gt) := by
    intro left _ right _
    rw [ne_eq, compare_entries_greater state _ _ (current_entry state left)
      (current_entry state right), not_lt]
  exact (List.map_insertionSort _ _ _ _ agrees).symm

theorem update_order_shape (state : LivePredictionSessionState F) (updatedSlots : List Nat)
    (forceRebuild : Bool) :
    ∃ orderedSlots marks generation, state.updateOrderAfterRefresh updatedSlots forceRebuild =
      { state with
        orderedSlots := orderedSlots
        updateMarks := marks
        updateMarkGeneration := generation } ∧ marks.length = state.updateMarks.length := by
  unfold LivePredictionSessionState.updateOrderAfterRefresh
  by_cases rebuilt : state.prefersRebuild updatedSlots forceRebuild = true
  · rw [if_pos rebuilt]
    exact ⟨_, _, _, rfl, rfl⟩
  · rw [if_neg rebuilt]
    obtain ⟨marks, generation, shape, sameLength⟩ := advance_mark_shape state
    unfold LivePredictionSessionState.mergeUpdatedOrder
    rw [shape]
    exact ⟨_, _, _, rfl, (set_all_length _ _ _).trans sameLength⟩

theorem index_update_order (state : LivePredictionSessionState F) (updatedSlots : List Nat)
    (forceRebuild : Bool) :
    indexOf (state.updateOrderAfterRefresh updatedSlots forceRebuild) = indexOf state := by
  obtain ⟨_, _, _, shape, _⟩ := update_order_shape state updatedSlots forceRebuild
  rw [shape]
  rfl

theorem update_order_sized {state : LivePredictionSessionState F} (sized : SlotsSized state)
    (updatedSlots : List Nat) (forceRebuild : Bool) :
    SlotsSized (state.updateOrderAfterRefresh updatedSlots forceRebuild) := by
  obtain ⟨_, _, _, shape, sameLength⟩ := update_order_shape state updatedSlots forceRebuild
  obtain ⟨predictions, normal, intraday, ties, randoms, statuses, eligibilities, marks⟩ := sized
  rw [shape]
  exact ⟨predictions, normal, intraday, ties, randoms, statuses, eligibilities,
    sameLength.trans marks⟩

theorem update_order_bounded {state : LivePredictionSessionState F} (bounded : MarksBounded state)
    (updatedSlots : List Nat) (forceRebuild : Bool) :
    MarksBounded (state.updateOrderAfterRefresh updatedSlots forceRebuild) := by
  unfold LivePredictionSessionState.updateOrderAfterRefresh
  by_cases rebuilt : state.prefersRebuild updatedSlots forceRebuild = true
  · rw [if_pos rebuilt]
    exact bounded
  · rw [if_neg rebuilt]
    exact mark_slots_bounded (advance_mark_bounded bounded) updatedSlots

private theorem merge_ordered {state : LivePredictionSessionState F} (sized : SlotsSized state)
    (bounded : MarksBounded state) (mapped : (indexOf state).Mapped) {before : LiveIndex F}
    (ordered : before.Ordered state.orderedSlots) (sameOrder : before.order = state.order)
    {updatedSlots : List Nat} (distinct : updatedSlots.Nodup)
    (inRange : ∀ slot ∈ updatedSlots, slot < state.candidateCount)
    (unchanged : ∀ slot, slot ∉ updatedSlots → before.value slot = state.value slot) :
    (indexOf state).Ordered (state.mergeUpdatedOrder updatedSlots).orderedSlots := by
  have markRange : ∀ slot ∈ updatedSlots, slot < state.updateMarks.length :=
    sized.updateMarks ▸ inRange
  have markedRead := marked_after_mark bounded markRange
  set current := state.advanceUpdateMark.markSlots updatedSlots with currentDef
  have sameIndex : indexOf current = indexOf state ∧
      current.orderedSlots = state.orderedSlots := by
    obtain ⟨marks, generation, shape, _⟩ := advance_mark_shape state
    rw [currentDef, shape]
    exact ⟨rfl, rfl⟩
  have sameKey : slotKey current = slotKey state := by
    rw [← rank_index, sameIndex.1, rank_index]
  have sameStatus : current.status = state.status := by
    funext slot
    exact congrArg LiveCandidateValue.status (congrFun (congrArg LiveIndex.value sameIndex.1) slot)
  -- The old listing without the updated slots keeps its keys.
  have oldRank : ∀ slot, slot ∉ updatedSlots → before.rank slot = slotKey state slot := by
    intro slot outside
    unfold LiveIndex.rank slotKey
    rw [unchanged slot outside, sameOrder]
  have oldLive : ∀ slot, slot ∉ updatedSlots → (before.Live slot ↔ (indexOf state).Live slot) := by
    intro slot outside
    unfold LiveIndex.Live
    rw [unchanged slot outside]
    rfl
  have remainingMember : ∀ slot,
      slot ∈ current.orderedSlots.filter (fun slot => !current.marked slot) ↔
        slot ∉ updatedSlots ∧ (indexOf state).Live slot := by
    intro slot
    rw [List.mem_filter, sameIndex.2, ordered.listed slot, markedRead]
    by_cases member : slot ∈ updatedSlots
    · simp [member]
    · simp [member, oldLive slot member]
  have remainingRanked : Ranked (slotKey state)
      (current.orderedSlots.filter fun slot => !current.marked slot) := by
    rw [sameIndex.2]
    refine ranked_congr ?_ (ranked_filter _ ordered.ranked)
    intro slot member
    rw [← sameIndex.2] at member
    exact oldRank slot ((remainingMember slot).mp member).1
  have updatedMember : ∀ slot,
      slot ∈ updatedSlots.filter (fun slot => current.status slot != .removed) ↔
        slot ∈ updatedSlots ∧ (indexOf state).Live slot := by
    intro slot
    rw [List.mem_filter, sameStatus, bne_iff_ne]
    rfl
  have updatedRanked := sort_by_key_ranked (indexOf state).rank _
    (distinct_keys mapped (distinct.filter fun slot => current.status slot != .removed)
      fun slot member => ((updatedMember slot).mp member).2)
  have mergedSlots : (state.mergeUpdatedOrder updatedSlots).orderedSlots =
      mergeEntries (fun old entry => current.compareSlotToRankEntry old entry != .gt)
        RankEntry.slot (current.orderedSlots.filter fun slot => !current.marked slot)
        ((sortByKey (slotKey state)
          (updatedSlots.filter fun slot => current.status slot != .removed)).map
            fun slot => RankEntry.mk (current.rankKey slot) slot) := by
    rw [← sameKey, ← updated_entries]
    rfl
  rw [mergedSlots]
  refine ⟨?_, ?_⟩
  · refine merge_entries_ranked _ _ _ _ _ remainingRanked ?_ ?_ ?_
    · rw [List.map_map]
      simp only [Function.comp_def, List.map_id']
      exact updatedRanked
    · intro old _ entry entryMember
      obtain ⟨slot, _, rfl⟩ := List.mem_map.mp entryMember
      rw [bne_iff_ne, ne_eq, compare_entry_greater current old _ (current_entry current slot),
        not_lt, sameKey]
      exact Iff.rfl
    · intro old oldMember entry entryMember sameRank
      obtain ⟨slot, slotMember, rfl⟩ := List.mem_map.mp entryMember
      have oldFacts := (remainingMember old).mp oldMember
      have slotFacts := (updatedMember slot).mp ((mem_sort_by_key _ _ slot).mp slotMember)
      have equal := LiveIndex.rank_separates mapped oldFacts.2 slotFacts.2 sameRank
      exact oldFacts.1 (equal ▸ slotFacts.1)
  · intro slot
    rw [mem_merge_entries, remainingMember, List.map_map]
    simp only [Function.comp_def, List.map_id', mem_sort_by_key, updatedMember]
    by_cases member : slot ∈ updatedSlots
    · simp [member]
    · simp [member]

/-- Whichever way the order is updated, it is the rank order afterwards. -/
theorem update_order_ordered {state : LivePredictionSessionState F} (sized : SlotsSized state)
    (bounded : MarksBounded state) (mapped : (indexOf state).Mapped) {before : LiveIndex F}
    (ordered : before.Ordered state.orderedSlots) (sameOrder : before.order = state.order)
    {updatedSlots : List Nat} (distinct : updatedSlots.Nodup)
    (inRange : ∀ slot ∈ updatedSlots, slot < state.candidateCount)
    (unchanged : ∀ slot, slot ∉ updatedSlots → before.value slot = state.value slot) :
    (indexOf state).Ordered (state.updateOrderAfterRefresh updatedSlots false).orderedSlots := by
  unfold LivePredictionSessionState.updateOrderAfterRefresh
  by_cases rebuilt : state.prefersRebuild updatedSlots false = true
  · rw [if_pos rebuilt]
    exact rebuild_ordered sized mapped
  · rw [if_neg rebuilt]
    exact merge_ordered sized bounded mapped ordered sameOrder distinct inRange unchanged

theorem forced_order_ordered {state : LivePredictionSessionState F} (sized : SlotsSized state)
    (mapped : (indexOf state).Mapped) (updatedSlots : List Nat) :
    (indexOf state).Ordered (state.updateOrderAfterRefresh updatedSlots true).orderedSlots := by
  unfold LivePredictionSessionState.updateOrderAfterRefresh
    LivePredictionSessionState.prefersRebuild
  simp only [Bool.true_or, if_true]
  exact rebuild_ordered sized mapped

end RwkvSrs.LiveSessionOrder
