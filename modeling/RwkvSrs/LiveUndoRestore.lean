import RwkvSrs.LiveUndoCover

/-!
Restoring a covering frame. The refresh deltas write their slots back first,
then the full deltas put slots and card map back. A card may be mapped to a
new slot while an old delta still waits, so the map is exact only for the
slots whose deltas are already applied, and for every slot at the end.
-/

namespace RwkvSrs.LiveUndoRestore

open Std RwkvSrs.LiveTypes RwkvSrs.LiveSessionState RwkvSrs.LiveSessionIndex
open RwkvSrs.LiveSessionRank RwkvSrs.LiveSessionSlots RwkvSrs.LiveSessionOrder
open RwkvSrs.LiveUndoFrame RwkvSrs.LiveSessionInvariant RwkvSrs.LiveUndoCover SessionFloat

set_option autoImplicit false
set_option linter.unusedSectionVars false

variable {F : Type} [SessionFloat F]

theorem refresh_deltas_restored {mark : Nat → UndoSlot}
    {deltas : List (Nat × LiveRefreshUndoValue F)} (distinct : (deltas.map Prod.fst).Nodup)
    {state : LivePredictionSessionState F} (sized : SlotsSized state)
    (inRange : ∀ slot saved, (slot, saved) ∈ deltas → mark slot = .refreshDelta →
      slot < state.candidateCount) (slots : List Nat) :
    let restored := deltas.foldl (restoreRefreshDelta mark) (state, slots)
    SlotsSized restored.1 ∧
      restored.1 = { state with
        candidates := restored.1.candidates
        predictions := restored.1.predictions
        statuses := restored.1.statuses
        eligibilities := restored.1.eligibilities } ∧
      restored.1.candidateCount = state.candidateCount ∧
      restored.2 = slots ++ (deltas.filter fun delta => mark delta.1 = .refreshDelta).map Prod.fst ∧
      (∀ slot saved, (slot, saved) ∈ deltas → mark slot = .refreshDelta →
        restored.1.value slot = saved.restoreFullValue (state.value slot)) ∧
      ∀ slot, (slot ∉ deltas.map Prod.fst ∨ mark slot ≠ .refreshDelta) →
        restored.1.value slot = state.value slot := by
  induction deltas generalizing state slots with
  | nil =>
      refine ⟨sized, rfl, rfl, by simp, ?_, fun _ _ => rfl⟩
      intro slot saved member
      cases member
  | cons delta deltas ih =>
      obtain ⟨notLater, restDistinct⟩ := List.nodup_cons.mp distinct
      by_cases marked : mark delta.1 = .refreshDelta
      · have headRange := inRange delta.1 delta.2 (by simp) marked
        have written := index_restore_refresh_value sized headRange delta.2
        set next := state.restoreRefreshValue delta.1 delta.2 with nextDef
        have nextValue : next.value =
            Function.update state.value delta.1 (delta.2.restoreFullValue (state.value delta.1)) :=
          congrArg LiveIndex.value written
        have sameCount : next.candidateCount = state.candidateCount :=
          congrArg LiveIndex.count written
        have stepped : restoreRefreshDelta mark (state, slots) delta =
            (next, slots ++ [delta.1]) := by
          unfold restoreRefreshDelta
          rw [if_neg (not_not.mpr marked)]
        obtain ⟨restSized, restShape, restCount, restSlots, restListed, restOthers⟩ :=
          ih restDistinct (restore_refresh_value_sized sized delta.1 delta.2)
            (fun slot saved member slotMarked => sameCount.symm ▸
              inRange slot saved (List.mem_cons_of_mem _ member) slotMarked) (slots ++ [delta.1])
        rw [List.foldl_cons, stepped]
        refine ⟨restSized, ?_, restCount.trans sameCount, ?_, ?_, ?_⟩
        · rw [restShape]
          rfl
        · rw [restSlots, List.filter_cons_of_pos (by simp [marked]), List.map_cons,
            List.append_assoc]
          rfl
        · intro slot saved member slotMarked
          rcases List.mem_cons.mp member with same | later
          · cases same
            rw [restOthers slot (Or.inl notLater), nextValue, Function.update_self]
          · have different : slot ≠ delta.1 := fun same =>
              notLater (same ▸ List.mem_map_of_mem later)
            rw [restListed slot saved later slotMarked, nextValue, Function.update_of_ne different]
        · intro slot outside
          have different : slot ≠ delta.1 := by
            rintro rfl
            rcases outside with absent | unmarked
            · exact absent (by simp)
            · exact unmarked marked
          rw [restOthers slot (outside.imp_left fun absent later =>
            absent (List.mem_cons_of_mem _ later)), nextValue, Function.update_of_ne different]
      · have stepped : restoreRefreshDelta mark (state, slots) delta = (state, slots) := by
          unfold restoreRefreshDelta
          rw [if_pos marked]
        obtain ⟨restSized, restShape, restCount, restSlots, restListed, restOthers⟩ :=
          ih restDistinct sized (fun slot saved member =>
            inRange slot saved (List.mem_cons_of_mem _ member)) slots
        rw [List.foldl_cons, stepped]
        refine ⟨restSized, restShape, restCount, ?_, ?_, ?_⟩
        · rw [restSlots, List.filter_cons_of_neg (by simp [marked])]
        · intro slot saved member slotMarked
          rcases List.mem_cons.mp member with same | later
          · cases same
            exact absurd slotMarked marked
          · exact restListed slot saved later slotMarked
        · intro slot outside
          exact restOthers slot (outside.imp_left fun absent later =>
            absent (List.mem_cons_of_mem _ later))

/-- The map while the full deltas `rest` still wait. -/
structure RestoringMap (origin : LiveIndex F) (rest : List Nat)
    (state : LivePredictionSessionState F) : Prop where
  found : ∀ slot, origin.Live slot → slot ∉ rest →
    state.slotByCardId[origin.card slot]? = some slot
  sound : ∀ (cardId : Int64) slot, state.slotByCardId[cardId]? = some slot → slot ∉ rest →
    origin.Live slot ∧ origin.card slot = cardId
  placed : ∀ (cardId : Int64) slot, state.slotByCardId[cardId]? = some slot →
    slot < state.candidateCount ∧ (state.candidateAt slot).cardId = cardId

/-- The value a full delta leaves in its slot. -/
def fullRestored (current : LiveCandidateValue F) : Option (LiveCandidateValue F) →
    LiveCandidateValue F
  | some value => value
  | none => removedValue current

theorem index_discard_new_slot {state : LivePredictionSessionState F} (sized : SlotsSized state)
    {slot : Nat} (inRange : slot < state.candidateCount) :
    SlotsSized (discardNewSlot state slot) ∧
      indexOf (discardNewSlot state slot) =
        let written := (indexOf state).write slot (removedValue (state.value slot))
        if state.slotByCardId[(state.candidateAt slot).cardId]? = some slot then
          written.unmap (state.candidateAt slot).cardId
        else written := by
  have bound : slot < state.statuses.length := sized.statuses ▸ inRange
  unfold discardNewSlot
  rw [if_pos bound]
  by_cases found : state.slotByCardId[(state.candidateAt slot).cardId]? = some slot
  · simp only [if_pos found]
    have unmappedSized : SlotsSized { state with
      slotByCardId := state.slotByCardId.erase (state.candidateAt slot).cardId } := sized
    exact index_removed unmappedSized inRange
  · simp only [if_neg found]
    exact index_removed sized inRange

private theorem restoring_some {origin : LiveIndex F} (originMapped : origin.Mapped)
    {state : LivePredictionSessionState F} (sized : SlotsSized state) {slot : Nat}
    {rest : List Nat} (restoring : RestoringMap origin (slot :: rest) state)
    {value : LiveCandidateValue F} (live : origin.Live slot)
    (sameCard : value.candidate.cardId = origin.card slot) (kept : value.status ≠ .removed)
    (placedCard : (state.candidateAt slot).cardId = origin.card slot)
    (inRange : slot < state.candidateCount) :
    RestoringMap origin rest (state.restoreValue slot value) := by
  have written := index_restore_value sized inRange value
  rw [if_neg kept, placedCard, sameCard] at written
  have newMap : (state.restoreValue slot value).slotByCardId =
      (state.slotByCardId.erase (origin.card slot)).insert (origin.card slot) slot :=
    congrArg LiveIndex.slotByCardId written
  have newCount : (state.restoreValue slot value).candidateCount = state.candidateCount :=
    congrArg LiveIndex.count written
  have mapRead : ∀ cardId : Int64, (state.restoreValue slot value).slotByCardId[cardId]? =
      if origin.card slot = cardId then some slot else state.slotByCardId[cardId]? := by
    intro cardId
    rw [newMap, ExtTreeMap.getElem?_insert, ExtTreeMap.getElem?_erase]
    by_cases same : origin.card slot = cardId
    · simp [same]
    · simp [same]
  have otherSlot : ∀ (cardId : Int64) other, origin.card slot ≠ cardId →
      state.slotByCardId[cardId]? = some other → other ≠ slot := by
    rintro cardId other different mapped rfl
    exact different (placedCard.symm.trans (restoring.placed cardId other mapped).2)
  constructor
  case found =>
    intro other otherLive outside
    rw [mapRead]
    by_cases same : origin.card slot = origin.card other
    · rw [if_pos same, LiveIndex.live_slot_unique originMapped live otherLive same]
    · rw [if_neg same]
      refine restoring.found other otherLive ?_
      rw [List.mem_cons, not_or]
      exact ⟨fun equal => same (equal ▸ rfl), outside⟩
  case sound =>
    intro cardId other mapped outside
    rw [mapRead] at mapped
    by_cases same : origin.card slot = cardId
    · rw [if_pos same] at mapped
      cases mapped
      exact ⟨live, same⟩
    · rw [if_neg same] at mapped
      refine restoring.sound cardId other mapped ?_
      rw [List.mem_cons, not_or]
      exact ⟨otherSlot cardId other same mapped, outside⟩
  case placed =>
    intro cardId other mapped
    have read := value_restore_value sized inRange value other
    rw [mapRead] at mapped
    rw [newCount]
    by_cases same : origin.card slot = cardId
    · rw [if_pos same] at mapped
      cases mapped
      rw [if_pos rfl] at read
      refine ⟨inRange, ?_⟩
      rw [show (state.restoreValue slot value).candidateAt slot = value.candidate from
        congrArg LiveCandidateValue.candidate read, sameCard, same]
    · rw [if_neg same] at mapped
      rw [if_neg (otherSlot cardId other same mapped)] at read
      rw [show (state.restoreValue slot value).candidateAt other = state.candidateAt other from
        congrArg LiveCandidateValue.candidate read]
      exact restoring.placed cardId other mapped

private theorem restoring_none {origin : LiveIndex F}
    {state : LivePredictionSessionState F} (sized : SlotsSized state) {slot : Nat}
    {rest : List Nat} (restoring : RestoringMap origin (slot :: rest) state)
    (absent : ¬ origin.Live slot) : RestoringMap origin rest (discardNewSlot state slot) := by
  by_cases inRange : slot < state.candidateCount
  · have written := (index_discard_new_slot sized inRange).2
    have newCount : (discardNewSlot state slot).candidateCount = state.candidateCount := by
      have counts := congrArg LiveIndex.count written
      simp only at counts
      split at counts
      · exact counts
      · exact counts
    have newValue : (discardNewSlot state slot).value =
        Function.update state.value slot (removedValue (state.value slot)) := by
      have values := congrArg LiveIndex.value written
      simp only at values
      split at values
      · exact values
      · exact values
    have sameCard : ∀ other,
        ((discardNewSlot state slot).candidateAt other).cardId = (state.candidateAt other).cardId := by
      intro other
      have read := congrFun newValue other
      rw [Function.update_apply] at read
      have field := congrArg (fun value : LiveCandidateValue F => value.candidate.cardId) read
      refine Eq.trans field ?_
      by_cases same : other = slot
      · rw [if_pos same, same]
        rfl
      · rw [if_neg same]
        rfl
    have mapRead : ∀ (cardId : Int64) other,
        (discardNewSlot state slot).slotByCardId[cardId]? = some other ↔
          state.slotByCardId[cardId]? = some other ∧ other ≠ slot := by
      intro cardId other
      have maps := congrArg LiveIndex.slotByCardId written
      simp only at maps
      rw [show (discardNewSlot state slot).slotByCardId = _ from maps]
      by_cases found : state.slotByCardId[(state.candidateAt slot).cardId]? = some slot
      · rw [if_pos found]
        change (state.slotByCardId.erase (state.candidateAt slot).cardId)[cardId]? = some other ↔ _
        rw [ExtTreeMap.getElem?_erase]
        by_cases same : (state.candidateAt slot).cardId = cardId
        · subst same
          rw [if_pos (by simp), found]
          constructor
          · intro impossible
            cases impossible
          · rintro ⟨equal, different⟩
            exact absurd (Option.some.inj equal).symm different
        · rw [if_neg (by simp [same])]
          constructor
          · intro mapped
            refine ⟨mapped, ?_⟩
            rintro rfl
            exact same (restoring.placed cardId other mapped).2
          · exact fun both => both.1
      · rw [if_neg found]
        change state.slotByCardId[cardId]? = some other ↔ _
        constructor
        · intro mapped
          refine ⟨mapped, ?_⟩
          rintro rfl
          rw [(restoring.placed cardId other mapped).2] at found
          exact found mapped
        · exact fun both => both.1
    constructor
    case found =>
      intro other otherLive outside
      have different : other ≠ slot := by
        rintro rfl
        exact absent otherLive
      rw [mapRead]
      refine ⟨restoring.found other otherLive ?_, different⟩
      rw [List.mem_cons, not_or]
      exact ⟨different, outside⟩
    case sound =>
      intro cardId other mapped outside
      obtain ⟨before, different⟩ := (mapRead cardId other).mp mapped
      refine restoring.sound cardId other before ?_
      rw [List.mem_cons, not_or]
      exact ⟨different, outside⟩
    case placed =>
      intro cardId other mapped
      obtain ⟨before, _⟩ := (mapRead cardId other).mp mapped
      rw [newCount, sameCard]
      exact restoring.placed cardId other before
  · have unchanged : discardNewSlot state slot = state := by
      unfold discardNewSlot
      rw [if_neg]
      rw [sized.statuses]
      exact inRange
    rw [unchanged]
    constructor
    case found =>
      intro other otherLive outside
      refine restoring.found other otherLive ?_
      rw [List.mem_cons, not_or]
      refine ⟨?_, outside⟩
      rintro rfl
      exact absent otherLive
    case sound =>
      intro cardId other mapped outside
      refine restoring.sound cardId other mapped ?_
      rw [List.mem_cons, not_or]
      refine ⟨?_, outside⟩
      rintro rfl
      exact inRange (restoring.placed cardId other mapped).1
    case placed => exact restoring.placed

/-- What the full deltas need of the state they are restored into. -/
structure DeltasReady (origin : LiveIndex F) (deltas : List (Nat × Option (LiveCandidateValue F)))
    (state : LivePredictionSessionState F) : Prop where
  distinct : (deltas.map Prod.fst).Nodup
  inRange : ∀ slot ∈ deltas.map Prod.fst, slot < state.candidateCount
  saved : ∀ slot value, (slot, some value) ∈ deltas → origin.Live slot ∧
    unflagged value = unflagged (origin.value slot)
  cards : ∀ slot value, (slot, some value) ∈ deltas →
    (state.candidateAt slot).cardId = origin.card slot
  absent : ∀ slot, (slot, none) ∈ deltas → ¬ origin.Live slot

private theorem delta_restored {origin : LiveIndex F} (originMapped : origin.Mapped)
    {delta : Nat × Option (LiveCandidateValue F)}
    {deltas : List (Nat × Option (LiveCandidateValue F))} {state : LivePredictionSessionState F}
    (sized : SlotsSized state) (ready : DeltasReady origin (delta :: deltas) state)
    (restoring : RestoringMap origin (delta.1 :: deltas.map Prod.fst) state) (slots : List Nat) :
    ∃ next, restoreCandidateDelta (state, slots) delta = (next, slots ++ [delta.1]) ∧
      SlotsSized next ∧ RestoringMap origin (deltas.map Prod.fst) next ∧
      next.value = Function.update state.value delta.1 (fullRestored (state.value delta.1) delta.2) ∧
      next.candidateCount = state.candidateCount ∧
      next = { state with
        candidates := next.candidates
        slotByCardId := next.slotByCardId
        predictions := next.predictions
        normalTargets := next.normalTargets
        intradayTargets := next.intradayTargets
        tieBreakers := next.tieBreakers
        randomKeys := next.randomKeys
        statuses := next.statuses
        eligibilities := next.eligibilities } := by
  obtain ⟨slot, saved⟩ := delta
  have inRange : slot < state.candidateCount := ready.inRange slot (by simp)
  cases saved with
  | some value =>
      obtain ⟨live, same⟩ := ready.saved slot value (by simp)
      have kept : value.status ≠ .removed := by
        rw [unflagged_status same]
        exact live
      refine ⟨state.restoreValue slot value, rfl, restore_value_sized sized slot value,
        restoring_some originMapped sized restoring live (unflagged_card same) kept
          (ready.cards slot value (by simp)) inRange, ?_, List.length_set, rfl⟩
      funext other
      rw [value_restore_value sized inRange, Function.update_apply]
      rfl
  | none =>
      obtain ⟨nextSized, written⟩ := index_discard_new_slot sized inRange
      refine ⟨discardNewSlot state slot, rfl, nextSized,
        restoring_none sized restoring (ready.absent slot (by simp)), ?_, ?_, ?_⟩
      · have values := congrArg LiveIndex.value written
        simp only at values
        split at values
        · exact values
        · exact values
      · have counts := congrArg LiveIndex.count written
        simp only at counts
        split at counts
        · exact counts
        · exact counts
      · unfold discardNewSlot
        split
        · simp only
          split
          · rfl
          · rfl
        · rfl

theorem full_deltas_restored {origin : LiveIndex F} (originMapped : origin.Mapped)
    {deltas : List (Nat × Option (LiveCandidateValue F))} {state : LivePredictionSessionState F}
    (sized : SlotsSized state) (ready : DeltasReady origin deltas state)
    (restoring : RestoringMap origin (deltas.map Prod.fst) state) (slots : List Nat) :
    let restored := deltas.foldl restoreCandidateDelta (state, slots)
    SlotsSized restored.1 ∧ RestoringMap origin [] restored.1 ∧
      restored.2 = slots ++ deltas.map Prod.fst ∧
      restored.1.candidateCount = state.candidateCount ∧
      (∀ slot saved, (slot, saved) ∈ deltas →
        restored.1.value slot = fullRestored (state.value slot) saved) ∧
      (∀ slot, slot ∉ deltas.map Prod.fst → restored.1.value slot = state.value slot) ∧
      restored.1 = { state with
        candidates := restored.1.candidates
        slotByCardId := restored.1.slotByCardId
        predictions := restored.1.predictions
        normalTargets := restored.1.normalTargets
        intradayTargets := restored.1.intradayTargets
        tieBreakers := restored.1.tieBreakers
        randomKeys := restored.1.randomKeys
        statuses := restored.1.statuses
        eligibilities := restored.1.eligibilities } := by
  induction deltas generalizing state slots with
  | nil =>
      refine ⟨sized, restoring, by simp, rfl, ?_, fun _ _ => rfl, rfl⟩
      intro slot saved member
      cases member
  | cons delta deltas ih =>
      obtain ⟨notLater, restDistinct⟩ := List.nodup_cons.mp ready.distinct
      obtain ⟨next, stepped, nextSized, nextRestoring, nextValue, sameCount, nextShape⟩ :=
        delta_restored originMapped sized ready restoring slots
      have nextReady : DeltasReady origin deltas next := by
        constructor
        case distinct => exact restDistinct
        case inRange =>
          intro slot member
          rw [sameCount]
          exact ready.inRange slot (List.mem_cons_of_mem _ member)
        case saved =>
          intro slot value member
          exact ready.saved slot value (List.mem_cons_of_mem _ member)
        case cards =>
          intro slot value member
          have different : slot ≠ delta.1 := fun same =>
            notLater (same ▸ List.mem_map_of_mem member)
          have read := congrFun nextValue slot
          rw [Function.update_of_ne different] at read
          rw [show next.candidateAt slot = state.candidateAt slot from
            congrArg LiveCandidateValue.candidate read]
          exact ready.cards slot value (List.mem_cons_of_mem _ member)
        case absent =>
          intro slot member
          exact ready.absent slot (List.mem_cons_of_mem _ member)
      obtain ⟨restSized, restRestoring, restSlots, restCount, restListed, restOthers, restShape⟩ :=
        ih nextSized nextReady nextRestoring (slots ++ [delta.1])
      rw [List.foldl_cons, stepped]
      refine ⟨restSized, restRestoring, ?_, restCount.trans sameCount, ?_, ?_, ?_⟩
      · rw [restSlots, List.append_assoc]
        rfl
      · intro slot saved member
        rcases List.mem_cons.mp member with same | later
        · cases same
          rw [restOthers slot notLater, nextValue, Function.update_self]
        · have different : slot ≠ delta.1 := fun same =>
            notLater (same ▸ List.mem_map_of_mem later)
          rw [restListed slot saved later, nextValue, Function.update_of_ne different]
      · intro slot outside
        rw [List.map_cons, List.mem_cons, not_or] at outside
        rw [restOthers slot outside.2, nextValue, Function.update_of_ne outside.1]
      · rw [restShape, nextShape]

end RwkvSrs.LiveUndoRestore
