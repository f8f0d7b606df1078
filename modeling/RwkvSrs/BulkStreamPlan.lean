import RwkvSrs.PipelineLine

/-!
The stream plan of a bulk module: rows of one identity form a stream, in input
order. Every row is in exactly one stream, and streams have distinct keys.
-/

namespace RwkvSrs.BulkStreamPlan

open Std RwkvSrs.DeterministicState RwkvSrs.NativeRnnState RwkvSrs.PipelineLine

set_option autoImplicit false

variable {V : Type}

structure BulkStream where
  key : Option Int64
  rows : List Nat
  startsExisting : Bool

structure BulkModuleStreamPlan where
  kind : SrsModule
  streams : List BulkStream
  rowToStream : List Nat

def streamKey : SrsModule → ReviewIds → Option Int64
  | .keyed entity, ids => some (entity.key ids)
  | .global, _ => none

def stateExists (rnn : NativeRnn V) : SrsModule → Option Int64 → Bool
  | .keyed entity, key => key.any (· ∈ rnn.states entity)
  | .global, _ => rnn.globalState.isSome

structure StreamBuild where
  streamIndices : ExtTreeMap (Option Int64) Nat
  streams : List BulkStream
  rowToStream : List Nat

def addRow (kind : SrsModule) (rnn : NativeRnn V) (build : StreamBuild) (row : ReviewIds × Nat) :
    StreamBuild :=
  let (ids, rowIndex) := row
  let key := streamKey kind ids
  let (build, streamIndex) := match build.streamIndices[key]? with
    | some index => (build, index)
    | none =>
        let index := build.streams.length
        ({ build with
            streamIndices := build.streamIndices.insert key index
            streams := build.streams ++ [BulkStream.mk key [] (stateExists rnn kind key)] }, index)
  { build with
    streams := build.streams.modify streamIndex fun stream =>
      { stream with rows := stream.rows ++ [rowIndex] }
    rowToStream := build.rowToStream ++ [streamIndex] }

def BulkModuleStreamPlan.fromIds (kind : SrsModule) (rnn : NativeRnn V) (ids : List ReviewIds) :
    BulkModuleStreamPlan :=
  let build := ids.zipIdx.foldl (addRow kind rnn) ⟨∅, [], []⟩
  ⟨kind, build.streams, build.rowToStream⟩

/-- The rows of one identity among some reviews. -/
def rowsOf (kind : SrsModule) (ids : List ReviewIds) (key : Option Int64) : List Nat :=
  (ids.zipIdx.filter fun row => streamKey kind row.1 = key).map Prod.snd

def streamOf (kind : SrsModule) (rnn : NativeRnn V) (ids : List ReviewIds) (key : Option Int64) :
    BulkStream := ⟨key, rowsOf kind ids key, stateExists rnn kind key⟩

/-- `keys` are the stream keys in the order their first rows appeared. -/
structure Planned (kind : SrsModule) (rnn : NativeRnn V) (ids : List ReviewIds)
    (build : StreamBuild) (keys : List (Option Int64)) : Prop where
  streams : build.streams = keys.map (streamOf kind rnn ids)
  indices : ∀ key (index : Nat), build.streamIndices[key]? = some index ↔ keys[index]? = some key
  touched : ∀ key, key ∈ keys ↔ ∃ one ∈ ids, streamKey kind one = key
  counted : build.rowToStream.length = ids.length

variable {kind : SrsModule} {rnn : NativeRnn V} {ids : List ReviewIds} {build : StreamBuild}
  {keys : List (Option Int64)}

theorem rows_of_append (ids : List ReviewIds) (one : ReviewIds) (key : Option Int64) :
    rowsOf kind (ids ++ [one]) key =
      if streamKey kind one = key then rowsOf kind ids key ++ [ids.length]
      else rowsOf kind ids key := by
  rw [rowsOf, List.zipIdx_append, List.filter_append, List.map_append]
  by_cases same : streamKey kind one = key
  · simp [rowsOf, List.zipIdx_cons, same]
  · simp [rowsOf, List.zipIdx_cons, same]

theorem rows_of_absent {key : Option Int64} (absent : ∀ one ∈ ids, streamKey kind one ≠ key) :
    rowsOf kind ids key = [] := by
  rw [rowsOf, List.map_eq_nil_iff, List.filter_eq_nil_iff]
  rintro ⟨one, index⟩ member
  have within := List.fst_mem_of_mem_zipIdx member
  simpa using absent one within

theorem planned_nodup (planned : Planned kind rnn ids build keys) : keys.Nodup := by
  apply List.nodup_iff_getElem?_ne_getElem?.mpr
  intro i j less inside same
  have found : keys[i]? = some keys[i] := List.getElem?_eq_getElem (by omega)
  have one := (planned.indices keys[i] i).mpr found
  have two := (planned.indices keys[i] j).mpr (same ▸ found)
  rw [one] at two
  have equal := Option.some.inj two
  omega

/-- One more row for the streams, wherever its own stream is. -/
theorem planned_push (planned : Planned kind rnn ids build keys) {one : ReviewIds} {index : Nat}
    (found : keys[index]? = some (streamKey kind one)) :
    Planned kind rnn (ids ++ [one]) { build with
      streams := build.streams.modify index fun stream =>
        { stream with rows := stream.rows ++ [ids.length] }
      rowToStream := build.rowToStream ++ [index] } keys where
  streams := by
    rw [planned.streams]
    apply List.ext_getElem?
    intro i
    rw [List.getElem?_modify, List.getElem?_map, List.getElem?_map]
    cases at_ : keys[i]? with
    | none => rfl
    | some key =>
        by_cases same : index = i
        · subst same
          rw [found] at at_
          cases at_
          simp [streamOf, rows_of_append]
        · have other : streamKey kind one ≠ key := by
            intro equal
            rw [← equal] at at_
            have own := (planned.indices _ _).mpr found
            rw [(planned.indices _ _).mpr at_] at own
            exact same (Option.some.inj own).symm
          simp [streamOf, rows_of_append, same, other]
  indices := planned.indices
  touched key := by
    rw [planned.touched key]
    constructor
    · rintro ⟨other, member, same⟩
      exact ⟨other, by simp [member], same⟩
    · rintro ⟨other, member, same⟩
      rcases List.mem_append.mp member with before | last
      · exact ⟨other, before, same⟩
      · have here : other = one := by simpa using last
        subst here
        have within := List.mem_of_getElem? found
        exact (planned.touched key).mp (same ▸ within)
  counted := by simp [planned.counted]

theorem planned_open (planned : Planned kind rnn ids build keys) {one : ReviewIds}
    (absent : build.streamIndices[streamKey kind one]? = none) :
    Planned kind rnn (ids ++ [one]) { build with
      streamIndices := build.streamIndices.insert (streamKey kind one) build.streams.length
      streams := (build.streams ++ [BulkStream.mk (streamKey kind one) []
        (stateExists rnn kind (streamKey kind one))]).modify build.streams.length fun stream =>
          { stream with rows := stream.rows ++ [ids.length] }
      rowToStream := build.rowToStream ++ [build.streams.length] }
      (keys ++ [streamKey kind one]) := by
  have count : build.streams.length = keys.length := by rw [planned.streams, List.length_map]
  have fresh : streamKey kind one ∉ keys := by
    intro member
    obtain ⟨index, inside, same⟩ := List.getElem_of_mem member
    have found := (planned.indices (streamKey kind one) index).mpr
      (by rw [List.getElem?_eq_getElem inside, same])
    rw [absent] at found
    cases found
  have unseen : ∀ other ∈ ids, streamKey kind other ≠ streamKey kind one := by
    intro other member same
    exact fresh ((planned.touched _).mpr ⟨other, member, same⟩)
  refine ⟨?_, ?_, ?_, by simp [planned.counted]⟩
  · rw [count, planned.streams]
    apply List.ext_getElem?
    intro i
    rw [List.getElem?_modify, List.getElem?_map]
    rcases Nat.lt_trichotomy i keys.length with before | here | beyond
    · rw [List.getElem?_append_left (by simpa using before), List.getElem?_append_left before,
        List.getElem?_map]
      have other : keys.length ≠ i := by omega
      cases at_ : keys[i]? with
      | none => rfl
      | some key =>
          have different : streamKey kind one ≠ key := by
            intro equal
            exact fresh (equal ▸ List.mem_of_getElem? at_)
          simp [streamOf, rows_of_append, other, different]
    · subst here
      simp [streamOf, rows_of_append, rows_of_absent unseen]
    · rw [List.getElem?_append_right (by simp; omega), List.getElem?_append_right (by omega)]
      have outside : 0 < i - keys.length := by omega
      rw [List.getElem?_eq_none (by simp; omega), List.getElem?_eq_none (by simp; omega)]
      rfl
  · intro key index
    change (build.streamIndices.insert (streamKey kind one) build.streams.length)[key]? = _ ↔ _
    rw [Std.ExtTreeMap.getElem?_insert, count]
    by_cases same : streamKey kind one = key
    · subst same
      simp only [compare_self, if_true, Option.some.injEq]
      constructor
      · rintro rfl
        simp
      · intro found
        by_contra different
        have inside : index < keys.length := by
          have := (List.getElem?_eq_some_iff.mp found).1
          rw [List.length_append] at this
          simp only [List.length_cons, List.length_nil] at this
          omega
        rw [List.getElem?_append_left inside] at found
        exact fresh (List.mem_of_getElem? found)
    · have unequal : compare (streamKey kind one) key ≠ .eq := by simpa using same
      rw [if_neg unequal, planned.indices]
      by_cases inside : index < keys.length
      · rw [List.getElem?_append_left inside]
      · rw [List.getElem?_append_right (by omega), List.getElem?_eq_none (by omega)]
        constructor
        · intro none
          cases none
        · intro found
          have member := List.mem_of_getElem? found
          exact absurd (by simpa using member) (Ne.symm same)
  · intro key
    rw [List.mem_append, planned.touched key]
    constructor
    · rintro (⟨other, member, same⟩ | last)
      · exact ⟨other, by simp [member], same⟩
      · exact ⟨one, by simp, by simpa using Eq.symm (List.mem_singleton.mp last)⟩
    · rintro ⟨other, member, same⟩
      rcases List.mem_append.mp member with before | last
      · exact Or.inl ⟨other, before, same⟩
      · have here : other = one := by simpa using last
        subst here
        exact Or.inr (by simp [same])

theorem planned_add (planned : Planned kind rnn ids build keys) (one : ReviewIds) :
    ∃ keys', Planned kind rnn (ids ++ [one]) (addRow kind rnn build (one, ids.length)) keys' := by
  unfold addRow
  simp only
  cases found : build.streamIndices[streamKey kind one]? with
  | some index => exact ⟨keys, planned_push planned ((planned.indices _ _).mp found)⟩
  | none => exact ⟨_, planned_open planned found⟩

theorem planned_fold (rest : List ReviewIds) (planned : Planned kind rnn ids build keys) :
    ∃ keys', Planned kind rnn (ids ++ rest)
      ((rest.zipIdx ids.length).foldl (addRow kind rnn) build) keys' := by
  induction rest generalizing ids build keys with
  | nil => exact ⟨keys, by simpa using planned⟩
  | cons one rest ih =>
      obtain ⟨keys', next⟩ := planned_add planned one
      obtain ⟨final, done⟩ := ih next
      refine ⟨final, ?_⟩
      rw [List.zipIdx_cons, List.foldl_cons]
      simpa using done

/-- Every stream of the plan has its own key and all rows of that key in input order. -/
theorem plan_streams (kind : SrsModule) (rnn : NativeRnn V) (ids : List ReviewIds) :
    ∃ keys : List (Option Int64), keys.Nodup ∧
      (BulkModuleStreamPlan.fromIds kind rnn ids).streams = keys.map (streamOf kind rnn ids) ∧
      (∀ key, key ∈ keys ↔ ∃ one ∈ ids, streamKey kind one = key) ∧
      (BulkModuleStreamPlan.fromIds kind rnn ids).rowToStream.length = ids.length := by
  have empty : Planned kind rnn [] ⟨∅, [], []⟩ [] :=
    ⟨rfl, by simp, by simp, rfl⟩
  obtain ⟨keys, planned⟩ := planned_fold ids empty
  rw [List.nil_append] at planned
  exact ⟨keys, planned_nodup planned, planned.streams, planned.touched, planned.counted⟩

end RwkvSrs.BulkStreamPlan
