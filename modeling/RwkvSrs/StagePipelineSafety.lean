import RwkvSrs.StagePipeline

/-!
What every schedule keeps. For each thread the rows it has received and the rows
it has sent so far are related by a run of its stage, a channel holds exactly the
rows in between, and a failure anywhere in the line is possible only where the
stages, run one after the other over the whole input, fail as well.
-/

namespace RwkvSrs.StagePipelineSafety

open RwkvSrs.ResultSteps RwkvSrs.TurnRuns RwkvSrs.StagePipeline

set_option autoImplicit false

variable {Row Failure : Type} {p : Pipeline Row Failure}

def Ran (stage : Stage Row Failure) (rows outs : List Row) (state : stage.State) : Prop :=
  ∃ first, stage.start = .ok first ∧ runTurns stage.turn first rows = .ok (outs, state)

theorem stage_run_ok {stage : Stage Row Failure} {rows outs : List Row} {output : stage.Output} :
    stage.run rows = .ok (outs, output) ↔
      ∃ state, Ran stage rows outs state ∧ stage.finish state = .ok output := by
  constructor
  · intro run
    obtain ⟨first, started, run⟩ := bind_ok.mp run
    obtain ⟨⟨made, last⟩, turned, run⟩ := bind_ok.mp run
    obtain ⟨value, finished, same⟩ := bind_ok.mp run
    cases same
    exact ⟨last, ⟨first, started, turned⟩, finished⟩
  · rintro ⟨state, ⟨first, started, turned⟩, finished⟩
    exact bind_ok.mpr ⟨first, started, bind_ok.mpr ⟨(outs, state), turned,
      bind_ok.mpr ⟨output, finished, rfl⟩⟩⟩

theorem ran_append {stage : Stage Row Failure} {rows outs later made : List Row}
    {state last : stage.State} (ran : Ran stage rows outs state)
    (more : runTurns stage.turn state later = .ok (made, last)) :
    Ran stage (rows ++ later) (outs ++ made) last := by
  obtain ⟨first, started, turned⟩ := ran
  exact ⟨first, started, run_turns_append_ok.mpr ⟨outs, state, made, turned, more, rfl⟩⟩

section Stagewise

variable {rowsAt : Nat → List Row} {k : Nat}

theorem outs_of_start (whole : Stagewise p rowsAt) (inLine : k ≤ p.last) {rows outs : List Row}
    {state : (p.stage k).State} (start : rows <+: rowsAt k) (ran : Ran (p.stage k) rows outs state) :
    outs <+: rowsAt (k + 1) := by
  obtain ⟨output, run⟩ := whole.stages k inLine
  obtain ⟨last, ⟨first, started, turned⟩, _⟩ := stage_run_ok.mp run
  obtain ⟨same, started', turned'⟩ := ran
  rw [started] at started'
  cases started'
  obtain ⟨outs', state', turned'', within⟩ := run_turns_of_start turned start
  rw [turned'] at turned''
  cases turned''
  exact within

theorem turns_of_start (whole : Stagewise p rowsAt) (inLine : k ≤ p.last)
    {before batch outs : List Row} {state : (p.stage k).State}
    (start : before ++ batch <+: rowsAt k) (ran : Ran (p.stage k) before outs state) :
    ∃ made, runTurns (p.stage k).turn state batch = .ok made := by
  obtain ⟨output, run⟩ := whole.stages k inLine
  obtain ⟨last, ⟨first, started, turned⟩, _⟩ := stage_run_ok.mp run
  obtain ⟨same, started', turned'⟩ := ran
  rw [started] at started'
  cases started'
  obtain ⟨all, final, both, _⟩ := run_turns_of_start turned start
  obtain ⟨one, middle, two, first', rest, _⟩ := run_turns_append_ok.mp both
  rw [turned'] at first'
  cases first'
  exact ⟨_, rest⟩

theorem finish_of_all (whole : Stagewise p rowsAt) (inLine : k ≤ p.last) {outs : List Row}
    {state : (p.stage k).State} (ran : Ran (p.stage k) (rowsAt k) outs state) :
    outs = rowsAt (k + 1) ∧ ∃ output, (p.stage k).finish state = .ok output := by
  obtain ⟨output, run⟩ := whole.stages k inLine
  obtain ⟨last, ⟨first, started, turned⟩, finished⟩ := stage_run_ok.mp run
  obtain ⟨same, started', turned'⟩ := ran
  rw [started] at started'
  cases started'
  rw [turned] at turned'
  cases turned'
  exact ⟨rfl, output, finished⟩

end Stagewise

def rowsOf (messages : List (Except Failure Row)) : List Row :=
  messages.filterMap fun message => message.toOption

@[simp] theorem rows_of_append (messages others : List (Except Failure Row)) :
    rowsOf (messages ++ others) = rowsOf messages ++ rowsOf others := List.filterMap_append

@[simp] theorem rows_of_ok (row : Row) (messages : List (Except Failure Row)) :
    rowsOf (.ok row :: messages) = row :: rowsOf messages := rfl

@[simp] theorem rows_of_error (failure : Failure) (messages : List (Except Failure Row)) :
    rowsOf (.error failure :: messages) = rowsOf messages := rfl

@[simp] theorem rows_of_nil : rowsOf ([] : List (Except Failure Row)) = [] := rfl

section Invariant

variable (σ : System p) (received sent : Nat → List Row)

/-- Nothing more will reach thread `k`. -/
def Drained (k : Nat) : Prop :=
  k = 0 ∨ ((σ.thread (k - 1)).senderGone = true ∧ received k = sent (k - 1))

def ResultOk (k : Nat) : Except Failure (p.stage k).Output → Prop
  | .error _ => ¬ Succeeds p
  | .ok output => ∃ state, Ran (p.stage k) (received k) (sent k) state ∧
      (p.stage k).finish state = .ok output ∧ Drained σ received sent k

def AfterOk (k : Nat) : After Failure → Prop
  | .continue => True
  | .fail _ => ¬ Succeeds p
  | .finish => Drained σ received sent k

def ThreadOk (k : Nat) : Thread (p.stage k) → Prop
  | .starting => received k = [] ∧ sent k = []
  | .collecting state batch => ∃ before, received k = before ++ batch ∧
      Ran (p.stage k) before (sent k) state
  | .sending state rows after => Ran (p.stage k) (received k) (sent k ++ rows) state ∧
      (k = p.last → rows = []) ∧ AfterOk σ received sent k after
  | .failing _ => ¬ Succeeds p
  | .closing result => ResultOk σ received sent k result
  | .done result => ResultOk σ received sent k result

structure Channel (k : Nat) : Prop where
  open_ : (σ.thread (k + 1)).receiverGone = false →
    sent k = received (k + 1) ++ rowsOf (σ.queue (k + 1))
  fifo : received (k + 1) <+: sent k

structure Consistent : Prop where
  input : received 0 = p.input
  feeder : σ.queue 0 = []
  threads : ∀ k, k ≤ p.last → ThreadOk σ received sent k (σ.thread k)
  channels : ∀ k, k < p.last → Channel σ received sent k
  failures : ∀ k failure, .error failure ∈ σ.queue k →
    ¬ Succeeds p ∧ (σ.thread (k - 1)).senderGone = true

end Invariant

variable {σ τ : System p} {received sent received' sent' : Nat → List Row} {k : Nat}

theorem received_start (consistent : Consistent σ received sent) {rowsAt : Nat → List Row}
    (whole : Stagewise p rowsAt) (inLine : k ≤ p.last) : received k <+: rowsAt k := by
  induction k with
  | zero =>
      rewrite [consistent.input, ← whole.input]
      exact List.prefix_refl (rowsAt 0)
  | succ k ih =>
      have start := ih (by omega)
      apply (consistent.channels k (by omega)).fifo.trans
      have own := consistent.threads k (by omega)
      have finished : ∀ result, ResultOk σ received sent k result → sent k <+: rowsAt (k + 1) := by
        intro result ok
        cases result with
        | error failure => exact absurd ⟨rowsAt, whole⟩ ok
        | ok output =>
            obtain ⟨state, ran, _⟩ := ok
            exact outs_of_start whole (by omega) start ran
      cases thread : σ.thread k with
      | starting =>
          rw [thread] at own
          rw [own.2]
          exact List.nil_prefix
      | collecting state batch =>
          rw [thread] at own
          obtain ⟨before, split, ran⟩ := own
          rw [split] at start
          exact outs_of_start whole (by omega) ((List.prefix_append before batch).trans start) ran
      | sending state rows after =>
          rw [thread] at own
          exact (List.prefix_append (sent k) rows).trans
            (outs_of_start whole (by omega) start own.1)
      | failing failure =>
          rw [thread] at own
          exact absurd ⟨rowsAt, whole⟩ own
      | closing result =>
          rw [thread] at own
          exact finished result own
      | done result =>
          rw [thread] at own
          exact finished result own

theorem drained_all (consistent : Consistent σ received sent) {rowsAt : Nat → List Row}
    (whole : Stagewise p rowsAt) (inLine : k ≤ p.last) (drained : Drained σ received sent k) :
    received k = rowsAt k := by
  induction k with
  | zero => rw [consistent.input, whole.input]
  | succ k ih =>
      obtain ⟨gone, same⟩ := drained.resolve_left (Nat.succ_ne_zero k)
      change (σ.thread k).senderGone = true at gone
      change received (k + 1) = sent k at same
      have own := consistent.threads k (by omega)
      have finished : ∀ result, ResultOk σ received sent k result → sent k = rowsAt (k + 1) := by
        intro result ok
        cases result with
        | error failure => exact absurd ⟨rowsAt, whole⟩ ok
        | ok output =>
            obtain ⟨state, ran, _, before⟩ := ok
            rw [ih (by omega) before] at ran
            exact (finish_of_all whole (by omega) ran).1
      rw [same]
      obtain ⟨result, closing | done⟩ := returned_of_sender_gone gone
      · rw [closing] at own
        exact finished result own
      · rw [done] at own
        exact finished result own

theorem fails_of_start (inLine : k ≤ p.last) {failure : Failure}
    (failed : (p.stage k).start = .error failure) : ¬ Succeeds p := by
  rintro ⟨rowsAt, whole⟩
  obtain ⟨output, run⟩ := whole.stages k inLine
  obtain ⟨_, ⟨first, started, _⟩, _⟩ := stage_run_ok.mp run
  rw [failed] at started
  cases started

theorem fails_of_turn (consistent : Consistent σ received sent) (inLine : k ≤ p.last)
    {before batch outs : List Row} {state : (p.stage k).State} {failure : Failure}
    (split : received k = before ++ batch) (ran : Ran (p.stage k) before outs state)
    (failed : runTurns (p.stage k).turn state batch = .error failure) : ¬ Succeeds p := by
  rintro ⟨rowsAt, whole⟩
  have start := received_start consistent whole inLine
  rw [split] at start
  obtain ⟨made, turned⟩ := turns_of_start whole inLine start ran
  rw [failed] at turned
  cases turned

theorem finish_result_ok (consistent : Consistent σ received sent) (inLine : k ≤ p.last)
    {state : (p.stage k).State} (ran : Ran (p.stage k) (received k) (sent k) state)
    (drained : Drained σ received sent k) :
    ResultOk σ received sent k ((p.stage k).finish state) := by
  cases finished : (p.stage k).finish state with
  | ok output => exact ⟨state, ran, finished, drained⟩
  | error failure =>
      rintro ⟨rowsAt, whole⟩
      rw [drained_all consistent whole inLine drained] at ran
      obtain ⟨_, output, finished'⟩ := finish_of_all whole inLine ran
      rw [finished] at finished'
      cases finished'

theorem fails_of_closed (consistent : Consistent σ received sent) (next : k + 1 ≤ p.last)
    (gone : (σ.thread (k + 1)).receiverGone = true)
    (alive : (σ.thread k).senderGone = false) : ¬ Succeeds p := by
  have own := consistent.threads (k + 1) next
  obtain ⟨result, done⟩ := done_of_receiver_gone gone
  rw [done] at own
  cases result with
  | error failure => exact own
  | ok output =>
      obtain ⟨_, _, _, drained⟩ := own
      have senderGone : (σ.thread k).senderGone = true :=
        (drained.resolve_left (Nat.succ_ne_zero k)).1
      rw [alive] at senderGone
      cases senderGone

/-- The histories after a step of thread `k`; the last thread's rows count as sent when made. -/
def extend (history : Nat → List Row) (k : Nat) (rows : List Row) : Nat → List Row :=
  Function.update history k (history k ++ rows)

@[simp] theorem extend_same (history : Nat → List Row) (k : Nat) (rows : List Row) :
    extend history k rows k = history k ++ rows := by simp [extend]

theorem extend_other (history : Nat → List Row) {k j : Nat} (other : j ≠ k) (rows : List Row) :
    extend history k rows j = history j := by simp [extend, other]

@[simp] theorem extend_nil (history : Nat → List Row) (k : Nat) : extend history k [] = history := by
  simp [extend]

theorem drained_frame {j : Nat} (receivedSame : received' j = received j)
    (before : j = 0 ∨ ((σ.thread (j - 1)).senderGone = true →
      (τ.thread (j - 1)).senderGone = true ∧ sent' (j - 1) = sent (j - 1)))
    (drained : Drained σ received sent j) : Drained τ received' sent' j := by
  rcases drained with first | ⟨gone, same⟩
  · exact Or.inl first
  · rcases before with first | kept
    · exact Or.inl first
    · obtain ⟨goneStill, sentSame⟩ := kept gone
      exact Or.inr ⟨goneStill, by rw [receivedSame, sentSame, same]⟩

theorem thread_ok_frame {j : Nat} (thread : Thread (p.stage j))
    (receivedSame : received' j = received j) (sentSame : sent' j = sent j)
    (drained : Drained σ received sent j → Drained τ received' sent' j)
    (ok : ThreadOk σ received sent j thread) : ThreadOk τ received' sent' j thread := by
  have result : ∀ result, ResultOk σ received sent j result → ResultOk τ received' sent' j result := by
    intro result resultOk
    cases result with
    | error failure => exact resultOk
    | ok output =>
        obtain ⟨state, ran, finished, before⟩ := resultOk
        refine ⟨state, ?_, finished, drained before⟩
        rw [receivedSame, sentSame]
        exact ran
  cases thread with
  | starting =>
      rw [ThreadOk, receivedSame, sentSame]
      exact ok
  | collecting state batch =>
      rw [ThreadOk, receivedSame, sentSame]
      exact ok
  | sending state rows after =>
      obtain ⟨ran, sink, afterOk⟩ := ok
      rw [ThreadOk, receivedSame, sentSame]
      refine ⟨ran, sink, ?_⟩
      cases after with
      | «continue» => trivial
      | fail failure => exact afterOk
      | finish => exact drained afterOk
  | failing failure => exact ok
  | closing one => exact result one ok
  | done one => exact result one ok

theorem receiver_alive {popped pushed : List (Except Failure Row)} {next : Thread (p.stage k)}
    (step : ThreadStep σ k (σ.thread k) popped pushed next) :
    (σ.thread k).receiverGone = false := by
  cases thread : σ.thread k with
  | done result =>
      rw [thread] at step
      cases step
  | _ => rfl

/-- The line keeps its invariant when the moving thread keeps its own part of it. -/
theorem consistent_of_moves {popped pushed : List (Except Failure Row)} (made : List Row)
    (consistent : Consistent σ received sent) (inLine : k ≤ p.last)
    (moves : Moves σ τ k popped pushed)
    (alive : (σ.thread k).receiverGone = false)
    (rowsMade : made = rowsOf pushed ∨ k = p.last)
    (kept : (σ.thread k).senderGone = true → (τ.thread k).senderGone = true ∧ made = [])
    (failures : ∀ failure, .error failure ∈ pushed →
      ¬ Succeeds p ∧ (τ.thread k).senderGone = true)
    (own : ThreadOk τ (extend received k (rowsOf popped)) (extend sent k made) k (τ.thread k)) :
    Consistent τ (extend received k (rowsOf popped)) (extend sent k made) := by
  have fed : ∀ messages rest : List (Except Failure Row), σ.queue 0 = messages ++ rest →
      messages = [] ∧ rest = [] := by
    intro messages rest split
    rw [consistent.feeder] at split
    exact List.append_eq_nil_iff.mp split.symm
  constructor
  · by_cases first : k = 0
    · subst first
      rw [(fed popped _ moves.popped).1, rows_of_nil, extend_nil]
      exact consistent.input
    · rw [extend_other _ (Ne.symm first)]
      exact consistent.input
  · by_cases first : k = 0
    · subst first
      exact (fed popped _ moves.popped).2
    · rw [moves.queues 0 (Ne.symm first) (by omega)]
      exact consistent.feeder
  · intro j within
    by_cases same : j = k
    · subst same
      exact own
    · rw [moves.others j same]
      apply thread_ok_frame _ (extend_other received same _) (extend_other sent same _) ?_
        (consistent.threads j within)
      apply drained_frame (extend_other received same _)
      by_cases first : j = 0
      · exact Or.inl first
      right
      intro gone
      by_cases after : j - 1 = k
      · subst after
        obtain ⟨goneStill, none⟩ := kept gone
        exact ⟨goneStill, by simp [none]⟩
      · rw [moves.others _ after, extend_other _ after]
        exact ⟨gone, rfl⟩
  · intro j within
    by_cases here : j = k
    · subst here
      have made_rows : made = rowsOf pushed := rowsMade.resolve_right (by omega)
      have channel := consistent.channels j within
      constructor
      · rw [moves.others (j + 1) (Nat.succ_ne_self j), moves.pushed, extend_same,
          extend_other _ (Nat.succ_ne_self j), made_rows]
        intro open_
        rw [channel.open_ open_, rows_of_append, List.append_assoc]
      · rw [extend_same, extend_other _ (Nat.succ_ne_self j)]
        exact channel.fifo.trans (List.prefix_append _ _)
    · by_cases behind : j + 1 = k
      · subst behind
        have channel := consistent.channels j within
        have before : sent j = extend received (j + 1) (rowsOf popped) (j + 1) ++
            rowsOf (τ.queue (j + 1)) := by
          rw [channel.open_ alive, moves.popped, extend_same, rows_of_append, List.append_assoc]
        constructor
        · intro _
          rw [extend_other _ here]
          exact before
        · rw [extend_other _ here, before]
          exact List.prefix_append _ _
      · have channel := consistent.channels j within
        have later : j + 1 ≠ k + 1 := by omega
        constructor
        · rw [moves.others _ behind, moves.queues _ behind later, extend_other _ here,
            extend_other _ behind]
          exact channel.open_
        · rw [extend_other _ here, extend_other _ behind]
          exact channel.fifo
  · intro j failure member
    have old : .error failure ∈ σ.queue j →
        ¬ Succeeds p ∧ (τ.thread (j - 1)).senderGone = true := by
      intro before
      obtain ⟨fails, gone⟩ := consistent.failures j failure before
      refine ⟨fails, ?_⟩
      by_cases moved : j - 1 = k
      · subst moved
        exact (kept gone).1
      · rw [moves.others _ moved]
        exact gone
    by_cases here : j = k
    · subst here
      apply old
      rw [moves.popped]
      exact List.mem_append_right popped member
    · by_cases ahead : j = k + 1
      · subst ahead
        rw [moves.pushed] at member
        rcases List.mem_append.mp member with before | new
        · exact old before
        · exact failures failure new
      · rw [moves.queues j here ahead] at member
        exact old member

theorem drained_of_moves {popped pushed : List (Except Failure Row)} {made : List Row}
    (moves : Moves σ τ k popped pushed) (drained : Drained σ received sent k) :
    Drained τ received (extend sent k made) k := by
  apply drained_frame rfl ?_ drained
  by_cases first : k = 0
  · exact Or.inl first
  right
  intro gone
  have other : k - 1 ≠ k := by omega
  rw [moves.others _ other, extend_other _ other]
  exact ⟨gone, rfl⟩

theorem drained_of_empty (consistent : Consistent σ received sent) (inLine : k ≤ p.last)
    (alive : (σ.thread k).receiverGone = false) (empty : σ.queue k = [])
    (gone : (σ.thread (k - 1)).senderGone = true) : Drained σ received sent k := by
  cases k with
  | zero => exact Or.inl rfl
  | succ k =>
      have channel := (consistent.channels k (by omega)).open_ alive
      rw [empty, rows_of_nil, List.append_nil] at channel
      exact Or.inr ⟨gone, channel.symm⟩

/-- A thread that computes a batch either fails with its stage or holds the rows to send. -/
theorem computed_ok (consistent : Consistent σ received sent) (inLine : k ≤ p.last)
    {before batch : List Row} {state : (p.stage k).State} (after : After Failure)
    (split : received k = before ++ batch) (ran : Ran (p.stage k) before (sent k) state)
    (afterOk : ∀ made, AfterOk τ received (extend sent k made) k after) :
    ∃ made, (made = [] ∨ k = p.last) ∧
      ThreadOk τ received (extend sent k made) k (computeBatch p k state batch after) := by
  unfold computeBatch
  cases turned : runTurns (p.stage k).turn state batch with
  | error failure =>
      exact ⟨[], Or.inl rfl, fails_of_turn consistent inLine split ran turned⟩
  | ok result =>
      obtain ⟨rows, next⟩ := result
      have both := ran_append ran turned
      rw [← split] at both
      by_cases sink : k = p.last
      · refine ⟨rows, Or.inr sink, ?_⟩
        simp only [if_pos sink, ThreadOk, extend_same, List.append_nil]
        exact ⟨both, fun _ => trivial, afterOk rows⟩
      · refine ⟨[], Or.inl rfl, ?_⟩
        simp only [if_neg sink, ThreadOk, extend_nil]
        refine ⟨both, fun last => absurd last sink, ?_⟩
        have ok := afterOk []
        rw [extend_nil] at ok
        exact ok

theorem closing_of_finish (consistent : Consistent σ received sent) (inLine : k ≤ p.last)
    {popped pushed : List (Except Failure Row)} (moves : Moves σ τ k popped pushed)
    {state : (p.stage k).State} (ran : Ran (p.stage k) (received k) (sent k) state)
    (drained : Drained σ received sent k) :
    ThreadOk τ received (extend sent k []) k (.closing ((p.stage k).finish state)) :=
  thread_ok_frame (.closing ((p.stage k).finish state)) rfl (by simp)
    (drained_of_moves moves) (finish_result_ok consistent inLine ran drained)

theorem consistent_advance (consistent : Consistent σ received sent) (inLine : k ≤ p.last)
    (stepped : advance k σ = some τ) : ∃ received' sent', Consistent τ received' sent' := by
  obtain ⟨popped, pushed, moves, step⟩ := advance_cases stepped
  have alive := receiver_alive step
  have own := consistent.threads k inLine
  have assembled := fun made : List Row =>
    consistent_of_moves made consistent inLine moves alive
  generalize before : σ.thread k = thread at step own assembled
  generalize after : τ.thread k = next at step assembled
  cases step with
  | start started =>
      refine ⟨_, _, assembled [] (Or.inl rfl) (fun gone => by cases gone) (by simp) ?_⟩
      refine ⟨[], by simp [own.1], _, started, ?_⟩
      simp [own.2, runTurns]
  | startFailed failed =>
      refine ⟨_, _, assembled [] (Or.inl rfl) (fun gone => by cases gone) (by simp) ?_⟩
      exact fails_of_start inLine failed
  | compute nonempty =>
      obtain ⟨rows, split, ran⟩ := own
      obtain ⟨made, none, ok⟩ := computed_ok consistent inLine .continue split ran
        (fun _ => trivial)
      refine ⟨_, _, assembled made none ?_ (by simp) ?_⟩
      · intro gone
        cases gone
      · rw [rows_of_nil, extend_nil]
        exact ok
  | receive =>
      obtain ⟨rows, split, ran⟩ := own
      refine ⟨_, _, assembled [] (Or.inl rfl) (fun gone => by cases gone) (by simp) ?_⟩
      refine ⟨rows, by simp [split], ?_⟩
      rw [extend_nil]
      exact ran
  | @receiveFailure state failure =>
      refine ⟨_, _, assembled [] (Or.inl rfl) (fun gone => by cases gone) (by simp) ?_⟩
      exact (consistent.failures k failure (by rw [moves.popped]; simp)).1
  | @computeFailed state batch failure nonempty =>
      obtain ⟨rows, split, ran⟩ := own
      have fails := (consistent.failures k failure (by rw [moves.popped]; simp)).1
      obtain ⟨made, none, ok⟩ := computed_ok consistent inLine (.fail _) split ran
        (fun _ => fails)
      refine ⟨_, _, assembled made none ?_ (by simp) ?_⟩
      · intro gone
        cases gone
      · simp only [rows_of_error, rows_of_nil, extend_nil]
        exact ok
  | disconnect empty gone =>
      obtain ⟨rows, split, ran⟩ := own
      rw [List.append_nil] at split
      rw [← split] at ran
      have drained := drained_of_empty consistent inLine alive empty gone
      refine ⟨_, _, assembled [] (Or.inl rfl) (fun gone => by cases gone) (by simp) ?_⟩
      rw [rows_of_nil, extend_nil received]
      exact closing_of_finish consistent inLine moves ran drained
  | computeDrained nonempty empty gone =>
      obtain ⟨rows, split, ran⟩ := own
      have drained := drained_of_empty consistent inLine alive empty gone
      obtain ⟨made, none, ok⟩ := computed_ok consistent inLine .finish split ran
        (fun _ => drained_of_moves moves drained)
      refine ⟨_, _, assembled made none ?_ (by simp) ?_⟩
      · intro gone
        cases gone
      · rw [rows_of_nil, extend_nil]
        exact ok
  | @sent state todo =>
      obtain ⟨ran, _, afterOk⟩ := own
      rw [List.append_nil] at ran
      refine ⟨_, _, assembled [] (Or.inl rfl) (fun gone => by cases gone) (by simp) ?_⟩
      rw [rows_of_nil, extend_nil received]
      cases todo with
      | «continue» =>
          refine ⟨received k, by simp, ?_⟩
          rw [extend_nil]
          exact ran
      | fail failure => exact afterOk
      | finish => exact closing_of_finish consistent inLine moves ran afterOk
  | outputClosed gone =>
      have next : k + 1 ≤ p.last := by
        rcases Nat.lt_or_ge k p.last with lower | least
        · exact lower
        · cases own.2.1 (by omega)
      refine ⟨_, _, assembled [] (Or.inl rfl) (fun gone => by cases gone) (by simp) ?_⟩
      exact fails_of_closed consistent next gone (by rw [before]; rfl)
  | @send state row rows todo =>
      obtain ⟨ran, sink, afterOk⟩ := own
      refine ⟨_, _, assembled [row] (Or.inl rfl) (fun gone => by cases gone) (by simp) ?_⟩
      rw [rows_of_nil, extend_nil received]
      refine ⟨by simpa using ran, fun last => (by cases sink last), ?_⟩
      cases todo with
      | «continue» => trivial
      | fail failure => exact afterOk
      | finish => exact drained_of_moves moves afterOk
  | failed =>
      refine ⟨_, _, assembled [] (Or.inl rfl) (fun gone => by cases gone) (by simp) ?_⟩
      exact own
  | sendFailure =>
      refine ⟨_, _, assembled [] (Or.inl rfl) (fun gone => by cases gone) ?_ ?_⟩
      · intro failure _
        exact ⟨own, rfl⟩
      · exact own
  | @close result =>
      refine ⟨_, _, assembled [] (Or.inl rfl) (fun _ => ⟨rfl, rfl⟩) (by simp) ?_⟩
      rw [rows_of_nil, extend_nil received]
      exact thread_ok_frame (.done result) rfl (by simp) (drained_of_moves moves) own

theorem initial_consistent : Consistent (initialSystem p) (extend (fun _ => []) 0 p.input)
    (fun _ => []) where
  input := by simp
  feeder := rfl
  threads k _ := by
    cases k with
    | zero =>
        have passed : ∀ rows : List Row,
            runTurns (producer p.producerClosed).turn () rows = .ok (rows, ()) := by
          intro rows
          induction rows with
          | nil => rfl
          | cons row rows ih => exact run_turns_cons_ok.mpr ⟨row, (), rows, rfl, ih, rfl⟩
        refine ⟨⟨(), rfl, ?_⟩, ?_, Or.inl rfl⟩
        · simp only [extend_same, List.nil_append]
          exact passed p.input
        · intro sink
          have line := p.last_pos
          omega
    | succ k => exact ⟨extend_other _ (Nat.succ_ne_zero k) _, rfl⟩
  channels k _ := by
    constructor
    · intro _
      rw [extend_other _ (Nat.succ_ne_zero k)]
      rfl
    · rewrite [extend_other _ (Nat.succ_ne_zero k)]
      exact List.prefix_refl []
  failures k failure member := by cases member

theorem reachable_consistent (reachable : Reachable σ) :
    ∃ received sent, Consistent σ received sent := by
  induction reachable with
  | initial => exact ⟨_, _, initial_consistent⟩
  | step _ inLine stepped ih =>
      obtain ⟨received, sent, consistent⟩ := ih
      exact consistent_advance consistent inLine stepped

/-- Once every thread has returned, either all succeeded with what the stages give one after the
other over the whole input, or some thread failed and so do the stages. -/
theorem finished_outcome (reachable : Reachable σ)
    (finished : ∀ k, k ≤ p.last → (σ.thread k).receiverGone = true) :
    (∃ rowsAt, Stagewise p rowsAt ∧ ∀ k, k ≤ p.last → ∃ output,
      σ.thread k = .done (.ok output) ∧
        (p.stage k).run (rowsAt k) = .ok (rowsAt (k + 1), output)) ∨
      (¬ Succeeds p ∧ ∃ k, k ≤ p.last ∧ ∃ failure, σ.thread k = .done (.error failure)) := by
  obtain ⟨received, sent, consistent⟩ := reachable_consistent reachable
  by_cases failed : ∃ k, k ≤ p.last ∧ ∃ failure, σ.thread k = .done (.error failure)
  · right
    refine ⟨?_, failed⟩
    obtain ⟨k, inLine, failure, done⟩ := failed
    have own := consistent.threads k inLine
    rw [done] at own
    exact own
  · left
    have succeeded : ∀ k, k ≤ p.last → ∃ output, σ.thread k = .done (.ok output) ∧
        (p.stage k).run (received k) = .ok (sent k, output) ∧ Drained σ received sent k := by
      intro k inLine
      obtain ⟨result, done⟩ := done_of_receiver_gone (finished k inLine)
      have own := consistent.threads k inLine
      rw [done] at own
      cases result with
      | error failure => exact absurd ⟨k, inLine, failure, done⟩ failed
      | ok output =>
          obtain ⟨state, ran, finish, drained⟩ := own
          exact ⟨output, done, stage_run_ok.mpr ⟨state, ran, finish⟩, drained⟩
    let rowsAt : Nat → List Row := fun j => if j = 0 then p.input else sent (j - 1)
    have rows : ∀ k, k ≤ p.last → rowsAt k = received k := by
      intro k inLine
      cases k with
      | zero => exact consistent.input.symm
      | succ k =>
          obtain ⟨_, _, _, drained⟩ := succeeded (k + 1) inLine
          exact ((drained.resolve_left (Nat.succ_ne_zero k)).2).symm
    have stages : ∀ k, k ≤ p.last → ∃ output, σ.thread k = .done (.ok output) ∧
        (p.stage k).run (rowsAt k) = .ok (sent k, output) := by
      intro k inLine
      obtain ⟨output, done, run, _⟩ := succeeded k inLine
      rw [rows k inLine]
      exact ⟨output, done, run⟩
    refine ⟨rowsAt, ⟨rfl, ?_⟩, stages⟩
    intro k inLine
    obtain ⟨output, _, run⟩ := stages k inLine
    exact ⟨output, run⟩

end RwkvSrs.StagePipelineSafety
