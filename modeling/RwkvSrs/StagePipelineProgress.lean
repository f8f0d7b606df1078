import Mathlib.Algebra.BigOperators.Fin
import Mathlib.Tactic.Ring
import RwkvSrs.StagePipelineSafety

/-!
No schedule is stuck and every schedule ends. A blocked thread waits on a
neighbour that can move or waits in the same direction, so the wait never closes
into a cycle; and each step moves a row towards the end of the line, or a thread
towards its return, by a weight that is finite at the start.
-/

namespace RwkvSrs.StagePipelineProgress

open RwkvSrs.TurnRuns RwkvSrs.StagePipeline RwkvSrs.StagePipelineSafety

set_option autoImplicit false

variable {Row Failure : Type} {p : Pipeline Row Failure} {σ τ : System p} {k : Nat}

def Feeding {stage : Stage Row Failure} : Thread stage → Prop
  | .sending _ _ .finish | .closing _ | .done _ => True
  | _ => False

theorem feeding_step {popped pushed : List (Except Failure Row)} {next : Thread (p.stage k)}
    (step : ThreadStep σ k (σ.thread k) popped pushed next) (feeding : Feeding (σ.thread k)) :
    Feeding next := by
  generalize σ.thread k = thread at step feeding
  cases step with
  | @sent state after =>
      cases after with
      | «continue» => exact feeding.elim
      | fail failure => exact feeding.elim
      | finish => trivial
  | @send state row rows after =>
      cases after with
      | «continue» => exact feeding.elim
      | fail failure => exact feeding.elim
      | finish => trivial
  | outputClosed _ => trivial
  | close => trivial
  | start _ => exact feeding.elim
  | startFailed _ => exact feeding.elim
  | compute _ => exact feeding.elim
  | receive => exact feeding.elim
  | receiveFailure => exact feeding.elim
  | computeFailed _ => exact feeding.elim
  | disconnect _ _ => exact feeding.elim
  | computeDrained _ _ _ => exact feeding.elim
  | failed => exact feeding.elim
  | sendFailure => exact feeding.elim

theorem reachable_feeding (reachable : Reachable σ) : Feeding (σ.thread 0) := by
  induction reachable with
  | initial => trivial
  | @step σ τ k _ _ stepped ih =>
      obtain ⟨popped, pushed, moves, step⟩ := advance_cases stepped
      by_cases first : k = 0
      · subst first
        exact feeding_step step ih
      · rw [moves.others 0 (Ne.symm first)]
        exact ih

/-- The stage cannot fail, as the caller's loop that only stores what it receives. -/
structure Total (stage : Stage Row Failure) : Prop where
  start : ∃ state, stage.start = .ok state
  turn : ∀ state row, ∃ result, stage.turn state row = .ok result
  finish : ∀ state, ∃ output, stage.finish state = .ok output

theorem total_run {stage : Stage Row Failure} (total : Total stage) (state : stage.State)
    (rows : List Row) : ∃ result, runTurns stage.turn state rows = .ok result := by
  induction rows generalizing state with
  | nil => exact ⟨_, rfl⟩
  | cons row rows ih =>
      obtain ⟨⟨out, next⟩, turned⟩ := total.turn state row
      obtain ⟨⟨rest, last⟩, run⟩ := ih next
      exact ⟨_, run_turns_cons_ok.mpr ⟨out, next, rest, turned, run, rfl⟩⟩

/-- A failure that a total stage reports was sent to it by a thread that has returned since. -/
def FailureReceived {stage : Stage Row Failure} (senderGone : Bool) : Thread stage → Prop
  | .failing _ | .closing (.error _) | .sending _ _ (.fail _) => senderGone = true
  | _ => True

theorem failure_received_compute {senderGone : Bool} (total : Total (p.stage k))
    (state : (p.stage k).State) (batch : List Row) {after : After Failure}
    (sound : ∀ failure, after = .fail failure → senderGone = true) :
    FailureReceived senderGone (computeBatch p k state batch after) := by
  unfold computeBatch
  obtain ⟨⟨rows, next⟩, turned⟩ := total_run total state batch
  rw [turned]
  cases after with
  | fail failure => exact sound failure rfl
  | «continue» => trivial
  | finish => trivial

theorem failure_received_finish {senderGone : Bool} (total : Total (p.stage k))
    (state : (p.stage k).State) :
    FailureReceived senderGone (Thread.closing ((p.stage k).finish state)) := by
  obtain ⟨output, finished⟩ := total.finish state
  rw [finished]
  trivial

theorem failure_received_step {received sent : Nat → List Row}
    (consistent : Consistent σ received sent) (total : Total (p.stage p.last))
    {popped pushed : List (Except Failure Row)} {next : Thread (p.stage p.last)}
    (moves : Moves σ τ p.last popped pushed)
    (step : ThreadStep σ p.last (σ.thread p.last) popped pushed next)
    (before : FailureReceived (σ.thread (p.last - 1)).senderGone (σ.thread p.last)) :
    FailureReceived (σ.thread (p.last - 1)).senderGone next := by
  have own := consistent.threads p.last (Nat.le_refl p.last)
  generalize σ.thread p.last = thread at step before own
  have reported : ∀ failure rest, σ.queue p.last = .error failure :: rest →
      (σ.thread (p.last - 1)).senderGone = true := by
    intro failure rest queue
    exact (consistent.failures p.last failure (by rw [queue]; simp)).2
  cases step with
  | start _ => trivial
  | startFailed failed =>
      obtain ⟨state, started⟩ := total.start
      rw [failed] at started
      cases started
  | compute _ => exact failure_received_compute total _ _ (fun _ none => nomatch none)
  | receive => trivial
  | receiveFailure => exact reported _ _ moves.popped
  | computeFailed _ =>
      exact failure_received_compute total _ _ (fun _ _ => reported _ _ moves.popped)
  | disconnect _ _ => exact failure_received_finish total _
  | computeDrained _ _ _ => exact failure_received_compute total _ _ (fun _ none => nomatch none)
  | @sent state after =>
      cases after with
      | «continue» => trivial
      | fail failure => exact before
      | finish => exact failure_received_finish total state
  | outputClosed _ => cases own.2.1 rfl
  | send => cases own.2.1 rfl
  | failed => exact before
  | sendFailure => exact before
  | close => trivial

theorem sender_gone_step {popped pushed : List (Except Failure Row)} {next : Thread (p.stage k)}
    (step : ThreadStep σ k (σ.thread k) popped pushed next)
    (gone : (σ.thread k).senderGone = true) : next.senderGone = true := by
  obtain ⟨result, closing | done⟩ := returned_of_sender_gone gone
  · rw [closing] at step
    cases step
    rfl
  · rw [done] at step
    cases step

theorem reachable_failure_received (total : Total (p.stage p.last)) (reachable : Reachable σ) :
    FailureReceived (σ.thread (p.last - 1)).senderGone (σ.thread p.last) := by
  have line := p.last_pos
  induction reachable with
  | initial =>
      obtain ⟨before, succ⟩ := Nat.exists_eq_succ_of_ne_zero (Nat.pos_iff_ne_zero.mp line)
      have starting : ∀ k, k ≠ 0 → FailureReceived
          ((initialSystem p).thread (p.last - 1)).senderGone ((initialSystem p).thread k) := by
        intro k nonzero
        cases k with
        | zero => exact absurd rfl nonzero
        | succ k => trivial
      exact starting p.last (by omega)
  | @step σ τ k reached inLine stepped ih =>
      obtain ⟨received, sent, consistent⟩ := reachable_consistent reached
      obtain ⟨popped, pushed, moves, step⟩ := advance_cases stepped
      have mono : (σ.thread (p.last - 1)).senderGone = true →
          (τ.thread (p.last - 1)).senderGone = true := by
        intro gone
        by_cases moved : k = p.last - 1
        · subst moved
          exact sender_gone_step step gone
        · rw [moves.others _ (Ne.symm moved)]
          exact gone
      have own : FailureReceived (σ.thread (p.last - 1)).senderGone (τ.thread p.last) := by
        by_cases sink : k = p.last
        · subst sink
          exact failure_received_step consistent total moves step ih
        · rw [moves.others _ (Ne.symm sink)]
          exact ih
      generalize τ.thread p.last = thread at own
      match thread, own with
      | .failing _, own => exact mono own
      | .closing (.error _), own => exact mono own
      | .sending _ _ (.fail _), own => exact mono own
      | .starting, _ => trivial
      | .collecting _ _, _ => trivial
      | .sending _ _ .continue, _ => trivial
      | .sending _ _ .finish, _ => trivial
      | .closing (.ok _), _ => trivial
      | .done _, _ => trivial

inductive Waits (σ : System p) (k : Nat) : Prop
  | input (collecting : ∃ state, σ.thread k = .collecting state []) (empty : σ.queue k = [])
      (alive : (σ.thread (k - 1)).senderGone = false)
  | output (holds : (∃ state row rows after, σ.thread k = .sending state (row :: rows) after) ∨
        (k ≠ p.last ∧ ∃ failure, σ.thread k = .failing failure))
      (alive : (σ.thread (k + 1)).receiverGone = false)
      (full : p.capacity ≤ (σ.queue (k + 1)).length)
  | join (caller : k = p.last) (joins : p.joins = true) (waiting : othersDone σ = false)
      (returned : ∃ result, σ.thread k = .closing result)

theorem waits_of_blocked (blocked : advance k σ = none)
    (unfinished : (σ.thread k).receiverGone = false) : Waits σ k := by
  unfold advance at blocked
  cases thread : σ.thread k with
  | starting =>
      rw [thread] at blocked
      cases started : (p.stage k).start with
      | ok state => simp [started] at blocked
      | error failure => simp [started] at blocked
  | collecting state batch =>
      rw [thread] at blocked
      simp only [collect] at blocked
      split at blocked
      · cases blocked
      · cases queue : σ.queue k with
        | cons message rest =>
            rw [queue] at blocked
            cases message <;> cases blocked
        | nil =>
            rw [queue] at blocked
            simp only at blocked
            split at blocked
            · cases blocked
            · rename_i alive
              split at blocked
              · rename_i empty
                subst empty
                exact .input ⟨state, thread⟩ queue (by simpa using alive)
              · cases blocked
  | sending state rows after =>
      rw [thread] at blocked
      cases rows with
      | nil => cases blocked
      | cons row rows =>
          simp only at blocked
          split at blocked
          · cases blocked
          · rename_i alive
            split at blocked
            · cases blocked
            · rename_i full
              exact .output (Or.inl ⟨state, row, rows, after, thread⟩) (by simpa using alive)
                (by omega)
  | failing failure =>
      rw [thread] at blocked
      simp only at blocked
      split at blocked
      · cases blocked
      · rename_i alive
        push Not at alive
        split at blocked
        · cases blocked
        · rename_i full
          exact .output (Or.inr ⟨alive.1, failure, thread⟩) (by simpa using alive.2) (by omega)
  | closing result =>
      rw [thread] at blocked
      simp only at blocked
      split at blocked
      · rename_i waiting
        exact .join waiting.1 waiting.2.1 (by simpa using waiting.2.2) ⟨result, thread⟩
      · cases blocked
  | done result =>
      rw [thread] at unfinished
      cases unfinished

/-- A full channel ahead of thread `k` is emptied by the threads after it. -/
theorem moves_ahead (total : p.joins = true → Total (p.stage p.last)) (reachable : Reachable σ)
    (blocked : ∀ j, j ≤ p.last → advance j σ = none) (inLine : k ≤ p.last)
    (holds : (∃ state row rows after, σ.thread k = .sending state (row :: rows) after) ∨
      (k ≠ p.last ∧ ∃ failure, σ.thread k = .failing failure))
    (alive : (σ.thread (k + 1)).receiverGone = false)
    (full : p.capacity ≤ (σ.queue (k + 1)).length) : False := by
  obtain ⟨received, sent, consistent⟩ := reachable_consistent reachable
  obtain ⟨room, distance⟩ : ∃ room, p.last - k = room := ⟨_, rfl⟩
  induction room generalizing k with
  | zero =>
      have sink : k = p.last := by omega
      have own := consistent.threads k inLine
      rcases holds with ⟨state, row, rows, after, thread⟩ | ⟨before, _⟩
      · rw [thread] at own
        cases own.2.1 sink
      · exact before sink
  | succ room ih =>
      have next : k + 1 ≤ p.last := by omega
      have senderAlive : (σ.thread k).senderGone = false := by
        rcases holds with ⟨state, row, rows, after, thread⟩ | ⟨_, failure, thread⟩ <;>
          rw [thread] <;> rfl
      cases waits_of_blocked (blocked (k + 1) next) alive with
      | input _ empty _ =>
          have room := p.capacity_pos
          rw [empty] at full
          simp only [List.length_nil] at full
          omega
      | output holdsNext aliveNext fullNext =>
          exact ih next holdsNext aliveNext fullNext (by omega)
      | join caller joins _ returned =>
          obtain ⟨result, thread⟩ := returned
          have own := consistent.threads (k + 1) next
          have reported := reachable_failure_received (total joins) reachable
          rw [← caller] at reported
          rw [thread] at own reported
          cases result with
          | ok output =>
              obtain ⟨_, _, _, drained⟩ := own
              have gone : (σ.thread k).senderGone = true :=
                (drained.resolve_left (Nat.succ_ne_zero k)).1
              rw [senderAlive] at gone
              cases gone
          | error failure =>
              have gone : (σ.thread k).senderGone = true := reported
              rw [senderAlive] at gone
              cases gone

theorem not_stuck (total : p.joins = true → Total (p.stage p.last)) (reachable : Reachable σ)
    (unfinished : ∃ k, k ≤ p.last ∧ (σ.thread k).receiverGone = false) :
    ∃ k τ, k ≤ p.last ∧ advance k σ = some τ := by
  by_contra stuck
  have blocked : ∀ j, j ≤ p.last → advance j σ = none := by
    intro j within
    cases step : advance j σ with
    | none => rfl
    | some τ => exact absurd ⟨j, τ, within, step⟩ stuck
  -- The earliest unfinished thread: everything before it has returned.
  obtain ⟨inLine, alive⟩ := Nat.find_spec unfinished
  generalize first : Nat.find unfinished = k at inLine alive
  have before : ∀ j, j < k → (σ.thread j).receiverGone = true := by
    intro j less
    have passed := Nat.find_min unfinished (first ▸ less)
    cases gone : (σ.thread j).receiverGone with
    | true => rfl
    | false => exact absurd ⟨by omega, gone⟩ passed
  cases waits_of_blocked (blocked k inLine) alive with
  | input collecting _ senderAlive =>
      obtain ⟨state, thread⟩ := collecting
      cases k with
      | zero =>
          have feeding := reachable_feeding reachable
          rw [thread] at feeding
          exact feeding
      | succ k =>
          obtain ⟨result, done⟩ := done_of_receiver_gone (before k (Nat.lt_succ_self k))
          have sender : (σ.thread k).senderGone = false := senderAlive
          rw [done] at sender
          cases sender
  | output holds aliveNext full =>
      exact moves_ahead total reachable blocked inLine holds aliveNext full
  | join caller _ waiting _ =>
      have all : othersDone σ = true := by
        unfold othersDone
        rw [List.all_eq_true]
        intro j member
        exact before j (by rw [caller]; exact List.mem_range.mp member)
      rw [all] at waiting
      cases waiting

/-- How far thread `k` is from the end of the line, with room for the steps in between. -/
def distance (p : Pipeline Row Failure) (k : Nat) : Nat := 4 * (p.last - k)

def threadWeight (p : Pipeline Row Failure) (k : Nat) : Thread (p.stage k) → Nat
  | .starting => 8
  | .collecting _ batch => 6 + batch.length * (distance p k + 3)
  | .sending _ rows .continue => 7 + rows.length * (distance p k + 1)
  | .sending _ rows _ => 5 + rows.length * (distance p k + 1)
  | .failing _ => 4
  | .closing _ => 2
  | .done _ => 1

def messageWeight (p : Pipeline Row Failure) (k : Nat) : Except Failure Row → Nat
  | .ok _ => distance p k + 4
  | .error _ => 1

def queueWeight (p : Pipeline Row Failure) (k : Nat) (messages : List (Except Failure Row)) : Nat :=
  (messages.map (messageWeight p k)).sum

theorem queue_weight_append (messages others : List (Except Failure Row)) :
    queueWeight p k (messages ++ others) = queueWeight p k messages + queueWeight p k others := by
  simp [queueWeight]

def remaining (σ : System p) : Nat :=
  ∑ k ∈ Finset.range (p.last + 1), (threadWeight p k (σ.thread k) + queueWeight p k (σ.queue k))

theorem compute_weight (state : (p.stage k).State) {batch : List Row} (nonempty : batch ≠ [])
    (after : After Failure) :
    threadWeight p k (computeBatch p k state batch after) <
      threadWeight p k (.collecting state batch) := by
  have some : 0 < batch.length := List.length_pos_iff.mpr nonempty
  have heavier : batch.length * (distance p k + 1) + 2 * batch.length =
      batch.length * (distance p k + 3) := by ring
  unfold computeBatch
  cases turned : runTurns (p.stage k).turn state batch with
  | error failure =>
      simp only [threadWeight]
      omega
  | ok result =>
      obtain ⟨rows, next⟩ := result
      have length := run_turns_length turned
      by_cases sink : k = p.last
      · cases after <;> simp only [if_pos sink, threadWeight, List.length_nil] <;> omega
      · cases after <;> simp only [if_neg sink, threadWeight, length] <;> omega

/-- What a step takes from its own thread and input outweighs what it puts on its output. -/
theorem step_weight {popped pushed : List (Except Failure Row)} {thread next : Thread (p.stage k)}
    (step : ThreadStep σ k thread popped pushed next) :
    threadWeight p k next + (if k < p.last then queueWeight p (k + 1) pushed else 0) <
      threadWeight p k thread + queueWeight p k popped := by
  have nothing : ∀ j, queueWeight p j ([] : List (Except Failure Row)) = 0 := fun _ => rfl
  have closer : k < p.last → distance p (k + 1) + 4 = distance p k := by
    intro less
    unfold distance
    omega
  cases step with
  | start _ => simp [threadWeight, nothing]
  | startFailed _ => simp [threadWeight, nothing]
  | compute nonempty =>
      simp only [nothing, ite_self, Nat.add_zero]
      exact compute_weight _ nonempty _
  | @receive state batch row =>
      have grown : (batch.length + 1) * (distance p k + 3) =
          batch.length * (distance p k + 3) + (distance p k + 3) := by ring
      simp only [threadWeight, ite_self, queueWeight, messageWeight, List.map_cons, List.map_nil,
        List.sum_cons, List.sum_nil, List.length_append, List.length_cons, List.length_nil,
        Nat.zero_add]
      omega
  | receiveFailure => simp [threadWeight, queueWeight, messageWeight]
  | computeFailed nonempty =>
      simp only [nothing, ite_self, Nat.add_zero]
      exact Nat.lt_add_right _ (compute_weight _ nonempty _)
  | disconnect _ _ => simp [threadWeight, nothing]
  | computeDrained nonempty _ _ =>
      simp only [nothing, ite_self, Nat.add_zero]
      exact compute_weight _ nonempty _
  | @sent state after => cases after <;> simp [threadWeight, afterSending, nothing]
  | @outputClosed state row rows after _ =>
      cases after <;> simp only [threadWeight, nothing, ite_self] <;> omega
  | @send state row rows after =>
      have lighter : (rows.length + 1) * (distance p k + 1) =
          rows.length * (distance p k + 1) + (distance p k + 1) := by ring
      by_cases before : k < p.last
      · have step := closer before
        cases after <;>
          simp only [threadWeight, if_pos before, queueWeight, messageWeight, List.map_cons,
            List.map_nil, List.sum_cons, List.sum_nil, List.length_cons] <;> omega
      · cases after <;>
          simp only [threadWeight, nothing, if_neg before, List.length_cons] <;> omega
  | failed => simp [threadWeight, nothing]
  | sendFailure =>
      by_cases before : k < p.last
      · simp [threadWeight, before, queueWeight, messageWeight]
      · simp [threadWeight, nothing, before]
  | close => simp [threadWeight, nothing]

theorem sum_step_lt {before after : Nat → Nat} {length : Nat} (inside : k < length)
    (same : ∀ j, j ≠ k → j ≠ k + 1 → after j = before j)
    (less : after k + (if k + 1 < length then after (k + 1) else 0) <
      before k + (if k + 1 < length then before (k + 1) else 0)) :
    ∑ j ∈ Finset.range length, after j < ∑ j ∈ Finset.range length, before j := by
  have upTo : ∀ n, n ≤ k → ∑ j ∈ Finset.range n, after j = ∑ j ∈ Finset.range n, before j := by
    intro n bound
    apply Finset.sum_congr rfl
    intro j member
    have less := Finset.mem_range.mp member
    exact same j (by omega) (by omega)
  obtain ⟨rest, total⟩ := Nat.exists_eq_add_of_lt inside
  subst total
  cases rest with
  | zero =>
      simp only [Nat.add_zero, Nat.lt_irrefl, if_false] at less
      rw [Nat.add_zero, Finset.sum_range_succ, Finset.sum_range_succ, upTo k (Nat.le_refl k)]
      exact Nat.add_lt_add_left less _
  | succ rest =>
      rw [if_pos (by omega), if_pos (by omega)] at less
      induction rest with
      | zero =>
          rw [Finset.sum_range_succ, Finset.sum_range_succ, Finset.sum_range_succ before,
            Finset.sum_range_succ before, upTo k (Nat.le_refl k)]
          omega
      | succ rest ih =>
          rw [Finset.sum_range_succ, Finset.sum_range_succ before]
          rw [same _ (by omega) (by omega)]
          exact Nat.add_lt_add_right (ih (by omega)) _

theorem advance_decreases (inLine : k ≤ p.last) (stepped : advance k σ = some τ) :
    remaining τ < remaining σ := by
  obtain ⟨popped, pushed, moves, step⟩ := advance_cases stepped
  have weighed := step_weight step
  apply sum_step_lt (Nat.lt_succ_of_le inLine)
  · intro j other later
    rw [moves.others j other, moves.queues j other later]
  · rw [moves.popped, queue_weight_append]
    by_cases before : k < p.last
    · rw [if_pos (by omega), if_pos (by omega), moves.pushed, queue_weight_append,
        moves.others (k + 1) (Nat.succ_ne_self k)]
      rw [if_pos before] at weighed
      omega
    · rw [if_neg (by omega), if_neg (by omega)]
      rw [if_neg before] at weighed
      omega

end RwkvSrs.StagePipelineProgress
