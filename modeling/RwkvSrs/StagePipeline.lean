import Mathlib.Logic.Function.Basic
import RwkvSrs.TurnRuns

/-!
Threads in a line, connected by bounded FIFO channels. Thread 0 sends the input
rows; every later thread receives a batch, runs it through its stage and sends
the rows on; the last thread sends nothing. A thread that returns drops its
sender and then its receiver, which wakes the neighbour that waits on it. One
step advances one thread by one channel operation.
-/

namespace RwkvSrs.StagePipeline

open RwkvSrs.TurnRuns

set_option autoImplicit false

/-- What one thread computes: a conversion at its start, a turn for each row, a conversion of
the state it ends with, and the failure it reports when its output was closed. -/
structure Stage (Row Failure : Type) where
  State : Type
  Output : Type
  start : Except Failure State
  turn : Turn Row Row Failure State
  finish : State → Except Failure Output
  closedEarly : Failure
  batch : Nat

variable {Row Failure : Type}

def Stage.run (stage : Stage Row Failure) (rows : List Row) :
    Except Failure (List Row × stage.Output) := do
  let state ← stage.start
  let (outs, last) ← runTurns stage.turn state rows
  let output ← stage.finish last
  return (outs, output)

/-- The thread that feeds the line. -/
def producer (closedEarly : Failure) : Stage Row Failure where
  State := Unit
  Output := Unit
  start := .ok ()
  turn _ row := .ok (row, ())
  finish _ := .ok ()
  closedEarly := closedEarly
  batch := 1

structure Pipeline (Row Failure : Type) where
  input : List Row
  producerClosed : Failure
  worker : Nat → Stage Row Failure
  last : Nat
  last_pos : 0 < last
  capacity : Nat
  capacity_pos : 0 < capacity
  /-- The last thread is the caller, which keeps its receiver until it has joined the others. -/
  joins : Bool

def Pipeline.stage (p : Pipeline Row Failure) : Nat → Stage Row Failure
  | 0 => producer p.producerClosed
  | k + 1 => p.worker k

/-- What a thread does once the rows in hand are sent. -/
inductive After (Failure : Type) where
  | continue
  | fail (failure : Failure)
  | finish

inductive Thread (stage : Stage Row Failure) where
  | starting
  | collecting (state : stage.State) (batch : List Row)
  | sending (state : stage.State) (rows : List Row) (after : After Failure)
  | failing (failure : Failure)
  | closing (result : Except Failure stage.Output)
  | done (result : Except Failure stage.Output)

variable {stage : Stage Row Failure}

def Thread.senderGone : Thread stage → Bool
  | .closing _ | .done _ => true
  | _ => false

def Thread.receiverGone : Thread stage → Bool
  | .done _ => true
  | _ => false

theorem returned_of_sender_gone {thread : Thread stage} (gone : thread.senderGone = true) :
    ∃ result, thread = .closing result ∨ thread = .done result := by
  cases thread with
  | closing result => exact ⟨result, Or.inl rfl⟩
  | done result => exact ⟨result, Or.inr rfl⟩
  | starting => cases gone
  | collecting state batch => cases gone
  | sending state rows after => cases gone
  | failing failure => cases gone

theorem done_of_receiver_gone {thread : Thread stage} (gone : thread.receiverGone = true) :
    ∃ result, thread = .done result := by
  cases thread with
  | done result => exact ⟨result, rfl⟩
  | starting => cases gone
  | collecting state batch => cases gone
  | sending state rows after => cases gone
  | failing failure => cases gone
  | closing result => cases gone

/-- The channel `queue k` is the one thread `k` receives from. -/
structure System (p : Pipeline Row Failure) where
  thread : (k : Nat) → Thread (p.stage k)
  queue : Nat → List (Except Failure Row)

variable {p : Pipeline Row Failure}

namespace System

def setThread (σ : System p) (k : Nat) (thread : Thread (p.stage k)) : System p :=
  { σ with thread := Function.update σ.thread k thread }

def setQueue (σ : System p) (k : Nat) (messages : List (Except Failure Row)) : System p :=
  { σ with queue := Function.update σ.queue k messages }

def push (σ : System p) (k : Nat) (message : Except Failure Row) : System p :=
  σ.setQueue k (σ.queue k ++ [message])

@[simp] theorem set_thread_same (σ : System p) (k : Nat) (thread : Thread (p.stage k)) :
    (σ.setThread k thread).thread k = thread := by
  simp [setThread]

theorem set_thread_other (σ : System p) {k j : Nat} (other : j ≠ k) (thread : Thread (p.stage k)) :
    (σ.setThread k thread).thread j = σ.thread j := by
  simp [setThread, other]

@[simp] theorem set_thread_queue (σ : System p) (k : Nat) (thread : Thread (p.stage k)) :
    (σ.setThread k thread).queue = σ.queue := rfl

@[simp] theorem set_queue_thread (σ : System p) (k : Nat) (messages : List (Except Failure Row)) :
    (σ.setQueue k messages).thread = σ.thread := rfl

@[simp] theorem set_queue_same (σ : System p) (k : Nat) (messages : List (Except Failure Row)) :
    (σ.setQueue k messages).queue k = messages := by
  simp [setQueue]

theorem set_queue_other (σ : System p) {k j : Nat} (other : j ≠ k)
    (messages : List (Except Failure Row)) : (σ.setQueue k messages).queue j = σ.queue j := by
  simp [setQueue, other]

end System

variable (p) in
/-- Runs a received batch; rows computed before a failing one are dropped with the batch. -/
def computeBatch (k : Nat) (state : (p.stage k).State) (batch : List Row)
    (after : After Failure) : Thread (p.stage k) :=
  match runTurns (p.stage k).turn state batch with
  | .error failure => .failing failure
  | .ok (rows, next) => .sending next (if k = p.last then [] else rows) after

variable (p) in
def afterSending (k : Nat) (state : (p.stage k).State) : After Failure → Thread (p.stage k)
  | .continue => .collecting state []
  | .fail failure => .failing failure
  | .finish => .closing ((p.stage k).finish state)

def collect (σ : System p) (k : Nat) (state : (p.stage k).State) (batch : List Row) :
    Option (System p) :=
  if batch ≠ [] ∧ (p.stage k).batch ≤ batch.length then
    some (σ.setThread k (computeBatch p k state batch .continue))
  else
    match σ.queue k with
    | .ok row :: rest =>
        some ((σ.setQueue k rest).setThread k (.collecting state (batch ++ [row])))
    | .error failure :: rest =>
        some ((σ.setQueue k rest).setThread k
          (if batch = [] then .failing failure
          else computeBatch p k state batch (.fail failure)))
    | [] =>
        if (σ.thread (k - 1)).senderGone then
          some (σ.setThread k
            (if batch = [] then .closing ((p.stage k).finish state)
            else computeBatch p k state batch .finish))
        else if batch = [] then none
        else some (σ.setThread k (computeBatch p k state batch .continue))

/-- Whether every thread but the last has returned. -/
def othersDone (σ : System p) : Bool := (List.range p.last).all fun j => (σ.thread j).receiverGone

def advance (k : Nat) (σ : System p) : Option (System p) :=
  match σ.thread k with
  | .starting =>
      match (p.stage k).start with
      | .ok state => some (σ.setThread k (.collecting state []))
      | .error failure => some (σ.setThread k (.closing (.error failure)))
  | .collecting state batch => collect σ k state batch
  | .sending state [] after => some (σ.setThread k (afterSending p k state after))
  | .sending state (row :: rows) after =>
      if (σ.thread (k + 1)).receiverGone then
        some (σ.setThread k (.closing (.error (p.stage k).closedEarly)))
      else if (σ.queue (k + 1)).length < p.capacity then
        some ((σ.push (k + 1) (.ok row)).setThread k (.sending state rows after))
      else none
  | .failing failure =>
      if k = p.last ∨ (σ.thread (k + 1)).receiverGone then
        some (σ.setThread k (.closing (.error failure)))
      else if (σ.queue (k + 1)).length < p.capacity then
        some ((σ.push (k + 1) (.error failure)).setThread k (.closing (.error failure)))
      else none
  | .closing result =>
      if k = p.last ∧ p.joins ∧ ¬ othersDone σ then none
      else some (σ.setThread k (.done result))
  | .done _ => none

variable (p) in
def initialThread : (k : Nat) → Thread (p.stage k)
  | 0 => .sending () p.input .finish
  | _ + 1 => .starting

variable (p) in
def initialSystem : System p where
  thread := initialThread p
  queue _ := []

inductive Reachable : System p → Prop
  | initial : Reachable (initialSystem p)
  | step {σ τ : System p} {k : Nat} (reachable : Reachable σ) (inLine : k ≤ p.last)
      (stepped : advance k σ = some τ) : Reachable τ

/-- The rows between the stages when each stage runs alone over the whole list. -/
structure Stagewise (p : Pipeline Row Failure) (rowsAt : Nat → List Row) : Prop where
  input : rowsAt 0 = p.input
  stages : ∀ k, k ≤ p.last → ∃ output, (p.stage k).run (rowsAt k) = .ok (rowsAt (k + 1), output)

def Succeeds (p : Pipeline Row Failure) : Prop := ∃ rowsAt, Stagewise p rowsAt

/-- What a step of thread `k` takes from its input, puts on its output and becomes. -/
inductive ThreadStep (σ : System p) (k : Nat) : Thread (p.stage k) →
    List (Except Failure Row) → List (Except Failure Row) → Thread (p.stage k) → Prop
  | start {state : (p.stage k).State} (started : (p.stage k).start = .ok state) :
      ThreadStep σ k .starting [] [] (.collecting state [])
  | startFailed {failure : Failure} (failed : (p.stage k).start = .error failure) :
      ThreadStep σ k .starting [] [] (.closing (.error failure))
  | compute {state : (p.stage k).State} {batch : List Row} (nonempty : batch ≠ []) :
      ThreadStep σ k (.collecting state batch) [] [] (computeBatch p k state batch .continue)
  | receive {state : (p.stage k).State} {batch : List Row} {row : Row} :
      ThreadStep σ k (.collecting state batch) [.ok row] [] (.collecting state (batch ++ [row]))
  | receiveFailure {state : (p.stage k).State} {failure : Failure} :
      ThreadStep σ k (.collecting state []) [.error failure] [] (.failing failure)
  | computeFailed {state : (p.stage k).State} {batch : List Row} {failure : Failure}
      (nonempty : batch ≠ []) :
      ThreadStep σ k (.collecting state batch) [.error failure] []
        (computeBatch p k state batch (.fail failure))
  | disconnect {state : (p.stage k).State} (empty : σ.queue k = [])
      (gone : (σ.thread (k - 1)).senderGone = true) :
      ThreadStep σ k (.collecting state []) [] [] (.closing ((p.stage k).finish state))
  | computeDrained {state : (p.stage k).State} {batch : List Row} (nonempty : batch ≠ [])
      (empty : σ.queue k = []) (gone : (σ.thread (k - 1)).senderGone = true) :
      ThreadStep σ k (.collecting state batch) [] [] (computeBatch p k state batch .finish)
  | sent {state : (p.stage k).State} {after : After Failure} :
      ThreadStep σ k (.sending state [] after) [] [] (afterSending p k state after)
  | outputClosed {state : (p.stage k).State} {row : Row} {rows : List Row} {after : After Failure}
      (gone : (σ.thread (k + 1)).receiverGone = true) :
      ThreadStep σ k (.sending state (row :: rows) after) [] []
        (.closing (.error (p.stage k).closedEarly))
  | send {state : (p.stage k).State} {row : Row} {rows : List Row} {after : After Failure} :
      ThreadStep σ k (.sending state (row :: rows) after) [] [.ok row] (.sending state rows after)
  | failed {failure : Failure} :
      ThreadStep σ k (.failing failure) [] [] (.closing (.error failure))
  | sendFailure {failure : Failure} :
      ThreadStep σ k (.failing failure) [] [.error failure] (.closing (.error failure))
  | close {result : Except Failure (p.stage k).Output} :
      ThreadStep σ k (.closing result) [] [] (.done result)

/-- Everything else stays as it was. -/
structure Moves (σ τ : System p) (k : Nat) (popped pushed : List (Except Failure Row)) : Prop where
  others : ∀ j, j ≠ k → τ.thread j = σ.thread j
  popped : σ.queue k = popped ++ τ.queue k
  pushed : τ.queue (k + 1) = σ.queue (k + 1) ++ pushed
  queues : ∀ j, j ≠ k → j ≠ k + 1 → τ.queue j = σ.queue j

theorem moves_set_thread (σ : System p) (k : Nat) (thread : Thread (p.stage k)) :
    Moves σ (σ.setThread k thread) k [] [] where
  others _ other := σ.set_thread_other other thread
  popped := rfl
  pushed := (List.append_nil _).symm
  queues _ _ _ := rfl

theorem moves_pop {σ : System p} {k : Nat} {message : Except Failure Row}
    {rest : List (Except Failure Row)} (front : σ.queue k = message :: rest)
    (thread : Thread (p.stage k)) :
    Moves σ ((σ.setQueue k rest).setThread k thread) k [message] [] where
  others _ other := System.set_thread_other _ other thread
  popped := by simp [front]
  pushed := by simp [System.set_queue_other]
  queues j other _ := by simp [System.set_queue_other σ other]

theorem moves_push (σ : System p) (k : Nat) (message : Except Failure Row)
    (thread : Thread (p.stage k)) :
    Moves σ ((σ.push (k + 1) message).setThread k thread) k [] [message] where
  others _ other := System.set_thread_other _ other thread
  popped := by simp [System.push, System.set_queue_other]
  pushed := by simp [System.push]
  queues j _ other := by simp [System.push, System.set_queue_other σ other]

theorem advance_cases {σ τ : System p} {k : Nat} (stepped : advance k σ = some τ) :
    ∃ popped pushed, Moves σ τ k popped pushed ∧
      ThreadStep σ k (σ.thread k) popped pushed (τ.thread k) := by
  unfold advance at stepped
  cases thread : σ.thread k with
  | starting =>
      rw [thread] at stepped
      simp only at stepped
      cases started : (p.stage k).start with
      | ok state =>
          rw [started] at stepped
          cases stepped
          refine ⟨[], [], moves_set_thread σ k _, ?_⟩
          rw [System.set_thread_same]
          exact .start started
      | error failure =>
          rw [started] at stepped
          cases stepped
          refine ⟨[], [], moves_set_thread σ k _, ?_⟩
          rw [System.set_thread_same]
          exact .startFailed started
  | collecting state batch =>
      rw [thread] at stepped
      simp only [collect] at stepped
      split at stepped
      · rename_i full
        cases stepped
        refine ⟨[], [], moves_set_thread σ k _, ?_⟩
        rw [System.set_thread_same]
        exact .compute full.1
      · cases queue : σ.queue k with
        | nil =>
            rw [queue] at stepped
            simp only at stepped
            split at stepped
            · rename_i gone
              cases stepped
              refine ⟨[], [], moves_set_thread σ k _, ?_⟩
              rw [System.set_thread_same]
              by_cases empty : batch = []
              · subst empty
                rw [if_pos rfl]
                exact .disconnect queue gone
              · rw [if_neg empty]
                exact .computeDrained empty queue gone
            · split at stepped
              · cases stepped
              · rename_i nonempty
                cases stepped
                refine ⟨[], [], moves_set_thread σ k _, ?_⟩
                rw [System.set_thread_same]
                exact .compute nonempty
        | cons message rest =>
            rw [queue] at stepped
            cases message with
            | ok row =>
                cases stepped
                refine ⟨[.ok row], [], moves_pop queue _, ?_⟩
                rw [System.set_thread_same]
                exact .receive
            | error failure =>
                cases stepped
                refine ⟨[.error failure], [], moves_pop queue _, ?_⟩
                rw [System.set_thread_same]
                by_cases empty : batch = []
                · subst empty
                  rw [if_pos rfl]
                  exact .receiveFailure
                · rw [if_neg empty]
                  exact .computeFailed empty
  | sending state rows after =>
      rw [thread] at stepped
      cases rows with
      | nil =>
          cases stepped
          refine ⟨[], [], moves_set_thread σ k _, ?_⟩
          rw [System.set_thread_same]
          exact .sent
      | cons row rows =>
          simp only at stepped
          split at stepped
          · rename_i gone
            cases stepped
            refine ⟨[], [], moves_set_thread σ k _, ?_⟩
            rw [System.set_thread_same]
            exact .outputClosed gone
          · split at stepped
            · cases stepped
              refine ⟨[], [.ok row], moves_push σ k _ _, ?_⟩
              rw [System.set_thread_same]
              exact .send
            · cases stepped
  | failing failure =>
      rw [thread] at stepped
      simp only at stepped
      split at stepped
      · cases stepped
        refine ⟨[], [], moves_set_thread σ k _, ?_⟩
        rw [System.set_thread_same]
        exact .failed
      · split at stepped
        · cases stepped
          refine ⟨[], [.error failure], moves_push σ k _ _, ?_⟩
          rw [System.set_thread_same]
          exact .sendFailure
        · cases stepped
  | closing result =>
      rw [thread] at stepped
      simp only at stepped
      split at stepped
      · cases stepped
      · cases stepped
        refine ⟨[], [], moves_set_thread σ k _, ?_⟩
        rw [System.set_thread_same]
        exact .close
  | done result =>
      rw [thread] at stepped
      cases stepped

end RwkvSrs.StagePipeline
