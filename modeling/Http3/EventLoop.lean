import Http3.Quiche

/-! The event loop that drives a worker: it batches what the protocol handler
reports and hands the batches to the sink. Each step of the machine is one call
the loop makes on its handler; what the driver, the channel, the sink and the
clock answer comes from outside. -/

namespace Http3

def maxBatchSize : ℕ := 2048

def maxCommandsPerTick : ℕ := 1024

/-- Outstanding events at which workers pause application events. -/
def appEventPauseHighWater : ℕ := maxBatchSize * 2

def appEventBudget (outstanding pendingBatchLen : ℕ) : ℕ :=
  if appEventPauseHighWater ≤ outstanding then 0 else maxBatchSize - pendingBatchLen

/-- Protocol-specific logic behind the loop. A call that reports events returns
the group it collected. -/
class ProtocolHandler (H : Type) (Cmd : outParam Type) where
  /-- Process one command; `true` shuts the loop down. -/
  dispatchCommand : ℕ → Cmd → H → Bool × List Emitted × H
  processPacket : Packet → ℕ → ℕ → List Bytes → H → List Emitted × H
  processTimers : ℕ → ℕ → H → List Emitted × H
  pollAppEvents : ℕ → ℕ → H → List Emitted × H
  flushSends : ℕ → ℕ → H → List Bytes × H
  flushPendingWrites : H → List Emitted × H
  pollDrainEvents : ℕ → H → List Emitted × H
  cleanupClosed : H → List Emitted × H
  emitSessionCloseForAllActive : H → List Emitted × H
  isDone : H → Bool

/-- Events not yet delivered, and those handed to the sink so far. -/
structure EventBatcher where
  batch : List Emitted
  handed : List Emitted

namespace EventBatcher

def log (b : EventBatcher) : List Emitted := b.handed ++ b.batch

/-- Hand the batch to the sink; `false` when the sink asks the loop to stop. -/
def flush (sinkOk : Bool) (b : EventBatcher) : Bool × EventBatcher :=
  if b.batch.isEmpty then (true, b) else (sinkOk, ⟨[], b.handed ++ b.batch⟩)

/-- Append an event group that must not be split over two deliveries. -/
def appendAtomic (sinkOk : Bool) (events : List Emitted) (b : EventBatcher) :
    Bool × EventBatcher :=
  if events.isEmpty then (true, b)
  else if !b.batch.isEmpty && decide (maxBatchSize < b.batch.length + events.length) then
    match b.flush sinkOk with
    | (false, b) => (false, b)
    | (true, b) => (true, { b with batch := b.batch ++ events })
  else (true, { b with batch := b.batch ++ events })

def push (event : JsH3Event) (b : EventBatcher) : EventBatcher :=
  { b with batch := pushWorker event b.batch }

def pushShutdownComplete (b : EventBatcher) : EventBatcher := b.push .shutdownComplete

@[simp] theorem log_flush (sinkOk : Bool) (b : EventBatcher) : (b.flush sinkOk).2.log = b.log := by
  unfold flush
  split_ifs
  · rfl
  · simp [log]

@[simp] theorem log_push (event : JsH3Event) (b : EventBatcher) :
    (b.push event).log = b.log ++ [⟨none, event⟩] := by
  simp [log, push, pushWorker]

theorem handed_flush (sinkOk : Bool) (b : EventBatcher) : (b.flush sinkOk).2.handed = b.log := by
  unfold flush log
  split_ifs with hempty
  · rw [List.isEmpty_iff.1 hempty, List.append_nil]
  · rfl

theorem flush_pushShutdownComplete (sinkOk : Bool) (b : EventBatcher) :
    (b.pushShutdownComplete.flush sinkOk).2 = ⟨[], b.log ++ [⟨none, .shutdownComplete⟩]⟩ := by
  have hne : b.pushShutdownComplete.batch.isEmpty = false := by
    simp [pushShutdownComplete, push, pushWorker]
  have hlog := b.log_push .shutdownComplete
  unfold flush
  rw [hne, ← hlog]
  rfl

theorem appendAtomic_cases (sinkOk : Bool) (events : List Emitted) (b : EventBatcher) :
    (∃ b', b.appendAtomic sinkOk events = (true, b') ∧ b'.log = b.log ++ events) ∨
      ∃ b', b.appendAtomic sinkOk events = (false, b') ∧ b'.log = b.log := by
  have hflush := b.log_flush sinkOk
  unfold appendAtomic
  by_cases hempty : events.isEmpty
  · rw [if_pos hempty]
    exact .inl ⟨b, rfl, by simp [List.isEmpty_iff.1 hempty]⟩
  · rw [if_neg hempty]
    split_ifs with hfull
    · generalize b.flush sinkOk = r at hflush ⊢
      obtain ⟨_ | _, b'⟩ := r
      · exact .inr ⟨b', rfl, hflush⟩
      · refine .inl ⟨_, rfl, ?_⟩
        rw [← hflush]
        simp [log]
    · exact .inl ⟨_, rfl, by simp [log]⟩

end EventBatcher

/-- Why the loop returned. -/
inductive LoopExit
  | command
  | sinkClose
  | runtimeError
  | handlerDone
  deriving DecidableEq, Repr

/-- Received datagrams the loop is working through: segments of the current one,
the datagrams behind it, and whether a reply such as a retry waits for it. -/
structure RxQueue where
  idx : ℕ
  count : ℕ
  segments : List Packet
  rest : List (List Packet)
  pendingOutbound : Bool
  deriving DecidableEq

/-- What the loop does next. -/
inductive Stage
  | start
  | poll
  | commands (drained : ℕ) (rx : List (List Packet))
  | commandSends (rx : List (List Packet))
  | rx (q : RxQueue)
  | rxSubmit (q : RxQueue)
  | rxSends (q : RxQueue)
  | rxCap (q : RxQueue)
  | timers
  | appEvents
  | drainEvents
  | pendingWrites
  | cap
  | sends
  | cleanup
  | flush
  | done
  | exited (cause : LoopExit)
  deriving DecidableEq

/-- What the outside answers during one step: the clock, the driver, the
channel, the sink, and the gauge of events JavaScript has not taken yet. -/
structure LoopInput (Cmd : Type) where
  now : ℕ := 0
  rounds : ℕ := 0
  scids : List Bytes := []
  /-- Received datagrams, each as its segments; `none` when `poll` fails. -/
  rx : Option (List (List Packet)) := some []
  cmd : Option Cmd := none
  /-- Whether the packet is answered at once, by a retry for example. -/
  answered : Bool := false
  submitOk : Bool := true
  sinkOk : Bool := true
  outstanding : ℕ := 0
  pendingTx : ℕ := 0
  driverKind : String := ""
  error : String := ""
  errno : Option ℤ := none

structure LoopState (H : Type) where
  handler : H
  batcher : EventBatcher
  stage : Stage

namespace LoopState

variable {H Cmd : Type} [ProtocolHandler H Cmd] (input : LoopInput Cmd) (st : LoopState H)

def log (st : LoopState H) : List Emitted := st.batcher.log

/-- Close every session, report the error, and leave. -/
def flushRuntimeError (syscall reasonCode : String) : LoopState H :=
  let (events, handler) := ProtocolHandler.emitSessionCloseForAllActive st.handler
  let b := { st.batcher with batch := st.batcher.batch ++ events }
  let b := b.push (.runtimeError 0 input.driverKind syscall reasonCode input.error input.errno)
  let (_, b) := b.flush input.sinkOk
  let (_, b) := b.pushShutdownComplete.flush input.sinkOk
  ⟨handler, b, .exited .runtimeError⟩

/-- Append what a call reported and go on, unless the sink is closed. -/
def collectAtomic (reported : List Emitted × H) (next : Stage) : LoopState H :=
  match st.batcher.appendAtomic input.sinkOk reported.1 with
  | (true, b) => ⟨reported.2, b, next⟩
  | (false, b) => ⟨reported.2, b, .exited .sinkClose⟩

/-- Write out packets and go on, unless the driver fails. -/
def submitSends (next : LoopState H → LoopState H) : LoopState H :=
  let (outbound, handler) := ProtocolHandler.flushSends input.rounds input.now st.handler
  let st := { st with handler }
  if !outbound.isEmpty && !input.submitOk then
    st.flushRuntimeError input "submit_sends" "driver-submit-sends-failed"
  else next st

def capFlush (next : Stage) : LoopState H :=
  if maxBatchSize ≤ st.batcher.batch.length then
    match st.batcher.flush input.sinkOk with
    | (true, b) => ⟨st.handler, b, next⟩
    | (false, b) => ⟨st.handler, b, .exited .sinkClose⟩
  else { st with stage := next }

/-- Deliver what is left, then the sentinel, and leave. -/
def exitWith (cause : LoopExit) : LoopState H :=
  let (_, b) := st.batcher.flush input.sinkOk
  let (_, b) := b.pushShutdownComplete.flush input.sinkOk
  ⟨st.handler, b, .exited cause⟩

/-- The next datagram, or the timers when there is none. -/
def Stage.ofRx (idx count : ℕ) : List (List Packet) → Stage
  | [] => .timers
  | segments :: rest => .rx ⟨idx, count, segments, rest, false⟩

def command (drained : ℕ) (rx : List (List Packet)) (cmd : Cmd) : LoopState H :=
  let (shutdownRequested, reported) :=
    ProtocolHandler.dispatchCommand input.now cmd st.handler
  let st := st.collectAtomic input reported (.commands (drained + 1) rx)
  match st.stage with
  | .exited _ => st
  | _ => if shutdownRequested then st.submitSends input (exitWith input · .command) else st

def step : LoopState H :=
  let budget := appEventBudget input.outstanding st.batcher.batch.length
  match st.stage with
  | .start => st.submitSends input fun st => { st with stage := .poll }
  | .poll =>
    match input.rx with
    | none => st.flushRuntimeError input "poll" "driver-poll-failed"
    | some rx => { st with stage := .commands 0 rx }
  | .commands drained rx =>
    match input.cmd with
    | some cmd =>
      if drained < maxCommandsPerTick then st.command input drained rx cmd
      else { st with stage := .commandSends rx }
    | none => { st with stage := .commandSends rx }
  | .commandSends rx =>
    st.submitSends input fun st => { st with stage := Stage.ofRx 0 rx.length rx }
  | .rx q =>
    match q.segments with
    | [] => { st with stage := .rxSubmit q }
    | p :: segments =>
      st.collectAtomic input
        (ProtocolHandler.processPacket p 0 input.now input.scids st.handler)
        (.rx { q with segments, pendingOutbound := q.pendingOutbound || input.answered })
  | .rxSubmit q =>
    if q.pendingOutbound && !input.submitOk then
      st.flushRuntimeError input "submit_sends" "driver-submit-sends-failed"
    else { st with stage := .rxSends q }
  | .rxSends q =>
    if (q.idx + 1) % 64 = 0 ∧ q.idx + 1 < q.count then
      st.submitSends input fun st => { st with stage := .rxCap q }
    else { st with stage := .rxCap q }
  | .rxCap q => st.capFlush input (Stage.ofRx (q.idx + 1) q.count q.rest)
  | .timers =>
    st.collectAtomic input (ProtocolHandler.processTimers input.now budget st.handler) .appEvents
  | .appEvents =>
    st.collectAtomic input (ProtocolHandler.pollAppEvents budget input.now st.handler) .drainEvents
  | .drainEvents =>
    st.collectAtomic input (ProtocolHandler.pollDrainEvents budget st.handler) .pendingWrites
  | .pendingWrites =>
    st.collectAtomic input (ProtocolHandler.flushPendingWrites st.handler) .cap
  | .cap => st.capFlush input .sends
  | .sends => st.submitSends input fun st => { st with stage := .cleanup }
  | .cleanup => st.collectAtomic input (ProtocolHandler.cleanupClosed st.handler) .flush
  | .flush =>
    match st.batcher.flush input.sinkOk with
    | (true, b) => { st with batcher := b, stage := .done }
    | (false, b) => { st with batcher := b }.exitWith input .sinkClose
  | .done =>
    if ProtocolHandler.isDone st.handler ∧ input.pendingTx = 0 then
      st.exitWith input .handlerDone
    else { st with stage := .poll }
  | .exited _ => st

omit [ProtocolHandler H Cmd] in
theorem stage_collectAtomic (reported : List Emitted × H) (next : Stage) :
    (st.collectAtomic input reported next).stage = next ∨
      (st.collectAtomic input reported next).stage = .exited .sinkClose := by
  unfold collectAtomic
  split
  · exact .inl rfl
  · exact .inr rfl

theorem submitSends_cases (next : LoopState H → LoopState H) :
    st.submitSends input next =
        next { st with handler :=
          (ProtocolHandler.flushSends input.rounds input.now st.handler).2 } ∨
      (ProtocolHandler.flushSends input.rounds input.now st.handler).1 ≠ [] ∧
        input.submitOk = false ∧
        st.submitSends input next = flushRuntimeError input
          { st with handler := (ProtocolHandler.flushSends input.rounds input.now st.handler).2 }
          "submit_sends" "driver-submit-sends-failed" := by
  unfold submitSends
  dsimp only
  split_ifs with hfails
  · simp only [Bool.and_eq_true, Bool.not_eq_true', List.isEmpty_eq_false_iff] at hfails
    exact .inr ⟨hfails.1, hfails.2, rfl⟩
  · exact .inl rfl

end LoopState

end Http3
