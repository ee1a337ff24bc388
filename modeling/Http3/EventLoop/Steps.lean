import Http3.EventLoop

/-! What one step of the event loop can do, for any protocol handler. -/

namespace Http3

def Stage.running : Stage → Bool
  | .exited _ => false
  | _ => true

@[simp] theorem Stage.running_ofRx (idx count : ℕ) (rx : List (List Packet)) :
    (LoopState.Stage.ofRx idx count rx).running = true := by
  cases rx <;> rfl

namespace LoopState

variable {H Cmd : Type} [ProtocolHandler H Cmd]

/-- The call on the handler whose events this step collects; `true` with it when it asks the
loop to shut down. -/
def call (input : LoopInput Cmd) (st : LoopState H) : Option (Bool × List Emitted × H) :=
  let budget := appEventBudget input.outstanding st.batcher.batch.length
  match st.stage with
  | .commands drained _ =>
    match input.cmd with
    | some cmd =>
      if drained < maxCommandsPerTick then
        some (ProtocolHandler.dispatchCommand input.now cmd st.handler)
      else none
    | none => none
  | .rx q =>
    match q.segments with
    | [] => none
    | p :: _ => some (false, ProtocolHandler.processPacket p 0 input.now input.scids st.handler)
  | .timers => some (false, ProtocolHandler.processTimers input.now budget st.handler)
  | .appEvents => some (false, ProtocolHandler.pollAppEvents budget input.now st.handler)
  | .drainEvents => some (false, ProtocolHandler.pollDrainEvents budget st.handler)
  | .pendingWrites => some (false, ProtocolHandler.flushPendingWrites st.handler)
  | .cleanup => some (false, ProtocolHandler.cleanupClosed st.handler)
  | _ => none

/-- What is delivered behind the log before the sentinel: nothing, or the closes and the
error of a driver that failed. -/
inductive LastWords (Cmd : Type) {H : Type} [ProtocolHandler H Cmd] : List Emitted → Prop
  | none : LastWords Cmd []
  | error (handler : H) (driver syscall reasonCode reason : String) (errno : Option ℤ) :
      LastWords Cmd ((ProtocolHandler.emitSessionCloseForAllActive handler).1 ++
        [⟨.none, .runtimeError 0 driver syscall reasonCode reason errno⟩])

/-- The outcomes of one step. -/
inductive Steps (input : LoopInput Cmd) (st : LoopState H) : LoopState H → Prop
  /-- Nothing is reported; packets may have been written out. -/
  | goes {st' : LoopState H} : st.call input = none → st'.stage.running = true →
      st'.log = st.log →
      (st'.handler = st.handler ∨
        st'.handler = (ProtocolHandler.flushSends input.rounds input.now st.handler).2) →
      Steps input st st'
  | reports {st' : LoopState H} {reported : List Emitted × H} :
      st.call input = some (false, reported) → st'.stage.running = true → st'.handler = reported.2 →
        st'.log = st.log ++ reported.1 →
      Steps input st st'
  | refused {st' : LoopState H} : st'.stage = .exited .sinkClose → Steps input st st'
  | ends {st' : LoopState H} {cause : LoopExit} {last : List Emitted} :
      st'.stage = .exited cause → cause ≠ .sinkClose → LastWords Cmd (H := H) last →
      st'.batcher = ⟨[], st.log ++ ((st.call input).elim [] fun answer => answer.2.1) ++ last ++
        [⟨none, .shutdownComplete⟩]⟩ →
      Steps input st st'

section Parts

variable (input : LoopInput Cmd) {st : LoopState H}

omit [ProtocolHandler H Cmd] in
theorem batcher_sentinel (sinkOk : Bool) (b : EventBatcher) :
    ((b.flush sinkOk).2.pushShutdownComplete.flush sinkOk).2 =
      ⟨[], b.log ++ [⟨none, .shutdownComplete⟩]⟩ := by
  rw [EventBatcher.flush_pushShutdownComplete, EventBatcher.log_flush]

theorem Steps.of_exitWith {st st₁ : LoopState H} {cause : LoopExit} (hcause : cause ≠ .sinkClose)
    (hlog : st₁.log = st.log ++ ((st.call input).elim [] fun answer => answer.2.1)) :
    Steps input st (st₁.exitWith input cause) := by
  refine .ends rfl hcause .none ?_
  show ((st₁.batcher.flush input.sinkOk).2.pushShutdownComplete.flush input.sinkOk).2 = _
  rw [batcher_sentinel, List.append_nil, ← hlog]
  rfl

theorem Steps.of_flushRuntimeError {st st₁ : LoopState H} (syscall reasonCode : String)
    (hlog : st₁.log = st.log ++ ((st.call input).elim [] fun answer => answer.2.1)) :
    Steps input st (st₁.flushRuntimeError input syscall reasonCode) := by
  refine .ends rfl LoopExit.noConfusion
    (.error st₁.handler input.driverKind syscall reasonCode input.error input.errno) ?_
  show (((EventBatcher.flush input.sinkOk _).2).pushShutdownComplete.flush input.sinkOk).2 = _
  rw [batcher_sentinel, ← hlog, EventBatcher.log_push]
  unfold log EventBatcher.log
  simp only [List.append_assoc]
  rfl

theorem Steps.of_collectAtomic {reported : List Emitted × H} {next : Stage}
    (hcall : st.call input = some (false, reported)) (hnext : next.running = true) :
    Steps input st (st.collectAtomic input reported next) := by
  unfold collectAtomic
  rcases st.batcher.appendAtomic_cases input.sinkOk reported.1 with ⟨b, heq, hlog⟩ | ⟨b, heq, -⟩
  · rw [heq]
    exact .reports hcall hnext rfl hlog
  · rw [heq]
    exact .refused rfl

theorem Steps.of_submitSends {next : Stage} (hcall : st.call input = none)
    (hnext : next.running = true) :
    Steps input st (st.submitSends input fun st => { st with stage := next }) := by
  rcases st.submitSends_cases input fun st => { st with stage := next } with heq | ⟨-, -, heq⟩
  · rw [heq]
    exact .goes hcall hnext rfl (.inr rfl)
  · rw [heq]
    refine .of_flushRuntimeError input _ _ ?_
    rw [hcall]
    exact (List.append_nil _).symm

theorem Steps.of_capFlush {next : Stage} (hcall : st.call input = none)
    (hnext : next.running = true) : Steps input st (st.capFlush input next) := by
  have hlog := st.batcher.log_flush input.sinkOk
  unfold capFlush
  split_ifs
  · generalize st.batcher.flush input.sinkOk = r at hlog ⊢
    obtain ⟨_ | _, b⟩ := r
    · exact .refused rfl
    · exact .goes hcall hnext hlog (.inl rfl)
  · exact .goes hcall hnext rfl (.inl rfl)

/-- A command is dispatched; when it asks for a shutdown, packets go out and the loop ends. -/
theorem Steps.of_command {drained : ℕ} {rx : List (List Packet)} {cmd : Cmd}
    (hcall : st.call input = some (ProtocolHandler.dispatchCommand input.now cmd st.handler)) :
    Steps input st (st.command input drained rx cmd) := by
  unfold command
  generalize ProtocolHandler.dispatchCommand input.now cmd st.handler = answer at hcall ⊢
  obtain ⟨shutdownRequested, reported⟩ := answer
  dsimp only at hcall ⊢
  have hreported : (st.collectAtomic input reported (.commands (drained + 1) rx)).stage =
      .commands (drained + 1) rx →
      (st.collectAtomic input reported (.commands (drained + 1) rx)).log = st.log ++
        reported.1 := by
    intro hstage
    unfold collectAtomic at hstage ⊢
    rcases st.batcher.appendAtomic_cases input.sinkOk reported.1 with ⟨b, heq, hlog⟩ | ⟨b, heq, -⟩
    · rw [heq]
      exact hlog
    · rw [heq] at hstage
      cases hstage
  rcases st.stage_collectAtomic input reported (.commands (drained + 1) rx) with hstage | hstage
  · have hlog := hreported hstage
    cases shutdownRequested with
    | false =>
      have hcollect : Steps input st
          (st.collectAtomic input reported (.commands (drained + 1) rx)) :=
        .of_collectAtomic input hcall rfl
      generalize st.collectAtomic input reported (.commands (drained + 1) rx) = st₁ at *
      rw [hstage]
      exact hcollect
    | true =>
      generalize st.collectAtomic input reported (.commands (drained + 1) rx) = st₁ at *
      rw [hstage]
      dsimp only
      rw [if_pos rfl]
      have hlast : st₁.log = st.log ++ ((st.call input).elim [] fun answer => answer.2.1) := by
        rw [hcall]
        exact hlog
      rcases st₁.submitSends_cases input (exitWith input · .command) with heq | ⟨-, -, heq⟩
      · rw [heq]
        exact .of_exitWith input (by simp) hlast
      · rw [heq]
        exact .of_flushRuntimeError input _ _ hlast
  · generalize st.collectAtomic input reported (.commands (drained + 1) rx) = st₁ at *
    rw [hstage]
    exact .refused hstage

end Parts

/-- Everything a running loop can do in one step. -/
theorem steps_step (input : LoopInput Cmd) {st : LoopState H} (hrun : st.stage.running = true) :
    Steps input st (st.step input) := by
  have hidle : ∀ next : Stage, next.running = true → st.call input = none →
      Steps input st { st with stage := next } :=
    fun next hnext hcall => .goes hcall hnext rfl (.inl rfl)
  have hfails : ∀ syscall reasonCode : String, st.call input = none →
      Steps input st (st.flushRuntimeError input syscall reasonCode) := by
    intro syscall reasonCode hcall
    refine .of_flushRuntimeError input syscall reasonCode ?_
    rw [hcall]
    exact (List.append_nil _).symm
  have hcall : st.call input = st.call input := rfl
  conv_rhs at hcall => unfold call
  unfold step
  dsimp only at hcall ⊢
  cases hstage : st.stage with
  | exited cause =>
    rw [hstage] at hrun
    cases hrun
  | start =>
    rw [hstage] at hcall
    exact .of_submitSends input hcall rfl
  | poll =>
    rw [hstage] at hcall
    dsimp only
    cases input.rx with
    | none => exact hfails _ _ hcall
    | some rx => exact hidle _ rfl hcall
  | commands drained rx =>
    rw [hstage] at hcall
    dsimp only at hcall ⊢
    cases hcmd : input.cmd with
    | none =>
      rw [hcmd] at hcall
      exact hidle _ rfl hcall
    | some cmd =>
      rw [hcmd] at hcall
      dsimp only at hcall ⊢
      split_ifs at hcall ⊢
      · exact .of_command input hcall
      · exact hidle _ rfl hcall
  | commandSends rx =>
    rw [hstage] at hcall
    exact .of_submitSends input hcall (by simp)
  | rx q =>
    rw [hstage] at hcall
    dsimp only at hcall ⊢
    cases hq : q.segments with
    | nil =>
      rw [hq] at hcall
      exact hidle _ rfl hcall
    | cons p segments =>
      rw [hq] at hcall
      exact .of_collectAtomic input hcall rfl
  | rxSubmit q =>
    rw [hstage] at hcall
    dsimp only
    split_ifs
    · exact hfails _ _ hcall
    · exact hidle _ rfl hcall
  | rxSends q =>
    rw [hstage] at hcall
    dsimp only
    split_ifs
    · exact .of_submitSends input hcall rfl
    · exact hidle _ rfl hcall
  | rxCap q =>
    rw [hstage] at hcall
    exact .of_capFlush input hcall (by simp)
  | timers =>
    rw [hstage] at hcall
    exact .of_collectAtomic input hcall rfl
  | appEvents =>
    rw [hstage] at hcall
    exact .of_collectAtomic input hcall rfl
  | drainEvents =>
    rw [hstage] at hcall
    exact .of_collectAtomic input hcall rfl
  | pendingWrites =>
    rw [hstage] at hcall
    exact .of_collectAtomic input hcall rfl
  | cap =>
    rw [hstage] at hcall
    exact .of_capFlush input hcall rfl
  | sends =>
    rw [hstage] at hcall
    exact .of_submitSends input hcall rfl
  | cleanup =>
    rw [hstage] at hcall
    exact .of_collectAtomic input hcall rfl
  | flush =>
    rw [hstage] at hcall
    have hlog := st.batcher.log_flush input.sinkOk
    dsimp only
    generalize st.batcher.flush input.sinkOk = r at hlog ⊢
    obtain ⟨_ | _, b⟩ := r
    · exact .refused rfl
    · exact .goes hcall rfl hlog (.inl rfl)
  | done =>
    rw [hstage] at hcall
    dsimp only
    split_ifs
    · refine .of_exitWith input (by simp) ?_
      rw [hcall]
      exact (List.append_nil _).symm
    · exact hidle _ rfl hcall

end LoopState

end Http3
