import Http3.H3Server.EventStream

/-! The event loop over the HTTP/3 server worker: in which runs the events it
hands to the sink form well-formed sessions, and a run in which they do not. -/

namespace Http3

/-- A closed connection is never reported as open again, whatever is read from it
or sent on it: `is_closed` of quiche is final. -/
structure Quiche.StaysClosed (Q : Type) [Quiche Q] : Prop where
  h3Poll (q : Q) : Quiche.isClosed q = true → Quiche.isClosed (Quiche.h3Poll q).2 = true
  h3RecvBody (q : Q) (streamId len : ℕ) : Quiche.isClosed q = true →
    Quiche.isClosed (Quiche.h3RecvBody q streamId len).2 = true
  dgramRecv (q : Q) : Quiche.isClosed q = true → Quiche.isClosed (Quiche.dgramRecv q).2 = true
  streamWritableNext (q : Q) : Quiche.isClosed q = true →
    Quiche.isClosed (Quiche.streamWritableNext q).2 = true
  send (q : Q) : Quiche.isClosed q = true → Quiche.isClosed (Quiche.send q).2 = true
  close (q : Q) (app : Bool) (errorCode : ℕ) (reason : String) : Quiche.isClosed q = true →
    Quiche.isClosed (Quiche.close q app errorCode reason) = true

namespace Quiche.StaysClosed

variable {Q : Type} [Quiche Q]

theorem polled (h : Quiche.StaysClosed Q) {q q' : Q} (hp : Polled q q')
    (hq : Quiche.isClosed q = true) : Quiche.isClosed q' = true := by
  induction hp with
  | refl => exact hq
  | h3Poll _ ih => exact h.h3Poll _ ih
  | h3RecvBody streamId len _ ih => exact h.h3RecvBody _ streamId len ih
  | dgramRecv _ ih => exact h.dgramRecv _ ih
  | streamWritableNext _ ih => exact h.streamWritableNext _ ih

theorem connSend (h : Quiche.StaysClosed Q) {c : H3Connection Q} (hc : c.isClosed = true) :
    c.send.2.isClosed = true := by
  have hsend := h.send c.quicheConn hc
  unfold H3Connection.send
  generalize Quiche.send c.quicheConn = r at hsend ⊢
  obtain ⟨_ | _, q⟩ := r <;> exact hsend

end Quiche.StaysClosed

namespace H3Server

variable {Q : Type} [Quiche Q]

section ClosedAt

variable {s s' : H3Server Q} {k : ℕ}

theorem ClosedAt.set (h : s.ClosedAt k) {handle : ℕ} {c d : H3Connection Q}
    (hc : s.connMap.get handle = some c) (hd : c.isClosed = true → d.isClosed = true) :
    ClosedAt { s with connMap := s.connMap.set handle d } k := by
  obtain ⟨b, hget, hclosed⟩ := h
  by_cases hk : k = handle
  · rw [hk, hc] at hget
    refine ⟨d, ?_, hd (Option.some.inj hget ▸ hclosed)⟩
    show (s.connMap.set handle d).get k = some d
    rw [ConnectionMap.get_set, if_pos ⟨hk, by rw [hc]; rfl⟩]
  · refine ⟨b, ?_, hclosed⟩
    show (s.connMap.set handle d).get k = some b
    rw [ConnectionMap.get_set, if_neg (by simp [hk])]
    exact hget

theorem ClosedAt.pollConn (h : s.ClosedAt k) (hstays : Quiche.StaysClosed Q) {handle : ℕ}
    {c : H3Connection Q} (hc : s.connMap.get handle = some c) (budget now : ℕ) :
    (s.pollConn handle budget now c).ClosedAt k :=
  h.set hc fun hclosed =>
    hstays.polled (H3Connection.pollH3Events_spec budget c s.batch).conn.quiche hclosed

theorem ClosedAt.collectAppEvents (h : s.ClosedAt k) (hstays : Quiche.StaysClosed Q)
    (budget now : ℕ) : (s.collectAppEvents budget now).ClosedAt k := by
  refine collectEvents_keeps (P := fun s : H3Server Q => s.ClosedAt k) ?_ h
  exact fun handle left s c hc _ h => h.pollConn hstays hc left now

theorem ClosedAt.collectDrainEvents (h : s.ClosedAt k) (hstays : Quiche.StaysClosed Q) :
    s.collectDrainEvents.ClosedAt k := by
  unfold H3Server.collectDrainEvents
  generalize s.connMap.handles = handles
  induction handles generalizing s with
  | nil => exact h
  | cons handle handles ih =>
    apply ih
    unfold drainConn
    split_ifs
    · exact h
    · split
      · exact h
      · next c hc =>
        split_ifs
        · exact h
        · exact h.set hc fun hclosed =>
            hstays.polled (H3Connection.pollDrainEvents_spec c s.batch).conn.quiche hclosed

theorem ClosedAt.flushAllSends (h : s.ClosedAt k) (hstays : Quiche.StaysClosed Q)
    (rounds now : ℕ) : (s.flushAllSends rounds now).2.ClosedAt k := by
  have hsends : { s with
      connMap := (s.connMap.sendRounds rounds s.connMap.handles).2 : H3Server Q }.ClosedAt k := by
    refine ConnectionMap.sendRounds_induction
      (P := fun m => { s with connMap := m : H3Server Q }.ClosedAt k) ?_ rounds _ h
    intro m handle c hc hm
    exact ClosedAt.set (s := { s with connMap := m }) hm hc hstays.connSend
  exact hsends

theorem ClosedAt.completeDueCloses (h : s.ClosedAt k) (hstays : Quiche.StaysClosed Q)
    (now : ℕ) : (s.completeDueCloses now).ClosedAt k := by
  unfold H3Server.completeDueCloses
  generalize List.map _ _ = handles
  induction handles generalizing s with
  | nil => exact h
  | cons connHandle handles ih =>
    apply ih
    unfold completeSessionClose
    split
    · exact h
    · next pending _ =>
      dsimp only
      split
      · exact h
      · next c hc =>
        exact h.set hc fun hclosed => hstays.close _ true pending.errorCode pending.reason hclosed

theorem get_flushPendingResponses (keys : List StreamKey) (hkeys : ∀ key ∈ keys, key.1.toNat ≠ k)
    (s : H3Server Q) :
    (keys.foldl flushPendingResponse s).connMap.get k = s.connMap.get k := by
  induction keys generalizing s with
  | nil => rfl
  | cons key keys ih =>
    have hone := (s.flushPendingResponse_retries key).conns k (hkeys key (by simp)).symm
    exact (ih (fun key' hkey' => hkeys key' (by simp [hkey'])) _).trans hone

theorem get_flushAllPendingWrites (hnone : ∀ key, s.HasPending key → key.1.toNat ≠ k) :
    s.flushAllPendingWrites.connMap.get k = s.connMap.get k := by
  have hdrains : ∀ (entries : List (StreamKey × ConnRef)) (s : H3Server Q),
      (entries.foldl (fun s entry =>
        s.emit entry.2 (.drain (s.handleOffset ||| entry.1.1) entry.1.2)) s).connMap =
        s.connMap := by
    intro entries
    induction entries with
    | nil => exact fun _ => rfl
    | cons entry entries ih => exact fun s => ih _
  have hresponses := get_flushPendingResponses (k := k) s.pendingResponses.keys
    (fun key hkey => hnone key (.inr (AList.lookup_isSome.2 hkey))) s
  have hwrites := (flushPendingResponses_pending s.pendingResponses.keys s).1
  unfold flushAllPendingWrites
  dsimp only
  rw [hdrains, connMap_releaseOutboundAdmission, ← hresponses]
  refine (flushPendingWrites_sound _).conns k ?_
  rw [hwrites]
  exact fun key hkey => hnone key (.inl hkey)

end ClosedAt

/-- Run a call on an empty batch and take what it reports. -/
def reported (f : H3Server Q → H3Server Q) (s : H3Server Q) : List Emitted × H3Server Q :=
  let s := f s.startBatch
  (s.batch, s.startBatch)

instance : ProtocolHandler (H3Server Q) WorkerCommand where
  dispatchCommand now cmd s :=
    ((s.startBatch.dispatchCommand now cmd).1, reported (fun s => (s.dispatchCommand now cmd).2) s)
  processPacket p budget now scids := reported (processPacket p budget now scids)
  processTimers now budget := reported (expireTimers now budget)
  pollAppEvents budget now := reported (collectAppEvents budget now)
  flushSends rounds now s := s.flushAllSends rounds now
  flushPendingWrites := reported flushAllPendingWrites
  pollDrainEvents _ := reported collectDrainEvents
  cleanupClosed := reported reapClosedConnections
  emitSessionCloseForAllActive := reported emitSessionCloseForAllActive
  isDone _ := false

end H3Server

/-- The part of an iteration in which a reported close may precede the reaping. -/
def Stage.afterTimers : Stage → Bool
  | .appEvents | .drainEvents | .pendingWrites | .cap | .sends | .cleanup => true
  | _ => false

namespace H3Loop

open H3Server

variable {Q : Type} [Quiche Q]

/-- What holds while the loop runs: the log tracks the slab, and sessions that
ended before their connection is gone were ended by the timers of this iteration. -/
structure Running (st : LoopState (H3Server Q)) : Prop where
  batch : st.handler.batch = []
  tracks : Tracks st.log st.handler
  ended : ∀ k, st.handler.Ended st.log k →
    st.stage.afterTimers = true ∧ k ∈ st.handler.lastExpired ∧ st.handler.ClosedAt k

/-- What is left to say once the loop has returned depends on why. -/
def Sound (offset : UInt32) (st : LoopState (H3Server Q)) : Prop :=
  st.handler.handleOffset = offset ∧
    match st.stage with
    | .exited .runtimeError => st.batcher.handed = st.log ∧
        ∀ k < 2 ^ 20, sessionPhase (globalHandle offset k) st.log = .idle
    | .exited .sinkClose => ∀ k < 2 ^ 20, sessionPhase (globalHandle offset k) st.log ≠ .broken
    | .exited _ => st.batcher.handed = st.log ∧ st.handler.batch = [] ∧ Tracks st.log st.handler
    | _ => Running st

variable {offset : UInt32} {input : LoopInput WorkerCommand} {st : LoopState (H3Server Q)}

theorem Running.sound (h : Running st) (hoff : st.handler.handleOffset = offset)
    (hstage : ∀ cause, st.stage ≠ .exited cause) : Sound offset st := by
  refine ⟨hoff, ?_⟩
  split
  · next hexit => exact absurd hexit (hstage _)
  · next hexit => exact absurd hexit (hstage _)
  · next hexit => exact absurd hexit (hstage _)
  · exact h

theorem Sound.flushRuntimeError (hoff : st.handler.handleOffset = offset)
    (hbatch : st.handler.batch = []) (htracks : Tracks st.log st.handler)
    (hfresh : ∀ k, ¬st.handler.Ended st.log k) (syscall reasonCode : String) :
    Sound offset (st.flushRuntimeError input syscall reasonCode) := by
  have hstart : st.handler.startBatch = st.handler := by
    rw [startBatch, ← hbatch]
  have hkeep := (emitSessionCloseForAllActive_course st.handler).1.handleOffset
  refine ⟨?_, ?_, ?_⟩
  · show st.handler.startBatch.emitSessionCloseForAllActive.handleOffset = offset
    rw [hstart, hkeep, hoff]
  · unfold LoopState.log LoopState.flushRuntimeError
    dsimp only
    rw [EventBatcher.handed_flush, EventBatcher.log_flush]
  · intro k hk
    have hidle := htracks.emitSessionCloseForAllActive hfresh hk
    unfold phaseAt at hidle
    rw [hkeep, hoff] at hidle
    unfold LoopState.log LoopState.flushRuntimeError
    dsimp only
    rw [EventBatcher.log_flush, EventBatcher.pushShutdownComplete, EventBatcher.log_push,
      sessionPhase_worker, EventBatcher.log_flush, EventBatcher.log_push, sessionPhase_worker]
    show sessionPhase (globalHandle offset k) (st.batcher.handed ++ (st.batcher.batch ++
      st.handler.startBatch.emitSessionCloseForAllActive.batch)) = .idle
    rw [hstart, ← List.append_assoc]
    exact hidle

theorem Sound.collectAtomic {f : H3Server Q → H3Server Q} {next : Stage}
    (hrun : Running st) (hoff : (f st.handler).handleOffset = offset)
    (hold : st.handler.handleOffset = offset) (htracks : Tracks st.log (f st.handler))
    (hended : ∀ k, (f st.handler).Ended st.log k → next.afterTimers = true ∧
      k ∈ (f st.handler).lastExpired ∧ (f st.handler).ClosedAt k)
    (hnext : ∀ cause, next ≠ .exited cause) :
    Sound offset (st.collectAtomic input (reported f st.handler) next) := by
  have hstart : st.handler.startBatch = st.handler := by
    rw [startBatch, ← hrun.batch]
  unfold LoopState.collectAtomic reported
  dsimp only
  rw [hstart]
  rcases st.batcher.appendAtomic_cases input.sinkOk (f st.handler).batch with
    ⟨b, heq, hlog⟩ | ⟨b, heq, hlog⟩
  · rw [heq]
    refine Running.sound ⟨rfl, ?_, ?_⟩ hoff hnext
    · show Tracks b.log _
      rw [hlog]
      exact htracks.startBatch
    · intro k hk
      have hk : (f st.handler).startBatch.Ended b.log k := hk
      rw [hlog] at hk
      exact hended k hk.of_startBatch
  · rw [heq]
    refine ⟨hoff, ?_⟩
    intro k hk
    show sessionPhase _ b.log ≠ .broken
    rw [hlog, ← phaseAt_of_batch hrun.batch hold k]
    exact hrun.tracks.wellFormed k hk

theorem Running.toStage (h : Running st) {next : Stage}
    (hnext : st.stage.afterTimers = true → next.afterTimers = true) :
    Running { st with stage := next } :=
  ⟨h.batch, h.tracks, fun k hk => ⟨hnext (h.ended k hk).1, (h.ended k hk).2⟩⟩

theorem Running.fresh (h : Running st) (hstage : st.stage.afterTimers = false) (k : ℕ) :
    ¬st.handler.Ended st.log k := by
  intro hk
  have := (h.ended k hk).1
  rw [hstage] at this
  cases this

/-- Writing out packets; a failing driver must not find a session ended already. -/
theorem Sound.submitSends (hstays : Quiche.StaysClosed Q) (hrun : Running st)
    (hoff : st.handler.handleOffset = offset)
    (hfail : input.submitOk = true ∨ (st.handler.flushAllSends input.rounds input.now).1 = [] ∨
      ∀ k, ¬st.handler.Ended st.log k)
    {next : LoopState (H3Server Q) → LoopState (H3Server Q)}
    (hnext : ∀ st', Running st' → st'.handler.handleOffset = offset → st'.stage = st.stage →
      Sound offset (next st')) :
    Sound offset (st.submitSends input next) := by
  have hsteady := flushAllSends_steady (P := fun k => ¬st.handler.Ended st.log k) input.rounds
    input.now st.handler
  have hbatch : (st.handler.flushAllSends input.rounds input.now).2.batch = st.handler.batch := rfl
  have hclosed := fun k (h : st.handler.ClosedAt k) =>
    h.flushAllSends hstays input.rounds input.now
  obtain ⟨htracks, hends⟩ := hrun.tracks.steady hsteady
  have hrun' : Running { st with
      handler := (st.handler.flushAllSends input.rounds input.now).2 } := by
    refine ⟨hbatch.trans hrun.batch, htracks, ?_⟩
    intro k hk
    obtain ⟨hstage, hlast, hcl⟩ := hrun.ended k (hends k hk)
    refine ⟨hstage, ?_, hclosed k hcl⟩
    show k ∈ (st.handler.flushAllSends input.rounds input.now).2.lastExpired
    rw [hsteady.lastExpired]
    exact hlast
  have hoff' := hsteady.handleOffset.trans hoff
  rcases LoopState.submitSends_cases input st next with hnextEq | ⟨hne, hsubmit, hfailEq⟩
  · rw [hnextEq]
    exact hnext _ hrun' hoff' rfl
  · rw [hfailEq]
    rcases hfail with hok | hempty | hfresh
    · rw [hok] at hsubmit
      cases hsubmit
    · exact absurd hempty hne
    · exact @Sound.flushRuntimeError _ _ _ input
        { st with handler := (st.handler.flushAllSends input.rounds input.now).2 } hoff'
        hrun'.batch hrun'.tracks (fun k hk => hfresh k (hends k hk)) _ _

theorem Sound.exitWith (hrun : Running st) (hoff : st.handler.handleOffset = offset)
    (cause : LoopExit) (hcause : cause ≠ .runtimeError) :
    Sound offset (st.exitWith input cause) := by
  have hlog : (st.exitWith input cause).log = st.log ++ [⟨none, .shutdownComplete⟩] := by
    unfold LoopState.log LoopState.exitWith EventBatcher.pushShutdownComplete
    dsimp only
    rw [EventBatcher.log_flush, EventBatcher.log_push, EventBatcher.log_flush]
  have hhanded : (st.exitWith input cause).batcher.handed = (st.exitWith input cause).log := by
    unfold LoopState.log LoopState.exitWith
    dsimp only
    rw [EventBatcher.handed_flush, EventBatcher.log_flush]
  have hphase : ∀ k, st.handler.phaseAt (st.exitWith input cause).log k =
      st.handler.phaseAt st.log k := by
    intro k
    rw [phaseAt_of_batch hrun.batch hoff, phaseAt_of_batch hrun.batch hoff, hlog,
      sessionPhase_worker]
  have htracks : Tracks (st.exitWith input cause).log st.handler := by
    refine ⟨hrun.tracks.sharded, ?_, ?_⟩
    · intro k hk
      rw [hphase]
      exact hrun.tracks.wellFormed k hk
    · intro k hk hnone
      rw [hphase]
      exact hrun.tracks.vacant k hk hnone
  refine ⟨hoff, ?_⟩
  cases cause with
  | runtimeError => exact absurd rfl hcause
  | sinkClose =>
    intro k hk
    rw [← phaseAt_of_batch hrun.batch hoff k]
    exact htracks.wellFormed k hk
  | command => exact ⟨hhanded, hrun.batch, htracks⟩
  | handlerDone => exact ⟨hhanded, hrun.batch, htracks⟩

theorem Running.rebatch (h : Running st) {b : EventBatcher} (hlog : b.log = st.log) :
    Running { st with batcher := b } := by
  refine ⟨h.batch, ?_, ?_⟩
  · show Tracks b.log _
    rw [hlog]
    exact h.tracks
  · intro k hk
    have hk : st.handler.Ended b.log k := hk
    rw [hlog] at hk
    exact h.ended k hk

theorem Sound.capFlush (hrun : Running st) (hoff : st.handler.handleOffset = offset) {next : Stage}
    (hnext : st.stage.afterTimers = true → next.afterTimers = true)
    (hexit : ∀ cause, next ≠ .exited cause) : Sound offset (st.capFlush input next) := by
  have hlog := st.batcher.log_flush input.sinkOk
  unfold LoopState.capFlush
  split_ifs
  · generalize st.batcher.flush input.sinkOk = r at hlog ⊢
    obtain ⟨_ | _, b⟩ := r
    · refine ⟨hoff, ?_⟩
      intro k hk
      show sessionPhase _ b.log ≠ .broken
      rw [hlog, ← phaseAt_of_batch hrun.batch hoff k]
      exact hrun.tracks.wellFormed k hk
    · exact ((hrun.rebatch hlog).toStage hnext).sound hoff hexit
  · exact (hrun.toStage hnext).sound hoff hexit

/-- Nothing is pending on a connection whose close was reported. -/
def NothingWaits (st : LoopState (H3Server Q)) : Prop :=
  ∀ key ∈ st.handler.pendingWrites.keys ++ st.handler.pendingResponses.keys,
    ¬st.handler.Ended st.log key.1.toNat

/-- The condition under which a stage may run, with `drained` for a connection
that has nothing left to report. -/
def QuietAt (drained : H3Connection Q → Prop) (input : LoopInput WorkerCommand)
    (st : LoopState (H3Server Q)) : Stage → Prop
  | .appEvents => appEventBudget input.outstanding st.batcher.batch.length = 0 ∨
      ∀ k ∈ st.handler.connMap.handles, st.handler.Ended st.log k →
        ∀ c ∈ st.handler.connMap.get k, drained c
  | .pendingWrites => NothingWaits st
  | .sends => input.submitOk = true ∨ (st.handler.flushAllSends input.rounds input.now).1 = [] ∨
      ∀ k ∈ st.handler.connMap.handles, ¬st.handler.Ended st.log k
  | .cleanup => NothingWaits st ∧ ∀ k ∈ st.handler.lastExpired,
      (∃ c ∈ st.handler.connMap.get k, c.isClosed = true) → st.handler.Ended st.log k
  | _ => True

/-- Between a close reported by a timer and the reaping of the connection, in the
same iteration, nothing more may come up about it: polling finds it drained,
nothing is pending on it, and the driver does not fail. And a connection whose
timer fired without closing it does not close before the reaping, which would
take its close for reported. -/
def Quiet (input : LoopInput WorkerCommand) (st : LoopState (H3Server Q)) : Prop :=
  QuietAt H3Connection.Drained input st st.stage

omit [Quiche Q] in
theorem NothingWaits.pending (h : NothingWaits st) (key : StreamKey)
    (hkey : st.handler.HasPending key) : ¬st.handler.Ended st.log key.1.toNat := by
  apply h
  rw [List.mem_append]
  exact hkey.imp AList.lookup_isSome.1 AList.lookup_isSome.1

section Steps

variable (hrun : Running st) (hoff : st.handler.handleOffset = offset)

include hrun hoff

theorem Sound.collectSteady {f : H3Server Q → H3Server Q} {next : Stage}
    (hsteady : Steady (fun k => ¬st.handler.Ended st.log k) st.handler (f st.handler))
    (hclosed : ∀ k, st.handler.Ended st.log k → st.handler.ClosedAt k →
      (f st.handler).ClosedAt k)
    (hnext : st.stage.afterTimers = true → next.afterTimers = true)
    (hexit : ∀ cause, next ≠ .exited cause) :
    Sound offset (st.collectAtomic input (reported f st.handler) next) := by
  obtain ⟨htracks, hends⟩ := hrun.tracks.steady hsteady
  refine Sound.collectAtomic hrun (hsteady.handleOffset.trans hoff) hoff htracks ?_ hexit
  intro k hk
  obtain ⟨hstage, hlast, hcl⟩ := hrun.ended k (hends k hk)
  refine ⟨hnext hstage, ?_, hclosed k (hends k hk) hcl⟩
  rw [hsteady.lastExpired]
  exact hlast

theorem Sound.dispatch (hstage : st.stage.afterTimers = false) (cmd : WorkerCommand)
    {next : Stage} (hexit : ∀ cause, next ≠ .exited cause) :
    Sound offset (st.collectAtomic input
      (reported (fun s => (s.dispatchCommand input.now cmd).2) st.handler) next) := by
  have hfresh := hrun.fresh hstage
  by_cases hcmd : cmd = .shutdown
  · refine Sound.collectSteady hrun hoff ?_ (fun k hk => absurd hk (hfresh k)) ?_ hexit
    · rw [hcmd]
      exact dispatchShutdown_steady st.handler
    · simp [hstage]
  · have hacts := (dispatchCommand_spec input.now hcmd st.handler).1
    have hg : reportHandle st.handler.handleOffset cmd =
          globalHandle st.handler.handleOffset (commandConnHandle cmd).toNat ∨
        reportHandle st.handler.handleOffset cmd =
          UInt32.ofNat (commandConnHandle cmd).toNat := by
      rw [globalHandle_toNat, UInt32.ofNat_toNat]
      cases cmd <;> first | exact .inl rfl | exact .inr rfl
    obtain ⟨htracks, hends⟩ := hrun.tracks.actsOn hacts hg (hfresh _)
    refine Sound.collectAtomic hrun (hacts.handleOffset.trans hoff) hoff htracks ?_ hexit
    exact fun k hk => absurd (hends k hk) (hfresh k)

theorem Sound.command (hstays : Quiche.StaysClosed Q) (hstage : st.stage.afterTimers = false)
    (drained : ℕ) (rx : List (List Packet)) (cmd : WorkerCommand) :
    Sound offset (st.command input drained rx cmd) := by
  have hdispatch : Sound offset (st.collectAtomic input
      (reported (fun s => (s.dispatchCommand input.now cmd).2) st.handler)
      (.commands (drained + 1) rx)) := Sound.dispatch hrun hoff hstage cmd (by simp)
  have hreported : (ProtocolHandler.dispatchCommand input.now cmd st.handler).2 =
      reported (fun s => (s.dispatchCommand input.now cmd).2) st.handler := rfl
  unfold LoopState.command
  dsimp only
  rw [hreported]
  rcases st.stage_collectAtomic input
    (reported (fun s => (s.dispatchCommand input.now cmd).2) st.handler)
    (.commands (drained + 1) rx) with heq | heq
  · rw [heq]
    have hdispatch' := hdispatch
    obtain ⟨hoff', hrun'⟩ := hdispatch'
    rw [heq] at hrun'
    dsimp only at hrun' ⊢
    split_ifs
    · refine Sound.submitSends hstays hrun' hoff' (.inr (.inr (hrun'.fresh (by rw [heq]; rfl)))) ?_
      intro st' hrun'' hoff'' _
      exact Sound.exitWith hrun'' hoff'' .command (by simp)
    · exact hdispatch
  · rw [heq]
    exact hdispatch

theorem Sound.packet (hstage : st.stage.afterTimers = false) (p : Packet) {next : Stage}
    (hexit : ∀ cause, next ≠ .exited cause) :
    Sound offset (st.collectAtomic input
      (reported (processPacket p 0 input.now input.scids) st.handler) next) := by
  have hfresh := hrun.fresh hstage
  rcases packetArrives_sessions false p 0 input.now input.scids st.handler with ⟨slot, hacts⟩ |
    ⟨slot, s₁, hopens, hacts, -⟩
  · obtain ⟨htracks, hends⟩ := hrun.tracks.actsOn hacts (.inl rfl) (hfresh slot)
    refine Sound.collectAtomic hrun (hacts.handleOffset.trans hoff) hoff htracks ?_ hexit
    exact fun k hk => absurd (hends k hk) (hfresh k)
  · obtain ⟨hopened, hends₁⟩ := hrun.tracks.opens hopens
    obtain ⟨htracks, hends⟩ := hopened.actsOn hacts (.inl (by rw [hopens.handleOffset]))
      fun hend => hfresh slot (hends₁ slot hend)
    refine Sound.collectAtomic hrun ?_ hoff htracks ?_ hexit
    · exact hacts.handleOffset.trans (hopens.handleOffset.trans hoff)
    · exact fun k hk => absurd (hends₁ k (hends k hk)) (hfresh k)

theorem Sound.timers (hstays : Quiche.StaysClosed Q) (hstage : st.stage.afterTimers = false)
    (budget : ℕ) :
    Sound offset (st.collectAtomic input
      (reported (expireTimers input.now budget) st.handler) .appEvents) := by
  obtain ⟨htracks, hends⟩ := hrun.tracks.runTimers input.now budget (hrun.fresh hstage)
  have hsteady := completeDueCloses_steady
    (P := fun k => ¬(st.handler.runTimers input.now budget).Ended st.log k) input.now
    (st.handler.runTimers input.now budget)
  obtain ⟨htracks', hends'⟩ := htracks.steady hsteady
  refine Sound.collectAtomic hrun ?_ hoff htracks' ?_ (by simp)
  · exact (expireTimers_course input.now budget st.handler).1.handleOffset.trans hoff
  · intro k hk
    obtain ⟨hlast, hclosed⟩ := hends k (hends' k hk)
    refine ⟨rfl, ?_, hclosed.completeDueCloses hstays input.now⟩
    unfold expireTimers
    rw [hsteady.lastExpired]
    exact hlast

theorem Sound.appEvents (hstays : Quiche.StaysClosed Q) (hstage : st.stage = .appEvents)
    (hquiet : Quiet input st) :
    Sound offset (st.collectAtomic input (reported (collectAppEvents
      (appEventBudget input.outstanding st.batcher.batch.length) input.now) st.handler)
      .drainEvents) := by
  unfold Quiet at hquiet
  rw [hstage] at hquiet
  refine Sound.collectSteady hrun hoff (collectAppEvents_steady _ _ _ ?_)
    (fun k _ hclosed => hclosed.collectAppEvents hstays _ _) (fun _ => rfl) (by simp)
  refine hquiet.imp id ?_
  intro hdrained handle c hget
  have hmem : handle ∈ st.handler.connMap.handles := by
    rw [ConnectionMap.mem_handles, hget]
    rfl
  by_cases hend : st.handler.Ended st.log handle
  · exact .inr (hdrained handle hmem hend c hget)
  · exact .inl hend

theorem Sound.pendingWrites (hquiet : NothingWaits st) :
    Sound offset (st.collectAtomic input (reported flushAllPendingWrites st.handler) .cap) := by
  refine Sound.collectSteady hrun hoff (flushAllPendingWrites_steady _ ?_) ?_ (fun _ => rfl)
    (by simp)
  · constructor
    · intro key hkey
      exact hquiet.pending key (.inl hkey)
    · intro key hkey
      exact hquiet.pending key (.inr hkey)
  · rintro k hend ⟨c, hget, hclosed⟩
    refine ⟨c, ?_, hclosed⟩
    rw [get_flushAllPendingWrites]
    · exact hget
    · rintro key hkey rfl
      exact hquiet.pending key hkey hend

theorem Sound.cleanup (hstage : st.stage = .cleanup) (hquiet : Quiet input st) :
    Sound offset (st.collectAtomic input (reported reapClosedConnections st.handler) .flush) := by
  unfold Quiet at hquiet
  rw [hstage] at hquiet
  obtain ⟨hwaits, hskipped⟩ := hquiet
  obtain ⟨htracks, hfresh⟩ := hrun.tracks.reapClosedConnections
    (fun k hk => (hrun.ended k hk).2) hskipped hwaits.pending
  refine Sound.collectAtomic hrun ?_ hoff htracks (fun k hk => absurd hk (hfresh k)) (by simp)
  exact st.handler.reapClosedConnections_spec.2.1.trans hoff

end Steps

/-- Every step of the loop that meets the condition keeps it sound. -/
theorem step_sound (hstays : Quiche.StaysClosed Q) (input : LoopInput WorkerCommand)
    (st : LoopState (H3Server Q)) (h : Sound offset st) (hquiet : Quiet input st) :
    Sound offset (LoopState.step input st) := by
  obtain ⟨hoff, hmatch⟩ := h
  unfold LoopState.step
  dsimp only
  cases hstage : st.stage with
  | exited cause =>
    refine ⟨hoff, ?_⟩
    rw [hstage]
    rw [hstage] at hmatch
    exact hmatch
  | start =>
    rw [hstage] at hmatch
    refine Sound.submitSends hstays hmatch hoff
      (.inr (.inr (hmatch.fresh (by rw [hstage]; rfl)))) ?_
    intro st' hrun' hoff' hst'
    exact (hrun'.toStage (by simp [hst', hstage, Stage.afterTimers])).sound hoff' (by simp)
  | poll =>
    rw [hstage] at hmatch
    dsimp only
    cases input.rx with
    | none =>
      exact Sound.flushRuntimeError hoff hmatch.batch hmatch.tracks
        (hmatch.fresh (by rw [hstage]; rfl)) _ _
    | some rx => exact (hmatch.toStage (by simp [hstage, Stage.afterTimers])).sound hoff (by simp)
  | commands drained rx =>
    rw [hstage] at hmatch
    have hnext : Sound offset { st with stage := .commandSends rx } :=
      (hmatch.toStage (by simp [hstage, Stage.afterTimers])).sound hoff (by simp)
    dsimp only
    cases input.cmd with
    | none => exact hnext
    | some cmd =>
      dsimp only
      split_ifs
      · exact Sound.command hmatch hoff hstays (by rw [hstage]; rfl) drained rx cmd
      · exact hnext
  | commandSends rx =>
    rw [hstage] at hmatch
    refine Sound.submitSends hstays hmatch hoff
      (.inr (.inr (hmatch.fresh (by rw [hstage]; rfl)))) ?_
    intro st' hrun' hoff' hst'
    refine (hrun'.toStage (by simp [hst', hstage, Stage.afterTimers])).sound hoff' ?_
    cases rx <;> simp [LoopState.Stage.ofRx]
  | rx q =>
    rw [hstage] at hmatch
    dsimp only
    cases q.segments with
    | nil => exact (hmatch.toStage (by simp [hstage, Stage.afterTimers])).sound hoff (by simp)
    | cons p segments => exact Sound.packet hmatch hoff (by rw [hstage]; rfl) p (by simp)
  | rxSubmit q =>
    rw [hstage] at hmatch
    dsimp only
    split_ifs
    · exact Sound.flushRuntimeError hoff hmatch.batch hmatch.tracks
        (hmatch.fresh (by rw [hstage]; rfl)) _ _
    · exact (hmatch.toStage (by simp [hstage, Stage.afterTimers])).sound hoff (by simp)
  | rxSends q =>
    rw [hstage] at hmatch
    dsimp only
    split_ifs
    · refine Sound.submitSends hstays hmatch hoff
        (.inr (.inr (hmatch.fresh (by rw [hstage]; rfl)))) ?_
      intro st' hrun' hoff' hst'
      exact (hrun'.toStage (by simp [hst', hstage, Stage.afterTimers])).sound hoff' (by simp)
    · exact (hmatch.toStage (by simp [hstage, Stage.afterTimers])).sound hoff (by simp)
  | rxCap q =>
    rw [hstage] at hmatch
    refine Sound.capFlush hmatch hoff (by simp [hstage, Stage.afterTimers]) ?_
    cases q.rest <;> simp [LoopState.Stage.ofRx]
  | timers =>
    rw [hstage] at hmatch
    exact Sound.timers hmatch hoff hstays (by rw [hstage]; rfl) _
  | appEvents =>
    rw [hstage] at hmatch
    exact Sound.appEvents hmatch hoff hstays hstage hquiet
  | drainEvents =>
    rw [hstage] at hmatch
    refine Sound.collectSteady hmatch hoff (collectDrainEvents_steady _ ?_)
      (fun k _ hclosed => hclosed.collectDrainEvents hstays) (fun _ => rfl) (by simp)
    -- the drain pass leaves out exactly the handles whose timer expired
    intro handle hlast hend
    exact hlast (hmatch.ended handle hend).2.1
  | pendingWrites =>
    unfold Quiet at hquiet
    rw [hstage] at hmatch hquiet
    exact Sound.pendingWrites hmatch hoff hquiet
  | cap =>
    rw [hstage] at hmatch
    exact Sound.capFlush hmatch hoff (fun _ => rfl) (by simp)
  | sends =>
    unfold Quiet at hquiet
    rw [hstage] at hmatch hquiet
    refine Sound.submitSends hstays hmatch hoff ?_ ?_
    · refine hquiet.imp id (Or.imp id ?_)
      intro hfresh k hend
      refine hfresh k ?_ hend
      rw [ConnectionMap.mem_handles]
      simpa [uidAt] using hend.1
    · intro st' hrun' hoff' _
      exact (hrun'.toStage (fun _ => rfl)).sound hoff' (by simp)
  | cleanup =>
    rw [hstage] at hmatch
    exact Sound.cleanup hmatch hoff hstage hquiet
  | flush =>
    rw [hstage] at hmatch
    have hlog := st.batcher.log_flush input.sinkOk
    dsimp only
    generalize st.batcher.flush input.sinkOk = r at hlog ⊢
    obtain ⟨_ | _, b⟩ := r
    · exact Sound.exitWith (hmatch.rebatch hlog) hoff .sinkClose (by simp)
    · exact ((hmatch.rebatch hlog).toStage (by simp [hstage, Stage.afterTimers])).sound hoff
        (by simp)
  | done =>
    rw [hstage] at hmatch
    -- a server is never done by itself
    refine (if_neg ?_).symm ▸ ?_
    · simp [ProtocolHandler.isDone]
    · exact (hmatch.toStage (by simp [hstage, Stage.afterTimers])).sound hoff (by simp)

def init (offset maxConnections : UInt32) (disableRetry : Bool) (streamReadWindow : Option ℕ)
    (requireClientCert : Bool) : LoopState (H3Server Q) :=
  ⟨.init offset maxConnections disableRetry streamReadWindow requireClientCert, ⟨[], []⟩, .start⟩

theorem init_sound {w maxConnections : UInt32} (hw : w.toNat < 2 ^ 12)
    (hmax : maxConnections.toNat ≤ 2 ^ 20) (disableRetry : Bool) (streamReadWindow : Option ℕ)
    (requireClientCert : Bool) :
    Sound (Q := Q) (handleOffset w)
      (init (handleOffset w) maxConnections disableRetry streamReadWindow requireClientCert) := by
  have hvacant : ∀ k, (H3Server.init (Q := Q) (handleOffset w) maxConnections disableRetry
      streamReadWindow requireClientCert).uidAt k = none := fun k => rfl
  refine Running.sound ⟨rfl, ⟨⟨⟨w, hw, rfl⟩, hmax⟩, ?_, fun _ _ _ => rfl⟩, ?_⟩ rfl (by simp [init])
  · intro k _ hbroken
    cases hbroken
  · rintro k ⟨hlive, -⟩
    cases hlive

/-- A connection has had its NEW_SESSION, and its SESSION_CLOSE only if a timer has just
closed it. -/
theorem Running.opened (h : Running st) (hoff : st.handler.handleOffset = offset) {slot : ℕ}
    (hslot : slot < 2 ^ 20) {c : H3Connection Q} (hget : st.handler.connMap.get slot = some c) :
    sessionPhase (globalHandle offset slot) st.log = .opened ∨
      st.stage.afterTimers = true ∧ c.isClosed = true := by
  have hlive : (st.handler.uidAt slot).isSome := by
    rw [uidAt, hget]
    rfl
  rw [← phaseAt_of_batch h.batch hoff slot]
  cases hphase : st.handler.phaseAt st.log slot with
  | idle =>
    obtain ⟨hstage, -, d, hd, hclosed⟩ := h.ended slot ⟨hlive, hphase⟩
    obtain rfl := Option.some.inj (hd.symm.trans hget)
    exact .inr ⟨hstage, hclosed⟩
  | opened => exact .inl rfl
  | broken => exact absurd hphase (h.tracks.wellFormed slot hslot)

/-- What a sound state says about the events delivered so far. -/
theorem Sound.delivered (h : Sound offset st) {slot : ℕ} (hslot : slot < 2 ^ 20) :
    sessionPhase (globalHandle offset slot) st.log ≠ .broken ∧
      (st.handler.connMap.get slot = none → st.stage ≠ .exited .sinkClose →
        sessionPhase (globalHandle offset slot) st.log = .idle) ∧
      (st.stage = .exited .runtimeError →
        sessionPhase (globalHandle offset slot) st.log = .idle) ∧
      (∀ cause, st.stage = .exited cause → cause ≠ .sinkClose →
        st.batcher.handed = st.log) ∧
      ∀ c, st.handler.connMap.get slot = some c → (∀ cause, st.stage ≠ .exited cause) →
        sessionPhase (globalHandle offset slot) st.log = .opened ∨
          st.stage.afterTimers = true ∧ c.isClosed = true := by
  obtain ⟨hoff, hmatch⟩ := h
  have hfrom : ∀ {log : List Emitted}, st.handler.batch = [] → Tracks log st.handler →
      sessionPhase (globalHandle offset slot) log ≠ .broken ∧
        (st.handler.connMap.get slot = none →
          sessionPhase (globalHandle offset slot) log = .idle) := by
    intro log hbatch htracks
    rw [← phaseAt_of_batch hbatch hoff slot]
    refine ⟨htracks.wellFormed slot hslot, fun hnone => htracks.vacant slot hslot ?_⟩
    rw [uidAt, hnone]
    rfl
  split at hmatch
  · next hstage =>
    obtain ⟨hhanded, hidle⟩ := hmatch
    exact ⟨by simp [hidle slot hslot], fun _ _ => hidle slot hslot, fun _ => hidle slot hslot,
      fun _ _ _ => hhanded, fun _ _ hruns => absurd hstage (hruns _)⟩
  · next hstage =>
    refine ⟨hmatch slot hslot, fun _ hne => absurd hstage hne, ?_, ?_,
      fun _ _ hruns => absurd hstage (hruns _)⟩
    · intro hfail
      rw [hstage] at hfail
      cases hfail
    · intro cause hcause hne
      rw [hstage] at hcause
      exact absurd (Stage.exited.inj hcause).symm hne
  · next cause hruntime hsink hstage =>
    obtain ⟨hhanded, hbatch, htracks⟩ := hmatch
    obtain ⟨hwf, hvacant⟩ := hfrom hbatch htracks
    refine ⟨hwf, fun hnone _ => hvacant hnone, ?_, fun _ _ _ => hhanded,
      fun _ _ hruns => absurd hstage (hruns _)⟩
    intro hfail
    rw [hstage] at hfail
    exact absurd (Stage.exited.inj hfail) hruntime
  · next hruntime hsink hexit =>
    obtain ⟨hwf, hvacant⟩ := hfrom hmatch.batch hmatch.tracks
    exact ⟨hwf, fun hnone _ => hvacant hnone, fun hfail => (hruntime hfail).elim,
      fun cause hcause _ => (hexit cause hcause).elim,
      fun _ hget _ => hmatch.opened hoff hslot hget⟩

/-- In every run that meets the condition, at every moment and however it ends,
the events handed to the sink under one handle are sessions that open, talk and
close, one after the other. A connection that is there has an open session, unless a timer
of this iteration closed it; one that is gone has had its close, and a failing driver closes
every session; whatever was batched is delivered before the loop returns, unless the sink
closed first. -/
theorem sessions_well_formed (hstays : Quiche.StaysClosed Q) {w maxConnections : UInt32}
    (hw : w.toNat < 2 ^ 12) (hmax : maxConnections.toNat ≤ 2 ^ 20) {disableRetry : Bool}
    {streamReadWindow : Option ℕ} {requireClientCert : Bool} {st : LoopState (H3Server Q)}
    (h : Runs.Reach LoopState.step Quiet
      (init (handleOffset w) maxConnections disableRetry streamReadWindow requireClientCert) st)
    {slot : ℕ} (hslot : slot < 2 ^ 20) :
    sessionPhase (globalHandle (handleOffset w) slot) st.batcher.handed ≠ .broken ∧
      (st.handler.connMap.get slot = none → st.stage ≠ .exited .sinkClose →
        sessionPhase (globalHandle (handleOffset w) slot) st.log = .idle) ∧
      (st.stage = .exited .runtimeError →
        sessionPhase (globalHandle (handleOffset w) slot) st.log = .idle) ∧
      (∀ cause, st.stage = .exited cause → cause ≠ .sinkClose →
        st.batcher.handed = st.log) ∧
      ∀ c, st.handler.connMap.get slot = some c → (∀ cause, st.stage ≠ .exited cause) →
        sessionPhase (globalHandle (handleOffset w) slot) st.log = .opened ∨
          st.stage.afterTimers = true ∧ c.isClosed = true := by
  have hsound : Sound (handleOffset w) st := h.invariant
    (init_sound hw hmax disableRetry streamReadWindow requireClientCert) (step_sound hstays)
  obtain ⟨hwf, hrest⟩ := hsound.delivered hslot
  exact ⟨SessionLog.phase_ne_broken_of_append hwf, hrest⟩

theorem QuietAt.mono {D D' : H3Connection Q → Prop} (himp : ∀ c, D c → D' c) {stage : Stage}
    (h : QuietAt D input st stage) : QuietAt D' input st stage := by
  cases stage with
  | appEvents => exact h.imp id fun hdrained k hk hend c hc => himp c (hdrained k hk hend c hc)
  | _ => exact h

instance : Decidable (NothingWaits st) := inferInstanceAs (Decidable (∀ key ∈ _, _))

instance QuietAt.decidable (D : H3Connection Q → Prop) [DecidablePred D] :
    (stage : Stage) → Decidable (QuietAt D input st stage)
  | .appEvents | .sends => inferInstanceAs (Decidable (_ ∨ _))
  | .pendingWrites => inferInstanceAs (Decidable (NothingWaits st))
  | .cleanup => inferInstanceAs (Decidable (_ ∧ _))
  | .start | .poll | .commands _ _ | .commandSends _ | .rx _ | .rxSubmit _ | .rxSends _ | .rxCap _
  | .timers | .drainEvents | .cap | .flush | .done | .exited _ => .isTrue trivial

def idle : LoopInput WorkerCommand := { now := 0 }

/-- One iteration in which a client connects and its idle timer fires at once;
`more` is what it sends in between. -/
def oneIteration (more : List Packet) (outstanding : ℕ) : List (LoopInput WorkerCommand) :=
  [idle,
    { idle with
      rx := some [Scripted.packet .initial [7] [0] :: more ++ [Scripted.packet .other [7] [3]]] },
    idle, idle] ++ List.replicate (more.length + 2) { idle with scids := [[1]] } ++
    List.replicate 4 idle ++ [{ idle with now := 1 }, { idle with outstanding := outstanding }] ++
    List.replicate 6 idle

def afterIteration (more : List Packet) (outstanding : ℕ) : LoopState (H3Server Scripted) :=
  Runs.run LoopState.step (oneIteration more outstanding) (init (handleOffset 0) 10 true none false)

/-- Headers that arrived before the timer fired are reported after the close. -/
theorem headers_after_session_close :
    ((afterIteration [Scripted.packet .other [7] [6, 0]] 0).batcher.handed.map fun e =>
      (e.event.eventType, e.event.connHandle)) =
        [(.newSession, 0), (.handshakeComplete, 0), (.sessionClose, 0), (.headers, 0)] ∧
      sessionPhase (globalHandle (handleOffset 0) 0)
        (afterIteration [Scripted.packet .other [7] [6, 0]] 0).batcher.handed = .broken := by
  decide +kernel

theorem scripted_staysClosed : Quiche.StaysClosed Scripted := by
  constructor
  · intro q hq
    simp only [Quiche.h3Poll]
    split <;> exact hq
  · exact fun q _ _ hq => hq
  · intro q hq
    simp only [Quiche.dgramRecv]
    split <;> exact hq
  · exact fun q hq => hq
  · exact fun q hq => hq
  · intro q _ _ _ hq
    simp only [Quiche.close]
    split
    · exact hq
    · rfl

theorem reach_afterIteration : Runs.Reach LoopState.step Quiet
    (init (handleOffset 0) 10 true none false) (afterIteration [] appEventPauseHighWater) := by
  have hrun : Runs.Reach LoopState.step (fun input st => QuietAt (fun _ => False) input st st.stage)
      (init (handleOffset 0) 10 true none false) (afterIteration [] appEventPauseHighWater) :=
    Runs.Reach.start.run (by decide +kernel)
  exact hrun.mono fun input st h => h.mono fun _ hfalse => hfalse.elim

/-- With application events paused the same timer closes the session once. -/
theorem sessions_well_formed_idle_timeout :
    ((afterIteration [] appEventPauseHighWater).batcher.handed.map fun e => e.event.eventType) =
        [.newSession, .handshakeComplete, .sessionClose] ∧
      sessionPhase (globalHandle (handleOffset 0) 0)
        (afterIteration [] appEventPauseHighWater).log = .idle :=
  ⟨by decide +kernel, (sessions_well_formed scripted_staysClosed (by decide) (by decide)
    reach_afterIteration (by decide)).2.1 (by decide +kernel) (by decide +kernel)⟩

end H3Loop

end Http3
