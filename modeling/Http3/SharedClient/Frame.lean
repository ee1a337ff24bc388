import Http3.Lib.Runs
import Http3.SharedClient

/-! What the calls of the shared loop on its sessions leave alone. -/

namespace Http3.SharedClientLoop

variable {C Own : Type}

/-- The loop without its sessions, their routes and timers. -/
def frame (st : SharedClientLoop C Own) : SharedClientLoop C Own :=
  { st with
    sessions := .empty
    routeByDcid := ∅
    timerHeap := .new
    ended := [] }

/-- The loop without its sessions, their routes and timers, and the window. -/
def rest (st : SharedClientLoop C Own) : SharedClientLoop C Own :=
  { st with
    sessions := .empty
    routeByDcid := ∅
    timerHeap := .new
    outboundAdmission := .default
    ended := [] }

section Frame

variable {st st' : SharedClientLoop C Own} (h : st'.frame = st.frame)

include h

theorem rest_of_frame : st'.rest = st.rest := by
  have hrest : st'.frame.rest = st.frame.rest := congrArg rest h
  exact hrest

theorem window_of_frame : st'.outboundAdmission = st.outboundAdmission := by
  have hwindow : st'.frame.outboundAdmission = st.frame.outboundAdmission :=
    congrArg outboundAdmission h
  exact hwindow

end Frame

theorem lists_of_rest {st st' : SharedClientLoop C Own} (hrest : st'.rest = st.rest) :
    st'.stage = st.stage ∧ st'.pendingRelease = st.pendingRelease ∧
      st'.closedSessions = st.closedSessions := by
  have hlists : (st'.rest.stage, st'.rest.pendingRelease, st'.rest.closedSessions) =
      (st.rest.stage, st.rest.pendingRelease, st.rest.closedSessions) :=
    congrArg (fun st : SharedClientLoop C Own => (st.stage, st.pendingRelease, st.closedSessions))
      hrest
  simp only [Prod.mk.injEq] at hlists
  exact hlists

section Sessions

variable (input : SharedInput) (st : SharedClientLoop C Own) (handle : ℕ)

theorem frame_appendAtomic (events : List Emitted) :
    (st.appendAtomic input handle events).2.frame = st.frame := by
  unfold appendAtomic
  cases st.sessions.get handle <;> rfl

theorem frame_flush : (st.flush input handle).2.frame = st.frame := by
  unfold flush
  cases st.sessions.get handle <;> rfl

theorem frame_capFlush : (st.capFlush input handle).2.frame = st.frame := by
  unfold capFlush
  cases st.sessions.get handle with
  | none => rfl
  | some session =>
    dsimp only
    split_ifs
    · exact frame_flush input st handle
    · rfl

theorem frame_emitRuntimeError (syscall reasonCode : String) (handles : List ℕ) :
    (emitRuntimeError input syscall reasonCode handles st).frame = st.frame := by
  induction handles generalizing st with
  | nil => rfl
  | cons handle handles ih =>
    unfold emitRuntimeError
    cases st.sessions.get handle with
    | none => exact ih st
    | some session =>
      dsimp only
      split_ifs
      · exact ih _
      · rfl

theorem frame_syncTimer : (st.syncTimer handle).frame = st.frame := by
  unfold syncTimer
  cases st.sessions.get handle <;> rfl

@[simp] theorem rest_appendAtomic (events : List Emitted) :
    (st.appendAtomic input handle events).2.rest = st.rest :=
  rest_of_frame (frame_appendAtomic input st handle events)

@[simp] theorem rest_flush : (st.flush input handle).2.rest = st.rest :=
  rest_of_frame (frame_flush input st handle)

@[simp] theorem rest_capFlush : (st.capFlush input handle).2.rest = st.rest :=
  rest_of_frame (frame_capFlush input st handle)

theorem rest_emitRuntimeError (syscall reasonCode : String) (handles : List ℕ) :
    (emitRuntimeError input syscall reasonCode handles st).rest = st.rest :=
  rest_of_frame (frame_emitRuntimeError input st syscall reasonCode handles)

@[simp] theorem rest_collectAtomic (f : ClientHandler C → ClientHandler C) :
    (st.collectAtomic input handle f).2.rest = st.rest := by
  unfold collectAtomic work
  dsimp only
  rw [rest_appendAtomic]
  cases st.sessions.get handle <;> rfl

@[simp] theorem rest_removeSession (cause : SessionEnd) :
    (st.removeSession cause handle).rest = st.rest := by
  unfold removeSession
  cases st.sessions.get handle <;> rfl

@[simp] theorem rest_finishSession (cause : SessionEnd) :
    (st.finishSession input cause handle).rest = st.rest := by
  unfold finishSession
  cases st.sessions.get handle with
  | none => rfl
  | some session => exact rest_removeSession _ handle cause

end Sessions

variable [ClientProtocol C Own]

section Calls

variable (st : SharedClientLoop C Own) (handle : ℕ)

theorem frame_refreshDcid : (st.refreshDcid handle).frame = st.frame := by
  unfold refreshDcid
  cases st.sessions.get handle <;> rfl

theorem frame_refreshed (result : Bool × SharedClientLoop C Own) :
    (refreshed handle result).2.frame = result.2.frame := by
  obtain ⟨_ | _, st'⟩ := result
  · rfl
  · unfold refreshed
    rw [frame_syncTimer, frame_refreshDcid]

@[simp] theorem rest_refreshed (result : Bool × SharedClientLoop C Own) :
    (refreshed handle result).2.rest = result.2.rest :=
  rest_of_frame (frame_refreshed handle result)

theorem frame_sendRound (handles : List ℕ) : (sendRound handles st).2.2.frame = st.frame := by
  induction handles generalizing st with
  | nil => rfl
  | cons handle handles ih =>
    unfold sendRound
    cases st.sessions.get handle with
    | none => exact ih st
    | some session =>
      dsimp only
      cases (ClientProtocol.trySend session.handler.conn).1 with
      | none => exact ih _
      | some packet => exact ih _

theorem frame_flushRoundRobinSends (rounds : ℕ) (active : List ℕ) :
    (flushRoundRobinSends rounds active st).2.frame = st.frame := by
  induction rounds generalizing active st with
  | zero => rfl
  | succ rounds ih =>
    unfold flushRoundRobinSends
    split_ifs
    · rfl
    · exact (ih _ _).trans (frame_sendRound st active)

theorem frame_refreshTimersAfterSends (now : ℕ) :
    (st.refreshTimersAfterSends now).frame = st.frame := by
  unfold refreshTimersAfterSends
  induction st.sessions.keys generalizing st with
  | nil => rfl
  | cons handle handles ih =>
    rw [List.foldl_cons, ih]
    cases st.sessions.get handle with
    | none => rfl
    | some session => exact frame_syncTimer _ handle

theorem frame_sends (input : SharedInput) :
    ((flushRoundRobinSends input.rounds st.sessions.keys st).2.refreshTimersAfterSends
      input.now).frame = st.frame := by
  rw [frame_refreshTimersAfterSends]
  exact frame_flushRoundRobinSends st input.rounds st.sessions.keys

theorem rest_sends (input : SharedInput) :
    ((flushRoundRobinSends input.rounds st.sessions.keys st).2.refreshTimersAfterSends
      input.now).rest = st.rest :=
  rest_of_frame (frame_sends st input)

end Calls

section Commands

variable (input : SharedInput)

/-- The parts a session command is made of. Only a session that was there when the
command came (`there`) can refuse what the command makes it tell. -/
inductive CommandPart (there : Prop) (meant : ℕ) (sessionHandle : UInt32)
    (st : SharedClientLoop C Own) : SharedClientLoop C Own → Prop
  | handler {session : SharedClientSession C} (handler : ClientHandler C) :
      st.sessions.get sessionHandle.toNat = some session →
      CommandPart there meant sessionHandle st
        (st.setSession sessionHandle.toNat { session with handler })
  | payload (streamId : ℕ) (chunk : Bytes) (fin : Bool) : CommandPart there meant sessionHandle st
      (st.collectAtomic input sessionHandle.toNat fun h =>
        (ClientProtocol.queueStreamSend sessionHandle streamId chunk fin h).2).2
  | gives (units : ℕ) : CommandPart there meant sessionHandle st (st.releaseOutbound input units)
  | answers (replies : List ClientReply) : CommandPart there meant sessionHandle st
      { st with replies := st.replies ++ replies.map .session }
  | refused : there → CommandPart there meant sessionHandle st (st.pushRelease sessionHandle.toNat)
  | releases : CommandPart there meant sessionHandle st { st with
      releaseRequested := true
      pendingRelease := st.pendingRelease ++ [⟨sessionHandle, meant⟩] }

theorem sessionCommand_parts (st : SharedClientLoop C Own) (meant : ℕ) (sessionHandle : UInt32)
    (cmd : SessionCommand Own) :
    Relation.ReflTransGen (CommandPart input (st.sessions.get sessionHandle.toNat).isSome meant
      sessionHandle) st (st.sessionCommand input meant sessionHandle cmd) := by
  unfold sessionCommand
  cases cmd with
  | own cmd =>
    dsimp only
    cases hget : st.sessions.get sessionHandle.toNat with
    | none =>
      cases ClientProtocol.ownAbsent (C := C) cmd with
      | none => exact .refl
      | some reply => exact .single (.answers [reply])
    | some session => exact .tail (.single (.handler _ hget)) (.answers _)
  | streamSend streamId chunk fin =>
    dsimp only
    cases st.sessions.get sessionHandle.toNat with
    | none => exact .single (.gives _)
    | some session =>
      dsimp only
      split_ifs
      · exact .tail (.single (.payload streamId chunk fin)) (.gives _)
      · exact .tail (.tail (.single (.payload streamId chunk fin)) (.gives _)) (.refused rfl)
  | streamClose streamId errorCode =>
    dsimp only
    cases hget : st.sessions.get sessionHandle.toNat with
    | none => exact .refl
    | some session => exact .tail (.single (.handler _ hget)) (.gives _)
  | sendDatagram data =>
    dsimp only
    cases hget : st.sessions.get sessionHandle.toNat with
    | none => exact .tail (.single (.gives _)) (.answers [_])
    | some session =>
      exact .tail (.tail (.single (.handler _ hget)) (.gives _)) (.answers [_])
  | ping =>
    dsimp only
    cases hget : st.sessions.get sessionHandle.toNat with
    | none => exact .single (.answers [_])
    | some session => exact .tail (.single (.handler _ hget)) (.answers [_])
  | close errorCode reason =>
    dsimp only
    cases hget : st.sessions.get sessionHandle.toNat with
    | none => exact .refl
    | some session => exact .single (.handler _ hget)
  | releaseSession => exact .single .releases

end Commands

end Http3.SharedClientLoop
