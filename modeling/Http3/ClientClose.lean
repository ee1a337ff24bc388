import Http3.ClientVoice
import Http3.EventLoop.Steps
import Http3.Lib.Runs
import Http3.Scripted
import Http3.WasmClient

/-! The close of a client connection is reported by the packet or the timer that brings it
about. When that is enough, for sessions with a worker of their own and for sessions that
the WebAssembly pump drives, and when nobody reports it. -/

namespace Http3

open ClientProtocol (isClosed recv close)

section Reported

variable {C Own : Type} [ClientProtocol C Own]

/-- A closed connection has been reported, and it has been reported at most once. -/
structure ClientHandler.Reported (h : ClientHandler C) (log : List Emitted) : Prop where
  closed : isClosed h.conn = true → h.sessionClosedEmitted = true
  once : closes log = h.sessionClosedEmitted.toNat

namespace ClientHandler.Reported

variable [LawfulClientProtocol C Own] {h h₁ : ClientHandler C} {log : List Emitted}

omit [LawfulClientProtocol C Own] in
theorem once_tells (hrep : h.Reported (log ++ h.batch)) (htells : h.voice.Tells h₁.voice) :
    closes (log ++ h₁.batch) = h₁.sessionClosedEmitted.toNat := by
  have hcount := htells.closes_eq
  have hbefore : closes h.voice.marks = closes h.batch := closes_marks _
  have hafter : closes h₁.voice.marks = closes h₁.batch := closes_marks _
  have hflag : h.voice.sessionClosedEmitted = h.sessionClosedEmitted := rfl
  have hflag₁ : h₁.voice.sessionClosedEmitted = h₁.sessionClosedEmitted := rfl
  have honce := hrep.once
  rw [hbefore, hafter, hflag, hflag₁] at hcount
  rw [closes_append] at honce ⊢
  omega

omit [LawfulClientProtocol C Own] in
theorem setConn (hrep : h.Reported (log ++ h.batch)) {conn : C}
    (hheard : isClosed conn = true → isClosed h.conn = true) :
    (h.setConn conn).Reported (log ++ (h.setConn conn).batch) := by
  constructor
  · intro hclosed
    exact hrep.closed (hheard hclosed)
  · exact hrep.once

theorem packet (hrep : h.Reported (log ++ h.batch)) (connHandle : UInt32) {p : Packet}
    (budget now : ℕ)
    (hheard : (recv h.conn p).1 = false → isClosed (recv h.conn p).2 = true →
      isClosed h.conn = true) :
    (ClientProtocol.processPacketForHandle connHandle p budget now h).Reported
      (log ++ (ClientProtocol.processPacketForHandle connHandle p budget now h).batch) := by
  cases hok : (recv h.conn p).1 with
  | false =>
    rw [LawfulClientProtocol.packet_refused connHandle budget now hok]
    exact hrep.setConn (hheard hok)
  | true =>
    obtain ⟨htells, hreports⟩ := LawfulClientProtocol.packet connHandle budget now hok
    exact ⟨hreports, hrep.once_tells htells⟩

variable (hcalm : ∀ c c' : C, LawfulClientProtocol.acts c c' → isClosed c' = true →
  isClosed c = true)

include hcalm

theorem works (hrep : h.Reported (log ++ h.batch))
    (hworks : h.Works LawfulClientProtocol.acts h₁) : h₁.Reported (log ++ h₁.batch) := by
  constructor
  · intro hclosed
    have hwas : h.sessionClosedEmitted = true := hrep.closed (hworks.isClosed hcalm hclosed)
    exact hworks.tells.emitted_mono hwas
  · exact hrep.once_tells hworks.tells

theorem timers (hrep : h.Reported (log ++ h.batch)) (connHandle : UInt32) (now budget : ℕ) :
    (ClientProtocol.processTimersForHandle connHandle now budget h).Reported
      (log ++ (ClientProtocol.processTimersForHandle connHandle now budget h).batch) := by
  cases hdue : h.timerDeadline.any (· ≤ now) with
  | false =>
    rw [LawfulClientProtocol.timers_idle connHandle budget hdue]
    exact hrep
  | true =>
    obtain ⟨hworks, hreports⟩ := LawfulClientProtocol.timers connHandle budget hdue
    constructor
    · intro hclosed
      exact hreports (hworks.isClosed hcalm hclosed)
    · exact hrep.once_tells hworks.tells

theorem flushSends (hrep : h.Reported log) (rounds now : ℕ) :
    (ClientProtocol.flushSends rounds now h).2.Reported log := by
  have hsends := ClientHandler.sendLoop_acts LawfulClientProtocol.trySend rounds h.conn
  have hworks : h.Works LawfulClientProtocol.acts (ClientProtocol.flushSends rounds now h).2 :=
    ⟨hsends, .refl _⟩
  constructor
  · intro hclosed
    exact hrep.closed (hworks.isClosed hcalm hclosed)
  · exact hrep.once

end ClientHandler.Reported

end Reported

/-- A handler that a worker of its own drives under handle 0. -/
class DedicatedClient (C : Type) (Own Cmd : outParam Type) [ClientProtocol C Own]
    [LawfulClientProtocol C Own] [ProtocolHandler (ClientHandler C) Cmd] where
  /-- What a command does to the connection first: it closes it, or it brings up HTTP/3. -/
  starts : Cmd → C → C
  dispatchCommand (now : ℕ) (cmd : Cmd) (h : ClientHandler C) :
    (ProtocolHandler.dispatchCommand now cmd h).1 = true ∨
    ∃ f, (h.startBatch.setConn (starts cmd h.conn)).Works LawfulClientProtocol.acts
        (f h.startBatch) ∧
      (ProtocolHandler.dispatchCommand now cmd h).2 = h.reported f
  processPacket (p : Packet) (budget now : ℕ) (scids : List Bytes) (h : ClientHandler C) :
    ProtocolHandler.processPacket p budget now scids h =
      h.reported (ClientProtocol.processPacketForHandle 0 p budget now)
  processTimers (now budget : ℕ) (h : ClientHandler C) :
    ProtocolHandler.processTimers now budget h =
      h.reported (ClientProtocol.processTimersForHandle 0 now budget)
  pollAppEvents (budget now : ℕ) (h : ClientHandler C) :
    ProtocolHandler.pollAppEvents budget now h =
      h.reported (ClientProtocol.pollAppEventsForHandle 0 budget now)
  pollDrainEvents (budget : ℕ) (h : ClientHandler C) :
    ProtocolHandler.pollDrainEvents budget h =
      h.reported (ClientProtocol.pollDrainEventsForHandle 0 budget)
  flushPendingWrites (h : ClientHandler C) :
    ProtocolHandler.flushPendingWrites h =
      h.reported (ClientProtocol.flushPendingWritesForHandle 0)
  cleanupClosed (h : ClientHandler C) : ProtocolHandler.cleanupClosed h = ([], h)
  flushSends (rounds now : ℕ) (h : ClientHandler C) :
    ProtocolHandler.flushSends rounds now h = ClientProtocol.flushSends rounds now h

section Native

variable {C Own Cmd : Type} [ClientProtocol C Own] [LawfulClientProtocol C Own]
  [ProtocolHandler (ClientHandler C) Cmd] [DedicatedClient C Own Cmd]

/-- No close takes effect at once, nor does bringing up HTTP/3 close the connection, and no packet
that quiche refuses closes it. -/
def Heard (input : LoopInput Cmd) (st : LoopState (ClientHandler C)) : Prop :=
  match st.stage with
  | .commands _ _ => ∀ cmd ∈ input.cmd,
    isClosed (DedicatedClient.starts cmd st.handler.conn) = true → isClosed st.handler.conn = true
  | .rx q => ∀ p ∈ q.segments.head?, (recv st.handler.conn p).1 = false →
    isClosed (recv st.handler.conn p).2 = true → isClosed st.handler.conn = true
  | _ => True

def LoopState.begin (h : ClientHandler C) : LoopState (ClientHandler C) := ⟨h, ⟨[], []⟩, .start⟩

variable (hcalm : ∀ c c' : C, LawfulClientProtocol.acts c c' → isClosed c' = true →
  isClosed c = true)

include hcalm

variable {st : LoopState (ClientHandler C)}

/-- Whatever call the loop makes, the close is reported with it. -/
theorem Reported.call {input : LoopInput Cmd} (hheard : Heard input st)
    (hrep : st.handler.Reported st.log) {answer : List Emitted × ClientHandler C}
    (hcall : st.call input = some (false, answer)) :
    answer.2.Reported (st.log ++ answer.1) := by
  have hstart : st.handler.startBatch.Reported (st.log ++ st.handler.startBatch.batch) := by
    show st.handler.startBatch.Reported (st.log ++ [])
    rw [List.append_nil]
    exact ⟨hrep.closed, hrep.once⟩
  have hreported : ∀ f : ClientHandler C → ClientHandler C,
      (f st.handler.startBatch).Reported (st.log ++ (f st.handler.startBatch).batch) →
      answer = st.handler.reported f → answer.2.Reported (st.log ++ answer.1) := by
    rintro f hf rfl
    exact ⟨hf.closed, hf.once⟩
  have hanswer : ∀ {group : List Emitted × ClientHandler C},
      some (false, group) = some (false, answer) → answer = group := by
    intro group heq
    exact (Prod.ext_iff.1 (Option.some.inj heq)).2.symm
  unfold Heard at hheard
  unfold LoopState.call at hcall
  dsimp only at hcall
  cases hstage : st.stage with
  | commands drained rx =>
    rw [hstage] at hcall hheard
    cases hcmd : input.cmd with
    | none =>
      rw [hcmd] at hcall
      cases hcall
    | some cmd =>
      rw [hcmd] at hcall
      dsimp only at hcall
      split_ifs at hcall
      have hanswer := Option.some.inj hcall
      have hdispatch := DedicatedClient.dispatchCommand input.now cmd st.handler
      rw [hanswer] at hdispatch
      rcases hdispatch with hend | ⟨f, hworks, heq⟩
      · cases hend
      · have hstarted := hstart.setConn (hheard cmd hcmd)
        exact hreported f (hstarted.works hcalm hworks) heq
  | rx q =>
    rw [hstage] at hcall hheard
    dsimp only at hcall hheard
    cases hq : q.segments with
    | nil =>
      rw [hq] at hcall
      cases hcall
    | cons p segments =>
      rw [hq] at hcall hheard
      exact hreported _ (hstart.packet 0 0 input.now (hheard p rfl))
        ((hanswer hcall).trans (DedicatedClient.processPacket _ _ _ _ _))
  | timers =>
    rw [hstage] at hcall
    exact hreported _ (hstart.timers hcalm 0 _ _)
      ((hanswer hcall).trans (DedicatedClient.processTimers _ _ _))
  | appEvents =>
    rw [hstage] at hcall
    exact hreported _ (hstart.works hcalm (LawfulClientProtocol.pollAppEvents 0 _ _ _))
      ((hanswer hcall).trans (DedicatedClient.pollAppEvents _ _ _))
  | drainEvents =>
    rw [hstage] at hcall
    exact hreported _ (hstart.works hcalm (LawfulClientProtocol.pollDrainEvents 0 _ _))
      ((hanswer hcall).trans (DedicatedClient.pollDrainEvents _ _))
  | pendingWrites =>
    rw [hstage] at hcall
    exact hreported _ (hstart.works hcalm (LawfulClientProtocol.flushPendingWrites 0 _))
      ((hanswer hcall).trans (DedicatedClient.flushPendingWrites _))
  | cleanup =>
    rw [hstage] at hcall
    rw [hanswer hcall, DedicatedClient.cleanupClosed, List.append_nil]
    exact hrep
  | _ =>
    rw [hstage] at hcall
    cases hcall

theorem step_reported {input : LoopInput Cmd} (hheard : Heard input st)
    (hrun : st.stage.running = true) (hrep : st.handler.Reported st.log)
    (hnext : (st.step input).stage.running = true) :
    (st.step input).handler.Reported (st.step input).log := by
  have hsteps := LoopState.steps_step input hrun
  generalize st.step input = st' at hsteps hnext ⊢
  cases hsteps with
  | goes _ _ hlog hhandler =>
    rw [hlog]
    rcases hhandler with heq | heq
    · rw [heq]
      exact hrep
    · rw [heq, DedicatedClient.flushSends]
      exact hrep.flushSends hcalm _ _
  | reports hcall _ hhandler hlog =>
    rw [hhandler, hlog]
    exact Reported.call hcalm hheard hrep hcall
  | refused hstage =>
    rw [hstage] at hnext
    cases hnext
  | ends hstage _ _ _ =>
    rw [hstage] at hnext
    cases hnext

theorem reach_reported {h : ClientHandler C} (hopen : h.Reported [])
    (hreach : Runs.Reach LoopState.step Heard (LoopState.begin h) st)
    (hrun : st.stage.running = true) : st.handler.Reported st.log := by
  induction hreach with
  | start => exact hopen
  | @next st input _ hheard ih =>
    cases hwas : st.stage.running with
    | true => exact step_reported hcalm hheard hwas (ih hwas) hrun
    | false =>
      -- a loop that has returned does not go on
      exfalso
      have hstill : LoopState.step input st = st := by
        cases hstage : st.stage with
        | exited cause =>
          unfold LoopState.step
          rw [hstage]
        | _ =>
          rw [hstage] at hwas
          cases hwas
      rw [hstill, hwas] at hrun
      cases hrun

end Native

section Wasm

variable {C Own : Type} [ClientProtocol C Own] [LawfulClientProtocol C Own]

/-- No close takes effect at once, nor does bringing up HTTP/3 close the connection, and no packet
that quiche refuses closes it. -/
def WasmClient.Heard (tick : WasmTick Own) (w : WasmClient C) : Prop :=
  match tick.call with
  | some (.close errorCode reason) =>
    isClosed (close w.handler.conn true errorCode reason) = true → isClosed w.handler.conn = true
  | some (.own cmd) => isClosed (LawfulClientProtocol.starts cmd w.handler.conn) = true →
    isClosed w.handler.conn = true
  | some (.recv p) => (recv w.handler.conn p).1 = false →
    isClosed (recv w.handler.conn p).2 = true → isClosed w.handler.conn = true
  | _ => True

variable (hcalm : ∀ c c' : C, LawfulClientProtocol.acts c c' → isClosed c' = true →
  isClosed c = true)

include hcalm

theorem WasmClient.apply_reported (connHandle : UInt32) {call : WasmCall Own} {now : ℕ}
    {w : WasmClient C} (hheard : w.Heard { call := some call, now })
    (hrep : w.handler.Reported (w.events ++ w.handler.batch)) :
    (apply connHandle now call w.handler).Reported
      (w.events ++ (apply connHandle now call w.handler).batch) := by
  cases call with
  | recv p => exact hrep.packet connHandle _ now hheard
  | onTimeout => exact hrep.timers hcalm connHandle now _
  | own cmd => exact (hrep.setConn hheard).works hcalm (LawfulClientProtocol.own cmd _)
  | streamSend streamId data fin =>
    exact hrep.works hcalm (LawfulClientProtocol.queueStreamSend connHandle streamId data fin _)
  | streamClose streamId errorCode =>
    exact hrep.works hcalm (LawfulClientProtocol.closeStream streamId errorCode _)
  | sendDatagram data => exact hrep.works hcalm (LawfulClientProtocol.sendDatagram data _)
  | ping => exact hrep.works hcalm (LawfulClientProtocol.ping now _)
  | close errorCode reason => exact hrep.setConn hheard

theorem WasmClient.step_reported (connHandle : UInt32) {tick : WasmTick Own} {w : WasmClient C}
    (hheard : w.Heard tick) (hrep : w.handler.Reported (w.events ++ w.handler.batch)) :
    (w.step connHandle tick).handler.Reported
      ((w.step connHandle tick).events ++ (w.step connHandle tick).handler.batch) := by
  have hcalled : (tick.call.elim w.handler fun call =>
      apply connHandle tick.now call w.handler).Reported (w.events ++
        (tick.call.elim w.handler fun call => apply connHandle tick.now call w.handler).batch) := by
    cases hcall : tick.call with
    | none => exact hrep
    | some call =>
      refine apply_reported hcalm connHandle ?_ hrep
      unfold Heard at hheard ⊢
      rwa [hcall] at hheard
  unfold step pump
  generalize (tick.call.elim w.handler fun call => apply connHandle tick.now call w.handler) = h
    at hcalled ⊢
  have hsent := hcalled.flushSends hcalm tick.firstSends tick.now
  have hpolled := ((hsent.works hcalm (LawfulClientProtocol.pollAppEvents connHandle wasmUsizeMax
    tick.now _)).works hcalm (LawfulClientProtocol.pollDrainEvents connHandle wasmUsizeMax _)).works
    hcalm (LawfulClientProtocol.flushPendingWrites connHandle _)
  have hdrained : (drainEvents connHandle tick.now
      (flushSends tick.firstSends tick.now ⟨h, w.events⟩)).handler.Reported
      (drainEvents connHandle tick.now
        (flushSends tick.firstSends tick.now ⟨h, w.events⟩)).events :=
    ⟨hpolled.closed, hpolled.once⟩
  have hlast := hdrained.flushSends hcalm tick.lastSends tick.now
  have hempty : ∀ log : List Emitted, log ++ (flushSends tick.lastSends tick.now
      (drainEvents connHandle tick.now
        (flushSends tick.firstSends tick.now ⟨h, w.events⟩))).handler.batch = log :=
    fun log => List.append_nil log
  rw [hempty]
  exact hlast

theorem WasmClient.reach_reported (connHandle : UInt32) {h : ClientHandler C}
    (hopen : h.Reported h.batch) {w : WasmClient C}
    (hreach : Runs.Reach (WasmClient.step connHandle) WasmClient.Heard ⟨h, []⟩ w) :
    w.handler.Reported (w.events ++ w.handler.batch) := by
  induction hreach with
  | start => exact hopen
  | next tick _ hheard ih => exact WasmClient.step_reported hcalm connHandle hheard ih

end Wasm

variable {Q : Type} [Quiche Q]

instance : DedicatedClient (H3Connection Q) H3Own ClientWorkerCommand where
  starts
    | .close errorCode reason, c => c.close true errorCode reason
    | .sendRequest _ _, c => H3Client.establish c
    | _, c => c
  dispatchCommand now cmd h := by
    have hworks : ∀ cmd conn, (h.startBatch.setConn conn).Works LawfulClientProtocol.acts
        (H3Client.dispatchCommand now cmd h.startBatch).2 →
        ∃ f, (h.startBatch.setConn conn).Works LawfulClientProtocol.acts (f h.startBatch) ∧
          (ProtocolHandler.dispatchCommand now cmd h).2 = h.reported f :=
      fun cmd _ hw => ⟨fun h => (H3Client.dispatchCommand now cmd h).2, hw, rfl⟩
    cases cmd with
    | shutdown => exact .inl rfl
    | close errorCode reason => exact .inr (hworks _ _ (.refl _))
    | sendRequest headers fin =>
      exact .inr (hworks _ _ (H3Client.own_works _ (.sendRequest headers fin)))
    | streamReadCredit streamId bytes =>
      exact .inr (hworks _ _ (H3Client.own_works _ (.streamReadCredit streamId bytes)))
    | streamSend streamId chunk fin =>
      refine .inr (hworks _ _ ?_)
      exact (LawfulClientProtocol.queueStreamSend 0 streamId chunk fin h.startBatch).trans
        (ClientHandler.releaseOutboundAdmission_works _ _)
    | streamClose streamId errorCode =>
      refine .inr (hworks _ _ ?_)
      exact (LawfulClientProtocol.closeStream streamId errorCode h.startBatch).trans
        (ClientHandler.releaseOutboundAdmission_works _ _)
    | sendDatagram data =>
      refine .inr (hworks _ _ ?_)
      refine ((LawfulClientProtocol.sendDatagram data h.startBatch).trans ?_).trans
        (ClientHandler.releaseOutboundAdmission_works _ _)
      exact .still rfl rfl
    | ping =>
      refine .inr (hworks _ _ ?_)
      refine (LawfulClientProtocol.ping now h.startBatch).trans ?_
      exact .still rfl rfl
  processPacket _ _ _ _ _ := rfl
  processTimers _ _ _ := rfl
  pollAppEvents _ _ _ := rfl
  pollDrainEvents _ _ := rfl
  flushPendingWrites _ := rfl
  cleanupClosed _ := rfl
  flushSends _ _ _ := rfl

instance : DedicatedClient (QuicConnection Q) QuicOwn QuicClientCommand where
  starts
    | .close errorCode reason, c => c.close true errorCode reason
    | _, c => c
  dispatchCommand now cmd h := by
    have hworks : ∀ cmd conn, (h.startBatch.setConn conn).Works LawfulClientProtocol.acts
        (QuicClient.dispatchCommand now cmd h.startBatch).2 →
        ∃ f, (h.startBatch.setConn conn).Works LawfulClientProtocol.acts (f h.startBatch) ∧
          (ProtocolHandler.dispatchCommand now cmd h).2 = h.reported f :=
      fun cmd _ hw => ⟨fun h => (QuicClient.dispatchCommand now cmd h).2, hw, rfl⟩
    cases cmd with
    | shutdown => exact .inl rfl
    | close errorCode reason => exact .inr (hworks _ _ (.refl _))
    | openStream => exact .inr (hworks _ _ (QuicClient.own_works h.startBatch .openStream))
    | streamSend streamId chunk fin =>
      refine .inr (hworks _ _ ?_)
      exact (LawfulClientProtocol.queueStreamSend 0 streamId chunk fin h.startBatch).trans
        (ClientHandler.releaseOutboundAdmission_works _ _)
    | streamClose streamId errorCode =>
      refine .inr (hworks _ _ ?_)
      exact (LawfulClientProtocol.closeStream streamId errorCode h.startBatch).trans
        (ClientHandler.releaseOutboundAdmission_works _ _)
    | sendDatagram data =>
      refine .inr (hworks _ _ ?_)
      refine ((LawfulClientProtocol.sendDatagram data h.startBatch).trans ?_).trans
        (ClientHandler.releaseOutboundAdmission_works _ _)
      exact .still rfl rfl
    | ping =>
      refine .inr (hworks _ _ ?_)
      refine (LawfulClientProtocol.ping now h.startBatch).trans ?_
      exact .still rfl rfl
  processPacket _ _ _ _ _ := rfl
  processTimers _ _ _ := rfl
  pollAppEvents _ _ _ := rfl
  pollDrainEvents _ _ := rfl
  flushPendingWrites _ := rfl
  cleanupClosed _ := rfl
  flushSends _ _ _ := rfl

section Sessions

variable {C Own Cmd : Type} [ClientProtocol C Own] [LawfulClientProtocol C Own]
  [ProtocolHandler (ClientHandler C) Cmd] [DedicatedClient C Own Cmd]

/-- A session that a worker of its own or the pump drives: at the end of every iteration or
pump, if the connection is closed, the close has been reported once. -/
def ReportsClose (connHandle : UInt32) (h : ClientHandler C) : Prop :=
  (∀ st, Runs.Reach LoopState.step Heard (LoopState.begin h) st → st.stage = .done →
    isClosed st.handler.conn = true →
      st.handler.sessionClosedEmitted = true ∧ closes st.log = 1) ∧
  ∀ w, Runs.Reach (WasmClient.step connHandle) WasmClient.Heard ⟨h, []⟩ w →
    isClosed w.handler.conn = true →
      w.handler.sessionClosedEmitted = true ∧ closes w.events = 1

omit [LawfulClientProtocol C Own] in
theorem ClientHandler.Reported.closes_one {h : ClientHandler C} {log : List Emitted}
    (hrep : h.Reported log) (hclosed : isClosed h.conn = true) :
    h.sessionClosedEmitted = true ∧ closes log = 1 := by
  have hemitted := hrep.closed hclosed
  refine ⟨hemitted, ?_⟩
  rw [hrep.once, hemitted]
  rfl

theorem reportsClose_of_calm (hcalm : ∀ c c' : C, LawfulClientProtocol.acts c c' →
    isClosed c' = true → isClosed c = true) (connHandle : UInt32) {h : ClientHandler C}
    (hopen : isClosed h.conn = false) (hbatch : h.batch = [])
    (hnew : h.sessionClosedEmitted = false) : ReportsClose connHandle h := by
  have hstart : h.Reported [] := by
    constructor
    · intro hclosed
      rw [hopen] at hclosed
      cases hclosed
    · rw [hnew]
      rfl
  constructor
  · intro st hreach hdone hclosed
    refine (reach_reported hcalm hstart hreach ?_).closes_one hclosed
    rw [hdone]
    rfl
  · intro w hreach hclosed
    have hrep := WasmClient.reach_reported hcalm connHandle (by rwa [hbatch]) hreach
    have hempty : w.handler.batch = [] := by
      cases hreach with
      | start => exact hbatch
      | next => rfl
    rw [hempty, List.append_nil] at hrep
    exact hrep.closes_one hclosed

end Sessions

/-- A client session whose transport closes on input only reports its close, as long as no close
takes effect at once, bringing up HTTP/3 closes nothing and no refused packet closes the
connection. -/
theorem closed_client_reported (hq : Quiche.ClosesOnInput Q) {uid : ℕ} {scid : Bytes}
    {localAddr serverAddr : SocketAddr} {serverName : String} {ticket : Option Bytes} {now : ℕ}
    {a : OutboundAdmission} (connHandle : UInt32) :
    (∀ h : H3Client Q, ClientProtocol.newSession uid scid localAddr serverAddr serverName ticket
      now a = some h → ReportsClose connHandle h) ∧
    ∀ h : QuicClient Q, ClientProtocol.newSession uid scid localAddr serverAddr serverName ticket
      now a = some h → ReportsClose connHandle h := by
  constructor
  · intro h hnew
    obtain ⟨q, hconnect, rfl⟩ := H3Client.newSession_eq hnew
    refine reportsClose_of_calm ?_ connHandle (hq.connected hconnect ticket) rfl rfl
    exact fun c c' hact => hq.calls hact
  · intro h hnew
    obtain ⟨q, hconnect, rfl⟩ := QuicClient.newSession_eq hnew
    refine reportsClose_of_calm ?_ connHandle (hq.connected hconnect ticket) rfl rfl
    exact fun c c' hact => hq.calls hact

theorem Scripted.closesOnInput : Quiche.ClosesOnInput Scripted where
  connect := by
    intro serverName scid localAddr serverAddr q hq
    obtain rfl := Except.ok.inj hq
    rfl
  call := by
    intro q q' hcall hclosed
    have hkeeps : q'.closed = q.closed := by
      cases hcall with
      | streamRecv streamId len =>
        dsimp only [Quiche.streamRecv]
        split
        · rfl
        · rfl
      | streamSend streamId data fin =>
        show (if streamId ∈ q.closedStreams then
            (Except.error (QuicheError.invalidStreamState streamId), q)
          else if q.capacity = 0 then (Except.error QuicheError.done, q)
          else (Except.ok (min data.length q.capacity),
            { q with capacity := q.capacity - data.length })).2.closed = q.closed
        split_ifs <;> rfl
      | dgramRecv =>
        dsimp only [Quiche.dgramRecv]
        split
        · rfl
        · rfl
      | h3Poll =>
        dsimp only [Quiche.h3Poll]
        split
        · rfl
        · rfl
      | h3SendRequest headers fin =>
        show (if q.capacity = 0 then (Except.error H3Error.streamBlocked, q)
          else (Except.ok 0, q)).2.closed = q.closed
        split_ifs <;> rfl
      | h3SendBody streamId data fin =>
        show (if streamId ∈ q.closedStreams then
            (Except.error (H3Error.transportError (.invalidStreamState streamId)), q)
          else if q.capacity = 0 then (Except.error H3Error.done, q)
          else (Except.ok (min data.length q.capacity),
            { q with capacity := q.capacity - data.length })).2.closed = q.closed
        split_ifs <;> rfl
      | _ => rfl
    exact hkeeps.symm.trans hclosed

namespace ClientClose

/-- The address the scripted server sends from, and the client's own. -/
def serverAddr : SocketAddr := ⟨"192.0.2.1", 4433⟩
def localAddr : SocketAddr := ⟨"192.0.2.2", 443⟩

/-- Transport of a session that has just connected. -/
def connected : Scripted := { Scripted.fresh [7] with client := true }

def h3Session : H3Client Scripted :=
  H3Client.enableReadCredit (.ofConn (.new 0 connected [7]) H3Client.timeout 0 .default)

def quicSession : QuicClient Scripted :=
  .ofConn (.new 0 connected [7]) QuicClient.timeout 0 .default

theorem newSession_h3Session : ClientProtocol.newSession 0 [7] localAddr serverAddr "localhost"
    none 0 .default = some h3Session := rfl

/-- One iteration of the loop in which a command and no packet arrives. -/
def iteration {Cmd : Type} (cmd : Cmd) : List (LoopInput Cmd) :=
  [{ now := 0 }, { now := 0 }, { cmd := some cmd }] ++ List.replicate 10 { now := 0 }

/-- One iteration of the loop in which two packets and no command arrive. -/
def packets {Cmd : Type} (first second : Packet) : List (LoopInput Cmd) :=
  [{ now := 0 }, { rx := some [[first], [second]] }] ++ List.replicate 20 { now := 0 }

def h3Closed : LoopState (H3Client Scripted) :=
  Runs.run LoopState.step (iteration (.close 0 "bye")) (LoopState.begin h3Session)

def quicClosed : LoopState (QuicClient Scripted) :=
  Runs.run LoopState.step (iteration (.close 0 "bye")) (LoopState.begin quicSession)

def wasmClosed : WasmClient (H3Connection Scripted) :=
  WasmClient.step 1 { call := some (.close 0 "bye") } ⟨h3Session, []⟩

/-- Two packets: the handshake, and a close of the peer. -/
def peerCloses : List (LoopInput ClientWorkerCommand) :=
  packets (Scripted.packet .other [7] [0]) (Scripted.packet .other [7] [2])

instance {C Own Cmd : Type} [ClientProtocol C Own] [LawfulClientProtocol C Own]
    [ProtocolHandler (ClientHandler C) Cmd] [DedicatedClient C Own Cmd] (input : LoopInput Cmd)
    (st : LoopState (ClientHandler C)) : Decidable (Heard input st) := by
  unfold Heard
  split <;> infer_instance

theorem closed_client_reported_peerCloses :
    Runs.Admitted LoopState.step Heard peerCloses (LoopState.begin h3Session) ∧
      (Runs.run LoopState.step peerCloses (LoopState.begin h3Session)).stage = .done ∧
      isClosed (Runs.run LoopState.step peerCloses (LoopState.begin h3Session)).handler.conn =
        true ∧
      (Runs.run LoopState.step peerCloses
        (LoopState.begin h3Session)).handler.sessionClosedEmitted = true ∧
      closes (Runs.run LoopState.step peerCloses (LoopState.begin h3Session)).log = 1 :=
  ⟨by decide +kernel, by decide +kernel, by decide +kernel,
    ((closed_client_reported Scripted.closesOnInput 0).1 h3Session newSession_h3Session).1 _
      (Runs.Reach.start.run (by decide +kernel)) (by decide +kernel) (by decide +kernel)⟩

/-- A session that is closed before a packet came in: the connection is closed at once, its
timer is gone, and no iteration or pump has reported anything. -/
theorem close_before_packet_unreported :
    (∀ q : Scripted, Quiche.isClosed q = true → Quiche.timeout q = none) ∧
    (Runs.Reach LoopState.step (fun _ _ => True) (LoopState.begin h3Session) h3Closed ∧
      h3Closed.stage = .done ∧ isClosed h3Closed.handler.conn = true ∧ closes h3Closed.log = 0 ∧
      h3Closed.handler.sessionClosedEmitted = false ∧ h3Closed.handler.timerDeadline = none) ∧
    (Runs.Reach LoopState.step (fun _ _ => True) (LoopState.begin quicSession) quicClosed ∧
      quicClosed.stage = .done ∧ isClosed quicClosed.handler.conn = true ∧
      closes quicClosed.log = 0 ∧ quicClosed.handler.sessionClosedEmitted = false ∧
      quicClosed.handler.timerDeadline = none) ∧
    isClosed wasmClosed.handler.conn = true ∧ closes wasmClosed.events = 0 ∧
      wasmClosed.handler.sessionClosedEmitted = false ∧
        wasmClosed.handler.timerDeadline = none := by
  refine ⟨?_, ⟨Runs.Reach.start.run (by decide +kernel), by decide +kernel⟩,
    ⟨Runs.Reach.start.run (by decide +kernel), by decide +kernel⟩, by decide +kernel⟩
  intro q hclosed
  show (if q.expires && !q.closed then some 0 else none) = none
  have hq : q.closed = true := hclosed
  simp [hq]

end ClientClose

end Http3
