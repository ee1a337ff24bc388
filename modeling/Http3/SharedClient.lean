import Http3.ClientProtocol
import Http3.Lib.Slab
import Http3.TimerHeap

/-! The loop of a worker that several client sessions share. One step of the machine is one
call the loop makes; between any two of them JavaScript may admit payloads and send commands. -/

namespace Http3

/-- A session on a shared worker. `uid` is not part of the program: sessions are counted in the
order they are opened in. -/
structure SharedClientSession (C : Type) where
  uid : ℕ
  handler : ClientHandler C
  batcher : EventBatcher
  serverAddr : SocketAddr

/-- Commands sent through the handle of a session. -/
inductive SessionCommand (Own : Type)
  | own (cmd : Own)
  | streamSend (streamId : ℕ) (chunk : Bytes) (fin : Bool)
  | streamClose (streamId errorCode : ℕ)
  | sendDatagram (data : Bytes)
  | ping
  | close (errorCode : ℕ) (reason : String)
  | releaseSession
  deriving DecidableEq, Repr

inductive SharedClientCommand (Own : Type)
  | openSession (serverAddr : SocketAddr) (serverName : String) (sessionTicket : Option Bytes)
  | session (sessionHandle : UInt32) (cmd : SessionCommand Own)
  deriving DecidableEq

def SessionCommand.outboundBytes {Own : Type} : SessionCommand Own → ℕ
  | .streamSend _ chunk fin => outboundPayloadUnits chunk.length fin
  | .sendDatagram data => outboundPayloadUnits data.length false
  | _ => 0

/-- A command in the channel. `meant` is not part of the program: the session JavaScript had in
mind, or the number of the request for an `openSession`. -/
structure SharedQueued (Own : Type) where
  cmd : SharedClientCommand Own
  meant : ℕ
  deriving DecidableEq

/-- A session to be released after the next flush; `meant` as in the channel. -/
structure PendingRelease where
  sessionHandle : UInt32
  meant : ℕ
  deriving DecidableEq, Repr

inductive SharedReply
  | openSession (request : ℕ) (answer : Except Http3NativeError UInt32)
  | session (answer : ClientReply)

/-- Why a session was removed. -/
inductive SessionEnd
  | released
  | refused
  | reaped
  deriving DecidableEq, Repr

/-- What is left of a session that was removed. Not part of the program. -/
structure EndedSession where
  uid : ℕ
  batcher : EventBatcher
  cause : SessionEnd

/-- Received packets the loop is working through. -/
structure SharedRx where
  idx : ℕ
  count : ℕ
  rest : List Packet
  deriving DecidableEq

/-- What the loop does next. Where a stage carries handles, it works on the first one. -/
inductive SharedStage
  | poll
  | commands (drained : ℕ) (rx : List Packet)
  | commandSends (rx : List Packet)
  | release (rx : List Packet)
  | rx (q : SharedRx)
  | rxCap (handle : ℕ) (q : SharedRx)
  | rxRemove (handle : ℕ) (q : SharedRx)
  | rxSends (q : SharedRx)
  | timers
  | expired (now : ℕ) (handles : List ℕ)
  | expiredCap (now : ℕ) (handles : List ℕ)
  | appEvents (handles : List ℕ)
  | drainEvents (handles : List ℕ)
  | pendingWrites (handles : List ℕ)
  | cap (handles : List ℕ)
  | closed
  | sends
  | flush (handles : List ℕ)
  | reap
  | done
  | returning (cause : LoopExit)
  | exited (cause : LoopExit)
  deriving DecidableEq

/-- What the outside answers during one step. Every session has a sink of its own. -/
structure SharedInput where
  now : ℕ := 0
  rounds : ℕ := 0
  scid : Bytes := []
  /-- Received packets; `none` when `poll` fails. -/
  rx : Option (List Packet) := some []
  submitOk : Bool := true
  sinkOk : ℕ → Bool := fun _ => true
  outstanding : ℕ := 0
  pendingTx : ℕ := 0
  driverKind : String := ""
  error : String := ""
  errno : Option ℤ := none

/-- The worker and its command channel. Not part of the program are `nextUid`, `accepted` (the
number of open requests the channel has taken), `given` (the slab index each session was opened
at) and `ended`. -/
structure SharedClientLoop (C Own : Type) where
  localAddr : SocketAddr
  sessions : Slab (SharedClientSession C)
  routeByDcid : KeyMap Bytes ℕ
  timerHeap : TimerHeap
  outboundAdmission : OutboundAdmission
  pendingRelease : List PendingRelease
  closedSessions : List ℕ
  releaseRequested : Bool
  channel : List (SharedQueued Own)
  replies : List SharedReply
  stage : SharedStage
  nextUid : ℕ
  accepted : ℕ
  given : List (ℕ × ℕ)
  ended : List EndedSession

namespace SharedClientLoop

variable {C Own : Type}

section Sessions

variable (st : SharedClientLoop C Own)

def setSession (handle : ℕ) (session : SharedClientSession C) : SharedClientLoop C Own :=
  { st with sessions := st.sessions.set handle session }

/-- Append an event group to the batch of a session; `false` when its sink is closed. -/
def appendAtomic (input : SharedInput) (handle : ℕ) (events : List Emitted) :
    Bool × SharedClientLoop C Own :=
  match st.sessions.get handle with
  | none => (true, st)
  | some session =>
    let (ok, batcher) := session.batcher.appendAtomic (input.sinkOk handle) events
    (ok, st.setSession handle { session with batcher })

/-- The handler of a session as a call finds it: with the window of the worker, and with a
batch of its own. -/
def lend (session : SharedClientSession C) : ClientHandler C :=
  { session.handler with outboundAdmission := st.outboundAdmission, batch := [] }

/-- Let a handler work; the answer is what it reports. -/
def work (handle : ℕ) (f : ClientHandler C → ClientHandler C) :
    List Emitted × SharedClientLoop C Own :=
  match st.sessions.get handle with
  | none => ([], st)
  | some session =>
    let handler := f (st.lend session)
    (handler.batch, { st.setSession handle { session with handler := handler.startBatch } with
      outboundAdmission := handler.outboundAdmission })

def collectAtomic (input : SharedInput) (handle : ℕ) (f : ClientHandler C → ClientHandler C) :
    Bool × SharedClientLoop C Own :=
  let (events, st) := st.work handle f
  st.appendAtomic input handle events

/-- Deliver the batch of a session; `false` when its sink is closed. -/
def flush (input : SharedInput) (handle : ℕ) : Bool × SharedClientLoop C Own :=
  match st.sessions.get handle with
  | none => (true, st)
  | some session =>
    let (ok, batcher) := session.batcher.flush (input.sinkOk handle)
    (ok, st.setSession handle { session with batcher })

def capFlush (input : SharedInput) (handle : ℕ) : Bool × SharedClientLoop C Own :=
  match st.sessions.get handle with
  | none => (true, st)
  | some session =>
    if maxBatchSize ≤ session.batcher.batch.length then st.flush input handle else (true, st)

/-- Events an application may still put in the batch of a session. -/
def appEventBudget (input : SharedInput) (handle : ℕ) : ℕ :=
  Http3.appEventBudget input.outstanding
    ((st.sessions.get handle).elim 0 fun session => session.batcher.batch.length)

def uidAt (handle : ℕ) : ℕ := (st.sessions.get handle).elim 0 SharedClientSession.uid

/-- Queue a session whose sink has refused events for release. -/
def pushRelease (handle : ℕ) : SharedClientLoop C Own :=
  { st with pendingRelease := st.pendingRelease ++ [⟨UInt32.ofNat handle, st.uidAt handle⟩] }

def emitWriteReady (input : SharedInput) : SharedClientLoop C Own :=
  st.sessions.keys.foldl (fun st handle =>
    match st.appendAtomic input handle [⟨none, .writeReady 0⟩] with
    | (true, st) => st
    | (false, st) => st.pushRelease handle) st

/-- Give units back to the window, and wake all sessions when it reopens. -/
def releaseOutbound (input : SharedInput) (units : ℕ) : SharedClientLoop C Own :=
  let (writeReady, outboundAdmission) := st.outboundAdmission.release units
  let st := { st with outboundAdmission }
  if writeReady then st.emitWriteReady input else st

def answer (reply : SharedReply) : SharedClientLoop C Own :=
  { st with replies := st.replies ++ [reply] }

/-- Report a driver error to one session after the other, until a sink refuses. -/
def emitRuntimeError (input : SharedInput) (syscall reasonCode : String) :
    List ℕ → SharedClientLoop C Own → SharedClientLoop C Own
  | [], st => st
  | handle :: handles, st =>
    match st.sessions.get handle with
    | none => emitRuntimeError input syscall reasonCode handles st
    | some session =>
      let event : JsH3Event := .runtimeError (UInt32.ofNat handle) input.driverKind
        syscall reasonCode
        input.error input.errno
      let (ok, batcher) := (session.batcher.push event).flush (input.sinkOk handle)
      let st := st.setSession handle { session with batcher }
      if ok then emitRuntimeError input syscall reasonCode handles st else st

def failWith (input : SharedInput) (syscall reasonCode : String) : SharedClientLoop C Own :=
  { emitRuntimeError input syscall reasonCode st.sessions.keys st with
    stage := .returning .runtimeError }

/-- Remove a session: units it still owes go back to the window, and nobody is told when that
reopens it. -/
def removeSession (cause : SessionEnd) (handle : ℕ) : SharedClientLoop C Own :=
  match st.sessions.get handle with
  | none => st
  | some session =>
    { st with
      timerHeap := st.timerHeap.removeConnection handle
      sessions := st.sessions.remove handle
      outboundAdmission := (st.outboundAdmission.release
        (KeyMap.total PendingWrite.queuedUnits session.handler.pendingWrites)).2
      routeByDcid := KeyMap.retainValues (· ≠ handle) st.routeByDcid
      ended := st.ended ++ [⟨session.uid, session.batcher, cause⟩] }

def finishSession (input : SharedInput) (cause : SessionEnd) (handle : ℕ) :
    SharedClientLoop C Own :=
  match st.sessions.get handle with
  | none => st
  | some session =>
    let (_, batcher) := session.batcher.pushShutdownComplete.flush (input.sinkOk handle)
    (st.setSession handle { session with batcher }).removeSession cause handle

def syncTimer (handle : ℕ) : SharedClientLoop C Own :=
  match st.sessions.get handle with
  | none => st
  | some session =>
    { st with timerHeap := st.timerHeap.setDeadline handle session.handler.timerDeadline }

end Sessions

variable [ClientProtocol C Own]

section Calls

variable (st : SharedClientLoop C Own)

/-- Route the connection ids quiche uses now, and no longer those it has retired. -/
def refreshDcid (handle : ℕ) : SharedClientLoop C Own :=
  match st.sessions.get handle with
  | none => st
  | some session =>
    let ((currentDcid, needsUpdate, retiredDcids), conn) :=
      ClientProtocol.takeDcidUpdates session.handler.conn
    let routes := if needsUpdate then st.routeByDcid.insert currentDcid handle else st.routeByDcid
    { st.setSession handle { session with handler := session.handler.setConn conn } with
      routeByDcid := retiredDcids.foldl (fun routes retired => routes.erase retired) routes }

/-- One packet of each session that still has one; the sessions without one are done. -/
def sendRound : List ℕ → SharedClientLoop C Own → List Bytes × List ℕ × SharedClientLoop C Own
  | [], st => ([], [], st)
  | handle :: handles, st =>
    match st.sessions.get handle with
    | none => sendRound handles st
    | some session =>
      let (sent, conn) := ClientProtocol.trySend session.handler.conn
      let (outbound, active, st) := sendRound handles
        (st.setSession handle { session with handler := session.handler.setConn conn })
      match sent with
      | some packet => (packet :: outbound, handle :: active, st)
      | none => (outbound, active, st)

/-- Rounds over the sessions until none has a packet. -/
def flushRoundRobinSends : ℕ → List ℕ → SharedClientLoop C Own →
    List Bytes × SharedClientLoop C Own
  | 0, _, st => ([], st)
  | rounds + 1, active, st =>
    if active.isEmpty then ([], st)
    else
      let (sent, active, st) := sendRound active st
      let (outbound, st) := flushRoundRobinSends rounds active st
      (sent ++ outbound, st)

def refreshTimersAfterSends (now : ℕ) : SharedClientLoop C Own :=
  st.sessions.keys.foldl (fun st handle =>
    match st.sessions.get handle with
    | none => st
    | some session =>
      (st.setSession handle { session with
        handler := ClientProtocol.refreshTimeoutDeadline now session.handler }).syncTimer handle) st

/-- Write out packets and go on, unless the driver fails. -/
def submitSends (input : SharedInput) (next : SharedStage) : SharedClientLoop C Own :=
  let (outbound, st) := flushRoundRobinSends input.rounds st.sessions.keys st
  let st := st.refreshTimersAfterSends input.now
  if !outbound.isEmpty && !input.submitOk then
    st.failWith input "submit_sends" "driver-submit-sends-failed"
  else { st with stage := next }

def openSession (input : SharedInput) (request : ℕ) (serverAddr : SocketAddr)
    (serverName : String) (sessionTicket : Option Bytes) : SharedClientLoop C Own :=
  match ClientProtocol.newSession (C := C) st.nextUid input.scid st.localAddr serverAddr serverName
    sessionTicket input.now st.outboundAdmission with
  | none => st.answer (.openSession request
      (.error (.config (ClientProtocol.newSessionError (C := C)))))
  | some handler =>
    let handle := st.sessions.nextKey
    let dcid := ClientProtocol.currentDcid handler.conn
    let st := { st with
      sessions := st.sessions.insert ⟨st.nextUid, handler, ⟨[], []⟩, serverAddr⟩
      routeByDcid := st.routeByDcid.insert dcid handle
      given := st.given ++ [(st.nextUid, handle)]
      nextUid := st.nextUid + 1 }
    (st.syncTimer handle).answer (.openSession request (.ok (UInt32.ofNat handle)))

/-- A command of a session. `meant` only goes into the release it may queue. -/
def sessionCommand (input : SharedInput) (meant : ℕ) (sessionHandle : UInt32)
    (cmd : SessionCommand Own) : SharedClientLoop C Own :=
  let handle := sessionHandle.toNat
  let outboundUnits := cmd.outboundBytes
  match cmd with
  | .own cmd =>
    match st.sessions.get handle with
    | none => (ClientProtocol.ownAbsent (C := C) cmd).elim st fun reply =>
      st.answer (.session reply)
    | some session =>
      let handler := ClientProtocol.own cmd { session.handler with replies := [] }
      { st.setSession handle { session with handler } with
        replies := st.replies ++ handler.replies.map .session }
  | .streamSend streamId chunk fin =>
    match st.sessions.get handle with
    | none => st.releaseOutbound input outboundUnits
    | some session =>
      let send := ClientProtocol.queueStreamSend sessionHandle streamId chunk fin
      let releasedUnits := (send (st.lend session)).1
      let (ok, st) := st.collectAtomic input handle fun h => (send h).2
      let st := st.releaseOutbound input releasedUnits
      if ok then st else st.pushRelease handle
  | .streamClose streamId errorCode =>
    match st.sessions.get handle with
    | none => st
    | some session =>
      let (released, handler) := ClientProtocol.closeStream streamId errorCode session.handler
      (st.setSession handle { session with handler }).releaseOutbound input released
  | .sendDatagram data =>
    match st.sessions.get handle with
    | none => (st.releaseOutbound input outboundUnits).answer (.session (.done false))
    | some session =>
      let (ok, handler) := ClientProtocol.sendDatagram data session.handler
      ((st.setSession handle { session with handler }).releaseOutbound input outboundUnits).answer
        (.session (.done ok))
  | .ping =>
    match st.sessions.get handle with
    | none => st.answer (.session (.done false))
    | some session =>
      let (ok, handler) := ClientProtocol.ping input.now session.handler
      (st.setSession handle { session with handler }).answer (.session (.done ok))
  | .close errorCode reason =>
    match st.sessions.get handle with
    | none => st
    | some session =>
      st.setSession handle { session with
        handler := ClientProtocol.closeSession errorCode reason session.handler }
  | .releaseSession =>
    { st with
      releaseRequested := true
      pendingRelease := st.pendingRelease ++ [⟨sessionHandle, meant⟩] }

def dispatchCommand (input : SharedInput) (queued : SharedQueued Own) : SharedClientLoop C Own :=
  match queued.cmd with
  | .openSession serverAddr serverName sessionTicket =>
    st.openSession input queued.meant serverAddr serverName sessionTicket
  | .session sessionHandle cmd => st.sessionCommand input queued.meant sessionHandle cmd

/-- The next packet, or the timers when there is none. -/
def stageOfRx (idx count : ℕ) : List Packet → SharedStage
  | [] => .timers
  | rest => .rx ⟨idx, count, rest⟩

/-- The session a packet belongs to: its connection id is routed there, and it comes from the
server. -/
def routed (p : Packet) : Option ℕ :=
  p.header.bind fun header =>
    (st.routeByDcid.lookup header.dcid).filter fun handle =>
      (st.sessions.get handle).any fun session => p.peer = session.serverAddr

/-- After a call on a session: go on, with the session marked for removal when its sink is
closed. -/
def orClose (handle : ℕ) (result : Bool × SharedClientLoop C Own) (next refused : SharedStage) :
    SharedClientLoop C Own :=
  match result with
  | (true, st) => { st with stage := next }
  | (false, st) => { st with closedSessions := st.closedSessions ++ [handle], stage := refused }

/-- A call that may have moved the connection id or the deadline. -/
def refreshed (handle : ℕ) (result : Bool × SharedClientLoop C Own) :
    Bool × SharedClientLoop C Own :=
  match result with
  | (true, st) => (true, (st.refreshDcid handle).syncTimer handle)
  | (false, st) => (false, st)

def packet (input : SharedInput) (q : SharedRx) (p : Packet) : SharedClientLoop C Own :=
  match st.routed p with
  | none => { st with stage := .rxSends q }
  | some handle =>
    match refreshed handle (st.collectAtomic input handle
      (ClientProtocol.processPacketForHandle (UInt32.ofNat handle) p 0 input.now)) with
    | (true, st) => { st with stage := .rxCap handle q }
    | (false, st) => { st with stage := .rxRemove handle q }

def finish (input : SharedInput) : SharedClientLoop C Own :=
  if st.sessions.len = 0 ∧ input.pendingTx = 0 then
    { st with stage := .returning (if st.releaseRequested then .command else .handlerDone) }
  else { st with stage := .poll }

def tickAt (input : SharedInput) (stage : SharedStage) : SharedClientLoop C Own :=
  match stage with
  | .poll =>
    match input.rx with
    | none => st.failWith input "poll" "driver-poll-failed"
    | some rx => { st with stage := .commands 0 rx }
  | .commands drained rx =>
    match st.channel with
    | [] => { st with stage := .commandSends rx }
    | queued :: channel =>
      if drained < maxCommandsPerTick then
        { st with channel, stage := .commands (drained + 1) rx }.dispatchCommand input queued
      else { st with stage := .commandSends rx }
  | .commandSends rx => st.submitSends input (.release rx)
  | .release rx =>
    match st.pendingRelease with
    | [] => { st with stage := stageOfRx 0 rx.length rx }
    | release :: pendingRelease =>
      { st with pendingRelease }.finishSession input .released release.sessionHandle.toNat
  | .rx q =>
    match q.rest with
    | [] => { st with stage := .timers }
    | p :: rest => st.packet input { q with rest } p
  | .rxCap handle q =>
    match st.capFlush input handle with
    | (true, st) => { st with stage := .rxSends q }
    | (false, st) => { st with stage := .rxRemove handle q }
  | .rxRemove handle q => { st.removeSession .refused handle with stage := .rxSends q }
  | .rxSends q =>
    if (q.idx + 1) % 64 = 0 ∧ q.idx + 1 < q.count then
      st.submitSends input (stageOfRx (q.idx + 1) q.count q.rest)
    else { st with stage := stageOfRx (q.idx + 1) q.count q.rest }
  | .timers =>
    let (expired, timerHeap) := st.timerHeap.popExpired input.now
    { st with timerHeap, closedSessions := [], stage := .expired input.now expired }
  | .expired now handles =>
    match handles with
    | [] => { st with stage := .appEvents st.sessions.keys }
    | handle :: rest =>
      orClose handle (refreshed handle (st.collectAtomic input handle
        (ClientProtocol.processTimersForHandle (UInt32.ofNat handle) now
          (st.appEventBudget input handle)))) (.expiredCap now handles) (.expired now rest)
  | .expiredCap now handles =>
    match handles with
    | [] => { st with stage := .expired now [] }
    | handle :: rest =>
      orClose handle (st.capFlush input handle) (.expired now rest) (.expired now rest)
  | .appEvents handles =>
    match handles with
    | [] => { st with stage := .closed }
    | handle :: rest =>
      orClose handle (refreshed handle (st.collectAtomic input handle
        (ClientProtocol.pollAppEventsForHandle (UInt32.ofNat handle)
          (st.appEventBudget input handle) input.now))) (.drainEvents handles) (.appEvents rest)
  | .drainEvents handles =>
    match handles with
    | [] => { st with stage := .appEvents [] }
    | handle :: rest =>
      orClose handle (st.collectAtomic input handle
        (ClientProtocol.pollDrainEventsForHandle (UInt32.ofNat handle)
          (st.appEventBudget input handle))) (.pendingWrites handles) (.appEvents rest)
  | .pendingWrites handles =>
    match handles with
    | [] => { st with stage := .appEvents [] }
    | handle :: rest =>
      orClose handle (st.collectAtomic input handle
        (ClientProtocol.flushPendingWritesForHandle (UInt32.ofNat handle)))
        (.cap handles) (.appEvents rest)
  | .cap handles =>
    match handles with
    | [] => { st with stage := .appEvents [] }
    | handle :: rest =>
      orClose handle (st.capFlush input handle) (.appEvents rest) (.appEvents rest)
  | .closed =>
    match st.closedSessions with
    | [] => { st with stage := .sends }
    | handle :: closedSessions => { st with closedSessions }.removeSession .refused handle
  | .sends => st.submitSends input (.flush st.sessions.keys)
  | .flush handles =>
    match handles with
    | [] => { st with stage := .reap }
    | handle :: rest =>
      let reapable := (st.sessions.get handle).any fun session =>
        ClientProtocol.isReapable session.handler
      let (ok, st) := st.flush input handle
      orClose handle (ok && !reapable, st) (.flush rest) (.flush rest)
  | .reap =>
    match st.closedSessions with
    | [] => { st with stage := .done }
    | handle :: closedSessions => { st with closedSessions }.finishSession input .reaped handle
  | .done => st.finish input
  | .returning cause => { st with stage := .exited cause }
  | .exited _ => st

def tick (input : SharedInput) : SharedClientLoop C Own := st.tickAt input st.stage

end Calls

/-- The receiver of the channel lives until the loop has returned. -/
def channelOpen (st : SharedClientLoop C Own) : Bool :=
  match st.stage with
  | .exited _ => false
  | _ => true

/-- Put a command in the channel; `false` once the worker is gone. -/
def sendCommand (queued : SharedQueued Own) (st : SharedClientLoop C Own) :
    Bool × SharedClientLoop C Own :=
  if st.channelOpen then (true, { st with channel := st.channel ++ [queued] }) else (false, st)

/-- One step of the interleaving of JavaScript and the worker. -/
inductive Step (Own : Type)
  | tick (input : SharedInput)
  | openSession (serverAddr : SocketAddr) (serverName : String) (sessionTicket : Option Bytes)
  /-- A command through the handle that the opening of a session was answered with. -/
  | send (uid : ℕ) (cmd : SessionCommand Own)
  | tryAdmitOutbound (payloadLen : ℕ) (fin : Bool)
  | releaseOutboundAdmission (payloadLen : ℕ) (fin : Bool)

def requestSession (serverAddr : SocketAddr) (serverName : String) (sessionTicket : Option Bytes)
    (st : SharedClientLoop C Own) : Bool × SharedClientLoop C Own :=
  match st.sendCommand ⟨.openSession serverAddr serverName sessionTicket, st.accepted⟩ with
  | (true, st) => (true, { st with accepted := st.accepted + 1 })
  | (false, st) => (false, st)

def step : Step Own → SharedClientLoop C Own → SharedClientLoop C Own
  | .tick input, st => st.tick input
  | .openSession serverAddr serverName sessionTicket, st =>
    (st.requestSession serverAddr serverName sessionTicket).2
  | .send uid cmd, st =>
    match st.given.find? fun g => g.1 = uid with
    | none => st
    | some (_, handle) => (st.sendCommand ⟨.session (UInt32.ofNat handle) cmd, uid⟩).2
  | .tryAdmitOutbound payloadLen fin, st =>
    { st with outboundAdmission :=
        (st.outboundAdmission.tryAdmit (outboundPayloadUnits payloadLen fin)).2 }
  | .releaseOutboundAdmission payloadLen fin, st =>
    { st with outboundAdmission :=
        (st.outboundAdmission.release (outboundPayloadUnits payloadLen fin)).2 }

def init (localAddr : SocketAddr) : SharedClientLoop C Own where
  localAddr
  sessions := .empty
  routeByDcid := ∅
  timerHeap := .new
  outboundAdmission := .default
  pendingRelease := []
  closedSessions := []
  releaseRequested := false
  channel := []
  replies := []
  stage := .poll
  nextUid := 0
  accepted := 0
  given := []
  ended := []

end SharedClientLoop

end Http3
