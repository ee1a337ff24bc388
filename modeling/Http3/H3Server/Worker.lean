import Http3.H3Server.Tick
import Http3.Lib.Runs

/-! A server worker together with its command channel, and the native calls that
feed the channel from JavaScript. -/

namespace Http3

/-- What the event loop asks of the server between commands. -/
inductive ServerOp
  | packet (direct : Bool) (p : Packet) (budget now : ℕ) (scids : List Bytes)
  | expireTimers (now budget : ℕ)
  | collectAppEvents (budget now : ℕ)
  | collectDrainEvents
  | flushAllPendingWrites
  | flushAllSends (rounds now : ℕ)
  | reapClosedConnections
  | emitSessionCloseForAllActive
  deriving DecidableEq

def ServerOp.apply {Q : Type} [Quiche Q] : ServerOp → H3Server Q → H3Server Q
  | .packet direct p budget now scids => H3Server.packetArrives direct p budget now scids
  | .expireTimers now budget => H3Server.expireTimers now budget
  | .collectAppEvents budget now => H3Server.collectAppEvents budget now
  | .collectDrainEvents => H3Server.collectDrainEvents
  | .flushAllPendingWrites => H3Server.flushAllPendingWrites
  | .flushAllSends rounds now => fun s => (s.flushAllSends rounds now).2
  | .reapClosedConnections => H3Server.reapClosedConnections
  | .emitSessionCloseForAllActive => H3Server.emitSessionCloseForAllActive

def H3Server.startBatch {Q : Type} (s : H3Server Q) : H3Server Q := { s with batch := [] }

/-- A command in the channel. `meant` is not part of the program: the connection
JavaScript had in mind. -/
structure Queued where
  cmd : WorkerCommand
  meant : ℕ
  deriving DecidableEq, Repr

/-- Commands wait in the channel in the order they were sent, events in the order
they were reported. `answered` is not part of the program: the streams a
response-headers command was dispatched for, each as its connection and stream id. -/
structure H3Worker (Q : Type) where
  server : H3Server Q
  channel : List Queued
  events : List Emitted
  answered : List (ℕ × ℕ)

namespace H3Worker

variable {Q : Type}

/-- Route a command into the channel. It fails once the worker is gone. -/
def sendCommand (channelOpen : Bool) (cmd : Queued) (w : H3Worker Q) : Bool × H3Worker Q :=
  if channelOpen then (true, { w with channel := w.channel ++ [cmd] }) else (false, w)

def tryAdmitOutbound (payloadLen : ℕ) (fin : Bool) (w : H3Worker Q) : Bool × H3Worker Q :=
  let (admitted, outboundAdmission) :=
    w.server.outboundAdmission.tryAdmit (outboundPayloadUnits payloadLen fin)
  (admitted, { w with server := { w.server with outboundAdmission } })

/-- Give units back from the JavaScript side; nobody is told when the window reopens. -/
def releaseOutboundAdmission (payloadLen : ℕ) (fin : Bool) (w : H3Worker Q) : H3Worker Q :=
  { w with server := { w.server with
      outboundAdmission :=
        (w.server.outboundAdmission.release (outboundPayloadUnits payloadLen fin)).2 } }

/-- Charge a payload and enqueue its command, or neither. -/
def admitAndSend (channelOpen : Bool) (cmd : Queued) (payloadLen : ℕ) (fin : Bool)
    (w : H3Worker Q) : Bool × H3Worker Q :=
  match w.tryAdmitOutbound payloadLen fin with
  | (false, w) => (false, w)
  | (true, w) =>
    match w.sendCommand channelOpen cmd with
    | (true, w) => (true, w)
    | (false, w) => (false, w.releaseOutboundAdmission payloadLen fin)

section Napi

variable (channelOpen : Bool) (meant : ℕ) (connHandle : UInt32) (streamId : ℕ)

def sendResponse (headers : Headers) (body : Bytes) (fin : Bool) : H3Worker Q → Bool × H3Worker Q :=
  admitAndSend channelOpen ⟨.sendResponse connHandle streamId headers body fin, meant⟩
    body.length fin

def streamSend (data : Bytes) (fin : Bool) : H3Worker Q → Bool × H3Worker Q :=
  admitAndSend channelOpen ⟨.streamSend connHandle streamId data fin, meant⟩ data.length fin

/-- The answer is the worker's own, or `false` when it does not come in time; a
late answer changes nothing here, the units are the worker's to give back. -/
def sendDatagram (data : Bytes) (reply : Option Bool) (w : H3Worker Q) : Bool × H3Worker Q :=
  match admitAndSend channelOpen ⟨.sendDatagram connHandle data, meant⟩ data.length false w with
  | (false, w) => (false, w)
  | (true, w) => (reply.getD false, w)

def napi (cmd : WorkerCommand) (reply : Option Bool) (w : H3Worker Q) : Bool × H3Worker Q :=
  match cmd with
  | .sendResponse connHandle streamId headers body fin =>
    w.sendResponse channelOpen meant connHandle streamId headers body fin
  | .streamSend connHandle streamId chunk fin =>
    w.streamSend channelOpen meant connHandle streamId chunk fin
  | .sendDatagram connHandle data => w.sendDatagram channelOpen meant connHandle data reply
  | cmd => w.sendCommand channelOpen ⟨cmd, meant⟩

/-- The channel after a native call that may have enqueued `queued`. -/
def MayEnqueue (w : H3Worker Q) (queued : Queued) (channel : List Queued) : Prop :=
  channel = w.channel ∨ channel = w.channel ++ [queued]

theorem sendCommand_spec (queued : Queued) (w : H3Worker Q) :
    ∃ a channel, w.MayEnqueue queued channel ∧ (w.sendCommand channelOpen queued).2 =
      { w with server := { w.server with outboundAdmission := a }, channel } := by
  unfold sendCommand
  split_ifs
  · exact ⟨_, _, .inr rfl, rfl⟩
  · exact ⟨_, _, .inl rfl, rfl⟩

theorem admitAndSend_spec (queued : Queued) (payloadLen : ℕ) (fin : Bool) (w : H3Worker Q) :
    ∃ a channel, w.MayEnqueue queued channel ∧
      (w.admitAndSend channelOpen queued payloadLen fin).2 =
        { w with server := { w.server with outboundAdmission := a }, channel } := by
  unfold admitAndSend tryAdmitOutbound sendCommand
  dsimp only
  cases (w.server.outboundAdmission.tryAdmit (outboundPayloadUnits payloadLen fin)).1 with
  | false => exact ⟨_, _, .inl rfl, rfl⟩
  | true =>
    cases channelOpen with
    | false => exact ⟨_, _, .inl rfl, rfl⟩
    | true => exact ⟨_, _, .inr rfl, rfl⟩

theorem napi_spec (cmd : WorkerCommand) (reply : Option Bool) (w : H3Worker Q) :
    ∃ a channel, w.MayEnqueue ⟨cmd, meant⟩ channel ∧ (w.napi channelOpen meant cmd reply).2 =
      { w with server := { w.server with outboundAdmission := a }, channel } := by
  cases cmd with
  | sendResponse connHandle streamId headers body fin => exact admitAndSend_spec _ _ _ _ w
  | streamSend connHandle streamId chunk fin => exact admitAndSend_spec _ _ _ _ w
  | sendDatagram connHandle data =>
    have hsend := admitAndSend_spec channelOpen ⟨.sendDatagram connHandle data, meant⟩
      data.length false w
    unfold napi sendDatagram
    dsimp only
    generalize w.admitAndSend channelOpen _ _ _ = r at hsend ⊢
    obtain ⟨_ | _, w'⟩ := r <;> exact hsend
  | sendResponseHeaders connHandle streamId headers fin => exact sendCommand_spec _ _ w
  | streamReadCredit connHandle streamId bytes => exact sendCommand_spec _ _ w
  | streamClose connHandle streamId errorCode => exact sendCommand_spec _ _ w
  | sendTrailers connHandle streamId headers => exact sendCommand_spec _ _ w
  | closeSession connHandle errorCode reason => exact sendCommand_spec _ _ w
  | pingSession connHandle => exact sendCommand_spec _ _ w
  | shutdown => exact sendCommand_spec _ _ w

end Napi

variable [Quiche Q]

/-- The stream a response-headers command opens the response of. -/
def answers (s : H3Server Q) : WorkerCommand → List (ℕ × ℕ)
  | .sendResponseHeaders connHandle streamId _ _ | .sendResponse connHandle streamId _ _ _ =>
    ((s.conn? connHandle).map fun conn => (conn.uid, streamId)).toList
  | _ => []

/-- Let the server work on an empty batch and append what it reports. -/
def collect (f : H3Server Q → H3Server Q) (w : H3Worker Q) : H3Worker Q :=
  let s := f w.server.startBatch
  { w with server := s.startBatch, events := w.events ++ s.batch }

/-- Take the next command out of the channel and dispatch it. -/
def dispatchNext (now : ℕ) (w : H3Worker Q) : H3Worker Q :=
  match w.channel with
  | [] => w
  | next :: channel =>
    { w with channel, answered := answers w.server next.cmd ++ w.answered }.collect
      fun s => (s.dispatchCommand now next.cmd).2

/-- One step of the interleaving of JavaScript and the worker. -/
inductive Step
  | call (channelOpen : Bool) (meant : ℕ) (cmd : WorkerCommand) (reply : Option Bool)
  | dispatch (now : ℕ)
  | work (op : ServerOp)
  deriving DecidableEq

def step : Step → H3Worker Q → H3Worker Q
  | .call channelOpen meant cmd reply, w => (w.napi channelOpen meant cmd reply).2
  | .dispatch now, w => w.dispatchNext now
  | .work op, w => w.collect op.apply

def init (handleOffset maxConnections : UInt32) (disableRetry : Bool)
    (streamReadWindow : Option ℕ) (requireClientCert : Bool) : H3Worker Q :=
  ⟨.init handleOffset maxConnections disableRetry streamReadWindow requireClientCert, [], [], []⟩

end H3Worker

end Http3
