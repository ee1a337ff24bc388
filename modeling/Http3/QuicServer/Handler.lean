import Http3.QuicConnection
import Http3.ServerConnections
import Http3.TimerHeap
import Mathlib.Data.List.Sort
import Mathlib.Data.List.Dedup

/-! The raw QUIC server worker: its state, its commands, and what it does with
commands, packets, timers and the connections it holds. -/

namespace Http3

/-- Commands sent from the JavaScript main thread, with handles local to the worker. -/
inductive QuicServerCommand
  | streamSend (connHandle : UInt32) (streamId : ℕ) (chunk : Bytes) (fin : Bool)
  | streamClose (connHandle : UInt32) (streamId errorCode : ℕ)
  | closeSession (connHandle : UInt32) (errorCode : ℕ) (reason : String)
  | sendDatagram (connHandle : UInt32) (data : Bytes)
  | pingSession (connHandle : UInt32)
  | shutdown
  deriving DecidableEq, Repr

namespace QuicServerCommand

/-- The connection a command names; a shutdown names none and goes to the first worker. -/
def commandConnHandle : QuicServerCommand → UInt32
  | .streamSend connHandle .. | .streamClose connHandle .. | .closeSession connHandle ..
  | .sendDatagram connHandle .. | .pingSession connHandle => connHandle
  | .shutdown => 0

/-- Strip the worker bits on the way into a worker's channel. -/
def remapCommandHandle : QuicServerCommand → QuicServerCommand
  | .streamSend connHandle streamId chunk fin =>
    .streamSend (localConnHandle connHandle) streamId chunk fin
  | .streamClose connHandle streamId errorCode =>
    .streamClose (localConnHandle connHandle) streamId errorCode
  | .closeSession connHandle errorCode reason =>
    .closeSession (localConnHandle connHandle) errorCode reason
  | .sendDatagram connHandle data => .sendDatagram (localConnHandle connHandle) data
  | .pingSession connHandle => .pingSession (localConnHandle connHandle)
  | .shutdown => .shutdown

end QuicServerCommand

/-- Queued datagrams go out with the packets. -/
instance {Q : Type} [Quiche Q] : ServerConnection (QuicConnection Q) Q where
  new := QuicConnection.new
  quicheConn c := c.quicheConn
  setQuicheConn c q := { c with quicheConn := q }
  send c := c.drainOutboundDatagrams.send

/-- State of the worker, with the batch the current call appends to and the
answers sent on reply channels. -/
structure QuicServer (Q : Type) where
  connMap : ConnectionMap (QuicConnection Q)
  timerHeap : TimerHeap
  pendingWrites : KeyMap (UInt32 × ℕ) PendingWrite
  lastExpired : List ℕ
  handleOffset : UInt32
  disableRetry : Bool
  requireClientCert : Bool
  outboundAdmission : OutboundAdmission
  batch : List Emitted
  replies : List Bool

namespace QuicServer

variable {Q : Type} [Quiche Q]

def init (handleOffset maxConnections : UInt32) (disableRetry requireClientCert : Bool) :
    QuicServer Q where
  connMap := .withMaxConnections maxConnections
  timerHeap := .new
  pendingWrites := ∅
  lastExpired := []
  handleOffset
  disableRetry
  requireClientCert
  outboundAdmission := .default
  batch := []
  replies := []

def conn? (s : QuicServer Q) (connHandle : UInt32) : Option (QuicConnection Q) :=
  s.connMap.get connHandle.toNat

def setConn (s : QuicServer Q) (connHandle : UInt32) (conn : QuicConnection Q) : QuicServer Q :=
  { s with connMap := s.connMap.set connHandle.toNat conn }

def emit (s : QuicServer Q) (ref : ConnRef) (event : JsH3Event) : QuicServer Q :=
  { s with batch := pushFor ref event s.batch }

def refOf (connHandle : UInt32) (conn : QuicConnection Q) : ConnRef := ⟨connHandle.toNat, conn.uid⟩

/-- Give units back and wake writers when the window reopens. -/
def releaseOutboundAdmission (s : QuicServer Q) (units : ℕ) : QuicServer Q :=
  let (writeReady, outboundAdmission) := s.outboundAdmission.release units
  let s := { s with outboundAdmission }
  if writeReady then { s with batch := pushWorker (.writeReady 0) s.batch } else s

def insertPendingWrite (s : QuicServer Q) (key : UInt32 × ℕ) (write : PendingWrite) :
    QuicServer Q :=
  { s with pendingWrites := s.pendingWrites.insert key write }

section Dispatch

variable (connHandle : UInt32) (streamId : ℕ)

/-- Unlike everywhere else, the events of a send carry the handle of the command
as it came, without the worker's offset. -/
def dispatchStreamSend (chunk : Bytes) (fin : Bool) (s : QuicServer Q) : QuicServer Q :=
  match s.pendingWrites.lookup (connHandle, streamId) with
  | some write => s.insertPendingWrite (connHandle, streamId) (write.merge chunk fin)
  | none =>
    match s.conn? connHandle with
    | none => s.releaseOutboundAdmission (outboundPayloadUnits chunk.length fin)
    | some conn =>
      let (result, conn) := conn.streamSendArcbuf streamId chunk fin
      let s := s.setConn connHandle conn
      match result with
      | .ok outcome =>
        let s := s.releaseOutboundAdmission
          (acceptedOutboundPayloadUnits chunk.length fin outcome.written outcome.finAccepted)
        match outcome.remainder with
        | some remainder =>
          (s.insertPendingWrite (connHandle, streamId) (.new remainder fin)).emit
            (refOf connHandle conn) (.streamBlocked connHandle streamId)
        | none => s
      | .error e =>
        (s.releaseOutboundAdmission (outboundPayloadUnits chunk.length fin)).emit
          (refOf connHandle conn)
          (.error connHandle streamId 0 s!"stream send failed: {e.display}")

/-- The RESET of an abandoned write carries the handle as it came, too. -/
def dispatchStreamClose (errorCode : ℕ) (s : QuicServer Q) : QuicServer Q :=
  match s.conn? connHandle with
  | none => s
  | some conn =>
    let conn := conn.streamClose streamId errorCode
    let released := KeyMap.weight PendingWrite.queuedUnits
      (s.pendingWrites.lookup (connHandle, streamId))
    let s := { s.setConn connHandle conn with
      pendingWrites := s.pendingWrites.erase (connHandle, streamId)
      }.releaseOutboundAdmission released
    if 0 < released then s.emit (refOf connHandle conn) (.reset connHandle streamId errorCode)
    else s

def dispatchCloseSession (errorCode : ℕ) (reason : String) (s : QuicServer Q) : QuicServer Q :=
  match s.conn? connHandle with
  | none => s
  | some conn => s.setConn connHandle (conn.close true errorCode reason)

def dispatchSendDatagram (data : Bytes) (s : QuicServer Q) : QuicServer Q :=
  let (ok, s) := match s.conn? connHandle with
    | none => (false, s)
    | some conn =>
      let (ok, conn) := conn.queueDatagram data
      (ok, s.setConn connHandle conn)
  let s := s.releaseOutboundAdmission data.length
  { s with replies := s.replies ++ [ok] }

def dispatchPingSession (now : ℕ) (s : QuicServer Q) : QuicServer Q :=
  let (ok, s) := match s.conn? connHandle with
    | none => (false, s)
    | some conn =>
      let (ok, conn) := conn.queuePing now
      (ok, s.setConn connHandle conn)
  { s with replies := s.replies ++ [ok] }

end Dispatch

def shutdownConn (s : QuicServer Q) (handle : ℕ) : QuicServer Q :=
  match s.connMap.get handle with
  | none => s
  | some conn =>
    if !Quiche.isClosed conn.quicheConn && !Quiche.isDraining conn.quicheConn then
      { s with connMap := s.connMap.set handle (conn.close true 0 "server shutdown") }
    else s

def dispatchShutdown (s : QuicServer Q) : QuicServer Q := s.connMap.handles.foldl shutdownConn s

/-- Process one command; `true` asks the loop to shut down. -/
def dispatchCommand (now : ℕ) (cmd : QuicServerCommand) (s : QuicServer Q) :
    Bool × QuicServer Q :=
  match cmd with
  | .shutdown => (true, s.dispatchShutdown)
  | .streamSend connHandle streamId chunk fin =>
    (false, s.dispatchStreamSend connHandle streamId chunk fin)
  | .streamClose connHandle streamId errorCode =>
    (false, s.dispatchStreamClose connHandle streamId errorCode)
  | .closeSession connHandle errorCode reason =>
    (false, s.dispatchCloseSession connHandle errorCode reason)
  | .sendDatagram connHandle data => (false, s.dispatchSendDatagram connHandle data)
  | .pingSession connHandle => (false, s.dispatchPingSession connHandle now)

/-- Poll one connection: its events and its acknowledged pings. -/
def pollConn (s : QuicServer Q) (handle budget now : ℕ) (conn : QuicConnection Q) :
    QuicServer Q :=
  let ref : ConnRef := ⟨handle, conn.uid⟩
  let connHandle := globalHandle s.handleOffset handle
  let (conn, batch) := conn.pollQuicEvents ref connHandle budget s.batch
  let (durations, conn) := conn.pollPingAcks now
  { s with
    connMap := s.connMap.set handle conn
    batch := durations.foldl (fun batch d => pushFor ref (.pingAck connHandle d) batch) batch }

def sweepConn (budget : ℕ) (s : QuicServer Q) (handle : ℕ) : QuicServer Q :=
  match s.connMap.get handle with
  | none => s
  | some conn =>
    let (conn, batch) := conn.sweepFinishedStreams ⟨handle, conn.uid⟩
      (globalHandle s.handleOffset handle) budget s.batch
    { s with connMap := s.connMap.set handle conn, batch }

section Packets

def routeOrAccept (hdr : PacketHeader) (p : Packet) (now : ℕ) (scids : List Bytes)
    (s : QuicServer Q) : Option ℕ × QuicServer Q :=
  let (routed, connMap, batch) :=
    s.connMap.routeAndAnnounce s.disableRetry s.handleOffset hdr p now scids s.batch
  (routed, { s with connMap, batch })

/-- Handshake bookkeeping after a packet. A client that had to present a
certificate and did not is closed, and nothing else: the caller goes on. -/
def noteHandshake (handle : ℕ) (conn : QuicConnection Q) (s : QuicServer Q) :
    QuicConnection Q × QuicServer Q :=
  let conn := if Quiche.isEstablished conn.quicheConn && !conn.isEstablished then
      { conn with isEstablished := true } else conn
  if Quiche.isEstablished conn.quicheConn && !conn.handshakeCompleteEmitted then
    if s.requireClientCert && (Quiche.peerCert conn.quicheConn).isNone then
      (conn.close false 0x0100 "client certificate required", s)
    else
      ({ conn with handshakeCompleteEmitted := true }, s.emit ⟨handle, conn.uid⟩
        (.handshakeCompleteWithPeerCertificate (globalHandle s.handleOffset handle)
          (Quiche.peerCert conn.quicheConn).isSome
          ((Quiche.peerCertChain conn.quicheConn).or
            ((Quiche.peerCert conn.quicheConn).map fun certificate => [certificate]))))
  else (conn, s)

/-- Feed a packet to its connection and report what came of it. -/
def receivePacket (direct : Bool) (handle : ℕ) (p : Packet) (budget now : ℕ) (scids : List Bytes)
    (s : QuicServer Q) : QuicServer Q :=
  match s.connMap.get handle with
  | none => s
  | some conn =>
    let (ok, conn) := conn.recv p
    if !ok then { s with connMap := s.connMap.set handle conn }
    else
      let (conn, s) := s.noteHandshake handle conn
      let currentScid := Quiche.sourceId conn.quicheConn
      let needsDcidUpdate := currentScid ≠ conn.connId
      let conn := { conn with connId := currentScid }
      let s := s.pollConn handle budget now conn
      match s.connMap.get handle with
      | none => s
      | some conn =>
        let (retired, q) := retiredScids (Quiche.rounds conn.quicheConn) conn.quicheConn
        let conn := { conn with quicheConn := q }
        let connMap := s.connMap.set handle conn
        let connMap := if needsDcidUpdate then connMap.addDcid handle currentScid else connMap
        let connMap := retired.foldl ConnectionMap.removeDcid connMap
        -- the direct-call entry point issues no further connection ids
        let connMap := if direct then connMap else connMap.topUpServerScids handle scids
        let deadline := (Quiche.timeout conn.quicheConn).map (now + ·)
        { s with connMap, timerHeap := s.timerHeap.setDeadline handle deadline }

def packetArrives (direct : Bool) (p : Packet) (budget now : ℕ) (scids : List Bytes)
    (s : QuicServer Q) : QuicServer Q :=
  match p.header with
  | none => s
  | some hdr =>
    match s.routeOrAccept hdr p now scids with
    | (none, s) => s
    | (some handle, s) => s.receivePacket direct handle p budget now scids.tail

def processPacket (p : Packet) (budget now : ℕ) (scids : List Bytes) (s : QuicServer Q) :
    QuicServer Q := s.packetArrives false p budget now scids

def processInboundPacket (p : Packet) (budget now : ℕ) (scids : List Bytes) (s : QuicServer Q) :
    QuicServer Q := s.packetArrives true p budget now scids

end Packets

section Ticks

/-- One expired timer: report the close, or poll and rearm. -/
def expireTimer (now budget : ℕ) (s : QuicServer Q) (handle : ℕ) : QuicServer Q :=
  match s.connMap.get handle with
  | none => s
  | some conn =>
    let conn := conn.onTimeout
    let s := { s with connMap := s.connMap.set handle conn }
    if conn.isClosed then
      s.emit ⟨handle, conn.uid⟩ (conn.sessionCloseEvent (globalHandle s.handleOffset handle))
    else
      let s := s.pollConn handle budget now conn
      let deadline := (s.connMap.get handle).bind fun conn =>
        (Quiche.timeout conn.quicheConn).map (now + ·)
      { s with timerHeap := s.timerHeap.setDeadline handle deadline }

/-- Take the expired handles off the heap, each once and in order. -/
def popTimers (now : ℕ) (s : QuicServer Q) : QuicServer Q :=
  let (expired, timerHeap) := s.timerHeap.popExpired now
  { s with timerHeap, lastExpired := (expired.insertionSort (· ≤ ·)).dedup }

/-- Run `on_timeout` for the expired handles, then look for late FINs everywhere. -/
def expireTimers (now budget : ℕ) (s : QuicServer Q) : QuicServer Q :=
  let s := (s.popTimers now).lastExpired.foldl (expireTimer now budget) (s.popTimers now)
  s.connMap.handles.foldl (sweepConn budget) s

/-- Poll every connection, closed ones included, within the budget. -/
def collectAppEvents (budget now : ℕ) (s : QuicServer Q) : QuicServer Q :=
  collectEvents (fun s => s.connMap.get) (fun s handle left conn => s.pollConn handle left now conn)
    (fun s => s.batch.length) budget s.connMap.handles s

/-- Late FINs of one connection, and its drains unless its timer expired in this
tick. -/
def drainConn (budget : ℕ) (s : QuicServer Q) (handle : ℕ) : QuicServer Q :=
  let s := s.sweepConn budget handle
  if handle ∈ s.lastExpired then s
  else
    match s.connMap.get handle with
    | none => s
    | some conn =>
      if conn.blocked.set.isEmpty then s
      else
        let (conn, batch) := conn.pollDrainEvents ⟨handle, conn.uid⟩
          (globalHandle s.handleOffset handle) s.batch
        { s with connMap := s.connMap.set handle conn, batch }

def collectDrainEvents (budget : ℕ) (s : QuicServer Q) : QuicServer Q :=
  s.connMap.handles.foldl (drainConn budget) s

/-- Write out packets in turn and rearm every timer. -/
def flushAllSends (rounds now : ℕ) (s : QuicServer Q) : List Bytes × QuicServer Q :=
  let handles := s.connMap.handles
  let (outbound, connMap) := s.connMap.sendRounds rounds handles
  (outbound, { s with connMap, timerHeap := handles.foldl (fun t handle =>
    t.setDeadline handle ((connMap.get handle).bind fun conn =>
      (Quiche.timeout conn.quicheConn).map (now + ·))) s.timerHeap })

/-- What the retry loop over pending writes carries along. -/
structure WriteFlush (Q : Type) where
  connMap : ConnectionMap (QuicConnection Q)
  pending : KeyMap (UInt32 × ℕ) PendingWrite
  drained : List ((UInt32 × ℕ) × ConnRef)
  releasedUnits : ℕ

def WriteFlush.drop (acc : WriteFlush Q) (key : UInt32 × ℕ) (write : PendingWrite) :
    WriteFlush Q :=
  { acc with
    pending := acc.pending.erase key
    releasedUnits := acc.releasedUnits + write.queuedUnits }

/-- Retry one pending write. Entries of missing connections and of failing sends
are dropped without an event. -/
def WriteFlush.step (acc : WriteFlush Q) (key : UInt32 × ℕ) : WriteFlush Q :=
  match acc.pending.lookup key with
  | none => acc
  | some write =>
    match acc.connMap.get key.1.toNat with
    | none => acc.drop key write
    | some conn =>
      let r := flushPendingWriteWithProgress (QuicConnection.streamSendArcbuf key.2) write conn
      let acc := { acc with connMap := acc.connMap.set key.1.toNat r.conn }
      match r.outcome with
      | .error _ => acc.drop key write
      | .ok outcome =>
        let acc := { acc with releasedUnits := acc.releasedUnits + outcome.releasedUnits }
        if outcome.done then
          { acc with
            pending := acc.pending.erase key
            drained := acc.drained ++ [(key, refOf key.1 r.conn)] }
        else { acc with pending := acc.pending.insert key r.write }

def flushQuicPendingWrites (connMap : ConnectionMap (QuicConnection Q))
    (pending : KeyMap (UInt32 × ℕ) PendingWrite) : WriteFlush Q :=
  pending.keys.foldl WriteFlush.step ⟨connMap, pending, [], 0⟩

def flushAllPendingWrites (s : QuicServer Q) : QuicServer Q :=
  let flushed := flushQuicPendingWrites s.connMap s.pendingWrites
  let s := { s with connMap := flushed.connMap, pendingWrites := flushed.pending
    }.releaseOutboundAdmission flushed.releasedUnits
  flushed.drained.foldl (fun s entry =>
    s.emit entry.2 (.drain (entry.1.1 ||| s.handleOffset) entry.1.2)) s

/-- Streams of a connection with something pending. -/
def abandonedStreams (s : QuicServer Q) (handle : ℕ) : List ℕ :=
  (s.pendingWrites.keys.filter fun key => key.1.toNat = handle).map Prod.snd

/-- Units pending on the streams of a connection. -/
def pendingUnitsOf (s : QuicServer Q) (handle : ℕ) : ℕ :=
  KeyMap.total PendingWrite.queuedUnits
    (KeyMap.retain (fun key : UInt32 × ℕ => decide (key.1.toNat = handle)) s.pendingWrites)

/-- Drop what is kept for a connection; each abandoned stream is reset. -/
def abandonConn (s : QuicServer Q) (ref : ConnRef) : QuicServer Q :=
  { s with
    timerHeap := s.timerHeap.removeConnection ref.slot
    batch := (s.abandonedStreams ref.slot).foldl (fun batch streamId =>
      pushFor ref (.reset (globalHandle s.handleOffset ref.slot) streamId 0) batch) s.batch
    pendingWrites := KeyMap.retain (fun key => !decide (key.1.toNat = ref.slot)) s.pendingWrites }

/-- Forget a closed connection: reset its abandoned streams, give their units
back, and report the close unless the timer path did. -/
def reapConnection (s : QuicServer Q) (entry : ℕ × QuicConnection Q) : QuicServer Q :=
  let (handle, conn) := entry
  let ref : ConnRef := ⟨handle, conn.uid⟩
  let removedUnits := s.pendingUnitsOf handle
  let s := (s.abandonConn ref).releaseOutboundAdmission removedUnits
  if handle ∈ s.lastExpired then s
  else s.emit ref (conn.sessionCloseEvent (globalHandle s.handleOffset handle))

/-- Remove closed connections and report their final events. -/
def reapClosedConnections (s : QuicServer Q) : QuicServer Q :=
  let (closed, connMap) := s.connMap.drainClosed QuicConnection.isClosed
  let s := closed.foldl reapConnection { s with connMap }
  { s with lastExpired := [] }

def emitSessionCloseFor (s : QuicServer Q) (handle : ℕ) : QuicServer Q :=
  match s.connMap.get handle with
  | none => s
  | some conn => s.emit ⟨handle, conn.uid⟩ (.sessionClose (globalHandle s.handleOffset handle))

/-- Report a close for every connection held, when the driver fails. -/
def emitSessionCloseForAllActive (s : QuicServer Q) : QuicServer Q :=
  s.connMap.handles.foldl emitSessionCloseFor s

end Ticks

end QuicServer

end Http3
