import Http3.H3Server.Handler
import Mathlib.Data.List.Sort
import Mathlib.Data.List.Dedup

/-! The HTTP/3 server worker between commands: packets, timers, polling, retries
of pending writes, and reaping closed connections. -/

namespace Http3

instance {Q : Type} [Quiche Q] : ServerConnection (H3Connection Q) Q where
  new := H3Connection.new
  quicheConn c := c.quicheConn
  setQuicheConn c q := { c with quicheConn := q }
  send := H3Connection.send

namespace H3Server

variable {Q : Type} [Quiche Q]

/-- Transport capacity is not an application drain while a write is pending. -/
def suppressPendingDrains (s : H3Server Q) (handle : ℕ) : H3Server Q :=
  { s with batch := s.batch.filter fun e =>
      e.event.eventType ≠ .drain || e.event.connHandle ≠ globalHandle s.handleOffset handle ||
        !((s.pendingWrites.lookup (UInt32.ofNat handle, e.event.streamId.toNat)).isSome ||
          (s.pendingResponses.lookup (UInt32.ofNat handle, e.event.streamId.toNat)).isSome) }

/-- Poll one connection: its events, without drains of pending streams, and its
acknowledged pings. -/
def pollConn (s : H3Server Q) (handle budget now : ℕ) (conn : H3Connection Q) : H3Server Q :=
  let ref : ConnRef := ⟨handle, conn.uid⟩
  let connHandle := globalHandle s.handleOffset handle
  let (conn, batch) := conn.pollH3Events ref connHandle budget s.batch
  let s := { s with batch }.suppressPendingDrains handle
  let (durations, conn) := conn.pollPingAcks now
  { s with
    connMap := s.connMap.set handle conn
    batch := durations.foldl (fun batch d => pushFor ref (.pingAck connHandle d) batch) s.batch }

section Packets

def routeOrAccept (hdr : PacketHeader) (p : Packet) (now : ℕ) (scids : List Bytes)
    (s : H3Server Q) : Option ℕ × H3Server Q :=
  let (routed, connMap, batch) :=
    s.connMap.routeAndAnnounce s.disableRetry s.handleOffset hdr p now scids s.batch
  (routed, { s with connMap, batch })

/-- Handshake bookkeeping after a packet. Only the direct-call entry point
rejects clients without a certificate. -/
def noteHandshake (direct : Bool) (handle : ℕ) (conn : H3Connection Q) (s : H3Server Q) :
    H3Connection Q × H3Server Q :=
  let conn := if (Quiche.isEstablished conn.quicheConn || Quiche.isInEarlyData conn.quicheConn) &&
      !conn.isEstablished then conn.initH3 else conn
  if Quiche.isEstablished conn.quicheConn && !conn.handshakeCompleteEmitted then
    if direct && s.requireClientCert && (Quiche.peerCert conn.quicheConn).isNone then
      (conn.close false 0x0100 "client certificate required", s)
    else
      ({ conn with handshakeCompleteEmitted := true }, s.emit ⟨handle, conn.uid⟩
        (.handshakeComplete (globalHandle s.handleOffset handle)))
  else (conn, s)

/-- Feed a packet to its connection and report what came of it. -/
def receivePacket (direct : Bool) (handle : ℕ) (p : Packet) (budget now : ℕ) (scids : List Bytes)
    (s : H3Server Q) : H3Server Q :=
  match s.connMap.get handle with
  | none => s
  | some conn =>
    let (ok, conn) := { conn with streamReadWindow := s.streamReadWindow }.recv p
    if !ok then { s with connMap := s.connMap.set handle conn }
    else
      let (conn, s) := s.noteHandshake direct handle conn
      let currentScid := Quiche.sourceId conn.quicheConn
      let needsDcidUpdate := currentScid ≠ conn.connId
      let conn := { conn with connId := currentScid }
      let s := s.pollConn handle budget now conn
      match s.connMap.get handle with
      | none => s
      | some conn =>
        let (retired, q) := retiredScids (Quiche.rounds conn.quicheConn) conn.quicheConn
        let conn := { conn with quicheConn := q }
        let connMap := s.connMap.set handle conn
        let connMap := if needsDcidUpdate then connMap.addDcid handle currentScid else connMap
        let connMap := retired.foldl ConnectionMap.removeDcid connMap
        let connMap := if direct then connMap else connMap.topUpServerScids handle scids
        let deadline := (Quiche.timeout conn.quicheConn).map (now + ·)
        { s with connMap, timerHeap := s.timerHeap.setDeadline handle deadline }

def packetArrives (direct : Bool) (p : Packet) (budget now : ℕ) (scids : List Bytes)
    (s : H3Server Q) : H3Server Q :=
  match p.header with
  | none => s
  | some hdr =>
    match s.routeOrAccept hdr p now scids with
    | (none, s) => s
    | (some handle, s) => s.receivePacket direct handle p budget now scids.tail

def processPacket (p : Packet) (budget now : ℕ) (scids : List Bytes) (s : H3Server Q) :
    H3Server Q := s.packetArrives false p budget now scids

def processInboundPacket (p : Packet) (budget now : ℕ) (scids : List Bytes) (s : H3Server Q) :
    H3Server Q := s.packetArrives true p budget now scids

end Packets

section Timers

/-- One expired timer: report the close, or poll and rearm. -/
def expireTimer (now budget : ℕ) (s : H3Server Q) (handle : ℕ) : H3Server Q :=
  match s.connMap.get handle with
  | none => s
  | some conn =>
    let conn := conn.onTimeout
    let s := { s with connMap := s.connMap.set handle conn }
    if conn.isClosed then
      s.emit ⟨handle, conn.uid⟩ (conn.sessionCloseEvent (globalHandle s.handleOffset handle))
    else
      let s := s.pollConn handle budget now conn
      let deadline := (s.connMap.get handle).bind fun conn =>
        (Quiche.timeout conn.quicheConn).map (now + ·)
      { s with timerHeap := s.timerHeap.setDeadline handle deadline }

/-- Complete one graceful close whose deadline has passed. -/
def completeSessionClose (s : H3Server Q) (connHandle : UInt32) : H3Server Q :=
  match s.pendingSessionCloses.lookup connHandle with
  | none => s
  | some pending =>
    let s := { s with pendingSessionCloses := s.pendingSessionCloses.erase connHandle }
    match s.conn? connHandle with
    | none => s
    | some conn => s.setConn connHandle (conn.close true pending.errorCode pending.reason)

/-- Take the expired handles off the heap, each once and in order. -/
def popTimers (now : ℕ) (s : H3Server Q) : H3Server Q :=
  let (expired, timerHeap) := s.timerHeap.popExpired now
  { s with timerHeap, lastExpired := (expired.insertionSort (· ≤ ·)).dedup }

def runTimers (now budget : ℕ) (s : H3Server Q) : H3Server Q :=
  (s.popTimers now).lastExpired.foldl (expireTimer now budget) (s.popTimers now)

def completeDueCloses (now : ℕ) (s : H3Server Q) : H3Server Q :=
  ((s.pendingSessionCloses.entries.filter fun e => e.2.deadline ≤ now).map (·.1)).foldl
    completeSessionClose s

/-- Run `on_timeout` for the expired handles, then the graceful closes due. -/
def expireTimers (now budget : ℕ) (s : H3Server Q) : H3Server Q :=
  (s.runTimers now budget).completeDueCloses now

end Timers

section Polling

/-- Poll every connection, closed ones included, within the budget. -/
def collectAppEvents (budget now : ℕ) (s : H3Server Q) : H3Server Q :=
  collectEvents (fun s => s.connMap.get) (fun s handle left conn => s.pollConn handle left now conn)
    (fun s => s.batch.length) budget s.connMap.handles s

/-- Drains of one connection. Handles whose timer expired in this tick were
polled already. -/
def drainConn (s : H3Server Q) (handle : ℕ) : H3Server Q :=
  if handle ∈ s.lastExpired then s
  else
    match s.connMap.get handle with
    | none => s
    | some conn =>
      if conn.blocked.set.isEmpty then s
      else
        let (conn, batch) := conn.pollDrainEvents ⟨handle, conn.uid⟩
          (globalHandle s.handleOffset handle) s.batch
        { s with connMap := s.connMap.set handle conn, batch }.suppressPendingDrains handle

/-- Report blocked streams that can be written again. -/
def collectDrainEvents (s : H3Server Q) : H3Server Q := s.connMap.handles.foldl drainConn s

/-- Write out packets in turn and rearm every timer. -/
def flushAllSends (rounds now : ℕ) (s : H3Server Q) : List Bytes × H3Server Q :=
  let handles := s.connMap.handles
  let (outbound, connMap) := s.connMap.sendRounds rounds handles
  (outbound, { s with connMap, timerHeap := handles.foldl (fun t handle =>
    t.setDeadline handle ((connMap.get handle).bind fun conn =>
      (Quiche.timeout conn.quicheConn).map (now + ·))) s.timerHeap })

end Polling

section Flushing

/-- Retry a pending response: headers first, then the body behind them. -/
def flushOneH3PendingResponse (streamId : ℕ) (response : PendingResponse)
    (conn : H3Connection Q) :
    (Except Http3NativeError PendingWriteFlushOutcome × PendingResponse) × H3Connection Q :=
  let (headersResult, conn) :=
    if response.headersSent then (.ok (), conn)
    else conn.sendResponse streamId response.headers
      (response.headersFin && response.body.isNone)
  match headersResult with
  | .error e =>
    if isH3StreamBlocked e then ((.ok ⟨false, 0⟩, response), conn)
    else ((.error e, response), conn)
  | .ok _ =>
    let response := { response with headersSent := true }
    match response.body with
    | none => ((.ok ⟨true, 0⟩, response), conn)
    | some body =>
      let r := flushPendingWriteWithProgress (H3Connection.sendBodyArcbuf streamId) body conn
      match r.outcome with
      | .error e => ((.error e, response), r.conn)
      | .ok outcome =>
        ((.ok outcome, { response with body := if outcome.done then none else some r.write }),
          r.conn)

/-- Retry one pending response and report what became of it. -/
def flushPendingResponse (s : H3Server Q) (key : StreamKey) : H3Server Q :=
  match s.pendingResponses.lookup key with
  | none => s
  | some response =>
    let s := { s with pendingResponses := s.pendingResponses.erase key }
    match s.conn? key.1 with
    | none => s.releaseOutboundAdmission response.queuedUnits
    | some conn =>
      if Quiche.streamClosed conn.quicheConn key.2 then
        s.releaseOutboundAdmission response.queuedUnits
      else
        let ((result, response'), conn) := flushOneH3PendingResponse key.2 response conn
        let s := s.setConn key.1 conn
        match result with
        | .ok outcome =>
          let s := s.releaseOutboundAdmission outcome.releasedUnits
          if outcome.done then
            s.emit (refOf key.1 conn) (.drain (s.handleOffset ||| key.1) key.2)
          else s.insertPendingResponse key response'
        | .error e =>
          let s := s.releaseOutboundAdmission response.queuedUnits
          s.emitH3SendErrorAndReset key.1 conn key.2 "pending response flush" e

/-- What the retry loop over pending writes carries along. -/
structure WriteFlush (Q : Type) where
  connMap : ConnectionMap (H3Connection Q)
  pending : KeyMap StreamKey PendingWrite
  drained : List (StreamKey × ConnRef)
  releasedUnits : ℕ

def WriteFlush.drop (acc : WriteFlush Q) (key : StreamKey) (write : PendingWrite) : WriteFlush Q :=
  { acc with
    pending := acc.pending.erase key
    releasedUnits := acc.releasedUnits + write.queuedUnits }

/-- Retry one pending write. Entries of missing connections, of closed streams
and of failing sends are dropped without an event. -/
def WriteFlush.step (acc : WriteFlush Q) (key : StreamKey) : WriteFlush Q :=
  match acc.pending.lookup key with
  | none => acc
  | some write =>
    match acc.connMap.get key.1.toNat with
    | none => acc.drop key write
    | some conn =>
      if Quiche.streamClosed conn.quicheConn key.2 then acc.drop key write
      else
        let r := flushPendingWriteWithProgress (H3Connection.sendBodyArcbuf key.2) write conn
        let acc := { acc with connMap := acc.connMap.set key.1.toNat r.conn }
        match r.outcome with
        | .error _ => acc.drop key write
        | .ok outcome =>
          let acc := { acc with releasedUnits := acc.releasedUnits + outcome.releasedUnits }
          if outcome.done then
            { acc with
              pending := acc.pending.erase key
              drained := acc.drained ++ [(key, refOf key.1 r.conn)] }
          else { acc with pending := acc.pending.insert key r.write }

def flushPendingWrites (connMap : ConnectionMap (H3Connection Q))
    (pending : KeyMap StreamKey PendingWrite) : WriteFlush Q :=
  pending.keys.foldl WriteFlush.step ⟨connMap, pending, [], 0⟩

/-- Retry everything that waits for flow control. -/
def flushAllPendingWrites (s : H3Server Q) : H3Server Q :=
  let s := s.pendingResponses.keys.foldl flushPendingResponse s
  let flushed := flushPendingWrites s.connMap s.pendingWrites
  let s := { s with connMap := flushed.connMap, pendingWrites := flushed.pending
    }.releaseOutboundAdmission flushed.releasedUnits
  flushed.drained.foldl (fun s entry =>
    s.emit entry.2 (.drain (s.handleOffset ||| entry.1.1) entry.1.2)) s

end Flushing

section Reaping

/-- Streams of a connection with something pending, each once. -/
def abandonedStreams (s : H3Server Q) (handle : ℕ) : List ℕ :=
  (((s.pendingWrites.keys ++ s.pendingResponses.keys).filter fun key => key.1.toNat = handle).map
    Prod.snd |>.insertionSort (· ≤ ·)).dedup

/-- Units pending on the streams of a connection. -/
def pendingUnitsOf (s : H3Server Q) (handle : ℕ) : ℕ :=
  KeyMap.total PendingWrite.queuedUnits
      (KeyMap.retain (fun key : StreamKey => decide (key.1.toNat = handle)) s.pendingWrites) +
    KeyMap.total PendingResponse.queuedUnits
      (KeyMap.retain (fun key : StreamKey => decide (key.1.toNat = handle)) s.pendingResponses)

/-- Drop what is kept for a connection; each abandoned stream is reset. -/
def abandonConn (s : H3Server Q) (ref : ConnRef) : H3Server Q :=
  { s with
    timerHeap := s.timerHeap.removeConnection ref.slot
    pendingSessionCloses := s.pendingSessionCloses.erase (UInt32.ofNat ref.slot)
    batch := (s.abandonedStreams ref.slot).foldl (fun batch streamId =>
      pushFor ref (.reset (globalHandle s.handleOffset ref.slot) streamId 0) batch) s.batch
    pendingWrites := KeyMap.retain (fun key => !decide (key.1.toNat = ref.slot)) s.pendingWrites
    pendingResponses :=
      KeyMap.retain (fun key => !decide (key.1.toNat = ref.slot)) s.pendingResponses }

/-- Forget a closed connection: reset its abandoned streams, give their units
back, and report the close unless the timer path did. -/
def reapConnection (s : H3Server Q) (entry : ℕ × H3Connection Q) : H3Server Q :=
  let (handle, conn) := entry
  let ref : ConnRef := ⟨handle, conn.uid⟩
  let removedUnits := s.pendingUnitsOf handle
  let s := (s.abandonConn ref).releaseOutboundAdmission removedUnits
  if handle ∈ s.lastExpired then s
  else s.emit ref (conn.sessionCloseEvent (globalHandle s.handleOffset handle))

/-- Remove closed connections and report their final events. -/
def reapClosedConnections (s : H3Server Q) : H3Server Q :=
  let (closed, connMap) := s.connMap.drainClosed H3Connection.isClosed
  let s := closed.foldl reapConnection { s with connMap }
  { s with lastExpired := [] }

def emitSessionCloseFor (s : H3Server Q) (handle : ℕ) : H3Server Q :=
  match s.connMap.get handle with
  | none => s
  | some conn => s.emit ⟨handle, conn.uid⟩ (.sessionClose (globalHandle s.handleOffset handle))

/-- Report a close for every connection held, when the driver fails. -/
def emitSessionCloseForAllActive (s : H3Server Q) : H3Server Q :=
  s.connMap.handles.foldl emitSessionCloseFor s

end Reaping

end H3Server

end Http3
