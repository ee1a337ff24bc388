import Http3.ClientHandler
import Http3.EventLoop
import Http3.QuicConnection

/-! The raw QUIC client handler. -/

namespace Http3

/-- Commands sent from the JavaScript main thread to a worker with one session. -/
inductive QuicClientCommand
  | openStream
  | streamSend (streamId : ℕ) (chunk : Bytes) (fin : Bool)
  | streamClose (streamId errorCode : ℕ)
  | sendDatagram (data : Bytes)
  | ping
  | close (errorCode : ℕ) (reason : String)
  | shutdown
  deriving DecidableEq, Repr

abbrev QuicClient (Q : Type) := ClientHandler (QuicConnection Q)

namespace QuicClient

variable {Q : Type} [Quiche Q]

def timeout (c : QuicConnection Q) : Option ℕ := Quiche.timeout c.quicheConn

/-- Connect to a server, resuming the session of a ticket when there is one. -/
def fromScid (uid : ℕ) (scid : Bytes) (localAddr serverAddr : SocketAddr) (serverName : String)
    (sessionTicket : Option Bytes) (now : ℕ) (outboundAdmission : OutboundAdmission) :
    Option (QuicClient Q) :=
  match Quiche.connect serverName scid localAddr serverAddr with
  | .error _ => none
  | .ok q =>
    let q := sessionTicket.elim q (Quiche.setSession q)
    some (.ofConn (.new uid q scid) timeout now outboundAdmission)

def streamIdBound : ℕ := 2 ^ 64

def openBidiStream (h : QuicClient Q) : Except Http3NativeError ℕ × QuicClient Q :=
  let streamId := h.nextBidiStreamId
  if streamIdBound ≤ streamId + 4 then
    (.error (.invalidState "client bidirectional stream id overflow"), h)
  else
    match h.conn.reserveLocalBidiStream streamId with
    | (.error e, conn) => (.error e, h.setConn conn)
    | (.ok _, conn) => (.ok streamId, { h.setConn conn with nextBidiStreamId := streamId + 4 })

def closeStream (streamId errorCode : ℕ) : QuicClient Q → ℕ × QuicClient Q :=
  ClientHandler.closeStream QuicConnection.streamClose streamId errorCode

def sendDatagram (data : Bytes) (h : QuicClient Q) : Bool × QuicClient Q :=
  let (ok, conn) := h.conn.queueDatagram data
  (ok, h.setConn conn)

def ping (now : ℕ) (h : QuicClient Q) : Bool × QuicClient Q :=
  let (ok, conn) := h.conn.queuePing now
  (ok, h.setConn conn)

def closeSession (errorCode : ℕ) (reason : String) (h : QuicClient Q) : QuicClient Q :=
  h.setConn (h.conn.close true errorCode reason)

/-- The current connection id, whether it is another one than before, and the ids retired
since. -/
def takeDcidUpdates (c : QuicConnection Q) : (Bytes × Bool × List Bytes) × QuicConnection Q :=
  let currentDcid := Quiche.sourceId c.quicheConn
  let needsUpdate := currentDcid ≠ c.connId
  let c := if needsUpdate then { c with connId := currentDcid } else c
  let (retired, q) := retiredScids (Quiche.rounds c.quicheConn) c.quicheConn
  ((currentDcid, needsUpdate, retired), { c with quicheConn := q })

def refreshTimeoutDeadline (now : ℕ) : QuicClient Q → QuicClient Q :=
  ClientHandler.refreshTimeoutDeadline timeout now

section Handle

variable (connHandle : UInt32)

def ref (h : QuicClient Q) : ConnRef := ⟨connHandle.toNat, h.conn.uid⟩

def queueStreamSend (streamId : ℕ) (chunk : Bytes) (fin : Bool) (h : QuicClient Q) :
    ℕ × QuicClient Q :=
  ClientHandler.queueStreamSend QuicConnection.streamSendArcbuf (ref connHandle h) connHandle
    streamId chunk fin h

def emitSessionClose (h : QuicClient Q) : QuicClient Q :=
  ClientHandler.emitSessionClose QuicConnection.sessionCloseEvent (ref connHandle h) connHandle h

/-- Poll the connection: its events and its acknowledged pings. Drains of streams with a
write pending are reported all the same. -/
def pollConn (budget now : ℕ) (h : QuicClient Q) : QuicClient Q :=
  let (conn, batch) := h.conn.pollQuicEvents (ref connHandle h) connHandle budget h.batch
  let h := { h with conn, batch }
  h.reportPingAcks (ref connHandle h) connHandle (h.conn.pollPingAcks now)

def updateSessionTicket (h : QuicClient Q) : QuicClient Q :=
  h.reportSessionTicket (ref connHandle h) connHandle h.conn.updateSessionTicket

def sweepFinishedStreams (budget : ℕ) (h : QuicClient Q) : QuicClient Q :=
  let (conn, batch) := h.conn.sweepFinishedStreams (ref connHandle h) connHandle budget h.batch
  { h with conn, batch }

def noteHandshake (h : QuicClient Q) : QuicClient Q :=
  let h := if Quiche.isEstablished h.conn.quicheConn && !h.conn.isEstablished then
      { h with conn := { h.conn with isEstablished := true } } else h
  if Quiche.isEstablished h.conn.quicheConn && !h.conn.handshakeCompleteEmitted then
    { h with conn := { h.conn with handshakeCompleteEmitted := true } }.emit (ref connHandle h)
      (.handshakeComplete connHandle)
  else h

/-- Feed a packet to the connection and report what came of it. -/
def processPacketForHandle (p : Packet) (budget now : ℕ) (h : QuicClient Q) : QuicClient Q :=
  let (ok, conn) := h.conn.recv p
  let h := h.setConn conn
  if !ok then h
  else
    let h := pollConn connHandle budget now (noteHandshake connHandle h)
    let h := refreshTimeoutDeadline now (updateSessionTicket connHandle h)
    if h.conn.isClosed && !h.sessionClosedEmitted then emitSessionClose connHandle h else h

/-- When the timer is due: report the close if that has not been done, else poll, look for
late FINs and rearm. -/
def processTimersForHandle (now budget : ℕ) (h : QuicClient Q) : QuicClient Q :=
  if h.timerDeadline.any (· ≤ now) then
    let h := h.setConn h.conn.onTimeout
    if h.conn.isClosed && !h.sessionClosedEmitted then emitSessionClose connHandle h
    else
      let h := pollConn connHandle budget now h
      let h := if 0 < budget then sweepFinishedStreams connHandle budget h else h
      refreshTimeoutDeadline now (updateSessionTicket connHandle h)
  else h

def pollAppEventsForHandle (budget now : ℕ) (h : QuicClient Q) : QuicClient Q :=
  if budget = 0 then h else updateSessionTicket connHandle (pollConn connHandle budget now h)

/-- Report late FINs, and blocked streams that can be written again. -/
def pollDrainEventsForHandle (budget : ℕ) (h : QuicClient Q) : QuicClient Q :=
  let h := if 0 < budget then sweepFinishedStreams connHandle budget h else h
  if h.conn.blocked.set.isEmpty then h
  else
    let (conn, batch) := h.conn.pollDrainEvents (ref connHandle h) connHandle h.batch
    { h with conn, batch }

/-- Unlike HTTP/3, writes on closed streams are retried like any other. -/
def flushPendingWritesForHandle (h : QuicClient Q) : QuicClient Q :=
  h.flushPendingWrites QuicConnection.streamSendArcbuf (ref connHandle h) connHandle
    fun _ _ => false

end Handle

def isReapable (h : QuicClient Q) : Bool := h.sessionClosedEmitted && h.pendingWrites.keys.isEmpty

/-- Hand over waiting datagrams, then write out one packet. -/
def trySend (c : QuicConnection Q) : Option Bytes × QuicConnection Q :=
  c.drainOutboundDatagrams.send

/-- Write out packets and take the deadline quiche asks for now. -/
def flushSends (rounds now : ℕ) (h : QuicClient Q) : List Bytes × QuicClient Q :=
  let (packets, conn) := ClientHandler.sendLoop trySend rounds h.conn
  (packets, refreshTimeoutDeadline now (h.setConn conn))

/-- Process one command; `true` asks the loop to shut down. -/
def dispatchCommand (now : ℕ) (cmd : QuicClientCommand) (h : QuicClient Q) : Bool × QuicClient Q :=
  match cmd with
  | .shutdown => (true, h.shutdown)
  | .close errorCode reason => (false, closeSession errorCode reason h)
  | .openStream =>
    let (answer, h) := openBidiStream h
    (false, h.reply (.opened answer))
  | .streamSend streamId chunk fin =>
    let (released, h) := queueStreamSend 0 streamId chunk fin h
    (false, h.releaseOutboundAdmission released)
  | .streamClose streamId errorCode =>
    let (released, h) := closeStream streamId errorCode h
    (false, h.releaseOutboundAdmission released)
  | .sendDatagram data =>
    let (ok, h) := sendDatagram data h
    (false, (h.reply (.done ok)).releaseOutboundAdmission data.length)
  | .ping =>
    let (ok, h) := ping now h
    (false, h.reply (.done ok))

/-- A worker of its own runs the handler under handle 0. -/
instance : ProtocolHandler (QuicClient Q) QuicClientCommand where
  dispatchCommand now cmd h :=
    ((dispatchCommand now cmd h.startBatch).1, h.reported fun h => (dispatchCommand now cmd h).2)
  processPacket p budget now _ := ClientHandler.reported (processPacketForHandle 0 p budget now)
  processTimers now budget := ClientHandler.reported (processTimersForHandle 0 now budget)
  pollAppEvents budget now := ClientHandler.reported (pollAppEventsForHandle 0 budget now)
  flushSends := flushSends
  flushPendingWrites := ClientHandler.reported (flushPendingWritesForHandle 0)
  pollDrainEvents budget := ClientHandler.reported (pollDrainEventsForHandle 0 budget)
  cleanupClosed h := ([], h)
  emitSessionCloseForAllActive := ClientHandler.reported fun h =>
    h.emitSessionCloseForAllActive (ref 0 h)
  isDone h := h.sessionClosedEmitted

end QuicClient

end Http3
