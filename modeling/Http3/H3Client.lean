import Http3.ClientHandler
import Http3.EventLoop
import Http3.H3Connection

/-! The HTTP/3 client handler. -/

namespace Http3

/-- Commands sent from the JavaScript main thread to a worker with one session. -/
inductive ClientWorkerCommand
  | sendRequest (headers : Headers) (fin : Bool)
  | streamSend (streamId : ℕ) (chunk : Bytes) (fin : Bool)
  | streamReadCredit (streamId bytes : ℕ)
  | streamClose (streamId errorCode : ℕ)
  | sendDatagram (data : Bytes)
  | ping
  | close (errorCode : ℕ) (reason : String)
  | shutdown
  deriving DecidableEq, Repr

abbrev H3Client (Q : Type) := ClientHandler (H3Connection Q)

namespace H3Client

variable {Q : Type} [Quiche Q]

def timeout (c : H3Connection Q) : Option ℕ := Quiche.timeout c.quicheConn

/-- Connect to a server, resuming the session of a ticket when there is one. -/
def fromScid (uid : ℕ) (scid : Bytes) (localAddr serverAddr : SocketAddr) (serverName : String)
    (sessionTicket : Option Bytes) (now : ℕ) (outboundAdmission : OutboundAdmission) :
    Option (H3Client Q) :=
  match Quiche.connect serverName scid localAddr serverAddr with
  | .error _ => none
  | .ok q =>
    let q := sessionTicket.elim q (Quiche.setSession q)
    some (.ofConn (.new uid q scid) timeout now outboundAdmission)

/-- Bound response delivery to the JavaScript reader. -/
def enableReadCredit (h : H3Client Q) : H3Client Q :=
  { h with conn := { h.conn with streamReadWindow := some (64 * 1024) } }

/-- The HTTP/3 layer comes up with the handshake, or with early data. -/
def establish (c : H3Connection Q) : H3Connection Q :=
  if (Quiche.isEstablished c.quicheConn || Quiche.isInEarlyData c.quicheConn) &&
      !c.isEstablished then c.initH3 else c

def sendRequest (headers : Headers) (fin : Bool) (h : H3Client Q) : Except String ℕ × H3Client Q :=
  let h := h.setConn (establish h.conn)
  match h.conn.sendRequest headers fin with
  | (.ok streamId, conn) => (.ok streamId, h.setConn conn)
  | (.error e, conn) => (.error s!"send_request failed: {e.display}", h.setConn conn)

def streamReadCredit (streamId bytes : ℕ) (h : H3Client Q) : H3Client Q :=
  h.setConn (h.conn.addReadCredit streamId bytes)

def closeStream (streamId errorCode : ℕ) : H3Client Q → ℕ × H3Client Q :=
  ClientHandler.closeStream H3Connection.streamClose streamId errorCode

def sendDatagram (data : Bytes) (h : H3Client Q) : Bool × H3Client Q :=
  let (ok, conn) := h.conn.sendDatagramChunk data
  (ok, h.setConn conn)

def ping (now : ℕ) (h : H3Client Q) : Bool × H3Client Q :=
  let (ok, conn) := h.conn.queuePing now
  (ok, h.setConn conn)

def closeSession (errorCode : ℕ) (reason : String) (h : H3Client Q) : H3Client Q :=
  h.setConn (h.conn.close true errorCode reason)

/-- The current connection id, whether it is another one than before, and the ids retired
since. -/
def takeDcidUpdates (c : H3Connection Q) : (Bytes × Bool × List Bytes) × H3Connection Q :=
  let currentDcid := Quiche.sourceId c.quicheConn
  let needsUpdate := currentDcid ≠ c.connId
  let c := if needsUpdate then { c with connId := currentDcid } else c
  let (retired, q) := retiredScids (Quiche.rounds c.quicheConn) c.quicheConn
  ((currentDcid, needsUpdate, retired), { c with quicheConn := q })

def refreshTimeoutDeadline (now : ℕ) : H3Client Q → H3Client Q :=
  ClientHandler.refreshTimeoutDeadline timeout now

section Handle

variable (connHandle : UInt32)

def ref (h : H3Client Q) : ConnRef := ⟨connHandle.toNat, h.conn.uid⟩

def queueStreamSend (streamId : ℕ) (chunk : Bytes) (fin : Bool) (h : H3Client Q) :
    ℕ × H3Client Q :=
  ClientHandler.queueStreamSend H3Connection.sendBodyArcbuf (ref connHandle h) connHandle
    streamId chunk fin h

def emitSessionClose (h : H3Client Q) : H3Client Q :=
  ClientHandler.emitSessionClose H3Connection.sessionCloseEvent (ref connHandle h) connHandle h

/-- Poll the connection: its events, without drains of pending streams, its acknowledged
pings and its session ticket. -/
def pollConn (budget now : ℕ) (h : H3Client Q) : H3Client Q :=
  let (conn, batch) := h.conn.pollH3Events (ref connHandle h) connHandle budget h.batch
  let h := { h with conn, batch }.suppressPendingDrains connHandle
  let h := h.reportPingAcks (ref connHandle h) connHandle (h.conn.pollPingAcks now)
  h.reportSessionTicket (ref connHandle h) connHandle h.conn.updateSessionTicket

def noteHandshake (h : H3Client Q) : H3Client Q :=
  let h := h.setConn (establish h.conn)
  if Quiche.isEstablished h.conn.quicheConn && !h.conn.handshakeCompleteEmitted then
    { h with conn := { h.conn with handshakeCompleteEmitted := true } }.emit (ref connHandle h)
      (.handshakeComplete connHandle)
  else h

/-- Feed a packet to the connection and report what came of it. -/
def processPacketForHandle (p : Packet) (budget now : ℕ) (h : H3Client Q) : H3Client Q :=
  let (ok, conn) := h.conn.recv p
  let h := h.setConn conn
  if !ok then h
  else
    let h := refreshTimeoutDeadline now
      (pollConn connHandle budget now (noteHandshake connHandle h))
    if h.conn.isClosed then emitSessionClose connHandle h else h

/-- When the timer is due: report the close, or poll and rearm. -/
def processTimersForHandle (now budget : ℕ) (h : H3Client Q) : H3Client Q :=
  if h.timerDeadline.any (· ≤ now) then
    let h := h.setConn h.conn.onTimeout
    if h.conn.isClosed then emitSessionClose connHandle h
    else refreshTimeoutDeadline now (pollConn connHandle budget now h)
  else h

def pollAppEventsForHandle (budget now : ℕ) (h : H3Client Q) : H3Client Q :=
  if budget = 0 then h else pollConn connHandle budget now h

/-- Report blocked streams that can be written again. -/
def pollDrainEventsForHandle (h : H3Client Q) : H3Client Q :=
  if h.conn.blocked.set.isEmpty then h
  else
    let (conn, batch) := h.conn.pollDrainEvents (ref connHandle h) connHandle h.batch
    { h with conn, batch }.suppressPendingDrains connHandle

def flushPendingWritesForHandle (h : H3Client Q) : H3Client Q :=
  h.flushPendingWrites H3Connection.sendBodyArcbuf (ref connHandle h) connHandle
    fun c streamId => Quiche.streamClosed c.quicheConn streamId

end Handle

def isReapable (h : H3Client Q) : Bool := h.sessionClosedEmitted

/-- Write out packets and take the deadline quiche asks for now. -/
def flushSends (rounds now : ℕ) (h : H3Client Q) : List Bytes × H3Client Q :=
  let (packets, conn) := ClientHandler.sendLoop H3Connection.send rounds h.conn
  (packets, refreshTimeoutDeadline now (h.setConn conn))

/-- Process one command; `true` asks the loop to shut down. -/
def dispatchCommand (now : ℕ) (cmd : ClientWorkerCommand) (h : H3Client Q) : Bool × H3Client Q :=
  match cmd with
  | .shutdown => (true, h.shutdown)
  | .close errorCode reason => (false, closeSession errorCode reason h)
  | .sendRequest headers fin =>
    let (answer, h) := sendRequest headers fin h
    (false, h.reply (.requested answer))
  | .streamSend streamId chunk fin =>
    let (released, h) := queueStreamSend 0 streamId chunk fin h
    (false, h.releaseOutboundAdmission released)
  | .streamReadCredit streamId bytes => (false, streamReadCredit streamId bytes h)
  | .streamClose streamId errorCode =>
    let (released, h) := closeStream streamId errorCode h
    (false, h.releaseOutboundAdmission released)
  | .sendDatagram data =>
    let (ok, h) := sendDatagram data h
    (false, (h.reply (.done ok)).releaseOutboundAdmission data.length)
  | .ping =>
    let (ok, h) := ping now h
    (false, h.reply (.done ok))

/-- A worker of its own runs the handler under handle 0. -/
instance : ProtocolHandler (H3Client Q) ClientWorkerCommand where
  dispatchCommand now cmd h :=
    ((dispatchCommand now cmd h.startBatch).1, h.reported fun h => (dispatchCommand now cmd h).2)
  processPacket p budget now _ := ClientHandler.reported (processPacketForHandle 0 p budget now)
  processTimers now budget := ClientHandler.reported (processTimersForHandle 0 now budget)
  pollAppEvents budget now := ClientHandler.reported (pollAppEventsForHandle 0 budget now)
  flushSends := flushSends
  flushPendingWrites := ClientHandler.reported (flushPendingWritesForHandle 0)
  pollDrainEvents _ := ClientHandler.reported (pollDrainEventsForHandle 0)
  cleanupClosed h := ([], h)
  emitSessionCloseForAllActive := ClientHandler.reported fun h =>
    h.emitSessionCloseForAllActive (ref 0 h)
  isDone h := h.sessionClosedEmitted

end H3Client

end Http3
