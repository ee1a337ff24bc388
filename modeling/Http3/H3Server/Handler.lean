import Http3.H3Connection
import Http3.ServerConnections
import Http3.TimerHeap

/-! The HTTP/3 server worker: its state, the commands JavaScript sends it, and
how it dispatches them. -/

namespace Http3

/-- Commands sent from the JavaScript main thread. Handles are local to the
worker: the sender has stripped the worker bits. -/
inductive WorkerCommand
  | sendResponseHeaders (connHandle : UInt32) (streamId : ℕ) (headers : Headers) (fin : Bool)
  | sendResponse (connHandle : UInt32) (streamId : ℕ) (headers : Headers) (body : Bytes)
      (fin : Bool)
  | streamSend (connHandle : UInt32) (streamId : ℕ) (chunk : Bytes) (fin : Bool)
  | streamReadCredit (connHandle : UInt32) (streamId bytes : ℕ)
  | streamClose (connHandle : UInt32) (streamId errorCode : ℕ)
  | sendTrailers (connHandle : UInt32) (streamId : ℕ) (headers : Headers)
  | closeSession (connHandle : UInt32) (errorCode : ℕ) (reason : String)
  | sendDatagram (connHandle : UInt32) (data : Bytes)
  | pingSession (connHandle : UInt32)
  | shutdown
  deriving DecidableEq, Repr

/-- The connection a command names; a shutdown names none and goes to the first worker. -/
def commandConnHandle : WorkerCommand → UInt32
  | .sendResponseHeaders connHandle .. | .sendResponse connHandle .. | .streamSend connHandle ..
  | .streamReadCredit connHandle .. | .streamClose connHandle .. | .sendTrailers connHandle ..
  | .closeSession connHandle .. | .sendDatagram connHandle .. | .pingSession connHandle =>
    connHandle
  | .shutdown => 0

/-- Strip the worker bits on the way into a worker's channel. -/
def remapCommandHandle : WorkerCommand → WorkerCommand
  | .sendResponseHeaders connHandle streamId headers fin =>
    .sendResponseHeaders (localConnHandle connHandle) streamId headers fin
  | .sendResponse connHandle streamId headers body fin =>
    .sendResponse (localConnHandle connHandle) streamId headers body fin
  | .streamSend connHandle streamId chunk fin =>
    .streamSend (localConnHandle connHandle) streamId chunk fin
  | .streamReadCredit connHandle streamId bytes =>
    .streamReadCredit (localConnHandle connHandle) streamId bytes
  | .streamClose connHandle streamId errorCode =>
    .streamClose (localConnHandle connHandle) streamId errorCode
  | .sendTrailers connHandle streamId headers =>
    .sendTrailers (localConnHandle connHandle) streamId headers
  | .closeSession connHandle errorCode reason =>
    .closeSession (localConnHandle connHandle) errorCode reason
  | .sendDatagram connHandle data => .sendDatagram (localConnHandle connHandle) data
  | .pingSession connHandle => .pingSession (localConnHandle connHandle)
  | .shutdown => .shutdown

/-- Units a command was charged when it was admitted. -/
def workerCommandOutboundBytes : WorkerCommand → ℕ
  | .sendResponse _ _ _ body fin => outboundPayloadUnits body.length fin
  | .streamSend _ _ chunk fin => outboundPayloadUnits chunk.length fin
  | .sendDatagram _ data => data.length
  | _ => 0

abbrev StreamKey := UInt32 × ℕ

/-- A response whose headers quiche has not accepted yet, or whose body waits
behind them. -/
structure PendingResponse where
  headers : Headers
  headersSent : Bool
  headersFin : Bool
  body : Option PendingWrite

namespace PendingResponse

def headersOnly (headers : Headers) (fin : Bool) : PendingResponse := ⟨headers, false, fin, none⟩

def withBody (headers : Headers) (body : Bytes) (fin : Bool) : PendingResponse :=
  ⟨headers, false, false, some (.new body fin)⟩

def pushBodyChunk (r : PendingResponse) (chunk : Bytes) (fin : Bool) : PendingResponse :=
  match r.body with
  | some write => { r with body := some (write.merge chunk fin) }
  | none => { r with body := some (.new chunk fin), headersFin := false }

def queuedUnits (r : PendingResponse) : ℕ := KeyMap.weight PendingWrite.queuedUnits r.body

end PendingResponse

def isH3StreamBlocked : Http3NativeError → Bool
  | .h3 .streamBlocked | .h3 .done => true
  | _ => false

def h3InternalError : ℕ := 0x0102

/-- A graceful close waiting for its deadline. -/
structure PendingSessionClose where
  errorCode : ℕ
  reason : String
  deadline : ℕ
  deriving DecidableEq, Repr

/-- State of the worker. The batch the current call appends to is part of it,
and so are the answers sent on reply channels. -/
structure H3Server (Q : Type) where
  connMap : ConnectionMap (H3Connection Q)
  timerHeap : TimerHeap
  pendingSessionCloses : KeyMap UInt32 PendingSessionClose
  lastExpired : List ℕ
  pendingWrites : KeyMap StreamKey PendingWrite
  pendingResponses : KeyMap StreamKey PendingResponse
  outboundAdmission : OutboundAdmission
  handleOffset : UInt32
  disableRetry : Bool
  streamReadWindow : Option ℕ
  requireClientCert : Bool
  batch : List Emitted
  replies : List Bool

namespace H3Server

variable {Q : Type} [Quiche Q]

def init (handleOffset maxConnections : UInt32) (disableRetry : Bool)
    (streamReadWindow : Option ℕ) (requireClientCert : Bool) : H3Server Q where
  connMap := .withMaxConnections maxConnections
  timerHeap := .new
  pendingSessionCloses := ∅
  lastExpired := []
  pendingWrites := ∅
  pendingResponses := ∅
  outboundAdmission := .default
  handleOffset
  disableRetry
  streamReadWindow
  requireClientCert
  batch := []
  replies := []

def conn? (s : H3Server Q) (connHandle : UInt32) : Option (H3Connection Q) :=
  s.connMap.get connHandle.toNat

def setConn (s : H3Server Q) (connHandle : UInt32) (conn : H3Connection Q) : H3Server Q :=
  { s with connMap := s.connMap.set connHandle.toNat conn }

def emit (s : H3Server Q) (ref : ConnRef) (event : JsH3Event) : H3Server Q :=
  { s with batch := pushFor ref event s.batch }

def emitWorker (s : H3Server Q) (event : JsH3Event) : H3Server Q :=
  { s with batch := pushWorker event s.batch }

def refOf (connHandle : UInt32) (conn : H3Connection Q) : ConnRef := ⟨connHandle.toNat, conn.uid⟩

/-- Give units back and wake writers when the window reopens. -/
def releaseOutboundAdmission (s : H3Server Q) (units : ℕ) : H3Server Q :=
  let (writeReady, admission) := s.outboundAdmission.release units
  let s := { s with outboundAdmission := admission }
  if writeReady then s.emitWorker (.writeReady 0) else s

section Release

variable (s : H3Server Q) (units : ℕ)

omit [Quiche Q]

theorem releaseOutboundAdmission_eq : s.releaseOutboundAdmission units =
    { s with
      outboundAdmission := (s.outboundAdmission.release units).2
      batch := (s.releaseOutboundAdmission units).batch } := by
  unfold releaseOutboundAdmission
  dsimp only
  split_ifs <;> rfl

@[simp] theorem outboundAdmission_releaseOutboundAdmission :
    (s.releaseOutboundAdmission units).outboundAdmission =
      (s.outboundAdmission.release units).2 := by
  rw [releaseOutboundAdmission_eq]

@[simp] theorem pendingWrites_releaseOutboundAdmission :
    (s.releaseOutboundAdmission units).pendingWrites = s.pendingWrites := by
  rw [releaseOutboundAdmission_eq]

@[simp] theorem pendingResponses_releaseOutboundAdmission :
    (s.releaseOutboundAdmission units).pendingResponses = s.pendingResponses := by
  rw [releaseOutboundAdmission_eq]

@[simp] theorem handleOffset_releaseOutboundAdmission :
    (s.releaseOutboundAdmission units).handleOffset = s.handleOffset := by
  rw [releaseOutboundAdmission_eq]

@[simp] theorem lastExpired_releaseOutboundAdmission :
    (s.releaseOutboundAdmission units).lastExpired = s.lastExpired := by
  rw [releaseOutboundAdmission_eq]

@[simp] theorem connMap_releaseOutboundAdmission :
    (s.releaseOutboundAdmission units).connMap = s.connMap := by
  rw [releaseOutboundAdmission_eq]

end Release

def emitH3SendErrorAndReset (s : H3Server Q) (connHandle : UInt32) (conn : H3Connection Q)
    (streamId : ℕ) (context : String) (error : Http3NativeError) : H3Server Q :=
  let s := s.emit (refOf connHandle conn)
    (.error (s.handleOffset ||| connHandle) streamId 0 s!"{context} failed: {error.display}")
  s.setConn connHandle (conn.streamClose streamId h3InternalError)

def insertPendingWrite (s : H3Server Q) (key : StreamKey) (write : PendingWrite) : H3Server Q :=
  { s with pendingWrites := s.pendingWrites.insert key write }

def insertPendingResponse (s : H3Server Q) (key : StreamKey) (response : PendingResponse) :
    H3Server Q :=
  { s with pendingResponses := s.pendingResponses.insert key response }

def pendingUnits (s : H3Server Q) (key : StreamKey) : ℕ :=
  KeyMap.weight PendingResponse.queuedUnits (s.pendingResponses.lookup key) +
    KeyMap.weight PendingWrite.queuedUnits (s.pendingWrites.lookup key)

def removePending (s : H3Server Q) (key : StreamKey) : H3Server Q :=
  { s with
    pendingResponses := s.pendingResponses.erase key
    pendingWrites := s.pendingWrites.erase key }

section Dispatch

variable (connHandle : UInt32) (streamId : ℕ)

/-- Send body bytes on a live connection: give back what quiche took, queue
what it refused, reset the stream when it fails. -/
def sendBodyChunk (conn : H3Connection Q) (chunk : Bytes) (fin : Bool) (s : H3Server Q) :
    H3Server Q :=
  let (result, conn) := conn.sendBodyArcbuf streamId chunk fin
  let s := s.setConn connHandle conn
  match result with
  | .ok outcome =>
    let s := s.releaseOutboundAdmission
      (acceptedOutboundPayloadUnits chunk.length fin outcome.written outcome.finAccepted)
    match outcome.remainder with
    | some remainder =>
      (s.insertPendingWrite (connHandle, streamId) (.new remainder fin)).emit
        (refOf connHandle conn) (.streamBlocked (s.handleOffset ||| connHandle) streamId)
    | none => s
  | .error e =>
    let s := s.releaseOutboundAdmission (outboundPayloadUnits chunk.length fin)
    s.emitH3SendErrorAndReset connHandle conn streamId "stream send" e

def dispatchSendResponseHeaders (headers : Headers) (fin : Bool) (s : H3Server Q) : H3Server Q :=
  match s.conn? connHandle with
  | none => s
  | some conn =>
    let (result, conn) := conn.sendResponse streamId headers fin
    let s := s.setConn connHandle conn
    match result with
    | .ok _ => s
    | .error e =>
      if isH3StreamBlocked e then
        (s.insertPendingResponse (connHandle, streamId) (.headersOnly headers fin)).emit
          (refOf connHandle conn) (.streamBlocked (s.handleOffset ||| connHandle) streamId)
      else s.emitH3SendErrorAndReset connHandle conn streamId "send_response_headers" e

def dispatchSendResponse (headers : Headers) (body : Bytes) (fin : Bool) (s : H3Server Q) :
    H3Server Q :=
  match s.conn? connHandle with
  | none => s.releaseOutboundAdmission (outboundPayloadUnits body.length fin)
  | some conn =>
    -- headers go first and never carry the FIN: the body follows
    let (result, conn) := conn.sendResponse streamId headers false
    let s := s.setConn connHandle conn
    match result with
    | .ok _ => s.sendBodyChunk connHandle streamId conn body fin
    | .error e =>
      if isH3StreamBlocked e then
        (s.insertPendingResponse (connHandle, streamId) (.withBody headers body fin)).emit
          (refOf connHandle conn) (.streamBlocked (s.handleOffset ||| connHandle) streamId)
      else
        let s := s.releaseOutboundAdmission (outboundPayloadUnits body.length fin)
        s.emitH3SendErrorAndReset connHandle conn streamId "send_response" e

def dispatchStreamSend (chunk : Bytes) (fin : Bool) (s : H3Server Q) : H3Server Q :=
  match s.pendingResponses.lookup (connHandle, streamId) with
  | some response =>
    s.insertPendingResponse (connHandle, streamId) (response.pushBodyChunk chunk fin)
  | none =>
    match s.pendingWrites.lookup (connHandle, streamId) with
    | some write => s.insertPendingWrite (connHandle, streamId) (write.merge chunk fin)
    | none =>
      match s.conn? connHandle with
      | some conn => s.sendBodyChunk connHandle streamId conn chunk fin
      | none => s.releaseOutboundAdmission (outboundPayloadUnits chunk.length fin)

/-- The RESET of an abandoned write carries the handle of the command as it came,
without the offset every other event gets. -/
def dispatchStreamClose (errorCode : ℕ) (s : H3Server Q) : H3Server Q :=
  match s.conn? connHandle with
  | none => s
  | some conn =>
    let conn := conn.streamClose streamId errorCode
    let released := s.pendingUnits (connHandle, streamId)
    let s := ((s.setConn connHandle conn).removePending (connHandle, streamId)
      ).releaseOutboundAdmission released
    if 0 < released then s.emit (refOf connHandle conn) (.reset connHandle streamId errorCode)
    else s

def dispatchSendTrailers (headers : Headers) (s : H3Server Q) : H3Server Q :=
  match s.conn? connHandle with
  | none => s
  | some conn => s.setConn connHandle (conn.sendTrailers streamId headers).2

/-- Milliseconds between GOAWAY and the actual close. -/
def gracefulCloseDelay : ℕ := 25

def dispatchCloseSession (errorCode : ℕ) (reason : String) (now : ℕ) (s : H3Server Q) :
    H3Server Q :=
  match s.conn? connHandle with
  | none => s
  | some conn =>
    let (sent, conn) := conn.sendGoaway
    if sent then
      { s.setConn connHandle conn with
        pendingSessionCloses := s.pendingSessionCloses.insert connHandle
          ⟨errorCode, reason, now + gracefulCloseDelay⟩ }
    else s.setConn connHandle (conn.close true errorCode reason)

def dispatchSendDatagram (data : Bytes) (s : H3Server Q) : H3Server Q :=
  let (ok, s) := match s.conn? connHandle with
    | none => (false, s)
    | some conn =>
      let (ok, conn) := conn.sendDatagramChunk data
      (ok, s.setConn connHandle conn)
  let s := s.releaseOutboundAdmission data.length
  { s with replies := s.replies ++ [ok] }

def dispatchPingSession (now : ℕ) (s : H3Server Q) : H3Server Q :=
  let (ok, s) := match s.conn? connHandle with
    | none => (false, s)
    | some conn =>
      let (ok, conn) := conn.queuePing now
      (ok, s.setConn connHandle conn)
  { s with replies := s.replies ++ [ok] }

end Dispatch

def shutdownConn (s : H3Server Q) (handle : ℕ) : H3Server Q :=
  match s.connMap.get handle with
  | none => s
  | some conn =>
    if !Quiche.isClosed conn.quicheConn && !Quiche.isDraining conn.quicheConn then
      { s with connMap := s.connMap.set handle (conn.close true 0 "server shutdown") }
    else s

/-- Close every connection that is still open, so that peers see a shutdown. -/
def dispatchShutdown (s : H3Server Q) : H3Server Q := s.connMap.handles.foldl shutdownConn s

/-- Process one command; `true` asks the loop to shut down. -/
def dispatchCommand (now : ℕ) (cmd : WorkerCommand) (s : H3Server Q) : Bool × H3Server Q :=
  match cmd with
  | .shutdown => (true, s.dispatchShutdown)
  | .sendResponseHeaders connHandle streamId headers fin =>
    (false, s.dispatchSendResponseHeaders connHandle streamId headers fin)
  | .sendResponse connHandle streamId headers body fin =>
    (false, s.dispatchSendResponse connHandle streamId headers body fin)
  | .streamSend connHandle streamId chunk fin =>
    (false, s.dispatchStreamSend connHandle streamId chunk fin)
  | .streamReadCredit connHandle streamId bytes =>
    (false, match s.conn? connHandle with
      | none => s
      | some conn => s.setConn connHandle (conn.addReadCredit streamId bytes))
  | .streamClose connHandle streamId errorCode =>
    (false, s.dispatchStreamClose connHandle streamId errorCode)
  | .sendTrailers connHandle streamId headers =>
    (false, s.dispatchSendTrailers connHandle streamId headers)
  | .closeSession connHandle errorCode reason =>
    (false, s.dispatchCloseSession connHandle errorCode reason now)
  | .sendDatagram connHandle data => (false, s.dispatchSendDatagram connHandle data)
  | .pingSession connHandle => (false, s.dispatchPingSession connHandle now)

end H3Server

end Http3
