import Http3.ConnectionState
import Http3.Lib.KeyMap

/-! What the HTTP/3 and the raw QUIC client handler have in common: one connection,
the writes that wait for it, and the close that is reported once. -/

namespace Http3

/-- Answers sent back on the reply channels of commands. -/
inductive ClientReply
  | requested (answer : Except String ℕ)
  | opened (answer : Except Http3NativeError ℕ)
  | done (ok : Bool)

/-- State of a client handler over a connection of type `C`. The batch the current call
appends to is part of it, and so are the answers sent on reply channels. The admission
window is shared by all sessions of a worker: whoever calls the handler hands it in and
takes it back. -/
structure ClientHandler (C : Type) where
  conn : C
  pendingWrites : KeyMap ℕ PendingWrite
  /-- The next stream id to open; the HTTP/3 handler leaves this to quiche. -/
  nextBidiStreamId : ℕ
  timerDeadline : Option ℕ
  sessionClosedEmitted : Bool
  outboundAdmission : OutboundAdmission
  batch : List Emitted
  replies : List ClientReply

namespace ClientHandler

variable {C : Type}

def emit (h : ClientHandler C) (ref : ConnRef) (event : JsH3Event) : ClientHandler C :=
  { h with batch := pushFor ref event h.batch }

def reply (h : ClientHandler C) (answer : ClientReply) : ClientHandler C :=
  { h with replies := h.replies ++ [answer] }

def setConn (h : ClientHandler C) (conn : C) : ClientHandler C := { h with conn }

/-- Give units back and wake writers when the window reopens. -/
def releaseOutboundAdmission (h : ClientHandler C) (units : ℕ) : ClientHandler C :=
  let (writeReady, outboundAdmission) := h.outboundAdmission.release units
  let h := { h with outboundAdmission }
  if writeReady then { h with batch := pushWorker (.writeReady 0) h.batch } else h

section Sending

variable (send : ℕ → Bytes → Bool → C → Except Http3NativeError SendOutcome × C) (ref : ConnRef)
  (connHandle : UInt32)

/-- Send a payload, or queue it behind what already waits; the answer is the number of
units the caller is to give back. -/
def queueStreamSend (streamId : ℕ) (chunk : Bytes) (fin : Bool) (h : ClientHandler C) :
    ℕ × ClientHandler C :=
  match h.pendingWrites.lookup streamId with
  | some write =>
    (0, { h with pendingWrites := h.pendingWrites.insert streamId (write.merge chunk fin) })
  | none =>
    let (result, conn) := send streamId chunk fin h.conn
    let h := h.setConn conn
    match result with
    | .ok outcome =>
      let releasedUnits :=
        acceptedOutboundPayloadUnits chunk.length fin outcome.written outcome.finAccepted
      match outcome.remainder with
      | some remainder =>
        (releasedUnits,
          { h with pendingWrites := h.pendingWrites.insert streamId (.new remainder fin) }.emit ref
            (.streamBlocked connHandle streamId))
      | none => (releasedUnits, h)
    | .error e =>
      (outboundPayloadUnits chunk.length fin,
        h.emit ref (.error connHandle streamId 0 s!"stream send failed: {e.display}"))

/-- What the retry loop over pending writes carries along. -/
structure WriteFlush (C : Type) where
  conn : C
  pending : KeyMap ℕ PendingWrite
  drained : List ℕ
  releasedUnits : ℕ

def WriteFlush.drop (acc : WriteFlush C) (streamId : ℕ) (write : PendingWrite) : WriteFlush C :=
  { acc with
    pending := acc.pending.erase streamId
    releasedUnits := acc.releasedUnits + write.queuedUnits }

/-- Retry one pending write. Entries of streams that are `gone` and of failing sends are
dropped without an event. -/
def WriteFlush.step (gone : C → ℕ → Bool) (acc : WriteFlush C) (streamId : ℕ) : WriteFlush C :=
  match acc.pending.lookup streamId with
  | none => acc
  | some write =>
    if gone acc.conn streamId then acc.drop streamId write
    else
      let r := flushPendingWriteWithProgress (send streamId) write acc.conn
      let acc := { acc with conn := r.conn }
      match r.outcome with
      | .error _ => acc.drop streamId write
      | .ok outcome =>
        let acc := { acc with releasedUnits := acc.releasedUnits + outcome.releasedUnits }
        if outcome.done then
          { acc with
            pending := acc.pending.erase streamId
            drained := acc.drained ++ [streamId] }
        else { acc with pending := acc.pending.insert streamId r.write }

def flushWrites (gone : C → ℕ → Bool) (conn : C) (pending : KeyMap ℕ PendingWrite) :
    WriteFlush C :=
  pending.keys.foldl (WriteFlush.step send gone) ⟨conn, pending, [], 0⟩

/-- Retry everything that waits for flow control. -/
def flushPendingWrites (gone : C → ℕ → Bool) (h : ClientHandler C) : ClientHandler C :=
  let flushed := flushWrites send gone h.conn h.pendingWrites
  let h := { h with conn := flushed.conn, pendingWrites := flushed.pending
    }.releaseOutboundAdmission flushed.releasedUnits
  flushed.drained.foldl (fun h streamId => h.emit ref (.drain connHandle streamId)) h

end Sending

/-- Close a stream in both directions and drop what waits on it, without an event; the
answer is the number of units the caller is to give back. -/
def closeStream (streamClose : C → ℕ → ℕ → C) (streamId errorCode : ℕ) (h : ClientHandler C) :
    ℕ × ClientHandler C :=
  (KeyMap.weight PendingWrite.queuedUnits (h.pendingWrites.lookup streamId),
    { h with
      conn := streamClose h.conn streamId errorCode
      pendingWrites := h.pendingWrites.erase streamId })

/-- Report the close, once: abandoned streams are reset and their units given back first. -/
def emitSessionClose (closeEvent : C → UInt32 → JsH3Event) (ref : ConnRef) (connHandle : UInt32)
    (h : ClientHandler C) : ClientHandler C :=
  if h.sessionClosedEmitted then h
  else
    let removedUnits := KeyMap.total PendingWrite.queuedUnits h.pendingWrites
    let h := { h with
      batch := h.pendingWrites.keys.foldl (fun batch streamId =>
        pushFor ref (.reset connHandle streamId 0) batch) h.batch
      pendingWrites := ∅ }.releaseOutboundAdmission removedUnits
    { h.emit ref (closeEvent h.conn connHandle) with sessionClosedEmitted := true }

/-- Transport capacity is not an application drain while a write is pending. -/
def suppressPendingDrains (connHandle : UInt32) (h : ClientHandler C) : ClientHandler C :=
  { h with batch := h.batch.filter fun e =>
      e.event.eventType ≠ .drain || e.event.connHandle ≠ connHandle ||
        !(h.pendingWrites.lookup e.event.streamId.toNat).isSome }

def reportPingAcks (ref : ConnRef) (connHandle : UInt32) (answer : List ℕ × C)
    (h : ClientHandler C) : ClientHandler C :=
  { h with
    conn := answer.2
    batch := answer.1.foldl (fun batch d => pushFor ref (.pingAck connHandle d) batch) h.batch }

def reportSessionTicket (ref : ConnRef) (connHandle : UInt32) (answer : Option Bytes × C)
    (h : ClientHandler C) : ClientHandler C :=
  match answer with
  | (some ticket, conn) => (h.setConn conn).emit ref (.sessionTicket connHandle ticket)
  | (none, conn) => h.setConn conn

def refreshTimeoutDeadline (timeout : C → Option ℕ) (now : ℕ) (h : ClientHandler C) :
    ClientHandler C :=
  { h with timerDeadline := (timeout h.conn).map (now + ·) }

def sendLoop (send : C → Option Bytes × C) : ℕ → C → List Bytes × C
  | 0, conn => ([], conn)
  | fuel + 1, conn =>
    match send conn with
    | (none, conn) => ([], conn)
    | (some packet, conn) =>
      let (packets, conn) := sendLoop send fuel conn
      (packet :: packets, conn)

/-- Report a plain close when the driver fails, unless one was reported. -/
def emitSessionCloseForAllActive (ref : ConnRef) (h : ClientHandler C) : ClientHandler C :=
  if h.sessionClosedEmitted then h
  else { h.emit ref (.sessionClose 0) with sessionClosedEmitted := true }

/-- A shutdown marks the close as reported without reporting it. -/
def shutdown (h : ClientHandler C) : ClientHandler C := { h with sessionClosedEmitted := true }

def ofConn (conn : C) (timeout : C → Option ℕ) (now : ℕ) (outboundAdmission : OutboundAdmission) :
    ClientHandler C where
  conn
  pendingWrites := ∅
  nextBidiStreamId := 0
  timerDeadline := (timeout conn).map (now + ·)
  sessionClosedEmitted := false
  outboundAdmission
  batch := []
  replies := []

def startBatch (h : ClientHandler C) : ClientHandler C := { h with batch := [] }

/-- Let the handler work on an empty batch and take out what it reports. -/
def reported (f : ClientHandler C → ClientHandler C) (h : ClientHandler C) :
    List Emitted × ClientHandler C :=
  ((f h.startBatch).batch, (f h.startBatch).startBatch)

end ClientHandler

end Http3
