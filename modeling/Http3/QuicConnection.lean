import Http3.ConnectionState

/-! A raw QUIC connection: polling it for events, and sending on it. -/

namespace Http3

/-- Size of the buffers stream data is received in. -/
def quicRecvChunk : ℕ := 64 * 1024

def maxOutboundDatagramQueue : ℕ := 64

/-- `uid` is not part of the program: the connection's place in the order of
acceptance. -/
structure QuicConnection (Q : Type) where
  uid : ℕ
  quicheConn : Q
  connId : Bytes
  isEstablished : Bool
  handshakeCompleteEmitted : Bool
  blocked : BlockedStreams
  /-- Streams NEW_STREAM was reported for. -/
  knownStreams : List ℕ
  /-- Streams read to the end of what has arrived, without their FIN. -/
  pendingFin : List ℕ
  /-- Datagrams quiche had no room for. -/
  outboundDatagrams : List Bytes
  pingState : PingState
  sessionTicket : Option Bytes

namespace QuicConnection

variable {Q : Type} [Quiche Q]

def new (uid : ℕ) (quicheConn : Q) (connId : Bytes) : QuicConnection Q where
  uid
  quicheConn
  connId
  isEstablished := false
  handshakeCompleteEmitted := false
  blocked := .empty
  knownStreams := []
  pendingFin := []
  outboundDatagrams := []
  pingState := []
  sessionTicket := none

def isClosed (c : QuicConnection Q) : Bool := Quiche.isClosed c.quicheConn

def isLocalStream (c : QuicConnection Q) (streamId : ℕ) : Bool :=
  streamId % 2 == (Quiche.isServer c.quicheConn).toNat

def recv (c : QuicConnection Q) (p : Packet) : Bool × QuicConnection Q :=
  match Quiche.recv c.quicheConn p with
  | (.ok _, q) => (true, { c with quicheConn := q })
  | (.error _, q) => (false, { c with quicheConn := q })

def know (c : QuicConnection Q) (streamId : ℕ) : QuicConnection Q :=
  { c with knownStreams := c.knownStreams.insert streamId }

def forget (c : QuicConnection Q) (streamId : ℕ) : QuicConnection Q :=
  { c with knownStreams := c.knownStreams.filter (· ≠ streamId) }

/-- The peer's side of a stream is read to its end. -/
def finishRead (c : QuicConnection Q) (streamId : ℕ) : QuicConnection Q :=
  { c.forget streamId with
    quicheConn := Quiche.streamShutdown c.quicheConn streamId .read 0 }

def awaitFin (c : QuicConnection Q) (streamId : ℕ) : QuicConnection Q :=
  { c with pendingFin := c.pendingFin.insert streamId }

/-- A connection being polled: it, the application events it may still report,
and the batch. -/
structure Polling (Q : Type) where
  conn : QuicConnection Q
  remaining : ℕ
  events : List Emitted

section Poll

variable (ref : ConnRef) (connHandle : UInt32)

def pushApp (event : JsH3Event) (st : Polling Q) : Polling Q :=
  { st with remaining := st.remaining - 1, events := pushFor ref event st.events }

def Polling.mapConn (f : QuicConnection Q → QuicConnection Q) (st : Polling Q) : Polling Q :=
  { st with conn := f st.conn }

/-- Report the data of a stream, buffer by buffer, while the budget lasts. -/
def readLoop (streamId : ℕ) : ℕ → Polling Q → Polling Q
  | 0, st => st
  | fuel + 1, st =>
    if st.remaining = 0 then st
    else
      match Quiche.streamRecv st.conn.quicheConn streamId quicRecvChunk with
      | (.ok (data, fin), q) =>
        let st := st.mapConn ({ · with quicheConn := q })
        let st := if 0 < data.length then pushApp ref (.ofData connHandle streamId data fin) st
          else st
        if fin then
          if 0 < data.length then st.mapConn (finishRead · streamId)
          else if 0 < st.remaining then
            (pushApp ref (.finished connHandle streamId) st).mapConn (finishRead · streamId)
          else st.mapConn (awaitFin · streamId)
        else if data.length = 0 then st
        else readLoop streamId fuel st
      | (.error .done, q) =>
        let st := st.mapConn ({ · with quicheConn := q })
        if Quiche.streamFinished q streamId && decide (0 < st.remaining) then
          (pushApp ref (.finished connHandle streamId) st).mapConn fun c =>
            { c with pendingFin := c.pendingFin.filter (· ≠ streamId) }.finishRead streamId
        else st.mapConn (awaitFin · streamId)
      | (.error e, q) =>
        let st := st.mapConn ({ · with quicheConn := q })
        (pushApp ref (.error connHandle streamId 0 e.display) st).mapConn (forget · streamId)

/-- The first read of a new stream rides on its NEW_STREAM event. -/
def openStream (streamId : ℕ) (st : Polling Q) : Polling Q :=
  match Quiche.streamRecv st.conn.quicheConn streamId quicRecvChunk with
  | (.ok (data, fin), q) =>
    let st := pushApp ref (.newStreamWithData connHandle streamId data fin)
      (st.mapConn ({ · with quicheConn := q }))
    if fin then st.mapConn (finishRead · streamId)
    else readLoop ref connHandle streamId (Quiche.rounds q) st
  | (.error .done, q) =>
    pushApp ref (.newStream connHandle streamId) (st.mapConn ({ · with quicheConn := q }))
  | (.error e, q) =>
    let st := pushApp ref (.newStream connHandle streamId)
      (st.mapConn ({ · with quicheConn := q }))
    let st := if st.remaining = 0 then st
      else pushApp ref (.error connHandle streamId 0 e.display) st
    st.mapConn (forget · streamId)

def pollStream (streamId : ℕ) (st : Polling Q) : Polling Q :=
  let isNew := streamId ∉ st.conn.knownStreams
  let st := st.mapConn (know · streamId)
  if isNew then openStream ref connHandle streamId st
  else readLoop ref connHandle streamId (Quiche.rounds st.conn.quicheConn) st

def pollReadable : List ℕ → Polling Q → Polling Q
  | [], st => st
  | streamId :: rest, st =>
    if st.remaining = 0 then st else pollReadable rest (pollStream ref connHandle streamId st)

def pollDatagramEvents (remaining : ℕ) (c : QuicConnection Q) (events : List Emitted) :
    QuicConnection Q × List Emitted :=
  let (quicheConn, events) := pollDatagrams ref connHandle remaining c.quicheConn events
  ({ c with quicheConn }, events)

def pollDrainEvents (c : QuicConnection Q) (events : List Emitted) :
    QuicConnection Q × List Emitted :=
  let (blocked, events) := c.blocked.probe (Quiche.streamCapacity c.quicheConn) ref connHandle
    c.blocked.queue.length events
  ({ c with blocked }, events)

/-- Poll for events and append them to the batch. Without a budget only blocked
streams are looked at. -/
def pollQuicEvents (appEventBudget : ℕ) (c : QuicConnection Q) (events : List Emitted) :
    QuicConnection Q × List Emitted :=
  if appEventBudget = 0 then pollDrainEvents ref connHandle c events
  else
    let st := pollReadable ref connHandle (Quiche.readable c.quicheConn)
      ⟨c, appEventBudget, events⟩
    let (conn, events) := if 0 < st.remaining then
        pollDatagramEvents ref connHandle st.remaining st.conn st.events
      else (st.conn, st.events)
    pollDrainEvents ref connHandle conn events

def sweepStream (acc : QuicConnection Q × List Emitted) (streamId : ℕ) :
    QuicConnection Q × List Emitted :=
  let c := { acc.1 with pendingFin := acc.1.pendingFin.filter (· ≠ streamId) }
  if streamId ∈ c.knownStreams then
    (c.finishRead streamId, pushFor ref (.finished connHandle streamId) acc.2)
  else (c, acc.2)

/-- Report streams whose FIN came after all their data had been read. -/
def sweepFinishedStreams (appEventBudget : ℕ) (c : QuicConnection Q) (events : List Emitted) :
    QuicConnection Q × List Emitted :=
  ((c.pendingFin.filter fun id => Quiche.streamFinished c.quicheConn id &&
    !Quiche.streamReadable c.quicheConn id).take appEventBudget).foldl
      (sweepStream ref connHandle) (c, events)

end Poll

def block (c : QuicConnection Q) (streamId : ℕ) : QuicConnection Q :=
  { c with blocked := c.blocked.insert streamId }

/-- A stream of our own becomes known with the first send on it. -/
def knowLocal (c : QuicConnection Q) (streamId : ℕ) : QuicConnection Q :=
  if c.isLocalStream streamId then c.know streamId else c

/-- Hand bytes to quiche and mark the stream blocked when it does not take them all. -/
def streamSendZc (streamId : ℕ) (buf : Bytes) (fin : Bool) (c : QuicConnection Q) :
    Except Http3NativeError SendOutcome × QuicConnection Q :=
  match Quiche.streamSend c.quicheConn streamId buf fin with
  | (.ok written, q) =>
    let c := { c with quicheConn := q }
    if written < buf.length then
      (.ok ⟨written, false, some (buf.drop written)⟩, (c.block streamId).knowLocal streamId)
    else (.ok ⟨written, fin, none⟩, c.knowLocal streamId)
  | (.error .done, q) => (.ok ⟨0, false, some buf⟩, { c with quicheConn := q }.block streamId)
  | (.error e, q) => (.error (.quiche e), { c with quicheConn := q })

/-- Send bytes on a stream; what flow control refuses comes back as the remainder. -/
def streamSendArcbuf (streamId : ℕ) (buf : Bytes) (fin : Bool) (c : QuicConnection Q) :
    Except Http3NativeError SendOutcome × QuicConnection Q :=
  if buf.length = 0 then
    if !fin then (.ok ⟨0, false, none⟩, c)
    else
      match Quiche.streamSend c.quicheConn streamId [] true with
      | (.ok written, q) =>
        -- a bare FIN counts as progress
        (.ok ⟨if written = 0 then 1 else written, true, none⟩,
          { c with quicheConn := q }.knowLocal streamId)
      | (.error .done, q) =>
        (.ok ⟨0, false, some buf⟩, { c with quicheConn := q }.block streamId)
      | (.error e, q) => (.error (.quiche e), { c with quicheConn := q })
  else if streamId ∈ c.blocked.set then
    -- retrying without credit would queue another DATA_BLOCKED frame each time
    match Quiche.streamCapacity c.quicheConn streamId with
    | .error e => (.error (.quiche e), c)
    | .ok capacity =>
      if capacity = 0 then (.ok ⟨0, false, some buf⟩, c) else c.streamSendZc streamId buf fin
  else c.streamSendZc streamId buf fin

/-- Open a bidirectional stream of our own with an empty send. -/
def reserveLocalBidiStream (c : QuicConnection Q) (streamId : ℕ) :
    Except Http3NativeError Unit × QuicConnection Q :=
  if !c.isLocalStream streamId || decide (streamId / 2 % 2 ≠ 0) then
    (.error (.invalidState s!"stream {streamId} is not a local bidirectional stream"), c)
  else
    match Quiche.streamSend c.quicheConn streamId [] false with
    | (.ok 0, q) => (.ok (), { c with quicheConn := q }.know streamId)
    | (.ok written, q) =>
      (.error (.invalidState s!"empty stream reservation wrote {written} bytes"),
        { c with quicheConn := q })
    | (.error e, q) => (.error (.quiche e), { c with quicheConn := q })

/-- Close a stream in both directions; never fails. -/
def streamClose (c : QuicConnection Q) (streamId errorCode : ℕ) : QuicConnection Q :=
  let q := Quiche.streamShutdown c.quicheConn streamId .read errorCode
  let q := Quiche.streamShutdown q streamId .write errorCode
  { c with quicheConn := q, blocked := c.blocked.remove streamId }.forget streamId

/-- Send a datagram, or keep it for later when quiche has no room; `false` when
there is no room here either, or quiche fails. -/
def queueDatagram (c : QuicConnection Q) (data : Bytes) : Bool × QuicConnection Q :=
  if Quiche.isDgramSendQueueFull c.quicheConn then
    if maxOutboundDatagramQueue ≤ c.outboundDatagrams.length then (false, c)
    else (true, { c with outboundDatagrams := c.outboundDatagrams ++ [data] })
  else
    match Quiche.dgramSend c.quicheConn data with
    | (.ok _, q) => (true, { c with quicheConn := q })
    | (.error _, q) => (false, { c with quicheConn := q })

/-- Hand over datagrams that waited, until quiche is full again or fails. -/
def drainOutboundDatagramsLoop : List Bytes → QuicConnection Q → QuicConnection Q
  | [], c => c
  | data :: rest, c =>
    if Quiche.isDgramSendQueueFull c.quicheConn then c
    else
      match Quiche.dgramSend c.quicheConn data with
      | (.ok _, q) =>
        drainOutboundDatagramsLoop rest { c with quicheConn := q, outboundDatagrams := rest }
      | (.error _, q) => { c with quicheConn := q, outboundDatagrams := rest }

def drainOutboundDatagrams (c : QuicConnection Q) : QuicConnection Q :=
  drainOutboundDatagramsLoop c.outboundDatagrams c

def queuePing (c : QuicConnection Q) (now : ℕ) : Bool × QuicConnection Q :=
  if Quiche.isClosed c.quicheConn || Quiche.isDraining c.quicheConn then (false, c)
  else
    match Quiche.sendAckEliciting c.quicheConn with
    | (.ok _, q) =>
      (true, { c with quicheConn := q, pingState := c.pingState.queue (Quiche.stats q) now })
    | (.error _, q) => (false, { c with quicheConn := q })

def pollPingAcks (c : QuicConnection Q) (now : ℕ) : List ℕ × QuicConnection Q :=
  let (durations, pingState) := PingState.completeAcked (Quiche.stats c.quicheConn) now c.pingState
  (durations, { c with pingState })

/-- The session ticket, when it is another one than last time. -/
def updateSessionTicket (c : QuicConnection Q) : Option Bytes × QuicConnection Q :=
  match Quiche.session c.quicheConn with
  | none => (none, c)
  | some ticket =>
    if c.sessionTicket = some ticket then (none, c)
    else (some ticket, { c with sessionTicket := some ticket })

def onTimeout (c : QuicConnection Q) : QuicConnection Q :=
  { c with quicheConn := Quiche.onTimeout c.quicheConn }

def close (c : QuicConnection Q) (app : Bool) (errorCode : ℕ) (reason : String) :
    QuicConnection Q :=
  { c with quicheConn := Quiche.close c.quicheConn app errorCode reason }

/-- Write one outbound packet, if quiche has one. -/
def send (c : QuicConnection Q) : Option Bytes × QuicConnection Q :=
  match Quiche.send c.quicheConn with
  | (.ok packet, q) => (some packet, { c with quicheConn := q })
  | (.error _, q) => (none, { c with quicheConn := q })

def sessionCloseEvent (c : QuicConnection Q) (connHandle : UInt32) : JsH3Event :=
  match (Quiche.peerError c.quicheConn).or (Quiche.localError c.quicheConn) with
  | some error => .sessionCloseWithError connHandle error.errorCode error.reason
  | none =>
    if Quiche.isTimedOut c.quicheConn then .sessionCloseWithError connHandle 0 "idle timeout"
    else .sessionClose connHandle

end QuicConnection

end Http3
