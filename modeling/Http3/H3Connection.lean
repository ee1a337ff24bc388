import Http3.ConnectionState
import Http3.Lib.KeyMap

/-! An HTTP/3 connection: polling it for events, and sending on it. -/

namespace Http3

/-- Size of the receive buffers body data is collected in. -/
def h3RecvChunk : ℕ := 64 * 1024

/-- Body bytes received but not yet reported, with the room of their buffer. -/
structure PendingRecvBody where
  data : Bytes
  capacity : ℕ
  deriving DecidableEq, Repr

def PendingRecvBody.isFull (p : PendingRecvBody) : Bool := p.capacity ≤ p.data.length

/-- `uid` and `sent` are not part of the program: the connection's place in the
order of acceptance, and what quiche accepted on its streams so far. -/
structure H3Connection (Q : Type) where
  uid : ℕ
  sent : List (ℕ × Item)
  quicheConn : Q
  h3Conn : Bool
  connId : Bytes
  isEstablished : Bool
  handshakeCompleteEmitted : Bool
  blocked : BlockedStreams
  nextClientRequestStreamIdHint : ℕ
  largestAcceptedRequestId : Option ℕ
  pendingBodyData : KeyMap ℕ PendingRecvBody
  streamReadWindow : Option ℕ
  readCredit : KeyMap ℕ ℕ
  pendingReadable : List ℕ
  trailerFinStreams : List ℕ
  pingState : PingState
  sessionTicket : Option Bytes

namespace H3Connection

variable {Q : Type} [Quiche Q]

def new (uid : ℕ) (quicheConn : Q) (connId : Bytes) : H3Connection Q where
  uid
  sent := []
  quicheConn
  h3Conn := false
  connId
  isEstablished := false
  handshakeCompleteEmitted := false
  blocked := .empty
  nextClientRequestStreamIdHint := 0
  largestAcceptedRequestId := none
  pendingBodyData := ∅
  streamReadWindow := none
  readCredit := ∅
  pendingReadable := []
  trailerFinStreams := []
  pingState := []
  sessionTicket := none

def isClosed (c : H3Connection Q) : Bool := Quiche.isClosed c.quicheConn

/-- Feed a received packet into the connection; `false` on an error. -/
def recv (c : H3Connection Q) (p : Packet) : Bool × H3Connection Q :=
  match Quiche.recv c.quicheConn p with
  | (.ok _, q) => (true, { c with quicheConn := q })
  | (.error _, q) => (false, { c with quicheConn := q })

/-- Initialize the HTTP/3 layer; callers ignore a failure. -/
def initH3 (c : H3Connection Q) : H3Connection Q :=
  if c.h3Conn then c
  else
    match Quiche.h3WithTransport c.quicheConn with
    | (.ok _, q) => { c with quicheConn := q, h3Conn := true, isEstablished := true }
    | (.error _, q) => { c with quicheConn := q }

def addReadCredit (c : H3Connection Q) (streamId bytes : ℕ) : H3Connection Q :=
  match c.streamReadWindow, c.readCredit.lookup streamId with
  | some window, some credit =>
    { c with readCredit := c.readCredit.insert streamId (min (credit + bytes) window) }
  | _, _ => c

/-- Unread credit of a stream; streams without a window have no limit. -/
def creditOf (c : H3Connection Q) (streamId : ℕ) : ℕ :=
  (c.readCredit.lookup streamId).getD (usizeBound - 1)

def clearStreamTracking (c : H3Connection Q) (streamId : ℕ) : H3Connection Q :=
  { c with
    readCredit := c.readCredit.erase streamId
    pendingReadable := c.pendingReadable.filter (· ≠ streamId)
    blocked := c.blocked.remove streamId
    pendingBodyData := c.pendingBodyData.erase streamId
    trailerFinStreams := c.trailerFinStreams.filter (· ≠ streamId) }

def clearStreamTrackingIfClosed (c : H3Connection Q) (streamId : ℕ) : H3Connection Q :=
  if Quiche.streamClosed c.quicheConn streamId then c.clearStreamTracking streamId else c

def pruneClosedBlockedStreams (c : H3Connection Q) : H3Connection Q :=
  (c.blocked.set.filter fun id => Quiche.streamClosed c.quicheConn id).foldl
    clearStreamTracking c

/-- A connection being polled: it, the application events it may still report,
and the batch. -/
structure Polling (Q : Type) where
  conn : H3Connection Q
  remaining : ℕ
  events : List Emitted

section Poll

variable (ref : ConnRef) (connHandle : UInt32)

/-- Report collected body bytes of a stream, if there are any. -/
def pushPendingBody (streamId : ℕ) (st : Polling Q) : Polling Q :=
  match st.conn.pendingBodyData.lookup streamId with
  | none => st
  | some pending =>
    let conn := { st.conn with pendingBodyData := st.conn.pendingBodyData.erase streamId }
    if pending.data.isEmpty then { st with conn }
    else
      let (pushed, events) :=
        pushCoalescing ref (.ofData connHandle streamId pending.data false) st.events
      ⟨conn, if pushed then st.remaining - 1 else st.remaining, events⟩

/-- Append an application event and charge it to the budget. -/
def pushApp (event : JsH3Event) (st : Polling Q) : Polling Q :=
  { st with remaining := st.remaining - 1, events := pushFor ref event st.events }

/-- Collect body bytes of a stream until the buffer is full, the frame is
drained (`true`), or quiche fails. -/
def fillBody (streamId credit : ℕ) : ℕ → H3Connection Q → (Bool × Option H3Error) × H3Connection Q
  | 0, c => ((false, none), c)
  | fuel + 1, c =>
    let pending := (c.pendingBodyData.lookup streamId).getD ⟨[], min h3RecvChunk credit⟩
    let c := { c with pendingBodyData := c.pendingBodyData.insert streamId pending }
    if pending.isFull then ((false, none), c)
    else
      match Quiche.h3RecvBody c.quicheConn streamId (pending.capacity - pending.data.length) with
      | (.ok bytes, q) =>
        let bytes := bytes.take (pending.capacity - pending.data.length)
        let c := { c with
          quicheConn := q
          pendingBodyData := c.pendingBodyData.insert streamId
            { pending with data := pending.data ++ bytes }
          readCredit := match c.readCredit.lookup streamId with
            | some left => c.readCredit.insert streamId (left - bytes.length)
            | none => c.readCredit }
        if bytes.length = 0 then ((false, none), c) else fillBody streamId credit fuel c
      | (.error .done, q) => ((true, none), { c with quicheConn := q })
      | (.error e, q) => ((false, some e), { c with quicheConn := q })

def dropEmptyBody (streamId : ℕ) (c : H3Connection Q) : H3Connection Q :=
  if (c.pendingBodyData.lookup streamId).elim false (·.data.isEmpty) then
    { c with pendingBodyData := c.pendingBodyData.erase streamId }
  else c

/-- Report the body of a stream, buffer by buffer, while budget and credit last. -/
def dataLoop (streamId : ℕ) : ℕ → Polling Q → Polling Q
  | 0, st => st
  | fuel + 1, st =>
    let credit := st.conn.creditOf streamId
    if st.remaining = 0 ∨ credit = 0 then
      { st with conn := { st.conn with
          pendingReadable := st.conn.pendingReadable.insert streamId } }
    else
      let ((drained, error), conn) :=
        fillBody streamId credit (Quiche.rounds st.conn.quicheConn) st.conn
      let full := (conn.pendingBodyData.lookup streamId).elim false PendingRecvBody.isFull
      let st := { st with conn := conn.dropEmptyBody streamId }
      let st := if full || drained then pushPendingBody ref connHandle streamId st else st
      match error with
      | some e =>
        let st := pushPendingBody ref connHandle streamId st
        if 0 < st.remaining then pushApp ref (.error connHandle streamId 0 e.display) st else st
      | none => if drained || !full then st else dataLoop streamId fuel st

/-- What the poll loop remembers besides: streams to clear afterwards. -/
structure PollAcc (Q : Type) where
  poll : Polling Q
  closedCandidates : List ℕ
  resetStreams : List ℕ

/-- Next HTTP/3 event: a stream left unread whose credit is back, or quiche's. -/
def nextH3Event (c : H3Connection Q) : Except H3Error (ℕ × H3Poll) × H3Connection Q :=
  match c.pendingReadable.find? fun id => 0 < c.creditOf id with
  | some id =>
    (.ok (id, .data), { c with pendingReadable := c.pendingReadable.filter (· ≠ id) })
  | none =>
    let (answer, q) := Quiche.h3Poll c.quicheConn
    (answer, { c with quicheConn := q })

def noteHeaders (streamId : ℕ) (c : H3Connection Q) : H3Connection Q :=
  { c with
    readCredit := match c.streamReadWindow, c.readCredit.lookup streamId with
      | some window, none => c.readCredit.insert streamId window
      | _, _ => c.readCredit
    largestAcceptedRequestId := some
      (c.largestAcceptedRequestId.elim streamId fun id => max id streamId) }

def pollLoop : ℕ → PollAcc Q → PollAcc Q
  | 0, acc => acc
  | fuel + 1, acc =>
    if acc.poll.remaining = 0 then acc
    else
      let (answer, conn) := acc.poll.conn.nextH3Event
      let st := { acc.poll with conn }
      match answer with
      | .ok (streamId, .headers list moreFrames) =>
        let st := pushPendingBody ref connHandle streamId st
        let st := { st with conn := st.conn.noteHeaders streamId }
        let st := pushApp ref (.ofHeaders connHandle streamId list !moreFrames) st
        pollLoop fuel { acc with poll := st }
      | .ok (streamId, .data) =>
        let st := dataLoop ref connHandle streamId (Quiche.rounds conn.quicheConn) st
        pollLoop fuel { acc with poll := st }
      | .ok (streamId, .finished) =>
        let st := { st with conn := { st.conn with
          readCredit := st.conn.readCredit.erase streamId
          pendingReadable := st.conn.pendingReadable.filter (· ≠ streamId) } }
        let st := pushPendingBody ref connHandle streamId st
        let st := pushApp ref (.finished connHandle streamId) st
        pollLoop fuel { acc with
          poll := st
          closedCandidates := acc.closedCandidates ++ [streamId] }
      | .ok (streamId, .reset errorCode) =>
        let st := pushPendingBody ref connHandle streamId st
        let st := pushApp ref (.reset connHandle streamId errorCode) st
        pollLoop fuel { acc with poll := st, resetStreams := acc.resetStreams ++ [streamId] }
      | .ok (_, .priorityUpdate) => pollLoop fuel { acc with poll := st }
      | .ok (streamId, .goAway) =>
        pollLoop fuel { acc with poll := pushApp ref (.goaway connHandle streamId) st }
      | .error .done => { acc with poll := st }
      | .error e => { acc with poll := pushApp ref (.error connHandle (-1) 0 e.display) st }

def pollDatagramEvents (remaining : ℕ) (c : H3Connection Q) (events : List Emitted) :
    H3Connection Q × List Emitted :=
  let (quicheConn, events) := pollDatagrams ref connHandle remaining c.quicheConn events
  ({ c with quicheConn }, events)

/-- Streams quiche reports as writable: stopped ones are reset, blocked ones drain. -/
def pollWritable : ℕ → H3Connection Q → List Emitted → H3Connection Q × List Emitted
  | 0, c, events => (c, events)
  | fuel + 1, c, events =>
    match Quiche.streamWritableNext c.quicheConn with
    | (none, q) => ({ c with quicheConn := q }, events)
    | (some streamId, q) =>
      let c := { c with quicheConn := q }
      match Quiche.streamCapacity q streamId with
      | .error (.streamStopped errorCode) =>
        pollWritable fuel (c.clearStreamTracking streamId)
          (pushFor ref (.reset connHandle streamId errorCode) events)
      | _ =>
        if streamId ∈ c.blocked.set then
          pollWritable fuel { c with blocked := c.blocked.remove streamId }
            (pushFor ref (.drain connHandle streamId) events)
        else pollWritable fuel c events

def pollDrainEvents (c : H3Connection Q) (events : List Emitted) :
    H3Connection Q × List Emitted :=
  let c := c.pruneClosedBlockedStreams
  let (c, events) := pollWritable ref connHandle (Quiche.rounds c.quicheConn) c events
  let (blocked, events) := c.blocked.probe (Quiche.streamCapacity c.quicheConn) ref connHandle
    c.blocked.queue.length events
  ({ c with blocked }, events)

/-- Poll for events and append them to the batch. The budget bounds events the
application has to act on; drains are always reported. -/
def pollH3Events (appEventBudget : ℕ) (c : H3Connection Q) (events : List Emitted) :
    H3Connection Q × List Emitted :=
  let acc : PollAcc Q := ⟨⟨c, appEventBudget, events⟩, [], []⟩
  let acc := if 0 < appEventBudget ∧ c.h3Conn then
      pollLoop ref connHandle (Quiche.rounds c.quicheConn) acc else acc
  let conn := acc.resetStreams.foldl clearStreamTracking acc.poll.conn
  let conn := acc.closedCandidates.foldl clearStreamTrackingIfClosed conn
  let (conn, events) := if 0 < acc.poll.remaining then
      pollDatagramEvents ref connHandle acc.poll.remaining conn acc.poll.events
    else (conn, acc.poll.events)
  pollDrainEvents ref connHandle conn events

end Poll

def block (c : H3Connection Q) (streamId : ℕ) : H3Connection Q :=
  { c with blocked := c.blocked.insert streamId }

def accepted (c : H3Connection Q) (streamId : ℕ) (items : List Item) : H3Connection Q :=
  { c with sent := c.sent ++ items.map fun item => (streamId, item) }

def sentOn (c : H3Connection Q) (streamId : ℕ) : List Item :=
  (c.sent.filter fun e => e.1 = streamId).map Prod.snd

def sendResponse (c : H3Connection Q) (streamId : ℕ) (headers : Headers) (fin : Bool) :
    Except Http3NativeError Unit × H3Connection Q :=
  if c.h3Conn then
    match Quiche.h3SendResponse c.quicheConn streamId headers fin with
    | (.ok _, q) =>
      (.ok (), { c with quicheConn := q }.accepted streamId
        (.headers headers :: if fin then [.fin] else []))
    | (.error e, q) => (.error (.h3 e), { c with quicheConn := q })
  else (.error (.invalidState "H3 not initialized"), c)

def lengthBytes (dataLen : ℕ) : ℕ :=
  if dataLen ≤ 63 then 1 else if dataLen ≤ 16383 then 2 else if dataLen ≤ 1073741823 then 4 else 8

/-- Send body bytes; what flow control refuses comes back as the remainder. -/
def sendBodyArcbuf (streamId : ℕ) (buf : Bytes) (fin : Bool) (c : H3Connection Q) :
    Except Http3NativeError SendOutcome × H3Connection Q :=
  if !c.h3Conn then (.error (.invalidState "H3 not initialized"), c)
  -- the FIN already went out with the trailers
  else if buf.length = 0 ∧ fin ∧ streamId ∈ c.trailerFinStreams then (.ok ⟨0, true, none⟩, c)
  else if buf.length = 0 ∧ !fin then (.ok ⟨0, false, none⟩, c)
  else
    let required := 1 + lengthBytes buf.length + (decide (0 < buf.length)).toNat
    match Quiche.streamCapacity c.quicheConn streamId with
    | .error e => (.error (.quiche e), c)
    | .ok capacity =>
      if capacity < required then (.ok ⟨0, false, some buf⟩, c.block streamId)
      else
        match Quiche.h3SendBody c.quicheConn streamId buf fin with
        | (.ok written, q) =>
          let c := { c with quicheConn := q }
          if written < buf.length then
            (.ok ⟨written, false, some (buf.drop written)⟩,
              (c.block streamId).accepted streamId (bodyItems (buf.take written) false))
          else (.ok ⟨written, fin, none⟩, c.accepted streamId (bodyItems buf fin))
        | (.error .done, q) =>
          (.ok ⟨0, false, some buf⟩, { c with quicheConn := q }.block streamId)
        | (.error e, q) => (.error (.h3 e), { c with quicheConn := q })

/-- Close a stream in both directions; never fails. -/
def streamClose (c : H3Connection Q) (streamId errorCode : ℕ) : H3Connection Q :=
  let q := Quiche.streamShutdown c.quicheConn streamId .read errorCode
  let q := Quiche.streamShutdown q streamId .write errorCode
  { c with quicheConn := q }.clearStreamTracking streamId

def sendTrailers (c : H3Connection Q) (streamId : ℕ) (headers : Headers) :
    Except Http3NativeError Unit × H3Connection Q :=
  if c.h3Conn then
    match Quiche.h3SendAdditionalHeaders c.quicheConn streamId headers true true with
    | (.ok _, q) =>
      (.ok (), { c with
        quicheConn := q
        trailerFinStreams := c.trailerFinStreams.insert streamId }.accepted streamId
          [.trailers headers])
    | (.error e, q) => (.error (.h3 e), { c with quicheConn := q })
  else (.error (.invalidState "H3 not initialized"), c)

/-- Send a request; returns the stream it was given. -/
def sendRequest (c : H3Connection Q) (headers : Headers) (fin : Bool) :
    Except Http3NativeError ℕ × H3Connection Q :=
  if c.h3Conn then
    match Quiche.h3SendRequest c.quicheConn headers fin with
    | (.ok streamId, q) =>
      (.ok streamId, { c with quicheConn := q, nextClientRequestStreamIdHint := streamId + 4 })
    | (.error .streamBlocked, q) =>
      (.error (.h3 .streamBlocked),
        { c with quicheConn := q }.block c.nextClientRequestStreamIdHint)
    | (.error e, q) => (.error (.h3 e), { c with quicheConn := q })
  else (.error (.invalidState "H3 not initialized"), c)

def maxServerGoawayRequestId : ℕ := 2 ^ 62 - 4

/-- Announce the first request id that will not be served; `true` when queued. -/
def sendGoaway (c : H3Connection Q) : Bool × H3Connection Q :=
  if c.h3Conn then
    let goawayId := c.largestAcceptedRequestId.elim 0 fun id =>
      min (id + 4) maxServerGoawayRequestId
    match Quiche.h3SendGoaway c.quicheConn goawayId with
    | (.ok _, q) => (true, { c with quicheConn := q })
    | (.error _, q) => (false, { c with quicheConn := q })
  else (false, c)

def sendDatagramChunk (c : H3Connection Q) (data : Bytes) : Bool × H3Connection Q :=
  if Quiche.isDgramSendQueueFull c.quicheConn then (false, c)
  else
    match Quiche.dgramSend c.quicheConn data with
    | (.ok _, q) => (true, { c with quicheConn := q })
    | (.error _, q) => (false, { c with quicheConn := q })

def queuePing (c : H3Connection Q) (now : ℕ) : Bool × H3Connection Q :=
  if Quiche.isClosed c.quicheConn || Quiche.isDraining c.quicheConn then (false, c)
  else
    match Quiche.sendAckEliciting c.quicheConn with
    | (.ok _, q) =>
      (true, { c with quicheConn := q, pingState := c.pingState.queue (Quiche.stats q) now })
    | (.error _, q) => (false, { c with quicheConn := q })

def pollPingAcks (c : H3Connection Q) (now : ℕ) : List ℕ × H3Connection Q :=
  let (durations, pingState) := PingState.completeAcked (Quiche.stats c.quicheConn) now c.pingState
  (durations, { c with pingState })

/-- The session ticket, when it is another one than last time. -/
def updateSessionTicket (c : H3Connection Q) : Option Bytes × H3Connection Q :=
  match Quiche.session c.quicheConn with
  | none => (none, c)
  | some ticket =>
    if c.sessionTicket = some ticket then (none, c)
    else (some ticket, { c with sessionTicket := some ticket })

def onTimeout (c : H3Connection Q) : H3Connection Q :=
  { c with quicheConn := Quiche.onTimeout c.quicheConn }

def close (c : H3Connection Q) (app : Bool) (errorCode : ℕ) (reason : String) : H3Connection Q :=
  { c with quicheConn := Quiche.close c.quicheConn app errorCode reason }

/-- Write one outbound packet, if quiche has one. -/
def send (c : H3Connection Q) : Option Bytes × H3Connection Q :=
  match Quiche.send c.quicheConn with
  | (.ok packet, q) => (some packet, { c with quicheConn := q })
  | (.error _, q) => (none, { c with quicheConn := q })

def sessionCloseEvent (c : H3Connection Q) (connHandle : UInt32) : JsH3Event :=
  match (Quiche.peerError c.quicheConn).or (Quiche.localError c.quicheConn) with
  | some error => .sessionCloseWithError connHandle error.errorCode error.reason
  | none =>
    if Quiche.isTimedOut c.quicheConn then .sessionCloseWithError connHandle 0 "idle timeout"
    else .sessionClose connHandle

end H3Connection

end Http3
