import Http3.H3Client
import Http3.QuicClient

/-! What the workers that drive client sessions ask of a session's handler, whichever
protocol it speaks. -/

namespace Http3

/-- A client handler over a connection of type `C`. `Own` are the commands only this
protocol has. -/
class ClientProtocol (C : Type) (Own : outParam Type) where
  isClosed : C → Bool
  timeout : C → Option ℕ
  recv : C → Packet → Bool × C
  onTimeout : C → C
  close : C → Bool → ℕ → String → C
  trySend : C → Option Bytes × C
  currentDcid : C → Bytes
  takeDcidUpdates : C → (Bytes × Bool × List Bytes) × C
  /-- The handler of a new session, unless quiche refuses to connect. -/
  newSession : ℕ → Bytes → SocketAddr → SocketAddr → String → Option Bytes → ℕ →
    OutboundAdmission → Option (ClientHandler C)
  newSessionError : String
  own : Own → ClientHandler C → ClientHandler C
  /-- The answer to such a command when there is no session. -/
  ownAbsent : Own → Option ClientReply
  queueStreamSend : UInt32 → ℕ → Bytes → Bool → ClientHandler C → ℕ × ClientHandler C
  closeStream : ℕ → ℕ → ClientHandler C → ℕ × ClientHandler C
  sendDatagram : Bytes → ClientHandler C → Bool × ClientHandler C
  ping : ℕ → ClientHandler C → Bool × ClientHandler C
  processPacketForHandle : UInt32 → Packet → ℕ → ℕ → ClientHandler C → ClientHandler C
  processTimersForHandle : UInt32 → ℕ → ℕ → ClientHandler C → ClientHandler C
  pollAppEventsForHandle : UInt32 → ℕ → ℕ → ClientHandler C → ClientHandler C
  pollDrainEventsForHandle : UInt32 → ℕ → ClientHandler C → ClientHandler C
  flushPendingWritesForHandle : UInt32 → ClientHandler C → ClientHandler C
  isReapable : ClientHandler C → Bool

namespace ClientProtocol

variable {C Own : Type} [ClientProtocol C Own]

def closeSession (errorCode : ℕ) (reason : String) (h : ClientHandler C) : ClientHandler C :=
  h.setConn (close h.conn true errorCode reason)

def refreshTimeoutDeadline (now : ℕ) : ClientHandler C → ClientHandler C :=
  ClientHandler.refreshTimeoutDeadline timeout now

/-- Write out packets and take the deadline quiche asks for now. -/
def flushSends (rounds now : ℕ) (h : ClientHandler C) : List Bytes × ClientHandler C :=
  let (packets, conn) := ClientHandler.sendLoop trySend rounds h.conn
  (packets, refreshTimeoutDeadline now (h.setConn conn))

end ClientProtocol

/-- Commands of HTTP/3 sessions only. -/
inductive H3Own
  | sendRequest (headers : Headers) (fin : Bool)
  | streamReadCredit (streamId bytes : ℕ)
  deriving DecidableEq, Repr

/-- Commands of raw QUIC sessions only. -/
inductive QuicOwn
  | openStream
  deriving DecidableEq, Repr

variable {Q : Type} [Quiche Q]

namespace H3Client

def own : H3Own → H3Client Q → H3Client Q
  | .sendRequest headers fin, h =>
    let (answer, h) := sendRequest headers fin h
    h.reply (.requested answer)
  | .streamReadCredit streamId bytes, h => streamReadCredit streamId bytes h

def ownAbsent : H3Own → Option ClientReply
  | .sendRequest _ _ => some (.requested (.error "client session not running"))
  | .streamReadCredit _ _ => none

instance : ClientProtocol (H3Connection Q) H3Own where
  isClosed := H3Connection.isClosed
  timeout := timeout
  recv := H3Connection.recv
  onTimeout := H3Connection.onTimeout
  close := H3Connection.close
  trySend := H3Connection.send
  currentDcid c := Quiche.sourceId c.quicheConn
  takeDcidUpdates := takeDcidUpdates
  newSession uid scid localAddr serverAddr serverName sessionTicket now outboundAdmission :=
    (fromScid uid scid localAddr serverAddr serverName sessionTicket now outboundAdmission).map
      enableReadCredit
  newSessionError := "failed to create h3 client session"
  own := own
  ownAbsent := ownAbsent
  queueStreamSend := queueStreamSend
  closeStream := closeStream
  sendDatagram := sendDatagram
  ping := ping
  processPacketForHandle := processPacketForHandle
  processTimersForHandle := processTimersForHandle
  pollAppEventsForHandle := pollAppEventsForHandle
  pollDrainEventsForHandle connHandle _ := pollDrainEventsForHandle connHandle
  flushPendingWritesForHandle := flushPendingWritesForHandle
  isReapable := isReapable

end H3Client

namespace QuicClient

def own : QuicOwn → QuicClient Q → QuicClient Q
  | .openStream, h =>
    let (answer, h) := openBidiStream h
    h.reply (.opened answer)

def ownAbsent : QuicOwn → Option ClientReply
  | .openStream =>
    some (.opened (.error (.invalidState "shared quic client session not found")))

instance : ClientProtocol (QuicConnection Q) QuicOwn where
  isClosed := QuicConnection.isClosed
  timeout := timeout
  recv := QuicConnection.recv
  onTimeout := QuicConnection.onTimeout
  close := QuicConnection.close
  trySend := trySend
  currentDcid c := Quiche.sourceId c.quicheConn
  takeDcidUpdates := takeDcidUpdates
  newSession := fromScid
  newSessionError := "failed to create quic client session"
  own := own
  ownAbsent := ownAbsent
  queueStreamSend := queueStreamSend
  closeStream := closeStream
  sendDatagram := sendDatagram
  ping := ping
  processPacketForHandle := processPacketForHandle
  processTimersForHandle := processTimersForHandle
  pollAppEventsForHandle := pollAppEventsForHandle
  pollDrainEventsForHandle := pollDrainEventsForHandle
  flushPendingWritesForHandle := flushPendingWritesForHandle
  isReapable := isReapable

end QuicClient

end Http3
