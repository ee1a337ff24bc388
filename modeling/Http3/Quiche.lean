import Http3.H3Event
import Mathlib.Logic.Relation

/-! The vendored transport as the workers see it: a state per connection and
the calls made on it, every answer left open. -/

namespace Http3

inductive QuicheError
  | done | bufferTooShort | unknownVersion | invalidFrame | invalidPacket | invalidState
  | invalidStreamState (streamId : ℕ) | invalidTransportParam | cryptoFail | tlsFail | flowControl
  | streamLimit | streamStopped (errorCode : ℕ) | streamReset (errorCode : ℕ) | finalSize
  | congestionControl | idLimit | outOfIdentifiers | keyUpdate | cryptoBufferExceeded
  | invalidAckRange | optimisticAckDetected | invalidDcidInitialization
  deriving DecidableEq, Repr

def QuicheError.display : QuicheError → String
  | .done => "Done"
  | .bufferTooShort => "BufferTooShort"
  | .unknownVersion => "UnknownVersion"
  | .invalidFrame => "InvalidFrame"
  | .invalidPacket => "InvalidPacket"
  | .invalidState => "InvalidState"
  | .invalidStreamState streamId => s!"InvalidStreamState({streamId})"
  | .invalidTransportParam => "InvalidTransportParam"
  | .cryptoFail => "CryptoFail"
  | .tlsFail => "TlsFail"
  | .flowControl => "FlowControl"
  | .streamLimit => "StreamLimit"
  | .streamStopped errorCode => s!"StreamStopped({errorCode})"
  | .streamReset errorCode => s!"StreamReset({errorCode})"
  | .finalSize => "FinalSize"
  | .congestionControl => "CongestionControl"
  | .idLimit => "IdLimit"
  | .outOfIdentifiers => "OutOfIdentifiers"
  | .keyUpdate => "KeyUpdate"
  | .cryptoBufferExceeded => "CryptoBufferExceeded"
  | .invalidAckRange => "InvalidAckRange"
  | .optimisticAckDetected => "OptimisticAckDetected"
  | .invalidDcidInitialization => "InvalidDcidInitialization"

inductive H3Error
  | done | bufferTooShort | internalError | excessiveLoad | idError | streamCreationError
  | closedCriticalStream | missingSettings | frameUnexpected | frameError
  | qpackDecompressionFailed | transportError (e : QuicheError) | streamBlocked | settingsError
  | requestRejected | requestCancelled | requestIncomplete | messageError | connectError
  | versionFallback
  deriving DecidableEq, Repr

def H3Error.display : H3Error → String
  | .done => "Done"
  | .bufferTooShort => "BufferTooShort"
  | .internalError => "InternalError"
  | .excessiveLoad => "ExcessiveLoad"
  | .idError => "IdError"
  | .streamCreationError => "StreamCreationError"
  | .closedCriticalStream => "ClosedCriticalStream"
  | .missingSettings => "MissingSettings"
  | .frameUnexpected => "FrameUnexpected"
  | .frameError => "FrameError"
  | .qpackDecompressionFailed => "QpackDecompressionFailed"
  | .transportError e => s!"TransportError({e.display})"
  | .streamBlocked => "StreamBlocked"
  | .settingsError => "SettingsError"
  | .requestRejected => "RequestRejected"
  | .requestCancelled => "RequestCancelled"
  | .requestIncomplete => "RequestIncomplete"
  | .messageError => "MessageError"
  | .connectError => "ConnectError"
  | .versionFallback => "VersionFallback"

/-- The variants of the crate's own error that a connection can return. -/
inductive Http3NativeError
  | quiche (e : QuicheError)
  | h3 (e : H3Error)
  | invalidState (message : String)
  | config (message : String)
  deriving DecidableEq, Repr

def Http3NativeError.display : Http3NativeError → String
  | .quiche e => s!"QUIC error: {e.display}"
  | .h3 e => s!"HTTP/3 error: {e.display}"
  | .invalidState message => s!"invalid state: {message}"
  | .config message => s!"config error: {message}"

/-- What `h3::Connection::poll` reports for a stream. -/
inductive H3Poll
  | headers (list : Headers) (moreFrames : Bool)
  | data
  | finished
  | reset (errorCode : ℕ)
  | priorityUpdate
  | goAway
  deriving DecidableEq, Repr

inductive Shutdown
  | read
  | write
  deriving DecidableEq, Repr

structure SocketAddr where
  ip : String
  port : ℕ
  deriving DecidableEq, Repr

/-- Address of a peer, as the socket layer has it. -/
inductive Peer
  | v4 (octets : Vector UInt8 4) (port : UInt16)
  | v6 (octets : Vector UInt8 16) (port : UInt16) (flowinfo scopeId : UInt32)
  deriving DecidableEq

inductive PacketType
  | initial
  | other
  deriving DecidableEq, Repr

structure PacketHeader where
  ty : PacketType
  dcid : Bytes
  scid : Bytes
  token : Option Bytes
  deriving DecidableEq, Repr

/-- One received datagram. The header is what `Header::from_slice` makes of it. -/
structure Packet where
  header : Option PacketHeader
  payload : Bytes
  peer : SocketAddr
  recvLocal : SocketAddr
  deriving DecidableEq, Repr

structure Stats where
  sent : ℕ
  ackedBytes : ℕ
  deriving DecidableEq, Repr

structure ConnectionError where
  errorCode : ℕ
  reason : String
  deriving DecidableEq, Repr

/-- A QUIC connection together with its HTTP/3 layer. Loops that run until
quiche has nothing more to report are cut off after `rounds` turns; nothing is
assumed about that number. `hmac` is HMAC-SHA256 under the server's token key, `endpoint`
the address behind its text and `unixSecs` the wall clock at a time of the worker. -/
class Quiche (Q : Type) where
  rounds : Q → ℕ
  hmac : Bytes → Vector UInt8 32
  endpoint : SocketAddr → Peer
  unixSecs : ℕ → UInt64
  accept : Bytes → Option Bytes → SocketAddr → SocketAddr → Except QuicheError Q
  connect : String → Bytes → SocketAddr → SocketAddr → Except QuicheError Q
  setSession : Q → Bytes → Q
  recv : Q → Packet → Except QuicheError ℕ × Q
  send : Q → Except QuicheError Bytes × Q
  timeout : Q → Option ℕ
  onTimeout : Q → Q
  close : Q → Bool → ℕ → String → Q
  isServer : Q → Bool
  session : Q → Option Bytes
  isEstablished : Q → Bool
  isInEarlyData : Q → Bool
  isClosed : Q → Bool
  isDraining : Q → Bool
  isTimedOut : Q → Bool
  peerError : Q → Option ConnectionError
  localError : Q → Option ConnectionError
  peerCert : Q → Option Bytes
  peerCertChain : Q → Option (List Bytes)
  stats : Q → Stats
  sendAckEliciting : Q → Except QuicheError Unit × Q
  sourceId : Q → Bytes
  retiredScidNext : Q → Option Bytes × Q
  scidsLeft : Q → ℕ
  newScid : Q → Bytes → Except QuicheError Unit × Q
  readable : Q → List ℕ
  streamReadable : Q → ℕ → Bool
  streamFinished : Q → ℕ → Bool
  streamClosed : Q → ℕ → Bool
  streamCapacity : Q → ℕ → Except QuicheError ℕ
  streamWritableNext : Q → Option ℕ × Q
  streamShutdown : Q → ℕ → Shutdown → ℕ → Q
  streamRecv : Q → ℕ → ℕ → Except QuicheError (Bytes × Bool) × Q
  streamSend : Q → ℕ → Bytes → Bool → Except QuicheError ℕ × Q
  dgramRecv : Q → Except QuicheError Bytes × Q
  isDgramSendQueueFull : Q → Bool
  dgramSend : Q → Bytes → Except QuicheError Unit × Q
  h3WithTransport : Q → Except H3Error Unit × Q
  h3Poll : Q → Except H3Error (ℕ × H3Poll) × Q
  h3RecvBody : Q → ℕ → ℕ → Except H3Error Bytes × Q
  h3SendRequest : Q → Headers → Bool → Except H3Error ℕ × Q
  h3SendResponse : Q → ℕ → Headers → Bool → Except H3Error Unit × Q
  h3SendBody : Q → ℕ → Bytes → Bool → Except H3Error ℕ × Q
  h3SendAdditionalHeaders : Q → ℕ → Headers → Bool → Bool → Except H3Error Unit × Q
  h3SendGoaway : Q → ℕ → Except H3Error Unit × Q

namespace Quiche

variable {Q : Type} [Quiche Q]

/-- One call that neither is nor makes a `recv`, `on_timeout` or `close`: `with_transport` is left
out because it closes a connection whose control stream it cannot open. -/
inductive Call : Q → Q → Prop
  | setSession (q : Q) (ticket : Bytes) : Call q (setSession q ticket)
  | send (q : Q) : Call q (send q).2
  | sendAckEliciting (q : Q) : Call q (sendAckEliciting q).2
  | retiredScidNext (q : Q) : Call q (retiredScidNext q).2
  | streamWritableNext (q : Q) : Call q (streamWritableNext q).2
  | streamShutdown (q : Q) (streamId : ℕ) (direction : Shutdown) (errorCode : ℕ) :
      Call q (streamShutdown q streamId direction errorCode)
  | streamRecv (q : Q) (streamId len : ℕ) : Call q (streamRecv q streamId len).2
  | streamSend (q : Q) (streamId : ℕ) (data : Bytes) (fin : Bool) :
      Call q (streamSend q streamId data fin).2
  | dgramRecv (q : Q) : Call q (dgramRecv q).2
  | dgramSend (q : Q) (data : Bytes) : Call q (dgramSend q data).2
  | h3Poll (q : Q) : Call q (h3Poll q).2
  | h3RecvBody (q : Q) (streamId len : ℕ) : Call q (h3RecvBody q streamId len).2
  | h3SendRequest (q : Q) (headers : Headers) (fin : Bool) : Call q (h3SendRequest q headers fin).2
  | h3SendBody (q : Q) (streamId : ℕ) (data : Bytes) (fin : Bool) :
      Call q (h3SendBody q streamId data fin).2

def Calls : Q → Q → Prop := Relation.ReflTransGen Call

theorem Calls.refl (q : Q) : Calls q q := Relation.ReflTransGen.refl

theorem Calls.trans {a b c : Q} (hab : Calls a b) (hbc : Calls b c) : Calls a c :=
  Relation.ReflTransGen.trans hab hbc

theorem Call.calls {q q' : Q} (h : Call q q') : Calls q q' := Relation.ReflTransGen.single h

end Quiche

end Http3
