import Http3.H3ConnectionSpec
import Http3.PendingWrite

/-! What workers do with a connection: they call its methods, keep notes in it and call the
transport behind it. What these keep holds of every connection of every worker. -/

namespace Http3

variable {Q : Type} [Quiche Q]

namespace H3Connection

inductive Use (Q : Type)
  | recv (p : Packet)
  | initH3
  | addReadCredit (streamId bytes : ℕ)
  | pollH3Events (ref : ConnRef) (connHandle : UInt32) (budget : ℕ) (events : List Emitted)
  | pollDrainEvents (ref : ConnRef) (connHandle : UInt32) (events : List Emitted)
  | pollPingAcks (now : ℕ)
  | updateSessionTicket
  | sendRequest (headers : Headers) (fin : Bool)
  | sendResponse (streamId : ℕ) (headers : Headers) (fin : Bool)
  | sendBodyArcbuf (streamId : ℕ) (buf : Bytes) (fin : Bool)
  | sendTrailers (streamId : ℕ) (headers : Headers)
  | streamClose (streamId errorCode : ℕ)
  | sendGoaway
  | sendDatagramChunk (data : Bytes)
  | queuePing (now : ℕ)
  | onTimeout
  | close (app : Bool) (errorCode : ℕ) (reason : String)
  | send
  | note (streamReadWindow : Option ℕ) (connId : Bytes) (handshakeCompleteEmitted : Bool)
  | transport (q : Q)

def Use.apply : Use Q → H3Connection Q → H3Connection Q
  | .recv p, c => (c.recv p).2
  | .initH3, c => c.initH3
  | .addReadCredit streamId bytes, c => c.addReadCredit streamId bytes
  | .pollH3Events ref connHandle budget events, c =>
    (c.pollH3Events ref connHandle budget events).1
  | .pollDrainEvents ref connHandle events, c => (c.pollDrainEvents ref connHandle events).1
  | .pollPingAcks now, c => (c.pollPingAcks now).2
  | .updateSessionTicket, c => c.updateSessionTicket.2
  | .sendRequest headers fin, c => (c.sendRequest headers fin).2
  | .sendResponse streamId headers fin, c => (c.sendResponse streamId headers fin).2
  | .sendBodyArcbuf streamId buf fin, c => (c.sendBodyArcbuf streamId buf fin).2
  | .sendTrailers streamId headers, c => (c.sendTrailers streamId headers).2
  | .streamClose streamId errorCode, c => c.streamClose streamId errorCode
  | .sendGoaway, c => c.sendGoaway.2
  | .sendDatagramChunk data, c => (c.sendDatagramChunk data).2
  | .queuePing now, c => (c.queuePing now).2
  | .onTimeout, c => c.onTimeout
  | .close app errorCode reason, c => c.close app errorCode reason
  | .send, c => c.send.2
  | .note streamReadWindow connId handshakeCompleteEmitted, c =>
    { c with streamReadWindow, connId, handshakeCompleteEmitted }
  | .transport q, c => { c with quicheConn := q }

theorem uid_apply (use : Use Q) (c : H3Connection Q) : (use.apply c).uid = c.uid := by
  cases use with
  | pollH3Events ref connHandle budget events => exact (c.pollH3Events_spec budget events).conn.uid
  | pollDrainEvents ref connHandle events => exact (c.pollDrainEvents_spec events).conn.uid
  | _ =>
    dsimp only [Use.apply, recv, initH3, addReadCredit, updateSessionTicket, sendRequest,
      sendResponse, sendBodyArcbuf, sendTrailers, sendGoaway, sendDatagramChunk, queuePing, send]
    repeat' split
    all_goals rfl

/-- What becomes of a connection in any number of uses. -/
def Uses : H3Connection Q → H3Connection Q → Prop :=
  Relation.ReflTransGen fun c d => ∃ use : Use Q, d = use.apply c

namespace Uses

variable {c d : H3Connection Q}

theorem use (h : Uses c d) (use : Use Q) : Uses c (use.apply d) := h.tail ⟨use, rfl⟩

theorem uid (h : Uses c d) : d.uid = c.uid := by
  induction h with
  | refl => rfl
  | tail _ hone ih =>
    obtain ⟨use, rfl⟩ := hone
    exact (uid_apply use _).trans ih

theorem flush (h : Uses c d) (streamId : ℕ) (write : PendingWrite) :
    Uses c (flushPendingWriteWithProgress (sendBodyArcbuf streamId) write d).conn :=
  h.trans (flushLoop_conn (R := Uses) (fun _ => .refl) (fun hab hbc => hab.trans hbc)
    fun buf fin _ => use .refl (.sendBodyArcbuf streamId buf fin))

end Uses

end H3Connection

/-- A property of new connections that every use keeps. -/
structure ConnInvariant (P : H3Connection Q → Prop) : Prop where
  new : ∀ uid q connId, P (.new uid q connId)
  apply : ∀ (use : H3Connection.Use Q) c, P c → P (use.apply c)

theorem ConnInvariant.uses {P : H3Connection Q → Prop} (hP : ConnInvariant P)
    {c d : H3Connection Q} (h : c.Uses d) (hc : P c) : P d := by
  induction h with
  | refl => exact hc
  | tail _ hone ih =>
    obtain ⟨use, rfl⟩ := hone
    exact hP.apply use _ ih

end Http3
