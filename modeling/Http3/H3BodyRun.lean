import Http3.H3PollSteps
import Http3.LoggedQuiche
import Http3.Lib.Runs

/-! Runs of an HTTP/3 connection that is polled for events, over a logging transport. -/

namespace Http3

/-- A connection with the events handed over so far, the batch that is being filled, and the
read credit returned for its streams. -/
structure H3BodyRun (server : Bool) (Q : Type) where
  conn : H3Connection (Logged server Q)
  handed : List Emitted
  batch : List Emitted
  returned : List (ℕ × ℕ)

namespace H3BodyRun

variable {server : Bool} {Q : Type}

/-- Calls on the connection; in between the network may bring its transport into any state,
and a batch is handed over. -/
inductive Step (Q : Type)
  | network (inner : Q)
  | poll (budget : ℕ)
  | addReadCredit (streamId bytes : ℕ)
  | handOver

def init (uid : ℕ) (q : Q) (connId : Bytes) (streamReadWindow : Option ℕ) : H3BodyRun server Q where
  conn := { H3Connection.new uid (.new q) connId with h3Conn := true, streamReadWindow }
  handed := []
  batch := []
  returned := []

def events (r : H3BodyRun server Q) : List Emitted := r.handed ++ r.batch

def answers (r : H3BodyRun server Q) : List Answer := r.conn.quicheConn.answers

variable [Quiche Q] (ref : ConnRef) (connHandle : UInt32)

def step : Step Q → H3BodyRun server Q → H3BodyRun server Q
  | .network inner, r =>
    { r with conn := { r.conn with quicheConn := r.conn.quicheConn.withInner inner } }
  | .poll budget, r =>
    let (conn, batch) := r.conn.pollH3Events ref connHandle budget r.batch
    { r with conn, batch }
  | .addReadCredit streamId bytes, r =>
    { r with
      conn := r.conn.addReadCredit streamId bytes
      returned := r.returned ++ [(streamId, bytes)] }
  | .handOver, r => { r with handed := r.handed ++ r.batch, batch := [] }

end H3BodyRun

end Http3
