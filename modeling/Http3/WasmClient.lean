import Http3.ClientProtocol

/-! The pump that drives a client session where there is no worker thread: every call from
JavaScript is followed by one pass over the session. -/

namespace Http3

/-- `usize::MAX` of the 32-bit target, which here means no budget. -/
def wasmUsizeMax : ℕ := 2 ^ 32 - 1

/-- What JavaScript calls on a session. -/
inductive WasmCall (Own : Type)
  | recv (p : Packet)
  | onTimeout
  | own (cmd : Own)
  | streamSend (streamId : ℕ) (data : Bytes) (fin : Bool)
  | streamClose (streamId errorCode : ℕ)
  | sendDatagram (data : Bytes)
  | ping
  | close (errorCode : ℕ) (reason : String)

/-- A session and the events dispatched to JavaScript so far. The batch of the handler holds
the events that are pending. -/
structure WasmClient (C : Type) where
  handler : ClientHandler C
  events : List Emitted

/-- One call, with the clock and the number of packets each of the two flushes writes at
most. Connecting pumps once without a call. -/
structure WasmTick (Own : Type) where
  call : Option (WasmCall Own) := none
  now : ℕ := 0
  firstSends : ℕ := 0
  lastSends : ℕ := 0

namespace WasmClient

variable {C Own : Type} [ClientProtocol C Own] (connHandle : UInt32)

/-- The call itself. Units that a send or a closed stream give back are not accounted for
here. -/
def apply (now : ℕ) : WasmCall Own → ClientHandler C → ClientHandler C
  | .recv p, h => ClientProtocol.processPacketForHandle connHandle p wasmUsizeMax now h
  | .onTimeout, h => ClientProtocol.processTimersForHandle connHandle now wasmUsizeMax h
  | .own cmd, h => ClientProtocol.own cmd h
  | .streamSend streamId data fin, h =>
    (ClientProtocol.queueStreamSend connHandle streamId data fin h).2
  | .streamClose streamId errorCode, h => (ClientProtocol.closeStream streamId errorCode h).2
  | .sendDatagram data, h => (ClientProtocol.sendDatagram data h).2
  | .ping, h => (ClientProtocol.ping now h).2
  | .close errorCode reason, h => ClientProtocol.closeSession errorCode reason h

/-- Settle what became possible and hand out the batch. -/
def drainEvents (now : ℕ) (w : WasmClient C) : WasmClient C :=
  let h := ClientProtocol.pollAppEventsForHandle connHandle wasmUsizeMax now w.handler
  let h := ClientProtocol.pollDrainEventsForHandle connHandle wasmUsizeMax h
  let h := ClientProtocol.flushPendingWritesForHandle connHandle h
  ⟨h.startBatch, w.events ++ h.batch⟩

def flushSends (rounds now : ℕ) (w : WasmClient C) : WasmClient C :=
  { w with handler := (ClientProtocol.flushSends rounds now w.handler).2 }

/-- Data that the settling released needs the second flush to go out. -/
def pump (tick : WasmTick Own) (w : WasmClient C) : WasmClient C :=
  ((w.flushSends tick.firstSends tick.now).drainEvents connHandle tick.now).flushSends
    tick.lastSends tick.now

def step (tick : WasmTick Own) (w : WasmClient C) : WasmClient C :=
  pump connHandle tick
    { w with
      handler := tick.call.elim w.handler fun call => apply connHandle tick.now call w.handler }

end WasmClient

end Http3
