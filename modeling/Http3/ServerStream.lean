import Http3.H3Server.Worker

/-! The response side of a request stream in JavaScript: a Node writable on top
of the native worker's admission window and command channel. -/

namespace Http3

/-- A header field as applications give it: one value, or one line per value. -/
inductive HeaderValue
  | one (value : String)
  | many (values : List String)
  deriving DecidableEq, Repr

abbrev IncomingHeaders := List (String × HeaderValue)

def incomingHeadersToNativeHeaders (headers : IncomingHeaders) : Headers :=
  headers.flatMap fun
    | (name, .one value) => [(name, value)]
    | (name, .many values) => values.map fun value => (name, value)

/-- Header pairs of a response; a missing status is 200. -/
def responseHeaders (headers : IncomingHeaders) : Headers :=
  let h := incomingHeadersToNativeHeaders headers
  if h.any fun entry => entry.1 = ":status" then h else (":status", "200") :: h

abbrev JsError := String

/-- What a stream object names its stream by. `meant` is not part of the
program: the connection the object was made for. -/
structure StreamRef where
  meant : ℕ
  connHandle : UInt32
  streamId : ℕ
  deriving DecidableEq, Repr

/-- What a stream asks of the loop below it. A call that hands over headers or a
body may throw; a close hands over nothing and returns. -/
class ServerEventLoopLike (L : Type) where
  /-- Admission slice of a loop that bounds single sends; absent for native loops. -/
  maxStreamSendBytes : L → Option ℕ
  sendResponseHeaders : StreamRef → Headers → Bool → L → Except JsError Unit × L
  sendResponse : StreamRef → Headers → Bytes → Bool → L → Except JsError Unit × L
  /-- Answers how much was admitted. -/
  streamSend : StreamRef → Bytes → Bool → L → Except JsError ℕ × L
  streamClose : StreamRef → ℕ → L → L
  sendTrailers : StreamRef → Headers → L → Except JsError Unit × L

/-- The worker loop: the worker that owns the connection, absent before the
server listens and after the worker is joined, and whether the worker still
receives commands. -/
structure WorkerEventLoop (Q : Type) where
  worker : Option (H3Worker Q)
  channelOpen : Bool

namespace WorkerEventLoop

variable {Q : Type}

/-- A native call, with the worker bits stripped from the handle. -/
def call (meant : ℕ) (cmd : WorkerCommand) (loop : WorkerEventLoop Q) :
    Bool × WorkerEventLoop Q :=
  match loop.worker with
  | none => (false, loop)
  | some worker =>
    let (accepted, worker) := worker.napi loop.channelOpen meant (remapCommandHandle cmd) none
    (accepted, { loop with worker := some worker })

/-- Only `streamSend` looks at what the native call answers. -/
instance : ServerEventLoopLike (WorkerEventLoop Q) where
  maxStreamSendBytes _ := none
  sendResponseHeaders ref headers fin loop :=
    (.ok (), (loop.call ref.meant
      (.sendResponseHeaders ref.connHandle ref.streamId headers fin)).2)
  sendResponse ref headers data fin loop :=
    (.ok (), (loop.call ref.meant
      (.sendResponse ref.connHandle ref.streamId headers data fin)).2)
  streamSend ref data fin loop :=
    let (accepted, loop) := loop.call ref.meant (.streamSend ref.connHandle ref.streamId data fin)
    (.ok (if accepted then outboundPayloadUnits data.length fin else 0), loop)
  streamClose ref errorCode loop :=
    (loop.call ref.meant (.streamClose ref.connHandle ref.streamId errorCode)).2
  sendTrailers ref headers loop :=
    (.ok (), (loop.call ref.meant (.sendTrailers ref.connHandle ref.streamId headers)).2)

end WorkerEventLoop

/-- Whose callback a send completes: a chunk of the writable, its end, or a
slice of a bounded write that reaches `offset`. -/
inductive WriteCallback
  | write
  | final
  | slice (offset : ℕ)
  deriving DecidableEq, Repr

/-- What is tried again when the stream is woken: a send, or trailers that wait
behind the body. -/
inductive Retry
  | send (data : Bytes) (fin : Bool) (callback : WriteCallback)
  | trailers
  deriving DecidableEq, Repr

def Retry.callback : Retry → WriteCallback
  | .send _ _ callback => callback
  | .trailers => .final

/-- A call the writable makes of the stream, `_write` or (`fin`) `_final`; how it
is called back; the end of the stream. -/
inductive CallRecord
  | called (fin : Bool)
  | calledBack (fin : Bool) (error : Option JsError)
  | destroyed
  deriving DecidableEq, Repr

/-- One large write, kept in JavaScript while slices of it are sent.
`scheduled` is set while the next slice waits for the next turn. -/
structure BoundedStreamWrite where
  body : Bytes
  limit : ℕ
  fin : Bool
  offset : ℕ
  scheduled : Bool
  deriving DecidableEq, Repr

/-- Callbacks that may complete in one turn of the JavaScript event loop. -/
structure NativeWriteWindow where
  highWaterMark : ℕ
  admittedBytes : ℕ
  releaseScheduled : Bool
  delayedCallbacks : List WriteCallback
  deriving DecidableEq, Repr

/-- The stream object with the state of its writable, and the loop it is
connected to. `calls` is not part of the program: what the writable asked of the
stream so far. -/
structure ServerHttp3Stream (L : Type) where
  ref : StreamRef
  connected : Bool
  eventLoop : L
  headersSent : Bool
  finSent : Bool
  blocked : Bool
  closeSent : Bool
  finalChunk : Option Bytes
  drainCallbacks : List Retry
  boundedWrite : Option BoundedStreamWrite
  window : NativeWriteWindow
  queuedWasmTrailers : Option Headers
  /-- The end of the writable waits for the trailers; the second flag is set
  while sending them waits for the next turn. -/
  trailerCallback : Bool
  trailerContinuation : Bool
  /-- Chunks the writable holds behind the one being written. -/
  buffered : List Bytes
  writing : Bool
  ending : Bool
  finalCalled : Bool
  writableFinished : Bool
  readableEnded : Bool
  destroyed : Bool
  calls : List CallRecord

namespace ServerHttp3Stream

variable {L : Type}

def new (ref : StreamRef) (eventLoop : L) (highWaterMark : ℕ) : ServerHttp3Stream L where
  ref
  connected := true
  eventLoop
  headersSent := false
  finSent := false
  blocked := false
  closeSent := false
  finalChunk := none
  drainCallbacks := []
  boundedWrite := none
  window := ⟨highWaterMark, 0, false, []⟩
  queuedWasmTrailers := none
  trailerCallback := false
  trailerContinuation := false
  buffered := []
  writing := false
  ending := false
  finalCalled := false
  writableFinished := false
  readableEnded := false
  destroyed := false
  calls := []

variable [ServerEventLoopLike L]

/-- The slice limit when it applies to a payload of this length. -/
def sliceLimit (s : ServerHttp3Stream L) (length : ℕ) : Option ℕ :=
  if s.connected then
    (ServerEventLoopLike.maxStreamSendBytes s.eventLoop).filter fun limit =>
      limit ≠ 0 ∧ limit < length
  else none

/-- Make a call on the loop, if there is one; `answer` stands in otherwise. -/
def onLoop {α : Type} (f : L → Except JsError α × L) (answer : α) (s : ServerHttp3Stream L) :
    Except JsError α × ServerHttp3Stream L :=
  if s.connected then
    let (result, eventLoop) := f s.eventLoop
    (result, { s with eventLoop })
  else (.ok answer, s)

/-- Close the stream below once, with the first code given. -/
def closeTransport (code : ℕ) (s : ServerHttp3Stream L) : ServerHttp3Stream L :=
  if s.closeSent then s
  else if s.connected then
    { s with
      closeSent := true
      eventLoop := ServerEventLoopLike.streamClose s.ref code s.eventLoop }
  else { s with closeSent := true }

def record (entry : CallRecord) (s : ServerHttp3Stream L) : ServerHttp3Stream L :=
  { s with calls := s.calls ++ [entry] }

/-- Call back with an error. A slice fails its whole write, unless that was
cancelled before. -/
def rejectCallback (error : JsError) (callback : WriteCallback) (s : ServerHttp3Stream L) :
    ServerHttp3Stream L :=
  match callback with
  | .write => s.record (.calledBack false (some error))
  | .final => s.record (.calledBack true (some error))
  | .slice _ =>
    match s.boundedWrite with
    | none => s
    | some bounded =>
      { s with boundedWrite := none }.record (.calledBack bounded.fin (some error))

/-- Forget trailers that wait, and fail the end of the writable if it waits for them. -/
def rejectWasmTrailers (error : JsError) (s : ServerHttp3Stream L) : ServerHttp3Stream L :=
  let waiting := s.trailerCallback
  let s := { s with
    queuedWasmTrailers := none
    trailerCallback := false
    trailerContinuation := false }
  if waiting then s.record (.calledBack true (some error)) else s

def rejectDrainCallbacks (error : JsError) (s : ServerHttp3Stream L) : ServerHttp3Stream L :=
  s.drainCallbacks.foldl
    (fun s retry => match retry with
      | .send _ _ callback => s.rejectCallback error callback
      | .trailers => s.rejectWasmTrailers error)
    { s with drainCallbacks := [] }

def rejectNativeWriteWindow (error : JsError) (s : ServerHttp3Stream L) : ServerHttp3Stream L :=
  s.window.delayedCallbacks.foldl (fun s callback => s.rejectCallback error callback)
    { s with window := { s.window with admittedBytes := 0, delayedCallbacks := [] } }

/-- Destroy the stream; every callback still due gets the error. -/
def destroyWith (error : JsError) (s : ServerHttp3Stream L) : ServerHttp3Stream L :=
  if s.destroyed then s
  else
    let s := { s with destroyed := true }.record .destroyed
    let s := s.boundedWrite.elim s fun bounded => s.rejectCallback error (.slice bounded.offset)
    let s := { s with finalChunk := none }.rejectWasmTrailers error
    let s := if !s.readableEnded || !s.writableFinished then s.closeTransport 0x010c else s
    let s := (s.rejectDrainCallbacks error).rejectNativeWriteWindow error
    { s with buffered := [] }

def destroy (s : ServerHttp3Stream L) : ServerHttp3Stream L := s.destroyWith "stream destroyed"

/-- What came of a send: its callback ran, is still due, or got an error. -/
inductive Fired
  | now
  | later
  | failed (error : JsError)
  deriving DecidableEq, Repr

/-- Complete an admitted send, at once while the window of this turn lasts. -/
def completeNativeWrite (admittedBytes : ℕ) (callback : WriteCallback)
    (s : ServerHttp3Stream L) : Fired × ServerHttp3Stream L :=
  let window := { s.window with
    admittedBytes := s.window.admittedBytes + max 1 admittedBytes
    releaseScheduled := true }
  if window.admittedBytes ≤ window.highWaterMark then (.now, { s with window })
  else
    (.later, { s with window := { window with
      delayedCallbacks := window.delayedCallbacks ++ [callback] } })

def pushRetry (retry : Retry) (s : ServerHttp3Stream L) : ServerHttp3Stream L :=
  { s with drainCallbacks := s.drainCallbacks ++ [retry] }

def writeBounded (chunk : Bytes) (limit : ℕ) (fin : Bool) (s : ServerHttp3Stream L) :
    ServerHttp3Stream L :=
  { s with boundedWrite := some ⟨chunk, limit, fin, 0, true⟩ }

/-- Send a chunk, or keep what is not admitted for a retry. -/
def writeChunk (chunk : Bytes) (callback : WriteCallback) (s : ServerHttp3Stream L) :
    Fired × ServerHttp3Stream L :=
  match s.sliceLimit chunk.length with
  | some limit => (.later, s.writeBounded chunk limit false)
  | none =>
    if s.blocked then (.later, s.pushRetry (.send chunk false callback))
    else
      match s.onLoop (ServerEventLoopLike.streamSend s.ref chunk false) 0 with
      | (.error e, s) => (.failed e, s)
      | (.ok written, s) =>
        if chunk.length ≤ written then s.completeNativeWrite written callback
        else (.later, s.pushRetry (.send (chunk.drop written) false callback))

/-- Send the last chunk with the FIN. An empty one counts as sent only when the
FIN itself was admitted. -/
def writeFinalChunk (chunk : Bytes) (callback : WriteCallback) (s : ServerHttp3Stream L) :
    Fired × ServerHttp3Stream L :=
  match s.sliceLimit chunk.length with
  | some limit => (.later, s.writeBounded chunk limit true)
  | none =>
    match if s.blocked then (.ok 0, s)
      else s.onLoop (ServerEventLoopLike.streamSend s.ref chunk true) 0 with
    | (.error e, s) => (.failed e, s)
    | (.ok written, s) =>
      if chunk.length = 0 then
        if 0 < written then s.completeNativeWrite written callback
        else (.later, s.pushRetry (.send chunk true callback))
      else if chunk.length ≤ written then s.completeNativeWrite written callback
      else (.later, s.pushRetry (.send (chunk.drop written) true callback))

/-- Send trailers that waited for the body, unless the stream is blocked again. -/
def flushWasmTrailers (s : ServerHttp3Stream L) : Fired × ServerHttp3Stream L :=
  match s.queuedWasmTrailers with
  | none => (.later, s)
  | some headers =>
    if !s.trailerCallback then (.later, s)
    else if s.blocked then (.later, s.pushRetry .trailers)
    else
      match s.onLoop (ServerEventLoopLike.sendTrailers s.ref headers) () with
      | (.error e, s) =>
        (.failed e, { s with queuedWasmTrailers := none, trailerCallback := false })
      | (.ok _, s) => (.now, { s with queuedWasmTrailers := none, trailerCallback := false })

def attempt : Retry → ServerHttp3Stream L → Fired × ServerHttp3Stream L
  | .send data true callback => writeFinalChunk data callback
  | .send data false callback => writeChunk data callback
  | .trailers => flushWasmTrailers

/-- End the stream below, unless trailers or a whole response did. -/
def final (s : ServerHttp3Stream L) : Fired × ServerHttp3Stream L :=
  if s.queuedWasmTrailers.isSome then
    (.later, { s with finSent := true, trailerCallback := true, trailerContinuation := true })
  else if s.finSent || !s.connected then (.now, s)
  else
    { s with finSent := true, finalChunk := none }.writeFinalChunk (s.finalChunk.getD []) .final

/-- Run `_final` once everything written is through. -/
def finishMaybe (s : ServerHttp3Stream L) : ServerHttp3Stream L :=
  if s.ending && !s.finalCalled && !s.destroyed && !s.writing && s.buffered.isEmpty then
    match ({ s with finalCalled := true }.record (.called true)).final with
    | (.now, s) => { s with writableFinished := true }.record (.calledBack true none)
    | (.later, s) => s
    | (.failed e, s) => (s.record (.calledBack true (some e))).destroyWith e
  else s

/-- Write the chunks the writable holds, one after the other, until one has to wait. -/
def pump : List Bytes → ServerHttp3Stream L → ServerHttp3Stream L
  | [], s => { s with buffered := [], writing := false }.finishMaybe
  | chunk :: rest, s =>
    let s := { s with buffered := rest, writing := true }.record (.called false)
    if s.connected then
      match s.writeChunk chunk .write with
      | (.now, s) => pump rest (s.record (.calledBack false none))
      | (.later, s) => s
      | (.failed e, s) => (s.record (.calledBack false (some e))).destroyWith e
    else
      (s.record (.calledBack false (some "stream not connected"))).destroyWith
        "stream not connected"

def writableCallback (fin : Bool) (s : ServerHttp3Stream L) : ServerHttp3Stream L :=
  let s := s.record (.calledBack fin none)
  if s.destroyed then s
  else if fin then { s with writableFinished := true }
  else s.pump s.buffered

def runCallback (callback : WriteCallback) (s : ServerHttp3Stream L) : ServerHttp3Stream L :=
  match callback with
  | .write => s.writableCallback false
  | .final => s.writableCallback true
  | .slice offset =>
    match s.boundedWrite with
    | none => s
    | some bounded =>
      if offset = bounded.body.length then
        { s with boundedWrite := none }.writableCallback bounded.fin
      else { s with boundedWrite := some { bounded with offset, scheduled := true } }

def settle (callback : WriteCallback) (r : Fired × ServerHttp3Stream L) : ServerHttp3Stream L :=
  match r.1 with
  | .now => r.2.runCallback callback
  | .later => r.2
  | .failed e => (r.2.rejectCallback e callback).destroyWith e

section Calls

/-- Send response headers; later calls do nothing. The error of a throwing loop
reaches the caller. -/
def respond (headers : IncomingHeaders) (endStream : Bool) (s : ServerHttp3Stream L) :
    Except JsError Unit × ServerHttp3Stream L :=
  if s.headersSent then (.ok (), s)
  else
    let s := { s with headersSent := true }
    s.onLoop (ServerEventLoopLike.sendResponseHeaders s.ref (responseHeaders headers) endStream) ()

def write (chunk : Bytes) (s : ServerHttp3Stream L) : ServerHttp3Stream L :=
  if s.destroyed then s
  -- a write after the end destroys the stream
  else if s.ending then s.destroyWith "write after end"
  else if s.writing then { s with buffered := s.buffered ++ [chunk] }
  else s.pump [chunk]

/-- `end` of the writable; `finalChunk` goes out together with the FIN. -/
def endWith (finalChunk : Option Bytes) (s : ServerHttp3Stream L) : ServerHttp3Stream L :=
  let s := { s with finalChunk := finalChunk.or s.finalChunk }
  if s.ending then s else { s with ending := true }.finishMaybe

/-- Close the stream. A callback that waits to be woken fails, upon which the
writable destroys the stream with the same error. -/
def close (code : ℕ) (s : ServerHttp3Stream L) : ServerHttp3Stream L :=
  if s.destroyed then s
  else
    let s := s.closeTransport code
    if s.drainCallbacks.isEmpty then s.destroy
    else (s.rejectDrainCallbacks "stream closed").destroyWith "stream closed"

/-- Send headers, body and FIN in one native call. -/
def respondWithBody (headers : IncomingHeaders) (body : Bytes) (s : ServerHttp3Stream L) :
    ServerHttp3Stream L :=
  if s.headersSent then s
  else
    match s.sliceLimit body.length with
    | some _ =>
      match s.respond headers false with
      | (.ok _, s) => s.endWith (some body)
      | (.error e, s) => s.destroyWith e
    | none =>
      let s := { s with headersSent := true, finSent := true }
      match s.onLoop (ServerEventLoopLike.sendResponse s.ref (responseHeaders headers) body true)
          () with
      | (.ok _, s) => s.endWith none
      | (.error e, s) => s.destroyWith e

end Calls

section Events

/-- Try everything again that waits for the stream to be woken. -/
def fireDrainCallbacks (s : ServerHttp3Stream L) : ServerHttp3Stream L :=
  s.drainCallbacks.foldl (fun s retry => settle retry.callback (s.attempt retry))
    { s with drainCallbacks := [] }

def onNativeDrain (s : ServerHttp3Stream L) : ServerHttp3Stream L :=
  { s with blocked := false }.fireDrainCallbacks

def onNativeWriteReady (s : ServerHttp3Stream L) : ServerHttp3Stream L := s.fireDrainCallbacks

def onNativeBlocked (s : ServerHttp3Stream L) : ServerHttp3Stream L := { s with blocked := true }

/-- The next turn reopens the window and runs the callbacks held back. -/
def releaseWindow (s : ServerHttp3Stream L) : ServerHttp3Stream L :=
  if s.window.releaseScheduled then
    s.window.delayedCallbacks.foldl (fun s callback => s.runCallback callback)
      { s with window := ⟨s.window.highWaterMark, 0, false, []⟩ }
  else s

/-- The next turn sends the next slice of a bounded write. -/
def sendSlice (s : ServerHttp3Stream L) : ServerHttp3Stream L :=
  match s.boundedWrite with
  | none => s
  | some bounded =>
    if bounded.scheduled then
      let stop := min (bounded.offset + bounded.limit) bounded.body.length
      let slice : Retry := .send ((bounded.body.take stop).drop bounded.offset)
        (bounded.fin && stop == bounded.body.length) (.slice stop)
      settle slice.callback
        ({ s with boundedWrite := some { bounded with scheduled := false } }.attempt slice)
    else s

end Events

end ServerHttp3Stream

end Http3
