import Http3.Scripted

/-! A transport that writes down what it answered to reads, over any other one. Statements
about what a connection received are about such a transport. And one that gives prepared
answers, for concrete runs. -/

namespace Http3

/-- A transport inside a larger state: calls go to the transport, the rest stays. -/
@[reducible] def Quiche.within {P Q : Type} [Quiche Q] (get : P → Q) (set : P → Q → P)
    (make : Q → P) : Quiche P where
  rounds p := Quiche.rounds (get p)
  hmac := Quiche.hmac (Q := Q)
  endpoint := Quiche.endpoint (Q := Q)
  unixSecs := Quiche.unixSecs (Q := Q)
  accept scid odcid localAddr peer := (Quiche.accept scid odcid localAddr peer).map make
  connect name scid localAddr peer := (Quiche.connect name scid localAddr peer).map make
  setSession p ticket := set p (Quiche.setSession (get p) ticket)
  recv p packet := (Quiche.recv (get p) packet).map id (set p)
  send p := (Quiche.send (get p)).map id (set p)
  timeout p := Quiche.timeout (get p)
  onTimeout p := set p (Quiche.onTimeout (get p))
  close p app errorCode reason := set p (Quiche.close (get p) app errorCode reason)
  isServer p := Quiche.isServer (get p)
  session p := Quiche.session (get p)
  isEstablished p := Quiche.isEstablished (get p)
  isInEarlyData p := Quiche.isInEarlyData (get p)
  isClosed p := Quiche.isClosed (get p)
  isDraining p := Quiche.isDraining (get p)
  isTimedOut p := Quiche.isTimedOut (get p)
  peerError p := Quiche.peerError (get p)
  localError p := Quiche.localError (get p)
  peerCert p := Quiche.peerCert (get p)
  peerCertChain p := Quiche.peerCertChain (get p)
  stats p := Quiche.stats (get p)
  sendAckEliciting p := (Quiche.sendAckEliciting (get p)).map id (set p)
  sourceId p := Quiche.sourceId (get p)
  retiredScidNext p := (Quiche.retiredScidNext (get p)).map id (set p)
  scidsLeft p := Quiche.scidsLeft (get p)
  newScid p scid := (Quiche.newScid (get p) scid).map id (set p)
  readable p := Quiche.readable (get p)
  streamReadable p streamId := Quiche.streamReadable (get p) streamId
  streamFinished p streamId := Quiche.streamFinished (get p) streamId
  streamClosed p streamId := Quiche.streamClosed (get p) streamId
  streamCapacity p streamId := Quiche.streamCapacity (get p) streamId
  streamWritableNext p := (Quiche.streamWritableNext (get p)).map id (set p)
  streamShutdown p streamId side errorCode :=
    set p (Quiche.streamShutdown (get p) streamId side errorCode)
  streamRecv p streamId len := (Quiche.streamRecv (get p) streamId len).map id (set p)
  streamSend p streamId data fin := (Quiche.streamSend (get p) streamId data fin).map id (set p)
  dgramRecv p := (Quiche.dgramRecv (get p)).map id (set p)
  isDgramSendQueueFull p := Quiche.isDgramSendQueueFull (get p)
  dgramSend p data := (Quiche.dgramSend (get p) data).map id (set p)
  h3WithTransport p := (Quiche.h3WithTransport (get p)).map id (set p)
  h3Poll p := (Quiche.h3Poll (get p)).map id (set p)
  h3RecvBody p streamId len := (Quiche.h3RecvBody (get p) streamId len).map id (set p)
  h3SendRequest p headers fin := (Quiche.h3SendRequest (get p) headers fin).map id (set p)
  h3SendResponse p streamId headers fin :=
    (Quiche.h3SendResponse (get p) streamId headers fin).map id (set p)
  h3SendBody p streamId data fin := (Quiche.h3SendBody (get p) streamId data fin).map id (set p)
  h3SendAdditionalHeaders p streamId headers isTrailer fin :=
    (Quiche.h3SendAdditionalHeaders (get p) streamId headers isTrailer fin).map id (set p)
  h3SendGoaway p streamId := (Quiche.h3SendGoaway (get p) streamId).map id (set p)

/-- An answer of the transport to a read. -/
inductive Answer
  | streamRecv (streamId : ℕ) (result : Except QuicheError (Bytes × Bool))
  | h3Poll (streamId : ℕ) (event : H3Poll)
  | h3RecvBody (streamId : ℕ) (result : Except H3Error Bytes)

/-- A transport with its answers so far. Which end of the connection it is never changes. -/
structure Logged (server : Bool) (Q : Type) where
  inner : Q
  answers : List Answer

namespace Logged

variable {server : Bool} {Q : Type}

def withInner (p : Logged server Q) (inner : Q) : Logged server Q := { p with inner }

def note (p : Logged server Q) (answer : Answer) : Logged server Q :=
  { p with answers := p.answers ++ [answer] }

def new (inner : Q) : Logged server Q := ⟨inner, []⟩

variable [Quiche Q]

def streamRecv (p : Logged server Q) (streamId len : ℕ) :
    Except QuicheError (Bytes × Bool) × Logged server Q :=
  let (result, inner) := Quiche.streamRecv p.inner streamId len
  (result, (p.withInner inner).note (.streamRecv streamId result))

def h3Poll (p : Logged server Q) : Except H3Error (ℕ × H3Poll) × Logged server Q :=
  match Quiche.h3Poll p.inner with
  | (.ok (streamId, event), inner) =>
    (.ok (streamId, event), (p.withInner inner).note (.h3Poll streamId event))
  | (.error e, inner) => (.error e, p.withInner inner)

/-- A read writes no more bytes than the buffer has room for. -/
def h3RecvBody (p : Logged server Q) (streamId len : ℕ) :
    Except H3Error Bytes × Logged server Q :=
  let (result, inner) := Quiche.h3RecvBody p.inner streamId len
  let result := result.map (·.take len)
  (result, (p.withInner inner).note (.h3RecvBody streamId result))

instance : Quiche (Logged server Q) :=
  { Quiche.within inner withInner new with
    isServer := fun _ => server
    streamRecv := streamRecv
    h3Poll := h3Poll
    h3RecvBody := h3RecvBody }

variable {p p' : Logged server Q}

theorem streamRecv_answers {streamId len : ℕ} {result : Except QuicheError (Bytes × Bool)}
    (h : Quiche.streamRecv p streamId len = (result, p')) :
    p'.answers = p.answers ++ [.streamRecv streamId result] := by
  cases h
  rfl

theorem dgramRecv_answers {result : Except QuicheError Bytes}
    (h : Quiche.dgramRecv p = (result, p')) : p'.answers = p.answers := by
  obtain rfl : _ = p' := congrArg Prod.snd h
  rfl

theorem streamWritableNext_answers {result : Option ℕ}
    (h : Quiche.streamWritableNext p = (result, p')) : p'.answers = p.answers := by
  obtain rfl : _ = p' := congrArg Prod.snd h
  rfl

theorem h3RecvBody_answers {streamId len : ℕ} {result : Except H3Error Bytes}
    (h : Quiche.h3RecvBody p streamId len = (result, p')) :
    p'.answers = p.answers ++ [.h3RecvBody streamId result] := by
  cases h
  rfl

theorem h3Poll_answers_ok {streamId : ℕ} {event : H3Poll}
    (h : Quiche.h3Poll p = (.ok (streamId, event), p')) :
    p'.answers = p.answers ++ [.h3Poll streamId event] := by
  have heq : Quiche.h3Poll p = h3Poll p := rfl
  rw [heq] at h
  unfold h3Poll at h
  split at h
  · cases h
    rfl
  · cases h

theorem h3Poll_answers_error {e : H3Error} (h : Quiche.h3Poll p = (.error e, p')) :
    p'.answers = p.answers := by
  have heq : Quiche.h3Poll p = h3Poll p := rfl
  rw [heq] at h
  unfold h3Poll at h
  split at h
  · cases h
  · cases h
    rfl

theorem streamSend_answers {streamId : ℕ} {data : Bytes} {fin : Bool}
    {result : Except QuicheError ℕ} (h : Quiche.streamSend p streamId data fin = (result, p')) :
    p'.answers = p.answers := by
  obtain rfl : _ = p' := congrArg Prod.snd h
  rfl

end Logged

/-- The scripted transport with prepared answers to reads. -/
structure Recited where
  script : Scripted
  readable : List ℕ
  reads : List (Except QuicheError (Bytes × Bool))
  bodies : List (Except H3Error Bytes)

namespace Recited

def streamRecv (p : Recited) : Except QuicheError (Bytes × Bool) × Recited :=
  match p.reads with
  | [] => (.error .done, p)
  | answer :: reads => (answer, { p with reads })

def h3RecvBody (p : Recited) : Except H3Error Bytes × Recited :=
  match p.bodies with
  | [] => (.error .done, p)
  | answer :: bodies => (answer, { p with bodies })

instance : Quiche Recited :=
  { Quiche.within script (fun p script => { p with script }) (fun script => ⟨script, [], [], []⟩)
    with
    readable := readable
    streamRecv := fun p _ _ => streamRecv p
    h3RecvBody := fun p _ _ => h3RecvBody p }

def streams (readable : List ℕ) (reads : List (Except QuicheError (Bytes × Bool))) : Recited :=
  ⟨.fresh [7], readable, reads, []⟩

/-- The HTTP/3 layer has these events, and these answers to reads of a body. -/
def h3 (events : List (ℕ × H3Poll)) (bodies : List (Except H3Error Bytes)) : Recited :=
  ⟨{ Scripted.fresh [7] with h3Events := events }, [], [], bodies⟩

end Recited

end Http3
