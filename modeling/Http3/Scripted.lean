import Http3.Quiche

/-! A transport whose peer is a script: every received payload is one instruction
that changes what the connection will answer. Concrete runs use it. -/

namespace Http3

structure Scripted where
  scid : Bytes
  /-- Whether this end was asked to connect, and not to accept. -/
  client : Bool
  /-- Whether a packet has come in. -/
  received : Bool
  established : Bool
  closed : Bool
  /-- The idle timer is armed and closes the connection. -/
  expires : Bool
  cert : Option Bytes
  /-- Bytes flow control still lets through, on all streams together. -/
  capacity : ℕ
  closedStreams : List ℕ
  h3Events : List (ℕ × H3Poll)
  /-- Unread stream data, with the FIN behind it. -/
  unread : List (ℕ × Bytes × Bool)
  datagrams : List Bytes
  deriving DecidableEq, Repr

namespace Scripted

def fresh (scid : Bytes) : Scripted :=
  ⟨scid, false, false, false, false, false, none, 0, [], [], [], []⟩

def obey (q : Scripted) : Bytes → Scripted
  | [0] => { q with established := true, capacity := 1000 }
  | [1] => { q with established := true, cert := some [1], capacity := 1000 }
  | [2] => { q with closed := true }
  | [3] => { q with expires := true }
  | [4, n] => { q with capacity := n.toNat }
  | [5, id] => { q with closedStreams := id.toNat :: q.closedStreams }
  | [6, id] => { q with h3Events := q.h3Events ++ [(id.toNat, .headers [] true)] }
  | 7 :: id :: data => { q with unread := q.unread ++ [(id.toNat, data, false)] }
  -- a first flight that ends the handshake without a certificate and carries data
  | 8 :: id :: data =>
    { q with established := true, capacity := 1000, unread := q.unread ++ [(id.toNat, data, true)] }
  | 9 :: data => { q with datagrams := q.datagrams ++ [data] }
  | _ => q

def readFrom (id len : ℕ) : List (ℕ × Bytes × Bool) →
    Option (Bytes × Bool) × List (ℕ × Bytes × Bool)
  | [] => (none, [])
  | (id', data, fin) :: rest =>
    if id' = id then
      if data.length ≤ len then (some (data, fin), rest)
      else (some (data.take len, false), (id', data.drop len, fin) :: rest)
    else
      let (answer, rest) := readFrom id len rest
      (answer, (id', data, fin) :: rest)

instance : Quiche Scripted where
  rounds _ := 4
  hmac data := Vector.replicate 32 (UInt8.ofNat data.sum.toNat)
  endpoint addr := .v4 #v[192, 0, 2, 1] (UInt16.ofNat addr.port)
  unixSecs now := UInt64.ofNat now
  accept scid _ _ _ := .ok (fresh scid)
  connect _ scid _ _ := .ok { fresh scid with client := true }
  setSession q _ := q
  recv q p := (.ok p.payload.length, { q.obey p.payload with received := true })
  send q := (.error .done, q)
  timeout q := if q.expires && !q.closed then some 0 else none
  onTimeout q := if q.expires then { q with closed := true } else q
  -- a connection that has heard nothing is closed at once, without a goodbye
  close q _ _ _ := if q.received then q else { q with closed := true }
  isServer q := !q.client
  session _ := none
  isEstablished q := q.established
  isInEarlyData _ := false
  isClosed q := q.closed
  isDraining _ := false
  isTimedOut q := q.expires
  peerError _ := none
  localError _ := none
  peerCert q := q.cert
  peerCertChain q := q.cert.map fun c => [c]
  stats _ := ⟨0, 0⟩
  sendAckEliciting q := (.ok (), q)
  sourceId q := q.scid
  retiredScidNext q := (none, q)
  scidsLeft _ := 0
  newScid q _ := (.error .idLimit, q)
  readable q := (q.unread.map Prod.fst).dedup
  streamReadable q id := q.unread.any fun e => e.1 = id
  streamFinished q id := !q.unread.any fun e => e.1 = id
  streamClosed q id := id ∈ q.closedStreams
  streamCapacity q id :=
    if id ∈ q.closedStreams then .error (.invalidStreamState id) else .ok q.capacity
  streamWritableNext q := (none, q)
  streamShutdown q _ _ _ := q
  streamRecv q id len :=
    match readFrom id len q.unread with
    | (some answer, unread) => (.ok answer, { q with unread })
    | (none, _) => (.error .done, q)
  streamSend q id data _ :=
    if id ∈ q.closedStreams then (.error (.invalidStreamState id), q)
    else if q.capacity = 0 then (.error .done, q)
    else (.ok (min data.length q.capacity), { q with capacity := q.capacity - data.length })
  dgramRecv q :=
    match q.datagrams with
    | [] => (.error .done, q)
    | data :: datagrams => (.ok data, { q with datagrams })
  isDgramSendQueueFull _ := false
  dgramSend q _ := (.ok (), q)
  h3WithTransport q := (.ok (), q)
  h3Poll q :=
    match q.h3Events with
    | [] => (.error .done, q)
    | event :: h3Events => (.ok event, { q with h3Events })
  h3RecvBody q _ _ := (.error .done, q)
  h3SendRequest q _ _ := if q.capacity = 0 then (.error .streamBlocked, q) else (.ok 0, q)
  h3SendResponse q _ _ _ := if q.capacity = 0 then (.error .streamBlocked, q) else (.ok (), q)
  h3SendBody q id data _ :=
    if id ∈ q.closedStreams then (.error (.transportError (.invalidStreamState id)), q)
    else if q.capacity = 0 then (.error .done, q)
    else (.ok (min data.length q.capacity), { q with capacity := q.capacity - data.length })
  h3SendAdditionalHeaders q _ _ _ _ :=
    if q.capacity = 0 then (.error .streamBlocked, q) else (.ok (), q)
  h3SendGoaway q _ := (.ok (), q)

/-- A packet of the client with connection id `dcid` that carries one instruction. -/
def packet (ty : PacketType) (dcid payload : Bytes) : Packet where
  header := some ⟨ty, dcid, [], none⟩
  payload
  peer := ⟨"192.0.2.1", 4433⟩
  recvLocal := ⟨"192.0.2.2", 443⟩

end Scripted

end Http3
