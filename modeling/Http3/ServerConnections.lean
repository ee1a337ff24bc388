import Http3.ConnectionMap
import Http3.RetryToken
import Http3.ServerSharding

/-! What the HTTP/3 and the raw QUIC server worker do to their connections alike: find the
connection of a packet or accept one, issue connection ids, and send in turn. -/

namespace Http3

/-- An event of a connection carries the handle of its slot, a slot below `max`. -/
def Located (offset : UInt32) (max : ℕ) (e : Emitted) : Prop :=
  ∀ ref, e.owner = some ref → e.event.connHandle = globalHandle offset ref.slot ∧ ref.slot < max

section Collect

variable {S C : Type} (get : S → ℕ → Option C) (poll : S → ℕ → ℕ → C → S) (size : S → ℕ)
  (budget : ℕ)

def collectLoop : List ℕ → ℕ → S → S
  | [], _, s => s
  | handle :: handles, remaining, s =>
    if remaining = 0 then s
    else
      match get s handle with
      | none => collectLoop handles remaining s
      | some conn =>
        let s := poll s handle remaining conn
        collectLoop handles (budget - size s) s

/-- Poll connections in turn, closed ones included, within a budget of events. -/
def collectEvents (handles : List ℕ) (s : S) : S :=
  if budget = 0 then s else collectLoop get poll size budget handles budget s

variable {get poll size budget}

/-- `P` is about the handles to come, the budget that is left and the server. -/
theorem collectEvents_induction {P : List ℕ → ℕ → S → Prop} {R : S → Prop}
    {handles : List ℕ} {s : S}
    (h : P handles budget s) (hdone : ∀ handles left s, P handles left s → R s)
    (hskip : ∀ handle handles left s, get s handle = none → left ≠ 0 →
      P (handle :: handles) left s → P handles left s)
    (hpoll : ∀ handle handles left s c, get s handle = some c → left ≠ 0 →
      P (handle :: handles) left s →
        P handles (budget - size (poll s handle left c)) (poll s handle left c)) :
    R (collectEvents get poll size budget handles s) := by
  have hloop : ∀ (handles : List ℕ) (left : ℕ) (s : S), P handles left s →
      R (collectLoop get poll size budget handles left s) := by
    intro handles
    induction handles with
    | nil => exact fun left s h => hdone _ left s h
    | cons handle handles ih =>
      intro left s h
      unfold collectLoop
      split_ifs with hzero
      · exact hdone _ left s h
      · cases hget : get s handle with
        | none => exact ih _ _ (hskip handle handles left s hget hzero h)
        | some c => exact ih _ _ (hpoll handle handles left s c hget hzero h)
  unfold collectEvents
  split_ifs
  · exact hdone handles budget s h
  · exact hloop handles budget s h

/-- What every poll keeps. -/
theorem collectEvents_keeps {P : S → Prop}
    (hpoll : ∀ handle left s c, get s handle = some c → left ≠ 0 → P s → P (poll s handle left c))
    {handles : List ℕ} {s : S} (h : P s) : P (collectEvents get poll size budget handles s) :=
  collectEvents_induction (P := fun _ _ => P) h (fun _ _ _ h => h) (fun _ _ _ _ _ _ h => h)
    fun handle _ left s c hget hzero h => hpoll handle left s c hget hzero h

end Collect

/-- A connection as the code that both workers share sees it. -/
class ServerConnection (C : Type) (Q : outParam Type) where
  new : ℕ → Q → Bytes → C
  quicheConn : C → Q
  setQuicheConn : C → Q → C
  send : C → Option Bytes × C

/-- The original connection id in a retry token, if the token is valid now. -/
def validateToken (Q : Type) [Quiche Q] (token : Bytes) (peer : SocketAddr) (now : ℕ) :
    Option Bytes :=
  RetryToken.validateToken (Quiche.hmac (Q := Q)) token (Quiche.endpoint (Q := Q) peer)
    (Quiche.unixSecs (Q := Q) now)

/-- The original connection id in the retry token of a packet, if the token is valid. -/
def PacketHeader.odcid (Q : Type) [Quiche Q] (hdr : PacketHeader) (peer : SocketAddr) (now : ℕ) :
    Option Bytes :=
  (hdr.token.filter (!·.isEmpty)).bind fun token => validateToken Q token peer now

/-- The ids a connection is registered under when a packet opens it: a generated id and the
client's choice when retry is off, else the client's choice and the original id. -/
def acceptedIds (known disableRetry : Bool) (dcid : Bytes) (odcid : Option Bytes)
    (scids : List Bytes) : List Bytes :=
  if known then []
  else if disableRetry then scids.head?.toList ++ [dcid]
  else dcid :: odcid.toList

/-- Where a packet goes. -/
inductive Route (C : Type)
  | known (handle : ℕ)
  | accepted (handle : ℕ) (connMap : ConnectionMap C)
  | dropped

namespace ConnectionMap

variable {C Q : Type} [Quiche Q] [ServerConnection C Q]

def acceptConn (scid : Bytes) (odcid : Option Bytes) (extraDcid : Bytes) (p : Packet)
    (m : ConnectionMap C) : Route C :=
  match m.acceptNew scid (Quiche.accept scid odcid p.recvLocal p.peer) ServerConnection.new with
  | .error _ => .dropped
  | .ok (handle, m) => .accepted handle (m.addDcid handle extraDcid)

/-- The connection a packet belongs to, accepting a new one for an Initial
packet: right away when retry is off, else only with a valid retry token. -/
def routeOrAccept (disableRetry : Bool) (hdr : PacketHeader) (p : Packet) (now : ℕ)
    (scids : List Bytes) (m : ConnectionMap C) : Route C :=
  match m.routePacket hdr.dcid with
  | some handle => .known handle
  | none =>
    if hdr.ty ≠ .initial then .dropped
    else if disableRetry then
      match scids with
      | [] => .dropped
      | scid :: _ => m.acceptConn scid none hdr.dcid p
    else
      match hdr.token.filter (!·.isEmpty) with
      | some token =>
        match validateToken Q token p.peer now with
        | some odcid => m.acceptConn hdr.dcid (some odcid) odcid p
        | none => .dropped
      | none => .dropped

/-- The slot of a packet; a new connection is announced. -/
def routeAndAnnounce (disableRetry : Bool) (handleOffset : UInt32) (hdr : PacketHeader)
    (p : Packet) (now : ℕ) (scids : List Bytes) (m : ConnectionMap C) (batch : List Emitted) :
    Option ℕ × ConnectionMap C × List Emitted :=
  match m.routeOrAccept disableRetry hdr p now scids with
  | .known handle => (some handle, m, batch)
  | .accepted handle m' =>
    (some handle, m', pushFor ⟨handle, m.acceptedCount⟩
      (.newSession (globalHandle handleOffset handle) p.peer.ip p.peer.port "") batch)
  | .dropped => (none, m, batch)

/-- Offer the peer fresh connection ids while it takes them. -/
def topUpServerScids (handle : ℕ) : List Bytes → ConnectionMap C → ConnectionMap C
  | [], m => m
  | scid :: scids, m =>
    match m.get handle with
    | none => m
    | some conn =>
      let q := ServerConnection.quicheConn conn
      if Quiche.isEstablished q && 0 < Quiche.scidsLeft q then
        match Quiche.newScid q scid with
        | (.ok _, q) =>
          topUpServerScids handle scids
            ((m.set handle (ServerConnection.setQuicheConn conn q)).addDcid handle scid)
        | (.error _, q) => m.set handle (ServerConnection.setQuicheConn conn q)
      else m

/-- One turn of the round-robin: a packet from every connection still active. -/
def sendRound : List ℕ → ConnectionMap C → (List Bytes × List ℕ) × ConnectionMap C
  | [], m => (([], []), m)
  | handle :: handles, m =>
    match m.get handle with
    | none => sendRound handles m
    | some conn =>
      let (packet, conn) := ServerConnection.send conn
      let ((packets, active), m) := sendRound handles (m.set handle conn)
      match packet with
      | some packet => ((packet :: packets, handle :: active), m)
      | none => ((packets, active), m)

def sendRounds : ℕ → List ℕ → ConnectionMap C → List Bytes × ConnectionMap C
  | 0, _, m => ([], m)
  | fuel + 1, active, m =>
    if active.isEmpty then ([], m)
    else
      let ((packets, active), m) := sendRound active m
      let (rest, m) := sendRounds fuel active m
      (packets ++ rest, m)

section Rules

variable {m m' : ConnectionMap C} {slot : ℕ} {disableRetry : Bool} {hdr : PacketHeader}
  {p : Packet} {now : ℕ} {scids : List Bytes}

/-- A packet that may open a connection: an Initial for an id nobody has, and unless retry is
off with a token that is valid for the address it came from. -/
structure Admits (Q : Type) [Quiche Q] (disableRetry : Bool) (hdr : PacketHeader) (p : Packet)
    (now : ℕ) (m : ConnectionMap C) : Prop where
  initial : hdr.ty = .initial
  unknown : m.routePacket hdr.dcid = none
  vouched : disableRetry = true ∨ ∃ token odcid, hdr.token = some token ∧
    validateToken Q token p.peer now = some odcid

/-- A new connection in a vacant slot, registered under two of the `ids`. -/
structure Accepted (ids : List Bytes) (m : ConnectionMap C) (slot : ℕ) (m' : ConnectionMap C) :
    Prop where
  vacant : m.get slot = none
  acceptedCount : m'.acceptedCount = m.acceptedCount + 1
  maxConnections : m'.maxConnections = m.maxConnections
  conns : ∃ (q : Q) (scid : Bytes), ∀ k, m'.get k =
    if k = slot then some (ServerConnection.new m.acceptedCount q scid) else m.get k
  routes : ∃ scid ∈ ids, ∃ extraDcid ∈ ids,
    m'.byDcid = (m.byDcid.insert scid slot).insert extraDcid slot

theorem acceptConn_accepted {scid extraDcid : Bytes} {odcid : Option Bytes} {ids : List Bytes}
    (h : m.acceptConn scid odcid extraDcid p = .accepted slot m') (hscid : scid ∈ ids)
    (hextra : extraDcid ∈ ids) : Accepted ids m slot m' := by
  unfold acceptConn at h
  cases haccept : m.acceptNew scid (Quiche.accept scid odcid p.recvLocal p.peer)
      ServerConnection.new with
  | error e =>
    rw [haccept] at h
    cases h
  | ok accepted =>
    rw [haccept] at h
    obtain ⟨handle, m₁⟩ := accepted
    obtain ⟨rfl, rfl⟩ := Route.accepted.inj h
    obtain ⟨hvacant, hcount, hmax, q, -, hget⟩ := m.acceptNew_ok haccept
    have hlive : m₁.connections.contains handle = true := by
      have hnew := hget handle
      rw [if_pos rfl] at hnew
      exact Option.isSome_iff_exists.2 ⟨_, hnew⟩
    refine ⟨hvacant, ?_, ?_, ⟨q, scid, fun k => ?_⟩, ⟨scid, hscid, extraDcid, hextra, ?_⟩⟩
    · rw [acceptedCount_addDcid, hcount]
    · rw [maxConnections_addDcid, hmax]
    · rw [get_addDcid, hget]
    · unfold addDcid
      rw [if_pos hlive, m.byDcid_acceptNew haccept]

/-- Only packets that may open a connection do. -/
theorem routeOrAccept_accepted
    (h : m.routeOrAccept disableRetry hdr p now scids = .accepted slot m') :
    m.Admits Q disableRetry hdr p now ∧
      Accepted (acceptedIds false disableRetry hdr.dcid (hdr.odcid Q p.peer now) scids)
        m slot m' := by
  unfold routeOrAccept at h
  cases hroute : m.routePacket hdr.dcid with
  | some handle =>
    rw [hroute] at h
    cases h
  | none =>
    rw [hroute] at h
    dsimp only at h
    split_ifs at h with hty hretry
    · cases scids with
      | nil => cases h
      | cons scid scids =>
        exact ⟨⟨not_not.1 hty, hroute, .inl hretry⟩,
          acceptConn_accepted h (by simp [acceptedIds, hretry]) (by simp [acceptedIds, hretry])⟩
    · cases htoken : hdr.token.filter (!·.isEmpty) with
      | none =>
        rw [htoken] at h
        cases h
      | some token =>
        cases hvalid : validateToken Q token p.peer now with
        | none =>
          rw [htoken] at h
          simp only [hvalid] at h
          cases h
        | some odcid =>
          have hodcid : hdr.odcid Q p.peer now = some odcid := by
            simp [PacketHeader.odcid, htoken, hvalid]
          have hgiven := (Option.mem_filter_iff.1 (Option.mem_def.2 htoken)).1
          rw [htoken] at h
          simp only [hvalid] at h
          refine ⟨⟨not_not.1 hty, hroute, .inr ⟨token, odcid, hgiven, hvalid⟩⟩, ?_⟩
          exact acceptConn_accepted h (by simp [acceptedIds, hretry])
            (by simp [acceptedIds, hretry, hodcid])

/-- Kept by writing the connection back and by registering an id, hence by the loop. -/
theorem topUpServerScids_induction {P : ConnectionMap C → Prop} {handle : ℕ} (scids : List Bytes)
    (hset : ∀ m conn q, m.get handle = some conn → P m →
      P (m.set handle (ServerConnection.setQuicheConn conn q)))
    (hadd : ∀ m, ∀ scid ∈ scids, P m → P (m.addDcid handle scid)) (h : P m) :
    P (m.topUpServerScids handle scids) := by
  induction scids generalizing m with
  | nil => exact h
  | cons scid scids ih =>
    unfold topUpServerScids
    cases hc : m.get handle with
    | none => exact h
    | some conn =>
      dsimp only
      split_ifs
      · split
        · exact ih (fun m id hid => hadd m id (List.mem_cons_of_mem scid hid))
            (hadd _ scid List.mem_cons_self (hset m conn _ hc h))
        · exact hset m conn _ hc h
      · exact h

omit [Quiche Q] in
/-- Kept by one connection's send, hence by the rounds. -/
theorem sendRounds_induction {P : ConnectionMap C → Prop}
    (hsend : ∀ m handle conn, m.get handle = some conn → P m →
      P (m.set handle (ServerConnection.send conn).2))
    (fuel : ℕ) (active : List ℕ) (h : P m) : P (m.sendRounds fuel active).2 := by
  have hround : ∀ (handles : List ℕ) (m : ConnectionMap C), P m → P (m.sendRound handles).2 := by
    intro handles
    induction handles with
    | nil => exact fun _ h => h
    | cons handle handles ih =>
      intro m h
      unfold sendRound
      cases hc : m.get handle with
      | none => exact ih m h
      | some conn =>
        have hrest := ih _ (hsend m handle conn hc h)
        dsimp only
        split <;> exact hrest
  induction fuel generalizing active m with
  | zero => exact h
  | succ fuel ih =>
    unfold sendRounds
    split_ifs
    · exact h
    · exact ih _ (hround active m h)

end Rules

end ConnectionMap

end Http3
