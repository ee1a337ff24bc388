import Http3.H3Connection
import Http3.Scripted
import Http3.Lib.Runs

/-! Pings of a session: callbacks wait in one queue, the native pings in another. -/

namespace Http3

/-- What a callback is told. -/
inductive PingResult
  | ok (durationMs : ℕ)
  | notQueued
  | failed
  | closed
  deriving DecidableEq

/-- What becomes of a ping on a session that is gone: a client answers with the last round trip
it knows, a server pings the connection that has the handle by then, if there is one. -/
inductive GonePing
  | snapshot (rttMs : ℕ)
  | elsewhere (queued : Bool)

/-- A session and its connection. `pingAcks`: PING_ACK events on their way to the session;
callbacks are numbers of `ping` calls; `removed`: the session has lost its event loop or its
place in the server's table. Not part of the program are `pings`, the calls so far, `given`, those
that passed a callback, `queued`, call and time of every ping queued, `acked`, time and duration
of every ack, `delivered`, how many of them came to the session, and `results`. -/
structure PingSession (Q : Type) where
  conn : H3Connection Q
  pingAcks : List ℕ
  pendingPingCallbacks : List ℕ
  removed : Bool
  pings : ℕ
  given : List ℕ
  queued : List (ℕ × ℕ)
  acked : List (ℕ × ℕ)
  delivered : ℕ
  results : List (ℕ × PingResult)

namespace PingSession

variable {Q : Type}

def new (conn : H3Connection Q) : PingSession Q := ⟨conn, [], [], false, 0, [], [], [], 0, []⟩

def giveUp (call : ℕ) (why : PingResult) (s : PingSession Q) : PingSession Q :=
  { s with
    pendingPingCallbacks := s.pendingPingCallbacks.dropLast
    results := s.results ++ [(s.pendingPingCallbacks.getLast?.getD call, why)] }

def onPingAck (s : PingSession Q) : PingSession Q :=
  match s.pingAcks with
  | [] => s
  | durationMs :: pingAcks =>
    let s := { s with pingAcks, delivered := s.delivered + 1 }
    if s.removed then s
    else
      match s.pendingPingCallbacks with
      | [] => s
      | cb :: rest =>
        { s with pendingPingCallbacks := rest, results := s.results ++ [(cb, .ok durationMs)] }

def rejectPendingPings (s : PingSession Q) : PingSession Q :=
  { s with
    pendingPingCallbacks := []
    results := s.results ++ s.pendingPingCallbacks.map (·, .closed) }

variable {s : PingSession Q}

/-- The queues are in step: pings are acknowledged in order, callbacks wait in the order of
their pings, and each one is told once. -/
structure Inv (s : PingSession Q) : Prop where
  pending : s.conn.pingState.map (·.startedAt) = (s.queued.drop s.acked.length).map Prod.snd
  timed : ∀ k t d : ℕ, s.acked[k]? = some (t, d) →
    ∃ call start, s.queued[k]? = some (call, start) ∧ d = t - start
  acks : s.pingAcks = (s.acked.drop s.delivered).map Prod.snd
  acked_le : s.acked.length ≤ s.queued.length
  delivered_le : s.delivered ≤ s.acked.length
  calls : ∀ q ∈ s.queued, q.1 < s.pings
  given : ∀ call ∈ s.given, call < s.pings
  once : ∀ call, s.pendingPingCallbacks.count call + (s.results.map Prod.fst).count call =
    if call ∈ s.given then 1 else 0
  refused : ∀ call, (call, .notQueued) ∈ s.results ∨ (call, .failed) ∈ s.results →
    call ∉ s.queued.map Prod.fst
  gone : s.removed = true → s.pendingPingCallbacks = []
  waiting : s.pendingPingCallbacks <+: (s.queued.drop s.delivered).map Prod.fst
  told : ∀ call d : ℕ, (call, .ok d) ∈ s.results →
    ∃ k start t : ℕ, s.queued[k]? = some (call, start) ∧ s.acked[k]? = some (t, d)

theorem Inv.outstanding (h : s.Inv) :
    (s.queued.drop s.delivered).length = s.pingAcks.length + s.conn.pingState.length := by
  have hpending := congrArg List.length h.pending
  have hle := h.acked_le
  have hdelivered := h.delivered_le
  rw [h.acks]
  simp only [List.length_map, List.length_drop] at hpending ⊢
  omega

theorem Inv.next (h : s.Inv) (cb : Bool) :
    (∀ call ∈ (if cb then s.given ++ [s.pings] else s.given), call < s.pings + 1) ∧
    ∀ call, (s.pendingPingCallbacks.count call + (s.results.map Prod.fst).count call) +
      (if cb then [s.pings] else []).count call =
      if call ∈ (if cb then s.given ++ [s.pings] else s.given) then 1 else 0 := by
  cases cb with
  | false => exact ⟨fun call hcall => Nat.lt_succ_of_lt (h.given call hcall), h.once⟩
  | true =>
    constructor
    · intro call hcall
      obtain hcall | hcall := List.mem_append.1 hcall
      · exact Nat.lt_succ_of_lt (h.given call hcall)
      · rw [List.mem_singleton.1 hcall]
        exact Nat.lt_succ_self _
    · intro call
      rw [h.once call]
      by_cases hcall : call = s.pings
      · have hfresh : s.pings ∉ s.given := fun hmem => Nat.lt_irrefl _ (h.given _ hmem)
        simp [hcall, hfresh]
      · simp [hcall, Ne.symm hcall]

variable [Quiche Q]

/-- The call of a session that is there: `ok` is the answer of the native call, if it does not
throw. -/
def pushAndPing (cb : Bool) (call : ℕ) (ok : Option Bool) (s : PingSession Q) : PingSession Q :=
  let s := { s with
    pendingPingCallbacks :=
      if cb then s.pendingPingCallbacks ++ [call] else s.pendingPingCallbacks }
  match ok with
  | some true => s
  | some false => if cb then s.giveUp call .notQueued else s
  | none => if cb then s.giveUp call .failed else s

/-- `running`: the native call does not throw. -/
def ping (cb : Bool) (now : ℕ) (running : Bool) (gone : GonePing) (s : PingSession Q) :
    PingSession Q :=
  let call := s.pings
  let s := { s with pings := call + 1, given := if cb then s.given ++ [call] else s.given }
  if s.removed then
    match gone with
    | .snapshot rttMs => if cb then { s with results := s.results ++ [(call, .ok rttMs)] } else s
    | .elsewhere ok => s.pushAndPing cb call (if running then some ok else none)
  else if running then
    let (ok, conn) := s.conn.queuePing now
    { s with conn, queued := if ok then s.queued ++ [(call, now)] else s.queued }.pushAndPing
      cb call (some ok)
  else s.pushAndPing cb call none

def poll (now : ℕ) (s : PingSession Q) : PingSession Q :=
  let (durations, conn) := s.conn.pollPingAcks now
  { s with
    conn
    pingAcks := s.pingAcks ++ durations
    acked := s.acked ++ durations.map (now, ·) }

/-- `traffic`: packets are sent and acknowledged. -/
inductive Step (Q : Type)
  | ping (cb : Bool) (now : ℕ) (running : Bool) (gone : GonePing)
  | traffic (q : Q)
  | poll (now : ℕ)
  | pingAck
  | destroy
  | sessionClose

def step : Step Q → PingSession Q → PingSession Q
  | .ping cb now running gone, s => s.ping cb now running gone
  | .traffic q, s => { s with conn := { s.conn with quicheConn := q } }
  | .poll now, s => s.poll now
  | .pingAck, s => s.onPingAck
  | .destroy, s => s.rejectPendingPings
  | .sessionClose, s => { s.rejectPendingPings with removed := true }

/-- A transport that has sent, and got acknowledged, as many packets as it has capacity. -/
@[reducible] def acking : Quiche Scripted :=
  { (inferInstance : Quiche Scripted) with stats := fun q => ⟨q.capacity, q.capacity⟩ }

end PingSession

end Http3
