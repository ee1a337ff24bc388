import Http3.Quiche

/-! Bookkeeping that HTTP/3 and raw QUIC connections share: blocked streams,
pings in flight and retired connection ids. -/

namespace Http3

/-- One thing quiche can accept on a stream. Used to record what was accepted,
in order. -/
inductive Item
  | headers (list : Headers)
  | byte (b : UInt8)
  | fin
  | trailers (list : Headers)
  deriving DecidableEq, Repr

/-- What a payload with an optional FIN asks quiche to accept. -/
def bodyItems (bytes : Bytes) (fin : Bool) : List Item :=
  bytes.map .byte ++ if fin then [.fin] else []

def PendingWrite.items (pw : PendingWrite) : List Item := bodyItems pw.chunks.flatten pw.fin

/-- Connection ids quiche has retired since it was asked last. -/
def retiredScids {Q : Type} [Quiche Q] : ℕ → Q → List Bytes × Q
  | 0, q => ([], q)
  | fuel + 1, q =>
    match Quiche.retiredScidNext q with
    | (none, q) => ([], q)
    | (some retired, q) =>
      let (rest, q) := retiredScids fuel q
      (retired :: rest, q)

/-- Streams waiting for capacity: the iteration queue and its deduplication set. -/
structure BlockedStreams where
  queue : List ℕ
  set : List ℕ
  deriving DecidableEq, Repr

namespace BlockedStreams

def empty : BlockedStreams := ⟨[], []⟩

def insert (b : BlockedStreams) (streamId : ℕ) : BlockedStreams :=
  if streamId ∈ b.set then b else ⟨b.queue ++ [streamId], streamId :: b.set⟩

/-- Remove from the set and, when it was there, from the queue. -/
def remove (b : BlockedStreams) (streamId : ℕ) : BlockedStreams :=
  if streamId ∈ b.set then ⟨b.queue.filter (· ≠ streamId), b.set.filter (· ≠ streamId)⟩ else b

/-- Probe the queue once around: streams with capacity are drained, failing
ones reported, the rest go to the back. -/
def probe (capacity : ℕ → Except QuicheError ℕ) (ref : ConnRef) (connHandle : UInt32) :
    ℕ → BlockedStreams → List Emitted → BlockedStreams × List Emitted
  | 0, b, events => (b, events)
  | n + 1, b, events =>
    match b.queue with
    | [] => (b, events)
    | streamId :: rest =>
      match capacity streamId with
      | .ok c =>
        if 0 < c then
          probe capacity ref connHandle n ⟨rest, b.set.filter (· ≠ streamId)⟩
            (pushFor ref (.drain connHandle streamId) events)
        else probe capacity ref connHandle n ⟨rest ++ [streamId], b.set⟩ events
      | .error e =>
        probe capacity ref connHandle n ⟨rest, b.set.filter (· ≠ streamId)⟩
          (pushFor ref (.error connHandle streamId 0
            s!"stream_capacity failed: {e.display}") events)

end BlockedStreams

structure PendingPing where
  startedAt : ℕ
  targetSentPackets : ℕ
  baselineAckedBytes : ℕ
  deriving DecidableEq, Repr

abbrev PingState := List PendingPing

namespace PingState

def queue (p : PingState) (stats : Stats) (now : ℕ) : PingState :=
  p ++ [⟨now, stats.sent + 1, stats.ackedBytes⟩]

/-- Durations of the pings the statistics show as acknowledged. -/
def completeAcked (stats : Stats) (now : ℕ) : PingState → List ℕ × PingState
  | [] => ([], [])
  | ping :: rest =>
    if ping.targetSentPackets ≤ stats.sent ∧ ping.baselineAckedBytes < stats.ackedBytes then
      let (durations, left) := completeAcked stats now rest
      ((now - ping.startedAt) :: durations, left)
    else ([], ping :: rest)

end PingState

section Datagrams

variable {Q : Type} [Quiche Q] (ref : ConnRef) (connHandle : UInt32)

/-- Report up to `remaining` datagrams that quiche has received. -/
def pollDatagrams : ℕ → Q → List Emitted → Q × List Emitted
  | 0, q, events => (q, events)
  | remaining + 1, q, events =>
    match Quiche.dgramRecv q with
    | (.ok buf, q) => pollDatagrams remaining q (pushFor ref (.datagram connHandle buf) events)
    | (.error _, q) => (q, events)

/-- What taking a datagram keeps, with the budget that is left, holds after all of them. -/
theorem pollDatagrams_induction {P : ℕ → Q → List Emitted → Prop} {q : Q} {events : List Emitted}
    (hcall : ∀ left q events, P left q events → P left (Quiche.dgramRecv q).2 events)
    (hpush : ∀ left q events buf, P (left + 1) q events →
      P left q (pushFor ref (.datagram connHandle buf) events))
    (remaining : ℕ) (h : P remaining q events) :
    ∃ left, P left (pollDatagrams ref connHandle remaining q events).1
      (pollDatagrams ref connHandle remaining q events).2 := by
  induction remaining generalizing q events with
  | zero => exact ⟨0, h⟩
  | succ remaining ih =>
    have hafter := hcall _ q events h
    unfold pollDatagrams
    generalize Quiche.dgramRecv q = r at hafter ⊢
    obtain ⟨_ | buf, q'⟩ := r
    · exact ⟨remaining + 1, hafter⟩
    · exact ih (hpush remaining q' events buf hafter)

/-- Without a datagram nothing is reported. -/
theorem pollDatagrams_of_error {q : Q} (h : (Quiche.dgramRecv q).1.isOk = false) (remaining : ℕ)
    (events : List Emitted) : ∃ q', (q' = q ∨ q' = (Quiche.dgramRecv q).2) ∧
      pollDatagrams ref connHandle remaining q events = (q', events) := by
  cases remaining with
  | zero => exact ⟨q, .inl rfl, rfl⟩
  | succ remaining =>
    refine ⟨_, .inr rfl, ?_⟩
    unfold pollDatagrams
    generalize Quiche.dgramRecv q = r at h ⊢
    obtain ⟨_ | buf, q'⟩ := r
    · rfl
    · cases h

end Datagrams

/-- The kinds of event a connection reports while it is polled. -/
def EventType.isPolled : EventType → Bool
  | .newStream | .headers | .data | .finished | .reset | .goaway | .error | .datagram | .drain =>
    true
  | _ => false

/-- What polling the connection `ref` under `connHandle` may append. -/
def Polls (ref : ConnRef) (connHandle : UInt32) (e : Emitted) : Prop :=
  e.owner = some ref ∧ e.event.connHandle = connHandle ∧ e.event.eventType.isPolled = true

theorem Polls.notSentinel {ref : ConnRef} {connHandle : UInt32} {e : Emitted}
    (h : Polls ref connHandle e) : NotSentinel e := by
  intro hsentinel
  have hpolled := h.2.2
  rw [hsentinel] at hpolled
  cases hpolled

theorem BlockedStreams.probe_grows (capacity : ℕ → Except QuicheError ℕ) (ref : ConnRef)
    (connHandle : UInt32) (n : ℕ) (b : BlockedStreams) (events : List Emitted) :
    Grows (Polls ref connHandle) events (probe capacity ref connHandle n b events).2 := by
  induction n generalizing b events with
  | zero => exact .refl
  | succ n ih =>
    unfold probe
    split
    · exact .refl
    · split
      · split_ifs
        · exact (Grows.refl.pushFor ⟨rfl, rfl, rfl⟩).trans (ih _ _)
        · exact ih _ _
      · exact (Grows.refl.pushFor ⟨rfl, rfl, rfl⟩).trans (ih _ _)

end Http3
