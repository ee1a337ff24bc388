import Http3.EventAddressing
import Http3.Lib.Shards

/-! The connection limit of a sharded server. Every worker checks its own map
against the share it was spawned with. -/

namespace Http3

theorem ConnectionMap.len_le {C : Type} (m : ConnectionMap C) :
    m.connections.len ≤ m.maxConnections :=
  List.countP_le_length.trans m.capacity_le

section Spawn

variable {Q : Type}

/-- Workers actually spawned: a limit no larger than their number takes one. -/
def numWorkersFor (maxConnections numWorkers : ℕ) : ℕ :=
  if maxConnections ≤ numWorkers then 1 else max numWorkers 1

def perWorkerMaxConnections (maxConnections numWorkers : ℕ) : ℕ :=
  (maxConnections + numWorkers - 1) / numWorkers

/-- The HTTP/3 server divides the limit over its workers. -/
def spawnWorkerSharded (maxConnections : UInt32) (numWorkers : ℕ) (disableRetry : Bool)
    (streamReadWindow : Option ℕ) (requireClientCert : Bool) : List (H3Worker Q) :=
  let n := numWorkersFor maxConnections.toNat numWorkers
  (List.range n).map fun i => .init (handleOffset (UInt32.ofNat i))
    (UInt32.ofNat (perWorkerMaxConnections maxConnections.toNat n)) disableRetry streamReadWindow
    requireClientCert

/-- The raw QUIC server gives every worker the whole limit. -/
def spawnQuicServerSharded (maxConnections : UInt32) (numWorkers : ℕ)
    (disableRetry requireClientCert : Bool) : List (QuicWorker Q) :=
  (List.range numWorkers).map fun i => .init (handleOffset (UInt32.ofNat i)) maxConnections
    disableRetry requireClientCert

def H3Worker.liveConnections (w : H3Worker Q) : ℕ := w.server.connMap.connections.len

def QuicWorker.liveConnections (w : QuicWorker Q) : ℕ := w.server.connMap.connections.len

/-- The limit divides evenly over the workers that are spawned. -/
def EvenShare (maxConnections numWorkers : ℕ) : Prop :=
  numWorkersFor maxConnections numWorkers ∣ maxConnections

instance (maxConnections numWorkers : ℕ) : Decidable (EvenShare maxConnections numWorkers) :=
  inferInstanceAs (Decidable (_ ∣ _))

theorem numWorkersFor_pos (m n : ℕ) : 0 < numWorkersFor m n := by
  unfold numWorkersFor
  split_ifs <;> omega

theorem EvenShare.total {m n : ℕ} (h : EvenShare m n) :
    numWorkersFor m n * perWorkerMaxConnections m (numWorkersFor m n) = m := by
  have hpos := numWorkersFor_pos m n
  unfold EvenShare at h
  obtain ⟨k, hk⟩ := h
  generalize numWorkersFor m n = w at *
  subst hk
  unfold perWorkerMaxConnections
  have hsum : w * k + w - 1 = (w - 1) + w * k := by omega
  rw [hsum, Nat.add_mul_div_left _ _ hpos, Nat.div_eq_of_lt (by omega), Nat.zero_add]

end Spawn

section Runs

variable {Q : Type} [Quiche Q]

theorem H3Worker.step_maxConnections (i : H3Worker.Step) (w : H3Worker Q) :
    (H3Worker.step i w).server.connMap.maxConnections = w.server.connMap.maxConnections := by
  cases i with
  | call channelOpen meant cmd reply =>
    obtain ⟨a, channel, -, hcall⟩ := H3Worker.napi_spec channelOpen meant cmd reply w
    show (w.napi channelOpen meant cmd reply).2.server.connMap.maxConnections = _
    rw [hcall]
  | work op => exact (H3Server.apply_locates op w.server.startBatch).maxConnections
  | dispatch now =>
    show (w.dispatchNext now).server.connMap.maxConnections = _
    unfold H3Worker.dispatchNext
    cases w.channel with
    | nil => rfl
    | cons next channel =>
      by_cases hshutdown : next.cmd = .shutdown
      · have hsteady := H3Server.dispatchShutdown_steady (P := fun _ => True) w.server.startBatch
        simp only [hshutdown]
        exact hsteady.maxConnections
      · exact (H3Server.dispatchCommand_spec now hshutdown w.server.startBatch).1.maxConnections

theorem QuicWorker.step_maxConnections (op : QuicServerOp) (w : QuicWorker Q) :
    (QuicWorker.step op w).server.connMap.maxConnections = w.server.connMap.maxConnections := by
  have hmoves : QuicServer.Moves _ False w.server _ := op.apply_moves (.inr trivial) False.elim
  exact hmoves.fixed.maxConnections

/-- However accepts and reaps interleave on the workers, the connections of all of
them together stay within the configured limit: on the HTTP/3 server when the limit
divides evenly, on the raw QUIC server when it has one worker or accepts nothing. -/
theorem live_connections_le_max (maxConnections : UInt32) (numWorkers : ℕ)
    (disableRetry requireClientCert : Bool) (streamReadWindow : Option ℕ) :
    (EvenShare maxConnections.toNat numWorkers →
      ∀ ws : List (H3Worker Q), Runs.Reach (Shards.step H3Worker.step) (fun _ _ => True)
          (spawnWorkerSharded maxConnections numWorkers disableRetry streamReadWindow
            requireClientCert) ws →
        (ws.map H3Worker.liveConnections).sum ≤ maxConnections.toNat) ∧
    (numWorkers = 1 ∨ maxConnections = 0 →
      ∀ ws : List (QuicWorker Q), Runs.Reach (Shards.step QuicWorker.step) (fun _ _ => True)
          (spawnQuicServerSharded maxConnections numWorkers disableRetry requireClientCert) ws →
        (ws.map QuicWorker.liveConnections).sum ≤ maxConnections.toNat) := by
  constructor
  · intro heven ws hreach
    have hsum : (ws.map H3Worker.liveConnections).sum ≤ _ := Shards.sum_le_of_reach
      (P := fun w : H3Worker Q => w.server.connMap.maxConnections ≤ perWorkerMaxConnections
        maxConnections.toNat (numWorkersFor maxConnections.toNat numWorkers))
      (fun w hw => w.server.connMap.len_le.trans hw) ?_ ?_ hreach
    · simpa [spawnWorkerSharded, heven.total] using hsum
    · intro w hw
      obtain ⟨i, -, rfl⟩ := List.mem_map.1 hw
      exact Nat.mod_le _ _
    · intro i w hw
      rwa [H3Worker.step_maxConnections]
  · intro hone ws hreach
    have hsum : (ws.map QuicWorker.liveConnections).sum ≤ _ := Shards.sum_le_of_reach
      (P := fun w : QuicWorker Q => w.server.connMap.maxConnections ≤ maxConnections.toNat)
      (fun w hw => w.server.connMap.len_le.trans hw) ?_ ?_ hreach
    · rcases hone with rfl | rfl
      · simpa [spawnQuicServerSharded] using hsum
      · simpa using hsum
    · intro w hw
      obtain ⟨i, -, rfl⟩ := List.mem_map.1 hw
      exact le_refl _
    · intro i w hw
      rwa [QuicWorker.step_maxConnections]

/-- A client that connects to one of the workers. -/
def connecting (dcid : UInt8) : Packet := Scripted.packet .initial [dcid] [0]

/-- Three connections allowed on two workers: each takes two. One allowed on two raw
QUIC workers: each takes one. -/
theorem more_connections_than_allowed :
    ((Runs.run (Shards.step H3Worker.step)
        [(0, .work (.packet false (connecting 1) 0 0 [[1]])),
          (0, .work (.packet false (connecting 2) 0 0 [[2]])),
          (1, .work (.packet false (connecting 3) 0 0 [[3]])),
          (1, .work (.packet false (connecting 4) 0 0 [[4]]))]
        (spawnWorkerSharded 3 2 true none false : List (H3Worker Scripted))).map
      H3Worker.liveConnections).sum = 4 ∧
    ((Runs.run (Shards.step QuicWorker.step)
        [(0, .packet false (connecting 1) 0 0 [[1]]), (1, .packet false (connecting 2) 0 0 [[2]])]
        (spawnQuicServerSharded 1 2 true false : List (QuicWorker Scripted))).map
      QuicWorker.liveConnections).sum = 2 := by
  decide +kernel

/-- Four connections allowed on two workers; a third client of one worker is turned away. -/
def evenlyShared : List (H3Worker Scripted) :=
  Runs.run (Shards.step H3Worker.step)
    [(0, .work (.packet false (connecting 1) 0 0 [[1]])),
      (0, .work (.packet false (connecting 2) 0 0 [[2]])),
      (0, .work (.packet false (connecting 3) 0 0 [[3]])),
      (1, .work (.packet false (connecting 4) 0 0 [[4]]))]
    (spawnWorkerSharded 4 2 true none false)

def singleQuicWorker : List (QuicWorker Scripted) :=
  Runs.run (Shards.step QuicWorker.step)
    [(0, .packet false (connecting 1) 0 0 [[1]]), (0, .packet false (connecting 2) 0 0 [[2]])]
    (spawnQuicServerSharded 1 1 true false)

theorem live_connections_le_max_evenlyShared :
    EvenShare 4 2 ∧ evenlyShared.map H3Worker.liveConnections = [2, 1] ∧
      (evenlyShared.map H3Worker.liveConnections).sum ≤ 4 ∧
      (singleQuicWorker.map QuicWorker.liveConnections).sum ≤ 1 := by
  have heven : EvenShare 4 2 := by decide
  have hlive : evenlyShared.map H3Worker.liveConnections = [2, 1] := by decide +kernel
  have hreach : Runs.Reach (Shards.step H3Worker.step) (fun _ _ => True)
      (spawnWorkerSharded 4 2 true none false) evenlyShared :=
    Runs.Reach.start.run (by decide +kernel)
  have hreach' : Runs.Reach (Shards.step QuicWorker.step) (fun _ _ => True)
      (spawnQuicServerSharded 1 1 true false) singleQuicWorker :=
    Runs.Reach.start.run (by decide +kernel)
  refine ⟨heven, hlive, ?_, ?_⟩
  · exact (live_connections_le_max 4 2 true false none).1 heven _ hreach
  · exact (live_connections_le_max 1 1 true false none).2 (.inl rfl) _ hreach'

end Runs

end Http3
