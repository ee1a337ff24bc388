import Http3.H3ConnectionSpec

/-! Connections that have nothing left to report. -/

namespace Http3

namespace H3Connection

variable {Q : Type} [Quiche Q]

/-- However the transport is read from here on, it yields nothing: no HTTP/3
event, no datagram, no writable stream, no capacity for a blocked one, and no
acknowledged ping. -/
structure Drained (c : H3Connection Q) : Prop where
  readable : c.h3Conn = true → ∀ id ∈ c.pendingReadable, c.creditOf id = 0
  h3Poll : c.h3Conn = true → ∀ q, Polled c.quicheConn q → (Quiche.h3Poll q).1 = .error .done
  dgram : ∀ q, Polled c.quicheConn q → ∃ e, (Quiche.dgramRecv q).1 = .error e
  writable : ∀ q, Polled c.quicheConn q → (Quiche.streamWritableNext q).1 = none
  blocked : ∀ id ∈ c.blocked.queue, ∀ q, Polled c.quicheConn q → Quiche.streamCapacity q id = .ok 0
  pings : ∀ ping ∈ c.pingState.head?, ∀ q, Polled c.quicheConn q →
    ¬(ping.targetSentPackets ≤ (Quiche.stats q).sent ∧
      ping.baselineAckedBytes < (Quiche.stats q).ackedBytes)

namespace Drained

variable {c : H3Connection Q}

theorem read (h : c.Drained) {q : Q} (hq : Polled c.quicheConn q) :
    ({ c with quicheConn := q } : H3Connection Q).Drained where
  readable := h.readable
  h3Poll hh q' hq' := h.h3Poll hh q' (hq.trans hq')
  dgram q' hq' := h.dgram q' (hq.trans hq')
  writable q' hq' := h.writable q' (hq.trans hq')
  blocked id hid q' hq' := h.blocked id hid q' (hq.trans hq')
  pings ping hping q' hq' := h.pings ping hping q' (hq.trans hq')

theorem reblocked (h : c.Drained) {b : BlockedStreams} (hb : ∀ id ∈ b.queue, id ∈ c.blocked.queue) :
    ({ c with blocked := b } : H3Connection Q).Drained :=
  { h with blocked := fun id hid => h.blocked id (hb id hid) }

theorem clearStreamTracking (h : c.Drained) (streamId : ℕ) :
    (c.clearStreamTracking streamId).Drained := by
  refine { h with readable := ?_, blocked := ?_ }
  · intro hh id hid
    obtain ⟨hmem, hne⟩ := List.mem_filter.1 hid
    have hne' : id ≠ streamId := by simpa using hne
    have hlook : (c.readCredit.erase streamId).lookup id = c.readCredit.lookup id :=
      AList.lookup_erase_ne hne'
    have hcredit := h.readable hh id hmem
    unfold creditOf at hcredit ⊢
    rw [← hlook] at hcredit
    exact hcredit
  · intro id hid
    apply h.blocked id
    unfold H3Connection.clearStreamTracking BlockedStreams.remove at hid
    dsimp only at hid
    split_ifs at hid
    · exact List.mem_of_mem_filter hid
    · exact hid

theorem pruneClosedBlockedStreams (h : c.Drained) : c.pruneClosedBlockedStreams.Drained := by
  unfold H3Connection.pruneClosedBlockedStreams
  generalize c.blocked.set.filter _ = ids
  induction ids generalizing c with
  | nil => exact h
  | cons id ids ih => exact ih (h.clearStreamTracking id)

end Drained

theorem probe_of_no_capacity {capacity : ℕ → Except QuicheError ℕ} (ref : ConnRef)
    (connHandle : UInt32) (n : ℕ) (b : BlockedStreams) (events : List Emitted)
    (hcap : ∀ id ∈ b.queue, capacity id = .ok 0) :
    (b.probe capacity ref connHandle n events).2 = events ∧
      ∀ id ∈ (b.probe capacity ref connHandle n events).1.queue, id ∈ b.queue := by
  induction n generalizing b with
  | zero => exact ⟨rfl, fun _ hid => hid⟩
  | succ n ih =>
    unfold BlockedStreams.probe
    cases hq : b.queue with
    | nil =>
      refine ⟨rfl, ?_⟩
      intro id hid
      rw [hq] at hid
      exact hid
    | cons streamId rest =>
      have hzero : capacity streamId = .ok 0 := hcap streamId (by simp [hq])
      have hrot : ∀ id ∈ rest ++ [streamId], id ∈ b.queue := by
        intro id hid
        rw [hq]
        simpa [or_comm] using hid
      obtain ⟨hev, hmem⟩ := ih ⟨rest ++ [streamId], b.set⟩ fun id hid => hcap id (hrot id hid)
      simp only [hzero, lt_irrefl, if_false]
      refine ⟨hev, ?_⟩
      intro id hid
      rw [← hq]
      exact hrot id (hmem id hid)

section Poll

variable (ref : ConnRef) (connHandle : UInt32) {c : H3Connection Q}

theorem Drained.nextH3Event (h : c.Drained) (hh : c.h3Conn = true) :
    c.nextH3Event = (.error .done, { c with quicheConn := (Quiche.h3Poll c.quicheConn).2 }) := by
  have hnone : c.pendingReadable.find? (fun id => 0 < c.creditOf id) = none := by
    rw [List.find?_eq_none]
    intro id hid
    simp [h.readable hh id hid]
  have hdone := h.h3Poll hh _ (.refl c.quicheConn)
  unfold H3Connection.nextH3Event
  rw [hnone]
  cases hp : Quiche.h3Poll c.quicheConn with
  | mk answer q =>
    rw [hp] at hdone
    simp only at hdone
    rw [hdone]

theorem Drained.pollLoop (h : c.Drained) (hh : c.h3Conn = true) (fuel remaining : ℕ)
    (events : List Emitted) :
    ∃ q, Polled c.quicheConn q ∧ pollLoop ref connHandle fuel ⟨⟨c, remaining, events⟩, [], []⟩ =
      ⟨⟨{ c with quicheConn := q }, remaining, events⟩, [], []⟩ := by
  cases fuel with
  | zero => exact ⟨c.quicheConn, .refl _, rfl⟩
  | succ fuel =>
    by_cases hr : remaining = 0
    · refine ⟨c.quicheConn, .refl _, ?_⟩
      simp [H3Connection.pollLoop, hr]
    · refine ⟨(Quiche.h3Poll c.quicheConn).2, (Polled.refl _).h3Poll, ?_⟩
      simp [H3Connection.pollLoop, hr, h.nextH3Event hh]

theorem Drained.pollDatagramEvents (h : c.Drained) (remaining : ℕ) (events : List Emitted) :
    ∃ q, Polled c.quicheConn q ∧ pollDatagramEvents ref connHandle remaining c events =
      ({ c with quicheConn := q }, events) := by
  have hnone : (Quiche.dgramRecv c.quicheConn).1.isOk = false := by
    obtain ⟨e, he⟩ := h.dgram _ (.refl c.quicheConn)
    rw [he]
    rfl
  obtain ⟨q, hq, heq⟩ := pollDatagrams_of_error ref connHandle hnone remaining events
  refine ⟨q, ?_, ?_⟩
  · rcases hq with rfl | rfl
    · exact .refl _
    · exact (Polled.refl _).dgramRecv
  · unfold H3Connection.pollDatagramEvents
    rw [heq]

theorem Drained.pollWritable (h : c.Drained) (fuel : ℕ) (events : List Emitted) :
    ∃ q, Polled c.quicheConn q ∧ pollWritable ref connHandle fuel c events =
      ({ c with quicheConn := q }, events) := by
  cases fuel with
  | zero => exact ⟨c.quicheConn, .refl _, rfl⟩
  | succ fuel =>
    have hnone := h.writable _ (.refl c.quicheConn)
    refine ⟨(Quiche.streamWritableNext c.quicheConn).2, (Polled.refl _).streamWritableNext, ?_⟩
    unfold H3Connection.pollWritable
    cases hw : Quiche.streamWritableNext c.quicheConn with
    | mk answer q =>
      rw [hw] at hnone
      simp only at hnone
      rw [hnone]

theorem Drained.pollDrainEvents (h : c.Drained) (events : List Emitted) :
    (pollDrainEvents ref connHandle c events).2 = events ∧
      (pollDrainEvents ref connHandle c events).1.Drained := by
  have hprune := h.pruneClosedBlockedStreams
  obtain ⟨q, hq, hw⟩ := hprune.pollWritable ref connHandle
    (Quiche.rounds c.pruneClosedBlockedStreams.quicheConn) events
  have hread := hprune.read hq
  have hcap : ∀ id ∈ c.pruneClosedBlockedStreams.blocked.queue,
      Quiche.streamCapacity q id = .ok 0 := fun id hid => hread.blocked id hid q (.refl q)
  obtain ⟨hev, hmem⟩ := probe_of_no_capacity ref connHandle
    c.pruneClosedBlockedStreams.blocked.queue.length c.pruneClosedBlockedStreams.blocked events hcap
  unfold H3Connection.pollDrainEvents
  simp only [hw]
  exact ⟨hev, hread.reblocked hmem⟩

theorem Drained.pollH3Events (h : c.Drained) (budget : ℕ) (events : List Emitted) :
    (pollH3Events ref connHandle budget c events).2 = events ∧
      (pollH3Events ref connHandle budget c events).1.Drained := by
  obtain ⟨q, hq, hloop⟩ : ∃ q, Polled c.quicheConn q ∧
      (if 0 < budget ∧ c.h3Conn = true then
        H3Connection.pollLoop ref connHandle (Quiche.rounds c.quicheConn)
          ⟨⟨c, budget, events⟩, [], []⟩
      else ⟨⟨c, budget, events⟩, [], []⟩) =
        ⟨⟨{ c with quicheConn := q }, budget, events⟩, [], []⟩ := by
    by_cases hb : 0 < budget ∧ c.h3Conn = true
    · rw [if_pos hb]
      exact h.pollLoop ref connHandle hb.2 _ budget events
    · rw [if_neg hb]
      exact ⟨c.quicheConn, .refl _, rfl⟩
  have hread := h.read hq
  unfold H3Connection.pollH3Events
  simp only [hloop, List.foldl_nil]
  by_cases hb : 0 < budget
  · obtain ⟨q', hq', hd⟩ := hread.pollDatagramEvents ref connHandle budget events
    rw [if_pos hb, hd]
    exact (hread.read hq').pollDrainEvents ref connHandle events
  · rw [if_neg hb]
    exact hread.pollDrainEvents ref connHandle events

theorem Drained.pollPingAcks (h : c.Drained) (now : ℕ) : c.pollPingAcks now = ([], c) := by
  have hpings := h.pings
  unfold H3Connection.pollPingAcks
  cases hp : c.pingState with
  | nil =>
    simp only [PingState.completeAcked]
    rw [← hp]
  | cons ping rest =>
    rw [hp] at hpings
    have hnot := hpings ping rfl c.quicheConn (.refl _)
    simp only [PingState.completeAcked, if_neg hnot]
    rw [← hp]

end Poll

end H3Connection

end Http3
