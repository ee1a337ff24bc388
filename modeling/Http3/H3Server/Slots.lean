import Http3.H3Server.Sessions
import Http3.SlotBooks

/-! The HTTP/3 server worker as the keeper of its slot books: every command, packet,
timer, poll, flush and reap is a run of moves on them. -/

namespace Http3

namespace H3Server

variable {Q : Type} [Quiche Q]

def packetIds (direct : Bool) (p : Packet) (budget now : ℕ) (scids : List Bytes)
    (s : H3Server Q) : Option PacketIds :=
  p.header.bind fun hdr =>
    let (routed, s₁) := s.routeOrAccept hdr p now scids
    routed.map fun slot =>
      let changes := s₁.scidChanges direct slot p budget now
      ⟨slot, acceptedIds (s.connMap.routePacket hdr.dcid).isSome s.disableRetry hdr.dcid
        (hdr.odcid Q p.peer now) scids ++ changes.1.toList ++ scids.tail, changes.2⟩

section Moves

open SlotBooks (Tends Moves Reaps)

variable {adds : Bytes → ℕ → Prop} {drops : Bytes → Prop} {reaps : ℕ → Prop}

theorem routeOrAccept_moves (hdr : PacketHeader) (p : Packet) (now : ℕ) (scids : List Bytes)
    (s : H3Server Q) (hadd : ∀ slot, (s.routeOrAccept hdr p now scids).1 = some slot →
      ∀ id ∈ acceptedIds (s.connMap.routePacket hdr.dcid).isSome s.disableRetry hdr.dcid
        (hdr.odcid Q p.peer now) scids, adds id slot) :
    Moves adds drops reaps s.books (s.routeOrAccept hdr p now scids).2.books :=
  SlotBooks.routeAndAnnounce_moves _ _ _ (fun _ _ _ => rfl) hadd

theorem packetArrives_moves (direct : Bool) (p : Packet) (budget now : ℕ) (scids : List Bytes)
    (s : H3Server Q) (hids : ∀ ids ∈ s.packetIds direct p budget now scids,
      (∀ id ∈ ids.registered, adds id ids.slot) ∧ ∀ id ∈ ids.retired, drops id) :
    Moves adds drops reaps s.books (s.packetArrives direct p budget now scids).books := by
  revert hids
  unfold packetArrives packetIds
  cases p.header with
  | none => exact fun _ => .refl _
  | some hdr =>
    have hroute : _ → Moves adds drops reaps s.books (s.routeOrAccept hdr p now scids).2.books :=
      routeOrAccept_moves hdr p now scids s
    simp only [Option.bind_some]
    generalize s.routeOrAccept hdr p now scids = r at hroute ⊢
    obtain ⟨_ | handle, s₁⟩ := r
    · exact fun _ => hroute (by simp)
    · intro hids
      obtain ⟨hadd, hdrop⟩ := hids _ rfl
      have hrouted := hroute fun slot hslot id hid => by
        cases hslot
        exact hadd id (by simp [hid])
      refine hrouted.trans
        (receivePacket_receives direct handle p budget now scids.tail s₁ ?_ hdrop ?_).moves
      · intro id hid
        exact hadd id (by simp [Option.mem_def.1 hid])
      · intro id hid
        exact hadd id (by simp [hid])

theorem reapConnection_tables (s : H3Server Q) (entry : ℕ × H3Connection Q) :
    (s.reapConnection entry).timerHeap = s.timerHeap.removeConnection entry.1 ∧
      (s.reapConnection entry).pendingSessionCloses =
        s.pendingSessionCloses.erase (UInt32.ofNat entry.1) := by
  unfold reapConnection releaseOutboundAdmission
  dsimp only
  split_ifs <;> exact ⟨rfl, rfl⟩

theorem foldl_reapConnection_tables (closed : List (ℕ × H3Connection Q)) (s : H3Server Q) :
    (∀ k, k ∈ (closed.foldl reapConnection s).timerHeap.deadlines →
      k ∈ s.timerHeap.deadlines ∧ k ∉ closed.map Prod.fst) ∧
    ∀ connHandle, ((closed.foldl reapConnection s).pendingSessionCloses.lookup connHandle).isSome →
      (s.pendingSessionCloses.lookup connHandle).isSome ∧
        connHandle.toNat ∉ closed.map Prod.fst := by
  induction closed generalizing s with
  | nil => simp
  | cons entry closed ih =>
    obtain ⟨htimers, hcloses⟩ := s.reapConnection_tables entry
    obtain ⟨ihtimers, ihcloses⟩ := ih (s.reapConnection entry)
    constructor
    · intro k hk
      obtain ⟨hmem, hnot⟩ := ihtimers k hk
      rw [htimers] at hmem
      obtain ⟨hold, hne⟩ := TimerHeap.mem_removeConnection hmem
      exact ⟨hold, by simpa [hne] using hnot⟩
    · intro connHandle hsome
      obtain ⟨hmem, hnot⟩ := ihcloses connHandle hsome
      rw [hcloses] at hmem
      have hne : connHandle.toNat ≠ entry.1 := by
        intro heq
        rw [← heq, UInt32.ofNat_toNat, AList.lookup_erase] at hmem
        cases hmem
      exact ⟨KeyMap.isSome_of_erase hmem, by simpa [hne] using hnot⟩

theorem reapClosedConnections_reaps (s : H3Server Q) :
    Reaps ((s.connMap.drainClosed H3Connection.isClosed).1.map Prod.fst) s.books
      s.reapClosedConnections.books := by
  obtain ⟨hmap, -, hpending, -⟩ := foldl_reapConnection
    (s.connMap.drainClosed H3Connection.isClosed).1
    { s with connMap := (s.connMap.drainClosed H3Connection.isClosed).2 }
  obtain ⟨htimers, hcloses⟩ := foldl_reapConnection_tables
    (s.connMap.drainClosed H3Connection.isClosed).1
    { s with connMap := (s.connMap.drainClosed H3Connection.isClosed).2 }
  have hreaped : s.reapClosedConnections.connMap =
      (s.connMap.drainClosed H3Connection.isClosed).2 := hmap
  constructor
  · intro k
    show (s.reapClosedConnections.connMap.get k).map _ = _
    rw [hreaped]
    exact SlotBooks.uidAt_drainClosed _ _ _ _ k
  · intro dcid k
    show s.reapClosedConnections.connMap.byDcid.lookup dcid = some k ↔ _
    rw [hreaped]
    exact s.connMap.lookup_drainClosed H3Connection.isClosed dcid k
  · exact htimers
  · rintro k (⟨key, hkey, rfl⟩ | ⟨connHandle, hclose, rfl⟩)
    · obtain ⟨hold, hnot⟩ := (hpending key).1 hkey
      exact ⟨.inl ⟨key, hold, rfl⟩, hnot⟩
    · obtain ⟨hold, hnot⟩ := hcloses connHandle hclose
      exact ⟨.inr ⟨connHandle, hold, rfl⟩, hnot⟩

/-- Everything the loop asks of the server between commands is a run of moves: packets
change routes, reaping vacates slots, the rest tends to what is there. -/
theorem apply_moves (op : ServerOp) (s : H3Server Q)
    (hids : ∀ direct p budget now scids, op = .packet direct p budget now scids →
      ∀ ids ∈ s.packetIds direct p budget now scids,
        (∀ id ∈ ids.registered, adds id ids.slot) ∧ ∀ id ∈ ids.retired, drops id)
    (hreap : op = .reapClosedConnections →
      ∀ k c, s.connMap.get k = some c → c.isClosed = true → reaps k) :
    Moves adds drops reaps s.books (op.apply s).books := by
  cases op with
  | packet direct p budget now scids =>
    exact packetArrives_moves direct p budget now scids s (hids direct p budget now scids rfl)
  | expireTimers now budget => exact (expireTimers_course now budget s).2.moves
  | collectAppEvents budget now =>
    exact (collectAppEvents_steady (P := fun _ => True) budget now s
      (.inr fun _ _ _ => .inl trivial)).tends.moves
  | collectDrainEvents =>
    exact (s.collectDrainEvents_steady (P := fun _ => True) fun _ _ => trivial).tends.moves
  | flushAllPendingWrites =>
    exact (s.flushAllPendingWrites_steady (P := fun _ => True)
      ⟨fun _ _ => trivial, fun _ _ => trivial⟩).tends.moves
  | flushAllSends rounds now =>
    exact (flushAllSends_steady (P := fun _ => True) rounds now s).tends.moves
  | reapClosedConnections =>
    refine (Moves.refl s.books).tail (.reap s.reapClosedConnections_reaps ?_)
    intro k hk
    obtain ⟨c, hc, hclosed⟩ := (s.connMap.mem_map_drainClosed H3Connection.isClosed).1 hk
    exact hreap rfl k c hc hclosed
  | emitSessionCloseForAllActive => exact s.emitSessionCloseForAllActive_course.2.moves

end Moves

end H3Server

end Http3
