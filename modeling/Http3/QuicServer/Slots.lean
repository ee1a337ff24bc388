import Http3.QuicServer.Worker
import Http3.SlotBooks

/-! The raw QUIC server worker as the keeper of its slot books, in the same terms as the
HTTP/3 worker. -/

namespace Http3

namespace QuicServer

open SlotBooks (Reaps)

variable {Q : Type} [Quiche Q] {adds : Bytes → ℕ → Prop} {drops : Bytes → Prop}
  {reaps : ℕ → Prop}

/-- Reaping takes the timers and pending writes of the reaped slots along. -/
theorem foldl_reapConnection_tables (closed : List (ℕ × QuicConnection Q)) (s : QuicServer Q) :
    (closed.foldl reapConnection s).connMap = s.connMap ∧
    (∀ k, k ∈ (closed.foldl reapConnection s).timerHeap.deadlines →
      k ∈ s.timerHeap.deadlines ∧ k ∉ closed.map Prod.fst) ∧
    ∀ key, ((closed.foldl reapConnection s).pendingWrites.lookup key).isSome →
      (s.pendingWrites.lookup key).isSome ∧ key.1.toNat ∉ closed.map Prod.fst := by
  induction closed generalizing s with
  | nil => simp
  | cons entry closed ih =>
    have hone : (s.reapConnection entry).connMap = s.connMap ∧
        (s.reapConnection entry).timerHeap = s.timerHeap.removeConnection entry.1 ∧
        (s.reapConnection entry).pendingWrites =
          KeyMap.retain (fun key => !decide (key.1.toNat = entry.1)) s.pendingWrites := by
      unfold reapConnection releaseOutboundAdmission
      dsimp only
      split_ifs <;> exact ⟨rfl, rfl, rfl⟩
    obtain ⟨hmap, htimers, hwrites⟩ := hone
    obtain ⟨ihmap, ihtimers, ihwrites⟩ := ih (s.reapConnection entry)
    refine ⟨ihmap.trans hmap, ?_, ?_⟩
    · intro k hk
      obtain ⟨hmem, hnot⟩ := ihtimers k hk
      rw [htimers] at hmem
      obtain ⟨hold, hne⟩ := TimerHeap.mem_removeConnection hmem
      exact ⟨hold, by simpa [hne] using hnot⟩
    · intro key hkey
      obtain ⟨hmem, hnot⟩ := ihwrites key hkey
      rw [hwrites, KeyMap.lookup_retain] at hmem
      by_cases hne : key.1.toNat = entry.1
      · simp [hne] at hmem
      · exact ⟨by simpa [hne] using hmem, by simpa [hne] using hnot⟩

theorem reapClosedConnections_reaps (s : QuicServer Q) :
    Reaps ((s.connMap.drainClosed QuicConnection.isClosed).1.map Prod.fst) s.books
      s.reapClosedConnections.books := by
  obtain ⟨hmap, htimers, hwrites⟩ := foldl_reapConnection_tables
    (s.connMap.drainClosed QuicConnection.isClosed).1
    { s with connMap := (s.connMap.drainClosed QuicConnection.isClosed).2 }
  have hreaped : s.reapClosedConnections.connMap =
      (s.connMap.drainClosed QuicConnection.isClosed).2 := hmap
  constructor
  · intro k
    show (s.reapClosedConnections.connMap.get k).map _ = _
    rw [hreaped]
    exact SlotBooks.uidAt_drainClosed _ _ _ _ k
  · intro dcid k
    show s.reapClosedConnections.connMap.byDcid.lookup dcid = some k ↔ _
    rw [hreaped]
    exact s.connMap.lookup_drainClosed QuicConnection.isClosed dcid k
  · exact htimers
  · rintro k ⟨key, hkey, rfl⟩
    obtain ⟨hold, hnot⟩ := hwrites key hkey
    exact ⟨⟨key, hold, rfl⟩, hnot⟩

/-- Everything the loop asks of the server is a run of moves: packets change routes, reaping
vacates slots, the rest tends to what is there. -/
theorem apply_slotMoves (op : QuicServerOp) (s : QuicServer Q)
    (hids : ∀ direct p budget now scids, op = .packet direct p budget now scids →
      ∀ ids ∈ s.packetIds p budget now scids,
        (∀ id ∈ ids.registered, adds id ids.slot) ∧ ∀ id ∈ ids.retired, drops id)
    (hreap : op = .reapClosedConnections →
      ∀ k c, s.connMap.get k = some c → c.isClosed = true → reaps k) :
    SlotBooks.Moves adds drops reaps s.books (op.apply s).books := by
  let t : Terms := ⟨True, False, adds, drops, reaps⟩
  have hopen : ∀ {P : Prop}, t.gated → P := False.elim
  cases op with
  | command now cmd => exact (dispatchCommand_steps now (t := t) fun _ => trivial).slots
  | packet direct p budget now scids =>
    exact (packetArrives_steps direct hopen (hids direct p budget now scids rfl)).slots
  | expireTimers now budget => exact (expireTimers_steps (t := t) hopen).slots
  | collectAppEvents budget now => exact (collectAppEvents_steps (t := t) hopen).slots
  | collectDrainEvents budget => exact (Steps.foldl (t := t) (drainConn_steps budget) _ s).slots
  | flushAllPendingWrites => exact (s.flushAllPendingWrites_steps (t := t)).slots
  | flushAllSends rounds now => exact (flushAllSends_steps (t := t) rounds now s).slots
  | reapClosedConnections =>
    refine (SlotBooks.Moves.refl s.books).tail (.reap s.reapClosedConnections_reaps ?_)
    intro k hk
    obtain ⟨c, hc, hclosed⟩ := (s.connMap.mem_map_drainClosed QuicConnection.isClosed).1 hk
    exact hreap rfl k c hc hclosed
  | emitSessionCloseForAllActive =>
    exact (Steps.foldl (t := t) emitSessionCloseFor_steps _ s).slots

end QuicServer

end Http3
