import Http3.H3Server.Steady
import Http3.H3Server.Books

/-! How sessions begin and end on the HTTP/3 server worker: which steps accept
connections, which forget them, and what they report about it. -/

namespace Http3

namespace H3Server

variable {Q : Type} [Quiche Q]

/-- A connection is accepted into a vacant slot and announced. -/
structure Opens (slot : ℕ) (s s' : H3Server Q) : Prop where
  vacant : s.connMap.get slot = none
  conns : ∀ k, k ≠ slot → s'.connMap.get k = s.connMap.get k
  fresh : ∃ q scid, s'.connMap.get slot = some (.new s.connMap.acceptedCount q scid)
  lt_max : slot < s.connMap.maxConnections
  acceptedCount : s'.connMap.acceptedCount = s.connMap.acceptedCount + 1
  maxConnections : s'.connMap.maxConnections = s.connMap.maxConnections
  handleOffset : s'.handleOffset = s.handleOffset
  batch : ∃ ip port, s'.batch = s.batch ++ [⟨some ⟨slot, s.connMap.acceptedCount⟩,
    .newSession (globalHandle s.handleOffset slot) ip port ""⟩]

omit [Quiche Q] in
theorem Opens.uidAt {slot : ℕ} {s s' : H3Server Q} (h : Opens slot s s') (k : ℕ) :
    s'.uidAt k = if k = slot then some s.connMap.acceptedCount else s.uidAt k := by
  by_cases hk : k = slot
  · obtain ⟨q, scid, hnew⟩ := h.fresh
    rw [if_pos hk, hk, uidAt_of_get hnew]
    rfl
  · rw [if_neg hk]
    unfold H3Server.uidAt
    rw [h.conns k hk]

theorem routeOrAccept_opens (hdr : PacketHeader) (p : Packet) (now : ℕ) (scids : List Bytes)
    (s : H3Server Q) :
    (s.routeOrAccept hdr p now scids).2 = s ∨
      ∃ slot, (s.routeOrAccept hdr p now scids).1 = some slot ∧
        s.connMap.Admits Q s.disableRetry hdr p now ∧
        Opens slot s (s.routeOrAccept hdr p now scids).2 := by
  unfold routeOrAccept ConnectionMap.routeAndAnnounce
  cases hroute : s.connMap.routeOrAccept s.disableRetry hdr p now scids with
  | known handle => exact .inl rfl
  | dropped => exact .inl rfl
  | accepted slot m =>
    obtain ⟨hadmits, haccepted⟩ := ConnectionMap.routeOrAccept_accepted hroute
    obtain ⟨q, scid, hget⟩ := haccepted.conns
    have hnew := hget slot
    rw [if_pos rfl] at hnew
    refine .inr ⟨slot, rfl, hadmits, ?_⟩
    refine ⟨haccepted.vacant, ?_, ⟨q, scid, hnew⟩, ?_, haccepted.acceptedCount,
      haccepted.maxConnections, rfl, ⟨_, _, rfl⟩⟩
    · intro k hk
      exact (hget k).trans (if_neg hk)
    · rw [← haccepted.maxConnections]
      exact m.lt_maxConnections (by rw [hnew]; rfl)

theorem packetArrives_sessions (direct : Bool) (p : Packet) (budget now : ℕ) (scids : List Bytes)
    (s : H3Server Q) :
    (∃ slot, ActsOn slot (globalHandle s.handleOffset slot) s
      (s.packetArrives direct p budget now scids)) ∨
    ∃ slot s₁, Opens slot s s₁ ∧ ActsOn slot (globalHandle s.handleOffset slot) s₁
        (s.packetArrives direct p budget now scids) ∧
      ∃ hdr, p.header = some hdr ∧ s.connMap.Admits Q s.disableRetry hdr p now := by
  unfold packetArrives
  cases p.header with
  | none => exact .inl ⟨0, .refl _ _ s⟩
  | some hdr =>
    have hroute := routeOrAccept_opens hdr p now scids s
    dsimp only
    generalize s.routeOrAccept hdr p now scids = r at hroute ⊢
    obtain ⟨_ | handle, s₁⟩ := r
    · rcases hroute with hsame | ⟨slot, hslot, -⟩
      · dsimp only at hsame ⊢
        rw [hsame]
        exact .inl ⟨0, .refl _ _ s⟩
      · cases hslot
    · have hreceives : Receives (fun _ _ => True) (fun _ => True) (fun _ => True) handle _ s₁ _ :=
        receivePacket_receives direct handle p budget now scids.tail s₁ (by simp)
          (by simp) (by simp)
      have hrecv := hreceives.toActsOn
      rcases hroute with hsame | ⟨slot, hslot, hadmits, hopen⟩
      · dsimp only at hsame
        rw [hsame] at hrecv ⊢
        exact .inl ⟨handle, hrecv⟩
      · obtain rfl : handle = slot := Option.some.inj hslot
        rw [hopen.handleOffset] at hrecv
        exact .inr ⟨handle, s₁, hopen, hrecv, hdr, rfl, hadmits⟩

section Commands

/-- The handle under which a command's own events go out: a stream close reports
under the handle it came with. -/
def reportHandle (handleOffset : UInt32) : WorkerCommand → UInt32
  | .streamClose connHandle _ _ => connHandle
  | cmd => handleOffset ||| commandConnHandle cmd

theorem dispatchCommand_spec (now : ℕ) {cmd : WorkerCommand} (hcmd : cmd ≠ .shutdown)
    (s : H3Server Q) :
    ActsOn (commandConnHandle cmd).toNat (reportHandle s.handleOffset cmd) s
        (s.dispatchCommand now cmd).2 ∧
      SlotBooks.Tends s.books (s.dispatchCommand now cmd).2.books := by
  cases cmd with
  | sendResponseHeaders connHandle streamId headers fin =>
    exact Serves.spec (dispatchSendResponseHeaders_serves headers fin)
  | sendResponse connHandle streamId headers body fin =>
    exact Serves.spec (dispatchSendResponse_serves headers body fin)
  | streamSend connHandle streamId chunk fin =>
    exact Serves.spec (dispatchStreamSend_serves chunk fin)
  | streamReadCredit connHandle streamId bytes =>
    apply Serves.spec
    unfold dispatchCommand
    dsimp only
    cases hc : s.conn? connHandle with
    | none => exact .refl _ _ s
    | some c => exact (Serves.refl _ _ s).set ((Has.of_get hc).use (.addReadCredit streamId bytes))
  | streamClose connHandle streamId errorCode =>
    exact Serves.spec (dispatchStreamClose_serves errorCode fun _ _ _ => rfl)
  | sendTrailers connHandle streamId headers =>
    apply Serves.spec
    unfold dispatchCommand dispatchSendTrailers
    dsimp only
    cases hc : s.conn? connHandle with
    | none => exact .refl _ _ s
    | some c => exact (Serves.refl _ _ s).set ((Has.of_get hc).use (.sendTrailers streamId headers))
  | closeSession connHandle errorCode reason =>
    exact ⟨dispatchCloseSession_actsOn errorCode reason now,
      dispatchCloseSession_tends errorCode reason now⟩
  | sendDatagram connHandle data => exact Serves.spec (dispatchSendDatagram_serves data)
  | pingSession connHandle => exact Serves.spec (dispatchPingSession_serves now)
  | shutdown => exact absurd rfl hcmd

theorem dispatchCommand_course (now : ℕ) (cmd : WorkerCommand) (s : H3Server Q) :
    Course s (s.dispatchCommand now cmd).2 ∧
      SlotBooks.Tends s.books (s.dispatchCommand now cmd).2.books := by
  by_cases hcmd : cmd = .shutdown
  · have hsteady := dispatchShutdown_steady (P := fun _ => True) s
    rw [hcmd]
    exact ⟨hsteady.toCourse, hsteady.tends⟩
  · obtain ⟨hacts, htends⟩ := dispatchCommand_spec now hcmd s
    exact ⟨hacts.toCourse, htends⟩

end Commands

section Closing

variable {s s' : H3Server Q}

/-- The close of the session in `slot` is reported; the connection stays for now. -/
structure Closes (slot : ℕ) (s s' : H3Server Q) : Prop extends Course s s' where
  conns : ∀ k, k ≠ slot → s'.connMap.get k = s.connMap.get k
  tends : SlotBooks.Tends s.books s'.books
  batch : ∃ uid event, s.uidAt slot = some uid ∧
    event.connHandle = globalHandle s.handleOffset slot ∧
    event.eventType = .sessionClose ∧ s'.batch = s.batch ++ [⟨some ⟨slot, uid⟩, event⟩]

def closedByTimer (s : H3Server Q) (handle : ℕ) : Bool :=
  (s.connMap.get handle).elim false fun c => c.onTimeout.isClosed

theorem expireTimer_cases (now budget : ℕ) (s : H3Server Q) (handle : ℕ) :
    (s.closedByTimer handle = true ∧ Closes handle s (s.expireTimer now budget handle) ∧
      ∃ c, (s.expireTimer now budget handle).connMap.get handle = some c ∧ c.isClosed = true) ∨
    (s.closedByTimer handle = false ∧
      ActsOn handle (globalHandle s.handleOffset handle) s (s.expireTimer now budget handle) ∧
      SlotBooks.Tends s.books (s.expireTimer now budget handle).books) := by
  unfold expireTimer closedByTimer
  cases hc : s.connMap.get handle with
  | none => exact .inr ⟨rfl, .refl _ _ s, .refl _⟩
  | some c =>
    have hd := (Has.of_get hc).use .onTimeout
    have hset := (Serves.refl handle (globalHandle s.handleOffset handle) s).set hd
    dsimp only [Option.elim]
    split_ifs with hclosed
    · obtain ⟨hkind, hhandle⟩ := sessionCloseEvent_kind c.onTimeout
        (globalHandle s.handleOffset handle)
      refine .inl ⟨hclosed, ⟨{ hset.toCourse with }, hset.conns, hset.tends, ?_⟩, c.onTimeout, ?_,
        hclosed⟩
      · exact ⟨c.onTimeout.uid, _, hd.uidAt, hhandle, hkind, rfl⟩
      · refine (ConnectionMap.get_set _).trans (if_pos ⟨rfl, ?_⟩)
        rw [hc]
        rfl
    · have hpoll := hset.pollConn hd budget now
      refine .inr ⟨by simpa using hclosed, { hpoll.toActsOn with }, hpoll.tends.trans ?_⟩
      exact setDeadline_tends ((hpoll.uid handle).symm ▸ hd.live) _

theorem foldl_course {α : Type} {f : H3Server Q → α → H3Server Q}
    (hf : ∀ s a, Course s (f s a) ∧ SlotBooks.Tends s.books (f s a).books) (as : List α)
    (s : H3Server Q) : Course s (as.foldl f s) ∧ SlotBooks.Tends s.books (as.foldl f s).books :=
  List.foldlRecOn as f (motive := fun s' => Course s s' ∧ SlotBooks.Tends s.books s'.books)
    ⟨.refl s, .refl _⟩ fun s' h a _ => ⟨h.1.trans (hf s' a).1, h.2.trans (hf s' a).2⟩

theorem completeDueCloses_steady {P : ℕ → Prop} (now : ℕ) (s : H3Server Q) :
    Steady P s (s.completeDueCloses now) := by
  refine Steady.foldl (I := fun _ => True) (fun _ _ _ _ => trivial) ?_ _ s trivial
  intro s connHandle _
  exact s.completeSessionClose_steady connHandle

theorem expireTimers_course (now budget : ℕ) (s : H3Server Q) :
    Course (s.popTimers now) (s.expireTimers now budget) ∧
      SlotBooks.Tends s.books (s.expireTimers now budget).books := by
  have hpop : SlotBooks.Tends s.books (s.popTimers now).books := by
    refine ⟨rfl, rfl, ?_, fun _ => .inl⟩
    intro k hk
    exact .inl (TimerHeap.mem_popExpiredLoop hk)
  obtain ⟨hcourse, htends⟩ := foldl_course (f := expireTimer now budget) (fun s handle => by
    rcases expireTimer_cases now budget s handle with ⟨-, hclose, -⟩ | ⟨-, hacts, htends⟩
    · exact ⟨hclose.toCourse, hclose.tends⟩
    · exact ⟨hacts.toCourse, htends⟩) (s.popTimers now).lastExpired (s.popTimers now)
  have hcloses := completeDueCloses_steady (P := fun _ => True) now (s.runTimers now budget)
  exact ⟨hcourse.trans hcloses.toCourse, (hpop.trans htends).trans hcloses.tends⟩

theorem emitSessionCloseFor_cases (s : H3Server Q) (handle : ℕ) :
    (s.connMap.get handle = none ∧ s.emitSessionCloseFor handle = s) ∨
      Closes handle s (s.emitSessionCloseFor handle) := by
  unfold emitSessionCloseFor
  cases hc : s.connMap.get handle with
  | none => exact .inl ⟨rfl, rfl⟩
  | some c =>
    refine .inr ⟨{ Course.refl s with }, fun _ _ => rfl, .refl _, ?_⟩
    exact ⟨c.uid, _, uidAt_of_get hc, rfl, rfl, rfl⟩

theorem emitSessionCloseForAllActive_course (s : H3Server Q) :
    Course s s.emitSessionCloseForAllActive ∧
      SlotBooks.Tends s.books s.emitSessionCloseForAllActive.books := by
  refine foldl_course (fun s handle => ?_) _ s
  rcases s.emitSessionCloseFor_cases handle with ⟨-, hsame⟩ | hclose
  · rw [hsame]
    exact ⟨.refl s, .refl _⟩
  · exact ⟨hclose.toCourse, hclose.tends⟩

end Closing

section Reaping

/-- Pending data is not added to. -/
structure FewerPending (s s' : H3Server Q) : Prop where
  writes : ∀ key, (s'.pendingWrites.lookup key).isSome → (s.pendingWrites.lookup key).isSome
  responses : ∀ key, (s'.pendingResponses.lookup key).isSome →
    (s.pendingResponses.lookup key).isSome

/-- What is reported about a connection that is forgotten: resets of the streams
with something pending, and the close unless it was reported before. -/
structure Reaped (handle uid : ℕ) (s s' : H3Server Q) : Prop where
  connMap : s'.connMap = s.connMap
  handleOffset : s'.handleOffset = s.handleOffset
  lastExpired : s'.lastExpired = s.lastExpired
  pending : ∀ key, s'.HasPending key ↔ s.HasPending key ∧ key.1.toNat ≠ handle
  fewer : FewerPending s s'
  batch : ∃ (resets wakes : List Emitted) (close : JsH3Event),
    (∀ e ∈ resets, e.owner = some ⟨handle, uid⟩ ∧ e.event.eventType = .reset ∧
      e.event.connHandle = globalHandle s.handleOffset handle) ∧
    (resets ≠ [] → ∃ key, s.HasPending key ∧ key.1.toNat = handle) ∧
    (∀ e ∈ wakes, IsWake e) ∧ close.eventType = .sessionClose ∧
    close.connHandle = globalHandle s.handleOffset handle ∧
    s'.batch = s.batch ++ resets ++ wakes ++
      if handle ∈ s.lastExpired then [] else [⟨some ⟨handle, uid⟩, close⟩]

omit [Quiche Q] in
theorem foldl_pushFor (ref : ConnRef) (event : ℕ → JsH3Event) (ids : List ℕ)
    (batch : List Emitted) :
    ids.foldl (fun batch id => pushFor ref (event id) batch) batch =
      batch ++ ids.map fun id => ⟨some ref, event id⟩ := by
  induction ids generalizing batch with
  | nil => exact (List.append_nil batch).symm
  | cons id ids ih =>
    rw [List.foldl_cons, ih, pushFor, List.append_assoc]
    rfl

omit [Quiche Q] in
theorem releaseOutboundAdmission_batch (s : H3Server Q) (units : ℕ) :
    ∃ wakes : List Emitted, (∀ e ∈ wakes, IsWake e) ∧
      (s.releaseOutboundAdmission units).batch = s.batch ++ wakes := by
  unfold H3Server.releaseOutboundAdmission
  dsimp only
  split_ifs
  · exact ⟨[⟨none, .writeReady 0⟩], fun e he => List.mem_singleton.1 he, rfl⟩
  · exact ⟨[], by simp, (List.append_nil _).symm⟩

omit [Quiche Q] in
theorem hasPending_of_abandoned {s : H3Server Q} {handle streamId : ℕ}
    (h : streamId ∈ s.abandonedStreams handle) :
    ∃ key, s.HasPending key ∧ key.1.toNat = handle := by
  unfold abandonedStreams at h
  rw [List.mem_dedup, List.mem_insertionSort, List.mem_map] at h
  obtain ⟨key, hkey, -⟩ := h
  obtain ⟨hmem, hhandle⟩ := List.mem_filter.1 hkey
  refine ⟨key, ?_, by simpa using hhandle⟩
  rcases List.mem_append.1 hmem with hw | hr
  · exact .inl (AList.lookup_isSome.2 hw)
  · exact .inr (AList.lookup_isSome.2 hr)

omit [Quiche Q] in
theorem abandonConn_pending (s : H3Server Q) (ref : ConnRef) (key : StreamKey) :
    (s.abandonConn ref).HasPending key ↔ s.HasPending key ∧ key.1.toNat ≠ ref.slot := by
  unfold HasPending abandonConn
  dsimp only
  rw [KeyMap.lookup_retain, KeyMap.lookup_retain]
  by_cases hk : key.1.toNat = ref.slot <;> simp [hk]

omit [Quiche Q] in
theorem abandonConn_fewer (s : H3Server Q) (ref : ConnRef) :
    FewerPending s (s.abandonConn ref) := by
  constructor
  all_goals
    intro key hkey
    unfold abandonConn at hkey
    dsimp only at hkey
    rw [KeyMap.lookup_retain] at hkey
    by_cases hk : key.1.toNat = ref.slot
    · simp [hk] at hkey
    · simpa [hk] using hkey

theorem reapConnection_reaped (s : H3Server Q) (handle : ℕ) (conn : H3Connection Q) :
    Reaped handle conn.uid s (s.reapConnection (handle, conn)) := by
  have hpending := s.abandonConn_pending ⟨handle, conn.uid⟩
  have hfewer := s.abandonConn_fewer ⟨handle, conn.uid⟩
  have hbatch : (s.abandonConn ⟨handle, conn.uid⟩).batch = _ := foldl_pushFor _ _ _ _
  obtain ⟨wakes, hwakes, hrel⟩ := (s.abandonConn ⟨handle, conn.uid⟩).releaseOutboundAdmission_batch
    (s.pendingUnitsOf handle)
  rw [hbatch] at hrel
  have hresets : ∀ e ∈ (s.abandonedStreams handle).map fun streamId =>
      (⟨some ⟨handle, conn.uid⟩, .reset (globalHandle s.handleOffset handle) streamId 0⟩ : Emitted),
      e.owner = some ⟨handle, conn.uid⟩ ∧ e.event.eventType = .reset ∧
        e.event.connHandle = globalHandle s.handleOffset handle := by
    intro e he
    obtain ⟨streamId, -, rfl⟩ := List.mem_map.1 he
    exact ⟨rfl, rfl, rfl⟩
  have hwhy : (s.abandonedStreams handle).map (fun streamId =>
      (⟨some ⟨handle, conn.uid⟩, .reset (globalHandle s.handleOffset handle) streamId 0⟩ :
        Emitted)) ≠ [] → ∃ key, s.HasPending key ∧ key.1.toNat = handle := by
    intro hne
    obtain ⟨streamId, hmem⟩ := List.exists_mem_of_ne_nil _ (mt List.map_eq_nil_iff.2 hne)
    exact hasPending_of_abandoned hmem
  obtain ⟨hkind, hhandle⟩ := sessionCloseEvent_kind conn (globalHandle s.handleOffset handle)
  unfold reapConnection
  dsimp only
  rw [handleOffset_releaseOutboundAdmission, lastExpired_releaseOutboundAdmission]
  have hlast : (s.abandonConn ⟨handle, conn.uid⟩).lastExpired = s.lastExpired := rfl
  have hoff : (s.abandonConn ⟨handle, conn.uid⟩).handleOffset = s.handleOffset := rfl
  rw [hlast, hoff]
  -- the last event is the only difference between the two outcomes
  by_cases hexpired : handle ∈ s.lastExpired
  · rw [if_pos hexpired]
    refine ⟨by simp [abandonConn], by simp [abandonConn], by simp [abandonConn], ?_, ?_, _,
      wakes, _, hresets, hwhy, hwakes, hkind, hhandle, ?_⟩
    · intro key
      simpa [HasPending] using hpending key
    · constructor
      · simpa using hfewer.writes
      · simpa using hfewer.responses
    · rw [if_pos hexpired, List.append_nil]
      exact hrel
  · rw [if_neg hexpired]
    refine ⟨by simp [abandonConn, emit], by simp [abandonConn, emit], by simp [abandonConn, emit],
      ?_, ?_, _, wakes, _, hresets, hwhy, hwakes, hkind, hhandle, ?_⟩
    · intro key
      simpa [HasPending, emit] using hpending key
    · constructor
      · simpa [emit] using hfewer.writes
      · simpa [emit] using hfewer.responses
    · rw [if_neg hexpired, ← hrel]
      rfl

theorem foldl_reapConnection (closed : List (ℕ × H3Connection Q)) (s : H3Server Q) :
    (closed.foldl reapConnection s).connMap = s.connMap ∧
      (closed.foldl reapConnection s).handleOffset = s.handleOffset ∧
      (∀ key, (closed.foldl reapConnection s).HasPending key ↔
        s.HasPending key ∧ key.1.toNat ∉ closed.map Prod.fst) ∧
      FewerPending s (closed.foldl reapConnection s) := by
  induction closed generalizing s with
  | nil => exact ⟨rfl, rfl, by simp, fun _ => id, fun _ => id⟩
  | cons entry closed ih =>
    have hone := s.reapConnection_reaped entry.1 entry.2
    obtain ⟨hmap, hoff, hpending, hfewer⟩ := ih (s.reapConnection entry)
    refine ⟨hmap.trans hone.connMap, hoff.trans hone.handleOffset, ?_, ?_⟩
    · intro key
      rw [List.foldl_cons, hpending key, hone.pending key, List.map_cons, List.mem_cons]
      tauto
    · constructor
      · exact fun key hkey => hone.fewer.writes key (hfewer.writes key hkey)
      · exact fun key hkey => hone.fewer.responses key (hfewer.responses key hkey)

theorem reapClosedConnections_spec (s : H3Server Q) :
    (∀ k, s.reapClosedConnections.connMap.get k =
      if ∃ c, s.connMap.get k = some c ∧ c.isClosed = true then none else s.connMap.get k) ∧
    s.reapClosedConnections.handleOffset = s.handleOffset ∧
    (∀ key, s.reapClosedConnections.HasPending key ↔ s.HasPending key ∧
      ¬∃ c, s.connMap.get key.1.toNat = some c ∧ c.isClosed = true) ∧
    FewerPending s s.reapClosedConnections := by
  have hmem : ∀ k, k ∈ (s.connMap.drainClosed H3Connection.isClosed).1.map Prod.fst ↔
      ∃ c, s.connMap.get k = some c ∧ c.isClosed = true := by
    intro k
    simp only [List.mem_map, Prod.exists, ConnectionMap.mem_drainClosed, exists_and_right,
      exists_eq_right]
  obtain ⟨hmap, hoff, hpending, hfewer⟩ := foldl_reapConnection
    (s.connMap.drainClosed H3Connection.isClosed).1
    { s with connMap := (s.connMap.drainClosed H3Connection.isClosed).2 }
  refine ⟨?_, hoff, ?_, ⟨hfewer.writes, hfewer.responses⟩⟩
  · intro k
    have hget := s.connMap.get_drainClosed H3Connection.isClosed k
    rw [← hget]
    exact congrArg (ConnectionMap.get · k) hmap
  · intro key
    have hkey := hpending key
    rw [hmem] at hkey
    exact hkey

theorem reapClosedConnections_counts (s : H3Server Q) :
    s.reapClosedConnections.connMap.acceptedCount = s.connMap.acceptedCount ∧
      s.reapClosedConnections.connMap.maxConnections = s.connMap.maxConnections := by
  have hmap := (foldl_reapConnection (s.connMap.drainClosed H3Connection.isClosed).1
    { s with connMap := (s.connMap.drainClosed H3Connection.isClosed).2 }).1
  have hcounts := ConnectionMap.counts_foldl_remove
    ((s.connMap.drainClosed H3Connection.isClosed).1.map Prod.fst) s.connMap
  have hreap : s.reapClosedConnections.connMap =
      (s.connMap.drainClosed H3Connection.isClosed).2 := hmap
  rw [hreap]
  exact hcounts

theorem reapClosedConnections_uidAt (s : H3Server Q) (k : ℕ) :
    s.reapClosedConnections.uidAt k =
      if ∃ c, s.connMap.get k = some c ∧ c.isClosed = true then none else s.uidAt k := by
  unfold uidAt
  rw [s.reapClosedConnections_spec.1 k]
  split_ifs <;> rfl

end Reaping

section Going

/-- An event that is located, opens no session and does not end the worker. -/
def Told (s : H3Server Q) (e : Emitted) : Prop :=
  Located s.handleOffset s.connMap.maxConnections e ∧ e.event.eventType ≠ .newSession ∧
    NotSentinel e

omit [Quiche Q] in
theorem Talks.plain {s : H3Server Q} {slot : ℕ} {connHandle : UInt32} {e : Emitted}
    (h : s.Talks slot connHandle e) : e.event.eventType ≠ .newSession ∧ NotSentinel e := by
  rcases h with hwake | ⟨-, -, -, -, hmid⟩
  · rw [hwake]
    exact ⟨EventType.noConfusion, EventType.noConfusion⟩
  · constructor
    all_goals
      intro hkind
      rw [hkind] at hmid
      cases hmid

omit [Quiche Q] in
theorem lt_max_of_uidAt {s : H3Server Q} {slot uid : ℕ} (h : s.uidAt slot = some uid) :
    slot < s.connMap.maxConnections := by
  obtain ⟨c, hc, -⟩ := Option.map_eq_some_iff.1 h
  exact s.connMap.lt_maxConnections (by simp [hc])

omit [Quiche Q] in
theorem Talks.told {s : H3Server Q} {slot : ℕ} {e : Emitted}
    (h : s.Talks slot (globalHandle s.handleOffset slot) e) : s.Told e := by
  refine ⟨fun ref href => ?_, h.plain⟩
  rcases h with hwake | ⟨uid, huid, howner, hhandle, -⟩
  · rw [hwake] at href
    cases href
  · rw [howner] at href
    cases href
    exact ⟨hhandle, s.lt_max_of_uidAt huid⟩

omit [Quiche Q] in
theorem IsWake.told {e : Emitted} (h : IsWake e) (s : H3Server Q) : s.Told e :=
  Talks.told (show s.Talks 0 (globalHandle s.handleOffset 0) e from .inl h)

/-- No connection is accepted: those that stay are used, and what is reported is told. -/
structure Goes (s s' : H3Server Q) : Prop where
  used : ∀ k d, s'.connMap.get k = some d → s.Has k d
  handleOffset : s'.handleOffset = s.handleOffset
  maxConnections : s'.connMap.maxConnections = s.connMap.maxConnections
  acceptedCount : s'.connMap.acceptedCount = s.connMap.acceptedCount
  batch : Grows s.Told s.batch s'.batch

variable {s s' s'' : H3Server Q}

theorem Goes.refl (s : H3Server Q) : Goes s s := ⟨fun _ _ => .of_get, rfl, rfl, rfl, .refl⟩

theorem Goes.trans (h : Goes s s') (h' : Goes s' s'') : Goes s s'' where
  used k e he := by
    obtain ⟨d, hd, hde⟩ := h'.used k e he
    obtain ⟨c, hc, hcd⟩ := h.used k d hd
    exact ⟨c, hc, hcd.trans hde⟩
  handleOffset := h'.handleOffset.trans h.handleOffset
  maxConnections := h'.maxConnections.trans h.maxConnections
  acceptedCount := h'.acceptedCount.trans h.acceptedCount
  batch := by
    have hbatch := h'.batch
    unfold Told at hbatch
    rw [h.handleOffset, h.maxConnections] at hbatch
    exact h.batch.trans hbatch

theorem Goes.uidAt (h : Goes s s') (k : ℕ) : s'.uidAt k = s.uidAt k ∨ s'.uidAt k = none := by
  cases hget : s'.connMap.get k with
  | none => exact .inr (by rw [H3Server.uidAt, hget]; rfl)
  | some d => exact .inl ((uidAt_of_get hget).trans (h.used k d hget).uidAt.symm)

theorem Course.goes (h : Course s s') (hbatch : Grows s.Told s.batch s'.batch) : Goes s s' :=
  ⟨h.used, h.handleOffset, h.maxConnections, h.acceptedCount, hbatch⟩

theorem ActsOn.goes {slot : ℕ} (h : ActsOn slot (globalHandle s.handleOffset slot) s s') :
    Goes s s' :=
  h.toCourse.goes (h.batch.mono fun _ => Talks.told)

theorem Steady.goes {P : ℕ → Prop} (h : Steady P s s') : Goes s s' := by
  refine h.toCourse.goes (h.batch.mono ?_)
  rintro e (hwake | ⟨slot, -, hspeaks⟩)
  · exact hwake.told s
  · exact Talks.told (.inr hspeaks)

theorem Closes.goes {slot : ℕ} (h : Closes slot s s') : Goes s s' := by
  obtain ⟨uid, event, huid, hhandle, hkind, hbatch⟩ := h.batch
  refine h.toCourse.goes ?_
  rw [hbatch]
  refine Grows.refl.push ⟨?_, by simp [hkind], by simp [NotSentinel, hkind]⟩
  rintro ref ⟨⟩
  exact ⟨hhandle, s.lt_max_of_uidAt huid⟩

theorem reapConnection_goes {handle : ℕ} (hlt : handle < s.connMap.maxConnections)
    (c : H3Connection Q) : Goes s (s.reapConnection (handle, c)) := by
  have hreaped := s.reapConnection_reaped handle c
  obtain ⟨resets, wakes, close, hresets, -, hwakes, hkind, hclose, hbatch⟩ := hreaped.batch
  have htold : ∀ e ∈ resets ++ (wakes ++
      if handle ∈ s.lastExpired then [] else [⟨some ⟨handle, c.uid⟩, close⟩]), s.Told e := by
    intro e he
    rcases List.mem_append.1 he with he | he
    · obtain ⟨howner, htype, hhandle⟩ := hresets e he
      refine ⟨fun ref href => ?_, by simp [htype], by simp [NotSentinel, htype]⟩
      rw [howner] at href
      cases href
      exact ⟨hhandle, hlt⟩
    rcases List.mem_append.1 he with he | he
    · exact (hwakes e he).told s
    · split_ifs at he
      · cases he
      · rw [List.mem_singleton.1 he]
        refine ⟨?_, by simp [hkind], by simp [NotSentinel, hkind]⟩
        rintro ref ⟨⟩
        exact ⟨hclose, hlt⟩
  refine ⟨?_, hreaped.handleOffset, by rw [hreaped.connMap], by rw [hreaped.connMap], ?_⟩
  · rw [hreaped.connMap]
    exact fun _ _ => .of_get
  · rw [hbatch, List.append_assoc, List.append_assoc]
    exact Grows.refl.append htold

theorem reapClosedConnections_goes (s : H3Server Q) : Goes s s.reapClosedConnections := by
  obtain ⟨haccepted, hmax⟩ := s.connMap.counts_foldl_remove
    ((s.connMap.drainClosed H3Connection.isClosed).1.map Prod.fst)
  have hdrained : Goes s { s with connMap := (s.connMap.drainClosed H3Connection.isClosed).2 } := by
    refine ⟨fun k d hd => ?_, rfl, hmax, haccepted, .refl⟩
    have hget := s.connMap.get_drainClosed H3Connection.isClosed k
    rw [show (s.connMap.drainClosed H3Connection.isClosed).2.get k = some d from hd] at hget
    split_ifs at hget
    exact .of_get hget.symm
  have hreaps : Goes s ((s.connMap.drainClosed H3Connection.isClosed).1.foldl reapConnection
      { s with connMap := (s.connMap.drainClosed H3Connection.isClosed).2 }) := by
    refine List.foldlRecOn _ _ hdrained ?_
    intro s' h entry hentry
    obtain ⟨hget, -⟩ := (s.connMap.mem_drainClosed H3Connection.isClosed).1 hentry
    refine h.trans (reapConnection_goes ?_ entry.2)
    rw [h.maxConnections]
    exact s.connMap.lt_maxConnections (by simp [hget])
  exact { hreaps with }

/-- A packet that may open a connection: an Initial for a connection id nobody has; unless retry
is off, with a token that is valid for the address it came from. -/
def MayOpen (s : H3Server Q) : ServerOp → Prop
  | .packet _ p _ now _ =>
    ∃ hdr, p.header = some hdr ∧ s.connMap.Admits Q s.disableRetry hdr p now
  | _ => False

theorem apply_goes (op : ServerOp) (s : H3Server Q) : Goes s (op.apply s) ∨
    ∃ slot s₁, s.MayOpen op ∧ Opens slot s s₁ ∧ Goes s₁ (op.apply s) := by
  cases op with
  | packet direct p budget now scids =>
    rcases packetArrives_sessions direct p budget now scids s with ⟨slot, hacts⟩ |
      ⟨slot, s₁, hopens, hacts, hadmits⟩
    · exact .inl hacts.goes
    · rw [← hopens.handleOffset] at hacts
      exact .inr ⟨slot, s₁, hadmits, hopens, hacts.goes⟩
  | expireTimers now budget =>
    have hpop : Goes s (s.popTimers now) := { Goes.refl s with }
    have hrun : Goes s (s.runTimers now budget) := by
      refine List.foldlRecOn _ _ hpop ?_
      intro s' h handle _
      rcases expireTimer_cases now budget s' handle with ⟨-, hcloses, -⟩ | ⟨-, hacts, -⟩
      · exact h.trans hcloses.goes
      · exact h.trans hacts.goes
    exact .inl (hrun.trans (completeDueCloses_steady (P := fun _ => True) now _).goes)
  | collectAppEvents budget now =>
    exact .inl (collectAppEvents_steady (P := fun _ => True) budget now s
      (.inr fun _ _ _ => .inl trivial)).goes
  | collectDrainEvents =>
    exact .inl (s.collectDrainEvents_steady (P := fun _ => True) fun _ _ => trivial).goes
  | flushAllPendingWrites =>
    exact .inl (s.flushAllPendingWrites_steady (P := fun _ => True)
      ⟨fun _ _ => trivial, fun _ _ => trivial⟩).goes
  | flushAllSends rounds now =>
    exact .inl (flushAllSends_steady (P := fun _ => True) rounds now s).goes
  | reapClosedConnections => exact .inl s.reapClosedConnections_goes
  | emitSessionCloseForAllActive =>
    refine .inl (List.foldlRecOn _ _ (.refl s) ?_)
    intro s' h handle _
    rcases s'.emitSessionCloseFor_cases handle with ⟨-, hsame⟩ | hcloses
    · rw [hsame]
      exact h
    · exact h.trans hcloses.goes

end Going

section Pending

/-- Pending data is not added to, and what is left belongs to the connection it
belonged to. -/
structure KeepsPending (s s' : H3Server Q) : Prop extends FewerPending s s' where
  uid : ∀ key, s'.HasPending key → (s.uidAt key.1.toNat).isSome →
    s'.uidAt key.1.toNat = s.uidAt key.1.toNat

omit [Quiche Q] in
theorem SameBooks.keepsPending {s s' : H3Server Q} (h : SameBooks s s')
    (huid : ∀ k, (s.uidAt k).isSome → s'.uidAt k = s.uidAt k) : KeepsPending s s' := by
  refine ⟨⟨?_, ?_⟩, fun key _ hlive => huid _ hlive⟩
  · rw [h.writes]
    exact fun _ => id
  · rw [h.responses]
    exact fun _ => id

omit [Quiche Q] in
theorem emitDrains_sameBooks (entries : List (StreamKey × ConnRef)) (s : H3Server Q) :
    SameBooks s (entries.foldl (fun s entry =>
      s.emit entry.2 (.drain (s.handleOffset ||| entry.1.1) entry.1.2)) s) :=
  SameBooks.foldl (fun s _ => .emit s _ _) entries s

theorem flushAllPendingWrites_keepsPending (s : H3Server Q) :
    KeepsPending s s.flushAllPendingWrites := by
  have huid := (s.flushAllPendingWrites_steady (P := fun _ => True)
    ⟨fun _ _ => trivial, fun _ _ => trivial⟩).uid
  obtain ⟨hwrites, hresponses⟩ := flushPendingResponses_pending s.pendingResponses.keys s
  refine ⟨⟨?_, ?_⟩, fun key _ _ => huid _⟩
  · unfold flushAllPendingWrites
    dsimp only
    rw [(emitDrains_sameBooks _ _).writes, pendingWrites_releaseOutboundAdmission, ← hwrites]
    exact (flushPendingWrites_sound _).books.waiting
  · unfold flushAllPendingWrites
    dsimp only
    rw [(emitDrains_sameBooks _ _).responses, pendingResponses_releaseOutboundAdmission]
    exact hresponses

theorem reapClosedConnections_keepsPending (s : H3Server Q) :
    KeepsPending s s.reapClosedConnections := by
  obtain ⟨hget, -, hpending, hfewer⟩ := s.reapClosedConnections_spec
  refine ⟨hfewer, ?_⟩
  intro key hkey _
  rw [reapClosedConnections_uidAt, if_neg ((hpending key).1 hkey).2]

theorem packetArrives_keepsPending (direct : Bool) (p : Packet) (budget now : ℕ)
    (scids : List Bytes) (s : H3Server Q) :
    KeepsPending s (s.packetArrives direct p budget now scids) := by
  refine (packetArrives_keepsBooks direct p budget now scids s).keepsPending ?_
  intro k hk
  rcases packetArrives_sessions direct p budget now scids s with ⟨slot, hacts⟩ |
    ⟨slot, s₁, hopens, hacts, -⟩
  · exact hacts.uid k
  · rw [hacts.uid, hopens.uidAt, if_neg]
    rintro rfl
    unfold uidAt at hk
    rw [hopens.vacant] at hk
    cases hk

theorem apply_keepsPending (op : ServerOp) (s : H3Server Q) : KeepsPending s (op.apply s) := by
  cases op with
  | packet direct p budget now scids => exact packetArrives_keepsPending direct p budget now scids s
  | expireTimers now budget =>
    exact (expireTimers_keepsBooks now budget s).keepsPending
      fun k _ => (expireTimers_course now budget s).1.uid k
  | collectAppEvents budget now =>
    have hsteady := collectAppEvents_steady (P := fun _ => True) budget now s
      (.inr fun _ _ _ => .inl trivial)
    exact (collectAppEvents_keepsBooks budget now s).keepsPending fun k _ => hsteady.uid k
  | collectDrainEvents =>
    have hsteady := s.collectDrainEvents_steady (P := fun _ => True) fun _ _ => trivial
    exact s.collectDrainEvents_keepsBooks.keepsPending fun k _ => hsteady.uid k
  | flushAllPendingWrites => exact s.flushAllPendingWrites_keepsPending
  | flushAllSends rounds now =>
    have hsteady := flushAllSends_steady (P := fun _ => True) rounds now s
    exact (flushAllSends_sameBooks rounds now s).keepsPending fun k _ => hsteady.uid k
  | reapClosedConnections => exact s.reapClosedConnections_keepsPending
  | emitSessionCloseForAllActive =>
    exact s.emitSessionCloseForAllActive_keepsBooks.keepsPending
      fun k _ => s.emitSessionCloseForAllActive_course.1.uid k

def PendingLive (s : H3Server Q) : Prop :=
  ∀ key, s.HasPending key → (s.uidAt key.1.toNat).isSome

omit [Quiche Q] in
theorem KeepsPending.pendingLive {s s' : H3Server Q} (hkeeps : KeepsPending s s')
    (h : s.PendingLive) : s'.PendingLive := by
  intro key hkey
  have hlive := h key (hkey.imp (hkeeps.writes key) (hkeeps.responses key))
  rw [hkeeps.uid key hkey hlive]
  exact hlive

theorem ActsOn.pendingLive {slot : ℕ} {g : UInt32} {s s' : H3Server Q} (hacts : ActsOn slot g s s')
    (h : s.PendingLive) : s'.PendingLive := by
  intro key hkey
  rw [hacts.uid]
  rcases hacts.pending key hkey with hold | ⟨hslot, hlive⟩
  · exact h key hold
  · rw [hslot]
    exact hlive

theorem dispatchCommand_pendingLive (now : ℕ) (cmd : WorkerCommand) {s : H3Server Q}
    (h : s.PendingLive) : (s.dispatchCommand now cmd).2.PendingLive := by
  by_cases hcmd : cmd = .shutdown
  · rw [hcmd]
    have hsteady := dispatchShutdown_steady (P := fun _ => True) s
    exact (s.dispatchShutdown_sameBooks.keepsPending fun k _ => hsteady.uid k).pendingLive h
  · exact (dispatchCommand_spec now hcmd s).1.pendingLive h

end Pending

end H3Server

end Http3
