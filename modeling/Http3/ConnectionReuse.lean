import Http3.H3Server.Slots
import Http3.QuicServer.Slots
import Http3.Scripted

/-! Slots and connection ids over whole runs of a server worker: what is kept for a slot
belongs to the connection that lives there, and a connection id leads to the connection
it was registered for. -/

namespace Http3

variable {Q : Type}

section Residue

/-- Every table entry of the worker refers to a live connection. -/
structure H3Server.RefersToLive (s : H3Server Q) : Prop where
  pendingWrites : ∀ key, (s.pendingWrites.lookup key).isSome → (s.connMap.get key.1.toNat).isSome
  pendingResponses : ∀ key, (s.pendingResponses.lookup key).isSome →
    (s.connMap.get key.1.toNat).isSome
  pendingSessionCloses : ∀ connHandle, (s.pendingSessionCloses.lookup connHandle).isSome →
    (s.connMap.get connHandle.toNat).isSome
  deadlines : ∀ handle, handle ∈ s.timerHeap.deadlines → (s.connMap.get handle).isSome
  byDcid : ∀ dcid handle, s.connMap.routePacket dcid = some handle →
    (s.connMap.get handle).isSome

/-- No table has an entry for `slot`, other than the route under its connection id. -/
structure H3Server.StartsClean (s : H3Server Q) (slot : ℕ) (scid : Bytes) : Prop where
  pendingWrites : ∀ key, key.1.toNat = slot → s.pendingWrites.lookup key = none
  pendingResponses : ∀ key, key.1.toNat = slot → s.pendingResponses.lookup key = none
  pendingSessionCloses : ∀ connHandle, connHandle.toNat = slot →
    s.pendingSessionCloses.lookup connHandle = none
  deadlines : slot ∉ s.timerHeap.deadlines
  byDcid : ∀ dcid, s.connMap.routePacket dcid = some slot → dcid = scid

/-- As for the HTTP/3 worker, which has two tables more. -/
structure QuicServer.RefersToLive (s : QuicServer Q) : Prop where
  pendingWrites : ∀ key, (s.pendingWrites.lookup key).isSome → (s.connMap.get key.1.toNat).isSome
  deadlines : ∀ handle, handle ∈ s.timerHeap.deadlines → (s.connMap.get handle).isSome
  byDcid : ∀ dcid handle, s.connMap.routePacket dcid = some handle →
    (s.connMap.get handle).isSome

structure QuicServer.StartsClean (s : QuicServer Q) (slot : ℕ) (scid : Bytes) : Prop where
  pendingWrites : ∀ key, key.1.toNat = slot → s.pendingWrites.lookup key = none
  deadlines : slot ∉ s.timerHeap.deadlines
  byDcid : ∀ dcid, s.connMap.routePacket dcid = some slot → dcid = scid

theorem SlotBooks.live_ofMap {C : Type} {uid : C → ℕ} {deadlines : KeyMap ℕ ℕ} {pending : ℕ → Prop}
    {m : ConnectionMap C} {k : ℕ} :
    (ofMap uid deadlines pending m).Live k ↔ (m.get k).isSome := by
  show ((m.get k).map uid).isSome ↔ _
  rw [Option.isSome_map]

theorem H3Server.refersToLive {s : H3Server Q} (h : s.books.Clean) : s.RefersToLive where
  pendingWrites key hkey := SlotBooks.live_ofMap.1 (h.pending _ (.inl ⟨key, .inl hkey, rfl⟩))
  pendingResponses key hkey := SlotBooks.live_ofMap.1 (h.pending _ (.inl ⟨key, .inr hkey, rfl⟩))
  pendingSessionCloses connHandle hclose :=
    SlotBooks.live_ofMap.1 (h.pending _ (.inr ⟨connHandle, hclose, rfl⟩))
  deadlines handle hmem := SlotBooks.live_ofMap.1 (h.deadlines handle hmem)
  byDcid dcid handle hroute := SlotBooks.live_ofMap.1 (h.routes dcid handle hroute)

theorem QuicServer.refersToLive {s : QuicServer Q} (h : s.books.Clean) : s.RefersToLive where
  pendingWrites key hkey := SlotBooks.live_ofMap.1 (h.pending _ ⟨key, hkey, rfl⟩)
  deadlines handle hmem := SlotBooks.live_ofMap.1 (h.deadlines handle hmem)
  byDcid dcid handle hroute := SlotBooks.live_ofMap.1 (h.routes dcid handle hroute)

theorem ConnectionMap.routePacket_acceptNew {C T : Type} {m m' : ConnectionMap C}
    {scid dcid : Bytes}
    {quicheConn : Except QuicheError T} {new : ℕ → T → Bytes → C} {slot : ℕ}
    (haccept : m.acceptNew scid quicheConn new = .ok (slot, m'))
    (hlive : ∀ k, m.routePacket dcid = some k → (m.get k).isSome)
    (hroute : m'.routePacket dcid = some slot) : dcid = scid := by
  by_contra hne
  unfold routePacket at hroute
  rw [m.byDcid_acceptNew haccept, AList.lookup_insert_ne hne] at hroute
  have hold := hlive slot hroute
  rw [(m.acceptNew_ok haccept).1] at hold
  cases hold

theorem H3Server.RefersToLive.startsClean {T : Type} {s : H3Server Q} (h : s.RefersToLive)
    {scid : Bytes} {quicheConn : Except QuicheError T} {new : ℕ → T → Bytes → H3Connection Q}
    {slot : ℕ} {m' : ConnectionMap (H3Connection Q)}
    (haccept : s.connMap.acceptNew scid quicheConn new = .ok (slot, m')) :
    ({ s with connMap := m' } : H3Server Q).StartsClean slot scid := by
  have hvacant : ¬ (s.connMap.get slot).isSome := by
    rw [(s.connMap.acceptNew_ok haccept).1]
    simp
  constructor
  · intro key hkey
    exact Option.not_isSome_iff_eq_none.1 fun hsome => hvacant (hkey ▸ h.pendingWrites key hsome)
  · intro key hkey
    exact Option.not_isSome_iff_eq_none.1 fun hsome => hvacant (hkey ▸ h.pendingResponses key hsome)
  · intro connHandle hslot
    exact Option.not_isSome_iff_eq_none.1
      fun hsome => hvacant (hslot ▸ h.pendingSessionCloses connHandle hsome)
  · exact fun hmem => hvacant (h.deadlines slot hmem)
  · intro dcid hroute
    exact ConnectionMap.routePacket_acceptNew haccept (h.byDcid dcid) hroute

theorem QuicServer.RefersToLive.startsClean {T : Type} {s : QuicServer Q} (h : s.RefersToLive)
    {scid : Bytes} {quicheConn : Except QuicheError T} {new : ℕ → T → Bytes → QuicConnection Q}
    {slot : ℕ} {m' : ConnectionMap (QuicConnection Q)}
    (haccept : s.connMap.acceptNew scid quicheConn new = .ok (slot, m')) :
    ({ s with connMap := m' } : QuicServer Q).StartsClean slot scid := by
  have hvacant : ¬ (s.connMap.get slot).isSome := by
    rw [(s.connMap.acceptNew_ok haccept).1]
    simp
  constructor
  · intro key hkey
    exact Option.not_isSome_iff_eq_none.1 fun hsome => hvacant (hkey ▸ h.pendingWrites key hsome)
  · exact fun hmem => hvacant (h.deadlines slot hmem)
  · intro dcid hroute
    exact ConnectionMap.routePacket_acceptNew haccept (h.byDcid dcid) hroute

variable [Quiche Q]

/-- What a step of the worker does to the routes: nothing unless it is a packet. -/
def H3Worker.idsOf : H3Worker.Step → H3Worker Q → Option PacketIds
  | .work (.packet direct p budget now scids), w =>
    w.server.startBatch.packetIds direct p budget now scids
  | _, _ => none

def QuicWorker.idsOf : QuicServerOp → QuicWorker Q → Option PacketIds
  | .packet _ p budget now scids, w => w.server.packetIds p budget now scids
  | _, _ => none

theorem H3Worker.step_moves {adds : Bytes → ℕ → Prop} {drops : Bytes → Prop} {reaps : ℕ → Prop}
    (i : H3Worker.Step) (w : H3Worker Q)
    (hids : ∀ ids ∈ H3Worker.idsOf i w,
      (∀ id ∈ ids.registered, adds id ids.slot) ∧ ∀ id ∈ ids.retired, drops id)
    (hreap : i = .work .reapClosedConnections →
      ∀ k c, w.server.connMap.get k = some c → c.isClosed = true → reaps k) :
    SlotBooks.Moves adds drops reaps w.server.books (H3Worker.step i w).server.books := by
  cases i with
  | call channelOpen meant cmd reply =>
    obtain ⟨a, channel, -, hcall⟩ := H3Worker.napi_spec channelOpen meant cmd reply w
    show SlotBooks.Moves _ _ _ _ (w.napi channelOpen meant cmd reply).2.server.books
    rw [hcall]
    exact .refl _
  | dispatch now =>
    show SlotBooks.Moves _ _ _ _ (w.dispatchNext now).server.books
    unfold H3Worker.dispatchNext
    cases w.channel with
    | nil => exact .refl _
    | cons next channel =>
      exact (H3Server.dispatchCommand_course now next.cmd w.server.startBatch).2.moves
  | work op =>
    refine H3Server.apply_moves op w.server.startBatch ?_ ?_
    · rintro direct p budget now scids rfl
      exact hids
    · rintro rfl
      exact hreap rfl

theorem QuicWorker.step_slotMoves {adds : Bytes → ℕ → Prop} {drops : Bytes → Prop}
    {reaps : ℕ → Prop} (i : QuicServerOp) (w : QuicWorker Q)
    (hids : ∀ ids ∈ QuicWorker.idsOf i w,
      (∀ id ∈ ids.registered, adds id ids.slot) ∧ ∀ id ∈ ids.retired, drops id)
    (hreap : i = .reapClosedConnections →
      ∀ k c, w.server.connMap.get k = some c → c.isClosed = true → reaps k) :
    SlotBooks.Moves adds drops reaps w.server.books (QuicWorker.step i w).server.books := by
  refine QuicServer.apply_slotMoves i w.server ?_ hreap
  rintro direct p budget now scids rfl
  exact hids

theorem SlotBooks.clean_init {C : Type} (uid : C → ℕ) (maxConnections : UInt32) {pending : ℕ → Prop}
    (hpending : ∀ k, ¬ pending k) :
    (ofMap uid ∅ pending (.withMaxConnections maxConnections)).Clean := by
  constructor
  · exact fun k hk => absurd hk (hpending k)
  · intro k hk
    exact absurd hk (AList.notMem_empty k)
  · intro dcid k hk
    have hnone : (∅ : KeyMap Bytes ℕ).lookup dcid = some k := hk
    simp at hnone

/-- In every state of every run, whatever is kept for a slot is kept for a live connection,
and a slot that is filled starts out clean. -/
theorem no_residue_across_reuse :
    (∀ (handleOffset maxConnections : UInt32) (disableRetry : Bool) (streamReadWindow : Option ℕ)
      (requireClientCert : Bool) (w : H3Worker Q), Runs.Reach H3Worker.step (fun _ _ => True)
        (.init handleOffset maxConnections disableRetry streamReadWindow requireClientCert) w →
      w.server.RefersToLive ∧ ∀ scid quicheConn slot m',
        w.server.connMap.acceptNew scid quicheConn (H3Connection.new (Q := Q)) = .ok (slot, m') →
        ({ w.server with connMap := m' } : H3Server Q).StartsClean slot scid) ∧
    ∀ (handleOffset maxConnections : UInt32) (disableRetry requireClientCert : Bool)
      (w : QuicWorker Q), Runs.Reach QuicWorker.step (fun _ _ => True)
        (.init handleOffset maxConnections disableRetry requireClientCert) w →
      w.server.RefersToLive ∧ ∀ scid quicheConn slot m',
        w.server.connMap.acceptNew scid quicheConn (QuicConnection.new (Q := Q)) = .ok (slot, m') →
        ({ w.server with connMap := m' } : QuicServer Q).StartsClean slot scid := by
  constructor
  · intro handleOffset maxConnections disableRetry streamReadWindow requireClientCert w hreach
    have hclean : w.server.books.Clean := by
      induction hreach with
      | start =>
        refine SlotBooks.clean_init _ maxConnections fun k hk => ?_
        rcases hk with ⟨key, hkey | hkey, -⟩ | ⟨connHandle, hclose, -⟩
        · simp [H3Worker.init, H3Server.init] at hkey
        · simp [H3Worker.init, H3Server.init] at hkey
        · simp [H3Worker.init, H3Server.init] at hclose
      | @next w i _ _ ih =>
        have hmoves : SlotBooks.Moves (fun _ _ => True) (fun _ => True) (fun _ => True)
            w.server.books (H3Worker.step i w).server.books :=
          H3Worker.step_moves i w (fun _ _ => ⟨fun _ _ => trivial, fun _ _ => trivial⟩)
            fun _ _ _ _ _ => trivial
        exact hmoves.invariant (fun _ _ => .move) ih
    have hlive := H3Server.refersToLive hclean
    exact ⟨hlive, fun _ _ _ _ haccept => hlive.startsClean haccept⟩
  · intro handleOffset maxConnections disableRetry requireClientCert w hreach
    have hclean : w.server.books.Clean := by
      induction hreach with
      | start =>
        refine SlotBooks.clean_init _ maxConnections fun k hk => ?_
        obtain ⟨key, hkey, -⟩ := hk
        simp [QuicWorker.init, QuicServer.init] at hkey
      | @next w i _ _ ih =>
        have hmoves : SlotBooks.Moves (fun _ _ => True) (fun _ => True) (fun _ => True)
            w.server.books (QuicWorker.step i w).server.books :=
          QuicWorker.step_slotMoves i w (fun _ _ => ⟨fun _ _ => trivial, fun _ _ => trivial⟩)
            fun _ _ _ _ _ => trivial
        exact hmoves.invariant (fun _ _ => .move) ih
    have hlive := QuicServer.refersToLive hclean
    exact ⟨hlive, fun _ _ _ _ haccept => hlive.startsClean haccept⟩

/-- A client that sends a request, is answered, and goes away while the answer waits. -/
def goneClient : H3Worker Scripted :=
  Runs.run H3Worker.step
    [.work (.packet false (Scripted.packet .initial [1] [0]) 0 0 [[7]]),
      .work (.packet false (Scripted.packet .other [7] [4, 0]) 0 0 []),
      .call true 0 (.sendResponseHeaders 0 4 [] true) none, .dispatch 0,
      .call true 0 (.closeSession 0 0 "") none, .dispatch 0,
      .work (.packet false (Scripted.packet .other [7] [2]) 0 0 []),
      .work .reapClosedConnections]
    (.init 0 1 true none false)

theorem no_residue_across_reuse_goneClient :
    (goneClient.server.connMap.get 0).isNone ∧ goneClient.server.RefersToLive ∧
      ∃ m', goneClient.server.connMap.acceptNew [8] (.ok (Scripted.fresh [8])) H3Connection.new =
          .ok (0, m') ∧
        ({ goneClient.server with connMap := m' } : H3Server Scripted).StartsClean 0 [8] := by
  have hgone : (goneClient.server.connMap.get 0).isNone := by decide +kernel
  have hreach : Runs.Reach H3Worker.step (fun _ _ => True) (.init 0 1 true none false) goneClient :=
    Runs.Reach.start.run (by decide +kernel)
  obtain ⟨hlive, hclean⟩ := no_residue_across_reuse.1 0 1 true none false goneClient hreach
  have hslot : (goneClient.server.connMap.acceptNew [8] (.ok (Scripted.fresh [8]))
      H3Connection.new).toOption.map Prod.fst = some 0 := by decide +kernel
  refine ⟨hgone, hlive, ?_⟩
  cases haccept : goneClient.server.connMap.acceptNew [8] (.ok (Scripted.fresh [8]))
    H3Connection.new with
  | error e =>
    rw [haccept] at hslot
    cases hslot
  | ok accepted =>
    rw [haccept] at hslot
    obtain ⟨slot, m'⟩ := accepted
    obtain rfl : slot = 0 := Option.some.inj hslot
    exact ⟨m', rfl, hclean [8] _ 0 m' haccept⟩

end Residue

section Routes

variable [Quiche Q]

/-- No id among `ids` leads to a connection in another slot. -/
def ConnectionMap.Undisputed {C : Type} (m : ConnectionMap C) (slot : ℕ)
    (ids : List Bytes) : Prop :=
  ∀ id ∈ ids, ∀ owner ∈ m.routePacket id, owner = slot

instance {C : Type} (m : ConnectionMap C) (slot : ℕ) (ids : List Bytes) :
    Decidable (m.Undisputed slot ids) :=
  inferInstanceAs (Decidable (∀ id ∈ ids, ∀ owner ∈ m.routePacket id, owner = slot))

/-- The ids a packet registers or unregisters lead to no other connection than its own. -/
def H3Worker.OwnIds (i : H3Worker.Step) (w : H3Worker Q) : Prop :=
  ∀ ids ∈ H3Worker.idsOf i w,
    w.server.connMap.Undisputed ids.slot (ids.registered ++ ids.retired)

/-- quiche does not retire `dcid` for the connection in `slot`, and that connection is not
removed. -/
def H3Worker.Holds (dcid : Bytes) (slot : ℕ) (i : H3Worker.Step) (w : H3Worker Q) : Prop :=
  (∀ ids ∈ H3Worker.idsOf i w, ids.slot = slot → dcid ∉ ids.retired) ∧
    (i = .work .reapClosedConnections → ∀ c ∈ w.server.connMap.get slot, c.isClosed = false)

instance (i : H3Worker.Step) (w : H3Worker Q) : Decidable (H3Worker.OwnIds i w) :=
  inferInstanceAs (Decidable (∀ ids ∈ H3Worker.idsOf i w, ConnectionMap.Undisputed _ _ _))

instance (dcid : Bytes) (slot : ℕ) (i : H3Worker.Step) (w : H3Worker Q) :
    Decidable (H3Worker.Holds dcid slot i w) :=
  inferInstanceAs (Decidable (_ ∧ _))

def QuicWorker.OwnIds (i : QuicServerOp) (w : QuicWorker Q) : Prop :=
  ∀ ids ∈ QuicWorker.idsOf i w,
    w.server.connMap.Undisputed ids.slot (ids.registered ++ ids.retired)

def QuicWorker.Holds (dcid : Bytes) (slot : ℕ) (i : QuicServerOp) (w : QuicWorker Q) : Prop :=
  (∀ ids ∈ QuicWorker.idsOf i w, ids.slot = slot → dcid ∉ ids.retired) ∧
    (i = .reapClosedConnections → ∀ c ∈ w.server.connMap.get slot, c.isClosed = false)

instance (i : QuicServerOp) (w : QuicWorker Q) : Decidable (QuicWorker.OwnIds i w) :=
  inferInstanceAs (Decidable (∀ ids ∈ QuicWorker.idsOf i w, ConnectionMap.Undisputed _ _ _))

instance (dcid : Bytes) (slot : ℕ) (i : QuicServerOp) (w : QuicWorker Q) :
    Decidable (QuicWorker.Holds dcid slot i w) :=
  inferInstanceAs (Decidable (_ ∧ _))

theorem SlotBooks.Routed.moves {C : Type} {m : ConnectionMap C} {b b' : SlotBooks}
    {change : Option PacketIds} {reaps : ℕ → Prop} {dcid : Bytes} {slot uid : ℕ}
    (hmoves : Moves (fun id k => ∃ ids ∈ change, id ∈ ids.registered ∧ k = ids.slot)
      (fun id => ∃ ids ∈ change, id ∈ ids.retired) reaps b b')
    (hown : ∀ ids ∈ change, m.Undisputed ids.slot (ids.registered ++ ids.retired))
    (hretire : ∀ ids ∈ change, ids.slot = slot → dcid ∉ ids.retired) (hreaps : ¬ reaps slot)
    (hroute : m.routePacket dcid = some slot) (h : b.Routed dcid slot uid) :
    b'.Routed dcid slot uid := by
  have hadds : ∀ k, (∃ ids ∈ change, dcid ∈ ids.registered ∧ k = ids.slot) → k = slot := by
    rintro k ⟨ids, hids, hmem, rfl⟩
    exact (hown ids hids dcid (List.mem_append_left _ hmem) slot hroute).symm
  have hdrops : ¬ ∃ ids ∈ change, dcid ∈ ids.retired := by
    rintro ⟨ids, hids, hmem⟩
    have hslot := hown ids hids dcid (List.mem_append_right _ hmem) slot hroute
    exact hretire ids hids hslot.symm hmem
  exact hmoves.invariant (fun _ _ hmove => Routed.move hmove hadds hdrops hreaps) h

theorem H3Worker.step_routed {dcid : Bytes} {slot uid : ℕ} (i : H3Worker.Step) (w : H3Worker Q)
    (hown : H3Worker.OwnIds i w) (hholds : H3Worker.Holds dcid slot i w)
    (h : w.server.books.Routed dcid slot uid) :
    (H3Worker.step i w).server.books.Routed dcid slot uid := by
  refine @SlotBooks.Routed.moves _ _ _ _ _ (· ≠ slot) _ _ _ ?_ hown hholds.1 (· rfl) h.1 h
  apply H3Worker.step_moves
  · exact fun ids hids => ⟨fun id hid => ⟨ids, hids, hid, rfl⟩, fun id hid => ⟨ids, hids, hid⟩⟩
  · rintro hi k c hc hclosed rfl
    rw [hholds.2 hi c hc] at hclosed
    cases hclosed

theorem QuicWorker.step_routed {dcid : Bytes} {slot uid : ℕ} (i : QuicServerOp) (w : QuicWorker Q)
    (hown : QuicWorker.OwnIds i w) (hholds : QuicWorker.Holds dcid slot i w)
    (h : w.server.books.Routed dcid slot uid) :
    (QuicWorker.step i w).server.books.Routed dcid slot uid := by
  refine @SlotBooks.Routed.moves _ _ _ _ _ (· ≠ slot) _ _ _ ?_ hown hholds.1 (· rfl) h.1 h
  apply QuicWorker.step_slotMoves
  · exact fun ids hids => ⟨fun id hid => ⟨ids, hids, hid, rfl⟩, fun id hid => ⟨ids, hids, hid⟩⟩
  · rintro hi k c hc hclosed rfl
    rw [hholds.2 hi c hc] at hclosed
    cases hclosed

/-- Once a connection id leads to a live connection it keeps doing so, until quiche retires
it or the connection is removed, in every run in which packets register and unregister only
ids that lead to no other connection. -/
theorem routes_stay {dcid : Bytes} {slot uid : ℕ} :
    (∀ w w' : H3Worker Q, w.server.connMap.routePacket dcid = some slot →
      (w.server.connMap.get slot).map (·.uid) = some uid →
      Runs.Reach H3Worker.step (fun i w => H3Worker.OwnIds i w ∧
        H3Worker.Holds dcid slot i w) w w' →
      w'.server.connMap.routePacket dcid = some slot ∧
        (w'.server.connMap.get slot).map (·.uid) = some uid) ∧
    ∀ w w' : QuicWorker Q, w.server.connMap.routePacket dcid = some slot →
      (w.server.connMap.get slot).map (·.uid) = some uid →
      Runs.Reach QuicWorker.step
        (fun i w => QuicWorker.OwnIds i w ∧ QuicWorker.Holds dcid slot i w) w w' →
      w'.server.connMap.routePacket dcid = some slot ∧
        (w'.server.connMap.get slot).map (·.uid) = some uid := by
  constructor
  · intro w w' hroute huid hreach
    have hrouted : w'.server.books.Routed dcid slot uid := by
      induction hreach with
      | start => exact ⟨hroute, huid⟩
      | next i _ hok ih => exact H3Worker.step_routed i _ hok.1 hok.2 ih
    exact hrouted
  · intro w w' hroute huid hreach
    have hrouted : w'.server.books.Routed dcid slot uid := by
      induction hreach with
      | start => exact ⟨hroute, huid⟩
      | next i _ hok ih => exact QuicWorker.step_routed i _ hok.1 hok.2 ih
    exact hrouted

/-- The first packet of a client that has been sent a retry for the connection id `odcid`. -/
def retried (port : ℕ) (dcid odcid : Bytes) : Packet where
  header := some ⟨.initial, dcid, [], some (RetryToken.mintToken (Quiche.hmac (Q := Scripted))
    (Quiche.endpoint Scripted ⟨"192.0.2.1", port⟩) 0 odcid)⟩
  payload := [0]
  peer := ⟨"192.0.2.1", port⟩
  recvLocal := ⟨"192.0.2.2", 443⟩

theorem routes_stay_secondClient :
    let first := H3Worker.step (.work (.packet false (retried 1 [10] [9]) 0 0 []))
      (H3Worker.init 0 8 false none false : H3Worker Scripted)
    let later := Runs.run H3Worker.step
      [.work (.packet false (retried 2 [11] [12]) 0 0 []), .work .reapClosedConnections] first
    later.server.connMap.routePacket [9] = some 0 ∧
      (later.server.connMap.get 0).map (·.uid) = some 0 := by
  intro first later
  have hroute : first.server.connMap.routePacket [9] = some 0 := by decide +kernel
  have huid : (first.server.connMap.get 0).map (·.uid) = some 0 := by decide +kernel
  have hreach : Runs.Reach H3Worker.step
      (fun i w => H3Worker.OwnIds i w ∧ H3Worker.Holds [9] 0 i w) first later :=
    Runs.Reach.start.run (by decide +kernel)
  exact routes_stay.1 first later hroute huid hreach

/-- Two clients chose the same first connection id. The second one to come back with its
token takes the id over, although quiche has retired nothing and the first connection lives. -/
theorem retry_token_redirects_route :
    (let first := H3Worker.step (.work (.packet false (retried 1 [10] [9]) 0 0 []))
        (H3Worker.init 0 8 false none false : H3Worker Scripted)
      let op : H3Worker.Step := .work (.packet false (retried 2 [11] [9]) 0 0 [])
      let second := H3Worker.step op first
      first.server.connMap.routePacket [9] = some 0 ∧
        (first.server.connMap.get 0).map (·.uid) = some 0 ∧ H3Worker.Holds [9] 0 op first ∧
        second.server.connMap.routePacket [9] = some 1 ∧
        (second.server.connMap.get 0).map (·.uid) = some 0) ∧
    let first := QuicWorker.step (.packet false (retried 1 [10] [9]) 0 0 [])
      (QuicWorker.init 0 8 false false : QuicWorker Scripted)
    let op : QuicServerOp := .packet false (retried 2 [11] [9]) 0 0 []
    let second := QuicWorker.step op first
    first.server.connMap.routePacket [9] = some 0 ∧
      (first.server.connMap.get 0).map (·.uid) = some 0 ∧ QuicWorker.Holds [9] 0 op first ∧
      second.server.connMap.routePacket [9] = some 1 ∧
      (second.server.connMap.get 0).map (·.uid) = some 0 := by
  decide +kernel

end Routes

end Http3
