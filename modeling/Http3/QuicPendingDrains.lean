import Http3.PendingDrains
import Http3.QuicClient
import Http3.QuicServer.Worker
import Http3.Scripted

/-! The raw QUIC handlers probe blocked streams for capacity like the HTTP/3 ones, but do
not withdraw the drains of streams a write still waits on. When that does no harm. -/

namespace Http3

theorem BlockedStreams.probe_drains {idle : ℕ → ℕ → Prop} {capacity : ℕ → Except QuicheError ℕ}
    {ref : ConnRef} {connHandle : UInt32} (n : ℕ) {b : BlockedStreams} {events : List Emitted}
    (h : Drains idle events)
    (hqueue : ∀ id ∈ b.queue, ∀ c ∈ (capacity id).toOption, 0 < c → idle ref.slot id) :
    Drains idle (probe capacity ref connHandle n b events).2 := by
  induction n generalizing b events with
  | zero => exact h
  | succ n ih =>
    unfold probe
    cases hq : b.queue with
    | nil => exact h
    | cons id rest =>
      rw [hq, List.forall_mem_cons] at hqueue
      obtain ⟨hid, hrest⟩ := hqueue
      cases hcap : capacity id with
      | error e =>
        simp only [hcap]
        exact ih (h.push (by simp [JsH3Event.error])) hrest
      | ok c =>
        simp only [hcap]
        split_ifs with hc
        · have hidle := hid c (by rw [hcap]; rfl) hc
          exact ih (h.push_drain hidle) hrest
        · -- the stream goes to the back of the queue
          apply ih h
          intro other hother
          rcases List.mem_append.1 hother with hother | hother
          · exact hrest other hother
          · rw [List.mem_singleton.1 hother]
            exact hid

namespace QuicConnection

variable {Q : Type} [Quiche Q]

/-- No blocked stream that `waits` has capacity again. -/
def Dry (waits : ℕ → Bool) (c : QuicConnection Q) : Prop :=
  ∀ streamId ∈ c.blocked.queue, waits streamId = true →
    ∀ n ∈ (Quiche.streamCapacity c.quicheConn streamId).toOption, n = 0

instance (waits : ℕ → Bool) (c : QuicConnection Q) : Decidable (c.Dry waits) :=
  inferInstanceAs (Decidable (∀ streamId ∈ c.blocked.queue, waits streamId = true →
    ∀ n ∈ (Quiche.streamCapacity c.quicheConn streamId).toOption, n = 0))

section Poll

variable {ref : ConnRef} {connHandle : UInt32} {idle : ℕ → ℕ → Prop}

theorem Reads.drains {st st' : Polling Q} (hreads : Reads ref connHandle st st')
    (h : Drains idle st.events) : Drains idle st'.events := by
  induction hreads with
  | refl => exact h
  | tail _ hpart ih =>
    cases hpart with
    | calls => exact ih
    | notes => exact ih
    | reports _ _ _ hdrain => exact ih.push hdrain

theorem pollDrainEvents_drains {waits : ℕ → Bool} {c : QuicConnection Q} {events : List Emitted}
    (hdry : c.Dry waits) (hidle : ∀ id, waits id = false → idle ref.slot id)
    (h : Drains idle events) : Drains idle (c.pollDrainEvents ref connHandle events).2 := by
  apply BlockedStreams.probe_drains _ h
  intro id hid n hn hpos
  apply hidle
  by_contra hwaits
  have hzero := hdry id hid (by simpa using hwaits) n hn
  omega

theorem pollQuicEvents_drains {waits : ℕ → Bool} {budget : ℕ} {c : QuicConnection Q}
    {events : List Emitted} (hdry : (c.readEvents ref connHandle budget events).1.Dry waits)
    (hidle : ∀ id, waits id = false → idle ref.slot id) (h : Drains idle events) :
    Drains idle (c.pollQuicEvents ref connHandle budget events).2 := by
  obtain ⟨_, hreads⟩ := readEvents_reads ref connHandle budget c events
  rw [pollQuicEvents_eq]
  exact pollDrainEvents_drains hdry hidle (hreads.drains h)

theorem sweepFinishedStreams_drains (budget : ℕ) (c : QuicConnection Q) {events : List Emitted}
    (h : Drains idle events) :
    Drains idle (c.sweepFinishedStreams ref connHandle budget events).2 := by
  obtain ⟨_, hreads⟩ := sweepFinishedStreams_reads ref connHandle budget c events
  exact hreads.drains h

end Poll

end QuicConnection

/-- Entries of a server's retry loop are about the connection in the slot of their key. -/
def AtSlot (entry : (UInt32 × ℕ) × ConnRef) : Prop := entry.2.slot = entry.1.1.toNat

namespace QuicServer

variable {Q : Type}

/-- Whether a write waits on a stream of the connection in a slot. -/
def writing (s : QuicServer Q) (slot streamId : ℕ) : Bool :=
  (s.pendingWrites.lookup (UInt32.ofNat slot, streamId)).isSome

/-- The batch drains streams with nothing waiting only. -/
def DrainsIdle (s : QuicServer Q) : Prop :=
  Drains (fun slot streamId => s.writing slot streamId = false) s.batch

theorem DrainsIdle.emit {s : QuicServer Q} {ref : ConnRef} {event : JsH3Event} (h : s.DrainsIdle)
    (hevent : event.eventType ≠ .drain) : (s.emit ref event).DrainsIdle := Drains.push h hevent

theorem DrainsIdle.of_writing {s s' : QuicServer Q} (h : s.DrainsIdle) (hbatch : s'.batch = s.batch)
    (hwriting : ∀ slot streamId, s'.writing slot streamId = true → s.writing slot streamId = true) :
    s'.DrainsIdle := by
  unfold DrainsIdle
  rw [hbatch]
  refine Drains.mono ?_ h
  intro slot streamId hidle
  by_contra hwaits
  have hwas := hwriting slot streamId (by simpa using hwaits)
  rw [hidle] at hwas
  cases hwas

theorem writing_releaseOutboundAdmission (s : QuicServer Q) (units : ℕ) :
    (s.releaseOutboundAdmission units).writing = s.writing := by
  unfold releaseOutboundAdmission
  dsimp only
  split_ifs <;> rfl

theorem drains_release {idle : ℕ → ℕ → Prop} (s : QuicServer Q) (units : ℕ)
    (h : Drains idle s.batch) : Drains idle (s.releaseOutboundAdmission units).batch := by
  unfold releaseOutboundAdmission
  dsimp only
  split_ifs
  · exact h.push (by simp [JsH3Event.writeReady])
  · exact h

theorem DrainsIdle.release {s : QuicServer Q} (h : s.DrainsIdle) (units : ℕ) :
    (s.releaseOutboundAdmission units).DrainsIdle := by
  unfold DrainsIdle
  rw [writing_releaseOutboundAdmission]
  exact drains_release s units h

variable [Quiche Q]

/-- Polling a connection finds no capacity for a stream a write still waits on. -/
def DryPoll (s : QuicServer Q) (handle budget : ℕ) (conn : QuicConnection Q) : Prop :=
  (conn.readEvents ⟨handle, conn.uid⟩ (globalHandle s.handleOffset handle) budget s.batch).1.Dry
    (s.writing handle)

instance (s : QuicServer Q) (handle budget : ℕ) (conn : QuicConnection Q) :
    Decidable (s.DryPoll handle budget conn) := inferInstanceAs (Decidable (QuicConnection.Dry _ _))

theorem pollConn_drainsIdle {s : QuicServer Q} {handle budget : ℕ} {conn : QuicConnection Q}
    (h : s.DrainsIdle) (hdry : s.DryPoll handle budget conn) (now : ℕ) :
    (s.pollConn handle budget now conn).DrainsIdle := by
  have hpolled : Drains (fun slot streamId => s.writing slot streamId = false)
      (conn.pollQuicEvents ⟨handle, conn.uid⟩ (globalHandle s.handleOffset handle) budget
        s.batch).2 :=
    QuicConnection.pollQuicEvents_drains hdry (fun _ hidle => hidle) h
  exact Drains.foldl_push (fun _ => by simp [JsH3Event.pingAck]) _ hpolled

theorem sweepConn_drainsIdle (budget : ℕ) (s : QuicServer Q) (handle : ℕ) (h : s.DrainsIdle) :
    (s.sweepConn budget handle).DrainsIdle := by
  unfold sweepConn
  cases s.connMap.get handle with
  | none => exact h
  | some conn => exact QuicConnection.sweepFinishedStreams_drains budget conn h

section Packets

theorem noteHandshake_drainsIdle {s : QuicServer Q} (h : s.DrainsIdle) (handle : ℕ)
    (conn : QuicConnection Q) : (s.noteHandshake handle conn).2.DrainsIdle := by
  have hdone : ∀ ref connHandle certified chain, (s.emit ref
      (.handshakeCompleteWithPeerCertificate connHandle certified chain)).DrainsIdle :=
    fun _ _ _ _ => h.emit (by simp [JsH3Event.handshakeCompleteWithPeerCertificate])
  unfold noteHandshake
  dsimp only
  split_ifs
  all_goals first | exact h | exact hdone _ _ _ _

/-- The connection a packet is fed to, as it is polled. -/
def DryReceive (s : QuicServer Q) (handle : ℕ) (p : Packet) (budget : ℕ) : Prop :=
  ∀ conn ∈ s.connMap.get handle, (conn.recv p).1 = true →
    let noted := s.noteHandshake handle (conn.recv p).2
    noted.2.DryPoll handle budget { noted.1 with connId := Quiche.sourceId noted.1.quicheConn }

instance (s : QuicServer Q) (handle : ℕ) (p : Packet) (budget : ℕ) :
    Decidable (s.DryReceive handle p budget) :=
  inferInstanceAs (Decidable (∀ conn ∈ s.connMap.get handle, (conn.recv p).1 = true →
    (s.noteHandshake handle (conn.recv p).2).2.DryPoll handle budget
      { (s.noteHandshake handle (conn.recv p).2).1 with
        connId := Quiche.sourceId (s.noteHandshake handle (conn.recv p).2).1.quicheConn }))

theorem receivePacket_drainsIdle {s : QuicServer Q} (h : s.DrainsIdle) {handle : ℕ} {p : Packet}
    {budget : ℕ} (hdry : s.DryReceive handle p budget) (direct : Bool) (now : ℕ)
    (scids : List Bytes) : (s.receivePacket direct handle p budget now scids).DrainsIdle := by
  unfold receivePacket
  cases hc : s.connMap.get handle with
  | none => exact h
  | some conn =>
    have hpoll := hdry conn hc
    dsimp only at hpoll ⊢
    generalize conn.recv p = r at hpoll ⊢
    obtain ⟨ok, d⟩ := r
    cases ok with
    | false => exact h
    | true =>
      have hnote := noteHandshake_drainsIdle h handle d
      have hdryNoted := hpoll rfl
      simp only [Bool.not_true, Bool.false_eq_true, if_false]
      dsimp only at hdryNoted
      generalize s.noteHandshake handle d = noted at hnote hdryNoted ⊢
      obtain ⟨d', s₁⟩ := noted
      have hpolled := pollConn_drainsIdle hnote hdryNoted now
      dsimp only at hpolled ⊢
      generalize s₁.pollConn handle budget now _ = s₂ at hpolled ⊢
      cases s₂.connMap.get handle with
      | none => exact hpolled
      | some e => exact hpolled

/-- The packet's connection, known or just accepted, is polled without finding capacity for
a stream a write waits on. -/
def DryPacket (s : QuicServer Q) (p : Packet) (budget now : ℕ) (scids : List Bytes) : Prop :=
  ∀ hdr ∈ p.header, ∀ handle ∈ (s.routeOrAccept hdr p now scids).1,
    (s.routeOrAccept hdr p now scids).2.DryReceive handle p budget

theorem packetArrives_drainsIdle {s : QuicServer Q} (h : s.DrainsIdle) {p : Packet}
    {budget now : ℕ} {scids : List Bytes} (hdry : s.DryPacket p budget now scids)
    (direct : Bool) : (s.packetArrives direct p budget now scids).DrainsIdle := by
  unfold packetArrives
  cases hp : p.header with
  | none => exact h
  | some hdr =>
    have hroute : (s.routeOrAccept hdr p now scids).2.DrainsIdle := Drains.routeAndAnnounce h
    have hreceive := hdry hdr hp
    dsimp only
    generalize s.routeOrAccept hdr p now scids = r at hroute hreceive ⊢
    obtain ⟨_ | handle, s'⟩ := r
    · exact hroute
    · exact receivePacket_drainsIdle hroute (hreceive handle rfl) _ _ _

end Packets

section Ticks

variable (now budget : ℕ)

/-- A connection whose timer expired is polled unless it has closed. -/
def DryExpire (handle : ℕ) (s : QuicServer Q) : Prop :=
  ∀ conn ∈ s.connMap.get handle, conn.onTimeout.isClosed = false →
    s.DryPoll handle budget conn.onTimeout

instance (handle : ℕ) (s : QuicServer Q) : Decidable (s.DryExpire budget handle) :=
  inferInstanceAs (Decidable (∀ conn ∈ s.connMap.get handle, conn.onTimeout.isClosed = false →
    s.DryPoll handle budget conn.onTimeout))

variable {s : QuicServer Q}

theorem expireTimer_drainsIdle {handle : ℕ} (h : s.DrainsIdle) (hdry : s.DryExpire budget handle) :
    (s.expireTimer now budget handle).DrainsIdle := by
  unfold expireTimer
  cases hc : s.connMap.get handle with
  | none => exact h
  | some conn =>
    dsimp only
    split_ifs with hclosed
    · exact DrainsIdle.emit h
        (by simp [(QuicConnection.sessionCloseEvent_kind (c := conn.onTimeout) _).1])
    · have hpoll := hdry conn hc (by simpa using hclosed)
      exact pollConn_drainsIdle (s := { s with connMap := s.connMap.set handle conn.onTimeout })
        h hpoll now

theorem expireTimers_drainsIdle (h : s.DrainsIdle)
    (hdry : Runs.Admitted (fun handle s => s.expireTimer now budget handle) (DryExpire budget)
      (s.popTimers now).lastExpired (s.popTimers now)) :
    (s.expireTimers now budget).DrainsIdle := by
  have hloop : ∀ (handles : List ℕ) (s : QuicServer Q), s.DrainsIdle →
      Runs.Admitted (fun handle s => s.expireTimer now budget handle) (DryExpire budget) handles s →
      (handles.foldl (expireTimer now budget) s).DrainsIdle := by
    intro handles
    induction handles with
    | nil => exact fun _ h _ => h
    | cons handle handles ih =>
      intro s h hadmitted
      exact ih _ (expireTimer_drainsIdle now budget h hadmitted.1) hadmitted.2
  have hpop : (s.popTimers now).DrainsIdle := h
  exact List.foldlRecOn _ _ (hloop _ _ hpop hdry) fun s hs handle _ =>
    sweepConn_drainsIdle budget s handle hs

/-- Every connection polled within the budget, in turn. -/
def DryCollect : List ℕ → ℕ → QuicServer Q → Prop
  | [], _, _ => True
  | handle :: handles, remaining, s =>
    if remaining = 0 then True
    else
      match s.connMap.get handle with
      | none => DryCollect handles remaining s
      | some conn => s.DryPoll handle remaining conn ∧
        DryCollect handles (budget - (s.pollConn handle remaining now conn).batch.length)
          (s.pollConn handle remaining now conn)

instance DryCollect.decidable : (handles : List ℕ) → (remaining : ℕ) → (s : QuicServer Q) →
    Decidable (DryCollect now budget handles remaining s)
  | [], _, _ => .isTrue trivial
  | handle :: handles, remaining, s => by
    have := DryCollect.decidable handles
    unfold DryCollect
    split
    · infer_instance
    · split <;> infer_instance

theorem collectAppEvents_drainsIdle (h : s.DrainsIdle)
    (hdry : s.DryCollect now budget s.connMap.handles budget) :
    (s.collectAppEvents budget now).DrainsIdle := by
  refine collectEvents_induction (P := fun handles left (s : QuicServer Q) =>
    s.DrainsIdle ∧ s.DryCollect now budget handles left) (R := DrainsIdle) ⟨h, hdry⟩
    (fun _ _ _ h => h.1) ?_ ?_
  · intro handle handles left s hget hleft ⟨h, hdry⟩
    unfold DryCollect at hdry
    rw [if_neg hleft, hget] at hdry
    exact ⟨h, hdry⟩
  · intro handle handles left s conn hget hleft ⟨h, hdry⟩
    unfold DryCollect at hdry
    rw [if_neg hleft, hget] at hdry
    exact ⟨pollConn_drainsIdle h hdry.1 now, hdry.2⟩

/-- A connection with blocked streams whose timer did not expire in this tick is probed. -/
def DryDrain (handle : ℕ) (s : QuicServer Q) : Prop :=
  handle ∉ (s.sweepConn budget handle).lastExpired →
    ∀ conn ∈ (s.sweepConn budget handle).connMap.get handle,
      conn.Dry ((s.sweepConn budget handle).writing handle)

instance (handle : ℕ) (s : QuicServer Q) : Decidable (s.DryDrain budget handle) :=
  inferInstanceAs (Decidable (handle ∉ (s.sweepConn budget handle).lastExpired →
    ∀ conn ∈ (s.sweepConn budget handle).connMap.get handle,
      conn.Dry ((s.sweepConn budget handle).writing handle)))

theorem drainConn_drainsIdle {handle : ℕ} (h : s.DrainsIdle) (hdry : s.DryDrain budget handle) :
    (s.drainConn budget handle).DrainsIdle := by
  have hswept := sweepConn_drainsIdle budget s handle h
  unfold drainConn
  dsimp only
  unfold DryDrain at hdry
  generalize s.sweepConn budget handle = s₁ at hswept hdry ⊢
  split_ifs with hexpired
  · exact hswept
  · cases hc : s₁.connMap.get handle with
    | none => exact hswept
    | some conn =>
      dsimp only
      split_ifs
      · exact hswept
      · exact QuicConnection.pollDrainEvents_drains (hdry hexpired conn hc)
          (fun _ hidle => hidle) hswept

theorem collectDrainEvents_drainsIdle (handles : List ℕ) (h : s.DrainsIdle)
    (hdry : Runs.Admitted (fun handle s => s.drainConn budget handle) (DryDrain budget) handles s) :
    (handles.foldl (drainConn budget) s).DrainsIdle := by
  induction handles generalizing s with
  | nil => exact h
  | cons handle handles ih => exact ih (drainConn_drainsIdle budget h hdry.1) hdry.2

theorem WriteFlush.step_drainedOf {writes : KeyMap (UInt32 × ℕ) PendingWrite}
    {acc : WriteFlush Q} (h : DrainedOf Prod.fst AtSlot writes acc.pending acc.drained)
    (key : UInt32 × ℕ) :
    DrainedOf Prod.fst AtSlot writes (acc.step key).pending (acc.step key).drained := by
  unfold WriteFlush.step
  cases hw : acc.pending.lookup key with
  | none => exact h
  | some write =>
    have hwaits : (acc.pending.lookup key).isSome := by rw [hw]; rfl
    dsimp only
    cases acc.connMap.get key.1.toNat with
    | none => exact h.erase key
    | some conn =>
      dsimp only
      cases (flushPendingWriteWithProgress (QuicConnection.streamSendArcbuf key.2) write
        conn).outcome with
      | error e => exact h.erase key
      | ok outcome =>
        dsimp only
        split_ifs
        · exact h.drain (a := (key, ⟨key.1.toNat, _⟩)) rfl hwaits
        · exact h.retain hwaits _

theorem flushQuicPendingWrites_drainedOf (connMap : ConnectionMap (QuicConnection Q))
    (writes : KeyMap (UInt32 × ℕ) PendingWrite) :
    DrainedOf Prod.fst AtSlot writes (flushQuicPendingWrites connMap writes).pending
      (flushQuicPendingWrites connMap writes).drained := by
  unfold flushQuicPendingWrites
  refine List.foldlRecOn writes.keys WriteFlush.step (motive := fun acc : WriteFlush Q =>
    DrainedOf Prod.fst AtSlot writes acc.pending acc.drained) ?_ ?_
  · exact .start
  · exact fun _ h key _ => WriteFlush.step_drainedOf h key

omit [Quiche Q] in
theorem DrainsIdle.emitDrains (entries : List ((UInt32 × ℕ) × ConnRef)) (h : s.DrainsIdle)
    (hentries : ∀ entry ∈ entries, s.writing entry.2.slot entry.1.2 = false) :
    (entries.foldl (fun s entry =>
      s.emit entry.2 (.drain (entry.1.1 ||| s.handleOffset) entry.1.2)) s).DrainsIdle := by
  induction entries generalizing s with
  | nil => exact h
  | cons entry entries ih =>
    rw [List.forall_mem_cons] at hentries
    exact ih (Drains.push_drain h hentries.1) hentries.2

theorem flushAllPendingWrites_drainsIdle (h : s.DrainsIdle) :
    s.flushAllPendingWrites.DrainsIdle := by
  have hflushed := flushQuicPendingWrites_drainedOf s.connMap s.pendingWrites
  unfold flushAllPendingWrites
  dsimp only
  generalize flushQuicPendingWrites s.connMap s.pendingWrites = flushed at hflushed ⊢
  have hretried : { s with connMap := flushed.connMap, pendingWrites := flushed.pending
      }.DrainsIdle := by
    refine h.of_writing (by rfl) ?_
    intro slot streamId hwaits
    exact hflushed.waiting _ hwaits
  apply (hretried.release flushed.releasedUnits).emitDrains
  intro entry hentry
  obtain ⟨hslot, hgone, -⟩ := hflushed.drained entry hentry
  rw [writing_releaseOutboundAdmission, hslot]
  unfold writing
  rw [UInt32.ofNat_toNat, hgone]
  rfl

theorem reapConnection_drainsIdle (s : QuicServer Q) (entry : ℕ × QuicConnection Q)
    (h : s.DrainsIdle) : (s.reapConnection entry).DrainsIdle := by
  have habandoned : (s.abandonConn ⟨entry.1, entry.2.uid⟩).DrainsIdle := by
    refine Drains.foldl_push (fun _ => by simp [JsH3Event.reset]) _ (Drains.mono ?_ h)
    intro slot streamId hidle
    unfold writing at hidle ⊢
    unfold abandonConn
    dsimp only
    rw [KeyMap.lookup_retain]
    split_ifs
    · exact hidle
    · rfl
  have hreleased := habandoned.release (s.pendingUnitsOf entry.1)
  unfold reapConnection
  dsimp only
  split_ifs
  · exact hreleased
  · exact hreleased.emit (by simp [(QuicConnection.sessionCloseEvent_kind (c := entry.2) _).1])

omit [Quiche Q] in
theorem emitSessionCloseFor_drainsIdle (s : QuicServer Q) (handle : ℕ) (h : s.DrainsIdle) :
    (s.emitSessionCloseFor handle).DrainsIdle := by
  unfold emitSessionCloseFor
  split
  · exact h
  · exact h.emit (by simp [JsH3Event.sessionClose])

end Ticks

section Commands

variable {idle : ℕ → ℕ → Prop} {s : QuicServer Q}

theorem dispatchStreamSend_drains (connHandle : UInt32) (streamId : ℕ) (chunk : Bytes) (fin : Bool)
    (h : Drains idle s.batch) :
    Drains idle (s.dispatchStreamSend connHandle streamId chunk fin).batch := by
  unfold dispatchStreamSend
  cases s.pendingWrites.lookup (connHandle, streamId) with
  | some write => exact h
  | none =>
    dsimp only
    cases s.conn? connHandle with
    | none => exact drains_release _ _ h
    | some conn =>
      dsimp only
      rcases conn.streamSendArcbuf streamId chunk fin with ⟨e | outcome, d⟩
      · exact (drains_release (s.setConn connHandle d) _ h).push (by simp [JsH3Event.error])
      · have hreleased := drains_release (s.setConn connHandle d)
          (acceptedOutboundPayloadUnits chunk.length fin outcome.written outcome.finAccepted) h
        dsimp only
        cases outcome.remainder with
        | none => exact hreleased
        | some remainder => exact hreleased.push (by simp [JsH3Event.streamBlocked])

theorem dispatchStreamClose_drains (connHandle : UInt32) (streamId errorCode : ℕ)
    (h : Drains idle s.batch) :
    Drains idle (s.dispatchStreamClose connHandle streamId errorCode).batch := by
  unfold dispatchStreamClose
  cases s.conn? connHandle with
  | none => exact h
  | some conn =>
    have hreleased := drains_release
      { s.setConn connHandle (conn.streamClose streamId errorCode) with
      pendingWrites := s.pendingWrites.erase (connHandle, streamId) }
      (KeyMap.weight PendingWrite.queuedUnits (s.pendingWrites.lookup (connHandle, streamId))) h
    dsimp only
    split_ifs
    · exact hreleased.push (by simp [JsH3Event.reset])
    · exact hreleased

theorem dispatchShutdown_batch (s : QuicServer Q) : s.dispatchShutdown.batch = s.batch := by
  have hloop : ∀ (handles : List ℕ) (s : QuicServer Q),
      (handles.foldl shutdownConn s).batch = s.batch := by
    intro handles
    induction handles with
    | nil => exact fun _ => rfl
    | cons handle handles ih =>
      intro s
      refine (ih _).trans ?_
      unfold shutdownConn
      split
      · rfl
      · split_ifs <;> rfl
  exact hloop _ s

theorem dispatchCommand_drains (now : ℕ) (cmd : QuicServerCommand) (h : Drains idle s.batch) :
    Drains idle (s.dispatchCommand now cmd).2.batch := by
  cases cmd with
  | streamSend connHandle streamId chunk fin =>
    exact dispatchStreamSend_drains connHandle streamId chunk fin h
  | streamClose connHandle streamId errorCode =>
    exact dispatchStreamClose_drains connHandle streamId errorCode h
  | closeSession connHandle errorCode reason =>
    unfold dispatchCommand dispatchCloseSession
    dsimp only
    cases s.conn? connHandle <;> exact h
  | sendDatagram connHandle data =>
    unfold dispatchCommand dispatchSendDatagram
    dsimp only
    cases s.conn? connHandle with
    | none => exact drains_release _ _ h
    | some conn => exact drains_release (s.setConn connHandle _) _ h
  | pingSession connHandle =>
    unfold dispatchCommand dispatchPingSession
    dsimp only
    cases s.conn? connHandle <;> exact h
  | shutdown =>
    unfold dispatchCommand
    dsimp only
    rw [dispatchShutdown_batch]
    exact h

end Commands

end QuicServer

namespace QuicServerOp

variable {Q : Type} [Quiche Q]

/-- Whatever connection the operation probes for capacity has none for a stream a write
still waits on. -/
def Dry : QuicServerOp → QuicServer Q → Prop
  | .packet _ p budget now scids, s => s.DryPacket p budget now scids
  | .expireTimers now budget, s =>
    Runs.Admitted (fun handle s => s.expireTimer now budget handle) (QuicServer.DryExpire budget)
      (s.popTimers now).lastExpired (s.popTimers now)
  | .collectAppEvents budget now, s => s.DryCollect now budget s.connMap.handles budget
  | .collectDrainEvents budget, s =>
    Runs.Admitted (fun handle s => s.drainConn budget handle) (QuicServer.DryDrain budget)
      s.connMap.handles s
  | _, _ => True

instance (op : QuicServerOp) (s : QuicServer Q) : Decidable (op.Dry s) :=
  match op with
  | .packet _ p budget now scids =>
    inferInstanceAs (Decidable (∀ hdr ∈ p.header, ∀ handle ∈ (s.routeOrAccept hdr p now scids).1,
      (s.routeOrAccept hdr p now scids).2.DryReceive handle p budget))
  | .expireTimers .. => inferInstanceAs (Decidable (Runs.Admitted _ _ _ _))
  | .collectAppEvents budget now =>
    inferInstanceAs (Decidable (s.DryCollect now budget s.connMap.handles budget))
  | .collectDrainEvents _ => inferInstanceAs (Decidable (Runs.Admitted _ _ _ _))
  | .command .. | .flushAllPendingWrites | .flushAllSends .. | .reapClosedConnections
  | .emitSessionCloseForAllActive => .isTrue trivial

theorem apply_drainsIdle (op : QuicServerOp) {s : QuicServer Q} (hempty : s.batch = [])
    (hdry : op.Dry s) : (op.apply s).DrainsIdle := by
  have hnone : ∀ idle, Drains idle s.batch := by
    intro idle
    rw [hempty]
    exact .nil idle
  have h : s.DrainsIdle := hnone _
  cases op with
  | command now cmd => exact QuicServer.dispatchCommand_drains now cmd (hnone _)
  | packet direct p budget now scids => exact QuicServer.packetArrives_drainsIdle h hdry direct
  | expireTimers now budget => exact QuicServer.expireTimers_drainsIdle now budget h hdry
  | collectAppEvents budget now => exact QuicServer.collectAppEvents_drainsIdle now budget h hdry
  | collectDrainEvents budget => exact QuicServer.collectDrainEvents_drainsIdle budget _ h hdry
  | flushAllPendingWrites => exact QuicServer.flushAllPendingWrites_drainsIdle h
  | flushAllSends rounds now => exact h
  | reapClosedConnections =>
    have hdrained : QuicServer.DrainsIdle { s with
        connMap := (s.connMap.drainClosed QuicConnection.isClosed).2 } := h
    exact List.foldlRecOn _ _ hdrained fun s hs entry _ =>
      QuicServer.reapConnection_drainsIdle s entry hs
  | emitSessionCloseForAllActive =>
    exact List.foldlRecOn _ _ h fun s hs handle _ =>
      QuicServer.emitSessionCloseFor_drainsIdle s handle hs

end QuicServerOp

namespace QuicClient

variable {Q : Type} [Quiche Q] (connHandle : UInt32) {h : QuicClient Q}

def writing (h : QuicClient Q) (streamId : ℕ) : Bool := (h.pendingWrites.lookup streamId).isSome

/-- Polling the connection finds no capacity for a stream a write still waits on. -/
def DryPoll (budget : ℕ) (h : QuicClient Q) : Prop :=
  (h.conn.readEvents (ref connHandle h) connHandle budget h.batch).1.Dry (writing h)

instance (budget : ℕ) (h : QuicClient Q) : Decidable (DryPoll connHandle budget h) :=
  inferInstanceAs (Decidable (QuicConnection.Dry _ _))

omit [Quiche Q] in
theorem lookup_eq_none_of_writing {streamId : ℕ} (hidle : writing h streamId = false) :
    h.pendingWrites.lookup streamId = none := by
  simpa [writing] using hidle

theorem pollConn_drainsIdle {budget : ℕ} (hidle : h.DrainsIdle)
    (hdry : DryPoll connHandle budget h) (now : ℕ) :
    (pollConn connHandle budget now h).DrainsIdle := by
  have hpolled : { h with
      conn := (h.conn.pollQuicEvents (ref connHandle h) connHandle budget h.batch).1
      batch := (h.conn.pollQuicEvents (ref connHandle h) connHandle budget h.batch).2
      }.DrainsIdle :=
    QuicConnection.pollQuicEvents_drains hdry (fun _ => lookup_eq_none_of_writing) hidle
  exact hpolled.reportPingAcks _ _ _

theorem updateSessionTicket_drainsIdle (hidle : h.DrainsIdle) :
    (updateSessionTicket connHandle h).DrainsIdle :=
  hidle.reportSessionTicket _ _ _

theorem sweepFinishedStreams_drainsIdle (hidle : h.DrainsIdle) (budget : ℕ) :
    (sweepFinishedStreams connHandle budget h).DrainsIdle :=
  QuicConnection.sweepFinishedStreams_drains budget h.conn hidle

theorem noteHandshake_drainsIdle (hidle : h.DrainsIdle) :
    (noteHandshake connHandle h).DrainsIdle := by
  have hdone : ∀ ref, Drains (fun _ streamId => h.pendingWrites.lookup streamId = none)
      (pushFor ref (.handshakeComplete connHandle) h.batch) :=
    fun ref => Drains.push hidle (by simp [JsH3Event.handshakeComplete])
  unfold noteHandshake
  dsimp only
  split_ifs
  all_goals first | exact hidle | exact hdone _

theorem emitSessionClose_drainsIdle (hidle : h.DrainsIdle) :
    (emitSessionClose connHandle h).DrainsIdle := by
  apply ClientHandler.DrainsIdle.emitSessionClose hidle
  intro c connHandle
  simp [(QuicConnection.sessionCloseEvent_kind (c := c) connHandle).1]

theorem queueStreamSend_drains {idle : ℕ → ℕ → Prop} (streamId : ℕ) (chunk : Bytes) (fin : Bool)
    (hdrains : Drains idle h.batch) :
    Drains idle (queueStreamSend connHandle streamId chunk fin h).2.batch := by
  unfold queueStreamSend ClientHandler.queueStreamSend
  cases h.pendingWrites.lookup streamId with
  | some write => exact hdrains
  | none =>
    dsimp only
    rcases h.conn.streamSendArcbuf streamId chunk fin with ⟨e | outcome, d⟩
    · exact hdrains.push (by simp [JsH3Event.error])
    · dsimp only
      cases outcome.remainder with
      | none => exact hdrains
      | some remainder => exact hdrains.push (by simp [JsH3Event.streamBlocked])

theorem dispatchCommand_drains {idle : ℕ → ℕ → Prop} (now : ℕ) (cmd : QuicClientCommand)
    (hdrains : Drains idle h.batch) : Drains idle (dispatchCommand now cmd h).2.batch := by
  cases cmd with
  | openStream =>
    unfold dispatchCommand openBidiStream
    dsimp only
    split_ifs
    · exact hdrains
    · rcases h.conn.reserveLocalBidiStream h.nextBidiStreamId with ⟨_ | _, d⟩ <;> exact hdrains
  | streamSend streamId chunk fin =>
    exact ClientHandler.drains_release _ _ (queueStreamSend_drains 0 streamId chunk fin hdrains)
  | streamClose streamId errorCode =>
    exact ClientHandler.drains_release (closeStream streamId errorCode h).2 _ hdrains
  | sendDatagram data =>
    exact ClientHandler.drains_release (ClientHandler.reply (sendDatagram data h).2 _) _ hdrains
  | ping => exact hdrains
  | close errorCode reason => exact hdrains
  | shutdown => exact hdrains

/-- What the event loops ask of the handler. -/
inductive Op
  | command (now : ℕ) (cmd : QuicClientCommand)
  | queueStreamSend (streamId : ℕ) (chunk : Bytes) (fin : Bool)
  | packet (p : Packet) (budget now : ℕ)
  | timers (now budget : ℕ)
  | pollAppEvents (budget now : ℕ)
  | pollDrainEvents (budget : ℕ)
  | flushPendingWrites
  | emitSessionClose
  | emitSessionCloseForAllActive
  deriving DecidableEq

namespace Op

def apply : Op → QuicClient Q → QuicClient Q
  | .command now cmd => fun h => (dispatchCommand now cmd h).2
  | .queueStreamSend streamId chunk fin => fun h =>
    (QuicClient.queueStreamSend connHandle streamId chunk fin h).2
  | .packet p budget now => processPacketForHandle connHandle p budget now
  | .timers now budget => processTimersForHandle connHandle now budget
  | .pollAppEvents budget now => pollAppEventsForHandle connHandle budget now
  | .pollDrainEvents budget => pollDrainEventsForHandle connHandle budget
  | .flushPendingWrites => flushPendingWritesForHandle connHandle
  | .emitSessionClose => QuicClient.emitSessionClose connHandle
  | .emitSessionCloseForAllActive => fun h => h.emitSessionCloseForAllActive (ref connHandle h)

/-- Late FINs are looked for before blocked streams are probed. -/
def swept (budget : ℕ) (h : QuicClient Q) : QuicClient Q :=
  if 0 < budget then sweepFinishedStreams connHandle budget h else h

/-- When the operation probes the connection for capacity, there is none for a stream a
write still waits on. -/
def Dry : Op → QuicClient Q → Prop
  | .packet p budget _, h => (h.conn.recv p).1 = true →
    DryPoll connHandle budget (noteHandshake connHandle (h.setConn (h.conn.recv p).2))
  | .timers now budget, h => h.timerDeadline.any (· ≤ now) = true →
    (h.conn.onTimeout.isClosed && !h.sessionClosedEmitted) = false →
      DryPoll connHandle budget (h.setConn h.conn.onTimeout)
  | .pollAppEvents budget _, h => budget ≠ 0 → DryPoll connHandle budget h
  | .pollDrainEvents budget, h =>
    (swept connHandle budget h).conn.Dry (writing (swept connHandle budget h))
  | _, _ => True

instance (op : Op) (h : QuicClient Q) : Decidable (op.Dry connHandle h) := by
  unfold Dry
  split <;> infer_instance

theorem apply_drainsIdle (op : Op) (hempty : h.batch = []) (hdry : op.Dry connHandle h) :
    (op.apply connHandle h).DrainsIdle := by
  have hnone : ∀ idle, Drains idle h.batch := by
    intro idle
    rw [hempty]
    exact .nil idle
  have hidle : h.DrainsIdle := hnone _
  cases op with
  | command now cmd => exact dispatchCommand_drains now cmd (hnone _)
  | queueStreamSend streamId chunk fin =>
    exact queueStreamSend_drains connHandle streamId chunk fin (hnone _)
  | packet p budget now =>
    unfold apply processPacketForHandle
    dsimp only
    have hset : (h.setConn (h.conn.recv p).2).DrainsIdle := hidle
    have hnoted := noteHandshake_drainsIdle connHandle hset
    split_ifs with hok hclosed
    · exact hset
    · have hpolled := pollConn_drainsIdle connHandle hnoted (hdry (by simpa using hok)) now
      exact emitSessionClose_drainsIdle connHandle
        (updateSessionTicket_drainsIdle connHandle hpolled)
    · have hpolled := pollConn_drainsIdle connHandle hnoted (hdry (by simpa using hok)) now
      exact updateSessionTicket_drainsIdle connHandle hpolled
  | timers now budget =>
    unfold apply processTimersForHandle
    dsimp only
    have hset : (h.setConn h.conn.onTimeout).DrainsIdle := hidle
    split_ifs with hdue hclosed hbudget
    · exact emitSessionClose_drainsIdle connHandle hset
    · have hpolled := pollConn_drainsIdle connHandle hset
        (hdry hdue (Bool.eq_false_of_not_eq_true hclosed)) now
      exact updateSessionTicket_drainsIdle connHandle
        (sweepFinishedStreams_drainsIdle connHandle hpolled budget)
    · have hpolled := pollConn_drainsIdle connHandle hset
        (hdry hdue (Bool.eq_false_of_not_eq_true hclosed)) now
      exact updateSessionTicket_drainsIdle connHandle hpolled
    · exact hidle
  | pollAppEvents budget now =>
    unfold apply pollAppEventsForHandle
    dsimp only
    split_ifs with hbudget
    · exact hidle
    · exact updateSessionTicket_drainsIdle connHandle
        (pollConn_drainsIdle connHandle hidle (hdry hbudget) now)
  | pollDrainEvents budget =>
    have hswept : (swept connHandle budget h).DrainsIdle := by
      unfold swept
      split_ifs
      · exact sweepFinishedStreams_drainsIdle connHandle hidle budget
      · exact hidle
    have hdryNow : (swept connHandle budget h).conn.Dry
        (writing (swept connHandle budget h)) := hdry
    show (pollDrainEventsForHandle connHandle budget h).DrainsIdle
    unfold pollDrainEventsForHandle
    dsimp only
    generalize hs : swept connHandle budget h = h₁ at hswept hdryNow
    unfold swept at hs
    rw [hs]
    split_ifs
    · exact hswept
    · exact QuicConnection.pollDrainEvents_drains hdryNow (fun _ => lookup_eq_none_of_writing)
        hswept
  | flushPendingWrites => exact hidle.flushPendingWrites _ connHandle
  | emitSessionClose => exact emitSessionClose_drainsIdle connHandle hidle
  | emitSessionCloseForAllActive =>
    unfold apply ClientHandler.emitSessionCloseForAllActive
    dsimp only
    split_ifs
    · exact hidle
    · exact Drains.push hidle (by simp [JsH3Event.sessionClose])

end Op

end QuicClient

/-- In every state, reached or not, an operation of a raw QUIC handler that finds no capacity
for streams a write still waits on drains no such stream. -/
theorem quic_drains_only_idle {Q : Type} [Quiche Q] :
    (∀ (s : QuicServer Q) (op : QuicServerOp), op.Dry (QuicWorker.startBatch s) →
      (op.apply (QuicWorker.startBatch s)).DrainsIdle) ∧
    ∀ (h : QuicClient Q) (connHandle : UInt32) (op : QuicClient.Op),
      op.Dry connHandle h.startBatch → (op.apply connHandle h.startBatch).DrainsIdle := by
  constructor
  · intro s op hdry
    exact op.apply_drainsIdle rfl hdry
  · intro h connHandle op hdry
    exact op.apply_drainsIdle connHandle rfl hdry

namespace QuicPendingDrains

/-- A client without send capacity, and a write to it that has to wait. -/
def blockedWrite : List QuicServerOp :=
  [.packet false (Scripted.packet .initial [7] [0]) 0 0 [[7]],
    .packet false (Scripted.packet .other [7] [4, 0]) 0 0 [],
    .command 0 (.streamSend 0 1 [1, 2, 3] true)]

def blockedWorker : QuicWorker Scripted :=
  Runs.run QuicWorker.step blockedWrite (QuicWorker.init 0 8 true false)

/-- A packet that leaves room for `room` bytes. -/
def roomArrives (room : UInt8) : QuicServerOp :=
  .packet false (Scripted.packet .other [7] [4, room]) 0 0 []

/-- A client handler with the same write waiting. -/
def blockedHandler : QuicClient Scripted :=
  (QuicClient.queueStreamSend 0 0 [1, 2, 3] true
    (.ofConn (.new 0 (.fresh [7]) [7]) (fun _ => none) 0 .default)).2

theorem quic_drains_only_idle_noRoom :
    ((roomArrives 0).Dry (QuicWorker.startBatch blockedWorker.server) ∧
      ((roomArrives 0).apply (QuicWorker.startBatch blockedWorker.server)).DrainsIdle) ∧
    ((QuicClient.Op.pollDrainEvents 10).Dry 0 blockedHandler.startBatch ∧
      ((QuicClient.Op.pollDrainEvents 10).apply 0 blockedHandler.startBatch).DrainsIdle) :=
  ⟨⟨by decide +kernel, quic_drains_only_idle.1 _ _ (by decide +kernel)⟩,
    ⟨by decide +kernel, quic_drains_only_idle.2 _ _ _ (by decide +kernel)⟩⟩

/-- The packet that brings room is reported as a DRAIN while the write still waits. -/
theorem drain_while_pending : ∃ w : QuicWorker Scripted,
    Runs.Reach QuicWorker.step (fun _ _ => True) (QuicWorker.init 0 8 true false) w ∧
      ¬((roomArrives 100).apply (QuicWorker.startBatch w.server)).DrainsIdle := by
  refine ⟨blockedWorker, Runs.Reach.start.run (by decide), ?_⟩
  intro hidle
  obtain ⟨ref, howner, hwaits⟩ := hidle ⟨some ⟨0, 0⟩, .drain 0 1⟩ (by decide +kernel) rfl
  cases howner
  revert hwaits
  decide +kernel

end QuicPendingDrains

end Http3
