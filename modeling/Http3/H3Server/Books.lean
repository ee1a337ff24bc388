import Http3.Drains
import Http3.H3ConnectionSpec
import Http3.H3Server.Worker

/-! Steps of the HTTP/3 server worker that leave pending data and the admission window alone. -/

namespace Http3

namespace H3Server

variable {Q : Type}

/-- The step leaves pending data and the window alone. -/
structure SameBooks (s s' : H3Server Q) : Prop where
  writes : s'.pendingWrites = s.pendingWrites
  responses : s'.pendingResponses = s.pendingResponses
  admission : s'.outboundAdmission = s.outboundAdmission

/-- Nothing waits on a stream of the connection in a slot. -/
def Idle (s : H3Server Q) (slot streamId : ℕ) : Prop :=
  s.pendingWrites.lookup (UInt32.ofNat slot, streamId) = none ∧
    s.pendingResponses.lookup (UInt32.ofNat slot, streamId) = none

def DrainsIdle (s : H3Server Q) : Prop := Drains s.Idle s.batch

/-- The step also drains no stream that something waits on. -/
structure KeepsBooks (s s' : H3Server Q) : Prop extends SameBooks s s' where
  drains : s.DrainsIdle → s'.DrainsIdle

section Rules

variable {s s' s'' : H3Server Q} {α : Type} {f : H3Server Q → α → H3Server Q}

theorem SameBooks.emit (s : H3Server Q) (ref : ConnRef) (event : JsH3Event) :
    SameBooks s (s.emit ref event) := ⟨rfl, rfl, rfl⟩

theorem SameBooks.setConn (s : H3Server Q) (connHandle : UInt32) (c : H3Connection Q) :
    SameBooks s (s.setConn connHandle c) := ⟨rfl, rfl, rfl⟩

theorem SameBooks.trans (h : SameBooks s s') (h' : SameBooks s' s'') : SameBooks s s'' :=
  ⟨h'.writes.trans h.writes, h'.responses.trans h.responses, h'.admission.trans h.admission⟩

theorem SameBooks.foldl (hf : ∀ s a, SameBooks s (f s a)) (as : List α) (s : H3Server Q) :
    SameBooks s (as.foldl f s) :=
  List.foldlRecOn as f ⟨rfl, rfl, rfl⟩ fun _ h a _ => h.trans (hf _ a)

theorem DrainsIdle.emit (h : s.DrainsIdle) {ref : ConnRef} {event : JsH3Event}
    (hevent : event.eventType ≠ .drain) : (s.emit ref event).DrainsIdle := Drains.push h hevent

theorem DrainsIdle.suppress {handle uid : ℕ} {batch : List Emitted} (h : s.DrainsIdle)
    (hgrows : Grows (Polls ⟨handle, uid⟩ (globalHandle s.handleOffset handle)) s.batch batch) :
    ({ s with batch }.suppressPendingDrains handle).DrainsIdle := by
  have hidle : ∀ streamId,
      ((s.pendingWrites.lookup (UInt32.ofNat handle, streamId)).isSome ||
        (s.pendingResponses.lookup (UInt32.ofNat handle, streamId)).isSome) = false →
      s.Idle handle streamId := by
    intro streamId hwaits
    simpa [Idle] using hwaits
  exact Drains.suppress h hgrows hidle

theorem KeepsBooks.refl (s : H3Server Q) : KeepsBooks s s := ⟨⟨rfl, rfl, rfl⟩, id⟩

theorem KeepsBooks.trans (h : KeepsBooks s s') (h' : KeepsBooks s' s'') : KeepsBooks s s'' :=
  ⟨h.toSameBooks.trans h'.toSameBooks, h'.drains ∘ h.drains⟩

theorem KeepsBooks.foldl (hf : ∀ s a, KeepsBooks s (f s a)) (as : List α) (s : H3Server Q) :
    KeepsBooks s (as.foldl f s) :=
  List.foldlRecOn as f (.refl s) fun _ h a _ => h.trans (hf _ a)

/-- Connections, routes and timers change, and nothing is reported. -/
theorem KeepsBooks.silent (hbooks : SameBooks s s') (hbatch : s'.batch = s.batch) :
    KeepsBooks s s' := by
  refine ⟨hbooks, fun h => ?_⟩
  unfold DrainsIdle Idle
  rw [hbooks.writes, hbooks.responses, hbatch]
  exact h

theorem KeepsBooks.emit (s : H3Server Q) (ref : ConnRef) {event : JsH3Event}
    (hevent : event.eventType ≠ .drain) : KeepsBooks s (s.emit ref event) :=
  ⟨.emit s ref event, fun h => h.emit hevent⟩

end Rules

variable [Quiche Q]

theorem SameBooks.emitH3SendErrorAndReset (s : H3Server Q) (connHandle : UInt32)
    (c : H3Connection Q) (streamId : ℕ) (context : String) (error : Http3NativeError) :
    SameBooks s (s.emitH3SendErrorAndReset connHandle c streamId context error) :=
  ⟨rfl, rfl, rfl⟩

theorem sessionCloseEvent_kind (c : H3Connection Q) (connHandle : UInt32) :
    (c.sessionCloseEvent connHandle).eventType = .sessionClose ∧
      (c.sessionCloseEvent connHandle).connHandle = connHandle := by
  unfold H3Connection.sessionCloseEvent
  split
  · exact ⟨rfl, rfl⟩
  · split_ifs <;> exact ⟨rfl, rfl⟩

theorem pollConn_keepsBooks (s : H3Server Q) (handle budget now : ℕ) (c : H3Connection Q) :
    KeepsBooks s (s.pollConn handle budget now c) := by
  refine ⟨⟨rfl, rfl, rfl⟩, fun h => ?_⟩
  have hpoll : H3Connection.PollSpec ⟨handle, c.uid⟩ (globalHandle s.handleOffset handle) c _
    s.batch _ := c.pollH3Events_spec budget s.batch
  exact Drains.foldl_push (fun _ => by simp [JsH3Event.pingAck]) _ (h.suppress hpoll.events)

theorem noteHandshake_keepsBooks (direct : Bool) (handle : ℕ) (c : H3Connection Q)
    (s : H3Server Q) : KeepsBooks s (s.noteHandshake direct handle c).2 := by
  unfold noteHandshake
  dsimp only
  split_ifs
  all_goals first | exact .refl s | exact .emit s _ (by simp [JsH3Event.handshakeComplete])

theorem receivePacket_keepsBooks (direct : Bool) (handle : ℕ) (p : Packet) (budget now : ℕ)
    (scids : List Bytes) (s : H3Server Q) :
    KeepsBooks s (s.receivePacket direct handle p budget now scids) := by
  unfold receivePacket
  cases s.connMap.get handle with
  | none => exact .refl s
  | some c =>
    dsimp only
    generalize H3Connection.recv (Q := Q) _ p = r
    obtain ⟨ok, d⟩ := r
    cases ok with
    | false => exact .silent ⟨rfl, rfl, rfl⟩ rfl
    | true =>
      have hnote := noteHandshake_keepsBooks direct handle d s
      simp only [Bool.not_true, Bool.false_eq_true, if_false]
      generalize s.noteHandshake direct handle d = r at hnote ⊢
      obtain ⟨d', s₁⟩ := r
      have hpoll := hnote.trans (pollConn_keepsBooks s₁ handle budget now
        { d' with connId := Quiche.sourceId d'.quicheConn })
      dsimp only at hpoll ⊢
      generalize s₁.pollConn handle budget now _ = s₂ at hpoll ⊢
      cases s₂.connMap.get handle with
      | none => exact hpoll
      | some e => exact hpoll.trans (.silent ⟨rfl, rfl, rfl⟩ rfl)

theorem packetArrives_keepsBooks (direct : Bool) (p : Packet) (budget now : ℕ)
    (scids : List Bytes) (s : H3Server Q) :
    KeepsBooks s (s.packetArrives direct p budget now scids) := by
  unfold packetArrives
  cases p.header with
  | none => exact .refl s
  | some hdr =>
    have hroute : KeepsBooks s (s.routeOrAccept hdr p now scids).2 :=
      ⟨⟨rfl, rfl, rfl⟩, fun h => Drains.routeAndAnnounce h⟩
    dsimp only
    generalize s.routeOrAccept hdr p now scids = r at hroute ⊢
    obtain ⟨_ | handle, s₁⟩ := r
    · exact hroute
    · exact hroute.trans (receivePacket_keepsBooks direct handle p budget now scids.tail s₁)

theorem expireTimers_keepsBooks (now budget : ℕ) (s : H3Server Q) :
    KeepsBooks s (s.expireTimers now budget) := by
  have hexpire : ∀ (s : H3Server Q) handle, KeepsBooks s (s.expireTimer now budget handle) := by
    intro s handle
    unfold expireTimer
    cases s.connMap.get handle with
    | none => exact .refl s
    | some c =>
      have hset : KeepsBooks s { s with connMap := s.connMap.set handle c.onTimeout } :=
        .silent ⟨rfl, rfl, rfl⟩ rfl
      dsimp only
      split_ifs
      · exact hset.trans (.emit _ _ (by simp [(sessionCloseEvent_kind c.onTimeout _).1]))
      · exact (hset.trans (pollConn_keepsBooks _ handle budget now c.onTimeout)).trans
          (.silent ⟨rfl, rfl, rfl⟩ rfl)
  have hclose : ∀ (s : H3Server Q) connHandle,
      KeepsBooks s (s.completeSessionClose connHandle) := by
    intro s connHandle
    unfold completeSessionClose
    cases s.pendingSessionCloses.lookup connHandle with
    | none => exact .refl s
    | some pending =>
      dsimp only
      cases H3Server.conn? _ connHandle <;> exact .silent ⟨rfl, rfl, rfl⟩ rfl
  have hpop : KeepsBooks s (s.popTimers now) := .silent ⟨rfl, rfl, rfl⟩ rfl
  exact (hpop.trans (.foldl hexpire _ _)).trans (.foldl hclose _ _)

theorem collectAppEvents_keepsBooks (budget now : ℕ) (s : H3Server Q) :
    KeepsBooks s (s.collectAppEvents budget now) := by
  refine collectEvents_keeps (P := KeepsBooks s) ?_ (.refl s)
  exact fun handle left s' c _ _ h => h.trans (pollConn_keepsBooks s' handle left now c)

theorem collectDrainEvents_keepsBooks (s : H3Server Q) : KeepsBooks s s.collectDrainEvents := by
  refine KeepsBooks.foldl ?_ _ s
  intro s handle
  unfold drainConn
  split_ifs
  · exact .refl s
  · cases s.connMap.get handle with
    | none => exact .refl s
    | some c =>
      dsimp only
      split_ifs
      · exact .refl s
      · refine ⟨⟨rfl, rfl, rfl⟩, fun h => ?_⟩
        have hpoll : H3Connection.PollSpec ⟨handle, c.uid⟩ (globalHandle s.handleOffset handle) c _
          s.batch _ := c.pollDrainEvents_spec s.batch
        exact DrainsIdle.suppress h hpoll.events

omit [Quiche Q] in
theorem emitSessionCloseForAllActive_keepsBooks (s : H3Server Q) :
    KeepsBooks s s.emitSessionCloseForAllActive := by
  refine KeepsBooks.foldl ?_ _ s
  intro s handle
  unfold emitSessionCloseFor
  cases s.connMap.get handle with
  | none => exact .refl s
  | some c => exact .emit s _ (by simp [JsH3Event.sessionClose])

theorem flushAllSends_sameBooks (rounds now : ℕ) (s : H3Server Q) :
    SameBooks s (s.flushAllSends rounds now).2 := ⟨rfl, rfl, rfl⟩

theorem dispatchShutdown_sameBooks (s : H3Server Q) : SameBooks s s.dispatchShutdown := by
  refine SameBooks.foldl ?_ _ s
  intro s handle
  unfold shutdownConn
  cases s.connMap.get handle with
  | none => exact ⟨rfl, rfl, rfl⟩
  | some c =>
    dsimp only
    split_ifs <;> exact ⟨rfl, rfl, rfl⟩

/-- A command that neither queues nor drops payload of a stream. -/
def IsQuiet : WorkerCommand → Prop
  | .sendResponseHeaders .. | .sendResponse .. | .streamSend .. | .streamClose .. => False
  | _ => True

theorem dispatchCommand_quiet (now : ℕ) {cmd : WorkerCommand} (hquiet : IsQuiet cmd)
    (s : H3Server Q) :
    (s.dispatchCommand now cmd).2.pendingWrites = s.pendingWrites ∧
      (s.dispatchCommand now cmd).2.pendingResponses = s.pendingResponses ∧
      (s.dispatchCommand now cmd).2.outboundAdmission.queued =
        s.outboundAdmission.queued - workerCommandOutboundBytes cmd := by
  cases cmd with
  | sendResponseHeaders | sendResponse | streamSend | streamClose => cases hquiet
  | streamReadCredit connHandle | sendTrailers connHandle | pingSession connHandle =>
    simp only [dispatchCommand, dispatchSendTrailers, dispatchPingSession]
    cases s.conn? connHandle <;> exact ⟨rfl, rfl, rfl⟩
  | closeSession connHandle errorCode reason =>
    simp only [dispatchCommand, dispatchCloseSession]
    cases s.conn? connHandle with
    | none => exact ⟨rfl, rfl, rfl⟩
    | some c =>
      dsimp only
      split_ifs <;> exact ⟨rfl, rfl, rfl⟩
  | sendDatagram connHandle data =>
    simp only [dispatchCommand, dispatchSendDatagram]
    cases s.conn? connHandle <;>
      simp [setConn, OutboundAdmission.release_queued, workerCommandOutboundBytes]
  | shutdown =>
    have hbooks := s.dispatchShutdown_sameBooks
    exact ⟨hbooks.writes, hbooks.responses, congrArg OutboundAdmission.queued hbooks.admission⟩

end H3Server

end Http3
