import Http3.H3Server.Tick
import Http3.H3ConnectionUse
import Http3.SlotBooks

/-! What a step of the HTTP/3 server worker that concerns one slab slot leaves alone: the other
connections, their pending data, who the events are about, and the books of the slots. -/

namespace Http3

def EventType.isMid : EventType → Bool
  | .newSession | .sessionClose | .writeReady | .shutdownComplete => false
  | _ => true

namespace H3Server

variable {Q : Type}

def uidAt (s : H3Server Q) (slot : ℕ) : Option ℕ := (s.connMap.get slot).map (·.uid)

/-- Something of this stream waits for flow control. -/
def HasPending (s : H3Server Q) (key : StreamKey) : Prop :=
  (s.pendingWrites.lookup key).isSome ∨ (s.pendingResponses.lookup key).isSome

def books (s : H3Server Q) : SlotBooks :=
  .ofMap (·.uid) s.timerHeap.deadlines
    (fun k => (∃ key : StreamKey, s.HasPending key ∧ key.1.toNat = k) ∨
      ∃ connHandle : UInt32,
        (s.pendingSessionCloses.lookup connHandle).isSome ∧ connHandle.toNat = k)
    s.connMap

/-- The wake-up of a worker whose admission window reopened. -/
def IsWake (e : Emitted) : Prop := e = ⟨none, .writeReady 0⟩

/-- An event of the connection that lives in `slot`, sent under `connHandle`, that
neither opens nor closes its session. -/
def Speaks (s : H3Server Q) (slot : ℕ) (connHandle : UInt32) (e : Emitted) : Prop :=
  ∃ uid, s.uidAt slot = some uid ∧ e.owner = some ⟨slot, uid⟩ ∧
    e.event.connHandle = connHandle ∧ e.event.eventType.isMid = true

def Talks (s : H3Server Q) (slot : ℕ) (connHandle : UInt32) (e : Emitted) : Prop :=
  IsWake e ∨ s.Speaks slot connHandle e

theorem Speaks.of_polls {s : H3Server Q} {ref : ConnRef} {connHandle : UInt32} {e : Emitted}
    (hu : s.uidAt ref.slot = some ref.uid) (h : Polls ref connHandle e) :
    s.Speaks ref.slot connHandle e := by
  obtain ⟨ho, hh, ht⟩ := h
  refine ⟨ref.uid, hu, ho, hh, ?_⟩
  revert ht
  cases e.event.eventType <;> simp [EventType.isPolled, EventType.isMid]

theorem uidAt_of_get {s : H3Server Q} {slot : ℕ} {c : H3Connection Q}
    (hc : s.connMap.get slot = some c) : s.uidAt slot = some c.uid := by
  rw [uidAt, hc]
  rfl

theorem books_set {s : H3Server Q} {slot : ℕ} {d : H3Connection Q}
    (hd : s.uidAt slot = some d.uid) :
    { s with connMap := s.connMap.set slot d : H3Server Q }.books = s.books := by
  obtain ⟨c, hc, huid⟩ := Option.map_eq_some_iff.1 hd
  exact SlotBooks.ofMap_set _ _ _ hc huid.symm

variable [Quiche Q]

/-- `d` is what became of the connection that lives in `slot`. -/
def Has (s : H3Server Q) (slot : ℕ) (d : H3Connection Q) : Prop :=
  ∃ c, s.connMap.get slot = some c ∧ c.Uses d

namespace Has

variable {s : H3Server Q} {slot : ℕ} {d : H3Connection Q}

theorem of_get (hc : s.connMap.get slot = some d) : s.Has slot d := ⟨d, hc, .refl⟩

theorem use (h : s.Has slot d) (use : H3Connection.Use Q) : s.Has slot (use.apply d) := by
  obtain ⟨c, hc, huses⟩ := h
  exact ⟨c, hc, huses.use use⟩

theorem uidAt (h : s.Has slot d) : s.uidAt slot = some d.uid := by
  obtain ⟨c, hc, huses⟩ := h
  rw [uidAt_of_get hc, huses.uid]

theorem live (h : s.Has slot d) : (s.uidAt slot).isSome := by
  rw [h.uidAt]
  rfl

end Has

/-- The step from `s` to `s'` keeps every session where it is. -/
structure Course (s s' : H3Server Q) : Prop where
  uid : ∀ k, s'.uidAt k = s.uidAt k
  used : ∀ k d, s'.connMap.get k = some d → s.Has k d
  handleOffset : s'.handleOffset = s.handleOffset
  lastExpired : s'.lastExpired = s.lastExpired
  maxConnections : s'.connMap.maxConnections = s.connMap.maxConnections
  acceptedCount : s'.connMap.acceptedCount = s.connMap.acceptedCount

namespace Course

variable {s s' s'' : H3Server Q}

theorem refl (s : H3Server Q) : Course s s :=
  ⟨fun _ => rfl, fun _ _ => .of_get, rfl, rfl, rfl, rfl⟩

theorem trans (h : Course s s') (h' : Course s' s'') : Course s s'' where
  uid k := (h'.uid k).trans (h.uid k)
  used k e he := by
    obtain ⟨d, hd, hde⟩ := h'.used k e he
    obtain ⟨c, hc, hcd⟩ := h.used k d hd
    exact ⟨c, hc, hcd.trans hde⟩
  handleOffset := h'.handleOffset.trans h.handleOffset
  lastExpired := h'.lastExpired.trans h.lastExpired
  maxConnections := h'.maxConnections.trans h.maxConnections
  acceptedCount := h'.acceptedCount.trans h.acceptedCount

theorem set (h : Course s s') {slot : ℕ} {d : H3Connection Q} (hd : s.Has slot d) :
    Course s { s' with connMap := s'.connMap.set slot d } := by
  have hslot : s'.uidAt slot = some d.uid := (h.uid slot).trans hd.uidAt
  refine { h with uid := ?_, used := ?_ }
  · intro k
    rw [← h.uid k]
    exact congrFun (congrArg SlotBooks.uidAt (books_set hslot)) k
  · intro k e he
    rw [ConnectionMap.get_set] at he
    split_ifs at he with hk
    · cases he
      exact hk.1 ▸ hd
    · exact h.used k e he

/-- Routes come and go without a change to the connections. -/
theorem routes (h : Course s s') {m : ConnectionMap (H3Connection Q)}
    (hget : ∀ k, m.get k = s'.connMap.get k) (hmax : m.maxConnections = s'.connMap.maxConnections)
    (hcount : m.acceptedCount = s'.connMap.acceptedCount) :
    Course s { s' with connMap := m } where
  uid k := (congrArg (Option.map _) (hget k)).trans (h.uid k)
  used k d hd := h.used k d ((hget k).symm.trans hd)
  handleOffset := h.handleOffset
  lastExpired := h.lastExpired
  maxConnections := hmax.trans h.maxConnections
  acceptedCount := hcount.trans h.acceptedCount

end Course

/-- The step from `s` to `s'` concerns `slot` only, and its events carry `connHandle`. -/
structure ActsOn (slot : ℕ) (connHandle : UInt32) (s s' : H3Server Q) : Prop
    extends Course s s' where
  conns : ∀ k, k ≠ slot → s'.connMap.get k = s.connMap.get k
  writes : ∀ key : StreamKey, key.1.toNat ≠ slot →
    s'.pendingWrites.lookup key = s.pendingWrites.lookup key
  responses : ∀ key : StreamKey, key.1.toNat ≠ slot →
    s'.pendingResponses.lookup key = s.pendingResponses.lookup key
  pending : ∀ key, s'.HasPending key →
    s.HasPending key ∨ key.1.toNat = slot ∧ (s.uidAt slot).isSome
  closes : ∀ h : UInt32, h.toNat ≠ slot →
    s'.pendingSessionCloses.lookup h = s.pendingSessionCloses.lookup h
  batch : Grows (s.Talks slot connHandle) s.batch s'.batch

/-- The step leaves routes, timers and graceful closes alone. -/
structure SameTables (s s' : H3Server Q) : Prop where
  routes : s'.connMap.byDcid = s.connMap.byDcid
  timers : s'.timerHeap = s.timerHeap
  sessionCloses : s'.pendingSessionCloses = s.pendingSessionCloses

/-- The step concerns the streams of the connection in `slot` only. -/
structure Serves (slot : ℕ) (connHandle : UInt32) (s s' : H3Server Q) : Prop
    extends ActsOn slot connHandle s s', SameTables s s'

theorem ActsOn.refl (slot : ℕ) (connHandle : UInt32) (s : H3Server Q) :
    ActsOn slot connHandle s s :=
  ⟨.refl s, fun _ _ => rfl, fun _ _ => rfl, fun _ _ => rfl, fun _ => .inl, fun _ _ => rfl, .refl⟩

theorem ActsOn.set {slot : ℕ} {connHandle : UInt32} {s s' : H3Server Q}
    (h : ActsOn slot connHandle s s') {d : H3Connection Q} (hd : s.Has slot d) :
    ActsOn slot connHandle s { s' with connMap := s'.connMap.set slot d } := by
  refine { h with toCourse := h.toCourse.set hd, conns := ?_ }
  intro k hk
  rw [ConnectionMap.get_set, if_neg (by simp [hk])]
  exact h.conns k hk

omit [Quiche Q] in
theorem SameTables.tends {s s' : H3Server Q} (h : SameTables s s')
    (huid : ∀ k, s'.uidAt k = s.uidAt k)
    (hpending : ∀ key, s'.HasPending key → s.HasPending key ∨ (s.uidAt key.1.toNat).isSome) :
    SlotBooks.Tends s.books s'.books := by
  refine ⟨funext huid, h.routes, ?_, ?_⟩
  · intro k hk
    have hk : k ∈ s'.timerHeap.deadlines := hk
    rw [h.timers] at hk
    exact .inl hk
  · rintro k (⟨key, hkey, rfl⟩ | ⟨connHandle, hclose, rfl⟩)
    · exact (hpending key hkey).imp (fun hold => .inl ⟨key, hold, rfl⟩) id
    · rw [h.sessionCloses] at hclose
      exact .inl (.inr ⟨connHandle, hclose, rfl⟩)

namespace Serves

variable {slot : ℕ} {connHandle : UInt32} {s s' : H3Server Q} {d : H3Connection Q}

theorem refl (slot : ℕ) (connHandle : UInt32) (s : H3Server Q) : Serves slot connHandle s s :=
  ⟨.refl slot connHandle s, rfl, rfl, rfl⟩

theorem tends (h : Serves slot connHandle s s') : SlotBooks.Tends s.books s'.books := by
  refine h.toSameTables.tends h.uid fun key hkey => ?_
  rcases h.pending key hkey with hold | ⟨hslot, hlive⟩
  · exact .inl hold
  · rw [hslot]
    exact .inr hlive

theorem spec (h : Serves slot connHandle s s') :
    ActsOn slot connHandle s s' ∧ SlotBooks.Tends s.books s'.books := ⟨h.toActsOn, h.tends⟩

theorem set (h : Serves slot connHandle s s') (hd : s.Has slot d) :
    Serves slot connHandle s { s' with connMap := s'.connMap.set slot d } :=
  { h with toActsOn := h.toActsOn.set hd }

theorem emit (h : Serves slot connHandle s s') (hd : s.Has slot d) {event : JsH3Event}
    (hh : event.connHandle = connHandle) (ht : event.eventType.isMid = true) :
    Serves slot connHandle s (s'.emit ⟨slot, d.uid⟩ event) :=
  { h with batch := h.batch.pushFor (.inr ⟨d.uid, hd.uidAt, rfl, hh, ht⟩) }

theorem releaseOutboundAdmission (h : Serves slot connHandle s s') (units : ℕ) :
    Serves slot connHandle s (s'.releaseOutboundAdmission units) := by
  unfold H3Server.releaseOutboundAdmission
  dsimp only
  split_ifs
  · exact { h with batch := h.batch.pushWorker (.inl rfl) }
  · exact { h with }

theorem suppressPendingDrains (h : Serves slot connHandle s s') :
    Serves slot connHandle s (s'.suppressPendingDrains slot) := by
  refine { h with batch := h.batch.withdraw ?_ }
  intro e _ hkeep
  by_contra ht
  simp [ht] at hkeep

/-- Whatever is done to the pending entries of one stream concerns its slot. -/
theorem setPending (h : Serves slot connHandle s s') {key : StreamKey} (hkey : key.1.toNat = slot)
    {writes : KeyMap StreamKey PendingWrite} {responses : KeyMap StreamKey PendingResponse}
    (hwrites : ∀ other, other ≠ key → writes.lookup other = s'.pendingWrites.lookup other)
    (hresponses : ∀ other, other ≠ key →
      responses.lookup other = s'.pendingResponses.lookup other)
    (hlive : (writes.lookup key).isSome ∨ (responses.lookup key).isSome →
      s.HasPending key ∨ (s.uidAt slot).isSome) :
    Serves slot connHandle s
      { s' with pendingWrites := writes, pendingResponses := responses } := by
  have hne : ∀ other : StreamKey, other.1.toNat ≠ slot → other ≠ key := by
    rintro other hother rfl
    exact hother hkey
  refine { h with writes := ?_, responses := ?_, pending := ?_ }
  · intro other hother
    exact (hwrites other (hne other hother)).trans (h.writes other hother)
  · intro other hother
    exact (hresponses other (hne other hother)).trans (h.responses other hother)
  · intro other hpending
    by_cases hother : other = key
    · subst hother
      exact (hlive hpending).imp id fun hl => ⟨hkey, hl⟩
    · apply h.pending other
      unfold HasPending at hpending ⊢
      rwa [← hwrites other hother, ← hresponses other hother]

theorem insertPendingWrite (h : Serves slot connHandle s s') {key : StreamKey}
    (hkey : key.1.toNat = slot) (hlive : s.HasPending key ∨ (s.uidAt slot).isSome)
    (write : PendingWrite) : Serves slot connHandle s (s'.insertPendingWrite key write) :=
  h.setPending hkey (fun _ hne => AList.lookup_insert_ne hne) (fun _ _ => rfl) fun _ => hlive

theorem insertPendingResponse (h : Serves slot connHandle s s') {key : StreamKey}
    (hkey : key.1.toNat = slot) (hlive : s.HasPending key ∨ (s.uidAt slot).isSome)
    (response : PendingResponse) :
    Serves slot connHandle s (s'.insertPendingResponse key response) :=
  h.setPending hkey (fun _ _ => rfl) (fun _ hne => AList.lookup_insert_ne hne) fun _ => hlive

theorem erasePendingResponse (h : Serves slot connHandle s s') (key : StreamKey)
    (hkey : key.1.toNat = slot) :
    Serves slot connHandle s { s' with pendingResponses := s'.pendingResponses.erase key } :=
  h.setPending hkey (fun _ _ => rfl) (fun _ hne => AList.lookup_erase_ne hne) fun hpending =>
    (h.pending key (hpending.imp id KeyMap.isSome_of_erase)).imp id And.right

theorem erasePending (h : Serves slot connHandle s s') (key : StreamKey)
    (hkey : key.1.toNat = slot) : Serves slot connHandle s (s'.removePending key) :=
  h.setPending hkey (fun _ hne => AList.lookup_erase_ne hne)
    (fun _ hne => AList.lookup_erase_ne hne) fun hpending =>
    (h.pending key (hpending.imp KeyMap.isSome_of_erase KeyMap.isSome_of_erase)).imp id And.right

end Serves

section Dispatch

variable {connHandle : UInt32} {streamId : ℕ} {s s' : H3Server Q} {d : H3Connection Q} {g : UInt32}

theorem Serves.emitH3SendErrorAndReset
    (h : Serves connHandle.toNat (s.handleOffset ||| connHandle) s s')
    (hd : s.Has connHandle.toNat d) (context : String) (error : Http3NativeError) :
    Serves connHandle.toNat (s.handleOffset ||| connHandle) s
      (s'.emitH3SendErrorAndReset connHandle d streamId context error) :=
  (h.emit hd (congrArg (· ||| connHandle) h.handleOffset) rfl).set
    (hd.use (.streamClose streamId h3InternalError))

theorem sendBodyChunk_serves (h : Serves connHandle.toNat (s.handleOffset ||| connHandle) s s')
    (hd : s.Has connHandle.toNat d) (chunk : Bytes) (fin : Bool) :
    Serves connHandle.toNat (s.handleOffset ||| connHandle) s
      (s'.sendBodyChunk connHandle streamId d chunk fin) := by
  have hsent := hd.use (.sendBodyArcbuf streamId chunk fin)
  have hset := h.set hsent
  unfold sendBodyChunk
  dsimp only
  split
  · split
    · exact ((hset.releaseOutboundAdmission _).insertPendingWrite rfl (.inr hd.live) _).emit hsent
        (congrArg (· ||| connHandle) (hset.releaseOutboundAdmission _).handleOffset) rfl
    · exact hset.releaseOutboundAdmission _
  · exact (hset.releaseOutboundAdmission _).emitH3SendErrorAndReset hsent _ _

theorem dispatchSendResponseHeaders_serves (headers : Headers) (fin : Bool) :
    Serves connHandle.toNat (s.handleOffset ||| connHandle) s
      (s.dispatchSendResponseHeaders connHandle streamId headers fin) := by
  unfold dispatchSendResponseHeaders
  cases hc : s.conn? connHandle with
  | none => exact .refl _ _ s
  | some c =>
    have hsent := (Has.of_get hc).use (.sendResponse streamId headers fin)
    have hset := (Serves.refl connHandle.toNat (s.handleOffset ||| connHandle) s).set hsent
    dsimp only
    split
    · exact hset
    · split_ifs
      · exact (hset.insertPendingResponse rfl (.inr hsent.live) _).emit hsent rfl rfl
      · exact hset.emitH3SendErrorAndReset hsent _ _

theorem dispatchSendResponse_serves (headers : Headers) (body : Bytes) (fin : Bool) :
    Serves connHandle.toNat (s.handleOffset ||| connHandle) s
      (s.dispatchSendResponse connHandle streamId headers body fin) := by
  unfold dispatchSendResponse
  cases hc : s.conn? connHandle with
  | none => exact (Serves.refl _ _ s).releaseOutboundAdmission _
  | some c =>
    have hsent := (Has.of_get hc).use (.sendResponse streamId headers false)
    have hset := (Serves.refl connHandle.toNat (s.handleOffset ||| connHandle) s).set hsent
    dsimp only
    split
    · exact sendBodyChunk_serves hset hsent body fin
    · split_ifs
      · exact (hset.insertPendingResponse rfl (.inr hsent.live) _).emit hsent rfl rfl
      · exact (hset.releaseOutboundAdmission _).emitH3SendErrorAndReset hsent _ _

theorem dispatchStreamSend_serves (chunk : Bytes) (fin : Bool) :
    Serves connHandle.toNat (s.handleOffset ||| connHandle) s
      (s.dispatchStreamSend connHandle streamId chunk fin) := by
  have hrefl := Serves.refl connHandle.toNat (s.handleOffset ||| connHandle) s
  unfold dispatchStreamSend
  cases hr : s.pendingResponses.lookup (connHandle, streamId) with
  | some response =>
    have hpending : s.HasPending (connHandle, streamId) := .inr (by rw [hr]; rfl)
    exact hrefl.insertPendingResponse rfl (.inl hpending) _
  | none =>
    cases hw : s.pendingWrites.lookup (connHandle, streamId) with
    | some write =>
      have hpending : s.HasPending (connHandle, streamId) := .inl (by rw [hw]; rfl)
      exact hrefl.insertPendingWrite rfl (.inl hpending) _
    | none =>
      cases hc : s.conn? connHandle with
      | none => exact hrefl.releaseOutboundAdmission _
      | some c => exact sendBodyChunk_serves hrefl (.of_get hc) chunk fin

/-- The reset of an abandoned write carries the handle as the command gave it. -/
theorem dispatchStreamClose_serves (errorCode : ℕ)
    (hg : ∀ c, s.conn? connHandle = some c → 0 < s.pendingUnits (connHandle, streamId) →
      connHandle = g) :
    Serves connHandle.toNat g s (s.dispatchStreamClose connHandle streamId errorCode) := by
  unfold dispatchStreamClose
  cases hc : s.conn? connHandle with
  | none => exact .refl _ _ s
  | some c =>
    have hclosed := (Has.of_get hc).use (.streamClose streamId errorCode)
    have hrel := (((Serves.refl connHandle.toNat g s).set hclosed).erasePending
      (connHandle, streamId) rfl).releaseOutboundAdmission (s.pendingUnits (connHandle, streamId))
    dsimp only
    split_ifs with hunits
    · exact hrel.emit hclosed (hg c hc hunits) rfl
    · exact hrel

theorem dispatchCloseSession_actsOn (errorCode : ℕ) (reason : String) (now : ℕ) :
    ActsOn connHandle.toNat g s (s.dispatchCloseSession connHandle errorCode reason now) := by
  unfold dispatchCloseSession
  cases hc : s.conn? connHandle with
  | none => exact .refl _ _ s
  | some c =>
    have haway := (Has.of_get hc).use .sendGoaway
    dsimp only
    split_ifs
    · refine { (ActsOn.refl connHandle.toNat g s).set haway with closes := ?_ }
      intro h hne
      refine AList.lookup_insert_ne ?_
      rintro rfl
      exact hne rfl
    · exact (ActsOn.refl _ _ s).set (haway.use (.close true errorCode reason))

theorem dispatchCloseSession_tends (errorCode : ℕ) (reason : String) (now : ℕ) :
    SlotBooks.Tends s.books (s.dispatchCloseSession connHandle errorCode reason now).books := by
  have hacts : ActsOn connHandle.toNat 0 s
      (s.dispatchCloseSession connHandle errorCode reason now) :=
    dispatchCloseSession_actsOn errorCode reason now
  refine ⟨funext hacts.uid, ?_, ?_, ?_⟩
  · unfold dispatchCloseSession
    cases s.conn? connHandle with
    | none => rfl
    | some c =>
      dsimp only
      split_ifs <;> rfl
  · intro k hk
    refine .inl ?_
    revert hk
    unfold dispatchCloseSession
    cases s.conn? connHandle with
    | none => exact id
    | some c =>
      dsimp only
      split_ifs <;> exact id
  · rintro k (⟨key, hkey, rfl⟩ | ⟨other, hclose, rfl⟩)
    · rcases hacts.pending key hkey with hold | ⟨hslot, hlive⟩
      · exact .inl (.inl ⟨key, hold, rfl⟩)
      · rw [hslot]
        exact .inr hlive
    · by_cases hslot : other.toNat = connHandle.toNat
      · cases hc : s.conn? connHandle with
        | some c =>
          rw [hslot]
          exact .inr (Has.of_get hc).live
        | none =>
          simp only [dispatchCloseSession, hc] at hclose
          exact .inl (.inr ⟨other, hclose, rfl⟩)
      · rw [hacts.closes other hslot] at hclose
        exact .inl (.inr ⟨other, hclose, rfl⟩)

theorem dispatchSendDatagram_serves (data : Bytes) :
    Serves connHandle.toNat g s (s.dispatchSendDatagram connHandle data) := by
  unfold dispatchSendDatagram
  cases hc : s.conn? connHandle with
  | none => exact { (Serves.refl _ _ s).releaseOutboundAdmission data.length with }
  | some c =>
    exact { ((Serves.refl _ _ s).set ((Has.of_get hc).use (.sendDatagramChunk data))
      ).releaseOutboundAdmission data.length with }

theorem dispatchPingSession_serves (now : ℕ) :
    Serves connHandle.toNat g s (s.dispatchPingSession connHandle now) := by
  unfold dispatchPingSession
  cases hc : s.conn? connHandle with
  | none => exact { Serves.refl _ _ s with }
  | some c => exact { (Serves.refl _ _ s).set ((Has.of_get hc).use (.queuePing now)) with }

end Dispatch

section Poll

variable {handle : ℕ} {s s' : H3Server Q} {d : H3Connection Q}

theorem Serves.pollConn (h : Serves handle (globalHandle s.handleOffset handle) s s')
    (hd : s.Has handle d) (budget now : ℕ) :
    Serves handle (globalHandle s.handleOffset handle) s (s'.pollConn handle budget now d) := by
  have hspec : H3Connection.PollSpec ⟨handle, d.uid⟩ (globalHandle s.handleOffset handle) d _
      s'.batch _ := H3Connection.pollH3Events_spec budget d s'.batch
  have hpolled : Serves handle (globalHandle s.handleOffset handle) s { s' with
      batch := (H3Connection.pollH3Events ⟨handle, d.uid⟩ (globalHandle s.handleOffset handle)
        budget d s'.batch).2 } :=
    { h with
      batch := h.batch.trans (hspec.events.mono fun e he => .inr (Speaks.of_polls hd.uidAt he)) }
  have hset := hpolled.suppressPendingDrains.set ((hd.use (.pollH3Events ⟨handle, d.uid⟩
    (globalHandle s.handleOffset handle) budget s'.batch)).use (.pollPingAcks now))
  have hglobal : globalHandle s'.handleOffset handle = globalHandle s.handleOffset handle := by
    rw [h.handleOffset]
  unfold H3Server.pollConn
  dsimp only
  rw [hglobal]
  refine { hset with batch := hset.batch.trans ?_ }
  -- the acknowledged pings, one event each
  generalize (H3Connection.pollPingAcks (Q := Q) _ now).1 = durations
  generalize (H3Server.suppressPendingDrains (Q := Q) _ handle).batch = batch
  induction durations generalizing batch with
  | nil => exact .refl
  | cons duration durations ih =>
    exact (Grows.refl.pushFor (.inr ⟨d.uid, hd.uidAt, rfl, rfl, rfl⟩)).trans (ih _)

theorem noteHandshake_serves (direct : Bool) (hd : s.Has handle d) :
    Serves handle (globalHandle s.handleOffset handle) s (s.noteHandshake direct handle d).2 ∧
      s.Has handle (s.noteHandshake direct handle d).1 := by
  have hrefl := Serves.refl handle (globalHandle s.handleOffset handle) s
  have hraised : s.Has handle (if (Quiche.isEstablished d.quicheConn ||
      Quiche.isInEarlyData d.quicheConn) && !d.isEstablished then d.initH3 else d) := by
    split_ifs
    · exact hd.use .initH3
    · exact hd
  unfold noteHandshake
  dsimp only
  generalize (if (Quiche.isEstablished d.quicheConn || Quiche.isInEarlyData d.quicheConn) &&
      !d.isEstablished then d.initH3 else d) = e at hraised ⊢
  split_ifs
  · exact ⟨hrefl, hraised.use (.close false 0x0100 "client certificate required")⟩
  · exact ⟨hrefl.emit hraised rfl rfl, hraised.use (.note e.streamReadWindow e.connId true)⟩
  · exact ⟨hrefl, hraised⟩

/-- The step concerns `slot` only, and changes the books by moves on these terms. -/
structure Receives (adds : Bytes → ℕ → Prop) (drops : Bytes → Prop) (reaps : ℕ → Prop) (slot : ℕ)
    (connHandle : UInt32) (s s' : H3Server Q) : Prop extends ActsOn slot connHandle s s' where
  moves : SlotBooks.Moves adds drops reaps s.books s'.books

namespace Receives

variable {adds : Bytes → ℕ → Prop} {drops : Bytes → Prop} {reaps : ℕ → Prop} {g : UInt32}

theorem of_serves (h : Serves handle g s s') : Receives adds drops reaps handle g s s' :=
  ⟨h.toActsOn, h.tends.moves⟩

theorem set (h : Receives adds drops reaps handle g s s') (hd : s.Has handle d) :
    Receives adds drops reaps handle g s { s' with connMap := s'.connMap.set handle d } := by
  refine ⟨h.toActsOn.set hd, ?_⟩
  rw [books_set ((h.uid handle).trans hd.uidAt)]
  exact h.moves

theorem addDcid (h : Receives adds drops reaps handle g s s') {dcid : Bytes}
    (hadd : adds dcid handle) :
    Receives adds drops reaps handle g s
      { s' with connMap := s'.connMap.addDcid handle dcid } where
  toActsOn := { h with
    toCourse := h.toCourse.routes (fun _ => s'.connMap.get_addDcid dcid)
      (s'.connMap.maxConnections_addDcid dcid) (s'.connMap.acceptedCount_addDcid dcid)
    conns := fun k hk => (s'.connMap.get_addDcid dcid).trans (h.conns k hk) }
  moves := h.moves.trans (SlotBooks.addDcid_moves _ _ _ hadd)

theorem removeDcids (h : Receives adds drops reaps handle g s s') (retired : List Bytes)
    (hdrop : ∀ id ∈ retired, drops id) :
    Receives adds drops reaps handle g s
      { s' with connMap := retired.foldl ConnectionMap.removeDcid s'.connMap } := by
  refine ⟨?_, h.moves.trans (SlotBooks.removeDcids_moves _ _ _ retired hdrop _)⟩
  have hacts := h.toActsOn
  clear h hdrop
  induction retired generalizing s' with
  | nil => exact hacts
  | cons scid retired ih =>
    have hone : ActsOn handle g s { s' with connMap := s'.connMap.removeDcid scid } :=
      { hacts with toCourse := { hacts.toCourse with } }
    exact ih hone

theorem topUpServerScids (h : Receives adds drops reaps handle g s s') (scids : List Bytes)
    (hadd : ∀ id ∈ scids, adds id handle) :
    Receives adds drops reaps handle g s
      { s' with connMap := s'.connMap.topUpServerScids handle scids } := by
  refine ConnectionMap.topUpServerScids_induction
    (P := fun m => Receives adds drops reaps handle g s { s' with connMap := m }) scids ?_ ?_ h
  · intro m c q hc hm
    exact hm.set ((hm.used handle c hc).use (.transport q))
  · intro m scid hscid hm
    exact hm.addDcid (hadd scid hscid)

end Receives

omit [Quiche Q] in
theorem setDeadline_tends {handle : ℕ} (hlive : (s.uidAt handle).isSome) (deadline : Option ℕ) :
    SlotBooks.Tends s.books
      { s with timerHeap := s.timerHeap.setDeadline handle deadline : H3Server Q }.books := by
  refine ⟨rfl, rfl, ?_, fun _ => .inl⟩
  intro k hk
  rcases TimerHeap.mem_setDeadline hk with hold | rfl
  · exact .inl hold
  · exact .inr hlive

/-- The connection ids `receivePacket` puts in and takes out: the source id when it is a
new one, and those the peer has retired. -/
def scidChanges (direct : Bool) (handle : ℕ) (p : Packet) (budget now : ℕ) (s : H3Server Q) :
    Option Bytes × List Bytes :=
  match s.connMap.get handle with
  | none => (none, [])
  | some conn =>
    let (ok, conn) := { conn with streamReadWindow := s.streamReadWindow }.recv p
    if !ok then (none, [])
    else
      let (conn, s) := s.noteHandshake direct handle conn
      let currentScid := Quiche.sourceId conn.quicheConn
      let s := s.pollConn handle budget now { conn with connId := currentScid }
      (if currentScid ≠ conn.connId then some currentScid else none,
        ((s.connMap.get handle).map fun conn =>
          (retiredScids (Quiche.rounds conn.quicheConn) conn.quicheConn).1).getD [])

/-- Feeding a packet to a connection concerns that connection and its connection ids. -/
theorem receivePacket_receives {adds : Bytes → ℕ → Prop} {drops : Bytes → Prop} {reaps : ℕ → Prop}
    (direct : Bool) (handle : ℕ) (p : Packet) (budget now : ℕ) (scids : List Bytes)
    (s : H3Server Q)
    (hchange : ∀ id ∈ (s.scidChanges direct handle p budget now).1, adds id handle)
    (hretire : ∀ id ∈ (s.scidChanges direct handle p budget now).2, drops id)
    (hadd : ∀ id ∈ scids, adds id handle) :
    Receives adds drops reaps handle (globalHandle s.handleOffset handle) s
      (s.receivePacket direct handle p budget now scids) := by
  have hrefl := Serves.refl handle (globalHandle s.handleOffset handle) s
  revert hchange hretire
  unfold receivePacket scidChanges
  cases hc : s.connMap.get handle with
  | none => exact fun _ _ => .of_serves hrefl
  | some c =>
    have hread := ((Has.of_get hc).use (.note s.streamReadWindow c.connId
      c.handshakeCompleteEmitted)).use (.recv p)
    dsimp only [H3Connection.Use.apply] at hread ⊢
    generalize H3Connection.recv (Q := Q) _ p = r at hread ⊢
    obtain ⟨ok, d⟩ := r
    cases ok with
    | false => exact fun _ _ => .of_serves (hrefl.set hread)
    | true =>
      obtain ⟨hnote, hnoted⟩ := noteHandshake_serves direct hread
      simp only [Bool.not_true, Bool.false_eq_true, if_false]
      generalize s.noteHandshake direct handle d = r at hnote hnoted ⊢
      obtain ⟨e, s₁⟩ := r
      -- up to the poll nothing but the connection itself changes
      have hpoll := hnote.pollConn (hnoted.use (.note e.streamReadWindow
        (Quiche.sourceId e.quicheConn) e.handshakeCompleteEmitted)) budget now
      dsimp only [H3Connection.Use.apply] at hpoll ⊢
      generalize s₁.pollConn handle budget now _ = s₂ at hpoll ⊢
      cases hc₂ : s₂.connMap.get handle with
      | none => exact fun _ _ => .of_serves hpoll
      | some f =>
        simp only [Option.map_some, Option.getD_some]
        generalize retiredScids (Quiche.rounds f.quicheConn) f.quicheConn = r
        obtain ⟨retired, q⟩ := r
        intro hchange hretire
        have hset := hpoll.set ((hpoll.used handle f hc₂).use (.transport q))
        have hrouted : Receives adds drops reaps handle (globalHandle s.handleOffset handle) s
            { s₂ with
              connMap := if Quiche.sourceId e.quicheConn ≠ e.connId then
                (s₂.connMap.set handle { f with quicheConn := q }).addDcid handle
                  (Quiche.sourceId e.quicheConn)
                else s₂.connMap.set handle { f with quicheConn := q } } := by
          split_ifs at hchange ⊢
          · exact (Receives.of_serves hset).addDcid (hchange _ rfl)
          · exact .of_serves hset
        have hretired := hrouted.removeDcids retired hretire
        have hlive : ∀ {s'}, Course s s' → (s'.uidAt handle).isSome := fun h =>
          (h.uid handle).symm ▸ hread.live
        cases direct with
        | true =>
          exact { hretired with
            moves := hretired.moves.trans (setDeadline_tends (hlive hretired.toCourse) _).moves }
        | false =>
          have htopped := hretired.topUpServerScids scids hadd
          exact { htopped with
            moves := htopped.moves.trans (setDeadline_tends (hlive htopped.toCourse) _).moves }

end Poll

end H3Server

end Http3
