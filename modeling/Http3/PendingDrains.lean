import Http3.H3Client
import Http3.H3Server.Accounting
import Http3.Scripted

/-! DRAIN tells JavaScript that it may write on a stream again. When it is reported while
something still waits on the stream, and when not. -/

namespace Http3

namespace H3Server

variable {Q : Type}

theorem drains_release {idle : ℕ → ℕ → Prop} (s : H3Server Q) (units : ℕ)
    (h : Drains idle s.batch) : Drains idle (s.releaseOutboundAdmission units).batch := by
  unfold releaseOutboundAdmission
  dsimp only
  split_ifs
  · exact Drains.push h (by simp [JsH3Event.writeReady])
  · exact h

/-- No stream has both a body and a response waiting. -/
def Separate (s : H3Server Q) : Prop :=
  ∀ key, (s.pendingResponses.lookup key).isSome → s.pendingWrites.lookup key = none

variable [Quiche Q]

section Flush

theorem flushPendingResponse_drainsIdle (s : H3Server Q) (key : StreamKey) (hsep : s.Separate)
    (h : s.DrainsIdle) : (s.flushPendingResponse key).DrainsIdle := by
  unfold flushPendingResponse
  cases hr : s.pendingResponses.lookup key with
  | none => exact h
  | some response =>
    -- an idle stream is another one: taking the entry out or putting it back is no matter
    have hother : ∀ slot streamId, s.Idle slot streamId → (UInt32.ofNat slot, streamId) ≠ key := by
      rintro slot streamId hidle rfl
      rw [hidle.2] at hr
      cases hr
    have herased : ∀ slot streamId, s.Idle slot streamId →
        (s.pendingResponses.erase key).lookup (UInt32.ofNat slot, streamId) = none :=
      fun slot streamId hidle => (AList.lookup_erase_ne (hother slot streamId hidle)).trans hidle.2
    have hwrites : s.pendingWrites.lookup key = none := hsep key (by rw [hr]; rfl)
    have hgone : ∀ s' : H3Server Q, s'.pendingWrites = s.pendingWrites →
        s'.pendingResponses = s.pendingResponses.erase key → Drains s.Idle s'.batch →
        s'.DrainsIdle := by
      intro s' hw hr' hbatch
      refine Drains.mono ?_ hbatch
      intro slot streamId hidle
      unfold Idle
      rw [hw, hr']
      exact ⟨hidle.1, herased slot streamId hidle⟩
    have hdrained : ∀ (s' : H3Server Q) (d : H3Connection Q) (g : UInt32),
        s'.pendingWrites = s.pendingWrites →
        s'.pendingResponses = s.pendingResponses.erase key → Drains s.Idle s'.batch →
        (s'.emit (refOf key.1 d) (.drain g key.2)).DrainsIdle := by
      intro s' d g hw hr' hbatch
      refine Drains.push_drain (hgone s' hw hr' hbatch) ?_
      unfold Idle
      rw [emit, refOf, UInt32.ofNat_toNat, hw, hr']
      exact ⟨hwrites, AList.lookup_erase key _⟩
    dsimp only
    split
    · exact hgone _ (by simp) (by simp) (drains_release _ _ h)
    · next c _ =>
      split_ifs
      · exact hgone _ (by simp) (by simp) (drains_release _ _ h)
      · rcases flushOneH3PendingResponse key.2 response c with ⟨⟨e | outcome, response'⟩, d⟩
        · refine hgone _ ?_ ?_ (Drains.push (drains_release _ _ h) ?_)
          · simp [emitH3SendErrorAndReset, emit, setConn]
          · simp [emitH3SendErrorAndReset, emit, setConn]
          · simp [JsH3Event.error]
        · dsimp only
          split_ifs
          · refine hdrained _ _ _ ?_ ?_ (drains_release _ _ h)
            · simp [setConn]
            · simp [setConn]
          · refine Drains.mono ?_ (drains_release _ _ h)
            intro slot streamId hidle
            have hne := hother slot streamId hidle
            simpa [Idle, insertPendingResponse, setConn, AList.lookup_insert_ne hne] using
              ⟨hidle.1, herased slot streamId hidle⟩

theorem flushPendingResponses_separate (keys : List StreamKey) (s : H3Server Q)
    (hsep : s.Separate) (h : s.DrainsIdle) :
    (keys.foldl flushPendingResponse s).Separate ∧
      (keys.foldl flushPendingResponse s).DrainsIdle := by
  induction keys generalizing s with
  | nil => exact ⟨hsep, h⟩
  | cons key keys ih =>
    refine ih _ ?_ (flushPendingResponse_drainsIdle s key hsep h)
    intro k hk
    have hone := s.flushPendingResponse_retries key
    rw [hone.sameWrites]
    exact hsep k (hone.waiting k hk)

theorem flushAllPendingWrites_drainsIdle {s : H3Server Q} (hsep : s.Separate)
    (h : s.DrainsIdle) : s.flushAllPendingWrites.DrainsIdle := by
  obtain ⟨hsep₁, hdrains₁⟩ := flushPendingResponses_separate s.pendingResponses.keys s hsep h
  unfold flushAllPendingWrites
  dsimp only
  generalize s.pendingResponses.keys.foldl flushPendingResponse s = s₁ at hsep₁ hdrains₁ ⊢
  have hflushed := (flushPendingWrites_sound s₁).books
  generalize flushPendingWrites s₁.connMap s₁.pendingWrites = flushed at hflushed ⊢
  have hbase : Drains s₁.Idle
      ({ s₁ with connMap := flushed.connMap, pendingWrites := flushed.pending
      }.releaseOutboundAdmission flushed.releasedUnits).batch := drains_release _ _ hdrains₁
  have hw : ({ s₁ with connMap := flushed.connMap, pendingWrites := flushed.pending
      }.releaseOutboundAdmission flushed.releasedUnits).pendingWrites = flushed.pending := by simp
  have hr : ({ s₁ with connMap := flushed.connMap, pendingWrites := flushed.pending
      }.releaseOutboundAdmission flushed.releasedUnits).pendingResponses = s₁.pendingResponses := by
    simp
  generalize releaseOutboundAdmission _ flushed.releasedUnits = s₂ at hbase hw hr ⊢
  have hbase₂ : s₂.DrainsIdle := by
    refine Drains.mono ?_ hbase
    intro slot streamId hidle
    unfold Idle
    rw [hw, hr, ← Option.not_isSome_iff_eq_none]
    refine ⟨fun hwaits => ?_, hidle.2⟩
    have hwas := hflushed.waiting _ hwaits
    rw [hidle.1] at hwas
    cases hwas
  have hentries : ∀ entry ∈ flushed.drained, s₂.Idle entry.2.slot entry.1.2 := by
    intro entry hentry
    obtain ⟨⟨hslot, -⟩, hgone, hwas⟩ := hflushed.drained entry hentry
    unfold Idle
    rw [hslot, UInt32.ofNat_toNat, hw, hr, ← Option.not_isSome_iff_eq_none
      (o := s₁.pendingResponses.lookup _)]
    refine ⟨hgone, fun hresponse => ?_⟩
    rw [hsep₁ _ hresponse] at hwas
    cases hwas
  clear hflushed hw hr hbase
  generalize flushed.drained = entries at hentries ⊢
  induction entries generalizing s₂ with
  | nil => exact hbase₂
  | cons entry entries ih =>
    have hidle := hentries entry List.mem_cons_self
    exact ih (s₂.emit entry.2 _) (Drains.push_drain hbase₂ hidle)
      fun e he => hentries e (List.mem_cons_of_mem entry he)

end Flush

section Ops

theorem reapConnection_drainsIdle (s : H3Server Q) (entry : ℕ × H3Connection Q)
    (h : s.DrainsIdle) : (s.reapConnection entry).DrainsIdle := by
  have habandoned : (s.abandonConn ⟨entry.1, entry.2.uid⟩).DrainsIdle := by
    refine Drains.foldl_push (fun _ => by simp [JsH3Event.reset]) _ (Drains.mono ?_ h)
    intro slot streamId hidle
    unfold Idle abandonConn
    dsimp only
    rw [KeyMap.lookup_retain, KeyMap.lookup_retain, hidle.1, hidle.2]
    simp
  have hreleased : (releaseOutboundAdmission (s.abandonConn ⟨entry.1, entry.2.uid⟩)
      (s.pendingUnitsOf entry.1)).DrainsIdle := by
    refine Drains.mono ?_ (drains_release _ _ habandoned)
    intro slot streamId hidle
    simpa [Idle] using hidle
  unfold reapConnection
  dsimp only
  split_ifs
  · exact hreleased
  · exact hreleased.emit (by simp [(sessionCloseEvent_kind entry.2 _).1])

theorem apply_drainsIdle (op : ServerOp) {s : H3Server Q}
    (hsep : op = .flushAllPendingWrites → s.Separate) (h : s.DrainsIdle) :
    (op.apply s).DrainsIdle := by
  cases op with
  | packet direct p budget now scids =>
    exact (packetArrives_keepsBooks direct p budget now scids s).drains h
  | expireTimers now budget => exact (expireTimers_keepsBooks now budget s).drains h
  | collectAppEvents budget now => exact (collectAppEvents_keepsBooks budget now s).drains h
  | collectDrainEvents => exact s.collectDrainEvents_keepsBooks.drains h
  | flushAllPendingWrites => exact flushAllPendingWrites_drainsIdle (hsep rfl) h
  | flushAllSends rounds now => exact h
  | reapClosedConnections =>
    have hdrained : { s with
        connMap := (s.connMap.drainClosed H3Connection.isClosed).2 : H3Server Q }.DrainsIdle := h
    exact List.foldlRecOn _ _ hdrained fun s hs entry _ => reapConnection_drainsIdle s entry hs
  | emitSessionCloseForAllActive => exact s.emitSessionCloseForAllActive_keepsBooks.drains h

theorem Separate.apply {s : H3Server Q} (h : s.Separate) (op : ServerOp) :
    (op.apply s).Separate := by
  intro key hkey
  rw [← Option.not_isSome_iff_eq_none]
  intro hwaits
  have hwas := (apply_keepsPending op s).writes key hwaits
  rw [h key ((apply_keepsPending op s).responses key hkey)] at hwas
  cases hwas

end Ops

section Commands

def headersBlocked : Except Http3NativeError Unit → Bool
  | .error e => isH3StreamBlocked e
  | .ok _ => false

/-- Response headers that have to wait do not wait beside a body that was sent before them. -/
def HeadersFirst (s : H3Server Q) : WorkerCommand → Prop
  | .sendResponseHeaders connHandle streamId headers fin => ∀ conn ∈ s.conn? connHandle,
    headersBlocked (conn.sendResponse streamId headers fin).1 = true →
      s.pendingWrites.lookup (connHandle, streamId) = none
  | .sendResponse connHandle streamId headers _ _ => ∀ conn ∈ s.conn? connHandle,
    headersBlocked (conn.sendResponse streamId headers false).1 = true →
      s.pendingWrites.lookup (connHandle, streamId) = none
  | _ => True

variable {s : H3Server Q} (connHandle : UInt32) (streamId : ℕ)

omit [Quiche Q] in
theorem Separate.of_eq {s' : H3Server Q} (h : s.Separate) (hw : s'.pendingWrites = s.pendingWrites)
    (hr : s'.pendingResponses = s.pendingResponses) : s'.Separate := by
  unfold Separate
  rw [hw, hr]
  exact h

omit [Quiche Q] in
theorem Separate.insertPendingResponse (h : s.Separate) {key : StreamKey}
    {response : PendingResponse} (hw : s.pendingWrites.lookup key = none) :
    (s.insertPendingResponse key response).Separate := by
  intro k hk
  by_cases hkey : k = key
  · rw [hkey]
    exact hw
  · refine h k ?_
    unfold H3Server.insertPendingResponse at hk
    dsimp only at hk
    rwa [AList.lookup_insert_ne hkey] at hk

omit [Quiche Q] in
theorem Separate.insertPendingWrite (h : s.Separate) {key : StreamKey} {write : PendingWrite}
    (hr : s.pendingResponses.lookup key = none) : (s.insertPendingWrite key write).Separate := by
  intro k hk
  have hkey : k ≠ key := by
    rintro rfl
    have hsome : (s.pendingResponses.lookup k).isSome := hk
    rw [hr] at hsome
    cases hsome
  exact (AList.lookup_insert_ne hkey).trans (h k hk)

theorem sendBodyChunk_separate (h : s.Separate)
    (hr : s.pendingResponses.lookup (connHandle, streamId) = none) (c : H3Connection Q)
    (chunk : Bytes) (fin : Bool) : (s.sendBodyChunk connHandle streamId c chunk fin).Separate := by
  unfold sendBodyChunk
  rcases c.sendBodyArcbuf streamId chunk fin with ⟨e | outcome, d⟩
  · refine h.of_eq ?_ ?_
    · simp [emitH3SendErrorAndReset, setConn, emit]
    · simp [emitH3SendErrorAndReset, setConn, emit]
  · have hreleased : (releaseOutboundAdmission (s.setConn connHandle d)
        (acceptedOutboundPayloadUnits chunk.length fin outcome.written
          outcome.finAccepted)).Separate := by
      refine h.of_eq ?_ ?_
      · simp [setConn]
      · simp [setConn]
    dsimp only
    cases outcome.remainder with
    | none => exact hreleased
    | some remainder =>
      refine hreleased.insertPendingWrite ?_
      simpa [setConn] using hr

theorem dispatchStreamSend_separate (h : s.Separate) (chunk : Bytes) (fin : Bool) :
    (s.dispatchStreamSend connHandle streamId chunk fin).Separate := by
  unfold dispatchStreamSend
  cases hr : s.pendingResponses.lookup (connHandle, streamId) with
  | some response => exact h.insertPendingResponse (h _ (by rw [hr]; rfl))
  | none =>
    dsimp only
    cases s.pendingWrites.lookup (connHandle, streamId) with
    | some write => exact h.insertPendingWrite hr
    | none =>
      dsimp only
      cases s.conn? connHandle with
      | some c => exact sendBodyChunk_separate connHandle streamId h hr c chunk fin
      | none => exact h.of_eq (by simp) (by simp)

theorem dispatchSendResponseHeaders_separate (h : s.Separate) {headers : Headers} {fin : Bool}
    (hheaders : s.HeadersFirst (.sendResponseHeaders connHandle streamId headers fin)) :
    (s.dispatchSendResponseHeaders connHandle streamId headers fin).Separate := by
  unfold dispatchSendResponseHeaders
  cases hc : s.conn? connHandle with
  | none => exact h
  | some c =>
    have hblocked := hheaders c hc
    dsimp only
    generalize c.sendResponse streamId headers fin = r at hblocked ⊢
    obtain ⟨e | _, d⟩ := r
    · dsimp only
      split_ifs with he
      · exact Separate.insertPendingResponse (h.of_eq rfl rfl) (hblocked he)
      · exact h.of_eq rfl rfl
    · exact h.of_eq rfl rfl

theorem dispatchSendResponse_separate (h : s.Separate) {headers : Headers} {body : Bytes}
    {fin : Bool} (hfirst : s.FirstResponse (.sendResponse connHandle streamId headers body fin))
    (hheaders : s.HeadersFirst (.sendResponse connHandle streamId headers body fin)) :
    (s.dispatchSendResponse connHandle streamId headers body fin).Separate := by
  unfold dispatchSendResponse
  cases hc : s.conn? connHandle with
  | none => exact h.of_eq (by simp) (by simp)
  | some c =>
    have hblocked := hheaders c hc
    have hresponse : s.pendingResponses.lookup (connHandle, streamId) = none :=
      hfirst (by rw [hc]; rfl)
    dsimp only
    generalize c.sendResponse streamId headers false = r at hblocked ⊢
    obtain ⟨e | _, d⟩ := r
    · dsimp only
      split_ifs with he
      · exact Separate.insertPendingResponse (h.of_eq rfl rfl) (hblocked he)
      · refine h.of_eq ?_ ?_
        · simp [emitH3SendErrorAndReset, setConn, emit]
        · simp [emitH3SendErrorAndReset, setConn, emit]
    · exact sendBodyChunk_separate connHandle streamId (s := s.setConn connHandle d)
        (h.of_eq rfl rfl) hresponse d body fin

theorem dispatchStreamClose_separate (h : s.Separate) (errorCode : ℕ) :
    (s.dispatchStreamClose connHandle streamId errorCode).Separate := by
  have hremoved : (s.removePending (connHandle, streamId)).Separate := by
    intro key hkey
    have hwas := h key (KeyMap.isSome_of_erase hkey)
    by_cases hk : key = (connHandle, streamId)
    · rw [hk]
      exact AList.lookup_erase _ _
    · exact (AList.lookup_erase_ne hk).trans hwas
  unfold dispatchStreamClose
  cases s.conn? connHandle with
  | none => exact h
  | some c =>
    dsimp only
    split_ifs
    · refine hremoved.of_eq ?_ ?_
      · simp [removePending, setConn, emit]
      · simp [removePending, setConn, emit]
    · refine hremoved.of_eq ?_ ?_
      · simp [removePending, setConn]
      · simp [removePending, setConn]

/-- A command keeps bodies and responses apart, when its headers come first and once. -/
theorem dispatchCommand_separate {now : ℕ} {cmd : WorkerCommand} (h : s.Separate)
    (hfirst : s.FirstResponse cmd) (hheaders : s.HeadersFirst cmd) :
    (s.dispatchCommand now cmd).2.Separate := by
  by_cases hquiet : IsQuiet cmd
  · obtain ⟨hwrites, hresponses, -⟩ := dispatchCommand_quiet now hquiet s
    exact h.of_eq hwrites hresponses
  cases cmd with
  | sendResponseHeaders connHandle streamId headers fin =>
    exact dispatchSendResponseHeaders_separate connHandle streamId h hheaders
  | sendResponse connHandle streamId headers body fin =>
    exact dispatchSendResponse_separate connHandle streamId h hfirst hheaders
  | streamSend connHandle streamId chunk fin =>
    exact dispatchStreamSend_separate connHandle streamId h chunk fin
  | streamClose connHandle streamId errorCode =>
    exact dispatchStreamClose_separate connHandle streamId h errorCode
  | _ => exact absurd trivial hquiet

end Commands

end H3Server

namespace ClientHandler

variable {C : Type} {h : ClientHandler C}

/-- The batch drains streams with nothing waiting only. -/
def DrainsIdle (h : ClientHandler C) : Prop :=
  Drains (fun _ streamId => h.pendingWrites.lookup streamId = none) h.batch

theorem DrainsIdle.emit {ref : ConnRef} {event : JsH3Event} (hidle : h.DrainsIdle)
    (hevent : event.eventType ≠ .drain) : (h.emit ref event).DrainsIdle :=
  Drains.push hidle hevent

theorem drains_release {idle : ℕ → ℕ → Prop} (h : ClientHandler C) (units : ℕ)
    (hidle : Drains idle h.batch) : Drains idle (h.releaseOutboundAdmission units).batch := by
  unfold releaseOutboundAdmission
  dsimp only
  split_ifs
  · exact Drains.push hidle (by simp [JsH3Event.writeReady])
  · exact hidle

@[simp] theorem pendingWrites_releaseOutboundAdmission (h : ClientHandler C) (units : ℕ) :
    (h.releaseOutboundAdmission units).pendingWrites = h.pendingWrites := by
  unfold releaseOutboundAdmission
  dsimp only
  split_ifs <;> rfl

theorem DrainsIdle.suppress {ref : ConnRef} {connHandle : UInt32} {batch : List Emitted} {conn : C}
    (hidle : h.DrainsIdle) (hgrows : Grows (Polls ref connHandle) h.batch batch) :
    ({ h with conn, batch }.suppressPendingDrains connHandle).DrainsIdle := by
  have hnone : ∀ streamId, (h.pendingWrites.lookup streamId).isSome = false →
      h.pendingWrites.lookup streamId = none := by
    intro streamId hwaits
    simpa using hwaits
  exact Drains.suppress hidle hgrows hnone

theorem DrainsIdle.reportPingAcks (hidle : h.DrainsIdle) (ref : ConnRef) (connHandle : UInt32)
    (answer : List ℕ × C) : (h.reportPingAcks ref connHandle answer).DrainsIdle :=
  Drains.foldl_push (fun _ => by simp [JsH3Event.pingAck]) _ hidle

theorem DrainsIdle.reportSessionTicket (hidle : h.DrainsIdle) (ref : ConnRef)
    (connHandle : UInt32) (answer : Option Bytes × C) :
    (h.reportSessionTicket ref connHandle answer).DrainsIdle := by
  obtain ⟨_ | ticket, conn⟩ := answer
  · exact hidle
  · exact Drains.push hidle (by simp [JsH3Event.sessionTicket])

theorem DrainsIdle.emitSessionClose {closeEvent : C → UInt32 → JsH3Event} {ref : ConnRef}
    {connHandle : UInt32} (hidle : h.DrainsIdle)
    (hclose : ∀ c connHandle, (closeEvent c connHandle).eventType ≠ .drain) :
    (h.emitSessionClose closeEvent ref connHandle).DrainsIdle := by
  unfold ClientHandler.emitSessionClose
  split_ifs
  · exact hidle
  · have hreset : Drains (fun _ streamId => h.pendingWrites.lookup streamId = none)
        (h.pendingWrites.keys.foldl (fun batch streamId =>
          pushFor ref (.reset connHandle streamId 0) batch) h.batch) :=
      Drains.foldl_push (fun _ => by simp [JsH3Event.reset]) _ hidle
    -- nothing waits any more
    have hempty : Drains (fun _ streamId => (∅ : KeyMap ℕ PendingWrite).lookup streamId = none)
        (h.pendingWrites.keys.foldl (fun batch streamId =>
          pushFor ref (.reset connHandle streamId 0) batch) h.batch) := by
      refine hreset.mono ?_
      intro _ streamId _
      exact AList.lookup_empty streamId
    refine DrainsIdle.emit ?_ (hclose _ _)
    unfold DrainsIdle
    rw [pendingWrites_releaseOutboundAdmission]
    exact drains_release _ _ hempty

section Flush

variable {send : ℕ → Bytes → Bool → C → Except Http3NativeError SendOutcome × C}
  {gone : C → ℕ → Bool}

theorem WriteFlush.step_drainedOf {writes : KeyMap ℕ PendingWrite} {acc : WriteFlush C}
    (hacc : DrainedOf id (fun _ => True) writes acc.pending acc.drained) (streamId : ℕ) :
    DrainedOf id (fun _ => True) writes (acc.step send gone streamId).pending
      (acc.step send gone streamId).drained := by
  unfold WriteFlush.step
  cases hw : acc.pending.lookup streamId with
  | none => exact hacc
  | some write =>
    have hwaits : (acc.pending.lookup streamId).isSome := by rw [hw]; rfl
    dsimp only
    split_ifs
    · exact hacc.erase streamId
    · cases (flushPendingWriteWithProgress (send streamId) write acc.conn).outcome with
      | error e => exact hacc.erase streamId
      | ok outcome =>
        dsimp only
        split_ifs
        · exact hacc.drain (a := streamId) trivial hwaits
        · exact hacc.retain hwaits _

theorem flushWrites_drainedOf (conn : C) (writes : KeyMap ℕ PendingWrite) :
    DrainedOf id (fun _ => True) writes (flushWrites send gone conn writes).pending
      (flushWrites send gone conn writes).drained := by
  unfold flushWrites
  refine List.foldlRecOn writes.keys (WriteFlush.step send gone)
    (motive := fun acc : WriteFlush C =>
    DrainedOf id (fun _ => True) writes acc.pending acc.drained) ?_ ?_
  · exact .start
  · exact fun _ hacc streamId _ => WriteFlush.step_drainedOf hacc streamId

theorem DrainsIdle.emitDrains {ref : ConnRef} {connHandle : UInt32} (drained : List ℕ)
    {h : ClientHandler C} (hidle : h.DrainsIdle)
    (hdrained : ∀ streamId ∈ drained, h.pendingWrites.lookup streamId = none) :
    (drained.foldl (fun h streamId => h.emit ref (.drain connHandle streamId)) h).DrainsIdle := by
  induction drained generalizing h with
  | nil => exact hidle
  | cons streamId drained ih =>
    rw [List.forall_mem_cons] at hdrained
    exact ih (Drains.push_drain hidle hdrained.1) hdrained.2

theorem DrainsIdle.flushPendingWrites (hidle : h.DrainsIdle) (ref : ConnRef)
    (connHandle : UInt32) : (h.flushPendingWrites send ref connHandle gone).DrainsIdle := by
  have hflush : DrainedOf id (fun _ => True) h.pendingWrites
      (flushWrites send gone h.conn h.pendingWrites).pending
      (flushWrites send gone h.conn h.pendingWrites).drained := flushWrites_drainedOf _ _
  unfold ClientHandler.flushPendingWrites
  dsimp only
  generalize flushWrites send gone h.conn h.pendingWrites = flushed at hflush ⊢
  have hkept : Drains (fun _ streamId => flushed.pending.lookup streamId = none) h.batch := by
    refine Drains.mono ?_ hidle
    intro _ streamId hnone
    rw [← Option.not_isSome_iff_eq_none]
    intro hwaits
    have hwas := hflush.waiting streamId hwaits
    rw [hnone] at hwas
    cases hwas
  refine DrainsIdle.emitDrains _ ?_ ?_
  · unfold DrainsIdle
    rw [pendingWrites_releaseOutboundAdmission]
    exact drains_release _ _ hkept
  · rw [pendingWrites_releaseOutboundAdmission]
    exact fun streamId hmem => (hflush.drained streamId hmem).2.1

end Flush

end ClientHandler

namespace H3Client

variable {Q : Type} [Quiche Q] (connHandle : UInt32) {h : H3Client Q}

theorem pollConn_drainsIdle (hidle : h.DrainsIdle) (budget now : ℕ) :
    (pollConn connHandle budget now h).DrainsIdle := by
  have hpoll : H3Connection.PollSpec (ref connHandle h) connHandle h.conn _ h.batch _ :=
    h.conn.pollH3Events_spec budget h.batch
  generalize hpolled : h.conn.pollH3Events (ref connHandle h) connHandle budget h.batch = r at hpoll
  have hkept : ({ h with conn := r.1, batch := r.2 }.suppressPendingDrains connHandle).DrainsIdle :=
    hidle.suppress hpoll.events
  unfold pollConn
  rw [hpolled]
  exact (hkept.reportPingAcks _ _ _).reportSessionTicket _ _ _

theorem noteHandshake_drainsIdle (hidle : h.DrainsIdle) :
    (noteHandshake connHandle h).DrainsIdle := by
  have hestablished : (h.setConn (establish h.conn)).DrainsIdle := hidle
  unfold noteHandshake
  dsimp only
  split_ifs
  · exact Drains.push hestablished (by simp [JsH3Event.handshakeComplete])
  · exact hestablished

theorem emitSessionClose_drainsIdle (hidle : h.DrainsIdle) :
    (emitSessionClose connHandle h).DrainsIdle := by
  refine ClientHandler.DrainsIdle.emitSessionClose hidle ?_
  intro c connHandle
  simp [(H3Server.sessionCloseEvent_kind c connHandle).1]

/-- What a client's event loop asks of the handler between commands. -/
inductive Op
  | packet (p : Packet) (budget now : ℕ)
  | timers (now budget : ℕ)
  | pollAppEvents (budget now : ℕ)
  | pollDrainEvents
  | flushPendingWrites
  deriving DecidableEq

def Op.apply : Op → H3Client Q → H3Client Q
  | .packet p budget now => processPacketForHandle connHandle p budget now
  | .timers now budget => processTimersForHandle connHandle now budget
  | .pollAppEvents budget now => pollAppEventsForHandle connHandle budget now
  | .pollDrainEvents => pollDrainEventsForHandle connHandle
  | .flushPendingWrites => flushPendingWritesForHandle connHandle

theorem apply_drainsIdle (op : Op) (hidle : h.DrainsIdle) :
    (op.apply connHandle h).DrainsIdle := by
  cases op with
  | packet p budget now =>
    unfold Op.apply processPacketForHandle
    dsimp only
    have hset : (h.setConn (h.conn.recv p).2).DrainsIdle := hidle
    generalize h.setConn (h.conn.recv p).2 = h₁ at hset ⊢
    have hpolled := pollConn_drainsIdle connHandle (noteHandshake_drainsIdle connHandle hset)
      budget now
    split_ifs
    · exact hset
    · exact emitSessionClose_drainsIdle connHandle hpolled
    · exact hpolled
  | timers now budget =>
    unfold Op.apply processTimersForHandle
    dsimp only
    have hset : (h.setConn h.conn.onTimeout).DrainsIdle := hidle
    split_ifs
    · exact emitSessionClose_drainsIdle connHandle hset
    · exact pollConn_drainsIdle connHandle hset budget now
    · exact hidle
  | pollAppEvents budget now =>
    unfold Op.apply pollAppEventsForHandle
    dsimp only
    split_ifs
    · exact hidle
    · exact pollConn_drainsIdle connHandle hidle budget now
  | pollDrainEvents =>
    unfold Op.apply pollDrainEventsForHandle
    dsimp only
    split_ifs
    · exact hidle
    · exact hidle.suppress (h.conn.pollDrainEvents_spec h.batch).events
  | flushPendingWrites => exact hidle.flushPendingWrites _ connHandle

end H3Client

namespace H3Worker

variable {Q : Type} [Quiche Q]

/-- No response headers that have to wait are dispatched behind a body of their stream. -/
def HeadersFirst : Step → H3Worker Q → Prop
  | .dispatch _, w => ∀ next ∈ w.channel.head?, w.server.HeadersFirst next.cmd
  | _, _ => True

theorem dispatchNext_separate {now : ℕ} {w : H3Worker Q} (h : w.server.Separate)
    (hanswered : ResponsesAnswered w.server w.answered) (hone : OneResponse (.dispatch now) w)
    (hheaders : HeadersFirst (.dispatch now) w) : (w.dispatchNext now).server.Separate := by
  unfold dispatchNext
  cases hch : w.channel with
  | nil => exact h
  | cons next channel =>
    have hhead : w.channel.head? = some next := by rw [hch]; rfl
    have hfirst := firstResponse_of_answered hanswered hone hhead
    have hnext : w.server.HeadersFirst next.cmd := hheaders next hhead
    have hbatch : w.server.startBatch.Separate := h
    exact H3Server.dispatchCommand_separate hbatch hfirst hnext

theorem step_separate (step : Step) {w : H3Worker Q} (h : w.server.Separate)
    (hanswered : ResponsesAnswered w.server w.answered) (hone : OneResponse step w)
    (hheaders : HeadersFirst step w) : (H3Worker.step step w).server.Separate := by
  cases step with
  | call channelOpen meant cmd reply =>
    obtain ⟨a, channel, -, hnapi⟩ := napi_spec channelOpen meant cmd reply w
    unfold H3Worker.step
    dsimp only
    rw [hnapi]
    exact h
  | dispatch now => exact dispatchNext_separate h hanswered hone hheaders
  | work op =>
    have hbatch : w.server.startBatch.Separate := h
    exact hbatch.apply op

/-- In every run without response headers that wait behind a body of their stream, no
operation of the server drains a stream that still has something waiting; and no
operation of a client ever does. -/
theorem drains_only_idle {handleOffset maxConnections : UInt32} {disableRetry : Bool}
    {streamReadWindow : Option ℕ} {requireClientCert : Bool} :
    (∀ w : H3Worker Q, Runs.Reach step (fun i w => OneResponse i w ∧ HeadersFirst i w)
        (init handleOffset maxConnections disableRetry streamReadWindow requireClientCert) w →
      ∀ op : ServerOp, (op.apply w.server.startBatch).DrainsIdle) ∧
    ∀ (h : H3Client Q) (connHandle : UInt32) (op : H3Client.Op),
      (op.apply connHandle h.startBatch).DrainsIdle := by
  constructor
  · intro w hreach op
    have hbooks : w.server.Separate ∧ ResponsesAnswered w.server w.answered := by
      induction hreach with
      | start =>
        constructor
        · intro key hkey
          cases hkey
        · intro key hkey
          cases hkey
      | next i _ hok ih =>
        exact ⟨step_separate i ih.1 ih.2 hok.1 hok.2, step_answered i ih.2⟩
    have hbatch : w.server.startBatch.Separate := hbooks.1
    exact H3Server.apply_drainsIdle op (fun _ => hbatch) (Drains.nil _)
  · intro h connHandle op
    exact H3Client.apply_drainsIdle connHandle op (Drains.nil _)

instance (s : H3Server Q) (cmd : WorkerCommand) : Decidable (s.HeadersFirst cmd) :=
  match cmd with
  | .sendResponseHeaders .. => by dsimp only [H3Server.HeadersFirst]; infer_instance
  | .sendResponse .. => by dsimp only [H3Server.HeadersFirst]; infer_instance
  | .streamSend .. | .streamReadCredit .. | .streamClose .. | .sendTrailers .. | .closeSession ..
  | .sendDatagram .. | .pingSession .. | .shutdown => .isTrue trivial

instance (step : Step) (w : H3Worker Q) : Decidable (HeadersFirst step w) :=
  match step with
  | .dispatch _ => by dsimp only [HeadersFirst]; infer_instance
  | .call .. | .work _ => .isTrue trivial

/-- Headers that have to wait, with a body behind them, and room for the headers later. -/
def headersThenBody : List Step :=
  blockedClient ++ [.call true 0 (.sendResponseHeaders 0 0 [] false) none, .dispatch 0,
    .call true 0 (.streamSend 0 0 [1, 2, 3] true) none, .dispatch 0,
    .work (.packet false (Scripted.packet .other [9] [4, 100]) 0 0 [])]

theorem drains_only_idle_headersThenBody :
    Runs.Admitted step (fun i w => OneResponse i w ∧ HeadersFirst i w) headersThenBody
        (init 0 8 true none false : H3Worker Scripted) ∧
      (ServerOp.flushAllPendingWrites.apply (Runs.run step headersThenBody
        (init 0 8 true none false : H3Worker Scripted)).server.startBatch).DrainsIdle :=
  ⟨by decide +kernel,
    drains_only_idle.1 _ (Runs.Reach.start.run (by decide +kernel)) .flushAllPendingWrites⟩

/-- The body first: its headers wait beside it, and then there is room for them only. -/
def bodyThenHeaders : List Step :=
  blockedClient ++ [.call true 0 (.streamSend 0 0 [1, 2, 3] true) none, .dispatch 0,
    .call true 0 (.sendResponseHeaders 0 0 [] false) none, .dispatch 0,
    .work (.packet false (Scripted.packet .other [9] [4, 1]) 0 0 [])]

/-- The stream is drained while its body still waits. -/
theorem drain_before_body_bodyThenHeaders : ∃ w : H3Worker Scripted,
    Runs.Reach step OneResponse (init 0 8 true none false) w ∧
      ¬(ServerOp.flushAllPendingWrites.apply w.server.startBatch).DrainsIdle := by
  refine ⟨Runs.run step bodyThenHeaders (init 0 8 true none false),
    Runs.Reach.start.run (by decide +kernel), ?_⟩
  intro hidle
  obtain ⟨ref, howner, hwrites, -⟩ :=
    hidle ⟨some ⟨0, 0⟩, .drain 0 0⟩ (by decide +kernel) rfl
  cases howner
  revert hwrites
  decide +kernel

end H3Worker

end Http3
