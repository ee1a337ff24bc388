import Http3.H3Server.Sessions
import Http3.Scripted

/-! The outbound admission window of a server worker: the units it holds are the
units that commands in the channel and pending data still owe. -/

namespace Http3

namespace H3Server

variable {Q : Type}

/-- Units of everything that waits for flow control. -/
def owed (s : H3Server Q) : ℕ :=
  KeyMap.total PendingWrite.queuedUnits s.pendingWrites +
    KeyMap.total PendingResponse.queuedUnits s.pendingResponses

/-- The window holds what is pending and `extra` units besides. -/
def Balanced (extra : ℕ) (s : H3Server Q) : Prop :=
  s.outboundAdmission.queued = extra + s.owed

theorem SameBooks.balanced {s s' : H3Server Q} (h : SameBooks s s') {extra : ℕ}
    (hb : Balanced extra s) : Balanced extra s' := by
  unfold Balanced owed at hb ⊢
  rw [h.writes, h.responses, h.admission]
  exact hb

namespace Balanced

variable {s : H3Server Q} {extra units : ℕ}

theorem release (h : Balanced (extra + units) s) :
    Balanced extra (s.releaseOutboundAdmission units) := by
  unfold Balanced owed at h ⊢
  simp only [outboundAdmission_releaseOutboundAdmission, OutboundAdmission.release_queued,
    pendingWrites_releaseOutboundAdmission, pendingResponses_releaseOutboundAdmission]
  omega

variable {key : StreamKey}

theorem insertPendingWrite {write : PendingWrite} (h : Balanced (extra + write.queuedUnits) s)
    (hnone : s.pendingWrites.lookup key = none) :
    Balanced extra (s.insertPendingWrite key write) := by
  have htotal := KeyMap.total_insert_of_absent PendingWrite.queuedUnits write hnone
  unfold Balanced owed at h ⊢
  unfold H3Server.insertPendingWrite
  dsimp only
  omega

theorem insertPendingResponse {response : PendingResponse}
    (h : Balanced (extra + response.queuedUnits) s) (hnone : s.pendingResponses.lookup key = none) :
    Balanced extra (s.insertPendingResponse key response) := by
  have htotal := KeyMap.total_insert_of_absent PendingResponse.queuedUnits response hnone
  unfold Balanced owed at h ⊢
  unfold H3Server.insertPendingResponse
  dsimp only
  omega

theorem growPendingWrite {write write' : PendingWrite} (h : Balanced (extra + units) s)
    (hsome : s.pendingWrites.lookup key = some write)
    (hunits : write'.queuedUnits = write.queuedUnits + units) :
    Balanced extra (s.insertPendingWrite key write') := by
  have htotal := KeyMap.total_insert PendingWrite.queuedUnits key write' s.pendingWrites
  rw [hsome, KeyMap.weight_some] at htotal
  unfold Balanced owed at h ⊢
  unfold H3Server.insertPendingWrite
  dsimp only
  omega

theorem growPendingResponse {response response' : PendingResponse} (h : Balanced (extra + units) s)
    (hsome : s.pendingResponses.lookup key = some response)
    (hunits : response'.queuedUnits = response.queuedUnits + units) :
    Balanced extra (s.insertPendingResponse key response') := by
  have htotal := KeyMap.total_insert PendingResponse.queuedUnits key response' s.pendingResponses
  rw [hsome, KeyMap.weight_some] at htotal
  unfold Balanced owed at h ⊢
  unfold H3Server.insertPendingResponse
  dsimp only
  omega

theorem erasePendingResponse {response : PendingResponse} (h : Balanced extra s)
    (hsome : s.pendingResponses.lookup key = some response) :
    Balanced (extra + response.queuedUnits)
      { s with pendingResponses := s.pendingResponses.erase key } := by
  have htotal := KeyMap.total_erase PendingResponse.queuedUnits key s.pendingResponses
  rw [hsome, KeyMap.weight_some] at htotal
  unfold Balanced owed at h ⊢
  dsimp only
  omega

theorem removePending (h : Balanced extra s) (key : StreamKey) :
    Balanced (extra + s.pendingUnits key) (s.removePending key) := by
  have hwrites := KeyMap.total_erase PendingWrite.queuedUnits key s.pendingWrites
  have hresponses := KeyMap.total_erase PendingResponse.queuedUnits key s.pendingResponses
  unfold Balanced owed at h ⊢
  unfold pendingUnits H3Server.removePending
  dsimp only
  omega

end Balanced

variable [Quiche Q]

section Dispatch

variable {s : H3Server Q} {extra : ℕ} {connHandle : UInt32} {streamId : ℕ}

theorem sendBodyChunk_balanced {c : H3Connection Q} {chunk : Bytes} {fin : Bool}
    (h : Balanced (extra + outboundPayloadUnits chunk.length fin) s)
    (hnone : s.pendingWrites.lookup (connHandle, streamId) = none) :
    Balanced extra (s.sendBodyChunk connHandle streamId c chunk fin) := by
  unfold sendBodyChunk
  rcases hsend : c.sendBodyArcbuf streamId chunk fin with ⟨e | outcome, d⟩
  · have hset := (SameBooks.setConn s connHandle d).balanced h
    exact (SameBooks.emitH3SendErrorAndReset _ _ _ _ _ _).balanced hset.release
  · have hfits := c.sendBodyArcbuf_fits streamId hsend
    have hunits := hfits.units
    rw [← hunits, Nat.add_comm (acceptedOutboundPayloadUnits _ _ _ _), ← Nat.add_assoc] at h
    have hrel := ((SameBooks.setConn s connHandle d).balanced h).release
    dsimp only
    unfold SendOutcome.owedUnits at hrel
    cases hr : outcome.remainder with
    | none =>
      rw [hr] at hrel
      exact hrel
    | some remainder =>
      rw [hr] at hrel
      refine (SameBooks.emit _ _ _).balanced (hrel.insertPendingWrite ?_)
      rw [pendingWrites_releaseOutboundAdmission]
      exact hnone

theorem dispatchSendResponseHeaders_balanced {headers : Headers} {fin : Bool}
    (h : Balanced extra s)
    (hnone : (s.conn? connHandle).isSome →
      s.pendingResponses.lookup (connHandle, streamId) = none) :
    Balanced extra (s.dispatchSendResponseHeaders connHandle streamId headers fin) := by
  unfold dispatchSendResponseHeaders
  cases hc : s.conn? connHandle with
  | none => exact h
  | some c =>
    dsimp only
    rcases c.sendResponse streamId headers fin with ⟨e | _, d⟩
    · have hset := (SameBooks.setConn s connHandle d).balanced h
      dsimp only
      split_ifs
      · refine (SameBooks.emit _ _ _).balanced (Balanced.insertPendingResponse ?_ ?_)
        · exact hset
        · exact hnone (by rw [hc]; rfl)
      · exact (SameBooks.emitH3SendErrorAndReset _ _ _ _ _ _).balanced hset
    · exact (SameBooks.setConn s connHandle d).balanced h

theorem dispatchSendResponse_balanced {headers : Headers} {body : Bytes} {fin : Bool}
    (h : Balanced (extra + outboundPayloadUnits body.length fin) s)
    (hresponses : (s.conn? connHandle).isSome →
      s.pendingResponses.lookup (connHandle, streamId) = none)
    (hwrites : s.pendingWrites.lookup (connHandle, streamId) = none) :
    Balanced extra (s.dispatchSendResponse connHandle streamId headers body fin) := by
  unfold dispatchSendResponse
  cases hc : s.conn? connHandle with
  | none => exact h.release
  | some c =>
    dsimp only
    rcases c.sendResponse streamId headers false with ⟨e | _, d⟩
    · have hset := (SameBooks.setConn s connHandle d).balanced h
      dsimp only
      split_ifs
      · refine (SameBooks.emit _ _ _).balanced (Balanced.insertPendingResponse ?_ ?_)
        · simpa [PendingResponse.withBody, PendingResponse.queuedUnits] using hset
        · exact hresponses (by rw [hc]; rfl)
      · exact (SameBooks.emitH3SendErrorAndReset _ _ _ _ _ _).balanced hset.release
    · exact sendBodyChunk_balanced ((SameBooks.setConn s connHandle d).balanced h) hwrites

theorem queuedUnits_pushBodyChunk {response : PendingResponse} {chunk : Bytes} {fin : Bool}
    (h : ∀ write ∈ response.body, write.BalancedMerge chunk fin) :
    (response.pushBodyChunk chunk fin).queuedUnits =
      response.queuedUnits + outboundPayloadUnits chunk.length fin := by
  unfold PendingResponse.pushBodyChunk PendingResponse.queuedUnits
  cases hbody : response.body with
  | none => simp
  | some write =>
    rw [hbody] at h
    exact (write.queuedUnits_merge_eq_iff chunk fin).2 (h write rfl)

/-- Merging the payload of a send into what already waits for its stream counts
every unit. -/
def MergesEvenly (s : H3Server Q) (key : StreamKey) (chunk : Bytes) (fin : Bool) : Prop :=
  match s.pendingResponses.lookup key with
  | some response => ∀ write ∈ response.body, write.BalancedMerge chunk fin
  | none => ∀ write ∈ s.pendingWrites.lookup key, write.BalancedMerge chunk fin

instance (s : H3Server Q) (key : StreamKey) (chunk : Bytes) (fin : Bool) :
    Decidable (s.MergesEvenly key chunk fin) := by
  unfold MergesEvenly
  split <;> infer_instance

theorem dispatchStreamSend_balanced {chunk : Bytes} {fin : Bool}
    (h : Balanced (extra + outboundPayloadUnits chunk.length fin) s)
    (hmerge : s.MergesEvenly (connHandle, streamId) chunk fin) :
    Balanced extra (s.dispatchStreamSend connHandle streamId chunk fin) := by
  unfold dispatchStreamSend
  unfold MergesEvenly at hmerge
  cases hr : s.pendingResponses.lookup (connHandle, streamId) with
  | some response =>
    rw [hr] at hmerge
    exact h.growPendingResponse hr (queuedUnits_pushBodyChunk hmerge)
  | none =>
    rw [hr] at hmerge
    cases hw : s.pendingWrites.lookup (connHandle, streamId) with
    | some write =>
      have hbalanced := hmerge write hw
      exact h.growPendingWrite hw ((write.queuedUnits_merge_eq_iff chunk fin).2 hbalanced)
    | none =>
      dsimp only
      cases s.conn? connHandle with
      | none => exact h.release
      | some c => exact sendBodyChunk_balanced h hw

theorem dispatchStreamClose_balanced {errorCode : ℕ} (h : Balanced extra s) :
    Balanced extra (s.dispatchStreamClose connHandle streamId errorCode) := by
  unfold dispatchStreamClose
  cases s.conn? connHandle with
  | none => exact h
  | some c =>
    have hset := (SameBooks.setConn s connHandle (c.streamClose streamId errorCode)).balanced h
    have hrel := (hset.removePending (connHandle, streamId)).release
    dsimp only
    split_ifs
    · exact (SameBooks.emit _ _ _).balanced hrel
    · exact hrel

/-- What must hold when a command is dispatched for the books to stay even. -/
def DispatchesEvenly (s : H3Server Q) : WorkerCommand → Prop
  | .sendResponse connHandle streamId _ _ _ =>
    s.pendingWrites.lookup (connHandle, streamId) = none
  | .streamSend connHandle streamId chunk fin => s.MergesEvenly (connHandle, streamId) chunk fin
  | _ => True

instance (s : H3Server Q) (cmd : WorkerCommand) : Decidable (s.DispatchesEvenly cmd) := by
  unfold DispatchesEvenly
  split <;> infer_instance

/-- The stream a response-headers command is for has no response waiting. -/
def FirstResponse (s : H3Server Q) : WorkerCommand → Prop
  | .sendResponseHeaders connHandle streamId _ _ | .sendResponse connHandle streamId _ _ _ =>
    (s.conn? connHandle).isSome → s.pendingResponses.lookup (connHandle, streamId) = none
  | _ => True

theorem dispatchCommand_balanced {now : ℕ} {cmd : WorkerCommand}
    (h : Balanced (extra + workerCommandOutboundBytes cmd) s) (hfirst : s.FirstResponse cmd)
    (heven : s.DispatchesEvenly cmd) : Balanced extra (s.dispatchCommand now cmd).2 := by
  by_cases hquiet : IsQuiet cmd
  · obtain ⟨hwrites, hresponses, hqueued⟩ := dispatchCommand_quiet now hquiet s
    unfold Balanced owed at h ⊢
    rw [hwrites, hresponses, hqueued]
    omega
  cases cmd with
  | sendResponseHeaders connHandle streamId headers fin =>
    exact dispatchSendResponseHeaders_balanced h hfirst
  | sendResponse connHandle streamId headers body fin =>
    exact dispatchSendResponse_balanced h hfirst heven
  | streamSend connHandle streamId chunk fin => exact dispatchStreamSend_balanced h heven
  | streamClose connHandle streamId errorCode => exact dispatchStreamClose_balanced h
  | _ => exact absurd trivial hquiet

end Dispatch

section Flush

variable {s : H3Server Q} {extra : ℕ}

/-- A retried response gives back exactly the units it no longer owes. -/
theorem flushOneH3PendingResponse_units {streamId : ℕ} {response response' : PendingResponse}
    {c d : H3Connection Q} {o : PendingWriteFlushOutcome}
    (h : flushOneH3PendingResponse streamId response c = ((.ok o, response'), d)) :
    o.releasedUnits + (if o.done then 0 else response'.queuedUnits) = response.queuedUnits := by
  unfold flushOneH3PendingResponse at h
  dsimp only at h
  generalize (if response.headersSent then ((.ok (), c) : Except Http3NativeError Unit × _)
    else c.sendResponse streamId response.headers
      (response.headersFin && response.body.isNone)) = sent at h
  obtain ⟨e | _, c₁⟩ := sent
  · dsimp only at h
    split_ifs at h
    · simp only [Prod.mk.injEq, Except.ok.injEq] at h
      obtain ⟨⟨rfl, rfl⟩, -⟩ := h
      simp
    · simp at h
  · dsimp only at h
    cases hbody : response.body with
    | none =>
      rw [hbody] at h
      simp only [Prod.mk.injEq, Except.ok.injEq] at h
      obtain ⟨⟨rfl, -⟩, -⟩ := h
      simp [PendingResponse.queuedUnits, hbody]
    | some body =>
      rw [hbody] at h
      dsimp only at h
      cases ho : (flushPendingWriteWithProgress (H3Connection.sendBodyArcbuf streamId) body
          c₁).outcome with
      | error e =>
        rw [ho] at h
        simp at h
      | ok outcome =>
        rw [ho] at h
        simp only [Prod.mk.injEq, Except.ok.injEq] at h
        obtain ⟨⟨rfl, rfl⟩, -⟩ := h
        have hunits := flushPendingWriteWithProgress_units
          (fun _ _ c _ _ hs => c.sendBodyArcbuf_fits streamId hs) ho
        unfold PendingResponse.queuedUnits
        rw [hbody, KeyMap.weight_some, ← hunits]
        by_cases hdone : outcome.done = true <;> simp [hdone]

theorem flushPendingResponse_balanced (h : Balanced extra s) (key : StreamKey) :
    Balanced extra (s.flushPendingResponse key) := by
  unfold flushPendingResponse
  cases hr : s.pendingResponses.lookup key with
  | none => exact h
  | some response =>
    have herase := h.erasePendingResponse hr
    dsimp only
    cases H3Server.conn? _ key.1 with
    | none => exact herase.release
    | some c =>
      dsimp only
      by_cases hclosed : Quiche.streamClosed c.quicheConn key.2 = true
      · rw [if_pos hclosed]
        exact herase.release
      · rw [if_neg hclosed]
        rcases hflush : flushOneH3PendingResponse key.2 response c with ⟨⟨e | o, response'⟩, d⟩
        · have hset := (SameBooks.setConn _ key.1 d).balanced herase
          exact (SameBooks.emitH3SendErrorAndReset _ _ _ _ _ _).balanced hset.release
        · have hunits := flushOneH3PendingResponse_units hflush
          rw [← hunits, Nat.add_comm o.releasedUnits, ← Nat.add_assoc] at herase
          have hrel := ((SameBooks.setConn _ key.1 d).balanced herase).release
          dsimp only
          by_cases hdone : o.done = true
          · rw [if_pos hdone] at hrel ⊢
            exact (SameBooks.emit _ _ _).balanced hrel
          · rw [if_neg hdone] at hrel ⊢
            refine hrel.insertPendingResponse ?_
            rw [pendingResponses_releaseOutboundAdmission]
            exact AList.lookup_erase _ _

/-- The loop over pending writes collects what the entries stop owing. -/
theorem WriteFlush.step_units (acc : WriteFlush Q) (key : StreamKey) :
    (acc.step key).releasedUnits + KeyMap.total PendingWrite.queuedUnits (acc.step key).pending =
      acc.releasedUnits + KeyMap.total PendingWrite.queuedUnits acc.pending := by
  unfold WriteFlush.step
  cases hw : acc.pending.lookup key with
  | none => rfl
  | some write =>
    have herase := KeyMap.total_erase PendingWrite.queuedUnits key acc.pending
    rw [hw, KeyMap.weight_some] at herase
    dsimp only
    cases acc.connMap.get key.1.toNat with
    | none =>
      unfold WriteFlush.drop
      dsimp only
      omega
    | some c =>
      dsimp only
      by_cases hclosed : Quiche.streamClosed c.quicheConn key.2 = true
      · rw [if_pos hclosed]
        unfold WriteFlush.drop
        dsimp only
        omega
      · rw [if_neg hclosed]
        cases ho : (flushPendingWriteWithProgress (H3Connection.sendBodyArcbuf key.2) write
            c).outcome with
        | error e =>
          unfold WriteFlush.drop
          dsimp only
          omega
        | ok o =>
          have hunits := flushPendingWriteWithProgress_units
            (fun _ _ c _ _ hs => c.sendBodyArcbuf_fits key.2 hs) ho
          have hinsert := KeyMap.total_insert PendingWrite.queuedUnits key
            (flushPendingWriteWithProgress (H3Connection.sendBodyArcbuf key.2) write c).write
            acc.pending
          rw [hw, KeyMap.weight_some] at hinsert
          dsimp only
          by_cases hdone : o.done = true
          · rw [if_pos hdone] at hunits ⊢
            dsimp only
            omega
          · rw [if_neg hdone] at hunits ⊢
            dsimp only
            omega

theorem WriteFlush.foldl_units (keys : List StreamKey) (acc : WriteFlush Q) :
    (keys.foldl WriteFlush.step acc).releasedUnits +
        KeyMap.total PendingWrite.queuedUnits (keys.foldl WriteFlush.step acc).pending =
      acc.releasedUnits + KeyMap.total PendingWrite.queuedUnits acc.pending := by
  induction keys generalizing acc with
  | nil => rfl
  | cons key keys ih => exact (ih (acc.step key)).trans (acc.step_units key)

theorem flushAllPendingWrites_balanced (h : Balanced extra s) :
    Balanced extra s.flushAllPendingWrites := by
  have hresponses : Balanced extra (s.pendingResponses.keys.foldl flushPendingResponse s) := by
    generalize s.pendingResponses.keys = keys
    induction keys generalizing s with
    | nil => exact h
    | cons key keys ih => exact ih (flushPendingResponse_balanced h key)
  unfold flushAllPendingWrites
  dsimp only
  generalize s.pendingResponses.keys.foldl flushPendingResponse s = s₁ at hresponses ⊢
  have hunits := WriteFlush.foldl_units s₁.pendingWrites.keys ⟨s₁.connMap, s₁.pendingWrites, [], 0⟩
  change (flushPendingWrites s₁.connMap s₁.pendingWrites).releasedUnits + _ = _ at hunits
  have hflushed : Balanced (extra + (flushPendingWrites s₁.connMap s₁.pendingWrites).releasedUnits)
      { s₁ with
        connMap := (flushPendingWrites s₁.connMap s₁.pendingWrites).connMap
        pendingWrites := (flushPendingWrites s₁.connMap s₁.pendingWrites).pending } := by
    unfold Balanced owed at hresponses ⊢
    dsimp only [flushPendingWrites] at hunits ⊢
    omega
  refine (SameBooks.foldl ?_ _ _).balanced hflushed.release
  intro s entry
  exact .emit s _ _

theorem reapConnection_balanced (h : Balanced extra s) (entry : ℕ × H3Connection Q) :
    Balanced extra (s.reapConnection entry) := by
  have hwrites := KeyMap.total_retain_add PendingWrite.queuedUnits
    (fun key : StreamKey => decide (key.1.toNat = entry.1)) s.pendingWrites
  have hresponses := KeyMap.total_retain_add PendingResponse.queuedUnits
    (fun key : StreamKey => decide (key.1.toNat = entry.1)) s.pendingResponses
  have hretained : Balanced (extra + s.pendingUnitsOf entry.1)
      (s.abandonConn ⟨entry.1, entry.2.uid⟩) := by
    unfold Balanced owed pendingUnitsOf abandonConn at *
    dsimp only
    omega
  unfold reapConnection
  dsimp only
  split_ifs
  · exact hretained.release
  · exact (SameBooks.emit _ _ _).balanced hretained.release

theorem reapClosedConnections_balanced (h : Balanced extra s) :
    Balanced extra s.reapClosedConnections := by
  unfold reapClosedConnections
  dsimp only
  generalize s.connMap.drainClosed H3Connection.isClosed = drained
  have hmap : Balanced extra { s with connMap := drained.2 } :=
    SameBooks.balanced ⟨rfl, rfl, rfl⟩ h
  refine SameBooks.balanced (s := drained.1.foldl reapConnection { s with connMap := drained.2 })
    ⟨rfl, rfl, rfl⟩ ?_
  generalize ({ s with connMap := drained.2 } : H3Server Q) = s₁ at hmap ⊢
  generalize drained.1 = closed
  induction closed generalizing s₁ with
  | nil => exact hmap
  | cons entry closed ih => exact ih _ (reapConnection_balanced hmap entry)

end Flush

theorem apply_balanced (op : ServerOp) {s : H3Server Q} {extra : ℕ} (h : Balanced extra s) :
    Balanced extra (op.apply s) := by
  cases op with
  | packet direct p budget now scids =>
    exact (packetArrives_keepsBooks direct p budget now scids s).balanced h
  | expireTimers now budget => exact (expireTimers_keepsBooks now budget s).balanced h
  | collectAppEvents budget now => exact (collectAppEvents_keepsBooks budget now s).balanced h
  | collectDrainEvents => exact s.collectDrainEvents_keepsBooks.balanced h
  | flushAllPendingWrites => exact flushAllPendingWrites_balanced h
  | flushAllSends rounds now => exact (flushAllSends_sameBooks rounds now s).balanced h
  | reapClosedConnections => exact reapClosedConnections_balanced h
  | emitSessionCloseForAllActive => exact s.emitSessionCloseForAllActive_keepsBooks.balanced h

end H3Server

namespace H3Worker

variable {Q : Type}

/-- Units charged for the commands that wait in the channel. -/
def channelUnits (channel : List Queued) : ℕ :=
  (channel.map fun queued => workerCommandOutboundBytes queued.cmd).sum

/-- The window holds the units of the channel and of everything pending. -/
def Conserved (w : H3Worker Q) : Prop := w.server.Balanced (channelUnits w.channel)

variable {w : H3Worker Q}

theorem admitAndSend_conserved {channelOpen : Bool} {queued : Queued} {payloadLen : ℕ} {fin : Bool}
    (h : w.Conserved)
    (hunits : workerCommandOutboundBytes queued.cmd = outboundPayloadUnits payloadLen fin) :
    (w.admitAndSend channelOpen queued payloadLen fin).2.Conserved := by
  unfold Conserved H3Server.Balanced at h
  unfold admitAndSend tryAdmitOutbound
  dsimp only
  cases hadmit : (w.server.outboundAdmission.tryAdmit (outboundPayloadUnits payloadLen fin)).1 with
  | false =>
    rw [OutboundAdmission.tryAdmit_false hadmit]
    exact h
  | true =>
    rw [OutboundAdmission.tryAdmit_true hadmit]
    unfold sendCommand
    cases channelOpen with
    | true =>
      unfold Conserved H3Server.Balanced H3Server.owed channelUnits at *
      simp only [if_true, List.map_append, List.sum_append, List.map_cons, List.map_nil,
        List.sum_cons, List.sum_nil]
      omega
    | false =>
      unfold Conserved H3Server.Balanced H3Server.owed releaseOutboundAdmission at *
      simp only [Bool.false_eq_true, if_false, OutboundAdmission.release_queued]
      omega

theorem napi_conserved {channelOpen : Bool} {meant : ℕ} {cmd : WorkerCommand} {reply : Option Bool}
    (h : w.Conserved) :
    (w.napi channelOpen meant cmd reply).2.Conserved := by
  have hcommand : ∀ cmd, workerCommandOutboundBytes cmd = 0 →
      (w.sendCommand channelOpen ⟨cmd, meant⟩).2.Conserved := by
    intro cmd hzero
    unfold sendCommand
    cases channelOpen with
    | false => exact h
    | true =>
      unfold Conserved channelUnits at h ⊢
      simp only [if_true, List.map_append, List.sum_append, List.map_cons, List.map_nil,
        List.sum_cons, List.sum_nil, hzero, Nat.add_zero]
      exact h
  cases cmd with
  | sendResponse connHandle streamId headers body fin => exact admitAndSend_conserved h rfl
  | streamSend connHandle streamId chunk fin => exact admitAndSend_conserved h rfl
  | sendDatagram connHandle data =>
    have hsend : (w.admitAndSend channelOpen ⟨.sendDatagram connHandle data, meant⟩ data.length
        false).2.Conserved :=
      admitAndSend_conserved h (by simp [workerCommandOutboundBytes, outboundPayloadUnits])
    unfold napi sendDatagram
    dsimp only
    generalize w.admitAndSend channelOpen _ _ _ = r at hsend ⊢
    obtain ⟨_ | _, w'⟩ := r <;> exact hsend
  | sendResponseHeaders connHandle streamId headers fin => exact hcommand _ rfl
  | streamReadCredit connHandle streamId bytes => exact hcommand _ rfl
  | streamClose connHandle streamId errorCode => exact hcommand _ rfl
  | sendTrailers connHandle streamId headers => exact hcommand _ rfl
  | closeSession connHandle errorCode reason => exact hcommand _ rfl
  | pingSession connHandle => exact hcommand _ rfl
  | shutdown => exact hcommand _ rfl

/-- Responses wait only for streams whose response-headers command was dispatched. -/
def ResponsesAnswered (s : H3Server Q) (answered : List (ℕ × ℕ)) : Prop :=
  ∀ key, (s.pendingResponses.lookup key).isSome →
    ∃ uid, s.uidAt key.1.toNat = some uid ∧ (uid, key.2) ∈ answered

theorem ResponsesAnswered.keepsPending {s s' : H3Server Q} {answered : List (ℕ × ℕ)}
    (h : ResponsesAnswered s answered) (hkeeps : s.KeepsPending s') :
    ResponsesAnswered s' answered := by
  intro key hkey
  obtain ⟨uid, huid, hmem⟩ := h key (hkeeps.responses key hkey)
  refine ⟨uid, ?_, hmem⟩
  rw [hkeeps.uid key (.inr hkey) (by rw [huid]; rfl), huid]

variable [Quiche Q]

theorem pendingResponses_sendBodyChunk (s : H3Server Q) (connHandle : UInt32) (streamId : ℕ)
    (c : H3Connection Q) (chunk : Bytes) (fin : Bool) :
    (s.sendBodyChunk connHandle streamId c chunk fin).pendingResponses = s.pendingResponses := by
  unfold H3Server.sendBodyChunk
  rcases c.sendBodyArcbuf streamId chunk fin with ⟨e | outcome, d⟩
  · simp [H3Server.emitH3SendErrorAndReset, H3Server.setConn, H3Server.emit]
  · dsimp only
    cases outcome.remainder <;>
      simp [H3Server.insertPendingWrite, H3Server.setConn, H3Server.emit]

omit [Quiche Q] in
theorem responses_insert {s : H3Server Q} {connHandle : UInt32} {streamId : ℕ}
    {c : H3Connection Q} {response : PendingResponse} {key : StreamKey}
    (hc : s.conn? connHandle = some c)
    (h : ((s.pendingResponses.insert (connHandle, streamId) response).lookup key).isSome) :
    (s.pendingResponses.lookup key).isSome ∨
      ∃ uid, s.uidAt key.1.toNat = some uid ∧
        (uid, key.2) ∈ ((s.conn? connHandle).map fun conn => (conn.uid, streamId)).toList := by
  by_cases hkey : key = (connHandle, streamId)
  · refine .inr ⟨c.uid, ?_, ?_⟩
    · rw [hkey]
      exact H3Server.uidAt_of_get hc
    · rw [hc, hkey]
      exact List.mem_singleton.2 rfl
  · rw [AList.lookup_insert_ne hkey] at h
    exact .inl h

/-- A response starts to wait only through a response-headers command for its stream. -/
theorem dispatchCommand_responses {now : ℕ} {cmd : WorkerCommand} {s : H3Server Q}
    {key : StreamKey} (h : ((s.dispatchCommand now cmd).2.pendingResponses.lookup key).isSome) :
    (s.pendingResponses.lookup key).isSome ∨
      ∃ uid, s.uidAt key.1.toNat = some uid ∧ (uid, key.2) ∈ answers s cmd := by
  by_cases hquiet : H3Server.IsQuiet cmd
  · rw [(H3Server.dispatchCommand_quiet now hquiet s).2.1] at h
    exact .inl h
  cases cmd with
  | sendResponseHeaders connHandle streamId headers fin =>
    simp only [H3Server.dispatchCommand, H3Server.dispatchSendResponseHeaders] at h
    split at h
    · exact .inl h
    · next c hc =>
      split at h
      · exact .inl h
      · split_ifs at h
        · exact responses_insert hc h
        · exact .inl h
  | sendResponse connHandle streamId headers body fin =>
    simp only [H3Server.dispatchCommand, H3Server.dispatchSendResponse] at h
    split at h
    · exact .inl (by simpa using h)
    · next c hc =>
      split at h
      · rw [pendingResponses_sendBodyChunk] at h
        exact .inl h
      · split_ifs at h
        · exact responses_insert hc h
        · exact .inl (by simpa [H3Server.emitH3SendErrorAndReset, H3Server.setConn,
            H3Server.emit] using h)
  | streamSend connHandle streamId chunk fin =>
    refine .inl ?_
    simp only [H3Server.dispatchCommand, H3Server.dispatchStreamSend] at h
    split at h
    · next response hr =>
      by_cases hkey : key = (connHandle, streamId)
      · rw [hkey, hr]
        rfl
      · rwa [H3Server.insertPendingResponse, AList.lookup_insert_ne hkey] at h
    · split at h
      · exact h
      · split at h
        · rwa [pendingResponses_sendBodyChunk] at h
        · simpa using h
  | streamClose connHandle streamId errorCode =>
    refine .inl ?_
    simp only [H3Server.dispatchCommand, H3Server.dispatchStreamClose] at h
    split at h
    · exact h
    · split_ifs at h <;> exact KeyMap.isSome_of_erase (by
        simpa [H3Server.emit, H3Server.removePending, H3Server.setConn] using h)
  | _ => exact absurd trivial hquiet

/-- At most one response-headers command is dispatched for a stream. -/
def OneResponse : Step → H3Worker Q → Prop
  | .dispatch _, w => ∀ next ∈ w.channel.head?, ∀ a ∈ answers w.server next.cmd, a ∉ w.answered
  | _, _ => True

instance (step : Step) (w : H3Worker Q) : Decidable (OneResponse step w) := by
  unfold OneResponse
  split <;> infer_instance

omit [Quiche Q] in
theorem firstResponse_of_answered {now : ℕ} {next : Queued}
    (h : ResponsesAnswered w.server w.answered) (hone : OneResponse (.dispatch now) w)
    (hnext : w.channel.head? = some next) : w.server.FirstResponse next.cmd := by
  have hfirst : ∀ connHandle streamId, answers w.server next.cmd =
      ((w.server.conn? connHandle).map fun conn => (conn.uid, streamId)).toList →
      (w.server.conn? connHandle).isSome →
      w.server.pendingResponses.lookup (connHandle, streamId) = none := by
    intro connHandle streamId hans hsome
    rw [← Option.not_isSome_iff_eq_none]
    intro hpending
    obtain ⟨uid, huid, hmem⟩ := h _ hpending
    obtain ⟨c, hc⟩ := Option.isSome_iff_exists.1 hsome
    have hcuid := H3Server.uidAt_of_get hc
    rw [huid] at hcuid
    refine hone next hnext (uid, streamId) ?_ hmem
    rw [hans, hc, Option.some.inj hcuid]
    exact List.mem_singleton.2 rfl
  cases hcmd : next.cmd with
  | sendResponseHeaders connHandle streamId headers fin =>
    exact hfirst connHandle streamId (by rw [hcmd]; rfl)
  | sendResponse connHandle streamId headers body fin =>
    exact hfirst connHandle streamId (by rw [hcmd]; rfl)
  | _ => trivial

theorem dispatchNext_answered {now : ℕ} (h : ResponsesAnswered w.server w.answered) :
    ResponsesAnswered (w.dispatchNext now).server (w.dispatchNext now).answered := by
  unfold dispatchNext
  cases w.channel with
  | nil => exact h
  | cons next channel =>
    intro key hkey
    rcases dispatchCommand_responses hkey with hold | ⟨uid, huid, hmem⟩
    · obtain ⟨uid, huid, hmem⟩ := h key hold
      refine ⟨uid, ?_, List.mem_append_right _ hmem⟩
      exact ((H3Server.dispatchCommand_course ..).1.uid _).trans huid
    · refine ⟨uid, ?_, List.mem_append_left _ hmem⟩
      exact ((H3Server.dispatchCommand_course ..).1.uid _).trans huid

theorem step_answered (step : Step) (h : ResponsesAnswered w.server w.answered) :
    ResponsesAnswered (H3Worker.step step w).server (H3Worker.step step w).answered := by
  cases step with
  | call channelOpen meant cmd reply =>
    obtain ⟨a, channel, -, hnapi⟩ := napi_spec channelOpen meant cmd reply w
    unfold H3Worker.step
    dsimp only
    rw [hnapi]
    exact h
  | dispatch now => exact dispatchNext_answered h
  | work op =>
    have hanswered : ResponsesAnswered w.server.startBatch w.answered := h
    have hop : ResponsesAnswered (op.apply w.server.startBatch) w.answered :=
      hanswered.keepsPending (H3Server.apply_keepsPending op _)
    exact hop

/-- And dispatching it hides no unit: a payload merged into a pending entry adds
its own units, a response does not replace a pending write. -/
def Even (step : Step) (w : H3Worker Q) : Prop :=
  OneResponse step w ∧
    match step with
    | .dispatch _ => ∀ next ∈ w.channel.head?, w.server.DispatchesEvenly next.cmd
    | _ => True

instance (step : Step) (w : H3Worker Q) : Decidable (Even step w) := by
  unfold Even
  split <;> infer_instance

/-- The invariant of the runs: even books, and responses only where one was asked for. -/
structure Books (w : H3Worker Q) : Prop where
  conserved : w.Conserved
  answered : ResponsesAnswered w.server w.answered

theorem dispatchNext_conserved {now : ℕ} (h : w.Books) (heven : Even (.dispatch now) w) :
    (w.dispatchNext now).Conserved := by
  unfold dispatchNext
  cases hch : w.channel with
  | nil => exact h.conserved
  | cons next channel =>
    have hnext : w.channel.head? = some next := by rw [hch]; rfl
    have hfirst : w.server.FirstResponse next.cmd :=
      firstResponse_of_answered h.answered heven.1 hnext
    have hconserved := h.conserved
    unfold Conserved channelUnits at hconserved
    rw [hch, List.map_cons, List.sum_cons, Nat.add_comm] at hconserved
    exact H3Server.dispatchCommand_balanced hconserved hfirst (heven.2 next hnext)

theorem step_books (step : Step) (h : w.Books) (heven : Even step w) :
    (H3Worker.step step w).Books := by
  refine ⟨?_, step_answered step h.answered⟩
  cases step with
  | call channelOpen meant cmd reply => exact napi_conserved h.conserved
  | dispatch now => exact dispatchNext_conserved h heven
  | work op =>
    have hbalanced : w.server.startBatch.Balanced (channelUnits w.channel) := h.conserved
    exact H3Server.apply_balanced op hbalanced

/-- In every run that dispatches evenly, the admission window holds exactly the
units of the channel and of the pending writes and responses. -/
theorem outboundAdmission_conserved {handleOffset maxConnections : UInt32} {disableRetry : Bool}
    {streamReadWindow : Option ℕ} {requireClientCert : Bool} {w : H3Worker Q}
    (h : Runs.Reach step Even
      (init handleOffset maxConnections disableRetry streamReadWindow requireClientCert) w) :
    w.server.outboundAdmission.queued =
        channelUnits w.channel + KeyMap.total PendingWrite.queuedUnits w.server.pendingWrites +
          KeyMap.total PendingResponse.queuedUnits w.server.pendingResponses ∧
      (w.channel = [] → w.server.pendingWrites = ∅ → w.server.pendingResponses = ∅ →
        w.server.outboundAdmission.queued = 0) := by
  have hstart : (init handleOffset maxConnections disableRetry streamReadWindow
      requireClientCert : H3Worker Q).Books := by
    constructor
    · exact Eq.refl 0
    · intro key hkey
      cases hkey
  have hbooks := h.invariant hstart fun i w hw hok => step_books i hw hok
  have hconserved := hbooks.conserved
  unfold Conserved H3Server.Balanced H3Server.owed at hconserved
  refine ⟨by omega, ?_⟩
  intro hch hw hr
  rw [hch, hw, hr] at hconserved
  exact hconserved

/-- A client connects and its flow control closes. -/
def blockedClient : List Step :=
  [.work (.packet false (Scripted.packet .initial [9] [0]) 0 0 [[7]]),
    .work (.packet false (Scripted.packet .other [9] [4, 0]) 0 0 [])]

/-- A body in two parts, queued and merged: the FIN comes with the last bytes. -/
def finWithBytes : List Step :=
  blockedClient ++ [.call true 0 (.streamSend 0 0 [1, 2, 3] false) none, .dispatch 0,
    .call true 0 (.streamSend 0 0 [4] true) none, .dispatch 0]

theorem outboundAdmission_conserved_finWithBytes :
    Runs.Admitted step Even finWithBytes (init 0 8 true none false : H3Worker Scripted) ∧
      (Runs.run step finWithBytes
        (init 0 8 true none false : H3Worker Scripted)).server.outboundAdmission.queued =
      channelUnits (Runs.run step finWithBytes
          (init 0 8 true none false : H3Worker Scripted)).channel +
        KeyMap.total PendingWrite.queuedUnits (Runs.run step finWithBytes
          (init 0 8 true none false : H3Worker Scripted)).server.pendingWrites +
        KeyMap.total PendingResponse.queuedUnits (Runs.run step finWithBytes
          (init 0 8 true none false : H3Worker Scripted)).server.pendingResponses :=
  ⟨by decide +kernel,
    (outboundAdmission_conserved (Runs.Reach.start.run (by decide +kernel))).1⟩

/-- The same body with the FIN on its own, and the window open again at the end. -/
def bareFin : List Step :=
  blockedClient ++ [.call true 0 (.streamSend 0 0 [1, 2, 3] false) none, .dispatch 0,
    .call true 0 (.streamSend 0 0 [] true) none, .dispatch 0,
    .work (.packet false (Scripted.packet .other [9] [4, 100]) 0 0 []),
    .work .flushAllPendingWrites]

/-- Everything is sent and nothing waits, but one unit stays charged. -/
theorem outboundAdmission_leaks_bareFin : ∃ w : H3Worker Scripted,
    Runs.Reach step OneResponse (init 0 8 true none false) w ∧ w.channel = [] ∧
      w.server.owed = 0 ∧ w.server.outboundAdmission.queued = 1 :=
  ⟨Runs.run step bareFin (init 0 8 true none false),
    Runs.Reach.start.run (by decide +kernel), by decide +kernel, by decide +kernel,
    by decide +kernel⟩

end H3Worker

end Http3
