import Http3.ClientVoice

/-! How many units a call on a client handler gives back: never more than the writes that wait
on it amount to. -/

namespace Http3

namespace ClientHandler

variable {C : Type}

def pendingUnits (h : ClientHandler C) : ℕ :=
  KeyMap.total PendingWrite.queuedUnits h.pendingWrites

/-- The window, and the writes that hold units of it. -/
def account (h : ClientHandler C) : OutboundAdmission × KeyMap ℕ PendingWrite :=
  (h.outboundAdmission, h.pendingWrites)

/-- What a call gives back, it gives back at once and for writes that waited before it. -/
def Returns (h h' : ClientHandler C) : Prop :=
  ∃ units ≤ h.pendingUnits, h'.outboundAdmission = (h.outboundAdmission.release units).2

section Returns

variable {h h₁ h' : ClientHandler C}

theorem Returns.still (hwindow : h'.outboundAdmission = h.outboundAdmission) : h.Returns h' :=
  ⟨0, Nat.zero_le _, hwindow⟩

theorem Returns.after (haccount : h₁.account = h.account) (hreturns : h₁.Returns h') :
    h.Returns h' := by
  obtain ⟨hwindow, hpending⟩ := Prod.mk.inj haccount
  unfold Returns pendingUnits at hreturns ⊢
  rw [hwindow, hpending] at hreturns
  exact hreturns

/-- A call that lowers the flag has given back no more than a removal of the session would. -/
theorem Returns.wakes (hreturns : h.Returns h') (hbefore : h.outboundAdmission.pressured = true)
    (hafter : h'.outboundAdmission.pressured = false) :
    (h.outboundAdmission.release h.pendingUnits).1 = true := by
  obtain ⟨units, hle, hwindow⟩ := hreturns
  rw [hwindow] at hafter
  have hwakes := (h.outboundAdmission.release_wakes_iff_lowers units).2 ⟨hbefore, hafter⟩
  exact OutboundAdmission.release_wakes_mono hle hwakes

end Returns

variable (h : ClientHandler C)

@[simp] theorem account_setConn (conn : C) : (h.setConn conn).account = h.account := rfl

@[simp] theorem account_emit (ref : ConnRef) (event : JsH3Event) :
    (h.emit ref event).account = h.account := rfl

@[simp] theorem account_reportSessionTicket (ref : ConnRef) (connHandle : UInt32)
    (answer : Option Bytes × C) : (h.reportSessionTicket ref connHandle answer).account =
      h.account := by
  obtain ⟨_ | ticket, conn⟩ := answer <;> rfl

theorem window_releaseOutboundAdmission (units : ℕ) :
    (h.releaseOutboundAdmission units).outboundAdmission =
      (h.outboundAdmission.release units).2 := by
  unfold releaseOutboundAdmission
  dsimp only
  split_ifs <;> rfl

theorem emitSessionClose_returns (closeEvent : C → UInt32 → JsH3Event) (ref : ConnRef)
    (connHandle : UInt32) : h.Returns (h.emitSessionClose closeEvent ref connHandle) := by
  unfold emitSessionClose
  split_ifs
  · exact .still rfl
  · exact ⟨h.pendingUnits, Nat.le_refl _, window_releaseOutboundAdmission _ _⟩

section Sending

variable {send : ℕ → Bytes → Bool → C → Except Http3NativeError SendOutcome × C} (ref : ConnRef)
  (connHandle : UInt32)

theorem window_queueStreamSend (streamId : ℕ) (chunk : Bytes) (fin : Bool) :
    (h.queueStreamSend send ref connHandle streamId chunk fin).2.outboundAdmission =
      h.outboundAdmission := by
  unfold queueStreamSend
  cases h.pendingWrites.lookup streamId with
  | some write => rfl
  | none =>
    dsimp only
    cases (send streamId chunk fin h.conn).1 with
    | error e => rfl
    | ok outcome =>
      dsimp only
      cases outcome.remainder <;> rfl

variable (hsend : ∀ streamId buf fin c o c', send streamId buf fin c = (.ok o, c') →
    o.Fits buf fin)

include hsend

/-- Every unit of a pending write is still owed or has been given back. -/
theorem WriteFlush.step_units (gone : C → ℕ → Bool) (acc : WriteFlush C) (streamId : ℕ) :
    KeyMap.total PendingWrite.queuedUnits (acc.step send gone streamId).pending +
        (acc.step send gone streamId).releasedUnits =
      KeyMap.total PendingWrite.queuedUnits acc.pending + acc.releasedUnits := by
  unfold WriteFlush.step
  cases hlookup : acc.pending.lookup streamId with
  | none => rfl
  | some write =>
    have herase := KeyMap.total_erase PendingWrite.queuedUnits streamId acc.pending
    rw [hlookup, KeyMap.weight_some] at herase
    dsimp only
    split_ifs
    · dsimp only [WriteFlush.drop]
      omega
    · cases houtcome : (flushPendingWriteWithProgress (send streamId) write acc.conn).outcome with
      | error e =>
        dsimp only [WriteFlush.drop]
        omega
      | ok outcome =>
        have hunits := flushPendingWriteWithProgress_units (hsend streamId) houtcome
        dsimp only
        split_ifs with hdone
        · rw [if_pos hdone] at hunits
          dsimp only
          omega
        · have hinsert := KeyMap.total_insert PendingWrite.queuedUnits streamId
            (flushPendingWriteWithProgress (send streamId) write acc.conn).write acc.pending
          rw [hlookup, KeyMap.weight_some] at hinsert
          rw [if_neg hdone] at hunits
          dsimp only
          omega

theorem flushPendingWrites_returns (gone : C → ℕ → Bool) :
    h.Returns (h.flushPendingWrites send ref connHandle gone) := by
  have hloop : ∀ (keys : List ℕ) (acc : WriteFlush C),
      KeyMap.total PendingWrite.queuedUnits (keys.foldl (WriteFlush.step send gone) acc).pending +
        (keys.foldl (WriteFlush.step send gone) acc).releasedUnits =
      KeyMap.total PendingWrite.queuedUnits acc.pending + acc.releasedUnits := by
    intro keys
    induction keys with
    | nil => exact fun acc => rfl
    | cons key keys ih => exact fun acc => (ih _).trans (WriteFlush.step_units hsend gone acc key)
  have hdrains : ∀ (drained : List ℕ) (h : ClientHandler C),
      (drained.foldl (fun h streamId => h.emit ref (.drain connHandle streamId)) h).account =
        h.account := by
    intro drained
    induction drained with
    | nil => exact fun h => rfl
    | cons streamId drained ih => exact fun h => ih _
  have hunits := hloop h.pendingWrites.keys ⟨h.conn, h.pendingWrites, [], 0⟩
  refine ⟨(flushWrites send gone h.conn h.pendingWrites).releasedUnits, ?_, ?_⟩
  · unfold flushWrites pendingUnits
    dsimp only at hunits
    omega
  · exact (congrArg Prod.fst (hdrains _ _)).trans (window_releaseOutboundAdmission _ _)

end Sending

end ClientHandler

/-- What the handlers do with the window. Payloads and polls leave it alone; packets, timers and
retried writes return units that waited. -/
class ReturnsUnits (C : Type) (Own : outParam Type) [ClientProtocol C Own] : Prop where
  queueStreamSend (connHandle : UInt32) (streamId : ℕ) (chunk : Bytes) (fin : Bool)
    (h : ClientHandler C) :
    (ClientProtocol.queueStreamSend connHandle streamId chunk fin h).2.outboundAdmission =
      h.outboundAdmission
  pollAppEvents (connHandle : UInt32) (budget now : ℕ) (h : ClientHandler C) :
    (ClientProtocol.pollAppEventsForHandle connHandle budget now h).outboundAdmission =
      h.outboundAdmission
  pollDrainEvents (connHandle : UInt32) (budget : ℕ) (h : ClientHandler C) :
    (ClientProtocol.pollDrainEventsForHandle connHandle budget h).outboundAdmission =
      h.outboundAdmission
  packet (connHandle : UInt32) (p : Packet) (budget now : ℕ) (h : ClientHandler C) :
    h.Returns (ClientProtocol.processPacketForHandle connHandle p budget now h)
  timers (connHandle : UInt32) (now budget : ℕ) (h : ClientHandler C) :
    h.Returns (ClientProtocol.processTimersForHandle connHandle now budget h)
  flushPendingWrites (connHandle : UInt32) (h : ClientHandler C) :
    h.Returns (ClientProtocol.flushPendingWritesForHandle connHandle h)

variable {Q : Type} [Quiche Q]

open ClientHandler

namespace H3Client

variable (connHandle : UInt32) (h : H3Client Q)

@[simp] theorem account_pollConn (budget now : ℕ) :
    (pollConn connHandle budget now h).account = h.account := by
  unfold pollConn
  rw [account_reportSessionTicket]
  rfl

@[simp] theorem account_noteHandshake : (noteHandshake connHandle h).account = h.account := by
  unfold noteHandshake
  dsimp only
  split_ifs <;> rfl

theorem packet_returns (p : Packet) (budget now : ℕ) :
    h.Returns (processPacketForHandle connHandle p budget now h) := by
  unfold processPacketForHandle
  generalize h.conn.recv p = r
  obtain ⟨ok, conn⟩ := r
  dsimp only
  have hpolled : (refreshTimeoutDeadline now (pollConn connHandle budget now
      (noteHandshake connHandle (h.setConn conn)))).account = h.account := by
    show (pollConn connHandle budget now (noteHandshake connHandle (h.setConn conn))).account = _
    simp
  split_ifs
  · exact .still rfl
  · exact .after hpolled (emitSessionClose_returns _ _ _ _)
  · exact .still (congrArg Prod.fst hpolled)

theorem timers_returns (now budget : ℕ) :
    h.Returns (processTimersForHandle connHandle now budget h) := by
  unfold processTimersForHandle
  dsimp only
  have hpolled := account_pollConn connHandle (h.setConn h.conn.onTimeout) budget now
  split_ifs
  · exact .after rfl (emitSessionClose_returns (h.setConn h.conn.onTimeout) _ _ _)
  · exact .still (congrArg Prod.fst hpolled)
  · exact .still rfl

instance : ReturnsUnits (H3Connection Q) H3Own where
  queueStreamSend _ streamId chunk fin h := window_queueStreamSend h _ _ streamId chunk fin
  pollAppEvents connHandle budget now h := by
    have hpolled := account_pollConn connHandle h budget now
    show (pollAppEventsForHandle connHandle budget now h).outboundAdmission = _
    unfold pollAppEventsForHandle
    split_ifs
    · rfl
    · exact congrArg Prod.fst hpolled
  pollDrainEvents connHandle _ h := by
    show (pollDrainEventsForHandle connHandle h).outboundAdmission = _
    unfold pollDrainEventsForHandle
    split_ifs <;> rfl
  packet connHandle p budget now h := packet_returns connHandle h p budget now
  timers connHandle now budget h := timers_returns connHandle h now budget
  flushPendingWrites connHandle h := flushPendingWrites_returns h _ connHandle
    (fun streamId _ _ c _ _ hsent => c.sendBodyArcbuf_fits streamId hsent) _

end H3Client

theorem QuicConnection.streamSendZc_fits {streamId : ℕ} {buf : Bytes} {fin : Bool}
    {c c' : QuicConnection Q} {o : SendOutcome} (hbuf : buf.length ≠ 0)
    (h : c.streamSendZc streamId buf fin = (.ok o, c')) : o.Fits buf fin := by
  unfold streamSendZc at h
  split at h
  · dsimp only at h
    split_ifs at h with hwritten
    · cases h
      exact ⟨rfl, rfl, .inl hwritten⟩
    · cases h
      exact ⟨rfl, Nat.le_of_not_lt hwritten⟩
  · cases h
    exact ⟨rfl, rfl, .inl (Nat.pos_of_ne_zero hbuf)⟩
  · cases h

theorem QuicConnection.streamSendArcbuf_fits {streamId : ℕ} {buf : Bytes} {fin : Bool}
    {c c' : QuicConnection Q} {o : SendOutcome}
    (h : c.streamSendArcbuf streamId buf fin = (.ok o, c')) : o.Fits buf fin := by
  unfold streamSendArcbuf at h
  by_cases hbuf : buf.length = 0
  · rw [if_pos hbuf] at h
    obtain rfl := List.length_eq_zero_iff.1 hbuf
    cases fin with
    | false =>
      cases h
      exact ⟨rfl, Nat.le_refl 0⟩
    | true =>
      rw [if_neg (by decide)] at h
      split at h
      · cases h
        exact ⟨rfl, Nat.zero_le _⟩
      · cases h
        exact ⟨rfl, rfl, .inr ⟨rfl, rfl⟩⟩
      · cases h
  · rw [if_neg hbuf] at h
    split_ifs at h with hblocked
    · split at h
      · cases h
      · split_ifs at h
        · cases h
          exact ⟨rfl, rfl, .inl (Nat.pos_of_ne_zero hbuf)⟩
        · exact streamSendZc_fits hbuf h
    · exact streamSendZc_fits hbuf h

namespace QuicClient

variable (connHandle : UInt32) (h : QuicClient Q)

@[simp] theorem account_updateSessionTicket :
    (updateSessionTicket connHandle h).account = h.account :=
  account_reportSessionTicket h _ connHandle _

@[simp] theorem account_noteHandshake : (noteHandshake connHandle h).account = h.account := by
  unfold noteHandshake
  dsimp only
  split_ifs <;> rfl

theorem packet_returns (p : Packet) (budget now : ℕ) :
    h.Returns (processPacketForHandle connHandle p budget now h) := by
  unfold processPacketForHandle
  generalize h.conn.recv p = r
  obtain ⟨ok, conn⟩ := r
  dsimp only
  have hnoted := account_noteHandshake connHandle (h.setConn conn)
  have hpolled : (refreshTimeoutDeadline now (updateSessionTicket connHandle (pollConn connHandle
      budget now (noteHandshake connHandle (h.setConn conn))))).account = h.account :=
    (account_updateSessionTicket connHandle _).trans hnoted
  split_ifs
  · exact .still rfl
  · exact .after hpolled (emitSessionClose_returns _ _ _ _)
  · exact .still (congrArg Prod.fst hpolled)

theorem timers_returns (now budget : ℕ) :
    h.Returns (processTimersForHandle connHandle now budget h) := by
  unfold processTimersForHandle
  dsimp only
  have hticket := fun h : QuicClient Q =>
    congrArg Prod.fst (account_updateSessionTicket connHandle h)
  split_ifs
  · exact .after rfl (emitSessionClose_returns (h.setConn h.conn.onTimeout) _ _ _)
  · exact .still (hticket _)
  · exact .still (hticket _)
  · exact .still rfl

instance : ReturnsUnits (QuicConnection Q) QuicOwn where
  queueStreamSend _ streamId chunk fin h := window_queueStreamSend h _ _ streamId chunk fin
  pollAppEvents connHandle budget now h := by
    have hticket := account_updateSessionTicket connHandle (pollConn connHandle budget now h)
    show (pollAppEventsForHandle connHandle budget now h).outboundAdmission = _
    unfold pollAppEventsForHandle
    split_ifs
    · rfl
    · exact congrArg Prod.fst hticket
  pollDrainEvents connHandle budget h := by
    show (pollDrainEventsForHandle connHandle budget h).outboundAdmission = _
    unfold pollDrainEventsForHandle
    dsimp only
    split_ifs <;> rfl
  packet connHandle p budget now h := packet_returns connHandle h p budget now
  timers connHandle now budget h := timers_returns connHandle h now budget
  flushPendingWrites connHandle h := flushPendingWrites_returns h _ connHandle
    (fun _ _ _ _ _ _ hsent => QuicConnection.streamSendArcbuf_fits hsent) _

end QuicClient

end Http3
