import Http3.ClientProtocol
import Http3.QuicheCalls

/-! What a client handler tells about its session and about the worker, whatever happens on
its streams: it reports the close, and it wakes writers when it gives units back. -/

namespace Http3

/-- Events that are about the session or the worker, and not about a stream. -/
def EventType.isMark : EventType → Bool
  | .sessionClose | .writeReady | .shutdownComplete => true
  | _ => false

def marks (batch : List Emitted) : List Emitted := batch.filter fun e => e.event.eventType.isMark

@[simp] theorem marks_append (a b : List Emitted) : marks (a ++ b) = marks a ++ marks b :=
  List.filter_append ..

theorem marks_singleton {e : Emitted} (h : e.event.eventType.isMark = false) : marks [e] = [] := by
  simp [marks, h]

theorem marks_pushFor {ref : ConnRef} {event : JsH3Event} (h : event.eventType.isMark = false)
    (batch : List Emitted) : marks (pushFor ref event batch) = marks batch := by
  unfold pushFor
  rw [marks_append, marks_singleton h, List.append_nil]

theorem marks_foldl_pushFor {α : Type} {ref : ConnRef} {event : α → JsH3Event}
    (h : ∀ a, (event a).eventType.isMark = false) (as : List α) (batch : List Emitted) :
    marks (as.foldl (fun batch a => pushFor ref (event a) batch) batch) = marks batch := by
  induction as generalizing batch with
  | nil => rfl
  | cons a as ih => exact (ih _).trans (marks_pushFor (h a) batch)

theorem Grows.marks_eq {ref : ConnRef} {connHandle : UInt32} {a b : List Emitted}
    (h : Grows (Polls ref connHandle) a b) : marks b = marks a := by
  induction h with
  | refl => rfl
  | @push batch e _ he ih =>
    have hmark : e.event.eventType.isMark = false := by
      have hpolled := he.2.2
      generalize e.event.eventType = type at hpolled ⊢
      cases type <;> first | rfl | cases hpolled
    rw [marks_append, marks_singleton hmark, List.append_nil, ih]
  | @refill batch last data _ htype ih =>
    have hlast : ∀ d, marks [{ last with event := { last.event with data := d } }] = [] := by
      intro d
      apply marks_singleton
      show last.event.eventType.isMark = false
      rw [htype]
      rfl
    rw [marks_append, hlast data, ← ih, marks_append]
    exact congrArg (marks batch ++ ·) (hlast last.event.data).symm
  | @withdraw batch keep _ hkeep ih =>
    rw [← ih]
    unfold marks
    rw [List.filter_filter]
    apply List.filter_congr
    intro e he
    cases hk : keep e with
    | true => simp
    | false => simp [hkeep e he hk, EventType.isMark]

theorem Appends.grows {allowed : Emitted → Prop} {a b : List Emitted} (h : Appends allowed a b) :
    Grows allowed a b := by
  obtain ⟨added, rfl, hadded⟩ := h
  exact Grows.refl.append hadded

/-- What a handler has said in the current batch, with the window it gives units back to
and whether it has reported the close. -/
structure Voice where
  outboundAdmission : OutboundAdmission
  marks : List Emitted
  sessionClosedEmitted : Bool

namespace Voice

/-- Give units back and wake writers when the window reopens. -/
def release (v : Voice) (units : ℕ) : Voice where
  outboundAdmission := (v.outboundAdmission.release units).2
  marks := if (v.outboundAdmission.release units).1 then v.marks ++ [⟨none, .writeReady 0⟩]
    else v.marks
  sessionClosedEmitted := v.sessionClosedEmitted

/-- Releases, and the close once. -/
inductive Tells : Voice → Voice → Prop
  | refl (v : Voice) : Tells v v
  | release {v v' : Voice} (units : ℕ) : Tells v v' → Tells v (v'.release units)
  | close {v v' : Voice} (ref : ConnRef) {event : JsH3Event} : Tells v v' →
      v'.sessionClosedEmitted = false → event.eventType = .sessionClose →
      Tells v ⟨v'.outboundAdmission, v'.marks ++ [⟨some ref, event⟩], true⟩

namespace Tells

variable {a b c : Voice}

theorem trans (hab : Tells a b) (hbc : Tells b c) : Tells a c := by
  induction hbc with
  | refl => exact hab
  | release units _ ih => exact ih.release units
  | close ref _ hopen hkind ih => exact ih.close ref hopen hkind

theorem emitted_mono (h : Tells a b) (ha : a.sessionClosedEmitted = true) :
    b.sessionClosedEmitted = true := by
  induction h with
  | refl => exact ha
  | release units _ ih => exact ih
  | close => rfl

end Tells

end Voice

def closes (batch : List Emitted) : ℕ :=
  batch.countP fun e => e.event.eventType = .sessionClose

@[simp] theorem closes_append (a b : List Emitted) : closes (a ++ b) = closes a + closes b :=
  List.countP_append

theorem closes_marks (batch : List Emitted) : closes (marks batch) = closes batch := by
  unfold closes marks
  rw [List.countP_filter]
  apply List.countP_congr
  intro e _
  simp only [decide_eq_true_eq, Bool.and_eq_true, and_iff_left_iff_imp]
  intro he
  rw [he]
  rfl

theorem Voice.Tells.closes_eq {a b : Voice} (h : a.Tells b) :
    closes b.marks + a.sessionClosedEmitted.toNat =
      closes a.marks + b.sessionClosedEmitted.toNat := by
  induction h with
  | refl => rfl
  | @release v units _ ih =>
    have hsame : closes (v.release units).marks = closes v.marks := by
      unfold Voice.release
      dsimp only
      split_ifs
      · rw [closes_append]
        rfl
      · rfl
    rw [hsame]
    exact ih
  | @close v ref event _ hopen hkind ih =>
    have hone : closes [⟨some ref, event⟩] = 1 := by simp [closes, hkind]
    rw [closes_append, hone]
    rw [hopen] at ih
    simp only [Bool.toNat_false, Nat.add_zero, Bool.toNat_true] at ih ⊢
    omega

namespace ClientHandler

variable {C : Type}

def voice (h : ClientHandler C) : Voice :=
  ⟨h.outboundAdmission, marks h.batch, h.sessionClosedEmitted⟩

/-- What a handler does between inputs: it acts on its connection and tells something. -/
structure Works (acts : C → C → Prop) (h h' : ClientHandler C) : Prop where
  conn : Relation.ReflTransGen acts h.conn h'.conn
  tells : h.voice.Tells h'.voice

namespace Works

variable {acts : C → C → Prop} {h h' h'' : ClientHandler C}

theorem refl (h : ClientHandler C) : Works acts h h := ⟨.refl, .refl _⟩

theorem trans (hab : Works acts h h') (hbc : Works acts h' h'') : Works acts h h'' :=
  ⟨hab.conn.trans hbc.conn, hab.tells.trans hbc.tells⟩

theorem quiet (hconn : acts h.conn h'.conn) (hvoice : h'.voice = h.voice) : Works acts h h' :=
  ⟨.single hconn, hvoice ▸ .refl _⟩

theorem still (hconn : h'.conn = h.conn) (hvoice : h'.voice = h.voice) : Works acts h h' :=
  ⟨hconn ▸ .refl, hvoice ▸ .refl _⟩

theorem isClosed {isClosed : C → Bool} (hwork : Works acts h h')
    (hcalm : ∀ c c', acts c c' → isClosed c' = true → isClosed c = true)
    (hclosed : isClosed h'.conn = true) : isClosed h.conn = true := by
  have hconn := hwork.conn
  generalize h'.conn = c' at hconn hclosed
  induction hconn with
  | refl => exact hclosed
  | tail _ hact ih => exact ih (hcalm _ _ hact hclosed)

end Works

section Parts

variable {acts : C → C → Prop} (h : ClientHandler C)

theorem voice_emit {event : JsH3Event} (hmark : event.eventType.isMark = false) (ref : ConnRef) :
    (h.emit ref event).voice = h.voice := by
  unfold emit voice
  dsimp only
  rw [marks_pushFor hmark]

theorem voice_releaseOutboundAdmission (units : ℕ) :
    (h.releaseOutboundAdmission units).voice = h.voice.release units := by
  unfold releaseOutboundAdmission voice Voice.release
  dsimp only
  split_ifs
  · unfold pushWorker
    rw [marks_append]
    rfl
  · rfl

@[simp] theorem conn_releaseOutboundAdmission (units : ℕ) :
    (h.releaseOutboundAdmission units).conn = h.conn := by
  unfold releaseOutboundAdmission
  dsimp only
  split_ifs <;> rfl

@[simp] theorem emitted_releaseOutboundAdmission (units : ℕ) :
    (h.releaseOutboundAdmission units).sessionClosedEmitted = h.sessionClosedEmitted := by
  unfold releaseOutboundAdmission
  dsimp only
  split_ifs <;> rfl

theorem releaseOutboundAdmission_works (units : ℕ) :
    Works acts h (h.releaseOutboundAdmission units) := by
  constructor
  · rw [conn_releaseOutboundAdmission]
  · rw [voice_releaseOutboundAdmission]
    exact (Voice.Tells.refl _).release units

theorem suppressPendingDrains_works (connHandle : UInt32) :
    Works acts h (h.suppressPendingDrains connHandle) := by
  have hmarks : marks (h.suppressPendingDrains connHandle).batch = marks h.batch := by
    have hgrows : Grows (Polls ⟨0, 0⟩ connHandle) h.batch h.batch := .refl
    refine (hgrows.withdraw ?_).marks_eq
    intro e _ hdropped
    simp only [ne_eq, Bool.or_eq_false_iff, decide_eq_false_iff_not, not_not] at hdropped
    exact hdropped.1.1
  refine Works.still rfl ?_
  unfold voice
  rw [hmarks]
  rfl

theorem Works.polled {h : ClientHandler C} {ref : ConnRef} {connHandle : UInt32} {conn : C}
    {batch : List Emitted} (hacts : acts h.conn conn)
    (hgrows : Grows (Polls ref connHandle) h.batch batch) :
    Works acts h { h with conn, batch } := by
  refine Works.quiet hacts ?_
  unfold voice
  dsimp only
  rw [hgrows.marks_eq]

theorem reportPingAcks_works (ref : ConnRef) (connHandle : UInt32) {answer : List ℕ × C}
    (hacts : acts h.conn answer.2) : Works acts h (h.reportPingAcks ref connHandle answer) := by
  refine Works.quiet hacts ?_
  unfold voice reportPingAcks
  dsimp only
  rw [marks_foldl_pushFor (fun _ => rfl)]

theorem reportSessionTicket_works (ref : ConnRef) (connHandle : UInt32) {answer : Option Bytes × C}
    (hacts : acts h.conn answer.2) :
    Works acts h (h.reportSessionTicket ref connHandle answer) := by
  obtain ⟨_ | ticket, conn⟩ := answer
  · exact .quiet hacts rfl
  · exact .quiet hacts (voice_emit (h.setConn conn) rfl ref)

theorem emitClose_works (ref : ConnRef) {event : JsH3Event}
    (hkind : event.eventType = .sessionClose) (hopen : h.sessionClosedEmitted = false) :
    Works acts h { h.emit ref event with sessionClosedEmitted := true } := by
  have hmarked : marks [⟨some ref, event⟩] = [⟨some ref, event⟩] := by
    simp [marks, hkind, EventType.isMark]
  constructor
  · exact .refl
  · have htells := (Voice.Tells.refl h.voice).close ref hopen hkind
    show h.voice.Tells ⟨h.outboundAdmission, marks (h.batch ++ [⟨some ref, event⟩]), true⟩
    rw [marks_append, hmarked]
    exact htells

theorem emitSessionClose_works {closeEvent : C → UInt32 → JsH3Event} (ref : ConnRef)
    (connHandle : UInt32)
    (hkind : ∀ c connHandle, (closeEvent c connHandle).eventType = .sessionClose) :
    Works acts h (h.emitSessionClose closeEvent ref connHandle) := by
  unfold emitSessionClose
  by_cases hemitted : h.sessionClosedEmitted = true
  · rw [if_pos hemitted]
    exact .refl h
  · rw [if_neg hemitted]
    -- abandoned streams are reset without a mark
    have hreset : Works acts h { h with
        batch := h.pendingWrites.keys.foldl (fun batch streamId =>
          pushFor ref (.reset connHandle streamId 0) batch) h.batch
        pendingWrites := ∅ } := by
      refine Works.still rfl ?_
      unfold voice
      dsimp only
      rw [marks_foldl_pushFor (fun _ => rfl)]
    have hreleased := hreset.trans (releaseOutboundAdmission_works _
      (KeyMap.total PendingWrite.queuedUnits h.pendingWrites))
    refine hreleased.trans (emitClose_works _ ref (hkind _ connHandle) ?_)
    rw [emitted_releaseOutboundAdmission]
    exact Bool.eq_false_iff.2 hemitted

theorem emitted_emitSessionClose (closeEvent : C → UInt32 → JsH3Event) (ref : ConnRef)
    (connHandle : UInt32) :
    (h.emitSessionClose closeEvent ref connHandle).sessionClosedEmitted = true := by
  unfold emitSessionClose
  split_ifs with hemitted
  · exact hemitted
  · rfl

section Sending

variable {send : ℕ → Bytes → Bool → C → Except Http3NativeError SendOutcome × C}
  (hsend : ∀ streamId buf fin c, acts c (send streamId buf fin c).2) (ref : ConnRef)
  (connHandle : UInt32)

include hsend

theorem queueStreamSend_works (streamId : ℕ) (chunk : Bytes) (fin : Bool) :
    Works acts h (h.queueStreamSend send ref connHandle streamId chunk fin).2 := by
  have hacts := hsend streamId chunk fin h.conn
  unfold queueStreamSend
  cases h.pendingWrites.lookup streamId with
  | some write => exact .still rfl rfl
  | none =>
    dsimp only
    generalize send streamId chunk fin h.conn = r at hacts ⊢
    obtain ⟨e | outcome, conn⟩ := r
    · exact .quiet hacts (voice_emit (h.setConn conn) rfl ref)
    · dsimp only
      cases outcome.remainder with
      | none => exact .quiet hacts rfl
      | some remainder => exact .quiet hacts (voice_emit _ rfl ref)

theorem flushLoop_acts (streamId : ℕ) (write : PendingWrite) (conn : C) :
    Relation.ReflTransGen acts conn
      (flushPendingWriteWithProgress (send streamId) write conn).conn := by
  refine flushLoop_conn (R := Relation.ReflTransGen acts) (fun _ => .refl) ?_ ?_
  · intro a b c hab hbc
    exact hab.trans hbc
  · intro buf fin c
    exact .single (hsend streamId buf fin c)

theorem WriteFlush.step_acts (gone : C → ℕ → Bool) (acc : WriteFlush C) (streamId : ℕ) :
    Relation.ReflTransGen acts acc.conn (acc.step send gone streamId).conn := by
  unfold WriteFlush.step
  cases acc.pending.lookup streamId with
  | none => exact .refl
  | some write =>
    have hflush := flushLoop_acts hsend streamId write acc.conn
    dsimp only
    split_ifs
    · exact .refl
    · generalize flushPendingWriteWithProgress (send streamId) write acc.conn = r at hflush ⊢
      cases r.outcome with
      | error e => exact hflush
      | ok outcome =>
        dsimp only
        split_ifs <;> exact hflush

theorem flushPendingWrites_works (gone : C → ℕ → Bool) :
    Works acts h (h.flushPendingWrites send ref connHandle gone) := by
  have hloop : ∀ (keys : List ℕ) (acc : WriteFlush C), Relation.ReflTransGen acts acc.conn
      (keys.foldl (WriteFlush.step send gone) acc).conn := by
    intro keys
    induction keys with
    | nil => exact fun acc => .refl
    | cons key keys ih =>
      exact fun acc => (WriteFlush.step_acts hsend gone acc key).trans (ih _)
  have hdrains : ∀ (drained : List ℕ) (h : ClientHandler C), Works acts h
      (drained.foldl (fun h streamId => h.emit ref (.drain connHandle streamId)) h) := by
    intro drained
    induction drained with
    | nil => exact fun h => .refl h
    | cons streamId drained ih =>
      intro h
      have hone : Works acts h (h.emit ref (.drain connHandle streamId)) :=
        .still rfl (voice_emit h rfl ref)
      exact hone.trans (ih _)
  have hflushed : Works acts h { h with
      conn := (flushWrites send gone h.conn h.pendingWrites).conn
      pendingWrites := (flushWrites send gone h.conn h.pendingWrites).pending } :=
    ⟨hloop h.pendingWrites.keys ⟨h.conn, h.pendingWrites, [], 0⟩, .refl _⟩
  exact (hflushed.trans (releaseOutboundAdmission_works _ _)).trans (hdrains _ _)

end Sending

theorem sendLoop_acts {send : C → Option Bytes × C} (hsend : ∀ c, acts c (send c).2) (rounds : ℕ)
    (conn : C) : Relation.ReflTransGen acts conn (sendLoop send rounds conn).2 := by
  induction rounds generalizing conn with
  | zero => exact .refl
  | succ rounds ih =>
    have hacts := hsend conn
    unfold sendLoop
    generalize send conn = r at hacts ⊢
    obtain ⟨_ | packet, conn'⟩ := r
    · exact .single hacts
    · exact (Relation.ReflTransGen.single hacts).trans (ih conn')

end Parts

end ClientHandler

/-- What the workers rely on: between inputs a handler works as above, and it reports a
connection that its packet or its timer has closed. -/
class LawfulClientProtocol (C : Type) (Own : outParam Type) [ClientProtocol C Own] where
  /-- What is done to a connection without feeding it a packet, its timer or a close. -/
  acts : C → C → Prop
  trySend (c : C) : acts c (ClientProtocol.trySend c).2
  /-- What a command does to the connection before that: it brings up HTTP/3. -/
  starts : Own → C → C
  own (cmd : Own) (h : ClientHandler C) :
    (h.setConn (starts cmd h.conn)).Works acts (ClientProtocol.own cmd h)
  queueStreamSend (connHandle : UInt32) (streamId : ℕ) (chunk : Bytes) (fin : Bool)
    (h : ClientHandler C) :
    h.Works acts (ClientProtocol.queueStreamSend connHandle streamId chunk fin h).2
  closeStream (streamId errorCode : ℕ) (h : ClientHandler C) :
    h.Works acts (ClientProtocol.closeStream streamId errorCode h).2
  sendDatagram (data : Bytes) (h : ClientHandler C) :
    h.Works acts (ClientProtocol.sendDatagram data h).2
  ping (now : ℕ) (h : ClientHandler C) : h.Works acts (ClientProtocol.ping now h).2
  /-- A packet quiche refuses is not followed up. -/
  packet_refused (connHandle : UInt32) {p : Packet} (budget now : ℕ) {h : ClientHandler C} :
    (ClientProtocol.recv h.conn p).1 = false →
      ClientProtocol.processPacketForHandle connHandle p budget now h =
        h.setConn (ClientProtocol.recv h.conn p).2
  packet (connHandle : UInt32) {p : Packet} (budget now : ℕ) {h : ClientHandler C} :
    (ClientProtocol.recv h.conn p).1 = true →
      h.voice.Tells (ClientProtocol.processPacketForHandle connHandle p budget now h).voice ∧
      (ClientProtocol.isClosed
          (ClientProtocol.processPacketForHandle connHandle p budget now h).conn = true →
        (ClientProtocol.processPacketForHandle connHandle p budget now h).sessionClosedEmitted =
          true)
  timers_idle (connHandle : UInt32) {now : ℕ} (budget : ℕ) {h : ClientHandler C} :
    h.timerDeadline.any (· ≤ now) = false →
      ClientProtocol.processTimersForHandle connHandle now budget h = h
  timers (connHandle : UInt32) {now : ℕ} (budget : ℕ) {h : ClientHandler C} :
    h.timerDeadline.any (· ≤ now) = true →
      (h.setConn (ClientProtocol.onTimeout h.conn)).Works acts
        (ClientProtocol.processTimersForHandle connHandle now budget h) ∧
      (ClientProtocol.isClosed (ClientProtocol.onTimeout h.conn) = true →
        (ClientProtocol.processTimersForHandle connHandle now budget h).sessionClosedEmitted =
          true)
  pollAppEvents (connHandle : UInt32) (budget now : ℕ) (h : ClientHandler C) :
    h.Works acts (ClientProtocol.pollAppEventsForHandle connHandle budget now h)
  pollDrainEvents (connHandle : UInt32) (budget : ℕ) (h : ClientHandler C) :
    h.Works acts (ClientProtocol.pollDrainEventsForHandle connHandle budget h)
  flushPendingWrites (connHandle : UInt32) (h : ClientHandler C) :
    h.Works acts (ClientProtocol.flushPendingWritesForHandle connHandle h)

variable {Q : Type} [Quiche Q]

namespace H3Client

open ClientHandler

variable (connHandle : UInt32) (h : H3Client Q)

/-- A request brings up HTTP/3 when it can. -/
def starts : H3Own → H3Connection Q → H3Connection Q
  | .sendRequest _ _, c => establish c
  | .streamReadCredit _ _, c => c

theorem own_works (cmd : H3Own) :
    (h.setConn (starts cmd h.conn)).Works H3Connection.Acts (own cmd h) := by
  cases cmd with
  | sendRequest headers fin =>
    have hacts := (establish h.conn).sendRequest_acts headers fin
    unfold own sendRequest
    dsimp only [setConn]
    generalize (establish h.conn).sendRequest headers fin = r at hacts ⊢
    obtain ⟨_ | _, conn⟩ := r <;> exact .quiet hacts rfl
  | streamReadCredit streamId bytes =>
    exact .quiet (h.conn.addReadCredit_acts streamId bytes) rfl

theorem pollConn_works (budget now : ℕ) :
    h.Works H3Connection.Acts (pollConn connHandle budget now h) := by
  have hpoll : H3Connection.PollSpec (ref connHandle h) connHandle h.conn _ h.batch _ :=
    h.conn.pollH3Events_spec budget h.batch
  unfold pollConn
  generalize h.conn.pollH3Events (ref connHandle h) connHandle budget h.batch = r at hpoll ⊢
  obtain ⟨conn, batch⟩ := r
  have hpolled : h.Works H3Connection.Acts { h with conn, batch } :=
    .polled hpoll.conn.acts hpoll.events
  refine ((hpolled.trans (suppressPendingDrains_works _ connHandle)).trans
    (reportPingAcks_works _ _ connHandle ?_)).trans (reportSessionTicket_works _ _ connHandle ?_)
  · exact .refl _
  · exact H3Connection.updateSessionTicket_acts _

theorem noteHandshake_works : (h.setConn (establish h.conn)).Works H3Connection.Acts
    (noteHandshake connHandle h) := by
  unfold noteHandshake
  dsimp only
  split_ifs
  · exact .quiet (.refl _) (voice_emit _ rfl _)
  · exact .refl _

theorem emitSessionClose_works : h.Works H3Connection.Acts (emitSessionClose connHandle h) := by
  refine ClientHandler.emitSessionClose_works h _ connHandle ?_
  intro c connHandle
  unfold H3Connection.sessionCloseEvent
  split
  · rfl
  · split_ifs <;> rfl

theorem packet_reports {p : Packet} (budget now : ℕ) (hok : (h.conn.recv p).1 = true) :
    h.voice.Tells (processPacketForHandle connHandle p budget now h).voice ∧
      ((processPacketForHandle connHandle p budget now h).conn.isClosed = true →
        (processPacketForHandle connHandle p budget now h).sessionClosedEmitted = true) := by
  unfold processPacketForHandle
  generalize h.conn.recv p = r at hok ⊢
  obtain ⟨ok, conn⟩ := r
  obtain rfl : ok = true := hok
  dsimp only
  rw [if_neg (by simp)]
  have hpolled := (noteHandshake_works connHandle (h.setConn conn)).trans
    (pollConn_works connHandle _ budget now)
  have hfed : h.voice.Tells (refreshTimeoutDeadline now (pollConn connHandle budget now
      (noteHandshake connHandle (h.setConn conn)))).voice := hpolled.tells
  generalize refreshTimeoutDeadline now (pollConn connHandle budget now
    (noteHandshake connHandle (h.setConn conn))) = h₁ at hfed ⊢
  split_ifs with hclosed
  · exact ⟨hfed.trans (emitSessionClose_works connHandle h₁).tells, fun _ =>
      emitted_emitSessionClose h₁ _ _ _⟩
  · exact ⟨hfed, fun hc => absurd hc hclosed⟩

theorem timers_works {now : ℕ} (budget : ℕ) (hdue : h.timerDeadline.any (· ≤ now) = true) :
    (h.setConn h.conn.onTimeout).Works H3Connection.Acts
        (processTimersForHandle connHandle now budget h) ∧
      (h.conn.onTimeout.isClosed = true →
        (processTimersForHandle connHandle now budget h).sessionClosedEmitted = true) := by
  unfold processTimersForHandle
  rw [if_pos hdue]
  dsimp only
  have hconn : (h.setConn h.conn.onTimeout).conn = h.conn.onTimeout := rfl
  split_ifs with hclosed
  · exact ⟨emitSessionClose_works connHandle _, fun _ => emitted_emitSessionClose _ _ _ _⟩
  · refine ⟨(pollConn_works connHandle _ budget now).trans (.still rfl rfl), ?_⟩
    intro hc
    exact absurd hc hclosed

theorem newSession_eq {uid : ℕ} {scid : Bytes} {localAddr serverAddr : SocketAddr}
    {serverName : String} {ticket : Option Bytes} {now : ℕ} {a : OutboundAdmission} {h : H3Client Q}
    (hnew : ClientProtocol.newSession uid scid localAddr serverAddr serverName ticket now a =
      some h) :
    ∃ q, Quiche.connect serverName scid localAddr serverAddr = .ok q ∧
      h = enableReadCredit
        (.ofConn (.new uid (ticket.elim q (Quiche.setSession q)) scid) timeout now a) := by
  obtain ⟨h', hfrom, rfl⟩ := Option.map_eq_some_iff.1 hnew
  unfold fromScid at hfrom
  split at hfrom
  · cases hfrom
  · cases hfrom
    exact ⟨_, ‹_›, rfl⟩

instance : LawfulClientProtocol (H3Connection Q) H3Own where
  acts := H3Connection.Acts
  trySend c := c.send_acts
  starts := starts
  own cmd h := own_works h cmd
  queueStreamSend connHandle streamId chunk fin h :=
    queueStreamSend_works h (fun streamId buf fin c => c.sendBodyArcbuf_acts streamId buf fin)
      _ connHandle streamId chunk fin
  closeStream streamId errorCode h := .quiet (h.conn.streamClose_acts streamId errorCode) rfl
  sendDatagram data h := .quiet (h.conn.sendDatagramChunk_acts data) rfl
  ping now h := .quiet (h.conn.queuePing_acts now) rfl
  packet_refused := by
    intro connHandle p budget now h hrefused
    have hrecv : (h.conn.recv p).1 = false := hrefused
    show processPacketForHandle connHandle p budget now h = h.setConn (h.conn.recv p).2
    unfold processPacketForHandle
    generalize h.conn.recv p = r at hrecv ⊢
    obtain ⟨ok, conn⟩ := r
    obtain rfl : ok = false := hrecv
    rfl
  packet connHandle _ budget now h := packet_reports connHandle h budget now
  timers_idle := by
    intro connHandle now budget h hidle
    exact if_neg (by rw [hidle]; exact Bool.false_ne_true)
  timers connHandle _ budget h := timers_works connHandle h budget
  pollAppEvents := by
    intro connHandle budget now h
    show h.Works _ (pollAppEventsForHandle connHandle budget now h)
    unfold pollAppEventsForHandle
    split_ifs
    · exact .refl h
    · exact pollConn_works connHandle h budget now
  pollDrainEvents := by
    intro connHandle budget h
    show h.Works _ (pollDrainEventsForHandle connHandle h)
    unfold pollDrainEventsForHandle
    split_ifs
    · exact .refl h
    · have hpoll : H3Connection.PollSpec (ref connHandle h) connHandle h.conn _ h.batch _ :=
        h.conn.pollDrainEvents_spec h.batch
      exact (Works.polled hpoll.conn.acts hpoll.events).trans
        (suppressPendingDrains_works _ connHandle)
  flushPendingWrites connHandle h :=
    flushPendingWrites_works h (fun streamId buf fin c => c.sendBodyArcbuf_acts streamId buf fin)
      _ connHandle _

end H3Client

namespace QuicClient

open ClientHandler

variable (connHandle : UInt32) (h : QuicClient Q)

theorem openBidiStream_works : h.Works QuicConnection.Acts (openBidiStream h).2 := by
  have hacts := h.conn.reserveLocalBidiStream_acts h.nextBidiStreamId
  unfold openBidiStream
  dsimp only
  split_ifs
  · exact .refl h
  · generalize h.conn.reserveLocalBidiStream h.nextBidiStreamId = r at hacts ⊢
    obtain ⟨_ | _, conn⟩ := r <;> exact .quiet hacts rfl

theorem own_works (cmd : QuicOwn) : h.Works QuicConnection.Acts (own cmd h) := by
  cases cmd with
  | openStream =>
    refine (openBidiStream_works h).trans ?_
    exact .still rfl rfl

theorem pollConn_works (budget now : ℕ) :
    h.Works QuicConnection.Acts (pollConn connHandle budget now h) := by
  have hacts := h.conn.pollQuicEvents_acts (ref connHandle h) connHandle budget h.batch
  have hgrows := (h.conn.pollQuicEvents_spec (ref connHandle h) connHandle budget h.batch).2.grows
  exact (Works.polled hacts hgrows).trans
    (reportPingAcks_works _ _ connHandle (.refl _))

theorem sweepFinishedStreams_works (budget : ℕ) :
    h.Works QuicConnection.Acts (sweepFinishedStreams connHandle budget h) := by
  have hacts := h.conn.sweepFinishedStreams_acts (ref connHandle h) connHandle budget h.batch
  have hgrows :=
    (h.conn.sweepFinishedStreams_spec (ref connHandle h) connHandle budget h.batch).2.grows
  exact .polled hacts hgrows

theorem sweep_works (budget : ℕ) : h.Works QuicConnection.Acts
    (if 0 < budget then sweepFinishedStreams connHandle budget h else h) := by
  split_ifs
  · exact sweepFinishedStreams_works connHandle h budget
  · exact .refl h

theorem updateSessionTicket_works :
    h.Works QuicConnection.Acts (updateSessionTicket connHandle h) :=
  reportSessionTicket_works h _ connHandle h.conn.updateSessionTicket_acts

theorem noteHandshake_works : h.Works QuicConnection.Acts (noteHandshake connHandle h) := by
  have hestablished : h.Works QuicConnection.Acts
      (if Quiche.isEstablished h.conn.quicheConn && !h.conn.isEstablished then
        { h with conn := { h.conn with isEstablished := true } } else h) := by
    split_ifs
    · exact .quiet (.refl _) rfl
    · exact .refl h
  refine hestablished.trans ?_
  unfold noteHandshake
  dsimp only
  generalize (if Quiche.isEstablished h.conn.quicheConn && !h.conn.isEstablished then
    { h with conn := { h.conn with isEstablished := true } } else h) = h₁
  split_ifs
  · exact .quiet (.refl _) (voice_emit _ rfl _)
  · exact .refl h₁

theorem emitSessionClose_works : h.Works QuicConnection.Acts (emitSessionClose connHandle h) :=
  ClientHandler.emitSessionClose_works h _ connHandle fun _ connHandle =>
    (QuicConnection.sessionCloseEvent_kind connHandle).1

theorem packet_reports {p : Packet} (budget now : ℕ) (hok : (h.conn.recv p).1 = true) :
    h.voice.Tells (processPacketForHandle connHandle p budget now h).voice ∧
      ((processPacketForHandle connHandle p budget now h).conn.isClosed = true →
        (processPacketForHandle connHandle p budget now h).sessionClosedEmitted = true) := by
  unfold processPacketForHandle
  generalize h.conn.recv p = r at hok ⊢
  obtain ⟨ok, conn⟩ := r
  obtain rfl : ok = true := hok
  dsimp only
  rw [if_neg (by simp)]
  have hpolled := (noteHandshake_works connHandle (h.setConn conn)).trans
    (pollConn_works connHandle _ budget now)
  have hfed : h.voice.Tells (refreshTimeoutDeadline now (updateSessionTicket connHandle
      (pollConn connHandle budget now (noteHandshake connHandle (h.setConn conn))))).voice :=
    (hpolled.trans (updateSessionTicket_works connHandle _)).tells
  generalize refreshTimeoutDeadline now (updateSessionTicket connHandle
    (pollConn connHandle budget now (noteHandshake connHandle (h.setConn conn)))) = h₁ at hfed ⊢
  split_ifs with hclosed
  · exact ⟨hfed.trans (emitSessionClose_works connHandle h₁).tells, fun _ =>
      emitted_emitSessionClose h₁ _ _ _⟩
  · refine ⟨hfed, ?_⟩
    intro hc
    simpa [hc] using hclosed

theorem timers_works {now : ℕ} (budget : ℕ) (hdue : h.timerDeadline.any (· ≤ now) = true) :
    (h.setConn h.conn.onTimeout).Works QuicConnection.Acts
        (processTimersForHandle connHandle now budget h) ∧
      (h.conn.onTimeout.isClosed = true →
        (processTimersForHandle connHandle now budget h).sessionClosedEmitted = true) := by
  unfold processTimersForHandle
  rw [if_pos hdue]
  dsimp only
  by_cases hclosed : ((h.setConn h.conn.onTimeout).conn.isClosed &&
      !(h.setConn h.conn.onTimeout).sessionClosedEmitted) = true
  · rw [if_pos hclosed]
    exact ⟨emitSessionClose_works connHandle _, fun _ => emitted_emitSessionClose _ _ _ _⟩
  · rw [if_neg hclosed]
    have hswept := (pollConn_works connHandle (h.setConn h.conn.onTimeout) budget now).trans
      (sweep_works connHandle _ budget)
    have hworks : (h.setConn h.conn.onTimeout).Works QuicConnection.Acts
        (refreshTimeoutDeadline now (updateSessionTicket connHandle _)) :=
      (hswept.trans (updateSessionTicket_works connHandle _)).trans (.still rfl rfl)
    refine ⟨hworks, ?_⟩
    -- the close has been reported before, and polling does not take that back
    intro hc
    refine hworks.tells.emitted_mono ?_
    have hopen : (h.setConn h.conn.onTimeout).conn.isClosed = true := hc
    show (h.setConn h.conn.onTimeout).sessionClosedEmitted = true
    simpa [hopen] using hclosed

theorem newSession_eq {uid : ℕ} {scid : Bytes} {localAddr serverAddr : SocketAddr}
    {serverName : String} {ticket : Option Bytes} {now : ℕ} {a : OutboundAdmission}
    {h : QuicClient Q}
    (hnew : ClientProtocol.newSession uid scid localAddr serverAddr serverName ticket now a =
      some h) :
    ∃ q, Quiche.connect serverName scid localAddr serverAddr = .ok q ∧
      h = .ofConn (.new uid (ticket.elim q (Quiche.setSession q)) scid) timeout now a := by
  have hfrom : fromScid uid scid localAddr serverAddr serverName ticket now a = some h := hnew
  unfold fromScid at hfrom
  split at hfrom
  · cases hfrom
  · cases hfrom
    exact ⟨_, ‹_›, rfl⟩

instance : LawfulClientProtocol (QuicConnection Q) QuicOwn where
  acts := QuicConnection.Acts
  trySend c := c.drainOutboundDatagrams_acts.trans (QuicConnection.send_acts _)
  starts _ c := c
  own cmd h := own_works h cmd
  queueStreamSend connHandle streamId chunk fin h :=
    queueStreamSend_works h (fun streamId buf fin c => c.streamSendArcbuf_acts streamId buf fin)
      _ connHandle streamId chunk fin
  closeStream streamId errorCode h := .quiet (h.conn.streamClose_acts streamId errorCode) rfl
  sendDatagram data h := .quiet (h.conn.queueDatagram_acts data) rfl
  ping now h := .quiet (h.conn.queuePing_acts now) rfl
  packet_refused := by
    intro connHandle p budget now h hrefused
    have hrecv : (h.conn.recv p).1 = false := hrefused
    show processPacketForHandle connHandle p budget now h = h.setConn (h.conn.recv p).2
    unfold processPacketForHandle
    generalize h.conn.recv p = r at hrecv ⊢
    obtain ⟨ok, conn⟩ := r
    obtain rfl : ok = false := hrecv
    rfl
  packet connHandle _ budget now h := packet_reports connHandle h budget now
  timers_idle := by
    intro connHandle now budget h hidle
    exact if_neg (by rw [hidle]; exact Bool.false_ne_true)
  timers connHandle _ budget h := timers_works connHandle h budget
  pollAppEvents := by
    intro connHandle budget now h
    show h.Works _ (pollAppEventsForHandle connHandle budget now h)
    unfold pollAppEventsForHandle
    split_ifs
    · exact .refl h
    · exact (pollConn_works connHandle h budget now).trans (updateSessionTicket_works connHandle _)
  pollDrainEvents := by
    intro connHandle budget h
    refine (sweep_works connHandle h budget).trans ?_
    show Works _ _ (pollDrainEventsForHandle connHandle budget h)
    unfold pollDrainEventsForHandle
    dsimp only
    generalize (if 0 < budget then sweepFinishedStreams connHandle budget h else h) = h₁
    split_ifs
    · exact .refl h₁
    · exact .polled (.refl _) (BlockedStreams.probe_grows _ _ _ _ _ _)
  flushPendingWrites connHandle h :=
    flushPendingWrites_works h (fun streamId buf fin c => c.streamSendArcbuf_acts streamId buf fin)
      _ connHandle _

end QuicClient

end Http3
