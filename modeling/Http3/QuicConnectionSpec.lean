import Http3.QuicConnection

/-! What polling and sending do to a raw QUIC connection: which events appear,
and when there is nothing for the application. -/

namespace Http3

/-- Events that hand stream or datagram data to the application. -/
def EventType.isApp : EventType → Bool
  | .newStream | .data | .finished | .datagram => true
  | _ => false

theorem BlockedStreams.probe_appends (capacity : ℕ → Except QuicheError ℕ) (ref : ConnRef)
    (connHandle : UInt32) (n : ℕ) (b : BlockedStreams) (events : List Emitted) :
    Appends (fun e => Polls ref connHandle e ∧ e.event.eventType.isApp = false) events
      (probe capacity ref connHandle n b events).2 := by
  induction n generalizing b events with
  | zero => exact .refl events
  | succ n ih =>
    unfold probe
    split
    · exact .refl events
    · split
      · split_ifs
        · exact ((Appends.refl events).pushFor ⟨⟨rfl, rfl, rfl⟩, rfl⟩).trans (ih _ _)
        · exact ih _ _
      · exact ((Appends.refl events).pushFor ⟨⟨rfl, rfl, rfl⟩, rfl⟩).trans (ih _ _)

namespace QuicConnection

variable {Q : Type}

/-- The same connection, with the same handshake behind it. -/
structure Keeps (c c' : QuicConnection Q) : Prop where
  uid : c'.uid = c.uid
  handshake : c'.handshakeCompleteEmitted = c.handshakeCompleteEmitted

namespace Keeps

variable {c c' c'' : QuicConnection Q}

theorem refl (c : QuicConnection Q) : Keeps c c := ⟨rfl, rfl⟩

theorem trans (h : Keeps c c') (h' : Keeps c' c'') : Keeps c c'' :=
  ⟨h'.uid.trans h.uid, h'.handshake.trans h.handshake⟩

end Keeps

/-- Nothing was read from the connection either. -/
structure Sends (c c' : QuicConnection Q) : Prop extends Keeps c c' where
  pendingFin : c'.pendingFin = c.pendingFin

namespace Sends

variable {c c' c'' : QuicConnection Q}

theorem refl (c : QuicConnection Q) : Sends c c := ⟨.refl c, rfl⟩

theorem trans (h : Sends c c') (h' : Sends c' c'') : Sends c c'' :=
  ⟨h.toKeeps.trans h'.toKeeps, h'.pendingFin.trans h.pendingFin⟩

end Sends

variable [Quiche Q]

section Poll

variable {ref : ConnRef} {connHandle : UInt32}

/-- The parts that reading from a connection is made of. -/
inductive ReadPart (ref : ConnRef) (connHandle : UInt32) (st : Polling Q) : Polling Q → Prop
  | calls {q : Q} : Quiche.Call st.conn.quicheConn q →
      ReadPart ref connHandle st (st.mapConn ({ · with quicheConn := q }))
  | notes {c : QuicConnection Q} : Keeps st.conn c → c.blocked = st.conn.blocked →
      c.quicheConn = st.conn.quicheConn → ReadPart ref connHandle st { st with conn := c }
  | reports {event : JsH3Event} : 0 < st.remaining → event.connHandle = connHandle →
      event.eventType.isPolled = true → event.eventType ≠ .drain →
      ReadPart ref connHandle st (pushApp ref event st)

abbrev Reads (ref : ConnRef) (connHandle : UInt32) : Polling Q → Polling Q → Prop :=
  Relation.ReflTransGen (ReadPart ref connHandle)

namespace Reads

variable {st st' : Polling Q}

theorem call (h : Reads ref connHandle st st') {q : Q} (hcall : Quiche.Call st'.conn.quicheConn q) :
    Reads ref connHandle st (st'.mapConn ({ · with quicheConn := q })) := h.tail (.calls hcall)

theorem note (h : Reads ref connHandle st st') {f : QuicConnection Q → QuicConnection Q}
    (hkeeps : Keeps st'.conn (f st'.conn)) (hblocked : (f st'.conn).blocked = st'.conn.blocked)
    (hquiche : (f st'.conn).quicheConn = st'.conn.quicheConn) :
    Reads ref connHandle st (st'.mapConn f) :=
  h.tail (.notes hkeeps hblocked hquiche)

theorem finish (h : Reads ref connHandle st st') {f : QuicConnection Q → QuicConnection Q}
    (streamId : ℕ) (hkeeps : Keeps st'.conn (f st'.conn))
    (hblocked : (f st'.conn).blocked = st'.conn.blocked)
    (hquiche : (f st'.conn).quicheConn =
      Quiche.streamShutdown st'.conn.quicheConn streamId .read 0) :
    Reads ref connHandle st (st'.mapConn f) :=
  (h.call (.streamShutdown _ streamId .read 0)).tail
    (.notes ⟨hkeeps.uid, hkeeps.handshake⟩ hblocked hquiche)

theorem report (h : Reads ref connHandle st st') {event : JsH3Event} (hleft : 0 < st'.remaining)
    (hh : event.connHandle = connHandle) (ht : event.eventType.isPolled = true)
    (hdrain : event.eventType ≠ .drain) : Reads ref connHandle st (pushApp ref event st') :=
  h.tail (.reports hleft hh ht hdrain)

end Reads

theorem readLoop_reads (streamId fuel : ℕ) (st : Polling Q) :
    Reads ref connHandle st (readLoop ref connHandle streamId fuel st) := by
  induction fuel generalizing st with
  | zero => exact .refl
  | succ fuel ih =>
    have hcall := Quiche.Call.streamRecv st.conn.quicheConn streamId quicRecvChunk
    unfold readLoop
    split_ifs with hzero
    · exact .refl
    have hleft : 0 < st.remaining := by omega
    generalize Quiche.streamRecv st.conn.quicheConn streamId quicRecvChunk = r at hcall ⊢
    obtain ⟨e | ⟨data, fin⟩, q⟩ := r
    · have hread : Reads ref connHandle st (st.mapConn ({ · with quicheConn := q })) :=
        Reads.call .refl hcall
      cases e with
      | done =>
        dsimp only
        split_ifs
        · exact (hread.report hleft rfl rfl EventType.noConfusion).finish streamId
            ⟨rfl, rfl⟩ rfl rfl
        · exact hread.note ⟨rfl, rfl⟩ rfl rfl
      | _ => exact (hread.report hleft rfl rfl EventType.noConfusion).note ⟨rfl, rfl⟩ rfl rfl
    · have hdata : Reads ref connHandle st (if 0 < data.length then
          pushApp ref (.ofData connHandle streamId data fin)
            (st.mapConn ({ · with quicheConn := q }))
        else st.mapConn ({ · with quicheConn := q })) := by
        have hread : Reads ref connHandle st (st.mapConn ({ · with quicheConn := q })) :=
          Reads.call .refl hcall
        split_ifs
        · exact hread.report hleft rfl rfl EventType.noConfusion
        · exact hread
      dsimp only
      generalize (if 0 < data.length then pushApp ref (.ofData connHandle streamId data fin)
          (st.mapConn ({ · with quicheConn := q }))
        else st.mapConn ({ · with quicheConn := q })) = st' at hdata ⊢
      split_ifs with _ _ hmore
      · exact hdata.finish streamId ⟨rfl, rfl⟩ rfl rfl
      · exact (hdata.report hmore rfl rfl EventType.noConfusion).finish streamId ⟨rfl, rfl⟩ rfl rfl
      · exact hdata.note ⟨rfl, rfl⟩ rfl rfl
      · exact hdata
      · exact hdata.trans (ih _)

theorem openStream_reads (streamId : ℕ) {st : Polling Q} (hleft : 0 < st.remaining) :
    Reads ref connHandle st (openStream ref connHandle streamId st) := by
  have hcall := Quiche.Call.streamRecv st.conn.quicheConn streamId quicRecvChunk
  unfold openStream
  generalize Quiche.streamRecv st.conn.quicheConn streamId quicRecvChunk = r at hcall ⊢
  obtain ⟨e | ⟨data, fin⟩, q⟩ := r
  · have hread : Reads ref connHandle st (st.mapConn ({ · with quicheConn := q })) :=
      Reads.call .refl hcall
    have hopen : Reads ref connHandle st (pushApp ref (.newStream connHandle streamId)
        (st.mapConn ({ · with quicheConn := q }))) :=
      hread.report hleft rfl rfl EventType.noConfusion
    cases e with
    | done => exact hopen
    | _ =>
      dsimp only
      split_ifs with hzero
      · exact hopen.note ⟨rfl, rfl⟩ rfl rfl
      · exact (hopen.report (Nat.pos_of_ne_zero hzero) rfl rfl EventType.noConfusion).note
          ⟨rfl, rfl⟩ rfl rfl
  · have hread : Reads ref connHandle st (st.mapConn ({ · with quicheConn := q })) :=
      Reads.call .refl hcall
    have hopen : Reads ref connHandle st (pushApp ref
        (.newStreamWithData connHandle streamId data fin)
        (st.mapConn ({ · with quicheConn := q }))) :=
      hread.report hleft rfl rfl EventType.noConfusion
    dsimp only
    split_ifs
    · exact hopen.finish streamId ⟨rfl, rfl⟩ rfl rfl
    · exact hopen.trans (readLoop_reads streamId _ _)

theorem pollReadable_reads (ids : List ℕ) (st : Polling Q) :
    Reads ref connHandle st (pollReadable ref connHandle ids st) := by
  induction ids generalizing st with
  | nil => exact .refl
  | cons id ids ih =>
    unfold pollReadable
    split_ifs with hzero
    · exact .refl
    · have hknow : Reads ref connHandle st (st.mapConn (know · id)) :=
        Reads.note .refl ⟨rfl, rfl⟩ rfl rfl
      have hone : Reads ref connHandle st (pollStream ref connHandle id st) := by
        unfold pollStream
        dsimp only
        split_ifs
        · exact hknow.trans (readLoop_reads id _ _)
        · exact hknow.trans (openStream_reads id (Nat.pos_of_ne_zero hzero))
      exact hone.trans (ih _)

variable (ref connHandle)

theorem pollDatagramEvents_reads (left : ℕ) (c : QuicConnection Q) (events : List Emitted) :
    ∃ left', Reads ref connHandle ⟨c, left, events⟩
      ⟨(pollDatagramEvents ref connHandle left c events).1, left',
        (pollDatagramEvents ref connHandle left c events).2⟩ := by
  refine pollDatagrams_induction ref connHandle (P := fun left' q after => Reads ref connHandle
    ⟨c, left, events⟩ ⟨{ c with quicheConn := q }, left', after⟩) ?_ ?_ left .refl
  · exact fun _ q _ h => h.call (.dgramRecv q)
  · exact fun left' _ _ _ h => h.report (Nat.succ_pos left') rfl rfl EventType.noConfusion

/-- The part of a poll before blocked streams are probed. -/
def readEvents (appEventBudget : ℕ) (c : QuicConnection Q) (events : List Emitted) :
    QuicConnection Q × List Emitted :=
  if appEventBudget = 0 then (c, events)
  else
    let st := pollReadable ref connHandle (Quiche.readable c.quicheConn)
      ⟨c, appEventBudget, events⟩
    if 0 < st.remaining then pollDatagramEvents ref connHandle st.remaining st.conn st.events
    else (st.conn, st.events)

theorem pollQuicEvents_eq (budget : ℕ) (c : QuicConnection Q) (events : List Emitted) :
    c.pollQuicEvents ref connHandle budget events =
      (c.readEvents ref connHandle budget events).1.pollDrainEvents ref connHandle
        (c.readEvents ref connHandle budget events).2 := by
  unfold pollQuicEvents readEvents
  split_ifs <;> rfl

theorem readEvents_reads (budget : ℕ) (c : QuicConnection Q) (events : List Emitted) :
    ∃ left, Reads ref connHandle ⟨c, budget, events⟩
      ⟨(c.readEvents ref connHandle budget events).1, left,
        (c.readEvents ref connHandle budget events).2⟩ := by
  have hread : Reads ref connHandle ⟨c, budget, events⟩ _ :=
    pollReadable_reads (Quiche.readable c.quicheConn) ⟨c, budget, events⟩
  unfold readEvents
  split_ifs
  · exact ⟨budget, .refl⟩
  · dsimp only
    generalize pollReadable ref connHandle (Quiche.readable c.quicheConn) ⟨c, budget, events⟩ = st
      at hread ⊢
    split_ifs
    · obtain ⟨left, hrest⟩ := pollDatagramEvents_reads ref connHandle st.remaining st.conn st.events
      exact ⟨left, hread.trans hrest⟩
    · exact ⟨st.remaining, hread⟩

theorem sweepFinishedStreams_reads (budget : ℕ) (c : QuicConnection Q) (events : List Emitted) :
    ∃ left, Reads ref connHandle ⟨c, budget, events⟩
      ⟨(c.sweepFinishedStreams ref connHandle budget events).1, left,
        (c.sweepFinishedStreams ref connHandle budget events).2⟩ := by
  have hfold : ∀ (ids : List ℕ) (left : ℕ) (acc : QuicConnection Q × List Emitted),
      ids.length ≤ left → ∃ left', Reads ref connHandle ⟨acc.1, left, acc.2⟩
        ⟨(ids.foldl (sweepStream ref connHandle) acc).1, left',
          (ids.foldl (sweepStream ref connHandle) acc).2⟩ := by
    intro ids
    induction ids with
    | nil => exact fun left acc _ => ⟨left, .refl⟩
    | cons id ids ih =>
      intro left acc hlength
      obtain ⟨left, rfl⟩ := Nat.exists_eq_succ_of_ne_zero (Nat.ne_zero_of_lt hlength)
      have hone : ∃ left', ids.length ≤ left' ∧ Reads ref connHandle ⟨acc.1, left + 1, acc.2⟩
          ⟨(sweepStream ref connHandle acc id).1, left',
            (sweepStream ref connHandle acc id).2⟩ := by
        unfold sweepStream
        dsimp only
        split_ifs
        · refine ⟨left, Nat.le_of_succ_le_succ hlength, ?_⟩
          have hreport : Reads ref connHandle ⟨acc.1, left + 1, acc.2⟩
              (pushApp ref (.finished connHandle id) ⟨acc.1, left + 1, acc.2⟩) :=
            Reads.report .refl (Nat.succ_pos left) rfl rfl EventType.noConfusion
          exact hreport.finish (f := fun c => finishRead
            { c with pendingFin := c.pendingFin.filter (· ≠ id) } id) id ⟨rfl, rfl⟩ rfl rfl
        · exact ⟨left + 1, Nat.le_of_lt hlength, .single (.notes ⟨rfl, rfl⟩ rfl rfl)⟩
      obtain ⟨left₁, hleft₁, hreads⟩ := hone
      obtain ⟨left', hrest⟩ := ih left₁ (sweepStream ref connHandle acc id) hleft₁
      exact ⟨left', hreads.trans hrest⟩
  exact hfold _ budget (c, events) (List.length_take_le _ _)

variable {ref connHandle} in
theorem Reads.spec {st st' : Polling Q} (h : Reads ref connHandle st st') :
    Keeps st.conn st'.conn ∧ Appends (Polls ref connHandle) st.events st'.events := by
  induction h with
  | refl => exact ⟨.refl _, .refl _⟩
  | tail _ hpart ih =>
    cases hpart with
    | calls => exact ⟨ih.1.trans ⟨rfl, rfl⟩, ih.2⟩
    | notes hkeeps => exact ⟨ih.1.trans hkeeps, ih.2⟩
    | reports _ hh ht => exact ⟨ih.1, ih.2.pushFor ⟨rfl, hh, ht⟩⟩

theorem pollDrainEvents_spec (c : QuicConnection Q) (events : List Emitted) :
    Keeps c (pollDrainEvents ref connHandle c events).1 ∧
      Appends (fun e => Polls ref connHandle e ∧ e.event.eventType.isApp = false) events
        (pollDrainEvents ref connHandle c events).2 :=
  ⟨⟨rfl, rfl⟩, BlockedStreams.probe_appends _ _ _ _ _ _⟩

theorem pollQuicEvents_spec (budget : ℕ) (c : QuicConnection Q) (events : List Emitted) :
    Keeps c (pollQuicEvents ref connHandle budget c events).1 ∧
      Appends (Polls ref connHandle) events
        (pollQuicEvents ref connHandle budget c events).2 := by
  obtain ⟨_, hreads⟩ := readEvents_reads ref connHandle budget c events
  obtain ⟨hkeeps, happends⟩ := hreads.spec
  rw [pollQuicEvents_eq]
  obtain ⟨hkeeps', happends'⟩ := pollDrainEvents_spec ref connHandle
    (c.readEvents ref connHandle budget events).1 (c.readEvents ref connHandle budget events).2
  exact ⟨hkeeps.trans hkeeps', happends.trans (happends'.mono fun _ h => h.1)⟩

theorem sweepFinishedStreams_spec (budget : ℕ) (c : QuicConnection Q) (events : List Emitted) :
    Keeps c (sweepFinishedStreams ref connHandle budget c events).1 ∧
      Appends (Polls ref connHandle) events
        (sweepFinishedStreams ref connHandle budget c events).2 := by
  obtain ⟨_, hreads⟩ := sweepFinishedStreams_reads ref connHandle budget c events
  exact hreads.spec

theorem sweepFinishedStreams_of_nil {c : QuicConnection Q} (h : c.pendingFin = []) {budget : ℕ}
    {events : List Emitted} :
    sweepFinishedStreams ref connHandle budget c events = (c, events) := by
  simp [sweepFinishedStreams, h]

/-- Nothing for the application: no readable stream and no datagram. -/
def Mute (c : QuicConnection Q) : Prop :=
  Quiche.readable c.quicheConn = [] ∧ (Quiche.dgramRecv c.quicheConn).1.isOk = false

instance (c : QuicConnection Q) : Decidable c.Mute := inferInstanceAs (Decidable (_ ∧ _))

theorem pollQuicEvents_mute {budget : ℕ} {c : QuicConnection Q} (h : budget = 0 ∨ c.Mute)
    (events : List Emitted) :
    Sends c (pollQuicEvents ref connHandle budget c events).1 ∧
      Appends (fun e => Polls ref connHandle e ∧ e.event.eventType.isApp = false) events
        (pollQuicEvents ref connHandle budget c events).2 := by
  have hdrain : ∀ c : QuicConnection Q, Sends c (pollDrainEvents ref connHandle c events).1 ∧
      Appends (fun e => Polls ref connHandle e ∧ e.event.eventType.isApp = false) events
        (pollDrainEvents ref connHandle c events).2 :=
    fun c => ⟨⟨⟨rfl, rfl⟩, rfl⟩, (pollDrainEvents_spec ref connHandle c events).2⟩
  unfold QuicConnection.pollQuicEvents
  by_cases hb : budget = 0
  · rw [if_pos hb]
    exact hdrain c
  · rw [if_neg hb]
    obtain ⟨hreadable, hdgram⟩ := h.resolve_left hb
    have hnone : ∃ q, pollDatagramEvents ref connHandle budget c events =
        ({ c with quicheConn := q }, events) := by
      obtain ⟨q, -, heq⟩ := pollDatagrams_of_error ref connHandle hdgram budget events
      refine ⟨q, ?_⟩
      unfold pollDatagramEvents
      rw [heq]
    obtain ⟨q, hq⟩ := hnone
    rw [hreadable]
    dsimp only [pollReadable]
    rw [if_pos (Nat.pos_of_ne_zero hb), hq]
    obtain ⟨hkeeps, happends⟩ := hdrain { c with quicheConn := q }
    exact ⟨⟨⟨hkeeps.uid, hkeeps.handshake⟩, hkeeps.pendingFin⟩, happends⟩

end Poll

section Send

variable {c : QuicConnection Q}

theorem Sends.knowLocal {d : QuicConnection Q} (h : Sends c d) (streamId : ℕ) :
    Sends c (d.knowLocal streamId) := by
  unfold QuicConnection.knowLocal
  split_ifs
  · exact ⟨⟨h.uid, h.handshake⟩, h.pendingFin⟩
  · exact h

theorem streamSendZc_sends (streamId : ℕ) (buf : Bytes) (fin : Bool) :
    Sends c (c.streamSendZc streamId buf fin).2 := by
  unfold streamSendZc
  split
  · next written q _ =>
    dsimp only
    split_ifs
    · refine Sends.knowLocal ?_ streamId
      exact ⟨⟨rfl, rfl⟩, rfl⟩
    · refine Sends.knowLocal ?_ streamId
      exact ⟨⟨rfl, rfl⟩, rfl⟩
  · exact ⟨⟨rfl, rfl⟩, rfl⟩
  · exact ⟨⟨rfl, rfl⟩, rfl⟩

theorem streamSendArcbuf_sends (streamId : ℕ) (buf : Bytes) (fin : Bool) :
    Sends c (c.streamSendArcbuf streamId buf fin).2 := by
  unfold streamSendArcbuf
  split_ifs
  · exact .refl c
  · split
    · refine Sends.knowLocal ?_ streamId
      exact ⟨⟨rfl, rfl⟩, rfl⟩
    · exact ⟨⟨rfl, rfl⟩, rfl⟩
    · exact ⟨⟨rfl, rfl⟩, rfl⟩
  · split
    · exact .refl c
    · split_ifs
      · exact .refl c
      · exact streamSendZc_sends streamId buf fin
  · exact streamSendZc_sends streamId buf fin

theorem streamClose_sends (streamId errorCode : ℕ) : Sends c (c.streamClose streamId errorCode) :=
  ⟨⟨rfl, rfl⟩, rfl⟩

theorem queueDatagram_sends (data : Bytes) : Sends c (c.queueDatagram data).2 := by
  unfold queueDatagram
  split_ifs
  · exact .refl c
  · exact ⟨⟨rfl, rfl⟩, rfl⟩
  · split <;> exact ⟨⟨rfl, rfl⟩, rfl⟩

theorem drainOutboundDatagrams_sends : Sends c c.drainOutboundDatagrams := by
  have hloop : ∀ (queue : List Bytes) (c : QuicConnection Q),
      Sends c (drainOutboundDatagramsLoop queue c) := by
    intro queue
    induction queue with
    | nil => exact .refl
    | cons data rest ih =>
      intro c
      unfold drainOutboundDatagramsLoop
      split_ifs
      · exact .refl c
      · split
        · next q _ =>
          have hrest := ih { c with quicheConn := q, outboundDatagrams := rest }
          exact ⟨⟨hrest.uid, hrest.handshake⟩, hrest.pendingFin⟩
        · exact ⟨⟨rfl, rfl⟩, rfl⟩
  exact hloop _ c

theorem queuePing_sends (now : ℕ) : Sends c (c.queuePing now).2 := by
  unfold queuePing
  split_ifs
  · exact .refl c
  · split <;> exact ⟨⟨rfl, rfl⟩, rfl⟩

theorem send_sends : Sends c c.send.2 := by
  unfold send
  split <;> exact ⟨⟨rfl, rfl⟩, rfl⟩

theorem recv_sends (p : Packet) : Sends c (c.recv p).2 := by
  unfold recv
  split <;> exact ⟨⟨rfl, rfl⟩, rfl⟩

theorem flushPendingWriteWithProgress_sends (streamId : ℕ) (write : PendingWrite)
    (c : QuicConnection Q) :
    Sends c (flushPendingWriteWithProgress (streamSendArcbuf streamId) write c).conn := by
  refine flushLoop_conn (R := Sends) Sends.refl ?_ ?_
  · intro a b d hab hbd
    exact hab.trans hbd
  · intro buf fin c
    exact streamSendArcbuf_sends streamId buf fin

theorem sessionCloseEvent_kind (connHandle : UInt32) :
    (c.sessionCloseEvent connHandle).eventType = .sessionClose ∧
      (c.sessionCloseEvent connHandle).connHandle = connHandle := by
  unfold sessionCloseEvent
  split
  · exact ⟨rfl, rfl⟩
  · split_ifs <;> exact ⟨rfl, rfl⟩

end Send

end QuicConnection

end Http3
