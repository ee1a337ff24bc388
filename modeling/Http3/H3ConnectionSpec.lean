import Http3.H3PollSteps

/-! What polling and sending do to an HTTP/3 connection: which events appear,
what is recorded as sent, and how a send outcome fits its payload. -/

namespace Http3

variable {Q : Type} [Quiche Q]

/-- Changes to the transport state that reading from it can make. -/
inductive Polled : Q → Q → Prop
  | refl (q : Q) : Polled q q
  | h3Poll {q q' : Q} : Polled q q' → Polled q (Quiche.h3Poll q').2
  | h3RecvBody {q q' : Q} (streamId len : ℕ) : Polled q q' →
      Polled q (Quiche.h3RecvBody q' streamId len).2
  | dgramRecv {q q' : Q} : Polled q q' → Polled q (Quiche.dgramRecv q').2
  | streamWritableNext {q q' : Q} : Polled q q' → Polled q (Quiche.streamWritableNext q').2

theorem Polled.trans {a b c : Q} (hab : Polled a b) (hbc : Polled b c) : Polled a c := by
  induction hbc with
  | refl => exact hab
  | h3Poll _ ih => exact ih.h3Poll
  | h3RecvBody streamId len _ ih => exact ih.h3RecvBody streamId len
  | dgramRecv _ ih => exact ih.dgramRecv
  | streamWritableNext _ ih => exact ih.streamWritableNext

namespace H3Connection

/-- Polling reads from the transport of the same connection. -/
structure PolledConn (c c' : H3Connection Q) : Prop where
  uid : c'.uid = c.uid
  quiche : Polled c.quicheConn c'.quicheConn

namespace PolledConn

variable {c c' c'' : H3Connection Q}

theorem refl (c : H3Connection Q) : PolledConn c c := ⟨rfl, .refl _⟩

theorem trans (h : PolledConn c c') (h' : PolledConn c' c'') : PolledConn c c'' :=
  ⟨h'.uid.trans h.uid, h.quiche.trans h'.quiche⟩

theorem of_same (hu : c'.uid = c.uid) (hq : c'.quicheConn = c.quicheConn) : PolledConn c c' :=
  ⟨hu, hq ▸ .refl _⟩

end PolledConn

theorem clearStreamTracking_polled (c : H3Connection Q) (streamId : ℕ) :
    PolledConn c (c.clearStreamTracking streamId) := .of_same rfl rfl

theorem clearStreamTrackingIfClosed_polled (c : H3Connection Q) (streamId : ℕ) :
    PolledConn c (c.clearStreamTrackingIfClosed streamId) := by
  unfold clearStreamTrackingIfClosed
  split_ifs
  · exact c.clearStreamTracking_polled streamId
  · exact .refl c

theorem foldl_polled {f : H3Connection Q → ℕ → H3Connection Q}
    (hf : ∀ c id, PolledConn c (f c id)) (ids : List ℕ) (c : H3Connection Q) :
    PolledConn c (ids.foldl f c) :=
  List.foldlRecOn ids f (.refl c) fun _ h id _ => h.trans (hf _ id)

section Poll

variable {ref : ConnRef} {connHandle : UInt32}

/-- The two effects of polling, kept together. -/
structure PollSpec (ref : ConnRef) (connHandle : UInt32) (c c' : H3Connection Q)
    (events events' : List Emitted) : Prop where
  conn : PolledConn c c'
  events : Grows (Polls ref connHandle) events events'

theorem PollSpec.trans {c c' c'' : H3Connection Q} {e e' e'' : List Emitted}
    (h : PollSpec ref connHandle c c' e e') (h' : PollSpec ref connHandle c' c'' e' e'') :
    PollSpec ref connHandle c c'' e e'' :=
  ⟨h.conn.trans h'.conn, h.events.trans h'.events⟩

theorem PollSpec.of_conn {c c' : H3Connection Q} (e : List Emitted) (h : PolledConn c c') :
    PollSpec ref connHandle c c' e e := ⟨h, .refl⟩

/-- Reading for the application leaves the blocked streams alone, and drains none. -/
structure ReadSpec (ref : ConnRef) (connHandle : UInt32) (c c' : H3Connection Q)
    (before after : List Emitted) : Prop extends PollSpec ref connHandle c c' before after where
  blocked : c'.blocked = c.blocked
  drains : drainsIn after = drainsIn before

abbrev PollingSpec (ref : ConnRef) (connHandle : UInt32) (st st' : Polling Q) : Prop :=
  ReadSpec ref connHandle st.conn st'.conn st.events st'.events

section Reads

variable {c c' c'' : H3Connection Q} {e e' e'' : List Emitted} {st st' : Polling Q}

theorem ReadSpec.of_conn (h : PolledConn c c') (hblocked : c'.blocked = c.blocked) :
    ReadSpec ref connHandle c c' e e := ⟨.of_conn e h, hblocked, rfl⟩

theorem ReadSpec.refl : ReadSpec ref connHandle c c e e := .of_conn (.refl c) rfl

theorem ReadSpec.trans (h : ReadSpec ref connHandle c c' e e')
    (h' : ReadSpec ref connHandle c' c'' e' e'') : ReadSpec ref connHandle c c'' e e'' :=
  ⟨h.toPollSpec.trans h'.toPollSpec, h'.blocked.trans h.blocked, h'.drains.trans h.drains⟩

theorem ReadSpec.pushFor (h : ReadSpec ref connHandle c c' e e') {event : JsH3Event}
    (hh : event.connHandle = connHandle) (ht : event.eventType.isPolled = true)
    (hdrain : event.eventType ≠ .drain) :
    ReadSpec ref connHandle c c' e (pushFor ref event e') :=
  ⟨⟨h.conn, h.events.pushFor ⟨rfl, hh, ht⟩⟩, h.blocked, (drainsIn_pushFor hdrain).trans h.drains⟩

theorem PollingSpec.pushPendingBody (h : PollingSpec ref connHandle st st') (streamId : ℕ) :
    PollingSpec ref connHandle st (pushPendingBody ref connHandle streamId st') := by
  refine h.trans ?_
  obtain ⟨_, heq | ⟨data, remaining, heq⟩⟩ := pushPendingBody_cases ref connHandle streamId st'
  · rw [heq]
    exact .of_conn (.of_same rfl rfl) rfl
  · rw [heq]
    exact ⟨⟨.of_same rfl rfl, Grows.refl.pushCoalescing ⟨rfl, rfl, rfl⟩⟩, rfl,
      drainsIn_pushCoalescing (by simp [JsH3Event.ofData])⟩

end Reads

theorem fillBody_reads (streamId credit fuel : ℕ) (c : H3Connection Q) (events : List Emitted) :
    ReadSpec ref connHandle c (fillBody streamId credit fuel c).2 events events := by
  induction fuel generalizing c with
  | zero => exact .refl
  | succ fuel ih =>
    unfold fillBody
    dsimp only
    split_ifs with hfull
    · exact .of_conn (.of_same rfl rfl) rfl
    · have hq := (Polled.refl c.quicheConn).h3RecvBody streamId
        (((c.pendingBodyData.lookup streamId).getD ⟨[], min h3RecvChunk credit⟩).capacity -
          ((c.pendingBodyData.lookup streamId).getD ⟨[], min h3RecvChunk credit⟩).data.length)
      split
      · next bytes q heq =>
        rw [heq] at hq
        split_ifs
        · exact .of_conn ⟨rfl, hq⟩ rfl
        · refine ReadSpec.trans ?_ (ih _)
          exact .of_conn ⟨rfl, hq⟩ rfl
      · next q heq =>
        rw [heq] at hq
        exact .of_conn ⟨rfl, hq⟩ rfl
      · next e q _ heq =>
        rw [heq] at hq
        exact .of_conn ⟨rfl, hq⟩ rfl

theorem reportFilled_reads (streamId : ℕ) (st : Polling Q) :
    PollingSpec ref connHandle st (reportFilled ref connHandle streamId st) := by
  have hfilled : PollingSpec ref connHandle st (filled streamId st) := by
    refine (fillBody_reads streamId (st.conn.creditOf streamId) (Quiche.rounds st.conn.quicheConn)
      st.conn st.events).trans ?_
    show ReadSpec ref connHandle _ ((fill streamId st).2.dropEmptyBody streamId) _ _
    unfold dropEmptyBody
    split_ifs
    · exact .of_conn (.of_same rfl rfl) rfl
    · exact .refl
  unfold reportFilled
  split_ifs
  · exact PollingSpec.pushPendingBody hfilled streamId
  · exact hfilled

theorem dataStep_reads (streamId : ℕ) (st : Polling Q) :
    PollingSpec ref connHandle st (dataStep ref connHandle streamId st).1 := by
  have hreported : PollingSpec ref connHandle st (reportFilled ref connHandle streamId st) :=
    reportFilled_reads streamId st
  unfold dataStep
  split_ifs
  · exact .of_conn (.of_same rfl rfl) rfl
  · split
    · have hbody := PollingSpec.pushPendingBody hreported streamId
      unfold reportError
      dsimp only
      split_ifs
      · exact hbody.pushFor rfl rfl (by simp [JsH3Event.error])
      · exact hbody
    · exact hreported

theorem dataLoop_reads (streamId fuel : ℕ) (st : Polling Q) :
    PollingSpec ref connHandle st (dataLoop ref connHandle streamId fuel st) := by
  have hkeeps : ∀ st', PollingSpec ref connHandle st st' →
      PollingSpec ref connHandle st (dataStep ref connHandle streamId st').1 :=
    fun st' h => h.trans (dataStep_reads streamId st')
  rw [dataLoop_eq]
  exact Loop.run_keeps hkeeps fuel .refl

theorem nextH3Event_reads (c : H3Connection Q) (events : List Emitted) :
    ReadSpec ref connHandle c c.nextH3Event.2 events events := by
  unfold nextH3Event
  split
  · exact .of_conn (.of_same rfl rfl) rfl
  · exact .of_conn ⟨rfl, (Polled.refl _).h3Poll⟩ rfl

theorem pollStep_reads (acc : PollAcc Q) :
    PollingSpec ref connHandle acc.poll (pollStep ref connHandle acc).1.poll := by
  unfold pollStep
  split_ifs
  · exact .refl
  · have hnext : PollingSpec ref connHandle acc.poll
      { acc.poll with conn := acc.poll.conn.nextH3Event.2 } := nextH3Event_reads _ _
    generalize acc.poll.conn.nextH3Event = answered at hnext ⊢
    obtain ⟨answer, conn⟩ := answered
    have hst : PollingSpec ref connHandle acc.poll { acc.poll with conn } := hnext
    have hbody := PollingSpec.pushPendingBody hst
    dsimp only
    split
    · next streamId list moreFrames =>
      have hnoted : ∀ (c : H3Connection Q) (e : List Emitted),
          ReadSpec ref connHandle c (c.noteHeaders streamId) e e :=
        fun _ _ => .of_conn (.of_same rfl rfl) rfl
      exact ((hbody streamId).trans (hnoted _ _)).pushFor rfl rfl (by simp [JsH3Event.ofHeaders])
    · next streamId => exact hst.trans (dataLoop_reads streamId _ _)
    · next streamId =>
      have hclear : PollingSpec ref connHandle acc.poll { acc.poll with conn := { conn with
          readCredit := conn.readCredit.erase streamId
          pendingReadable := conn.pendingReadable.filter (· ≠ streamId) } } :=
        hst.trans (.of_conn (.of_same rfl rfl) rfl)
      exact (PollingSpec.pushPendingBody hclear streamId).pushFor rfl rfl
        (by simp [JsH3Event.finished])
    · next streamId errorCode => exact (hbody streamId).pushFor rfl rfl (by simp [JsH3Event.reset])
    · exact hst
    · exact hst.pushFor rfl rfl (by simp [JsH3Event.goaway])
    · exact hst
    · exact hst.pushFor rfl rfl (by simp [JsH3Event.error])

theorem polled_reads (budget : ℕ) (c : H3Connection Q) (events : List Emitted) :
    ReadSpec ref connHandle c (polled ref connHandle budget c events).poll.conn events
      (polled ref connHandle budget c events).poll.events := by
  have hkeeps : ∀ acc : PollAcc Q,
      ReadSpec ref connHandle c acc.poll.conn events acc.poll.events →
      ReadSpec ref connHandle c (pollStep ref connHandle acc).1.poll.conn events
        (pollStep ref connHandle acc).1.poll.events := fun acc h => h.trans (pollStep_reads acc)
  unfold polled
  dsimp only
  split_ifs
  · rw [pollLoop_eq]
    exact Loop.run_keeps hkeeps _ .refl
  · exact .refl

theorem pollDatagramEvents_reads (remaining : ℕ) (c : H3Connection Q) (events : List Emitted) :
    ReadSpec ref connHandle c (pollDatagramEvents ref connHandle remaining c events).1 events
      (pollDatagramEvents ref connHandle remaining c events).2 := by
  obtain ⟨_, h⟩ := pollDatagrams_induction ref connHandle (q := c.quicheConn) (P := fun _ q after =>
    ReadSpec ref connHandle c { c with quicheConn := q } events after)
    (fun _ _ _ h => h.trans (.of_conn ⟨rfl, (Polled.refl _).dgramRecv⟩ rfl))
    (fun _ _ _ _ h => h.pushFor rfl rfl (by simp [JsH3Event.datagram])) remaining .refl
  exact h

theorem readEvents_reads (budget : ℕ) (c : H3Connection Q) (events : List Emitted) :
    ReadSpec ref connHandle (polled ref connHandle budget c events).cleared
      (readEvents ref connHandle budget c events).1
        (polled ref connHandle budget c events).poll.events
      (readEvents ref connHandle budget c events).2 := by
  unfold readEvents
  dsimp only
  split_ifs
  · exact pollDatagramEvents_reads _ _ _
  · exact .refl

theorem pollWritable_spec (fuel : ℕ) (c : H3Connection Q) (events : List Emitted) :
    PollSpec ref connHandle c (pollWritable ref connHandle fuel c events).1 events
      (pollWritable ref connHandle fuel c events).2 := by
  induction fuel generalizing c events with
  | zero => exact .of_conn _ (.refl c)
  | succ fuel ih =>
    unfold pollWritable
    have hq := (Polled.refl c.quicheConn).streamWritableNext
    split
    · next q heq =>
      rw [heq] at hq
      exact .of_conn _ ⟨rfl, hq⟩
    · next streamId q heq =>
      rw [heq] at hq
      dsimp only
      split
      · refine PollSpec.trans ?_ (ih _ _)
        exact ⟨⟨rfl, hq⟩, Grows.refl.pushFor ⟨rfl, rfl, rfl⟩⟩
      · split_ifs
        · refine PollSpec.trans ?_ (ih _ _)
          exact ⟨⟨rfl, hq⟩, Grows.refl.pushFor ⟨rfl, rfl, rfl⟩⟩
        · refine PollSpec.trans ?_ (ih _ _)
          exact .of_conn _ ⟨rfl, hq⟩

theorem pollDrainEvents_spec (c : H3Connection Q) (events : List Emitted) :
    PollSpec ref connHandle c (pollDrainEvents ref connHandle c events).1 events
      (pollDrainEvents ref connHandle c events).2 := by
  have hprune : PolledConn c c.pruneClosedBlockedStreams :=
    foldl_polled clearStreamTracking_polled _ c
  refine (PollSpec.trans (.of_conn events hprune) (pollWritable_spec
    (Quiche.rounds c.pruneClosedBlockedStreams.quicheConn) _ events)).trans ?_
  exact ⟨.of_same rfl rfl, BlockedStreams.probe_grows _ _ _ _ _ _⟩

/-- Polling reports application events of this connection only, and sends nothing. -/
theorem pollH3Events_spec (appEventBudget : ℕ) (c : H3Connection Q) (events : List Emitted) :
    PollSpec ref connHandle c (pollH3Events ref connHandle appEventBudget c events).1 events
      (pollH3Events ref connHandle appEventBudget c events).2 := by
  have hcleared : PolledConn (polled ref connHandle appEventBudget c events).poll.conn
      (polled ref connHandle appEventBudget c events).cleared :=
    (foldl_polled clearStreamTracking_polled _ _).trans
      (foldl_polled clearStreamTrackingIfClosed_polled _ _)
  rw [pollH3Events_eq]
  refine PollSpec.trans ?_ (pollDrainEvents_spec _ _)
  exact ((polled_reads appEventBudget c events).toPollSpec.trans (.of_conn _ hcleared)).trans
    (readEvents_reads appEventBudget c events).toPollSpec

end Poll

section Send

variable (c : H3Connection Q) (streamId : ℕ)

/-- The outcomes of a body send, with what quiche accepted in each. -/
theorem sendBodyArcbuf_cases (buf : Bytes) (fin : Bool) :
    (∃ e c', c.sendBodyArcbuf streamId buf fin = (.error e, c') ∧ c'.sent = c.sent) ∨
    (buf = [] ∧ fin = true ∧ streamId ∈ c.trailerFinStreams ∧
      c.sendBodyArcbuf streamId buf fin = (.ok ⟨0, true, none⟩, c)) ∨
    (∃ c' written, c.sendBodyArcbuf streamId buf fin = (.ok ⟨written, fin, none⟩, c') ∧
      buf.length ≤ written ∧
      c'.sent = c.sent ++ (bodyItems buf fin).map fun item => (streamId, item)) ∨
    (∃ c' written, c.sendBodyArcbuf streamId buf fin =
        (.ok ⟨written, false, some (buf.drop written)⟩, c') ∧
      (written < buf.length ∨ buf = [] ∧ fin = true ∧ written = 0) ∧
      c'.sent = c.sent ++ (bodyItems (buf.take written) false).map
        fun item => (streamId, item)) := by
  unfold sendBodyArcbuf
  by_cases hh : c.h3Conn = true
  swap
  · rw [if_pos (by simpa using hh)]
    exact .inl ⟨_, _, rfl, rfl⟩
  rw [if_neg (by simp [hh])]
  by_cases htr : buf.length = 0 ∧ fin = true ∧ streamId ∈ c.trailerFinStreams
  · rw [if_pos htr]
    exact .inr (.inl ⟨List.length_eq_zero_iff.1 htr.1, htr.2.1, htr.2.2, rfl⟩)
  rw [if_neg htr]
  by_cases hnop : buf.length = 0 ∧ (!fin) = true
  · rw [if_pos hnop]
    obtain rfl : fin = false := by simpa using hnop.2
    obtain rfl : buf = [] := List.length_eq_zero_iff.1 hnop.1
    exact .inr (.inr (.inl ⟨c, 0, rfl, by simp, by simp [bodyItems]⟩))
  rw [if_neg hnop]
  -- a refusal leaves the payload as it was
  have hrefused : 0 < buf.length ∨ buf = [] ∧ fin = true ∧ 0 = 0 := by
    by_cases h0 : buf.length = 0
    · exact .inr ⟨List.length_eq_zero_iff.1 h0, by simpa [h0] using hnop, rfl⟩
    · exact .inl (Nat.pos_of_ne_zero h0)
  dsimp only
  cases Quiche.streamCapacity c.quicheConn streamId with
  | error e => exact .inl ⟨_, _, rfl, rfl⟩
  | ok capacity =>
    dsimp only
    split_ifs with hcap
    · exact .inr (.inr (.inr ⟨_, 0, rfl, hrefused, by simp [block, bodyItems]⟩))
    · split
      · next written q _ =>
        split_ifs with hw
        · exact .inr (.inr (.inr ⟨_, written, rfl, .inl hw, rfl⟩))
        · exact .inr (.inr (.inl ⟨_, written, rfl, Nat.le_of_not_lt hw, rfl⟩))
      · exact .inr (.inr (.inr ⟨_, 0, rfl, hrefused, by simp [block, bodyItems]⟩))
      · exact .inl ⟨_, _, rfl, rfl⟩

theorem sendBodyArcbuf_fits {buf : Bytes} {fin : Bool} {o : SendOutcome} {c' : H3Connection Q}
    (h : c.sendBodyArcbuf streamId buf fin = (.ok o, c')) : o.Fits buf fin := by
  rcases c.sendBodyArcbuf_cases streamId buf fin with ⟨e, d, he, -⟩ | ⟨rfl, rfl, -, he⟩ |
    ⟨d, w, he, hw, -⟩ | ⟨d, w, he, hw, -⟩ <;> rw [he] at h <;>
    simp only [Prod.mk.injEq, Except.ok.injEq, reduceCtorEq, false_and] at h
  · obtain ⟨rfl, -⟩ := h
    exact ⟨rfl, by simp⟩
  · obtain ⟨rfl, -⟩ := h
    exact ⟨rfl, hw⟩
  · obtain ⟨rfl, -⟩ := h
    refine ⟨rfl, rfl, ?_⟩
    rcases hw with hw | ⟨hb, hf, -⟩
    · exact .inl hw
    · exact .inr ⟨hb, hf⟩

end Send

end H3Connection

end Http3
