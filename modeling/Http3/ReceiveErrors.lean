import Http3.H3BodyRun
import Http3.StreamLife

/-! A read of a stream that fails is told to JavaScript as an ERROR event, once, and only
while the event budget of the poll lasts. Which failures get lost, and which do not. -/

namespace Http3

/-- The ERROR event a failed read of a stream calls for. -/
def Answer.report (connHandle : UInt32) : Answer → Option JsH3Event
  | .streamRecv streamId (.error e) =>
    if e = .done then none else some (.error connHandle streamId 0 e.display)
  | .h3RecvBody streamId (.error e) =>
    if e = .done then none else some (.error connHandle streamId 0 e.display)
  | _ => none

def errorsIn (events : List Emitted) : List JsH3Event :=
  (events.map Emitted.event).filter fun e => e.eventType == .error

/-- Every failed read has an ERROR event of its own, in the same order: among those `told`
before, or those in the batch. -/
def ErrorsTold (connHandle : UInt32) (told : List JsH3Event) (answers : List Answer)
    (batch : List Emitted) : Prop :=
  (answers.filterMap (Answer.report connHandle)).Sublist (told ++ errorsIn batch)

section Events

variable {connHandle : UInt32} {ref : ConnRef} {told : List JsH3Event} {events : List Emitted}
  {answers : List Answer}

theorem errorsIn_append (events events' : List Emitted) :
    errorsIn (events ++ events') = errorsIn events ++ errorsIn events' := by
  unfold errorsIn
  rw [List.map_append, List.filter_append]

variable {event : JsH3Event}

theorem errorsIn_pushFor_error (h : event.eventType = .error) :
    errorsIn (pushFor ref event events) = errorsIn events ++ [event] := by
  unfold pushFor
  rw [errorsIn_append]
  simp [errorsIn, h]

theorem errorsIn_pushFor_other (h : event.eventType ≠ .error) :
    errorsIn (pushFor ref event events) = errorsIn events := by
  unfold pushFor
  rw [errorsIn_append]
  simp [errorsIn, h]

theorem errorsIn_pushCoalescing (h : event.eventType = .data) :
    errorsIn (pushCoalescing ref event events).2 = errorsIn events := by
  rcases pushCoalescing_cases ref event events with heq | ⟨front, last, rfl, hcoalesces, heq⟩
  · rw [heq]
    exact errorsIn_pushFor_other (by simp [h])
  · rw [heq, errorsIn_append, errorsIn_append]
    simp [errorsIn, JsH3Event.eventType_of_coalesces hcoalesces]

theorem ErrorsTold.push (h : ErrorsTold connHandle told answers events) (event : JsH3Event) :
    ErrorsTold connHandle told answers (pushFor ref event events) := by
  unfold ErrorsTold pushFor
  rw [errorsIn_append, ← List.append_assoc]
  exact h.trans (List.sublist_append_left _ _)

theorem ErrorsTold.answer_error {answer : Answer} (h : ErrorsTold connHandle told answers events)
    (hreport : answer.report connHandle = some event) (herror : event.eventType = .error) :
    ErrorsTold connHandle told (answers ++ [answer]) (pushFor ref event events) := by
  unfold ErrorsTold
  rw [errorsIn_pushFor_error herror, List.filterMap_append, ← List.append_assoc]
  refine h.append ?_
  simp [hreport]

theorem ErrorsTold.answer_none {answer : Answer} (h : ErrorsTold connHandle told answers events)
    (hreport : answer.report connHandle = none) :
    ErrorsTold connHandle told (answers ++ [answer]) events := by
  have hsame : (answers ++ [answer]).filterMap (Answer.report connHandle) =
      answers.filterMap (Answer.report connHandle) := by simp [hreport]
  unfold ErrorsTold
  rw [hsame]
  exact h

end Events

namespace QuicConnection

variable {server : Bool} {Q : Type} [Quiche Q] (ref : ConnRef) (connHandle : UInt32)

/-- The stream is read for the first time with one event left, which its NEW_STREAM takes,
and the read fails. -/
def LosesError (streamId : ℕ) (st : Polling (Logged server Q)) : Prop :=
  st.remaining = 1 ∧ streamId ∉ st.conn.knownStreams ∧
    ((Answer.streamRecv streamId (Quiche.streamRecv st.conn.quicheConn streamId
      quicRecvChunk).1).report connHandle).isSome

instance (streamId : ℕ) (st : Polling (Logged server Q)) :
    Decidable (LosesError connHandle streamId st) := inferInstanceAs (Decidable (_ ∧ _ ∧ _))

/-- No stream loses an error when its turn comes. -/
def Spares : List ℕ → Polling (Logged server Q) → Prop
  | [], _ => True
  | streamId :: rest, st =>
    if st.remaining = 0 then True
    else ¬LosesError connHandle streamId st ∧ Spares rest (pollStream ref connHandle streamId st)

instance Spares.decidable : (ids : List ℕ) → (st : Polling (Logged server Q)) →
    Decidable (Spares ref connHandle ids st)
  | [], _ => .isTrue trivial
  | _ :: rest, _ => by
    have := Spares.decidable rest
    unfold Spares
    infer_instance

variable {ref connHandle} {told : List JsH3Event}

/-- A connection being polled has told of every failed read. -/
def Polling.ErrorsTold (connHandle : UInt32) (told : List JsH3Event)
    (st : Polling (Logged server Q)) : Prop :=
  Http3.ErrorsTold connHandle told st.conn.quicheConn.answers st.events

variable {st : Polling (Logged server Q)}

theorem readLoop_heard (streamId fuel : ℕ) (h : st.ErrorsTold connHandle told) :
    (readLoop ref connHandle streamId fuel st).ErrorsTold connHandle told := by
  induction fuel generalizing st with
  | zero => exact h
  | succ fuel ih =>
    unfold readLoop
    split_ifs
    · exact h
    · split
      · next data fin q hq =>
        have hread : (st.mapConn ({ · with quicheConn := q })).ErrorsTold connHandle told := by
          unfold Polling.ErrorsTold Polling.mapConn
          dsimp only
          rw [Logged.streamRecv_answers hq]
          exact ErrorsTold.answer_none h rfl
        have hdata : (if 0 < data.length then
            pushApp ref (.ofData connHandle streamId data fin)
              (st.mapConn ({ · with quicheConn := q }))
          else st.mapConn ({ · with quicheConn := q })).ErrorsTold connHandle told := by
          split_ifs
          · exact hread.push _
          · exact hread
        dsimp only
        generalize (if 0 < data.length then pushApp ref (.ofData connHandle streamId data fin)
            (st.mapConn ({ · with quicheConn := q }))
          else st.mapConn ({ · with quicheConn := q })) = st' at hdata ⊢
        split_ifs
        · exact hdata
        · exact hdata.push _
        · exact hdata
        · exact hdata
        · exact ih hdata
      · next q hq =>
        have hread : (st.mapConn ({ · with quicheConn := q })).ErrorsTold connHandle told := by
          unfold Polling.ErrorsTold Polling.mapConn
          dsimp only
          rw [Logged.streamRecv_answers hq]
          exact ErrorsTold.answer_none h rfl
        dsimp only
        split_ifs
        · exact hread.push _
        · exact hread
      · next e q he hq =>
        unfold Polling.ErrorsTold pushApp Polling.mapConn forget
        dsimp only
        rw [Logged.streamRecv_answers hq]
        exact ErrorsTold.answer_error h (if_neg he) rfl

theorem openStream_heard {streamId : ℕ} (h : st.ErrorsTold connHandle told)
    (hbudget : st.remaining ≠ 0)
    (hlose : st.remaining = 1 → ((Answer.streamRecv streamId (Quiche.streamRecv st.conn.quicheConn
      streamId quicRecvChunk).1).report connHandle).isSome = false) :
    (openStream ref connHandle streamId st).ErrorsTold connHandle told := by
  unfold openStream
  split
  · next data fin q hq =>
    have hopened : (pushApp ref (.newStreamWithData connHandle streamId data fin)
        (st.mapConn ({ · with quicheConn := q }))).ErrorsTold connHandle told := by
      unfold Polling.ErrorsTold pushApp Polling.mapConn
      dsimp only
      rw [Logged.streamRecv_answers hq]
      exact (ErrorsTold.answer_none h rfl).push _
    dsimp only
    split_ifs
    · exact hopened
    · exact readLoop_heard streamId _ hopened
  · next q hq =>
    unfold Polling.ErrorsTold pushApp Polling.mapConn
    dsimp only
    rw [Logged.streamRecv_answers hq]
    exact (ErrorsTold.answer_none h rfl).push _
  · next e q he hq =>
    have hreport : (Answer.streamRecv streamId (.error e)).report connHandle =
        some (.error connHandle streamId 0 e.display) := if_neg he
    dsimp only
    split_ifs with hlast
    · -- the NEW_STREAM took the last event of the budget
      have hone : st.remaining = 1 := by
        have hzero : st.remaining - 1 = 0 := hlast
        omega
      have hnone := hlose hone
      rw [hq, hreport] at hnone
      cases hnone
    · have hopened : ErrorsTold connHandle told st.conn.quicheConn.answers
          (pushFor ref (.newStream connHandle streamId) st.events) := ErrorsTold.push h _
      unfold Polling.ErrorsTold pushApp Polling.mapConn forget
      dsimp only
      rw [Logged.streamRecv_answers hq]
      exact ErrorsTold.answer_error hopened hreport rfl

theorem pollReadable_heard (ids : List ℕ) (h : st.ErrorsTold connHandle told)
    (hspares : Spares ref connHandle ids st) :
    (pollReadable ref connHandle ids st).ErrorsTold connHandle told := by
  induction ids generalizing st with
  | nil => exact h
  | cons id ids ih =>
    unfold pollReadable
    unfold Spares at hspares
    split_ifs with hbudget
    · exact h
    · rw [if_neg hbudget] at hspares
      obtain ⟨hlose, hrest⟩ := hspares
      refine ih ?_ hrest
      unfold pollStream
      dsimp only
      split_ifs with hmem
      · exact readLoop_heard id _ h
      · apply openStream_heard
        · exact h
        · exact hbudget
        · intro hone
          by_contra hsome
          exact hlose ⟨hone, hmem, Bool.of_not_eq_false hsome⟩

end QuicConnection

theorem pollDatagrams_heard {server : Bool} {Q : Type} [Quiche Q] {ref : ConnRef}
    {connHandle : UInt32} {told : List JsH3Event} (remaining : ℕ) {q : Logged server Q}
    {events : List Emitted} (h : ErrorsTold connHandle told q.answers events) :
    ErrorsTold connHandle told (pollDatagrams ref connHandle remaining q events).1.answers
      (pollDatagrams ref connHandle remaining q events).2 := by
  obtain ⟨_, hafter⟩ := pollDatagrams_induction ref connHandle
    (P := fun _ (q : Logged server Q) after => ErrorsTold connHandle told q.answers after)
    (fun _ _ _ h => h) (fun _ _ _ _ h => h.push _) remaining h
  exact hafter

theorem BlockedStreams.probe_heard {connHandle : UInt32} {told : List JsH3Event}
    {answers : List Answer} {ref : ConnRef}
    (capacity : ℕ → Except QuicheError ℕ) (n : ℕ) {b : BlockedStreams} {events : List Emitted}
    (h : ErrorsTold connHandle told answers events) :
    ErrorsTold connHandle told answers (b.probe capacity ref connHandle n events).2 := by
  induction n generalizing b events with
  | zero => exact h
  | succ n ih =>
    unfold probe
    split
    · exact h
    · split
      · split_ifs
        · exact ih (h.push _)
        · exact ih h
      · exact ih (h.push _)

namespace QuicConnection

variable {server : Bool} {Q : Type} [Quiche Q] {ref : ConnRef} {connHandle : UInt32}
  {told : List JsH3Event}

theorem pollQuicEvents_heard {budget : ℕ} {c : QuicConnection (Logged server Q)}
    {events : List Emitted} (h : ErrorsTold connHandle told c.quicheConn.answers events)
    (hspares : Spares ref connHandle (Quiche.readable c.quicheConn) ⟨c, budget, events⟩) :
    ErrorsTold connHandle told (c.pollQuicEvents ref connHandle budget events).1.quicheConn.answers
      (c.pollQuicEvents ref connHandle budget events).2 := by
  unfold pollQuicEvents
  split_ifs
  · exact BlockedStreams.probe_heard _ _ h
  · have hread : (pollReadable ref connHandle (Quiche.readable c.quicheConn)
        ⟨c, budget, events⟩).ErrorsTold connHandle told := pollReadable_heard _ h hspares
    dsimp only
    generalize pollReadable ref connHandle (Quiche.readable c.quicheConn) ⟨c, budget, events⟩ = st
      at hread ⊢
    apply BlockedStreams.probe_heard
    split_ifs
    · exact pollDatagrams_heard st.remaining hread
    · exact hread

end QuicConnection

namespace H3Connection

variable {server : Bool} {Q : Type} [Quiche Q] (ref : ConnRef) (connHandle : UInt32)

/-- Collected body bytes of a stream become an event of their own. -/
def reportsApart (streamId : ℕ) (st : Polling Q) : Bool :=
  (st.conn.pendingBodyData.lookup streamId).elim false fun pending =>
    !pending.data.isEmpty &&
      (pushCoalescing ref (.ofData connHandle streamId pending.data false) st.events).1

/-- With one event left, a read of a stream's body fails after bytes that take it. -/
def LosesError (streamId : ℕ) (st : Polling Q) : Prop :=
  st.remaining = 1 ∧ (fill streamId st).1.2.isSome ∧
    reportsApart ref connHandle streamId (filled streamId st) = true

instance (streamId : ℕ) (st : Polling Q) : Decidable (LosesError ref connHandle streamId st) :=
  inferInstanceAs (Decidable (_ ∧ _ ∧ _))

/-- No buffer of the stream whose turn it is loses an error. -/
def SparesStream (acc : PollAcc Q) : Prop :=
  match acc.poll.conn.nextH3Event with
  | (.ok (streamId, .data), conn) =>
    Loop.Meets (dataStep ref connHandle streamId) (fun st => ¬LosesError ref connHandle streamId st)
      (Quiche.rounds conn.quicheConn) { acc.poll with conn }
  | _ => True

instance (acc : PollAcc Q) : Decidable (SparesStream ref connHandle acc) := by
  unfold SparesStream
  split <;> infer_instance

def Spares (budget : ℕ) (c : H3Connection Q) (events : List Emitted) : Prop :=
  Loop.Meets (pollStep ref connHandle) (SparesStream ref connHandle)
    (Quiche.rounds c.quicheConn) ⟨⟨c, budget, events⟩, [], []⟩

instance (budget : ℕ) (c : H3Connection Q) (events : List Emitted) :
    Decidable (Spares ref connHandle budget c events) :=
  inferInstanceAs (Decidable (Loop.Meets _ _ _ _))

variable {ref connHandle} {told : List JsH3Event}

omit [Quiche Q] in
theorem pushPendingBody_remaining (streamId : ℕ) (st : Polling Q) :
    (pushPendingBody ref connHandle streamId st).remaining =
      if reportsApart ref connHandle streamId st then st.remaining - 1 else st.remaining := by
  unfold reportsApart
  cases hp : st.conn.pendingBodyData.lookup streamId with
  | none =>
    rw [pushPendingBody_of_none hp]
    rfl
  | some pending =>
    cases hempty : pending.data.isEmpty with
    | true =>
      rw [pushPendingBody_of_empty hp hempty]
      simp [hempty]
    | false =>
      rw [pushPendingBody_of_some hp hempty]
      simp [hempty]

theorem reportFilled_remaining {streamId : ℕ} {st : Polling Q} (hbudget : st.remaining ≠ 0)
    (herror : (fill streamId st).1.2.isSome) (hlose : ¬LosesError ref connHandle streamId st) :
    0 < (pushPendingBody ref connHandle streamId
      (reportFilled ref connHandle streamId st)).remaining := by
  have hsame : pushPendingBody ref connHandle streamId (reportFilled ref connHandle streamId st) =
      pushPendingBody ref connHandle streamId (filled streamId st) := by
    unfold reportFilled
    split_ifs
    · exact pushPendingBody_of_none pushPendingBody_lookup
    · rfl
  rw [hsame, pushPendingBody_remaining]
  have hremaining : (filled streamId st).remaining = st.remaining := rfl
  split_ifs with hapart
  · have hone : st.remaining ≠ 1 := fun hone => hlose ⟨hone, herror, hapart⟩
    omega
  · omega

/-- A connection being polled has told of every failed read. -/
def Polling.ErrorsTold (connHandle : UInt32) (told : List JsH3Event)
    (st : Polling (Logged server Q)) : Prop :=
  Http3.ErrorsTold connHandle told st.conn.quicheConn.answers st.events

omit [Quiche Q] in
theorem errorsIn_pushPendingBody (streamId : ℕ) (st : Polling Q) :
    errorsIn (pushPendingBody ref connHandle streamId st).events = errorsIn st.events := by
  obtain ⟨_, heq | ⟨data, remaining, heq⟩⟩ := pushPendingBody_cases ref connHandle streamId st
  · rw [heq]
  · rw [heq]
    exact errorsIn_pushCoalescing rfl

variable {st : Polling (Logged server Q)}

omit [Quiche Q] in
theorem Polling.ErrorsTold.pushPendingBody (h : st.ErrorsTold connHandle told) (streamId : ℕ) :
    (pushPendingBody ref connHandle streamId st).ErrorsTold connHandle told := by
  unfold Polling.ErrorsTold Http3.ErrorsTold
  rw [pushPendingBody_quicheConn, errorsIn_pushPendingBody]
  exact h

theorem errorsIn_reportFilled (streamId : ℕ) (st : Polling Q) :
    errorsIn (reportFilled ref connHandle streamId st).events = errorsIn st.events := by
  unfold reportFilled
  split_ifs
  · exact errorsIn_pushPendingBody streamId _
  · rfl

theorem reportFilled_quicheConn (streamId : ℕ) (st : Polling Q) :
    (reportFilled ref connHandle streamId st).conn.quicheConn =
      (fill streamId st).2.quicheConn := by
  unfold reportFilled
  split_ifs
  · rw [pushPendingBody_quicheConn]
    exact dropEmptyBody_quicheConn streamId _
  · exact dropEmptyBody_quicheConn streamId _

theorem fillBody_reports (streamId credit fuel : ℕ) (c : H3Connection (Logged server Q)) :
    (fillBody streamId credit fuel c).2.quicheConn.answers.filterMap (Answer.report connHandle) =
      c.quicheConn.answers.filterMap (Answer.report connHandle) ++
        ((fillBody streamId credit fuel c).1.2.map fun e =>
          JsH3Event.error connHandle streamId 0 e.display).toList := by
  induction fuel generalizing c with
  | zero => simp [fillBody]
  | succ fuel ih =>
    unfold fillBody
    dsimp only
    split_ifs
    · simp
    · split
      · next bytes q hq =>
        have hanswers := Logged.h3RecvBody_answers hq
        split_ifs
        · simp [hanswers, Answer.report]
        · rw [ih]
          simp [hanswers, Answer.report]
      · next q hq => simp [Logged.h3RecvBody_answers hq, Answer.report]
      · next e q he hq =>
        have hreport : (Answer.h3RecvBody streamId (.error e)).report connHandle =
            some (.error connHandle streamId 0 e.display) := if_neg he
        simp [Logged.h3RecvBody_answers hq, hreport]

theorem dataStep_heard {streamId : ℕ} (h : st.ErrorsTold connHandle told)
    (hlose : ¬LosesError ref connHandle streamId st) :
    (dataStep ref connHandle streamId st).1.ErrorsTold connHandle told := by
  have hfill : (fill streamId st).2.quicheConn.answers.filterMap (Answer.report connHandle) =
      st.conn.quicheConn.answers.filterMap (Answer.report connHandle) ++
        ((fill streamId st).1.2.map fun e =>
          JsH3Event.error connHandle streamId 0 e.display).toList :=
    fillBody_reports streamId _ _ _
  unfold dataStep
  by_cases hstop : st.remaining = 0 ∨ st.conn.creditOf streamId = 0
  · rw [if_pos hstop]
    exact h
  · rw [if_neg hstop]
    cases herror : (fill streamId st).1.2 with
    | none =>
      rw [herror] at hfill
      dsimp only
      unfold Polling.ErrorsTold Http3.ErrorsTold
      rw [reportFilled_quicheConn, hfill, errorsIn_reportFilled, Option.map_none,
        Option.toList_none, List.append_nil]
      exact h
    | some e =>
      have hbudget := reportFilled_remaining (fun hzero => hstop (.inl hzero))
        (by rw [herror]; rfl) hlose
      rw [herror] at hfill
      dsimp only
      unfold reportError
      dsimp only
      rw [if_pos hbudget]
      unfold Polling.ErrorsTold Http3.ErrorsTold pushApp
      dsimp only
      rw [errorsIn_pushFor_error rfl, errorsIn_pushPendingBody, errorsIn_reportFilled,
        pushPendingBody_quicheConn, reportFilled_quicheConn, hfill, ← List.append_assoc]
      exact h.append (List.Sublist.refl _)

theorem nextH3Event_heard (h : st.ErrorsTold connHandle told) :
    { st with conn := st.conn.nextH3Event.2 }.ErrorsTold connHandle told := by
  unfold nextH3Event
  split
  · exact h
  · dsimp only
    unfold Polling.ErrorsTold
    dsimp only
    rcases hp : Quiche.h3Poll st.conn.quicheConn with ⟨e | ⟨streamId, event⟩, q⟩
    · rw [Logged.h3Poll_answers_error hp]
      exact h
    · rw [Logged.h3Poll_answers_ok hp]
      exact ErrorsTold.answer_none h rfl

theorem pollStep_heard {acc : PollAcc (Logged server Q)} (h : acc.poll.ErrorsTold connHandle told)
    (hspares : SparesStream ref connHandle acc) :
    (pollStep ref connHandle acc).1.poll.ErrorsTold connHandle told := by
  have hnext := nextH3Event_heard h
  unfold pollStep
  unfold SparesStream at hspares
  split_ifs
  · exact h
  · generalize acc.poll.conn.nextH3Event = r at hnext hspares ⊢
    obtain ⟨answer, conn⟩ := r
    dsimp only at hnext ⊢
    have hbody : ∀ streamId, (pushPendingBody ref connHandle streamId
        { acc.poll with conn }).ErrorsTold connHandle told := fun streamId =>
      hnext.pushPendingBody streamId
    rcases answer with e | ⟨streamId, event⟩
    · cases e <;> first | exact hnext | exact ErrorsTold.push hnext _
    · cases event with
      | headers list moreFrames => exact ErrorsTold.push (hbody streamId) _
      | data =>
        dsimp only at hspares ⊢
        rw [dataLoop_eq]
        exact Loop.run_invariant (fun st hst hlose => dataStep_heard hst hlose) _ hnext hspares
      | finished =>
        have hcleared : { acc.poll with conn := { conn with
            readCredit := conn.readCredit.erase streamId
            pendingReadable := conn.pendingReadable.filter (· ≠ streamId) } }.ErrorsTold
              connHandle told :=
          hnext
        exact ErrorsTold.push (hcleared.pushPendingBody streamId) _
      | reset errorCode => exact ErrorsTold.push (hbody streamId) _
      | priorityUpdate => exact hnext
      | goAway => exact ErrorsTold.push hnext _

variable {c : H3Connection (Logged server Q)}

theorem pollWritable_heard (fuel : ℕ) {events : List Emitted}
    (h : ErrorsTold connHandle told c.quicheConn.answers events) :
    ErrorsTold connHandle told (pollWritable ref connHandle fuel c events).1.quicheConn.answers
      (pollWritable ref connHandle fuel c events).2 := by
  induction fuel generalizing c events with
  | zero => exact h
  | succ fuel ih =>
    unfold pollWritable
    split
    · next q hq =>
      dsimp only
      rw [Logged.streamWritableNext_answers hq]
      exact h
    · next streamId q hq =>
      have hsame := Logged.streamWritableNext_answers hq
      dsimp only
      split
      · apply ih
        show ErrorsTold connHandle told q.answers _
        rw [hsame]
        exact h.push _
      · split_ifs
        · apply ih
          show ErrorsTold connHandle told q.answers _
          rw [hsame]
          exact h.push _
        · apply ih
          show ErrorsTold connHandle told q.answers _
          rw [hsame]
          exact h

theorem pollDrainEvents_heard {events : List Emitted}
    (h : ErrorsTold connHandle told c.quicheConn.answers events) :
    ErrorsTold connHandle told (c.pollDrainEvents ref connHandle events).1.quicheConn.answers
      (c.pollDrainEvents ref connHandle events).2 := by
  have hpruned : ErrorsTold connHandle told
      c.pruneClosedBlockedStreams.quicheConn.answers events := by
    unfold pruneClosedBlockedStreams
    rw [clearStreamTracking_quicheConn]
    exact h
  unfold pollDrainEvents
  dsimp only
  apply BlockedStreams.probe_heard
  exact pollWritable_heard _ hpruned

theorem pollH3Events_heard {budget : ℕ} {events : List Emitted}
    (h : ErrorsTold connHandle told c.quicheConn.answers events)
    (hspares : 0 < budget ∧ c.h3Conn → Spares ref connHandle budget c events) :
    ErrorsTold connHandle told (c.pollH3Events ref connHandle budget events).1.quicheConn.answers
      (c.pollH3Events ref connHandle budget events).2 := by
  have hloop : (if 0 < budget ∧ c.h3Conn = true then
      pollLoop ref connHandle (Quiche.rounds c.quicheConn) ⟨⟨c, budget, events⟩, [], []⟩
      else ⟨⟨c, budget, events⟩, [], []⟩).poll.ErrorsTold connHandle told := by
    split_ifs with hpolls
    · rw [pollLoop_eq]
      apply Loop.run_invariant (fun acc hacc => pollStep_heard hacc) _ ?_ (hspares hpolls)
      exact h
    · exact h
  unfold pollH3Events
  dsimp only
  generalize (if 0 < budget ∧ c.h3Conn = true then
      pollLoop ref connHandle (Quiche.rounds c.quicheConn) ⟨⟨c, budget, events⟩, [], []⟩
    else ⟨⟨c, budget, events⟩, [], []⟩) = acc at hloop ⊢
  have hcleared : ErrorsTold connHandle told (acc.closedCandidates.foldl clearStreamTrackingIfClosed
      (acc.resetStreams.foldl clearStreamTracking acc.poll.conn)).quicheConn.answers
      acc.poll.events := by
    rw [clearStreamTrackingIfClosed_quicheConn, clearStreamTracking_quicheConn]
    exact hloop
  apply pollDrainEvents_heard
  split_ifs
  · exact pollDatagrams_heard _ hcleared
  · exact hcleared

end H3Connection

section Runs

variable {server : Bool} {Q : Type} [Quiche Q] (ref : ConnRef) (connHandle : UInt32)

/-- No poll of a raw QUIC connection loses an error. -/
def StreamRun.Spared : StreamRun.Step Q → StreamRun server Q → Prop
  | .poll budget, r => QuicConnection.Spares ref connHandle (Quiche.readable r.conn.quicheConn)
      ⟨r.conn, budget, r.events⟩
  | _, _ => True

instance (i : StreamRun.Step Q) (r : StreamRun server Q) :
    Decidable (StreamRun.Spared ref connHandle i r) :=
  match i with
  | .poll _ => by dsimp only [StreamRun.Spared]; infer_instance
  | .network _ | .sweep _ | .send .. | .reserve _ => .isTrue trivial

/-- No poll of an HTTP/3 connection loses an error. -/
def H3BodyRun.Spared : H3BodyRun.Step Q → H3BodyRun server Q → Prop
  | .poll budget, r => 0 < budget ∧ r.conn.h3Conn = true →
      H3Connection.Spares ref connHandle budget r.conn r.batch
  | _, _ => True

instance (i : H3BodyRun.Step Q) (r : H3BodyRun server Q) :
    Decidable (H3BodyRun.Spared ref connHandle i r) :=
  match i with
  | .poll _ => by dsimp only [H3BodyRun.Spared]; infer_instance
  | .network _ | .addReadCredit .. | .handOver => .isTrue trivial

variable {ref connHandle}

theorem QuicConnection.sweepFinishedStreams_heard {told : List JsH3Event} {budget : ℕ}
    {c : QuicConnection (Logged server Q)} {events : List Emitted}
    (h : ErrorsTold connHandle told c.quicheConn.answers events) :
    ErrorsTold connHandle told
      (c.sweepFinishedStreams ref connHandle budget events).1.quicheConn.answers
      (c.sweepFinishedStreams ref connHandle budget events).2 := by
  have hfold : ∀ (ids : List ℕ) (acc : QuicConnection (Logged server Q) × List Emitted),
      ErrorsTold connHandle told acc.1.quicheConn.answers acc.2 →
      ErrorsTold connHandle told (ids.foldl (sweepStream ref connHandle) acc).1.quicheConn.answers
        (ids.foldl (sweepStream ref connHandle) acc).2 := by
    intro ids
    induction ids with
    | nil => exact fun _ h => h
    | cons id ids ih =>
      intro acc h
      apply ih
      unfold sweepStream
      dsimp only
      split_ifs
      · exact h.push _
      · exact h
  exact hfold _ (c, events) h

theorem StreamRun.step_heard (i : StreamRun.Step Q) {r : StreamRun server Q}
    (h : ErrorsTold connHandle [] r.conn.quicheConn.answers r.events)
    (hspared : StreamRun.Spared ref connHandle i r) :
    ErrorsTold connHandle [] (StreamRun.step ref connHandle i r).conn.quicheConn.answers
      (StreamRun.step ref connHandle i r).events := by
  cases i with
  | network inner => exact h
  | poll budget => exact QuicConnection.pollQuicEvents_heard h hspared
  | sweep budget => exact QuicConnection.sweepFinishedStreams_heard h
  | send streamId buf fin =>
    have hsends : QuicConnection.SendsOn streamId streamId r.conn
        (r.conn.streamSendArcbuf streamId buf fin).2 :=
      QuicConnection.streamSendArcbuf_sendsOn buf fin
    show ErrorsTold connHandle [] (r.conn.streamSendArcbuf streamId buf fin).2.quicheConn.answers _
    rw [hsends.answers]
    exact h
  | reserve streamId =>
    have hsends : QuicConnection.SendsOn streamId streamId r.conn
        (r.conn.reserveLocalBidiStream streamId).2 :=
      QuicConnection.reserveLocalBidiStream_sendsOn
    show ErrorsTold connHandle [] (r.conn.reserveLocalBidiStream streamId).2.quicheConn.answers _
    rw [hsends.answers]
    exact h

theorem H3BodyRun.step_heard (i : H3BodyRun.Step Q) {r : H3BodyRun server Q}
    (h : ErrorsTold connHandle (errorsIn r.handed) r.answers r.batch)
    (hspared : H3BodyRun.Spared ref connHandle i r) :
    ErrorsTold connHandle (errorsIn (H3BodyRun.step ref connHandle i r).handed)
      (H3BodyRun.step ref connHandle i r).answers (H3BodyRun.step ref connHandle i r).batch := by
  cases i with
  | network inner => exact h
  | poll budget => exact H3Connection.pollH3Events_heard h hspared
  | addReadCredit streamId bytes =>
    have hsame : (r.conn.addReadCredit streamId bytes).quicheConn = r.conn.quicheConn := by
      unfold H3Connection.addReadCredit
      split <;> rfl
    unfold H3BodyRun.answers H3BodyRun.step
    dsimp only
    rw [hsame]
    exact h
  | handOver =>
    unfold H3BodyRun.step ErrorsTold
    dsimp only
    rw [errorsIn_append]
    exact h.trans (by simp [errorsIn])

/-- In every run whose polls leave budget for the ERROR of a failed read, every failed read
of a stream has been told by the end of the poll it happened in: on raw QUIC connections,
and on HTTP/3 connections. -/
theorem receive_errors_heard :
    (∀ (uid : ℕ) (q : Q) (connId : Bytes) (r : StreamRun server Q),
      Runs.Reach (StreamRun.step ref connHandle) (StreamRun.Spared ref connHandle)
        (.init uid q connId) r →
      ErrorsTold connHandle [] r.conn.quicheConn.answers r.events) ∧
    ∀ (uid : ℕ) (q : Q) (connId : Bytes) (streamReadWindow : Option ℕ) (r : H3BodyRun server Q),
      Runs.Reach (H3BodyRun.step ref connHandle) (H3BodyRun.Spared ref connHandle)
        (.init uid q connId streamReadWindow) r →
      ErrorsTold connHandle [] r.answers r.events := by
  constructor
  · intro uid q connId r hreach
    induction hreach with
    | start => exact List.Sublist.refl []
    | next i _ hok ih => exact StreamRun.step_heard i ih hok
  · intro uid q connId streamReadWindow r hreach
    have hheard : ErrorsTold connHandle (errorsIn r.handed) r.answers r.batch := by
      induction hreach with
      | start => exact List.Sublist.refl []
      | next i _ hok ih => exact H3BodyRun.step_heard i ih hok
    unfold ErrorsTold H3BodyRun.events
    rw [errorsIn_append, List.nil_append]
    exact hheard

end Runs

namespace ReceiveErrors

/-- A new stream whose first read fails, polled once. -/
def failingStream (budget : ℕ) : StreamRun true Recited :=
  .step ⟨0, 0⟩ 0 (.poll budget) (.init 0 (.streams [0] [.error (.streamReset 9)]) [7])

/-- The headers of two responses, and the body of the first, which fails after three bytes. -/
def failingBody : Recited :=
  .h3 [(0, .headers [] true), (4, .headers [] true), (0, .data)] [.ok [1, 2, 3],
    .error (.transportError (.streamReset 9))]

def failingResponse (budget : ℕ) : H3BodyRun false Recited :=
  .step ⟨0, 0⟩ 0 (.poll budget) (.init 0 failingBody [7] none)

theorem receive_errors_heard_budgetLeft :
    (StreamRun.Spared ⟨0, 0⟩ 0 (.poll 2)
        (.init 0 (.streams [0] [.error (.streamReset 9)]) [7] : StreamRun true Recited) ∧
      ErrorsTold 0 [] (failingStream 2).conn.quicheConn.answers (failingStream 2).events) ∧
    (H3BodyRun.Spared ⟨0, 0⟩ 0 (.poll 4) (.init 0 failingBody [7] none : H3BodyRun false Recited) ∧
      ErrorsTold 0 [] (failingResponse 4).answers (failingResponse 4).events) :=
  ⟨⟨by decide, receive_errors_heard.1 _ _ _ _ (.next (StreamRun.Step.poll 2) .start (by decide))⟩,
    ⟨by decide +kernel,
      receive_errors_heard.2 _ _ _ _ _ (.next (H3BodyRun.Step.poll 4) .start (by decide +kernel))⟩⟩

/-- The NEW_STREAM, or the bytes read before, take the last event of the budget, and the
failure is not told. -/
theorem errors_lost_without_budget :
    ¬ErrorsTold 0 [] (failingStream 1).conn.quicheConn.answers (failingStream 1).events ∧
      ¬ErrorsTold 0 [] (failingResponse 3).answers (failingResponse 3).events := by
  constructor
  · unfold ErrorsTold
    decide +kernel
  · unfold ErrorsTold
    decide +kernel

end ReceiveErrors

end Http3
