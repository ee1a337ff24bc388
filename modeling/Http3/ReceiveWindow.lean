import Http3.BodyRead

/-! The receive window of HTTP/3 streams. Every body byte read from a stream is reported once and
in order, before FINISHED, and never more than the window and the credit returned allow. -/

namespace Http3

namespace H3Connection

variable {server : Bool} {Q : Type} [Quiche Q] {ref : ConnRef} {connHandle : UInt32}
  (past : List Emitted) {streamId size added : ℕ}

/-- What the next event leaves of a stream it is not about, and of one it is about. -/
inductive NextView (streamId : ℕ) (v v' : BodyView) : Except H3Error (ℕ × H3Poll) → Prop
  | other {id : ℕ} {event : H3Poll} :
    id ≠ streamId → v' = v → NextView streamId v v' (.ok (id, event))
  | unread : v.unread = true → v' = { v with unread := false } →
      NextView streamId v v' (.ok (streamId, .data))
  | polled {event : H3Poll} : v' = v.poll event → NextView streamId v v' (.ok (streamId, event))
  | error {e : H3Error} : v' = v → NextView streamId v v' (.error e)

theorem nextH3Event_view (c : H3Connection (Logged server Q)) (events : List Emitted) :
    NextView streamId (c.bodyView streamId past events)
      (c.nextH3Event.2.bodyView streamId past events) c.nextH3Event.1 := by
  unfold nextH3Event
  split
  · next id hfound =>
    dsimp only
    by_cases hid : id = streamId
    · subst hid
      have hunread : id ∈ c.pendingReadable := List.mem_of_find?_eq_some hfound
      apply NextView.unread
      · exact decide_eq_true hunread
      · unfold bodyView
        simp
    · apply NextView.other hid
      unfold bodyView
      simp [Ne.symm hid]
  · dsimp only
    rcases hp : Quiche.h3Poll c.quicheConn with ⟨e | ⟨id, event⟩, q⟩
    · apply NextView.error
      unfold bodyView
      simp only [Logged.h3Poll_answers_error hp]
    · have hanswers := Logged.h3Poll_answers_ok hp
      by_cases hid : id = streamId
      · subst hid
        apply NextView.polled
        unfold bodyView BodyView.poll
        simp [hanswers, receivedOn_append_one, phaseOn_append_one, Answer.bodyOn, Answer.polledOn]
      · apply NextView.other hid
        unfold bodyView
        simp [hanswers, receivedOn_append_one, phaseOn_append_one, Answer.bodyOn, Answer.polledOn,
          hid]

omit [Quiche Q] in
theorem bodyView_noteHeaders_of_ne {id : ℕ} (hne : id ≠ streamId)
    (c : H3Connection (Logged server Q)) (events : List Emitted) :
    (c.noteHeaders id).bodyView streamId past events = c.bodyView streamId past events := by
  have hcredit : (c.noteHeaders id).readCredit.lookup streamId = c.readCredit.lookup streamId := by
    unfold noteHeaders
    dsimp only
    split
    · exact AList.lookup_insert_ne hne.symm
    · rfl
  unfold bodyView
  rw [hcredit]
  rfl

variable {c : H3Connection (Logged server Q)}

omit [Quiche Q] in
theorem bodyView_noteHeaders (hwindow : c.streamReadWindow = some size) (events : List Emitted) :
    (c.noteHeaders streamId).bodyView streamId past events =
      { c.bodyView streamId past events with
        credit := some ((c.bodyView streamId past events).credit.getD size) } := by
  have hcredit : (c.noteHeaders streamId).readCredit.lookup streamId =
      some ((c.readCredit.lookup streamId).getD size) := by
    unfold noteHeaders
    rw [hwindow]
    cases hleft : c.readCredit.lookup streamId with
    | none => exact AList.lookup_insert _
    | some left => exact hleft
  unfold bodyView
  rw [hcredit]
  rfl

def endBody (c : H3Connection Q) (streamId : ℕ) : H3Connection Q :=
  { c with
    readCredit := c.readCredit.erase streamId
    pendingReadable := c.pendingReadable.filter (· ≠ streamId) }

omit [Quiche Q] in
theorem bodyView_endBody_of_ne {id : ℕ} (hne : id ≠ streamId)
    (c : H3Connection (Logged server Q)) (events : List Emitted) :
    (c.endBody id).bodyView streamId past events = c.bodyView streamId past events := by
  unfold bodyView endBody
  simp [AList.lookup_erase_ne hne.symm, hne.symm]

omit [Quiche Q] in
theorem bodyView_endBody (c : H3Connection (Logged server Q)) (events : List Emitted) :
    (c.endBody streamId).bodyView streamId past events =
      { c.bodyView streamId past events with credit := none, unread := false } := by
  unfold bodyView endBody
  simp [AList.lookup_erase]

/-- What holds of a stream between the events of a poll. -/
structure PollAcc.Holds (streamId : ℕ) (past : List Emitted) (size added : ℕ)
    (acc : PollAcc (Logged server Q)) : Prop where
  sound : (acc.poll.bodyView streamId past).Sound size added
  tracked : (acc.poll.bodyView streamId past).Tracked
  reset : streamId ∈ acc.resetStreams → (acc.poll.bodyView streamId past).log.reset = true
  closed : streamId ∈ acc.closedCandidates → (acc.poll.bodyView streamId past).Over

variable {acc acc' : PollAcc (Logged server Q)}

omit [Quiche Q] in
theorem PollAcc.Holds.of_view (h : acc.Holds streamId past size added)
    (hview : acc'.poll.bodyView streamId past = acc.poll.bodyView streamId past)
    (hreset : streamId ∈ acc'.resetStreams → streamId ∈ acc.resetStreams)
    (hclosed : streamId ∈ acc'.closedCandidates → streamId ∈ acc.closedCandidates) :
    acc'.Holds streamId past size added where
  sound := by rw [hview]; exact h.sound
  tracked := by rw [hview]; exact h.tracked
  reset := by rw [hview]; exact fun hmem => h.reset (hreset hmem)
  closed := by rw [hview]; exact fun hmem => h.closed (hclosed hmem)

section Polled

omit [Quiche Q]

variable {st : Polling (Logged server Q)}

theorem PollAcc.Holds.headers (h : acc.Holds streamId past size added) {list : Headers}
    {moreFrames : Bool}
    (hst : st.bodyView streamId past =
      (acc.poll.bodyView streamId past).poll (.headers list moreFrames)) (fin : Bool) :
    { acc with
      poll := pushApp ref (.ofHeaders connHandle streamId list fin)
        { st with conn := st.conn.noteHeaders streamId } }.Holds streamId past size added := by
  have hwindow : st.conn.streamReadWindow = some size :=
    (congrArg BodyView.window hst).trans h.sound.window
  have hview : (pushApp ref (.ofHeaders connHandle streamId list fin)
      { st with conn := st.conn.noteHeaders streamId }).bodyView streamId past =
        { (acc.poll.bodyView streamId past).poll (.headers list moreFrames) with
          credit := some ((acc.poll.bodyView streamId past).credit.getD size) } := by
    rw [bodyView_pushApp, BodyLog.add_ofHeaders]
    refine (bodyView_noteHeaders past hwindow st.events).trans ?_
    have hsame : st.conn.bodyView streamId past st.events = st.bodyView streamId past := rfl
    rw [hsame, hst]
    rfl
  constructor
  · rw [hview]
    exact h.sound.headers h.tracked list moreFrames
  · rw [hview]
    exact fun _ => rfl
  · rw [hview]
    exact h.reset
  · rw [hview]
    exact fun hmem => (h.closed hmem).poll (.headers list moreFrames)

theorem PollAcc.Holds.finished (h : acc.Holds streamId past size added)
    (hst : st.bodyView streamId past = (acc.poll.bodyView streamId past).poll .finished) :
    { acc with
      poll := pushApp ref (.finished connHandle streamId)
        (pushPendingBody ref connHandle streamId { st with conn := st.conn.endBody streamId })
      closedCandidates := acc.closedCandidates ++ [streamId] }.Holds streamId past size added := by
  have hended : ({ st with conn := st.conn.endBody streamId } : Polling _).bodyView streamId past =
      { (acc.poll.bodyView streamId past).poll .finished with
        credit := none, unread := false } := by
    rw [← hst]
    exact bodyView_endBody past st.conn st.events
  have hview : (pushApp ref (.finished connHandle streamId) (pushPendingBody ref connHandle streamId
      { st with conn := st.conn.endBody streamId })).bodyView streamId past =
        { (acc.poll.bodyView streamId past).poll .finished with
          log := { (acc.poll.bodyView streamId past).log with finished := true }
          credit := none
          unread := false } := by
    rw [bodyView_pushApp, BodyLog.add_finished, bodyView_pushPendingBody, hended,
      BodyView.report_of_none]
    · rfl
    · exact h.sound.settled
  constructor
  · rw [hview]
    exact h.sound.finished
  · rw [hview]
    intro hopened
    cases (acc.poll.bodyView streamId past).over_finished _ hopened
  · rw [hview]
    exact h.reset
  · rw [hview]
    exact fun _ => (acc.poll.bodyView streamId past).over_finished

theorem PollAcc.Holds.reported (h : acc.Holds streamId past size added) (errorCode : ℕ)
    (hst : st.bodyView streamId past = acc.poll.bodyView streamId past) :
    { acc with
      poll := pushApp ref (.reset connHandle streamId errorCode) st
      resetStreams := acc.resetStreams ++ [streamId] }.Holds streamId past size added := by
  have hview : (pushApp ref (.reset connHandle streamId errorCode) st).bodyView streamId past =
      { acc.poll.bodyView streamId past with
        log := { (acc.poll.bodyView streamId past).log with reset := true } } := by
    rw [bodyView_pushApp, BodyLog.add_reset, hst]
  constructor
  · rw [hview]
    exact h.sound.reset
  · rw [hview]
    exact h.tracked
  · rw [hview]
    exact fun _ => rfl
  · rw [hview]
    exact h.closed

end Polled

variable (hnever : NeverEmpty Q) (hrounds : ∀ q : Q, h3RecvChunk < Quiche.rounds q)

include hnever hrounds

theorem PollAcc.Holds.data (h : acc.Holds streamId past size added) (id fuel : ℕ)
    {conn : H3Connection (Logged server Q)} {v : BodyView}
    (hview : conn.bodyView streamId past acc.poll.events = v) (hsound : v.Sound size added)
    (htracked : v.Tracked) (hreading : id = streamId → v.Reading)
    (hlog : v.log = (acc.poll.bodyView streamId past).log)
    (hover : (acc.poll.bodyView streamId past).Over → v.Over) :
    { acc with poll := dataLoop ref connHandle id fuel { acc.poll with conn } }.Holds streamId past
      size added := by
  subst hview
  have hreads : (({ acc.poll with conn } : Polling _).bodyView streamId past).ReadsOn size added
      ((dataLoop ref connHandle id fuel { acc.poll with conn }).bodyView streamId past) :=
    dataLoop_readsOn past hnever hrounds id fuel hsound htracked hreading
  constructor
  · exact hreads.sound
  · exact hreads.tracked
  · intro hmem
    rw [hreads.reset]
    exact (congrArg BodyLog.reset hlog).trans (h.reset hmem)
  · intro hmem phase hphase
    rw [hreads.phase] at hphase
    exact hover (h.closed hmem) phase hphase

theorem pollStep_holds (h : acc.Holds streamId past size added) :
    (pollStep ref connHandle acc).1.Holds streamId past size added := by
  have hnext : NextView streamId (acc.poll.bodyView streamId past)
      (acc.poll.conn.nextH3Event.2.bodyView streamId past acc.poll.events)
      acc.poll.conn.nextH3Event.1 := nextH3Event_view past acc.poll.conn acc.poll.events
  unfold pollStep
  split_ifs
  · exact h
  · generalize acc.poll.conn.nextH3Event = r at hnext ⊢
    obtain ⟨answer, conn⟩ := r
    dsimp only at hnext ⊢
    cases hnext with
    | @other id event hne hview =>
      have hpushed : (pushPendingBody ref connHandle id { acc.poll with conn }).bodyView
          streamId past =
          acc.poll.bodyView streamId past :=
        (bodyView_pushPendingBody_of_ne past hne _).trans hview
      have hne' : (id : ℤ) ≠ streamId := Int.ofNat_inj.not.2 hne
      have happend : ∀ ids : List ℕ, streamId ∈ ids ++ [id] → streamId ∈ ids := by
        intro ids hmem
        simpa [hne.symm] using hmem
      cases event with
      | headers list moreFrames =>
        refine h.of_view past ?_ (fun hmem => hmem) (fun hmem => hmem)
        refine (bodyView_pushApp_other past (.inl hne') _).trans ?_
        exact (bodyView_noteHeaders_of_ne past hne _ _).trans hpushed
      | data =>
        exact h.data past hnever hrounds id _ hview h.sound h.tracked
          (fun heq => absurd heq hne) rfl
          (fun hover => hover)
      | finished =>
        refine h.of_view past ?_ (fun hmem => hmem) (happend _)
        refine (bodyView_pushApp_other past (.inl hne') _).trans ?_
        refine (bodyView_pushPendingBody_of_ne past hne _).trans ?_
        exact (bodyView_endBody_of_ne past hne _ _).trans hview
      | reset errorCode =>
        refine h.of_view past ?_ (happend _) (fun hmem => hmem)
        exact (bodyView_pushApp_other past (.inl hne') _).trans hpushed
      | priorityUpdate => exact h.of_view past hview (fun hmem => hmem) (fun hmem => hmem)
      | goAway =>
        refine h.of_view past ?_ (fun hmem => hmem) (fun hmem => hmem)
        exact (bodyView_pushApp_other past (.inr rfl) _).trans hview
    | unread hunread hview =>
      exact h.data past hnever hrounds streamId _ hview h.sound.attend h.tracked
        (fun _ => h.sound.reading hunread) rfl (fun hover => hover)
    | @polled event hview =>
      have hpolled : ({ acc.poll with conn } : Polling _).bodyView streamId past =
          (acc.poll.bodyView streamId past).poll event := hview
      have hsettled : ((acc.poll.bodyView streamId past).poll event).collected = none :=
        h.sound.settled
      have hpushed : (pushPendingBody ref connHandle streamId { acc.poll with conn }).bodyView
          streamId past = (acc.poll.bodyView streamId past).poll event := by
        rw [bodyView_pushPendingBody, hpolled, BodyView.report_of_none hsettled]
      cases event with
      | headers list moreFrames => exact h.headers past hpushed _
      | data =>
        exact h.data past hnever hrounds streamId _ hview h.sound.data.1 h.tracked.data
          (fun _ => h.sound.data.2) rfl (fun hover => hover.poll .data)
      | finished => exact h.finished past hpolled
      | reset errorCode =>
        apply h.reported past errorCode
        exact hpushed.trans (BodyView.poll_of_next fun phase => by cases phase <;> rfl)
      | priorityUpdate =>
        refine h.of_view past ?_ (fun hmem => hmem) (fun hmem => hmem)
        exact hview.trans (BodyView.poll_of_next fun phase => by cases phase <;> rfl)
      | goAway =>
        refine h.of_view past ?_ (fun hmem => hmem) (fun hmem => hmem)
        refine (bodyView_pushApp_other past (.inr rfl) _).trans ?_
        exact hview.trans (BodyView.poll_of_next fun phase => by cases phase <;> rfl)
    | @error e hview =>
      cases e with
      | done => exact h.of_view past hview (fun hmem => hmem) (fun hmem => hmem)
      | _ =>
        refine h.of_view past ?_ (fun hmem => hmem) (fun hmem => hmem)
        exact (bodyView_pushApp_other past (.inr rfl) _).trans hview

omit hnever hrounds

section Rest

omit [Quiche Q]

variable {c : H3Connection (Logged server Q)} {events : List Emitted}

theorem bodyView_clearStreamTracking_of_ne {id : ℕ} (hne : id ≠ streamId)
    (c : H3Connection (Logged server Q)) (events : List Emitted) :
    (c.clearStreamTracking id).bodyView streamId past events = c.bodyView streamId past events := by
  have hblocked : streamId ∈ (c.blocked.remove id).set ↔ streamId ∈ c.blocked.set := by
    unfold BlockedStreams.remove
    split_ifs
    · simp [hne.symm]
    · rfl
  unfold bodyView clearStreamTracking
  simp [AList.lookup_erase_ne hne.symm, hne.symm, hblocked]

theorem bodyView_clearStreamTracking (h : (c.bodyView streamId past events).blocked = false) :
    (c.clearStreamTracking streamId).bodyView streamId past events =
      (c.bodyView streamId past events).clear := by
  have hnot : streamId ∉ c.blocked.set := of_decide_eq_false h
  unfold bodyView clearStreamTracking BodyView.clear BlockedStreams.remove
  simp [AList.lookup_erase, hnot]

theorem clearReset_settled (ids : List ℕ)
    (h : (c.bodyView streamId past events).Settled size added)
    (hreset : streamId ∈ ids → (c.bodyView streamId past events).log.reset = true) :
    ((ids.foldl clearStreamTracking c).bodyView streamId past events).Settled size added := by
  induction ids generalizing c with
  | nil => exact h
  | cons id ids ih =>
    have hlog : ((c.clearStreamTracking id).bodyView streamId past events).log =
        (c.bodyView streamId past events).log := rfl
    apply ih
    · by_cases hid : id = streamId
      · subst hid
        rw [bodyView_clearStreamTracking past h.sound.unblocked]
        constructor
        · exact h.sound.clear
        · intro hnot
          have htrue := hreset List.mem_cons_self
          cases htrue.symm.trans hnot
      · rw [bodyView_clearStreamTracking_of_ne past hid]
        exact h
    · intro hmem
      rw [hlog]
      exact hreset (List.mem_cons_of_mem id hmem)

end Rest

variable {events : List Emitted}

theorem clearClosed_settled (ids : List ℕ)
    (h : (c.bodyView streamId past events).Settled size added)
    (hover : streamId ∈ ids → (c.bodyView streamId past events).Over) :
    ((ids.foldl clearStreamTrackingIfClosed c).bodyView streamId past events).Settled
      size added := by
  induction ids generalizing c with
  | nil => exact h
  | cons id ids ih =>
    have hphase : ((c.clearStreamTrackingIfClosed id).bodyView streamId past events).phase =
        (c.bodyView streamId past events).phase := by
      unfold clearStreamTrackingIfClosed
      split_ifs <;> rfl
    apply ih
    · unfold clearStreamTrackingIfClosed
      split_ifs
      · by_cases hid : id = streamId
        · subst hid
          rw [bodyView_clearStreamTracking past h.sound.unblocked]
          constructor
          · exact h.sound.clear
          · intro _ hopened
            cases hover List.mem_cons_self _ hopened
        · rw [bodyView_clearStreamTracking_of_ne past hid]
          exact h
      · exact h
    · intro hmem phase hsome
      rw [hphase] at hsome
      exact hover (List.mem_cons_of_mem id hmem) phase hsome

theorem bodyView_pollDatagramEvents (remaining : ℕ) (c : H3Connection (Logged server Q))
    (events : List Emitted) :
    (pollDatagramEvents ref connHandle remaining c events).1.bodyView streamId past
        (pollDatagramEvents ref connHandle remaining c events).2 =
      c.bodyView streamId past events := by
  have hpush : ∀ (c : H3Connection (Logged server Q)) after buf, c.bodyView streamId past
      (pushFor ref (.datagram connHandle buf) after) = c.bodyView streamId past after := by
    intro c after buf
    unfold bodyView
    rw [bodyLog_pushFor, BodyLog.add_of_not_isReceipt rfl]
  obtain ⟨_, h⟩ := pollDatagrams_induction ref connHandle (q := c.quicheConn)
    (P := fun _ q after => bodyView streamId past { c with quicheConn := q } after =
      c.bodyView streamId past events) (fun _ _ _ h => h)
    (fun _ _ _ _ h => (hpush _ _ _).trans h) remaining rfl
  exact h

omit [Quiche Q] in
theorem stopped_settled (h : (c.bodyView streamId past events).Settled size added)
    (id errorCode : ℕ) :
    ((c.clearStreamTracking id).bodyView streamId past
      (pushFor ref (.reset connHandle id errorCode) events)).Settled size added := by
  have hlog : (c.clearStreamTracking id).bodyView streamId past
      (pushFor ref (.reset connHandle id errorCode) events) =
        { (c.clearStreamTracking id).bodyView streamId past events with
          log := (bodyLog streamId (past ++ events)).add streamId
            (.reset connHandle id errorCode) } := by
    rw [← bodyLog_pushFor]
    rfl
  rw [hlog]
  by_cases hid : id = streamId
  · subst hid
    rw [bodyView_clearStreamTracking past h.sound.unblocked, BodyLog.add_reset]
    constructor
    · exact h.sound.clear.reset
    · nofun
  · have hne : (id : ℤ) ≠ streamId := Int.ofNat_inj.not.2 hid
    rw [bodyView_clearStreamTracking_of_ne past hid, BodyLog.add_of_ne hne]
    exact h

omit [Quiche Q] in
theorem bodyView_unblock {event : JsH3Event} {blocked : BlockedStreams}
    (hevent : event.eventType.isReceipt = false)
    (hblocked : streamId ∉ c.blocked.set → streamId ∉ blocked.set)
    (h : (c.bodyView streamId past events).Settled size added) :
    (({ c with blocked } : H3Connection _).bodyView streamId past
      (pushFor ref event events)).Settled size added := by
  have hnot : streamId ∉ c.blocked.set := of_decide_eq_false h.sound.unblocked
  have hview : ({ c with blocked } : H3Connection _).bodyView streamId past
      (pushFor ref event events) =
      c.bodyView streamId past events := by
    unfold bodyView
    rw [bodyLog_pushFor, BodyLog.add_of_not_isReceipt hevent]
    simp [hnot, hblocked hnot]
  rw [hview]
  exact h

theorem pollWritable_settled (fuel : ℕ) (h : (c.bodyView streamId past events).Settled size added) :
    ((pollWritable ref connHandle fuel c events).1.bodyView streamId past
      (pollWritable ref connHandle fuel c events).2).Settled size added := by
  induction fuel generalizing c events with
  | zero => exact h
  | succ fuel ih =>
    unfold pollWritable
    split
    · next q hq =>
      have hview : ({ c with quicheConn := q } : H3Connection _).bodyView streamId past events =
          c.bodyView streamId past events := by
        unfold bodyView
        simp only [Logged.streamWritableNext_answers hq]
      rw [hview]
      exact h
    · next id q hq =>
      have hview : ({ c with quicheConn := q } : H3Connection _).bodyView streamId past events =
          c.bodyView streamId past events := by
        unfold bodyView
        simp only [Logged.streamWritableNext_answers hq]
      rw [← hview] at h
      dsimp only
      split
      · exact ih (stopped_settled past h _ _)
      · split_ifs
        · apply ih
          refine bodyView_unblock past rfl ?_ h
          intro hnot hmem
          unfold BlockedStreams.remove at hmem
          split_ifs at hmem
          exact hnot (List.mem_of_mem_filter hmem)
        · exact ih h

omit [Quiche Q] in
theorem probe_settled (capacity : ℕ → Except QuicheError ℕ) (n : ℕ) (b : BlockedStreams)
    (h : (({ c with blocked := b } : H3Connection _).bodyView streamId past events).Settled
      size added) :
    (({ c with blocked := (b.probe capacity ref connHandle n events).1 } : H3Connection _).bodyView
      streamId past (b.probe capacity ref connHandle n events).2).Settled size added := by
  induction n generalizing b events with
  | zero => exact h
  | succ n ih =>
    unfold BlockedStreams.probe
    split
    · exact h
    · next id rest _ =>
      have hfilter : streamId ∉ b.set → streamId ∉ b.set.filter (· ≠ id) :=
        fun hnot hmem => hnot (List.mem_of_mem_filter hmem)
      split
      · split_ifs
        · exact ih _ (bodyView_unblock past (c := { c with blocked := b }) rfl hfilter h)
        · exact ih _ h
      · exact ih _ (bodyView_unblock past (c := { c with blocked := b }) rfl hfilter h)

theorem pollDrainEvents_settled (h : (c.bodyView streamId past events).Settled size added) :
    ((c.pollDrainEvents ref connHandle events).1.bodyView streamId past
      (c.pollDrainEvents ref connHandle events).2).Settled size added := by
  have hnot : streamId ∉ c.blocked.set := of_decide_eq_false h.sound.unblocked
  have hpruned : (c.pruneClosedBlockedStreams.bodyView streamId past events).Settled
      size added := by
    apply clearReset_settled past _ h
    intro hmem
    exact absurd (List.mem_of_mem_filter hmem) hnot
  unfold pollDrainEvents
  dsimp only
  apply probe_settled
  exact pollWritable_settled past _ hpruned

/-- A poll of a stream that was not reset before. -/
theorem pollH3Events_settled (hnever : NeverEmpty Q)
    (hrounds : ∀ q : Q, h3RecvChunk < Quiche.rounds q) {budget : ℕ}
    (h : (c.bodyView streamId past events).Settled size added)
    (hreset : (bodyLog streamId (past ++ events)).reset = false) :
    ((c.pollH3Events ref connHandle budget events).1.bodyView streamId past
      (c.pollH3Events ref connHandle budget events).2).Settled size added := by
  have hstart : PollAcc.Holds streamId past size added
      (⟨⟨c, budget, events⟩, [], []⟩ : PollAcc (Logged server Q)) :=
    ⟨h.sound, h.tracked hreset, nofun, nofun⟩
  have hloop : PollAcc.Holds streamId past size added (if 0 < budget ∧ c.h3Conn = true then
      pollLoop ref connHandle (Quiche.rounds c.quicheConn) ⟨⟨c, budget, events⟩, [], []⟩
      else ⟨⟨c, budget, events⟩, [], []⟩) := by
    split_ifs
    · rw [pollLoop_eq]
      exact Loop.run_keeps (fun _ => pollStep_holds past hnever hrounds) _ hstart
    · exact hstart
  unfold pollH3Events
  dsimp only
  generalize (if 0 < budget ∧ c.h3Conn = true then
      pollLoop ref connHandle (Quiche.rounds c.quicheConn) ⟨⟨c, budget, events⟩, [], []⟩
    else ⟨⟨c, budget, events⟩, [], []⟩) = acc at hloop ⊢
  have hafter : (acc.poll.conn.bodyView streamId past acc.poll.events).Settled size added :=
    ⟨hloop.sound, fun _ => hloop.tracked⟩
  have hphase : ∀ ids : List ℕ,
      ((ids.foldl clearStreamTracking acc.poll.conn).bodyView streamId past
      acc.poll.events).phase = (acc.poll.bodyView streamId past).phase := by
    intro ids
    unfold bodyView
    rw [clearStreamTracking_quicheConn]
    rfl
  have hcleared := clearClosed_settled past acc.closedCandidates
    (clearReset_settled past acc.resetStreams hafter hloop.reset) (by
      intro hmem phase hsome
      rw [hphase] at hsome
      exact hloop.closed hmem phase hsome)
  apply pollDrainEvents_settled
  split_ifs
  · rw [bodyView_pollDatagramEvents]
    exact hcleared
  · exact hcleared

end H3Connection

namespace H3BodyRun

variable {server : Bool} {Q : Type}

def view (streamId : ℕ) (r : H3BodyRun server Q) : BodyView :=
  r.conn.bodyView streamId r.handed r.batch

def addedOn (streamId : ℕ) (r : H3BodyRun server Q) : ℕ :=
  ((r.returned.filter fun e => e.1 = streamId).map Prod.snd).sum

def NotReset (streamId : ℕ) (_ : Step Q) (r : H3BodyRun server Q) : Prop :=
  (bodyLog streamId r.events).reset = false

instance (streamId : ℕ) (i : Step Q) (r : H3BodyRun server Q) : Decidable (NotReset streamId i r) :=
  inferInstanceAs (Decidable (_ = _))

theorem view_addReadCredit {streamId size : ℕ} (id bytes : ℕ) {r : H3BodyRun server Q}
    (hwindow : r.conn.streamReadWindow = some size) :
    (r.conn.addReadCredit id bytes).bodyView streamId r.handed r.batch =
      if id = streamId then
        { r.view streamId with
          credit := (r.view streamId).credit.map fun k => min (k + bytes) size }
      else r.view streamId := by
  unfold H3Connection.addReadCredit
  rw [hwindow]
  cases hcredit : r.conn.readCredit.lookup id with
  | none =>
    by_cases hid : id = streamId
    · subst hid
      unfold view H3Connection.bodyView
      simp [hcredit]
    · rw [if_neg hid]
      rfl
  | some k =>
    by_cases hid : id = streamId
    · subst hid
      unfold view H3Connection.bodyView
      simp [hcredit, hwindow, AList.lookup_insert]
    · rw [if_neg hid]
      unfold view H3Connection.bodyView
      simp [hwindow, AList.lookup_insert_ne (Ne.symm hid)]

theorem addedOn_addReadCredit (streamId id bytes : ℕ) (r : H3BodyRun server Q)
    (conn : H3Connection (Logged server Q)) :
    addedOn streamId { r with conn, returned := r.returned ++ [(id, bytes)] } =
      if id = streamId then r.addedOn streamId + bytes else r.addedOn streamId := by
  unfold addedOn
  by_cases hid : id = streamId <;> simp [List.filter_append, hid]

variable [Quiche Q] {ref : ConnRef} {connHandle : UInt32} {streamId size : ℕ}

omit [Quiche Q] in
theorem init_settled (streamId size uid : ℕ) (q : Q) (connId : Bytes) :
    ((init uid q connId (some size) : H3BodyRun server Q).view streamId).Settled size
      ((init uid q connId (some size) : H3BodyRun server Q).addedOn streamId) where
  sound :=
    { window := rfl
      unblocked := rfl
      settled := rfl
      whole := rfl
      capped := nofun
      bounded := fun _ => Nat.zero_le _
      early := fun _ => rfl
      unfinished := fun _ _ _ => rfl
      shut := fun _ _ _ => ⟨rfl, rfl⟩
      fresh := fun _ => rfl }
  tracked := nofun

theorem step_settled (hnever : NeverEmpty Q) (hrounds : ∀ q : Q, h3RecvChunk < Quiche.rounds q)
    (i : Step Q) {r : H3BodyRun server Q} (h : (r.view streamId).Settled size (r.addedOn streamId))
    (hreset : NotReset streamId i r) :
    ((step ref connHandle i r).view streamId).Settled size
      ((step ref connHandle i r).addedOn streamId) := by
  cases i with
  | network inner => exact h
  | poll budget => exact H3Connection.pollH3Events_settled _ hnever hrounds h hreset
  | addReadCredit id bytes =>
    have hwindow : r.conn.streamReadWindow = some size := h.sound.window
    have hview : (r.conn.addReadCredit id bytes).bodyView streamId r.handed r.batch = _ :=
      view_addReadCredit id bytes hwindow
    have hadded := addedOn_addReadCredit streamId id bytes r (r.conn.addReadCredit id bytes)
    unfold step view
    dsimp only
    rw [hview, hadded]
    split_ifs
    · constructor
      · exact h.sound.addCredit bytes
      · intro hnot hopened
        rw [Option.isSome_map]
        exact h.tracked hnot hopened
    · exact h
  | handOver =>
    have hsame : (step ref connHandle .handOver r).view streamId = r.view streamId := by
      unfold step view H3Connection.bodyView
      simp
    rw [hsame]
    exact h

theorem reach_settled (hnever : NeverEmpty Q) (hrounds : ∀ q : Q, h3RecvChunk < Quiche.rounds q)
    {uid : ℕ} {q : Q} {connId : Bytes} {r : H3BodyRun server Q}
    (hreach : Runs.Reach (step ref connHandle) (NotReset streamId)
      (.init uid q connId (some size)) r) :
    (r.view streamId).Settled size (r.addedOn streamId) := by
  induction hreach with
  | start => exact init_settled streamId size uid q connId
  | next i _ hok ih => exact step_settled hnever hrounds i ih hok

end H3BodyRun

/-- In every run up to a reset of the stream, the credit left never exceeds the window, and every
body byte read has been reported, in order, by the end of the poll. As long as the HTTP/3 layer
reports HEADERS, DATA and FINISHED in order, what is reported never exceeds the window and the
credit returned, and comes before FINISHED. -/
theorem receive_window_kept {server : Bool} {Q : Type} [Quiche Q] (hnever : NeverEmpty Q)
    (hrounds : ∀ q : Q, h3RecvChunk < Quiche.rounds q) (ref : ConnRef) (connHandle : UInt32)
    (streamId size uid : ℕ) (q : Q) (connId : Bytes) {r : H3BodyRun server Q}
    (hreach : Runs.Reach (H3BodyRun.step ref connHandle) (H3BodyRun.NotReset streamId)
      (.init uid q connId (some size)) r) :
    (∀ k, r.conn.readCredit.lookup streamId = some k → k ≤ size) ∧
      (bodyLog streamId r.events).bytes = receivedOn streamId r.answers ∧
      (Ordered streamId r.answers →
        (bodyLog streamId r.events).bytes.length ≤ size + r.addedOn streamId ∧
          (bodyLog streamId r.events).late = []) := by
  have hsound := (H3BodyRun.reach_settled hnever hrounds hreach).sound
  refine ⟨hsound.capped, hsound.whole, fun hordered => ⟨?_, hsound.early hordered⟩⟩
  have hbound := hsound.bounded hordered
  have hwhole : (bodyLog streamId r.events).bytes = receivedOn streamId r.answers := hsound.whole
  rw [hwhole]
  exact (Nat.le_add_right _ _).trans hbound

/-- The scripted transport with a body of so many bytes left to read. -/
structure Bodied where
  script : Scripted
  left : ℕ

namespace Bodied

def h3RecvBody (p : Bodied) (len : ℕ) : Except H3Error Bytes × Bodied :=
  if p.left = 0 ∨ len = 0 then (.error .done, p)
  else (.ok (List.replicate (min len p.left) 7), { p with left := p.left - len })

instance : Quiche Bodied :=
  { Quiche.within script (fun p script => { p with script }) (fun script => ⟨script, 0⟩) with
    rounds := fun _ => 2 ^ 17
    h3RecvBody := fun p _ len => h3RecvBody p len }

theorem neverEmpty : NeverEmpty Bodied := by
  intro p streamId len hlen hnil
  have hread : (h3RecvBody p len).1 = .ok [] := hnil
  unfold h3RecvBody at hread
  split_ifs at hread with hstop
  have hzero : min len p.left = 0 := (List.replicate_eq_nil_iff 7).1 (Except.ok.inj hread)
  omega

/-- The HTTP/3 layer has these events, and a body of so many bytes. -/
def start (events : List (ℕ × H3Poll)) (left : ℕ) : Bodied :=
  ⟨{ Scripted.fresh [7] with h3Events := events }, left⟩

/-- A body of three bytes against a window of two: the third comes when a byte of credit does. -/
def smallWindow : H3BodyRun true Bodied :=
  Runs.run (H3BodyRun.step ⟨0, 0⟩ 0)
    [.poll 8, .addReadCredit 0 1, .poll 8, .network (.start [(0, .finished)] 0), .poll 8]
    (.init 0 (.start [(0, .headers [] true), (0, .data)] 3) [7] (some 2))

theorem receive_window_kept_smallWindow :
    (bodyLog 0 smallWindow.events).bytes = [7, 7, 7] ∧
      (bodyLog 0 smallWindow.events).finished = true ∧
      (bodyLog 0 smallWindow.events).bytes = receivedOn 0 smallWindow.answers ∧
      (bodyLog 0 smallWindow.events).bytes.length ≤ 2 + smallWindow.addedOn 0 ∧
      (bodyLog 0 smallWindow.events).late = [] := by
  have hrounds : ∀ q : Bodied, h3RecvChunk < Quiche.rounds q :=
    fun _ => show h3RecvChunk < 2 ^ 17 by decide
  have hkept := receive_window_kept (r := smallWindow) neverEmpty hrounds ⟨0, 0⟩ 0 0 2 0
    (.start [(0, .headers [] true), (0, .data)] 3) [7] (Runs.Reach.run .start (by decide +kernel))
  have hordered : Ordered 0 smallWindow.answers := by decide +kernel
  exact ⟨by decide +kernel, by decide +kernel, hkept.2.1, hkept.2.2 hordered⟩

/-- A response whose body of three bytes comes before its headers, against a window of two. -/
def dataFirst : H3BodyRun false Bodied :=
  Runs.run (H3BodyRun.step ⟨0, 0⟩ 0) [.poll 8] (.init 0 (.start [(0, .data)] 3) [7] (some 2))

/-- The window of a stream is set up when its headers are reported, so nothing bounds the read. -/
theorem data_first_exceeds_window :
    ¬Ordered 0 dataFirst.answers ∧ dataFirst.addedOn 0 = 0 ∧
      (bodyLog 0 dataFirst.events).bytes = [7, 7, 7] := by
  decide +kernel

end Bodied

end Http3
