import Http3.H3Connection
import Http3.Lib.Loop

/-! The loops of an HTTP/3 poll, one turn at a time. -/

namespace Http3.H3Connection

variable {Q : Type} [Quiche Q] (ref : ConnRef) (connHandle : UInt32)

section PendingBody

omit [Quiche Q]

variable {ref connHandle} {streamId : ℕ} {st : Polling Q}

theorem pushPendingBody_of_none (h : st.conn.pendingBodyData.lookup streamId = none) :
    pushPendingBody ref connHandle streamId st = st := by
  unfold pushPendingBody
  rw [h]

theorem pushPendingBody_of_empty {pending : PendingRecvBody}
    (h : st.conn.pendingBodyData.lookup streamId = some pending)
    (hempty : pending.data.isEmpty = true) :
    pushPendingBody ref connHandle streamId st =
      { st with conn := { st.conn with
          pendingBodyData := st.conn.pendingBodyData.erase streamId } } := by
  unfold pushPendingBody
  rw [h]
  dsimp only
  rw [if_pos hempty]

theorem pushPendingBody_of_some {pending : PendingRecvBody}
    (h : st.conn.pendingBodyData.lookup streamId = some pending)
    (hempty : pending.data.isEmpty = false) :
    pushPendingBody ref connHandle streamId st =
      { conn := { st.conn with pendingBodyData := st.conn.pendingBodyData.erase streamId }
        remaining :=
          if (pushCoalescing ref (.ofData connHandle streamId pending.data false) st.events).1 then
            st.remaining - 1
          else st.remaining
        events :=
          (pushCoalescing ref (.ofData connHandle streamId pending.data false) st.events).2 } := by
  unfold pushPendingBody
  rw [h]
  dsimp only
  rw [if_neg (by simp [hempty])]

theorem pushPendingBody_lookup :
    (pushPendingBody ref connHandle streamId st).conn.pendingBodyData.lookup streamId = none := by
  cases hp : st.conn.pendingBodyData.lookup streamId with
  | none =>
    rw [pushPendingBody_of_none hp]
    exact hp
  | some pending =>
    cases hempty : pending.data.isEmpty with
    | true =>
      rw [pushPendingBody_of_empty hp hempty]
      exact AList.lookup_erase streamId _
    | false =>
      rw [pushPendingBody_of_some hp hempty]
      exact AList.lookup_erase streamId _

variable (ref connHandle streamId st) in
theorem pushPendingBody_cases : ∃ pendingBodyData,
    pushPendingBody ref connHandle streamId st =
      { st with conn := { st.conn with pendingBodyData } } ∨
    ∃ data remaining, pushPendingBody ref connHandle streamId st =
      ⟨{ st.conn with pendingBodyData }, remaining,
        (pushCoalescing ref (.ofData connHandle streamId data false) st.events).2⟩ := by
  cases hp : st.conn.pendingBodyData.lookup streamId with
  | none => exact ⟨_, .inl (pushPendingBody_of_none hp)⟩
  | some pending =>
    cases hempty : pending.data.isEmpty with
    | true => exact ⟨_, .inl (pushPendingBody_of_empty hp hempty)⟩
    | false => exact ⟨_, .inr ⟨_, _, pushPendingBody_of_some hp hempty⟩⟩

@[simp] theorem pushPendingBody_quicheConn :
    (pushPendingBody ref connHandle streamId st).conn.quicheConn = st.conn.quicheConn := by
  obtain ⟨_, heq | ⟨_, _, heq⟩⟩ := pushPendingBody_cases ref connHandle streamId st
  · rw [heq]
  · rw [heq]

@[simp] theorem dropEmptyBody_quicheConn (streamId : ℕ) (c : H3Connection Q) :
    (c.dropEmptyBody streamId).quicheConn = c.quicheConn := by
  unfold dropEmptyBody
  split_ifs <;> rfl

end PendingBody

/-- A stream left unread for lack of budget or credit. -/
def leaveUnread (streamId : ℕ) (st : Polling Q) : Polling Q :=
  { st with conn := { st.conn with pendingReadable := st.conn.pendingReadable.insert streamId } }

/-- What a buffer of body bytes was filled with, and how that ended. -/
def fill (streamId : ℕ) (st : Polling Q) : (Bool × Option H3Error) × H3Connection Q :=
  fillBody streamId (st.conn.creditOf streamId) (Quiche.rounds st.conn.quicheConn) st.conn

def isFullOn (streamId : ℕ) (c : H3Connection Q) : Bool :=
  (c.pendingBodyData.lookup streamId).elim false PendingRecvBody.isFull

/-- With the buffer filled; an empty one is given back. -/
def filled (streamId : ℕ) (st : Polling Q) : Polling Q :=
  { st with conn := (fill streamId st).2.dropEmptyBody streamId }

/-- Report a buffer that is full, or that holds the rest of what has arrived. -/
def reportFilled (streamId : ℕ) (st : Polling Q) : Polling Q :=
  if isFullOn streamId (fill streamId st).2 || (fill streamId st).1.1 then
    pushPendingBody ref connHandle streamId (filled streamId st)
  else filled streamId st

/-- Report a failed read, if there is budget for it after the bytes read before. -/
def reportError (streamId : ℕ) (e : H3Error) (st : Polling Q) : Polling Q :=
  let st := pushPendingBody ref connHandle streamId st
  if 0 < st.remaining then pushApp ref (.error connHandle streamId 0 e.display) st else st

def dataStep (streamId : ℕ) (st : Polling Q) : Polling Q × Bool :=
  if st.remaining = 0 ∨ st.conn.creditOf streamId = 0 then (leaveUnread streamId st, false)
  else
    match (fill streamId st).1.2 with
    | some e =>
      (reportError ref connHandle streamId e (reportFilled ref connHandle streamId st), false)
    | none => (reportFilled ref connHandle streamId st,
        isFullOn streamId (fill streamId st).2 && !(fill streamId st).1.1)

theorem dataLoop_eq (streamId fuel : ℕ) (st : Polling Q) :
    dataLoop ref connHandle streamId fuel st =
      Loop.run (dataStep ref connHandle streamId) fuel st := by
  induction fuel generalizing st with
  | zero => rfl
  | succ fuel ih =>
    have hstep := dataStep.eq_def ref connHandle streamId st
    unfold dataLoop Loop.run
    dsimp only
    by_cases hstop : st.remaining = 0 ∨ st.conn.creditOf streamId = 0
    · rw [if_pos hstop] at hstep ⊢
      rw [hstep]
      rfl
    · rw [if_neg hstop] at hstep ⊢
      rcases hr : fillBody streamId (st.conn.creditOf streamId)
        (Quiche.rounds st.conn.quicheConn) st.conn with ⟨⟨drained, error⟩, conn⟩
      have hfill : fill streamId st = ((drained, error), conn) := hr
      simp only [reportFilled, reportError, filled, hfill] at hstep
      cases error with
      | some e =>
        rw [hstep]
        rfl
      | none =>
        have hfull : (conn.pendingBodyData.lookup streamId).elim false PendingRecvBody.isFull =
            isFullOn streamId conn := rfl
        rw [hstep]
        simp only [hfull, ih]
        cases drained with
        | true => simp
        | false => cases isFullOn streamId conn <;> simp

/-- One event of quiche's HTTP/3 layer, or one stream that was left unread. -/
def pollStep (acc : PollAcc Q) : PollAcc Q × Bool :=
  if acc.poll.remaining = 0 then (acc, false)
  else
    let (answer, conn) := acc.poll.conn.nextH3Event
    let st := { acc.poll with conn }
    match answer with
    | .ok (streamId, .headers list moreFrames) =>
      let st := pushPendingBody ref connHandle streamId st
      let st := { st with conn := st.conn.noteHeaders streamId }
      ({ acc with poll := pushApp ref (.ofHeaders connHandle streamId list !moreFrames) st }, true)
    | .ok (streamId, .data) =>
      ({ acc with poll := dataLoop ref connHandle streamId (Quiche.rounds conn.quicheConn) st },
        true)
    | .ok (streamId, .finished) =>
      let st := { st with conn := { st.conn with
        readCredit := st.conn.readCredit.erase streamId
        pendingReadable := st.conn.pendingReadable.filter (· ≠ streamId) } }
      let st := pushPendingBody ref connHandle streamId st
      ({ acc with
        poll := pushApp ref (.finished connHandle streamId) st
        closedCandidates := acc.closedCandidates ++ [streamId] }, true)
    | .ok (streamId, .reset errorCode) =>
      let st := pushPendingBody ref connHandle streamId st
      ({ acc with
        poll := pushApp ref (.reset connHandle streamId errorCode) st
        resetStreams := acc.resetStreams ++ [streamId] }, true)
    | .ok (_, .priorityUpdate) => ({ acc with poll := st }, true)
    | .ok (streamId, .goAway) =>
      ({ acc with poll := pushApp ref (.goaway connHandle streamId) st }, true)
    | .error .done => ({ acc with poll := st }, false)
    | .error e => ({ acc with poll := pushApp ref (.error connHandle (-1) 0 e.display) st }, false)

theorem pollLoop_eq (fuel : ℕ) (acc : PollAcc Q) :
    pollLoop ref connHandle fuel acc = Loop.run (pollStep ref connHandle) fuel acc := by
  induction fuel generalizing acc with
  | zero => rfl
  | succ fuel ih =>
    unfold pollLoop Loop.run pollStep
    by_cases hstop : acc.poll.remaining = 0
    · simp [hstop]
    · simp only [if_neg hstop, ih]
      generalize acc.poll.conn.nextH3Event = r
      obtain ⟨answer, conn⟩ := r
      rcases answer with e | ⟨streamId, event⟩
      · cases e <;> rfl
      · cases event <;> rfl

/-- The HTTP/3 events of a poll. -/
def polled (appEventBudget : ℕ) (c : H3Connection Q) (events : List Emitted) : PollAcc Q :=
  let acc : PollAcc Q := ⟨⟨c, appEventBudget, events⟩, [], []⟩
  if 0 < appEventBudget ∧ c.h3Conn then pollLoop ref connHandle (Quiche.rounds c.quicheConn) acc
  else acc

def PollAcc.cleared (acc : PollAcc Q) : H3Connection Q :=
  acc.closedCandidates.foldl clearStreamTrackingIfClosed
    (acc.resetStreams.foldl clearStreamTracking acc.poll.conn)

def readEvents (appEventBudget : ℕ) (c : H3Connection Q) (events : List Emitted) :
    H3Connection Q × List Emitted :=
  let acc := polled ref connHandle appEventBudget c events
  if 0 < acc.poll.remaining then
    pollDatagramEvents ref connHandle acc.poll.remaining acc.cleared acc.poll.events
  else (acc.cleared, acc.poll.events)

theorem pollH3Events_eq (appEventBudget : ℕ) (c : H3Connection Q) (events : List Emitted) :
    pollH3Events ref connHandle appEventBudget c events =
      pollDrainEvents ref connHandle (readEvents ref connHandle appEventBudget c events).1
        (readEvents ref connHandle appEventBudget c events).2 := rfl

omit [Quiche Q] in
theorem clearStreamTracking_quicheConn (ids : List ℕ) (c : H3Connection Q) :
    (ids.foldl clearStreamTracking c).quicheConn = c.quicheConn := by
  induction ids generalizing c with
  | nil => rfl
  | cons id ids ih => exact ih _

theorem clearStreamTrackingIfClosed_quicheConn (ids : List ℕ) (c : H3Connection Q) :
    (ids.foldl clearStreamTrackingIfClosed c).quicheConn = c.quicheConn := by
  induction ids generalizing c with
  | nil => rfl
  | cons id ids ih =>
    refine (ih _).trans ?_
    unfold clearStreamTrackingIfClosed
    split_ifs <;> rfl

end Http3.H3Connection
