import Http3.Lib.Sweep
import Http3.ReceiveWindow
import Http3.QuicPendingDrains
import Http3.H3Server.Frame
import Http3.H3Server.Connections
import Http3.QuicServer.Handler

/-! How many events one poll of a connection, and one sweep over the connections of a
server, may append for the application. -/

namespace Http3

/-- Events that stay in a batch; drains may be withdrawn again. -/
def lasting (events : List Emitted) : ℕ := events.countP fun e => e.event.eventType != .drain

/-- The budget falls by one with every event that is appended, and drains are not among
them. -/
structure Charged (left : ℕ) (events : List Emitted) (left' : ℕ)
    (events' : List Emitted) : Prop where
  spends : left' ≤ left
  total : events'.length + left' = events.length + left
  drains : drainsIn events' = drainsIn events

section Charged

variable {left left' left'' : ℕ} {events events' events'' : List Emitted} {ref : ConnRef}
  {event : JsH3Event}

theorem Charged.refl : Charged left events left events := ⟨Nat.le_refl left, rfl, rfl⟩

theorem Charged.trans (h : Charged left events left' events')
    (h' : Charged left' events' left'' events'') : Charged left events left'' events'' :=
  ⟨h'.spends.trans h.spends, h'.total.trans h.total, h'.drains.trans h.drains⟩

theorem charged_pushFor (hleft : 0 < left) (hkind : event.eventType ≠ .drain) :
    Charged left events (left - 1) (pushFor ref event events) := by
  constructor
  · exact Nat.sub_le left 1
  · simp [pushFor]
    omega
  · exact drainsIn_pushFor hkind

theorem charged_pushCoalescing {pushed : Bool} (hleft : 0 < left) (hkind : event.eventType ≠ .drain)
    (hpush : pushCoalescing ref event events = (pushed, events')) :
    Charged left events (if pushed then left - 1 else left) events' := by
  rcases pushCoalescing_cases ref event events with heq | ⟨front, last, rfl, hcoalesces, heq⟩
  · obtain ⟨rfl, rfl⟩ := Prod.mk.inj (heq.symm.trans hpush)
    exact charged_pushFor hleft hkind
  · obtain ⟨rfl, rfl⟩ := Prod.mk.inj (heq.symm.trans hpush)
    refine ⟨Nat.le_refl left, by simp, ?_⟩
    simp [drainsIn, JsH3Event.eventType_of_coalesces hcoalesces]

theorem Charged.length_le (h : Charged left events left' events') :
    events'.length ≤ events.length + left := by
  have htotal := h.total
  omega

theorem lasting_add_drains (events : List Emitted) :
    lasting events + (drainsIn events).length = events.length := by
  unfold lasting drainsIn
  induction events with
  | nil => rfl
  | cons e events ih =>
    by_cases hkind : e.event.eventType = .drain
    · simp [hkind]
      omega
    · simp [hkind]
      omega

theorem lasting_le_length (events : List Emitted) : lasting events ≤ events.length :=
  List.countP_le_length

theorem Grows.lasting_le {allowed : Emitted → Prop} (h : Grows allowed events events') :
    lasting events ≤ lasting events' := by
  induction h with
  | refl => exact Nat.le_refl _
  | push _ _ ih =>
    refine ih.trans ?_
    unfold lasting
    rw [List.countP_append]
    exact Nat.le_add_right _ _
  | refill _ _ ih => simpa [lasting, List.countP_append, List.countP_cons] using ih
  | @withdraw batch keep _ hkeep ih =>
    refine ih.trans (Nat.le_of_eq ?_)
    unfold lasting
    rw [List.countP_filter]
    refine List.countP_congr fun e he => ?_
    cases hk : keep e with
    | true => simp
    | false => simp [hkeep e he hk]

end Charged

namespace H3Connection

variable {Q : Type} [Quiche Q] (ref : ConnRef) (connHandle : UInt32)

variable {ref connHandle}

/-- One connection being polled comes out of another. -/
abbrev Polling.Charged (st st' : Polling Q) : Prop :=
  Http3.Charged st.remaining st.events st'.remaining st'.events

section Push

variable {st : Polling Q} {streamId : ℕ} {event : JsH3Event}

omit [Quiche Q]

theorem pushPendingBody_charged (hleft : 0 < st.remaining) :
    st.Charged (pushPendingBody ref connHandle streamId st) := by
  cases hp : st.conn.pendingBodyData.lookup streamId with
  | none =>
    rw [pushPendingBody_of_none hp]
    exact .refl
  | some pending =>
    cases hempty : pending.data.isEmpty with
    | true =>
      rw [pushPendingBody_of_empty hp hempty]
      exact .refl
    | false =>
      rw [pushPendingBody_of_some hp hempty]
      exact charged_pushCoalescing hleft (by simp [JsH3Event.ofData]) rfl

theorem pushApp_charged (hleft : 0 < st.remaining) (hkind : event.eventType ≠ .drain) :
    st.Charged (pushApp ref event st) :=
  charged_pushFor hleft hkind

end Push

section DataLoop

variable {st : Polling Q} {streamId : ℕ}

theorem reportFilled_charged (hleft : 0 < st.remaining) :
    st.Charged (reportFilled ref connHandle streamId st) := by
  have hfilled : st.Charged (filled streamId st) := .refl
  unfold reportFilled
  split_ifs
  · exact hfilled.trans (pushPendingBody_charged hleft)
  · exact hfilled

theorem reportError_charged (hleft : 0 < st.remaining) (e : H3Error) :
    st.Charged (reportError ref connHandle streamId e
      (reportFilled ref connHandle streamId st)) := by
  -- bytes that were reported already are not reported again
  have hbody : st.Charged (pushPendingBody ref connHandle streamId
      (reportFilled ref connHandle streamId st)) := by
    have hreported : st.Charged (reportFilled ref connHandle streamId st) :=
      reportFilled_charged hleft
    unfold reportFilled at hreported ⊢
    split_ifs at hreported ⊢
    · rw [pushPendingBody_of_none pushPendingBody_lookup]
      exact hreported
    · exact hreported.trans (pushPendingBody_charged hleft)
  unfold reportError
  dsimp only
  split_ifs with hmore
  · exact hbody.trans (pushApp_charged hmore (by simp [JsH3Event.error]))
  · exact hbody

theorem dataLoop_charged (fuel : ℕ) : st.Charged (dataLoop ref connHandle streamId fuel st) := by
  rw [dataLoop_eq]
  have hkeeps : ∀ st', st.Charged st' → st.Charged (dataStep ref connHandle streamId st').1 := by
    intro st' h
    unfold dataStep
    split_ifs with hstop
    · exact h
    · have hleft : 0 < st'.remaining := by omega
      split
      · exact h.trans (reportError_charged hleft _)
      · exact h.trans (reportFilled_charged hleft)
  exact Loop.run_keeps hkeeps fuel .refl

end DataLoop

variable (ref connHandle) in
theorem pollDatagramEvents_charged (left : ℕ) (c : H3Connection Q) (events : List Emitted) :
    ∃ left', Charged left events left' (pollDatagramEvents ref connHandle left c events).2 := by
  refine pollDatagrams_induction ref connHandle (q := c.quicheConn)
    (P := fun left' _ after => Charged left events left' after) ?_ ?_ left .refl
  · exact fun _ _ _ h => h
  · exact fun left' _ _ _ h =>
      h.trans (charged_pushFor (Nat.succ_pos left') (by simp [JsH3Event.datagram]))

/-- No stream has bytes of its body collected that were not reported. -/
def NoneCollected (c : H3Connection Q) : Prop :=
  ∀ streamId, c.pendingBodyData.lookup streamId = none

def NoneCollectedBut (streamId : ℕ) (c : H3Connection Q) : Prop :=
  ∀ id, id ≠ streamId → c.pendingBodyData.lookup id = none

/-- With no bytes collected, a turn of the poll loop reports its own event only. -/
theorem pollStep_charged {acc : PollAcc Q} (hleft : 0 < acc.poll.remaining)
    (h : acc.poll.conn.NoneCollected) :
    acc.poll.Charged (pollStep ref connHandle acc).1.poll := by
  have hnext : acc.poll.conn.nextH3Event.2.NoneCollected := by
    unfold nextH3Event
    split <;> exact h
  unfold pollStep
  rw [if_neg (by omega)]
  generalize acc.poll.conn.nextH3Event = answered at hnext ⊢
  obtain ⟨answer, conn⟩ := answered
  dsimp only at hnext ⊢
  -- the turns that would report bytes collected before their own event
  have hboth : ∀ (conn : H3Connection Q) (streamId : ℕ) (event : JsH3Event),
      conn.NoneCollected → event.eventType ≠ .drain → acc.poll.Charged
        (pushApp ref event (pushPendingBody ref connHandle streamId { acc.poll with conn })) := by
    intro conn streamId event hnone hkind
    rw [pushPendingBody_of_none (hnone streamId)]
    exact charged_pushFor hleft hkind
  cases answer with
  | error e =>
    cases e with
    | done => exact .refl
    | _ => exact charged_pushFor hleft (by simp [JsH3Event.error])
  | ok found =>
    obtain ⟨streamId, event⟩ := found
    cases event with
    | headers list moreFrames => exact hboth conn streamId _ hnext (by simp [JsH3Event.ofHeaders])
    | data =>
      have hdata : ({ acc.poll with conn } : Polling Q).Charged (dataLoop ref connHandle streamId
          (Quiche.rounds conn.quicheConn) { acc.poll with conn }) := dataLoop_charged _
      exact hdata
    | finished => exact hboth _ streamId _ hnext (by simp [JsH3Event.finished])
    | reset errorCode => exact hboth conn streamId _ hnext (by simp [JsH3Event.reset])
    | priorityUpdate => exact .refl
    | goAway => exact charged_pushFor hleft (by simp [JsH3Event.goaway])

theorem pollStep_spent {acc : PollAcc Q} (h : ¬0 < acc.poll.remaining) :
    pollStep ref connHandle acc = (acc, false) := by
  unfold pollStep
  rw [if_pos (by omega)]

section Collected

variable {c : H3Connection Q} {streamId credit : ℕ}

theorem fillBody_others (fuel : ℕ) (h : c.NoneCollectedBut streamId) :
    (fillBody streamId credit fuel c).2.NoneCollectedBut streamId := by
  have hinsert : ∀ (c : H3Connection Q) (pending : PendingRecvBody), c.NoneCollectedBut streamId →
      NoneCollectedBut streamId
        { c with pendingBodyData := c.pendingBodyData.insert streamId pending } := by
    intro c pending h id hne
    show (c.pendingBodyData.insert streamId pending).lookup id = none
    rw [AList.lookup_insert_ne hne]
    exact h id hne
  induction fuel generalizing c with
  | zero => exact h
  | succ fuel ih =>
    unfold fillBody
    dsimp only
    split_ifs
    · exact hinsert c _ h
    · split
      · split_ifs
        · exact hinsert _ _ (hinsert c _ h)
        · exact ih (hinsert _ _ (hinsert c _ h))
      · exact hinsert c _ h
      · exact hinsert c _ h

def roomOn (streamId credit : ℕ) (c : H3Connection Q) : ℕ :=
  let pending := (c.pendingBodyData.lookup streamId).getD ⟨[], min h3RecvChunk credit⟩
  pending.capacity - pending.data.length

theorem fillBody_ends (hnever : NeverEmpty Q) (fuel : ℕ) (hroom : roomOn streamId credit c < fuel) :
    isFullOn streamId (fillBody streamId credit fuel c).2 = true ∨
      (fillBody streamId credit fuel c).1.1 = true ∨
      (fillBody streamId credit fuel c).1.2.isSome = true := by
  induction fuel generalizing c with
  | zero => exact absurd hroom (Nat.not_lt_zero _)
  | succ fuel ih =>
    unfold roomOn at hroom
    unfold fillBody
    dsimp only at hroom ⊢
    generalize (c.pendingBodyData.lookup streamId).getD ⟨[], min h3RecvChunk credit⟩ =
      pending at hroom ⊢
    split_ifs with hfull
    · refine .inl ?_
      show ((c.pendingBodyData.insert streamId pending).lookup streamId).elim false _ = true
      rw [AList.lookup_insert]
      exact hfull
    · have hspace : 0 < pending.capacity - pending.data.length := by
        simp [PendingRecvBody.isFull] at hfull
        omega
      split
      case _ bytes q hread =>
        have hbytes : bytes ≠ [] := by
          rintro rfl
          exact hnever _ _ _ hspace (congrArg Prod.fst hread)
        have hsome : 0 < (bytes.take (pending.capacity - pending.data.length)).length := by
          have hpos := List.length_pos_iff.2 hbytes
          rw [List.length_take]
          omega
        rw [if_neg (by omega)]
        apply ih
        unfold roomOn
        simp only [AList.lookup_insert, Option.getD_some, List.length_append]
        omega
      case _ => exact .inr (.inl rfl)
      case _ => exact .inr (.inr rfl)

omit [Quiche Q] in
theorem pushPendingBody_noneCollected {st : Polling Q} (h : st.conn.NoneCollectedBut streamId) :
    (pushPendingBody ref connHandle streamId st).conn.NoneCollected := by
  intro id
  by_cases hid : id = streamId
  · rw [hid]
    exact pushPendingBody_lookup
  · have herase : (st.conn.pendingBodyData.erase streamId).lookup id = none := by
      rw [AList.lookup_erase_ne hid]
      exact h id hid
    cases hp : st.conn.pendingBodyData.lookup streamId with
    | none =>
      rw [pushPendingBody_of_none hp]
      exact h id hid
    | some pending =>
      cases hempty : pending.data.isEmpty with
      | true =>
        rw [pushPendingBody_of_empty hp hempty]
        exact herase
      | false =>
        rw [pushPendingBody_of_some hp hempty]
        exact herase

omit [Quiche Q] in
theorem dropEmptyBody_others (h : c.NoneCollectedBut streamId) :
    (c.dropEmptyBody streamId).NoneCollectedBut streamId := by
  unfold dropEmptyBody
  split_ifs
  · intro id hne
    show (c.pendingBodyData.erase streamId).lookup id = none
    rw [AList.lookup_erase_ne hne]
    exact h id hne
  · exact h

variable (hnever : NeverEmpty Q) (hrounds : ∀ q : Q, h3RecvChunk < Quiche.rounds q)
include hnever hrounds

theorem dataStep_noneCollected {st : Polling Q} (h : st.conn.NoneCollected) :
    (dataStep ref connHandle streamId st).1.conn.NoneCollected := by
  have hothers : (filled streamId st).conn.NoneCollectedBut streamId :=
    dropEmptyBody_others (fillBody_others _ fun id _ => h id)
  have hroom : roomOn streamId (st.conn.creditOf streamId) st.conn <
      Quiche.rounds st.conn.quicheConn := by
    have henough := hrounds st.conn.quicheConn
    unfold roomOn
    rw [h streamId]
    dsimp only [Option.getD_none]
    omega
  have hends : isFullOn streamId (fill streamId st).2 = true ∨ (fill streamId st).1.1 = true ∨
      (fill streamId st).1.2.isSome = true := fillBody_ends hnever _ hroom
  unfold dataStep
  split_ifs
  · exact h
  · split
    case _ e herror =>
      have hreported : (reportFilled ref connHandle streamId st).conn.NoneCollectedBut
          streamId := by
        unfold reportFilled
        split_ifs
        · exact fun id _ => pushPendingBody_noneCollected hothers id
        · exact hothers
      have hbody : (pushPendingBody ref connHandle streamId
          (reportFilled ref connHandle streamId st)).conn.NoneCollected :=
        pushPendingBody_noneCollected hreported
      unfold reportError
      dsimp only
      split_ifs
      · exact hbody
      · exact hbody
    case _ hnone =>
      unfold reportFilled
      rw [if_pos]
      · exact pushPendingBody_noneCollected hothers
      · simpa [hnone] using hends

theorem dataLoop_noneCollected (fuel : ℕ) {st : Polling Q} (h : st.conn.NoneCollected) :
    (dataLoop ref connHandle streamId fuel st).conn.NoneCollected := by
  rw [dataLoop_eq]
  have hkeeps : ∀ st : Polling Q, st.conn.NoneCollected →
      (dataStep ref connHandle streamId st).1.conn.NoneCollected :=
    fun _ h => dataStep_noneCollected hnever hrounds h
  exact Loop.run_keeps hkeeps fuel h

theorem pollStep_noneCollected {acc : PollAcc Q} (h : acc.poll.conn.NoneCollected) :
    (pollStep ref connHandle acc).1.poll.conn.NoneCollected := by
  have hnext : acc.poll.conn.nextH3Event.2.NoneCollected := by
    unfold nextH3Event
    split
    · exact h
    · exact h
  unfold pollStep
  split_ifs
  · exact h
  · generalize acc.poll.conn.nextH3Event = answered at hnext ⊢
    obtain ⟨answer, conn⟩ := answered
    dsimp only at hnext ⊢
    have hquiet : ∀ (conn : H3Connection Q) (streamId : ℕ), conn.NoneCollected →
        (pushPendingBody ref connHandle streamId { acc.poll with conn }).conn.NoneCollected :=
      fun conn streamId h => pushPendingBody_noneCollected fun id _ => h id
    cases answer with
    | error e =>
      cases e with
      | done => exact hnext
      | _ => exact hnext
    | ok found =>
      obtain ⟨streamId, event⟩ := found
      cases event with
      | headers list moreFrames => exact hquiet conn streamId hnext
      | data =>
        have hdata : (dataLoop ref connHandle streamId (Quiche.rounds conn.quicheConn)
            { acc.poll with conn }).conn.NoneCollected :=
          dataLoop_noneCollected hnever hrounds _ hnext
        exact hdata
      | finished => exact hquiet _ streamId hnext
      | reset errorCode => exact hquiet conn streamId hnext
      | priorityUpdate => exact hnext
      | goAway => exact hnext

theorem pollLoop_exact (fuel : ℕ) {acc : PollAcc Q} (h : acc.poll.conn.NoneCollected) :
    acc.poll.Charged (pollLoop ref connHandle fuel acc).poll ∧
      (pollLoop ref connHandle fuel acc).poll.conn.NoneCollected := by
  rw [pollLoop_eq]
  have hkeeps : ∀ acc' : PollAcc Q, (acc.poll.Charged acc'.poll ∧ acc'.poll.conn.NoneCollected) →
      (acc.poll.Charged (pollStep ref connHandle acc').1.poll ∧
        (pollStep ref connHandle acc').1.poll.conn.NoneCollected) := by
    intro acc' ⟨hcharged, hnone⟩
    refine ⟨?_, pollStep_noneCollected hnever hrounds hnone⟩
    by_cases hleft : 0 < acc'.poll.remaining
    · exact hcharged.trans (pollStep_charged hleft hnone)
    · rwa [pollStep_spent hleft]
  exact Loop.run_keeps hkeeps fuel ⟨.refl, h⟩

end Collected

section Clearing

variable {c : H3Connection Q}

omit [Quiche Q] in
theorem clearStreamTracking_noneCollected (h : c.NoneCollected) (streamId : ℕ) :
    (c.clearStreamTracking streamId).NoneCollected := by
  intro id
  show (c.pendingBodyData.erase streamId).lookup id = none
  by_cases hid : id = streamId
  · rw [hid, AList.lookup_erase]
  · rw [AList.lookup_erase_ne hid]
    exact h id

omit [Quiche Q] in
theorem foldl_noneCollected {f : H3Connection Q → ℕ → H3Connection Q}
    (hf : ∀ c, c.NoneCollected → ∀ id, (f c id).NoneCollected) (ids : List ℕ)
    (h : c.NoneCollected) :
    (ids.foldl f c).NoneCollected := by
  induction ids generalizing c with
  | nil => exact h
  | cons id ids ih => exact ih (hf c h id)

theorem PollAcc.cleared_noneCollected {acc : PollAcc Q} (h : acc.poll.conn.NoneCollected) :
    acc.cleared.NoneCollected := by
  apply foldl_noneCollected
  · intro c h id
    unfold clearStreamTrackingIfClosed
    split_ifs
    · exact clearStreamTracking_noneCollected h id
    · exact h
  · exact foldl_noneCollected (fun _ h id => clearStreamTracking_noneCollected h id) _ h

theorem pollWritable_noneCollected (h : c.NoneCollected) (fuel : ℕ) (events : List Emitted) :
    (pollWritable ref connHandle fuel c events).1.NoneCollected := by
  induction fuel generalizing c events with
  | zero => exact h
  | succ fuel ih =>
    unfold pollWritable
    split
    · exact h
    · dsimp only
      split
      · apply ih
        apply clearStreamTracking_noneCollected
        exact h
      · split_ifs
        · apply ih
          exact h
        · apply ih
          exact h

theorem pollDrainEvents_noneCollected (h : c.NoneCollected) (events : List Emitted) :
    (pollDrainEvents ref connHandle c events).1.NoneCollected :=
  pollWritable_noneCollected
    (foldl_noneCollected (fun _ h id => clearStreamTracking_noneCollected h id) _ h) _ events

theorem readEvents_charged (hnever : NeverEmpty Q)
    (hrounds : ∀ q : Q, h3RecvChunk < Quiche.rounds q)
    (h : c.NoneCollected) (budget : ℕ) (events : List Emitted) :
    (∃ left, Charged budget events left (readEvents ref connHandle budget c events).2) ∧
      (readEvents ref connHandle budget c events).1.NoneCollected := by
  have hpolled : Charged budget events (polled ref connHandle budget c events).poll.remaining
      (polled ref connHandle budget c events).poll.events ∧
      (polled ref connHandle budget c events).poll.conn.NoneCollected := by
    unfold polled
    dsimp only
    split_ifs
    · have hstart : (⟨⟨c, budget, events⟩, [], []⟩ : PollAcc Q).poll.conn.NoneCollected := h
      exact pollLoop_exact hnever hrounds _ hstart
    · exact ⟨.refl, h⟩
  obtain ⟨hcharged, hnone⟩ := hpolled
  have hcleared := PollAcc.cleared_noneCollected hnone
  unfold readEvents
  dsimp only
  split_ifs
  · obtain ⟨left, hrest⟩ := pollDatagramEvents_charged ref connHandle
      (polled ref connHandle budget c events).poll.remaining
      (polled ref connHandle budget c events).cleared
      (polled ref connHandle budget c events).poll.events
    exact ⟨⟨left, hcharged.trans hrest⟩, hcleared⟩
  · exact ⟨⟨_, hcharged⟩, hcleared⟩

/-- No operation leaves bytes of a body behind that it collected. -/
theorem noneCollected_invariant (hnever : NeverEmpty Q)
    (hrounds : ∀ q : Q, h3RecvChunk < Quiche.rounds q) :
    ConnInvariant (NoneCollected (Q := Q)) where
  new _ _ _ _ := rfl
  apply use c h := by
    cases use with
    | pollH3Events ref connHandle budget events =>
      exact pollDrainEvents_noneCollected
        (readEvents_charged hnever hrounds h budget events).2 _
    | pollDrainEvents ref connHandle events => exact pollDrainEvents_noneCollected h events
    | streamClose streamId errorCode => exact clearStreamTracking_noneCollected h streamId
    | _ =>
      -- the others do not touch collected bytes, on any of their paths
      dsimp only [Use.apply, recv, initH3, addReadCredit, updateSessionTicket, sendRequest,
        sendResponse, sendBodyArcbuf, sendTrailers, sendGoaway, sendDatagramChunk, queuePing, send]
      repeat' split
      all_goals exact h

end Clearing

end H3Connection

namespace QuicConnection

variable {Q : Type} [Quiche Q] {ref : ConnRef} {connHandle : UInt32}

theorem Reads.charged {st st' : Polling Q} (h : Reads ref connHandle st st') :
    Charged st.remaining st.events st'.remaining st'.events := by
  induction h with
  | refl => exact .refl
  | tail _ hpart ih =>
    cases hpart with
    | calls => exact ih
    | notes => exact ih
    | reports hleft _ _ hdrain => exact ih.trans (charged_pushFor hleft hdrain)

theorem readEvents_charged (budget : ℕ) (c : QuicConnection Q) (events : List Emitted) :
    ∃ left, Charged budget events left (readEvents ref connHandle budget c events).2 := by
  obtain ⟨left, hreads⟩ := readEvents_reads ref connHandle budget c events
  exact ⟨left, hreads.charged⟩

end QuicConnection

theorem Charged.added {left left' : ℕ} {events events' : List Emitted}
    (h : Charged left events left' events') :
    events'.length - events.length ≤ left ∧
      lasting events + (events'.length - events.length) = lasting events' := by
  obtain ⟨hspends, htotal, hdrains⟩ := h
  have hbefore := lasting_add_drains events
  have hafter := lasting_add_drains events'
  rw [hdrains] at hafter
  omega

theorem lasting_foldl_pushFor (ref : ConnRef) (event : ℕ → JsH3Event) (ds : List ℕ)
    (batch : List Emitted) :
    lasting batch ≤ lasting (ds.foldl (fun batch d => pushFor ref (event d) batch) batch) := by
  induction ds generalizing batch with
  | nil => exact Nat.le_refl _
  | cons d ds ih =>
    have hpush : Grows (fun _ => True) batch (pushFor ref (event d) batch) :=
      Grows.refl.pushFor trivial
    exact hpush.lasting_le.trans (ih _)

/-- Collecting events is a sweep over the connections, whatever is counted in it. -/
theorem collectEvents_sweeps {S C : Type} {get : S → ℕ → Option C} {poll : S → ℕ → ℕ → C → S}
    {size : S → ℕ} (spent : S → ℕ → ℕ → C → ℕ) (budget : ℕ) (handles : List ℕ) (s : S) :
    collectEvents get poll size budget handles s = (Sweep.run (fun left handle s =>
      (get s handle).map fun c => (poll s handle left c, spent s handle left c))
      size budget handles budget s).1 := by
  unfold collectEvents
  split_ifs with hzero
  · rw [hzero, Sweep.run_zero]
  · refine (Sweep.run_of_loop (fun _ _ => rfl) ?_ _ _ s).symm
    intro handle handles left s
    rw [collectLoop]
    cases get s handle <;> rfl

namespace H3Server

variable {Q : Type} [Quiche Q] (budget now : ℕ)

/-- One connection of a sweep: its poll, and the application events it appended. -/
def visitConn (left handle : ℕ) (s : H3Server Q) : Option (H3Server Q × ℕ) :=
  (s.connMap.get handle).map fun conn =>
    (s.pollConn handle left now conn,
      (conn.readEvents ⟨handle, conn.uid⟩ (globalHandle s.handleOffset handle) left
        s.batch).2.length -
        s.batch.length)

/-- Application events that a call of `collectAppEvents` appends, over all connections. -/
def appEventsCollected (s : H3Server Q) : ℕ :=
  (Sweep.run (visitConn now) (fun s => s.batch.length) budget s.connMap.handles budget s).2

variable {now}

theorem lasting_pollConn (s : H3Server Q) (handle left : ℕ) (conn : H3Connection Q) :
    lasting (conn.readEvents ⟨handle, conn.uid⟩ (globalHandle s.handleOffset handle)
      left s.batch).2 ≤
      lasting (s.pollConn handle left now conn).batch := by
  unfold pollConn
  dsimp only
  rw [H3Connection.pollH3Events_eq]
  generalize H3Connection.readEvents ⟨handle, conn.uid⟩ (globalHandle s.handleOffset handle) left
    conn s.batch = polled
  have hdrains : Grows (Polls ⟨handle, conn.uid⟩ (globalHandle s.handleOffset handle)) polled.2 _ :=
    (H3Connection.pollDrainEvents_spec polled.1 polled.2).events
  generalize H3Connection.pollDrainEvents ⟨handle, conn.uid⟩ (globalHandle s.handleOffset handle)
    polled.1 polled.2 = drained at hdrains ⊢
  obtain ⟨conn', batch⟩ := drained
  refine le_trans ?_ (lasting_foldl_pushFor _ _ _ _)
  refine (hdrains.withdraw ?_).lasting_le
  intro e _ hkeep
  by_contra hkind
  simp [hkind] at hkeep

theorem visitConn_some {left handle spent : ℕ} {s s' : H3Server Q}
    (h : visitConn now left handle s = some (s', spent)) :
    ∃ conn, s.connMap.get handle = some conn ∧ s' = s.pollConn handle left now conn ∧
      spent = (conn.readEvents ⟨handle, conn.uid⟩ (globalHandle s.handleOffset handle) left
        s.batch).2.length - s.batch.length := by
  unfold visitConn at h
  cases hget : s.connMap.get handle with
  | none =>
    rw [hget] at h
    cases h
  | some conn =>
    rw [hget] at h
    obtain ⟨hs, hspent⟩ := Prod.mk.inj (Option.some.inj h)
    exact ⟨conn, rfl, hs.symm, hspent.symm⟩

theorem visitConn_within (hnever : NeverEmpty Q)
    (hrounds : ∀ q : Q, h3RecvChunk < Quiche.rounds q) {left handle spent : ℕ} {s s' : H3Server Q}
    (hnone : s.connMap.All H3Connection.NoneCollected)
    (h : visitConn now left handle s = some (s', spent)) :
    spent ≤ left ∧ lasting s.batch + spent ≤ lasting s'.batch ∧
      s'.connMap.All H3Connection.NoneCollected := by
  obtain ⟨conn, hget, rfl, rfl⟩ := visitConn_some h
  obtain ⟨⟨_, hcharged⟩, -⟩ :=
    H3Connection.readEvents_charged hnever hrounds (hnone.get hget) left s.batch
  obtain ⟨hspent, hlasting⟩ := hcharged.added
  have hcourse := ((Serves.refl _ _ s).pollConn (.of_get hget) left now).toCourse
  exact ⟨hspent, hlasting ▸ lasting_pollConn s handle left conn,
    all_of_used (H3Connection.noneCollected_invariant hnever hrounds) hnone hcourse.used⟩

theorem appEventsCollected_le (hnever : NeverEmpty Q)
    (hrounds : ∀ q : Q, h3RecvChunk < Quiche.rounds q) {s : H3Server Q}
    (hnone : s.connMap.All H3Connection.NoneCollected) :
    s.appEventsCollected budget now ≤ budget :=
  Sweep.run_within (fun s : H3Server Q => lasting_le_length s.batch)
    (fun _ _ _ _ _ hnone h => visitConn_within hnever hrounds hnone h) s.connMap.handles hnone

end H3Server

namespace QuicServer

variable {Q : Type} [Quiche Q] (budget now : ℕ)

/-- One connection of a sweep: its poll, and the application events it appended. -/
def visitConn (left handle : ℕ) (s : QuicServer Q) : Option (QuicServer Q × ℕ) :=
  (s.connMap.get handle).map fun conn =>
    (s.pollConn handle left now conn,
      (conn.readEvents ⟨handle, conn.uid⟩ (globalHandle s.handleOffset handle) left
        s.batch).2.length -
        s.batch.length)

/-- Application events that a call of `collectAppEvents` appends, over all connections. -/
def appEventsCollected (s : QuicServer Q) : ℕ :=
  (Sweep.run (visitConn now) (fun s => s.batch.length) budget s.connMap.handles budget s).2

variable {now}

theorem lasting_pollConn (s : QuicServer Q) (handle left : ℕ) (conn : QuicConnection Q) :
    lasting (conn.readEvents ⟨handle, conn.uid⟩ (globalHandle s.handleOffset handle)
      left s.batch).2 ≤
      lasting (s.pollConn handle left now conn).batch := by
  unfold pollConn
  dsimp only
  rw [QuicConnection.pollQuicEvents_eq]
  generalize QuicConnection.readEvents ⟨handle, conn.uid⟩ (globalHandle s.handleOffset handle) left
    conn s.batch = polled
  refine le_trans ?_ (lasting_foldl_pushFor _ _ _ _)
  exact (BlockedStreams.probe_grows _ _ _ _ _ _).lasting_le

theorem visitConn_within {left handle spent : ℕ} {s s' : QuicServer Q}
    (h : visitConn now left handle s = some (s', spent)) :
    spent ≤ left ∧ lasting s.batch + spent ≤ lasting s'.batch := by
  unfold visitConn at h
  cases hget : s.connMap.get handle with
  | none =>
    rw [hget] at h
    cases h
  | some conn =>
    rw [hget] at h
    obtain ⟨rfl, rfl⟩ := Prod.mk.inj (Option.some.inj h)
    obtain ⟨_, hcharged⟩ := QuicConnection.readEvents_charged left conn s.batch
    obtain ⟨hspent, hlasting⟩ := hcharged.added
    exact ⟨hspent, hlasting ▸ lasting_pollConn s handle left conn⟩

theorem appEventsCollected_le (s : QuicServer Q) : s.appEventsCollected budget now ≤ budget := by
  have hvisit : ∀ left handle (s s' : QuicServer Q) spent, True →
      visitConn now left handle s = some (s', spent) →
      spent ≤ left ∧ lasting s.batch + spent ≤ lasting s'.batch ∧ True :=
    fun _ _ _ _ _ _ h => ⟨(visitConn_within h).1, (visitConn_within h).2, trivial⟩
  exact Sweep.run_within (fun s : QuicServer Q => lasting_le_length s.batch) hvisit
    s.connMap.handles trivial

end QuicServer

/-- A poll is its application events and then its look at blocked streams, and the former are
at most as many as the budget: on an HTTP/3 connection after any use, on a QUIC
connection in any state. The same holds of a sweep over the connections of a server, for HTTP/3
after any run of its worker. Asked of quiche is only that a body read which succeeds brings
bytes. -/
theorem event_budgets_hold {Q : Type} [Quiche Q] (hnever : NeverEmpty Q)
    (hrounds : ∀ q : Q, h3RecvChunk < Quiche.rounds q) :
    (∀ (uid : ℕ) (q : Q) (connId : Bytes) (uses : List (H3Connection.Use Q)) (ref : ConnRef)
        (connHandle : UInt32) (budget : ℕ) (events : List Emitted),
      let c := Runs.run H3Connection.Use.apply uses (.new uid q connId)
      c.pollH3Events ref connHandle budget events =
        H3Connection.pollDrainEvents ref connHandle (c.readEvents ref connHandle budget events).1
          (c.readEvents ref connHandle budget events).2 ∧
      (c.readEvents ref connHandle budget events).2.length ≤ events.length + budget) ∧
    (∀ (ref : ConnRef) (connHandle : UInt32) (budget : ℕ) (c : QuicConnection Q)
        (events : List Emitted),
      c.pollQuicEvents ref connHandle budget events =
        QuicConnection.pollDrainEvents ref connHandle (c.readEvents ref connHandle budget events).1
          (c.readEvents ref connHandle budget events).2 ∧
      (c.readEvents ref connHandle budget events).2.length ≤ events.length + budget) ∧
    (∀ (handleOffset maxConnections : UInt32) (disableRetry : Bool) (streamReadWindow : Option ℕ)
        (requireClientCert : Bool) (steps : List H3Worker.Step) (budget now : ℕ),
      let s : H3Server Q := (Runs.run H3Worker.step steps (.init handleOffset maxConnections
        disableRetry streamReadWindow requireClientCert)).server
      s.collectAppEvents budget now = (Sweep.run (H3Server.visitConn now)
        (fun s => s.batch.length) budget s.connMap.handles budget s).1 ∧
      s.appEventsCollected budget now ≤ budget) ∧
    (∀ (budget now : ℕ) (s : QuicServer Q),
      s.collectAppEvents budget now = (Sweep.run (QuicServer.visitConn now)
        (fun s => s.batch.length) budget s.connMap.handles budget s).1 ∧
      s.appEventsCollected budget now ≤ budget) := by
  have hkept := H3Connection.noneCollected_invariant hnever hrounds
  refine ⟨?_, ?_, ?_, ?_⟩
  · intro uid q connId uses ref connHandle budget events
    have hnone := Runs.run_invariant hkept.apply uses (hkept.new uid q connId)
    obtain ⟨⟨_, hcharged⟩, -⟩ :=
      H3Connection.readEvents_charged hnever hrounds hnone budget events
    exact ⟨rfl, hcharged.length_le⟩
  · intro ref connHandle budget c events
    obtain ⟨_, hcharged⟩ := QuicConnection.readEvents_charged budget c events
    exact ⟨QuicConnection.pollQuicEvents_eq ref connHandle budget c events, hcharged.length_le⟩
  · intro handleOffset maxConnections disableRetry streamReadWindow requireClientCert steps
      budget now
    refine ⟨collectEvents_sweeps _ budget _ _,
      H3Server.appEventsCollected_le budget hnever hrounds (H3Worker.run_all hkept steps ?_)⟩
    exact ⟨fun hget => nomatch hget⟩
  · intro budget now s
    exact ⟨collectEvents_sweeps _ budget _ _,
      QuicServer.appEventsCollected_le budget s⟩

/-- The peer sent headers, and four bytes and a FIN behind them; the headers were reported. -/
def uploading : H3Connection Bodied :=
  Runs.run H3Connection.Use.apply [.initH3, .pollH3Events ⟨0, 0⟩ 0 1 []]
    (.new 0 (.start [(0, .headers [] true), (0, .data), (0, .finished)] 4) [7])

theorem event_budgets_hold_uploading :
    (uploading.readEvents ⟨0, 0⟩ 0 1 []).2.map (·.event.eventType) = [.data] ∧
      (uploading.readEvents ⟨0, 0⟩ 0 1 []).2.length ≤ 1 := by
  have hrounds : ∀ q : Bodied, h3RecvChunk < Quiche.rounds q := by
    intro q
    show 64 * 1024 < 2 ^ 17
    decide
  refine ⟨by decide, ?_⟩
  exact ((event_budgets_hold Bodied.neverEmpty hrounds).1 0 _ [7] [.initH3, _] ⟨0, 0⟩ 0 1 []).2

end Http3
