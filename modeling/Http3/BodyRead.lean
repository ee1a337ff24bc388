import Http3.BodyView

/-! Reading the body of an HTTP/3 stream, buffer by buffer, within its credit. -/

namespace Http3

/-- A read of a body brings bytes, is blocked or fails. -/
def NeverEmpty (Q : Type) [Quiche Q] : Prop :=
  ∀ (q : Q) (streamId len : ℕ), 0 < len → (Quiche.h3RecvBody q streamId len).1 ≠ .ok []

namespace Logged

variable {server : Bool} {Q : Type} [Quiche Q] {p p' : Logged server Q} {streamId len : ℕ}
  {bytes : Bytes}

theorem h3RecvBody_length_le (h : Quiche.h3RecvBody p streamId len = (.ok bytes, p')) :
    bytes.length ≤ len := by
  have hresult : ((Quiche.h3RecvBody p.inner streamId len).1.map (·.take len)) = .ok bytes :=
    congrArg Prod.fst h
  cases hinner : (Quiche.h3RecvBody p.inner streamId len).1 with
  | error e =>
    rw [hinner] at hresult
    cases hresult
  | ok all =>
    rw [hinner] at hresult
    cases hresult
    exact List.length_take_le len all

theorem h3RecvBody_ne_nil (hnever : NeverEmpty Q) (hlen : 0 < len)
    (h : Quiche.h3RecvBody p streamId len = (.ok bytes, p')) : bytes ≠ [] := by
  have hresult : ((Quiche.h3RecvBody p.inner streamId len).1.map (·.take len)) = .ok bytes :=
    congrArg Prod.fst h
  cases hinner : (Quiche.h3RecvBody p.inner streamId len).1 with
  | error e =>
    rw [hinner] at hresult
    cases hresult
  | ok all =>
    have hall : all ≠ [] := by
      rintro rfl
      exact hnever p.inner streamId len hlen hinner
    rw [hinner] at hresult
    cases hresult
    intro hnil
    rcases List.take_eq_nil_iff.1 hnil with hzero | hnil
    · omega
    · exact hall hnil

end Logged

namespace H3Connection

variable {server : Bool} {Q : Type}

/-- One stream of a connection, after the events `past ++ events`. -/
def bodyView (streamId : ℕ) (past : List Emitted) (c : H3Connection (Logged server Q))
    (events : List Emitted) : BodyView where
  log := bodyLog streamId (past ++ events)
  received := receivedOn streamId c.quicheConn.answers
  phase := phaseOn streamId c.quicheConn.answers
  window := c.streamReadWindow
  credit := c.readCredit.lookup streamId
  unread := decide (streamId ∈ c.pendingReadable)
  collected := c.pendingBodyData.lookup streamId
  blocked := decide (streamId ∈ c.blocked.set)

def Polling.bodyView (streamId : ℕ) (past : List Emitted) (st : Polling (Logged server Q)) :
    BodyView :=
  st.conn.bodyView streamId past st.events

variable {ref : ConnRef} {connHandle : UInt32} (past : List Emitted)

theorem bodyView_pushApp (streamId : ℕ) (event : JsH3Event) (st : Polling (Logged server Q)) :
    (pushApp ref event st).bodyView streamId past =
      { st.bodyView streamId past with
        log := (st.bodyView streamId past).log.add streamId event } := by
  unfold Polling.bodyView bodyView pushApp
  rw [bodyLog_pushFor]

theorem bodyView_pushApp_other {streamId : ℕ} {event : JsH3Event}
    (h : event.streamId ≠ streamId ∨ event.eventType.isReceipt = false)
    (st : Polling (Logged server Q)) :
    (pushApp ref event st).bodyView streamId past = st.bodyView streamId past := by
  rw [bodyView_pushApp]
  rcases h with hne | hother
  · rw [BodyLog.add_of_ne hne]
  · rw [BodyLog.add_of_not_isReceipt hother]

/-- The buffer of a stream, as far as it is filled. -/
def withBuffer (c : H3Connection Q) (streamId : ℕ) (pending : PendingRecvBody) : H3Connection Q :=
  { c with pendingBodyData := c.pendingBodyData.insert streamId pending }

def collect (c : H3Connection Q) (streamId : ℕ) (pending : PendingRecvBody)
    (bytes : Bytes) (q : Q) :
    H3Connection Q :=
  { c with
    quicheConn := q
    pendingBodyData := c.pendingBodyData.insert streamId
      { pending with data := pending.data ++ bytes }
    readCredit := match c.readCredit.lookup streamId with
      | some left => c.readCredit.insert streamId (left - bytes.length)
      | none => c.readCredit }

def failRead (c : H3Connection Q) (streamId : ℕ) (pending : PendingRecvBody) (q : Q) :
    H3Connection Q :=
  { c.withBuffer streamId pending with quicheConn := q }

theorem fillBody_succ [Quiche Q] (streamId credit fuel : ℕ) (c : H3Connection (Logged server Q)) :
    fillBody streamId credit (fuel + 1) c =
      let pending := (c.pendingBodyData.lookup streamId).getD ⟨[], min h3RecvChunk credit⟩
      if pending.isFull then ((false, none), c.withBuffer streamId pending)
      else
        match Quiche.h3RecvBody c.quicheConn streamId (pending.capacity - pending.data.length) with
        | (.ok bytes, q) =>
          let c := (c.withBuffer streamId pending).collect streamId pending bytes q
          if bytes.length = 0 then ((false, none), c) else fillBody streamId credit fuel c
        | (.error .done, q) => ((true, none), c.failRead streamId pending q)
        | (.error e, q) => ((false, some e), c.failRead streamId pending q) := by
  rw [fillBody]
  dsimp only
  split_ifs
  · rfl
  · split
    · next bytes q hq =>
      simp only [hq, List.take_of_length_le (Logged.h3RecvBody_length_le hq)]
      rfl
    · next q hq =>
      simp only [hq]
      rfl
    · next e q he hq =>
      simp only [hq]
      rfl

section Other

variable {id streamId : ℕ} (hne : id ≠ streamId)

include hne

theorem bodyView_pushPendingBody_of_ne (st : Polling (Logged server Q)) :
    (pushPendingBody ref connHandle id st).bodyView streamId past = st.bodyView streamId past := by
  have hkeep : (st.conn.pendingBodyData.erase id).lookup streamId =
      st.conn.pendingBodyData.lookup streamId := AList.lookup_erase_ne hne.symm
  cases hp : st.conn.pendingBodyData.lookup id with
  | none => rw [pushPendingBody_of_none hp]
  | some pending =>
    cases hempty : pending.data.isEmpty with
    | true =>
      rw [pushPendingBody_of_empty hp hempty]
      unfold Polling.bodyView bodyView
      simp only [hkeep]
    | false =>
      rw [pushPendingBody_of_some hp hempty]
      unfold Polling.bodyView bodyView
      simp only [hkeep, bodyLog_pushCoalescing, if_neg hne]

theorem bodyView_dropEmptyBody_of_ne (c : H3Connection (Logged server Q)) (events : List Emitted) :
    (c.dropEmptyBody id).bodyView streamId past events = c.bodyView streamId past events := by
  unfold dropEmptyBody
  split_ifs
  · unfold bodyView
    simp only [AList.lookup_erase_ne hne.symm]
  · rfl

theorem bodyView_withBuffer_of_ne (c : H3Connection (Logged server Q)) (pending : PendingRecvBody)
    (events : List Emitted) :
    (c.withBuffer id pending).bodyView streamId past events = c.bodyView streamId past events := by
  unfold withBuffer bodyView
  simp only [AList.lookup_insert_ne hne.symm]

variable [Quiche Q]

theorem bodyView_collect_of_ne {c : H3Connection (Logged server Q)} {len : ℕ} {bytes : Bytes}
    {q : Logged server Q} (hq : Quiche.h3RecvBody c.quicheConn id len = (.ok bytes, q))
    (pending : PendingRecvBody) (events : List Emitted) :
    (c.collect id pending bytes q).bodyView streamId past events =
      c.bodyView streamId past events := by
  have hbytes : Answer.bodyOn streamId (.h3RecvBody id (.ok bytes)) = [] := if_neg hne
  have hcredit : (match c.readCredit.lookup id with
      | some left => c.readCredit.insert id (left - bytes.length)
      | none => c.readCredit).lookup streamId = c.readCredit.lookup streamId := by
    split
    · exact AList.lookup_insert_ne hne.symm
    · rfl
  unfold bodyView collect
  simp only [hcredit, AList.lookup_insert_ne hne.symm, Logged.h3RecvBody_answers hq,
    receivedOn_append_one, phaseOn_append_one, hbytes, List.append_nil]
  rfl

theorem bodyView_failRead_of_ne {c : H3Connection (Logged server Q)} {len : ℕ} {e : H3Error}
    {q : Logged server Q} (hq : Quiche.h3RecvBody c.quicheConn id len = (.error e, q))
    (pending : PendingRecvBody) (events : List Emitted) :
    (c.failRead id pending q).bodyView streamId past events = c.bodyView streamId past events := by
  unfold bodyView failRead withBuffer
  simp only [AList.lookup_insert_ne hne.symm, Logged.h3RecvBody_answers hq,
    receivedOn_append_one, phaseOn_append_one]
  simp [Answer.bodyOn, Answer.polledOn]

theorem bodyView_fillBody_of_ne (credit fuel : ℕ) (c : H3Connection (Logged server Q))
    (events : List Emitted) :
    (fillBody id credit fuel c).2.bodyView streamId past events =
      c.bodyView streamId past events := by
  induction fuel generalizing c with
  | zero => rfl
  | succ fuel ih =>
    rw [fillBody_succ]
    dsimp only
    generalize (c.pendingBodyData.lookup id).getD ⟨[], min h3RecvChunk credit⟩ = pending
    have hbuffer := bodyView_withBuffer_of_ne past hne c pending events
    split_ifs
    · exact hbuffer
    · split
      · next bytes q hq =>
        have hcollect := (bodyView_collect_of_ne past hne (c := c.withBuffer id pending) hq pending
          events).trans hbuffer
        split_ifs
        · exact hcollect
        · exact (ih _).trans hcollect
      · next q hq => exact bodyView_failRead_of_ne past hne hq pending events
      · next e q _ hq => exact bodyView_failRead_of_ne past hne hq pending events

variable (ref connHandle)

theorem bodyView_reportFilled_of_ne (st : Polling (Logged server Q)) :
    (reportFilled ref connHandle id st).bodyView streamId past = st.bodyView streamId past := by
  have hfilled : (filled id st).bodyView streamId past = st.bodyView streamId past :=
    (bodyView_dropEmptyBody_of_ne past hne _ _).trans (bodyView_fillBody_of_ne past hne _ _ _ _)
  unfold reportFilled
  split_ifs
  · exact (bodyView_pushPendingBody_of_ne past hne _).trans hfilled
  · exact hfilled

omit [Quiche Q] in
theorem bodyView_reportError_of_ne (e : H3Error) (st : Polling (Logged server Q)) :
    (reportError ref connHandle id e st).bodyView streamId past = st.bodyView streamId past := by
  have hpushed : (pushPendingBody ref connHandle id st).bodyView streamId past =
      st.bodyView streamId past := bodyView_pushPendingBody_of_ne past hne st
  unfold reportError
  dsimp only
  split_ifs
  · exact (bodyView_pushApp_other past (.inr rfl) _).trans hpushed
  · exact hpushed

theorem bodyView_dataStep_of_ne (st : Polling (Logged server Q)) :
    (dataStep ref connHandle id st).1.bodyView streamId past = st.bodyView streamId past := by
  have hfilled := bodyView_reportFilled_of_ne ref connHandle past hne st
  unfold dataStep
  split_ifs
  · unfold leaveUnread Polling.bodyView bodyView
    simp [hne.symm]
  · split
    · exact (bodyView_reportError_of_ne ref connHandle past hne _ _).trans hfilled
    · exact hfilled

end Other

section Self

variable {streamId : ℕ}

theorem bodyView_pushPendingBody (st : Polling (Logged server Q)) :
    (pushPendingBody ref connHandle streamId st).bodyView streamId past =
      (st.bodyView streamId past).report := by
  cases hp : st.conn.pendingBodyData.lookup streamId with
  | none =>
    have hnone : (st.bodyView streamId past).collected = none := hp
    rw [pushPendingBody_of_none hp, BodyView.report_of_none hnone]
  | some pending =>
    have herase : (st.conn.pendingBodyData.erase streamId).lookup streamId = none :=
      AList.lookup_erase streamId _
    cases hempty : pending.data.isEmpty with
    | true =>
      have hnil := List.isEmpty_iff.1 hempty
      rw [pushPendingBody_of_empty hp hempty]
      unfold Polling.bodyView bodyView BodyView.report
      simp [herase, hp, hnil]
    | false =>
      rw [pushPendingBody_of_some hp hempty]
      unfold Polling.bodyView bodyView BodyView.report
      simp [herase, hp, bodyLog_pushCoalescing]

theorem report_dropEmptyBody (c : H3Connection (Logged server Q)) (events : List Emitted) :
    ((c.dropEmptyBody streamId).bodyView streamId past events).report =
      (c.bodyView streamId past events).report := by
  unfold dropEmptyBody
  split_ifs with hempty
  · cases hp : c.pendingBodyData.lookup streamId with
    | none =>
      rw [hp] at hempty
      cases hempty
    | some pending =>
      rw [hp] at hempty
      have hnil := List.isEmpty_iff.1 hempty
      unfold bodyView BodyView.report
      simp [AList.lookup_erase, hp, hnil]
  · rfl

theorem bodyView_withBuffer (c : H3Connection (Logged server Q)) (capacity : ℕ)
    (events : List Emitted) :
    (c.withBuffer streamId ⟨[], capacity⟩).bodyView streamId past events =
      (c.bodyView streamId past events).gather ⟨[], capacity⟩ [] := by
  unfold withBuffer bodyView BodyView.gather
  simp [AList.lookup_insert]

variable [Quiche Q] {c : H3Connection (Logged server Q)}

theorem bodyView_collect {len : ℕ} {bytes : Bytes} {q : Logged server Q}
    (hq : Quiche.h3RecvBody c.quicheConn streamId len = (.ok bytes, q)) (pending : PendingRecvBody)
    (events : List Emitted) :
    (c.collect streamId pending bytes q).bodyView streamId past events =
      (c.bodyView streamId past events).gather pending bytes := by
  have hbytes : Answer.bodyOn streamId (.h3RecvBody streamId (.ok bytes)) = bytes := if_pos rfl
  have hcredit : (match c.readCredit.lookup streamId with
      | some left => c.readCredit.insert streamId (left - bytes.length)
      | none => c.readCredit).lookup streamId =
        (c.readCredit.lookup streamId).map (· - bytes.length) := by
    cases hleft : c.readCredit.lookup streamId with
    | none => exact hleft
    | some left => exact AList.lookup_insert _
  unfold bodyView collect BodyView.gather
  simp only [hcredit, AList.lookup_insert, Logged.h3RecvBody_answers hq, receivedOn_append_one,
    phaseOn_append_one, hbytes]
  rfl

theorem bodyView_failRead {len : ℕ} {e : H3Error} {q : Logged server Q}
    (hq : Quiche.h3RecvBody c.quicheConn streamId len = (.error e, q)) {pending : PendingRecvBody}
    (hp : c.pendingBodyData.lookup streamId = some pending) (events : List Emitted) :
    (c.failRead streamId pending q).bodyView streamId past events =
      c.bodyView streamId past events := by
  unfold bodyView failRead withBuffer
  simp only [AList.lookup_insert, Logged.h3RecvBody_answers hq, receivedOn_append_one,
    phaseOn_append_one, hp]
  simp [Answer.bodyOn, Answer.polledOn]

/-- Filling a buffer ends with an error, with the frame drained, or with the buffer full: a
read that brings bytes brings it closer to full. -/
theorem fillBody_gathers (hnever : NeverEmpty Q) (credit fuel : ℕ) {pending : PendingRecvBody}
    (hp : c.pendingBodyData.lookup streamId = some pending)
    (hroom : pending.data.length ≤ pending.capacity) (events : List Emitted) :
    ∃ bytes : Bytes, pending.data.length + bytes.length ≤ pending.capacity ∧
      (fillBody streamId credit fuel c).2.bodyView streamId past events =
        (c.bodyView streamId past events).gather pending bytes ∧
      (pending.capacity - pending.data.length < fuel →
        (fillBody streamId credit fuel c).1.1 = true ∨
          (fillBody streamId credit fuel c).1.2.isSome ∨
          isFullOn streamId (fillBody streamId credit fuel c).2 = true) := by
  have hcollected : (c.bodyView streamId past events).collected = some pending := hp
  induction fuel generalizing c pending with
  | zero => exact ⟨[], by simpa using hroom, (BodyView.gather_nil hcollected).symm, by omega⟩
  | succ fuel ih =>
    have hsame : (c.withBuffer streamId pending).bodyView streamId past events =
        c.bodyView streamId past events := by
      unfold withBuffer bodyView
      simp only [AList.lookup_insert, hp]
    rw [fillBody_succ]
    simp only [hp, Option.getD_some]
    split_ifs with hfull
    · refine ⟨[], by simpa using hroom, ?_, fun _ => .inr (.inr ?_)⟩
      · rw [BodyView.gather_nil hcollected]
        exact hsame
      · simp [isFullOn, withBuffer, AList.lookup_insert, hfull]
    · have hleft : 0 < pending.capacity - pending.data.length := by
        simp only [PendingRecvBody.isFull, decide_eq_true_eq] at hfull
        omega
      split
      · next bytes q hq =>
        have hlen := Logged.h3RecvBody_length_le hq
        have hne := List.length_pos_iff.2 (Logged.h3RecvBody_ne_nil hnever hleft hq)
        have hcollect := bodyView_collect past (c := c.withBuffer streamId pending) hq
          pending events
        rw [hsame] at hcollect
        rw [if_neg hne.ne']
        have hbuffer : ((c.withBuffer streamId pending).collect streamId pending bytes
            q).pendingBodyData.lookup streamId =
              some { pending with data := pending.data ++ bytes } := AList.lookup_insert _
        have hstill : (pending.data ++ bytes).length ≤ pending.capacity := by
          rw [List.length_append]
          omega
        obtain ⟨more, hmore, hview, hended⟩ := ih hbuffer hstill hbuffer
        simp only [List.length_append] at hmore hended
        refine ⟨bytes ++ more, ?_, ?_, ?_⟩
        · rw [List.length_append]
          omega
        · rw [hview, hcollect, BodyView.gather_gather]
        · intro hfuel
          exact hended (by omega)
      · next q hq =>
        refine ⟨[], by simpa using hroom, ?_, fun _ => .inl rfl⟩
        rw [BodyView.gather_nil hcollected]
        exact bodyView_failRead past hq hp events
      · next e q _ hq =>
        refine ⟨[], by simpa using hroom, ?_, fun _ => .inr (.inl rfl)⟩
        rw [BodyView.gather_nil hcollected]
        exact bodyView_failRead past hq hp events

theorem fillBody_fresh (credit fuel : ℕ) (hp : c.pendingBodyData.lookup streamId = none) :
    fillBody streamId credit (fuel + 1) c = fillBody streamId credit (fuel + 1)
      (c.withBuffer streamId ⟨[], min h3RecvChunk credit⟩) := by
  have htwice : ∀ pending : PendingRecvBody,
      (c.withBuffer streamId pending).withBuffer streamId pending =
        c.withBuffer streamId pending := by
    intro pending
    unfold withBuffer
    simp only [AList.insert_insert]
  have hlookup : (c.withBuffer streamId ⟨[], min h3RecvChunk credit⟩).pendingBodyData.lookup
      streamId = some ⟨[], min h3RecvChunk credit⟩ := AList.lookup_insert _
  rw [fillBody_succ, fillBody_succ]
  simp only [hp, hlookup, Option.getD_none, Option.getD_some, failRead, htwice]
  rfl

/-- What a buffer was filled with, once it is reported. -/
theorem fill_reads (hnever : NeverEmpty Q) {st : Polling (Logged server Q)}
    (hrounds : h3RecvChunk < Quiche.rounds st.conn.quicheConn)
    (hp : st.conn.pendingBodyData.lookup streamId = none) :
    ∃ bytes : Bytes, bytes.length ≤ st.conn.creditOf streamId ∧
      ((filled streamId st).bodyView streamId past).report =
        (st.bodyView streamId past).read bytes ∧
      ((fill streamId st).1.1 = true ∨ (fill streamId st).1.2.isSome ∨
        isFullOn streamId (fill streamId st).2 = true) := by
  obtain ⟨fuel, hfuel⟩ : ∃ fuel, Quiche.rounds st.conn.quicheConn = fuel + 1 :=
    ⟨_, (Nat.succ_pred_eq_of_pos (Nat.zero_lt_of_lt hrounds)).symm⟩
  have hnone : (st.bodyView streamId past).collected = none := hp
  have hfresh : fill streamId st = fillBody streamId (st.conn.creditOf streamId) (fuel + 1)
      (st.conn.withBuffer streamId ⟨[], min h3RecvChunk (st.conn.creditOf streamId)⟩) := by
    unfold fill
    rw [hfuel, fillBody_fresh _ _ hp]
  obtain ⟨bytes, hlen, hview, hended⟩ := fillBody_gathers past hnever (st.conn.creditOf streamId)
    (fuel + 1) (c := st.conn.withBuffer streamId ⟨[], min h3RecvChunk (st.conn.creditOf streamId)⟩)
    (AList.lookup_insert _) (Nat.zero_le _) st.events
  rw [← hfresh] at hview hended
  simp only [List.length_nil, Nat.zero_add, Nat.sub_zero] at hlen hended
  refine ⟨bytes, hlen.trans (Nat.min_le_right _ _), ?_, hended ?_⟩
  · have hreport : ((filled streamId st).bodyView streamId past).report =
        ((fill streamId st).2.bodyView streamId past st.events).report :=
      report_dropEmptyBody past _ _
    rw [hreport, hview, bodyView_withBuffer]
    exact (congrArg BodyView.report (BodyView.gather_gather _ _ [] bytes)).trans
      (BodyView.report_gather hnone _ _)
  · have hchunk := Nat.min_le_left h3RecvChunk (st.conn.creditOf streamId)
    omega

/-- One buffer of the stream's body: it is left unread, or bytes within its credit are read and
reported. -/
theorem bodyView_dataStep (hnever : NeverEmpty Q) {st : Polling (Logged server Q)}
    (hrounds : h3RecvChunk < Quiche.rounds st.conn.quicheConn)
    (hp : st.conn.pendingBodyData.lookup streamId = none) :
    (dataStep ref connHandle streamId st).1.bodyView streamId past =
        { st.bodyView streamId past with unread := true } ∨
      ∃ bytes : Bytes, bytes.length ≤ st.conn.creditOf streamId ∧
        (dataStep ref connHandle streamId st).1.bodyView streamId past =
          (st.bodyView streamId past).read bytes := by
  obtain ⟨bytes, hlen, hread, hended⟩ := fill_reads past hnever hrounds hp
  have hpushed : (pushPendingBody ref connHandle streamId (filled streamId st)).bodyView streamId
      past = (st.bodyView streamId past).read bytes :=
    (bodyView_pushPendingBody past _).trans hread
  have hreported : ((reportFilled ref connHandle streamId st).bodyView streamId past).report =
      (st.bodyView streamId past).read bytes := by
    unfold reportFilled
    split_ifs
    · rw [BodyView.report_of_none]
      · exact hpushed
      · rw [hpushed]
        exact hp
    · exact hread
  unfold dataStep
  split_ifs
  · left
    unfold leaveUnread Polling.bodyView bodyView
    simp
  · right
    refine ⟨bytes, hlen, ?_⟩
    cases herror : (fill streamId st).1.2 with
    | some e =>
      have hsettled : (pushPendingBody ref connHandle streamId
          (reportFilled ref connHandle streamId st)).bodyView streamId past =
            (st.bodyView streamId past).read bytes :=
        (bodyView_pushPendingBody past _).trans hreported
      dsimp only
      unfold reportError
      dsimp only
      split_ifs
      · exact (bodyView_pushApp_other past (.inr rfl) _).trans hsettled
      · exact hsettled
    | none =>
      have hdone : (isFullOn streamId (fill streamId st).2 || (fill streamId st).1.1) = true := by
        rw [herror] at hended
        rcases hended with hdrained | hnone | hfull
        · simp [hdrained]
        · cases hnone
        · simp [hfull]
      dsimp only
      unfold reportFilled
      rw [if_pos hdone]
      exact hpushed

end Self

variable [Quiche Q] {streamId size added : ℕ}

theorem dataStep_readsOn (hnever : NeverEmpty Q) (hrounds : ∀ q : Q, h3RecvChunk < Quiche.rounds q)
    {v : BodyView} (hreading : v.Reading) {st : Polling (Logged server Q)}
    (h : v.ReadsOn size added (st.bodyView streamId past)) :
    v.ReadsOn size added ((dataStep ref connHandle streamId st).1.bodyView streamId past) := by
  have hreading' : (st.bodyView streamId past).Reading := by
    intro phase hsome
    rw [h.phase] at hsome
    exact hreading phase hsome
  have hrounds' : h3RecvChunk < Quiche.rounds st.conn.quicheConn := hrounds _
  rcases bodyView_dataStep past hnever hrounds' h.sound.settled with hview | ⟨bytes, hlen, hview⟩
  · rw [hview]
    exact ⟨h.sound.leave hreading', h.tracked, h.reset, h.phase⟩
  · have hcredit : ∀ k, (st.bodyView streamId past).credit = some k → bytes.length ≤ k := by
      intro k hk
      have hlookup : st.conn.readCredit.lookup streamId = some k := hk
      rw [creditOf, hlookup] at hlen
      exact hlen
    rw [hview]
    exact ⟨h.sound.read hreading' h.tracked hcredit, h.tracked.read bytes, h.reset, h.phase⟩

theorem dataLoop_readsOn (hnever : NeverEmpty Q) (hrounds : ∀ q : Q, h3RecvChunk < Quiche.rounds q)
    (id fuel : ℕ) {st : Polling (Logged server Q)}
    (h : (st.bodyView streamId past).Sound size added)
    (htracked : (st.bodyView streamId past).Tracked)
    (hreading : id = streamId → (st.bodyView streamId past).Reading) :
    (st.bodyView streamId past).ReadsOn size added
      ((dataLoop ref connHandle id fuel st).bodyView streamId past) := by
  have hstart : (st.bodyView streamId past).ReadsOn size added (st.bodyView streamId past) :=
    ⟨h, htracked, rfl, rfl⟩
  rw [dataLoop_eq]
  by_cases hid : id = streamId
  · subst hid
    have hkeeps : ∀ st' : Polling (Logged server Q),
        (st.bodyView id past).ReadsOn size added (st'.bodyView id past) →
        (st.bodyView id past).ReadsOn size added
          ((dataStep ref connHandle id st').1.bodyView id past) :=
      fun _ => dataStep_readsOn past hnever hrounds (hreading rfl)
    exact Loop.run_keeps hkeeps fuel hstart
  · have hkeeps : ∀ st' : Polling (Logged server Q),
        st'.bodyView streamId past = st.bodyView streamId past →
        (dataStep ref connHandle id st').1.bodyView streamId past = st.bodyView streamId past :=
      fun st' => (bodyView_dataStep_of_ne ref connHandle past hid st').trans
    rw [Loop.run_keeps hkeeps fuel rfl]
    exact hstart

end H3Connection

end Http3
