import Http3.H3BodyRun
import Http3.StreamLife

/-! The body of one HTTP/3 stream: what was read of it, what was reported, and how much of its
window is left. -/

namespace Http3

/-- Reports about the receiving side of an HTTP/3 stream. -/
def EventType.isReceipt : EventType → Bool
  | .headers | .data | .finished | .reset => true
  | _ => false

/-- What the events so far tell about a stream: the bytes of its body, whether it finished, the
bytes reported after that, and whether it was reset. -/
structure BodyLog where
  bytes : Bytes
  finished : Bool
  late : Bytes
  reset : Bool
  deriving DecidableEq

namespace BodyLog

def empty : BodyLog := ⟨[], false, [], false⟩

def take (log : BodyLog) (data : Bytes) : BodyLog :=
  { log with
    bytes := log.bytes ++ data
    late := if log.finished then log.late ++ data else log.late }

/-- The next event; DATA events carry body bytes, and HEADERS events those folded into them. -/
def add (streamId : ℕ) (log : BodyLog) (e : JsH3Event) : BodyLog :=
  if e.streamId = streamId then
    match e.eventType with
    | .headers | .data => log.take e.payload
    | .finished => { log with finished := true }
    | .reset => { log with reset := true }
    | _ => log
  else log

variable {streamId : ℕ} {log : BodyLog} {e : JsH3Event}

@[simp] theorem take_nil (log : BodyLog) : log.take [] = log := by
  simp [take]

theorem add_of_ne (h : e.streamId ≠ streamId) : log.add streamId e = log := if_neg h

theorem add_of_not_isReceipt (h : e.eventType.isReceipt = false) : log.add streamId e = log := by
  unfold add
  split_ifs
  · split <;> simp_all [EventType.isReceipt]
  · rfl

@[simp] theorem add_ofHeaders (log : BodyLog) (connHandle : UInt32) (list : Headers) (fin : Bool) :
    log.add streamId (.ofHeaders connHandle streamId list fin) = log := by
  simp [add, JsH3Event.ofHeaders, JsH3Event.payload]

@[simp] theorem add_finished (log : BodyLog) (connHandle : UInt32) :
    log.add streamId (.finished connHandle streamId) = { log with finished := true } := by
  simp [add, JsH3Event.finished]

@[simp] theorem add_reset (log : BodyLog) (connHandle : UInt32) (errorCode : ℕ) :
    log.add streamId (.reset connHandle streamId errorCode) = { log with reset := true } := by
  simp [add, JsH3Event.reset]

end BodyLog

def bodyLog (streamId : ℕ) (events : List Emitted) : BodyLog :=
  events.foldl (fun log e => log.add streamId e.event) .empty

theorem bodyLog_append_one (streamId : ℕ) (events : List Emitted) (e : Emitted) :
    bodyLog streamId (events ++ [e]) = (bodyLog streamId events).add streamId e.event := by
  simp [bodyLog]

theorem bodyLog_pushFor (streamId : ℕ) (past : List Emitted) (ref : ConnRef) (event : JsH3Event)
    (events : List Emitted) :
    bodyLog streamId (past ++ pushFor ref event events) =
      (bodyLog streamId (past ++ events)).add streamId event := by
  unfold pushFor
  rw [← List.append_assoc, bodyLog_append_one]

/-- Whether the bytes become an event of their own or ride on a HEADERS event, they come after
everything else reported. -/
theorem bodyLog_pushCoalescing (streamId : ℕ) (past : List Emitted) (ref : ConnRef)
    (connHandle : UInt32) (id : ℕ) (data : Bytes) (events : List Emitted) :
    bodyLog streamId
        (past ++ (pushCoalescing ref (.ofData connHandle id data false) events).2) =
      if id = streamId then (bodyLog streamId (past ++ events)).take data
      else bodyLog streamId (past ++ events) := by
  have hadd : ∀ log : BodyLog, log.add streamId (.ofData connHandle id data false) =
      if id = streamId then log.take data else log := by
    intro log
    by_cases hid : id = streamId <;> simp [BodyLog.add, JsH3Event.ofData, JsH3Event.payload, hid]
  rcases pushCoalescing_cases ref (.ofData connHandle id data false) events with
    heq | ⟨front, last, rfl, hcoalesces, heq⟩
  · rw [heq, bodyLog_pushFor, hadd]
  · -- the last event is a HEADERS event of the stream, without bytes so far
    simp only [JsH3Event.coalesces, Bool.and_eq_true, beq_iff_eq, Option.isNone_iff_eq_none]
      at hcoalesces
    obtain ⟨⟨⟨⟨⟨⟨htype, -⟩, -⟩, hid⟩, hnone⟩, -⟩, -⟩ := hcoalesces
    have hid' : last.event.streamId = (id : ℤ) := hid
    rw [heq, ← List.append_assoc, ← List.append_assoc, bodyLog_append_one, bodyLog_append_one]
    by_cases hsame : id = streamId
    · simp [BodyLog.add, hid', htype, hnone, hsame, JsH3Event.payload, JsH3Event.ofData]
    · simp [BodyLog.add, hid', hsame]

/-- How far the HTTP/3 layer has come with the receiving side of a stream. -/
inductive BodyPhase
  | waiting
  | opened
  | ended
  deriving DecidableEq

/-- The order HEADERS, DATA, FINISHED. quiche keeps to it on streams that the peer opened; on a
client's own streams it lets DATA come before the headers. -/
def BodyPhase.next : BodyPhase → H3Poll → Option BodyPhase
  | .ended, .headers _ _ | .ended, .data | .ended, .finished => none
  | .waiting, .data => none
  | _, .headers _ _ => some .opened
  | _, .finished => some .ended
  | phase, _ => some phase

namespace Answer

def bodyOn (streamId : ℕ) : Answer → Bytes
  | .h3RecvBody id (.ok bytes) => if id = streamId then bytes else []
  | _ => []

def polledOn (streamId : ℕ) : Answer → Option H3Poll
  | .h3Poll id event => if id = streamId then some event else none
  | _ => none

end Answer

def receivedOn (streamId : ℕ) (answers : List Answer) : Bytes :=
  answers.flatMap (Answer.bodyOn streamId)

/-- The phase of a stream; none if the HTTP/3 layer has not kept to its order. -/
def phaseOn (streamId : ℕ) (answers : List Answer) : Option BodyPhase :=
  (answers.filterMap (Answer.polledOn streamId)).foldlM BodyPhase.next .waiting

/-- The HTTP/3 layer has reported HEADERS, DATA and FINISHED of a stream in order. -/
def Ordered (streamId : ℕ) (answers : List Answer) : Prop := (phaseOn streamId answers).isSome

instance (streamId : ℕ) (answers : List Answer) : Decidable (Ordered streamId answers) :=
  inferInstanceAs (Decidable (_ = true))

theorem receivedOn_append_one (streamId : ℕ) (answers : List Answer) (answer : Answer) :
    receivedOn streamId (answers ++ [answer]) =
      receivedOn streamId answers ++ answer.bodyOn streamId := by
  simp [receivedOn]

theorem phaseOn_append_one (streamId : ℕ) (answers : List Answer) (answer : Answer) :
    phaseOn streamId (answers ++ [answer]) =
      (answer.polledOn streamId).elim (phaseOn streamId answers)
        fun event => (phaseOn streamId answers).bind (BodyPhase.next · event) := by
  unfold phaseOn
  rw [List.filterMap_append, List.foldlM_append]
  cases hpolled : answer.polledOn streamId with
  | none => simp [hpolled]
  | some event =>
    simp only [List.filterMap_cons, hpolled, List.filterMap_nil, Option.elim_some]
    simp [List.foldlM_cons, Option.bind_eq_bind]

/-- One stream as the connection, its transport and its reports show it. -/
structure BodyView where
  log : BodyLog
  received : Bytes
  phase : Option BodyPhase
  window : Option ℕ
  credit : Option ℕ
  /-- Left unread for lack of budget or credit. -/
  unread : Bool
  /-- Bytes that were read and wait in a buffer. -/
  collected : Option PendingRecvBody
  blocked : Bool

namespace BodyView

def read (v : BodyView) (bytes : Bytes) : BodyView :=
  { v with
    log := v.log.take bytes
    received := v.received ++ bytes
    credit := v.credit.map (· - bytes.length) }

/-- Bytes are read into the buffer `pending`. -/
def gather (v : BodyView) (pending : PendingRecvBody) (bytes : Bytes) : BodyView :=
  { v with
    received := v.received ++ bytes
    credit := v.credit.map (· - bytes.length)
    collected := some { pending with data := pending.data ++ bytes } }

def report (v : BodyView) : BodyView :=
  { v with log := v.log.take (v.collected.elim [] PendingRecvBody.data), collected := none }

def poll (v : BodyView) (event : H3Poll) : BodyView :=
  { v with phase := v.phase.bind (BodyPhase.next · event) }

/-- Everything the connection keeps about the stream is dropped. -/
def clear (v : BodyView) : BodyView := { v with credit := none, unread := false, collected := none }

/-- Between two steps of a poll every byte read has been reported, and the window bounds what
can still be read. -/
structure Kept (size : ℕ) (v : BodyView) : Prop where
  window : v.window = some size
  unblocked : v.blocked = false
  settled : v.collected = none
  whole : v.log.bytes = v.received
  capped : ∀ k, v.credit = some k → k ≤ size

/-- As long as the HTTP/3 layer keeps to its order, nothing was reported after FINISHED, and
the window and the credit returned bound everything read. -/
structure Sound (size added : ℕ) (v : BodyView) : Prop extends Kept size v where
  bounded : v.phase.isSome → v.received.length + v.credit.getD 0 ≤ size + added
  early : v.phase.isSome → v.log.late = []
  unfinished : ∀ phase, v.phase = some phase → phase ≠ .ended → v.log.finished = false
  shut : ∀ phase, v.phase = some phase → phase ≠ .opened → v.credit = none ∧ v.unread = false
  fresh : v.phase = some .waiting → v.received = []

/-- A stream that is being received has credit of its own. -/
def Tracked (v : BodyView) : Prop := v.phase = some .opened → v.credit.isSome

/-- The stream is being received, if the HTTP/3 layer keeps to its order. -/
def Reading (v : BodyView) : Prop := ∀ phase, v.phase = some phase → phase = .opened

/-- From `v` on, bytes may have been read. -/
structure ReadsOn (size added : ℕ) (v v' : BodyView) : Prop where
  sound : v'.Sound size added
  tracked : v'.Tracked
  reset : v'.log.reset = v.log.reset
  phase : v'.phase = v.phase

variable {size added : ℕ} {v : BodyView}

theorem gather_nil {pending : PendingRecvBody} (h : v.collected = some pending) :
    v.gather pending [] = v := by
  obtain ⟨log, received, phase, window, credit, unread, collected, blocked⟩ := v
  cases h
  simp [gather]

theorem gather_gather (v : BodyView) (pending : PendingRecvBody) (bytes more : Bytes) :
    (v.gather pending bytes).gather { pending with data := pending.data ++ bytes } more =
      v.gather pending (bytes ++ more) := by
  simp [gather, Function.comp_def, Nat.sub_sub]

theorem report_of_none (h : v.collected = none) : v.report = v := by
  obtain ⟨log, received, phase, window, credit, unread, collected, blocked⟩ := v
  cases h
  simp [report]

theorem report_gather (h : v.collected = none) (capacity : ℕ) (bytes : Bytes) :
    (v.gather ⟨[], capacity⟩ bytes).report = v.read bytes := by
  obtain ⟨log, received, phase, window, credit, unread, collected, blocked⟩ := v
  cases h
  rfl

theorem Sound.read (h : v.Sound size added) (hreading : v.Reading) (htracked : v.Tracked)
    {bytes : Bytes} (hbytes : ∀ k, v.credit = some k → bytes.length ≤ k) :
    (v.read bytes).Sound size added where
  window := h.window
  unblocked := h.unblocked
  settled := h.settled
  whole := congrArg (· ++ bytes) h.whole
  capped := by
    intro k hk
    obtain ⟨left, hleft, rfl⟩ := Option.map_eq_some_iff.1 hk
    exact (Nat.sub_le _ _).trans (h.capped left hleft)
  bounded := by
    intro hphase
    obtain ⟨phase, hsome⟩ := Option.isSome_iff_exists.1 hphase
    have hopened : v.phase = some .opened := hreading phase hsome ▸ hsome
    obtain ⟨left, hleft⟩ := Option.isSome_iff_exists.1 (htracked hopened)
    have hbound := h.bounded hphase
    have hroom := hbytes left hleft
    simp only [BodyView.read, hleft, Option.map_some, Option.getD_some, List.length_append]
      at hbound ⊢
    omega
  early := by
    intro hphase
    obtain ⟨phase, hsome⟩ := Option.isSome_iff_exists.1 hphase
    have hopen : v.log.finished = false := by
      apply h.unfinished phase hsome
      rw [hreading phase hsome]
      decide
    show (if v.log.finished then _ else v.log.late) = []
    rw [hopen]
    exact h.early hphase
  unfinished := h.unfinished
  shut := by
    intro phase hphase hother
    exact absurd (hreading phase hphase) hother
  fresh := by
    intro hwaiting
    cases hreading _ hwaiting

theorem Tracked.read (h : v.Tracked) (bytes : Bytes) : (v.read bytes).Tracked := by
  intro hopened
  rw [BodyView.read, Option.isSome_map]
  exact h hopened

theorem Sound.leave (h : v.Sound size added) (hreading : v.Reading) :
    { v with unread := true }.Sound size added :=
  { h with
    shut := fun phase hphase hother => absurd (hreading phase hphase) hother }

theorem Sound.attend (h : v.Sound size added) : { v with unread := false }.Sound size added :=
  { h with
    shut := fun phase hphase hother => ⟨(h.shut phase hphase hother).1, rfl⟩ }

theorem Sound.reading (h : v.Sound size added) (hunread : v.unread = true) : v.Reading := by
  intro phase hphase
  by_contra hother
  have hread := (h.shut phase hphase hother).2
  rw [hunread] at hread
  cases hread

theorem Sound.clear (h : v.Sound size added) : v.clear.Sound size added :=
  { h with
    settled := rfl
    capped := nofun
    bounded := by
      intro hphase
      have hbound := h.bounded hphase
      show v.received.length + 0 ≤ _
      omega
    shut := fun _ _ _ => ⟨rfl, rfl⟩ }

theorem Sound.addCredit (h : v.Sound size added) (bytes : ℕ) :
    { v with credit := v.credit.map fun k => min (k + bytes) size }.Sound size (added + bytes) :=
  { h with
    capped := by
      intro k hk
      obtain ⟨left, -, rfl⟩ := Option.map_eq_some_iff.1 hk
      exact Nat.min_le_right _ _
    bounded := by
      intro hphase
      have hbound := h.bounded hphase
      cases hcredit : v.credit with
      | none =>
        simp only [hcredit, Option.getD_none, Option.map_none] at hbound ⊢
        omega
      | some k =>
        simp only [hcredit, Option.getD_some, Option.map_some] at hbound ⊢
        omega
    shut := by
      intro phase hphase hother
      obtain ⟨hcredit, hunread⟩ := h.shut phase hphase hother
      exact ⟨by rw [hcredit]; rfl, hunread⟩ }

theorem Kept.sound (h : v.Kept size) (hphase : v.phase = none) : v.Sound size added :=
  { h with
    bounded := by simp [hphase]
    early := by simp [hphase]
    unfinished := by simp [hphase]
    shut := by simp [hphase]
    fresh := by simp [hphase] }

/-- HEADERS give a new stream its window, and leave the credit of one that has some. -/
theorem Sound.headers (h : v.Sound size added) (htracked : v.Tracked) (list : Headers)
    (moreFrames : Bool) :
    { v.poll (.headers list moreFrames) with
      credit := some (v.credit.getD size) }.Sound size added := by
  have hkept : { v.poll (.headers list moreFrames) with
      credit := some (v.credit.getD size) }.Kept size :=
    { h.toKept with
      capped := by
        intro k hk
        cases hk
        cases hcredit : v.credit with
        | none => exact le_rfl
        | some k => exact h.capped k hcredit }
  cases hphase : v.phase with
  | none => exact hkept.sound (by simp [BodyView.poll, hphase])
  | some phase =>
    cases phase with
    | ended => exact hkept.sound (by simp [BodyView.poll, hphase, BodyPhase.next])
    | waiting =>
      have hnext : (v.poll (.headers list moreFrames)).phase = some .opened := by
        simp [BodyView.poll, hphase, BodyPhase.next]
      have hempty := h.fresh hphase
      have hnone := (h.shut _ hphase (by decide)).1
      exact {
        hkept with
        bounded := by
          intro _
          show v.received.length + v.credit.getD size ≤ _
          simp [hempty, hnone]
        early := fun _ => h.early (by rw [hphase]; rfl)
        unfinished := fun _ _ _ => h.unfinished _ hphase (by decide)
        shut := by
          intro phase hsome hother
          cases hnext.symm.trans hsome
          exact absurd rfl hother
        fresh := by
          intro hwaiting
          cases hnext.symm.trans hwaiting }
    | opened =>
      have hnext : (v.poll (.headers list moreFrames)).phase = some .opened := by
        simp [BodyView.poll, hphase, BodyPhase.next]
      obtain ⟨k, hk⟩ := Option.isSome_iff_exists.1 (htracked hphase)
      have hbound := h.bounded (by rw [hphase]; rfl)
      rw [hk] at hbound
      exact {
        hkept with
        bounded := by
          intro _
          show v.received.length + v.credit.getD size ≤ _
          rw [hk]
          exact hbound
        early := fun _ => h.early (by rw [hphase]; rfl)
        unfinished := fun _ _ _ => h.unfinished _ hphase (by decide)
        shut := by
          intro phase hsome hother
          cases hnext.symm.trans hsome
          exact absurd rfl hother
        fresh := by
          intro hwaiting
          cases hnext.symm.trans hwaiting }

theorem Sound.data (h : v.Sound size added) :
    (v.poll .data).Sound size added ∧ (v.poll .data).Reading := by
  have hkept : (v.poll .data).Kept size := { h.toKept with }
  cases hphase : v.phase with
  | none =>
    have hnext : (v.poll .data).phase = none := by simp [BodyView.poll, hphase]
    exact ⟨hkept.sound hnext, by simp [Reading, hnext]⟩
  | some phase =>
    cases phase with
    | ended | waiting =>
      have hnext : (v.poll .data).phase = none := by simp [BodyView.poll, hphase, BodyPhase.next]
      exact ⟨hkept.sound hnext, by simp [Reading, hnext]⟩
    | opened =>
      have hsame : v.poll .data = v := by
        unfold BodyView.poll
        rw [hphase]
        show { v with phase := some .opened } = v
        rw [← hphase]
      rw [hsame]
      exact ⟨h, by simp [Reading, hphase]⟩

theorem Tracked.data (h : v.Tracked) : (v.poll .data).Tracked := by
  intro hopened
  obtain ⟨phase, hphase, hnext⟩ := Option.bind_eq_some_iff.1 hopened
  cases phase with
  | opened => exact h hphase
  | waiting | ended => cases hnext

theorem Sound.finished (h : v.Sound size added) :
    { v.poll .finished with
      log := { v.log with finished := true }, credit := none, unread := false }.Sound
        size added := by
  have hkept : { v.poll .finished with
      log := { v.log with finished := true }, credit := none, unread := false }.Kept size :=
    { h.toKept with capped := nofun }
  cases hphase : v.phase with
  | none => exact hkept.sound (by simp [BodyView.poll, hphase])
  | some phase =>
    have hsome : v.phase.isSome := by rw [hphase]; rfl
    have hover : phase = .ended ∨ (v.poll .finished).phase = some .ended := by
      cases phase <;> simp [BodyView.poll, hphase, BodyPhase.next]
    rcases hover with rfl | hover
    · exact hkept.sound (by simp [BodyView.poll, hphase, BodyPhase.next])
    · exact {
        hkept with
        bounded := by
          intro _
          have hbound := h.bounded hsome
          show v.received.length + 0 ≤ _
          omega
        early := fun _ => h.early hsome
        unfinished := by
          intro phase hphase hother
          cases hover.symm.trans hphase
          exact absurd rfl hother
        shut := fun _ _ _ => ⟨rfl, rfl⟩
        fresh := by
          intro hwaiting
          cases hover.symm.trans hwaiting }

/-- The stream is over, if the HTTP/3 layer keeps to its order. -/
def Over (v : BodyView) : Prop := ∀ phase, v.phase = some phase → phase = .ended

theorem Over.poll (h : v.Over) (event : H3Poll) : (v.poll event).Over := by
  intro phase hsome
  obtain ⟨before, hbefore, hnext⟩ := Option.bind_eq_some_iff.1 hsome
  cases h before hbefore
  cases event <;> cases hnext <;> rfl

theorem over_finished (v : BodyView) : (v.poll .finished).Over := by
  intro phase hsome
  obtain ⟨before, -, hnext⟩ := Option.bind_eq_some_iff.1 hsome
  cases before <;> cases hnext <;> rfl

theorem poll_of_next {event : H3Poll} (h : ∀ phase : BodyPhase, phase.next event = some phase) :
    v.poll event = v := by
  unfold BodyView.poll
  rw [show (fun phase : BodyPhase => phase.next event) = some from funext h, Option.bind_fun_some]

/-- Between polls: a stream that is being received has credit, unless it was reset. -/
structure Settled (size added : ℕ) (v : BodyView) : Prop where
  sound : v.Sound size added
  tracked : v.log.reset = false → v.Tracked

theorem Sound.reset (h : v.Sound size added) :
    { v with log := { v.log with reset := true } }.Sound size added := { h with }

end BodyView

end Http3
