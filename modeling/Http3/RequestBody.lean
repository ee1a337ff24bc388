import Http3.PendingWrite
import Http3.Lib.Runs

/-! The body of a request as a web stream: five sources of events, and one controller that is
finished once. -/

namespace Http3

/-- What the stream is errored with. The first two are `request body exceeds maxBodyBytes` and
`request stream closed`; the others come from the source and from the signal. -/
inductive BodyError
  | requestBodyTooLarge
  | requestStreamClosed
  | source (error : String)
  | aborted (reason : String)
  deriving DecidableEq

/-- A call of the stream's controller. -/
inductive ControllerCall
  | enqueue (chunk : Bytes)
  | close
  | error (e : BodyError)
  deriving DecidableEq

/-- The closure of `createRequestBody` and what it reads of the source. `attached`: the
listeners are there. Not part of the program are `calls`, those made of the controller,
`emitted`, what the source emitted up to its end, and `cancelled`, that the reader ended it. -/
structure RequestBody where
  received : ℕ
  finished : Bool
  attached : Bool
  flowing : Bool
  readableEnded : Bool
  calls : List ControllerCall
  emitted : List Bytes
  cancelled : Bool

namespace RequestBody

def dispose (b : RequestBody) : RequestBody := { b with flowing := false, attached := false }

def fail (e : BodyError) (b : RequestBody) : RequestBody :=
  if b.finished then b
  else
    let b := { b with finished := true }.dispose
    { b with calls := b.calls ++ [.error e] }

/-- `roomLeft`: the desired size is still positive. -/
def onData (limit : ℕ) (chunk : Bytes) (roomLeft : Bool) (b : RequestBody) : RequestBody :=
  let b := { b with received := b.received + chunk.length }
  if limit < b.received then b.fail .requestBodyTooLarge
  else
    { b with
      calls := b.calls ++ [.enqueue chunk]
      flowing := b.flowing && roomLeft }

def onEnd (b : RequestBody) : RequestBody :=
  if b.finished then b
  else
    let b := { b with finished := true }.dispose
    { b with calls := b.calls ++ [.close] }

def onClose (b : RequestBody) : RequestBody :=
  if b.readableEnded then b.onEnd else b.fail .requestStreamClosed

def start (aborted : Option String) (readableEnded destroyed : Bool) : RequestBody :=
  let b : RequestBody := ⟨0, false, true, false, readableEnded, [], [], false⟩
  match aborted with
  | some reason => b.fail (.aborted reason)
  | none => if readableEnded then b.onEnd else if destroyed then b.onClose else b

def pull (b : RequestBody) : RequestBody := if b.finished then b else { b with flowing := true }

def cancel (b : RequestBody) : RequestBody :=
  { b with finished := true, cancelled := b.cancelled || !b.finished }.dispose

inductive Event
  | data (chunk : Bytes) (roomLeft : Bool)
  | ended
  | error (e : String)
  | close
  | abort (reason : String)
  | pull
  | cancel
  | dispose
  deriving DecidableEq

def emit (chunk : Bytes) (b : RequestBody) : RequestBody :=
  { b with emitted := if b.readableEnded then b.emitted else b.emitted ++ [chunk] }

def heard (listener : RequestBody → RequestBody) (b : RequestBody) : RequestBody :=
  if b.attached then listener b else b

def onEvent (limit : ℕ) : Event → RequestBody → RequestBody
  | .data chunk roomLeft, b => (b.emit chunk).heard (onData limit chunk roomLeft)
  | .ended, b => { b with readableEnded := true }.heard onEnd
  | .error e, b => b.heard (fail (.source e))
  | .close, b => b.heard onClose
  | .abort reason, b => b.heard (fail (.aborted reason))
  | .pull, b => b.pull
  | .cancel, b => b.cancel
  | .dispose, b => b.dispose

end RequestBody

def ControllerCall.chunk : ControllerCall → Option Bytes
  | enqueue chunk => some chunk
  | _ => none

namespace RequestBody

def enqueued (b : RequestBody) : List Bytes := b.calls.filterMap ControllerCall.chunk

def endings (b : RequestBody) : ℕ := b.calls.countP (·.chunk.isNone)

/-- What is so whether or not the listeners are there. -/
structure Sound (limit : ℕ) (b : RequestBody) : Prop where
  front : b.enqueued <+: b.emitted
  within : b.enqueued.flatten.length ≤ limit
  closed : .close ∈ b.calls → b.readableEnded = true ∧ b.enqueued = b.emitted
  once : b.endings + b.cancelled.toNat = b.finished.toNat

structure Inv (limit : ℕ) (b : RequestBody) : Prop extends Sound limit b where
  live : b.attached = true → b.finished = false ∧ b.readableEnded = false ∧
    b.enqueued = b.emitted ∧ b.received = b.emitted.flatten.length

variable {limit : ℕ} {b : RequestBody}

/-- The stream is ended by a call of the controller. -/
def finishWith (c : ControllerCall) (b : RequestBody) : RequestBody :=
  { b with finished := true, flowing := false, attached := false, calls := b.calls ++ [c] }

theorem finishWith_inv (h : b.Sound limit) (hopen : b.finished = false) {c : ControllerCall}
    (hc : c.chunk = none)
    (hclosed : c = .close → b.readableEnded = true ∧ b.enqueued = b.emitted) :
    (b.finishWith c).Inv limit := by
  have henq : (b.finishWith c).enqueued = b.enqueued := by
    simp [enqueued, finishWith, hc]
  have hend : (b.finishWith c).endings = b.endings + 1 := by
    simp [endings, finishWith, hc]
  refine ⟨⟨?_, ?_, ?_, ?_⟩, nofun⟩
  · rw [henq]
    exact h.front
  · rw [henq]
    exact h.within
  · intro hclose
    rw [henq]
    obtain hclose | hclose := List.mem_append.1 hclose
    · exact h.closed hclose
    · exact hclosed (List.mem_singleton.1 hclose).symm
  · have honce := h.once
    rw [hopen, Bool.toNat_false] at honce
    rw [hend]
    show b.endings + 1 + b.cancelled.toNat = 1
    omega

theorem fail_inv (h : b.Sound limit) (hopen : b.finished = false) (e : BodyError) :
    (b.fail e).Inv limit ∧ (b.fail e).calls = b.calls ++ [.error e] := by
  have heq : b.fail e = b.finishWith (.error e) := if_neg (by rw [hopen]; exact Bool.false_ne_true)
  rw [heq]
  exact ⟨finishWith_inv h hopen rfl nofun, rfl⟩

theorem onEnd_inv (h : b.Sound limit) (hopen : b.finished = false) (hended : b.readableEnded = true)
    (hall : b.enqueued = b.emitted) : b.onEnd.Inv limit := by
  have heq : b.onEnd = b.finishWith .close := if_neg (by rw [hopen]; exact Bool.false_ne_true)
  rw [heq]
  exact finishWith_inv h hopen rfl fun _ => ⟨hended, hall⟩

theorem emit_sound (h : b.Sound limit) (chunk : Bytes) : (b.emit chunk).Sound limit := by
  refine ⟨?_, h.within, fun hclose => ?_, h.once⟩
  · unfold emit
    dsimp only
    split_ifs
    · exact h.front
    · exact h.front.trans (List.prefix_append _ _)
  · obtain ⟨hended, hall⟩ := h.closed hclose
    exact ⟨hended, hall.trans (if_pos hended).symm⟩

theorem heard_inv {listener : RequestBody → RequestBody} (h : b.Sound limit)
    (hlive : b.attached = true → (listener b).Inv limit) : (b.heard listener).Inv limit := by
  unfold heard
  split_ifs with hatt
  · exact hlive hatt
  · exact ⟨h, fun hlive => absurd hlive hatt⟩

/-- A chunk is enqueued, or is the one too much. -/
theorem onData_emit (h : b.Inv limit) (hlive : b.attached = true) (chunk : Bytes)
    (roomLeft : Bool) :
    (onData limit chunk roomLeft (b.emit chunk)).Inv limit ∧
    (limit < (b.emitted.flatten ++ chunk).length →
      (onData limit chunk roomLeft (b.emit chunk)).calls = b.calls ++
        [.error .requestBodyTooLarge]) := by
  obtain ⟨hopen, hended, hall, hreceived⟩ := h.live hlive
  have hemit : (b.emit chunk).emitted = b.emitted ++ [chunk] := by
    unfold emit
    rw [hended]
    rfl
  have hlength : (b.emit chunk).received + chunk.length = (b.emitted.flatten ++ chunk).length := by
    rw [List.length_append, ← hreceived]
    rfl
  unfold onData
  dsimp only
  split_ifs with hlimit
  · have hsound := emit_sound h.toSound chunk
    obtain ⟨hinv, hcalls⟩ := fail_inv (b := { b.emit chunk with
      received := (b.emit chunk).received + chunk.length })
      ⟨hsound.front, hsound.within, hsound.closed, hsound.once⟩ hopen .requestBodyTooLarge
    exact ⟨hinv, fun _ => hcalls⟩
  · rw [hlength] at hlimit
    have henq : (b.calls ++ [ControllerCall.enqueue chunk]).filterMap ControllerCall.chunk =
        b.emitted ++ [chunk] := by
      rw [List.filterMap_append, ← hall]
      rfl
    have hsame : (b.calls ++ [ControllerCall.enqueue chunk]).filterMap ControllerCall.chunk =
        (b.emit chunk).emitted := henq.trans hemit.symm
    refine ⟨⟨⟨?_, ?_, ?_, ?_⟩, fun _ => ⟨hopen, hended, hsame, ?_⟩⟩, fun h => absurd h hlimit⟩
    · exact hsame ▸ List.prefix_rfl
    · refine (congrArg (·.flatten.length) henq).trans_le ?_
      simpa using hlimit
    · intro hclose
      have hearlier : ControllerCall.close ∈ b.calls := by
        simpa [emit] using hclose
      exact absurd (hended.symm.trans (h.closed hearlier).1) Bool.false_ne_true
    · have honce := h.once
      simpa [endings, ControllerCall.chunk, emit] using honce
    · rw [hlength, hemit]
      simp

theorem onEvent_inv (e : Event) (h : b.Inv limit) : (onEvent limit e b).Inv limit := by
  cases e with
  | data chunk roomLeft =>
    exact heard_inv (emit_sound h.toSound chunk) fun hlive => (onData_emit h hlive chunk roomLeft).1
  | ended =>
    have hended : { b with readableEnded := true }.Sound limit :=
      ⟨h.front, h.within, fun hclose => ⟨rfl, (h.closed hclose).2⟩, h.once⟩
    apply heard_inv hended
    intro hlive
    obtain ⟨hopen, -, hall, -⟩ := h.live hlive
    exact onEnd_inv hended hopen rfl hall
  | error e =>
    exact heard_inv h.toSound fun hlive => (fail_inv h.toSound (h.live hlive).1 _).1
  | close =>
    apply heard_inv h.toSound
    intro hlive
    unfold onClose
    rw [(h.live hlive).2.1, if_neg Bool.false_ne_true]
    exact (fail_inv h.toSound (h.live hlive).1 _).1
  | abort reason =>
    exact heard_inv h.toSound fun hlive => (fail_inv h.toSound (h.live hlive).1 _).1
  | pull =>
    show b.pull.Inv limit
    unfold pull
    split_ifs
    · exact h
    · exact ⟨⟨h.front, h.within, h.closed, h.once⟩, h.live⟩
  | cancel =>
    refine ⟨⟨h.front, h.within, h.closed, ?_⟩, nofun⟩
    have honce := h.once
    show b.endings + (b.cancelled || !b.finished).toNat = 1
    cases hfin : b.finished <;> cases hcan : b.cancelled <;> simp [hfin, hcan] at honce ⊢ <;> omega
  | dispose => exact ⟨⟨h.front, h.within, h.closed, h.once⟩, nofun⟩

theorem start_inv (aborted : Option String) (readableEnded destroyed : Bool) :
    (start aborted readableEnded destroyed).Inv limit := by
  have hsound (ended : Bool) : (⟨0, false, true, false, ended, [], [], false⟩ :
      RequestBody).Sound limit := ⟨List.prefix_rfl, Nat.zero_le _, nofun, rfl⟩
  unfold start
  cases aborted with
  | some reason => exact (fail_inv (hsound readableEnded) rfl _).1
  | none =>
    cases readableEnded with
    | true => exact onEnd_inv (hsound true) rfl rfl rfl
    | false =>
      cases destroyed with
      | true => exact (fail_inv (hsound false) rfl _).1
      | false => exact ⟨hsound false, fun _ => ⟨rfl, rfl, rfl, rfl⟩⟩

def Event.terminal : Event → Bool
  | .ended | .error _ | .close | .abort _ | .cancel => true
  | _ => false

theorem calls_of_gone (hgone : b.attached = false) (e : Event) :
    (onEvent limit e b).calls = b.calls := by
  have hdeaf {b : RequestBody} (hgone : b.attached = false) (listener) :
      (b.heard listener).calls = b.calls := by
    unfold heard
    rw [hgone]
    rfl
  cases e with
  | data chunk roomLeft => exact hdeaf (b := b.emit chunk) hgone _
  | ended => exact hdeaf (b := { b with readableEnded := true }) hgone _
  | error e => exact hdeaf hgone _
  | close => exact hdeaf hgone _
  | abort reason => exact hdeaf hgone _
  | pull =>
    show b.pull.calls = b.calls
    unfold pull
    split_ifs <;> rfl
  | cancel => rfl
  | dispose => rfl

theorem finished_of_terminal (hlive : b.attached = true) {e : Event} (he : e.terminal = true) :
    (onEvent limit e b).finished = true := by
  have hfail (b : RequestBody) (e : BodyError) : (b.fail e).finished = true := by
    unfold fail
    split_ifs with hdone
    · exact hdone
    · rfl
  have hend (b : RequestBody) : b.onEnd.finished = true := by
    unfold onEnd
    split_ifs with hdone
    · exact hdone
    · rfl
  cases e with
  | ended => exact (congrArg finished (if_pos hlive)).trans (hend _)
  | error e => exact (congrArg finished (if_pos hlive)).trans (hfail _ _)
  | close =>
    refine (congrArg finished (if_pos hlive)).trans ?_
    unfold onClose
    split_ifs
    · exact hend b
    · exact hfail b _
  | abort reason => exact (congrArg finished (if_pos hlive)).trans (hfail _ _)
  | cancel => rfl
  | data chunk roomLeft => cases he
  | pull => cases he
  | dispose => cases he

/-- Whatever comes in which order: the chunks are a front of what the source emitted, within
the limit; the stream is closed only after the end and with everything in it, and fails with the
chunk that is too much; it is ended once, and nothing is called afterwards. -/
theorem body_bridged (limit : ℕ) (aborted : Option String) (readableEnded destroyed : Bool)
    (events : List Event) :
    let b := Runs.run (onEvent limit) events (start aborted readableEnded destroyed)
    (b.enqueued <+: b.emitted ∧ b.enqueued.flatten.length ≤ limit) ∧
    (.close ∈ b.calls → b.readableEnded = true ∧ b.enqueued = b.emitted) ∧
    (b.attached = true → ∀ chunk roomLeft, limit < (b.emitted.flatten ++ chunk).length →
      (onEvent limit (.data chunk roomLeft) b).calls = b.calls ++ [.error .requestBodyTooLarge]) ∧
    b.endings + b.cancelled.toNat = b.finished.toNat ∧
    (b.finished = true → b.attached = false) ∧
    (b.attached = false → ∀ e, (onEvent limit e b).calls = b.calls) ∧
    (b.attached = true → ∀ e, e.terminal = true → (onEvent limit e b).finished = true) := by
  intro b
  have hinv : b.Inv limit :=
    Runs.run_invariant (fun e _ h => onEvent_inv e h) events (start_inv _ _ _)
  refine ⟨⟨hinv.front, hinv.within⟩, hinv.closed, ?_, hinv.once, ?_, ?_, ?_⟩
  · intro hlive chunk roomLeft hlarge
    have hheard : onEvent limit (.data chunk roomLeft) b =
        onData limit chunk roomLeft (b.emit chunk) := if_pos hlive
    rw [hheard]
    exact (onData_emit hinv hlive chunk roomLeft).2 hlarge
  · intro hfinished
    by_contra hlive
    rw [Bool.not_eq_false] at hlive
    exact Bool.false_ne_true ((hinv.live hlive).1.symm.trans hfinished)
  · exact fun hgone e => calls_of_gone hgone e
  · exact fun hlive e he => finished_of_terminal hlive he

theorem body_bridged_overflow :
    let b := Runs.run (onEvent 2) [.data [1, 2] true] (start none false false)
    b.attached = true ∧ (onEvent 2 (.data [3] true) b).calls =
      [.enqueue [1, 2], .error .requestBodyTooLarge] :=
  ⟨by decide, (body_bridged 2 none false false [.data [1, 2] true]).2.2.1 (by decide) [3] true
    (by decide)⟩

end RequestBody

end Http3
