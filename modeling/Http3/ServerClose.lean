import Http3.H3Event
import Http3.Lib.Runs

/-! Closing a server whose workers share one event callback: the event loop
adapter waits for a shutdown sentinel, and the server then forgets its sessions
and streams. -/

namespace Http3

def JsH3Event.isSentinel (e : JsH3Event) : Bool := e.eventType == .shutdownComplete

/-- The server with its worker loop. Two fields are not part of the program: the
workers whose sentinel has arrived, and the events dispatched so far, each with
whether the maps were cleared by then. -/
structure Http3SecureServer where
  /-- `WorkerEventLoop`: closed, a sentinel seen, a `close` that waits for one, and
  whether its promise is resolved. -/
  closed : Bool
  shutdownObserved : Bool
  shutdownResolve : Bool
  sentinelResolved : Bool
  /-- The server still refers to its loop. -/
  eventLoop : Bool
  /-- Some call of `close` is past the loop's own `close`, or went on at its timeout. -/
  proceeded : Bool
  timedOut : Bool
  cleared : Bool
  observed : List ℕ
  dispatched : List (Bool × JsH3Event)
  deriving DecidableEq

namespace Http3SecureServer

def listening : Http3SecureServer :=
  ⟨false, false, false, false, true, false, false, false, [], []⟩

def dispatchEvents (events : List JsH3Event) (s : Http3SecureServer) : Http3SecureServer :=
  { s with dispatched := s.dispatched ++ events.map fun e => (s.cleared, e) }

/-- A sentinel resolves the promise of a waiting `close`. -/
def onShutdownSentinel (s : Http3SecureServer) : Http3SecureServer :=
  let s := { s with shutdownObserved := true }
  if s.shutdownResolve then { s with shutdownResolve := false, sentinelResolved := true } else s

/-- The callback all workers deliver their batches to. -/
def onEvents (worker : ℕ) (events : List JsH3Event) (s : Http3SecureServer) : Http3SecureServer :=
  if events.any JsH3Event.isSentinel then
    let s := s.dispatchEvents (events.filter fun e => !e.isSentinel)
    { s with observed := worker :: s.observed }.onShutdownSentinel
  else s.dispatchEvents events

/-- `close` of the server up to the point where it waits. The loop's `close` waits in
the first call only; later calls return at once. -/
def close (s : Http3SecureServer) : Http3SecureServer :=
  if !s.eventLoop || s.closed then { s with eventLoop := false, proceeded := true }
  else if s.shutdownObserved then { s with closed := true, sentinelResolved := true }
  else { s with closed := true, shutdownResolve := true }

/-- The first `close` goes on: the worker is joined and the loop dropped. -/
def proceed (s : Http3SecureServer) : Http3SecureServer :=
  { s with
    shutdownResolve := false
    sentinelResolved := false
    eventLoop := false
    proceeded := true }

inductive Step
  | deliver (worker : ℕ) (events : List JsH3Event)
  | close
  /-- The promise of the sentinel is resolved and the waiting call runs again. -/
  | resume
  /-- The waiting call gives up. -/
  | timeout
  /-- A call that went on clears sessions and streams. -/
  | clear
  deriving DecidableEq

def step : Step → Http3SecureServer → Http3SecureServer
  | .deliver worker events, s => s.onEvents worker events
  | .close, s => s.close
  | .resume, s => if s.sentinelResolved then s.proceed else s
  | .timeout, s => if s.shutdownResolve then { s.proceed with timedOut := true } else s
  | .clear, s => if s.proceeded then { s with cleared := true } else s

variable (workers : ℕ)

def AllObserved (s : Http3SecureServer) : Prop := ∀ w < workers, w ∈ s.observed

/-- A worker delivers nothing behind its own sentinel. -/
def NothingAfterSentinel : Step → Http3SecureServer → Prop
  | .deliver worker events, s => worker < workers ∧ worker ∉ s.observed ∧
      ∀ e ∈ events.dropLast, e.isSentinel = false
  | _, _ => True

/-- A sentinel a call waits for is the last one to arrive, and a call that finds a
sentinel seen, or a call before it, finds them all. -/
def LastSentinel : Step → Http3SecureServer → Prop
  | .deliver worker events, s => events.any JsH3Event.isSentinel = true →
      s.shutdownResolve = true → ∀ w < workers, w ≠ worker → w ∈ s.observed
  | .close, s => s.eventLoop = true → (s.shutdownObserved || s.closed) = true →
      s.AllObserved workers
  | _, _ => True

instance (s : Http3SecureServer) : Decidable (s.AllObserved workers) :=
  inferInstanceAs (Decidable (∀ w < workers, _))

instance : (i : Step) → (s : Http3SecureServer) → Decidable (NothingAfterSentinel workers i s)
  | .deliver .., _ => inferInstanceAs (Decidable (_ ∧ _ ∧ _))
  | .close, _ | .resume, _ | .timeout, _ | .clear, _ => .isTrue trivial

instance : (i : Step) → (s : Http3SecureServer) → Decidable (LastSentinel workers i s)
  | .deliver .., _ => inferInstanceAs (Decidable (_ → _ → ∀ w < workers, _))
  | .close, _ => inferInstanceAs (Decidable (_ → _ → _))
  | .resume, _ | .timeout, _ | .clear, _ => .isTrue trivial

variable {workers}

/-- As long as no call timed out, going on means that every sentinel has arrived. -/
structure Waits (workers : ℕ) (s : Http3SecureServer) : Prop where
  resolved : s.sentinelResolved = true → s.AllObserved workers
  dropped : s.eventLoop = false → s.proceeded = true
  proceeded : s.timedOut = false → s.proceeded = true → s.AllObserved workers
  cleared : s.cleared = true → s.proceeded = true
  dispatched : s.timedOut = false → ∀ entry ∈ s.dispatched, entry.1 = false

variable {s : Http3SecureServer}

theorem AllObserved.cons {worker : ℕ} (h : ∀ w < workers, w ≠ worker → w ∈ s.observed) :
    ∀ w < workers, w ∈ worker :: s.observed := by
  intro w hw
  by_cases heq : w = worker
  · simp [heq]
  · exact List.mem_cons_of_mem _ (h w hw heq)

theorem Waits.dispatchEvents (h : s.Waits workers) {worker : ℕ} (hworker : worker < workers)
    (hlate : worker ∉ s.observed) (events : List JsH3Event) :
    (s.dispatchEvents events).Waits workers := by
  constructor
  · exact h.resolved
  · exact h.dropped
  · exact h.proceeded
  · exact h.cleared
  · intro htime entry hentry
    rcases List.mem_append.1 hentry with hold | hnew
    · exact h.dispatched htime entry hold
    · obtain ⟨e, -, rfl⟩ := List.mem_map.1 hnew
      show s.cleared = false
      by_contra hcleared
      have hcleared : s.cleared = true := by simpa using hcleared
      exact hlate (h.proceeded htime (h.cleared hcleared) worker hworker)

theorem Waits.onEvents (h : s.Waits workers) {worker : ℕ} {events : List JsH3Event}
    (hworker : worker < workers) (hlate : worker ∉ s.observed)
    (hlast : LastSentinel workers (.deliver worker events) s) :
    (s.onEvents worker events).Waits workers := by
  unfold Http3SecureServer.onEvents
  split_ifs with hsentinel
  · have hd := h.dispatchEvents hworker hlate (events.filter fun e => !e.isSentinel)
    have hmore : ∀ w, w ∈ s.observed → w ∈ worker :: s.observed :=
      fun w hw => List.mem_cons_of_mem _ hw
    unfold onShutdownSentinel
    dsimp only
    split_ifs with hresolve
    · have hall := AllObserved.cons (hlast hsentinel hresolve)
      exact ⟨fun _ => hall, hd.dropped, fun _ _ => hall, hd.cleared, hd.dispatched⟩
    · exact ⟨fun hr w hw => hmore w (hd.resolved hr w hw), hd.dropped,
        fun ht hp w hw => hmore w (hd.proceeded ht hp w hw), hd.cleared, hd.dispatched⟩
  · exact h.dispatchEvents hworker hlate events

theorem Waits.close (h : s.Waits workers) (hlast : LastSentinel workers .close s) :
    s.close.Waits workers := by
  unfold Http3SecureServer.close
  split_ifs with hagain hseen
  · have hall : s.timedOut = false → s.AllObserved workers := by
      intro htime
      cases hloop : s.eventLoop with
      | false => exact h.proceeded htime (h.dropped hloop)
      | true =>
        have hclosed : s.closed = true := by simpa [hloop] using hagain
        exact hlast hloop (by simp [hclosed])
    exact ⟨h.resolved, fun _ => rfl, fun ht _ => hall ht, fun _ => rfl, h.dispatched⟩
  · have hloop : s.eventLoop = true := by
      cases hl : s.eventLoop
      · simp [hl] at hagain
      · rfl
    exact ⟨fun _ => hlast hloop (by simp [hseen]), h.dropped, h.proceeded, h.cleared, h.dispatched⟩
  · exact ⟨h.resolved, h.dropped, h.proceeded, h.cleared, h.dispatched⟩

theorem Waits.step (h : s.Waits workers) {i : Step} (hsentinel : NothingAfterSentinel workers i s)
    (hlast : LastSentinel workers i s) :
    (Http3SecureServer.step i s).Waits workers := by
  cases i with
  | deliver worker events => exact h.onEvents hsentinel.1 hsentinel.2.1 hlast
  | close => exact h.close hlast
  | resume =>
    show (if s.sentinelResolved then s.proceed else s).Waits workers
    split_ifs with hresolved
    · have hall := h.resolved hresolved
      exact ⟨fun _ => hall, fun _ => rfl, fun _ _ => hall, fun _ => rfl, h.dispatched⟩
    · exact h
  | timeout =>
    show (if s.shutdownResolve then { s.proceed with timedOut := true } else s).Waits workers
    split_ifs
    · constructor <;> simp [proceed]
    · exact h
  | clear =>
    show (if s.proceeded then { s with cleared := true } else s).Waits workers
    split_ifs with hproceeded
    · exact ⟨h.resolved, h.dropped, h.proceeded, fun _ => hproceeded, h.dispatched⟩
    · exact h

/-- In every run in which only the last sentinel finds a waiting call, `close` goes on
after all sentinels only, and no event is dispatched once the maps are cleared. -/
theorem close_waits_for_every_worker {s : Http3SecureServer}
    (h : Runs.Reach Http3SecureServer.step
      (fun i s => NothingAfterSentinel workers i s ∧ LastSentinel workers i s) listening s)
    (htime : s.timedOut = false) :
    (s.proceeded = true → s.AllObserved workers) ∧ ∀ entry ∈ s.dispatched, entry.1 = false := by
  have hinit : listening.Waits workers := by
    constructor <;> simp [listening]
  have hwaits : s.Waits workers := h.invariant hinit fun i s hs hok => hs.step hok.1 hok.2
  exact ⟨hwaits.proceeded htime, hwaits.dispatched htime⟩

/-- Two workers, and a server that is closed once. -/
def closedWithTwoWorkers : List Step :=
  [.close, .deliver 0 [.shutdownComplete], .resume, .clear,
    .deliver 1 [.sessionClose 0x100000, .shutdownComplete]]

/-- The sentinel of the first worker lets `close` go on and clear the maps, and the
second worker's last events are dispatched after that. -/
theorem close_after_first_sentinel :
    Runs.Admitted Http3SecureServer.step (NothingAfterSentinel 2) closedWithTwoWorkers listening ∧
      (let early := Runs.run Http3SecureServer.step (closedWithTwoWorkers.take 3) listening
      early.proceeded = true ∧ early.timedOut = false ∧ ¬ early.AllObserved 2) ∧
      (true, JsH3Event.sessionClose 0x100000) ∈
        (Runs.run Http3SecureServer.step closedWithTwoWorkers listening).dispatched := by
  decide +kernel

/-- Two workers that have both ended, one of them with a session, before the server is closed. -/
def closedAfterTwoWorkers : Http3SecureServer :=
  Runs.run Http3SecureServer.step [.deliver 0 [.newSession 0 "192.0.2.1" 4433 ""],
    .deliver 0 [.sessionClose 0, .shutdownComplete], .deliver 1 [.shutdownComplete],
    .close, .resume, .clear] listening

theorem close_waits_for_every_worker_closedAfterTwoWorkers :
    closedAfterTwoWorkers.cleared = true ∧ closedAfterTwoWorkers.AllObserved 2 ∧
      ∀ entry ∈ closedAfterTwoWorkers.dispatched, entry.1 = false := by
  have hreach : Runs.Reach Http3SecureServer.step
      (fun i s => NothingAfterSentinel 2 i s ∧ LastSentinel 2 i s) listening
      closedAfterTwoWorkers := Runs.Reach.start.run (by decide +kernel)
  obtain ⟨hall, hdispatched⟩ := close_waits_for_every_worker hreach (by decide +kernel)
  exact ⟨by decide +kernel, hall (by decide +kernel), hdispatched⟩

end Http3SecureServer

end Http3
