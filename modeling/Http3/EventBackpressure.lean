import Http3.EventLoop
import Http3.Lib.Runs

/-! Backpressure from JavaScript: the workers of all servers and clients of a process
share one gauge of events JavaScript has not taken yet. While it is high they leave
application data inside quiche; an ack lowers it and wakes the workers of the object
it is called on. Each step is one access of a thread to the gauge or to its wakers. -/

namespace Http3

/-- The gauge counts as stuck after this many milliseconds without progress. -/
def stuckAfterMs : ℕ := 5000

structure EventGauge where
  outstanding : ℕ
  lastProgressMs : ℕ
  deriving DecidableEq, Repr

namespace EventGauge

variable (count now : ℕ) (g : EventGauge)

def recordEventBatchFlush : EventGauge := ⟨g.outstanding + count, now⟩

def releaseEventBatchOutstanding : EventGauge := { g with outstanding := g.outstanding - count }

def recordEventBatchDrop : EventGauge :=
  { g with lastProgressMs := now }.releaseEventBatchOutstanding count

def recordEventBatchAck : EventGauge :=
  { g with lastProgressMs := now }.releaseEventBatchOutstanding count

/-- Nobody has flushed, dropped or acked anything for too long while the gauge is high. -/
def Stuck (highWater stuckAfterMs : ℕ) : Prop :=
  highWater < g.outstanding ∧ g.lastProgressMs ≠ 0 ∧ stuckAfterMs < now - g.lastProgressMs

instance (highWater stuckAfterMs : ℕ) : Decidable (g.Stuck now highWater stuckAfterMs) :=
  inferInstanceAs (Decidable (_ ∧ _))

def selfHealEventBatchIfStuck (highWater stuckAfterMs : ℕ) : EventGauge :=
  if g.Stuck now highWater stuckAfterMs then ⟨0, now⟩ else g

/-- Application events are paused: `appEventBudget` answers 0 whatever the batch holds. -/
def Pauses : Prop := appEventPauseHighWater ≤ g.outstanding

instance : Decidable g.Pauses := inferInstanceAs (Decidable (_ ≤ _))

/-- Taking `count` events off ends the pause. -/
def EndsPause : Prop := g.Pauses ∧ g.outstanding - count < appEventPauseHighWater

instance : Decidable (g.EndsPause count) := inferInstanceAs (Decidable (_ ∧ _))

theorem EndsPause.pos {count : ℕ} {g : EventGauge} (h : g.EndsPause count) : 0 < count := by
  obtain ⟨hpauses, hlow⟩ := h
  unfold Pauses at hpauses
  omega

end EventGauge

/-- A worker thread, as far as the gauge goes. -/
structure GaugedWorker where
  /-- Its latest `appEventBudget` was 0 because of the gauge. -/
  paused : Bool := false
  /-- Its driver has returned from `poll` since. -/
  resumed : Bool := false
  /-- Its waker was called, and `poll` has not returned since. -/
  wakePending : Bool := false
  deriving DecidableEq, Repr

/-- A call of `ackEventBatch` that has lowered the gauge and not woken anybody yet. -/
structure Ack where
  count : ℕ
  /-- The workers that were paused when the ack ended the pause. -/
  released : List ℕ
  deriving DecidableEq, Repr

/-- A server or client object of JavaScript. Its handle reaches its own workers and is
gone after `joinWorker`. -/
structure Binding where
  handle : Option (List ℕ)
  acking : Option Ack := none
  deriving DecidableEq, Repr

def Binding.workers (b : Binding) : List ℕ := b.handle.getD []

/-- All threads of a process. -/
structure GaugedProcess where
  gauge : EventGauge
  workers : List GaugedWorker
  bindings : List Binding
  deriving DecidableEq, Repr

inductive GaugeStep
  | flush (count now : ℕ)
  | drop (count now : ℕ)
  | budget (worker : ℕ)
  | poll (now : ℕ)
  | pollReturns (worker : ℕ)
  | ackRelease (binding count now : ℕ)
  | ackWake (binding : ℕ)
  | joinWorker (binding : ℕ)

namespace GaugedProcess

variable (s : GaugedProcess)

def pausedWorkers : List ℕ :=
  (List.range s.workers.length).filter fun i => s.workers[i]?.any (·.paused)

def wakeEventLoop (handle : List ℕ) : GaugedProcess :=
  { s with workers := s.workers.mapIdx fun i w =>
      if i ∈ handle then { w with wakePending := true } else w }

/-- `ackEventBatch` as far as lowering the gauge. -/
def ackRelease (binding count now : ℕ) : GaugedProcess :=
  match s.bindings[binding]? with
  -- a JavaScript object is inside one call at a time
  | some ⟨handle, none⟩ =>
    let released := if s.gauge.EndsPause count then s.pausedWorkers else []
    { s with
      gauge := s.gauge.recordEventBatchAck count now
      bindings := s.bindings.set binding ⟨handle, some ⟨count, released⟩⟩ }
  | _ => s

/-- The rest of `ackEventBatch`. -/
def ackWake (binding : ℕ) : GaugedProcess :=
  match s.bindings[binding]? with
  | some ⟨handle, some ack⟩ =>
    let s' := { s with bindings := s.bindings.set binding ⟨handle, none⟩ }
    if 0 < ack.count then s'.wakeEventLoop (handle.getD []) else s'
  | _ => s

def joinWorker (binding : ℕ) : GaugedProcess :=
  match s.bindings[binding]? with
  | some ⟨_, none⟩ => { s with bindings := s.bindings.set binding ⟨none, none⟩ }
  | _ => s

def step : GaugeStep → GaugedProcess → GaugedProcess
  | .flush count now, s => { s with gauge := s.gauge.recordEventBatchFlush count now }
  | .drop count now, s => { s with gauge := s.gauge.recordEventBatchDrop count now }
  | .budget i, s =>
    { s with workers := s.workers.modify i fun w =>
        { w with paused := s.gauge.Pauses, resumed := false } }
  | .poll now, s =>
    { s with
      gauge := s.gauge.selfHealEventBatchIfStuck now appEventPauseHighWater stuckAfterMs }
  | .pollReturns i, s =>
    { s with workers := s.workers.modify i fun w =>
        { w with resumed := true, wakePending := false } }
  | .ackRelease b count now, s => s.ackRelease b count now
  | .ackWake b, s => s.ackWake b
  | .joinWorker b, s => s.joinWorker b

/-- Nothing has happened yet. -/
structure Fresh : Prop where
  workers : ∀ w ∈ s.workers, w.paused = false
  bindings : ∀ b ∈ s.bindings, b.acking = none

instance : Decidable s.Fresh :=
  decidable_of_iff ((∀ w ∈ s.workers, w.paused = false) ∧ ∀ b ∈ s.bindings, b.acking = none)
    ⟨fun h => ⟨h.1, h.2⟩, fun h => ⟨h.workers, h.bindings⟩⟩

/-- An ack that ends the pause comes from an object that reaches every paused worker. -/
def AckReaches : GaugeStep → GaugedProcess → Prop
  | .ackRelease b count _, s =>
    s.gauge.EndsPause count → ∀ i ∈ s.pausedWorkers, i ∈ (s.bindings[b]?.map (·.workers)).getD []
  | _, _ => True

instance : (i : GaugeStep) → (s : GaugedProcess) → Decidable (AckReaches i s)
  | .ackRelease .., _ => inferInstanceAs (Decidable (_ → _))
  | .flush .., _ | .drop .., _ | .budget _, _ | .poll _, _ | .pollReturns _, _ | .ackWake _, _
  | .joinWorker _, _ => .isTrue trivial

/-- No other step ends a pause that holds a worker back: a drop by a failing sink, or the
reset of a stuck gauge. -/
def PauseEndsByAck : GaugeStep → GaugedProcess → Prop
  | .drop count _, s => s.gauge.EndsPause count → s.pausedWorkers = []
  | .poll now, s =>
    s.gauge.Stuck now appEventPauseHighWater stuckAfterMs → s.pausedWorkers = []
  | _, _ => True

instance : (i : GaugeStep) → (s : GaugedProcess) → Decidable (PauseEndsByAck i s)
  | .drop .., _ | .poll _, _ => inferInstanceAs (Decidable (_ → _))
  | .flush .., _ | .budget _, _ | .pollReturns _, _ | .ackRelease .., _ | .ackWake _, _
  | .joinWorker _, _ => .isTrue trivial

def Woken (i : ℕ) : Prop := ∃ w, s.workers[i]? = some w ∧ w.wakePending = true

/-- An ack in progress is about to wake a worker. -/
def AboutToWake (i : ℕ) : Prop :=
  ∃ (b : ℕ) (handle : List ℕ) (ack : Ack),
    s.bindings[b]? = some ⟨some handle, some ack⟩ ∧ 0 < ack.count ∧ i ∈ handle

/-- Application data waits only as long as the gauge is high. -/
def NoneForgotten : Prop :=
  ∀ i w, s.workers[i]? = some w → w.paused = true → w.resumed = false →
    s.gauge.Pauses ∨ w.wakePending = true ∨ s.AboutToWake i

variable {s}

theorem mem_pausedWorkers {i : ℕ} :
    i ∈ s.pausedWorkers ↔ ∃ w, s.workers[i]? = some w ∧ w.paused = true := by
  simp only [pausedWorkers, List.mem_filter, List.mem_range, Option.any_eq_true]
  constructor
  · exact And.right
  · rintro ⟨w, hw, hpaused⟩
    exact ⟨(List.getElem?_eq_some_iff.1 hw).1, w, hw, hpaused⟩

theorem AboutToWake.set {b i : ℕ} {handle : Option (List ℕ)} {x : Binding} {gauge : EventGauge}
    {workers : List GaugedWorker} (hb : s.bindings[b]? = some ⟨handle, none⟩)
    (h : s.AboutToWake i) : AboutToWake ⟨gauge, workers, s.bindings.set b x⟩ i := by
  obtain ⟨k, wakes, ack, hk, hcount, hi⟩ := h
  have hne : b ≠ k := by
    rintro rfl
    simp [hb] at hk
  refine ⟨k, wakes, ack, ?_, hcount, hi⟩
  rwa [List.getElem?_set_ne hne]

theorem ackRelease_cases (b count now : ℕ) (s : GaugedProcess) :
    s.ackRelease b count now = s ∨
      ∃ handle, s.bindings[b]? = some ⟨handle, none⟩ ∧
        s.ackRelease b count now = ⟨s.gauge.recordEventBatchAck count now, s.workers,
          s.bindings.set b ⟨handle, some ⟨count,
            if s.gauge.EndsPause count then s.pausedWorkers else []⟩⟩⟩ := by
  unfold ackRelease
  split
  · rename_i handle hb
    exact .inr ⟨handle, hb, rfl⟩
  · exact .inl rfl

theorem ackWake_cases (b : ℕ) (s : GaugedProcess) :
    s.ackWake b = s ∨
      ∃ handle ack, s.bindings[b]? = some ⟨handle, some ack⟩ ∧
        s.ackWake b = ⟨s.gauge, s.workers.mapIdx fun i w =>
            if 0 < ack.count ∧ i ∈ handle.getD [] then { w with wakePending := true } else w,
          s.bindings.set b ⟨handle, none⟩⟩ := by
  unfold ackWake
  split
  · rename_i handle ack hb
    refine .inr ⟨handle, ack, hb, ?_⟩
    by_cases hcount : 0 < ack.count
    · simp [wakeEventLoop, hcount]
    · have hid : s.workers.mapIdx (fun _ w => w) = s.workers := by
        apply List.ext_getElem?
        simp
      simp [hcount, hid]
  · exact .inl rfl

theorem joinWorker_cases (b : ℕ) (s : GaugedProcess) :
    s.joinWorker b = s ∨
      ∃ handle, s.bindings[b]? = some ⟨handle, none⟩ ∧
        s.joinWorker b = ⟨s.gauge, s.workers, s.bindings.set b ⟨none, none⟩⟩ := by
  unfold joinWorker
  split
  · rename_i handle hb
    exact .inr ⟨handle, hb, rfl⟩
  · exact .inl rfl

/-- Every worker an ack has released is behind the handle the ack goes on to wake. -/
def AcksReach (s : GaugedProcess) : Prop :=
  ∀ (b : ℕ) (handle : Option (List ℕ)) (ack : Ack),
    s.bindings[b]? = some ⟨handle, some ack⟩ → ∀ i ∈ ack.released,
      i ∈ handle.getD [] ∧ i < s.workers.length ∧ 0 < ack.count

theorem AcksReach.of_bindings {s' : GaugedProcess} (h : s.AcksReach)
    (hb : s'.bindings = s.bindings) (hw : s'.workers.length = s.workers.length) :
    s'.AcksReach := by
  intro b handle ack hget
  rw [hb] at hget
  rw [hw]
  exact h b handle ack hget

theorem AcksReach.set {b : ℕ} {x : Binding} {gauge : EventGauge} {workers : List GaugedWorker}
    (h : s.AcksReach) (hw : workers.length = s.workers.length)
    (hx : ∀ ack, x.acking = some ack → ∀ i ∈ ack.released,
      i ∈ x.workers ∧ i < s.workers.length ∧ 0 < ack.count) :
    AcksReach ⟨gauge, workers, s.bindings.set b x⟩ := by
  intro k handle ack hget
  rw [hw]
  by_cases hk : b = k
  · subst hk
    obtain ⟨_, heq⟩ : b < s.bindings.length ∧ x = ⟨handle, some ack⟩ := by
      simpa [List.getElem?_set] using hget
    subst heq
    exact hx ack rfl
  · rw [List.getElem?_set_ne hk] at hget
    exact h k handle ack hget

theorem step_acksReach (i : GaugeStep) (h : s.AcksReach) (hok : AckReaches i s) :
    (step i s).AcksReach := by
  cases i with
  | flush count now => exact h.of_bindings rfl rfl
  | drop count now => exact h.of_bindings rfl rfl
  | poll now => exact h.of_bindings rfl rfl
  | budget i => exact h.of_bindings rfl (List.length_modify ..)
  | pollReturns i => exact h.of_bindings rfl (List.length_modify ..)
  | ackRelease b count now =>
    show (s.ackRelease b count now).AcksReach
    obtain heq | ⟨handle, hb, heq⟩ := ackRelease_cases b count now s
    · rwa [heq]
    · rw [heq]
      apply h.set rfl
      rintro ack ⟨⟩ i hi
      obtain ⟨hends, hpaused⟩ : s.gauge.EndsPause count ∧ i ∈ s.pausedWorkers := by
        by_cases hends : s.gauge.EndsPause count
        · exact ⟨hends, by simpa [hends] using hi⟩
        · simp [hends] at hi
      obtain ⟨w, hw, _⟩ := mem_pausedWorkers.1 hpaused
      have hreaches := hok hends i hpaused
      rw [hb] at hreaches
      exact ⟨hreaches, (List.getElem?_eq_some_iff.1 hw).1, hends.pos⟩
  | ackWake b =>
    show (s.ackWake b).AcksReach
    obtain heq | ⟨handle, ack, _, heq⟩ := ackWake_cases b s
    · rwa [heq]
    · rw [heq]
      exact h.set (List.length_mapIdx ..) (by simp)
  | joinWorker b =>
    show (s.joinWorker b).AcksReach
    obtain heq | ⟨handle, _, heq⟩ := joinWorker_cases b s
    · rwa [heq]
    · rw [heq]
      exact h.set rfl (by simp)

theorem AcksReach.woken {b : ℕ} {handle : Option (List ℕ)} {ack : Ack} (h : s.AcksReach)
    (hb : s.bindings[b]? = some ⟨handle, some ack⟩) {i : ℕ} (hi : i ∈ ack.released) :
    (s.ackWake b).Woken i := by
  obtain ⟨hhandle, hlt, hcount⟩ := h b handle ack hb i hi
  simp only [ackWake, hb, hcount, if_true, wakeEventLoop, Woken]
  simp [List.getElem?_mapIdx, List.getElem?_eq_getElem hlt, hhandle]

theorem NoneForgotten.of_gauge {gauge : EventGauge} (h : s.NoneForgotten)
    (hgauge : s.gauge.Pauses → s.pausedWorkers ≠ [] → gauge.Pauses) :
    NoneForgotten { s with gauge } := by
  intro i w hw hpaused hresumed
  rcases h i w hw hpaused hresumed with hpauses | hwoken | habout
  · exact .inl (hgauge hpauses (List.ne_nil_of_mem (mem_pausedWorkers.2 ⟨w, hw, hpaused⟩)))
  · exact .inr (.inl hwoken)
  · exact .inr (.inr habout)

theorem NoneForgotten.modify {i : ℕ} {f : GaugedWorker → GaugedWorker} (h : s.NoneForgotten)
    (hf : ∀ w, (f w).paused = true → (f w).resumed = false → s.gauge.Pauses) :
    NoneForgotten { s with workers := s.workers.modify i f } := by
  intro k w hw hpaused hresumed
  rw [List.getElem?_modify] at hw
  obtain ⟨v, hv, rfl⟩ := Option.map_eq_some_iff.1 hw
  by_cases hk : i = k
  · rw [if_pos hk] at hpaused hresumed
    exact .inl (hf v hpaused hresumed)
  · rw [if_neg hk] at hpaused hresumed ⊢
    exact h k v hv hpaused hresumed

theorem step_noneForgotten (i : GaugeStep) (h : s.NoneForgotten) (hreaches : AckReaches i s)
    (hends : PauseEndsByAck i s) : (step i s).NoneForgotten := by
  cases i with
  | flush count now =>
    refine h.of_gauge fun hpauses _ => ?_
    exact hpauses.trans (Nat.le_add_right _ _)
  | drop count now =>
    refine h.of_gauge fun hpauses hne => ?_
    by_contra hlow
    exact hne (hends ⟨hpauses, not_le.1 hlow⟩)
  | poll now =>
    refine h.of_gauge fun hpauses hne => ?_
    rw [EventGauge.selfHealEventBatchIfStuck, if_neg fun hstuck => hne (hends hstuck)]
    exact hpauses
  | budget i =>
    refine h.modify fun w hpaused _ => ?_
    exact of_decide_eq_true hpaused
  | pollReturns i =>
    refine h.modify fun w _ hresumed => ?_
    exact absurd hresumed (by simp)
  | ackRelease b count now =>
    show (s.ackRelease b count now).NoneForgotten
    obtain heq | ⟨handle, hb, heq⟩ := ackRelease_cases b count now s
    · rwa [heq]
    rw [heq]
    intro i w hw hpaused hresumed
    rcases h i w hw hpaused hresumed with hpauses | hwoken | habout
    · by_cases hlow : s.gauge.EndsPause count
      · have hserved := hreaches hlow i (mem_pausedWorkers.2 ⟨w, hw, hpaused⟩)
        have hlt := (List.getElem?_eq_some_iff.1 hb).1
        cases handle with
        | none => simp [hb, Binding.workers] at hserved
        | some handle =>
          rw [hb] at hserved
          exact .inr (.inr ⟨b, handle, _, List.getElem?_set_self hlt, hlow.pos, hserved⟩)
      · refine .inl ?_
        by_contra hnot
        exact hlow ⟨hpauses, not_le.1 hnot⟩
    · exact .inr (.inl hwoken)
    · exact .inr (.inr (habout.set hb))
  | ackWake b =>
    show (s.ackWake b).NoneForgotten
    obtain heq | ⟨handle, ack, hb, heq⟩ := ackWake_cases b s
    · rwa [heq]
    rw [heq]
    intro i w hw hpaused hresumed
    rw [List.getElem?_mapIdx] at hw
    obtain ⟨v, hv, rfl⟩ := Option.map_eq_some_iff.1 hw
    by_cases hwake : 0 < ack.count ∧ i ∈ handle.getD []
    · rw [if_pos hwake]
      exact .inr (.inl rfl)
    · rw [if_neg hwake] at hpaused hresumed ⊢
      rcases h i v hv hpaused hresumed with hpauses | hwoken | ⟨k, wakes, other, hk, hcount, hi⟩
      · exact .inl hpauses
      · exact .inr (.inl hwoken)
      · have hne : b ≠ k := by
          rintro rfl
          obtain ⟨rfl, rfl⟩ : handle = some wakes ∧ ack = other := by simpa [hb] using hk
          exact hwake ⟨hcount, hi⟩
        exact .inr (.inr ⟨k, wakes, other, by rwa [List.getElem?_set_ne hne], hcount, hi⟩)
  | joinWorker b =>
    show (s.joinWorker b).NoneForgotten
    obtain heq | ⟨handle, hb, heq⟩ := joinWorker_cases b s
    · rwa [heq]
    rw [heq]
    intro i w hw hpaused hresumed
    rcases h i w hw hpaused hresumed with hpauses | hwoken | habout
    · exact .inl hpauses
    · exact .inr (.inl hwoken)
    · exact .inr (.inr (habout.set hb))

theorem Fresh.acksReach (h : s.Fresh) : s.AcksReach := by
  intro b handle ack hb
  exact absurd (h.bindings _ (List.mem_of_getElem? hb)) (by simp)

theorem Fresh.noneForgotten (h : s.Fresh) : s.NoneForgotten := by
  intro i w hw hpaused
  simp [h.workers w (List.mem_of_getElem? hw)] at hpaused

/-- However flushes, acks and ticks interleave: when every ack that ends a pause comes from
an object that reaches all paused workers, the ack wakes all of them; and when nothing else
ends a pause either, no paused worker is forgotten. -/
theorem paused_workers_woken {init : GaugedProcess} (hinit : init.Fresh) :
    (∀ s, Runs.Reach step AckReaches init s → ∀ (b : ℕ) (handle : Option (List ℕ)) (ack : Ack),
      s.bindings[b]? = some ⟨handle, some ack⟩ → ∀ i ∈ ack.released,
        (step (.ackWake b) s).Woken i) ∧
    ∀ s, Runs.Reach step (fun i s => AckReaches i s ∧ PauseEndsByAck i s) init s →
      s.NoneForgotten := by
  constructor
  · intro s hreach b handle ack hb i hi
    have hacks : s.AcksReach :=
      hreach.invariant hinit.acksReach fun i _ h hok => step_acksReach i h hok
    exact hacks.woken hb hi
  · intro s hreach
    exact hreach.invariant hinit.noneForgotten fun i _ h hok =>
      step_noneForgotten i h hok.1 hok.2

def twoServers : GaugedProcess :=
  ⟨⟨0, 0⟩, [{}, {}], [⟨some [0], none⟩, ⟨some [1], none⟩]⟩

/-- The events of the first server pause the worker of the second; the ack that ends the
pause does not wake it. -/
theorem ack_wakes_own_workers_only :
    twoServers.Fresh ∧
      (let s := Runs.run step
        [.flush 4096 1, .budget 1, .poll 2, .ackRelease 0 4096 3, .ackWake 0] twoServers
      ¬ s.gauge.Pauses ∧ s.workers = [{ wakePending := true }, { paused := true }]) ∧
      (Runs.run step [.flush 4096 1, .budget 1, .poll 2, .ackRelease 0 4096 3]
        twoServers).bindings[0]? = some ⟨some [0], some ⟨4096, [1]⟩⟩ := by
  decide +kernel

def pausedServer : GaugedProcess :=
  Runs.run step [.flush 4096 1, .budget 0, .budget 1, .poll 2, .ackRelease 0 4096 3]
    ⟨⟨0, 0⟩, [{}, {}], [⟨some [0, 1], none⟩]⟩

theorem paused_workers_woken_pausedServer :
    pausedServer.bindings[0]? = some ⟨some [0, 1], some ⟨4096, [0, 1]⟩⟩ ∧
      (step (.ackWake 0) pausedServer).Woken 1 ∧ pausedServer.NoneForgotten := by
  have hb : pausedServer.bindings[0]? = some ⟨some [0, 1], some ⟨4096, [0, 1]⟩⟩ := by
    decide +kernel
  have hfresh : Fresh ⟨⟨0, 0⟩, [{}, {}], [⟨some [0, 1], none⟩]⟩ := by decide
  obtain ⟨hwoken, hnone⟩ := paused_workers_woken hfresh
  have hreach : Runs.Reach step (fun i s => AckReaches i s ∧ PauseEndsByAck i s)
      ⟨⟨0, 0⟩, [{}, {}], [⟨some [0, 1], none⟩]⟩ pausedServer :=
    Runs.Reach.start.run (by decide +kernel)
  exact ⟨hb, hwoken _ (hreach.mono fun _ _ h => h.1) 0 _ _ hb 1 (by simp), hnone _ hreach⟩

end GaugedProcess

end Http3
