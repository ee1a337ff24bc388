import Http3.SharedClient.OpenRequests

/-! The registry of shared workers with the sessions each worker counts. The handle of a session
is joined once; the join that takes the count of its worker to zero waits for the worker thread
and clears the entry of the worker's key. -/

namespace Http3

def SharedClientLoop.opened {C Own : Type} (st : SharedClientLoop C Own) (request : ℕ) : Bool :=
  st.replies.any fun
    | .openSession answered (.ok _) => answered == request
    | _ => false

/-- Handles are named by their worker and the request they were returned for; `counted` is not
part of the program, it has the requests a handle was ever returned for. -/
structure CountedRegistry (C Own : Type) where
  shared : SharedRegistry C Own
  sessionCount : ℕ → ℕ
  handles : List (ℕ × ℕ)
  counted : List (ℕ × ℕ)
  /-- Workers whose thread a join is waiting for. -/
  joining : List ℕ

namespace CountedRegistry

variable {C Own : Type}

inductive Step (Own : Type)
  | shared (i : SharedRegistry.Step Own)
  /-- A thread has got the answer to its request. -/
  | spawned (w request : ℕ)
  /-- A handle is joined: it is given up, up to the wait for the worker thread. -/
  | join (handle : ℕ × ℕ)
  /-- The wait is over. -/
  | joined (i : ℕ)

def isRunning (r : CountedRegistry C Own) (w : ℕ) : Bool :=
  (r.shared.workers[w]?).any (·.running)

local instance lawfulBEqHandle : LawfulBEq (ℕ × ℕ) := inferInstance

variable [ClientProtocol C Own]

def step : Step Own → CountedRegistry C Own → CountedRegistry C Own
  | .shared i, r =>
    match i with
    -- the end of a join, which is counted here
    | .join _ => r
    | i => { r with shared := SharedRegistry.step i r.shared }
  | .spawned w request, r =>
    match r.shared.workers[w]? with
    | none => r
    | some worker =>
      if worker.loop.opened request ∧ (w, request) ∉ r.counted then
        { r with
          sessionCount := Function.update r.sessionCount w (r.sessionCount w + 1)
          handles := r.handles ++ [(w, request)]
          counted := r.counted ++ [(w, request)] }
      else r
  | .join (w, request), r =>
    if (w, request) ∈ r.handles then
      { r with
        sessionCount := Function.update r.sessionCount w (r.sessionCount w - 1)
        handles := r.handles.erase (w, request)
        joining := if r.sessionCount w = 1 then r.joining ++ [w] else r.joining }
    else r
  | .joined i, r =>
    match r.joining[i]? with
    | none => r
    | some w =>
      if r.isRunning w then r
      else { r with
        shared := SharedRegistry.step (.join w) r.shared
        joining := r.joining.eraseIdx i }

omit [ClientProtocol C Own] in
def empty : CountedRegistry C Own := ⟨.empty, fun _ => 0, [], [], []⟩

end CountedRegistry

namespace SharedRegistry

variable {C Own : Type}

/-- Every running worker is the one registered under its key. -/
def Registered (r : SharedRegistry C Own) : Prop :=
  ∀ w worker, r.workers[w]? = some worker → worker.running = true →
    r.registry.lookup worker.key = some w

theorem registered_empty : (empty : SharedRegistry C Own).Registered := by
  intro w worker hworker
  simp [empty] at hworker

variable {r : SharedRegistry C Own}

theorem Registered.unique (h : r.Registered) {v w : ℕ} {a b : SharedClientWorkerControl C Own}
    (ha : r.workers[v]? = some a) (hb : r.workers[w]? = some b) (hrunA : a.running = true)
    (hrunB : b.running = true) (hkey : a.key = b.key) : v = w := by
  have hv := h v a ha hrunA
  rw [hkey, h w b hb hrunB] at hv
  exact (Option.some.inj hv).symm

theorem Registered.updateWorker (h : r.Registered) (w : ℕ)
    {f : SharedClientWorkerControl C Own → SharedClientWorkerControl C Own}
    (hkey : ∀ worker, (f worker).key = worker.key)
    (hrunning : ∀ worker, (f worker).running = true → worker.running = true) :
    (r.updateWorker w f).Registered := by
  unfold SharedRegistry.updateWorker
  cases hw : r.workers[w]? with
  | none => exact h
  | some worker =>
    intro v other hother hrun
    dsimp only at hother
    by_cases hvw : v = w
    · subst hvw
      have hlt : v < r.workers.length := (List.getElem?_eq_some_iff.1 hw).1
      rw [List.getElem?_set_self hlt] at hother
      obtain rfl := Option.some.inj hother
      rw [hkey]
      exact h v worker hw (hrunning worker hrun)
    · rw [List.getElem?_set_ne (Ne.symm hvw)] at hother
      exact h v other hother hrun

theorem Registered.acquire (h : r.Registered) (serverAddr : SocketAddr)
    (runtimeMode : TransportRuntimeMode) (driver : Option SocketAddr) :
    (r.acquireSharedClientWorker serverAddr runtimeMode driver).2.Registered := by
  unfold acquireSharedClientWorker
  dsimp only
  generalize sharedClientWorkerKey serverAddr runtimeMode = key
  split
  · exact h
  · next hnone =>
    cases driver with
    | none => exact h
    | some localAddr =>
      intro w worker hworker hrun
      dsimp only at hworker ⊢
      rw [List.getElem?_append] at hworker
      split_ifs at hworker with hlt
      · have hlookup := h w worker hworker hrun
        -- a running worker of this key would have been found
        have hne : worker.key ≠ key := by
          rintro rfl
          rw [hlookup, Option.filter_some, if_pos (by simp [hworker, hrun])] at hnone
          cases hnone
        rw [AList.lookup_insert_ne hne]
        exact hlookup
      · rw [List.getElem?_singleton] at hworker
        split_ifs at hworker with hlast
        obtain rfl := Option.some.inj hworker
        dsimp only
        rw [AList.lookup_insert]
        congr 1
        omega

variable [ClientProtocol C Own]

theorem Registered.step (h : r.Registered) {i : Step Own} (hjoin : ∀ w, i ≠ .join w) :
    (step i r).Registered := by
  cases i with
  | acquire serverAddr runtimeMode driver =>
    have hacquired := h.acquire serverAddr runtimeMode driver
    unfold SharedRegistry.step
    dsimp only
    generalize r.acquireSharedClientWorker serverAddr runtimeMode driver = acquired at hacquired ⊢
    obtain ⟨_ | w, r'⟩ := acquired
    · exact hacquired
    · exact hacquired
  | request thread serverName sessionTicket =>
    unfold SharedRegistry.step
    dsimp only
    cases r.spawning[thread]? with
    | none => exact h
    | some acquired =>
      have herased : { r with spawning := r.spawning.eraseIdx thread }.Registered := h
      exact herased.updateWorker _ (fun _ => rfl) fun _ hrun => hrun
  | worker w i =>
    unfold SharedRegistry.step
    cases i with
    | openSession => exact h
    | _ => exact h.updateWorker w (fun _ => rfl) fun _ hrun => hrun
  | stop w =>
    apply h.updateWorker w
    · intro worker
      rfl
    · intro worker hrun
      exact (Bool.and_eq_true_iff.1 hrun).1
  | join w => exact absurd rfl (hjoin w)

end SharedRegistry

namespace CountedRegistry

variable {C Own : Type}

/-- No running worker other than the one whose join ends is registered under its key. -/
def Undisturbed : Step Own → CountedRegistry C Own → Prop
  | .joined i, r => ∀ w ∈ r.joining[i]?, ∀ worker ∈ r.shared.workers[w]?,
    ∀ other ∈ r.shared.registry.lookup worker.key, r.isRunning other = true → other = w
  | _, _ => True

instance (i : Step Own) (r : CountedRegistry C Own) : Decidable (Undisturbed i r) := by
  unfold Undisturbed
  split <;> infer_instance

variable [ClientProtocol C Own]

theorem step_registered {i : Step Own} {r : CountedRegistry C Own} (hok : Undisturbed i r)
    (h : r.shared.Registered) : (step i r).shared.Registered := by
  cases i with
  | shared i =>
    unfold step
    cases i with
    | join w => exact h
    | acquire | request | worker | stop => exact h.step nofun
  | spawned w request =>
    unfold step
    dsimp only
    cases r.shared.workers[w]? with
    | none => exact h
    | some worker =>
      dsimp only
      split_ifs
      · exact h
      · exact h
  | join handle =>
    obtain ⟨w, request⟩ := handle
    unfold step
    dsimp only
    by_cases hhandle : (w, request) ∈ r.handles
    · rw [if_pos hhandle]
      exact h
    · rw [if_neg hhandle]
      exact h
  | joined i =>
    unfold step
    dsimp only
    cases hi : r.joining[i]? with
    | none => exact h
    | some w =>
      dsimp only
      by_cases hrunning : r.isRunning w = true
      · rw [if_pos hrunning]
        exact h
      · rw [if_neg hrunning]
        unfold SharedRegistry.step
        dsimp only
        cases hw : r.shared.workers[w]? with
        | none => exact h
        | some worker =>
          have hstopped : worker.running = false := by
            simpa [isRunning, hw] using hrunning
          dsimp only
          rw [if_neg (by simp [hstopped])]
          -- the entry that goes is not that of a running worker
          intro v other hother hrun
          dsimp only at hother
          have hlookup := h v other hother hrun
          have hne : other.key ≠ worker.key := by
            intro hkey
            rw [hkey] at hlookup
            have hv : r.isRunning v = true := by
              rw [isRunning, hother]
              exact hrun
            have heq := hok w hi worker hw v hlookup hv
            rw [heq] at hv
            exact hrunning hv
          exact (AList.lookup_erase_ne hne).trans hlookup

theorem reach_registered {r : CountedRegistry C Own} (h : Runs.Reach step Undisturbed empty r) :
    r.shared.Registered := by
  induction h with
  | start => exact SharedRegistry.registered_empty
  | next i _ hok ih => exact step_registered hok ih

/-- There is one running worker under a key at most, and as long as it runs its entry stays. -/
def OneWorkerPerKey (r : CountedRegistry C Own) : Prop :=
  (∀ (v w : ℕ) (a b : SharedClientWorkerControl C Own), r.shared.workers[v]? = some a →
    r.shared.workers[w]? = some b → a.running = true → b.running = true →
      a.key = b.key → v = w) ∧
  ∀ (w : ℕ) (worker : SharedClientWorkerControl C Own), r.shared.workers[w]? = some worker →
    worker.running = true → r.shared.registry.lookup worker.key = some w

omit [ClientProtocol C Own] in
theorem OneWorkerPerKey.of_registered {r : CountedRegistry C Own} (h : r.shared.Registered) :
    r.OneWorkerPerKey :=
  ⟨fun _ _ _ _ => h.unique, h⟩

end CountedRegistry

/-- In runs where no join ends while another running worker has its key, both kinds of shared
workers are found through the registry as long as they run. -/
theorem one_running_worker_per_key {Q : Type} [Quiche Q] :
    (∀ r : CountedRegistry (H3Connection Q) H3Own, Runs.Reach CountedRegistry.step
      CountedRegistry.Undisturbed .empty r → r.OneWorkerPerKey) ∧
    ∀ r : CountedRegistry (QuicConnection Q) QuicOwn, Runs.Reach CountedRegistry.step
      CountedRegistry.Undisturbed .empty r → r.OneWorkerPerKey := by
  constructor
  · intro r hreach
    exact CountedRegistry.OneWorkerPerKey.of_registered (CountedRegistry.reach_registered hreach)
  · intro r hreach
    exact CountedRegistry.OneWorkerPerKey.of_registered (CountedRegistry.reach_registered hreach)

namespace WorkerRegistry

open CountedRegistry OpenRequests

/-- The only session of a worker is opened, closed and released, and the worker ends. -/
def firstWorkerEnds {Own : Type} : List (Step Own) :=
  (spawn ++ ticks 18).map .shared ++ [.spawned 0 0] ++
    (closeAndRelease 0 ++ ticks 16).map .shared ++ [.shared (.stop 0)]

def acquire {Own : Type} : Step Own := .shared (.acquire serverAddr .fast (some localAddr))

/-- The handle is joined before the next session is asked for. -/
def joinedFirst {Own : Type} : List (Step Own) :=
  firstWorkerEnds ++ [.join (0, 0), .joined 0, acquire, acquire]

/-- The handle is joined when a second worker runs already; then a third one is started. -/
def joinedLate {Own : Type} : List (Step Own) :=
  firstWorkerEnds ++ [acquire, .join (0, 0), .joined 0, acquire]

def h3JoinedFirst : CountedRegistry (H3Connection Scripted) H3Own :=
  Runs.run step joinedFirst .empty
def h3JoinedLate : CountedRegistry (H3Connection Scripted) H3Own := Runs.run step joinedLate .empty
def quicJoinedLate : CountedRegistry (QuicConnection Scripted) QuicOwn :=
  Runs.run step joinedLate .empty

theorem one_running_worker_per_key_joinedFirst :
    h3JoinedFirst.shared.workers.map (·.running) = [false, true] ∧
      h3JoinedFirst.OneWorkerPerKey := by
  constructor
  · decide +kernel
  · apply one_running_worker_per_key.1
    exact Runs.Reach.start.run (by decide +kernel)

/-- The join of the first worker clears the entry of the second one, and the third one runs
beside it under the same key. -/
theorem two_workers_of_one_key :
    (Runs.Reach step (fun _ _ => True) .empty h3JoinedLate ∧
      h3JoinedLate.shared.workers.map (fun worker => (worker.key, worker.running)) =
        [(.v4 .fast, false), (.v4 .fast, true), (.v4 .fast, true)]) ∧
    Runs.Reach step (fun _ _ => True) .empty quicJoinedLate ∧
      quicJoinedLate.shared.workers.map (fun worker => (worker.key, worker.running)) =
        [(.v4 .fast, false), (.v4 .fast, true), (.v4 .fast, true)] := by
  constructor
  · constructor
    · exact Runs.Reach.start.run (by decide +kernel)
    · decide +kernel
  · constructor
    · exact Runs.Reach.start.run (by decide +kernel)
    · decide +kernel

end WorkerRegistry

end Http3
