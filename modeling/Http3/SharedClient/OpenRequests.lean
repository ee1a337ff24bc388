import Http3.Lib.Runs
import Http3.Scripted
import Http3.SharedClient.Agenda
import Http3.SharedClient.Sessions

/-! Workers that several client sessions share are found in a registry. A thread that asks for a
session acquires a worker, sends the request and waits for the answer; between the first two the
worker may return. -/

namespace Http3

inductive TransportRuntimeMode
  | fast
  | portable
  deriving DecidableEq, Repr

inductive SharedClientWorkerKey
  | v4 (runtimeMode : TransportRuntimeMode)
  | v6 (runtimeMode : TransportRuntimeMode)
  deriving DecidableEq, Repr

def sharedClientWorkerKey (serverAddr : SocketAddr) (runtimeMode : TransportRuntimeMode) :
    SharedClientWorkerKey :=
  if ':' ∈ serverAddr.ip.toList then .v6 runtimeMode else .v4 runtimeMode

/-- A worker and what JavaScript threads share with it. -/
structure SharedClientWorkerControl (C Own : Type) where
  key : SharedClientWorkerKey
  loop : SharedClientLoop C Own
  running : Bool

/-- All workers ever started, the one registered under each key, and for every thread that has
acquired a worker and has not sent its request yet that worker and the server to connect to. -/
structure SharedRegistry (C Own : Type) where
  workers : List (SharedClientWorkerControl C Own)
  registry : KeyMap SharedClientWorkerKey ℕ
  spawning : List (ℕ × SocketAddr)

namespace SharedRegistry

variable {C Own : Type}

def updateWorker (w : ℕ) (f : SharedClientWorkerControl C Own → SharedClientWorkerControl C Own)
    (r : SharedRegistry C Own) : SharedRegistry C Own :=
  match r.workers[w]? with
  | none => r
  | some worker => { r with workers := r.workers.set w (f worker) }

/-- The worker registered under a key as long as it runs, else a new one. `driver` is the
address a new driver is bound to, if there is one. -/
def acquireSharedClientWorker (serverAddr : SocketAddr) (runtimeMode : TransportRuntimeMode)
    (driver : Option SocketAddr) (r : SharedRegistry C Own) : Option ℕ × SharedRegistry C Own :=
  let key := sharedClientWorkerKey serverAddr runtimeMode
  match (r.registry.lookup key).filter fun w => (r.workers[w]?).any (·.running) with
  | some w => (some w, r)
  | none =>
    match driver with
    | none => (none, r)
    | some localAddr =>
      (some r.workers.length, { r with
        workers := r.workers ++ [⟨key, .init localAddr, true⟩]
        registry := r.registry.insert key r.workers.length })

/-- What the threads of JavaScript and the worker threads do. -/
inductive Step (Own : Type)
  | acquire (serverAddr : SocketAddr) (runtimeMode : TransportRuntimeMode)
      (driver : Option SocketAddr)
  | request (thread : ℕ) (serverName : String) (sessionTicket : Option Bytes)
  /-- A call of the loop, or one of JavaScript on a session it has. -/
  | worker (w : ℕ) (i : SharedClientLoop.Step Own)
  /-- The loop has returned, and its thread ends. -/
  | stop (w : ℕ)
  /-- The last handle of a worker is gone, and its thread has ended. -/
  | join (w : ℕ)

variable [ClientProtocol C Own]

def step : Step Own → SharedRegistry C Own → SharedRegistry C Own
  | .acquire serverAddr runtimeMode driver, r =>
    match r.acquireSharedClientWorker serverAddr runtimeMode driver with
    | (none, r) => r
    | (some w, r) => { r with spawning := r.spawning ++ [(w, serverAddr)] }
  | .request thread serverName sessionTicket, r =>
    match r.spawning[thread]? with
    | none => r
    | some (w, serverAddr) =>
      { r with spawning := r.spawning.eraseIdx thread }.updateWorker w fun worker =>
        { worker with
          loop := (worker.loop.requestSession serverAddr serverName sessionTicket).2 }
  | .worker w i, r =>
    match i with
    -- a session is only asked for by a thread that has acquired the worker
    | .openSession .. => r
    | i => r.updateWorker w fun worker =>
      { worker with loop := SharedClientLoop.step i worker.loop }
  | .stop w, r =>
    r.updateWorker w fun worker =>
      { worker with running := worker.running && worker.loop.channelOpen }
  | .join w, r =>
    match r.workers[w]? with
    | none => r
    | some worker =>
      if worker.running then r else { r with registry := r.registry.erase worker.key }

omit [ClientProtocol C Own] in
def empty : SharedRegistry C Own := ⟨[], ∅, []⟩

end SharedRegistry

namespace SharedClientLoop

variable {C Own : Type}

def requests (st : SharedClientLoop C Own) : List ℕ := st.channel.filterMap SharedQueued.request

/-- The loop comes back to its channel: it has not left the drain behind yet, or there is a
session that keeps it from returning. -/
def TakesRequests (st : SharedClientLoop C Own) : Prop :=
  match st.stage.phase with
  | .serving => st.sessions.keys ≠ []
  | .leaving cause => cause = .runtimeError
  | _ => True

instance (st : SharedClientLoop C Own) : Decidable st.TakesRequests := by
  unfold TakesRequests
  split <;> infer_instance

/-- The drain has taken as many commands as it may. -/
def capped (st : SharedClientLoop C Own) : Bool :=
  match st.stage with
  | .commands drained _ => decide (maxCommandsPerTick ≤ drained)
  | _ => false

/-- While a request waits, a drain that is cut off leaves some session behind, and no call
removes the last one. -/
def Attends (st : SharedClientLoop C Own) : Prop :=
  st.requests ≠ [] → (st.capped = true → st.sessions.keys ≠ []) ∧
    ∀ k ∈ st.removes, ∃ j ∈ st.sessions.keys, j ≠ k

instance (st : SharedClientLoop C Own) : Decidable st.Attends := by
  unfold Attends
  infer_instance

/-- Requests are answered in the order the channel took them in, and none waits for a loop that
has no session behind its drain or that has returned without an error. -/
structure Answering (st : SharedClientLoop C Own) : Prop where
  fifo : st.answered ++ st.requests = List.range st.accepted
  serving : st.stage.phase = .serving → st.sessions.keys = [] → st.requests = []
  returned : ∀ cause, st.stage.phase = .leaving cause ∨ st.stage.phase = .gone cause →
    cause ≠ .runtimeError → st.requests = []

theorem answering_init (localAddr : SocketAddr) :
    (init localAddr : SharedClientLoop C Own).Answering := by
  constructor
  · rfl
  · intro _ _
    rfl
  · intro _ _ _
    rfl

theorem Evolves.occupied {victim : Option ℕ} {st st' : SharedClientLoop C Own}
    (h : Evolves victim st st') (hnext : st'.nextUid = st.nextUid)
    (hother : ∀ k ∈ victim, ∃ j ∈ st.sessions.keys, j ≠ k) (hkeys : st.sessions.keys ≠ []) :
    st'.sessions.keys ≠ [] := by
  obtain ⟨k, hk⟩ := List.exists_mem_of_ne_nil _ hkeys
  have hremoved : ∀ handle, victim = some handle →
      (∀ k, st'.sessions.get k = if k = handle then none else st.sessions.get k) →
      st'.sessions.keys ≠ [] := by
    intro handle hvictim hget
    obtain ⟨j, hj, hne⟩ := hother handle hvictim
    apply List.ne_nil_of_mem (a := j)
    rw [Slab.mem_keys, hget, if_neg hne]
    exact st.sessions.mem_keys.1 hj
  cases h with
  | goesOn hkeeps =>
    apply List.ne_nil_of_mem (a := k)
    rw [Slab.mem_keys, hkeeps.sessions.isSome_iff]
    exact st.sessions.mem_keys.1 hk
  | opens _ _ _ hopened => omega
  | refused hvictim _ hget => exact hremoved _ hvictim hget
  | finished hvictim _ hget => exact hremoved _ hvictim hget

section Step

variable [ClientProtocol C Own] [LawfulClientProtocol C Own] {st : SharedClientLoop C Own}

theorem tick_answering {input : SharedInput} (hattends : st.Attends) (h : st.Answering) :
    (st.tick input).Answering := by
  have hevolves := tick_evolves input st
  have hserves := tick_serves input st
  generalize st.tick input = st' at hevolves hserves ⊢
  cases hserves with
  | @takes _ _ queued channel _ hchannel hphase hchannel' haccepted hanswered =>
    have hrequests : st.requests = queued.request.toList ++ st'.requests := by
      unfold requests
      rw [hchannel, hchannel']
      cases hrequest : queued.request <;> simp [hrequest]
    constructor
    · rw [hanswered, haccepted, ← h.fifo, hrequests, List.append_assoc]
    · intro hserving
      rw [hphase] at hserving
      cases hserving
    · rintro cause (hcause | hcause)
      · rw [hphase] at hcause
        cases hcause
      · rw [hphase] at hcause
        cases hcause
  | leaves hchannel haccepted hanswered hnext hturns =>
    have hrequests : st'.requests = st.requests := by
      unfold requests
      rw [hchannel]
    -- a session that is there before the call keeps the loop busy after it
    have hoccupied : st.requests ≠ [] → st.sessions.keys ≠ [] → st'.sessions.keys ≠ [] :=
      fun hwait => hevolves.occupied hnext (hattends hwait).2
    constructor
    · rw [hanswered, hrequests, haccepted]
      exact h.fifo
    · intro hphase hempty
      rw [hrequests]
      by_contra hwait
      rw [hphase] at hturns
      generalize hserving : Phase.serving = phase at hturns
      cases hturns with
      | stays =>
        have hkeys : st.sessions.keys ≠ [] := fun hkeys => hwait (h.serving hserving.symm hkeys)
        exact hoccupied hwait hkeys hempty
      | drained hstage hdrained =>
        rcases hdrained with hnil | hcap
        · apply hwait
          unfold requests
          rw [hnil]
          rfl
        · refine hoccupied hwait ((hattends hwait).1 ?_) hempty
          unfold capped
          rw [hstage]
          exact decide_eq_true hcap
      | again => cases hserving
      | ends => cases hserving
      | fails => cases hserving
      | goes => cases hserving
    · intro cause hphase hcause
      rw [hrequests]
      generalize st'.stage.phase = phase at hphase hturns
      cases hturns with
      | stays => exact h.returned cause hphase hcause
      | drained => rcases hphase with hphase | hphase <;> cases hphase
      | again => rcases hphase with hphase | hphase <;> cases hphase
      | ends hstage hlen =>
        apply h.serving
        · rw [hstage]
          rfl
        · rw [List.eq_nil_iff_forall_not_mem]
          intro k hk
          rw [Slab.mem_keys, st.sessions.len_eq_zero.1 hlen] at hk
          cases hk
      | fails =>
        rcases hphase with hphase | hphase
        · cases hphase
          exact absurd rfl hcause
        · cases hphase
      | goes hstage =>
        rcases hphase with hphase | hphase
        · cases hphase
        · cases hphase
          apply h.returned cause (.inl _) hcause
          rw [hstage]
          rfl

omit [ClientProtocol C Own] [LawfulClientProtocol C Own] in
theorem requestSession_answering (htakes : st.TakesRequests) (h : st.Answering)
    (serverAddr : SocketAddr) (serverName : String) (sessionTicket : Option Bytes) :
    (st.requestSession serverAddr serverName sessionTicket).2.Answering := by
  unfold requestSession sendCommand
  by_cases hopen : st.channelOpen = true
  · rw [if_pos hopen]
    unfold TakesRequests at htakes
    constructor
    · show st.answered ++ (st.channel ++ [_]).filterMap SharedQueued.request
        = List.range (st.accepted + 1)
      rw [List.filterMap_append, ← List.append_assoc, List.range_succ, ← h.fifo]
      rfl
    · intro (hphase : st.stage.phase = .serving) (hempty : st.sessions.keys = [])
      rw [hphase] at htakes
      exact absurd hempty htakes
    · rintro cause (hphase | hphase) hcause
      · change st.stage.phase = .leaving cause at hphase
        rw [hphase] at htakes
        exact absurd htakes hcause
      · change st.stage.phase = .gone cause at hphase
        exfalso
        revert hopen hphase
        unfold channelOpen
        cases st.stage <;> simp [SharedStage.phase]
  · rw [if_neg hopen]
    exact h

theorem step_answering (h : st.Answering) {i : Step Own}
    (hattends : ∀ input, i = .tick input → st.Attends)
    (hopen : ∀ serverAddr serverName sessionTicket,
      i ≠ .openSession serverAddr serverName sessionTicket) : (step i st).Answering := by
  cases i with
  | tick input => exact tick_answering (hattends input rfl) h
  | openSession serverAddr serverName sessionTicket => exact absurd rfl (hopen _ _ _)
  | send uid cmd =>
    unfold step
    dsimp only
    cases st.given.find? fun g => g.1 = uid with
    | none => exact h
    | some given =>
      dsimp only
      unfold sendCommand
      split_ifs
      · have hrequests : (st.channel ++
            [(⟨.session (UInt32.ofNat given.2) cmd, uid⟩ : SharedQueued Own)]).filterMap
              SharedQueued.request = st.requests := by
          rw [List.filterMap_append]
          exact List.append_nil _
        constructor
        · unfold requests
          rw [hrequests]
          exact h.fifo
        · unfold requests
          rw [hrequests]
          exact h.serving
        · unfold requests
          rw [hrequests]
          exact h.returned
      · exact h
  | tryAdmitOutbound payloadLen fin => exact ⟨h.fifo, h.serving, h.returned⟩
  | releaseOutboundAdmission payloadLen fin => exact ⟨h.fifo, h.serving, h.returned⟩

end Step

/-- A loop that returns for lack of sessions, and not because its driver failed, leaves no
request in its channel, and every request that was ever taken into it is answered. -/
def AnswersBeforeReturn (st : SharedClientLoop C Own) : Prop :=
  ∀ cause, st.stage = .returning cause ∨ st.stage = .exited cause → cause ≠ .runtimeError →
    st.requests = [] ∧ ∀ request < st.accepted, request ∈ st.answered

theorem Answering.answersBeforeReturn {st : SharedClientLoop C Own} (h : st.Answering) :
    st.AnswersBeforeReturn := by
  intro cause hstage hcause
  have hphase : st.stage.phase = .leaving cause ∨ st.stage.phase = .gone cause := by
    rcases hstage with hstage | hstage
    · left
      rw [hstage]
      rfl
    · right
      rw [hstage]
      rfl
  have hnone : st.requests = [] := h.returned cause hphase hcause
  refine ⟨hnone, ?_⟩
  intro request hlt
  have hfifo := h.fifo
  rw [hnone, List.append_nil] at hfifo
  rw [hfifo, List.mem_range]
  exact hlt

end SharedClientLoop

namespace SharedRegistry

variable {C Own : Type} [ClientProtocol C Own]

omit [ClientProtocol C Own] in
theorem forall_updateWorker {P : SharedClientWorkerControl C Own → Prop} {w : ℕ}
    {f : SharedClientWorkerControl C Own → SharedClientWorkerControl C Own}
    {r : SharedRegistry C Own}
    (h : ∀ worker ∈ r.workers, P worker)
    (hf : ∀ worker, r.workers[w]? = some worker → P worker → P (f worker)) :
    ∀ worker ∈ (r.updateWorker w f).workers, P worker := by
  unfold updateWorker
  cases hworker : r.workers[w]? with
  | none => exact h
  | some worker =>
    intro worker' hmem
    rcases List.mem_or_eq_of_mem_set hmem with hmem | rfl
    · exact h worker' hmem
    · exact hf worker hworker (h worker (List.mem_of_getElem? hworker))

/-- A request is sent to a worker that comes back to its channel, and no worker gives up its
last session or cuts off its drain while a request waits. -/
def Timely : Step Own → SharedRegistry C Own → Prop
  | .request thread _ _, r =>
    ∀ acquired ∈ r.spawning[thread]?, ∀ worker ∈ r.workers[acquired.1]?,
      worker.loop.TakesRequests
  | .worker w (.tick _), r => ∀ worker ∈ r.workers[w]?, worker.loop.Attends
  | _, _ => True

instance (i : Step Own) (r : SharedRegistry C Own) : Decidable (Timely i r) := by
  unfold Timely
  split <;> infer_instance

variable [LawfulClientProtocol C Own]

theorem step_answering {i : Step Own} {r : SharedRegistry C Own} (htimely : Timely i r)
    (h : ∀ worker ∈ r.workers, worker.loop.Answering) :
    ∀ worker ∈ (step i r).workers, worker.loop.Answering := by
  cases i with
  | acquire serverAddr runtimeMode driver =>
    have hacquired : ∀ worker ∈
        (r.acquireSharedClientWorker serverAddr runtimeMode driver).2.workers,
          worker.loop.Answering := by
      unfold acquireSharedClientWorker
      dsimp only
      split
      · exact h
      · cases driver with
        | none => exact h
        | some localAddr =>
          intro worker hmem
          rcases List.mem_append.1 hmem with hmem | hmem
          · exact h worker hmem
          · rw [List.mem_singleton.1 hmem]
            exact SharedClientLoop.answering_init localAddr
    unfold step
    dsimp only
    generalize r.acquireSharedClientWorker serverAddr runtimeMode driver = acquired at hacquired ⊢
    obtain ⟨_ | w, r'⟩ := acquired
    · exact hacquired
    · exact hacquired
  | request thread serverName sessionTicket =>
    unfold step
    dsimp only
    cases hthread : r.spawning[thread]? with
    | none => exact h
    | some acquired =>
      obtain ⟨w, serverAddr⟩ := acquired
      apply forall_updateWorker
      · exact h
      · intro worker hworker hanswering
        have htakes := htimely (w, serverAddr) hthread worker hworker
        exact SharedClientLoop.requestSession_answering htakes hanswering _ _ _
  | worker w i =>
    have hstep : (∀ input, i = .tick input → ∀ worker ∈ r.workers[w]?, worker.loop.Attends) →
        (∀ serverAddr serverName sessionTicket,
          i ≠ .openSession serverAddr serverName sessionTicket) →
        ∀ worker ∈ (r.updateWorker w fun worker =>
          { worker with loop := SharedClientLoop.step i worker.loop }).workers,
            worker.loop.Answering := by
      intro hattends hopen
      apply forall_updateWorker h
      intro worker hworker hanswering
      exact SharedClientLoop.step_answering hanswering
        (fun input hi => hattends input hi worker hworker) hopen
    cases i with
    | openSession => exact h
    | tick input => exact hstep (fun _ _ => htimely) nofun
    | send uid cmd => exact hstep nofun nofun
    | tryAdmitOutbound payloadLen fin => exact hstep nofun nofun
    | releaseOutboundAdmission payloadLen fin => exact hstep nofun nofun
  | stop w =>
    apply forall_updateWorker h
    intro worker _ hanswering
    exact hanswering
  | join w =>
    unfold step
    dsimp only
    cases r.workers[w]? with
    | none => exact h
    | some worker =>
      dsimp only
      split_ifs <;> exact h

theorem reach_answering {r : SharedRegistry C Own} (h : Runs.Reach step Timely empty r) :
    ∀ worker ∈ r.workers, worker.loop.Answering := by
  induction h with
  | start =>
    intro worker hmem
    exact absurd hmem List.not_mem_nil
  | next i _ htimely ih => exact step_answering htimely ih

end SharedRegistry

/-- No request that a shared worker has accepted stays behind when its loop returns for lack of
sessions, in runs where requests come in time. -/
theorem open_requests_answered {Q : Type} [Quiche Q] :
    (∀ r : SharedRegistry (H3Connection Q) H3Own, Runs.Reach SharedRegistry.step
      SharedRegistry.Timely .empty r → ∀ worker ∈ r.workers, worker.loop.AnswersBeforeReturn) ∧
    (∀ r : SharedRegistry (QuicConnection Q) QuicOwn, Runs.Reach SharedRegistry.step
      SharedRegistry.Timely .empty r → ∀ worker ∈ r.workers, worker.loop.AnswersBeforeReturn) := by
  constructor
  · intro r hreach worker hmem
    exact (SharedRegistry.reach_answering hreach worker hmem).answersBeforeReturn
  · intro r hreach worker hmem
    exact (SharedRegistry.reach_answering hreach worker hmem).answersBeforeReturn

namespace OpenRequests

open SharedRegistry

def serverAddr : SocketAddr := ⟨"192.0.2.1", 4433⟩
def localAddr : SocketAddr := ⟨"0.0.0.0", 40000⟩

/-- The first worker goes on by `n` calls, during which nothing arrives. -/
def ticks {Own : Type} (n : ℕ) : List (Step Own) :=
  List.replicate n (.worker 0 (.tick { now := 0 }))

/-- A thread finds the worker, or starts it, and sends its request. -/
def spawn {Own : Type} : List (Step Own) :=
  [.acquire serverAddr .fast (some localAddr), .request 0 "localhost" none]

def closeAndRelease {Own : Type} (uid : ℕ) : List (Step Own) :=
  [.worker 0 (.send uid (.close 0 "bye")), .worker 0 (.send uid .releaseSession)]

/-- The second request is sent before the session of the first one is released. -/
def inTime {Own : Type} : List (Step Own) :=
  spawn ++ ticks 2 ++ spawn ++ ticks 1 ++ closeAndRelease 0 ++ closeAndRelease 1 ++ ticks 18

/-- The second request is sent when the loop has seen that its only session is to be released,
and its thread has found a running worker. -/
def tooLate {Own : Type} : List (Step Own) :=
  spawn ++ ticks 18 ++ closeAndRelease 0 ++ ticks 4 ++ spawn ++ ticks 12

def h3InTime : SharedRegistry (H3Connection Scripted) H3Own := Runs.run step inTime .empty
def h3TooLate : SharedRegistry (H3Connection Scripted) H3Own := Runs.run step tooLate .empty
def quicTooLate : SharedRegistry (QuicConnection Scripted) QuicOwn := Runs.run step tooLate .empty

theorem open_requests_answered_in_time :
    ∃ worker ∈ h3InTime.workers, worker.loop.stage = .exited .command ∧
      worker.loop.accepted = 2 ∧ worker.loop.requests = [] ∧ 1 ∈ worker.loop.answered := by
  have hworkers : h3InTime.workers.map (fun worker =>
      (worker.loop.stage, worker.loop.accepted)) = [(.exited .command, 2)] := by decide +kernel
  obtain ⟨worker, hlist, hworker⟩ := List.map_eq_singleton_iff.1 hworkers
  obtain ⟨hstage, haccepted⟩ := Prod.mk.inj hworker
  have hmem : worker ∈ h3InTime.workers := hlist ▸ List.mem_singleton_self worker
  have hreach : Runs.Reach step Timely .empty h3InTime := Runs.Reach.start.run (by decide +kernel)
  have hanswers := open_requests_answered.1 h3InTime hreach worker hmem
  obtain ⟨hnone, hanswered⟩ := hanswers .command (.inr hstage) (by decide)
  exact ⟨worker, hmem, hstage, haccepted, hnone, hanswered 1 (by rw [haccepted]; decide)⟩

/-- Both loops return and leave the second request in the channel. -/
theorem request_left_in_channel :
    (Runs.Reach step (fun _ _ => True) .empty h3TooLate ∧
      ∃ worker ∈ h3TooLate.workers, worker.loop.stage = .exited .command ∧
        worker.loop.requests = [1] ∧ worker.loop.answered = [0]) ∧
    Runs.Reach step (fun _ _ => True) .empty quicTooLate ∧
      ∃ worker ∈ quicTooLate.workers, worker.loop.stage = .exited .command ∧
        worker.loop.requests = [1] ∧ worker.loop.answered = [0] := by
  constructor
  · constructor
    · exact Runs.Reach.start.run (by decide +kernel)
    · decide +kernel
  · constructor
    · exact Runs.Reach.start.run (by decide +kernel)
    · decide +kernel

end OpenRequests

end Http3
