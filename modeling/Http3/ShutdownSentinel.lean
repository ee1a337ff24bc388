import Http3.ClientClose
import Http3.H3Server.EventLoop
import Http3.QuicServer.Worker
import Http3.SharedClient.Agenda
import Http3.SharedClient.Sessions

/-! The sentinel that JavaScript waits for when it closes a worker or a session: it is the last
event of the sink, and it comes once. A shared loop whose driver fails leaves without it. -/

namespace Http3

/-- The sentinel is the last event, and the only sentinel. -/
def SentinelLast (events : List Emitted) : Prop :=
  ∃ before, events = before ++ [⟨none, .shutdownComplete⟩] ∧ ∀ e ∈ before, NotSentinel e

/-- A handler leaves the sentinel to the loop. -/
class SentinelFree (H : Type) (Cmd : outParam Type) [ProtocolHandler H Cmd] : Prop where
  dispatchCommand (now : ℕ) (cmd : Cmd) (h : H) :
    ∀ e ∈ (ProtocolHandler.dispatchCommand now cmd h).2.1, NotSentinel e
  processPacket (p : Packet) (budget now : ℕ) (scids : List Bytes) (h : H) :
    ∀ e ∈ (ProtocolHandler.processPacket p budget now scids h).1, NotSentinel e
  processTimers (now budget : ℕ) (h : H) :
    ∀ e ∈ (ProtocolHandler.processTimers now budget h).1, NotSentinel e
  pollAppEvents (budget now : ℕ) (h : H) :
    ∀ e ∈ (ProtocolHandler.pollAppEvents budget now h).1, NotSentinel e
  pollDrainEvents (budget : ℕ) (h : H) :
    ∀ e ∈ (ProtocolHandler.pollDrainEvents budget h).1, NotSentinel e
  flushPendingWrites (h : H) : ∀ e ∈ (ProtocolHandler.flushPendingWrites h).1, NotSentinel e
  cleanupClosed (h : H) : ∀ e ∈ (ProtocolHandler.cleanupClosed h).1, NotSentinel e
  emitSessionCloseForAllActive (h : H) :
    ∀ e ∈ (ProtocolHandler.emitSessionCloseForAllActive h).1, NotSentinel e

section Native

variable {H Cmd : Type} [ProtocolHandler H Cmd] [SentinelFree H Cmd]

theorem LoopState.call_notSentinel {input : LoopInput Cmd} {st : LoopState H}
    {answer : Bool × List Emitted × H} (hcall : st.call input = some answer) :
    ∀ e ∈ answer.2.1, NotSentinel e := by
  unfold LoopState.call at hcall
  dsimp only at hcall
  cases hstage : st.stage with
  | commands drained rx =>
    rw [hstage] at hcall
    cases hcmd : input.cmd with
    | none =>
      rw [hcmd] at hcall
      cases hcall
    | some cmd =>
      rw [hcmd] at hcall
      dsimp only at hcall
      split_ifs at hcall
      obtain rfl := Option.some.inj hcall
      exact SentinelFree.dispatchCommand _ _ _
  | rx q =>
    rw [hstage] at hcall
    cases hq : q.segments with
    | nil =>
      dsimp only at hcall
      rw [hq] at hcall
      cases hcall
    | cons p segments =>
      dsimp only at hcall
      rw [hq] at hcall
      obtain rfl := Option.some.inj hcall
      exact SentinelFree.processPacket _ _ _ _ _
  | timers =>
    rw [hstage] at hcall
    obtain rfl := Option.some.inj hcall
    exact SentinelFree.processTimers _ _ _
  | appEvents =>
    rw [hstage] at hcall
    obtain rfl := Option.some.inj hcall
    exact SentinelFree.pollAppEvents _ _ _
  | drainEvents =>
    rw [hstage] at hcall
    obtain rfl := Option.some.inj hcall
    exact SentinelFree.pollDrainEvents _ _
  | pendingWrites =>
    rw [hstage] at hcall
    obtain rfl := Option.some.inj hcall
    exact SentinelFree.flushPendingWrites _
  | cleanup =>
    rw [hstage] at hcall
    obtain rfl := Option.some.inj hcall
    exact SentinelFree.cleanupClosed _
  | _ =>
    rw [hstage] at hcall
    cases hcall

theorem LoopState.LastWords.notSentinel {last : List Emitted}
    (h : LoopState.LastWords Cmd (H := H) last) : ∀ e ∈ last, NotSentinel e := by
  cases h with
  | none => simp
  | error handler driver syscall reasonCode reason errno =>
    intro e he
    rcases List.mem_append.1 he with he | he
    · exact SentinelFree.emitSessionCloseForAllActive handler e he
    · obtain rfl := List.mem_singleton.1 he
      exact EventType.noConfusion

/-- While the loop runs no sentinel is out; when it has ended, everything was handed over and
the sentinel is the last of it. -/
def LoopState.SentinelOnce (st : LoopState H) : Prop :=
  match st.stage with
  | .exited .sinkClose => True
  | .exited _ => st.batcher.batch = [] ∧ SentinelLast st.batcher.handed
  | _ => ∀ e ∈ st.log, NotSentinel e

omit [ProtocolHandler H Cmd] [SentinelFree H Cmd] in
theorem LoopState.sentinelOnce_of_running {st : LoopState H} (hrun : st.stage.running = true) :
    st.SentinelOnce ↔ ∀ e ∈ st.log, NotSentinel e := by
  unfold SentinelOnce
  cases hstage : st.stage with
  | exited cause =>
    rw [hstage] at hrun
    cases hrun
  | _ => rfl

theorem LoopState.step_sentinelOnce (input : LoopInput Cmd) {st : LoopState H}
    (h : st.SentinelOnce) : (st.step input).SentinelOnce := by
  cases hrun : st.stage.running with
  | false =>
    have hstill : st.step input = st := by
      cases hstage : st.stage with
      | exited cause =>
        unfold step
        rw [hstage]
      | _ =>
        rw [hstage] at hrun
        cases hrun
    rwa [hstill]
  | true =>
    have hlog := (sentinelOnce_of_running hrun).1 h
    have hsteps := steps_step input hrun
    generalize st.step input = st' at hsteps ⊢
    cases hsteps with
    | goes _ hnext hsame _ =>
      rw [sentinelOnce_of_running hnext, hsame]
      exact hlog
    | reports hcall hnext _ hadded =>
      rw [sentinelOnce_of_running hnext, hadded]
      intro e he
      rcases List.mem_append.1 he with he | he
      · exact hlog e he
      · exact call_notSentinel hcall e he
    | refused hstage =>
      unfold SentinelOnce
      rw [hstage]
      trivial
    | @ends cause last hstage hcause hlast hbatcher =>
      have hended : st'.batcher.batch = [] ∧ SentinelLast st'.batcher.handed := by
        rw [hbatcher]
        refine ⟨rfl, _, rfl, ?_⟩
        intro e he
        rcases List.mem_append.1 he with he | he
        · rcases List.mem_append.1 he with he | he
          · exact hlog e he
          · cases hcall : st.call input with
            | none =>
              rw [hcall] at he
              cases he
            | some answer =>
              rw [hcall] at he
              exact call_notSentinel hcall e he
        · exact hlast.notSentinel e he
      unfold SentinelOnce
      rw [hstage]
      cases cause with
      | sinkClose => trivial
      | _ => exact hended

/-- Every run of the loop that ends, other than on a sink that refuses events, has delivered
the sentinel as the last event and no other sentinel. -/
def EndsWithSentinel (H : Type) {Cmd : Type} [ProtocolHandler H Cmd] : Prop :=
  ∀ (h : H) (st : LoopState H) (cause : LoopExit),
    Runs.Reach LoopState.step (fun _ _ => True) ⟨h, ⟨[], []⟩, .start⟩ st →
      st.stage = .exited cause → cause ≠ .sinkClose →
        st.batcher.batch = [] ∧ SentinelLast st.batcher.handed

theorem endsWithSentinel : EndsWithSentinel H := by
  intro h st cause hreach hstage hcause
  have honce : st.SentinelOnce := by
    refine hreach.invariant ?_ (fun input st h _ => LoopState.step_sentinelOnce input h)
    intro e he
    cases he
  unfold LoopState.SentinelOnce at honce
  rw [hstage] at honce
  cases cause with
  | sinkClose => exact absurd rfl hcause
  | _ => exact honce

end Native

section Servers

variable {Q : Type}

namespace H3Server

/-- The step from `s` to `s'` adds no sentinel. -/
def Unsaid (s s' : H3Server Q) : Prop :=
  (∀ e ∈ s.batch, NotSentinel e) → ∀ e ∈ s'.batch, NotSentinel e

variable {s s' : H3Server Q}

theorem unsaid_of_grows {allowed : Emitted → Prop} (hallowed : ∀ e, allowed e → NotSentinel e)
    (h : Grows allowed s.batch s'.batch) :
    Unsaid s s' :=
  h.forall_mem hallowed fun _ _ he => he

variable [Quiche Q]

theorem Goes.unsaid (h : Goes s s') : Unsaid s s' :=
  unsaid_of_grows (fun _ he => he.2.2) h.batch

theorem ActsOn.unsaid {slot : ℕ} {connHandle : UInt32} (h : ActsOn slot connHandle s s') :
    Unsaid s s' :=
  unsaid_of_grows (fun _ he => he.plain.2) h.batch

theorem Opens.unsaid {slot : ℕ} (h : Opens slot s s') : Unsaid s s' := by
  obtain ⟨ip, port, hbatch⟩ := h.batch
  intro hs e he
  rw [hbatch] at he
  rcases List.mem_append.1 he with he | he
  · exact hs e he
  · obtain rfl := List.mem_singleton.1 he
    exact EventType.noConfusion

theorem dispatchCommand_unsaid (now : ℕ) (cmd : WorkerCommand) (s : H3Server Q) :
    Unsaid s (s.dispatchCommand now cmd).2 := by
  by_cases hshutdown : cmd = .shutdown
  · rw [hshutdown]
    exact (s.dispatchShutdown_steady (P := fun _ => True)).goes.unsaid
  · exact (dispatchCommand_spec now hshutdown s).1.unsaid

theorem apply_unsaid (op : ServerOp) (s : H3Server Q) : Unsaid s (op.apply s) := by
  rcases apply_goes op s with hgoes | ⟨slot, s₁, -, hopens, hgoes⟩
  · exact hgoes.unsaid
  · exact hgoes.unsaid ∘ hopens.unsaid

instance : SentinelFree (H3Server Q) WorkerCommand where
  dispatchCommand now cmd s := dispatchCommand_unsaid now cmd s.startBatch (by simp [startBatch])
  processPacket p budget now scids s :=
    apply_unsaid (.packet false p budget now scids) s.startBatch (by simp [startBatch])
  processTimers now budget s :=
    apply_unsaid (.expireTimers now budget) s.startBatch (by simp [startBatch])
  pollAppEvents budget now s :=
    apply_unsaid (.collectAppEvents budget now) s.startBatch (by simp [startBatch])
  pollDrainEvents _ s := apply_unsaid .collectDrainEvents s.startBatch (by simp [startBatch])
  flushPendingWrites s := apply_unsaid .flushAllPendingWrites s.startBatch (by simp [startBatch])
  cleanupClosed s := apply_unsaid .reapClosedConnections s.startBatch (by simp [startBatch])
  emitSessionCloseForAllActive s :=
    apply_unsaid .emitSessionCloseForAllActive s.startBatch (by simp [startBatch])

end H3Server

namespace QuicServer

theorem Move.notSentinel {locals gated : Prop} {s s' : QuicServer Q} (h : Move locals gated s s')
    (hs : ∀ e ∈ s.batch, NotSentinel e) : ∀ e ∈ s'.batch, NotSentinel e := by
  have hadded : Appends NotSentinel s.batch s'.batch := by
    cases h with
    | keep _ _ hbatch =>
      refine hbatch.mono ?_
      rintro e rfl
      exact EventType.noConfusion
    | accept slot c _ _ _ ip port hbatch =>
      rw [hbatch]
      exact (Appends.refl _).pushFor EventType.noConfusion
    | handshake slot c d _ _ _ _ presented chain _ hbatch =>
      rw [hbatch]
      exact (Appends.refl _).pushFor EventType.noConfusion
    | act slot c d _ _ _ _ _ hbatch => exact hbatch.mono fun e he => he.1.2.2
    | report ref event _ _ _ hkind _ hbatch =>
      rw [hbatch]
      exact (Appends.refl _).pushFor hkind.2
  obtain ⟨added, hbatch, hadded⟩ := hadded
  intro e he
  rw [hbatch] at he
  rcases List.mem_append.1 he with he | he
  · exact hs e he
  · exact hadded e he

variable [Quiche Q]

theorem reported_notSentinel (op : QuicServerOp) (s : QuicServer Q) :
    ∀ e ∈ (s.reported op).1, NotSentinel e := by
  have hmoves : Moves True False (QuicWorker.startBatch s) (op.apply (QuicWorker.startBatch s)) :=
    op.apply_moves (.inr trivial) False.elim
  have hempty : ∀ e ∈ (QuicWorker.startBatch s).batch, NotSentinel e := by
    simp [QuicWorker.startBatch]
  show ∀ e ∈ (op.apply (QuicWorker.startBatch s)).batch, NotSentinel e
  generalize op.apply (QuicWorker.startBatch s) = s' at hmoves ⊢
  induction hmoves with
  | refl => exact hempty
  | tail _ hmove ih => exact hmove.notSentinel ih

instance : SentinelFree (QuicServer Q) QuicServerCommand where
  dispatchCommand _ _ s := s.reported_notSentinel _
  processPacket _ _ _ _ s := s.reported_notSentinel _
  processTimers _ _ s := s.reported_notSentinel _
  pollAppEvents _ _ s := s.reported_notSentinel _
  pollDrainEvents _ s := s.reported_notSentinel _
  flushPendingWrites s := s.reported_notSentinel _
  cleanupClosed s := s.reported_notSentinel _
  emitSessionCloseForAllActive s := s.reported_notSentinel _

end QuicServer

end Servers

section Clients

theorem ClientHandler.emitSessionCloseForAllActive_notSentinel {C : Type}
    (ref : ClientHandler C → ConnRef)
    (h : ClientHandler C) :
    ∀ e ∈ (h.reported fun h => h.emitSessionCloseForAllActive (ref h)).1, NotSentinel e := by
  show ∀ e ∈ (h.startBatch.emitSessionCloseForAllActive (ref h.startBatch)).batch, NotSentinel e
  unfold emitSessionCloseForAllActive
  split_ifs
  · intro e he
    cases he
  · intro e he
    obtain rfl := List.mem_singleton.1 he
    exact EventType.noConfusion

/-- Handlers of client sessions only tell what handlers tell, and a shutdown tells nothing. -/
theorem DedicatedClient.sentinelFree {C Own Cmd : Type} [ClientProtocol C Own]
    [LawfulClientProtocol C Own] [ProtocolHandler (ClientHandler C) Cmd] [DedicatedClient C Own Cmd]
    (hshutdown : ∀ now cmd (h : ClientHandler C),
      (ProtocolHandler.dispatchCommand now cmd h).1 = true →
        (ProtocolHandler.dispatchCommand now cmd h).2.1 = [])
    (hclose : ∀ h : ClientHandler C,
      ∀ e ∈ (ProtocolHandler.emitSessionCloseForAllActive h).1, NotSentinel e) :
    SentinelFree (ClientHandler C) Cmd := by
  have hreported : ∀ {h : ClientHandler C} {f : ClientHandler C → ClientHandler C},
      h.startBatch.voice.Tells (f h.startBatch).voice → ∀ e ∈ (h.reported f).1, NotSentinel e :=
    fun htells => ClientHandler.notSentinel_of_tells htells rfl
  constructor
  · intro now cmd h
    rcases DedicatedClient.dispatchCommand now cmd h with hend | ⟨f, hworks, heq⟩
    · rw [hshutdown now cmd h hend]
      simp
    · rw [heq]
      exact hreported hworks.tells
  · intro p budget now scids h
    rw [DedicatedClient.processPacket]
    exact hreported (SharedClientLoop.packet_tells 0 p budget now _)
  · intro now budget h
    rw [DedicatedClient.processTimers]
    exact hreported (SharedClientLoop.timers_tells 0 now budget _)
  · intro budget now h
    rw [DedicatedClient.pollAppEvents]
    exact hreported (LawfulClientProtocol.pollAppEvents 0 budget now _).tells
  · intro budget h
    rw [DedicatedClient.pollDrainEvents]
    exact hreported (LawfulClientProtocol.pollDrainEvents 0 budget _).tells
  · intro h
    rw [DedicatedClient.flushPendingWrites]
    exact hreported (LawfulClientProtocol.flushPendingWrites 0 _).tells
  · intro h
    rw [DedicatedClient.cleanupClosed]
    simp
  · exact hclose

variable {Q : Type} [Quiche Q]

instance : SentinelFree (H3Client Q) ClientWorkerCommand :=
  DedicatedClient.sentinelFree
    (fun now cmd h hend => by cases cmd <;> first | rfl | cases hend)
    (ClientHandler.emitSessionCloseForAllActive_notSentinel _)

instance : SentinelFree (QuicClient Q) QuicClientCommand :=
  DedicatedClient.sentinelFree
    (fun now cmd h hend => by cases cmd <;> first | rfl | cases hend)
    (ClientHandler.emitSessionCloseForAllActive_notSentinel _)

end Clients

namespace SharedClientLoop

variable {C Own : Type}

def EndedSession.Told (e : EndedSession) : Prop :=
  e.cause = .refused ∨ e.batcher.batch = [] ∧ SentinelLast e.batcher.handed

/-- Live sessions have no sentinel yet; those that are gone have got it last, unless their sink
refused events. No session is forgotten. -/
structure Sentinels (st : SharedClientLoop C Own) : Prop where
  live : ∀ k s, st.sessions.get k = some s → ∀ e ∈ s.batcher.log, NotSentinel e
  ended : ∀ e ∈ st.ended, EndedSession.Told e
  known : ∀ uid < st.nextUid, (∃ k s, st.sessions.get k = some s ∧ s.uid = uid) ∨
    ∃ e ∈ st.ended, e.uid = uid

variable {st st' : SharedClientLoop C Own}

theorem Sentinels.removed (h : st.Sentinels) {handle : ℕ} {session : SharedClientSession C}
    {gone : EndedSession} (hget : st.sessions.get handle = some session)
    (hremoved : ∀ k, st'.sessions.get k = if k = handle then none else st.sessions.get k)
    (hnext : st'.nextUid = st.nextUid) (hended : st'.ended = st.ended ++ [gone])
    (huid : gone.uid = session.uid) (htold : EndedSession.Told gone) : st'.Sentinels := by
  constructor
  · intro k s hs
    rw [hremoved] at hs
    split_ifs at hs
    exact h.live k s hs
  · intro e he
    rw [hended] at he
    rcases List.mem_append.1 he with he | he
    · exact h.ended e he
    · obtain rfl := List.mem_singleton.1 he
      exact htold
  · intro uid hlt
    rw [hnext] at hlt
    rw [hended]
    rcases h.known uid hlt with ⟨k, s, hs, hsuid⟩ | ⟨e, he, heuid⟩
    · by_cases hk : k = handle
      · subst hk
        rw [hget] at hs
        cases hs
        exact .inr ⟨gone, by simp, huid.trans hsuid⟩
      · refine .inl ⟨k, s, ?_, hsuid⟩
        rw [hremoved, if_neg hk]
        exact hs
    · exact .inr ⟨e, List.mem_append_left _ he, heuid⟩

theorem Sentinels.evolves {victim : Option ℕ} (h : st.Sentinels) (hevolves : Evolves victim st st')
    : st'.Sentinels := by
  cases hevolves with
  | goesOn hkeeps =>
    constructor
    · intro k s hs
      obtain ⟨a, ha, hgoes⟩ := hkeeps.sessions.get hs
      obtain ⟨added, hlog, hadded⟩ := hgoes.log
      intro e he
      rw [hlog] at he
      rcases List.mem_append.1 he with he | he
      · exact h.live k a ha e he
      · exact hadded e he
    · rw [hkeeps.ended]
      exact h.ended
    · intro uid hlt
      rw [hkeeps.nextUid] at hlt
      rw [hkeeps.ended]
      rcases h.known uid hlt with ⟨k, a, ha, hauid⟩ | hgone
      · have hslot := hkeeps.sessions k
        rw [ha] at hslot
        generalize hb : st'.sessions.get k = b at hslot
        cases hslot with
        | some hgoes => exact .inl ⟨k, _, hb, hgoes.uid.trans hauid⟩
      · exact .inr hgone
  | @opens session huid hbatcher hinsert hnext _ hended =>
    constructor
    · intro k s hs
      rw [hinsert, Slab.get_insert] at hs
      split_ifs at hs
      · cases hs
        rw [hbatcher]
        simp [EventBatcher.log]
      · exact h.live k s hs
    · rw [hended]
      exact h.ended
    · intro uid hlt
      rw [hnext] at hlt
      rw [hended, hinsert]
      rcases Nat.lt_succ_iff_lt_or_eq.1 hlt with hlt | rfl
      · rcases h.known uid hlt with ⟨k, s, hs, hsuid⟩ | hgone
        · refine .inl ⟨k, s, ?_, hsuid⟩
          rw [Slab.get_insert, if_neg]
          · exact hs
          · rintro rfl
            rw [Slab.get_nextKey] at hs
            cases hs
        · exact .inr hgone
      · exact .inl ⟨_, session, Slab.get_insert_self _ _, huid⟩
  | refused _ hget hremoved hnext _ hended =>
    exact h.removed hget hremoved hnext hended rfl (.inl rfl)
  | @finished handle session cause _ hget hremoved hnext _ hended =>
    refine h.removed hget hremoved hnext hended rfl (.inr ⟨rfl, _, rfl, ?_⟩)
    exact h.live handle session hget

variable [ClientProtocol C Own]

/-- The driver only fails while there is no session. -/
def DriverHolds : Step Own → SharedClientLoop C Own → Prop
  | .tick input, st => st.driverFails input = true → st.sessions.len = 0
  | _, _ => True

instance (i : Step Own) (st : SharedClientLoop C Own) : Decidable (DriverHolds i st) := by
  unfold DriverHolds
  split <;> infer_instance

omit [ClientProtocol C Own] in
theorem Evolves.none {victim : Option ℕ} (h : Evolves victim st st')
    (hnext : st'.nextUid = st.nextUid) (hnone : ∀ k, st.sessions.get k = none) (k : ℕ) :
    st'.sessions.get k = none := by
  cases h with
  | goesOn hkeeps =>
    have hslot := hkeeps.sessions k
    rw [hnone k] at hslot
    generalize st'.sessions.get k = b at hslot ⊢
    cases hslot
    rfl
  | opens _ _ _ hopened => omega
  | refused _ hget =>
    rw [hnone] at hget
    cases hget
  | finished _ hget =>
    rw [hnone] at hget
    cases hget

/-- A loop that leaves or has left holds no session. -/
def Deserted (st : SharedClientLoop C Own) : Prop :=
  ∀ cause, st.stage.phase = .leaving cause ∨ st.stage.phase = .gone cause →
    ∀ k, st.sessions.get k = none

variable [LawfulClientProtocol C Own]

theorem tick_deserted {input : SharedInput} {st : SharedClientLoop C Own}
    (hholds : DriverHolds (.tick input) st) (h : st.Deserted) : (st.tick input).Deserted := by
  have hevolves := tick_evolves input st
  have hserves := tick_serves input st
  generalize st.tick input = st' at hevolves hserves ⊢
  intro cause hcause
  cases hserves with
  | takes _ _ hphase =>
    rw [hphase] at hcause
    rcases hcause with hcause | hcause <;> cases hcause
  | leaves _ _ _ hnext hturns =>
    apply hevolves.none hnext
    generalize st'.stage.phase = phase at hcause hturns
    cases hturns with
    | stays => exact h cause hcause
    | drained => rcases hcause with hcause | hcause <;> cases hcause
    | again => rcases hcause with hcause | hcause <;> cases hcause
    | ends _ hlen => exact st.sessions.len_eq_zero.1 hlen
    | fails hfails => exact st.sessions.len_eq_zero.1 (hholds hfails)
    | goes hstage => exact h _ (.inl (by rw [hstage]; rfl))

omit [ClientProtocol C Own] [LawfulClientProtocol C Own] in
theorem sentinels_init (localAddr : SocketAddr) :
    (init localAddr : SharedClientLoop C Own).Sentinels := by
  constructor
  · intro k s hs
    rw [init, Slab.get_empty] at hs
    cases hs
  · intro e he
    cases he
  · intro uid hlt
    cases hlt

omit [ClientProtocol C Own] [LawfulClientProtocol C Own] in
theorem deserted_init (localAddr : SocketAddr) :
    (init localAddr : SharedClientLoop C Own).Deserted := by
  intro cause hcause
  rcases hcause with hcause | hcause <;> cases hcause

theorem step_sentinels {i : Step Own} {st : SharedClientLoop C Own} (hholds : DriverHolds i st)
    (h : st.Sentinels ∧ st.Deserted) : (step i st).Sentinels ∧ (step i st).Deserted := by
  by_cases hi : ∃ input, i = .tick input
  · obtain ⟨input, rfl⟩ := hi
    exact ⟨h.1.evolves (tick_evolves input st), tick_deserted hholds h.2⟩
  · obtain ⟨sent, accepted, window, heq, -⟩ := step_js (fun input heq => hi ⟨input, heq⟩) st
    have hevolves : Evolves none st (step i st) := heq ▸ .goesOn (.of_eq rfl)
    exact ⟨h.1.evolves hevolves, heq ▸ h.2⟩

omit [LawfulClientProtocol C Own] in
/-- When the loop has returned, every session it ever had is gone and has received the sentinel
as its last event and no other sentinel, unless its own sink refused events. -/
def EndsSessionsWithSentinel (C : Type) {Own : Type} [ClientProtocol C Own] : Prop :=
  ∀ (localAddr : SocketAddr) (st : SharedClientLoop C Own) (cause : LoopExit),
    Runs.Reach step DriverHolds (init localAddr) st → st.stage = .exited cause →
      ∀ uid < st.nextUid, ∃ e ∈ st.ended, e.uid = uid ∧
        (e.cause = .refused ∨ e.batcher.batch = [] ∧ SentinelLast e.batcher.handed)

theorem endsSessionsWithSentinel : EndsSessionsWithSentinel C := by
  intro localAddr st cause hreach hstage uid hlt
  have hinv : st.Sentinels ∧ st.Deserted := by
    clear hstage hlt
    induction hreach with
    | start => exact ⟨sentinels_init localAddr, deserted_init localAddr⟩
    | next i _ hholds ih => exact step_sentinels hholds ih
  have hnone := hinv.2 cause (.inr (by rw [hstage]; rfl))
  rcases hinv.1.known uid hlt with ⟨k, s, hs, -⟩ | ⟨e, he, heuid⟩
  · rw [hnone] at hs
    cases hs
  · exact ⟨e, he, heuid, hinv.1.ended e he⟩

end SharedClientLoop

/-- The loop of a worker ends with the sentinel, for the servers and for clients that have a
worker of their own, whatever ends it. The shared loops do so for each of their sessions as
long as the driver does not fail under one. -/
theorem shutdown_sentinel_last {Q : Type} [Quiche Q] :
    EndsWithSentinel (H3Server Q) ∧ EndsWithSentinel (QuicServer Q) ∧
      EndsWithSentinel (H3Client Q) ∧ EndsWithSentinel (QuicClient Q) ∧
      SharedClientLoop.EndsSessionsWithSentinel (H3Connection Q) ∧
      SharedClientLoop.EndsSessionsWithSentinel (QuicConnection Q) :=
  ⟨endsWithSentinel, endsWithSentinel, endsWithSentinel, endsWithSentinel,
    SharedClientLoop.endsSessionsWithSentinel, SharedClientLoop.endsSessionsWithSentinel⟩

namespace ShutdownSentinel

open SharedClientLoop ClientClose

/-- Calls of the loop during which nothing arrives. -/
def ticks {Own : Type} (n : ℕ) : List (Step Own) := List.replicate n (.tick { now := 0 })

/-- The iteration that opens a session, up to the next `poll`. -/
def opening {Own : Type} : List (Step Own) :=
  .openSession serverAddr "localhost" none :: ticks 18

/-- The driver fails after the session was opened. -/
def failing {Own : Type} : List (Step Own) :=
  opening ++ [.tick { rx := none, error := "network is down" }] ++ ticks 1

def releasing {Own : Type} : List (Step Own) :=
  opening ++ [.send 0 (.close 0 "bye"), .send 0 .releaseSession] ++ ticks 16

def h3Failed : SharedClientLoop (H3Connection Scripted) H3Own :=
  Runs.run step failing (init localAddr)

def quicFailed : SharedClientLoop (QuicConnection Scripted) QuicOwn :=
  Runs.run step failing (init localAddr)

def h3Released : SharedClientLoop (H3Connection Scripted) H3Own :=
  Runs.run step releasing (init localAddr)

def h3ShutDown : LoopState (H3Client Scripted) :=
  Runs.run LoopState.step [{ now := 0 }, { now := 0 }, { cmd := some .shutdown }]
    ⟨h3Session, ⟨[], []⟩, .start⟩

theorem shutdown_sentinel_last_released :
    (h3ShutDown.stage = .exited .command ∧ h3ShutDown.batcher.batch = [] ∧
      SentinelLast h3ShutDown.batcher.handed) ∧
    h3Released.stage = .exited .command ∧ h3Released.nextUid = 1 ∧
      ∃ e ∈ h3Released.ended, e.uid = 0 ∧
        (e.cause = .refused ∨ e.batcher.batch = [] ∧ SentinelLast e.batcher.handed) := by
  have hshutDown : h3ShutDown.stage = .exited .command := by decide +kernel
  have hreleased : h3Released.stage = .exited .command := by decide +kernel
  have hone : h3Released.nextUid = 1 := by decide +kernel
  obtain ⟨-, -, hnative, -, hshared, -⟩ := shutdown_sentinel_last (Q := Scripted)
  refine ⟨⟨hshutDown, hnative h3Session _ .command ?_ hshutDown (by decide)⟩, hreleased, hone, ?_⟩
  · exact Runs.Reach.start.run (by decide +kernel)
  · refine hshared localAddr _ .command ?_ hreleased 0 (by rw [hone]; decide)
    exact Runs.Reach.start.run (by decide +kernel)

/-- A driver error ends a shared loop whose session has received the error and no sentinel. -/
theorem driver_failure_without_sentinel :
    (Runs.Reach step (fun _ _ => True) (init localAddr) h3Failed ∧
      h3Failed.stage = .exited .runtimeError ∧
      (h3Failed.sessions.get 0).map (fun session =>
        (session.batcher.batch, session.batcher.handed.map (·.event.eventType))) =
          some ([], [.error])) ∧
    Runs.Reach step (fun _ _ => True) (init localAddr) quicFailed ∧
      quicFailed.stage = .exited .runtimeError ∧
      (quicFailed.sessions.get 0).map (fun session =>
        (session.batcher.batch, session.batcher.handed.map (·.event.eventType))) =
          some ([], [.error]) := by
  refine ⟨⟨?_, by decide +kernel, by decide +kernel⟩, ?_, by decide +kernel, by decide +kernel⟩
  · exact Runs.Reach.start.run (by decide +kernel)
  · exact Runs.Reach.start.run (by decide +kernel)

end ShutdownSentinel

end Http3
