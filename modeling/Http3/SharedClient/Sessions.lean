import Http3.ClientVoice
import Http3.SharedClient.Frame

/-! What one call of the shared loop does to its sessions: they go on, one is opened, or one is
removed. -/

namespace Http3

theorem Voice.Tells.notSentinel {a b : Voice} (h : a.Tells b) (ha : ∀ e ∈ a.marks, NotSentinel e) :
    ∀ e ∈ b.marks, NotSentinel e := by
  induction h with
  | refl => exact ha
  | @release v units _ ih =>
    intro e he
    unfold Voice.release at he
    dsimp only at he
    split_ifs at he
    · rcases List.mem_append.1 he with he | he
      · exact ih e he
      · obtain rfl := List.mem_singleton.1 he
        exact EventType.noConfusion
    · exact ih e he
  | @close v ref event _ _ hkind ih =>
    intro e he
    rcases List.mem_append.1 he with he | he
    · exact ih e he
    · obtain rfl := List.mem_singleton.1 he
      intro hsentinel
      rw [hkind] at hsentinel
      cases hsentinel

theorem ClientHandler.notSentinel_of_tells {C : Type} {h h' : ClientHandler C}
    (htells : h.voice.Tells h'.voice) (hbatch : h.batch = []) : ∀ e ∈ h'.batch, NotSentinel e := by
  have hmarks : ∀ e ∈ marks h'.batch, NotSentinel e := by
    apply htells.notSentinel
    show ∀ e ∈ marks h.batch, NotSentinel e
    rw [hbatch]
    exact fun _ he => absurd he List.not_mem_nil
  intro e he hsentinel
  refine hmarks e ?_ hsentinel
  rw [marks, List.mem_filter, hsentinel]
  exact ⟨he, rfl⟩

/-- A session that goes on: only its log may have grown. -/
structure SharedClientSession.Goes {C : Type} (a b : SharedClientSession C) : Prop where
  uid : b.uid = a.uid
  log : Appends NotSentinel a.batcher.log b.batcher.log

namespace SharedClientSession

variable {C : Type} {a b c : SharedClientSession C}

theorem Goes.refl (a : SharedClientSession C) : a.Goes a := ⟨rfl, .refl _⟩

theorem Goes.trans (hab : a.Goes b) (hbc : b.Goes c) : a.Goes c :=
  ⟨hbc.uid.trans hab.uid, hab.log.trans hbc.log⟩

theorem Goes.handler (a : SharedClientSession C) (handler : ClientHandler C) :
    a.Goes { a with handler } := ⟨rfl, .refl _⟩

end SharedClientSession

namespace SharedClientLoop

variable {C Own : Type}

/-- The sessions, and which ones there have been. -/
def books (st : SharedClientLoop C Own) :
    Slab (SharedClientSession C) × ℕ × List (ℕ × ℕ) × List EndedSession :=
  (st.sessions, st.nextUid, st.given, st.ended)

theorem books_eq {st st' : SharedClientLoop C Own} (h : st'.books = st.books) :
    st'.sessions = st.sessions ∧ st'.nextUid = st.nextUid ∧ st'.given = st.given ∧
      st'.ended = st.ended := by
  simpa only [books, Prod.mk.injEq] using h

/-- No session is opened or removed, and each one has changed by `R`. -/
structure Keeps (R : ℕ → SharedClientSession C → SharedClientSession C → Prop)
    (st st' : SharedClientLoop C Own) : Prop where
  sessions : st.sessions.Rel R st'.sessions
  nextUid : st'.nextUid = st.nextUid
  given : st'.given = st.given
  ended : st'.ended = st.ended

section Rules

variable {R : ℕ → SharedClientSession C → SharedClientSession C → Prop}
  {st st' st'' : SharedClientLoop C Own} (hrefl : ∀ k a, R k a a)
  (htrans : ∀ k a b c, R k a b → R k b c → R k a c)

include hrefl

theorem Keeps.of_eq (hbooks : st'.books = st.books) : Keeps R st st' := by
  obtain ⟨hsessions, hnext, hgiven, hended⟩ := books_eq hbooks
  constructor
  · rw [hsessions]
    exact .refl hrefl _
  · exact hnext
  · exact hgiven
  · exact hended

theorem Keeps.refl (st : SharedClientLoop C Own) : Keeps R st st :=
  .of_eq hrefl rfl

theorem Keeps.setSession {handle : ℕ} {a b : SharedClientSession C}
    (hget : st.sessions.get handle = some a) (hR : R handle a b) :
    Keeps R st (st.setSession handle b) :=
  ⟨.set hrefl hget hR, rfl, rfl, rfl⟩

omit hrefl in
include htrans in
theorem Keeps.trans (h : Keeps R st st') (h' : Keeps R st' st'') : Keeps R st st'' :=
  ⟨h.sessions.trans htrans h'.sessions, h'.nextUid.trans h.nextUid, h'.given.trans h.given,
    h'.ended.trans h.ended⟩

include htrans in
theorem Keeps.foldl {α : Type} {f : SharedClientLoop C Own → α → SharedClientLoop C Own}
    (hf : ∀ st x, Keeps R st (f st x)) (xs : List α) (st : SharedClientLoop C Own) :
    Keeps R st (xs.foldl f st) := by
  induction xs generalizing st with
  | nil => exact .refl hrefl st
  | cons x xs ih => exact (hf st x).trans htrans (ih _)

end Rules

section Waking

variable {R : ℕ → SharedClientSession C → SharedClientSession C → Prop}
  (hrefl : ∀ k a, R k a a) (htrans : ∀ k a b c, R k a b → R k b c → R k a c)
  (hwake : ∀ k (a : SharedClientSession C) (batcher : EventBatcher),
    Appends (· = ⟨none, .writeReady 0⟩) a.batcher.log batcher.log → R k a { a with batcher })
  (input : SharedInput) (st : SharedClientLoop C Own)

include hrefl hwake

theorem appendWriteReady_keeps (handle : ℕ) :
    Keeps R st (st.appendAtomic input handle [⟨none, .writeReady 0⟩]).2 := by
  unfold appendAtomic
  cases hget : st.sessions.get handle with
  | none => exact .refl hrefl st
  | some session =>
    dsimp only
    refine .setSession hrefl hget (hwake handle session _ ?_)
    rcases session.batcher.appendAtomic_cases (input.sinkOk handle) [⟨none, .writeReady 0⟩] with
      ⟨b, heq, hlog⟩ | ⟨b, heq, hlog⟩
    · rw [heq]
      exact ⟨_, hlog, fun e he => List.mem_singleton.1 he⟩
    · rw [heq]
      exact ⟨[], by rw [hlog, List.append_nil], by simp⟩

include htrans

theorem emitWriteReady_keeps : Keeps R st (st.emitWriteReady input) := by
  unfold emitWriteReady
  refine Keeps.foldl hrefl htrans (fun st handle => ?_) _ st
  have hkeeps := appendWriteReady_keeps hrefl hwake input st handle
  generalize st.appendAtomic input handle [⟨none, .writeReady 0⟩] = r at hkeeps ⊢
  obtain ⟨_ | _, st'⟩ := r
  · exact hkeeps.trans htrans (.of_eq hrefl rfl)
  · exact hkeeps

theorem releaseOutbound_keeps (units : ℕ) : Keeps R st (st.releaseOutbound input units) := by
  unfold releaseOutbound
  dsimp only
  split_ifs
  · have hwindow : Keeps R st
        { st with outboundAdmission := (st.outboundAdmission.release units).2 } :=
      .of_eq hrefl rfl
    exact hwindow.trans htrans (emitWriteReady_keeps hrefl htrans hwake input _)
  · exact .of_eq hrefl rfl

end Waking

abbrev GoesOn (st st' : SharedClientLoop C Own) : Prop := Keeps (fun _ a b => a.Goes b) st st'

section GoesOn

open SharedClientSession

variable (input : SharedInput) (st : SharedClientLoop C Own) (handle : ℕ)

theorem GoesOn.refl : GoesOn st st := Keeps.refl (fun _ => Goes.refl) st

variable {st} in
theorem GoesOn.of_eq {st' : SharedClientLoop C Own} (hbooks : st'.books = st.books) :
    GoesOn st st' :=
  Keeps.of_eq (fun _ => Goes.refl) hbooks

variable {st} in
theorem GoesOn.trans {st' st'' : SharedClientLoop C Own} (h : GoesOn st st')
    (h' : GoesOn st' st'') : GoesOn st st'' :=
  Keeps.trans (fun _ _ _ _ => Goes.trans) h h'

variable {st} in
theorem GoesOn.setSession {handle : ℕ} {a b : SharedClientSession C}
    (hget : st.sessions.get handle = some a) (hgoes : a.Goes b) :
    GoesOn st (st.setSession handle b) :=
  Keeps.setSession (fun _ => Goes.refl) hget hgoes

theorem GoesOn.foldl {α : Type} {f : SharedClientLoop C Own → α → SharedClientLoop C Own}
    (hf : ∀ st x, GoesOn st (f st x)) (xs : List α) : GoesOn st (xs.foldl f st) :=
  Keeps.foldl (fun _ => Goes.refl) (fun _ _ _ _ => Goes.trans) hf xs st

theorem releaseOutbound_goesOn (units : ℕ) : GoesOn st (st.releaseOutbound input units) := by
  refine releaseOutbound_keeps (fun _ => Goes.refl) (fun _ _ _ _ => Goes.trans) ?_ input st units
  intro _ a batcher hlog
  refine ⟨rfl, hlog.mono ?_⟩
  rintro e rfl
  exact EventType.noConfusion

theorem appendAtomic_goesOn {events : List Emitted} (hevents : ∀ e ∈ events, NotSentinel e) :
    GoesOn st (st.appendAtomic input handle events).2 := by
  unfold appendAtomic
  cases hget : st.sessions.get handle with
  | none => exact .refl st
  | some session =>
    dsimp only
    refine .setSession hget ⟨rfl, ?_⟩
    rcases session.batcher.appendAtomic_cases (input.sinkOk handle) events with
      ⟨b, heq, hlog⟩ | ⟨b, heq, hlog⟩
    · rw [heq]
      exact ⟨_, hlog, hevents⟩
    · rw [heq]
      exact ⟨[], by rw [hlog, List.append_nil], by simp⟩

theorem flush_goesOn : GoesOn st (st.flush input handle).2 := by
  unfold flush
  cases hget : st.sessions.get handle with
  | none => exact .refl st
  | some session =>
    refine .setSession hget ⟨rfl, ⟨[], ?_, by simp⟩⟩
    rw [List.append_nil]
    exact session.batcher.log_flush _

theorem capFlush_goesOn : GoesOn st (st.capFlush input handle).2 := by
  unfold capFlush
  cases st.sessions.get handle with
  | none => exact .refl st
  | some session =>
    dsimp only
    split_ifs
    · exact flush_goesOn input st handle
    · exact .refl st

theorem collectAtomic_goesOn {f : ClientHandler C → ClientHandler C}
    (hf : ∀ h : ClientHandler C, h.voice.Tells (f h).voice) :
    GoesOn st (st.collectAtomic input handle f).2 := by
  unfold collectAtomic work
  cases hget : st.sessions.get handle with
  | none =>
    refine appendAtomic_goesOn input st handle ?_
    simp
  | some session =>
    have hwork : GoesOn st { st.setSession handle
        { session with handler := (f (st.lend session)).startBatch } with
        outboundAdmission := (f (st.lend session)).outboundAdmission } :=
      GoesOn.trans (.setSession hget (.handler session _)) (.of_eq rfl)
    exact hwork.trans (appendAtomic_goesOn input _ handle
      (ClientHandler.notSentinel_of_tells (hf _) rfl))

theorem syncTimer_goesOn : GoesOn st (st.syncTimer handle) := by
  unfold syncTimer
  cases st.sessions.get handle with
  | none => exact .refl st
  | some session => exact .of_eq rfl

theorem emitRuntimeError_goesOn (syscall reasonCode : String) (handles : List ℕ) :
    GoesOn st (emitRuntimeError input syscall reasonCode handles st) := by
  induction handles generalizing st with
  | nil => exact .refl st
  | cons handle handles ih =>
    unfold emitRuntimeError
    cases hget : st.sessions.get handle with
    | none => exact ih st
    | some session =>
      dsimp only
      have hset : GoesOn st (st.setSession handle { session with
          batcher := ((session.batcher.push (.runtimeError (UInt32.ofNat handle) input.driverKind
            syscall reasonCode input.error input.errno)).flush (input.sinkOk handle)).2 }) := by
        refine .setSession hget ⟨rfl, ⟨_, (EventBatcher.log_flush _ _).trans
          (EventBatcher.log_push _ _), ?_⟩⟩
        intro e he
        obtain rfl := List.mem_singleton.1 he
        exact EventType.noConfusion
      split_ifs
      · exact hset.trans (ih _)
      · exact hset

end GoesOn

/-- The session that a call at this stage removes, if it is still there. -/
def removesAt (st : SharedClientLoop C Own) : SharedStage → Option ℕ
  | .release _ => st.pendingRelease.head?.map fun release => release.sessionHandle.toNat
  | .rxRemove handle _ => some handle
  | .closed | .reap => st.closedSessions.head?
  | _ => none

def removes (st : SharedClientLoop C Own) : Option ℕ := st.removesAt st.stage

/-- The outcomes of one call of the loop, in which no session but `victim` is removed. -/
inductive Evolves (victim : Option ℕ) (st st' : SharedClientLoop C Own) : Prop
  | goesOn : GoesOn st st' → Evolves victim st st'
  | opens {session : SharedClientSession C} : session.uid = st.nextUid →
      session.batcher = ⟨[], []⟩ → st'.sessions = st.sessions.insert session →
      st'.nextUid = st.nextUid + 1 → st'.given = st.given ++ [(st.nextUid, st.sessions.nextKey)] →
      st'.ended = st.ended → Evolves victim st st'
  /-- The sink of the session has refused events. -/
  | refused {handle : ℕ} {session : SharedClientSession C} : victim = some handle →
      st.sessions.get handle = some session →
      (∀ k, st'.sessions.get k = if k = handle then none else st.sessions.get k) →
      st'.nextUid = st.nextUid → st'.given = st.given →
      st'.ended = st.ended ++ [⟨session.uid, session.batcher, .refused⟩] → Evolves victim st st'
  /-- The session was released or reaped, and has got the sentinel. -/
  | finished {handle : ℕ} {session : SharedClientSession C} {cause : SessionEnd} :
      victim = some handle → st.sessions.get handle = some session →
      (∀ k, st'.sessions.get k = if k = handle then none else st.sessions.get k) →
      st'.nextUid = st.nextUid → st'.given = st.given →
      st'.ended = st.ended ++
        [⟨session.uid, ⟨[], session.batcher.log ++ [⟨none, .shutdownComplete⟩]⟩, cause⟩] →
      Evolves victim st st'

section Outcomes

variable (input : SharedInput) (st : SharedClientLoop C Own) (handle : ℕ)

theorem Evolves.of_eq {victim : Option ℕ} {st st₁ st' : SharedClientLoop C Own}
    (h : Evolves victim st st₁) (hbooks : st'.books = st₁.books) : Evolves victim st st' := by
  obtain ⟨hsessions, hnext, hgiven, hended⟩ := books_eq hbooks
  cases h with
  | goesOn hkeeps => exact .goesOn (hkeeps.trans (.of_eq hbooks))
  | opens huid hbatcher hinsert hnext' hgiven' hended' =>
    exact .opens huid hbatcher (hsessions.trans hinsert) (hnext.trans hnext')
      (hgiven.trans hgiven') (hended.trans hended')
  | refused hvictim hget hremoved hnext' hgiven' hended' =>
    rw [← hsessions] at hremoved
    exact .refused hvictim hget hremoved (hnext.trans hnext') (hgiven.trans hgiven')
      (hended.trans hended')
  | finished hvictim hget hremoved hnext' hgiven' hended' =>
    rw [← hsessions] at hremoved
    exact .finished hvictim hget hremoved (hnext.trans hnext') (hgiven.trans hgiven')
      (hended.trans hended')

theorem Evolves.after {victim : Option ℕ} {st st₁ st' : SharedClientLoop C Own}
    (h : Evolves victim st₁ st') (hbooks : st₁.books = st.books) : Evolves victim st st' := by
  obtain ⟨hsessions, hnext, hgiven, hended⟩ := books_eq hbooks
  cases h with
  | goesOn hkeeps => exact .goesOn (.trans (.of_eq hbooks) hkeeps)
  | opens huid hbatcher hinsert hnext' hgiven' hended' =>
    rw [hsessions] at hinsert hgiven'
    rw [hnext] at huid hnext' hgiven'
    rw [hgiven] at hgiven'
    exact .opens huid hbatcher hinsert hnext' hgiven' (hended'.trans hended)
  | refused hvictim hget hremoved hnext' hgiven' hended' =>
    rw [hsessions] at hget hremoved
    rw [hended] at hended'
    exact .refused hvictim hget hremoved (hnext'.trans hnext) (hgiven'.trans hgiven) hended'
  | finished hvictim hget hremoved hnext' hgiven' hended' =>
    rw [hsessions] at hget hremoved
    rw [hended] at hended'
    exact .finished hvictim hget hremoved (hnext'.trans hnext) (hgiven'.trans hgiven) hended'

theorem removeSession_evolves : Evolves (some handle) st (st.removeSession .refused handle) := by
  unfold removeSession
  cases hget : st.sessions.get handle with
  | none => exact .goesOn (.refl st)
  | some session => exact .refused rfl hget (fun k => st.sessions.get_remove) rfl rfl rfl

theorem finishSession_of_get (cause : SessionEnd) {session : SharedClientSession C}
    (hget : st.sessions.get handle = some session) :
    (∀ k, (st.finishSession input cause handle).sessions.get k =
      if k = handle then none else st.sessions.get k) ∧
    (st.finishSession input cause handle).nextUid = st.nextUid ∧
    (st.finishSession input cause handle).given = st.given ∧
    (st.finishSession input cause handle).ended = st.ended ++
      [⟨session.uid, ⟨[], session.batcher.log ++ [⟨none, .shutdownComplete⟩]⟩, cause⟩] := by
  unfold finishSession
  rw [hget]
  dsimp only
  rw [EventBatcher.flush_pushShutdownComplete]
  have hisSome : (st.sessions.get handle).isSome := by rw [hget]; rfl
  have hset : (st.setSession handle { session with
      batcher := ⟨[], session.batcher.log ++ [⟨none, .shutdownComplete⟩]⟩ }).sessions.get handle =
      some { session with
        batcher := ⟨[], session.batcher.log ++ [⟨none, .shutdownComplete⟩]⟩ } :=
    Slab.get_set_self _ _ hisSome
  unfold removeSession
  rw [hset]
  refine ⟨fun k => ?_, rfl, rfl, rfl⟩
  show ((st.sessions.set handle _).remove handle).get k = _
  rw [Slab.get_remove]
  split_ifs with hk
  · rfl
  · exact Slab.get_set_of_ne _ _ hk

theorem finishSession_evolves (cause : SessionEnd) :
    Evolves (some handle) st (st.finishSession input cause handle) := by
  cases hget : st.sessions.get handle with
  | none =>
    unfold finishSession
    rw [hget]
    exact .goesOn (.refl st)
  | some session =>
    obtain ⟨hslots, hnext, hgiven, hended⟩ := finishSession_of_get input st handle cause hget
    exact .finished rfl hget hslots hnext hgiven hended

end Outcomes

variable [ClientProtocol C Own]

section Calls

variable (input : SharedInput) (st : SharedClientLoop C Own) (handle : ℕ)

theorem refreshDcid_goesOn : GoesOn st (st.refreshDcid handle) := by
  unfold refreshDcid
  cases hget : st.sessions.get handle with
  | none => exact .refl st
  | some session =>
    exact GoesOn.trans (.setSession hget (.handler session _)) (.of_eq rfl)

theorem refreshed_goesOn {st : SharedClientLoop C Own} {result : Bool × SharedClientLoop C Own}
    (h : GoesOn st result.2) : GoesOn st (refreshed handle result).2 := by
  obtain ⟨_ | _, st'⟩ := result
  · exact h
  · exact (h.trans (refreshDcid_goesOn st' handle)).trans (syncTimer_goesOn _ handle)

theorem sendRound_goesOn (handles : List ℕ) : GoesOn st (sendRound handles st).2.2 := by
  induction handles generalizing st with
  | nil => exact .refl st
  | cons handle handles ih =>
    unfold sendRound
    cases hget : st.sessions.get handle with
    | none => exact ih st
    | some session =>
      have hset : GoesOn st (st.setSession handle { session with
          handler := session.handler.setConn (ClientProtocol.trySend session.handler.conn).2 }) :=
        .setSession hget (.handler session _)
      have hall := hset.trans (ih _)
      dsimp only
      generalize ClientProtocol.trySend session.handler.conn = sent at hall ⊢
      obtain ⟨_ | packet, conn⟩ := sent
      · exact hall
      · exact hall

theorem flushRoundRobinSends_goesOn (rounds : ℕ) (active : List ℕ) :
    GoesOn st (flushRoundRobinSends rounds active st).2 := by
  induction rounds generalizing active st with
  | zero => exact .refl st
  | succ rounds ih =>
    unfold flushRoundRobinSends
    split_ifs
    · exact .refl st
    · exact (sendRound_goesOn st active).trans (ih _ _)

theorem refreshTimersAfterSends_goesOn (now : ℕ) : GoesOn st (st.refreshTimersAfterSends now) := by
  unfold refreshTimersAfterSends
  refine GoesOn.foldl st (fun st handle => ?_) _
  cases hget : st.sessions.get handle with
  | none => exact .refl st
  | some session =>
    exact GoesOn.trans (.setSession hget (.handler session _)) (syncTimer_goesOn _ handle)

theorem openSession_evolves (victim : Option ℕ) (request : ℕ) (serverAddr : SocketAddr)
    (serverName : String)
    (sessionTicket : Option Bytes) :
    Evolves victim st (st.openSession input request serverAddr serverName sessionTicket) := by
  unfold openSession
  cases ClientProtocol.newSession (C := C) st.nextUid input.scid st.localAddr serverAddr serverName
    sessionTicket input.now st.outboundAdmission with
  | none => exact .goesOn (.of_eq rfl)
  | some handler =>
    dsimp only
    generalize hst : ({ st with
      sessions := st.sessions.insert ⟨st.nextUid, handler, ⟨[], []⟩, serverAddr⟩
      routeByDcid := st.routeByDcid.insert (ClientProtocol.currentDcid handler.conn)
        st.sessions.nextKey
      given := st.given ++ [(st.nextUid, st.sessions.nextKey)]
      nextUid := st.nextUid + 1 } : SharedClientLoop C Own) = st₁
    have hopened : Evolves victim st st₁ := by
      subst hst
      have huid : (⟨st.nextUid, handler, ⟨[], []⟩, serverAddr⟩ : SharedClientSession C).uid =
          st.nextUid := rfl
      exact .opens huid rfl rfl rfl rfl rfl
    unfold syncTimer
    cases st₁.sessions.get st.sessions.nextKey with
    | none => exact hopened.of_eq rfl
    | some session => exact hopened.of_eq rfl

end Calls

section Step

variable [LawfulClientProtocol C Own]

theorem packet_tells (connHandle : UInt32) (p : Packet) (budget now : ℕ) (h : ClientHandler C) :
    h.voice.Tells (ClientProtocol.processPacketForHandle connHandle p budget now h).voice := by
  cases hok : (ClientProtocol.recv h.conn p).1 with
  | false =>
    rw [LawfulClientProtocol.packet_refused connHandle budget now hok]
    exact .refl _
  | true => exact (LawfulClientProtocol.packet connHandle budget now hok).1

theorem timers_tells (connHandle : UInt32) (now budget : ℕ) (h : ClientHandler C) :
    h.voice.Tells (ClientProtocol.processTimersForHandle connHandle now budget h).voice := by
  cases hdue : h.timerDeadline.any (· ≤ now) with
  | false =>
    rw [LawfulClientProtocol.timers_idle connHandle budget hdue]
    exact .refl _
  | true => exact (LawfulClientProtocol.timers connHandle budget hdue).1.tells

variable (input : SharedInput) (st : SharedClientLoop C Own)

theorem payload_goesOn (handle : ℕ) (sessionHandle : UInt32) (streamId : ℕ) (chunk : Bytes)
    (fin : Bool) : GoesOn st (st.collectAtomic input handle fun h =>
      (ClientProtocol.queueStreamSend sessionHandle streamId chunk fin h).2).2 :=
  collectAtomic_goesOn input st handle
    fun h => (LawfulClientProtocol.queueStreamSend sessionHandle streamId chunk fin h).tells

variable {input st} in
theorem CommandPart.goesOn {there : Prop} {meant : ℕ} {sessionHandle : UInt32}
    {st' : SharedClientLoop C Own} (h : CommandPart input there meant sessionHandle st st') :
    GoesOn st st' := by
  cases h with
  | handler handler hget => exact .setSession hget (.handler _ handler)
  | payload => exact payload_goesOn input st _ sessionHandle _ _ _
  | gives units => exact releaseOutbound_goesOn input st units
  | answers => exact .of_eq rfl
  | refused => exact .of_eq rfl
  | releases => exact .of_eq rfl

theorem dispatchCommand_evolves (victim : Option ℕ) (queued : SharedQueued Own) :
    Evolves victim st (st.dispatchCommand input queued) := by
  unfold dispatchCommand
  cases queued.cmd with
  | openSession serverAddr serverName sessionTicket =>
    exact openSession_evolves input st victim queued.meant serverAddr serverName sessionTicket
  | session sessionHandle cmd =>
    exact .goesOn (Runs.chain .refl .trans CommandPart.goesOn
      (sessionCommand_parts input st queued.meant sessionHandle cmd))

end Step

/-- JavaScript puts a command in the channel, a session command through the handle it was
given, or moves the window. -/
theorem step_js {i : Step Own} (hi : ∀ input, i ≠ .tick input) (st : SharedClientLoop C Own) :
    ∃ sent accepted outboundAdmission,
      step i st = { st with channel := st.channel ++ sent, accepted, outboundAdmission } ∧
      ∀ queued ∈ sent, ∀ sessionHandle cmd, queued.cmd = .session sessionHandle cmd →
        i = .send queued.meant cmd ∧
          ∃ k, (queued.meant, k) ∈ st.given ∧ sessionHandle = UInt32.ofNat k := by
  cases i with
  | tick input => exact absurd rfl (hi input)
  | openSession serverAddr serverName sessionTicket =>
    unfold step requestSession sendCommand
    dsimp only
    by_cases hopen : st.channelOpen = true
    · rw [if_pos hopen]
      exact ⟨[_], _, _, rfl, by simp⟩
    · rw [if_neg hopen]
      exact ⟨[], _, _, by rw [List.append_nil], by simp⟩
  | send uid cmd =>
    unfold step
    dsimp only
    cases hfind : st.given.find? fun g => g.1 = uid with
    | none => exact ⟨[], _, _, by rw [List.append_nil], by simp⟩
    | some g =>
      obtain rfl : g.1 = uid := by simpa using List.find?_some hfind
      dsimp only
      unfold sendCommand
      split_ifs
      · refine ⟨[_], _, _, rfl, ?_⟩
        intro queued hqueued sessionHandle cmd' hcmd
        obtain rfl := List.mem_singleton.1 hqueued
        cases hcmd
        exact ⟨rfl, g.2, List.mem_of_find?_eq_some hfind, rfl⟩
      · exact ⟨[], _, _, by rw [List.append_nil], by simp⟩
  | tryAdmitOutbound payloadLen fin => exact ⟨[], _, _, by rw [List.append_nil]; rfl, by simp⟩
  | releaseOutboundAdmission payloadLen fin =>
    exact ⟨[], _, _, by rw [List.append_nil]; rfl, by simp⟩

end SharedClientLoop

end Http3
