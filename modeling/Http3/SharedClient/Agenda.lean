import Http3.SharedClient.Sessions

/-! What one call of the shared loop does to the channel, and which part of an iteration
follows: it takes a command, or it leaves the channel alone. -/

namespace Http3

/-- The request for a session that a command in the channel makes. -/
def SharedQueued.request {Own : Type} (queued : SharedQueued Own) : Option ℕ :=
  match queued.cmd with
  | .openSession _ _ _ => some queued.meant
  | .session _ _ => none

def SharedReply.request : SharedReply → Option ℕ
  | .openSession request _ => some request
  | .session _ => none

/-- The parts of an iteration: up to the end of the command drain, behind it, and the two
stages of a return. -/
inductive Phase
  | collecting
  | serving
  | leaving (cause : LoopExit)
  | gone (cause : LoopExit)
  deriving DecidableEq, Repr

def SharedStage.phase : SharedStage → Phase
  | .poll | .commands _ _ => .collecting
  | .returning cause => .leaving cause
  | .exited cause => .gone cause
  | _ => .serving

namespace SharedClientLoop

variable {C Own : Type}

def answered (st : SharedClientLoop C Own) : List ℕ := st.replies.filterMap SharedReply.request

def agenda (st : SharedClientLoop C Own) :
    SharedStage × List (SharedQueued Own) × ℕ × List ℕ × ℕ :=
  (st.stage, st.channel, st.accepted, st.answered, st.nextUid)

theorem agenda_of_rest {st st' : SharedClientLoop C Own} (h : st'.rest = st.rest) :
    st'.agenda = st.agenda := by
  have hagenda : st'.rest.agenda = st.rest.agenda := congrArg agenda h
  exact hagenda

section Sessions

variable (input : SharedInput) (st : SharedClientLoop C Own) (handle : ℕ)

@[simp] theorem agenda_collectAtomic (f : ClientHandler C → ClientHandler C) :
    (st.collectAtomic input handle f).2.agenda = st.agenda :=
  agenda_of_rest (rest_collectAtomic input st handle f)

@[simp] theorem agenda_emitWriteReady : (st.emitWriteReady input).agenda = st.agenda := by
  unfold emitWriteReady
  induction st.sessions.keys generalizing st with
  | nil => rfl
  | cons handle handles ih =>
    rw [List.foldl_cons, ih]
    have happend := agenda_of_rest (rest_appendAtomic input st handle [⟨none, .writeReady 0⟩])
    generalize st.appendAtomic input handle [⟨none, .writeReady 0⟩] = r at happend ⊢
    obtain ⟨_ | _, st'⟩ := r
    · exact happend
    · exact happend

@[simp] theorem agenda_releaseOutbound (units : ℕ) :
    (st.releaseOutbound input units).agenda = st.agenda := by
  unfold releaseOutbound
  dsimp only
  split_ifs
  · exact agenda_emitWriteReady input _
  · rfl

end Sessions

variable [ClientProtocol C Own]

section Calls

variable (input : SharedInput) (st : SharedClientLoop C Own) (handle : ℕ)

variable {input st} in
theorem CommandPart.agenda_eq {there : Prop} {meant : ℕ} {sessionHandle : UInt32}
    {st' : SharedClientLoop C Own} (h : CommandPart input there meant sessionHandle st st') :
    st'.agenda = st.agenda := by
  cases h with
  | handler => rfl
  | payload => exact agenda_collectAtomic input st _ _
  | gives units => exact agenda_releaseOutbound input st units
  | answers replies =>
    have hrequests : (replies.map SharedReply.session).filterMap SharedReply.request = [] := by
      simp [List.filterMap_map, SharedReply.request, Function.comp_def]
    simp [agenda, answered, hrequests]
  | refused => rfl
  | releases => rfl

theorem agenda_sessionCommand (meant : ℕ) (sessionHandle : UInt32) (cmd : SessionCommand Own) :
    (st.sessionCommand input meant sessionHandle cmd).agenda = st.agenda := by
  have hparts := sessionCommand_parts input st meant sessionHandle cmd
  generalize st.sessionCommand input meant sessionHandle cmd = st' at hparts ⊢
  induction hparts with
  | refl => rfl
  | tail _ hlast ih => exact hlast.agenda_eq.trans ih

theorem dispatchCommand_agenda (queued : SharedQueued Own) :
    (st.dispatchCommand input queued).stage = st.stage ∧
      (st.dispatchCommand input queued).channel = st.channel ∧
      (st.dispatchCommand input queued).accepted = st.accepted ∧
      (st.dispatchCommand input queued).answered = st.answered ++ queued.request.toList := by
  unfold dispatchCommand SharedQueued.request
  cases queued.cmd with
  | session sessionHandle cmd =>
    have hagenda := agenda_sessionCommand input st queued.meant sessionHandle cmd
    simp only [agenda, Prod.mk.injEq] at hagenda
    obtain ⟨hstage, hchannel, haccepted, hanswered, -⟩ := hagenda
    refine ⟨hstage, hchannel, haccepted, ?_⟩
    simpa using hanswered
  | openSession serverAddr serverName sessionTicket =>
    dsimp only
    unfold openSession
    cases ClientProtocol.newSession (C := C) st.nextUid input.scid st.localAddr serverAddr
      serverName sessionTicket input.now st.outboundAdmission with
    | none => simp [answer, answered, SharedReply.request]
    | some handler =>
      dsimp only
      unfold syncTimer
      dsimp only
      cases (st.sessions.insert ⟨st.nextUid, handler, ⟨[], []⟩, serverAddr⟩).get
        st.sessions.nextKey <;> simp [answer, answered, SharedReply.request]

/-- The driver fails to take the packets that go out. -/
def sendsFail : Bool :=
  !(flushRoundRobinSends input.rounds st.sessions.keys st).1.isEmpty && !input.submitOk

def driverFails : Bool :=
  match st.stage with
  | .poll => input.rx.isNone
  | .commandSends _ | .sends => st.sendsFail input
  | .rxSends q =>
    decide ((q.idx + 1) % 64 = 0 ∧ q.idx + 1 < q.count) && st.sendsFail input
  | _ => false

/-- Which phase can follow when no command is taken. -/
inductive Turns (input : SharedInput) (st : SharedClientLoop C Own) : Phase → Prop
  | stays : Turns input st st.stage.phase
  | drained {drained : ℕ} {rx : List Packet} : st.stage = .commands drained rx →
      st.channel = [] ∨ maxCommandsPerTick ≤ drained → Turns input st .serving
  | again : st.stage = .done → Turns input st .collecting
  | ends {cause : LoopExit} : st.stage = .done → st.sessions.len = 0 → cause ≠ .runtimeError →
      Turns input st (.leaving cause)
  | fails : st.driverFails input = true → Turns input st (.leaving .runtimeError)
  | goes {cause : LoopExit} : st.stage = .returning cause → Turns input st (.gone cause)

/-- The outcomes of one call of the loop: it takes up a command or a release, or does
something else to its sessions. -/
inductive Ticks (input : SharedInput) (st st' : SharedClientLoop C Own) : Prop
  | dispatches {drained : ℕ} {rx : List Packet} {queued : SharedQueued Own}
      {channel : List (SharedQueued Own)} : st.stage = .commands drained rx →
      st.channel = queued :: channel → drained < maxCommandsPerTick →
      st' = { st with channel, stage := .commands (drained + 1) rx }.dispatchCommand input queued →
      Ticks input st st'
  | releases {rx : List Packet} {release : PendingRelease} {pendingRelease : List PendingRelease} :
      st.stage = .release rx → st.pendingRelease = release :: pendingRelease →
      st' = { st with pendingRelease }.finishSession input .released
        release.sessionHandle.toNat → Ticks input st st'
  | goes : Evolves st.removes st st' →
      st'.rest = { st with stage := st'.stage, closedSessions := st'.closedSessions }.rest →
      Turns input st st'.stage.phase → Ticks input st st'

variable {st} {st₁ st' : SharedClientLoop C Own}

theorem Ticks.acts (hevolves : Evolves st.removes st st₁) (hrest : st₁.rest = st.rest)
    (hbooks : st'.books = st₁.books)
    (hmoved : st'.rest = { st₁ with stage := st'.stage, closedSessions := st'.closedSessions }.rest)
    (hturns : Turns input st st'.stage.phase) : Ticks input st st' := by
  refine .goes (hevolves.of_eq hbooks) ?_ hturns
  have hsame := congrArg (fun st₂ : SharedClientLoop C Own =>
    { st₂ with stage := st'.stage, closedSessions := st'.closedSessions }) hrest
  exact hmoved.trans hsame

theorem Ticks.visits (hgoes : GoesOn st st₁) (hrest : st₁.rest = st.rest)
    (hbooks : st'.books = st₁.books)
    (hmoved : st'.rest = { st₁ with stage := st'.stage, closedSessions := st'.closedSessions }.rest)
    (hturns : Turns input st st'.stage.phase) : Ticks input st st' :=
  .acts input (.goesOn hgoes) hrest hbooks hmoved hturns

theorem Ticks.moves {next : SharedStage} (hturns : Turns input st next.phase) :
    Ticks input st { st with stage := next } :=
  .visits input (.refl st) rfl rfl rfl hturns

variable {input} in
theorem Ticks.removes {closedSessions : List ℕ} (hremoves : st.removes = some handle)
    (hevolves : Evolves (some handle) { st with closedSessions } st')
    (hrest : st'.rest = { st with closedSessions }.rest) : Ticks input st st' := by
  obtain ⟨hstage, -, hclosed⟩ := lists_of_rest hrest
  refine .goes ?_ ?_ ?_
  · rw [hremoves]
    exact hevolves.after rfl
  · rw [hstage, hclosed]
    exact hrest
  · rw [hstage]
    exact .stays

theorem Ticks.orClose {result : Bool × SharedClientLoop C Own} (hgoes : GoesOn st result.2)
    (hrest : result.2.rest = st.rest) {next refused : SharedStage}
    (hnext : Turns input st next.phase) (hrefused : Turns input st refused.phase) :
    Ticks input st (orClose handle result next refused) := by
  obtain ⟨_ | _, st'⟩ := result
  · exact .visits input hgoes hrest rfl rfl hrefused
  · exact .visits input hgoes hrest rfl rfl hnext

theorem Ticks.submitSends {next : SharedStage} (hnext : Turns input st next.phase)
    (hfails : st.driverFails input = st.sendsFail input) :
    Ticks input st (st.submitSends input next) := by
  have hgoes := (flushRoundRobinSends_goesOn st input.rounds st.sessions.keys).trans
    (refreshTimersAfterSends_goesOn _ input.now)
  unfold SharedClientLoop.submitSends
  dsimp only
  split_ifs with hfail
  · exact .visits input (hgoes.trans (emitRuntimeError_goesOn input _ _ _ _))
      ((rest_emitRuntimeError input _ _ _ _).trans (rest_sends st input)) rfl rfl
      (.fails (hfails.trans hfail))
  · exact .visits input hgoes (rest_sends st input) rfl rfl hnext

variable [LawfulClientProtocol C Own]

theorem Ticks.packet (q : SharedRx) (p : Packet) (hserving : Turns input st .serving) :
    Ticks input st (st.packet input q p) := by
  unfold SharedClientLoop.packet
  cases st.routed p with
  | none => exact .moves input hserving
  | some handle =>
    have hgoes := refreshed_goesOn handle (collectAtomic_goesOn input st handle
      (packet_tells (UInt32.ofNat handle) p 0 input.now))
    have hrest := (rest_refreshed handle (st.collectAtomic input handle
      (ClientProtocol.processPacketForHandle (UInt32.ofNat handle) p 0 input.now))).trans
      (rest_collectAtomic input st handle _)
    dsimp only
    generalize refreshed handle (st.collectAtomic input handle
      (ClientProtocol.processPacketForHandle (UInt32.ofNat handle) p 0 input.now)) = r
      at hgoes hrest ⊢
    obtain ⟨_ | _, st'⟩ := r
    · exact .visits input hgoes hrest rfl rfl hserving
    · exact .visits input hgoes hrest rfl rfl hserving

end Calls

section Ticks

variable [LawfulClientProtocol C Own] (input : SharedInput) (st : SharedClientLoop C Own)

/-- Everything one call of the loop can do. -/
theorem tick_ticks : Ticks input st (st.tick input) := by
  have hserving : ∀ {stage : SharedStage}, st.stage = stage → stage.phase = .serving →
      Turns input st .serving := by
    intro stage hstage hphase
    rw [← hphase, ← hstage]
    exact .stays
  have hfails : st.driverFails input = st.driverFails input := rfl
  conv_rhs at hfails => unfold driverFails
  have hremoves : st.removes = st.removesAt st.stage := rfl
  unfold tick
  generalize hstage : st.stage = stage at hfails hremoves
  unfold tickAt
  unfold removesAt at hremoves
  cases stage with
  | poll =>
    dsimp only at hfails ⊢
    cases hrx : input.rx with
    | none =>
      refine .visits input (emitRuntimeError_goesOn input st _ _ _)
        (rest_emitRuntimeError input _ _ _ _) rfl rfl (.fails ?_)
      rw [hfails, hrx]
      rfl
    | some rx =>
      refine .moves input ?_
      have hstays : Turns input st st.stage.phase := .stays
      rwa [hstage] at hstays
  | commands drained rx =>
    dsimp only
    cases hchannel : st.channel with
    | nil =>
      exact .visits input (.refl st) rfl rfl (by rw [hchannel])
        (.drained hstage (.inl hchannel))
    | cons queued channel =>
      dsimp only
      split_ifs with hcap
      · exact .dispatches hstage hchannel hcap rfl
      · exact .visits input (.refl st) rfl rfl (by rw [hchannel])
          (.drained hstage (.inr (Nat.le_of_not_lt hcap)))
  | commandSends rx => exact .submitSends input (hserving hstage rfl) hfails
  | release rx =>
    dsimp only
    cases hrelease : st.pendingRelease with
    | nil =>
      refine .visits input (.refl st) rfl rfl (by rw [hrelease]) ?_
      cases rx with
      | nil => exact hserving hstage rfl
      | cons p rx => exact hserving hstage rfl
    | cons release pendingRelease => exact .releases hstage hrelease rfl
  | rx q =>
    dsimp only
    cases q.rest with
    | nil => exact .moves input (hserving hstage rfl)
    | cons p rest => exact .packet input _ p (hserving hstage rfl)
  | rxCap handle q =>
    have hgoes := capFlush_goesOn input st handle
    have hrest := rest_capFlush input st handle
    dsimp only
    generalize st.capFlush input handle = r at hgoes hrest ⊢
    obtain ⟨_ | _, st'⟩ := r
    · exact .visits input hgoes hrest rfl rfl (hserving hstage rfl)
    · exact .visits input hgoes hrest rfl rfl (hserving hstage rfl)
  | rxRemove handle q =>
    refine .acts input ?_ (rest_removeSession st handle .refused) rfl rfl (hserving hstage rfl)
    rw [hremoves]
    exact removeSession_evolves st handle
  | rxSends q =>
    have hnext : Turns input st (stageOfRx (q.idx + 1) q.count q.rest).phase := by
      cases q.rest with
      | nil => exact hserving hstage rfl
      | cons p rest => exact hserving hstage rfl
    dsimp only at hfails ⊢
    by_cases hcadence : (q.idx + 1) % 64 = 0 ∧ q.idx + 1 < q.count
    · rw [if_pos hcadence]
      rw [decide_eq_true hcadence, Bool.true_and] at hfails
      exact .submitSends input hnext hfails
    · rw [if_neg hcadence]
      exact .moves input hnext
  | timers => exact .visits input (.refl st) rfl rfl rfl (hserving hstage rfl)
  | expired now handles =>
    cases handles with
    | nil => exact .moves input (hserving hstage rfl)
    | cons handle rest =>
      refine .orClose input handle (refreshed_goesOn handle (collectAtomic_goesOn input st handle
        (timers_tells _ now _))) ?_ (hserving hstage rfl) (hserving hstage rfl)
      rw [rest_refreshed, rest_collectAtomic]
  | expiredCap now handles =>
    cases handles with
    | nil => exact .moves input (hserving hstage rfl)
    | cons handle rest =>
      exact .orClose input handle (capFlush_goesOn input st handle) (rest_capFlush input st handle)
        (hserving hstage rfl) (hserving hstage rfl)
  | appEvents handles =>
    cases handles with
    | nil => exact .moves input (hserving hstage rfl)
    | cons handle rest =>
      refine .orClose input handle (refreshed_goesOn handle (collectAtomic_goesOn input st handle
        fun h => (LawfulClientProtocol.pollAppEvents _ _ _ h).tells)) ?_ (hserving hstage rfl)
        (hserving hstage rfl)
      rw [rest_refreshed, rest_collectAtomic]
  | drainEvents handles =>
    cases handles with
    | nil => exact .moves input (hserving hstage rfl)
    | cons handle rest =>
      exact .orClose input handle (collectAtomic_goesOn input st handle
        fun h => (LawfulClientProtocol.pollDrainEvents _ _ h).tells)
        (rest_collectAtomic input st handle _) (hserving hstage rfl) (hserving hstage rfl)
  | pendingWrites handles =>
    cases handles with
    | nil => exact .moves input (hserving hstage rfl)
    | cons handle rest =>
      exact .orClose input handle (collectAtomic_goesOn input st handle
        fun h => (LawfulClientProtocol.flushPendingWrites _ h).tells)
        (rest_collectAtomic input st handle _) (hserving hstage rfl) (hserving hstage rfl)
  | cap handles =>
    cases handles with
    | nil => exact .moves input (hserving hstage rfl)
    | cons handle rest =>
      exact .orClose input handle (capFlush_goesOn input st handle) (rest_capFlush input st handle)
        (hserving hstage rfl) (hserving hstage rfl)
  | closed =>
    dsimp only at hremoves ⊢
    cases hclosed : st.closedSessions with
    | nil => exact .visits input (.refl st) rfl rfl rfl (hserving hstage rfl)
    | cons handle closedSessions =>
      rw [hclosed] at hremoves
      exact .removes handle hremoves (removeSession_evolves _ handle)
        (rest_removeSession _ handle _)
  | sends => exact .submitSends input (hserving hstage rfl) hfails
  | flush handles =>
    cases handles with
    | nil => exact .moves input (hserving hstage rfl)
    | cons handle rest =>
      dsimp only
      refine .orClose input handle ?_ ?_ (hserving hstage rfl) (hserving hstage rfl)
      · exact flush_goesOn input st handle
      · exact rest_flush input st handle
  | reap =>
    dsimp only at hremoves ⊢
    cases hclosed : st.closedSessions with
    | nil => exact .visits input (.refl st) rfl rfl rfl (hserving hstage rfl)
    | cons handle closedSessions =>
      rw [hclosed] at hremoves
      exact .removes handle hremoves (finishSession_evolves input _ handle .reaped)
        (rest_finishSession input _ handle _)
  | done =>
    dsimp only
    unfold finish
    by_cases hexit : st.sessions.len = 0 ∧ input.pendingTx = 0
    · rw [if_pos hexit]
      refine .moves input (.ends hstage hexit.1 ?_)
      split_ifs <;> exact LoopExit.noConfusion
    · rw [if_neg hexit]
      exact .moves input (.again hstage)
  | returning cause => exact .moves input (.goes hstage)
  | exited cause => exact .visits input (.refl st) rfl rfl rfl .stays

theorem tick_evolves : Evolves st.removes st (st.tick input) := by
  cases tick_ticks input st with
  | dispatches _ _ _ heq =>
    rw [heq]
    exact (dispatchCommand_evolves input _ _ _).after rfl
  | @releases rx release pendingRelease hstage hpending heq =>
    have hremoves : st.removes = some release.sessionHandle.toNat := by
      unfold removes
      rw [hstage]
      unfold removesAt
      rw [hpending]
      rfl
    rw [heq, hremoves]
    exact (finishSession_evolves input _ _ .released).after rfl
  | goes hevolves => exact hevolves

/-- The outcomes of one call for the channel. -/
inductive Serves (input : SharedInput) (st st' : SharedClientLoop C Own) : Prop
  | takes {drained : ℕ} {rx : List Packet} {queued : SharedQueued Own}
      {channel : List (SharedQueued Own)} : st.stage = .commands drained rx →
      st.channel = queued :: channel → st'.stage.phase = .collecting → st'.channel = channel →
      st'.accepted = st.accepted → st'.answered = st.answered ++ queued.request.toList →
      Serves input st st'
  | leaves : st'.channel = st.channel → st'.accepted = st.accepted →
      st'.answered = st.answered → st'.nextUid = st.nextUid →
      Turns input st st'.stage.phase → Serves input st st'

omit [LawfulClientProtocol C Own] in
variable {input st} in
theorem Serves.of_agenda {st' : SharedClientLoop C Own} {stage : SharedStage}
    (hagenda : st'.agenda = (stage, st.agenda.2)) (hturns : Turns input st st'.stage.phase) :
    Serves input st st' := by
  simp only [agenda, Prod.mk.injEq] at hagenda
  obtain ⟨-, hchannel, haccepted, hanswered, hnext⟩ := hagenda
  exact .leaves hchannel haccepted hanswered hnext hturns

theorem tick_serves : Serves input st (st.tick input) := by
  cases tick_ticks input st with
  | @dispatches drained rx queued channel hstage hchannel _ heq =>
    obtain ⟨hstage', hchannel', haccepted, hanswered⟩ := dispatchCommand_agenda input
      { st with channel, stage := .commands (drained + 1) rx } queued
    rw [heq]
    refine .takes hstage hchannel ?_ hchannel' haccepted hanswered
    rw [hstage']
    rfl
  | @releases rx release pendingRelease _ _ heq =>
    have hagenda := agenda_of_rest
      (rest_finishSession input { st with pendingRelease } release.sessionHandle.toNat .released)
    rw [← heq] at hagenda
    have hstage : (st.tick input).stage = st.stage := (Prod.mk.inj hagenda).1
    refine .of_agenda hagenda ?_
    rw [hstage]
    exact .stays
  | goes _ hrest hturns =>
    have hagenda := agenda_of_rest hrest
    exact .of_agenda hagenda hturns

end Ticks

end SharedClientLoop

end Http3
