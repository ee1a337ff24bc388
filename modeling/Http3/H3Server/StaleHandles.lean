import Http3.H3Server.Sessions
import Http3.Scripted

/-! Commands and the connections JavaScript means by them. A handle names a slab
slot; by the time a command is dispatched, the slot may hold another connection. -/

namespace Http3

theorem Grows.newSession_mem {allowed : Emitted → Prop} {a b : List Emitted}
    (h : Grows allowed a b) (hallowed : ∀ e, allowed e → e.event.eventType ≠ .newSession) :
    ∀ e ∈ b, e.event.eventType = .newSession → e ∈ a := by
  induction h with
  | refl => exact fun _ he _ => he
  | push _ hadd ih =>
    intro e he ht
    rcases List.mem_append.1 he with he | he
    · exact ih e he ht
    · rw [List.mem_singleton.1 he] at ht
      exact absurd ht (hallowed _ hadd)
  | refill _ hkind ih =>
    intro e he ht
    rcases List.mem_append.1 he with he | he
    · exact ih e (List.mem_append_left _ he) ht
    · rw [List.mem_singleton.1 he] at ht
      dsimp only at ht
      rw [hkind] at ht
      cases ht
  | withdraw _ _ ih => exact fun e he ht => ih e (List.mem_of_mem_filter he) ht

namespace H3Server

variable {Q : Type}

/-- Sessions only end, or begin with a fresh identity that is announced. -/
structure SessionsMove (s s' : H3Server Q) : Prop where
  accepted : s.connMap.acceptedCount ≤ s'.connMap.acceptedCount
  uid : ∀ k v, s'.uidAt k = some v → s.uidAt k = some v ∨ s.connMap.acceptedCount ≤ v
  opened : ∀ e ∈ s'.batch, e.event.eventType = .newSession → e ∈ s.batch ∨
    ∃ ref, e.owner = some ref ∧ ref.slot < 2 ^ 32 ∧ s.connMap.acceptedCount ≤ ref.uid ∧
      ref.uid < s'.connMap.acceptedCount ∧ ∀ v, s'.uidAt ref.slot = some v → ref.uid ≤ v

/-- Connection `uid` lived in `slot` at some time, and nothing older lives there now. -/
def Older (s : H3Server Q) (slot uid : ℕ) : Prop :=
  uid < s.connMap.acceptedCount ∧ ∀ v, s.uidAt slot = some v → uid ≤ v

variable {s s' : H3Server Q}

theorem Older.move {slot uid : ℕ} (h : s.Older slot uid) (hmove : SessionsMove s s') :
    s'.Older slot uid := by
  obtain ⟨hlt, hle⟩ := h
  refine ⟨lt_of_lt_of_le hlt hmove.accepted, ?_⟩
  intro v hv
  rcases hmove.uid slot v hv with hold | hnew
  · exact hle v hold
  · exact le_trans (le_of_lt hlt) hnew

namespace SessionsMove

theorem trans {s s' s'' : H3Server Q} (h : SessionsMove s s') (h' : SessionsMove s' s'') :
    SessionsMove s s'' := by
  refine ⟨h.accepted.trans h'.accepted, ?_, ?_⟩
  · intro k v hv
    rcases h'.uid k v hv with hold | hnew
    · exact h.uid k v hold
    · exact .inr (h.accepted.trans hnew)
  · intro e he ht
    rcases h'.opened e he ht with hold | ⟨ref, howner, hslot, hge, hlt, hle⟩
    · rcases h.opened e hold ht with hold' | ⟨ref, howner, hslot, hge, hlt, hle⟩
      · exact .inl hold'
      · refine .inr ⟨ref, howner, hslot, hge, lt_of_lt_of_le hlt h'.accepted, ?_⟩
        have holder : s''.Older ref.slot ref.uid := Older.move ⟨hlt, hle⟩ h'
        exact holder.2
    · exact .inr ⟨ref, howner, hslot, h.accepted.trans hge, hlt, hle⟩

theorem of_kept {s s' : H3Server Q} {allowed : Emitted → Prop}
    (haccepted : s'.connMap.acceptedCount = s.connMap.acceptedCount)
    (huid : ∀ k, s'.uidAt k = s.uidAt k ∨ s'.uidAt k = none)
    (hallowed : ∀ e, allowed e → e.event.eventType ≠ .newSession)
    (hbatch : Grows allowed s.batch s'.batch) : SessionsMove s s' := by
  refine ⟨le_of_eq haccepted.symm, ?_, fun e he ht => .inl (hbatch.newSession_mem hallowed e he ht)⟩
  intro k v hv
  rcases huid k with hsame | hnone
  · exact .inl (hsame ▸ hv)
  · rw [hnone] at hv
    cases hv

end SessionsMove

variable [Quiche Q]

theorem Goes.move (h : Goes s s') : SessionsMove s s' :=
  .of_kept h.acceptedCount h.uidAt (fun _ he => he.2.1) h.batch

theorem ActsOn.move {slot : ℕ} {g : UInt32} (h : ActsOn slot g s s') :
    SessionsMove s s' :=
  .of_kept h.acceptedCount (fun k => .inl (h.uid k)) (fun _ he => he.plain.1) h.batch

theorem Opens.move {slot : ℕ} (h : Opens slot s s') : SessionsMove s s' := by
  have hcount := h.acceptedCount
  refine ⟨by omega, ?_, ?_⟩
  · intro k v hv
    rw [h.uidAt] at hv
    split_ifs at hv
    · exact .inr (le_of_eq (Option.some.inj hv))
    · exact .inl hv
  · intro e he _
    obtain ⟨ip, port, hbatch⟩ := h.batch
    rw [hbatch] at he
    rcases List.mem_append.1 he with he | he
    · exact .inl he
    · rw [List.mem_singleton.1 he]
      refine .inr ⟨_, rfl, lt_trans h.lt_max s.connMap.max_lt, le_rfl, by dsimp only; omega, ?_⟩
      intro v hv
      rw [h.uidAt, if_pos rfl] at hv
      exact le_of_eq (Option.some.inj hv)

theorem apply_move (op : ServerOp) (s : H3Server Q) : SessionsMove s (op.apply s) := by
  rcases apply_goes op s with hgoes | ⟨slot, s₁, -, hopens, hgoes⟩
  · exact hgoes.move
  · exact hopens.move.trans hgoes.move

theorem dispatchCommand_move (now : ℕ) (cmd : WorkerCommand) (s : H3Server Q) :
    SessionsMove s (s.dispatchCommand now cmd).2 := by
  by_cases hcmd : cmd = .shutdown
  · rw [hcmd]
    exact (dispatchShutdown_steady (P := fun _ => True) s).goes.move
  · exact (dispatchCommand_spec now hcmd s).1.move

/-- Nothing kept for any connection changes. -/
structure Untouched (s s' : H3Server Q) : Prop where
  connMap : s'.connMap = s.connMap
  writes : s'.pendingWrites = s.pendingWrites
  responses : s'.pendingResponses = s.pendingResponses
  closes : s'.pendingSessionCloses = s.pendingSessionCloses

/-- Only what is kept for the connection in `slot` changes. -/
structure TouchesOnly (slot : ℕ) (s s' : H3Server Q) : Prop where
  conns : ∀ k, k ≠ slot → s'.connMap.get k = s.connMap.get k
  writes : ∀ key : StreamKey, key.1.toNat ≠ slot →
    s'.pendingWrites.lookup key = s.pendingWrites.lookup key
  responses : ∀ key : StreamKey, key.1.toNat ≠ slot →
    s'.pendingResponses.lookup key = s.pendingResponses.lookup key
  closes : ∀ h : UInt32, h.toNat ≠ slot →
    s'.pendingSessionCloses.lookup h = s.pendingSessionCloses.lookup h

omit [Quiche Q] in
theorem Untouched.release (s : H3Server Q) (units : ℕ) :
    Untouched s (s.releaseOutboundAdmission units) := by
  rw [releaseOutboundAdmission_eq]
  exact ⟨rfl, rfl, rfl, rfl⟩

/-- A command for a vacant slot does nothing but give its units back. -/
theorem dispatchCommand_untouched (now : ℕ) {cmd : WorkerCommand} (hcmd : cmd ≠ .shutdown)
    {s : H3Server Q} (hlive : s.PendingLive)
    (hvacant : s.connMap.get (commandConnHandle cmd).toNat = none) :
    Untouched s (s.dispatchCommand now cmd).2 := by
  have hnothing : ∀ streamId, ¬s.HasPending (commandConnHandle cmd, streamId) := by
    intro streamId hpending
    have hsome := hlive _ hpending
    unfold uidAt at hsome
    rw [hvacant] at hsome
    cases hsome
  have hconn : s.conn? (commandConnHandle cmd) = none := hvacant
  cases cmd with
  | sendResponse =>
    simp only [commandConnHandle] at hconn
    simp only [dispatchCommand, dispatchSendResponse, hconn]
    exact .release s _
  | streamSend connHandle streamId chunk fin =>
    have hnone := hnothing streamId
    simp only [commandConnHandle] at hconn
    simp only [HasPending, commandConnHandle, not_or, Option.not_isSome_iff_eq_none] at hnone
    simp only [dispatchCommand, dispatchStreamSend, hconn, hnone]
    exact .release s _
  | sendDatagram connHandle data =>
    have hrelease := Untouched.release s data.length
    simp only [commandConnHandle] at hconn
    simp only [dispatchCommand, dispatchSendDatagram, hconn]
    exact ⟨hrelease.connMap, hrelease.writes, hrelease.responses, hrelease.closes⟩
  | shutdown => exact absurd rfl hcmd
  | _ =>
    simp only [commandConnHandle] at hconn
    simp only [dispatchCommand, dispatchSendResponseHeaders, dispatchStreamClose,
      dispatchSendTrailers, dispatchCloseSession, dispatchPingSession, hconn]
    exact ⟨rfl, rfl, rfl, rfl⟩

end H3Server

/-- The worker and the session table of JavaScript, which has processed the first
`delivered` events. A session is kept under the part of its handle that names the
slot; the connection it stands for is the one whose announcement created it. -/
structure H3System (Q : Type) where
  worker : H3Worker Q
  delivered : ℕ
  sessions : KeyMap UInt32 ℕ

namespace H3System

variable {Q : Type}

def onEvent (sessions : KeyMap UInt32 ℕ) (e : Emitted) : KeyMap UInt32 ℕ :=
  match e.owner with
  | none => sessions
  | some ref =>
    match e.event.eventType with
    | .newSession => sessions.insert (UInt32.ofNat ref.slot) ref.uid
    | .sessionClose => sessions.erase (UInt32.ofNat ref.slot)
    | _ => sessions

def deliver (sys : H3System Q) : H3System Q :=
  match sys.worker.events[sys.delivered]? with
  | none => sys
  | some e => { sys with delivered := sys.delivered + 1, sessions := onEvent sys.sessions e }

/-- Issue a command for a session that is in the table. -/
def issue (channelOpen : Bool) (cmd : WorkerCommand) (reply : Option Bool) (sys : H3System Q) :
    H3System Q :=
  match sys.sessions.lookup (commandConnHandle cmd) with
  | none => sys
  | some uid =>
    if cmd = .shutdown then sys
    else { sys with worker := (sys.worker.napi channelOpen uid cmd reply).2 }

inductive Step
  | work (op : ServerOp)
  | dispatch (now : ℕ)
  | deliver
  | issue (channelOpen : Bool) (cmd : WorkerCommand) (reply : Option Bool)

def step [Quiche Q] : Step → H3System Q → H3System Q
  | .work op, sys => { sys with worker := sys.worker.collect op.apply }
  | .dispatch now, sys => { sys with worker := sys.worker.dispatchNext now }
  | .deliver, sys => sys.deliver
  | .issue channelOpen cmd reply, sys => sys.issue channelOpen cmd reply

def init [Quiche Q] (handleOffset maxConnections : UInt32) (disableRetry : Bool)
    (streamReadWindow : Option ℕ) (requireClientCert : Bool) : H3System Q :=
  ⟨.init handleOffset maxConnections disableRetry streamReadWindow requireClientCert, 0, ∅⟩

/-- Whatever JavaScript has heard of, holds or has asked for is at most as recent
as what lives in the slot now. -/
structure Consistent (sys : H3System Q) : Prop where
  pendingLive : sys.worker.server.PendingLive
  events : ∀ e ∈ sys.worker.events, e.event.eventType = .newSession →
    ∃ ref, e.owner = some ref ∧ ref.slot < 2 ^ 32 ∧ sys.worker.server.Older ref.slot ref.uid
  sessions : ∀ h uid, sys.sessions.lookup h = some uid → sys.worker.server.Older h.toNat uid
  channel : ∀ queued ∈ sys.worker.channel, queued.cmd ≠ .shutdown ∧
    sys.worker.server.Older (commandConnHandle queued.cmd).toNat queued.meant

theorem Consistent.collect {sys : H3System Q} (h : sys.Consistent) {f : H3Server Q → H3Server Q}
    {channel : List Queued} {answered : List (ℕ × ℕ)}
    (hmove : H3Server.SessionsMove sys.worker.server.startBatch (f sys.worker.server.startBatch))
    (hlive : (f sys.worker.server.startBatch).PendingLive)
    (hch : ∀ queued ∈ channel, queued ∈ sys.worker.channel) :
    Consistent { sys with
      worker := { sys.worker with channel, answered }.collect f } := by
  have holder : ∀ slot uid, sys.worker.server.Older slot uid →
      (f sys.worker.server.startBatch).Older slot uid := by
    intro slot uid hold
    exact H3Server.Older.move (s := sys.worker.server.startBatch) hold hmove
  refine ⟨hlive, ?_, fun k uid hk => holder _ _ (h.sessions k uid hk), ?_⟩
  · intro e he ht
    rcases List.mem_append.1 he with he | he
    · obtain ⟨ref, howner, hslot, hold⟩ := h.events e he ht
      exact ⟨ref, howner, hslot, holder _ _ hold⟩
    · rcases hmove.opened e he ht with hnil | ⟨ref, howner, hslot, -, hlt, hle⟩
      · cases hnil
      · exact ⟨ref, howner, hslot, hlt, hle⟩
  · intro queued hq
    obtain ⟨hcmd, hold⟩ := h.channel queued (hch queued hq)
    exact ⟨hcmd, holder _ _ hold⟩

theorem Consistent.onEvent {sys : H3System Q} (h : sys.Consistent) {e : Emitted}
    (he : e ∈ sys.worker.events) (k : UInt32) (uid : ℕ)
    (hk : (H3System.onEvent sys.sessions e).lookup k = some uid) :
    sys.worker.server.Older k.toNat uid := by
  unfold H3System.onEvent at hk
  split at hk
  · exact h.sessions k uid hk
  · next ref howner =>
    split at hk
    · next ht =>
      obtain ⟨ref', howner', hslot, hold⟩ := h.events e he ht
      rw [howner] at howner'
      obtain rfl : ref = ref' := Option.some.inj howner'
      by_cases hkey : k = UInt32.ofNat ref.slot
      · rw [hkey, AList.lookup_insert] at hk
        rw [hkey, UInt32.toNat_ofNat', Nat.mod_eq_of_lt hslot, ← Option.some.inj hk]
        exact hold
      · rw [AList.lookup_insert_ne hkey] at hk
        exact h.sessions k uid hk
    · by_cases hkey : k = UInt32.ofNat ref.slot
      · rw [hkey, AList.lookup_erase] at hk
        cases hk
      · rw [AList.lookup_erase_ne hkey] at hk
        exact h.sessions k uid hk
    · exact h.sessions k uid hk

theorem Consistent.issue {sys : H3System Q} (h : sys.Consistent) (channelOpen : Bool)
    (cmd : WorkerCommand) (reply : Option Bool) : (sys.issue channelOpen cmd reply).Consistent := by
  unfold H3System.issue
  cases hk : sys.sessions.lookup (commandConnHandle cmd) with
  | none => exact h
  | some uid =>
    dsimp only
    split_ifs with hcmd
    · exact h
    · obtain ⟨a, channel, hch, hnapi⟩ := H3Worker.napi_spec channelOpen uid cmd reply sys.worker
      rw [hnapi]
      refine ⟨h.pendingLive, h.events, h.sessions, ?_⟩
      intro queued hq
      rcases hch with rfl | rfl
      · exact h.channel queued hq
      · rcases List.mem_append.1 hq with hq | hq
        · exact h.channel queued hq
        · rw [List.mem_singleton.1 hq]
          exact ⟨hcmd, h.sessions _ _ hk⟩

variable [Quiche Q]

theorem step_consistent (i : Step) {sys : H3System Q} (h : sys.Consistent) :
    (step i sys).Consistent := by
  cases i with
  | work op =>
    exact h.collect (H3Server.apply_move op _)
      ((H3Server.apply_keepsPending op _).pendingLive h.pendingLive) fun _ hq => hq
  | dispatch now =>
    unfold step H3Worker.dispatchNext
    dsimp only
    split
    · exact h
    · next next channel hch =>
      refine h.collect (H3Server.dispatchCommand_move now next.cmd _)
        (H3Server.dispatchCommand_pendingLive now next.cmd h.pendingLive) ?_
      intro queued hq
      rw [hch]
      exact List.mem_cons_of_mem _ hq
  | deliver =>
    unfold step H3System.deliver
    dsimp only
    split
    · exact h
    · next e he =>
      exact ⟨h.pendingLive, h.events, h.onEvent (List.mem_of_getElem? he), h.channel⟩
  | issue channelOpen cmd reply => exact h.issue channelOpen cmd reply

/-- In every interleaving, the next command of the channel acts on nothing when its
slot is vacant; otherwise it acts on the connection in that slot alone, which is the
one JavaScript meant or one accepted there later. -/
theorem dispatch_acts_on_slot {handleOffset maxConnections : UInt32} {disableRetry : Bool}
    {streamReadWindow : Option ℕ} {requireClientCert : Bool} {sys : H3System Q}
    (h : Runs.Reach step (fun _ _ => True)
      (init handleOffset maxConnections disableRetry streamReadWindow requireClientCert) sys)
    {next : Queued} {rest : List Queued} (hch : sys.worker.channel = next :: rest) (now : ℕ) :
    (sys.worker.server.connMap.get (commandConnHandle next.cmd).toNat = none ∧
      H3Server.Untouched sys.worker.server (sys.worker.dispatchNext now).server) ∨
    ∃ c, sys.worker.server.connMap.get (commandConnHandle next.cmd).toNat = some c ∧
      H3Server.TouchesOnly (commandConnHandle next.cmd).toNat sys.worker.server
        (sys.worker.dispatchNext now).server ∧
      (c.uid = next.meant ∨ next.meant < c.uid) := by
  have hstart : (init handleOffset maxConnections disableRetry streamReadWindow
      requireClientCert : H3System Q).Consistent := by
    refine ⟨?_, by simp [init, H3Worker.init], ?_, by simp [init, H3Worker.init]⟩
    · rintro key (hkey | hkey) <;> cases hkey
    · intro k uid hk
      cases hk
  have hsys := h.invariant hstart fun i sys hsys _ => step_consistent i hsys
  obtain ⟨hcmd, hold⟩ := hsys.channel next (by rw [hch]; exact List.mem_cons_self)
  have hnext : (sys.worker.dispatchNext now).server =
      (sys.worker.server.startBatch.dispatchCommand now next.cmd).2.startBatch := by
    unfold H3Worker.dispatchNext
    rw [hch]
    rfl
  rw [hnext]
  cases hget : sys.worker.server.connMap.get (commandConnHandle next.cmd).toNat with
  | none =>
    have hun := H3Server.dispatchCommand_untouched now hcmd (s := sys.worker.server.startBatch)
      hsys.pendingLive hget
    exact .inl ⟨rfl, hun.connMap, hun.writes, hun.responses, hun.closes⟩
  | some c =>
    have hacts := (H3Server.dispatchCommand_spec now hcmd sys.worker.server.startBatch).1
    have hle := hold.2 c.uid (H3Server.uidAt_of_get hget)
    refine .inr ⟨c, rfl, ⟨hacts.conns, hacts.writes, hacts.responses, hacts.closes⟩, ?_⟩
    omega

/-- A client connects and JavaScript learns of it. -/
def greeted : List Step :=
  [.work (.packet false (Scripted.packet .initial [9] [0]) 0 0 [[7]]), .deliver]

/-- The client is gone and another one took its slot when JavaScript, which has not
seen the close yet, writes on stream 0. -/
def reusedSlot : List Step :=
  greeted ++ [.work (.packet false (Scripted.packet .other [9] [2]) 0 0 []),
    .work .reapClosedConnections,
    .work (.packet false (Scripted.packet .initial [8] [0]) 0 0 [[6]]),
    .issue true (.streamSend 0 0 [42] true) none]

/-- The write reaches the second client. -/
theorem dispatch_reaches_later_connection : ∃ sys : H3System Scripted, ∃ next rest,
    Runs.Reach step (fun _ _ => True) (init 0 8 true none false) sys ∧
      sys.worker.channel = next :: rest ∧ next.meant = 0 ∧
      (sys.worker.server.connMap.get 0).map (fun c => (c.uid, c.sent)) = some (1, []) ∧
      ((sys.worker.dispatchNext 0).server.connMap.get 0).map (fun c => (c.uid, c.sent)) =
        some (1, [(0, .byte 42), (0, .fin)]) :=
  ⟨Runs.run step reusedSlot (init 0 8 true none false), ⟨.streamSend 0 0 [42] true, 0⟩, [],
    Runs.Reach.start.run (by decide +kernel), by decide +kernel, rfl, by decide +kernel,
    by decide +kernel⟩

/-- A write on a session whose client is still there. -/
def writing : H3System Scripted :=
  Runs.run step (greeted ++ [.issue true (.streamSend 0 0 [42] true) none])
    (init 0 8 true none false)

theorem dispatch_acts_on_slot_writing :
    writing.worker.channel = [⟨.streamSend 0 0 [42] true, 0⟩] ∧
    (writing.worker.server.connMap.get 0 = none ∧
        H3Server.Untouched writing.worker.server (writing.worker.dispatchNext 0).server ∨
      ∃ c, writing.worker.server.connMap.get 0 = some c ∧
        H3Server.TouchesOnly 0 writing.worker.server (writing.worker.dispatchNext 0).server ∧
        (c.uid = 0 ∨ 0 < c.uid)) := by
  have hreach : Runs.Reach step (fun _ _ => True) (init 0 8 true none false) writing :=
    Runs.Reach.start.run (by decide +kernel)
  have hch : writing.worker.channel = [⟨.streamSend 0 0 [42] true, 0⟩] := by decide +kernel
  exact ⟨hch, dispatch_acts_on_slot hreach hch 0⟩

end H3System

end Http3
