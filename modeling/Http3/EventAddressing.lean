import Http3.H3Server.Sessions
import Http3.QuicServer.Worker
import Http3.Scripted

/-! Events of a sharded server carry the handle of the slot they are about, so
that what JavaScript sends back under that handle reaches the slot again. The
exceptions are the events of commands that report the handle as it came. -/

namespace Http3

/-- A command under this handle is routed to the worker `w` and lands on `slot`. -/
structure RoutesTo {Cmd : Type} (handleOf : Cmd → UInt32) (remap : Cmd → Cmd) (w : UInt32)
    (slot : ℕ) (connHandle : UInt32) : Prop where
  handle : connHandle = globalHandle (handleOffset w) slot
  worker : workerIndex connHandle = w.toNat
  slot : ∀ cmd, handleOf cmd = connHandle → (handleOf (remap cmd)).toNat = slot

theorem Located.routesTo {Cmd : Type} {handleOf : Cmd → UInt32} {remap : Cmd → Cmd}
    (hremap : ∀ cmd, handleOf (remap cmd) = localConnHandle (handleOf cmd)) {w : UInt32} {max : ℕ}
    (hw : w.toNat < 2 ^ 12) (hmax : max ≤ 2 ^ 20) {e : Emitted} {ref : ConnRef}
    (h : Located (handleOffset w) max e) (href : e.owner = some ref) :
    RoutesTo handleOf remap w ref.slot e.event.connHandle := by
  obtain ⟨hhandle, hlt⟩ := h ref href
  have hslot : ref.slot < 2 ^ 20 := lt_of_lt_of_le hlt hmax
  constructor
  · exact hhandle
  · rw [hhandle]
    exact workerIndex_globalHandle hw hslot
  · intro cmd hcmd
    rw [hremap, hcmd, hhandle]
    exact localConnHandle_globalHandle hw hslot

theorem commandConnHandle_remapCommandHandle (cmd : WorkerCommand) :
    commandConnHandle (remapCommandHandle cmd) = localConnHandle (commandConnHandle cmd) := by
  cases cmd <;> rfl

theorem QuicServerCommand.commandConnHandle_remapCommandHandle (cmd : QuicServerCommand) :
    commandConnHandle (remapCommandHandle cmd) = localConnHandle (commandConnHandle cmd) := by
  cases cmd <;> rfl

namespace H3Server

variable {Q : Type}

/-- Whatever the step from `s` to `s'` reports is located. -/
structure Locates (s s' : H3Server Q) : Prop where
  handleOffset : s'.handleOffset = s.handleOffset
  maxConnections : s'.connMap.maxConnections = s.connMap.maxConnections
  batch : Grows (Located s.handleOffset s.connMap.maxConnections) s.batch s'.batch

namespace Locates

variable {s s' s'' : H3Server Q}

theorem trans (h : Locates s s') (h' : Locates s' s'') : Locates s s'' where
  handleOffset := h'.handleOffset.trans h.handleOffset
  maxConnections := h'.maxConnections.trans h.maxConnections
  batch := by
    have hbatch := h'.batch
    rw [h.handleOffset, h.maxConnections] at hbatch
    exact h.batch.trans hbatch

end Locates

variable [Quiche Q]

theorem Goes.locates {s s' : H3Server Q} (h : Goes s s') : Locates s s' :=
  ⟨h.handleOffset, h.maxConnections, h.batch.mono fun _ he => he.1⟩

theorem Opens.locates {slot : ℕ} {s s' : H3Server Q} (h : Opens slot s s') : Locates s s' where
  handleOffset := h.handleOffset
  maxConnections := h.maxConnections
  batch := by
    obtain ⟨ip, port, hbatch⟩ := h.batch
    rw [hbatch]
    apply Grows.refl.push
    intro ref href
    cases href
    exact ⟨rfl, h.lt_max⟩

/-- The branch of a command whose event carries the handle as it came. -/
def reportsLocally (s : H3Server Q) : WorkerCommand → Bool
  | .streamClose connHandle streamId _ =>
    (s.conn? connHandle).isSome && decide (0 < s.pendingUnits (connHandle, streamId))
  | _ => false

theorem dispatchCommand_locates (now : ℕ) {cmd : WorkerCommand} {s : H3Server Q}
    (h : s.reportsLocally cmd = false ∨ s.handleOffset = 0) :
    Locates s (s.dispatchCommand now cmd).2 := by
  by_cases hshutdown : cmd = .shutdown
  · rw [hshutdown]
    exact (s.dispatchShutdown_steady (P := fun _ => True)).goes.locates
  have hacts := (dispatchCommand_spec now hshutdown s).1
  cases cmd with
  | streamClose connHandle streamId errorCode =>
    rcases h with hsilent | hoffset
    · refine (dispatchStreamClose_serves errorCode fun c hc hunits => ?_).toActsOn.goes.locates
      simp [reportsLocally, hc, hunits] at hsilent
    · have hglobal : ActsOn connHandle.toNat (globalHandle s.handleOffset connHandle.toNat) s
          (s.dispatchStreamClose connHandle streamId errorCode) := by
        rw [globalHandle_toNat, hoffset, UInt32.zero_or]
        exact hacts
      exact hglobal.goes.locates
  | shutdown => exact absurd rfl hshutdown
  | _ =>
    unfold reportHandle at hacts
    dsimp only at hacts
    rw [← globalHandle_toNat] at hacts
    exact hacts.goes.locates

theorem apply_locates (op : ServerOp) (s : H3Server Q) : Locates s (op.apply s) := by
  rcases apply_goes op s with hgoes | ⟨slot, s₁, -, hopens, hgoes⟩
  · exact hgoes.locates
  · exact hopens.locates.trans hgoes.locates

end H3Server

section Runs

variable {Q : Type} [Quiche Q]

/-- The step dispatches no command that reports the handle as it came. -/
def H3Worker.Global : H3Worker.Step → H3Worker Q → Prop
  | .dispatch _, w => ∀ next ∈ w.channel.head?, w.server.reportsLocally next.cmd = false
  | _, _ => True

/-- The worker keeps its offset and its limit, and everything it reported is located. -/
structure H3Worker.Addresses (offset : UInt32) (max : ℕ) (w : H3Worker Q) : Prop where
  handleOffset : w.server.handleOffset = offset
  maxConnections : w.server.connMap.maxConnections = max
  events : ∀ e ∈ w.events, Located offset max e

omit [Quiche Q] in
theorem H3Worker.Addresses.collect {offset : UInt32} {max : ℕ} {w : H3Worker Q}
    (h : w.Addresses offset max) {f : H3Server Q → H3Server Q}
    (hf : H3Server.Locates w.server.startBatch (f w.server.startBatch)) :
    (w.collect f).Addresses offset max := by
  have hbatch : ∀ e ∈ (f w.server.startBatch).batch, Located offset max e := by
    rw [← h.handleOffset, ← h.maxConnections]
    refine hf.batch.forall_mem (fun _ he => he) (fun e d he => he) ?_
    intro e he
    cases he
  refine ⟨hf.handleOffset.trans h.handleOffset, hf.maxConnections.trans h.maxConnections, ?_⟩
  intro e he
  rcases List.mem_append.1 he with hold | hnew
  · exact h.events e hold
  · exact hbatch e hnew

theorem H3Worker.Addresses.step {offset : UInt32} {max : ℕ} {w : H3Worker Q}
    (h : w.Addresses offset max) {i : H3Worker.Step} (hok : offset = 0 ∨ H3Worker.Global i w) :
    (H3Worker.step i w).Addresses offset max := by
  cases i with
  | call channelOpen meant cmd reply =>
    obtain ⟨a, channel, -, hcall⟩ := H3Worker.napi_spec channelOpen meant cmd reply w
    show H3Worker.Addresses offset max (w.napi channelOpen meant cmd reply).2
    rw [hcall]
    exact ⟨h.handleOffset, h.maxConnections, h.events⟩
  | work op => exact h.collect (H3Server.apply_locates op _)
  | dispatch now =>
    show H3Worker.Addresses offset max (w.dispatchNext now)
    unfold H3Worker.dispatchNext
    cases hchannel : w.channel with
    | nil => exact h
    | cons next channel =>
      have hrest : H3Worker.Addresses offset max { w with
          channel := channel
          answered := H3Worker.answers w.server next.cmd ++ w.answered } :=
        ⟨h.handleOffset, h.maxConnections, h.events⟩
      apply hrest.collect
      apply H3Server.dispatchCommand_locates
      rcases hok with hoffset | hglobal
      · exact .inr (h.handleOffset.trans hoffset)
      · exact .inl (hglobal next (by rw [hchannel]; rfl))

structure QuicWorker.Addresses (offset : UInt32) (max : ℕ) (w : QuicWorker Q) : Prop where
  handleOffset : w.server.handleOffset = offset
  maxConnections : w.server.connMap.maxConnections = max
  events : ∀ e ∈ w.events, Located offset max e

omit [Quiche Q] in
theorem QuicWorker.Addresses.move {offset : UInt32} {max : ℕ} {past : List Emitted}
    {s s' : QuicServer Q} (hmove : QuicServer.Move (offset = 0) False s s')
    (h : QuicWorker.Addresses offset max ⟨s, past ++ s.batch⟩) :
    QuicWorker.Addresses offset max ⟨s', past ++ s'.batch⟩ := by
  have hlive : ∀ {slot : ℕ} {c : QuicConnection Q}, s.connMap.get slot = some c → slot < max := by
    intro slot c hc
    rw [← h.maxConnections]
    exact s.connMap.lt_maxConnections (by simp [hc])
  have hfixed := hmove.fixed
  have hadded : Appends (Located offset max) s.batch s'.batch := by
    cases hmove with
    | keep _ _ hbatch =>
      apply hbatch.mono
      rintro e rfl ref href
      cases href
    | accept slot c _ _ hconns ip port hbatch =>
      rw [hbatch]
      apply (Appends.refl _).pushFor
      intro ref href
      cases href
      refine ⟨by rw [← h.handleOffset]; rfl, ?_⟩
      rw [← h.maxConnections, ← hfixed.maxConnections]
      exact s'.connMap.lt_maxConnections (by simp [hconns])
    | handshake slot c d _ hc _ _ presented chain _ hbatch =>
      rw [hbatch]
      apply (Appends.refl _).pushFor
      intro ref href
      cases href
      exact ⟨by rw [← h.handleOffset]; rfl, hlive hc⟩
    | act slot c d _ hc _ _ _ hbatch =>
      apply hbatch.mono
      rintro e ⟨⟨howner, hhandle, -⟩, -⟩ ref href
      rw [howner] at href
      cases href
      exact ⟨by rw [← h.handleOffset]; exact hhandle, hlive hc⟩
    | report ref event _ _ hlt _ hhandle hbatch =>
      rw [hbatch]
      apply (Appends.refl _).pushFor
      intro ref' href
      cases href
      refine ⟨?_, by rw [← h.maxConnections]; exact hlt⟩
      rcases hhandle with hglobal | ⟨hoffset, hlocal⟩
      · rw [← h.handleOffset]
        exact hglobal
      · rw [hoffset, globalHandle, UInt32.zero_or]
        exact hlocal
  obtain ⟨added, hbatch, hlocated⟩ := hadded
  refine ⟨hfixed.handleOffset.trans h.handleOffset,
    hfixed.maxConnections.trans h.maxConnections, ?_⟩
  intro e he
  dsimp only at he
  rw [hbatch, ← List.append_assoc] at he
  rcases List.mem_append.1 he with hold | hnew
  · exact h.events e hold
  · exact hlocated e hnew

/-- Every event about a connection carries the handle under which a command comes
back to its slot on its worker: on both servers, in every run that dispatches no
command reporting a local handle, or on the first worker. -/
theorem events_route_back {w maxConnections : UInt32} (hw : w.toNat < 2 ^ 12)
    (hmax : maxConnections.toNat ≤ 2 ^ 20) (disableRetry requireClientCert : Bool)
    (streamReadWindow : Option ℕ) :
    (∀ W : H3Worker Q, Runs.Reach H3Worker.step (fun i W => w = 0 ∨ H3Worker.Global i W)
        (.init (handleOffset w) maxConnections disableRetry streamReadWindow requireClientCert) W →
      ∀ e ∈ W.events, ∀ ref, e.owner = some ref →
        RoutesTo commandConnHandle remapCommandHandle w ref.slot e.event.connHandle) ∧
    (∀ W : QuicWorker Q, Runs.Reach QuicWorker.step (fun op W => w = 0 ∨ op.Global W.server)
        (.init (handleOffset w) maxConnections disableRetry requireClientCert) W →
      ∀ e ∈ W.events, ∀ ref, e.owner = some ref →
        RoutesTo QuicServerCommand.commandConnHandle QuicServerCommand.remapCommandHandle w
          ref.slot e.event.connHandle) := by
  have hoffset : w = 0 → handleOffset w = 0 := by
    rintro rfl
    rfl
  constructor
  · intro W hreach e he ref href
    have hinit : (H3Worker.init (handleOffset w) maxConnections disableRetry streamReadWindow
        requireClientCert : H3Worker Q).Addresses (handleOffset w) maxConnections.toNat :=
      ⟨rfl, rfl, by intro e he; cases he⟩
    have haddresses : W.Addresses (handleOffset w) maxConnections.toNat := by
      apply hreach.invariant hinit
      intro i W hW hok
      exact hW.step (hok.imp hoffset id)
    exact (haddresses.events e he).routesTo commandConnHandle_remapCommandHandle hw hmax href
  · intro W hreach e he ref href
    have hinit : (QuicWorker.init (handleOffset w) maxConnections disableRetry
        requireClientCert : QuicWorker Q).Addresses (handleOffset w) maxConnections.toNat :=
      ⟨rfl, rfl, by intro e he; cases he⟩
    have hmove : ∀ past (s s' : QuicServer Q), QuicServer.Move (handleOffset w = 0) False s s' →
        QuicWorker.Addresses (handleOffset w) maxConnections.toNat ⟨s, past ++ s.batch⟩ →
          QuicWorker.Addresses (handleOffset w) maxConnections.toNat ⟨s', past ++ s'.batch⟩ :=
      fun _ _ _ => QuicWorker.Addresses.move
    have haddresses : W.Addresses (handleOffset w) maxConnections.toNat := by
      refine QuicWorker.reach_invariant hmove ?_ ?_ hinit rfl hreach
      · intro s events hs
        exact ⟨hs.handleOffset, hs.maxConnections, hs.events⟩
      · intro op W _ hok
        exact ⟨(hok.imp hoffset id).symm, False.elim⟩
    exact (haddresses.events e he).routesTo
      QuicServerCommand.commandConnHandle_remapCommandHandle hw hmax href

/-- A client of the second worker whose flow control closes right after the handshake. -/
def blockedFlight : List Packet :=
  [Scripted.packet .initial [7] [0], Scripted.packet .other [7] [4, 0]]

/-- On the second worker a blocked raw QUIC send is reported under handle 0, and so
is the reset of an abandoned HTTP/3 body: both name slot 0 of the first worker. -/
theorem events_name_first_worker :
    (∃ e ∈ (Runs.run QuicWorker.step
        (blockedFlight.map (.packet false · 0 0 [[7]]) ++ [.command 0 (.streamSend 0 0 [1] false)])
        (.init (handleOffset 1) 4 true false : QuicWorker Scripted)).events,
      e = ⟨some ⟨0, 0⟩, .streamBlocked 0 0⟩) ∧
    (∃ e ∈ (Runs.run H3Worker.step
        (blockedFlight.map (fun p => .work (.packet false p 0 0 [[7]])) ++
          [.call true 0 (.streamSend 0 0 [1] false) none, .dispatch 0,
            .call true 0 (.streamClose 0 0 9) none, .dispatch 0])
        (.init (handleOffset 1) 4 true none false : H3Worker Scripted)).events,
      e = ⟨some ⟨0, 0⟩, .reset 0 0 9⟩) ∧
    workerIndex 0 = 0 ∧ workerIndex (globalHandle (handleOffset 1) 0) = 1 := by
  decide +kernel

instance (i : H3Worker.Step) (w : H3Worker Q) : Decidable (H3Worker.Global i w) :=
  match i with
  | .dispatch _ => inferInstanceAs (Decidable (∀ next ∈ w.channel.head?, _))
  | .call .. | .work _ => .isTrue trivial

/-- A body is abandoned when its connection closes. -/
def abandonedH3 : H3Worker Scripted :=
  Runs.run H3Worker.step
    (blockedFlight.map (fun p => .work (.packet false p 0 0 [[7]])) ++
      [.call true 0 (.streamSend 0 0 [1] false) none, .dispatch 0,
        .work (.packet false (Scripted.packet .other [7] [2]) 0 0 []),
        .work .reapClosedConnections])
    (.init (handleOffset 1) 4 true none false)

/-- A connection closes after its send went through. -/
def closedQuic : QuicWorker Scripted :=
  Runs.run QuicWorker.step
    [.packet false (Scripted.packet .initial [7] [0]) 0 0 [[7]],
      .command 0 (.streamSend 0 0 [1] false),
      .packet false (Scripted.packet .other [7] [2]) 0 0 [], .reapClosedConnections]
    (.init (handleOffset 1) 4 true false)

theorem events_route_back_second_worker :
    (⟨some ⟨0, 0⟩, .reset 0x100000 0 0⟩ ∈ abandonedH3.events ∧
      RoutesTo commandConnHandle remapCommandHandle 1 0 0x100000) ∧
    (⟨some ⟨0, 0⟩, .sessionClose 0x100000⟩ ∈ closedQuic.events ∧
      RoutesTo QuicServerCommand.commandConnHandle QuicServerCommand.remapCommandHandle 1 0
        0x100000) := by
  have hh3 : ⟨some ⟨0, 0⟩, .reset 0x100000 0 0⟩ ∈ abandonedH3.events := by decide +kernel
  have hquic : ⟨some ⟨0, 0⟩, .sessionClose 0x100000⟩ ∈ closedQuic.events := by decide +kernel
  obtain ⟨h3, quic⟩ := events_route_back (Q := Scripted) (w := 1) (by decide)
    (show (4 : UInt32).toNat ≤ 2 ^ 20 by decide) true false none
  constructor
  · refine ⟨hh3, h3 abandonedH3 ?_ _ hh3 ⟨0, 0⟩ rfl⟩
    exact Runs.Reach.start.run (by decide +kernel)
  · refine ⟨hquic, quic closedQuic ?_ _ hquic ⟨0, 0⟩ rfl⟩
    exact Runs.Reach.start.run (by decide +kernel)

end Runs

end Http3
