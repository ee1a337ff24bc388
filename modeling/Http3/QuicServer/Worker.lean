import Http3.EventLoop
import Http3.QuicServer.Moves
import Http3.Lib.Runs

/-! Runs of a raw QUIC server worker: any order of commands, packets, timers,
polls, flushes and reaps, with everything it reported. -/

namespace Http3

/-- What the event loop asks of the server. -/
inductive QuicServerOp
  | command (now : ℕ) (cmd : QuicServerCommand)
  | packet (direct : Bool) (p : Packet) (budget now : ℕ) (scids : List Bytes)
  | expireTimers (now budget : ℕ)
  | collectAppEvents (budget now : ℕ)
  | collectDrainEvents (budget : ℕ)
  | flushAllPendingWrites
  | flushAllSends (rounds now : ℕ)
  | reapClosedConnections
  | emitSessionCloseForAllActive
  deriving DecidableEq

namespace QuicServerOp

variable {Q : Type} [Quiche Q]

def apply : QuicServerOp → QuicServer Q → QuicServer Q
  | .command now cmd => fun s => (s.dispatchCommand now cmd).2
  | .packet direct p budget now scids => QuicServer.packetArrives direct p budget now scids
  | .expireTimers now budget => QuicServer.expireTimers now budget
  | .collectAppEvents budget now => QuicServer.collectAppEvents budget now
  | .collectDrainEvents budget => QuicServer.collectDrainEvents budget
  | .flushAllPendingWrites => QuicServer.flushAllPendingWrites
  | .flushAllSends rounds now => fun s => (s.flushAllSends rounds now).2
  | .reapClosedConnections => QuicServer.reapClosedConnections
  | .emitSessionCloseForAllActive => QuicServer.emitSessionCloseForAllActive

/-- The command, if it is one, keeps out of the branches that report local handles. -/
def Global (op : QuicServerOp) (s : QuicServer Q) : Prop :=
  ∀ now cmd, op = .command now cmd → s.reportsLocally cmd = false

/-- Whatever connection the step polls with a budget for application events, either
it has completed its handshake or there is nothing to read from it. -/
def Gated : QuicServerOp → QuicServer Q → Prop
  | .packet _ p budget now scids, s => s.GatedPacket p budget now scids
  | .expireTimers now budget, s => ∀ handle ∈ (s.popTimers now).lastExpired,
      ∀ c ∈ s.connMap.get handle, c.onTimeout.isClosed = false → c.onTimeout.Unread budget
  | .collectAppEvents budget _, s => ∀ handle ∈ s.connMap.handles, ∀ c ∈ s.connMap.get handle,
      c.Unread budget
  | _, _ => True

instance (op : QuicServerOp) (s : QuicServer Q) : Decidable (op.Global s) :=
  match op with
  | .command _ cmd => decidable_of_iff (s.reportsLocally cmd = false)
      ⟨fun h _ _ heq => by cases heq; exact h, fun h => h _ _ rfl⟩
  | .packet .. | .expireTimers .. | .collectAppEvents .. | .collectDrainEvents _
  | .flushAllPendingWrites | .flushAllSends .. | .reapClosedConnections
  | .emitSessionCloseForAllActive => .isTrue fun _ _ heq => by cases heq

instance (op : QuicServerOp) (s : QuicServer Q) : Decidable (op.Gated s) :=
  match op with
  | .packet _ p budget now scids =>
    inferInstanceAs (Decidable (∀ hdr ∈ p.header, ∀ handle ∈ (s.routeOrAccept hdr p now scids).1,
      ∀ c ∈ (s.routeOrAccept hdr p now scids).2.connMap.get handle, (c.recv p).1 = true →
        (c.recv p).2.Certified ∨ (c.recv p).2.rejectUncertified.Unread budget))
  | .expireTimers now budget => inferInstanceAs (Decidable
      (∀ handle ∈ (s.popTimers now).lastExpired, ∀ c ∈ s.connMap.get handle,
        c.onTimeout.isClosed = false → c.onTimeout.Unread budget))
  | .collectAppEvents budget _ => inferInstanceAs (Decidable
      (∀ handle ∈ s.connMap.handles, ∀ c ∈ s.connMap.get handle, c.Unread budget))
  | .command .. | .collectDrainEvents _ | .flushAllPendingWrites | .flushAllSends ..
  | .reapClosedConnections | .emitSessionCloseForAllActive => .isTrue trivial

theorem apply_moves {locals gated : Prop} (op : QuicServerOp) {s : QuicServer Q}
    (hlocals : op.Global s ∨ locals) (hgated : gated → s.requireClientCert = true ∧ op.Gated s) :
    QuicServer.Moves locals gated s (op.apply s) := by
  let t : QuicServer.Terms := ⟨locals, gated, fun _ _ => True, fun _ => True, fun _ => True⟩
  cases op with
  | command now cmd =>
    refine (QuicServer.dispatchCommand_steps now (t := t) ?_).moves
    intro hreports
    refine hlocals.resolve_left fun hglobal => ?_
    exact absurd (hreports.symm.trans (hglobal now cmd rfl)) (by decide)
  | packet direct p budget now scids =>
    exact (QuicServer.packetArrives_steps direct (t := t) hgated
      fun _ _ => ⟨fun _ _ => trivial, fun _ _ => trivial⟩).moves
  | expireTimers now budget =>
    exact (QuicServer.expireTimers_steps (t := t) fun hg => (hgated hg).2).moves
  | collectAppEvents budget now =>
    exact (QuicServer.collectAppEvents_steps (t := t) fun hg => (hgated hg).2).moves
  | collectDrainEvents budget =>
    exact (QuicServer.Steps.foldl (t := t) (QuicServer.drainConn_steps budget) _ s).moves
  | flushAllPendingWrites => exact (s.flushAllPendingWrites_steps (t := t)).moves
  | flushAllSends rounds now => exact (QuicServer.flushAllSends_steps (t := t) rounds now s).moves
  | reapClosedConnections => exact s.reapClosedConnections_moves
  | emitSessionCloseForAllActive =>
    exact (QuicServer.Steps.foldl (t := t) QuicServer.emitSessionCloseFor_steps _ s).moves

end QuicServerOp

/-- A worker with everything it has reported so far. -/
structure QuicWorker (Q : Type) where
  server : QuicServer Q
  events : List Emitted

namespace QuicWorker

variable {Q : Type}

def startBatch (s : QuicServer Q) : QuicServer Q := { s with batch := [] }

def init (handleOffset maxConnections : UInt32) (disableRetry requireClientCert : Bool) :
    QuicWorker Q :=
  ⟨.init handleOffset maxConnections disableRetry requireClientCert, []⟩

variable [Quiche Q]

def step (op : QuicServerOp) (w : QuicWorker Q) : QuicWorker Q :=
  let s := op.apply w.server
  ⟨startBatch s, w.events ++ s.batch⟩

theorem reach_invariant {locals gated : Prop} {ok : QuicServerOp → QuicWorker Q → Prop}
    {w₀ w : QuicWorker Q} {Inv : QuicWorker Q → Prop}
    (hmove : ∀ past s s', QuicServer.Move locals gated s s' → Inv ⟨s, past ++ s.batch⟩ →
      Inv ⟨s', past ++ s'.batch⟩)
    (hbatch : ∀ s events, Inv ⟨s, events⟩ → Inv ⟨startBatch s, events⟩)
    (hok : ∀ op w, Inv w → ok op w → (op.Global w.server ∨ locals) ∧
      (gated → w.server.requireClientCert = true ∧ op.Gated w.server))
    (hw₀ : Inv w₀) (hempty : w₀.server.batch = []) (h : Runs.Reach step ok w₀ w) : Inv w := by
  have hboth : Inv w ∧ w.server.batch = [] := by
    induction h with
    | start => exact ⟨hw₀, hempty⟩
    | @next w op _ hstep ih =>
      obtain ⟨hinv, hempty⟩ := ih
      obtain ⟨hlocals, hgated⟩ := hok op w hinv hstep
      have hrun : ∀ s, QuicServer.Moves locals gated w.server s →
          Inv ⟨s, w.events ++ s.batch⟩ := by
        intro s hmoves
        induction hmoves with
        | refl =>
          rw [hempty, List.append_nil]
          exact hinv
        | tail _ hone ih => exact hmove w.events _ _ hone ih
      exact ⟨hbatch _ _ (hrun _ (op.apply_moves hlocals hgated)), rfl⟩
  exact hboth.1

end QuicWorker

namespace QuicServer

variable {Q : Type} [Quiche Q]

/-- Run a call on an empty batch and take what it reports. -/
def reported (op : QuicServerOp) (s : QuicServer Q) : List Emitted × QuicServer Q :=
  let s := op.apply (QuicWorker.startBatch s)
  (s.batch, QuicWorker.startBatch s)

instance : ProtocolHandler (QuicServer Q) QuicServerCommand where
  dispatchCommand now cmd s :=
    (((QuicWorker.startBatch s).dispatchCommand now cmd).1, s.reported (.command now cmd))
  processPacket p budget now scids := reported (.packet false p budget now scids)
  processTimers now budget := reported (.expireTimers now budget)
  pollAppEvents budget now := reported (.collectAppEvents budget now)
  flushSends rounds now s := s.flushAllSends rounds now
  flushPendingWrites := reported .flushAllPendingWrites
  pollDrainEvents budget := reported (.collectDrainEvents budget)
  cleanupClosed := reported .reapClosedConnections
  emitSessionCloseForAllActive := reported .emitSessionCloseForAllActive
  isDone _ := false

end QuicServer

end Http3
