import Http3.ServerStream
import Http3.Scripted

/-! Responding with headers and body in one call. The native worker may refuse
the command, and the refusal is an answer the stream does not look at. -/

namespace Http3

namespace H3Worker

variable {Q : Type}

theorem admitAndSend_cases (channelOpen : Bool) (cmd : Queued) (payloadLen : ℕ) (fin : Bool)
    (w : H3Worker Q) :
    (channelOpen = true ∧
        (w.server.outboundAdmission.tryAdmit (outboundPayloadUnits payloadLen fin)).1 = true) ∧
        (w.admitAndSend channelOpen cmd payloadLen fin).1 = true ∧
        (w.admitAndSend channelOpen cmd payloadLen fin).2.channel = w.channel ++ [cmd] ∨
      ¬ (channelOpen = true ∧
        (w.server.outboundAdmission.tryAdmit (outboundPayloadUnits payloadLen fin)).1 = true) ∧
        (w.admitAndSend channelOpen cmd payloadLen fin).1 = false ∧
        (w.admitAndSend channelOpen cmd payloadLen fin).2.channel = w.channel := by
  unfold admitAndSend tryAdmitOutbound sendCommand
  generalize w.server.outboundAdmission.tryAdmit (outboundPayloadUnits payloadLen fin) = r
  obtain ⟨admitted, admission⟩ := r
  cases admitted with
  | false => right; simp
  | true =>
    cases channelOpen with
    | false => right; simp [releaseOutboundAdmission]
    | true => left; simp

end H3Worker

namespace WorkerEventLoop

variable {Q : Type}

def channel (loop : WorkerEventLoop Q) : List Queued := loop.worker.elim [] H3Worker.channel

/-- There is a worker that receives commands, and its window admits the payload. -/
def Admits (payloadLen : ℕ) (fin : Bool) (loop : WorkerEventLoop Q) : Prop :=
  loop.channelOpen = true ∧ ∃ w ∈ loop.worker,
    (w.server.outboundAdmission.tryAdmit (outboundPayloadUnits payloadLen fin)).1 = true

theorem channel_sendResponse (ref : StreamRef) (headers : Headers) (body : Bytes) (fin : Bool)
    (loop : WorkerEventLoop Q) :
    loop.Admits body.length fin ∧
        (ServerEventLoopLike.sendResponse ref headers body fin loop).2.channel =
          loop.channel ++ [⟨remapCommandHandle
            (.sendResponse ref.connHandle ref.streamId headers body fin), ref.meant⟩] ∨
      ¬ loop.Admits body.length fin ∧
        (ServerEventLoopLike.sendResponse ref headers body fin loop).2.channel = loop.channel := by
  obtain ⟨worker, channelOpen⟩ := loop
  cases worker with
  | none =>
    right
    constructor
    · rintro ⟨-, w, hw, -⟩
      cases hw
    · rfl
  | some w =>
    have hadmits : (⟨some w, channelOpen⟩ : WorkerEventLoop Q).Admits body.length fin ↔
        channelOpen = true ∧ (w.server.outboundAdmission.tryAdmit
          (outboundPayloadUnits body.length fin)).1 = true := by
      simp [Admits]
    rw [hadmits]
    obtain ⟨h, -, hchannel⟩ | ⟨h, -, hchannel⟩ := w.admitAndSend_cases channelOpen
      ⟨remapCommandHandle (.sendResponse ref.connHandle ref.streamId headers body fin), ref.meant⟩
      body.length fin
    · exact .inl ⟨h, hchannel⟩
    · exact .inr ⟨h, hchannel⟩

end WorkerEventLoop

namespace ServerHttp3Stream

section

variable {L : Type} [ServerEventLoopLike L]

/-- What one call adds to the attempts still to be made. -/
def Registers (s s' : ServerHttp3Stream L) : Prop :=
  s.drainCallbacks.length < s'.drainCallbacks.length ∨
    s.boundedWrite = none ∧ s'.boundedWrite ≠ none ∨ s.finalChunk = none ∧ s'.finalChunk ≠ none

instance (s s' : ServerHttp3Stream L) : Decidable (s.Registers s') :=
  inferInstanceAs (Decidable (_ ∨ _ ∧ _ ∨ _ ∧ _))

/-- The loop, the attempts still to be made and the fate of the stream are the same. -/
structure SameBelow (s s' : ServerHttp3Stream L) : Prop where
  eventLoop : s'.eventLoop = s.eventLoop
  destroyed : s'.destroyed = s.destroyed
  drainCallbacks : s'.drainCallbacks = s.drainCallbacks
  boundedWrite : s'.boundedWrite = s.boundedWrite
  finalChunk : s'.finalChunk = s.finalChunk

theorem final_of_finSent {s : ServerHttp3Stream L} (h : s.finSent = true) :
    s.final = (.now, s) ∨
      s.final = (.later, { s with
        finSent := true, trailerCallback := true, trailerContinuation := true }) := by
  unfold final
  by_cases hqueued : s.queuedWasmTrailers.isSome
  · right
    rw [if_pos hqueued]
  · left
    rw [if_neg hqueued, if_pos (by rw [h, Bool.true_or])]

theorem finishMaybe_of_finSent {s : ServerHttp3Stream L} (h : s.finSent = true) :
    SameBelow s s.finishMaybe := by
  unfold finishMaybe
  split_ifs
  · obtain hfinal | hfinal :=
      final_of_finSent (s := { s with finalCalled := true }.record (.called true)) h
    · rw [hfinal]
      exact ⟨rfl, rfl, rfl, rfl, rfl⟩
    · rw [hfinal]
      exact ⟨rfl, rfl, rfl, rfl, rfl⟩
  · exact ⟨rfl, rfl, rfl, rfl, rfl⟩

theorem endWith_none_of_finSent {s : ServerHttp3Stream L} (h : s.finSent = true) :
    SameBelow s (s.endWith none) := by
  unfold endWith
  dsimp only [Option.none_or]
  split_ifs
  · exact ⟨rfl, rfl, rfl, rfl, rfl⟩
  · have hsame := finishMaybe_of_finSent (s := { s with ending := true }) h
    exact ⟨hsame.eventLoop, hsame.destroyed, hsame.drainCallbacks, hsame.boundedWrite,
      hsame.finalChunk⟩

omit [ServerEventLoopLike L] in
theorem SameBelow.not_registers {s s' : ServerHttp3Stream L} (h : SameBelow s s') :
    ¬ s.Registers s' := by
  unfold Registers
  rw [h.drainCallbacks, h.boundedWrite, h.finalChunk]
  rintro (hlt | ⟨hnone, hsome⟩ | ⟨hnone, hsome⟩)
  · exact lt_irrefl _ hlt
  · exact hsome hnone
  · exact hsome hnone

end

variable {Q : Type}

/-- The response is enqueued, is to be tried again, or the stream is destroyed. -/
def Settled (headers : IncomingHeaders) (body : Bytes)
    (s s' : ServerHttp3Stream (WorkerEventLoop Q)) : Prop :=
  s'.destroyed = true ∨ s.Registers s' ∨
    s'.eventLoop.channel = s.eventLoop.channel ++ [⟨remapCommandHandle
      (.sendResponse s.ref.connHandle s.ref.streamId (responseHeaders headers) body true),
        s.ref.meant⟩]

instance (headers : IncomingHeaders) (body : Bytes)
    (s s' : ServerHttp3Stream (WorkerEventLoop Q)) : Decidable (s.Settled headers body s') :=
  inferInstanceAs (Decidable (_ ∨ _ ∨ _))

def loopAfter (headers : IncomingHeaders) (body : Bytes)
    (s : ServerHttp3Stream (WorkerEventLoop Q)) : WorkerEventLoop Q :=
  if s.connected then (ServerEventLoopLike.sendResponse s.ref (responseHeaders headers) body true
    s.eventLoop).2 else s.eventLoop

theorem respondWithBody_sameBelow {s : ServerHttp3Stream (WorkerEventLoop Q)}
    (h : s.headersSent = false) (headers : IncomingHeaders) (body : Bytes) :
    SameBelow { s with eventLoop := s.loopAfter headers body }
      (s.respondWithBody headers body) := by
  have hlimit : s.sliceLimit body.length = none := by
    unfold sliceLimit
    split_ifs <;> rfl
  have heq : s.respondWithBody headers body =
      { s with
        headersSent := true
        finSent := true
        eventLoop := s.loopAfter headers body }.endWith none := by
    unfold respondWithBody onLoop loopAfter
    rw [h, hlimit]
    cases s.connected <;> rfl
  rw [heq]
  have hsame := endWith_none_of_finSent (s := { s with
    headersSent := true
    finSent := true
    eventLoop := s.loopAfter headers body }) rfl
  exact ⟨hsame.eventLoop, hsame.destroyed, hsame.drainCallbacks, hsame.boundedWrite,
    hsame.finalChunk⟩

/-- The response is not lost exactly when the stream is destroyed already, or is
connected to a worker that receives commands and whose window admits the body. -/
theorem respondWithBody_settled_iff (s : ServerHttp3Stream (WorkerEventLoop Q))
    (hfresh : s.headersSent = false) (headers : IncomingHeaders) (body : Bytes) :
    s.Settled headers body (s.respondWithBody headers body) ↔
      s.destroyed = true ∨ s.connected = true ∧ s.eventLoop.Admits body.length true := by
  have hsame := respondWithBody_sameBelow hfresh headers body
  -- ending the writable registers no attempt
  have hregisters : ¬ s.Registers (s.respondWithBody headers body) := hsame.not_registers
  unfold Settled
  rw [hsame.destroyed, hsame.eventLoop, or_iff_right hregisters]
  apply or_congr Iff.rfl
  show (s.loopAfter headers body).channel = _ ↔ _
  unfold loopAfter
  cases s.connected with
  | false => simp
  | true =>
    obtain ⟨hadmits, hchannel⟩ | ⟨hrefuses, hchannel⟩ := WorkerEventLoop.channel_sendResponse s.ref
      (responseHeaders headers) body true s.eventLoop
    · simp [hchannel, hadmits]
    · simp [hchannel, hrefuses]

/-- A stream of the first connection, on a worker that has `queued` units admitted. -/
def responding (queued : ℕ) : ServerHttp3Stream (WorkerEventLoop Scripted) :=
  let w : H3Worker Scripted := .init 0 10 true none false
  let admission : OutboundAdmission := { OutboundAdmission.default with queued }
  .new ⟨0, 0, 4⟩ ⟨some { w with server := { w.server with outboundAdmission := admission } }, true⟩
    16384

/-- A full window: the response is nowhere, and the stream takes itself for finished. -/
theorem respondWithBody_lost :
    (responding outboundAdmissionHighWater).headersSent = false ∧
      ¬ (responding outboundAdmissionHighWater).Settled [] [120]
        ((responding outboundAdmissionHighWater).respondWithBody [] [120]) ∧
      ((responding outboundAdmissionHighWater).respondWithBody [] [120]).finSent = true ∧
      ((responding outboundAdmissionHighWater).respondWithBody []
        [120]).writableFinished = true := by
  decide +kernel

theorem respondWithBody_settled_iff_responding :
    (responding 0).headersSent = false ∧
      (responding 0).Settled [("x", .one "y")] [120]
        ((responding 0).respondWithBody [("x", .one "y")] [120]) := by
  refine ⟨rfl, (respondWithBody_settled_iff (responding 0) rfl [("x", .one "y")] [120]).2 ?_⟩
  right
  exact ⟨rfl, rfl, _, rfl, by decide⟩

end ServerHttp3Stream

end Http3
