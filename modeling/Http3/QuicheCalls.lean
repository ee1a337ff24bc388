import Http3.H3ConnectionSpec
import Http3.QuicConnectionSpec

/-! Which calls the client connections make on the transport besides feeding it a packet,
its timer or a close and besides bringing up HTTP/3. -/

namespace Http3

variable {Q : Type} [Quiche Q]

namespace Quiche

/-- A connection is closed by a packet, by its timer or on request, and not by being read
from or written to; a new one is not closed. -/
structure ClosesOnInput (Q : Type) [Quiche Q] : Prop where
  connect {serverName : String} {scid : Bytes} {localAddr serverAddr : SocketAddr} {q : Q} :
    connect serverName scid localAddr serverAddr = .ok q → isClosed q = false
  call {q q' : Q} : Call q q' → isClosed q' = true → isClosed q = true

theorem ClosesOnInput.calls (h : ClosesOnInput Q) {q q' : Q} (hcalls : Calls q q')
    (hclosed : isClosed q' = true) : isClosed q = true := by
  induction hcalls with
  | refl => exact hclosed
  | tail _ hcall ih => exact ih (h.call hcall hclosed)

theorem ClosesOnInput.connected (h : ClosesOnInput Q) {serverName : String} {scid : Bytes}
    {localAddr serverAddr : SocketAddr} {q : Q}
    (hq : Quiche.connect serverName scid localAddr serverAddr = .ok q) (ticket : Option Bytes) :
    isClosed (ticket.elim q (setSession q)) = false := by
  have hopen := h.connect hq
  cases ticket with
  | none => exact hopen
  | some ticket =>
    rw [Bool.eq_false_iff]
    intro hclosed
    rw [h.call (.setSession q ticket) hclosed] at hopen
    cases hopen

end Quiche

open Quiche in
theorem Polled.calls {q q' : Q} (h : Polled q q') : Calls q q' := by
  induction h with
  | refl => exact .refl q
  | h3Poll _ ih => exact ih.trans (Call.h3Poll _).calls
  | h3RecvBody streamId len _ ih => exact ih.trans (Call.h3RecvBody _ streamId len).calls
  | dgramRecv _ ih => exact ih.trans (Call.dgramRecv _).calls
  | streamWritableNext _ ih => exact ih.trans (Call.streamWritableNext _).calls

namespace H3Connection

open Quiche

/-- Calls on its transport that are not input lead from one to the other. -/
def Acts (c c' : H3Connection Q) : Prop := Calls c.quicheConn c'.quicheConn

theorem PolledConn.acts {c c' : H3Connection Q} (h : PolledConn c c') : Acts c c' := h.quiche.calls

variable (c : H3Connection Q)

theorem addReadCredit_acts (streamId bytes : ℕ) : Acts c (c.addReadCredit streamId bytes) := by
  unfold addReadCredit
  split <;> exact .refl _

theorem sendRequest_acts (headers : Headers) (fin : Bool) :
    Acts c (c.sendRequest headers fin).2 := by
  have hcall := Call.h3SendRequest c.quicheConn headers fin
  unfold sendRequest
  split_ifs
  · generalize Quiche.h3SendRequest c.quicheConn headers fin = r at hcall ⊢
    obtain ⟨e | streamId, q⟩ := r
    · cases e <;> exact hcall.calls
    · exact hcall.calls
  · exact .refl _

theorem sendBodyArcbuf_acts (streamId : ℕ) (buf : Bytes) (fin : Bool) :
    Acts c (c.sendBodyArcbuf streamId buf fin).2 := by
  have hcall := Call.h3SendBody c.quicheConn streamId buf fin
  unfold sendBodyArcbuf
  split_ifs
  · exact .refl _
  · exact .refl _
  · exact .refl _
  · dsimp only
    cases Quiche.streamCapacity c.quicheConn streamId with
    | error e => exact .refl _
    | ok capacity =>
      dsimp only
      split_ifs
      · exact .refl _
      · generalize Quiche.h3SendBody c.quicheConn streamId buf fin = r at hcall ⊢
        obtain ⟨e | written, q⟩ := r
        · cases e <;> exact hcall.calls
        · dsimp only
          split_ifs <;> exact hcall.calls

theorem streamClose_acts (streamId errorCode : ℕ) : Acts c (c.streamClose streamId errorCode) :=
  (Call.streamShutdown _ streamId .read errorCode).calls.trans
    (Call.streamShutdown _ streamId .write errorCode).calls

theorem sendDatagramChunk_acts (data : Bytes) : Acts c (c.sendDatagramChunk data).2 := by
  have hcall := Call.dgramSend c.quicheConn data
  unfold sendDatagramChunk
  split_ifs
  · exact .refl _
  · generalize Quiche.dgramSend c.quicheConn data = r at hcall ⊢
    obtain ⟨_ | _, q⟩ := r <;> exact hcall.calls

theorem queuePing_acts (now : ℕ) : Acts c (c.queuePing now).2 := by
  have hcall := Call.sendAckEliciting c.quicheConn
  unfold queuePing
  split_ifs
  · exact .refl _
  · generalize Quiche.sendAckEliciting c.quicheConn = r at hcall ⊢
    obtain ⟨_ | _, q⟩ := r <;> exact hcall.calls

theorem updateSessionTicket_acts : Acts c c.updateSessionTicket.2 := by
  unfold updateSessionTicket
  cases Quiche.session c.quicheConn with
  | none => exact .refl _
  | some ticket =>
    dsimp only
    split_ifs <;> exact .refl _

theorem send_acts : Acts c c.send.2 := by
  have hcall := Call.send c.quicheConn
  unfold send
  generalize Quiche.send c.quicheConn = r at hcall ⊢
  obtain ⟨_ | _, q⟩ := r <;> exact hcall.calls

end H3Connection

namespace QuicConnection

open Quiche

/-- Calls on its transport that are not input lead from one to the other. -/
def Acts (c c' : QuicConnection Q) : Prop := Calls c.quicheConn c'.quicheConn

theorem Acts.knowLocal {c c' : QuicConnection Q} (h : Acts c c') (streamId : ℕ) :
    Acts c (c'.knowLocal streamId) := by
  unfold QuicConnection.knowLocal
  split_ifs <;> exact h

variable (c : QuicConnection Q)

section Poll

variable {ref : ConnRef} {connHandle : UInt32}

theorem Reads.acts {st st' : Polling Q} (h : Reads ref connHandle st st') :
    Acts st.conn st'.conn := by
  induction h with
  | refl => exact .refl _
  | tail _ hpart ih =>
    cases hpart with
    | calls hcall => exact ih.trans hcall.calls
    | notes _ _ hquiche => exact ih.trans (hquiche ▸ .refl _)
    | reports => exact ih

variable (ref connHandle)

theorem pollQuicEvents_acts (budget : ℕ) (events : List Emitted) :
    Acts c (pollQuicEvents ref connHandle budget c events).1 := by
  obtain ⟨_, hreads⟩ := readEvents_reads ref connHandle budget c events
  rw [pollQuicEvents_eq]
  exact hreads.acts

theorem sweepFinishedStreams_acts (budget : ℕ) (events : List Emitted) :
    Acts c (sweepFinishedStreams ref connHandle budget c events).1 := by
  obtain ⟨_, hreads⟩ := sweepFinishedStreams_reads ref connHandle budget c events
  exact hreads.acts

end Poll

theorem streamSendZc_acts (streamId : ℕ) (buf : Bytes) (fin : Bool) :
    Acts c (c.streamSendZc streamId buf fin).2 := by
  have hcall := Call.streamSend c.quicheConn streamId buf fin
  unfold streamSendZc
  generalize Quiche.streamSend c.quicheConn streamId buf fin = r at hcall ⊢
  obtain ⟨e | written, q⟩ := r
  · cases e <;> exact hcall.calls
  · dsimp only
    split_ifs
    · refine Acts.knowLocal ?_ streamId
      exact hcall.calls
    · refine Acts.knowLocal ?_ streamId
      exact hcall.calls

theorem streamSendArcbuf_acts (streamId : ℕ) (buf : Bytes) (fin : Bool) :
    Acts c (c.streamSendArcbuf streamId buf fin).2 := by
  unfold streamSendArcbuf
  split_ifs
  · exact .refl _
  · have hcall := Call.streamSend c.quicheConn streamId [] true
    generalize Quiche.streamSend c.quicheConn streamId [] true = r at hcall ⊢
    obtain ⟨e | written, q⟩ := r
    · cases e <;> exact hcall.calls
    · refine Acts.knowLocal ?_ streamId
      exact hcall.calls
  · cases Quiche.streamCapacity c.quicheConn streamId with
    | error e => exact .refl _
    | ok capacity =>
      dsimp only
      split_ifs
      · exact .refl _
      · exact streamSendZc_acts c streamId buf fin
  · exact streamSendZc_acts c streamId buf fin

theorem reserveLocalBidiStream_acts (streamId : ℕ) :
    Acts c (c.reserveLocalBidiStream streamId).2 := by
  have hcall := Call.streamSend c.quicheConn streamId [] false
  unfold reserveLocalBidiStream
  split_ifs
  · exact .refl _
  · generalize Quiche.streamSend c.quicheConn streamId [] false = r at hcall ⊢
    obtain ⟨e | written, q⟩ := r
    · exact hcall.calls
    · cases written <;> exact hcall.calls

theorem streamClose_acts (streamId errorCode : ℕ) : Acts c (c.streamClose streamId errorCode) :=
  (Call.streamShutdown _ streamId .read errorCode).calls.trans
    (Call.streamShutdown _ streamId .write errorCode).calls

theorem queueDatagram_acts (data : Bytes) : Acts c (c.queueDatagram data).2 := by
  have hcall := Call.dgramSend c.quicheConn data
  unfold queueDatagram
  split_ifs
  · exact .refl _
  · exact .refl _
  · generalize Quiche.dgramSend c.quicheConn data = r at hcall ⊢
    obtain ⟨_ | _, q⟩ := r <;> exact hcall.calls

theorem queuePing_acts (now : ℕ) : Acts c (c.queuePing now).2 := by
  have hcall := Call.sendAckEliciting c.quicheConn
  unfold queuePing
  split_ifs
  · exact .refl _
  · generalize Quiche.sendAckEliciting c.quicheConn = r at hcall ⊢
    obtain ⟨_ | _, q⟩ := r <;> exact hcall.calls

theorem updateSessionTicket_acts : Acts c c.updateSessionTicket.2 := by
  unfold updateSessionTicket
  cases Quiche.session c.quicheConn with
  | none => exact .refl _
  | some ticket =>
    dsimp only
    split_ifs <;> exact .refl _

theorem drainOutboundDatagrams_acts : Acts c c.drainOutboundDatagrams := by
  have hloop : ∀ (queue : List Bytes) (c : QuicConnection Q),
      Acts c (drainOutboundDatagramsLoop queue c) := by
    intro queue
    induction queue with
    | nil => exact fun _ => .refl _
    | cons data rest ih =>
      intro c
      have hcall := Call.dgramSend c.quicheConn data
      unfold drainOutboundDatagramsLoop
      split_ifs
      · exact .refl _
      · generalize Quiche.dgramSend c.quicheConn data = r at hcall ⊢
        obtain ⟨_ | _, q⟩ := r
        · exact hcall.calls
        · have hsent : Acts c { c with quicheConn := q, outboundDatagrams := rest } :=
            hcall.calls
          exact hsent.trans (ih _)
  exact hloop _ c

theorem send_acts : Acts c c.send.2 := by
  have hcall := Call.send c.quicheConn
  unfold send
  generalize Quiche.send c.quicheConn = r at hcall ⊢
  obtain ⟨_ | _, q⟩ := r <;> exact hcall.calls

end QuicConnection

end Http3
