import Http3.QuicServer.Worker
import Http3.Scripted

/-! Client certificates on the raw QUIC server. A client that had to present one
and did not is only closed; what keeps its data from the application is that
there is nothing to read. -/

namespace Http3

namespace QuicWorker

/-- The handshake of the connection was reported, with a certificate of the peer. -/
def Vouched (log : List Emitted) (ref : ConnRef) : Prop :=
  ∃ e ∈ log, e.owner = some ref ∧ e.event.eventType = .handshakeComplete ∧
    e.event.info.bind (·.peerCertificatePresented) = some true

/-- Application data only ever comes after the certificate of its connection. -/
def CertificateFirst (log : List Emitted) : Prop :=
  ∀ before e after, log = before ++ e :: after → e.event.eventType.isApp = true →
    ∃ ref, e.owner = some ref ∧ Vouched before ref

theorem Vouched.append {log : List Emitted} {ref : ConnRef} (h : Vouched log ref)
    (added : List Emitted) : Vouched (log ++ added) ref := by
  obtain ⟨e, he, hvouches⟩ := h
  exact ⟨e, List.mem_append_left added he, hvouches⟩

theorem CertificateFirst.append {log added : List Emitted} (h : CertificateFirst log)
    (hadded : ∀ e ∈ added, e.event.eventType.isApp = true →
      ∃ ref, e.owner = some ref ∧ Vouched log ref) : CertificateFirst (log ++ added) := by
  intro before e after hsplit happ
  rcases List.append_eq_append_iff.1 hsplit with ⟨more, hbefore, hrest⟩ | ⟨more, hlog, hrest⟩
  · -- the event is one of those added
    have hmem : e ∈ added := by
      rw [hrest]
      simp
    obtain ⟨ref, howner, hvouched⟩ := hadded e hmem happ
    refine ⟨ref, howner, ?_⟩
    rw [hbefore]
    exact hvouched.append more
  · cases more with
    | nil =>
      have hmem : e ∈ added := by
        rw [List.nil_append] at hrest
        rw [← hrest]
        simp
      obtain ⟨ref, howner, hvouched⟩ := hadded e hmem happ
      rw [List.append_nil] at hlog
      exact ⟨ref, howner, hlog ▸ hvouched⟩
    | cons x more =>
      rw [List.cons_append, List.cons.injEq] at hrest
      obtain ⟨rfl, -⟩ := hrest
      exact h before e more hlog happ

variable {Q : Type}

/-- A connection is vouched for, or has given nothing away. -/
structure GateHolds (w : QuicWorker Q) : Prop where
  requireClientCert : w.server.requireClientCert = true
  events : CertificateFirst w.events
  conns : ∀ slot c, w.server.connMap.get slot = some c → c.Cold ∨ Vouched w.events ⟨slot, c.uid⟩

/-- An elementary move that leaves cold connections alone keeps the gate. -/
theorem GateHolds.move {past : List Emitted} {s s' : QuicServer Q}
    (hmove : QuicServer.Move True True s s') (h : GateHolds ⟨s, past ++ s.batch⟩) :
    GateHolds ⟨s', past ++ s'.batch⟩ := by
  have hcert : s'.requireClientCert = true :=
    hmove.fixed.requireClientCert.trans h.requireClientCert
  -- an event that is no application data, of a step that changes no connection
  have hquiet : ∀ added : List Emitted, (∀ e ∈ added, e.event.eventType.isApp = false) →
      CertificateFirst (past ++ s.batch ++ added) := by
    intro added hadded
    apply h.events.append
    intro e he happ
    rw [hadded e he] at happ
    cases happ
  have hold : ∀ (added : List Emitted) slot c, s.connMap.get slot = some c →
      c.Cold ∨ Vouched (past ++ s.batch ++ added) ⟨slot, c.uid⟩ := by
    intro added slot c hc
    exact (h.conns slot c hc).imp id fun hvouched => hvouched.append added
  cases hmove with
  | keep _ hconns hbatch =>
    obtain ⟨added, hbatch, hadded⟩ := hbatch
    rw [hbatch, ← List.append_assoc]
    refine ⟨hcert, hquiet added ?_, ?_⟩
    · intro e he
      rw [hadded e he]
      rfl
    · intro slot c hc
      rcases hconns slot with hsame | hnone
      · exact hold added slot c (hsame ▸ hc)
      · cases hnone.symm.trans hc
  | accept slot c _ hcold hconns ip port hbatch =>
    rw [hbatch, pushFor, ← List.append_assoc]
    refine ⟨hcert, hquiet _ ?_, ?_⟩
    · intro e he
      rw [List.mem_singleton.1 he]
      rfl
    · intro k d hd
      dsimp only at hd
      rw [hconns] at hd
      split_ifs at hd with hk
      · cases hd
        exact .inl hcold
      · exact hold _ k d hd
  | handshake slot c d _ hc huid hconns presented chain hverified hbatch =>
    rw [hbatch, pushFor, ← List.append_assoc]
    refine ⟨hcert, hquiet _ ?_, ?_⟩
    · intro e he
      rw [List.mem_singleton.1 he]
      rfl
    · intro k f hf
      dsimp only at hf
      rw [hconns] at hf
      split_ifs at hf with hk
      · cases hf
        refine .inr ⟨_, List.mem_append_right _ List.mem_cons_self, ?_, rfl, ?_⟩
        · rw [hk, huid]
        · rw [hverified h.requireClientCert]
          rfl
      · exact hold _ k f hf
  | act slot c d _ hc huid hcold hconns hbatch =>
    obtain ⟨added, hbatch, hadded⟩ := hbatch
    rw [hbatch, ← List.append_assoc]
    refine ⟨hcert, ?_, ?_⟩
    · apply h.events.append
      intro e he happ
      obtain ⟨⟨howner, -⟩, hgate⟩ := hadded e he
      rcases h.conns slot c hc with hstill | hvouched
      · rw [hgate trivial hstill] at happ
        cases happ
      · exact ⟨_, howner, hvouched⟩
    · intro k f hf
      dsimp only at hf
      rw [hconns] at hf
      split_ifs at hf with hk
      · cases hf
        rw [hk, huid]
        rcases h.conns slot c hc with hstill | hvouched
        · exact .inl (hcold trivial hstill)
        · exact .inr (hvouched.append added)
      · exact hold _ k f hf
  | report ref event _ hconns _ hkind _ hbatch =>
    rw [hbatch, pushFor, ← List.append_assoc]
    refine ⟨hcert, hquiet _ ?_, ?_⟩
    · intro e he
      rw [List.mem_singleton.1 he]
      exact hkind.1
    · intro slot c hc
      dsimp only at hc
      rw [hconns] at hc
      exact hold _ slot c hc

variable [Quiche Q]

/-- Where a certificate is required, no connection hands the application anything
before its certificate, in every run that polls no cold connection with something
to read. -/
theorem certificate_before_data {offset maxConnections : UInt32} {disableRetry : Bool}
    {w : QuicWorker Q} (hreach : Runs.Reach step (fun op w => op.Gated w.server)
      (init offset maxConnections disableRetry true) w) : CertificateFirst w.events := by
  have hinit : (init offset maxConnections disableRetry true : QuicWorker Q).GateHolds := by
    refine ⟨rfl, ?_, ?_⟩
    · intro before e after hsplit
      simp [init] at hsplit
    · intro slot c hc
      have hempty : (ConnectionMap.withMaxConnections maxConnections :
          ConnectionMap (QuicConnection Q)).get slot = none := rfl
      cases hempty.symm.trans hc
  have hmove : ∀ past (s s' : QuicServer Q), QuicServer.Move True True s s' →
      GateHolds ⟨s, past ++ s.batch⟩ → GateHolds ⟨s', past ++ s'.batch⟩ :=
    fun _ _ _ => GateHolds.move
  have hholds : w.GateHolds := by
    refine reach_invariant hmove ?_ ?_ hinit rfl hreach
    · intro s events hs
      exact ⟨hs.requireClientCert, hs.events, hs.conns⟩
    · intro op w hw hok
      exact ⟨.inr trivial, fun _ => ⟨hw.requireClientCert, hok⟩⟩
  exact hholds.events

/-- A first flight that ends the handshake without a certificate and carries data:
the server calls `close`, polls on, and the application sees the stream. -/
theorem data_without_certificate :
    (Runs.run step
      [.packet false (Scripted.packet .initial [7] [8, 0, 5]) 0 0 [[7]], .collectAppEvents 10 0]
      (init 0 4 true true : QuicWorker Scripted)).events =
        [⟨some ⟨0, 0⟩, .newSession 0 "192.0.2.1" 4433 ""⟩,
          ⟨some ⟨0, 0⟩, .newStreamWithData 0 0 [5] true⟩] := by
  decide +kernel

/-- A client with a certificate that then opens a stream. -/
def certifiedClient : QuicWorker Scripted :=
  Runs.run step
    [.packet false (Scripted.packet .initial [7] [1]) 10 0 [[7]],
      .packet false (Scripted.packet .other [7] [7, 0, 5]) 10 0 [], .collectAppEvents 10 0]
    (init 0 4 true true)

theorem certificate_before_data_certifiedClient :
    ⟨some ⟨0, 0⟩, .newStreamWithData 0 0 [5] false⟩ ∈ certifiedClient.events ∧
      CertificateFirst certifiedClient.events :=
  ⟨by decide +kernel, certificate_before_data (Runs.Reach.start.run (by decide +kernel))⟩

end QuicWorker

end Http3
