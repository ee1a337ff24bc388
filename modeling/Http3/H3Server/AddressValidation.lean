import Http3.H3Server.Sessions
import Http3.Scripted

/-! Address validation on the HTTP/3 server worker: where every connection comes from. -/

namespace Http3

namespace H3Server

variable {Q : Type} [Quiche Q]

/-- Only packets fill slots, and only vacant ones. -/
theorem apply_uidAt (op : ServerOp) (s : H3Server Q) (k : ℕ) :
    (op.apply s).uidAt k = s.uidAt k ∨ (op.apply s).uidAt k = none ∨
      s.MayOpen op ∧ s.uidAt k = none := by
  rcases apply_goes op s with hgoes | ⟨slot, s₁, hopen, hopens, hgoes⟩
  · exact (hgoes.uidAt k).imp id .inl
  · refine (hgoes.uidAt k).elim (fun hsame => ?_) fun hnone => .inr (.inl hnone)
    rw [hopens.uidAt] at hsame
    split_ifs at hsame with hk
    · refine .inr (.inr ⟨hopen, ?_⟩)
      rw [hk, uidAt, hopens.vacant]
      rfl
    · exact .inl hsame

end H3Server

namespace H3Worker

variable {Q : Type} [Quiche Q]

theorem step_uidAt (i : Step) (w : H3Worker Q) (k : ℕ) :
    (step i w).server.uidAt k = w.server.uidAt k ∨ (step i w).server.uidAt k = none ∨
      (∃ op, i = .work op ∧ w.server.MayOpen op) ∧ w.server.uidAt k = none := by
  cases i with
  | call channelOpen meant cmd reply =>
    obtain ⟨a, channel, -, hnapi⟩ := napi_spec channelOpen meant cmd reply w
    rw [step, hnapi]
    exact .inl rfl
  | dispatch now =>
    unfold step dispatchNext
    dsimp only
    split
    · exact .inl rfl
    · next next channel _ =>
      exact .inl ((H3Server.dispatchCommand_course now next.cmd w.server.startBatch).1.uid k)
  | work op =>
    refine (H3Server.apply_uidAt op w.server.startBatch k).imp id (Or.imp id ?_)
    rintro ⟨hopen, hvacant⟩
    refine ⟨⟨op, rfl, ?_⟩, hvacant⟩
    cases op <;> exact hopen

/-- Every connection that is live after a run has been in its slot since one packet of the run,
which was let in: with retry on, its token vouched for the address it came from. No other step
of the run has filled a slot. -/
theorem live_connections_validated (offset maxConnections : UInt32) (disableRetry : Bool)
    (streamReadWindow : Option ℕ) (requireClientCert : Bool) (steps : List Step) :
    let start : H3Worker Q :=
      init offset maxConnections disableRetry streamReadWindow requireClientCert
    (∀ k uid, (Runs.run step steps start).server.uidAt k = some uid →
      ∃ before op after, steps = before ++ .work op :: after ∧
        (Runs.run step before start).server.MayOpen op ∧
        (Runs.run step before start).server.uidAt k = none ∧
        ∀ more, more <+: after →
          (Runs.run step (before ++ .work op :: more) start).server.uidAt k = some uid) ∧
    ∀ before i after, steps = before ++ i :: after →
      (∃ op, i = .work op ∧ (Runs.run step before start).server.MayOpen op) ∨
      ∀ k, (Runs.run step before start).server.uidAt k = none →
        (Runs.run step (before ++ [i]) start).server.uidAt k = none := by
  intro start
  constructor
  · intro k uid hlive
    obtain ⟨before, i, after, rfl, hnot, hsince⟩ := Runs.run_onset
      (P := fun w : H3Worker Q => w.server.uidAt k = some uid) steps (by
        intro hnew
        cases hnew) hlive
    have hnew := hsince [] (List.nil_prefix)
    have hstep := step_uidAt i (Runs.run step before start) k
    rw [show (step i (Runs.run step before start)).server.uidAt k = some uid from hnew] at hstep
    obtain hsame | hnone | ⟨⟨op, rfl, hopen⟩, hvacant⟩ := hstep
    · exact absurd hsame.symm hnot
    · cases hnone
    · refine ⟨before, op, after, rfl, hopen, hvacant, fun more hmore => ?_⟩
      rw [Runs.run_append]
      exact hsince more hmore
  · rintro before i after -
    by_cases hopen : ∃ op, i = .work op ∧ (Runs.run step before start).server.MayOpen op
    · exact .inl hopen
    · refine .inr fun k hvacant => ?_
      rw [Runs.run_append]
      obtain hsame | hnone | ⟨hopens, -⟩ := step_uidAt i (Runs.run step before start) k
      · exact hsame.trans hvacant
      · exact hnone
      · exact absurd hopens hopen

/-- A client brings back the token that was minted for its address. -/
def validated : Step :=
  .work (.packet false { Scripted.packet .initial [7] [0] with
    header := some ⟨.initial, [7], [], some (RetryToken.mintToken (Quiche.hmac (Q := Scripted))
      (Quiche.endpoint Scripted ⟨"192.0.2.1", 4433⟩) 0 [9])⟩ } 8 30 [])

theorem live_connections_validated_once :
    (Runs.run step [validated] (init 0 4 false none false : H3Worker Scripted)).server.uidAt 0 =
      some 0 ∧
    ∃ op, [validated] = [.work op] ∧
      (init 0 4 false none false : H3Worker Scripted).server.MayOpen op := by
  have hlive : (Runs.run step [validated]
      (init 0 4 false none false : H3Worker Scripted)).server.uidAt 0 = some 0 := by decide +kernel
  obtain ⟨before, op, after, hsteps, hopen, -⟩ :=
    (live_connections_validated (Q := Scripted) 0 4 false none false [validated]).1 0 0 hlive
  cases before with
  | nil => exact ⟨hlive, op, hsteps.trans (by rw [(List.cons.inj hsteps).2.symm]; rfl), hopen⟩
  | cons i before => cases (List.append_eq_nil_iff.1 (List.cons.inj hsteps).2.symm).2

end H3Worker

end Http3
