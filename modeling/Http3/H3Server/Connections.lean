import Http3.H3Server.Sessions

/-! The connections of an HTTP/3 server worker: each one is a new connection that went through
uses and nothing else. -/

namespace Http3

variable {Q : Type} [Quiche Q] {P : H3Connection Q → Prop}

namespace H3Server

variable {s s' : H3Server Q}

theorem all_of_used (hP : ConnInvariant P) (hall : s.connMap.All P)
    (hused : ∀ k d, s'.connMap.get k = some d → s.Has k d) : s'.connMap.All P := by
  constructor
  intro k d hd
  obtain ⟨c, hc, huses⟩ := hused k d hd
  exact hP.uses huses (hall.get hc)

theorem Opens.all {slot : ℕ} (h : Opens slot s s') (hP : ConnInvariant P)
    (hall : s.connMap.All P) : s'.connMap.All P := by
  constructor
  intro k c hc
  by_cases hk : k = slot
  · obtain ⟨q, scid, hnew⟩ := h.fresh
    rw [hk, hnew] at hc
    exact Option.some.inj hc ▸ hP.new _ q scid
  · exact hall.get ((h.conns k hk).symm.trans hc)

end H3Server

/-- What new connections have and every use keeps holds of all connections of a worker,
whatever JavaScript, the network and the clock do. -/
theorem H3Worker.run_all (hP : ConnInvariant P) (steps : List H3Worker.Step) {w : H3Worker Q}
    (h : w.server.connMap.All P) : (Runs.run H3Worker.step steps w).server.connMap.All P := by
  have hstep : ∀ (step : Step) (w : H3Worker Q), w.server.connMap.All P →
      (H3Worker.step step w).server.connMap.All P := by
    intro step w h
    cases step with
    | call channelOpen meant cmd reply =>
      obtain ⟨_, _, -, heq⟩ := napi_spec channelOpen meant cmd reply w
      exact (congrArg (fun w : H3Worker Q => w.server.connMap.All P) heq).mpr h
    | dispatch now =>
      show (w.dispatchNext now).server.connMap.All P
      unfold dispatchNext
      split
      · exact h
      · exact H3Server.all_of_used hP h (H3Server.dispatchCommand_course now _ _).1.used
    | work op =>
      rcases H3Server.apply_goes op w.server.startBatch with hgoes | ⟨_, _, -, hopens, hgoes⟩
      · exact H3Server.all_of_used hP h hgoes.used
      · exact H3Server.all_of_used hP (hopens.all hP h) hgoes.used
  exact Runs.run_invariant hstep steps h

end Http3
