import Http3.ClientUnits
import Http3.SharedClient.Agenda
import Http3.SharedClient.Isolation
import Http3.ShutdownSentinel

/-! Who is told when the window that the sessions of a shared worker write through reopens. -/

namespace Http3

abbrev wakeUp : Emitted := ⟨none, .writeReady 0⟩

theorem Voice.Tells.wakes {a b : Voice} (h : a.Tells b) (ha : a.outboundAdmission.pressured = true)
    (hb : b.outboundAdmission.pressured = false) : wakeUp ∈ b.marks := by
  induction h with
  | refl =>
    rw [ha] at hb
    cases hb
  | @release v units _ ih =>
    unfold Voice.release
    dsimp only
    cases hv : v.outboundAdmission.pressured with
    | false =>
      split_ifs
      · exact List.mem_append_left _ (ih hv)
      · exact ih hv
    | true =>
      have hwakes := (v.outboundAdmission.release_wakes_iff_lowers units).2 ⟨hv, hb⟩
      rw [if_pos hwakes]
      exact List.mem_append_right _ (List.mem_singleton.2 rfl)
  | close ref _ _ _ ih => exact List.mem_append_left _ (ih hb)

theorem ClientHandler.wakes_of_tells {C : Type} {h h' : ClientHandler C}
    (htells : h.voice.Tells h'.voice) (ha : h.outboundAdmission.pressured = true)
    (hb : h'.outboundAdmission.pressured = false) : wakeUp ∈ h'.batch :=
  (List.mem_filter.1 (htells.wakes ha hb)).1

/-- A wake-up was appended to the batch of the session behind the first `seen` events. -/
def SharedClientSession.Woke {C : Type} (seen : ℕ) (session : SharedClientSession C) : Prop :=
  wakeUp ∈ session.batcher.log.drop seen

namespace SharedClientSession

variable {C : Type} {seen : ℕ} {a b : SharedClientSession C}

theorem Woke.goes (h : a.Woke seen) (hgoes : a.Goes b) : b.Woke seen := by
  obtain ⟨added, hlog, -⟩ := hgoes.log
  unfold Woke
  rw [hlog, List.drop_append]
  exact List.mem_append_left _ h

theorem Woke.earlier {seen' : ℕ} (h : a.Woke seen) (hle : seen' ≤ seen) : a.Woke seen' := by
  unfold Woke at h ⊢
  rw [← Nat.sub_add_cancel hle, Nat.add_comm, ← List.drop_drop] at h
  exact List.mem_of_mem_drop h

theorem Goes.length_log_le (hgoes : a.Goes b) : a.batcher.log.length ≤ b.batcher.log.length := by
  obtain ⟨added, hlog, -⟩ := hgoes.log
  rw [hlog, List.length_append]
  omega

theorem Woke.append {events : List Emitted} (hlog : b.batcher.log = a.batcher.log ++ events)
    (hmem : wakeUp ∈ events) : b.Woke a.batcher.log.length := by
  unfold Woke
  rw [hlog, List.drop_left]
  exact hmem

end SharedClientSession

namespace SharedClientLoop

variable {C Own : Type}

/-- A call of the loop has lowered the flag: one of the releases in it has returned `true`. -/
def reopens (st st' : SharedClientLoop C Own) : Bool :=
  st.outboundAdmission.pressured && !st'.outboundAdmission.pressured

theorem reopens_iff {st st' : SharedClientLoop C Own} : reopens st st' = true ↔
    st.outboundAdmission.pressured = true ∧ st'.outboundAdmission.pressured = false := by
  simp [reopens]

theorem reopens_of_window {st st' : SharedClientLoop C Own}
    (hwindow : st'.outboundAdmission = st.outboundAdmission) : reopens st st' = false := by
  simp [reopens, hwindow]

/-- The session in the slot is on the list of those to be released. -/
def Releasing (st : SharedClientLoop C Own) (handle : ℕ) : Prop :=
  ∃ release ∈ st.pendingRelease, release.sessionHandle.toNat = handle

/-- What dispatched commands do: when they reopen the window, every session is woken, or it is
to be released because its sink has refused the wake-up. -/
structure Spreads (st st' : SharedClientLoop C Own) : Prop where
  goesOn : GoesOn st st'
  releases : ∀ handle, st.Releasing handle → st'.Releasing handle
  wakes : reopens st st' = true → ∀ handle session session',
    st.sessions.get handle = some session → st'.sessions.get handle = some session' →
    session'.Woke session.batcher.log.length ∨ st'.Releasing handle

namespace Spreads

variable {st st₁ st' : SharedClientLoop C Own}

theorem of_window (hgoes : GoesOn st st')
    (hreleases : ∀ handle, st.Releasing handle → st'.Releasing handle)
    (hwindow : st'.outboundAdmission = st.outboundAdmission) : Spreads st st' := by
  constructor
  · exact hgoes
  · exact hreleases
  · intro hreopens
    rw [reopens_of_window hwindow] at hreopens
    cases hreopens

theorem of_frame (hgoes : GoesOn st st') (hframe : st'.frame = st.frame) : Spreads st st' := by
  have hreleases : st'.frame.Releasing = st.frame.Releasing := congrArg Releasing hframe
  have hkeeps : st'.Releasing = st.Releasing := hreleases
  refine of_window hgoes ?_ (window_of_frame hframe)
  intro handle h
  rw [hkeeps]
  exact h

theorem refl (st : SharedClientLoop C Own) : Spreads st st := of_frame (.refl st) rfl

theorem trans (h : Spreads st st₁) (h' : Spreads st₁ st') : Spreads st st' := by
  constructor
  · exact h.goesOn.trans h'.goesOn
  · intro handle hreleasing
    exact h'.releases handle (h.releases handle hreleasing)
  · intro hreopens handle session session' hget hget'
    obtain ⟨hbefore, hafter⟩ := reopens_iff.1 hreopens
    obtain ⟨session₁, hget₁, hgoes'⟩ := h'.goesOn.sessions.get hget'
    obtain ⟨session₀, hget₀, hgoes⟩ := h.goesOn.sessions.get hget₁
    obtain rfl : session₀ = session := Option.some.inj (hget₀.symm.trans hget)
    -- the flag is down already, or it goes down in the second part
    cases hmiddle : st₁.outboundAdmission.pressured with
    | false =>
      rcases h.wakes (reopens_iff.2 ⟨hbefore, hmiddle⟩) handle _ _ hget hget₁ with hwoke | hrel
      · exact .inl (hwoke.goes hgoes')
      · exact .inr (h'.releases handle hrel)
    | true =>
      rcases h'.wakes (reopens_iff.2 ⟨hmiddle, hafter⟩) handle _ _ hget₁ hget' with hwoke | hrel
      · exact .inl (hwoke.earlier hgoes.length_log_le)
      · exact .inr hrel

end Spreads

section Waking

variable (input : SharedInput)

def wake (st : SharedClientLoop C Own) (handle : ℕ) : SharedClientLoop C Own :=
  if (st.appendAtomic input handle [wakeUp]).1 then (st.appendAtomic input handle [wakeUp]).2
  else (st.appendAtomic input handle [wakeUp]).2.pushRelease handle

theorem emitWriteReady_eq (st : SharedClientLoop C Own) :
    st.emitWriteReady input = st.sessions.keys.foldl (wake input) st := by
  unfold emitWriteReady
  congr 1
  funext st handle
  unfold wake
  generalize st.appendAtomic input handle [wakeUp] = r
  obtain ⟨_ | _, st'⟩ := r <;> rfl

variable (st : SharedClientLoop C Own) (handle : ℕ)

theorem Releasing.pushRelease {st : SharedClientLoop C Own} {handle : ℕ} (h : st.Releasing handle)
    (other : ℕ) : (st.pushRelease other).Releasing handle := by
  obtain ⟨release, hmem, hhandle⟩ := h
  exact ⟨release, List.mem_append_left _ hmem, hhandle⟩

theorem releasing_pushRelease (hsmall : handle < UInt32.size) :
    (st.pushRelease handle).Releasing handle := by
  refine ⟨_, List.mem_append_right _ (List.mem_singleton.2 rfl), ?_⟩
  exact UInt32.toNat_ofNat_of_lt' hsmall

theorem appendWake_spreads : Spreads st (st.appendAtomic input handle [wakeUp]).2 := by
  refine .of_frame (appendAtomic_goesOn input st handle ?_) (frame_appendAtomic input st handle _)
  intro e he
  obtain rfl := List.mem_singleton.1 he
  exact EventType.noConfusion

theorem pushRelease_spreads : Spreads st (st.pushRelease handle) :=
  .of_window (.of_eq rfl) (fun _ h => h.pushRelease handle) rfl

theorem wake_spreads : Spreads st (wake input st handle) := by
  unfold wake
  split_ifs
  · exact appendWake_spreads input st handle
  · exact (appendWake_spreads input st handle).trans (pushRelease_spreads _ handle)

theorem wakes_spread (handles : List ℕ) : Spreads st (handles.foldl (wake input) st) := by
  induction handles generalizing st with
  | nil => exact .refl st
  | cons handle handles ih => exact (wake_spreads input st handle).trans (ih _)

variable {st handle}

theorem wake_self (hsmall : handle < UInt32.size) {session session' : SharedClientSession C}
    (hget : st.sessions.get handle = some session)
    (hget' : (wake input st handle).sessions.get handle = some session') :
    session'.Woke session.batcher.log.length ∨ (wake input st handle).Releasing handle := by
  have happend : (st.appendAtomic input handle [wakeUp]) =
      ((session.batcher.appendAtomic (input.sinkOk handle) [wakeUp]).1, st.setSession handle
        { session with
          batcher := (session.batcher.appendAtomic (input.sinkOk handle) [wakeUp]).2 }) := by
    unfold appendAtomic
    rw [hget]
  unfold wake at hget' ⊢
  rw [happend] at hget' ⊢
  rcases session.batcher.appendAtomic_cases (input.sinkOk handle) [wakeUp] with
    ⟨b, heq, hlog⟩ | ⟨b, heq, -⟩
  · rw [heq] at hget' ⊢
    have hset : st.sessions.get handle = some session := hget
    have hself : (st.setSession handle { session with batcher := b }).sessions.get handle =
        some { session with batcher := b } :=
      Slab.get_set_self _ _ (by rw [hset]; rfl)
    obtain rfl := Option.some.inj (hself.symm.trans hget')
    exact .inl (.append hlog (List.mem_singleton.2 rfl))
  · rw [heq]
    exact .inr (releasing_pushRelease _ handle hsmall)

theorem wakes_self {handles : List ℕ} (hsmall : handle < UInt32.size) (hmem : handle ∈ handles)
    {session session' : SharedClientSession C} (hget : st.sessions.get handle = some session)
    (hget' : (handles.foldl (wake input) st).sessions.get handle = some session') :
    session'.Woke session.batcher.log.length ∨
      (handles.foldl (wake input) st).Releasing handle := by
  induction handles generalizing st session with
  | nil => cases hmem
  | cons first handles ih =>
    rw [List.foldl_cons] at hget' ⊢
    have hrest := wakes_spread input (wake input st first) handles
    obtain ⟨session₁, hget₁, hgoes'⟩ := hrest.goesOn.sessions.get hget'
    obtain ⟨session₀, hget₀, hgoes⟩ := (wake_spreads input st first).goesOn.sessions.get hget₁
    obtain rfl : session₀ = session := Option.some.inj (hget₀.symm.trans hget)
    rcases List.mem_cons.1 hmem with rfl | hlater
    · rcases wake_self input hsmall hget hget₁ with hwoke | hreleasing
      · exact .inl (hwoke.goes hgoes')
      · exact .inr (hrest.releases handle hreleasing)
    · rcases ih hlater hget₁ hget' with hwoke | hreleasing
      · exact .inl (hwoke.earlier hgoes.length_log_le)
      · exact .inr hreleasing

variable (st)

theorem releaseOutbound_spreads (hsmall : ∀ k ∈ st.sessions.keys, k < UInt32.size) (units : ℕ) :
    Spreads st (st.releaseOutbound input units) := by
  have hgoes := releaseOutbound_goesOn input st units
  unfold releaseOutbound at hgoes ⊢
  dsimp only at hgoes ⊢
  split_ifs at hgoes ⊢ with hwakes
  · rw [emitWriteReady_eq] at hgoes ⊢
    refine ⟨hgoes, ?_, ?_⟩
    · intro handle hreleasing
      exact (wakes_spread input _ _).releases handle hreleasing
    · intro _ handle session session' hget hget'
      have hmem := Slab.mem_keys_of_get hget
      exact wakes_self input (hsmall handle hmem) hmem hget hget'
  · refine ⟨hgoes, fun _ h => h, ?_⟩
    intro hreopens
    exact absurd ((st.outboundAdmission.release_wakes_iff_lowers units).2
      (reopens_iff.1 hreopens)) hwakes

end Waking

section Commands

variable (input : SharedInput) (st : SharedClientLoop C Own) (handle : ℕ)

theorem window_collectAtomic (f : ClientHandler C → ClientHandler C) :
    (st.collectAtomic input handle f).2.outboundAdmission =
      (st.sessions.get handle).elim st.outboundAdmission
        fun session => (f (st.lend session)).outboundAdmission := by
  unfold collectAtomic
  rw [window_of_frame (frame_appendAtomic input _ handle _)]
  unfold work
  cases st.sessions.get handle <;> rfl

theorem releasing_of_rest {st st' : SharedClientLoop C Own} (hrest : st'.rest = st.rest) :
    st'.Releasing = st.Releasing := by
  have hreleasing : st'.rest.Releasing = st.rest.Releasing := congrArg Releasing hrest
  exact hreleasing

variable [ClientProtocol C Own] [LawfulClientProtocol C Own] [ReturnsUnits C Own]

variable {input st} in
theorem CommandPart.spreads (hsmall : ∀ k ∈ st.sessions.keys, k < UInt32.size) {there : Prop}
    {meant : ℕ} {sessionHandle : UInt32} {st' : SharedClientLoop C Own}
    (h : CommandPart input there meant sessionHandle st st') : Spreads st st' := by
  cases h with
  | handler handler hget => exact .of_frame (.setSession hget (.handler _ handler)) rfl
  | payload streamId chunk fin =>
    refine .of_window (payload_goesOn input st _ sessionHandle streamId chunk fin) ?_ ?_
    · intro k hreleasing
      rw [releasing_of_rest (rest_collectAtomic input st _ _)]
      exact hreleasing
    · rw [window_collectAtomic]
      cases st.sessions.get sessionHandle.toNat with
      | none => rfl
      | some session => exact ReturnsUnits.queueStreamSend sessionHandle streamId chunk fin _
  | gives units => exact releaseOutbound_spreads input st hsmall units
  | answers => exact .of_window (.of_eq rfl) (fun _ h => h) rfl
  | refused => exact pushRelease_spreads st _
  | releases =>
    refine .of_window (.of_eq rfl) ?_ rfl
    intro k hreleasing
    obtain ⟨release, hmem, hhandle⟩ := hreleasing
    exact ⟨release, List.mem_append_left _ hmem, hhandle⟩

theorem sessionCommand_spreads (hsmall : ∀ k ∈ st.sessions.keys, k < UInt32.size) (meant : ℕ)
    (sessionHandle : UInt32) (cmd : SessionCommand Own) :
    Spreads st (st.sessionCommand input meant sessionHandle cmd) := by
  have hparts := sessionCommand_parts input st meant sessionHandle cmd
  generalize st.sessionCommand input meant sessionHandle cmd = st' at hparts ⊢
  induction hparts with
  | refl => exact .refl st
  | tail _ hlast ih =>
    refine ih.trans (hlast.spreads ?_)
    intro k hk
    rw [Slab.mem_keys, ih.goesOn.sessions.isSome_iff, ← Slab.mem_keys] at hk
    exact hsmall k hk

end Commands

end SharedClientLoop

/-- Which sessions the rest of an iteration is going to remove. -/
inductive Doom
  | releasing
  | closed
  | only (handle : ℕ)
  | everyone
  | nobody
  deriving DecidableEq, Repr

def SharedStage.doom : SharedStage → Doom
  | .poll | .commands _ _ | .commandSends _ | .release _ => .releasing
  | .rxRemove handle _ => .only handle
  | .expired _ _ | .expiredCap _ _ | .appEvents _ | .drainEvents _ | .pendingWrites _ | .cap _
  | .closed | .flush _ | .reap => .closed
  | .returning _ | .exited _ => .everyone
  | .rx _ | .rxCap _ _ | .rxSends _ | .timers | .sends | .done => .nobody

namespace SharedClientLoop

variable {C Own : Type}

def Takes (st : SharedClientLoop C Own) (handle : ℕ) : Doom → Prop
  | .releasing => st.Releasing handle
  | .closed => handle ∈ st.closedSessions
  | .only victim => handle = victim
  | .everyone => True
  | .nobody => False

/-- The session in the slot does not outlive the iteration. -/
def Doomed (st : SharedClientLoop C Own) (handle : ℕ) : Prop := st.Takes handle st.stage.doom

section Doomed

variable {st : SharedClientLoop C Own} {handle : ℕ}

theorem doomed_iff {doom : Doom} (h : st.stage.doom = doom) :
    st.Doomed handle ↔ st.Takes handle doom := by
  rw [← h]
  rfl

theorem doomed_releasing (h : st.stage.doom = .releasing) :
    st.Doomed handle ↔ st.Releasing handle := doomed_iff h

theorem doomed_closed (h : st.stage.doom = .closed) :
    st.Doomed handle ↔ handle ∈ st.closedSessions := doomed_iff h

end Doomed

/-- What one call of the loop does: a session that is to go still goes, and when the window
reopens every session is woken or is to go. -/
structure Delivers (st st' : SharedClientLoop C Own) : Prop where
  doomed : ∀ handle, (st'.sessions.get handle).isSome → st.Doomed handle → st'.Doomed handle
  wakes : reopens st st' = true → ∀ handle session session',
    st.sessions.get handle = some session → st'.sessions.get handle = some session' →
    session'.Woke session.batcher.log.length ∨ st'.Doomed handle

namespace Delivers

variable {st st₁ st' : SharedClientLoop C Own}

theorem of_window (hwindow : st'.outboundAdmission = st.outboundAdmission)
    (hdoomed : ∀ handle, (st'.sessions.get handle).isSome → st.Doomed handle → st'.Doomed handle) :
    Delivers st st' := by
  refine ⟨hdoomed, ?_⟩
  intro hreopens
  rw [reopens_of_window hwindow] at hreopens
  cases hreopens

theorem leaves (h : st'.stage.doom = .everyone) : Delivers st st' :=
  ⟨fun _ _ _ => (doomed_iff h).2 trivial, fun _ _ _ _ _ _ => .inr ((doomed_iff h).2 trivial)⟩

theorem calm (h : st.stage.doom = .nobody)
    (hwindow : st'.outboundAdmission = st.outboundAdmission) : Delivers st st' :=
  .of_window hwindow fun _ _ hdoomed => absurd hdoomed ((doomed_iff h).1)

theorem keepsReleasing (h : st.stage.doom = .releasing) (h' : st'.stage.doom = .releasing)
    (hwindow : st'.outboundAdmission = st.outboundAdmission)
    (hpending : st'.pendingRelease = st.pendingRelease) : Delivers st st' := by
  refine .of_window hwindow ?_
  intro handle _ hdoomed
  rw [doomed_releasing h] at hdoomed
  rw [doomed_releasing h']
  unfold Releasing
  rw [hpending]
  exact hdoomed

theorem keepsClosed (h : st.stage.doom = .closed) (h' : st'.stage.doom = .closed)
    (hwindow : st'.outboundAdmission = st.outboundAdmission)
    (hclosed : st'.closedSessions = st.closedSessions) : Delivers st st' := by
  refine .of_window hwindow ?_
  intro handle _ hdoomed
  rw [doomed_closed h] at hdoomed
  rw [doomed_closed h', hclosed]
  exact hdoomed

theorem of_spreads (hspreads : Spreads st st') (h : st.stage.doom = .releasing)
    (h' : st'.stage.doom = .releasing) : Delivers st st' := by
  constructor
  · intro handle _ hdoomed
    rw [doomed_releasing h] at hdoomed
    rw [doomed_releasing h']
    exact hspreads.releases handle hdoomed
  · intro hreopens handle session session' hget hget'
    rw [doomed_releasing h']
    exact hspreads.wakes hreopens handle session session' hget hget'

end Delivers

def AloneAt (st : SharedClientLoop C Own) (handle : ℕ) : Prop :=
  ∀ k ∈ st.sessions.keys, k = handle

instance (st : SharedClientLoop C Own) (handle : ℕ) : Decidable (st.AloneAt handle) :=
  inferInstanceAs (Decidable (∀ k ∈ st.sessions.keys, k = handle))

/-- A call on the session in a slot: the window reopens in it only while that session is
alone, and then the session is woken, unless its sink refuses. -/
structure Collects (handle : ℕ) (st : SharedClientLoop C Own)
    (result : Bool × SharedClientLoop C Own) : Prop where
  rest : result.2.rest = st.rest
  alone : reopens st result.2 = true → st.AloneAt handle
  wakes : reopens st result.2 = true → result.1 = true → ∀ session session',
    st.sessions.get handle = some session → result.2.sessions.get handle = some session' →
    session'.Woke session.batcher.log.length

section Collects

variable {input : SharedInput} {st : SharedClientLoop C Own} {handle : ℕ}

variable {result : Bool × SharedClientLoop C Own}

theorem Collects.of_frame (hframe : result.2.frame = st.frame) : Collects handle st result := by
  have hstays := reopens_of_window (window_of_frame hframe)
  constructor
  · exact rest_of_frame hframe
  · intro hreopens
    rw [hstays] at hreopens
    cases hreopens
  · intro hreopens
    rw [hstays] at hreopens
    cases hreopens

/-- A call on a handler that lowers the flag puts a wake-up in the batch of its session. -/
theorem collectAtomic_collects {f : ClientHandler C → ClientHandler C}
    (hf : ∀ h : ClientHandler C, h.voice.Tells (f h).voice)
    (halone : reopens st (st.collectAtomic input handle f).2 = true → st.AloneAt handle) :
    Collects handle st (st.collectAtomic input handle f) := by
  refine ⟨rest_collectAtomic input st handle f, halone, ?_⟩
  intro hreopens hok session session' hget hget'
  obtain ⟨hbefore, hafter⟩ := reopens_iff.1 hreopens
  rw [window_collectAtomic, hget] at hafter
  have htold : wakeUp ∈ (f (st.lend session)).batch :=
    ClientHandler.wakes_of_tells (hf _) hbefore hafter
  -- the group is appended to the batch that the session had before the call
  unfold collectAtomic work at hok hget'
  rw [hget] at hok hget'
  dsimp only at hok hget'
  have hself : (st.setSession handle
      { session with handler := (f (st.lend session)).startBatch }).sessions.get handle =
      some { session with handler := (f (st.lend session)).startBatch } :=
    Slab.get_set_self _ _ (by rw [hget]; rfl)
  unfold appendAtomic at hok hget'
  dsimp only at hok hget'
  rw [hself] at hok hget'
  dsimp only at hok hget'
  rcases session.batcher.appendAtomic_cases (input.sinkOk handle) (f (st.lend session)).batch with
    ⟨b, heq, hlog⟩ | ⟨b, heq, -⟩
  · rw [heq] at hget'
    have hagain : (st.sessions.set handle
        { session with handler := (f (st.lend session)).startBatch }).get handle = some _ := hself
    have hlast := Slab.get_set_self (st.sessions.set handle
      { session with handler := (f (st.lend session)).startBatch })
      { session with handler := (f (st.lend session)).startBatch, batcher := b }
      (by rw [hagain]; rfl)
    obtain rfl := Option.some.inj (hlast.symm.trans hget')
    exact .append hlog htold
  · rw [heq] at hok
    cases hok

theorem Delivers.orClose (h : Collects handle st result) (hstage : st.stage.doom = .closed)
    {next refused : SharedStage} (hnext : next.doom = .closed) (hrefused : refused.doom = .closed) :
    Delivers st (orClose handle result next refused) := by
  have hclosed : result.2.rest.closedSessions = st.rest.closedSessions :=
    congrArg closedSessions h.rest
  obtain ⟨_ | _, st'⟩ := result
  · have hlist : st'.closedSessions = st.closedSessions := hclosed
    constructor
    · intro k _ hdoomed
      rw [doomed_closed hstage] at hdoomed
      refine (doomed_closed hrefused).2 (List.mem_append_left _ ?_)
      rw [hlist]
      exact hdoomed
    · intro hreopens k session session' hget _
      have hmem := Slab.mem_keys_of_get hget
      obtain rfl := h.alone hreopens k hmem
      exact .inr ((doomed_closed hrefused).2 (List.mem_append_right _ (List.mem_singleton.2 rfl)))
  · have hlist : st'.closedSessions = st.closedSessions := hclosed
    constructor
    · intro k _ hdoomed
      rw [doomed_closed hstage] at hdoomed
      refine (doomed_closed hnext).2 ?_
      show k ∈ st'.closedSessions
      rw [hlist]
      exact hdoomed
    · intro hreopens k session session' hget hget'
      have hmem := Slab.mem_keys_of_get hget
      obtain rfl := h.alone hreopens k hmem
      exact .inl (h.wakes hreopens rfl session session' hget hget')

variable [ClientProtocol C Own]

theorem Collects.refreshed (h : Collects handle st result) :
    Collects handle st (refreshed handle result) := by
  have hframe := frame_refreshed handle result
  have hwindow := window_of_frame hframe
  have hgoes := refreshed_goesOn handle (GoesOn.refl result.2)
  constructor
  · exact (rest_of_frame hframe).trans h.rest
  · intro hreopens
    unfold reopens at hreopens
    rw [hwindow] at hreopens
    exact h.alone hreopens
  · intro hreopens hok session session' hget hget'
    unfold reopens at hreopens
    rw [hwindow] at hreopens
    have hok' : result.1 = true := by
      obtain ⟨_ | _, st'⟩ := result
      · cases hok
      · rfl
    obtain ⟨session₁, hget₁, hgoes₁⟩ := hgoes.sessions.get hget'
    exact (h.wakes hreopens hok' session session₁ hget hget₁).goes hgoes₁

end Collects

section Removal

variable {st st' : SharedClientLoop C Own} {handle : ℕ}

/-- The units that are given back for a session when it is removed. -/
def unitsAt (st : SharedClientLoop C Own) (handle : ℕ) : ℕ :=
  (st.sessions.get handle).elim 0 fun session =>
    KeyMap.total PendingWrite.queuedUnits session.handler.pendingWrites

variable (st handle) in
theorem removeSession_window (cause : SessionEnd) :
    (st.removeSession cause handle).outboundAdmission =
      (st.outboundAdmission.release (st.unitsAt handle)).2 ∧
    (st.removeSession cause handle).sessions.get handle = none := by
  unfold removeSession unitsAt
  cases hget : st.sessions.get handle with
  | none => exact ⟨rfl, hget⟩
  | some session => exact ⟨rfl, Slab.get_remove_self _⟩

variable (st handle) in
theorem finishSession_window (input : SharedInput) (cause : SessionEnd) :
    (st.finishSession input cause handle).outboundAdmission =
      (st.outboundAdmission.release (st.unitsAt handle)).2 ∧
    (st.finishSession input cause handle).sessions.get handle = none := by
  unfold finishSession
  cases hget : st.sessions.get handle with
  | none =>
    unfold unitsAt
    rw [hget]
    exact ⟨rfl, rfl⟩
  | some session =>
    dsimp only
    generalize (session.batcher.pushShutdownComplete.flush (input.sinkOk handle)).2 = batcher
    have hself : (st.setSession handle { session with batcher }).sessions.get handle =
        some { session with batcher } := Slab.get_set_self _ _ (by rw [hget]; rfl)
    have hunits : (st.setSession handle { session with batcher }).unitsAt handle =
        st.unitsAt handle := by
      unfold unitsAt
      rw [hself, hget]
      rfl
    obtain ⟨hwindow, hgone⟩ :=
      removeSession_window (st.setSession handle { session with batcher }) handle cause
    rw [hunits] at hwindow
    exact ⟨hwindow, hgone⟩

theorem Delivers.removes
    (hwindow : st'.outboundAdmission = (st.outboundAdmission.release (st.unitsAt handle)).2)
    (hgone : st'.sessions.get handle = none)
    (halone : (st.outboundAdmission.release (st.unitsAt handle)).1 = true → st.AloneAt handle)
    (hdoomed : ∀ k, k ≠ handle → st.Doomed k → st'.Doomed k) : Delivers st st' := by
  constructor
  · intro k hsome
    refine hdoomed k ?_
    rintro rfl
    rw [hgone] at hsome
    cases hsome
  · intro hreopens k session session' hget hget'
    have hlowers := reopens_iff.1 hreopens
    rw [hwindow] at hlowers
    have hmem := Slab.mem_keys_of_get hget
    obtain rfl := halone ((st.outboundAdmission.release_wakes_iff_lowers _).2 hlowers) k hmem
    rw [hgone] at hget'
    cases hget'

theorem Delivers.noneClosed (h : st.stage.doom = .closed) (hclosed : st.closedSessions = [])
    (hwindow : st'.outboundAdmission = st.outboundAdmission) : Delivers st st' := by
  refine .of_window hwindow ?_
  intro k _ hdoomed
  rw [doomed_closed h, hclosed] at hdoomed
  cases hdoomed

theorem Delivers.removesClosed {closedSessions : List ℕ} (h : st.stage.doom = .closed)
    (hclosed : st.closedSessions = handle :: closedSessions)
    (hrest : st'.rest = { st with closedSessions }.rest)
    (hwindow : st'.outboundAdmission = (st.outboundAdmission.release (st.unitsAt handle)).2)
    (hgone : st'.sessions.get handle = none)
    (halone : (st.outboundAdmission.release (st.unitsAt handle)).1 = true → st.AloneAt handle) :
    Delivers st st' := by
  refine .removes hwindow hgone halone ?_
  intro k hk hdoomed
  obtain ⟨hstage', -, hclosed'⟩ := lists_of_rest hrest
  rw [doomed_closed h, hclosed] at hdoomed
  rw [doomed_closed (by rw [hstage']; exact h), hclosed']
  rcases List.mem_cons.1 hdoomed with rfl | hmem
  · exact absurd rfl hk
  · exact hmem

end Removal

/-- The slot of the session that may give units back in the next call of the loop. -/
def givesBack (st : SharedClientLoop C Own) : Option ℕ :=
  match st.stage with
  | .rx q => q.rest.head?.bind st.routed
  | .expired _ (handle :: _) | .pendingWrites (handle :: _) => some handle
  | _ => st.removes

/-- Handles fit in 32 bits, and when all that waits on the session that may give units back would
reopen the window, no other session is there to be told. -/
def WakesAll : Step Own → SharedClientLoop C Own → Prop
  | .tick _, st => (∀ k ∈ st.sessions.keys, k < UInt32.size) ∧ ∀ handle ∈ st.givesBack,
      (st.outboundAdmission.release (st.unitsAt handle)).1 = true → st.AloneAt handle
  | _, _ => True

instance (i : Step Own) (st : SharedClientLoop C Own) : Decidable (WakesAll i st) :=
  match i with
  | .tick _ => by dsimp only [WakesAll]; infer_instance
  | .openSession .. | .send .. | .tryAdmitOutbound .. | .releaseOutboundAdmission .. =>
    .isTrue trivial

section Alone

variable {input : SharedInput} {st : SharedClientLoop C Own} {handle : ℕ}

theorem WakesAll.alone_of_call (h : WakesAll (.tick input) st)
    (hgives : st.givesBack = some handle) {call : ClientHandler C → ClientHandler C}
    (hcall : ∀ h : ClientHandler C, h.Returns (call h))
    (hreopens : reopens st (st.collectAtomic input handle call).2 = true) : st.AloneAt handle := by
  obtain ⟨hbefore, hafter⟩ := reopens_iff.1 hreopens
  rw [window_collectAtomic] at hafter
  refine h.2 handle hgives ?_
  unfold unitsAt
  cases hget : st.sessions.get handle with
  | none =>
    rw [hget] at hafter
    cases hbefore.symm.trans hafter
  | some session =>
    rw [hget] at hafter
    exact (hcall (st.lend session)).wakes hbefore hafter

theorem stays_of_call {call : ClientHandler C → ClientHandler C}
    (hcall : ∀ h : ClientHandler C, (call h).outboundAdmission = h.outboundAdmission)
    (hreopens : reopens st (st.collectAtomic input handle call).2 = true) : st.AloneAt handle := by
  rw [reopens_of_window] at hreopens
  · cases hreopens
  · rw [window_collectAtomic]
    cases st.sessions.get handle with
    | none => rfl
    | some session => exact hcall (st.lend session)

end Alone

variable [ClientProtocol C Own]

section Ticks

variable {input : SharedInput} {st : SharedClientLoop C Own}

theorem Delivers.submitSends {next : SharedStage}
    (h : ∀ st', st'.outboundAdmission = st.outboundAdmission →
      st'.rest = { st with stage := next }.rest → Delivers st st') :
    Delivers st (st.submitSends input next) := by
  have hsent := frame_sends st input
  unfold SharedClientLoop.submitSends
  dsimp only
  split_ifs
  · exact .leaves rfl
  · have hwindow := window_of_frame hsent
    refine h _ hwindow ?_
    have hmoved := congrArg (fun st₁ : SharedClientLoop C Own => { st₁ with stage := next })
      (rest_of_frame hsent)
    exact hmoved

variable [LawfulClientProtocol C Own]

theorem packet_delivers {q : SharedRx} {p : Packet} (hstage : st.stage.doom = .nobody)
    (halone : ∀ handle, st.routed p = some handle → reopens st (st.collectAtomic input handle
      (ClientProtocol.processPacketForHandle (UInt32.ofNat handle) p 0 input.now)).2 = true →
      st.AloneAt handle) : Delivers st (st.packet input q p) := by
  unfold SharedClientLoop.packet
  cases hrouted : st.routed p with
  | none => exact .calm hstage rfl
  | some handle =>
    have hcollects := (collectAtomic_collects (packet_tells (UInt32.ofNat handle) p 0 input.now)
      (halone handle hrouted)).refreshed
    dsimp only
    generalize refreshed handle (st.collectAtomic input handle
      (ClientProtocol.processPacketForHandle (UInt32.ofNat handle) p 0 input.now)) = r
      at hcollects ⊢
    obtain ⟨_ | _, st'⟩ := r
    · refine ⟨fun _ _ hdoomed => absurd hdoomed (doomed_iff hstage).1, ?_⟩
      intro hreopens k session session' hget _
      have hmem := Slab.mem_keys_of_get hget
      exact .inr ((doomed_iff rfl).2 (hcollects.alone hreopens k hmem))
    · refine ⟨fun _ _ hdoomed => absurd hdoomed (doomed_iff hstage).1, ?_⟩
      intro hreopens k session session' hget hget'
      have hmem := Slab.mem_keys_of_get hget
      obtain rfl := hcollects.alone hreopens k hmem
      exact .inl (hcollects.wakes hreopens rfl session session' hget hget')

variable [ReturnsUnits C Own]

variable (st input) in
theorem dispatchCommand_delivers (hsmall : ∀ k ∈ st.sessions.keys, k < UInt32.size)
    (hstage : st.stage.doom = .releasing) (queued : SharedQueued Own) :
    Delivers st (st.dispatchCommand input queued) := by
  have hstage' : (st.dispatchCommand input queued).stage.doom = .releasing := by
    rw [(dispatchCommand_agenda input st queued).1]
    exact hstage
  unfold dispatchCommand at hstage' ⊢
  cases hcmd : queued.cmd with
  | session sessionHandle cmd =>
    rw [hcmd] at hstage'
    exact .of_spreads (sessionCommand_spreads input st hsmall _ sessionHandle cmd) hstage hstage'
  | openSession serverAddr serverName sessionTicket =>
    rw [hcmd] at hstage'
    obtain ⟨-, hpending, hwindow⟩ :=
      orders_openSession input st queued.meant serverAddr serverName sessionTicket
    exact .keepsReleasing hstage hstage' hwindow hpending

/-- Everything one call of the loop can do to the sessions that wait for the window. -/
theorem tick_delivers (h : WakesAll (.tick input) st) : Delivers st (st.tick input) := by
  have hgives : st.givesBack = st.givesBack := rfl
  conv_rhs at hgives => unfold givesBack removes removesAt
  have hdoom : st.stage.doom = st.stage.doom := rfl
  unfold tick
  generalize hstage : st.stage = stage at hgives
  conv_rhs at hdoom => rw [hstage]
  unfold tickAt
  cases stage with
  | poll =>
    dsimp only
    cases input.rx with
    | none => exact .leaves rfl
    | some rx => exact .keepsReleasing hdoom rfl rfl rfl
  | commands drained rx =>
    dsimp only
    cases st.channel with
    | nil => exact .keepsReleasing hdoom rfl rfl rfl
    | cons queued channel =>
      dsimp only
      split_ifs
      · have hdispatched := dispatchCommand_delivers input
          { st with channel, stage := .commands (drained + 1) rx } h.1 rfl queued
        refine ⟨fun k hsome hdoomed => hdispatched.doomed k hsome ?_, hdispatched.wakes⟩
        exact (doomed_releasing hdoom).1 hdoomed
      · exact .keepsReleasing hdoom rfl rfl rfl
  | commandSends rx =>
    refine .submitSends fun st' hwindow hrest => ?_
    obtain ⟨hstage', hpending, -⟩ := lists_of_rest hrest
    exact .keepsReleasing hdoom (by rw [hstage']; rfl) hwindow hpending
  | release rx =>
    dsimp only at hgives ⊢
    cases hpending : st.pendingRelease with
    | nil =>
      refine .of_window rfl ?_
      intro k _ hdoomed
      obtain ⟨release, hmem, -⟩ := (doomed_releasing hdoom).1 hdoomed
      rw [hpending] at hmem
      cases hmem
    | cons release pendingRelease =>
      rw [hpending] at hgives
      obtain ⟨hwindow, hgone⟩ := finishSession_window { st with pendingRelease }
        release.sessionHandle.toNat input .released
      refine .removes hwindow hgone (h.2 _ hgives) ?_
      intro k hk hdoomed
      have hrest := rest_finishSession input { st with pendingRelease }
        release.sessionHandle.toNat .released
      obtain ⟨hstage', -, -⟩ := lists_of_rest hrest
      obtain ⟨release', hmem, hhandle⟩ := (doomed_releasing hdoom).1 hdoomed
      rw [doomed_releasing (by rw [hstage']; exact hdoom), releasing_of_rest hrest]
      rw [hpending] at hmem
      rcases List.mem_cons.1 hmem with rfl | hmem
      · exact absurd hhandle.symm hk
      · exact ⟨release', hmem, hhandle⟩
  | rx q =>
    dsimp only at hgives ⊢
    cases hrest : q.rest with
    | nil => exact .calm hdoom rfl
    | cons p rest =>
      refine packet_delivers hdoom ?_
      intro handle hrouted
      rw [hrest, List.head?_cons, Option.bind_some, hrouted] at hgives
      exact h.alone_of_call hgives (ReturnsUnits.packet _ p 0 input.now)
  | rxCap handle q =>
    have hwindow := window_of_frame (frame_capFlush input st handle)
    dsimp only
    generalize st.capFlush input handle = r at hwindow ⊢
    obtain ⟨_ | _, st'⟩ := r
    · exact .calm hdoom hwindow
    · exact .calm hdoom hwindow
  | rxRemove handle q =>
    obtain ⟨hwindow, hgone⟩ := removeSession_window st handle .refused
    refine .removes hwindow hgone (h.2 _ hgives) ?_
    intro k hk hdoomed
    exact absurd ((doomed_iff hdoom).1 hdoomed) hk
  | rxSends q =>
    dsimp only
    split_ifs
    · exact .submitSends fun st' hwindow _ => .calm hdoom hwindow
    · exact .calm hdoom rfl
  | timers => exact .calm hdoom rfl
  | expired now handles =>
    cases handles with
    | nil => exact .keepsClosed hdoom rfl rfl rfl
    | cons handle rest =>
      exact .orClose (collectAtomic_collects (timers_tells _ now _)
        (h.alone_of_call hgives (ReturnsUnits.timers _ now _))).refreshed hdoom rfl rfl
  | expiredCap now handles =>
    cases handles with
    | nil => exact .keepsClosed hdoom rfl rfl rfl
    | cons handle rest => exact .orClose (.of_frame (frame_capFlush input st handle)) hdoom rfl rfl
  | appEvents handles =>
    cases handles with
    | nil => exact .keepsClosed hdoom rfl rfl rfl
    | cons handle rest =>
      exact .orClose (collectAtomic_collects
        (fun h => (LawfulClientProtocol.pollAppEvents _ _ _ h).tells)
        (stays_of_call (ReturnsUnits.pollAppEvents _ _ _))).refreshed hdoom rfl rfl
  | drainEvents handles =>
    cases handles with
    | nil => exact .keepsClosed hdoom rfl rfl rfl
    | cons handle rest =>
      exact .orClose (collectAtomic_collects
        (fun h => (LawfulClientProtocol.pollDrainEvents _ _ h).tells)
        (stays_of_call (ReturnsUnits.pollDrainEvents _ _))) hdoom rfl rfl
  | pendingWrites handles =>
    cases handles with
    | nil => exact .keepsClosed hdoom rfl rfl rfl
    | cons handle rest =>
      exact .orClose (collectAtomic_collects
        (fun h => (LawfulClientProtocol.flushPendingWrites _ h).tells)
        (h.alone_of_call hgives (ReturnsUnits.flushPendingWrites _))) hdoom rfl rfl
  | cap handles =>
    cases handles with
    | nil => exact .keepsClosed hdoom rfl rfl rfl
    | cons handle rest => exact .orClose (.of_frame (frame_capFlush input st handle)) hdoom rfl rfl
  | closed =>
    dsimp only at hgives ⊢
    cases hclosed : st.closedSessions with
    | nil => exact .noneClosed hdoom hclosed rfl
    | cons handle closedSessions =>
      rw [hclosed] at hgives
      obtain ⟨hwindow, hgone⟩ := removeSession_window { st with closedSessions } handle .refused
      exact .removesClosed hdoom hclosed
        (rest_removeSession { st with closedSessions } handle .refused)
        hwindow hgone (h.2 _ hgives)
  | sends =>
    exact .submitSends fun st' hwindow _ => .calm hdoom hwindow
  | flush handles =>
    cases handles with
    | nil => exact .keepsClosed hdoom rfl rfl rfl
    | cons handle rest =>
      dsimp only
      refine .orClose (.of_frame ?_) hdoom rfl rfl
      exact frame_flush input st handle
  | reap =>
    dsimp only at hgives ⊢
    cases hclosed : st.closedSessions with
    | nil => exact .noneClosed hdoom hclosed rfl
    | cons handle closedSessions =>
      rw [hclosed] at hgives
      obtain ⟨hwindow, hgone⟩ := finishSession_window { st with closedSessions }
        handle input .reaped
      exact .removesClosed hdoom hclosed
        (rest_finishSession input { st with closedSessions } handle .reaped) hwindow hgone
        (h.2 _ hgives)
  | done =>
    dsimp only
    unfold finish
    by_cases hexit : st.sessions.len = 0 ∧ input.pendingTx = 0
    · rw [if_pos hexit]
      exact .calm hdoom rfl
    · rw [if_neg hexit]
      exact .calm hdoom rfl
  | returning cause => exact .leaves rfl
  | exited cause => exact .leaves hdoom

end Ticks

/-- A session that was there when the window reopened: its slot, which session it was, and how
many events had been put in its batches by then. -/
structure Owed where
  handle : ℕ
  uid : ℕ
  seen : ℕ
  deriving DecidableEq, Repr

def roll (st : SharedClientLoop C Own) : List Owed :=
  st.sessions.keys.filterMap fun handle => (st.sessions.get handle).map fun session =>
    ⟨handle, session.uid, session.batcher.log.length⟩

/-- The loop, and who is to be told of a reopening in the current iteration. `owed` is not part
of the program. -/
structure Watched (C Own : Type) where
  loop : SharedClientLoop C Own
  owed : List Owed

namespace Watched

def init (localAddr : SocketAddr) : Watched C Own := ⟨.init localAddr, []⟩

/-- A wake-up is owed to the sessions that are there when a release of the loop returns `true`.
A new iteration starts at `poll`. -/
def step (i : Step Own) (w : Watched C Own) : Watched C Own :=
  let loop := w.loop.step i
  match i with
  | .tick _ =>
    let owed := if w.loop.stage = .poll then [] else w.owed
    ⟨loop, if reopens w.loop loop then owed ++ w.loop.roll else owed⟩
  | _ => ⟨loop, w.owed⟩

/-- Who is owed a wake-up has got it or is to go, as long as the session is the same. -/
structure Informed (w : Watched C Own) : Prop where
  below : ∀ handle session, w.loop.sessions.get handle = some session →
    session.uid < w.loop.nextUid
  owed : ∀ o ∈ w.owed, o.uid < w.loop.nextUid ∧
    ∀ session, w.loop.sessions.get o.handle = some session → session.uid = o.uid →
      session.Woke o.seen ∨ w.loop.Doomed o.handle

variable {w : Watched C Own}

omit [ClientProtocol C Own] in
theorem mem_roll {st : SharedClientLoop C Own} {o : Owed} (h : o ∈ st.roll) :
    ∃ session, st.sessions.get o.handle = some session ∧ session.uid = o.uid ∧
      session.batcher.log.length = o.seen := by
  unfold roll at h
  obtain ⟨handle, -, ho⟩ := List.mem_filterMap.1 h
  obtain ⟨session, hget, rfl⟩ := Option.map_eq_some_iff.1 ho
  exact ⟨session, hget, rfl, rfl⟩

omit [ClientProtocol C Own] in
theorem Informed.below_evolves {victim : Option ℕ} {st st' : SharedClientLoop C Own}
    (hevolves : Evolves victim st st')
    (h : ∀ handle session, st.sessions.get handle = some session → session.uid < st.nextUid) :
    (∀ handle session, st'.sessions.get handle = some session → session.uid < st'.nextUid) ∧
      st.nextUid ≤ st'.nextUid := by
  cases hevolves with
  | goesOn hgoes =>
    rw [hgoes.nextUid]
    refine ⟨?_, Nat.le_refl _⟩
    intro handle session hget
    obtain ⟨session₀, hget₀, hsame⟩ := hgoes.sessions.get hget
    rw [hsame.uid]
    exact h handle session₀ hget₀
  | opens huid _ hinsert hnext =>
    rw [hinsert, hnext]
    refine ⟨?_, by omega⟩
    intro handle session' hget
    rw [Slab.get_insert] at hget
    split_ifs at hget
    · obtain rfl := Option.some.inj hget
      omega
    · have hlt := h handle session' hget
      omega
  | refused _ _ hremoved hnext | finished _ _ hremoved hnext =>
    rw [hnext]
    refine ⟨?_, Nat.le_refl _⟩
    intro handle session' hget
    rw [hremoved] at hget
    split_ifs at hget
    exact h handle session' hget

omit [ClientProtocol C Own] in
theorem evolves_back {victim : Option ℕ} {st st' : SharedClientLoop C Own}
    (hevolves : Evolves victim st st') {handle : ℕ} {session' : SharedClientSession C}
    (hget : st'.sessions.get handle = some session') (hold : session'.uid < st.nextUid) :
    ∃ session, st.sessions.get handle = some session ∧ session.Goes session' := by
  cases hevolves with
  | goesOn hgoes => exact hgoes.sessions.get hget
  | opens huid _ hinsert =>
    rw [hinsert, Slab.get_insert] at hget
    split_ifs at hget
    · obtain rfl := Option.some.inj hget
      omega
    · exact ⟨session', hget, .refl _⟩
  | refused _ _ hremoved | finished _ _ hremoved =>
    rw [hremoved] at hget
    split_ifs at hget
    exact ⟨session', hget, .refl _⟩

theorem mem_owed_tick {input : SharedInput} {o : Owed}
    (ho : o ∈ (w.step (.tick input)).owed) :
    o ∈ w.owed ∨ reopens w.loop (w.loop.tick input) = true ∧ o ∈ w.loop.roll := by
  have hold : o ∈ (if w.loop.stage = .poll then [] else w.owed) → o ∈ w.owed := by
    intro ho
    split_ifs at ho
    · cases ho
    · exact ho
  have hreopens : o ∈ if reopens w.loop (w.loop.tick input) then
      (if w.loop.stage = .poll then [] else w.owed) ++ w.loop.roll
      else if w.loop.stage = .poll then [] else w.owed := ho
  by_cases hlowers : reopens w.loop (w.loop.tick input) = true
  · rw [if_pos hlowers] at hreopens
    rcases List.mem_append.1 hreopens with ho | ho
    · exact .inl (hold ho)
    · exact .inr ⟨hlowers, ho⟩
  · rw [if_neg hlowers] at hreopens
    exact .inl (hold hreopens)

variable [LawfulClientProtocol C Own] [ReturnsUnits C Own]

theorem Informed.tick {input : SharedInput} (hwakes : WakesAll (.tick input) w.loop)
    (h : w.Informed) : (w.step (.tick input)).Informed := by
  have hdelivers := tick_delivers hwakes
  have hevolves := tick_evolves input w.loop
  obtain ⟨hbelow, hle⟩ := below_evolves hevolves h.below
  -- what was owed before is still seen to
  have hkept : ∀ o ∈ w.owed, o.uid < (w.loop.tick input).nextUid ∧
      ∀ session', (w.loop.tick input).sessions.get o.handle = some session' →
        session'.uid = o.uid → session'.Woke o.seen ∨ (w.loop.tick input).Doomed o.handle := by
    intro o ho
    obtain ⟨hlt, howed⟩ := h.owed o ho
    refine ⟨by omega, ?_⟩
    intro session' hget' huid
    obtain ⟨session, hget, hgoes⟩ := evolves_back hevolves hget' (by omega)
    rcases howed session hget (hgoes.uid.symm.trans huid) with hwoke | hdoomed
    · exact .inl (hwoke.goes hgoes)
    · exact .inr (hdelivers.doomed o.handle (by rw [hget']; rfl) hdoomed)
  refine ⟨hbelow, ?_⟩
  intro o ho
  rcases mem_owed_tick ho with ho | ⟨hreopens, ho⟩
  · exact hkept o ho
  · obtain ⟨session, hget, huid, hseen⟩ := mem_roll ho
    have hlt := h.below o.handle session hget
    refine ⟨by show o.uid < (w.loop.tick input).nextUid; omega, ?_⟩
    intro session' hget' _
    rw [← hseen]
    exact hdelivers.wakes hreopens o.handle session session' hget hget'

theorem Informed.step {i : Step Own} (hwakes : WakesAll i w.loop) (h : w.Informed) :
    (w.step i).Informed := by
  by_cases hi : ∃ input, i = .tick input
  · obtain ⟨input, rfl⟩ := hi
    exact h.tick hwakes
  · have hjs : ∀ input, i ≠ .tick input := fun input heq => hi ⟨input, heq⟩
    obtain ⟨sent, accepted, window, heq, -⟩ := step_js hjs w.loop
    have hstep : w.step i = ⟨w.loop.step i, w.owed⟩ := by
      cases i with
      | tick input => exact absurd rfl (hjs input)
      | openSession => rfl
      | send => rfl
      | tryAdmitOutbound => rfl
      | releaseOutboundAdmission => rfl
    rw [hstep, heq]
    exact ⟨h.below, h.owed⟩

end Watched

/-- On a shared worker, as long as a session whose pending writes would reopen the window is
alone when it may give them back: when a release of the loop has returned `true`, a wake-up
is appended to the batch of every session that was there and is still there at the end of the
iteration. -/
theorem wake_ups_reach_sessions [LawfulClientProtocol C Own] [ReturnsUnits C Own]
    (localAddr : SocketAddr) (w : Watched C Own)
    (hreach : Runs.Reach Watched.step (fun i w => WakesAll i w.loop) (.init localAddr) w)
    (hdone : w.loop.stage = .done) :
    ∀ o ∈ w.owed, ∀ session, w.loop.sessions.get o.handle = some session → session.uid = o.uid →
      wakeUp ∈ session.batcher.log.drop o.seen := by
  have hinformed : w.Informed := by
    refine hreach.invariant ⟨?_, ?_⟩ fun i w h hwakes => h.step hwakes
    · intro handle session hget
      cases Slab.get_empty.symm.trans hget
    · intro o ho
      cases ho
  intro o ho session hget huid
  rcases (hinformed.owed o ho).2 session hget huid with hwoke | hdoomed
  · exact hwoke
  · have hnobody : w.loop.stage.doom = .nobody := by
      rw [hdone]
      rfl
    exact ((doomed_iff hnobody).1 hdoomed).elim

end SharedClientLoop

namespace WakeUps

open SharedClientLoop ClientClose ShutdownSentinel SessionIsolation

/-- One unit more than the low mark is queued, and a writer is refused. -/
def pressure {Own : Type} : List (Step Own) :=
  [.tryAdmitOutbound (outboundAdmissionLowWater + 1) false,
    .tryAdmitOutbound outboundAdmissionHighWater false]

/-- A payload of one byte is dispatched to the first of two sessions. -/
def sending {Own : Type} : List (Step Own) :=
  SessionIsolation.opened ++ pressure ++ [.send 0 (.streamSend 0 [1] false)] ++ ticks 22

/-- The first of two sessions is connected and then blocked, and takes a payload of one byte,
which waits. -/
def waiting {Own : Type} : List (Step Own) :=
  SessionIsolation.opened ++ [.tick { rx := some [Scripted.packet .other [1] [0],
    Scripted.packet .other [1] [4, 0]] }] ++ ticks 27 ++ pressure ++
    [.send 0 (.streamSend 0 [1] false)] ++ ticks 23

def h3Run (steps : List (Step H3Own)) : Watched (H3Connection Scripted) H3Own :=
  Runs.run Watched.step steps (.init localAddr)

theorem wake_ups_reach_sessions_sending :
    (h3Run sending).owed.map (fun o => (o.handle, o.uid)) = [(0, 0), (1, 1)] ∧
      ∀ o ∈ (h3Run sending).owed, ∀ session,
        (h3Run sending).loop.sessions.get o.handle = some session → session.uid = o.uid →
          wakeUp ∈ session.batcher.log.drop o.seen := by
  refine ⟨by decide +kernel, ?_⟩
  refine wake_ups_reach_sessions localAddr (h3Run sending) ?_ (by decide +kernel)
  exact Runs.Reach.start.run (by decide +kernel)

/-- The other session is live at the end of the iteration, was there when the window reopened,
and has got nothing. -/
def Unheard (w : Watched (H3Connection Scripted) H3Own) : Prop :=
  w.loop.stage = .done ∧ w.loop.outboundAdmission.pressured = false ∧ ⟨1, 1, 0⟩ ∈ w.owed ∧
    (w.loop.sessions.get 1).map (fun session => (session.uid, session.batcher.log)) = some (1, [])

instance (w : Watched (H3Connection Scripted) H3Own) : Decidable (Unheard w) :=
  inferInstanceAs (Decidable (_ ∧ _ ∧ _ ∧ _))

/-- The removal of a session with a pending write reopens the window and tells nobody, and the
retry of a pending write tells only the session it belongs to. -/
theorem reopening_unheard :
    (Unheard (h3Run (waiting ++ [.send 0 .releaseSession] ++ ticks 18)) ∧
      Runs.Reach Watched.step (fun _ _ => True) (.init localAddr)
        (h3Run (waiting ++ [.send 0 .releaseSession] ++ ticks 18))) ∧
    Unheard (h3Run (waiting ++
      [.tick { rx := some [Scripted.packet .other [1] [4, 200]] }] ++ ticks 23)) ∧
      Runs.Reach Watched.step (fun _ _ => True) (.init localAddr)
        (h3Run (waiting ++
          [.tick { rx := some [Scripted.packet .other [1] [4, 200]] }] ++ ticks 23)) := by
  refine ⟨⟨by decide +kernel, ?_⟩, by decide +kernel, ?_⟩
  · exact Runs.Reach.start.run (by decide +kernel)
  · exact Runs.Reach.start.run (by decide +kernel)

end WakeUps

end Http3
