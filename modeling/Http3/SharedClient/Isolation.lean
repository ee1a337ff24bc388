import Http3.ShutdownSentinel

/-! Which session a command on a shared worker acts on. Commands name a session by
the slab index it was opened at, and the index is given out again. -/

namespace Http3

/-- A session that was told, at most, that writers may retry. -/
structure SharedClientSession.Woken {C : Type} (a b : SharedClientSession C) : Prop where
  uid : b.uid = a.uid
  handler : b.handler = a.handler
  serverAddr : b.serverAddr = a.serverAddr
  log : Appends (· = ⟨none, .writeReady 0⟩) a.batcher.log b.batcher.log

namespace SharedClientSession

variable {C : Type} {a b c : SharedClientSession C}

theorem Woken.refl (a : SharedClientSession C) : a.Woken a := ⟨rfl, rfl, rfl, .refl _⟩

theorem Woken.trans (hab : a.Woken b) (hbc : b.Woken c) : a.Woken c where
  uid := hbc.uid.trans hab.uid
  handler := hbc.handler.trans hab.handler
  serverAddr := hbc.serverAddr.trans hab.serverAddr
  log := hab.log.trans hbc.log

end SharedClientSession

/-- Whether a command in the channel names the slot. -/
def SharedQueued.names {Own : Type} (handle : ℕ) (queued : SharedQueued Own) : Bool :=
  match queued.cmd with
  | .openSession _ _ _ => false
  | .session sessionHandle _ => sessionHandle.toNat = handle

namespace SharedClientLoop

open SharedClientSession

variable {C Own : Type}

/-- Every session but the one at `handle` is at most woken, and that one stays
the session it is. -/
abbrev OnlyAt (handle : ℕ) (st st' : SharedClientLoop C Own) : Prop :=
  Keeps (fun k a b => b.uid = a.uid ∧ (k ≠ handle → a.Woken b)) st st'

section OnlyAt

variable (input : SharedInput) (st : SharedClientLoop C Own) (handle : ℕ)

theorem OnlyAt.refl : OnlyAt handle st st := Keeps.refl (fun _ a => ⟨rfl, fun _ => .refl a⟩) st

variable {st handle} in
theorem OnlyAt.of_eq {st' : SharedClientLoop C Own} (hbooks : st'.books = st.books) :
    OnlyAt handle st st' :=
  Keeps.of_eq (fun _ a => ⟨rfl, fun _ => .refl a⟩) hbooks

variable {st handle} in
theorem OnlyAt.trans {st' st'' : SharedClientLoop C Own} (h : OnlyAt handle st st')
    (h' : OnlyAt handle st' st'') : OnlyAt handle st st'' := by
  refine Keeps.trans ?_ h h'
  intro k a b c hab hbc
  exact ⟨hbc.1.trans hab.1, fun hk => (hab.2 hk).trans (hbc.2 hk)⟩

variable {st handle} in
theorem OnlyAt.setSession {a b : SharedClientSession C} (hget : st.sessions.get handle = some a)
    (huid : b.uid = a.uid) : OnlyAt handle st (st.setSession handle b) :=
  Keeps.setSession (fun _ a => ⟨rfl, fun _ => .refl a⟩) hget ⟨huid, fun hk => absurd rfl hk⟩

variable {st handle} in
theorem OnlyAt.setHandler {a : SharedClientSession C} (hget : st.sessions.get handle = some a)
    (handler : ClientHandler C) : OnlyAt handle st (st.setSession handle { a with handler }) :=
  .setSession hget rfl

theorem releaseOutbound_onlyAt (units : ℕ) :
    OnlyAt handle st (st.releaseOutbound input units) := by
  refine releaseOutbound_keeps (fun _ a => ⟨rfl, fun _ => .refl a⟩) ?_ ?_ input st units
  · intro k a b c hab hbc
    exact ⟨hbc.1.trans hab.1, fun hk => (hab.2 hk).trans (hbc.2 hk)⟩
  · intro k a batcher hlog
    exact ⟨rfl, fun _ => ⟨rfl, rfl, rfl, hlog⟩⟩

theorem appendAtomic_onlyAt (events : List Emitted) :
    OnlyAt handle st (st.appendAtomic input handle events).2 := by
  unfold appendAtomic
  cases hget : st.sessions.get handle with
  | none => exact .refl st handle
  | some session => exact .setSession hget rfl

theorem collectAtomic_onlyAt (f : ClientHandler C → ClientHandler C) :
    OnlyAt handle st (st.collectAtomic input handle f).2 := by
  unfold collectAtomic work
  cases hget : st.sessions.get handle with
  | none => exact appendAtomic_onlyAt input st handle _
  | some session =>
    have hwork : OnlyAt handle st { st.setSession handle
        { session with handler := (f (st.lend session)).startBatch } with
        outboundAdmission := (f (st.lend session)).outboundAdmission } :=
      OnlyAt.trans (.setHandler hget _) (.of_eq rfl)
    exact hwork.trans (appendAtomic_onlyAt input _ handle _)

variable [ClientProtocol C Own]

variable {input st} in
theorem CommandPart.onlyAt {there : Prop} {meant : ℕ} {sessionHandle : UInt32}
    {st' : SharedClientLoop C Own} (h : CommandPart input there meant sessionHandle st st') :
    OnlyAt sessionHandle.toNat st st' := by
  cases h with
  | handler handler hget => exact .setHandler hget handler
  | payload => exact collectAtomic_onlyAt input st _ _
  | gives units => exact releaseOutbound_onlyAt input st _ units
  | answers => exact .of_eq rfl
  | refused => exact .of_eq rfl
  | releases => exact .of_eq rfl

theorem sessionCommand_onlyAt (meant : ℕ) (sessionHandle : UInt32) (cmd : SessionCommand Own) :
    OnlyAt sessionHandle.toNat st (st.sessionCommand input meant sessionHandle cmd) :=
  Runs.chain (.refl · _) .trans CommandPart.onlyAt
    (sessionCommand_parts input st meant sessionHandle cmd)

end OnlyAt

def Names (st : SharedClientLoop C Own) (release : PendingRelease) : Prop :=
  ∃ k session, st.sessions.get k = some session ∧ release = ⟨UInt32.ofNat k, session.uid⟩

abbrev SameUids (st st' : SharedClientLoop C Own) : Prop :=
  Keeps (fun _ a b => b.uid = a.uid) st st'

section Releases

variable {st st' st'' : SharedClientLoop C Own} {release : PendingRelease}

theorem SameUids.refl (st : SharedClientLoop C Own) : SameUids st st :=
  Keeps.refl (R := fun _ a b => b.uid = a.uid) (fun _ _ => rfl) st

theorem SameUids.trans (h : SameUids st st') (h' : SameUids st' st'') : SameUids st st'' :=
  Keeps.trans (fun _ _ _ _ hab hbc => hbc.trans hab) h h'

theorem Names.of_sameUids (hkeeps : SameUids st st') (h : st'.Names release) :
    st.Names release := by
  obtain ⟨k, session', hget', rfl⟩ := h
  obtain ⟨session, hget, huid⟩ := hkeeps.sessions.get hget'
  exact ⟨k, session, hget, by rw [huid]⟩

theorem OnlyAt.sameUids {handle : ℕ} (h : OnlyAt handle st st') : SameUids st st' :=
  ⟨h.sessions.mono fun _ _ _ hab => hab.1, h.nextUid, h.given, h.ended⟩

theorem names_pushRelease {handle : ℕ} (hsome : (st.sessions.get handle).isSome)
    (hmem : release ∈ (st.pushRelease handle).pendingRelease) :
    release ∈ st.pendingRelease ∨ st.Names release := by
  obtain ⟨session, hget⟩ := Option.isSome_iff_exists.1 hsome
  obtain hold | hnew := List.mem_append.1 hmem
  · exact .inl hold
  · right
    rw [List.mem_singleton.1 hnew]
    refine ⟨handle, session, hget, ?_⟩
    unfold uidAt
    rw [hget]
    rfl

variable (input : SharedInput)

theorem names_emitWriteReady (hmem : release ∈ (st.emitWriteReady input).pendingRelease) :
    release ∈ st.pendingRelease ∨ st.Names release := by
  -- kept while one session after the other is told
  let Named (st' : SharedClientLoop C Own) : Prop := SameUids st st' ∧
    ∀ r ∈ st'.pendingRelease, r ∈ st.pendingRelease ∨ st.Names r
  have hnamed : Named (st.emitWriteReady input) := by
    unfold emitWriteReady
    refine List.foldlRecOn st.sessions.keys _ ⟨.refl st, fun _ h => .inl h⟩ ?_
    · rintro st' ⟨hkeeps, hold⟩ handle -
      have hnext := SameUids.trans hkeeps
        (appendAtomic_onlyAt input st' handle [⟨none, .writeReady 0⟩]).sameUids
      have hsame : (st'.appendAtomic input handle [⟨none, .writeReady 0⟩]).2.rest.pendingRelease =
          st'.rest.pendingRelease :=
        congrArg pendingRelease (rest_appendAtomic input st' handle [⟨none, .writeReady 0⟩])
      have hthere : (st'.appendAtomic input handle [⟨none, .writeReady 0⟩]).1 = false →
          (st'.sessions.get handle).isSome := by
        unfold appendAtomic
        cases st'.sessions.get handle with
        | none =>
          intro hrefused
          cases hrefused
        | some session => exact fun _ => rfl
      have hslot := (appendAtomic_onlyAt input st' handle
        [⟨none, .writeReady 0⟩]).sessions.isSome_iff (k := handle)
      generalize st'.appendAtomic input handle [⟨none, .writeReady 0⟩] = r
        at hnext hsame hthere hslot
      obtain ⟨ok, st''⟩ := r
      have hold' : ∀ r ∈ st''.pendingRelease, r ∈ st.pendingRelease ∨ st.Names r := by
        intro r hr
        exact hold r (hsame ▸ hr)
      cases ok with
      | true => exact ⟨hnext, hold'⟩
      | false =>
        have hpushed : SameUids st'' (st''.pushRelease handle) :=
          Keeps.of_eq (R := fun _ a b => b.uid = a.uid) (fun _ _ => rfl) rfl
        refine ⟨SameUids.trans hnext hpushed, fun r hr => ?_⟩
        obtain hr | hr := names_pushRelease (hslot.trans (hthere rfl)) hr
        · exact hold' r hr
        · exact .inr (hr.of_sameUids hnext)
  exact hnamed.2 release hmem

theorem names_releaseOutbound {units : ℕ}
    (hmem : release ∈ (st.releaseOutbound input units).pendingRelease) :
    release ∈ st.pendingRelease ∨ st.Names release := by
  unfold releaseOutbound at hmem
  dsimp only at hmem
  split_ifs at hmem
  · obtain hold | hnamed := names_emitWriteReady input hmem
    · exact .inl hold
    · exact .inr hnamed
  · exact .inl hmem

variable [ClientProtocol C Own]

/-- A command queues the session it names for release, or sessions whose sinks
refuse what it makes the loop tell them. -/
theorem names_sessionCommand {meant : ℕ} {sessionHandle : UInt32} {cmd : SessionCommand Own}
    (hmem : release ∈ (st.sessionCommand input meant sessionHandle cmd).pendingRelease) :
    release ∈ st.pendingRelease ∨ release = ⟨sessionHandle, meant⟩ ∨ st.Names release := by
  have hparts := sessionCommand_parts input st meant sessionHandle cmd
  generalize st.sessionCommand input meant sessionHandle cmd = st' at hparts hmem
  induction hparts with
  | refl => exact .inl hmem
  | @tail st₁ _ hfirst hlast ih =>
    have huids := (Runs.chain (.refl · _) .trans CommandPart.onlyAt hfirst).sameUids
    have hkeep : release ∈ st₁.pendingRelease ∨ st₁.Names release →
        release ∈ st.pendingRelease ∨ release = ⟨sessionHandle, meant⟩ ∨ st.Names release := by
      rintro (hold | hnamed)
      · exact ih hold
      · exact .inr (.inr (hnamed.of_sameUids huids))
    cases hlast with
    | handler => exact ih hmem
    | payload streamId chunk fin =>
      have hsame : (st₁.collectAtomic input sessionHandle.toNat fun h => (ClientProtocol.queueStreamSend
          sessionHandle streamId chunk fin h).2).2.rest.pendingRelease = st₁.rest.pendingRelease :=
        congrArg pendingRelease (rest_collectAtomic input st₁ sessionHandle.toNat _)
      exact ih (hsame ▸ hmem)
    | gives => exact hkeep (names_releaseOutbound input hmem)
    | answers => exact ih hmem
    | refused hthere =>
      exact hkeep (names_pushRelease (huids.sessions.isSome_iff.trans hthere) hmem)
    | releases =>
      obtain hold | hnew := List.mem_append.1 hmem
      · exact ih hold
      · exact .inr (.inl (List.mem_singleton.1 hnew))

end Releases

variable [ClientProtocol C Own]

omit [ClientProtocol C Own] in
theorem orders_of_rest {st st' : SharedClientLoop C Own} (hrest : st'.rest = st.rest) :
    st'.channel = st.channel ∧ st'.pendingRelease = st.pendingRelease ∧ st'.given = st.given := by
  have hchannel : st'.rest.channel = st.rest.channel := congrArg channel hrest
  have hpending : st'.rest.pendingRelease = st.rest.pendingRelease :=
    congrArg pendingRelease hrest
  have hgiven : st'.rest.given = st.rest.given := congrArg given hrest
  exact ⟨hchannel, hpending, hgiven⟩

/-- The session that was last given the index that a handle names. -/
def LastGiven (st : SharedClientLoop C Own) (uid handle : ℕ) : Prop :=
  (uid, handle) ∈ st.given ∧ ∀ later, (later, handle) ∈ st.given → later ≤ uid

/-- Handles fit in 32 bits, each slot holds the session it was last given to, and
every order that waits was meant for the session that was last given its handle. -/
structure Registered (st : SharedClientLoop C Own) : Prop where
  below : ∀ g ∈ st.given, g.1 < st.nextUid
  small : ∀ g ∈ st.given, g.2 < UInt32.size
  occupant : ∀ k session, st.sessions.get k = some session → st.LastGiven session.uid k
  channel : ∀ queued ∈ st.channel, ∀ sessionHandle cmd,
    queued.cmd = .session sessionHandle cmd → st.LastGiven queued.meant sessionHandle.toNat
  releases : ∀ release ∈ st.pendingRelease,
    st.LastGiven release.meant release.sessionHandle.toNat

/-- Whether the next call of the loop takes up a request for a session. -/
def takesRequest (st : SharedClientLoop C Own) : Bool :=
  match st.stage, st.channel with
  | .commands drained _, ⟨.openSession _ _ _, _⟩ :: _ => drained < maxCommandsPerTick
  | _, _ => false

/-- A command is sent through a handle only while no later session was given the
same index, and a session is opened only at an index that fits in a handle and that
no waiting command or release names. -/
def HandlesCurrent : Step Own → SharedClientLoop C Own → Prop
  | .send uid _, st => ∀ g ∈ st.given, g.1 = uid → ∀ g' ∈ st.given, g'.2 = g.2 → g'.1 ≤ uid
  | .tick _, st => st.takesRequest = true →
      st.sessions.nextKey < UInt32.size ∧
        (∀ queued ∈ st.channel, queued.names st.sessions.nextKey = false) ∧
        ∀ release ∈ st.pendingRelease, release.sessionHandle.toNat ≠ st.sessions.nextKey
  | _, _ => True

omit [ClientProtocol C Own] in
instance (i : Step Own) (st : SharedClientLoop C Own) : Decidable (HandlesCurrent i st) :=
  match i with
  | .tick _ => by dsimp only [HandlesCurrent]; infer_instance
  | .send .. => by dsimp only [HandlesCurrent]; infer_instance
  | .openSession .. | .tryAdmitOutbound .. | .releaseOutboundAdmission .. => .isTrue trivial

section Registered

variable {st st' : SharedClientLoop C Own}

omit [ClientProtocol C Own] in
theorem LastGiven.of_given {uid handle : ℕ} (hgiven : st'.given = st.given)
    (h : st.LastGiven uid handle) : st'.LastGiven uid handle := by
  unfold LastGiven
  rw [hgiven]
  exact h

omit [ClientProtocol C Own] in
theorem LastGiven.append {uid handle : ℕ} {g : ℕ × ℕ} (hgiven : st'.given = st.given ++ [g])
    (hother : handle ≠ g.2) (h : st.LastGiven uid handle) : st'.LastGiven uid handle := by
  unfold LastGiven
  rw [hgiven]
  refine ⟨List.mem_append_left _ h.1, ?_⟩
  intro later hlater
  obtain hold | hnew := List.mem_append.1 hlater
  · exact h.2 later hold
  · exact absurd (congrArg Prod.snd (List.mem_singleton.1 hnew)) hother

omit [ClientProtocol C Own] in
theorem LastGiven.unique {uid uid' handle : ℕ} (h : st.LastGiven uid handle)
    (h' : st.LastGiven uid' handle) : uid' = uid :=
  Nat.le_antisymm (h.2 uid' h'.1) (h'.2 uid h.1)

omit [ClientProtocol C Own] in
/-- Nothing is opened, and the orders that wait have waited before, or are current. -/
theorem Registered.keeps {victim : Option ℕ} (h : st.Registered) (hevolves : Evolves victim st st')
    (hgiven : st'.given = st.given) (hchannel : ∀ queued ∈ st'.channel, queued ∈ st.channel)
    (hreleases : ∀ release ∈ st'.pendingRelease, release ∈ st.pendingRelease ∨
      st.LastGiven release.meant release.sessionHandle.toNat) : st'.Registered := by
  have hnext : st'.nextUid = st.nextUid := by
    cases hevolves with
    | goesOn hkeeps => exact hkeeps.nextUid
    | opens _ _ _ _ hgiven' =>
      rw [hgiven'] at hgiven
      exact absurd (congrArg List.length hgiven) (by simp)
    | refused _ _ _ hnext => exact hnext
    | finished _ _ _ hnext => exact hnext
  refine ⟨?_, ?_, ?_, ?_, ?_⟩
  · rw [hgiven, hnext]
    exact h.below
  · rw [hgiven]
    exact h.small
  · intro k session hsession
    apply LastGiven.of_given hgiven
    cases hevolves with
    | goesOn hkeeps =>
      obtain ⟨before, hbefore, hgoes⟩ := hkeeps.sessions.get hsession
      rw [hgoes.uid]
      exact h.occupant k before hbefore
    | opens _ _ _ _ hgiven' =>
      rw [hgiven'] at hgiven
      exact absurd (congrArg List.length hgiven) (by simp)
    | refused _ _ hget | finished _ _ hget =>
      rw [hget] at hsession
      split_ifs at hsession
      exact h.occupant k session hsession
  · intro queued hqueued sessionHandle cmd hcmd
    exact (h.channel queued (hchannel queued hqueued) sessionHandle cmd hcmd).of_given hgiven
  · intro release hrelease
    obtain hold | hcurrent := hreleases release hrelease
    · exact (h.releases release hold).of_given hgiven
    · exact hcurrent.of_given hgiven

omit [ClientProtocol C Own] in
/-- A session is opened in a slot that no waiting order names. -/
theorem Registered.opens {session : SharedClientSession C} (h : st.Registered)
    (huid : session.uid = st.nextUid) (hinsert : st'.sessions = st.sessions.insert session)
    (hnext : st'.nextUid = st.nextUid + 1)
    (hgiven : st'.given = st.given ++ [(st.nextUid, st.sessions.nextKey)])
    (hsmall : st.sessions.nextKey < UInt32.size)
    (hchannel : ∀ queued ∈ st'.channel, queued ∈ st.channel ∧
      queued.names st.sessions.nextKey = false)
    (hreleases : ∀ release ∈ st'.pendingRelease, release ∈ st.pendingRelease ∧
      release.sessionHandle.toNat ≠ st.sessions.nextKey) : st'.Registered := by
  refine ⟨?_, ?_, ?_, ?_, ?_⟩
  · rw [hgiven, hnext]
    intro g hg
    obtain hold | hnew := List.mem_append.1 hg
    · exact Nat.lt_succ_of_lt (h.below g hold)
    · rw [List.mem_singleton.1 hnew]
      exact Nat.lt_succ_self _
  · rw [hgiven]
    intro g hg
    obtain hold | hnew := List.mem_append.1 hg
    · exact h.small g hold
    · rw [List.mem_singleton.1 hnew]
      exact hsmall
  · intro k opened hopened
    rw [hinsert, Slab.get_insert] at hopened
    split_ifs at hopened with hk
    · cases hopened
      unfold LastGiven
      rw [hgiven, huid, hk]
      refine ⟨List.mem_append_right _ (List.mem_singleton_self _), ?_⟩
      intro later hlater
      obtain hold | hnew := List.mem_append.1 hlater
      · exact (h.below _ hold).le
      · exact (congrArg Prod.fst (List.mem_singleton.1 hnew)).le
    · exact (h.occupant k opened hopened).append hgiven hk
  · intro queued hqueued sessionHandle cmd hcmd
    obtain ⟨hold, hother⟩ := hchannel queued hqueued
    refine (h.channel queued hold sessionHandle cmd hcmd).append hgiven ?_
    rw [SharedQueued.names, hcmd] at hother
    exact of_decide_eq_false hother
  · intro release hrelease
    obtain ⟨hold, hother⟩ := hreleases release hrelease
    exact (h.releases release hold).append hgiven hother

theorem orders_openSession (input : SharedInput) (st : SharedClientLoop C Own) (request : ℕ)
    (serverAddr : SocketAddr) (serverName : String) (sessionTicket : Option Bytes) :
    (st.openSession input request serverAddr serverName sessionTicket).channel = st.channel ∧
      (st.openSession input request serverAddr serverName sessionTicket).pendingRelease =
        st.pendingRelease ∧
      (st.openSession input request serverAddr serverName sessionTicket).outboundAdmission =
        st.outboundAdmission := by
  unfold openSession
  cases ClientProtocol.newSession (C := C) st.nextUid input.scid st.localAddr serverAddr serverName
    sessionTicket input.now st.outboundAdmission with
  | none => exact ⟨rfl, rfl, rfl⟩
  | some handler =>
    dsimp only
    unfold syncTimer
    split <;> exact ⟨rfl, rfl, rfl⟩

omit [ClientProtocol C Own] in
theorem Registered.names {release : PendingRelease} (h : st.Registered)
    (hnames : st.Names release) : st.LastGiven release.meant release.sessionHandle.toNat := by
  obtain ⟨k, session, hget, rfl⟩ := hnames
  have hlast := h.occupant k session hget
  have hk : (UInt32.ofNat k).toNat = k := UInt32.toNat_ofNat_of_lt' (h.small _ hlast.1)
  show st.LastGiven session.uid (UInt32.ofNat k).toNat
  rw [hk]
  exact hlast

variable [LawfulClientProtocol C Own]

theorem Registered.tick (input : SharedInput) (hcurrent : HandlesCurrent (.tick input) st)
    (h : st.Registered) : (st.tick input).Registered := by
  have hevolves := tick_evolves input st
  have horders := tick_ticks input st
  generalize st.tick input = st' at hevolves horders
  cases horders with
  | @dispatches drained rx queued channel hstage hchannel hdrained hst' =>
    have htail : ∀ waiting ∈ channel, waiting ∈ st.channel := by
      intro waiting hwaiting
      rw [hchannel]
      exact List.mem_cons_of_mem _ hwaiting
    obtain ⟨cmd, meant⟩ := queued
    cases cmd with
    | openSession serverAddr serverName sessionTicket =>
      have htakes : st.takesRequest = true := by
        rw [takesRequest, hstage, hchannel]
        exact decide_eq_true hdrained
      obtain ⟨hsmall, hwaiting, hpending⟩ := hcurrent htakes
      obtain ⟨hchannel', hreleases', -⟩ := orders_openSession input
        { st with channel, stage := .commands (drained + 1) rx } meant serverAddr serverName
          sessionTicket
      have hopen : Evolves none st
          ({ st with channel, stage := .commands (drained + 1) rx }.openSession
          input meant serverAddr serverName sessionTicket) :=
        (openSession_evolves input _ none meant serverAddr serverName sessionTicket).after rfl
      change st' = SharedClientLoop.openSession _ input meant serverAddr serverName sessionTicket
        at hst'
      rw [← hst'] at hchannel' hreleases' hopen
      cases hopen with
      | goesOn hkeeps =>
        refine h.keeps hevolves hkeeps.given ?_ ?_
        · rw [hchannel']
          exact htail
        · rw [hreleases']
          exact fun release hrelease => .inl hrelease
      | opens huid _ hinsert hnext hgiven =>
        refine h.opens huid hinsert hnext hgiven hsmall ?_ ?_
        · rw [hchannel']
          exact fun waiting hmem => ⟨htail waiting hmem, hwaiting waiting (htail waiting hmem)⟩
        · rw [hreleases']
          exact fun release hmem => ⟨hmem, hpending release hmem⟩
      | refused hvictim => cases hvictim
      | finished hvictim => cases hvictim
    | session sessionHandle cmd =>
      have honly := sessionCommand_onlyAt input
        { st with channel, stage := .commands (drained + 1) rx } meant sessionHandle cmd
      obtain ⟨-, hchannel', -, -⟩ := dispatchCommand_agenda input
        { st with channel, stage := .commands (drained + 1) rx } ⟨.session sessionHandle cmd, meant⟩
      rw [← hst'] at hchannel'
      change st' = SharedClientLoop.sessionCommand _ input meant sessionHandle cmd at hst'
      refine h.keeps hevolves ?_ ?_ ?_
      · rw [hst']
        exact honly.given
      · rw [hchannel']
        exact htail
      · intro release hrelease
        rw [hst'] at hrelease
        obtain hold | rfl | hnames := names_sessionCommand input hrelease
        · exact .inl hold
        · refine .inr (h.channel ⟨.session sessionHandle cmd, meant⟩ ?_ sessionHandle cmd rfl)
          rw [hchannel]
          exact List.mem_cons_self
        · exact .inr (h.names hnames)
  | @releases rx release pendingRelease _ hpending hst' =>
    obtain ⟨hchannel', hreleases', hgiven'⟩ := orders_of_rest (rest_finishSession input
      { st with pendingRelease } release.sessionHandle.toNat .released)
    rw [← hst'] at hchannel' hreleases' hgiven'
    refine h.keeps hevolves hgiven' ?_ ?_
    · rw [hchannel']
      exact fun queued hqueued => hqueued
    · intro waiting hwaiting
      rw [hreleases'] at hwaiting
      rw [hpending]
      exact .inl (List.mem_cons_of_mem _ hwaiting)
  | goes _ hrest =>
    obtain ⟨hchannel, hpending, hgiven⟩ := orders_of_rest hrest
    refine h.keeps hevolves hgiven ?_ ?_
    · rw [hchannel]
      exact fun queued hqueued => hqueued
    · rw [hpending]
      exact fun release hrelease => .inl hrelease

theorem Registered.step {i : Step Own} (hcurrent : HandlesCurrent i st) (h : st.Registered) :
    (step i st).Registered := by
  by_cases hi : ∃ input, i = .tick input
  · obtain ⟨input, rfl⟩ := hi
    exact h.tick input hcurrent
  · have hjs : ∀ input, i ≠ .tick input := fun input heq => hi ⟨input, heq⟩
    obtain ⟨sent, accepted, window, heq, hsent⟩ := step_js hjs st
    rw [heq]
    refine ⟨h.below, h.small, h.occupant, ?_, h.releases⟩
    intro queued hqueued sessionHandle cmd hcmd
    rcases List.mem_append.1 hqueued with hold | hnew
    · exact h.channel queued hold sessionHandle cmd hcmd
    · obtain ⟨rfl, k, hk, rfl⟩ := hsent queued hnew sessionHandle cmd hcmd
      rw [UInt32.toNat_ofNat_of_lt' (h.small _ hk)]
      exact ⟨hk, fun later hlater => hcurrent _ hk rfl _ hlater rfl⟩

omit [ClientProtocol C Own] [LawfulClientProtocol C Own] in
theorem registered_init (localAddr : SocketAddr) :
    (init localAddr : SharedClientLoop C Own).Registered := by
  refine ⟨?_, ?_, ?_, ?_, ?_⟩
  · intro g hg
    cases hg
  · intro g hg
    cases hg
  · intro k session hget
    rw [init, Slab.get_empty] at hget
    cases hget
  · intro queued hqueued
    cases hqueued
  · intro release hrelease
    cases hrelease

end Registered

/-- A call that concerns session `uid`: every other session is there as before, told
at most that writers may retry, none is opened, and none but `uid` has ended. -/
structure ActsOnlyOn (uid : ℕ) (st st' : SharedClientLoop C Own) : Prop where
  others : ∀ k session, st.sessions.get k = some session → session.uid ≠ uid →
    ∃ session', st'.sessions.get k = some session' ∧ session.Woken session'
  opens : ∀ k session', st'.sessions.get k = some session' →
    ∃ session, st.sessions.get k = some session ∧ session'.uid = session.uid
  ended : ∃ gone, st'.ended = st.ended ++ gone ∧ ∀ e ∈ gone, e.uid = uid

section ActsOnlyOn

variable {st st' : SharedClientLoop C Own} {uid handle : ℕ}

omit [ClientProtocol C Own] in
theorem OnlyAt.actsOnlyOn (honly : OnlyAt handle st st')
    (hoccupant : ∀ session, st.sessions.get handle = some session → session.uid = uid) :
    ActsOnlyOn uid st st' := by
  refine ⟨?_, ?_, ?_⟩
  · intro k session hget huid
    have hslot := honly.sessions k
    rw [hget] at hslot
    generalize hget' : st'.sessions.get k = after at hslot
    cases hslot with
    | some hsession =>
      refine ⟨_, rfl, hsession.2 ?_⟩
      rintro rfl
      exact huid (hoccupant session hget)
  · intro k session' hget'
    obtain ⟨session, hget, hsession⟩ := honly.sessions.get hget'
    exact ⟨session, hget, hsession.1⟩
  · exact ⟨[], by rw [honly.ended, List.append_nil], by simp⟩

omit [ClientProtocol C Own] in
theorem finishSession_actsOnlyOn (input : SharedInput) (cause : SessionEnd)
    (hoccupant : ∀ session, st.sessions.get handle = some session → session.uid = uid) :
    ActsOnlyOn uid st (st.finishSession input cause handle) := by
  cases hget : st.sessions.get handle with
  | none =>
    unfold finishSession
    rw [hget]
    exact (OnlyAt.refl st handle).actsOnlyOn hoccupant
  | some occupant =>
    obtain ⟨hslots, -, -, hended⟩ := finishSession_of_get input st handle cause hget
    refine ⟨?_, ?_, ?_⟩
    · intro k session hsession huid
      have hk : k ≠ handle := by
        rintro rfl
        exact huid (hoccupant session hsession)
      refine ⟨session, ?_, .refl session⟩
      rw [hslots, if_neg hk]
      exact hsession
    · intro k session hsession
      rw [hslots] at hsession
      split_ifs at hsession
      exact ⟨session, hsession, rfl⟩
    · refine ⟨_, hended, ?_⟩
      intro e he
      rw [List.mem_singleton.1 he]
      exact hoccupant occupant hget

omit [ClientProtocol C Own] in
theorem Registered.meant (h : st.Registered) {meant : ℕ} (hlast : st.LastGiven meant handle)
    (session : SharedClientSession C) (hget : st.sessions.get handle = some session) :
    session.uid = meant :=
  hlast.unique (h.occupant handle session hget)

end ActsOnlyOn

/-- On a shared worker, while handles are current, each command that is dispatched
and each release that is carried out acts only on the session it was meant for. -/
theorem orders_stay_with_session [LawfulClientProtocol C Own] (localAddr : SocketAddr)
    (st : SharedClientLoop C Own) (hreach : Runs.Reach step HandlesCurrent (init localAddr) st)
    (input : SharedInput) :
    (∀ drained rx sessionHandle cmd meant channel, st.stage = .commands drained rx →
      drained < maxCommandsPerTick →
      st.channel = ⟨.session sessionHandle cmd, meant⟩ :: channel →
      ActsOnlyOn meant st (st.tick input)) ∧
    ∀ rx release pendingRelease, st.stage = .release rx →
      st.pendingRelease = release :: pendingRelease →
      ActsOnlyOn release.meant st (st.tick input) := by
  have hregistered : st.Registered :=
    hreach.invariant (registered_init localAddr) fun i st h hcurrent => h.step hcurrent
  constructor
  · intro drained rx sessionHandle cmd meant channel hstage hdrained hchannel
    have hlast := hregistered.channel ⟨.session sessionHandle cmd, meant⟩
      (by rw [hchannel]; exact List.mem_cons_self) sessionHandle cmd rfl
    have htick : st.tick input =
        { st with channel, stage := .commands (drained + 1) rx }.sessionCommand
        input meant sessionHandle cmd := by
      unfold tick tickAt
      rw [hstage]
      dsimp only
      rw [hchannel]
      exact if_pos hdrained
    have hacts := (sessionCommand_onlyAt input
      { st with channel, stage := .commands (drained + 1) rx } meant sessionHandle cmd).actsOnlyOn
      (hregistered.meant hlast)
    rw [htick]
    exact ⟨hacts.others, hacts.opens, hacts.ended⟩
  · intro rx release pendingRelease hstage hpending
    have hlast := hregistered.releases release (by rw [hpending]; exact List.mem_cons_self)
    have htick : st.tick input = { st with pendingRelease }.finishSession input .released
        release.sessionHandle.toNat := by
      unfold tick tickAt
      rw [hstage]
      dsimp only
      rw [hpending]
    have hacts : ActsOnlyOn release.meant { st with pendingRelease } _ :=
      finishSession_actsOnlyOn input .released (hregistered.meant hlast)
    rw [htick]
    exact ⟨hacts.others, hacts.opens, hacts.ended⟩

end SharedClientLoop

namespace SessionIsolation

open SharedClientLoop ClientClose ShutdownSentinel

/-- Two sessions are opened, in the slots 0 and 1. -/
def opened {Own : Type} : List (Step Own) :=
  [.openSession serverAddr "localhost" none, .tick { now := 0 }, .tick { scid := [1] },
    .openSession serverAddr "localhost" none, .tick { scid := [2] }] ++ ticks 21

/-- The first session is closed, and the loop comes to the command. -/
def closing {Own : Type} : List (Step Own) :=
  [.send 0 (.close 0 "bye"), .send 0 .releaseSession] ++ ticks 1

/-- It is also released, and the loop comes to the release. -/
def releasing {Own : Type} : List (Step Own) := closing ++ ticks 4

/-- The peer closes the first session, the loop reaps it and opens a third one in its
slot, and then the owner of the first session releases it. -/
def reaping {Own : Type} : List (Step Own) :=
  [.tick { rx := some [Scripted.packet .other [1] [2]] }] ++ ticks 25 ++
    [.openSession serverAddr "localhost" none, .tick { now := 0 }, .tick { scid := [3] },
      .send 0 .releaseSession] ++ ticks 3

def h3Closing : SharedClientLoop (H3Connection Scripted) H3Own :=
  Runs.run step (opened ++ closing) (init localAddr)

def h3Releasing : SharedClientLoop (H3Connection Scripted) H3Own :=
  Runs.run step (opened ++ releasing) (init localAddr)

def h3Late : SharedClientLoop (H3Connection Scripted) H3Own :=
  Runs.run step (opened ++ reaping) (init localAddr)

def quicLate : SharedClientLoop (QuicConnection Scripted) QuicOwn :=
  Runs.run step (opened ++ reaping) (init localAddr)

theorem orders_stay_with_session_releasing :
    ActsOnlyOn 0 h3Closing (h3Closing.tick { now := 0 }) ∧
      ActsOnlyOn 0 h3Releasing (h3Releasing.tick { now := 0 }) ∧
      (h3Releasing.tick { now := 0 }).ended.map EndedSession.uid = [0] := by
  have hclosing : Runs.Reach step HandlesCurrent (init localAddr) h3Closing :=
    Runs.Reach.start.run (by decide +kernel)
  have hreleasing : Runs.Reach step HandlesCurrent (init localAddr) h3Releasing :=
    Runs.Reach.start.run (by decide +kernel)
  have hcommands : h3Closing.stage = .commands 0 [] := by decide +kernel
  have hchannel : h3Closing.channel =
      [⟨.session 0 (.close 0 "bye"), 0⟩, ⟨.session 0 .releaseSession, 0⟩] := by decide +kernel
  have hrelease : h3Releasing.stage = .release [] := by decide +kernel
  have hpending : h3Releasing.pendingRelease = [⟨0, 0⟩] := by decide +kernel
  refine ⟨?_, ?_, by decide +kernel⟩
  · exact (orders_stay_with_session localAddr h3Closing hclosing { now := 0 }).1 0 [] 0
      (.close 0 "bye") 0 _ hcommands (by decide) hchannel
  · exact (orders_stay_with_session localAddr h3Releasing hreleasing { now := 0 }).2 [] ⟨0, 0⟩ []
      hrelease hpending

/-- The owner of a session that the loop has reaped ends a later session in its slot. -/
theorem late_release_ends_later_session :
    (Runs.Reach step (fun _ _ => True) (init localAddr) h3Late ∧ h3Late.stage = .release [] ∧
      h3Late.pendingRelease = [⟨0, 0⟩] ∧ h3Late.ended.map (fun e => (e.uid, e.cause)) =
        [(0, .reaped)] ∧
      (h3Late.tick { now := 0 }).ended.map (fun e => (e.uid, e.cause,
        e.batcher.handed.getLast?.map (·.event.eventType))) =
          [(0, .reaped, some .shutdownComplete), (2, .released, some .shutdownComplete)]) ∧
    Runs.Reach step (fun _ _ => True) (init localAddr) quicLate ∧ quicLate.stage = .release [] ∧
      quicLate.pendingRelease = [⟨0, 0⟩] ∧ quicLate.ended.map (fun e => (e.uid, e.cause)) =
        [(0, .reaped)] ∧
      (quicLate.tick { now := 0 }).ended.map (fun e => (e.uid, e.cause,
        e.batcher.handed.getLast?.map (·.event.eventType))) =
          [(0, .reaped, some .shutdownComplete), (2, .released, some .shutdownComplete)] := by
  refine ⟨⟨?_, by decide +kernel, by decide +kernel, by decide +kernel, by decide +kernel⟩,
    ?_, by decide +kernel, by decide +kernel, by decide +kernel, by decide +kernel⟩
  · exact Runs.Reach.start.run (by decide +kernel)
  · exact Runs.Reach.start.run (by decide +kernel)

end SessionIsolation

end Http3
