import Http3.Drains
import Http3.H3Server.Frame
import Http3.H3ConnectionDrained

/-! Steps of the HTTP/3 server worker that keep every session as it is: no
connection is accepted or forgotten, and only live sessions are heard of. -/

namespace Http3

namespace H3Server

variable {Q : Type} [Quiche Q] {P : ℕ → Prop}

/-- What a step may report when only the slots in `P` speak. -/
def Reports (P : ℕ → Prop) (s : H3Server Q) (e : Emitted) : Prop :=
  IsWake e ∨ ∃ slot, P slot ∧ s.Speaks slot (globalHandle s.handleOffset slot) e

/-- The step from `s` to `s'` keeps every session, and only slots in `P` speak. -/
structure Steady (P : ℕ → Prop) (s s' : H3Server Q) : Prop extends Course s s' where
  tends : SlotBooks.Tends s.books s'.books
  batch : Grows (s.Reports P) s.batch s'.batch

namespace Steady

variable {s s' s'' : H3Server Q}

theorem refl (P : ℕ → Prop) (s : H3Server Q) : Steady P s s := ⟨.refl s, .refl _, .refl⟩

theorem trans (h : Steady P s s') (h' : Steady P s' s'') : Steady P s s'' where
  toCourse := h.toCourse.trans h'.toCourse
  tends := h.tends.trans h'.tends
  batch := by
    refine h.batch.trans (h'.batch.mono ?_)
    intro e he
    rcases he with hw | ⟨slot, hp, hs⟩
    · exact .inl hw
    · refine .inr ⟨slot, hp, ?_⟩
      unfold Speaks at hs ⊢
      rwa [h.uid, h.handleOffset] at hs

theorem foldl {α : Type} {I : H3Server Q → Prop} {f : H3Server Q → α → H3Server Q}
    (hkeep : ∀ s s', Steady P s s' → I s → I s') (hf : ∀ s a, I s → Steady P s (f s a))
    (as : List α) (s : H3Server Q) (hs : I s) : Steady P s (as.foldl f s) := by
  induction as generalizing s with
  | nil => exact .refl P s
  | cons a as ih =>
    have hstep := hf s a hs
    exact hstep.trans (ih (f s a) (hkeep s _ hstep hs))

theorem releaseOutboundAdmission (h : Steady P s s') (units : ℕ) :
    Steady P s (s'.releaseOutboundAdmission units) := by
  unfold H3Server.releaseOutboundAdmission
  dsimp only
  split_ifs
  · exact { h with batch := h.batch.pushWorker (.inl rfl) }
  · exact { h with }

end Steady

theorem Serves.steady {slot : ℕ} {s s' : H3Server Q}
    (h : Serves slot (globalHandle s.handleOffset slot) s s') (hp : P slot) : Steady P s s' :=
  ⟨h.toCourse, h.tends, h.batch.mono fun _ he => he.imp id fun hs => ⟨slot, hp, hs⟩⟩

theorem Serves.steady_of_wakes {slot : ℕ} {g : UInt32} {s s' : H3Server Q}
    (h : Serves slot g s s') (hb : Grows IsWake s.batch s'.batch) : Steady P s s' :=
  ⟨h.toCourse, h.tends, hb.mono fun _ he => .inl he⟩

theorem Steady.set {s : H3Server Q} {handle : ℕ} {d : H3Connection Q} (hd : s.Has handle d) :
    Steady P s { s with connMap := s.connMap.set handle d } :=
  ((Serves.refl handle 0 s).set hd).steady_of_wakes .refl

section Polling

/-- Every connection outside `P` has nothing left to report. -/
def Hushed (P : ℕ → Prop) (s : H3Server Q) : Prop :=
  ∀ handle c, s.connMap.get handle = some c → P handle ∨ c.Drained

theorem get_pollConn (s : H3Server Q) (handle budget now : ℕ) (c : H3Connection Q) (k : ℕ) :
    (s.pollConn handle budget now c).connMap.get k =
      if k = handle ∧ (s.connMap.get handle).isSome then
        some ((H3Connection.pollH3Events ⟨handle, c.uid⟩ (globalHandle s.handleOffset handle)
          budget c s.batch).1.pollPingAcks now).2
      else s.connMap.get k :=
  ConnectionMap.get_set _

theorem pollConn_batch_of_drained (s : H3Server Q) (handle budget now : ℕ) {c : H3Connection Q}
    (hc : c.Drained) : Grows IsWake s.batch (s.pollConn handle budget now c).batch := by
  obtain ⟨hev, hdr⟩ := hc.pollH3Events ⟨handle, c.uid⟩ (globalHandle s.handleOffset handle) budget
    s.batch
  unfold pollConn
  dsimp only
  rw [hdr.pollPingAcks now, hev]
  refine Grows.refl.withdraw ?_
  intro e _ hkeep
  by_contra ht
  simp [ht] at hkeep

theorem pollConn_steady {s : H3Server Q} {handle : ℕ} {c : H3Connection Q}
    (hc : s.connMap.get handle = some c) (hq : P handle ∨ c.Drained) (budget now : ℕ) :
    Steady P s (s.pollConn handle budget now c) := by
  have hserves := (Serves.refl _ _ s).pollConn (.of_get hc) budget now
  rcases hq with hp | hd
  · exact hserves.steady hp
  · exact hserves.steady_of_wakes (pollConn_batch_of_drained s handle budget now hd)

theorem Hushed.pollConn {s : H3Server Q} (h : Hushed P s) {handle : ℕ} {c : H3Connection Q}
    (hc : s.connMap.get handle = some c) (budget now : ℕ) :
    Hushed P (s.pollConn handle budget now c) := by
  intro k d hd
  rw [get_pollConn] at hd
  by_cases hk : k = handle ∧ (s.connMap.get handle).isSome
  · rw [if_pos hk] at hd
    obtain ⟨rfl, -⟩ := hk
    refine (h k c hc).imp id fun hdr => ?_
    obtain ⟨-, hpoll⟩ := hdr.pollH3Events ⟨k, c.uid⟩ (globalHandle s.handleOffset k) budget s.batch
    rw [hpoll.pollPingAcks now] at hd
    rw [← Option.some.inj hd]
    exact hpoll
  · rw [if_neg hk] at hd
    exact h k d hd

theorem collectAppEvents_steady (budget now : ℕ) (s : H3Server Q) (h : budget = 0 ∨ Hushed P s) :
    Steady P s (s.collectAppEvents budget now) := by
  rcases h with rfl | hhushed
  · exact .refl P s
  · have hpolled : Steady P s (s.collectAppEvents budget now) ∧
        Hushed P (s.collectAppEvents budget now) := by
      refine collectEvents_keeps (P := fun s' => Steady P s s' ∧ Hushed P s') ?_
        ⟨.refl P s, hhushed⟩
      intro handle left s' c hc _ h
      exact ⟨h.1.trans (pollConn_steady hc (h.2 handle c hc) left now), h.2.pollConn hc left now⟩
    exact hpolled.1

theorem drainConn_steady (s : H3Server Q) (handle : ℕ) (h : handle ∉ s.lastExpired → P handle) :
    Steady P s (s.drainConn handle) := by
  unfold drainConn
  split_ifs with hl
  · exact .refl P s
  · cases hc : s.connMap.get handle with
    | none => exact .refl P s
    | some c =>
      have hspec : H3Connection.PollSpec ⟨handle, c.uid⟩ (globalHandle s.handleOffset handle) c _
        s.batch _ := c.pollDrainEvents_spec s.batch
      have hset := (Serves.refl handle (globalHandle s.handleOffset handle) s).set
        ((Has.of_get hc).use (.pollDrainEvents ⟨handle, c.uid⟩
          (globalHandle s.handleOffset handle) s.batch))
      dsimp only
      split_ifs
      · exact .refl P s
      · have hpolled : Serves handle (globalHandle s.handleOffset handle) s { s with
            connMap := s.connMap.set handle (c.pollDrainEvents ⟨handle, c.uid⟩
              (globalHandle s.handleOffset handle) s.batch).1
            batch := (c.pollDrainEvents ⟨handle, c.uid⟩
              (globalHandle s.handleOffset handle) s.batch).2 } :=
          { hset with
            batch := hspec.events.mono fun e he =>
              .inr (Speaks.of_polls (uidAt_of_get hc) he) }
        exact hpolled.suppressPendingDrains.steady (h hl)

theorem collectDrainEvents_steady (s : H3Server Q)
    (h : ∀ handle, handle ∉ s.lastExpired → P handle) : Steady P s s.collectDrainEvents := by
  refine Steady.foldl (I := fun s => ∀ handle, handle ∉ s.lastExpired → P handle) ?_ ?_ _ s h
  · intro s s' hstep hs handle hl
    rw [hstep.lastExpired] at hl
    exact hs handle hl
  · intro s handle hs
    exact s.drainConn_steady handle (hs handle)

theorem flushAllSends_steady (rounds now : ℕ) (s : H3Server Q) :
    Steady P s (s.flushAllSends rounds now).2 := by
  have hsends : Steady P s { s with
      connMap := (s.connMap.sendRounds rounds s.connMap.handles).2 } :=
    ConnectionMap.sendRounds_induction (P := fun m => Steady P s { s with connMap := m })
      (fun m handle c hc hm => hm.trans (.set (s := { s with connMap := m })
        ((Has.of_get hc).use .send))) rounds s.connMap.handles (.refl P s)
  -- the timers of the slots that were live at the start, one after another
  have harm : ∀ (deadline : ℕ → Option ℕ) (handles : List ℕ) (t : TimerHeap),
      (∀ k ∈ handles, (s.uidAt k).isSome) →
      ∀ k, k ∈ (handles.foldl (fun t handle => t.setDeadline handle (deadline handle))
        t).deadlines →
        k ∈ t.deadlines ∨ (s.uidAt k).isSome := by
    intro deadline handles
    induction handles with
    | nil => exact fun _ _ _ hk => .inl hk
    | cons handle handles ih =>
      intro t hlive k hk
      rcases ih _ (fun k hk => hlive k (List.mem_cons_of_mem handle hk)) k hk with hmem | hk
      · rcases TimerHeap.mem_setDeadline hmem with hold | rfl
        · exact .inl hold
        · exact .inr (hlive k List.mem_cons_self)
      · exact .inr hk
  refine { hsends with tends := { hsends.tends with deadlines := ?_ } }
  intro k hk
  refine harm _ s.connMap.handles s.timerHeap ?_ k hk
  intro k hk
  unfold uidAt
  rw [Option.isSome_map]
  exact s.connMap.mem_handles.1 hk

theorem dispatchShutdown_steady (s : H3Server Q) : Steady P s s.dispatchShutdown := by
  refine Steady.foldl (I := fun _ => True) (fun _ _ _ _ => trivial) ?_ _ s trivial
  intro s handle _
  unfold shutdownConn
  cases hc : s.connMap.get handle with
  | none => exact .refl P s
  | some c =>
    dsimp only
    split_ifs
    · exact .set ((Has.of_get hc).use (.close true 0 "server shutdown"))
    · exact .refl P s

theorem completeSessionClose_steady (s : H3Server Q) (connHandle : UInt32) :
    Steady P s (s.completeSessionClose connHandle) := by
  unfold completeSessionClose
  cases s.pendingSessionCloses.lookup connHandle with
  | none => exact .refl P s
  | some pending =>
    have herased : Steady P s
        { s with pendingSessionCloses := s.pendingSessionCloses.erase connHandle } := by
      refine { Steady.refl P s with tends := ⟨rfl, rfl, fun _ => .inl, ?_⟩ }
      rintro k (⟨key, hkey, rfl⟩ | ⟨other, hclose, rfl⟩)
      · exact .inl (.inl ⟨key, hkey, rfl⟩)
      · exact .inl (.inr ⟨other, KeyMap.isSome_of_erase hclose, rfl⟩)
    dsimp only
    cases hc : H3Server.conn? _ connHandle with
    | none => exact herased
    | some c =>
      exact herased.trans
        (.set ((Has.of_get hc).use (.close true pending.errorCode pending.reason)))

end Polling

section Flushing

theorem Has.flushOneH3PendingResponse {s : H3Server Q} {slot : ℕ} {c : H3Connection Q}
    (hc : s.Has slot c) (streamId : ℕ) (response : PendingResponse) :
    s.Has slot (flushOneH3PendingResponse streamId response c).2 := by
  have hsent : s.Has slot (if response.headersSent then
      ((.ok (), c) : Except Http3NativeError Unit × _)
      else c.sendResponse streamId response.headers
        (response.headersFin && response.body.isNone)).2 := by
    split_ifs
    · exact hc
    · exact hc.use (.sendResponse ..)
  unfold H3Server.flushOneH3PendingResponse
  dsimp only
  generalize (if response.headersSent then ((.ok (), c) : Except Http3NativeError Unit × _)
    else c.sendResponse streamId response.headers
      (response.headersFin && response.body.isNone)) = sent at hsent ⊢
  obtain ⟨result, d⟩ := sent
  cases result with
  | error e =>
    dsimp only
    split_ifs <;> exact hsent
  | ok _ =>
    cases response.body with
    | none => exact hsent
    | some body =>
      obtain ⟨c₀, hc₀, huses⟩ := hsent
      have hflush : s.Has slot _ := ⟨c₀, hc₀, huses.flush streamId body⟩
      dsimp only
      split <;> exact hflush

/-- A pending response is retried: it goes, or waits on; writes wait as before. -/
structure Retries (key : StreamKey) (s s' : H3Server Q) : Prop
    extends Serves key.1.toNat (s.handleOffset ||| key.1) s s' where
  sameWrites : s'.pendingWrites = s.pendingWrites
  waiting : ∀ k, (s'.pendingResponses.lookup k).isSome → (s.pendingResponses.lookup k).isSome

theorem flushPendingResponse_retries (s : H3Server Q) (key : StreamKey) :
    Retries key s (s.flushPendingResponse key) := by
  unfold flushPendingResponse
  cases hr : s.pendingResponses.lookup key with
  | none => exact ⟨.refl _ _ s, rfl, fun _ => id⟩
  | some response =>
    have herase := (Serves.refl key.1.toNat (s.handleOffset ||| key.1) s).erasePendingResponse
      key rfl
    have hgone : ∀ k, ((s.pendingResponses.erase key).lookup k).isSome →
        (s.pendingResponses.lookup k).isSome := fun _ => KeyMap.isSome_of_erase
    dsimp only
    cases hc : H3Server.conn? _ key.1 with
    | none => exact ⟨herase.releaseOutboundAdmission _, by simp, by simpa using hgone⟩
    | some c =>
      dsimp only
      split_ifs
      · exact ⟨herase.releaseOutboundAdmission _, by simp, by simpa using hgone⟩
      · have hd : s.Has key.1.toNat _ := Has.flushOneH3PendingResponse (.of_get hc) key.2 response
        generalize flushOneH3PendingResponse key.2 response c = flushed at hd ⊢
        obtain ⟨⟨result, response'⟩, d⟩ := flushed
        have hset := herase.set hd
        cases result with
        | error e =>
          refine ⟨(hset.releaseOutboundAdmission _).emitH3SendErrorAndReset hd _ e, ?_, ?_⟩
          · simp [emitH3SendErrorAndReset, setConn, emit]
          · simpa [emitH3SendErrorAndReset, setConn, emit] using hgone
        | ok outcome =>
          have hrel := hset.releaseOutboundAdmission outcome.releasedUnits
          dsimp only
          split_ifs
          · refine ⟨hrel.emit hd (congrArg (· ||| key.1) hrel.handleOffset) rfl, ?_, ?_⟩
            · simp [setConn, emit]
            · simpa [setConn, emit] using hgone
          · refine ⟨hrel.insertPendingResponse rfl (.inr hd.live) response', ?_, fun k hk => ?_⟩
            · simp [insertPendingResponse, setConn]
            · by_cases hkey : k = key
              · rw [hkey, hr]
                rfl
              · refine hgone k ?_
                simpa [insertPendingResponse, setConn, AList.lookup_insert_ne hkey] using hk

/-- An entry of the retry loop is about the connection in the slot of its key. -/
def Names (s : H3Server Q) (entry : StreamKey × ConnRef) : Prop :=
  entry.2.slot = entry.1.1.toNat ∧ s.uidAt entry.1.1.toNat = some entry.2.uid

/-- What the loop over pending writes keeps: sessions, routes, and connections that nothing
waits on. -/
structure WriteFlush.Sound (s : H3Server Q) (acc : WriteFlush Q) : Prop where
  course : Course s { s with connMap := acc.connMap }
  routes : acc.connMap.byDcid = s.connMap.byDcid
  conns : ∀ k, (∀ key, (s.pendingWrites.lookup key).isSome → key.1.toNat ≠ k) →
    acc.connMap.get k = s.connMap.get k
  books : DrainedOf Prod.fst s.Names s.pendingWrites acc.pending acc.drained

theorem WriteFlush.Sound.step {s : H3Server Q} {acc : WriteFlush Q} (h : Sound s acc)
    (key : StreamKey) : Sound s (acc.step key) := by
  unfold WriteFlush.step
  cases hw : acc.pending.lookup key with
  | none => exact h
  | some write =>
    have hwaits : (acc.pending.lookup key).isSome := by rw [hw]; rfl
    have hdrop : Sound s (acc.drop key write) := { h with books := h.books.erase key }
    dsimp only
    cases hc : acc.connMap.get key.1.toNat with
    | none => exact hdrop
    | some c =>
      dsimp only
      split_ifs
      · exact hdrop
      · obtain ⟨c₀, hc₀, huses⟩ := h.course.used _ _ hc
        have hd : s.Has key.1.toNat _ := ⟨c₀, hc₀, huses.flush key.2 write⟩
        generalize flushPendingWriteWithProgress (H3Connection.sendBodyArcbuf key.2) write c = r
          at hd ⊢
        have hset : Sound s { acc with connMap := acc.connMap.set key.1.toNat r.conn } := by
          refine { h with course := h.course.set hd, conns := fun k hother => ?_ }
          have hk := hother key (h.books.waiting key hwaits)
          rw [ConnectionMap.get_set, if_neg (by simp [hk.symm])]
          exact h.conns k hother
        cases r.outcome with
        | error e => exact { hset with books := hset.books.erase key }
        | ok outcome =>
          dsimp only
          split_ifs
          · have hnames : s.Names (key, refOf key.1 r.conn) := ⟨rfl, hd.uidAt⟩
            exact { hset with books := hset.books.drain hnames hwaits }
          · exact { hset with books := hset.books.retain hwaits _ }

theorem flushPendingWrites_sound (s : H3Server Q) :
    WriteFlush.Sound s (flushPendingWrites s.connMap s.pendingWrites) :=
  List.foldlRecOn _ WriteFlush.step ⟨.refl s, rfl, fun _ _ => rfl, .start⟩
    fun _ h key _ => h.step key

/-- Keys of pending data all lie in `P`. -/
def PendingIn (P : ℕ → Prop) (s : H3Server Q) : Prop :=
  (∀ key, (s.pendingWrites.lookup key).isSome → P key.1.toNat) ∧
    ∀ key, (s.pendingResponses.lookup key).isSome → P key.1.toNat

theorem flushPendingResponses_steady (keys : List StreamKey) (s : H3Server Q)
    (h : ∀ key ∈ keys, P key.1.toNat) : Steady P s (keys.foldl flushPendingResponse s) := by
  induction keys generalizing s with
  | nil => exact .refl P s
  | cons key keys ih =>
    have hserves := (s.flushPendingResponse_retries key).toServes
    rw [← globalHandle_toNat] at hserves
    exact (hserves.steady (h key (by simp))).trans (ih _ fun k hk => h k (by simp [hk]))

theorem flushPendingResponses_pending (keys : List StreamKey) (s : H3Server Q) :
    (keys.foldl flushPendingResponse s).pendingWrites = s.pendingWrites ∧
      ∀ k, ((keys.foldl flushPendingResponse s).pendingResponses.lookup k).isSome →
        (s.pendingResponses.lookup k).isSome := by
  induction keys generalizing s with
  | nil => exact ⟨rfl, fun _ => id⟩
  | cons key keys ih =>
    have hone := s.flushPendingResponse_retries key
    obtain ⟨hwrites, hwaiting⟩ := ih (s.flushPendingResponse key)
    exact ⟨hwrites.trans hone.sameWrites, fun k hk => hone.waiting k (hwaiting k hk)⟩

theorem emitDrained_steady (entries : List (StreamKey × ConnRef)) (s : H3Server Q)
    (h : ∀ e ∈ entries, P e.1.1.toNat ∧ e.2.slot = e.1.1.toNat ∧
      s.uidAt e.1.1.toNat = some e.2.uid) :
    Steady P s (entries.foldl (fun s entry =>
      s.emit entry.2 (.drain (s.handleOffset ||| entry.1.1) entry.1.2)) s) := by
  induction entries generalizing s with
  | nil => exact .refl P s
  | cons e entries ih =>
    obtain ⟨hp, hslot, huid⟩ := h e (by simp)
    have hemit : Steady P s (s.emit e.2 (.drain (s.handleOffset ||| e.1.1) e.1.2)) := by
      refine { Steady.refl P s with batch := Grows.refl.pushFor (.inr ⟨_, hp, ?_⟩) }
      exact ⟨e.2.uid, huid, by rw [← hslot], (globalHandle_toNat _ _).symm, rfl⟩
    refine hemit.trans (ih _ ?_)
    intro e' he'
    exact h e' (by simp [he'])

theorem flushAllPendingWrites_steady (s : H3Server Q) (h : PendingIn P s) :
    Steady P s s.flushAllPendingWrites := by
  have hresponses := flushPendingResponses_steady s.pendingResponses.keys s
    fun key hkey => h.2 key (AList.lookup_isSome.2 hkey)
  have hwrites := (flushPendingResponses_pending s.pendingResponses.keys s).1
  unfold flushAllPendingWrites
  dsimp only
  generalize s.pendingResponses.keys.foldl flushPendingResponse s = s₁ at hresponses hwrites ⊢
  have hsound := s₁.flushPendingWrites_sound
  generalize flushPendingWrites s₁.connMap s₁.pendingWrites = flushed at hsound ⊢
  have hmap : Steady P s₁
      { s₁ with connMap := flushed.connMap, pendingWrites := flushed.pending } := by
    refine ⟨{ hsound.course with }, SameTables.tends ⟨hsound.routes, rfl, rfl⟩ hsound.course.uid ?_,
      .refl⟩
    exact fun key hkey => .inl (hkey.imp (hsound.books.waiting key) id)
  have hrel := hmap.releaseOutboundAdmission flushed.releasedUnits
  refine (hresponses.trans hrel).trans (emitDrained_steady flushed.drained _ ?_)
  intro e he
  obtain ⟨⟨hslot, huid⟩, -, hold⟩ := hsound.books.drained e he
  rw [hwrites] at hold
  exact ⟨h.1 _ hold, hslot, (hrel.uid _).trans huid⟩

end Flushing

end H3Server

end Http3
