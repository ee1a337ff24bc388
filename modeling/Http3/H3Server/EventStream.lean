import Http3.EventLoop
import Http3.Lib.SessionLog
import Http3.H3Server.Sessions
import Http3.Scripted

/-! The stream of events the HTTP/3 server worker hands to the sink, read per
connection handle: sessions open, talk and close, one after the other. -/

namespace Http3

open SessionLog (Kind)

def EventType.sessionKind : EventType → Kind
  | .newSession => .opens
  | .sessionClose => .closes
  | _ => .talks

/-- How an event reads in the session of the handle it carries. Events of the
worker itself belong to no session. -/
def sessionView (e : Emitted) : Option (UInt32 × Kind) :=
  e.owner.map fun _ => (e.event.connHandle, e.event.eventType.sessionKind)

/-- Where the session of a handle stands after a log. -/
abbrev sessionPhase (connHandle : UInt32) (log : List Emitted) : SessionLog.Phase :=
  SessionLog.phase sessionView connHandle log

theorem EventType.sessionKind_of_isMid {t : EventType} (h : t.isMid = true) :
    t.sessionKind = .talks := by
  cases t <;> first | rfl | cases h

/-- An event the session of `connHandle` can take in its present phase without
moving: it belongs elsewhere, or it falls in the middle of an open session. -/
def Harmless (connHandle : UInt32) (p : SessionLog.Phase) (e : Emitted) : Prop :=
  ∀ kind, sessionView e = some (connHandle, kind) → kind = .talks ∧ p = .opened

theorem sessionPhase_of_harmless {connHandle : UInt32} {log events : List Emitted}
    (h : ∀ e ∈ events, Harmless connHandle (sessionPhase connHandle log) e) :
    sessionPhase connHandle (log ++ events) = sessionPhase connHandle log := by
  unfold sessionPhase
  rw [SessionLog.phase_append]
  exact SessionLog.phaseFrom_of_talks h

theorem sessionPhase_worker (connHandle : UInt32) (event : JsH3Event) (log : List Emitted) :
    sessionPhase connHandle (log ++ [⟨none, event⟩]) = sessionPhase connHandle log := by
  apply sessionPhase_of_harmless
  intro e he kind hview
  rw [List.mem_singleton.1 he] at hview
  cases hview

theorem Grows.sessionPhase {allowed : Emitted → Prop} {log a b : List Emitted}
    {connHandle : UInt32} (h : Grows allowed a b)
    (hallowed : ∀ e, allowed e → Harmless connHandle (sessionPhase connHandle (log ++ a)) e)
    (hwf : sessionPhase connHandle (log ++ a) ≠ .broken) :
    Http3.sessionPhase connHandle (log ++ b) = Http3.sessionPhase connHandle (log ++ a) := by
  induction h with
  | refl => rfl
  | push _ he ih =>
    rw [← List.append_assoc, ← ih]
    refine sessionPhase_of_harmless ?_
    intro e he'
    rw [List.mem_singleton.1 he', ih]
    exact hallowed _ he
  | refill _ _ ih =>
    rw [← ih, ← List.append_assoc, ← List.append_assoc]
    unfold Http3.sessionPhase
    rw [SessionLog.phase_concat, SessionLog.phase_concat]
    rfl
  | @withdraw batch keep _ hkeep ih =>
    rw [← ih]
    unfold Http3.sessionPhase at ih hwf ⊢
    rw [SessionLog.phase_append, SessionLog.phase_append]
    refine SessionLog.phaseFrom_filter ?_ ?_
    · intro e he hdrop k kind hview
      have hdrain := hkeep e he hdrop
      obtain ⟨ref, -, heq⟩ := Option.map_eq_some_iff.1 hview
      rw [hdrain] at heq
      exact (congrArg Prod.snd heq).symm
    · rw [← SessionLog.phase_append, ih]
      exact hwf

namespace H3Server

variable {Q : Type}

/-- The server of one worker among at most `2 ^ 12`, with at most `2 ^ 20` slots. -/
structure Sharded (s : H3Server Q) : Prop where
  offset : ∃ w : UInt32, w.toNat < 2 ^ 12 ∧ s.handleOffset = Http3.handleOffset w
  max : s.connMap.maxConnections ≤ 2 ^ 20

/-- Where the session of a slot stands, the events of the current call included. -/
def phaseAt (log : List Emitted) (s : H3Server Q) (slot : ℕ) : SessionLog.Phase :=
  sessionPhase (globalHandle s.handleOffset slot) (log ++ s.batch)

/-- The close of the connection in the slot has been reported, but it is still there. -/
def Ended (log : List Emitted) (s : H3Server Q) (slot : ℕ) : Prop :=
  (s.uidAt slot).isSome ∧ s.phaseAt log slot = .idle

instance (log : List Emitted) (s : H3Server Q) (slot : ℕ) : Decidable (s.Ended log slot) :=
  inferInstanceAs (Decidable (_ ∧ _))

/-- The log is well formed and agrees with the slab: no session is open without
a connection. -/
structure Tracks (log : List Emitted) (s : H3Server Q) : Prop where
  sharded : s.Sharded
  wellFormed : ∀ k < 2 ^ 20, s.phaseAt log k ≠ .broken
  vacant : ∀ k < 2 ^ 20, s.uidAt k = none → s.phaseAt log k = .idle

namespace Sharded

variable {s s' : H3Server Q} {a b : ℕ}

theorem slot_lt (h : s.Sharded) (hlive : (s.uidAt a).isSome) : a < 2 ^ 20 := by
  have hlt := s.connMap.lt_maxConnections (by simpa [uidAt] using hlive)
  have hmax := h.max
  omega

theorem injective (h : s.Sharded) (ha : a < 2 ^ 20) (hb : b < 2 ^ 20)
    (heq : globalHandle s.handleOffset a = globalHandle s.handleOffset b) : a = b := by
  obtain ⟨w, hw, hoff⟩ := h.offset
  rw [hoff] at heq
  exact globalHandle_injective hw ha hb heq

theorem bare_handle (h : s.Sharded) (ha : a < 2 ^ 20) (hb : b < 2 ^ 20)
    (heq : UInt32.ofNat a = globalHandle s.handleOffset b) : a = b := by
  obtain ⟨w, hw, hoff⟩ := h.offset
  have hnat := congrArg UInt32.toNat heq
  rw [hoff, toNat_globalHandle hw hb, UInt32.toNat_ofNat', Nat.mod_eq_of_lt (by omega)] at hnat
  have hzero : w.toNat = 0 := by
    by_contra hne
    have : 2 ^ 20 ≤ w.toNat * 2 ^ 20 := Nat.le_mul_of_pos_left _ (Nat.pos_of_ne_zero hne)
    omega
  rw [hzero] at hnat
  omega

theorem of_eq (h : s.Sharded) (hoff : s'.handleOffset = s.handleOffset)
    (hmax : s'.connMap.maxConnections = s.connMap.maxConnections) : s'.Sharded :=
  ⟨by rw [hoff]; exact h.offset, by rw [hmax]; exact h.max⟩

end Sharded

namespace Tracks

variable {log : List Emitted} {s s' : H3Server Q}

theorem opened (h : Tracks log s) {k : ℕ} (hlive : (s.uidAt k).isSome) (hended : ¬s.Ended log k) :
    s.phaseAt log k = .opened := by
  have hwf := h.wellFormed k (h.sharded.slot_lt hlive)
  cases hp : s.phaseAt log k with
  | opened => rfl
  | idle => exact absurd ⟨hlive, hp⟩ hended
  | broken => exact absurd hp hwf

theorem of_same (h : Tracks log s) (huid : ∀ k, s'.uidAt k = s.uidAt k)
    (hphase : ∀ k < 2 ^ 20, s'.phaseAt log k = s.phaseAt log k)
    (hoff : s'.handleOffset = s.handleOffset)
    (hmax : s'.connMap.maxConnections = s.connMap.maxConnections) :
    Tracks log s' ∧ ∀ k, s'.Ended log k → s.Ended log k := by
  refine ⟨⟨h.sharded.of_eq hoff hmax, ?_, ?_⟩, ?_⟩
  · intro k hk
    rw [hphase k hk]
    exact h.wellFormed k hk
  · intro k hk hnone
    rw [huid] at hnone
    rw [hphase k hk]
    exact h.vacant k hk hnone
  · rintro k ⟨hlive, hidle⟩
    rw [huid] at hlive
    rw [hphase k (h.sharded.slot_lt hlive)] at hidle
    exact ⟨hlive, hidle⟩

variable [Quiche Q]

theorem steady (h : Tracks log s) (hsteady : Steady (fun k => ¬s.Ended log k) s s') :
    Tracks log s' ∧ ∀ k, s'.Ended log k → s.Ended log k := by
  refine h.of_same hsteady.uid ?_ hsteady.handleOffset hsteady.maxConnections
  intro k hk
  unfold phaseAt
  rw [hsteady.handleOffset]
  refine hsteady.batch.sessionPhase ?_ (h.wellFormed k hk)
  intro e he kind hview
  rcases he with hwake | ⟨slot, hslot, uid, huid, howner, hhandle, hmid⟩
  · rw [hwake] at hview
    cases hview
  · have hlive : (s.uidAt slot).isSome := by rw [huid]; rfl
    rw [sessionView, howner, hhandle] at hview
    obtain ⟨hkey, rfl⟩ := Prod.mk.inj (Option.some.inj hview)
    obtain rfl := h.sharded.injective (h.sharded.slot_lt hlive) hk hkey
    exact ⟨EventType.sessionKind_of_isMid hmid, h.opened hlive hslot⟩

theorem actsOn (h : Tracks log s) {slot : ℕ} {g : UInt32} (hacts : ActsOn slot g s s')
    (hg : g = globalHandle s.handleOffset slot ∨ g = UInt32.ofNat slot)
    (hended : ¬s.Ended log slot) :
    Tracks log s' ∧ ∀ k, s'.Ended log k → s.Ended log k := by
  refine h.of_same hacts.uid ?_ hacts.handleOffset hacts.maxConnections
  intro k hk
  unfold phaseAt
  rw [hacts.handleOffset]
  refine hacts.batch.sessionPhase ?_ (h.wellFormed k hk)
  intro e he kind hview
  rcases he with hwake | ⟨uid, huid, howner, hhandle, hmid⟩
  · rw [hwake] at hview
    cases hview
  · have hlive : (s.uidAt slot).isSome := by rw [huid]; rfl
    have hlt := h.sharded.slot_lt hlive
    rw [sessionView, howner, hhandle] at hview
    obtain ⟨hkey, rfl⟩ := Prod.mk.inj (Option.some.inj hview)
    have hslot : slot = k := by
      rcases hg with hg | hg
      · exact h.sharded.injective hlt hk (hg ▸ hkey)
      · exact h.sharded.bare_handle hlt hk (hg ▸ hkey)
    rw [← hslot]
    exact ⟨EventType.sessionKind_of_isMid hmid, h.opened hlive hended⟩

theorem startBatch (h : Tracks log s) :
    Tracks (log ++ s.batch) s.startBatch := by
  have hphase : ∀ k, s.startBatch.phaseAt (log ++ s.batch) k = s.phaseAt log k := by
    intro k
    simp [phaseAt, H3Server.startBatch]
  refine ⟨h.sharded.of_eq rfl rfl, ?_, ?_⟩
  · intro k hk
    rw [hphase]
    exact h.wellFormed k hk
  · intro k hk hnone
    rw [hphase]
    exact h.vacant k hk hnone

end Tracks

theorem Ended.of_startBatch {log : List Emitted} {s : H3Server Q} {k : ℕ}
    (h : s.startBatch.Ended (log ++ s.batch) k) : s.Ended log k := by
  obtain ⟨hlive, hidle⟩ := h
  exact ⟨hlive, by simpa [phaseAt, H3Server.startBatch] using hidle⟩

theorem phaseAt_of_batch {offset : UInt32} {s : H3Server Q} {log : List Emitted}
    (hbatch : s.batch = [])
    (hoff : s.handleOffset = offset) (k : ℕ) :
    s.phaseAt log k = sessionPhase (globalHandle offset k) log := by
  unfold phaseAt
  rw [hbatch, hoff, List.append_nil]

section Moves

variable {log : List Emitted} {s s' : H3Server Q} {slot : ℕ}

theorem phaseAt_push (hs : s.Sharded) (hslot : slot < 2 ^ 20) {ref : ConnRef} {event : JsH3Event}
    (hhandle : event.connHandle = globalHandle s.handleOffset slot)
    (hbatch : s'.batch = s.batch ++ [⟨some ref, event⟩]) (hoff : s'.handleOffset = s.handleOffset)
    {k : ℕ} (hk : k < 2 ^ 20) :
    s'.phaseAt log k = if k = slot then (s.phaseAt log k).next event.eventType.sessionKind
      else s.phaseAt log k := by
  unfold phaseAt sessionPhase
  rw [hoff, hbatch, ← List.append_assoc, SessionLog.phase_concat]
  have hview : sessionView ⟨some ref, event⟩ =
      some (globalHandle s.handleOffset slot, event.eventType.sessionKind) := by
    rw [← hhandle]
    rfl
  split_ifs with heq
  · rw [heq]
    exact SessionLog.after_of_view hview
  · apply SessionLog.after_of_other
    intro kind hkind
    rw [hview] at hkind
    have hkey := congrArg Prod.fst (Option.some.inj hkind)
    exact heq (hs.injective hslot hk hkey).symm

variable [Quiche Q]

theorem Tracks.opens (h : Tracks log s) (hopens : Opens slot s s') :
    Tracks log s' ∧ ∀ k, s'.Ended log k → s.Ended log k := by
  have hslot : slot < 2 ^ 20 := by
    have := hopens.lt_max
    have := h.sharded.max
    omega
  obtain ⟨ip, port, hbatch⟩ := hopens.batch
  have hvacant : s.phaseAt log slot = .idle := by
    refine h.vacant slot hslot ?_
    rw [uidAt, hopens.vacant]
    rfl
  have hphase : ∀ k < 2 ^ 20,
      s'.phaseAt log k = if k = slot then .opened else s.phaseAt log k := by
    intro k hk
    rw [phaseAt_push h.sharded hslot rfl hbatch hopens.handleOffset hk]
    split_ifs with heq
    · rw [heq, hvacant]
      rfl
    · rfl
  refine ⟨⟨h.sharded.of_eq hopens.handleOffset hopens.maxConnections, ?_, ?_⟩, ?_⟩
  · intro k hk
    rw [hphase k hk]
    split_ifs
    · simp
    · exact h.wellFormed k hk
  · intro k hk hnone
    rw [hopens.uidAt] at hnone
    rw [hphase k hk]
    split_ifs at hnone ⊢
    exact h.vacant k hk hnone
  · rintro k ⟨hlive, hidle⟩
    by_cases heq : k = slot
    · rw [heq, hphase slot hslot, if_pos rfl] at hidle
      cases hidle
    · rw [hopens.uidAt, if_neg heq] at hlive
      rw [hphase k (h.sharded.slot_lt hlive), if_neg heq] at hidle
      exact ⟨hlive, hidle⟩

theorem Closes.phaseAt (hclose : Closes slot s s') (h : Tracks log s) (hended : ¬s.Ended log slot)
    {k : ℕ} (hk : k < 2 ^ 20) :
    s'.phaseAt log k = if k = slot then .idle else s.phaseAt log k := by
  obtain ⟨uid, event, huid, hhandle, hkind, hbatch⟩ := hclose.batch
  have hlive : (s.uidAt slot).isSome := by rw [huid]; rfl
  rw [phaseAt_push h.sharded (h.sharded.slot_lt hlive) hhandle hbatch hclose.handleOffset hk, hkind]
  split_ifs with heq
  · rw [heq, h.opened hlive hended]
    rfl
  · rfl

theorem Tracks.closes (h : Tracks log s) (hclose : Closes slot s s')
    (hended : ¬s.Ended log slot) :
    Tracks log s' ∧ ∀ k, s'.Ended log k → s.Ended log k ∨ k = slot := by
  have hphase := fun k hk => hclose.phaseAt h hended (k := k) hk
  refine ⟨⟨h.sharded.of_eq hclose.handleOffset hclose.maxConnections, ?_, ?_⟩, ?_⟩
  · intro k hk
    rw [hphase k hk]
    split_ifs
    · simp
    · exact h.wellFormed k hk
  · intro k hk hnone
    rw [hclose.uid] at hnone
    rw [hphase k hk]
    split_ifs
    · rfl
    · exact h.vacant k hk hnone
  · rintro k ⟨hlive, hidle⟩
    by_cases heq : k = slot
    · exact .inr heq
    · rw [hclose.uid] at hlive
      rw [hphase k (h.sharded.slot_lt hlive), if_neg heq] at hidle
      exact .inl ⟨hlive, hidle⟩

end Moves

def ClosedAt [Quiche Q] (s : H3Server Q) (slot : ℕ) : Prop :=
  ∃ c, s.connMap.get slot = some c ∧ c.isClosed = true

variable [Quiche Q]

section Timers

variable {log : List Emitted}

theorem Tracks.expireTimer {s : H3Server Q} (h : Tracks log s) (now budget : ℕ) {handle : ℕ}
    (hended : ¬s.Ended log handle) :
    Tracks log (s.expireTimer now budget handle) ∧
      (∀ k, (s.expireTimer now budget handle).Ended log k → s.Ended log k ∨
        k = handle ∧ (s.expireTimer now budget handle).ClosedAt k) ∧
      (∀ k, k ≠ handle →
        (s.expireTimer now budget handle).connMap.get k = s.connMap.get k) ∧
      (s.expireTimer now budget handle).lastExpired = s.lastExpired := by
  rcases expireTimer_cases now budget s handle with ⟨-, hclose, hclosed⟩ | ⟨-, hacts, -⟩
  · obtain ⟨htracks, hends⟩ := h.closes hclose hended
    refine ⟨htracks, ?_, hclose.conns, hclose.lastExpired⟩
    intro k hk
    refine (hends k hk).imp id ?_
    rintro rfl
    exact ⟨rfl, hclosed⟩
  · obtain ⟨htracks, hends⟩ := h.actsOn hacts (.inl rfl) hended
    exact ⟨htracks, fun k hk => .inl (hends k hk), hacts.conns, hacts.lastExpired⟩

theorem Tracks.foldl_expireTimer (now budget : ℕ) (handles : List ℕ) (hnodup : handles.Nodup)
    {s : H3Server Q} (h : Tracks log s) (hfresh : ∀ handle ∈ handles, ¬s.Ended log handle) :
    Tracks log (handles.foldl (H3Server.expireTimer now budget) s) ∧
      (∀ k, (handles.foldl (H3Server.expireTimer now budget) s).Ended log k → s.Ended log k ∨
        k ∈ handles ∧ (handles.foldl (H3Server.expireTimer now budget) s).ClosedAt k) ∧
      (∀ k ∉ handles, (handles.foldl (H3Server.expireTimer now budget) s).connMap.get k =
        s.connMap.get k) ∧
      (handles.foldl (H3Server.expireTimer now budget) s).lastExpired = s.lastExpired := by
  induction handles generalizing s with
  | nil => exact ⟨h, fun _ hk => .inl hk, fun _ _ => rfl, rfl⟩
  | cons handle handles ih =>
    obtain ⟨hnot, hnodup⟩ := List.nodup_cons.1 hnodup
    obtain ⟨htracks, hends, hconns, hlast⟩ := h.expireTimer now budget (hfresh handle (by simp))
    have hfresh' : ∀ k ∈ handles, ¬(s.expireTimer now budget handle).Ended log k := by
      intro k hk hend
      rcases hends k hend with hold | ⟨rfl, -⟩
      · exact hfresh k (by simp [hk]) hold
      · exact hnot hk
    obtain ⟨htracks', hends', hconns', hlast'⟩ := ih hnodup htracks hfresh'
    refine ⟨htracks', ?_, ?_, hlast'.trans hlast⟩
    · intro k hk
      rcases hends' k hk with hone | ⟨hmem, hclosed⟩
      · rcases hends k hone with hold | ⟨rfl, c, hget, hclosed⟩
        · exact .inl hold
        -- the later timers leave this connection alone
        · exact .inr ⟨by simp, c, (hconns' k hnot).trans hget, hclosed⟩
      · exact .inr ⟨by simp [hmem], hclosed⟩
    · intro k hk
      rw [List.mem_cons, not_or] at hk
      exact (hconns' k hk.2).trans (hconns k hk.1)

theorem Tracks.runTimers {s : H3Server Q} (h : Tracks log s) (now budget : ℕ)
    (hfresh : ∀ k, ¬s.Ended log k) :
    Tracks log (s.runTimers now budget) ∧
      ∀ k, (s.runTimers now budget).Ended log k →
        k ∈ (s.runTimers now budget).lastExpired ∧ (s.runTimers now budget).ClosedAt k := by
  have hpop : Tracks log (s.popTimers now) :=
    ⟨h.sharded.of_eq rfl rfl, h.wellFormed, h.vacant⟩
  have hnodup : (s.popTimers now).lastExpired.Nodup := List.nodup_dedup _
  obtain ⟨htracks, hends, -, hlast⟩ :=
    Tracks.foldl_expireTimer now budget _ hnodup hpop fun k _ => hfresh k
  refine ⟨htracks, ?_⟩
  intro k hk
  rcases hends k hk with hold | ⟨hmem, hclosed⟩
  · exact absurd hold (hfresh k)
  · refine ⟨?_, hclosed⟩
    unfold H3Server.runTimers
    rw [hlast]
    exact hmem

end Timers

section Reaping

variable {log : List Emitted}

omit [Quiche Q] in
/-- Forgetting a connection closes its session, if that had not happened yet. -/
theorem Reaped.phaseAt {handle uid : ℕ} {s s' : H3Server Q} (h : Reaped handle uid s s')
    (hs : s.Sharded) (hlt : handle < 2 ^ 20)
    (hphase : s.phaseAt log handle = if handle ∈ s.lastExpired then .idle else .opened)
    (hpending : handle ∈ s.lastExpired → ∀ key, s.HasPending key → key.1.toNat ≠ handle)
    {k : ℕ} (hk : k < 2 ^ 20) :
    s'.phaseAt log k = if k = handle then .idle else s.phaseAt log k := by
  obtain ⟨resets, wakes, close, hresets, hwhy, hwakes, hkind, hhandle, hbatch⟩ := h.batch
  have hmiddle : sessionPhase (globalHandle s.handleOffset k)
      (log ++ s.batch ++ (resets ++ wakes)) =
      s.phaseAt log k := by
    refine sessionPhase_of_harmless ?_
    intro e he kind hview
    rcases List.mem_append.1 he with hreset | hwake
    · obtain ⟨howner, htype, hconn⟩ := hresets e hreset
      rw [sessionView, howner, hconn, htype] at hview
      obtain ⟨hkey, rfl⟩ := Prod.mk.inj (Option.some.inj hview)
      obtain rfl := hs.injective hlt hk hkey
      refine ⟨rfl, ?_⟩
      -- a reset means that something was pending, so the session had not ended
      obtain ⟨key, hkey, hslot⟩ := hwhy (List.ne_nil_of_mem hreset)
      have hopen : handle ∉ s.lastExpired := fun hmem => hpending hmem key hkey hslot
      rw [if_neg hopen] at hphase
      exact hphase
    · rw [hwakes e hwake] at hview
      cases hview
  unfold H3Server.phaseAt at hmiddle ⊢
  rw [h.handleOffset, hbatch]
  split_ifs with hexpired heq heq
  · rw [List.append_nil, List.append_assoc, ← List.append_assoc log, hmiddle, heq]
    rw [if_pos hexpired] at hphase
    exact hphase
  · rw [List.append_nil, List.append_assoc, ← List.append_assoc log, hmiddle]
  · rw [List.append_assoc s.batch, ← List.append_assoc log, ← List.append_assoc log]
    unfold sessionPhase at hmiddle ⊢
    rw [SessionLog.phase_concat, hmiddle]
    rw [if_neg hexpired] at hphase
    unfold H3Server.phaseAt sessionPhase at hphase
    have hview : sessionView ⟨some ⟨handle, uid⟩, close⟩ =
        some (globalHandle s.handleOffset k, .closes) := by
      rw [heq, ← hhandle, ← show close.eventType.sessionKind = .closes by rw [hkind]; rfl]
      rfl
    rw [SessionLog.after_of_view hview, heq, hphase]
    rfl
  · rw [List.append_assoc s.batch, ← List.append_assoc log, ← List.append_assoc log]
    unfold sessionPhase at hmiddle ⊢
    rw [SessionLog.phase_concat, hmiddle]
    apply SessionLog.after_of_other
    intro kind hview
    have hkey := congrArg Prod.fst (Option.some.inj hview)
    exact heq (hs.injective hlt hk (hhandle.symm.trans hkey)).symm

theorem foldl_reapConnection_phaseAt (closed : List (ℕ × H3Connection Q))
    (hnodup : (closed.map Prod.fst).Nodup) {s : H3Server Q} (hs : s.Sharded)
    (hlt : ∀ k ∈ closed.map Prod.fst, k < 2 ^ 20)
    (hphase : ∀ k ∈ closed.map Prod.fst,
      s.phaseAt log k = if k ∈ s.lastExpired then .idle else .opened)
    (hpending : ∀ k ∈ closed.map Prod.fst, k ∈ s.lastExpired →
      ∀ key, s.HasPending key → key.1.toNat ≠ k) {k : ℕ} (hk : k < 2 ^ 20) :
    (closed.foldl reapConnection s).phaseAt log k =
      if k ∈ closed.map Prod.fst then .idle else s.phaseAt log k := by
  induction closed generalizing s with
  | nil => rfl
  | cons entry closed ih =>
    obtain ⟨handle, conn⟩ := entry
    rw [List.map_cons] at hnodup hlt hphase hpending
    obtain ⟨hnot, hnodup⟩ := List.nodup_cons.1 hnodup
    have hone := s.reapConnection_reaped handle conn
    have hstep : ∀ k < 2 ^ 20, (s.reapConnection (handle, conn)).phaseAt log k =
        if k = handle then .idle else s.phaseAt log k := fun k hk =>
      hone.phaseAt hs (hlt handle (by simp)) (hphase handle (by simp))
        (hpending handle (by simp)) hk
    rw [List.foldl_cons, ih hnodup (hs.of_eq hone.handleOffset (by rw [hone.connMap]))
      (fun k hk => hlt k (by simp [hk])) ?_ ?_, hstep k hk]
    · by_cases heq : k = handle
      · simp [heq]
      · simp only [List.map_cons, List.mem_cons, heq, false_or, if_false]
    · intro k hk
      have hne : k ≠ handle := fun heq => hnot (heq ▸ hk)
      rw [hstep k (hlt k (by simp [hk])), if_neg hne, hone.lastExpired]
      exact hphase k (by simp [hk])
    · intro k hk hexpired key hkey
      rw [hone.lastExpired] at hexpired
      exact hpending k (by simp [hk]) hexpired key ((hone.pending key).1 hkey).1

/-- Reaping ends every session left open without a connection. `hskipped` and
`hpending` say that the timer path and the reaper agree on who was told. -/
theorem Tracks.reapClosedConnections {s : H3Server Q} (h : Tracks log s)
    (hends : ∀ k, s.Ended log k → k ∈ s.lastExpired ∧ s.ClosedAt k)
    (hskipped : ∀ k ∈ s.lastExpired, s.ClosedAt k → s.Ended log k)
    (hpending : ∀ key, s.HasPending key → ¬s.Ended log key.1.toNat) :
    Tracks log s.reapClosedConnections ∧ ∀ k, ¬s.reapClosedConnections.Ended log k := by
  have hmem : ∀ k, k ∈ (s.connMap.drainClosed H3Connection.isClosed).1.map Prod.fst ↔
      s.ClosedAt k := by
    intro k
    simp only [List.mem_map, Prod.exists, ConnectionMap.mem_drainClosed, exists_and_right,
      exists_eq_right]
    rfl
  have hlive : ∀ k, s.ClosedAt k → (s.uidAt k).isSome := by
    rintro k ⟨c, hget, -⟩
    rw [uidAt, hget]
    rfl
  have hdrained : Sharded { s with connMap := (s.connMap.drainClosed H3Connection.isClosed).2 } :=
    h.sharded.of_eq rfl (ConnectionMap.counts_foldl_remove
      ((s.connMap.drainClosed H3Connection.isClosed).1.map Prod.fst) s.connMap).2
  have hphase : ∀ k < 2 ^ 20, s.reapClosedConnections.phaseAt log k =
      if k ∈ (s.connMap.drainClosed H3Connection.isClosed).1.map Prod.fst then .idle
      else s.phaseAt log k := by
    intro k hk
    refine foldl_reapConnection_phaseAt _ (s.connMap.nodup_drainClosed _) hdrained ?_ ?_ ?_ hk
    · intro k hk
      exact h.sharded.slot_lt (hlive k ((hmem k).1 hk))
    · intro k hk
      have hclosed := (hmem k).1 hk
      show s.phaseAt log k = if k ∈ s.lastExpired then .idle else .opened
      split_ifs with hexpired
      · exact (hskipped k hexpired hclosed).2
      · exact h.opened (hlive k hclosed) fun hend => hexpired (hends k hend).1
    · rintro k hk hexpired key hkey rfl
      exact hpending key hkey (hskipped _ hexpired ((hmem _).1 hk))
  have huid : ∀ k, s.reapClosedConnections.uidAt k =
      if k ∈ (s.connMap.drainClosed H3Connection.isClosed).1.map Prod.fst then none
      else s.uidAt k := by
    intro k
    rw [reapClosedConnections_uidAt]
    exact if_congr (hmem k).symm rfl rfl
  refine ⟨⟨h.sharded.of_eq s.reapClosedConnections_spec.2.1 s.reapClosedConnections_counts.2,
    ?_, ?_⟩, ?_⟩
  · intro k hk
    rw [hphase k hk]
    split_ifs
    · simp
    · exact h.wellFormed k hk
  · intro k hk hnone
    rw [huid] at hnone
    rw [hphase k hk]
    split_ifs at hnone ⊢
    · rfl
    · exact h.vacant k hk hnone
  · rintro k ⟨hsome, hidle⟩
    rw [huid] at hsome
    by_cases hclosed : k ∈ (s.connMap.drainClosed H3Connection.isClosed).1.map Prod.fst
    · rw [if_pos hclosed] at hsome
      cases hsome
    · rw [if_neg hclosed] at hsome
      rw [hphase k (h.sharded.slot_lt hsome), if_neg hclosed] at hidle
      exact hclosed ((hmem k).2 (hends k ⟨hsome, hidle⟩).2)

end Reaping

/-- When the driver fails every open session is closed. -/
theorem Tracks.emitSessionCloseForAllActive {log : List Emitted} {s : H3Server Q}
    (h : Tracks log s) (hfresh : ∀ k, ¬s.Ended log k) {k : ℕ} (hk : k < 2 ^ 20) :
    s.emitSessionCloseForAllActive.phaseAt log k = .idle := by
  have hfold : ∀ (handles : List ℕ) (s : H3Server Q), handles.Nodup → Tracks log s →
      (∀ handle ∈ handles, ¬s.Ended log handle) →
      (handles.foldl emitSessionCloseFor s).phaseAt log k =
        if k ∈ handles ∧ (s.uidAt k).isSome then .idle else s.phaseAt log k := by
    intro handles
    induction handles with
    | nil => intro s _ _ _; simp
    | cons handle handles ih =>
      intro s hnodup h hfresh
      obtain ⟨hnot, hnodup⟩ := List.nodup_cons.1 hnodup
      rcases s.emitSessionCloseFor_cases handle with ⟨hnone, hsame⟩ | hclose
      · rw [List.foldl_cons, hsame, ih s hnodup h fun x hx => hfresh x (by simp [hx])]
        by_cases heq : k = handle
        · simp [heq, uidAt, hnone]
        · simp [heq]
      · obtain ⟨htracks, hends⟩ := h.closes hclose (hfresh handle (by simp))
        have hfresh' : ∀ x ∈ handles, ¬(s.emitSessionCloseFor handle).Ended log x := by
          intro x hx hend
          rcases hends x hend with hold | rfl
          · exact hfresh x (by simp [hx]) hold
          · exact hnot hx
        rw [List.foldl_cons, ih _ hnodup htracks hfresh', hclose.uid,
          hclose.phaseAt h (hfresh handle (by simp)) hk]
        by_cases heq : k = handle
        · simp only [heq, hnot, false_and, if_false, if_true, List.mem_cons, true_or, true_and]
          split_ifs with hlive
          · rfl
          · obtain ⟨uid, -, huid, -⟩ := hclose.batch
            simp [huid] at hlive
        · simp only [heq, List.mem_cons, false_or, if_false]
  unfold H3Server.emitSessionCloseForAllActive
  rw [hfold s.connMap.handles s s.connMap.connections.nodup_keys h fun x _ => hfresh x]
  split_ifs with hlive
  · rfl
  · refine h.vacant k hk ?_
    rw [not_and, s.connMap.mem_handles] at hlive
    by_contra hsome
    have hsome := Option.isSome_iff_ne_none.2 hsome
    exact hlive (by simpa [uidAt] using hsome) hsome

end H3Server

end Http3
