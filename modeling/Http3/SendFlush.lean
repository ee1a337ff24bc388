import Http3.Lib.RoundRobin
import Http3.H3Server.Worker
import Http3.LoggedQuiche
import Http3.SharedClient
import Mathlib.Algebra.Order.BigOperators.Group.List
import Mathlib.Algebra.Order.Group.Nat

/-! Writing out packets in turn, with the flags and the counter of the loops, and that it
writes every packet and is fair. -/

namespace Http3

open RoundRobin (Yields itemsOf)

/-- A handle with its flag in the `done` array. -/
structure SendSlot where
  handle : ℕ
  done : Bool

/-- State of the loops. Not part of the program are the handles in `outbound`: the session
each datagram is from. -/
structure SendFlush (S : Type) where
  sessions : Slab S
  active : ℕ
  outbound : List (ℕ × Bytes)

namespace SendFlush

variable {S : Type} (trySend : S → Option Bytes × S)

def visit (slot : SendSlot) (f : SendFlush S) : SendSlot × SendFlush S :=
  if slot.done then (slot, f)
  else
    match f.sessions.get slot.handle with
    | none => ({ slot with done := true }, { f with active := f.active - 1 })
    | some session =>
      match trySend session with
      | (some packet, session) =>
        (slot, { f with
          sessions := f.sessions.set slot.handle session
          outbound := f.outbound ++ [(slot.handle, packet)] })
      | (none, session) =>
        ({ slot with done := true }, { f with
          sessions := f.sessions.set slot.handle session
          active := f.active - 1 })

def pass : List SendSlot → SendFlush S → List SendSlot × SendFlush S
  | [], f => ([], f)
  | slot :: slots, f =>
    let (slot, f) := visit trySend slot f
    let (slots, f) := pass slots f
    (slot :: slots, f)

/-- The outer loop: passes while anyone is active. -/
def drain : ℕ → List SendSlot → SendFlush S → List SendSlot × SendFlush S
  | 0, slots, f => (slots, f)
  | rounds + 1, slots, f =>
    if 0 < f.active then
      let (slots, f) := pass trySend slots f
      drain rounds slots f
    else (slots, f)

/-- The whole function, over any sessions and any way to send. -/
def run (rounds : ℕ) (sessions : Slab S) : SendFlush S :=
  (drain trySend rounds (sessions.keys.map (⟨·, false⟩)) ⟨sessions, sessions.keys.length, []⟩).2

def live (slots : List SendSlot) : List ℕ := (slots.filter fun slot => !slot.done).map (·.handle)

@[simp] theorem live_done (handle : ℕ) (slots : List SendSlot) :
    live (⟨handle, true⟩ :: slots) = live slots := rfl

@[simp] theorem live_open (handle : ℕ) (slots : List SendSlot) :
    live (⟨handle, false⟩ :: slots) = handle :: live slots := rfl

/-- A pass asks the sessions that are not done, and the counter follows the flags. -/
theorem pass_round (base : ℕ) (slots : List SendSlot) (f : SendFlush S)
    (hactive : f.active = base + (live slots).length) :
    (pass trySend slots f).2.outbound =
      f.outbound ++ (RoundRobin.round trySend (live slots) f.sessions).1.1 ∧
    live (pass trySend slots f).1 = (RoundRobin.round trySend (live slots) f.sessions).1.2 ∧
    (pass trySend slots f).2.sessions =
      (RoundRobin.round trySend (live slots) f.sessions).2 ∧
    (pass trySend slots f).2.active = base + (live (pass trySend slots f).1).length := by
  induction slots generalizing base f with
  | nil => exact ⟨(List.append_nil _).symm, rfl, rfl, hactive⟩
  | cons slot slots ih =>
    obtain ⟨handle, done⟩ := slot
    cases done with
    | true => exact ih base f hactive
    | false =>
      rw [live_open, List.length_cons] at hactive
      rw [live_open]
      unfold pass visit RoundRobin.round
      cases hget : f.sessions.get handle with
      | none =>
        have hrest := ih base { f with active := f.active - 1 } (by dsimp only; omega)
        simpa [hget] using hrest
      | some session =>
        cases hsend : trySend session with
        | mk sent session' =>
          cases sent with
          | none =>
            have hrest := ih base { f with
              sessions := f.sessions.set handle session', active := f.active - 1 }
              (by dsimp only; omega)
            simpa [hget, hsend] using hrest
          | some packet =>
            have hrest := ih (base + 1) { f with
              sessions := f.sessions.set handle session'
              outbound := f.outbound ++ [(handle, packet)] } (by dsimp only; omega)
            obtain ⟨hout, hlive, hsessions, hcount⟩ := hrest
            simp only [hsend, Bool.false_eq_true, if_false, live_open, List.length_cons]
            refine ⟨?_, ?_, hsessions, ?_⟩
            · simpa using hout
            · rw [hlive]
            · rw [hcount]
              omega

theorem drain_rounds (rounds : ℕ) (slots : List SendSlot) (f : SendFlush S)
    (hactive : f.active = (live slots).length) :
    (drain trySend rounds slots f).2.outbound =
      f.outbound ++ (RoundRobin.rounds trySend rounds (live slots) f.sessions).1.1 ∧
    (drain trySend rounds slots f).2.active =
      (RoundRobin.rounds trySend rounds (live slots) f.sessions).1.2.length := by
  induction rounds generalizing slots f with
  | zero => exact ⟨(List.append_nil _).symm, hactive⟩
  | succ rounds ih =>
    unfold drain RoundRobin.rounds
    have hempty : (live slots).isEmpty = true ↔ ¬0 < f.active := by
      rw [hactive, List.isEmpty_iff_length_eq_zero]
      omega
    by_cases hmore : 0 < f.active
    · rw [if_pos hmore, if_neg (fun h => hempty.1 h hmore)]
      obtain ⟨hout, hlive, hsessions, hcount⟩ :=
        pass_round trySend 0 slots f (hactive.trans (Nat.zero_add _).symm)
      rw [Nat.zero_add] at hcount
      have hrest := ih _ _ hcount
      rw [hlive, hsessions, hout, List.append_assoc] at hrest
      exact hrest
    · rw [if_neg hmore, if_pos (hempty.2 hmore)]
      exact ⟨(List.append_nil _).symm, hactive⟩

theorem run_rounds (rounds : ℕ) (sessions : Slab S) :
    (run trySend rounds sessions).outbound =
      (RoundRobin.rounds trySend rounds sessions.keys sessions).1.1 ∧
    (run trySend rounds sessions).active =
      (RoundRobin.rounds trySend rounds sessions.keys sessions).1.2.length := by
  have hlive : live (sessions.keys.map (⟨·, false⟩)) = sessions.keys := by
    simp [live, List.filter_map, List.map_map, Function.comp_def]
  have hrounds := drain_rounds trySend rounds (sessions.keys.map (⟨·, false⟩))
    ⟨sessions, sessions.keys.length, []⟩ (by rw [hlive])
  rw [hlive] at hrounds
  exact hrounds

/-- The loops have ended and have written the packets of each session, in turn. -/
structure Completes (handles : List ℕ) (packets : ℕ → List Bytes) (f : SendFlush S)
    (outbound : List Bytes) : Prop where
  ended : f.active = 0
  written : outbound = f.outbound.map Prod.snd
  known : ∀ e ∈ f.outbound, e.1 ∈ handles
  complete : ∀ handle ∈ handles, itemsOf handle f.outbound = packets handle
  /-- Between two packets of one session, each other session that still has packets sends
  one. -/
  fair : ∀ handle packet packet' before between after,
    f.outbound = before ++ (handle, packet) :: (between ++ (handle, packet') :: after) →
    itemsOf handle between = [] → ∀ other ∈ handles, other ≠ handle →
    (itemsOf other between).length =
      if (itemsOf other before).length < (packets other).length then 1 else 0

variable {trySend}

/-- Sessions that fall silent are flushed to the end. -/
theorem run_completes {sessions : Slab S} {packets : ℕ → List Bytes}
    (hyields : ∀ handle session, sessions.get handle = some session →
      Yields trySend session (packets handle)) :
    ∃ enough, ∀ rounds, enough ≤ rounds →
      (run trySend rounds sessions).Completes sessions.keys packets
        ((RoundRobin.rounds trySend rounds sessions.keys sessions).1.1.map Prod.snd) := by
  refine ⟨(sessions.keys.map fun k => (packets k).length).sum + 1, fun rounds henough => ?_⟩
  have hdue : RoundRobin.Due trySend packets 0 sessions.keys sessions := by
    intro handle hmem
    obtain ⟨session, hget⟩ := Option.isSome_iff_exists.1 (sessions.mem_keys.1 hmem)
    exact ⟨session, hget, hyields handle session hget⟩
  have hshort : ∀ handle ∈ sessions.keys, (packets handle).length < rounds := by
    intro handle hmem
    have hle := List.le_sum_of_mem (List.mem_map_of_mem hmem (f := fun k => (packets k).length))
    omega
  obtain ⟨hactive, n, hturns, hlong⟩ :=
    RoundRobin.rounds_complete sessions.nodup_keys hdue hshort
  obtain ⟨hout, hcount⟩ := run_rounds trySend rounds sessions
  rw [hturns] at hout
  refine ⟨?_, ?_, ?_, ?_, ?_⟩
  · rw [hcount, hactive, List.length_nil]
  · rw [hout, hturns]
  · intro e he
    exact RoundRobin.mem_turns (hout ▸ he)
  · intro handle hmem
    rw [hout, RoundRobin.itemsOf_turns sessions.nodup_keys hmem]
    exact List.take_of_length_le (hlong handle hmem).le
  · intro handle packet packet' before between after hsplit hbetween other hother hne
    rw [hout] at hsplit
    exact RoundRobin.turns_fair sessions.nodup_keys hsplit hbetween hother hne

end SendFlush

namespace ConnectionMap

variable {C Q : Type} [ServerConnection C Q]

theorem sendRound_round (handles : List ℕ) (m : ConnectionMap C) :
    (m.sendRound handles).1 =
      ((RoundRobin.round ServerConnection.send handles m.connections).1.1.map Prod.snd,
        (RoundRobin.round ServerConnection.send handles m.connections).1.2) ∧
    (m.sendRound handles).2.connections =
      (RoundRobin.round ServerConnection.send handles m.connections).2 := by
  induction handles generalizing m with
  | nil => exact ⟨rfl, rfl⟩
  | cons handle handles ih =>
    have hmap : m.get handle = m.connections.get handle := rfl
    unfold sendRound RoundRobin.round
    rw [hmap]
    cases hget : m.connections.get handle with
    | none => exact ih m
    | some conn =>
      have hrest := ih (m.set handle (ServerConnection.send conn).2)
      have hset : (m.set handle (ServerConnection.send conn).2).connections =
          m.connections.set handle (ServerConnection.send conn).2 := rfl
      simp only [hset] at hrest
      dsimp only
      generalize ServerConnection.send conn = sent at hrest ⊢
      obtain ⟨_ | packet, conn'⟩ := sent
      · exact hrest
      · exact ⟨by simp only [hrest.1, List.map_cons], hrest.2⟩

theorem sendRounds_rounds (rounds : ℕ) (active : List ℕ) (m : ConnectionMap C) :
    (m.sendRounds rounds active).1 =
      (RoundRobin.rounds ServerConnection.send rounds active m.connections).1.1.map Prod.snd := by
  induction rounds generalizing active m with
  | zero => rfl
  | succ rounds ih =>
    unfold sendRounds RoundRobin.rounds
    split_ifs
    · rfl
    · obtain ⟨hround, hconns⟩ := m.sendRound_round active
      generalize m.sendRound active = answer at hround hconns ⊢
      obtain ⟨⟨packets, active'⟩, m'⟩ := answer
      obtain ⟨rfl, rfl⟩ := Prod.mk.inj hround
      have hrest := ih (RoundRobin.round ServerConnection.send active m.connections).1.2 m'
      dsimp only at hconns hrest ⊢
      rw [hrest, hconns, List.map_append]

end ConnectionMap

namespace SharedClientLoop

variable {C Own : Type} [ClientProtocol C Own]

def trySendSession (session : SharedClientSession C) : Option Bytes × SharedClientSession C :=
  let (sent, conn) := ClientProtocol.trySend session.handler.conn
  (sent, { session with handler := session.handler.setConn conn })

theorem sendRound_round (handles : List ℕ) (st : SharedClientLoop C Own) :
    ((sendRound handles st).1, (sendRound handles st).2.1) =
      ((RoundRobin.round trySendSession handles st.sessions).1.1.map Prod.snd,
        (RoundRobin.round trySendSession handles st.sessions).1.2) ∧
    (sendRound handles st).2.2.sessions =
      (RoundRobin.round trySendSession handles st.sessions).2 := by
  induction handles generalizing st with
  | nil => exact ⟨rfl, rfl⟩
  | cons handle handles ih =>
    unfold sendRound RoundRobin.round
    cases hget : st.sessions.get handle with
    | none => exact ih st
    | some session =>
      have hrest := ih (st.setSession handle (trySendSession session).2)
      unfold trySendSession at hrest ⊢
      dsimp only [setSession] at hrest ⊢
      generalize ClientProtocol.trySend session.handler.conn = sent at hrest ⊢
      obtain ⟨_ | packet, conn⟩ := sent
      · exact hrest
      · obtain ⟨hround, hsessions⟩ := hrest
        obtain ⟨hpackets, hactive⟩ := Prod.mk.inj hround
        dsimp only at hpackets hactive hsessions ⊢
        rw [hpackets, hactive]
        exact ⟨rfl, hsessions⟩

theorem flushRoundRobinSends_rounds (rounds : ℕ) (active : List ℕ) (st : SharedClientLoop C Own) :
    (flushRoundRobinSends rounds active st).1 =
      (RoundRobin.rounds trySendSession rounds active st.sessions).1.1.map Prod.snd := by
  induction rounds generalizing active st with
  | zero => rfl
  | succ rounds ih =>
    unfold flushRoundRobinSends RoundRobin.rounds
    split_ifs
    · rfl
    · obtain ⟨hround, hsessions⟩ := sendRound_round active st
      generalize sendRound active st = answer at hround hsessions ⊢
      obtain ⟨packets, active', st'⟩ := answer
      obtain ⟨rfl, rfl⟩ := Prod.mk.inj hround
      have hrest := ih (RoundRobin.round trySendSession active st.sessions).1.2 st'
      dsimp only at hsessions hrest ⊢
      rw [hrest, hsessions, List.map_append]

end SharedClientLoop

/-- On the server and on shared clients, sessions that yield finitely many packets are
flushed to the end, each in its order and in turn with the others. -/
theorem send_flush_complete_and_fair (Q C Own : Type) [Quiche Q] [ClientProtocol C Own] :
    (∀ (s : H3Server Q) (packets : ℕ → List Bytes),
      (∀ handle conn, s.connMap.get handle = some conn →
        Yields H3Connection.send conn (packets handle)) →
      ∃ enough, ∀ rounds now, enough ≤ rounds →
        (SendFlush.run H3Connection.send rounds s.connMap.connections).Completes
          s.connMap.handles packets (s.flushAllSends rounds now).1) ∧
    (∀ (st : SharedClientLoop C Own) (packets : ℕ → List Bytes),
      (∀ handle session, st.sessions.get handle = some session →
        Yields SharedClientLoop.trySendSession session (packets handle)) →
      ∃ enough, ∀ rounds, enough ≤ rounds →
        (SendFlush.run SharedClientLoop.trySendSession rounds st.sessions).Completes
          st.sessions.keys packets (st.flushRoundRobinSends rounds st.sessions.keys).1) := by
  constructor
  · intro s packets hyields
    obtain ⟨enough, hcompletes⟩ := SendFlush.run_completes hyields
    refine ⟨enough, fun rounds now henough => ?_⟩
    have hwritten : (s.flushAllSends rounds now).1 = (RoundRobin.rounds H3Connection.send rounds
        s.connMap.handles s.connMap.connections).1.1.map Prod.snd :=
      s.connMap.sendRounds_rounds rounds s.connMap.handles
    rw [hwritten]
    exact hcompletes rounds henough
  · intro st packets hyields
    obtain ⟨enough, hcompletes⟩ := SendFlush.run_completes hyields
    refine ⟨enough, fun rounds henough => ?_⟩
    rw [SharedClientLoop.flushRoundRobinSends_rounds]
    exact hcompletes rounds henough

/-- A transport with packets ready to go out: one for each byte of its connection id. -/
structure Stocked where
  inner : Scripted
  packets : List Bytes

def Stocked.new (inner : Scripted) : Stocked := ⟨inner, inner.scid.map fun b => [b]⟩

instance : Quiche Stocked :=
  { Quiche.within Stocked.inner (fun p inner => { p with inner }) Stocked.new with
    send := fun p =>
      match p.packets with
      | [] => (.error .done, p)
      | packet :: packets => (.ok packet, { p with packets }) }

def unevenServer : H3Server Stocked :=
  (Runs.run H3Worker.step
    [.work (.packet false (Scripted.packet .initial [1] [0]) 0 0 [[7]]),
      .work (.packet false (Scripted.packet .initial [2] [0]) 0 0 [[8, 9]])]
    (.init 0 2 true none false)).server

def sharedSession (uid : ℕ) (packets : List Bytes) : SharedClientSession (H3Connection Stocked) :=
  ⟨uid, .ofConn (.new uid ⟨Scripted.fresh [], packets⟩ []) H3Client.timeout 0 .default, ⟨[], []⟩,
    ⟨"", 0⟩⟩

/-- A worker with a session that has nothing to send and one that has. -/
def unevenWorker : SharedClientLoop (H3Connection Stocked) H3Own :=
  { (SharedClientLoop.init ⟨"", 0⟩ : SharedClientLoop (H3Connection Stocked) H3Own) with
    sessions := (Slab.empty.insert (sharedSession 0 [])).insert (sharedSession 1 [[5], [6]]) }

theorem send_flush_complete_and_fair_uneven :
    (∃ enough, ∀ rounds now, enough ≤ rounds →
      (SendFlush.run H3Connection.send rounds unevenServer.connMap.connections).Completes
        unevenServer.connMap.handles (fun handle => [[[7]], [[8], [9]]].getD handle [])
        (unevenServer.flushAllSends rounds now).1) ∧
    (∃ enough, ∀ rounds, enough ≤ rounds →
      (SendFlush.run SharedClientLoop.trySendSession rounds unevenWorker.sessions).Completes
        unevenWorker.sessions.keys (fun handle => [[], [[5], [6]]].getD handle [])
        (unevenWorker.flushRoundRobinSends rounds unevenWorker.sessions.keys).1) := by
  constructor
  · apply (send_flush_complete_and_fair Stocked (H3Connection Stocked) H3Own).1
    have hyields : ∀ handle ∈ unevenServer.connMap.handles,
        ∀ conn ∈ unevenServer.connMap.get handle,
          Yields H3Connection.send conn ([[[7]], [[8], [9]]].getD handle []) := by decide +kernel
    intro handle conn hget
    exact hyields handle (unevenServer.connMap.mem_handles.2 (by simp [hget])) conn hget
  · apply (send_flush_complete_and_fair Stocked (H3Connection Stocked) H3Own).2
    have hyields : ∀ handle ∈ unevenWorker.sessions.keys,
        ∀ session ∈ unevenWorker.sessions.get handle, Yields SharedClientLoop.trySendSession session
          ([[], [[5], [6]]].getD handle []) := by decide +kernel
    intro handle session hget
    exact hyields handle (unevenWorker.sessions.mem_keys.2 (by simp [hget])) session hget

/-- Two rounds for three packets. -/
example : (unevenServer.flushAllSends 4 0).1 = [[7], [8], [9]] := by decide +kernel

end Http3
