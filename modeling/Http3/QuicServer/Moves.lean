import Http3.QuicServer.Handler
import Http3.QuicConnectionSpec
import Http3.SlotBooks

/-! The raw QUIC server worker as a sequence of elementary moves. Every command,
packet, timer, poll, flush and reap is such a sequence, so a fact about events
and connections needs one argument per kind of move. -/

namespace Http3

/-- No handshake yet, and no stream waits for its FIN. -/
def QuicConnection.Cold {Q : Type} (c : QuicConnection Q) : Prop :=
  c.handshakeCompleteEmitted = false ∧ c.pendingFin = []

/-- If the connection is still cold, a poll finds nothing for the application. -/
def QuicConnection.Unread {Q : Type} [Quiche Q] (budget : ℕ) (c : QuicConnection Q) : Prop :=
  c.Cold → budget = 0 ∨ c.Mute

/-- The answer to a handshake that ended without a certificate. -/
def QuicConnection.rejectUncertified {Q : Type} [Quiche Q] (c : QuicConnection Q) :
    QuicConnection Q :=
  if Quiche.isEstablished c.quicheConn then c.close false 0x0100 "client certificate required"
  else c

def QuicConnection.Certified {Q : Type} [Quiche Q] (c : QuicConnection Q) : Prop :=
  Quiche.isEstablished c.quicheConn = true ∧ (Quiche.peerCert c.quicheConn).isSome

instance {Q : Type} (c : QuicConnection Q) : Decidable c.Cold :=
  inferInstanceAs (Decidable (_ ∧ _))

instance {Q : Type} [Quiche Q] (c : QuicConnection Q) (budget : ℕ) : Decidable (c.Unread budget) :=
  inferInstanceAs (Decidable (_ → _))

instance {Q : Type} [Quiche Q] (c : QuicConnection Q) : Decidable c.Certified :=
  inferInstanceAs (Decidable (_ ∧ _))

theorem QuicConnection.Sends.cold {Q : Type} {c d : QuicConnection Q} (h : Sends c d)
    (hc : c.Cold) : d.Cold :=
  ⟨h.handshake.trans hc.1, h.pendingFin.trans hc.2⟩

theorem ConnectionMap.get_set_of_some {C : Type} {m : ConnectionMap C} {slot : ℕ} {c : C}
    (h : m.get slot = some c) (d : C) (k : ℕ) :
    (m.set slot d).get k = if k = slot then some d else m.get k := by
  simp [ConnectionMap.get_set, h]

namespace QuicServer

variable {Q : Type}

/-- What is settled when the worker starts. -/
structure Fixed (s s' : QuicServer Q) : Prop where
  handleOffset : s'.handleOffset = s.handleOffset
  requireClientCert : s'.requireClientCert = s.requireClientCert
  maxConnections : s'.connMap.maxConnections = s.connMap.maxConnections

/-- An event of the connection `ref` under the handle of its slot. -/
def Says (s : QuicServer Q) (ref : ConnRef) (e : Emitted) : Prop :=
  e.owner = some ref ∧ e.event.connHandle = globalHandle s.handleOffset ref.slot ∧ NotSentinel e

/-- One elementary change of the worker. `locals` admits events that carry the slot
in place of the handle; under `gated` cold connections stay cold and hand the
application nothing. -/
inductive Move (locals gated : Prop) (s s' : QuicServer Q) : Prop
  | keep (fixed : Fixed s s')
      (conns : ∀ k, s'.connMap.get k = s.connMap.get k ∨ s'.connMap.get k = none)
      (batch : Appends (fun e => e = ⟨none, .writeReady 0⟩) s.batch s'.batch)
  | accept (slot : ℕ) (c : QuicConnection Q) (fixed : Fixed s s') (cold : c.Cold)
      (conns : ∀ k, s'.connMap.get k = if k = slot then some c else s.connMap.get k)
      (ip : String) (port : ℕ)
      (batch : s'.batch = pushFor ⟨slot, c.uid⟩
        (.newSession (globalHandle s.handleOffset slot) ip port "") s.batch)
  | handshake (slot : ℕ) (c d : QuicConnection Q) (fixed : Fixed s s')
      (live : s.connMap.get slot = some c) (uid : d.uid = c.uid)
      (conns : ∀ k, s'.connMap.get k = if k = slot then some d else s.connMap.get k)
      (presented : Bool) (chain : Option (List Bytes))
      (verified : s.requireClientCert = true → presented = true)
      (batch : s'.batch = pushFor ⟨slot, c.uid⟩ (.handshakeCompleteWithPeerCertificate
        (globalHandle s.handleOffset slot) presented chain) s.batch)
  | act (slot : ℕ) (c d : QuicConnection Q) (fixed : Fixed s s')
      (live : s.connMap.get slot = some c) (uid : d.uid = c.uid) (cold : gated → c.Cold → d.Cold)
      (conns : ∀ k, s'.connMap.get k = if k = slot then some d else s.connMap.get k)
      (batch : Appends (fun e => s.Says ⟨slot, c.uid⟩ e ∧
        (gated → c.Cold → e.event.eventType.isApp = false)) s.batch s'.batch)
  | report (ref : ConnRef) (event : JsH3Event) (fixed : Fixed s s')
      (conns : ∀ k, s'.connMap.get k = s.connMap.get k)
      (lt_max : ref.slot < s.connMap.maxConnections)
      (kind : event.eventType.isApp = false ∧ event.eventType ≠ .shutdownComplete)
      (handle : event.connHandle = globalHandle s.handleOffset ref.slot ∨
        locals ∧ event.connHandle = UInt32.ofNat ref.slot)
      (batch : s'.batch = pushFor ref event s.batch)

def Moves (locals gated : Prop) : QuicServer Q → QuicServer Q → Prop :=
  Relation.ReflTransGen (Move locals gated)

theorem Move.fixed {locals gated : Prop} {s s' : QuicServer Q} (h : Move locals gated s s') :
    Fixed s s' := by
  cases h <;> assumption

namespace Moves

variable {locals gated : Prop} {s s' s'' : QuicServer Q}

theorem refl (s : QuicServer Q) : Moves locals gated s s := Relation.ReflTransGen.refl

theorem trans (h : Moves locals gated s s') (h' : Moves locals gated s' s'') :
    Moves locals gated s s'' := Relation.ReflTransGen.trans h h'

theorem tail (h : Moves locals gated s s') (h' : Move locals gated s' s'') :
    Moves locals gated s s'' := Relation.ReflTransGen.tail h h'

theorem fixed (h : Moves locals gated s s') : Fixed s s' := by
  induction h with
  | refl => exact ⟨rfl, rfl, rfl⟩
  | tail _ hmove ih =>
    have hfix := hmove.fixed
    exact ⟨hfix.handleOffset.trans ih.handleOffset,
      hfix.requireClientCert.trans ih.requireClientCert,
      hfix.maxConnections.trans ih.maxConnections⟩

theorem books (h : Moves locals gated s s') (hmap : s''.connMap = s'.connMap)
    (hbatch : s''.batch = s'.batch) (hoffset : s''.handleOffset = s'.handleOffset)
    (hcert : s''.requireClientCert = s'.requireClientCert) : Moves locals gated s s'' := by
  apply h.tail
  refine .keep ⟨hoffset, hcert, by rw [hmap]⟩ ?_ ?_
  · intro k
    rw [hmap]
    exact .inl rfl
  · rw [hbatch]
    exact .refl _

theorem report {ref : ConnRef} {event : JsH3Event} (h : Moves locals gated s s')
    (hlt : ref.slot < s.connMap.maxConnections)
    (hkind : event.eventType.isApp = false ∧ event.eventType ≠ .shutdownComplete)
    (hhandle : event.connHandle = globalHandle s.handleOffset ref.slot ∨
      locals ∧ event.connHandle = UInt32.ofNat ref.slot) :
    Moves locals gated s (s'.emit ref event) := by
  rw [← h.fixed.maxConnections] at hlt
  rw [← h.fixed.handleOffset] at hhandle
  apply h.tail
  exact .report ref event ⟨rfl, rfl, rfl⟩ (fun _ => rfl) hlt hkind hhandle rfl

theorem releaseOutboundAdmission (h : Moves locals gated s s') (units : ℕ) :
    Moves locals gated s (s'.releaseOutboundAdmission units) := by
  apply h.tail
  unfold QuicServer.releaseOutboundAdmission
  dsimp only
  split_ifs
  · refine .keep ⟨rfl, rfl, rfl⟩ (fun _ => .inl rfl) ?_
    exact ⟨[⟨none, .writeReady 0⟩], rfl, by simp⟩
  · exact .keep ⟨rfl, rfl, rfl⟩ (fun _ => .inl rfl) (.refl _)

end Moves

def books (s : QuicServer Q) : SlotBooks :=
  .ofMap (·.uid) s.timerHeap.deadlines
    (fun k => ∃ key : UInt32 × ℕ, (s.pendingWrites.lookup key).isSome ∧ key.1.toNat = k) s.connMap

def core (s : QuicServer Q) := (s.connMap, s.batch, s.handleOffset, s.requireClientCert,
  s.timerHeap, s.pendingWrites)

/-- What a run may do: the terms of its moves, and the ids it may route to a slot or take
out of the routes. -/
structure Terms where
  locals : Prop
  gated : Prop
  adds : Bytes → ℕ → Prop
  drops : Bytes → Prop
  reaps : ℕ → Prop

/-- A run of moves that keeps to the slot books and vacates no slot. -/
structure Steps (t : Terms) (s s' : QuicServer Q) : Prop where
  moves : Moves t.locals t.gated s s'
  slots : SlotBooks.Moves t.adds t.drops t.reaps s.books s'.books
  live : ∀ k, (s.connMap.get k).isSome → (s'.connMap.get k).isSome

variable {t : Terms}

namespace Steps

variable {s s' s'' : QuicServer Q}

theorem refl (s : QuicServer Q) : Steps t s s := ⟨.refl s, .refl _, fun _ h => h⟩

theorem trans (h : Steps t s s') (h' : Steps t s' s'') : Steps t s s'' :=
  ⟨h.moves.trans h'.moves, h.slots.trans h'.slots, fun k hk => h'.live k (h.live k hk)⟩

theorem tail (h : Steps t s s') (hmove : Move t.locals t.gated s' s'')
    (htends : SlotBooks.Tends s'.books s''.books) : Steps t s s'' := by
  refine ⟨h.moves.tail hmove, h.slots.trans htends.moves, ?_⟩
  intro k hk
  have huid : (s''.connMap.get k).map (·.uid) = (s'.connMap.get k).map (·.uid) :=
    congrFun htends.uidAt k
  rw [← Option.isSome_map, huid, Option.isSome_map]
  exact h.live k hk

theorem silent (h : Steps t s s') (hsame : s''.core = s'.core) : Steps t s s'' := by
  simp only [core, Prod.mk.injEq] at hsame
  obtain ⟨hmap, hbatch, hoffset, hcert, htimers, hwrites⟩ := hsame
  refine ⟨h.moves.books hmap hbatch hoffset hcert, ?_, ?_⟩
  · unfold books
    rw [hmap, htimers, hwrites]
    exact h.slots
  · rw [hmap]
    exact h.live

theorem foldl {α : Type} {f : QuicServer Q → α → QuicServer Q} (hf : ∀ s a, Steps t s (f s a))
    (as : List α) (s : QuicServer Q) : Steps t s (as.foldl f s) :=
  List.foldlRecOn as f (.refl s) fun s' h a _ => h.trans (hf s' a)

theorem foldl_slots {f : QuicServer Q → ℕ → QuicServer Q} {P : QuicConnection Q → Prop}
    (hf : ∀ s slot, (t.gated → ∀ c, s.connMap.get slot = some c → P c) → Steps t s (f s slot))
    (hother : ∀ s slot k, k ≠ slot → (f s slot).connMap.get k = s.connMap.get k)
    {slots : List ℕ} (hnodup : slots.Nodup) (s : QuicServer Q)
    (hp : t.gated → ∀ slot ∈ slots, ∀ c, s.connMap.get slot = some c → P c) :
    Steps t s (slots.foldl f s) := by
  induction slots generalizing s with
  | nil => exact .refl s
  | cons slot slots ih =>
    obtain ⟨hslot, hnodup⟩ := List.nodup_cons.1 hnodup
    have hone := hf s slot fun hg => hp hg slot List.mem_cons_self
    apply hone.trans
    apply ih hnodup
    intro hg k hk c hc
    rw [hother s slot k fun heq => hslot (heq ▸ hk)] at hc
    exact hp hg k (List.mem_cons_of_mem slot hk) c hc

theorem writes (h : Steps t s s') (pending : KeyMap (UInt32 × ℕ) PendingWrite)
    (hpending : ∀ key, (pending.lookup key).isSome →
      (s'.pendingWrites.lookup key).isSome ∨ (s'.connMap.get key.1.toNat).isSome) :
    Steps t s { s' with pendingWrites := pending } := by
  refine ⟨h.moves.books rfl rfl rfl rfl, ?_, h.live⟩
  refine h.slots.trans (SlotBooks.Tends.moves ⟨rfl, rfl, fun _ => .inl, ?_⟩)
  rintro k ⟨key, hkey, rfl⟩
  rcases hpending key hkey with hold | hlive
  · exact .inl ⟨key, hold, rfl⟩
  · refine .inr ?_
    show ((s'.connMap.get key.1.toNat).map _).isSome
    rwa [Option.isSome_map]

theorem setDeadline (h : Steps t s s') {slot : ℕ} (hlive : (s'.connMap.get slot).isSome)
    (deadline : Option ℕ) :
    Steps t s { s' with timerHeap := s'.timerHeap.setDeadline slot deadline } := by
  refine ⟨h.moves.books rfl rfl rfl rfl, ?_, h.live⟩
  refine h.slots.trans (SlotBooks.Tends.moves ⟨rfl, rfl, ?_, fun _ => .inl⟩)
  intro k hk
  rcases TimerHeap.mem_setDeadline hk with hold | rfl
  · exact .inl hold
  · refine .inr ?_
    show ((s'.connMap.get k).map _).isSome
    rwa [Option.isSome_map]

theorem writeBack {slot : ℕ} {c d : QuicConnection Q} {batch : List Emitted} (h : Steps t s s')
    (hc : s'.connMap.get slot = some c) (huid : d.uid = c.uid)
    (hmove : Move t.locals t.gated s' { s' with connMap := s'.connMap.set slot d, batch }) :
    Steps t s { s' with connMap := s'.connMap.set slot d, batch } := by
  have hbooks : { s' with connMap := s'.connMap.set slot d, batch }.books = s'.books :=
    SlotBooks.ofMap_set _ _ _ hc huid
  refine h.tail hmove ?_
  rw [hbooks]
  exact .refl _

theorem act {slot : ℕ} {c d : QuicConnection Q} {batch : List Emitted} (h : Steps t s s')
    (hc : s'.connMap.get slot = some c) (huid : d.uid = c.uid)
    (hcold : t.gated → c.Cold → d.Cold)
    (hbatch : Appends (fun e => s'.Says ⟨slot, c.uid⟩ e ∧
      (t.gated → c.Cold → e.event.eventType.isApp = false)) s'.batch batch) :
    Steps t s { s' with connMap := s'.connMap.set slot d, batch } :=
  h.writeBack hc huid (.act slot c d ⟨rfl, rfl, rfl⟩ hc huid hcold
    (ConnectionMap.get_set_of_some hc d) hbatch)

theorem set {slot : ℕ} {c d : QuicConnection Q} (h : Steps t s s')
    (hc : s'.connMap.get slot = some c) (hd : c.Sends d) :
    Steps t s { s' with connMap := s'.connMap.set slot d } :=
  h.act hc hd.uid (fun _ => hd.cold) (.refl _)

theorem addDcid (h : Steps t s s') {handle : ℕ} {dcid : Bytes} (hadd : t.adds dcid handle) :
    Steps t s { s' with connMap := s'.connMap.addDcid handle dcid } := by
  refine ⟨?_, h.slots.trans (SlotBooks.addDcid_moves _ _ _ hadd), ?_⟩
  · apply h.moves.tail
    exact .keep ⟨rfl, rfl, s'.connMap.maxConnections_addDcid dcid⟩
      (fun _ => .inl (s'.connMap.get_addDcid dcid)) (.refl _)
  · intro k hk
    rw [ConnectionMap.get_addDcid]
    exact h.live k hk

theorem removeDcids (h : Steps t s s') (retired : List Bytes) (hdrop : ∀ id ∈ retired, t.drops id) :
    Steps t s { s' with connMap := retired.foldl ConnectionMap.removeDcid s'.connMap } := by
  have hget : ∀ k, (retired.foldl ConnectionMap.removeDcid s'.connMap).get k = s'.connMap.get k :=
    fun k => ConnectionMap.get_foldl_removeDcid retired s'.connMap
  have hmax : ∀ (retired : List Bytes) (m : ConnectionMap (QuicConnection Q)),
      (retired.foldl ConnectionMap.removeDcid m).maxConnections = m.maxConnections := by
    intro retired
    induction retired with
    | nil => exact fun _ => rfl
    | cons id retired ih => exact fun m => ih _
  refine ⟨?_, h.slots.trans (SlotBooks.removeDcids_moves _ _ _ retired hdrop _), ?_⟩
  · apply h.moves.tail
    exact .keep ⟨rfl, rfl, hmax retired s'.connMap⟩ (fun k => .inl (hget k)) (.refl _)
  · intro k hk
    rw [hget]
    exact h.live k hk

theorem report {ref : ConnRef} {event : JsH3Event} (h : Steps t s s')
    (hlt : ref.slot < s.connMap.maxConnections)
    (hkind : event.eventType.isApp = false ∧ event.eventType ≠ .shutdownComplete)
    (hhandle : event.connHandle = globalHandle s.handleOffset ref.slot ∨
      t.locals ∧ event.connHandle = UInt32.ofNat ref.slot) : Steps t s (s'.emit ref event) :=
  ⟨h.moves.report hlt hkind hhandle, h.slots, h.live⟩

theorem releaseOutboundAdmission (h : Steps t s s') (units : ℕ) :
    Steps t s (s'.releaseOutboundAdmission units) := by
  refine ⟨h.moves.releaseOutboundAdmission units, ?_, ?_⟩
  all_goals
    unfold QuicServer.releaseOutboundAdmission
    dsimp only
  · split_ifs <;> exact h.slots
  · split_ifs <;> exact h.live

end Steps

variable [Quiche Q] {locals gated : Prop}

/-- Polling a connection that was just written back. A cold connection is only
polled without a budget or when it has nothing for the application. -/
theorem Steps.pollConn {s s' : QuicServer Q} {slot budget : ℕ} {c : QuicConnection Q}
    (h : Steps t s { s' with connMap := s'.connMap.set slot c })
    (hlive : (s'.connMap.get slot).isSome) (hgate : t.gated → c.Cold → budget = 0 ∨ c.Mute)
    (now : ℕ) : Steps t s (s'.pollConn slot budget now c) := by
  obtain ⟨old, hold⟩ := Option.isSome_iff_exists.1 hlive
  have hset := ConnectionMap.get_set_of_some hold
  obtain ⟨hkeeps, hpolls⟩ := QuicConnection.pollQuicEvents_spec ⟨slot, c.uid⟩
    (globalHandle s'.handleOffset slot) budget c s'.batch
  have hmute := fun hbudget : budget = 0 ∨ c.Mute => QuicConnection.pollQuicEvents_mute
    ⟨slot, c.uid⟩ (globalHandle s'.handleOffset slot) hbudget s'.batch
  unfold QuicServer.pollConn
  dsimp only
  generalize QuicConnection.pollQuicEvents ⟨slot, c.uid⟩
    (globalHandle s'.handleOffset slot) budget c
    s'.batch = polled at hkeeps hpolls hmute ⊢
  obtain ⟨d, batch⟩ := polled
  refine h.tail (.act slot c (d.pollPingAcks now).2 ⟨rfl, rfl, rfl⟩ ?_ hkeeps.uid ?_ ?_ ?_) ?_
  · exact (hset c slot).trans (if_pos rfl)
  · intro hg hcold
    exact (hmute (hgate hg hcold)).1.cold hcold
  · intro k
    rw [hset, hset]
    split_ifs <;> rfl
  · apply Appends.trans (b := batch)
    · by_cases hg : t.gated ∧ c.Cold
      · obtain ⟨-, hquiet⟩ := hmute (hgate hg.1 hg.2)
        exact hquiet.mono fun e he => ⟨⟨he.1.1, he.1.2.1, he.1.notSentinel⟩, fun _ _ => he.2⟩
      · exact hpolls.mono fun e he =>
          ⟨⟨he.1, he.2.1, he.notSentinel⟩, fun h1 h2 => absurd ⟨h1, h2⟩ hg⟩
    · apply Appends.foldl_pushFor
      intro d
      exact ⟨⟨rfl, rfl, EventType.noConfusion⟩, fun _ _ => rfl⟩
  · have hpolled : (d.pollPingAcks now).2.uid = c.uid := hkeeps.uid
    have hbooks := SlotBooks.ofMap_set_congr (·.uid) s'.timerHeap.deadlines
      (fun k => ∃ key : UInt32 × ℕ, (s'.pendingWrites.lookup key).isSome ∧ key.1.toNat = k)
      s'.connMap slot hpolled
    unfold books
    rw [hbooks]
    exact .refl _

section Dispatch

/-- The branches of a command whose events carry the handle as it came. -/
def reportsLocally (s : QuicServer Q) : QuicServerCommand → Bool
  | .streamSend connHandle streamId chunk fin =>
    (s.pendingWrites.lookup (connHandle, streamId)).isNone &&
      (s.conn? connHandle).any fun conn =>
        match (conn.streamSendArcbuf streamId chunk fin).1 with
        | .ok outcome => outcome.remainder.isSome
        | .error _ => true
  | .streamClose connHandle streamId _ =>
    (s.conn? connHandle).isSome && decide (0 < KeyMap.weight PendingWrite.queuedUnits
      (s.pendingWrites.lookup (connHandle, streamId)))
  | _ => false

omit [Quiche Q] in
theorem Steps.insertPendingWrite {s s' : QuicServer Q} (h : Steps t s s') {key : UInt32 × ℕ}
    (write : PendingWrite) (hlive : (s'.pendingWrites.lookup key).isSome ∨
      (s'.connMap.get key.1.toNat).isSome) : Steps t s (s'.insertPendingWrite key write) := by
  refine h.writes _ fun other hother => ?_
  by_cases hk : other = key
  · subst hk
    exact hlive
  · rw [AList.lookup_insert_ne hk] at hother
    exact .inl hother

theorem dispatchStreamSend_steps {connHandle : UInt32} {streamId : ℕ} {chunk : Bytes} {fin : Bool}
    {s : QuicServer Q} (hlocals : s.reportsLocally (.streamSend connHandle streamId chunk fin) →
      t.locals) :
    Steps t s (s.dispatchStreamSend connHandle streamId chunk fin) := by
  have hrefl : Steps t s s := .refl s
  unfold dispatchStreamSend
  unfold reportsLocally at hlocals
  cases hw : s.pendingWrites.lookup (connHandle, streamId) with
  | some write => exact hrefl.insertPendingWrite _ (.inl (by rw [hw]; rfl))
  | none =>
    dsimp only
    cases hc : s.conn? connHandle with
    | none => exact hrefl.releaseOutboundAdmission _
    | some c =>
      have hlt := s.connMap.lt_maxConnections (Option.isSome_iff_exists.2 ⟨c, hc⟩)
      have hsends : c.Sends (c.streamSendArcbuf streamId chunk fin).2 :=
        QuicConnection.streamSendArcbuf_sends streamId chunk fin
      have hset := hrefl.set hc hsends
      have hhandle : UInt32.ofNat connHandle.toNat = connHandle := UInt32.ofNat_toNat
      dsimp only at hlocals
      rw [hw, hc] at hlocals
      simp only [Option.isNone_none, Option.any_some, Bool.true_and] at hlocals
      dsimp only
      generalize c.streamSendArcbuf streamId chunk fin = r at hset hlocals ⊢
      obtain ⟨e | ⟨written, finAccepted, _ | remainder⟩, d⟩ := r
      · exact (hset.releaseOutboundAdmission _).report hlt ⟨rfl, EventType.noConfusion⟩
          (.inr ⟨hlocals rfl, hhandle.symm⟩)
      · exact hset.releaseOutboundAdmission _
      · have hinsert : Steps t s (((s.setConn connHandle d).releaseOutboundAdmission
            (acceptedOutboundPayloadUnits chunk.length fin written finAccepted)).insertPendingWrite
              (connHandle, streamId) (.new remainder fin)) :=
          (hset.releaseOutboundAdmission _).insertPendingWrite _
            (.inr ((hset.releaseOutboundAdmission _).live _ (Option.isSome_iff_exists.2 ⟨c, hc⟩)))
        exact hinsert.report hlt ⟨rfl, EventType.noConfusion⟩ (.inr ⟨hlocals rfl, hhandle.symm⟩)

theorem dispatchStreamClose_steps {connHandle : UInt32} {streamId errorCode : ℕ}
    {s : QuicServer Q} (hlocals : s.reportsLocally (.streamClose connHandle streamId errorCode) →
      t.locals) :
    Steps t s (s.dispatchStreamClose connHandle streamId errorCode) := by
  have hrefl : Steps t s s := .refl s
  unfold dispatchStreamClose
  unfold reportsLocally at hlocals
  cases hc : s.conn? connHandle with
  | none => exact hrefl
  | some c =>
    have hlt := s.connMap.lt_maxConnections (Option.isSome_iff_exists.2 ⟨c, hc⟩)
    have hset := hrefl.set hc (QuicConnection.streamClose_sends streamId errorCode)
    have hhandle : UInt32.ofNat connHandle.toNat = connHandle := UInt32.ofNat_toNat
    dsimp only at hlocals
    rw [hc] at hlocals
    simp only [Option.isSome_some, Bool.true_and, decide_eq_true_eq] at hlocals
    dsimp only
    have herase : Steps t s { s.setConn connHandle (c.streamClose streamId errorCode) with
        pendingWrites := s.pendingWrites.erase (connHandle, streamId) } :=
      hset.writes _ fun key hkey => .inl (KeyMap.isSome_of_erase hkey)
    have hrelease := herase.releaseOutboundAdmission (KeyMap.weight PendingWrite.queuedUnits
      (s.pendingWrites.lookup (connHandle, streamId)))
    split_ifs with hpos
    · exact hrelease.report hlt ⟨rfl, EventType.noConfusion⟩ (.inr ⟨hlocals hpos, hhandle.symm⟩)
    · exact hrelease

theorem shutdownConn_steps (s : QuicServer Q) (handle : ℕ) :
    Steps t s (s.shutdownConn handle) := by
  unfold shutdownConn
  cases hc : s.connMap.get handle with
  | none => exact .refl s
  | some c =>
    dsimp only
    split_ifs
    · exact (Steps.refl s).set hc ⟨⟨rfl, rfl⟩, rfl⟩
    · exact .refl s

theorem dispatchCommand_steps (now : ℕ) {cmd : QuicServerCommand} {s : QuicServer Q}
    (hlocals : s.reportsLocally cmd → t.locals) :
    Steps t s (s.dispatchCommand now cmd).2 := by
  have hrefl : Steps t s s := .refl s
  cases cmd with
  | streamSend connHandle streamId chunk fin => exact dispatchStreamSend_steps hlocals
  | streamClose connHandle streamId errorCode => exact dispatchStreamClose_steps hlocals
  | closeSession connHandle errorCode reason =>
    show Steps t s (s.dispatchCloseSession connHandle errorCode reason)
    unfold dispatchCloseSession
    cases hc : s.conn? connHandle with
    | none => exact hrefl
    | some c => exact hrefl.set hc ⟨⟨rfl, rfl⟩, rfl⟩
  | sendDatagram connHandle data =>
    show Steps t s (s.dispatchSendDatagram connHandle data)
    unfold dispatchSendDatagram
    cases hc : s.conn? connHandle with
    | none => exact (hrefl.releaseOutboundAdmission data.length).silent rfl
    | some c =>
      have hset := hrefl.set hc (QuicConnection.queueDatagram_sends data)
      exact (hset.releaseOutboundAdmission data.length).silent rfl
  | pingSession connHandle =>
    show Steps t s (s.dispatchPingSession connHandle now)
    unfold dispatchPingSession
    cases hc : s.conn? connHandle with
    | none => exact hrefl.silent rfl
    | some c =>
      have hset := hrefl.set hc (QuicConnection.queuePing_sends now)
      exact hset.silent rfl
  | shutdown => exact Steps.foldl shutdownConn_steps _ s

end Dispatch

section Packets

theorem routeOrAccept_steps (hdr : PacketHeader) (p : Packet) (now : ℕ) (scids : List Bytes)
    (s : QuicServer Q) (hadd : ∀ slot, (s.routeOrAccept hdr p now scids).1 = some slot →
      ∀ id ∈ acceptedIds (s.connMap.routePacket hdr.dcid).isSome s.disableRetry hdr.dcid
        (hdr.odcid Q p.peer now) scids, t.adds id slot) :
    Steps t s (s.routeOrAccept hdr p now scids).2 := by
  have hslots : SlotBooks.Moves t.adds t.drops t.reaps s.books
      (s.routeOrAccept hdr p now scids).2.books :=
    SlotBooks.routeAndAnnounce_moves _ _ _ (fun _ _ _ => rfl) hadd
  revert hslots
  unfold routeOrAccept ConnectionMap.routeAndAnnounce
  cases hroute : s.connMap.routeOrAccept s.disableRetry hdr p now scids with
  | known handle => exact fun _ => .refl s
  | dropped => exact fun _ => .refl s
  | accepted slot m =>
    intro hslots
    obtain ⟨-, haccepted⟩ := ConnectionMap.routeOrAccept_accepted hroute
    obtain ⟨q, scid, hget⟩ := haccepted.conns
    refine ⟨?_, hslots, ?_⟩
    · apply (Moves.refl s).tail
      exact .accept slot (QuicConnection.new s.connMap.acceptedCount q scid)
        ⟨rfl, rfl, haccepted.maxConnections⟩ ⟨rfl, rfl⟩ hget p.peer.ip p.peer.port rfl
    · intro k hk
      show (m.get k).isSome
      rw [hget]
      split_ifs
      · rfl
      · exact hk

theorem Steps.topUpServerScids {s s' : QuicServer Q} (h : Steps t s s') {handle : ℕ}
    (scids : List Bytes) (hadd : ∀ id ∈ scids, t.adds id handle) :
    Steps t s { s' with connMap := s'.connMap.topUpServerScids handle scids } := by
  refine ConnectionMap.topUpServerScids_induction
    (P := fun m => Steps t s { s' with connMap := m }) scids ?_ ?_ h
  · intro m c q hc hm
    exact hm.set hc ⟨⟨rfl, rfl⟩, rfl⟩
  · intro m scid hscid hm
    exact hm.addDcid (hadd scid hscid)

/-- Handshake bookkeeping is a move of its own; a connection it leaves cold was
either not established or is now rejected. -/
theorem noteHandshake_steps {handle : ℕ} {c d : QuicConnection Q} {s : QuicServer Q}
    (hc : s.connMap.get handle = some c) (hd : c.Sends d) (connId : Bytes) :
    Steps t s { (s.noteHandshake handle d).2 with
        connMap := (s.noteHandshake handle d).2.connMap.set handle
          { (s.noteHandshake handle d).1 with connId } } ∧
      (s.noteHandshake handle d).2.connMap = s.connMap ∧
      (s.requireClientCert = true → (s.noteHandshake handle d).1.Cold → d.Cold ∧ ¬ d.Certified ∧
        (s.noteHandshake handle d).1.quicheConn = d.rejectUncertified.quicheConn) := by
  have hestablished : ∃ e, (if Quiche.isEstablished d.quicheConn && !d.isEstablished then
      { d with isEstablished := true } else d) = { d with isEstablished := e } := by
    split_ifs
    · exact ⟨true, rfl⟩
    · exact ⟨d.isEstablished, rfl⟩
  obtain ⟨e, he⟩ := hestablished
  unfold noteHandshake
  rw [he]
  dsimp only
  cases hq : Quiche.isEstablished d.quicheConn with
  | false =>
    refine ⟨(Steps.refl s).set hc ⟨⟨hd.uid, hd.handshake⟩, hd.pendingFin⟩, rfl, ?_⟩
    intro _ hcold
    refine ⟨hcold, fun hcert => ?_, by simp [QuicConnection.rejectUncertified, hq]⟩
    exact absurd (hq.symm.trans hcert.1) (by decide)
  | true =>
    by_cases hflag : d.handshakeCompleteEmitted = true
    · rw [if_neg (by simp [hflag])]
      refine ⟨(Steps.refl s).set hc ⟨⟨hd.uid, hd.handshake⟩, hd.pendingFin⟩, rfl, ?_⟩
      intro _ hcold
      exact absurd (hflag.symm.trans hcold.1) (by decide)
    · rw [if_pos (by simp [hflag])]
      split_ifs with hreject
      · refine ⟨(Steps.refl s).set hc ⟨⟨hd.uid, hd.handshake⟩, hd.pendingFin⟩, rfl, ?_⟩
        intro _ hcold
        refine ⟨hcold, fun hcert => ?_, by simp [QuicConnection.rejectUncertified, hq,
          QuicConnection.close]⟩
        simp [Option.isNone_iff_eq_none] at hreject
        simp [QuicConnection.Certified, hreject.2] at hcert
      · refine ⟨?_, rfl, ?_⟩
        · refine (Steps.refl s).writeBack hc hd.uid (.handshake handle c
            { d with isEstablished := e, handshakeCompleteEmitted := true, connId }
              ⟨rfl, rfl, rfl⟩ hc
            hd.uid (ConnectionMap.get_set_of_some hc _) _ _ ?_ (by rw [← hd.uid]; rfl))
          intro hrequire
          simpa [hrequire, Option.isSome_iff_ne_none] using hreject
        · intro _ hcold
          exact absurd hcold.1 (by simp)

/-- What a packet for the connection in `handle` must not bring: something to read
for a client whose certificate is missing. -/
def HandshakeFirst (s : QuicServer Q) (handle : ℕ) (p : Packet) (budget : ℕ) : Prop :=
  ∀ c ∈ s.connMap.get handle, (c.recv p).1 = true →
    (c.recv p).2.Certified ∨ (c.recv p).2.rejectUncertified.Unread budget

/-- The connection ids `receivePacket` puts in and takes out: the source id when it is a
new one, and those the peer has retired. -/
def scidChanges (handle : ℕ) (p : Packet) (budget now : ℕ) (s : QuicServer Q) :
    Option Bytes × List Bytes :=
  match s.connMap.get handle with
  | none => (none, [])
  | some conn =>
    let (ok, conn) := conn.recv p
    if !ok then (none, [])
    else
      let (conn, s) := s.noteHandshake handle conn
      let currentScid := Quiche.sourceId conn.quicheConn
      let s := s.pollConn handle budget now { conn with connId := currentScid }
      (if currentScid ≠ conn.connId then some currentScid else none,
        ((s.connMap.get handle).map fun conn =>
          (retiredScids (Quiche.rounds conn.quicheConn) conn.quicheConn).1).getD [])

def packetIds (p : Packet) (budget now : ℕ) (scids : List Bytes) (s : QuicServer Q) :
    Option PacketIds :=
  p.header.bind fun hdr =>
    let (routed, s₁) := s.routeOrAccept hdr p now scids
    routed.map fun slot =>
      let changes := s₁.scidChanges slot p budget now
      ⟨slot, acceptedIds (s.connMap.routePacket hdr.dcid).isSome s.disableRetry hdr.dcid
        (hdr.odcid Q p.peer now) scids ++ changes.1.toList ++ scids.tail, changes.2⟩

theorem receivePacket_steps (direct : Bool) (handle : ℕ) (p : Packet) (budget now : ℕ)
    (scids : List Bytes) {s : QuicServer Q}
    (hgate : t.gated → s.requireClientCert = true ∧ s.HandshakeFirst handle p budget)
    (hchange : ∀ id ∈ (s.scidChanges handle p budget now).1, t.adds id handle)
    (hretire : ∀ id ∈ (s.scidChanges handle p budget now).2, t.drops id)
    (hadd : ∀ id ∈ scids, t.adds id handle) :
    Steps t s (s.receivePacket direct handle p budget now scids) := by
  revert hchange hretire
  unfold receivePacket scidChanges
  cases hc : s.connMap.get handle with
  | none => exact fun _ _ => .refl s
  | some c =>
    have hrecv : c.Sends (c.recv p).2 := QuicConnection.recv_sends p
    have hfirst := fun hg => (hgate hg).2 c hc
    dsimp only
    generalize c.recv p = r at hrecv hfirst ⊢
    obtain ⟨ok, d⟩ := r
    cases ok with
    | false => exact fun _ _ => (Steps.refl s).set hc hrecv
    | true =>
      have hnote : ∀ connId, Steps t s _ ∧ _ := noteHandshake_steps hc hrecv
      simp only [Bool.not_true, Bool.false_eq_true, if_false]
      generalize s.noteHandshake handle d = noted at hnote ⊢
      obtain ⟨e, s₁⟩ := noted
      obtain ⟨hsteps, hmap, hcold⟩ := hnote (Quiche.sourceId e.quicheConn)
      have hlive : (s₁.connMap.get handle).isSome := by
        rw [hmap, hc]
        rfl
      have hunread : t.gated → { e with connId := Quiche.sourceId e.quicheConn }.Cold →
          budget = 0 ∨ { e with connId := Quiche.sourceId e.quicheConn }.Mute := by
        intro hg hstill
        obtain ⟨hdcold, hcert, hq⟩ := hcold (hgate hg).1 hstill
        rcases hfirst hg rfl with hcertified | hunread
        · exact absurd hcertified hcert
        · have hreject : d.rejectUncertified.Cold := by
            unfold QuicConnection.rejectUncertified
            split_ifs
            · exact hdcold
            · exact hdcold
          refine (hunread hreject).imp id fun hmute => ?_
          unfold QuicConnection.Mute at hmute ⊢
          rwa [← hq] at hmute
      have hpoll := hsteps.pollConn hlive hunread now
      dsimp only at hpoll ⊢
      generalize s₁.pollConn handle budget now _ = s₂ at hpoll ⊢
      cases hf : s₂.connMap.get handle with
      | none => exact fun _ _ => hpoll
      | some f =>
        simp only [Option.map_some, Option.getD_some]
        generalize retiredScids (Quiche.rounds f.quicheConn) f.quicheConn = retire
        obtain ⟨retired, q⟩ := retire
        intro hchange hretire
        have hset := hpoll.set (d := { f with quicheConn := q }) hf ⟨⟨rfl, rfl⟩, rfl⟩
        have hdcid : Steps t s { s₂ with
            connMap := if Quiche.sourceId e.quicheConn ≠ e.connId
              then (s₂.connMap.set handle { f with quicheConn := q }).addDcid handle
                (Quiche.sourceId e.quicheConn)
              else s₂.connMap.set handle { f with quicheConn := q } } := by
          by_cases hne : Quiche.sourceId e.quicheConn ≠ e.connId
          · rw [if_pos hne] at hchange ⊢
            exact hset.addDcid (hchange _ rfl)
          · rw [if_neg hne]
            exact hset
        have hroutes := hdcid.removeDcids retired hretire
        have hsome : (s.connMap.get handle).isSome := Option.isSome_iff_exists.2 ⟨c, hc⟩
        cases direct with
        | true => exact hroutes.setDeadline (hroutes.live handle hsome) _
        | false =>
          have htop := hroutes.topUpServerScids scids hadd
          exact htop.setDeadline (htop.live handle hsome) _

/-- The packet goes to a certified client, or has nothing to read. -/
def GatedPacket (s : QuicServer Q) (p : Packet) (budget now : ℕ) (scids : List Bytes) : Prop :=
  ∀ hdr ∈ p.header, ∀ handle ∈ (s.routeOrAccept hdr p now scids).1,
    (s.routeOrAccept hdr p now scids).2.HandshakeFirst handle p budget

theorem packetArrives_steps (direct : Bool) {p : Packet} {budget now : ℕ} {scids : List Bytes}
    {s : QuicServer Q}
    (hgate : t.gated → s.requireClientCert = true ∧ s.GatedPacket p budget now scids)
    (hids : ∀ ids ∈ s.packetIds p budget now scids,
      (∀ id ∈ ids.registered, t.adds id ids.slot) ∧ ∀ id ∈ ids.retired, t.drops id) :
    Steps t s (s.packetArrives direct p budget now scids) := by
  revert hids
  unfold packetArrives packetIds
  cases hp : p.header with
  | none => exact fun _ => .refl s
  | some hdr =>
    have hroute : _ → Steps t s _ := routeOrAccept_steps hdr p now scids s
    have hfirst := fun hg handle => (hgate hg).2 hdr hp handle
    simp only [Option.bind_some]
    generalize s.routeOrAccept hdr p now scids = r at hroute hfirst ⊢
    obtain ⟨_ | handle, s₁⟩ := r
    · exact fun _ => hroute (by simp)
    · intro hids
      obtain ⟨hadd, hdrop⟩ := hids _ rfl
      have hrouted := hroute fun slot hslot id hid => by
        cases hslot
        exact hadd id (by simp [hid])
      refine hrouted.trans (receivePacket_steps direct handle p budget now scids.tail
        ?_ ?_ hdrop ?_)
      · intro hg
        exact ⟨hrouted.moves.fixed.requireClientCert.trans (hgate hg).1, hfirst hg handle rfl⟩
      · intro id hid
        exact hadd id (by simp [Option.mem_def.1 hid])
      · intro id hid
        exact hadd id (by simp [hid])

end Packets

section Ticks

theorem get_pollConn_of_ne (s : QuicServer Q) {handle k : ℕ} (hk : k ≠ handle) (budget now : ℕ)
    (c : QuicConnection Q) : (s.pollConn handle budget now c).connMap.get k = s.connMap.get k := by
  refine s.connMap.get_set.trans (if_neg ?_)
  rintro ⟨rfl, -⟩
  exact hk rfl

theorem expireTimer_steps {now budget : ℕ} {s : QuicServer Q} {handle : ℕ}
    (hgate : t.gated → ∀ c ∈ s.connMap.get handle,
      c.onTimeout.isClosed = false → c.onTimeout.Unread budget) :
    Steps t s (s.expireTimer now budget handle) := by
  unfold expireTimer
  cases hc : s.connMap.get handle with
  | none => exact .refl s
  | some c =>
    have hset : Steps t s
        { s with connMap := s.connMap.set handle c.onTimeout } :=
      (Steps.refl s).set hc ⟨⟨rfl, rfl⟩, rfl⟩
    have hlive : (s.connMap.get handle).isSome := Option.isSome_iff_exists.2 ⟨c, hc⟩
    dsimp only
    cases hclosed : c.onTimeout.isClosed with
    | true =>
      obtain ⟨hkind, hhandle⟩ := c.onTimeout.sessionCloseEvent_kind
        (globalHandle s.handleOffset handle)
      rw [if_pos rfl]
      apply hset.report (s.connMap.lt_maxConnections hlive)
      · rw [hkind]
        exact ⟨rfl, EventType.noConfusion⟩
      · exact .inl hhandle
    | false =>
      rw [if_neg Bool.false_ne_true]
      have hget := ConnectionMap.get_set_of_some hc c.onTimeout handle
      rw [if_pos rfl] at hget
      have hpoll : Steps t s (pollConn
          { s with connMap := s.connMap.set handle c.onTimeout } handle budget now
            c.onTimeout) := by
        apply Steps.pollConn
        · exact hset.set hget (.refl _)
        · simp [hget]
        · intro hg
          exact hgate hg c hc hclosed
      exact hpoll.setDeadline (hpoll.live handle hlive) _

theorem get_expireTimer_of_ne (now budget : ℕ) (s : QuicServer Q) (handle k : ℕ) (hk : k ≠ handle) :
    (s.expireTimer now budget handle).connMap.get k = s.connMap.get k := by
  unfold expireTimer
  cases s.connMap.get handle with
  | none => rfl
  | some c =>
    have hset : (s.connMap.set handle c.onTimeout).get k = s.connMap.get k := by
      simp [ConnectionMap.get_set, hk]
    dsimp only
    split_ifs
    · exact hset
    · exact (get_pollConn_of_ne _ hk budget now _).trans hset

theorem sweepConn_steps (budget : ℕ) (s : QuicServer Q) (handle : ℕ) :
    Steps t s (s.sweepConn budget handle) := by
  unfold sweepConn
  cases hc : s.connMap.get handle with
  | none => exact .refl s
  | some c =>
    obtain ⟨hkeeps, hpolls⟩ := QuicConnection.sweepFinishedStreams_spec ⟨handle, c.uid⟩
      (globalHandle s.handleOffset handle) budget c s.batch
    dsimp only
    by_cases hcold : c.Cold
    · rw [QuicConnection.sweepFinishedStreams_of_nil _ _ hcold.2]
      exact (Steps.refl s).set hc (.refl c)
    · refine (Steps.refl s).act hc hkeeps.uid (fun _ h => absurd h hcold) ?_
      exact hpolls.mono fun e he => ⟨⟨he.1, he.2.1, he.notSentinel⟩, fun _ h => absurd h hcold⟩

theorem expireTimers_steps {now budget : ℕ} {s : QuicServer Q}
    (hgate : t.gated → ∀ handle ∈ (s.popTimers now).lastExpired,
      ∀ c ∈ s.connMap.get handle, c.onTimeout.isClosed = false → c.onTimeout.Unread budget) :
    Steps t s (s.expireTimers now budget) := by
  have hpop : Steps t s (s.popTimers now) := by
    refine (Steps.refl s).tail (.keep ⟨rfl, rfl, rfl⟩ (fun _ => .inl rfl) (.refl _)) ?_
    exact ⟨rfl, rfl, fun k hk => .inl (TimerHeap.mem_popExpiredLoop hk), fun _ => .inl⟩
  have hexpire : Steps t (s.popTimers now)
      ((s.popTimers now).lastExpired.foldl (expireTimer now budget) (s.popTimers now)) :=
    Steps.foldl_slots (fun _ _ => expireTimer_steps) (get_expireTimer_of_ne now budget)
      (List.nodup_dedup _) _ hgate
  exact (hpop.trans hexpire).trans (Steps.foldl (sweepConn_steps budget) _ _)

theorem collectAppEvents_steps {budget now : ℕ} {s : QuicServer Q}
    (hgate : t.gated → ∀ handle ∈ s.connMap.handles, ∀ c ∈ s.connMap.get handle, c.Unread budget) :
    Steps t s (s.collectAppEvents budget now) := by
  -- the connections to come are as they were before the sweep
  refine collectEvents_induction (P := fun handles left s' => (left ≠ 0 → budget ≠ 0) ∧
    Steps t s s' ∧ handles.Nodup ∧ ∀ handle ∈ handles, handle ∈ s.connMap.handles ∧
      s'.connMap.get handle = s.connMap.get handle) (R := Steps t s)
    ⟨id, .refl s, s.connMap.connections.nodup_keys, fun _ h => ⟨h, rfl⟩⟩
    (fun _ _ _ h => h.2.1) ?_ ?_
  · intro handle handles left s' _ _ ⟨hbudget, h, hnodup, hkept⟩
    exact ⟨hbudget, h, (List.nodup_cons.1 hnodup).2, fun k hk => hkept k (.tail _ hk)⟩
  · intro handle handles left s' c hc hleft ⟨hbudget, h, hnodup, hkept⟩
    obtain ⟨hhandle, hnodup⟩ := List.nodup_cons.1 hnodup
    obtain ⟨hmem, hget⟩ := hkept handle (.head _)
    refine ⟨fun _ => hbudget hleft, ?_, hnodup, ?_⟩
    · refine (h.set hc (.refl c)).pollConn (by rw [hc]; rfl) ?_ now
      intro hg hcold
      exact .inr ((hgate hg handle hmem c (hget ▸ hc) hcold).resolve_left (hbudget hleft))
    · intro k hk
      obtain ⟨hmem', hget'⟩ := hkept k (.tail _ hk)
      refine ⟨hmem', (get_pollConn_of_ne s' ?_ _ _ _).trans hget'⟩
      rintro rfl
      exact hhandle hk

theorem drainConn_steps (budget : ℕ) (s : QuicServer Q) (handle : ℕ) :
    Steps t s (s.drainConn budget handle) := by
  have hsweep : Steps t s _ := sweepConn_steps budget s handle
  unfold drainConn
  dsimp only
  generalize s.sweepConn budget handle = s₁ at hsweep ⊢
  split_ifs
  · exact hsweep
  · cases hc : s₁.connMap.get handle with
    | none => exact hsweep
    | some c =>
      dsimp only
      split_ifs
      · exact hsweep
      · obtain ⟨-, hpolls⟩ := QuicConnection.pollDrainEvents_spec ⟨handle, c.uid⟩
          (globalHandle s₁.handleOffset handle) c s₁.batch
        refine hsweep.act hc ?_ ?_ ?_
        · rfl
        · exact fun _ hcold => hcold
        · exact hpolls.mono fun e he => ⟨⟨he.1.1, he.1.2.1, he.1.notSentinel⟩, fun _ _ => he.2⟩

theorem flushAllSends_steps (rounds now : ℕ) (s : QuicServer Q) :
    Steps t s (s.flushAllSends rounds now).2 := by
  have hsends : Steps t s { s with
      connMap := (s.connMap.sendRounds rounds s.connMap.handles).2 } := by
    refine ConnectionMap.sendRounds_induction (P := fun m => Steps t s { s with connMap := m }) ?_
      rounds s.connMap.handles (.refl s)
    intro m handle c hc hm
    exact hm.set hc
      (QuicConnection.drainOutboundDatagrams_sends.trans QuicConnection.send_sends)
  unfold flushAllSends
  dsimp only
  generalize (s.connMap.sendRounds rounds s.connMap.handles).2 = connMap at hsends ⊢
  -- the timers of the slots that were live at the start, one after another
  have harm : ∀ (handles : List ℕ) (heap : TimerHeap), (∀ k ∈ handles, (connMap.get k).isSome) →
      Steps t s { s with connMap, timerHeap := heap } →
      Steps t s { s with connMap, timerHeap := handles.foldl (fun heap handle =>
        heap.setDeadline handle ((connMap.get handle).bind fun conn =>
          (Quiche.timeout conn.quicheConn).map (now + ·))) heap } := by
    intro handles
    induction handles with
    | nil => exact fun _ _ h => h
    | cons handle handles ih =>
      intro heap hlive h
      refine ih _ (fun k hk => hlive k (List.mem_cons_of_mem handle hk)) ?_
      exact h.setDeadline (hlive handle List.mem_cons_self) _
  refine harm s.connMap.handles s.timerHeap ?_ hsends
  intro k hk
  exact hsends.live k (s.connMap.mem_handles.1 hk)

/-- The retry loop only sends and drops entries, and what it drained was on a live
connection. -/
structure WriteFlush.Sound (t : Terms) (s : QuicServer Q) (acc : WriteFlush Q) : Prop where
  steps : Steps t s { s with connMap := acc.connMap }
  drained : ∀ entry ∈ acc.drained, entry.2.slot = entry.1.1.toNat ∧
    entry.2.slot < s.connMap.maxConnections
  pending : ∀ key, (acc.pending.lookup key).isSome → (s.pendingWrites.lookup key).isSome

theorem WriteFlush.Sound.step {s : QuicServer Q} {acc : WriteFlush Q}
    (h : Sound t s acc) (key : UInt32 × ℕ) : Sound t s (acc.step key) := by
  have herase : ∀ other, ((acc.pending.erase key).lookup other).isSome →
      (s.pendingWrites.lookup other).isSome :=
    fun other hother => h.pending other (KeyMap.isSome_of_erase hother)
  unfold WriteFlush.step
  cases hw : acc.pending.lookup key with
  | none => exact h
  | some write =>
    dsimp only
    cases hc : acc.connMap.get key.1.toNat with
    | none => exact ⟨h.steps, h.drained, herase⟩
    | some c =>
      have hset := h.steps.set hc
        (QuicConnection.flushPendingWriteWithProgress_sends key.2 write c)
      have hlt : key.1.toNat < s.connMap.maxConnections := by
        rw [← h.steps.moves.fixed.maxConnections]
        exact acc.connMap.lt_maxConnections (by simp [hc])
      dsimp only
      split
      · exact ⟨hset, h.drained, herase⟩
      · split_ifs
        · refine ⟨hset, ?_, herase⟩
          intro entry hentry
          rcases List.mem_append.1 hentry with hold | hnew
          · exact h.drained entry hold
          · rw [List.mem_singleton.1 hnew]
            exact ⟨rfl, hlt⟩
        · refine ⟨hset, h.drained, ?_⟩
          intro other hother
          by_cases hkey : other = key
          · exact h.pending other (by rw [hkey, hw]; rfl)
          · exact h.pending other (by rwa [AList.lookup_insert_ne hkey] at hother)

omit [Quiche Q] in
theorem emitDrained_steps {s s' : QuicServer Q} (h : Steps t s s')
    {entries : List ((UInt32 × ℕ) × ConnRef)}
    (hentries : ∀ entry ∈ entries, entry.2.slot = entry.1.1.toNat ∧
      entry.2.slot < s.connMap.maxConnections) :
    Steps t s (entries.foldl (fun s entry =>
      s.emit entry.2 (.drain (entry.1.1 ||| s.handleOffset) entry.1.2)) s') := by
  induction entries generalizing s' with
  | nil => exact h
  | cons entry entries ih =>
    obtain ⟨hslot, hlt⟩ := hentries entry List.mem_cons_self
    refine ih (h.report hlt ⟨rfl, EventType.noConfusion⟩ (.inl ?_)) fun e he =>
      hentries e (List.mem_cons_of_mem entry he)
    rw [hslot, globalHandle_toNat, h.moves.fixed.handleOffset]
    exact UInt32.or_comm _ _

theorem flushAllPendingWrites_steps (s : QuicServer Q) :
    Steps t s s.flushAllPendingWrites := by
  have hflush : ∀ (keys : List (UInt32 × ℕ)) (acc : WriteFlush Q),
      WriteFlush.Sound t s acc →
        WriteFlush.Sound t s (keys.foldl WriteFlush.step acc) := by
    intro keys
    induction keys with
    | nil => exact fun acc h => h
    | cons key keys ih => exact fun acc h => ih _ (h.step key)
  have hsound := hflush s.pendingWrites.keys ⟨s.connMap, s.pendingWrites, [], 0⟩
    ⟨.refl s, by simp, fun _ h => h⟩
  apply emitDrained_steps _ hsound.drained
  apply Steps.releaseOutboundAdmission
  exact hsound.steps.writes _ fun key hkey => .inl (hsound.pending key hkey)

omit [Quiche Q] in
theorem abandonConn_moves {s s' : QuicServer Q} (h : Moves locals gated s s') {ref : ConnRef}
    (hlt : ref.slot < s.connMap.maxConnections) : Moves locals gated s (s'.abandonConn ref) := by
  have hresets : ∀ (ids : List ℕ) (s' : QuicServer Q), Moves locals gated s s' →
      Moves locals gated s { s' with
        batch := ids.foldl (fun batch streamId =>
          pushFor ref (.reset (globalHandle s'.handleOffset ref.slot) streamId 0) batch)
            s'.batch } := by
    intro ids
    induction ids with
    | nil => exact fun s' h => h
    | cons id ids ih =>
      intro s' h
      apply ih (s'.emit ref (.reset (globalHandle s'.handleOffset ref.slot) id 0))
      apply h.report hlt ⟨rfl, EventType.noConfusion⟩
      rw [h.fixed.handleOffset]
      exact .inl rfl
  exact (hresets _ s' h).books rfl rfl rfl rfl

theorem reapConnection_moves {s s' : QuicServer Q} (h : Moves locals gated s s') {handle : ℕ}
    (hlt : handle < s.connMap.maxConnections) (c : QuicConnection Q) :
    Moves locals gated s (s'.reapConnection (handle, c)) := by
  unfold reapConnection
  dsimp only
  have habandon : Moves locals gated s (s'.abandonConn ⟨handle, c.uid⟩) := abandonConn_moves h hlt
  have hrelease := habandon.releaseOutboundAdmission (s'.pendingUnitsOf handle)
  split_ifs
  · exact hrelease
  · obtain ⟨hkind, hhandle⟩ := c.sessionCloseEvent_kind (globalHandle s.handleOffset handle)
    rw [hrelease.fixed.handleOffset]
    apply hrelease.report hlt
    · rw [hkind]
      exact ⟨rfl, EventType.noConfusion⟩
    · exact .inl hhandle

theorem reapClosedConnections_moves (s : QuicServer Q) :
    Moves locals gated s s.reapClosedConnections := by
  have hreap : ∀ (closed : List (ℕ × QuicConnection Q)) (s' : QuicServer Q),
      (∀ entry ∈ closed, entry.1 < s.connMap.maxConnections) → Moves locals gated s s' →
        Moves locals gated s (closed.foldl reapConnection s') := by
    intro closed
    induction closed with
    | nil => exact fun s' _ h => h
    | cons entry closed ih =>
      intro s' hlt h
      have hone := reapConnection_moves h (hlt entry List.mem_cons_self) entry.2
      exact ih _ (fun e he => hlt e (List.mem_cons_of_mem entry he)) hone
  have hdrain : Moves locals gated s
      { s with connMap := (s.connMap.drainClosed QuicConnection.isClosed).2 } := by
    apply (Moves.refl s).tail
    refine .keep ⟨rfl, rfl, (s.connMap.counts_foldl_remove _).2⟩ ?_ (.refl _)
    intro k
    have hget := s.connMap.get_drainClosed QuicConnection.isClosed k
    split_ifs at hget
    · exact .inr hget
    · exact .inl hget
  refine (hreap _ _ ?_ hdrain).books rfl rfl rfl rfl
  intro entry hentry
  obtain ⟨hget, -⟩ := (s.connMap.mem_drainClosed QuicConnection.isClosed).1 hentry
  exact s.connMap.lt_maxConnections (by simp [hget])

omit [Quiche Q] in
theorem emitSessionCloseFor_steps (s : QuicServer Q) (handle : ℕ) :
    Steps t s (s.emitSessionCloseFor handle) := by
  unfold emitSessionCloseFor
  cases hc : s.connMap.get handle with
  | none => exact .refl s
  | some c =>
    exact (Steps.refl s).report (s.connMap.lt_maxConnections (by simp [hc]))
      ⟨rfl, EventType.noConfusion⟩ (.inl rfl)

end Ticks

end QuicServer

end Http3
