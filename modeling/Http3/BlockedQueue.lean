import Http3.EventBudget
import Http3.Lib.Runs

/-! The queue of blocked streams and the set beside it, over any operations on a
connection, and the drains that a look at the queue reports. -/

namespace Http3

def drainsOn (streamId : ℕ) (events : List Emitted) : ℕ :=
  (drainsIn events).countP fun e => e.event.streamId == (streamId : ℤ)

section DrainsOn

variable {streamId : ℕ} {ref : ConnRef} {connHandle : UInt32} {event : JsH3Event}
  {events : List Emitted}

theorem drainsOn_pushFor (hkind : event.eventType ≠ .drain) :
    drainsOn streamId (pushFor ref event events) = drainsOn streamId events := by
  rw [drainsOn, drainsIn_pushFor hkind, drainsOn]

theorem drainsOn_drain (id : ℕ) :
    drainsOn streamId (pushFor ref (.drain connHandle id) events) =
      drainsOn streamId events + if id = streamId then 1 else 0 := by
  simp [drainsOn, drainsIn, pushFor, JsH3Event.drain, List.countP_cons]

end DrainsOn

namespace BlockedStreams

/-- No stream is queued twice, and the set has the streams of the queue. -/
structure Consistent (b : BlockedStreams) : Prop where
  nodup : b.queue.Nodup
  same : ∀ id, id ∈ b.queue ↔ id ∈ b.set

def owed (b : BlockedStreams) (streamId : ℕ) : ℕ := if streamId ∈ b.set then 1 else 0

/-- Streams are drained only out of the queue, and the books stay consistent. -/
structure DrainsFrom (id : ℕ) (b : BlockedStreams) (events : List Emitted) (b' : BlockedStreams)
    (events' : List Emitted) : Prop where
  consistent : b.Consistent → b'.Consistent
  drains : b.Consistent → drainsOn id events' + b'.owed id ≤ drainsOn id events + b.owed id

variable {b b' b'' : BlockedStreams} {streamId id : ℕ} {events events' events'' : List Emitted}

theorem DrainsFrom.refl : DrainsFrom id b events b events := ⟨fun h => h, fun _ => Nat.le_refl _⟩

theorem DrainsFrom.trans (h : DrainsFrom id b events b' events')
    (h' : DrainsFrom id b' events' b'' events'') : DrainsFrom id b events b'' events'' :=
  ⟨fun hb => h'.consistent (h.consistent hb),
    fun hb => (h'.drains (h.consistent hb)).trans (h.drains hb)⟩

theorem owed_le_one (b : BlockedStreams) (streamId : ℕ) : b.owed streamId ≤ 1 := by
  unfold owed
  split_ifs
  · exact Nat.le_refl 1
  · exact Nat.zero_le 1

theorem consistent_empty : empty.Consistent := ⟨List.nodup_nil, fun _ => Iff.rfl⟩

theorem Consistent.insert (h : b.Consistent) (streamId : ℕ) : (b.insert streamId).Consistent := by
  unfold BlockedStreams.insert
  split_ifs with hmem
  · exact h
  · constructor
    · rw [List.nodup_append_comm]
      exact List.nodup_cons.2 ⟨fun hqueued => hmem ((h.same streamId).1 hqueued), h.nodup⟩
    · intro id
      simp [h.same id, or_comm]

theorem Consistent.remove (h : b.Consistent) (streamId : ℕ) : (b.remove streamId).Consistent := by
  unfold BlockedStreams.remove
  split_ifs
  · constructor
    · exact h.nodup.filter _
    · intro id
      simp [h.same id]
  · exact h

theorem owed_remove (b : BlockedStreams) (streamId id : ℕ) :
    (b.remove streamId).owed id ≤ b.owed id := by
  unfold BlockedStreams.remove owed
  split_ifs with hmem hleft hbefore
  · exact Nat.le_refl 1
  · exact absurd (List.mem_of_mem_filter hleft) hbefore
  all_goals omega

theorem owed_remove_self (hmem : streamId ∈ b.set) (id : ℕ) :
    (b.remove streamId).owed id + (if streamId = id then 1 else 0) ≤ b.owed id := by
  by_cases hid : streamId = id
  · subst hid
    simp [BlockedStreams.remove, owed, hmem]
  · have hle := owed_remove b streamId id
    simp only [hid, if_false]
    exact hle

theorem Consistent.pop {rest : List ℕ} (h : b.Consistent) (hqueue : b.queue = streamId :: rest) :
    (⟨rest, b.set.filter (· ≠ streamId)⟩ : BlockedStreams).Consistent := by
  have hnodup := h.nodup
  rw [hqueue, List.nodup_cons] at hnodup
  refine ⟨hnodup.2, fun id => ?_⟩
  have hsame := h.same id
  rw [hqueue] at hsame
  simp only [List.mem_cons, List.mem_filter, decide_eq_true_eq, ne_eq] at hsame ⊢
  constructor
  · intro hid
    exact ⟨hsame.1 (.inr hid), fun heq => hnodup.1 (heq ▸ hid)⟩
  · rintro ⟨hid, hne⟩
    exact (hsame.2 hid).resolve_left hne

theorem Consistent.rotate {rest : List ℕ} (h : b.Consistent) (hqueue : b.queue = streamId :: rest) :
    (⟨rest ++ [streamId], b.set⟩ : BlockedStreams).Consistent := by
  have hnodup := h.nodup
  rw [hqueue] at hnodup
  refine ⟨?_, fun id => ?_⟩
  · rw [List.nodup_append_comm]
    exact hnodup
  · have hsame := h.same id
    rw [hqueue] at hsame
    rw [← hsame]
    simp [or_comm]

/-- Once around the queue: what goes out of it goes out of the set. -/
theorem probe_drainsFrom {capacity : ℕ → Except QuicheError ℕ} {ref : ConnRef} {connHandle : UInt32}
    (n : ℕ) : DrainsFrom id b events (probe capacity ref connHandle n b events).1
      (probe capacity ref connHandle n b events).2 := by
  induction n generalizing b events with
  | zero => exact .refl
  | succ n ih =>
    unfold probe
    cases hqueue : b.queue with
    | nil => exact .refl
    | cons streamId rest =>
      -- a stream that leaves the queue, with the event that tells of it
      have hleaves : ∀ event : JsH3Event,
          drainsOn id (pushFor ref event events) ≤
            drainsOn id events + (if streamId = id then 1 else 0) →
          DrainsFrom id b events ⟨rest, b.set.filter (· ≠ streamId)⟩
            (pushFor ref event events) := by
        intro event hevent
        refine ⟨fun h => h.pop hqueue, fun h => ?_⟩
        have hmem : streamId ∈ b.set := (h.same streamId).1 (by simp [hqueue])
        have hself := owed_remove_self hmem id
        rw [BlockedStreams.remove, if_pos hmem] at hself
        have hsame : owed ⟨rest, b.set.filter (· ≠ streamId)⟩ id =
            owed ⟨b.queue.filter (· ≠ streamId), b.set.filter (· ≠ streamId)⟩ id := rfl
        omega
      cases hcapacity : capacity streamId with
      | error e =>
        simp only [hcapacity]
        refine (hleaves _ ?_).trans ih
        rw [drainsOn_pushFor (by simp [JsH3Event.error])]
        exact Nat.le_add_right _ _
      | ok room =>
        simp only [hcapacity]
        split_ifs
        · refine (hleaves _ ?_).trans ih
          rw [drainsOn_drain]
        · have hback : DrainsFrom id b events ⟨rest ++ [streamId], b.set⟩ events :=
            ⟨fun h => h.rotate hqueue, fun _ => Nat.le_refl _⟩
          exact hback.trans ih

theorem DrainsFrom.at_most_one {b' : BlockedStreams} {events' : List Emitted}
    (h : DrainsFrom id b events b' events') (hb : b.Consistent) :
    drainsOn id events' ≤ drainsOn id events + 1 := by
  have hdrains := h.drains hb
  have howed := owed_le_one b id
  omega

theorem remove_drainsFrom : DrainsFrom id b events (b.remove streamId) events :=
  ⟨fun h => h.remove streamId, fun _ => Nat.add_le_add_left (owed_remove b streamId id) _⟩

end BlockedStreams

namespace H3Connection

variable {Q : Type} [Quiche Q] {ref : ConnRef} {connHandle : UInt32}

open BlockedStreams (DrainsFrom)

variable {c : H3Connection Q} {events : List Emitted} {id : ℕ}

omit [Quiche Q] in
theorem foldl_drainsFrom {f : H3Connection Q → ℕ → H3Connection Q}
    (hf : ∀ c streamId, DrainsFrom id c.blocked events (f c streamId).blocked events)
    (ids : List ℕ) :
    DrainsFrom id c.blocked events (ids.foldl f c).blocked events := by
  induction ids generalizing c with
  | nil => exact .refl
  | cons streamId ids ih => exact (hf c streamId).trans ih

omit [Quiche Q] in
theorem clearStreamTracking_drainsFrom (c : H3Connection Q) (streamId : ℕ) :
    DrainsFrom id c.blocked events (c.clearStreamTracking streamId).blocked events :=
  BlockedStreams.remove_drainsFrom

theorem PollAcc.cleared_drainsFrom (acc : PollAcc Q) :
    DrainsFrom id acc.poll.conn.blocked events acc.cleared.blocked events := by
  have hclosed : ∀ (c : H3Connection Q) streamId,
      DrainsFrom id c.blocked events (c.clearStreamTrackingIfClosed streamId).blocked events := by
    intro c streamId
    unfold clearStreamTrackingIfClosed
    split_ifs
    · exact clearStreamTracking_drainsFrom c streamId
    · exact .refl
  exact (foldl_drainsFrom clearStreamTracking_drainsFrom acc.resetStreams).trans
    (foldl_drainsFrom hclosed acc.closedCandidates)

theorem readEvents_drainsFrom (budget : ℕ) :
    DrainsFrom id c.blocked events (c.readEvents ref connHandle budget events).1.blocked
      (c.readEvents ref connHandle budget events).2 := by
  have hpolled : ReadSpec ref connHandle c _ events _ := polled_reads budget c events
  have hrest : ReadSpec ref connHandle _ _ _ _ := readEvents_reads budget c events
  have hcleared : DrainsFrom id c.blocked events
      (polled ref connHandle budget c events).cleared.blocked events := by
    rw [← hpolled.blocked]
    exact PollAcc.cleared_drainsFrom _
  rw [hrest.blocked]
  refine ⟨hcleared.consistent, fun h => ?_⟩
  unfold drainsOn
  rw [hrest.drains, hpolled.drains]
  exact hcleared.drains h

theorem pollWritable_drainsFrom (fuel : ℕ) :
    DrainsFrom id c.blocked events (pollWritable ref connHandle fuel c events).1.blocked
      (pollWritable ref connHandle fuel c events).2 := by
  induction fuel generalizing c events with
  | zero => exact .refl
  | succ fuel ih =>
    unfold pollWritable
    split
    · exact .refl
    · next streamId q _ =>
      dsimp only
      split
      · next errorCode _ =>
        refine DrainsFrom.trans ?_ ih
        have hclear : DrainsFrom id c.blocked events (c.blocked.remove streamId) events :=
          BlockedStreams.remove_drainsFrom
        refine ⟨hclear.consistent, fun h => ?_⟩
        rw [drainsOn_pushFor (by simp [JsH3Event.reset])]
        exact hclear.drains h
      · split_ifs with hmem
        · refine DrainsFrom.trans ?_ ih
          refine ⟨fun h => h.remove streamId, fun _ => ?_⟩
          have hself := BlockedStreams.owed_remove_self hmem id
          rw [drainsOn_drain]
          dsimp only
          omega
        · exact ih (c := { c with quicheConn := q })

variable (id) in
theorem pollDrainEvents_drainsFrom :
    DrainsFrom id c.blocked events (c.pollDrainEvents ref connHandle events).1.blocked
      (c.pollDrainEvents ref connHandle events).2 := by
  have hpruned : DrainsFrom id c.blocked events c.pruneClosedBlockedStreams.blocked events :=
    foldl_drainsFrom clearStreamTracking_drainsFrom _
  unfold pollDrainEvents
  dsimp only
  exact hpruned.trans ((pollWritable_drainsFrom _).trans (BlockedStreams.probe_drainsFrom _))

variable (id) in
theorem pollH3Events_drainsFrom (budget : ℕ) :
    DrainsFrom id c.blocked events (c.pollH3Events ref connHandle budget events).1.blocked
      (c.pollH3Events ref connHandle budget events).2 := by
  rw [pollH3Events_eq]
  exact (readEvents_drainsFrom budget).trans (pollDrainEvents_drainsFrom id)

/-- What may happen to a connection's blocked streams. `elsewhere` stands for all
the other calls on the connection: they leave the blocked streams alone and may
change anything else, quiche included. -/
inductive Op (Q : Type)
  | sendRequest (headers : Headers) (fin : Bool)
  | sendBodyArcbuf (streamId : ℕ) (buf : Bytes) (fin : Bool)
  | streamClose (streamId errorCode : ℕ)
  | pollH3Events (ref : ConnRef) (connHandle : UInt32) (budget : ℕ) (events : List Emitted)
  | pollDrainEvents (ref : ConnRef) (connHandle : UInt32) (events : List Emitted)
  | elsewhere (after : H3Connection Q)

def perform : Op Q → H3Connection Q → H3Connection Q
  | .sendRequest headers fin, c => (c.sendRequest headers fin).2
  | .sendBodyArcbuf streamId buf fin, c => (c.sendBodyArcbuf streamId buf fin).2
  | .streamClose streamId errorCode, c => c.streamClose streamId errorCode
  | .pollH3Events ref connHandle budget events, c =>
    (c.pollH3Events ref connHandle budget events).1
  | .pollDrainEvents ref connHandle events, c => (c.pollDrainEvents ref connHandle events).1
  | .elsewhere after, c => { after with blocked := c.blocked }

theorem sendRequest_consistent {headers : Headers} {fin : Bool} (h : c.blocked.Consistent) :
    (c.sendRequest headers fin).2.blocked.Consistent := by
  unfold sendRequest
  split_ifs
  · split
    · exact h
    · exact h.insert _
    · exact h
  · exact h

theorem sendBodyArcbuf_consistent {streamId : ℕ} {buf : Bytes} {fin : Bool}
    (h : c.blocked.Consistent) : (c.sendBodyArcbuf streamId buf fin).2.blocked.Consistent := by
  unfold sendBodyArcbuf
  dsimp only
  split_ifs
  · exact h
  · exact h
  · exact h
  · split
    · exact h
    · split_ifs
      · exact h.insert streamId
      · split
        · split_ifs
          · exact h.insert streamId
          · exact h
        · exact h.insert streamId
        · exact h

theorem perform_consistent (op : Op Q) (c : H3Connection Q) (h : c.blocked.Consistent) :
    (perform op c).blocked.Consistent := by
  cases op with
  | sendRequest headers fin => exact sendRequest_consistent h
  | sendBodyArcbuf streamId buf fin => exact sendBodyArcbuf_consistent h
  | streamClose streamId errorCode => exact h.remove streamId
  | pollH3Events ref connHandle budget events =>
    exact (pollH3Events_drainsFrom 0 budget).consistent h
  | pollDrainEvents ref connHandle events => exact (pollDrainEvents_drainsFrom 0).consistent h
  | elsewhere after => exact h

end H3Connection

namespace QuicConnection

open BlockedStreams (DrainsFrom)

variable {Q : Type} [Quiche Q] {ref : ConnRef} {connHandle : UInt32} {c : QuicConnection Q}
  {events : List Emitted}

theorem Reads.blocked {st st' : Polling Q} (h : Reads ref connHandle st st') :
    st'.conn.blocked = st.conn.blocked := by
  induction h with
  | refl => rfl
  | tail _ hpart ih =>
    cases hpart with
    | calls => exact ih
    | notes _ hblocked => exact hblocked.trans ih
    | reports => exact ih

theorem pollDrainEvents_drainsFrom (id : ℕ) :
    DrainsFrom id c.blocked events (c.pollDrainEvents ref connHandle events).1.blocked
      (c.pollDrainEvents ref connHandle events).2 :=
  BlockedStreams.probe_drainsFrom _

theorem pollQuicEvents_drainsFrom (id budget : ℕ) :
    DrainsFrom id c.blocked events (c.pollQuicEvents ref connHandle budget events).1.blocked
      (c.pollQuicEvents ref connHandle budget events).2 := by
  have hread : DrainsFrom id c.blocked events (c.readEvents ref connHandle budget events).1.blocked
      (c.readEvents ref connHandle budget events).2 := by
    obtain ⟨_, hreads⟩ := readEvents_reads ref connHandle budget c events
    rw [hreads.blocked]
    refine ⟨fun h => h, fun _ => ?_⟩
    unfold drainsOn
    rw [hreads.charged.drains]
  rw [pollQuicEvents_eq]
  exact hread.trans (pollDrainEvents_drainsFrom id)

/-- As for an HTTP/3 connection. -/
inductive Op (Q : Type)
  | streamSendArcbuf (streamId : ℕ) (buf : Bytes) (fin : Bool)
  | streamClose (streamId errorCode : ℕ)
  | pollQuicEvents (ref : ConnRef) (connHandle : UInt32) (budget : ℕ) (events : List Emitted)
  | pollDrainEvents (ref : ConnRef) (connHandle : UInt32) (events : List Emitted)
  | elsewhere (after : QuicConnection Q)

def perform : Op Q → QuicConnection Q → QuicConnection Q
  | .streamSendArcbuf streamId buf fin, c => (c.streamSendArcbuf streamId buf fin).2
  | .streamClose streamId errorCode, c => c.streamClose streamId errorCode
  | .pollQuicEvents ref connHandle budget events, c =>
    (c.pollQuicEvents ref connHandle budget events).1
  | .pollDrainEvents ref connHandle events, c => (c.pollDrainEvents ref connHandle events).1
  | .elsewhere after, c => { after with blocked := c.blocked }

theorem knowLocal_blocked (c : QuicConnection Q) (streamId : ℕ) :
    (c.knowLocal streamId).blocked = c.blocked := by
  unfold knowLocal
  split_ifs
  · rfl
  · rfl

theorem streamSendZc_consistent {streamId : ℕ} {buf : Bytes} {fin : Bool}
    (h : c.blocked.Consistent) : (c.streamSendZc streamId buf fin).2.blocked.Consistent := by
  unfold streamSendZc
  split
  · dsimp only
    split_ifs
    · rw [knowLocal_blocked]
      exact h.insert streamId
    · rw [knowLocal_blocked]
      exact h
  · exact h.insert streamId
  · exact h

theorem streamSendArcbuf_consistent {streamId : ℕ} {buf : Bytes} {fin : Bool}
    (h : c.blocked.Consistent) : (c.streamSendArcbuf streamId buf fin).2.blocked.Consistent := by
  unfold streamSendArcbuf
  split_ifs
  · exact h
  · split
    · rw [knowLocal_blocked]
      exact h
    · exact h.insert streamId
    · exact h
  · split
    · exact h
    · split_ifs
      · exact h
      · exact streamSendZc_consistent h
  · exact streamSendZc_consistent h

theorem perform_consistent (op : Op Q) (c : QuicConnection Q) (h : c.blocked.Consistent) :
    (perform op c).blocked.Consistent := by
  cases op with
  | streamSendArcbuf streamId buf fin => exact streamSendArcbuf_consistent h
  | streamClose streamId errorCode => exact h.remove streamId
  | pollQuicEvents ref connHandle budget events =>
    exact (pollQuicEvents_drainsFrom 0 budget).consistent h
  | pollDrainEvents ref connHandle events => exact (pollDrainEvents_drainsFrom 0).consistent h
  | elsewhere after => exact h

end QuicConnection

variable {Q : Type} [Quiche Q]

/-- Whatever is done to a connection, its blocked queue holds the elements of the
blocked set, each once, and one poll drains a stream at most once. -/
theorem blocked_streams_tracked (uid : ℕ) (quicheConn : Q) (connId : Bytes) :
    (∀ ops : List (H3Connection.Op Q),
      let c := Runs.run H3Connection.perform ops (.new uid quicheConn connId)
      c.blocked.Consistent ∧
      ∀ ref connHandle budget events id,
        drainsOn id (c.pollDrainEvents ref connHandle events).2 ≤ drainsOn id events + 1 ∧
        drainsOn id (c.pollH3Events ref connHandle budget events).2 ≤ drainsOn id events + 1) ∧
    (∀ ops : List (QuicConnection.Op Q),
      let c := Runs.run QuicConnection.perform ops (.new uid quicheConn connId)
      c.blocked.Consistent ∧
      ∀ ref connHandle budget events id,
        drainsOn id (c.pollDrainEvents ref connHandle events).2 ≤ drainsOn id events + 1 ∧
        drainsOn id (c.pollQuicEvents ref connHandle budget events).2 ≤
          drainsOn id events + 1) := by
  constructor
  · intro ops
    dsimp only
    have hrun := Runs.run_invariant H3Connection.perform_consistent ops
      (s := .new uid quicheConn connId) BlockedStreams.consistent_empty
    refine ⟨hrun, fun ref connHandle budget events id => ⟨?_, ?_⟩⟩
    · exact (H3Connection.pollDrainEvents_drainsFrom id).at_most_one hrun
    · exact (H3Connection.pollH3Events_drainsFrom id budget).at_most_one hrun
  · intro ops
    dsimp only
    have hrun := Runs.run_invariant QuicConnection.perform_consistent ops
      (s := .new uid quicheConn connId) BlockedStreams.consistent_empty
    refine ⟨hrun, fun ref connHandle budget events id => ⟨?_, ?_⟩⟩
    · exact (QuicConnection.pollDrainEvents_drainsFrom id).at_most_one hrun
    · exact (QuicConnection.pollQuicEvents_drainsFrom id budget).at_most_one hrun

end Http3
