import Http3.ServerConnections
import Http3.TimerHeap
import Mathlib.Logic.Relation
import Mathlib.Logic.Function.Basic

/-! What a server worker keeps per slab slot: who lives there, which connection ids
route to it, its timer, and whether something pending names it. The moves below are
all a worker does to these books. -/

namespace Http3

/-- `pending k` says that some table of pending work names slot `k`. -/
structure SlotBooks where
  uidAt : ℕ → Option ℕ
  byDcid : KeyMap Bytes ℕ
  deadlines : KeyMap ℕ ℕ
  pending : ℕ → Prop

namespace SlotBooks

def Live (b : SlotBooks) (k : ℕ) : Prop := (b.uidAt k).isSome

/-- Work on the connections at hand: timers and pending work appear only for live slots. -/
structure Tends (b b' : SlotBooks) : Prop where
  uidAt : b'.uidAt = b.uidAt
  byDcid : b'.byDcid = b.byDcid
  deadlines : ∀ k, k ∈ b'.deadlines → k ∈ b.deadlines ∨ b.Live k
  pending : ∀ k, b'.pending k → b.pending k ∨ b.Live k

namespace Tends

variable {b b' b'' : SlotBooks}

theorem refl (b : SlotBooks) : Tends b b := ⟨rfl, rfl, fun _ => .inl, fun _ => .inl⟩

theorem trans (h : Tends b b') (h' : Tends b' b'') : Tends b b'' := by
  have hlive : ∀ k, b'.Live k → b.Live k := by
    intro k hk
    unfold Live at hk ⊢
    rwa [h.uidAt] at hk
  refine ⟨h'.uidAt.trans h.uidAt, h'.byDcid.trans h.byDcid, ?_, ?_⟩
  · intro k hk
    exact (h'.deadlines k hk).elim (h.deadlines k) fun hl => .inr (hlive k hl)
  · intro k hk
    exact (h'.pending k hk).elim (h.pending k) fun hl => .inr (hlive k hl)

end Tends

/-- Reaping the `closed` slots takes everything of theirs along. -/
structure Reaps (closed : List ℕ) (b b' : SlotBooks) : Prop where
  uidAt : ∀ k, b'.uidAt k = if k ∈ closed then none else b.uidAt k
  byDcid : ∀ dcid k, b'.byDcid.lookup dcid = some k ↔ b.byDcid.lookup dcid = some k ∧ k ∉ closed
  deadlines : ∀ k, k ∈ b'.deadlines → k ∈ b.deadlines ∧ k ∉ closed
  pending : ∀ k, b'.pending k → b.pending k ∧ k ∉ closed

/-- One move of a worker. `adds`, `drops` and `reaps` say which connection ids may be
registered for which slot, which may be unregistered, and which slots may be vacated. -/
inductive Move (adds : Bytes → ℕ → Prop) (drops : Bytes → Prop) (reaps : ℕ → Prop)
    (b : SlotBooks) : SlotBooks → Prop
  | tend {b' : SlotBooks} (h : Tends b b') : Move adds drops reaps b b'
  | accept (slot : ℕ) (scid : Bytes) (uid : ℕ) (vacant : b.uidAt slot = none)
      (h : adds scid slot) : Move adds drops reaps b
        { b with
          uidAt := Function.update b.uidAt slot (some uid)
          byDcid := b.byDcid.insert scid slot }
  | route (slot : ℕ) (dcid : Bytes) (live : b.Live slot) (h : adds dcid slot) :
      Move adds drops reaps b { b with byDcid := b.byDcid.insert dcid slot }
  | unroute (dcid : Bytes) (h : drops dcid) :
      Move adds drops reaps b { b with byDcid := b.byDcid.erase dcid }
  | reap {b' : SlotBooks} {closed : List ℕ} (h : Reaps closed b b')
      (hclosed : ∀ k ∈ closed, reaps k) : Move adds drops reaps b b'

def Moves (adds : Bytes → ℕ → Prop) (drops : Bytes → Prop) (reaps : ℕ → Prop) :
    SlotBooks → SlotBooks → Prop :=
  Relation.ReflTransGen (Move adds drops reaps)

section Moves

variable {adds : Bytes → ℕ → Prop} {drops : Bytes → Prop} {reaps : ℕ → Prop}
  {b b' b'' : SlotBooks}

theorem Moves.refl (b : SlotBooks) : Moves adds drops reaps b b := Relation.ReflTransGen.refl

theorem Moves.trans (h : Moves adds drops reaps b b') (h' : Moves adds drops reaps b' b'') :
    Moves adds drops reaps b b'' := Relation.ReflTransGen.trans h h'

theorem Moves.tail (h : Moves adds drops reaps b b') (h' : Move adds drops reaps b' b'') :
    Moves adds drops reaps b b'' := Relation.ReflTransGen.tail h h'

theorem Tends.moves (h : Tends b b') : Moves adds drops reaps b b' := (Moves.refl b).tail (.tend h)

theorem Moves.invariant {Inv : SlotBooks → Prop}
    (hmove : ∀ b b', Move adds drops reaps b b' → Inv b → Inv b')
    (h : Moves adds drops reaps b b') (hb : Inv b) : Inv b' := by
  induction h with
  | refl => exact hb
  | tail _ hone ih => exact hmove _ _ hone ih

end Moves

/-- Everything in the books is about a live slot. -/
structure Clean (b : SlotBooks) : Prop where
  pending : ∀ k, b.pending k → b.Live k
  deadlines : ∀ k, k ∈ b.deadlines → b.Live k
  routes : ∀ dcid k, b.byDcid.lookup dcid = some k → b.Live k

theorem Tends.clean {b b' : SlotBooks} (h : Tends b b') (hb : b.Clean) : b'.Clean := by
  have hlive : ∀ k, b.Live k → b'.Live k := by
    intro k hk
    unfold Live at hk ⊢
    rwa [h.uidAt]
  refine ⟨?_, ?_, ?_⟩
  · intro k hk
    exact hlive k ((h.pending k hk).elim (hb.pending k) id)
  · intro k hk
    exact hlive k ((h.deadlines k hk).elim (hb.deadlines k) id)
  · intro dcid k hk
    rw [h.byDcid] at hk
    exact hlive k (hb.routes dcid k hk)

theorem Reaps.clean {closed : List ℕ} {b b' : SlotBooks} (h : Reaps closed b b')
    (hb : b.Clean) : b'.Clean := by
  have hlive : ∀ k, b.Live k ∧ k ∉ closed → b'.Live k := by
    rintro k ⟨hk, hnot⟩
    unfold Live at hk ⊢
    rwa [h.uidAt, if_neg hnot]
  refine ⟨?_, ?_, ?_⟩
  · intro k hk
    obtain ⟨hold, hnot⟩ := h.pending k hk
    exact hlive k ⟨hb.pending k hold, hnot⟩
  · intro k hk
    obtain ⟨hold, hnot⟩ := h.deadlines k hk
    exact hlive k ⟨hb.deadlines k hold, hnot⟩
  · intro dcid k hk
    obtain ⟨hold, hnot⟩ := (h.byDcid dcid k).1 hk
    exact hlive k ⟨hb.routes dcid k hold, hnot⟩

theorem Clean.move {adds : Bytes → ℕ → Prop} {drops : Bytes → Prop} {reaps : ℕ → Prop}
    {b b' : SlotBooks} (h : Move adds drops reaps b b') (hb : b.Clean) : b'.Clean := by
  cases h with
  | tend h => exact h.clean hb
  | reap h _ => exact h.clean hb
  | accept slot scid uid vacant _ =>
    have hlive : ∀ k, k = slot ∨ b.Live k →
        (Function.update b.uidAt slot (some uid) k).isSome := by
      intro k hk
      by_cases hslot : k = slot
      · simp [hslot]
      · rw [Function.update_of_ne hslot]
        exact hk.resolve_left hslot
    refine ⟨fun k hk => hlive k (.inr (hb.pending k hk)),
      fun k hk => hlive k (.inr (hb.deadlines k hk)), ?_⟩
    intro dcid k hk
    by_cases hd : dcid = scid
    · rw [hd, AList.lookup_insert] at hk
      exact hlive k (.inl (Option.some.inj hk).symm)
    · rw [AList.lookup_insert_ne hd] at hk
      exact hlive k (.inr (hb.routes dcid k hk))
  | route slot dcid live _ =>
    refine ⟨hb.pending, hb.deadlines, ?_⟩
    intro id k hk
    by_cases hd : id = dcid
    · rw [hd, AList.lookup_insert] at hk
      rw [← Option.some.inj hk]
      exact live
    · rw [AList.lookup_insert_ne hd] at hk
      exact hb.routes id k hk
  | unroute dcid _ =>
    refine ⟨hb.pending, hb.deadlines, ?_⟩
    intro id k hk
    by_cases hd : id = dcid
    · rw [hd, AList.lookup_erase] at hk
      cases hk
    · rw [AList.lookup_erase_ne hd] at hk
      exact hb.routes id k hk

/-- The connection `uid` lives in `slot`, and `dcid` routes to it. -/
def Routed (b : SlotBooks) (dcid : Bytes) (slot uid : ℕ) : Prop :=
  b.byDcid.lookup dcid = some slot ∧ b.uidAt slot = some uid

theorem Routed.move {adds : Bytes → ℕ → Prop} {drops : Bytes → Prop} {reaps : ℕ → Prop}
    {b b' : SlotBooks} {dcid : Bytes} {slot uid : ℕ} (h : Move adds drops reaps b b')
    (hadds : ∀ k, adds dcid k → k = slot) (hdrops : ¬ drops dcid) (hreaps : ¬ reaps slot)
    (hb : b.Routed dcid slot uid) : b'.Routed dcid slot uid := by
  obtain ⟨hroute, huid⟩ := hb
  cases h with
  | tend h => exact ⟨by rw [h.byDcid, hroute], by rw [h.uidAt, huid]⟩
  | accept slot' scid uid' vacant hadd =>
    have hslot : slot' ≠ slot := by
      rintro rfl
      simp [vacant] at huid
    have hscid : dcid ≠ scid := by
      rintro rfl
      exact hslot (hadds slot' hadd)
    refine ⟨?_, ?_⟩
    · rw [AList.lookup_insert_ne hscid, hroute]
    · simp [Function.update_of_ne hslot.symm, huid]
  | route slot' dcid' _ hadd =>
    refine ⟨?_, huid⟩
    by_cases hd : dcid = dcid'
    · subst hd
      rw [hadds slot' hadd, AList.lookup_insert]
    · rw [AList.lookup_insert_ne hd, hroute]
  | unroute dcid' hdrop =>
    refine ⟨?_, huid⟩
    have hd : dcid ≠ dcid' := by
      rintro rfl
      exact hdrops hdrop
    rw [AList.lookup_erase_ne hd, hroute]
  | @reap _ closed h hclosed =>
    have hnot : slot ∉ closed := fun hmem => hreaps (hclosed slot hmem)
    exact ⟨(h.byDcid dcid slot).2 ⟨hroute, hnot⟩, by rw [h.uidAt, if_neg hnot, huid]⟩

section ConnectionMap

variable {C Q : Type} (uid : C → ℕ) (deadlines : KeyMap ℕ ℕ) (pending : ℕ → Prop)
  {adds : Bytes → ℕ → Prop} {drops : Bytes → Prop} {reaps : ℕ → Prop}

/-- The books of a worker with these connections. -/
def ofMap (m : ConnectionMap C) : SlotBooks :=
  ⟨fun k => (m.get k).map uid, m.byDcid, deadlines, pending⟩

variable {m : ConnectionMap C} {slot : ℕ}

theorem ofMap_set {c d : C} (hc : m.get slot = some c) (hd : uid d = uid c) :
    ofMap uid deadlines pending (m.set slot d) = ofMap uid deadlines pending m := by
  have huid : (fun k => ((m.set slot d).get k).map uid) = fun k => (m.get k).map uid := by
    funext k
    rw [ConnectionMap.get_set]
    split_ifs with hk
    · rw [hk.1, hc, Option.map_some, Option.map_some, hd]
    · rfl
  unfold ofMap
  rw [huid]
  rfl

variable (m slot) in
theorem ofMap_set_congr {c d : C} (hd : uid d = uid c) :
    ofMap uid deadlines pending (m.set slot d) = ofMap uid deadlines pending (m.set slot c) := by
  have huid : (fun k => ((m.set slot d).get k).map uid) =
      fun k => ((m.set slot c).get k).map uid := by
    funext k
    rw [ConnectionMap.get_set, ConnectionMap.get_set]
    split_ifs
    · rw [Option.map_some, Option.map_some, hd]
    · rfl
  unfold ofMap
  rw [huid]
  rfl

theorem addDcid_moves {dcid : Bytes} (hadd : adds dcid slot) :
    Moves adds drops reaps (ofMap uid deadlines pending m)
      (ofMap uid deadlines pending (m.addDcid slot dcid)) := by
  unfold ConnectionMap.addDcid
  split_ifs with hlive
  · refine (Moves.refl _).tail (.route slot dcid ?_ hadd)
    show ((m.get slot).map _).isSome
    rw [Option.isSome_map]
    exact hlive
  · exact .refl _

theorem removeDcids_moves (retired : List Bytes) (hdrop : ∀ id ∈ retired, drops id)
    (m : ConnectionMap C) : Moves adds drops reaps (ofMap uid deadlines pending m)
      (ofMap uid deadlines pending (retired.foldl ConnectionMap.removeDcid m)) := by
  induction retired generalizing m with
  | nil => exact .refl _
  | cons id retired ih =>
    have hone : Moves adds drops reaps (ofMap uid deadlines pending m)
        (ofMap uid deadlines pending (m.removeDcid id)) :=
      (Moves.refl _).tail (.unroute id (hdrop id List.mem_cons_self))
    exact hone.trans (ih (fun id hid => hdrop id (List.mem_cons_of_mem _ hid)) _)

/-- Accepting a connection fills a vacant slot, then registers a second id for it. -/
theorem accepted_moves [ServerConnection C Q] {ids : List Bytes} {m' : ConnectionMap C}
    (haccepted : ConnectionMap.Accepted ids m slot m')
    (hnew : ∀ n (q : Q) scid, uid (ServerConnection.new n q scid) = n)
    (hadd : ∀ id ∈ ids, adds id slot) :
    Moves adds drops reaps (ofMap uid deadlines pending m) (ofMap uid deadlines pending m') := by
  obtain ⟨q, scid', hget⟩ := haccepted.conns
  obtain ⟨scid, hscid, extraDcid, hextra, hroutes⟩ := haccepted.routes
  have huid : (fun k => (m'.get k).map uid) =
      Function.update (fun k => (m.get k).map uid) slot (some m.acceptedCount) := by
    funext k
    rw [hget]
    by_cases hk : k = slot
    · rw [hk, if_pos rfl, Function.update_self, Option.map_some, hnew]
    · rw [if_neg hk, Function.update_of_ne hk]
  have hempty : (ofMap uid deadlines pending m).uidAt slot = none := by
    show (m.get slot).map _ = none
    rw [haccepted.vacant]
    rfl
  refine ((Moves.refl _).tail
    (.accept slot scid m.acceptedCount hempty (hadd scid hscid))).tail ?_
  unfold ofMap
  rw [huid, hroutes]
  refine .route slot extraDcid ?_ (hadd extraDcid hextra)
  exact Option.isSome_iff_exists.2 ⟨m.acceptedCount, Function.update_self ..⟩

theorem routeAndAnnounce_moves [Quiche Q] [ServerConnection C Q] {disableRetry : Bool}
    {handleOffset : UInt32} {hdr : PacketHeader} {p : Packet} {now : ℕ} {scids : List Bytes}
    {batch : List Emitted} (hnew : ∀ n (q : Q) scid, uid (ServerConnection.new n q scid) = n)
    (hadd : ∀ slot,
      (m.routeAndAnnounce disableRetry handleOffset hdr p now scids batch).1 = some slot →
      ∀ id ∈ acceptedIds (m.routePacket hdr.dcid).isSome disableRetry hdr.dcid
        (hdr.odcid Q p.peer now) scids, adds id slot) :
    Moves adds drops reaps (ofMap uid deadlines pending m) (ofMap uid deadlines pending
      (m.routeAndAnnounce disableRetry handleOffset hdr p now scids batch).2.1) := by
  unfold ConnectionMap.routeAndAnnounce at hadd ⊢
  cases hroute : m.routeOrAccept disableRetry hdr p now scids with
  | known handle => exact .refl _
  | dropped => exact .refl _
  | accepted slot m' =>
    obtain ⟨hadmits, haccepted⟩ := ConnectionMap.routeOrAccept_accepted hroute
    rw [hroute, hadmits.unknown] at hadd
    exact accepted_moves uid deadlines pending haccepted hnew (hadd slot rfl)

theorem uidAt_drainClosed (isClosed : C → Bool) (k : ℕ) :
    ((m.drainClosed isClosed).2.get k).map uid =
      if k ∈ (m.drainClosed isClosed).1.map Prod.fst then none
      else (ofMap uid deadlines pending m).uidAt k := by
  rw [ConnectionMap.get_drainClosed]
  simp only [m.mem_map_drainClosed isClosed]
  split_ifs <;> rfl

end ConnectionMap

end SlotBooks

/-- What a packet does to the routes: the slot it is for, the ids it may register there and
those it unregisters. -/
structure PacketIds where
  slot : ℕ
  registered : List Bytes
  retired : List Bytes

end Http3
