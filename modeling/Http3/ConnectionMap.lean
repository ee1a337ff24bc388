import Http3.Lib.Slab
import Http3.Lib.KeyMap
import Http3.ConnectionState

/-! Connections of a server worker: slab storage and routing by connection id. -/

namespace Http3

/-- The slab never outgrows the connection limit, and the limit is a `u32` option.
`acceptedCount` counts the connections accepted so far; it names them and is not
part of the program. -/
structure ConnectionMap (C : Type) where
  byDcid : KeyMap Bytes ℕ
  connections : Slab C
  maxConnections : ℕ
  acceptedCount : ℕ
  capacity_le : connections.capacity ≤ maxConnections
  max_lt : maxConnections < 2 ^ 32

namespace ConnectionMap

variable {C Q : Type}

def withMaxConnections (max : UInt32) : ConnectionMap C :=
  ⟨∅, .empty, max.toNat, 0, by simp [Slab.empty, Slab.capacity], max.toNat_lt⟩

def routePacket (m : ConnectionMap C) (dcid : Bytes) : Option ℕ := m.byDcid.lookup dcid

def get (m : ConnectionMap C) (handle : ℕ) : Option C := m.connections.get handle

/-- Write a connection back after it was borrowed mutably. -/
def set (m : ConnectionMap C) (handle : ℕ) (conn : C) : ConnectionMap C :=
  { m with
    connections := m.connections.set handle conn
    capacity_le := by rw [Slab.capacity_set]; exact m.capacity_le }

def addDcid (m : ConnectionMap C) (handle : ℕ) (dcid : Bytes) : ConnectionMap C :=
  if m.connections.contains handle then { m with byDcid := m.byDcid.insert dcid handle } else m

def removeDcid (m : ConnectionMap C) (dcid : Bytes) : ConnectionMap C :=
  { m with byDcid := m.byDcid.erase dcid }

/-- Accept a new server-side connection into the next free slot. -/
def acceptNew (m : ConnectionMap C) (scid : Bytes) (quicheConn : Except QuicheError Q)
    (new : ℕ → Q → Bytes → C) : Except Http3NativeError (ℕ × ConnectionMap C) :=
  if h : m.maxConnections ≤ m.connections.len then
    .error (.config s!"max connections ({m.maxConnections}) reached")
  else
    match quicheConn with
    | .error e => .error (.quiche e)
    | .ok q =>
      let handle := m.connections.nextKey
      .ok (handle,
        { byDcid := m.byDcid.insert scid handle
          connections := m.connections.insert (new m.acceptedCount q scid)
          maxConnections := m.maxConnections
          acceptedCount := m.acceptedCount + 1
          capacity_le := m.connections.capacity_insert_le _ (Nat.lt_of_not_le h) m.capacity_le
          max_lt := m.max_lt })

/-- Remove a connection and every connection id that routes to it. -/
def remove (m : ConnectionMap C) (handle : ℕ) : ConnectionMap C :=
  if m.connections.contains handle then
    { m with
      byDcid := ⟨m.byDcid.entries.filter fun e => e.2 ≠ handle,
        m.byDcid.nodupKeys.sublist List.filter_sublist⟩
      connections := m.connections.remove handle
      capacity_le := by rw [Slab.capacity_remove]; exact m.capacity_le }
  else m

def handles (m : ConnectionMap C) : List ℕ := m.connections.keys

/-- Remove the closed connections and return them with their handles. -/
def drainClosed (isClosed : C → Bool) (m : ConnectionMap C) : List (ℕ × C) × ConnectionMap C :=
  let closed := m.handles.filterMap fun handle =>
    (m.get handle).bind fun conn => if isClosed conn then some (handle, conn) else none
  (closed, (closed.map Prod.fst).foldl remove m)

section Lookup

variable (m : ConnectionMap C) {handle h : ℕ} {conn : C}

theorem get_set : (m.set h conn).get handle =
    if handle = h ∧ (m.get h).isSome then some conn else m.get handle :=
  m.connections.get_set conn

@[simp] theorem get_addDcid (dcid : Bytes) : (m.addDcid h dcid).get handle = m.get handle := by
  unfold addDcid
  split_ifs <;> rfl

@[simp] theorem maxConnections_addDcid (dcid : Bytes) :
    (m.addDcid h dcid).maxConnections = m.maxConnections := by
  unfold addDcid
  split_ifs <;> rfl

@[simp] theorem acceptedCount_addDcid (dcid : Bytes) :
    (m.addDcid h dcid).acceptedCount = m.acceptedCount := by
  unfold addDcid
  split_ifs <;> rfl

theorem get_foldl_removeDcid (retired : List Bytes) (m : ConnectionMap C) :
    (retired.foldl removeDcid m).get handle = m.get handle := by
  induction retired generalizing m with
  | nil => rfl
  | cons dcid retired ih => exact (ih _).trans rfl

theorem get_remove : (m.remove h).get handle = if handle = h then none else m.get handle := by
  unfold remove
  split_ifs with hc hh hh
  · subst hh
    exact m.connections.get_remove_self
  · exact m.connections.get_remove_of_ne hh
  · subst hh
    simpa [get, Slab.contains] using hc
  · rfl

/-- Every connection held has the property `P`. -/
structure All (P : C → Prop) (m : ConnectionMap C) : Prop where
  get : ∀ {handle conn}, m.get handle = some conn → P conn

theorem mem_handles : handle ∈ m.handles ↔ (m.get handle).isSome := m.connections.mem_keys

theorem lt_maxConnections (h : (m.get handle).isSome) : handle < m.maxConnections :=
  lt_of_lt_of_le (m.connections.lt_capacity h) m.capacity_le

theorem acceptNew_ok {scid : Bytes} {quicheConn : Except QuicheError Q} {new : ℕ → Q → Bytes → C}
    {m' : ConnectionMap C} (hok : m.acceptNew scid quicheConn new = .ok (handle, m')) :
    m.get handle = none ∧ m'.acceptedCount = m.acceptedCount + 1 ∧
      m'.maxConnections = m.maxConnections ∧
      ∃ q, quicheConn = .ok q ∧
        ∀ k, m'.get k = if k = handle then some (new m.acceptedCount q scid) else m.get k := by
  unfold acceptNew at hok
  split_ifs at hok
  cases quicheConn with
  | error e => simp at hok
  | ok q =>
    simp only [Except.ok.injEq, Prod.mk.injEq] at hok
    obtain ⟨rfl, rfl⟩ := hok
    exact ⟨m.connections.get_nextKey, rfl, rfl, q, rfl, fun k => m.connections.get_insert _⟩

theorem byDcid_acceptNew {scid : Bytes} {quicheConn : Except QuicheError Q}
    {new : ℕ → Q → Bytes → C} {m' : ConnectionMap C}
    (hok : m.acceptNew scid quicheConn new = .ok (handle, m')) :
    m'.byDcid = m.byDcid.insert scid handle := by
  unfold acceptNew at hok
  split_ifs at hok
  cases quicheConn with
  | error e => simp at hok
  | ok q =>
    simp only [Except.ok.injEq, Prod.mk.injEq] at hok
    obtain ⟨rfl, rfl⟩ := hok
    rfl

section DrainClosed

variable (isClosed : C → Bool)

theorem mem_drainClosed {conn : C} {handle : ℕ} : (handle, conn) ∈ (m.drainClosed isClosed).1 ↔
    m.get handle = some conn ∧ isClosed conn = true := by
  unfold drainClosed
  simp only [List.mem_filterMap, Option.bind_eq_some_iff]
  constructor
  · rintro ⟨h, -, c, hc, hif⟩
    split_ifs at hif with hclosed
    simp only [Option.some.injEq, Prod.mk.injEq] at hif
    obtain ⟨rfl, rfl⟩ := hif
    exact ⟨hc, hclosed⟩
  · rintro ⟨hc, hclosed⟩
    refine ⟨handle, ?_, conn, hc, by rw [if_pos hclosed]⟩
    rw [mem_handles, hc]
    rfl

theorem get_foldl_remove (handles : List ℕ) (m : ConnectionMap C) (k : ℕ) :
    (handles.foldl remove m).get k = if k ∈ handles then none else m.get k := by
  induction handles generalizing m with
  | nil => simp
  | cons handle handles ih =>
    rw [List.foldl_cons, ih, get_remove]
    by_cases hk : k = handle <;> by_cases hmem : k ∈ handles <;> simp [hk, hmem]

theorem counts_foldl_remove (handles : List ℕ) (m : ConnectionMap C) :
    (handles.foldl remove m).acceptedCount = m.acceptedCount ∧
      (handles.foldl remove m).maxConnections = m.maxConnections := by
  induction handles generalizing m with
  | nil => exact ⟨rfl, rfl⟩
  | cons handle handles ih =>
    have hone : (m.remove handle).acceptedCount = m.acceptedCount ∧
        (m.remove handle).maxConnections = m.maxConnections := by
      unfold remove
      split_ifs <;> exact ⟨rfl, rfl⟩
    exact ⟨(ih _).1.trans hone.1, (ih _).2.trans hone.2⟩

theorem get_drainClosed (k : ℕ) : (m.drainClosed isClosed).2.get k =
    if ∃ conn, m.get k = some conn ∧ isClosed conn = true then none else m.get k := by
  have hmem : k ∈ (m.drainClosed isClosed).1.map Prod.fst ↔
      ∃ conn, m.get k = some conn ∧ isClosed conn = true := by
    simp only [List.mem_map, Prod.exists, mem_drainClosed, exists_and_right, exists_eq_right]
  have hfold := get_foldl_remove ((m.drainClosed isClosed).1.map Prod.fst) m k
  by_cases h : ∃ conn, m.get k = some conn ∧ isClosed conn = true
  · rw [if_pos (hmem.2 h)] at hfold
    rw [if_pos h]
    exact hfold
  · rw [if_neg (fun hk => h (hmem.1 hk))] at hfold
    rw [if_neg h]
    exact hfold

theorem mem_map_drainClosed {k : ℕ} : k ∈ (m.drainClosed isClosed).1.map Prod.fst ↔
    ∃ conn, m.get k = some conn ∧ isClosed conn = true := by
  simp only [List.mem_map, Prod.exists, mem_drainClosed, exists_and_right, exists_eq_right]

theorem nodup_drainClosed : ((m.drainClosed isClosed).1.map Prod.fst).Nodup := by
  unfold drainClosed
  rw [List.map_filterMap]
  refine List.Nodup.sublist ?_ m.connections.nodup_keys
  generalize hk : m.connections.keys = keys
  have hkeys : m.handles = keys := hk
  rw [hkeys]
  clear hk hkeys
  induction keys with
  | nil => exact List.Sublist.slnil
  | cons key keys ih =>
    rw [List.filterMap_cons]
    split
    · exact ih.cons key
    · next b hb =>
      have hbk : b = key := by
        simp only [Option.map_eq_some_iff, Option.bind_eq_some_iff] at hb
        obtain ⟨⟨h, c⟩, ⟨d, -, hd⟩, rfl⟩ := hb
        split_ifs at hd
        simp only [Option.some.injEq, Prod.mk.injEq] at hd
        exact hd.1.symm
      rw [hbk]
      exact ih.cons_cons key

theorem lookup_remove {m : ConnectionMap C} {h : ℕ} (hlive : (m.get h).isSome) (dcid : Bytes)
    (k : ℕ) : (m.remove h).byDcid.lookup dcid = some k ↔ m.byDcid.lookup dcid = some k ∧ k ≠ h := by
  have hcontains : m.connections.contains h = true := hlive
  unfold remove
  rw [if_pos hcontains, ← Option.mem_def, ← Option.mem_def, AList.mem_lookup_iff,
    AList.mem_lookup_iff, List.mem_filter]
  simp

theorem lookup_foldl_remove {handles : List ℕ} (hnodup : handles.Nodup) {m : ConnectionMap C}
    (hlive : ∀ h ∈ handles, (m.get h).isSome) (dcid : Bytes) (k : ℕ) :
    (handles.foldl remove m).byDcid.lookup dcid = some k ↔
      m.byDcid.lookup dcid = some k ∧ k ∉ handles := by
  induction handles generalizing m with
  | nil => simp
  | cons handle handles ih =>
    obtain ⟨hnot, hnodup⟩ := List.nodup_cons.1 hnodup
    have hrest : ∀ h ∈ handles, ((m.remove handle).get h).isSome := by
      intro h hh
      have hne : h ≠ handle := by
        rintro rfl
        exact hnot hh
      rw [get_remove, if_neg hne]
      exact hlive h (List.mem_cons_of_mem handle hh)
    rw [List.foldl_cons, ih hnodup hrest, lookup_remove (hlive handle List.mem_cons_self),
      List.mem_cons]
    tauto

theorem lookup_drainClosed (dcid : Bytes) (k : ℕ) :
    (m.drainClosed isClosed).2.byDcid.lookup dcid = some k ↔
      m.byDcid.lookup dcid = some k ∧ k ∉ (m.drainClosed isClosed).1.map Prod.fst := by
  refine lookup_foldl_remove (m.nodup_drainClosed isClosed) ?_ dcid k
  intro h hh
  obtain ⟨c, hc, -⟩ := (m.mem_map_drainClosed isClosed).1 hh
  rw [hc]
  rfl

end DrainClosed

end Lookup

end ConnectionMap

end Http3
