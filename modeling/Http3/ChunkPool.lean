import Http3.PendingWrite
import Http3.Lib.Runs

/-! The pool of outbound buffers: bins by size class, and what reuse of a buffer rests on. -/

namespace Http3

/-- What the allocator gives for a request: that much, or more. -/
structure Allocator where
  capacity : ℕ → ℕ
  le : ∀ n, n ≤ capacity n

/-- A `Vec<u8>`. Not part of the program is `reallocs`: how often its bytes were moved. -/
structure ByteVec where
  data : Bytes
  capacity : ℕ
  reallocs : ℕ
  fits : data.length ≤ capacity

namespace ByteVec

variable (a : Allocator)

def new : ByteVec := ⟨[], 0, 0, Nat.le_of_eq List.length_nil⟩

def withCapacity (n : ℕ) : ByteVec := ⟨[], a.capacity n, 0, Nat.zero_le _⟩

def clear (v : ByteVec) : ByteVec := { v with data := [], fits := Nat.zero_le _ }

/-- Append; the allocation is at least doubled when it is too small. -/
def extendFromSlice (v : ByteVec) (more : Bytes) : ByteVec :=
  if h : (v.data ++ more).length ≤ v.capacity then { v with data := v.data ++ more, fits := h }
  else
    let needed := max (2 * v.capacity) (v.data ++ more).length
    ⟨v.data ++ more, a.capacity needed, v.reallocs + 1,
      Nat.le_trans (Nat.le_max_right _ _) (a.le needed)⟩

/-- `resize(len, 0)`. -/
def resize (v : ByteVec) (len : ℕ) : ByteVec :=
  if len ≤ v.data.length then
    { v with data := v.data.take len, fits := Nat.le_trans (List.length_take_le' _ _) v.fits }
  else v.extendFromSlice a (List.replicate (len - v.data.length) 0)

/-- `w` is the allocation of `v`, not moved. -/
structure SameAllocation (v w : ByteVec) : Prop where
  capacity : w.capacity = v.capacity
  reallocs : w.reallocs = v.reallocs

theorem clear_extend {v : ByteVec} {more : Bytes} (h : more.length ≤ v.capacity) :
    SameAllocation v (v.clear.extendFromSlice a more) := by
  unfold extendFromSlice
  rw [dif_pos (show (v.clear.data ++ more).length ≤ v.clear.capacity from h)]
  exact ⟨rfl, rfl⟩

theorem clear_resize {v : ByteVec} {len : ℕ} (h : len ≤ v.capacity) :
    SameAllocation v (v.clear.resize a len) := by
  unfold resize
  split_ifs
  · exact ⟨rfl, rfl⟩
  · apply clear_extend
    rw [List.length_replicate]
    exact h

theorem data_extend (v : ByteVec) (more : Bytes) :
    (v.extendFromSlice a more).data = v.data ++ more := by
  unfold extendFromSlice
  split_ifs <;> rfl

end ByteVec

def chunkClasses : List ℕ := [1024, 2048, 4096, 8192, 16384, 32768, 65536]

abbrev Bin := Fin chunkClasses.length

/-- Bin to serve a request from: the smallest class that holds it. -/
def binFor (len : ℕ) : Option Bin := (List.finRange _).find? fun i => len ≤ chunkClasses.get i

/-- Bin to put a buffer into: the largest class it covers; none for one above all classes. -/
def binForCap (cap : ℕ) : Option Bin := do
  let maxClass ← chunkClasses.getLast?
  if cap > maxClass then none
  else (List.finRange _).reverse.find? fun i => chunkClasses.get i ≤ cap

theorem le_of_binFor {len : ℕ} {i : Bin} (h : binFor len = some i) : len ≤ chunkClasses.get i := by
  simpa using List.find?_some h

theorem of_binForCap {cap : ℕ} {i : Bin} (h : binForCap cap = some i) :
    chunkClasses.get i ≤ cap ∧ cap ≤ 65536 := by
  have hmax : chunkClasses.getLast? = some 65536 := rfl
  unfold binForCap at h
  simp only [hmax, Option.bind_eq_bind, Option.bind_some] at h
  split_ifs at h with hlarge
  exact ⟨by simpa using List.find?_some h, Nat.le_of_not_lt hlarge⟩

theorem chunkClasses_mono : ∀ i j : Bin, i ≤ j → chunkClasses.get i ≤ chunkClasses.get j := by
  decide

/-- Bins are stacks; the buffer that came last is at the head. -/
structure ChunkPool where
  bins : Bin → List ByteVec
  maxPerBin : ℕ

namespace ChunkPool

variable (a : Allocator)

def new (maxPerBin : ℕ) : ChunkPool := ⟨fun _ => [], maxPerBin⟩

def maxEntriesForBin (pool : ChunkPool) (i : Bin) : ℕ :=
  if chunkClasses.get i ≤ 4096 then pool.maxPerBin else max (pool.maxPerBin / 8) 1

/-- Take a buffer out of the first of the bins that has one. -/
def pop (pool : ChunkPool) : List Bin → Option (ByteVec × ChunkPool)
  | [] => none
  | i :: rest =>
    match pool.bins i with
    | [] => pool.pop rest
    | buf :: bufs => some (buf, { pool with bins := Function.update pool.bins i bufs })

/-- The bins a buffer of bin `i` may be replaced from: it and the larger ones. -/
def binsFrom (i : Bin) : List Bin := (List.finRange _).filter (i ≤ ·)

/-- A buffer for `len` bytes, one of the pool where there is one that is large enough. -/
def checkoutWith (fill : ByteVec → ByteVec) (pool : ChunkPool) (len : ℕ) :
    (ByteVec × Bool) × ChunkPool :=
  if len = 0 then ((.new, false), pool)
  else
    match binFor len with
    | some i =>
      match pool.pop (binsFrom i) with
      | some (buf, pool) => ((fill buf.clear, true), pool)
      | none => ((fill (.withCapacity a (chunkClasses.get i)), false), pool)
    | none => ((fill (.withCapacity a len), false), pool)

def checkout (pool : ChunkPool) (len : ℕ) : (ByteVec × Bool) × ChunkPool :=
  pool.checkoutWith a (·.resize a len) len

def checkoutForCopy (pool : ChunkPool) (len : ℕ) : (ByteVec × Bool) × ChunkPool :=
  pool.checkoutWith a id len

def checkoutCopy (pool : ChunkPool) (data : Bytes) : (ByteVec × Bool) × ChunkPool :=
  let ((buf, reused), pool) := pool.checkoutForCopy a data.length
  ((buf.extendFromSlice a data, reused), pool)

def checkin (pool : ChunkPool) (buf : ByteVec) : Bool × ChunkPool :=
  match binForCap buf.capacity with
  | some i =>
    if (pool.bins i).length < pool.maxEntriesForBin i then
      (true, { pool with bins := Function.update pool.bins i (buf :: pool.bins i) })
    else (false, pool)
  | none => (false, pool)

/-- `bufs` is what the channel holds. -/
def drainReturned (pool : ChunkPool) (bufs : List ByteVec) : ChunkPool :=
  bufs.foldl (fun pool buf => (pool.checkin buf).2) pool

/-- A call of the pool. -/
inductive Call
  | checkout (len : ℕ)
  | checkoutCopy (data : Bytes)
  | checkin (buf : ByteVec)
  | drainReturned (bufs : List ByteVec)

def call : Call → ChunkPool → ChunkPool
  | .checkout len, pool => (pool.checkout a len).2
  | .checkoutCopy data, pool => (pool.checkoutCopy a data).2
  | .checkin buf, pool => (pool.checkin buf).2
  | .drainReturned bufs, pool => pool.drainReturned bufs

/-- A bin holds what its class promises, and no more than its share. -/
structure BinOk (maxEntries : Bin → ℕ) (i : Bin) (bufs : List ByteVec) : Prop where
  capacity : ∀ buf ∈ bufs, chunkClasses.get i ≤ buf.capacity ∧ buf.capacity ≤ 65536
  entries : bufs.length ≤ maxEntries i

def Consistent (pool : ChunkPool) : Prop := ∀ i, BinOk pool.maxEntriesForBin i (pool.bins i)

variable {a} {pool : ChunkPool}

theorem Consistent.update (h : pool.Consistent) {i : Bin} {bufs : List ByteVec}
    (hbufs : BinOk pool.maxEntriesForBin i bufs) :
    { pool with bins := Function.update pool.bins i bufs }.Consistent :=
  (Function.forall_update_iff pool.bins (BinOk pool.maxEntriesForBin)).2 ⟨hbufs, fun j _ => h j⟩

theorem pop_spec {bins : List Bin} {buf : ByteVec} {pool' : ChunkPool}
    (h : pool.pop bins = some (buf, pool')) :
    ∃ i ∈ bins, buf ∈ pool.bins i ∧ (pool.Consistent → pool'.Consistent) := by
  induction bins with
  | nil => cases h
  | cons i rest ih =>
    unfold pop at h
    split at h
    · obtain ⟨j, hj, hspec⟩ := ih h
      exact ⟨j, List.mem_cons_of_mem i hj, hspec⟩
    case h_2 first bufs hbin =>
      cases h
      refine ⟨i, List.mem_cons_self, hbin ▸ List.mem_cons_self, fun hpool => ?_⟩
      have hbins := hpool i
      rw [hbin] at hbins
      exact hpool.update ⟨fun b hb => hbins.capacity b (List.mem_cons_of_mem _ hb),
        Nat.le_of_succ_le hbins.entries⟩

theorem pop_holds (hpool : pool.Consistent) {len : ℕ} {i : Bin} (hi : binFor len = some i)
    {buf : ByteVec} {pool' : ChunkPool} (h : pool.pop (binsFrom i) = some (buf, pool')) :
    pool'.Consistent ∧ len ≤ buf.capacity ∧ ∃ j, buf ∈ pool.bins j := by
  obtain ⟨j, hj, hbuf, hkeep⟩ := pop_spec h
  have hij : i ≤ j := by simpa [binsFrom] using hj
  have hclass := Nat.le_trans (le_of_binFor hi) (chunkClasses_mono i j hij)
  exact ⟨hkeep hpool, Nat.le_trans hclass ((hpool j).capacity buf hbuf).1, j, hbuf⟩

/-- A result that is reused is a buffer of the pool, not moved, and holds `len` bytes. -/
def Reuses (pool : ChunkPool) (len : ℕ) (result : ByteVec × Bool) : Prop :=
  result.2 = true → ∃ i, ∃ buf ∈ pool.bins i, len ≤ buf.capacity ∧
    buf.SameAllocation result.1

theorem checkoutWith_spec (fill : ByteVec → ByteVec) (h : pool.Consistent) (len : ℕ) :
    (pool.checkoutWith a fill len).2.Consistent ∧
    ((pool.checkoutWith a fill len).1.2 = true → ∃ i, ∃ buf ∈ pool.bins i,
      len ≤ buf.capacity ∧ (pool.checkoutWith a fill len).1.1 = fill buf.clear) := by
  unfold checkoutWith
  split_ifs
  · exact ⟨h, nofun⟩
  · cases hi : binFor len with
    | none => exact ⟨h, nofun⟩
    | some i =>
      dsimp only
      cases hpop : pool.pop (binsFrom i) with
      | none => exact ⟨h, nofun⟩
      | some result =>
        obtain ⟨hpool, hlen, j, hbuf⟩ := pop_holds h hi hpop
        exact ⟨hpool, fun _ => ⟨j, result.1, hbuf, hlen, rfl⟩⟩

theorem data_checkoutForCopy (len : ℕ) : (pool.checkoutForCopy a len).1.1.data = [] := by
  unfold checkoutForCopy checkoutWith
  split_ifs
  · rfl
  · cases binFor len with
    | none => rfl
    | some i =>
      dsimp only
      cases pool.pop (binsFrom i) <;> rfl

theorem checkout_spec (h : pool.Consistent) (len : ℕ) :
    (pool.checkout a len).2.Consistent ∧ Reuses pool len (pool.checkout a len).1 := by
  obtain ⟨hpool, hreuse⟩ := checkoutWith_spec (a := a) (·.resize a len) h len
  refine ⟨hpool, fun hreused => ?_⟩
  obtain ⟨i, buf, hbuf, hlen, heq⟩ := hreuse hreused
  exact ⟨i, buf, hbuf, hlen, heq ▸ ByteVec.clear_resize a hlen⟩

theorem checkoutCopy_spec (h : pool.Consistent) (data : Bytes) :
    (pool.checkoutCopy a data).2.Consistent ∧
    Reuses pool data.length (pool.checkoutCopy a data).1 ∧
    (pool.checkoutCopy a data).1.1.data = data := by
  obtain ⟨hpool, hreuse⟩ := checkoutWith_spec (a := a) id h data.length
  refine ⟨hpool, fun hreused => ?_, ?_⟩
  · obtain ⟨i, buf, hbuf, hlen, heq⟩ := hreuse hreused
    refine ⟨i, buf, hbuf, hlen, ?_⟩
    show buf.SameAllocation ((pool.checkoutWith a id data.length).1.1.extendFromSlice a data)
    rw [heq]
    exact ByteVec.clear_extend a hlen
  · unfold checkoutCopy
    exact (ByteVec.data_extend a _ data).trans (by rw [data_checkoutForCopy, List.nil_append])

theorem checkin_consistent (h : pool.Consistent) (buf : ByteVec) :
    (pool.checkin buf).2.Consistent := by
  unfold checkin
  split
  case h_1 i hi =>
    split_ifs with hroom
    · refine h.update ⟨fun b hb => ?_, hroom⟩
      obtain rfl | hb := List.mem_cons.1 hb
      · exact of_binForCap hi
      · exact (h i).capacity b hb
    · exact h
  · exact h

theorem call_consistent (c : Call) (h : pool.Consistent) : (call a c pool).Consistent := by
  cases c with
  | checkout len => exact (checkout_spec h len).1
  | checkoutCopy data => exact (checkoutCopy_spec h data).1
  | checkin buf => exact checkin_consistent h buf
  | drainReturned bufs =>
    unfold call drainReturned
    exact List.foldlRecOn bufs _ h fun _ hpool buf _ => checkin_consistent hpool buf

variable (a) in
/-- After any calls the bins keep to their classes and shares, a reused buffer need not grow
for what is asked, and a copy is the data. -/
theorem classes_consistent (maxPerBin : ℕ) (calls : List Call) :
    let pool := Runs.run (call a) calls (new maxPerBin)
    pool.Consistent ∧
    (∀ len, Reuses pool len (pool.checkout a len).1) ∧
    ∀ data, Reuses pool data.length (pool.checkoutCopy a data).1 ∧
      (pool.checkoutCopy a data).1.1.data = data := by
  intro pool
  have hpool : pool.Consistent := Runs.run_invariant (fun c _ => call_consistent c) calls
    fun _ => ⟨fun _ hbuf => absurd hbuf List.not_mem_nil, Nat.zero_le _⟩
  exact ⟨hpool, fun len => (checkout_spec hpool len).2,
    fun data => (checkoutCopy_spec hpool data).2⟩

end ChunkPool

end Http3
