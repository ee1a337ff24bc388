import Http3.OutboundAdmission
import Mathlib.Algebra.BigOperators.Group.List.Basic
import Mathlib.Algebra.GroupWithZero.Nat

/-! Buffered partial writes of a stream that flow control blocks, and the loop
that retries them. -/

namespace Http3

abbrev Bytes := List UInt8

/-- Only the remainder at the front may be empty: later chunks are queued only
when they carry bytes. -/
structure PendingWrite where
  chunks : List Bytes
  fin : Bool
  tail_nonempty : ∀ c ∈ chunks.tail, c ≠ []

/-- What quiche took of one send, as the connection wrappers report it. -/
structure SendOutcome where
  written : ℕ
  finAccepted : Bool
  remainder : Option Bytes
  deriving DecidableEq, Repr

structure PendingWriteFlushOutcome where
  done : Bool
  releasedUnits : ℕ
  deriving DecidableEq, Repr

namespace PendingWrite

def new (remainder : Bytes) (fin : Bool) : PendingWrite := ⟨[remainder], fin, by simp⟩

def pushChunk (pw : PendingWrite) (chunk : Bytes) : PendingWrite :=
  if h : 0 < chunk.length then
    ⟨pw.chunks ++ [chunk], pw.fin, by
      intro c hc
      rcases hcs : pw.chunks with _ | ⟨d, ds⟩
      · simp [hcs] at hc
      · rw [hcs] at hc
        simp only [List.cons_append, List.tail_cons, List.mem_append, List.mem_singleton] at hc
        rcases hc with hc | rfl
        · exact pw.tail_nonempty c (by simpa [hcs] using hc)
        · exact List.ne_nil_of_length_pos h⟩
  else pw

def setFin (pw : PendingWrite) : PendingWrite := { pw with fin := true }

def queuedBytes (pw : PendingWrite) : ℕ := (pw.chunks.map List.length).sum

def queuedUnits (pw : PendingWrite) : ℕ := outboundPayloadUnits pw.queuedBytes pw.fin

/-- Append a later command's payload, the way every handler merges a send
into an entry that is already waiting. -/
def merge (pw : PendingWrite) (chunk : Bytes) (fin : Bool) : PendingWrite :=
  let pw := pw.pushChunk chunk
  if fin then pw.setFin else pw

@[simp] theorem queuedUnits_new (r : Bytes) (fin : Bool) :
    (new r fin).queuedUnits = outboundPayloadUnits r.length fin := by
  simp [queuedUnits, new, queuedBytes]

@[simp] theorem queuedBytes_pushChunk (pw : PendingWrite) (chunk : Bytes) :
    (pw.pushChunk chunk).queuedBytes = pw.queuedBytes + chunk.length := by
  unfold pushChunk
  split_ifs with h
  · simp [queuedBytes]
  · simp_all

@[simp] theorem fin_pushChunk (pw : PendingWrite) (chunk : Bytes) :
    (pw.pushChunk chunk).fin = pw.fin := by
  unfold pushChunk
  split_ifs <;> rfl

@[simp] theorem queuedBytes_merge (pw : PendingWrite) (chunk : Bytes) (fin : Bool) :
    (pw.merge chunk fin).queuedBytes = pw.queuedBytes + chunk.length := by
  rw [← queuedBytes_pushChunk]
  cases fin <;> rfl

@[simp] theorem fin_merge (pw : PendingWrite) (chunk : Bytes) (fin : Bool) :
    (pw.merge chunk fin).fin = (pw.fin || fin) := by
  cases fin <;> simp [merge, setFin]

theorem queuedUnits_merge (pw : PendingWrite) (chunk : Bytes) (fin : Bool) :
    (pw.merge chunk fin).queuedUnits =
      outboundPayloadUnits (pw.queuedBytes + chunk.length) (pw.fin || fin) := by
  simp [queuedUnits]

/-- Merging keeps the units balanced unless one of the two sides counts a bare
FIN that the merged entry no longer shows. -/
def BalancedMerge (pw : PendingWrite) (chunk : Bytes) (fin : Bool) : Prop :=
  (pw.fin = true → pw.queuedBytes = 0 → chunk = [] ∧ fin = false) ∧
    (fin = true → chunk = [] → pw.queuedBytes = 0)

instance (pw : PendingWrite) (chunk : Bytes) (fin : Bool) :
    Decidable (pw.BalancedMerge chunk fin) := by
  unfold BalancedMerge; infer_instance

theorem queuedUnits_merge_eq_iff (pw : PendingWrite) (chunk : Bytes) (fin : Bool) :
    (pw.merge chunk fin).queuedUnits =
        pw.queuedUnits + outboundPayloadUnits chunk.length fin ↔
      pw.BalancedMerge chunk fin := by
  rw [queuedUnits_merge]
  unfold queuedUnits outboundPayloadUnits BalancedMerge
  simp only [← List.length_eq_zero_iff]
  generalize chunk.length = n, pw.queuedBytes = q
  cases pw.fin <;> cases fin <;> simp <;> omega

end PendingWrite

/-- The remainder is what was not written, and without one the send is complete. -/
def SendOutcome.Fits (o : SendOutcome) (buf : Bytes) (fin : Bool) : Prop :=
  match o.remainder with
  | none => o.finAccepted = fin ∧ buf.length ≤ o.written
  | some r => o.finAccepted = false ∧ r = buf.drop o.written ∧
      (o.written < buf.length ∨ buf = [] ∧ fin = true)

def SendOutcome.owedUnits (o : SendOutcome) (fin : Bool) : ℕ :=
  match o.remainder with
  | none => 0
  | some r => outboundPayloadUnits r.length fin

theorem SendOutcome.Fits.units {o : SendOutcome} {buf : Bytes} {fin : Bool} (h : o.Fits buf fin) :
    acceptedOutboundPayloadUnits buf.length fin o.written o.finAccepted + o.owedUnits fin =
      outboundPayloadUnits buf.length fin := by
  unfold Fits at h
  unfold owedUnits acceptedOutboundPayloadUnits outboundPayloadUnits
  rcases o with ⟨w, acc, _ | r⟩
  · obtain ⟨rfl, hw⟩ := h
    by_cases h0 : buf.length = 0
    · simp [h0]
    · cases acc <;> simp [h0] <;> simp at hw <;> omega
  · simp only at h
    obtain ⟨rfl, rfl, hw⟩ := h
    rcases hw with hw | ⟨rfl, rfl⟩
    · have h0 : buf.length ≠ 0 := by omega
      have hne : min w buf.length ≠ buf.length := by omega
      simp only [h0, hne, List.length_drop, Bool.not_false, Bool.and_true, ↓reduceIte,
        beq_eq_false_iff_ne.2, Bool.and_false, Bool.false_eq_true, ne_eq, not_false_eq_true]
      cases fin <;> simp <;> omega
    · simp

/-- Units still owed after a send, the one that is held back for a FIN among them. -/
def SendOutcome.keptUnits (o : SendOutcome) (fin : Bool) : ℕ :=
  match o.remainder with
  | none => (fin && !o.finAccepted).toNat
  | some r => outboundPayloadUnits r.length fin

def SendOutcome.KeepsUnits (o : SendOutcome) (buf : Bytes) (fin : Bool) : Prop :=
  acceptedOutboundPayloadUnits buf.length fin o.written o.finAccepted + o.keptUnits fin =
    outboundPayloadUnits buf.length fin

theorem SendOutcome.Fits.keepsUnits {o : SendOutcome} {buf : Bytes} {fin : Bool}
    (h : o.Fits buf fin) : o.KeepsUnits buf fin := by
  have hunits := h.units
  have hkept : o.keptUnits fin = o.owedUnits fin := by
    unfold Fits at h
    unfold keptUnits owedUnits
    cases hr : o.remainder with
    | none =>
      rw [hr] at h
      simp [h.1]
    | some r => rfl
  unfold KeepsUnits
  rw [hkept]
  exact hunits

/-- Result of a flush: what it reports, the entry as it is left, and the
connection it sent on. -/
structure FlushResult (ε σ : Type) where
  outcome : Except ε PendingWriteFlushOutcome
  write : PendingWrite
  conn : σ

section Flush

variable {ε σ : Type} (send : Bytes → Bool → σ → Except ε SendOutcome × σ)

/-- The retry loop: send chunk after chunk, FIN with the last one, until one
is not taken whole. -/
def flushLoop (fin : Bool) : (chunks : List Bytes) → (∀ c ∈ chunks.tail, c ≠ []) → ℕ → σ →
    FlushResult ε σ
  | [], h, released, conn =>
    if fin then
      match send [] true conn with
      | (.error e, conn) => ⟨.error e, ⟨[], fin, h⟩, conn⟩
      | (.ok outcome, conn) =>
        let released := released +
          acceptedOutboundPayloadUnits 0 true outcome.written outcome.finAccepted
        match outcome.remainder with
        | some remainder => ⟨.ok ⟨false, released⟩, ⟨[remainder], fin, by simp⟩, conn⟩
        | none => ⟨.ok ⟨outcome.finAccepted, released⟩, ⟨[], fin, h⟩, conn⟩
    else ⟨.ok ⟨true, released⟩, ⟨[], fin, h⟩, conn⟩
  | buf :: rest, h, released, conn =>
    have hrest : ∀ c ∈ rest.tail, c ≠ [] := fun c hc => h c (List.mem_of_mem_tail hc)
    let sendFin := fin && rest.isEmpty
    match send buf sendFin conn with
    | (.error e, conn) => ⟨.error e, ⟨rest, fin, hrest⟩, conn⟩
    | (.ok outcome, conn) =>
      let released := released +
        acceptedOutboundPayloadUnits buf.length sendFin outcome.written outcome.finAccepted
      match outcome.remainder with
      | some remainder => ⟨.ok ⟨false, released⟩, ⟨remainder :: rest, fin, h⟩, conn⟩
      | none =>
        if sendFin then ⟨.ok ⟨outcome.finAccepted, released⟩, ⟨rest, fin, hrest⟩, conn⟩
        else flushLoop fin rest hrest released conn

def flushPendingWriteWithProgress (pw : PendingWrite) (conn : σ) : FlushResult ε σ :=
  flushLoop send pw.fin pw.chunks pw.tail_nonempty 0 conn

variable {send} {fin : Bool} {chunks : List Bytes} {h : ∀ c ∈ chunks.tail, c ≠ []}
  {released : ℕ} {conn : σ}

/-- Units of an entry with these chunks and this FIN. -/
def chunkUnits (chunks : List Bytes) (fin : Bool) : ℕ :=
  outboundPayloadUnits (chunks.map List.length).sum fin

theorem chunkUnits_cons {buf : Bytes} {rest : List Bytes} (hne : ∀ c ∈ rest, c ≠ [])
    (hrest : rest ≠ []) : chunkUnits (buf :: rest) fin = buf.length + chunkUnits rest fin := by
  obtain ⟨c, cs, rfl⟩ := List.exists_cons_of_ne_nil hrest
  have hc : 0 < c.length := List.length_pos_iff.2 (hne c (by simp))
  have hf : fin.toNat ≤ 1 := Bool.toNat_le fin
  simp only [chunkUnits, outboundPayloadUnits, List.map_cons, List.sum_cons]
  omega

/-- Whatever the stream answers, a flush that does not fail gives back exactly the
units the entry no longer owes. -/
theorem flushLoop_keepsUnits
    (hsend : ∀ buf f c o c', send buf f c = (.ok o, c') → o.KeepsUnits buf f)
    {o : PendingWriteFlushOutcome}
    (ho : (flushLoop send fin chunks h released conn).outcome = .ok o) :
    o.releasedUnits +
        (if o.done then 0 else (flushLoop send fin chunks h released conn).write.queuedUnits) =
      released + chunkUnits chunks fin := by
  induction chunks generalizing released conn with
  | nil =>
    unfold flushLoop at ho ⊢
    cases fin with
    | false =>
      simp only [Bool.false_eq_true, ↓reduceIte, Except.ok.injEq] at ho ⊢
      subst ho
      simp [chunkUnits, outboundPayloadUnits]
    | true =>
      rcases hs : send [] true conn with ⟨e | so, c'⟩
      · simp [hs] at ho
      · have hu := hsend _ _ _ _ _ hs
        simp only [SendOutcome.KeepsUnits, SendOutcome.keptUnits, List.length_nil] at hu
        simp only [hs, ↓reduceIte] at ho ⊢
        cases hr : so.remainder with
        | none =>
          simp only [hr, Except.ok.injEq] at ho hu ⊢
          subst ho
          cases hacc : so.finAccepted <;>
            simp [hacc, chunkUnits, outboundPayloadUnits, PendingWrite.queuedUnits,
              PendingWrite.queuedBytes] at hu ⊢ <;> omega
        | some r =>
          simp only [hr, Except.ok.injEq] at ho hu ⊢
          subst ho
          simp [chunkUnits, PendingWrite.queuedUnits, PendingWrite.queuedBytes] at hu ⊢
          omega
  | cons buf rest ih =>
    -- FIN goes out with the last chunk only, so a chunk before it costs its bytes
    have hsplit : ∀ x : Bytes, chunkUnits (x :: rest) fin =
        outboundPayloadUnits x.length (fin && rest.isEmpty) + chunkUnits rest
          (fin && !rest.isEmpty) := by
      intro x
      by_cases hnil : rest = []
      · simp [hnil, chunkUnits, outboundPayloadUnits]
      · have hb : rest.isEmpty = false := by simpa using hnil
        rw [chunkUnits_cons (by simpa using h) hnil]
        simp [hb, outboundPayloadUnits]
    unfold flushLoop at ho ⊢
    rcases hs : send buf (fin && rest.isEmpty) conn with ⟨e | so, c'⟩
    · simp [hs] at ho
    · have hu := hsend _ _ _ _ _ hs
      simp only [SendOutcome.KeepsUnits, SendOutcome.keptUnits] at hu
      simp only [hs] at ho ⊢
      cases hr : so.remainder with
      | some r =>
        simp only [hr, Except.ok.injEq] at ho hu ⊢
        subst ho
        have hw := hsplit r
        have hb := hsplit buf
        simp only [chunkUnits, PendingWrite.queuedUnits, PendingWrite.queuedBytes,
          Bool.false_eq_true, ↓reduceIte] at hw hb ⊢
        omega
      | none =>
        simp only [hr] at ho hu ⊢
        have hb := hsplit buf
        split at ho
        · next hf =>
          simp only [Except.ok.injEq] at ho
          subst ho
          obtain ⟨rfl, hnil⟩ := Bool.and_eq_true_iff.1 hf
          obtain rfl : rest = [] := by simpa using hnil
          cases hacc : so.finAccepted <;>
            simp [hacc, chunkUnits, outboundPayloadUnits, PendingWrite.queuedUnits,
              PendingWrite.queuedBytes] at hu hb ⊢ <;> omega
        · next hf =>
          rw [if_neg hf]
          have hrec := ih ho
          have hrest : (fin && !rest.isEmpty) = fin := by cases fin <;> simp_all
          have hkept : (fin && rest.isEmpty && !so.finAccepted).toNat = 0 := by
            rw [Bool.eq_false_iff.2 hf]
            rfl
          rw [hrec, hb, hrest, ← hu, hkept]
          omega

theorem flushPendingWriteWithProgress_units {write : PendingWrite}
    (hsend : ∀ buf f c o c', send buf f c = (.ok o, c') → o.Fits buf f)
    {o : PendingWriteFlushOutcome}
    (ho : (flushPendingWriteWithProgress send write conn).outcome = .ok o) :
    o.releasedUnits +
        (if o.done then 0 else (flushPendingWriteWithProgress send write conn).write.queuedUnits) =
      write.queuedUnits := by
  have hunits := flushLoop_keepsUnits
    (fun buf f c o c' hs => (hsend buf f c o c' hs).keepsUnits) ho
  rw [Nat.zero_add] at hunits
  exact hunits

theorem flushLoop_conn {R : σ → σ → Prop} (hrefl : ∀ c, R c c)
    (htrans : ∀ {a b c}, R a b → R b c → R a c) (hsend : ∀ buf f c, R c (send buf f c).2) :
    R conn (flushLoop send fin chunks h released conn).conn := by
  induction chunks generalizing released conn with
  | nil =>
    unfold flushLoop
    split_ifs with hf
    · have hs := hsend [] true conn
      rcases he : send [] true conn with ⟨e | o, c'⟩
      · rw [he] at hs
        exact hs
      · rw [he] at hs
        dsimp only
        split <;> exact hs
    · exact hrefl conn
  | cons buf rest ih =>
    unfold flushLoop
    have hs := hsend buf (fin && rest.isEmpty) conn
    dsimp only
    rcases he : send buf (fin && rest.isEmpty) conn with ⟨e | o, c'⟩
    · rw [he] at hs
      exact hs
    · rw [he] at hs
      dsimp only
      split
      · exact hs
      · split_ifs
        · exact hs
        · exact htrans hs ih

end Flush

end Http3
