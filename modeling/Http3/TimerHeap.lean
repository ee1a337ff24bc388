import Http3.Lib.KeyMap

/-! Deadlines of connection timers with lazy removal: the map holds the current
deadline of each handle, and heap entries that disagree with it are skipped. -/

namespace Http3

/-- The heap is kept as the list of its entries in the order they pop. -/
structure TimerHeap where
  heap : List (ℕ × ℕ)
  deadlines : KeyMap ℕ ℕ

namespace TimerHeap

def new : TimerHeap := ⟨[], ∅⟩

def isCurrentDeadline (deadlines : KeyMap ℕ ℕ) (handle deadline : ℕ) : Bool :=
  deadlines.lookup handle == some deadline

def push (entry : ℕ × ℕ) : List (ℕ × ℕ) → List (ℕ × ℕ)
  | [] => [entry]
  | e :: rest =>
    if e.1 < entry.1 ∨ e.1 = entry.1 ∧ e.2 ≤ entry.2 then e :: push entry rest
    else entry :: e :: rest

def compact (t : TimerHeap) : TimerHeap :=
  { t with heap := t.heap.filter fun e => isCurrentDeadline t.deadlines e.2 e.1 }

def maybeCompact (t : TimerHeap) : TimerHeap :=
  if t.deadlines.entries.length * 4 + 32 < t.heap.length then t.compact else t

def schedule (t : TimerHeap) (handle deadline : ℕ) : TimerHeap :=
  maybeCompact ⟨push (deadline, handle) t.heap, t.deadlines.insert handle deadline⟩

def removeConnection (t : TimerHeap) (handle : ℕ) : TimerHeap :=
  maybeCompact { t with deadlines := t.deadlines.erase handle }

def setDeadline (t : TimerHeap) (handle : ℕ) : Option ℕ → TimerHeap
  | some deadline => t.schedule handle deadline
  | none => t.removeConnection handle

/-- Drop stale entries from the top and read the earliest deadline left. -/
def nextDeadline (t : TimerHeap) : Option ℕ × TimerHeap :=
  let heap := t.heap.dropWhile fun e => !isCurrentDeadline t.deadlines e.2 e.1
  (heap.head?.map Prod.fst, { t with heap })

def popExpiredLoop (now : ℕ) : List (ℕ × ℕ) → KeyMap ℕ ℕ → List ℕ × TimerHeap
  | [], deadlines => ([], ⟨[], deadlines⟩)
  | (deadline, handle) :: rest, deadlines =>
    if !isCurrentDeadline deadlines handle deadline then popExpiredLoop now rest deadlines
    else if now < deadline then ([], ⟨(deadline, handle) :: rest, deadlines⟩)
    else
      let (expired, t) := popExpiredLoop now rest (deadlines.erase handle)
      (handle :: expired, t)

/-- Handles whose deadline has passed, earliest first. -/
def popExpired (t : TimerHeap) (now : ℕ) : List ℕ × TimerHeap :=
  popExpiredLoop now t.heap t.deadlines

@[simp] theorem deadlines_maybeCompact (t : TimerHeap) :
    t.maybeCompact.deadlines = t.deadlines := by
  unfold maybeCompact compact
  split_ifs <;> rfl

theorem mem_removeConnection {t : TimerHeap} {handle k : ℕ}
    (h : k ∈ (t.removeConnection handle).deadlines) : k ∈ t.deadlines ∧ k ≠ handle := by
  unfold removeConnection at h
  rw [deadlines_maybeCompact, AList.mem_erase] at h
  exact ⟨h.2, h.1⟩

theorem mem_setDeadline {t : TimerHeap} {handle k : ℕ} {deadline : Option ℕ}
    (h : k ∈ (t.setDeadline handle deadline).deadlines) : k ∈ t.deadlines ∨ k = handle := by
  cases deadline with
  | none => exact .inl (mem_removeConnection h).1
  | some deadline =>
    unfold setDeadline schedule at h
    rw [deadlines_maybeCompact, AList.mem_insert] at h
    exact h.symm

theorem mem_popExpiredLoop {now k : ℕ} {heap : List (ℕ × ℕ)} {deadlines : KeyMap ℕ ℕ}
    (h : k ∈ (popExpiredLoop now heap deadlines).2.deadlines) : k ∈ deadlines := by
  induction heap generalizing deadlines with
  | nil => exact h
  | cons entry rest ih =>
    obtain ⟨deadline, handle⟩ := entry
    unfold popExpiredLoop at h
    split_ifs at h
    · exact ih h
    · exact h
    · exact (AList.mem_erase.1 (ih h)).2

end TimerHeap

end Http3
