import Http3.TimerHeap
import Http3.Lib.Runs
import Mathlib.Data.List.TakeWhile
import Mathlib.Order.Bounds.Basic

/-! The timer heap against the map from handles to deadlines it stands for, and how
many entries it holds. -/

namespace Http3

abbrev Deadlines := ℕ → Option ℕ

inductive TimerOp
  | schedule (handle deadline : ℕ)
  | setDeadline (handle : ℕ) (deadline : Option ℕ)
  | removeConnection (handle : ℕ)
  | nextDeadline
  | popExpired (now : ℕ)
  deriving DecidableEq, Repr

inductive TimerAnswer
  | nothing
  | deadline (answer : Option ℕ)
  | expired (handles : List ℕ)
  deriving DecidableEq, Repr

namespace Deadlines

/-- What the map says when it is asked for the earliest deadline. -/
def Earliest (m : Deadlines) : Option ℕ → Prop
  | none => ∀ handle, m handle = none
  | some deadline => IsLeast {d | ∃ handle, m handle = some d} deadline

/-- The handles that are due, each once and the earliest first. -/
structure Due (m : Deadlines) (now : ℕ) (handles : List ℕ) : Prop where
  mem_iff : ∀ handle, handle ∈ handles ↔ ∃ deadline, m handle = some deadline ∧ deadline ≤ now
  nodup : handles.Nodup
  ordered : handles.Pairwise fun a b => ∀ da db, m a = some da → m b = some db → da ≤ db

def afterPop (m : Deadlines) (now : ℕ) : Deadlines :=
  fun handle => (m handle).filter fun deadline => now < deadline

/-- What each operation does to the map, and what it answers. -/
inductive Step : TimerOp → TimerAnswer → Deadlines → Deadlines → Prop
  | schedule (m : Deadlines) (handle deadline : ℕ) :
      Step (.schedule handle deadline) .nothing m (Function.update m handle (some deadline))
  | setDeadline (m : Deadlines) (handle : ℕ) (deadline : Option ℕ) :
      Step (.setDeadline handle deadline) .nothing m (Function.update m handle deadline)
  | removeConnection (m : Deadlines) (handle : ℕ) :
      Step (.removeConnection handle) .nothing m (Function.update m handle none)
  | nextDeadline {m : Deadlines} {answer : Option ℕ} : m.Earliest answer →
      Step .nextDeadline (.deadline answer) m m
  | popExpired {m : Deadlines} {now : ℕ} {handles : List ℕ} : m.Due now handles →
      Step (.popExpired now) (.expired handles) m (m.afterPop now)

end Deadlines

namespace TimerHeap

def perform : TimerOp → TimerHeap → TimerAnswer × TimerHeap
  | .schedule handle deadline, t => (.nothing, t.schedule handle deadline)
  | .setDeadline handle deadline, t => (.nothing, t.setDeadline handle deadline)
  | .removeConnection handle, t => (.nothing, t.removeConnection handle)
  | .nextDeadline, t => (.deadline t.nextDeadline.1, t.nextDeadline.2)
  | .popExpired now, t => (.expired (t.popExpired now).1, (t.popExpired now).2)

def step (op : TimerOp) (t : TimerHeap) : TimerHeap := (perform op t).2

def view (t : TimerHeap) : Deadlines := fun handle => t.deadlines.lookup handle

def Before (a b : ℕ × ℕ) : Prop := a.1 < b.1 ∨ a.1 = b.1 ∧ a.2 ≤ b.2

instance (a b : ℕ × ℕ) : Decidable (Before a b) := by
  unfold Before
  infer_instance

theorem Before.trans {a b c : ℕ × ℕ} (hab : Before a b) (hbc : Before b c) : Before a c := by
  unfold Before at *
  omega

theorem Before.antisymm {a b : ℕ × ℕ} (hab : Before a b) (hba : Before b a) : a = b := by
  unfold Before at *
  ext <;> omega

theorem Before.fst_le {a b : ℕ × ℕ} (h : Before a b) : a.1 ≤ b.1 := by
  unfold Before at h
  omega

section Push

variable {entry e : ℕ × ℕ} {heap : List (ℕ × ℕ)}

theorem push_perm (entry : ℕ × ℕ) (heap : List (ℕ × ℕ)) :
    (push entry heap).Perm (entry :: heap) := by
  induction heap with
  | nil => exact .refl _
  | cons a rest ih =>
    unfold push
    split_ifs
    · exact (ih.cons a).trans (.swap entry a rest)
    · exact .refl _

theorem mem_push : e ∈ push entry heap ↔ e = entry ∨ e ∈ heap :=
  (push_perm entry heap).mem_iff.trans List.mem_cons

theorem pairwise_push (h : heap.Pairwise Before) : (push entry heap).Pairwise Before := by
  induction heap with
  | nil => simp [push]
  | cons a rest ih =>
    obtain ⟨hall, hrest⟩ := List.pairwise_cons.1 h
    unfold push
    split_ifs with hle
    · refine List.pairwise_cons.2 ⟨?_, ih hrest⟩
      intro b hb
      obtain rfl | hb := mem_push.1 hb
      · exact hle
      · exact hall b hb
    · have hentry : Before entry a := by
        unfold Before
        omega
      refine List.pairwise_cons.2 ⟨?_, h⟩
      intro b hb
      obtain rfl | hb := List.mem_cons.1 hb
      · exact hentry
      · exact hentry.trans (hall b hb)

end Push

/-- The entries are in order, and every deadline of the map has one. -/
structure Covers (t : TimerHeap) : Prop where
  ordered : t.heap.Pairwise Before
  entry : ∀ handle deadline, t.deadlines.lookup handle = some deadline →
    (deadline, handle) ∈ t.heap

theorem isCurrentDeadline_iff {deadlines : KeyMap ℕ ℕ} {handle deadline : ℕ} :
    isCurrentDeadline deadlines handle deadline = true ↔
      deadlines.lookup handle = some deadline := by
  simp [isCurrentDeadline]

variable {t : TimerHeap}

theorem Covers.maybeCompact (h : t.Covers) : t.maybeCompact.Covers := by
  unfold TimerHeap.maybeCompact
  split_ifs
  · refine ⟨h.ordered.sublist List.filter_sublist, ?_⟩
    intro handle deadline hlookup
    exact List.mem_filter.2 ⟨h.entry handle deadline hlookup, isCurrentDeadline_iff.2 hlookup⟩
  · exact h

theorem Covers.schedule (h : t.Covers) (handle deadline : ℕ) :
    (t.schedule handle deadline).Covers := by
  refine Covers.maybeCompact ⟨pairwise_push h.ordered, ?_⟩
  intro handle' deadline' hlookup
  by_cases hsame : handle' = handle
  · subst hsame
    rw [AList.lookup_insert] at hlookup
    cases hlookup
    exact mem_push.2 (.inl rfl)
  · rw [AList.lookup_insert_ne hsame] at hlookup
    exact mem_push.2 (.inr (h.entry handle' deadline' hlookup))

theorem Covers.removeConnection (h : t.Covers) (handle : ℕ) :
    (t.removeConnection handle).Covers := by
  refine Covers.maybeCompact ⟨h.ordered, ?_⟩
  intro handle' deadline hlookup
  by_cases hsame : handle' = handle
  · subst hsame
    rw [AList.lookup_erase] at hlookup
    cases hlookup
  · rw [AList.lookup_erase_ne hsame] at hlookup
    exact h.entry handle' deadline hlookup

theorem view_schedule (t : TimerHeap) (handle deadline : ℕ) :
    (t.schedule handle deadline).view = Function.update t.view handle (some deadline) := by
  funext handle'
  unfold view schedule
  rw [deadlines_maybeCompact]
  by_cases hsame : handle' = handle
  · subst hsame
    simp
  · simp [hsame, AList.lookup_insert_ne hsame]

theorem view_removeConnection (t : TimerHeap) (handle : ℕ) :
    (t.removeConnection handle).view = Function.update t.view handle none := by
  funext handle'
  unfold view removeConnection
  rw [deadlines_maybeCompact]
  by_cases hsame : handle' = handle
  · subst hsame
    simp
  · simp [hsame, AList.lookup_erase_ne hsame]

section NextDeadline

def fromCurrent (t : TimerHeap) : List (ℕ × ℕ) :=
  t.heap.dropWhile fun e => !isCurrentDeadline t.deadlines e.2 e.1

theorem mem_fromCurrent {t : TimerHeap} {handle deadline : ℕ}
    (hmem : (deadline, handle) ∈ t.heap) (hlookup : t.deadlines.lookup handle = some deadline) :
    (deadline, handle) ∈ t.fromCurrent := by
  unfold fromCurrent
  rw [← List.takeWhile_append_dropWhile (p := fun e => !isCurrentDeadline t.deadlines e.2 e.1)
    (l := t.heap), List.mem_append] at hmem
  obtain hstale | hleft := hmem
  · have hnot := List.mem_takeWhile_imp hstale
    simp [isCurrentDeadline_iff.2 hlookup] at hnot
  · exact hleft

theorem Covers.nextDeadline {t : TimerHeap} (h : t.Covers) : t.nextDeadline.2.Covers :=
  ⟨h.ordered.sublist (List.dropWhile_sublist _),
    fun handle deadline hlookup => mem_fromCurrent (h.entry handle deadline hlookup) hlookup⟩

theorem earliest_nextDeadline {t : TimerHeap} (h : t.Covers) :
    t.view.Earliest t.nextDeadline.1 := by
  have hanswer : t.nextDeadline.1 = t.fromCurrent.head?.map Prod.fst := rfl
  have hordered : t.fromCurrent.Pairwise Before := h.ordered.sublist (List.dropWhile_sublist _)
  have hmem : ∀ handle deadline, t.view handle = some deadline →
      (deadline, handle) ∈ t.fromCurrent :=
    fun handle deadline hlookup => mem_fromCurrent (h.entry handle deadline hlookup) hlookup
  rw [hanswer]
  cases hleft : t.fromCurrent with
  | nil =>
    intro handle
    cases hlookup : t.view handle with
    | none => rfl
    | some deadline =>
      have hnil := hmem handle deadline hlookup
      rw [hleft] at hnil
      cases hnil
  | cons e rest =>
    have hcurrent : t.view e.2 = some e.1 := by
      have hhead := List.head?_dropWhile_not
        (fun e => !isCurrentDeadline t.deadlines e.2 e.1) t.heap
      rw [fromCurrent] at hleft
      rw [hleft] at hhead
      exact isCurrentDeadline_iff.1 (by simpa using hhead)
    refine ⟨⟨e.2, hcurrent⟩, ?_⟩
    rintro deadline ⟨handle, hlookup⟩
    have hin := hmem handle deadline hlookup
    rw [hleft] at hin hordered
    obtain heq | hrest := List.mem_cons.1 hin
    · exact (congrArg Prod.fst heq).ge
    · exact ((List.pairwise_cons.1 hordered).1 _ hrest).fst_le

end NextDeadline

section PopExpired

variable {now : ℕ} {deadlines : KeyMap ℕ ℕ}

theorem Covers.tail_stale {e : ℕ × ℕ} {rest : List (ℕ × ℕ)}
    (h : (⟨e :: rest, deadlines⟩ : TimerHeap).Covers)
    (hstale : isCurrentDeadline deadlines e.2 e.1 ≠ true) :
    (⟨rest, deadlines⟩ : TimerHeap).Covers := by
  refine ⟨(List.pairwise_cons.1 h.ordered).2, ?_⟩
  intro handle deadline hlookup
  obtain heq | hrest := List.mem_cons.1 (h.entry handle deadline hlookup)
  · subst heq
    exact absurd (isCurrentDeadline_iff.2 hlookup) hstale
  · exact hrest

theorem Covers.tail_erase {deadline handle : ℕ} {rest : List (ℕ × ℕ)}
    (h : (⟨(deadline, handle) :: rest, deadlines⟩ : TimerHeap).Covers) :
    (⟨rest, deadlines.erase handle⟩ : TimerHeap).Covers := by
  refine ⟨(List.pairwise_cons.1 h.ordered).2, ?_⟩
  intro handle' deadline' hlookup'
  by_cases hsame : handle' = handle
  · subst hsame
    rw [AList.lookup_erase] at hlookup'
    cases hlookup'
  · rw [AList.lookup_erase_ne hsame] at hlookup'
    obtain heq | hrest := List.mem_cons.1 (h.entry handle' deadline' hlookup')
    · cases heq
      exact absurd rfl hsame
    · exact hrest

/-- What the loop leaves, and what it hands out, on a heap that covers the map. -/
structure Popped (now : ℕ) (deadlines : KeyMap ℕ ℕ) (result : List ℕ × TimerHeap) : Prop where
  covers : result.2.Covers
  due : Deadlines.Due (fun handle => deadlines.lookup handle) now result.1
  left : ∀ handle, result.2.deadlines.lookup handle =
    (deadlines.lookup handle).filter fun deadline => now < deadline

/-- The entry on top is due: its handle goes first, and then the rest. -/
theorem Popped.cons {handle deadline : ℕ} {rest : List (ℕ × ℕ)} {result : List ℕ × TimerHeap}
    (hlookup : deadlines.lookup handle = some deadline) (hdue : deadline ≤ now)
    (hentry : ∀ handle' deadline', (deadlines.erase handle).lookup handle' = some deadline' →
      (deadline', handle') ∈ rest) (hfirst : ∀ e ∈ rest, Before (deadline, handle) e)
    (h : Popped now (deadlines.erase handle) result) :
    Popped now deadlines (handle :: result.1, result.2) := by
  have hgone : handle ∉ result.1 := by
    intro hmem
    obtain ⟨deadline', hlookup', -⟩ := (h.due.mem_iff handle).1 hmem
    rw [AList.lookup_erase] at hlookup'
    cases hlookup'
  have hother : ∀ handle', handle' ≠ handle →
      (deadlines.erase handle).lookup handle' = deadlines.lookup handle' :=
    fun handle' hne => AList.lookup_erase_ne hne
  refine ⟨h.covers, ⟨?_, ?_, ?_⟩, ?_⟩
  · intro handle'
    rw [List.mem_cons, h.due.mem_iff]
    by_cases hsame : handle' = handle
    · subst hsame
      exact iff_of_true (.inl rfl) ⟨deadline, hlookup, hdue⟩
    · simp only [hsame, false_or, hother handle' hsame]
  · exact List.nodup_cons.2 ⟨hgone, h.due.nodup⟩
  · refine List.pairwise_cons.2 ⟨?_, ?_⟩
    · intro b hb da db hda hdb
      have hne : b ≠ handle := by
        rintro rfl
        exact hgone hb
      obtain rfl : da = deadline := Option.some.inj (hda.symm.trans hlookup)
      exact (hfirst _ (hentry b db ((hother b hne).trans hdb))).fst_le
    · refine h.due.ordered.imp_of_mem ?_
      intro a b ha hb hab da db hda hdb
      have hne : ∀ c ∈ result.1, c ≠ handle := by
        rintro c hc rfl
        exact hgone hc
      exact hab da db ((hother a (hne a ha)).trans hda) ((hother b (hne b hb)).trans hdb)
  · intro handle'
    rw [h.left]
    by_cases hsame : handle' = handle
    · subst hsame
      rw [AList.lookup_erase, hlookup]
      simp [Option.filter, hdue]
    · rw [hother handle' hsame]

theorem popExpiredLoop_popped {heap : List (ℕ × ℕ)} (h : (⟨heap, deadlines⟩ : TimerHeap).Covers) :
    Popped now deadlines (popExpiredLoop now heap deadlines) := by
  induction heap generalizing deadlines with
  | nil =>
    have hnone : ∀ handle, deadlines.lookup handle = none := by
      intro handle
      cases hlookup : deadlines.lookup handle with
      | none => rfl
      | some deadline => cases h.entry handle deadline hlookup
    refine ⟨h, ⟨?_, List.nodup_nil, List.Pairwise.nil⟩, ?_⟩
    · simp [popExpiredLoop, hnone]
    · simp [popExpiredLoop, hnone]
  | cons e rest ih =>
    obtain ⟨deadline, handle⟩ := e
    obtain ⟨hfirst, hordered⟩ := List.pairwise_cons.1 h.ordered
    unfold popExpiredLoop
    by_cases hcurrent : isCurrentDeadline deadlines handle deadline = true
    · have hlookup : deadlines.lookup handle = some deadline := isCurrentDeadline_iff.1 hcurrent
      rw [if_neg (by simpa using hcurrent)]
      by_cases hlater : now < deadline
      · rw [if_pos hlater]
        -- everything that is current pops no earlier than this entry
        have hall : ∀ handle' deadline', deadlines.lookup handle' = some deadline' →
            now < deadline' := by
          intro handle' deadline' hlookup'
          obtain heq | hrest := List.mem_cons.1 (h.entry handle' deadline' hlookup')
          · cases heq
            exact hlater
          · exact hlater.trans_le (hfirst _ hrest).fst_le
        refine ⟨h, ⟨?_, List.nodup_nil, List.Pairwise.nil⟩, ?_⟩
        · intro handle'
          constructor
          · intro hmem
            cases hmem
          · rintro ⟨deadline', hlookup', hle⟩
            exact absurd (hall handle' deadline' hlookup') (by omega)
        · intro handle'
          show deadlines.lookup handle' = _
          cases hlookup' : deadlines.lookup handle' with
          | none => rfl
          | some deadline' => simp [Option.filter, hall handle' deadline' hlookup']
      · rw [if_neg hlater]
        have hpopped := ih h.tail_erase
        generalize popExpiredLoop now rest (deadlines.erase handle) = r at hpopped ⊢
        exact hpopped.cons hlookup (by omega) h.tail_erase.entry hfirst
    · rw [if_pos (by simpa using hcurrent)]
      exact ih (h.tail_stale hcurrent)

end PopExpired

theorem Covers.step (op : TimerOp) (h : t.Covers) : (step op t).Covers := by
  cases op with
  | schedule handle deadline => exact h.schedule handle deadline
  | setDeadline handle deadline =>
    cases deadline with
    | none => exact h.removeConnection handle
    | some deadline => exact h.schedule handle deadline
  | removeConnection handle => exact h.removeConnection handle
  | nextDeadline => exact h.nextDeadline
  | popExpired now => exact (popExpiredLoop_popped h).covers

theorem covers_new : new.Covers := by
  refine ⟨List.Pairwise.nil, ?_⟩
  intro handle deadline hlookup
  cases hlookup

theorem covers_of_reach {ok : TimerOp → TimerHeap → Prop} (hreach : Runs.Reach step ok new t) :
    t.Covers :=
  hreach.invariant covers_new fun op _ h _ => h.step op

/-- Every run of the timer heap is a run of the map from handles to deadlines, which is
empty at first: each operation answers what the map answers, and leaves the heap of the
map it leaves. -/
theorem timer_heap_refines : new.view = (fun _ => none) ∧
    ∀ (t : TimerHeap) (op : TimerOp), Runs.Reach step (fun _ _ => True) new t →
      Deadlines.Step op (perform op t).1 t.view (perform op t).2.view := by
  refine ⟨rfl, ?_⟩
  intro t op hreach
  have hcovers := covers_of_reach hreach
  cases op with
  | schedule handle deadline =>
    show Deadlines.Step _ _ _ (t.schedule handle deadline).view
    rw [view_schedule]
    exact .schedule t.view handle deadline
  | setDeadline handle deadline =>
    cases deadline with
    | none =>
      show Deadlines.Step _ _ _ (t.removeConnection handle).view
      rw [view_removeConnection]
      exact .setDeadline t.view handle none
    | some deadline =>
      show Deadlines.Step _ _ _ (t.schedule handle deadline).view
      rw [view_schedule]
      exact .setDeadline t.view handle (some deadline)
  | removeConnection handle =>
    show Deadlines.Step _ _ _ (t.removeConnection handle).view
    rw [view_removeConnection]
    exact .removeConnection t.view handle
  | nextDeadline => exact .nextDeadline (earliest_nextDeadline hcovers)
  | popExpired now =>
    have hpopped : Popped now t.deadlines (t.popExpired now) := popExpiredLoop_popped hcovers
    have hview : (t.popExpired now).2.view = t.view.afterPop now := funext hpopped.left
    show Deadlines.Step _ _ _ (t.popExpired now).2.view
    rw [hview]
    exact .popExpired hpopped.due

/-- Handle 1 is scheduled again, for an earlier deadline. -/
def rescheduled : TimerHeap :=
  Runs.run step [.schedule 1 100, .schedule 2 50, .setDeadline 1 (some 70)] new

theorem timer_heap_refines_rescheduled :
    (perform (.popExpired 80) rescheduled).1 = .expired [2, 1] ∧
      Deadlines.Step (.popExpired 80) (.expired [2, 1]) rescheduled.view
        (perform (.popExpired 80) rescheduled).2.view := by
  have hreach : Runs.Reach step (fun _ _ => True) new rescheduled :=
    Runs.Reach.start.run ⟨trivial, trivial, trivial, trivial⟩
  have hanswer : (perform (.popExpired 80) rescheduled).1 = .expired [2, 1] := by decide +kernel
  have hstep := timer_heap_refines.2 rescheduled (.popExpired 80) hreach
  rw [hanswer] at hstep
  exact ⟨hanswer, hstep⟩

section Size

def WithinThreshold (t : TimerHeap) : Prop :=
  t.heap.length ≤ t.deadlines.entries.length * 4 + 32

instance (t : TimerHeap) : Decidable t.WithinThreshold := by
  unfold WithinThreshold
  infer_instance

/-- Entries that carry a current deadline, equal ones counted as often as they occur. -/
def currentEntries (t : TimerHeap) : ℕ :=
  t.heap.countP fun e => isCurrentDeadline t.deadlines e.2 e.1

/-- Whether an entry pops no earlier than a deadline that is later than `now`. -/
def staysAfter (now : ℕ) (deadlines : KeyMap ℕ ℕ) (e : ℕ × ℕ) : Bool :=
  deadlines.entries.any fun d => now < d.2 && decide (Before (d.2, d.1) e)

/-- The entries with a current deadline fit once a deadline is set or removed, and so do
the entries that are no earlier than the first deadline after `now` when it expires the
others. -/
def EntriesFit : TimerOp → TimerHeap → Prop
  | .schedule handle deadline, t | .setDeadline handle (some deadline), t =>
    currentEntries ⟨(deadline, handle) :: t.heap, t.deadlines.insert handle deadline⟩ ≤
      (t.deadlines.insert handle deadline).entries.length * 4 + 32
  | .removeConnection handle, t | .setDeadline handle none, t =>
    currentEntries ⟨t.heap, t.deadlines.erase handle⟩ ≤
      (t.deadlines.erase handle).entries.length * 4 + 32
  | .nextDeadline, _ => True
  | .popExpired now, t => t.heap.countP (staysAfter now t.deadlines) ≤
      (t.deadlines.entries.countP fun d => now < d.2) * 4 + 32

instance (op : TimerOp) (t : TimerHeap) : Decidable (EntriesFit op t) := by
  unfold EntriesFit
  split <;> infer_instance

theorem maybeCompact_within (t : TimerHeap) :
    t.maybeCompact.WithinThreshold ↔ t.currentEntries ≤ t.deadlines.entries.length * 4 + 32 := by
  have hle : t.currentEntries ≤ t.heap.length := List.countP_le_length
  unfold WithinThreshold
  rw [deadlines_maybeCompact]
  unfold maybeCompact
  split_ifs with hover
  · show (t.heap.filter _).length ≤ _ ↔ _
    rw [← List.countP_eq_length_filter]
    rfl
  · omega

theorem schedule_within (t : TimerHeap) (handle deadline : ℕ) :
    (t.schedule handle deadline).WithinThreshold ↔ EntriesFit (.schedule handle deadline) t := by
  have hsame : currentEntries ⟨push (deadline, handle) t.heap, t.deadlines.insert handle deadline⟩ =
      currentEntries ⟨(deadline, handle) :: t.heap, t.deadlines.insert handle deadline⟩ :=
    (push_perm _ _).countP_eq _
  unfold schedule
  rw [maybeCompact_within, hsame]
  rfl

theorem removeConnection_within (t : TimerHeap) (handle : ℕ) :
    (t.removeConnection handle).WithinThreshold ↔ EntriesFit (.removeConnection handle) t :=
  maybeCompact_within _

theorem nextDeadline_within {t : TimerHeap} (h : t.WithinThreshold) :
    t.nextDeadline.2.WithinThreshold := by
  have hle : t.fromCurrent.length ≤ t.heap.length := (List.dropWhile_sublist _).length_le
  exact hle.trans h

theorem staysAfter_iff {now : ℕ} {deadlines : KeyMap ℕ ℕ} {e : ℕ × ℕ} :
    staysAfter now deadlines e = true ↔
      ∃ handle deadline, deadlines.lookup handle = some deadline ∧ now < deadline ∧
        Before (deadline, handle) e := by
  unfold staysAfter
  rw [List.any_eq_true]
  constructor
  · rintro ⟨⟨handle, deadline⟩, hmem, hstays⟩
    obtain ⟨hlater, hbefore⟩ := Bool.and_eq_true_iff.1 hstays
    exact ⟨handle, deadline, AList.mem_lookup_iff.2 hmem, of_decide_eq_true hlater,
      of_decide_eq_true hbefore⟩
  · rintro ⟨handle, deadline, hlookup, hlater, hbefore⟩
    refine ⟨⟨handle, deadline⟩, AList.mem_lookup_iff.1 hlookup, ?_⟩
    exact Bool.and_eq_true_iff.2 ⟨decide_eq_true hlater, decide_eq_true hbefore⟩

/-- The heap that is left holds the entries from the first later deadline on. -/
theorem length_popExpiredLoop {now : ℕ} {heap : List (ℕ × ℕ)} {deadlines : KeyMap ℕ ℕ}
    (h : (⟨heap, deadlines⟩ : TimerHeap).Covers) :
    (popExpiredLoop now heap deadlines).2.heap.length =
      heap.countP (staysAfter now deadlines) := by
  induction heap generalizing deadlines with
  | nil => rfl
  | cons e rest ih =>
    obtain ⟨deadline, handle⟩ := e
    obtain ⟨hfirst, hordered⟩ := List.pairwise_cons.1 h.ordered
    unfold popExpiredLoop
    by_cases hcurrent : isCurrentDeadline deadlines handle deadline = true
    · have hlookup : deadlines.lookup handle = some deadline := isCurrentDeadline_iff.1 hcurrent
      rw [if_neg (by simpa using hcurrent)]
      by_cases hlater : now < deadline
      · rw [if_pos hlater]
        refine (List.countP_eq_length.2 ?_).symm
        intro e he
        refine staysAfter_iff.2 ⟨handle, deadline, hlookup, hlater, ?_⟩
        obtain rfl | hrest := List.mem_cons.1 he
        · exact .inr ⟨rfl, le_rfl⟩
        · exact hfirst e hrest
      · rw [if_neg hlater]
        have hgone : ¬staysAfter now deadlines (deadline, handle) = true := by
          rw [staysAfter_iff]
          rintro ⟨handle', deadline', -, hlater', hbefore⟩
          have hle := hbefore.fst_le
          omega
        have hsame : ∀ e, staysAfter now (deadlines.erase handle) e =
            staysAfter now deadlines e := by
          intro e
          rw [Bool.eq_iff_iff, staysAfter_iff, staysAfter_iff]
          constructor
          · rintro ⟨handle', deadline', hlookup', hstays⟩
            refine ⟨handle', deadline', ?_, hstays⟩
            by_cases hhandle : handle' = handle
            · subst hhandle
              rw [AList.lookup_erase] at hlookup'
              cases hlookup'
            · rwa [AList.lookup_erase_ne hhandle] at hlookup'
          · rintro ⟨handle', deadline', hlookup', hlater', hbefore⟩
            refine ⟨handle', deadline', ?_, hlater', hbefore⟩
            have hhandle : handle' ≠ handle := by
              rintro rfl
              obtain rfl : deadline' = deadline := Option.some.inj (hlookup'.symm.trans hlookup)
              exact hlater hlater'
            rwa [AList.lookup_erase_ne hhandle]
        rw [List.countP_cons_of_neg hgone, ← funext hsame]
        exact ih h.tail_erase
    · rw [if_pos (by simpa using hcurrent)]
      have hgone : ¬staysAfter now deadlines (deadline, handle) = true := by
        rw [staysAfter_iff]
        rintro ⟨handle', deadline', hlookup', -, hbefore⟩
        obtain heq | hrest := List.mem_cons.1 (h.entry handle' deadline' hlookup')
        · cases heq
          exact hcurrent (isCurrentDeadline_iff.2 hlookup')
        · cases hbefore.antisymm (hfirst _ hrest)
          exact hcurrent (isCurrentDeadline_iff.2 hlookup')
      rw [List.countP_cons_of_neg hgone]
      exact ih (h.tail_stale hcurrent)

theorem count_popExpiredLoop {now : ℕ} (heap : List (ℕ × ℕ)) (deadlines : KeyMap ℕ ℕ) :
    ((popExpiredLoop now heap deadlines).2.deadlines.entries.countP fun d => now < d.2) =
      deadlines.entries.countP fun d => now < d.2 := by
  induction heap generalizing deadlines with
  | nil => rfl
  | cons e rest ih =>
    obtain ⟨deadline, handle⟩ := e
    unfold popExpiredLoop
    by_cases hcurrent : isCurrentDeadline deadlines handle deadline = true
    · rw [if_neg (by simpa using hcurrent)]
      by_cases hlater : now < deadline
      · rw [if_pos hlater]
      · rw [if_neg hlater]
        show ((popExpiredLoop now rest (deadlines.erase handle)).2.deadlines.entries.countP _) = _
        rw [ih]
        exact KeyMap.countP_erase (p := fun deadline => decide (now < deadline))
          (isCurrentDeadline_iff.1 hcurrent) (decide_eq_false hlater)
    · rw [if_pos (by simpa using hcurrent)]
      exact ih deadlines

theorem popExpired_within {t : TimerHeap} (h : t.Covers) (now : ℕ) :
    (t.popExpired now).2.WithinThreshold ↔ EntriesFit (.popExpired now) t := by
  have hpopped : Popped now t.deadlines (t.popExpired now) := popExpiredLoop_popped h
  have hall : ∀ d ∈ (t.popExpired now).2.deadlines.entries, decide (now < d.2) = true := by
    rintro ⟨handle, deadline⟩ hmem
    have hlookup := hpopped.left handle
    rw [AList.mem_lookup_iff.2 hmem] at hlookup
    exact (Option.filter_eq_some_iff.1 hlookup.symm).2
  have hcount : (t.popExpired now).2.deadlines.entries.length =
      t.deadlines.entries.countP fun d => now < d.2 := by
    rw [← count_popExpiredLoop t.heap t.deadlines]
    exact (List.countP_eq_length.2 hall).symm
  have hheap : (t.popExpired now).2.heap.length = t.heap.countP (staysAfter now t.deadlines) :=
    length_popExpiredLoop h
  unfold WithinThreshold
  rw [hcount, hheap]
  rfl

/-- In every run in which the entries fit, the heap holds at most four entries for each
handle with a deadline, and 32 more. The first operation at which they do not fit
breaks that bound. -/
theorem timer_heap_bounded (t : TimerHeap) (hreach : Runs.Reach step EntriesFit new t) :
    t.WithinThreshold ∧ ∀ op, (step op t).WithinThreshold ↔ EntriesFit op t := by
  have hstep : ∀ {t : TimerHeap}, t.Covers → t.WithinThreshold →
      ∀ op, (step op t).WithinThreshold ↔ EntriesFit op t := by
    intro t hcovers hwithin op
    cases op with
    | schedule handle deadline => exact t.schedule_within handle deadline
    | setDeadline handle deadline =>
      cases deadline with
      | none => exact t.removeConnection_within handle
      | some deadline => exact t.schedule_within handle deadline
    | removeConnection handle => exact t.removeConnection_within handle
    | nextDeadline => exact iff_of_true (nextDeadline_within hwithin) trivial
    | popExpired now => exact popExpired_within hcovers now
  have hinv : t.Covers ∧ t.WithinThreshold := by
    induction hreach with
    | start => exact ⟨covers_new, Nat.zero_le _⟩
    | next op _ hfit ih => exact ⟨ih.1.step op, (hstep ih.1 ih.2 op).2 hfit⟩
  exact ⟨hinv.2, hstep hinv.1 hinv.2⟩

/-- Forty deadlines of one handle, one after the other. -/
def moved : List TimerOp := (List.range 40).map fun deadline => .schedule 1 deadline

theorem timer_heap_bounded_moved : Runs.Admitted step EntriesFit moved new ∧
    (Runs.run step moved new).WithinThreshold := by
  have hadmitted : Runs.Admitted step EntriesFit moved new := by decide +kernel
  exact ⟨hadmitted, (timer_heap_bounded _ (Runs.Reach.start.run hadmitted)).1⟩

/-- Compaction keeps equal entries, and the heap grows with every call that sets a
deadline again. Expiring one timer keeps the stale entries behind the next one. -/
theorem equal_deadlines_pile_up :
    (Runs.run step (List.replicate 37 (.schedule 1 5)) new).heap.length = 37 ∧
      (Runs.run step (List.replicate 37 (.schedule 1 5)) new).deadlines.entries.length = 1 ∧
      ¬(Runs.run step (List.replicate 37 (.schedule 1 5)) new).WithinThreshold ∧
      ¬(Runs.run step ([.schedule 2 50] ++ (List.range 38).map (fun i => .schedule 1 (100 + i)) ++
        [.schedule 1 1, .popExpired 1]) new).WithinThreshold := by
  decide +kernel

end Size

end TimerHeap

end Http3
