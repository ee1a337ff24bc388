import Http3.OutboundAdmission
import Http3.Lib.Runs
import Mathlib.Algebra.BigOperators.Group.Finset.Basic
import Mathlib.Algebra.BigOperators.Fin
import Mathlib.Algebra.Order.BigOperators.Group.Finset
import Mathlib.Data.Fintype.BigOperators

/-! The admission window shared by threads: every atomic access of `try_admit`
and `release` is a step of its own, and the steps of all threads interleave. -/

namespace Http3

namespace AdmissionThreads

/-- The next atomic access of a thread, with the locals it still needs. -/
inductive Pc
  | idle
  | admitLoad (units : ℕ)
  | admitCas (units current next : ℕ)
  | admitStore (units : ℕ)
  | admitRecheck (units : ℕ)
  | releaseLoad (units : ℕ)
  | releaseCas (units current : ℕ)
  | releaseSwap (next : ℕ)
  deriving DecidableEq, Repr

/-- What the threads have done so far. A call that admits or refuses returns with
that event, a release with its swap. -/
inductive Event (ι : Type)
  | admitted (thread : ι) (units : ℕ)
  | pressed (thread : ι)
  | refused (thread : ι) (units : ℕ)
  | released (thread : ι) (units : ℕ)
  | swapped (thread : ι) (writeReady : Bool)
  deriving DecidableEq, Repr

namespace Event

variable {ι : Type}

def thread : Event ι → ι
  | admitted t _ | pressed t | refused t _ | released t _ | swapped t _ => t

def admittedUnits : Event ι → ℕ
  | admitted _ units => units
  | _ => 0

def releasedUnits : Event ι → ℕ
  | released _ units => units
  | _ => 0

/-- The event shows that a call has taken effect on the counter. -/
def counts : Event ι → Bool
  | pressed _ | swapped _ _ => false
  | _ => true

def flag (before : Bool) : Event ι → Bool
  | pressed _ => true
  | swapped _ _ => false
  | _ => before

end Event

section History

variable {ι : Type}

def admittedUnits (history : List (Event ι)) : ℕ := (history.map Event.admittedUnits).sum

def releasedUnits (history : List (Event ι)) : ℕ := (history.map Event.releasedUnits).sum

def largestAdmitted (history : List (Event ι)) : ℕ :=
  history.foldl (fun m e => max m e.admittedUnits) 0

def flagAfter (history : List (Event ι)) : Bool := history.foldl Event.flag false

@[simp] theorem admittedUnits_append (a b : List (Event ι)) :
    admittedUnits (a ++ b) = admittedUnits a + admittedUnits b := by simp [admittedUnits]

@[simp] theorem releasedUnits_append (a b : List (Event ι)) :
    releasedUnits (a ++ b) = releasedUnits a + releasedUnits b := by simp [releasedUnits]

@[simp] theorem admittedUnits_singleton (e : Event ι) : admittedUnits [e] = e.admittedUnits := by
  simp [admittedUnits]

@[simp] theorem releasedUnits_singleton (e : Event ι) : releasedUnits [e] = e.releasedUnits := by
  simp [releasedUnits]

@[simp] theorem largestAdmitted_concat (a : List (Event ι)) (e : Event ι) :
    largestAdmitted (a ++ [e]) = max (largestAdmitted a) e.admittedUnits := by
  simp [largestAdmitted]

@[simp] theorem flagAfter_concat (a : List (Event ι)) (e : Event ι) :
    flagAfter (a ++ [e]) = e.flag (flagAfter a) := by simp [flagAfter]

end History

/-- The window, where every thread stands, and what happened. `promised` is not
part of the program: the units of all releases begun. -/
structure State (ι : Type) where
  admission : OutboundAdmission
  pc : ι → Pc
  promised : ℕ
  history : List (Event ι)

def init (ι : Type) (marks : AdmissionWatermarks) : State ι :=
  ⟨⟨0, marks, false⟩, fun _ => .idle, 0, []⟩

/-- Begin a call, or make the next access of the call under way. -/
inductive Act
  | tryAdmit (units : UInt64)
  | release (units : UInt64)
  | advance
  deriving DecidableEq, Repr

namespace State

variable {ι : Type} [DecidableEq ι]

def goto (t : ι) (pc : Pc) (s : State ι) : State ι := { s with pc := Function.update s.pc t pc }

def log (e : Event ι) (s : State ι) : State ι := { s with history := s.history ++ [e] }

def setQueued (queued : ℕ) (s : State ι) : State ι :=
  { s with admission := { s.admission with queued } }

def setPressured (pressured : Bool) (s : State ι) : State ι :=
  { s with admission := { s.admission with pressured } }

/-- One atomic access of thread `t`. -/
def advance (t : ι) (s : State ι) : State ι :=
  match s.pc t with
  | .idle => s
  | .admitLoad units =>
    match admitNext s.admission.queued units s.admission.marks.high with
    | .admitted next => s.goto t (.admitCas units s.admission.queued next)
    | .backpressured => s.goto t (.admitStore units)
  | .admitCas units current next =>
    if s.admission.queued = current then ((s.goto t .idle).setQueued next).log (.admitted t units)
    else s.goto t (.admitLoad units)
  | .admitStore units => ((s.goto t (.admitRecheck units)).setPressured true).log (.pressed t)
  | .admitRecheck units =>
    match admitNext s.admission.queued units s.admission.marks.high with
    | .admitted _ => s.goto t (.admitLoad units)
    | .backpressured => (s.goto t .idle).log (.refused t units)
  | .releaseLoad units => s.goto t (.releaseCas units s.admission.queued)
  | .releaseCas units current =>
    let next := releaseNext current units
    if s.admission.queued = current then
      -- above the low mark the flag is left alone and the answer is `false`
      ((s.goto t (if next ≤ s.admission.marks.low then .releaseSwap next else .idle)).setQueued
        next).log (.released t units)
    else s.goto t (.releaseLoad units)
  | .releaseSwap next =>
    ((s.goto t .idle).setPressured false).log
      (.swapped t (releaseEmitsWriteReady next s.admission.marks.low s.admission.pressured))

/-- A thread begins one call at a time; calls without units return at once. -/
def step (input : ι × Act) (s : State ι) : State ι :=
  match input.2 with
  | .advance => s.advance input.1
  | .tryAdmit units =>
    if s.pc input.1 = .idle then
      if units = 0 then s.log (.admitted input.1 0) else s.goto input.1 (.admitLoad units.toNat)
    else s
  | .release units =>
    if s.pc input.1 = .idle then
      if units = 0 then s
      else
        { s.goto input.1 (.releaseLoad units.toNat) with promised := s.promised + units.toNat }
    else s

def Preceded (input : ι × Act) (s : State ι) : Prop :=
  match input.2 with
  | .release units =>
    s.pc input.1 = .idle → s.promised + units.toNat ≤ admittedUnits s.history
  | _ => True

instance : (input : ι × Act) → (s : State ι) → Decidable (Preceded input s)
  | (_, .release _), _ => inferInstanceAs (Decidable (_ → _))
  | (_, .tryAdmit _), _ | (_, .advance), _ => .isTrue trivial

end State

section History

variable {ι : Type}

theorem concat_eq_append_cons {α : Type} {h a c : List α} {x e : α} (heq : h ++ [x] = a ++ e :: c) :
    (a = h ∧ e = x ∧ c = []) ∨ ∃ c', c = c' ++ [x] ∧ h = a ++ e :: c' := by
  rcases List.eq_nil_or_concat c with rfl | ⟨c', y, rfl⟩
  · left
    obtain ⟨rfl, hx⟩ := List.append_inj' heq rfl
    cases hx
    exact ⟨rfl, rfl, rfl⟩
  · right
    rw [List.concat_eq_append, ← List.cons_append, ← List.append_assoc] at heq
    obtain ⟨rfl, hx⟩ := List.append_inj' heq rfl
    cases hx
    exact ⟨c', List.concat_eq_append, rfl⟩

/-- The last thing thread `t` did is to raise the flag. -/
def PressedBy (t : ι) (history : List (Event ι)) : Prop :=
  ∃ earlier between, history = earlier ++ .pressed t :: between ∧ ∀ e ∈ between, e.thread ≠ t

theorem PressedBy.concat {t : ι} {history : List (Event ι)} (h : PressedBy t history) {e : Event ι}
    (he : e.thread ≠ t) : PressedBy t (history ++ [e]) := by
  obtain ⟨earlier, between, rfl, hbetween⟩ := h
  refine ⟨earlier, between ++ [e], by simp, ?_⟩
  intro x hx
  rcases List.mem_append.1 hx with hx | hx
  · exact hbetween x hx
  · rw [List.mem_singleton.1 hx]
    exact he

/-- What the order of the events shows. -/
structure WellFormed (history : List (Event ι)) : Prop where
  /-- Nothing is released that was not admitted. -/
  covered : ∀ a c, history = a ++ c → releasedUnits a ≤ admittedUnits a
  /-- A swap answers what the flag was. -/
  honest : ∀ a t b c, history = a ++ .swapped t b :: c → b = flagAfter a
  /-- A refusal comes after the flag was raised for it, with something admitted. -/
  pressed : ∀ a t units c, history = a ++ .refused t units :: c → PressedBy t a
  loaded : ∀ a t units c, history = a ++ .refused t units :: c →
    releasedUnits a < admittedUnits a

theorem WellFormed.nil : WellFormed ([] : List (Event ι)) := by
  constructor
  · intro a c h
    obtain ⟨rfl, -⟩ := List.append_eq_nil_iff.1 h.symm
    simp [releasedUnits]
  all_goals
    intro a _ _ c h
    simp at h

theorem WellFormed.concat {history : List (Event ι)} (h : WellFormed history) {e : Event ι}
    (hcovered : releasedUnits (history ++ [e]) ≤ admittedUnits (history ++ [e]))
    (hhonest : ∀ t b, e = .swapped t b → b = flagAfter history)
    (hrefused : ∀ t units, e = .refused t units →
      PressedBy t history ∧ releasedUnits history < admittedUnits history) :
    WellFormed (history ++ [e]) := by
  constructor
  · intro a c heq
    rcases List.eq_nil_or_concat c with rfl | ⟨c', y, rfl⟩
    · rw [List.append_nil] at heq
      rwa [← heq]
    · rw [List.concat_eq_append, ← List.append_assoc] at heq
      exact h.covered a c' (List.append_inj' heq rfl).1
  · intro a t b c heq
    obtain ⟨rfl, rfl, -⟩ | ⟨c', -, rfl⟩ := concat_eq_append_cons heq
    · exact hhonest t b rfl
    · exact h.honest a t b c' rfl
  · intro a t units c heq
    obtain ⟨rfl, rfl, -⟩ | ⟨c', -, rfl⟩ := concat_eq_append_cons heq
    · exact (hrefused t units rfl).1
    · exact h.pressed a t units c' rfl
  · intro a t units c heq
    obtain ⟨rfl, rfl, -⟩ | ⟨c', -, rfl⟩ := concat_eq_append_cons heq
    · exact (hrefused t units rfl).2
    · exact h.loaded a t units c' rfl

theorem WellFormed.left {a c : List (Event ι)} (h : WellFormed (a ++ c)) : WellFormed a := by
  constructor
  · rintro x y rfl
    exact h.covered x (y ++ c) (by simp)
  · rintro x t b y rfl
    exact h.honest x t b (y ++ c) (by simp)
  · rintro x t units y rfl
    exact h.pressed x t units (y ++ c) (by simp)
  · rintro x t units y rfl
    exact h.loaded x t units (y ++ c) (by simp)

theorem WellFormed.exists_last_release {a c : List (Event ι)} (h : WellFormed (a ++ c))
    (hbefore : releasedUnits a < admittedUnits a)
    (hafter : releasedUnits (a ++ c) = admittedUnits (a ++ c)) :
    ∃ c₁ t units c₂, c = c₁ ++ .released t units :: c₂ ∧
      admittedUnits (a ++ c₁) = releasedUnits (a ++ c₁) + units := by
  induction c using List.reverseRecOn with
  | nil =>
    rw [List.append_nil] at hafter
    omega
  | append_singleton c e ih =>
    rw [← List.append_assoc] at h hafter
    have hcovered := h.covered (a ++ c) [e] rfl
    by_cases heq : releasedUnits (a ++ c) = admittedUnits (a ++ c)
    · obtain ⟨c₁, t, units, c₂, rfl, hlast⟩ := ih h.left heq
      exact ⟨c₁, t, units, c₂ ++ [e], by simp, hlast⟩
    · rw [releasedUnits_append, admittedUnits_append (a ++ c)] at hafter
      -- only a release closes the gap
      cases e with
      | released t units =>
        refine ⟨c, t, units, [], rfl, ?_⟩
        simp only [releasedUnits_singleton, admittedUnits_singleton, Event.releasedUnits,
          Event.admittedUnits] at hafter
        omega
      | _ =>
        simp only [releasedUnits_singleton, admittedUnits_singleton, Event.releasedUnits,
          Event.admittedUnits] at hafter
        omega

theorem WellFormed.exists_wake {a c : List (Event ι)} (h : WellFormed (a ++ c))
    (hflag : flagAfter a = true) {t : ι} {b : Bool} (hswap : .swapped t b ∈ c) :
    ∃ t', .swapped t' true ∈ c := by
  induction c generalizing a with
  | nil => cases hswap
  | cons e c ih =>
    have happend : a ++ e :: c = (a ++ [e]) ++ c := by simp
    cases e with
    | swapped t' b' =>
      have hb := h.honest a t' b' c rfl
      rw [hflag] at hb
      exact ⟨t', by simp [hb]⟩
    | _ =>
      rw [happend] at h
      have hmem : .swapped t b ∈ c := by simpa using hswap
      obtain ⟨t', ht'⟩ := ih h (by simp [Event.flag, hflag]) hmem
      exact ⟨t', List.mem_cons_of_mem _ ht'⟩

end History

theorem admitNext_eq_admitted {current units high next : ℕ}
    (h : admitNext current units high = .admitted next) :
    next = current + units ∧ (units = 0 ∨ next ≤ max high units ∧ next < usizeBound) := by
  unfold admitNext at h
  split_ifs at h with h0 hbound hfits
  · cases h
    simp [h0]
  · cases h
    simp only [true_and]
    omega

theorem pos_of_backpressured {current units high : ℕ} (hunits : units < usizeBound)
    (h : admitNext current units high = .backpressured) : 0 < current := by
  unfold admitNext at h
  split_ifs at h with h0 hbound hfits
  · omega
  · have : units ≤ max high units := le_max_right high units
    omega

namespace Pc

/-- Units a release under way has still to take off the counter. -/
def owed : Pc → ℕ
  | releaseLoad units | releaseCas units _ => units
  | _ => 0

def swapping : Pc → Bool
  | releaseSwap _ => true
  | _ => false

def Valid (marks : AdmissionWatermarks) : Pc → Prop
  | admitLoad units | admitStore units | admitRecheck units => units < usizeBound
  | admitCas units current next =>
    units < usizeBound ∧ admitNext current units marks.high = .admitted next
  | releaseLoad units | releaseCas units _ => 0 < units
  | releaseSwap next => next ≤ marks.low
  | idle => True

/-- Neither between the store and the recheck nor before a swap. -/
def Plain : Pc → Prop
  | admitRecheck _ | releaseSwap _ => False
  | _ => True

end Pc

/-- A call, whoever makes it. -/
inductive Call
  | tryAdmit (units : ℕ)
  | release (units : ℕ)
  deriving DecidableEq, Repr

namespace Call

variable {ι : Type}

/-- The admission after the call was made by itself. -/
def serve : Call → OutboundAdmission → OutboundAdmission
  | tryAdmit units, a => (a.tryAdmit units).2
  | release units, a => (a.release units).2

/-- What is seen of a call made by itself. -/
def seen (thread : ι) (a : OutboundAdmission) : Call → List (Event ι)
  | tryAdmit units =>
    [if (a.tryAdmit units).1 then .admitted thread units else .refused thread units]
  | release units => if units = 0 then [] else [.released thread units]

/-- What is seen of calls made one after the other. -/
def seenInTurn : List (ι × Call) → OutboundAdmission → List (Event ι)
  | [], _ => []
  | (t, call) :: calls, a => call.seen t a ++ seenInTurn calls (call.serve a)

def serveAll (calls : List (ι × Call)) (a : OutboundAdmission) : OutboundAdmission :=
  Runs.run (fun call => call.2.serve) calls a

@[simp] theorem serve_marks (call : Call) (a : OutboundAdmission) :
    (call.serve a).marks = a.marks := by
  cases call with
  | tryAdmit units =>
    simp only [serve, OutboundAdmission.tryAdmit]
    split_ifs
    · rfl
    · split <;> rfl
  | release units =>
    simp only [serve, OutboundAdmission.release]
    split_ifs <;> rfl

theorem serveAll_marks (calls : List (ι × Call)) (a : OutboundAdmission) :
    (serveAll calls a).marks = a.marks := by
  induction calls generalizing a with
  | nil => rfl
  | cons call calls ih => exact (ih _).trans (serve_marks call.2 a)

theorem seenInTurn_append (before after : List (ι × Call)) (a : OutboundAdmission) :
    seenInTurn (before ++ after) a = seenInTurn before a ++
      seenInTurn after (serveAll before a) := by
  induction before generalizing a with
  | nil => rfl
  | cons call before ih => simp [seenInTurn, ih, serveAll, Runs.run]

end Call

/-- The call that a thread is in the middle of. Before its swap a release has taken effect. -/
def Pc.underWay : Pc → Option Call
  | admitLoad units | admitCas units _ _ | admitStore units | admitRecheck units =>
    some (.tryAdmit units)
  | releaseLoad units | releaseCas units _ => some (.release units)
  | idle | releaseSwap _ => none

namespace State

variable {ι : Type} [DecidableEq ι]

/-- What one step of thread `t` can do, where a release begun keeps to `ok`. -/
inductive Move (ok : ℕ → Prop) (t : ι) (s : State ι) : State ι → Prop
  | stay : Move ok t s s
  | silent (pc : Pc) : (∀ n, s.pc t ≠ .releaseSwap n) → pc.Plain → pc.owed = (s.pc t).owed →
      ((s.pc t).Valid s.admission.marks → pc.Valid s.admission.marks) → Move ok t s (s.goto t pc)
  | admitNothing : s.pc t = .idle → Move ok t s (s.log (.admitted t 0))
  | promise (units : ℕ) : s.pc t = .idle → 0 < units → ok units →
      Move ok t s { s.goto t (.releaseLoad units) with promised := s.promised + units }
  | charge (units next : ℕ) : s.pc t = .admitCas units s.admission.queued next →
      Move ok t s (((s.goto t .idle).setQueued next).log (.admitted t units))
  | press (units : ℕ) : s.pc t = .admitStore units →
      Move ok t s (((s.goto t (.admitRecheck units)).setPressured true).log (.pressed t))
  | refuse (units : ℕ) : s.pc t = .admitRecheck units →
      admitNext s.admission.queued units s.admission.marks.high = .backpressured →
      Move ok t s ((s.goto t .idle).log (.refused t units))
  | release (units : ℕ) : s.pc t = .releaseCas units s.admission.queued →
      Move ok t s (((s.goto t
        (if releaseNext s.admission.queued units ≤ s.admission.marks.low
          then .releaseSwap (releaseNext s.admission.queued units) else .idle)).setQueued
        (releaseNext s.admission.queued units)).log (.released t units))
  | swap (next : ℕ) : s.pc t = .releaseSwap next →
      Move ok t s (((s.goto t .idle).setPressured false).log
        (.swapped t (releaseEmitsWriteReady next s.admission.marks.low s.admission.pressured)))

theorem advance_move (ok : ℕ → Prop) (t : ι) (s : State ι) : Move ok t s (s.advance t) := by
  unfold advance
  cases hpc : s.pc t with
  | idle => exact .stay
  | admitLoad units =>
    dsimp only
    cases hnext : admitNext s.admission.queued units s.admission.marks.high with
    | admitted next =>
      apply Move.silent <;> simp [hpc, Pc.Plain, Pc.owed, Pc.Valid, hnext]
    | backpressured => apply Move.silent <;> simp [hpc, Pc.Plain, Pc.owed, Pc.Valid]
  | admitCas units current next =>
    dsimp only
    split_ifs with hsame
    · exact .charge units next (hsame ▸ hpc)
    · apply Move.silent <;> simp [hpc, Pc.Plain, Pc.owed, Pc.Valid]
      exact fun h _ => h
  | admitStore units => exact .press units hpc
  | admitRecheck units =>
    dsimp only
    cases hnext : admitNext s.admission.queued units s.admission.marks.high with
    | admitted next => apply Move.silent <;> simp [hpc, Pc.Plain, Pc.owed, Pc.Valid]
    | backpressured => exact .refuse units hpc hnext
  | releaseLoad units => apply Move.silent <;> simp [hpc, Pc.Plain, Pc.owed, Pc.Valid]
  | releaseCas units current =>
    dsimp only
    by_cases hsame : s.admission.queued = current
    · rw [if_pos hsame]
      subst hsame
      exact .release units hpc
    · rw [if_neg hsame]
      apply Move.silent <;> simp [hpc, Pc.Plain, Pc.owed, Pc.Valid]
  | releaseSwap next => exact .swap next hpc

theorem step_move {ok : ℕ → Prop} {t : ι} (act : Act) {s : State ι}
    (hok : ∀ units, act = .release units → s.pc t = .idle → ok units.toNat) :
    Move ok t s (s.step (t, act)) := by
  cases act with
  | advance => exact advance_move ok t s
  | tryAdmit units =>
    show Move ok t s (if s.pc t = .idle then _ else s)
    split_ifs with hpc h0
    · exact .admitNothing hpc
    · apply Move.silent <;> simp [hpc, Pc.Plain, Pc.owed, Pc.Valid]
      exact units.toNat_lt
    · exact .stay
  | release units =>
    show Move ok t s (if s.pc t = .idle then _ else s)
    split_ifs with hpc h0
    · exact .stay
    · have hpos : 0 < units.toNat := by simpa [Nat.pos_iff_ne_zero, ← UInt64.toNat_inj] using h0
      exact .promise units.toNat hpc hpos (hok units rfl hpc)
    · exact .stay

theorem forall_goto {P : Pc → Prop} {t : ι} {pc : Pc} {s : State ι} (h : ∀ t, P (s.pc t))
    (hpc : P pc) (t' : ι) : P ((s.goto t pc).pc t') := by
  by_cases ht : t' = t
  · subst ht
    simpa [goto] using hpc
  · simpa [goto, ht] using h t'

/-- The counter is what was admitted and not released, and releases under way
are covered by it. -/
structure Books [Fintype ι] (marks : AdmissionWatermarks) (s : State ι) : Prop where
  marks_eq : s.admission.marks = marks
  valid : ∀ t, (s.pc t).Valid marks
  owed : releasedUnits s.history + ∑ t, (s.pc t).owed = s.promised
  promised : s.promised ≤ admittedUnits s.history
  balance : s.admission.queued + releasedUnits s.history = admittedUnits s.history
  bound : s.admission.queued ≤ max marks.high (largestAdmitted s.history)
  fits : s.admission.queued < usizeBound

section Books

variable [Fintype ι] {marks : AdmissionWatermarks} {s s' : State ι} {t : ι}

theorem sum_owed_goto (t : ι) (pc : Pc) (s : State ι) :
    ∑ t', ((s.goto t pc).pc t').owed + (s.pc t).owed = ∑ t', (s.pc t').owed + pc.owed := by
  have hupdate : ∀ t', ((s.goto t pc).pc t').owed =
      Function.update (fun t' => (s.pc t').owed) t pc.owed t' := by
    intro t'
    by_cases ht : t' = t
    · subst ht
      simp [goto]
    · simp [goto, ht]
  rw [Finset.sum_congr rfl fun t' _ => hupdate t', Finset.sum_update_of_mem (Finset.mem_univ t),
    ← Finset.sum_sdiff (Finset.subset_univ {t}), Finset.sum_singleton]
  omega

omit [DecidableEq ι] in
theorem Books.owed_le (h : Books marks s) (t : ι) :
    releasedUnits s.history + (s.pc t).owed ≤ s.promised := by
  have hle := Finset.single_le_sum_of_canonicallyOrdered (f := fun t' => (s.pc t').owed)
    (Finset.mem_univ t)
  have howed := h.owed
  omega

theorem Books.record (h : Books marks s) (t : ι) {pc : Pc} {e : Event ι} {queued : ℕ}
    (pressured : Bool) (hvalid : pc.Valid marks)
    (howed : e.releasedUnits + pc.owed = (s.pc t).owed)
    (hbalance : queued + e.releasedUnits = s.admission.queued + e.admittedUnits)
    (hbound : queued ≤ max marks.high (max (largestAdmitted s.history) e.admittedUnits))
    (hfits : queued < usizeBound) :
    Books marks { s.goto t pc with
      admission := { s.admission with queued, pressured }
      history := s.history ++ [e] } := by
  have hsum := sum_owed_goto t pc s
  have hold := h.owed
  have hpromised := h.promised
  have hbooks := h.balance
  constructor
  · exact h.marks_eq
  · exact forall_goto h.valid hvalid
  · show releasedUnits (s.history ++ [e]) + ∑ t', ((s.goto t pc).pc t').owed = s.promised
    rw [releasedUnits_append, releasedUnits_singleton]
    omega
  · show s.promised ≤ admittedUnits (s.history ++ [e])
    rw [admittedUnits_append, admittedUnits_singleton]
    omega
  · show queued + releasedUnits (s.history ++ [e]) = admittedUnits (s.history ++ [e])
    rw [releasedUnits_append, admittedUnits_append, releasedUnits_singleton,
      admittedUnits_singleton]
    omega
  · show queued ≤ max marks.high (largestAdmitted (s.history ++ [e]))
    rwa [largestAdmitted_concat]
  · exact hfits

theorem Books.move (h : Books marks s)
    (hmove : Move (fun units => s.promised + units ≤ admittedUnits s.history) t s s') :
    Books marks s' := by
  have hmarks := h.marks_eq
  have hvalid := h.valid t
  have hidle : Pc.Valid marks .idle := trivial
  have hbound : s.admission.queued ≤ max marks.high (max (largestAdmitted s.history) 0) := by
    simpa using h.bound
  cases hmove with
  | stay => exact h
  | silent pc _ _ howed hpc =>
    have hsum := sum_owed_goto t pc s
    have hold := h.owed
    refine ⟨hmarks, forall_goto h.valid (hmarks ▸ hpc (hmarks ▸ hvalid)), ?_, h.promised,
      h.balance, h.bound, h.fits⟩
    show releasedUnits s.history + ∑ t', ((s.goto t pc).pc t').owed = s.promised
    omega
  | admitNothing hpc =>
    have hrecord := h.record t s.admission.pressured (e := .admitted t 0) hidle
      (by rw [hpc]; rfl) rfl hbound h.fits
    have hgoto : s.goto t .idle = s := by rw [goto, ← hpc, Function.update_eq_self]
    rwa [hgoto] at hrecord
  | promise units hpc hpos hpromised =>
    have hsum := sum_owed_goto t (.releaseLoad units) s
    have hold := h.owed
    have h0 : (s.pc t).owed = 0 := by rw [hpc]; rfl
    refine ⟨hmarks, forall_goto h.valid hpos, ?_, hpromised, h.balance, h.bound, h.fits⟩
    show releasedUnits s.history + ∑ t', ((s.goto t (.releaseLoad units)).pc t').owed =
      s.promised + units
    change _ = _ + units at hsum
    omega
  | charge units next hpc =>
    rw [hpc] at hvalid
    obtain ⟨rfl, hnext⟩ := admitNext_eq_admitted hvalid.2
    have hfits := h.fits
    apply h.record t s.admission.pressured hidle (by rw [hpc]; rfl) rfl
    · show s.admission.queued + units ≤ max marks.high (max (largestAdmitted s.history) units)
      omega
    · omega
  | press units hpc =>
    rw [hpc] at hvalid
    exact h.record t true hvalid (by rw [hpc]; rfl) rfl hbound h.fits
  | refuse units hpc _ =>
    exact h.record t s.admission.pressured hidle (by rw [hpc]; rfl) rfl hbound h.fits
  | release units hpc =>
    -- the units are still owed, so the counter holds them
    have howed := h.owed_le t
    have hpromised := h.promised
    have hbalance := h.balance
    have hfits := h.fits
    have hbound := h.bound
    have hunits : (s.pc t).owed = units := by rw [hpc]; rfl
    rw [hunits] at howed
    apply h.record t s.admission.pressured
    · rw [hmarks]
      split_ifs with hlow
      · exact hlow
      · trivial
    · rw [hunits]
      split_ifs <;> rfl
    · show releaseNext s.admission.queued units + units = s.admission.queued + 0
      unfold releaseNext
      omega
    · show releaseNext s.admission.queued units ≤ max marks.high (max (largestAdmitted s.history) 0)
      unfold releaseNext
      omega
    · unfold releaseNext
      omega
  | swap next hpc =>
    exact h.record t false hidle (by rw [hpc]; rfl) rfl hbound h.fits

end Books

/-- The flag is what the history makes it, a thread about to recheck raised it
last, and a release that emptied the window has swapped it or will do so next. -/
structure Story (s : State ι) : Prop where
  flag : s.admission.pressured = flagAfter s.history
  wellFormed : WellFormed s.history
  armed : ∀ t units, s.pc t = .admitRecheck units → PressedBy t s.history
  due : ∀ a t units c, s.history = a ++ .released t units :: c →
    admittedUnits a = releasedUnits a + units →
    (∃ b, .swapped t b ∈ c) ∨ ∃ n, s.pc t = .releaseSwap n

section Story

variable {marks : AdmissionWatermarks} {s s' : State ι} {t : ι}

/-- A thread moves on and something is recorded. -/
theorem Story.record (h : Story s) (pc : Pc) (e : Event ι) (queued : ℕ) (pressured : Bool)
    (hthread : e.thread = t) (hflag : pressured = e.flag s.admission.pressured)
    (hwf : WellFormed (s.history ++ [e]))
    (harmed : ∀ units, pc = .admitRecheck units → e = .pressed t)
    (hswap : ∀ n, s.pc t = .releaseSwap n → ∃ b, e = .swapped t b)
    (hdue : ∀ units, e = .released t units →
      admittedUnits s.history = releasedUnits s.history + units → ∃ n, pc = .releaseSwap n) :
    Story { s.goto t pc with
      admission := { s.admission with queued, pressured }
      history := s.history ++ [e] } := by
  constructor
  · show pressured = flagAfter (s.history ++ [e])
    rw [flagAfter_concat, ← h.flag]
    exact hflag
  · exact hwf
  · intro t' units hpc
    by_cases ht : t' = t
    · subst ht
      have hpc : pc = .admitRecheck units := by simpa [goto] using hpc
      rw [harmed units hpc]
      exact ⟨s.history, [], rfl, by simp⟩
    · have hpc : s.pc t' = .admitRecheck units := by simpa [goto, ht] using hpc
      apply (h.armed t' units hpc).concat
      rw [hthread]
      exact Ne.symm ht
  · intro a t' units c heq hlast
    obtain ⟨rfl, rfl, rfl⟩ | ⟨c', rfl, hold⟩ := concat_eq_append_cons heq
    · right
      obtain rfl : t' = t := hthread
      simpa [goto] using hdue units rfl hlast
    · obtain ⟨b, hb⟩ | ⟨n, hn⟩ := h.due a t' units c' hold hlast
      · exact .inl ⟨b, List.mem_append_left _ hb⟩
      · by_cases ht : t' = t
        · subst ht
          obtain ⟨b, rfl⟩ := hswap n hn
          exact .inl ⟨b, by simp⟩
        · right
          exact ⟨n, by simpa [goto, ht] using hn⟩

theorem Story.silent (h : Story s) {pc : Pc} (hpc : pc.Plain)
    (hswap : ∀ n, s.pc t ≠ .releaseSwap n) : Story (s.goto t pc) := by
  constructor
  · exact h.flag
  · exact h.wellFormed
  · intro t' units hpc'
    by_cases ht : t' = t
    · subst ht
      have heq : pc = .admitRecheck units := by simpa [goto] using hpc'
      rw [heq] at hpc
      cases hpc
    · exact h.armed t' units (by simpa [goto, ht] using hpc')
  · intro a t' units c heq hlast
    obtain hb | ⟨n, hn⟩ := h.due a t' units c heq hlast
    · exact .inl hb
    · have ht : t' ≠ t := by
        rintro rfl
        exact hswap n hn
      exact .inr ⟨n, by simpa [goto, ht] using hn⟩

theorem Story.move [Fintype ι] (h : Story s) (hbooks : Books marks s)
    (hmove : Move (fun units => s.promised + units ≤ admittedUnits s.history) t s s') :
    Story s' := by
  have hcovered := (hbooks.move hmove).balance
  cases hmove with
  | stay => exact h
  | silent pc hswap hplain _ _ => exact h.silent hplain hswap
  | promise units hpc _ _ =>
    have hsilent := h.silent (t := t) (show (Pc.releaseLoad units).Plain from trivial)
      (by simp [hpc])
    exact ⟨hsilent.flag, hsilent.wellFormed, hsilent.armed, hsilent.due⟩
  | admitNothing hpc =>
    have hgoto : s.goto t .idle = s := by rw [goto, ← hpc, Function.update_eq_self]
    have hwf : WellFormed (s.history ++ [.admitted t 0]) := by
      apply h.wellFormed.concat (Nat.le.intro ((Nat.add_comm _ _).trans hcovered)) <;> simp
    have hrecord := h.record (t := t) .idle _ s.admission.queued _ rfl rfl hwf (by simp)
      (by simp [hpc])
      (by simp)
    rwa [hgoto] at hrecord
  | charge units next hpc =>
    apply h.record (t := t) .idle (.admitted t units) next s.admission.pressured rfl rfl
    · apply h.wellFormed.concat (Nat.le.intro ((Nat.add_comm _ _).trans hcovered)) <;> simp
    · simp
    · simp [hpc]
    · simp
  | press units hpc =>
    apply h.record (t := t) (.admitRecheck units) (.pressed t) s.admission.queued true rfl rfl
    · apply h.wellFormed.concat (Nat.le.intro ((Nat.add_comm _ _).trans hcovered)) <;> simp
    · simp
    · simp [hpc]
    · simp
  | refuse units hpc hnext =>
    have hvalid := hbooks.valid t
    rw [hpc] at hvalid
    have hpos : 0 < s.admission.queued := pos_of_backpressured hvalid hnext
    have hbalance := hbooks.balance
    apply h.record (t := t) .idle (.refused t units) s.admission.queued
      s.admission.pressured rfl rfl
    · apply h.wellFormed.concat (Nat.le.intro ((Nat.add_comm _ _).trans hcovered))
      · simp
      · intro t' units' heq
        cases heq
        exact ⟨h.armed t units hpc, by omega⟩
    · simp
    · simp [hpc]
    · simp
  | release units hpc =>
    apply h.record (t := t) _ (.released t units) (releaseNext s.admission.queued units)
      s.admission.pressured rfl rfl
    · apply h.wellFormed.concat (Nat.le.intro ((Nat.add_comm _ _).trans hcovered)) <;> simp
    · intro units' heq
      split_ifs at heq
    · simp [hpc]
    · intro units' heq hlast
      cases heq
      have hbalance := hbooks.balance
      have hempty : releaseNext s.admission.queued units ≤ s.admission.marks.low := by
        unfold releaseNext
        omega
      exact ⟨_, if_pos hempty⟩
  | swap next hpc =>
    have hvalid := hbooks.valid t
    rw [hpc, ← hbooks.marks_eq] at hvalid
    have hlow : next ≤ s.admission.marks.low := hvalid
    apply h.record (t := t) .idle (.swapped t _) s.admission.queued false rfl rfl
    · apply h.wellFormed.concat (Nat.le.intro ((Nat.add_comm _ _).trans hcovered))
      · intro t' b heq
        cases heq
        simp [releaseEmitsWriteReady, hlow, h.flag]
      · simp
    · simp
    · intro n _
      exact ⟨_, rfl⟩
    · simp

end Story

theorem reach_books_story [Fintype ι] (marks : AdmissionWatermarks) {s : State ι}
    (h : Runs.Reach step Preceded (init ι marks) s) : Books marks s ∧ Story s := by
  apply h.invariant
  · constructor
    · refine ⟨rfl, fun t => trivial, ?_, le_refl 0, rfl, Nat.zero_le _, by simp [init, usizeBound]⟩
      simp [init, Pc.owed, releasedUnits]
    · refine ⟨rfl, .nil, ?_, ?_⟩
      · simp [init]
      · simp [init]
  · rintro ⟨t, act⟩ s ⟨hbooks, hstory⟩ hok
    have hmove : Move (fun units => s.promised + units ≤ admittedUnits s.history) t s
        (s.step (t, act)) := by
      apply step_move
      rintro units rfl hpc
      exact hok hpc
    exact ⟨hbooks.move hmove, hstory.move hbooks hmove⟩

/-- Every release has returned that would still swap the flag. -/
def Settled (s : State ι) : Prop := ∀ t, (s.pc t).swapping = false

/-- The counter is exact and bounded in every state. A refusal comes after its
thread raised the flag, and once everything admitted is released, a release that
swapped the flag since then has asked for a wake-up. -/
theorem counter_exact_and_refusals_woken [Fintype ι] (marks : AdmissionWatermarks) {s : State ι}
    (h : Runs.Reach step Preceded (init ι marks) s) :
    (s.admission.queued + releasedUnits s.history = admittedUnits s.history ∧
        s.admission.queued ≤ max marks.high (largestAdmitted s.history) ∧
        s.admission.queued < usizeBound) ∧
      ∀ before t units after, s.history = before ++ .refused t units :: after →
        ∃ earlier between, before = earlier ++ .pressed t :: between ∧
          (∀ e ∈ between, e.thread ≠ t) ∧
          (releasedUnits s.history = admittedUnits s.history → s.Settled →
            ∃ t', .swapped t' true ∈ between ++ .refused t units :: after) := by
  obtain ⟨hbooks, hstory⟩ := reach_books_story marks h
  refine ⟨⟨hbooks.balance, hbooks.bound, hbooks.fits⟩, ?_⟩
  intro before t units after heq
  have hwf := hstory.wellFormed
  rw [heq] at hwf
  obtain ⟨earlier, between, rfl, hbetween⟩ := hwf.pressed before t units after rfl
  refine ⟨earlier, between, rfl, hbetween, ?_⟩
  intro hall hsettled
  have hloaded := hwf.loaded _ t units after rfl
  rw [heq] at hall
  -- the release that emptied the window is followed by its swap
  obtain ⟨c₁, t', units', c₂, hsplit, hlast⟩ := hwf.exists_last_release hloaded hall
  have hhistory : s.history =
      (earlier ++ .pressed t :: between ++ c₁) ++ .released t' units' :: c₂ := by
    rw [heq, hsplit]
    simp
  obtain ⟨b, hb⟩ | ⟨n, hn⟩ := hstory.due _ t' units' c₂ hhistory hlast
  · -- the first swap since the store finds the flag raised
    have hassoc : earlier ++ .pressed t :: between ++ .refused t units :: after =
        (earlier ++ [.pressed t]) ++ (between ++ .refused t units :: after) := by simp
    rw [hassoc] at hwf
    apply hwf.exists_wake (t := t') (b := b)
    · simp [Event.flag]
    · rw [hsplit]
      simp [hb]
  · have hswapping := hsettled t'
    rw [hn] at hswapping
    cases hswapping

/-- A window of ten units with low mark four: the second thread is refused, and
the release of the first asks for its wake-up. -/
def refusedAndWoken : State (Fin 2) :=
  Runs.run step [(0, .tryAdmit 10), (0, .advance), (0, .advance), (1, .tryAdmit 1), (1, .advance),
    (0, .release 10), (1, .advance), (0, .advance), (1, .advance), (0, .advance), (0, .advance)]
    (init (Fin 2) (AdmissionWatermarks.new 10 4))

theorem counter_exact_and_refusals_woken_refusedAndWoken :
    refusedAndWoken.admission.queued + 10 = 10 ∧
      ∃ t', Event.swapped t' true ∈ refusedAndWoken.history := by
  have hreach : Runs.Reach step Preceded (init (Fin 2) (AdmissionWatermarks.new 10 4))
      refusedAndWoken := Runs.Reach.start.run (by decide +kernel)
  have hhistory : refusedAndWoken.history = [.admitted 0 10, .pressed 1] ++
      .refused 1 1 :: [.released 0 10, .swapped 0 true] := by decide +kernel
  have hsettled : ∀ t, (refusedAndWoken.pc t).swapping = false := by decide +kernel
  obtain ⟨⟨hexact, -⟩, hwoken⟩ := counter_exact_and_refusals_woken _ hreach
  obtain ⟨earlier, between, hbefore, -, hwake⟩ := hwoken _ _ _ _ hhistory
  obtain ⟨t', ht'⟩ := hwake (by decide +kernel) hsettled
  constructor
  · simpa [hhistory, admittedUnits, releasedUnits, Event.admittedUnits, Event.releasedUnits]
      using hexact
  · refine ⟨t', ?_⟩
    rw [hhistory, hbefore]
    simpa using Or.inr ht'

section Order

variable {marks : AdmissionWatermarks} {s : State ι}

/-- The call that a step begins. -/
def begins (input : ι × Act) (s : State ι) : List Call :=
  if s.pc input.1 = .idle then
    match input.2 with
    | .tryAdmit units => [.tryAdmit units.toNat]
    | .release units => [.release units.toNat]
    | .advance => []
  else []

/-- The call that takes effect with a step: the one under way or begun, where none
is under way after the step. -/
def takes (input : ι × Act) (s : State ι) : List Call :=
  match ((s.step input).pc input.1).underWay with
  | none => (s.pc input.1).underWay.toList ++ begins input s
  | some _ => []

/-- The calls that thread `t` begins in a run. -/
def begun (t : ι) : List (ι × Act) → State ι → List Call
  | [], _ => []
  | input :: inputs, s =>
    (if input.1 = t then begins input s else []) ++ begun t inputs (s.step input)

/-- The calls of a run in the order in which they take effect. -/
def order : List (ι × Act) → State ι → List (ι × Call)
  | [], _ => []
  | input :: inputs, s => (takes input s).map (input.1, ·) ++ order inputs (s.step input)

theorem order_append (before after : List (ι × Act)) (s : State ι) :
    order (before ++ after) s = order before s ++ order after (Runs.run step before s) := by
  induction before generalizing s with
  | nil => rfl
  | cons input before ih => simp [order, Runs.run, ih]

/-- What a thread about to swap its counter in has read, is what it will write. -/
structure Held (marks : AdmissionWatermarks) (s : State ι) : Prop where
  marks_eq : s.admission.marks = marks
  valid : ∀ t, (s.pc t).Valid marks

theorem Held.step (h : Held marks s) (input : ι × Act) : Held marks (s.step input) := by
  have hmove : Move (fun _ => True) input.1 s (s.step input) := step_move input.2 (by simp)
  obtain ⟨rfl, hvalid⟩ := h
  generalize s.step input = s' at hmove
  cases hmove with
  | stay | admitNothing => exact ⟨rfl, hvalid⟩
  | silent pc _ _ _ hpc => exact ⟨rfl, forall_goto hvalid (hpc (hvalid _))⟩
  | promise units _ hpos => exact ⟨rfl, forall_goto (P := Pc.Valid s.admission.marks) hvalid hpos⟩
  | charge | refuse | swap =>
    exact ⟨rfl, forall_goto (P := Pc.Valid s.admission.marks) hvalid trivial⟩
  | press units hpc =>
    have hunits := hvalid input.1
    rw [hpc] at hunits
    exact ⟨rfl, forall_goto (P := Pc.Valid s.admission.marks) hvalid hunits⟩
  | release units hpc =>
    refine ⟨rfl, forall_goto (P := Pc.Valid s.admission.marks) hvalid ?_⟩
    split_ifs with hlow
    · exact hlow
    · trivial

theorem step_pc_of_ne (input : ι × Act) (s : State ι) {t : ι} (ht : t ≠ input.1) :
    (s.step input).pc t = s.pc t := by
  have hmove : Move (fun _ => True) input.1 s (s.step input) := step_move input.2 (by simp)
  generalize s.step input = s' at hmove
  cases hmove <;> simp [goto, log, setQueued, setPressured, ht]

/-- After a step the counter and what is seen are those of the calls that took effect, made by
themselves, and the others are under way. -/
structure Serves (input : ι × Act) (s : State ι) (a : OutboundAdmission) : Prop where
  calls : (s.pc input.1).underWay.toList ++ begins input s =
    takes input s ++ ((s.step input).pc input.1).underWay.toList
  queued : (Call.serveAll ((takes input s).map (input.1, ·)) a).queued =
    (s.step input).admission.queued
  seen : (s.step input).history.filter Event.counts =
    s.history.filter Event.counts ++ Call.seenInTurn ((takes input s).map (input.1, ·)) a

variable {a : OutboundAdmission}

theorem Serves.of_none {input : ι × Act}
    (hcalls : (s.pc input.1).underWay.toList ++ begins input s =
      ((s.step input).pc input.1).underWay.toList)
    (hqueued : a.queued = (s.step input).admission.queued)
    (hseen : (s.step input).history.filter Event.counts = s.history.filter Event.counts) :
    Serves input s a := by
  have htakes : takes input s = [] := by
    unfold takes
    split
    next hnone => simpa [hnone] using hcalls
    next => rfl
  constructor <;> simp_all [Call.serveAll, Runs.run, Call.seenInTurn]

theorem Serves.of_call {input : ι × Act} (call : Call)
    (hcall : (s.pc input.1).underWay.toList ++ begins input s = [call])
    (hdone : ((s.step input).pc input.1).underWay = none)
    (hqueued : (call.serve a).queued = (s.step input).admission.queued)
    (hseen : (s.step input).history.filter Event.counts =
      s.history.filter Event.counts ++ call.seen input.1 a) :
    Serves input s a := by
  have htakes : takes input s = [call] := by simp [takes, hdone, hcall]
  constructor <;> simp_all [Call.serveAll, Runs.run, Call.seenInTurn]

theorem Held.serves (h : Held marks s) (input : ι × Act) (hmarks : a.marks = marks)
    (hqueued : a.queued = s.admission.queued) :
    Serves input s a := by
  obtain ⟨t, act⟩ := input
  have hvalid := h.valid t
  rw [← hmarks] at hvalid
  have hmarks : s.admission.marks = a.marks := h.marks_eq.trans hmarks.symm
  cases act with
  | tryAdmit units =>
    by_cases hpc : s.pc t = .idle
    · by_cases h0 : units = 0
      · apply Serves.of_call (.tryAdmit 0) <;>
          simp [begins, State.step, hpc, h0, log, Pc.underWay, Call.serve, Call.seen, Event.counts,
            OutboundAdmission.tryAdmit, hqueued]
      · apply Serves.of_none <;> simp [begins, State.step, hpc, h0, goto, Pc.underWay, hqueued]
    · apply Serves.of_none <;> simp [begins, State.step, hpc, hqueued]
  | release units =>
    by_cases hpc : s.pc t = .idle
    · by_cases h0 : units = 0
      · apply Serves.of_call (.release 0) <;>
          simp [begins, State.step, hpc, h0, Pc.underWay, Call.serve, Call.seen, hqueued]
      · apply Serves.of_none <;> simp [begins, State.step, hpc, h0, goto, Pc.underWay, hqueued]
    · apply Serves.of_none <;> simp [begins, State.step, hpc, hqueued]
  | advance =>
    cases hpc : s.pc t with
    | admitLoad units =>
      cases hnext : admitNext s.admission.queued units s.admission.marks.high <;>
        apply Serves.of_none <;>
        simp [begins, State.step, advance, hpc, hqueued, hnext, goto, Pc.underWay]
    | admitCas units current next =>
      by_cases hsame : s.admission.queued = current
      · rw [hpc, ← hsame, ← hqueued] at hvalid
        have hadmits := OutboundAdmission.tryAdmit_of_admitted hvalid.2
        apply Serves.of_call (.tryAdmit units) <;>
          simp [begins, State.step, hpc, hsame, advance, log, goto, setQueued, Pc.underWay,
            Call.serve, Call.seen, Event.counts, hadmits]
      · apply Serves.of_none <;>
          simp [begins, State.step, advance, hpc, hqueued, hsame, goto, Pc.underWay]
    | admitRecheck units =>
      cases hnext : admitNext s.admission.queued units s.admission.marks.high with
      | admitted next =>
        apply Serves.of_none <;>
          simp [begins, State.step, advance, hpc, hqueued, hnext, goto, Pc.underWay]
      | backpressured =>
        have hrefuses := OutboundAdmission.tryAdmit_of_backpressured (hmarks ▸ hqueued ▸ hnext)
        apply Serves.of_call (.tryAdmit units) <;>
          simp [begins, State.step, hpc, advance, log, goto, Pc.underWay, Call.serve, Call.seen,
            Event.counts, hqueued, hnext, hrefuses]
    | releaseCas units current =>
      by_cases hsame : s.admission.queued = current
      · rw [hpc] at hvalid
        have hpos : 0 < units := hvalid
        apply Serves.of_call (.release units)
        · simp [begins, hpc, Pc.underWay]
        · simp only [State.step, advance, hpc, hsame, if_true, log, setQueued, goto,
            Function.update_self]
          split_ifs <;> rfl
        · simp [State.step, hpc, hsame, advance, log, setQueued, Call.serve, hqueued, releaseNext]
        · simp [State.step, hpc, hsame, advance, log, goto, setQueued, Call.seen, Event.counts,
            hpos.ne']
      · apply Serves.of_none <;>
          simp [begins, State.step, advance, hpc, hqueued, hsame, goto, Pc.underWay]
    | idle | admitStore | releaseLoad | releaseSwap =>
      apply Serves.of_none <;>
        simp [begins, State.step, advance, hpc, hqueued, goto, Pc.underWay, log, setPressured,
          Event.counts]

/-- A run of all threads has the counter and the answers of the calls made one after the other in
the order in which they take effect. -/
theorem run_serves (h : Held marks s) (inputs : List (ι × Act)) (hmarks : a.marks = marks)
    (hqueued : a.queued = s.admission.queued) :
    (∀ t, (s.pc t).underWay.toList ++ begun t inputs s =
        ((order inputs s).filter (·.1 = t)).map (·.2) ++
          ((Runs.run step inputs s).pc t).underWay.toList) ∧
      (Call.serveAll (order inputs s) a).queued = (Runs.run step inputs s).admission.queued ∧
      (Runs.run step inputs s).history.filter Event.counts =
        s.history.filter Event.counts ++ Call.seenInTurn (order inputs s) a := by
  induction inputs generalizing s a with
  | nil => simp [begun, order, Runs.run, Call.serveAll, Call.seenInTurn, hqueued]
  | cons input inputs ih =>
    obtain ⟨hcalls, hserved, hseen⟩ := h.serves input hmarks hqueued
    obtain ⟨ihcalls, ihserved, ihseen⟩ :=
      ih (h.step input) ((Call.serveAll_marks _ a).trans hmarks) hserved
    refine ⟨?_, ?_, ?_⟩
    · intro t
      rw [begun, order, List.filter_append, List.map_append, List.append_assoc]
      rw [Runs.run, ← ihcalls t, ← List.append_assoc, ← List.append_assoc]
      congr 1
      by_cases ht : input.1 = t
      · subst ht
        simp [hcalls, List.filter_map, Function.comp_def]
      · simp [ht, step_pc_of_ne input s (Ne.symm ht)]
    · rw [order, Call.serveAll, Runs.run_append]
      exact ihserved
    · rw [Runs.run, ihseen, hseen, order, Call.seenInTurn_append, List.append_assoc]

/-- The counter is linearizable: whatever the threads are in the middle of, it and every answer
of `try_admit` are those of the calls made one after the other, each between its begin and its
return. Of each thread these are the calls it has begun, in its order, but for one under way. -/
theorem calls_linearizable (marks : AdmissionWatermarks) (inputs : List (ι × Act)) :
    let start := init ι marks
    let s := Runs.run step inputs start
    let calls := order inputs start
    (∀ t, begun t inputs start =
        (calls.filter (·.1 = t)).map (·.2) ++ (s.pc t).underWay.toList) ∧
      (Call.serveAll calls start.admission).queued = s.admission.queued ∧
      s.history.filter Event.counts = Call.seenInTurn calls start.admission ∧
      ∀ before after, inputs = before ++ after → order before start <+: calls := by
  have hheld : Held marks (init ι marks) := ⟨rfl, fun _ => trivial⟩
  obtain ⟨hcalls, hqueued, hseen⟩ := run_serves hheld inputs rfl rfl
  refine ⟨hcalls, hqueued, hseen, ?_⟩
  rintro before after rfl
  rw [order_append]
  exact List.prefix_append _ _

/-- The second thread takes the window while the first is about to swap its counter in, the
first is refused, and the second is in the middle of its release. -/
def overtaken : List (Fin 2 × Act) :=
  [(0, .tryAdmit 4), (0, .advance), (1, .tryAdmit 8), (1, .advance), (1, .advance),
    (0, .advance), (0, .advance), (0, .advance), (0, .advance), (1, .release 0),
    (1, .release 8), (1, .advance)]

theorem calls_linearizable_overtaken :
    let start := init (Fin 2) (AdmissionWatermarks.new 10 4)
    order overtaken start = [(1, .tryAdmit 8), (0, .tryAdmit 4), (1, .release 0)] ∧
      begun 1 overtaken start = [.tryAdmit 8, .release 0, .release 8] ∧
      (Runs.run step overtaken start).admission.queued = 8 := by
  intro start
  have horder : order overtaken start = [(1, .tryAdmit 8), (0, .tryAdmit 4), (1, .release 0)] := by
    decide +kernel
  obtain ⟨hbegun, hqueued, -⟩ := calls_linearizable (AdmissionWatermarks.new 10 4) overtaken
  refine ⟨horder, ?_, ?_⟩
  · rw [hbegun 1, horder]
    decide +kernel
  · rw [← hqueued, horder]
    decide +kernel

end Order
end State

end AdmissionThreads

end Http3
