import Http3.EventLoop
import Http3.Lib.Packing
import Http3.Lib.Runs

/-! The batches a batcher hands to its sink. Event groups are packed into them whole. -/

namespace Http3

namespace EventBatcher

/-- Let a closure fill a group of its own and append that. -/
def collectAtomic (sinkOk : Bool) (collect : List Emitted → List Emitted) (b : EventBatcher) :
    Bool × EventBatcher :=
  b.appendAtomic sinkOk (collect [])

end EventBatcher

inductive BatchCall
  | appendAtomic (events : List Emitted)
  | collectAtomic (collect : List Emitted → List Emitted)
  | flush

def BatchCall.group : BatchCall → Option (List Emitted)
  | .appendAtomic events => some events
  | .collectAtomic collect => some (collect [])
  | .flush => none

/-- A batcher whose sink keeps accepting, with all groups that were appended to it and the
batches the sink has received. -/
structure BatchedSink where
  batcher : EventBatcher
  appended : List (List Emitted)
  batches : List (List Emitted)

namespace BatchedSink

def init : BatchedSink := ⟨⟨[], []⟩, [], []⟩

/-- What the sink receives in one call, which hands over one batch at most. -/
def record (group : Option (List Emitted)) (b : EventBatcher) (s : BatchedSink) : BatchedSink :=
  let batch := b.handed.drop s.batcher.handed.length
  { batcher := b
    appended := s.appended ++ group.toList
    batches := if batch.isEmpty then s.batches else s.batches ++ [batch] }

def step (call : BatchCall) (s : BatchedSink) : BatchedSink :=
  match call with
  | .appendAtomic events => s.record call.group (s.batcher.appendAtomic true events).2
  | .collectAtomic collect => s.record call.group (s.batcher.collectAtomic true collect).2
  | .flush => s.record call.group (s.batcher.flush true).2

/-- The batches are the parts of a packing of the groups. -/
structure Packs (s : BatchedSink) (p : Packing Emitted maxBatchSize) : Prop where
  batches : p.shut.map List.flatten = s.batches
  batch : p.current.flatten = s.batcher.batch
  groups : p.groups = s.appended.filter (!·.isEmpty)

variable {s : BatchedSink} {p : Packing Emitted maxBatchSize}

theorem record_kept (group : Option (List Emitted)) {b : EventBatcher}
    (hhanded : b.handed = s.batcher.handed) :
    s.record group b = ⟨b, s.appended ++ group.toList, s.batches⟩ := by
  simp [record, hhanded]

theorem record_handed (group : Option (List Emitted)) {b : EventBatcher}
    (hhanded : b.handed = s.batcher.handed ++ s.batcher.batch) (hne : s.batcher.batch ≠ []) :
    s.record group b = ⟨b, s.appended ++ group.toList, s.batches ++ [s.batcher.batch]⟩ := by
  simp [record, hhanded, hne]

theorem Packs.flush (h : s.Packs p) : ∃ p', (s.record none (s.batcher.flush true).2).Packs p' := by
  unfold EventBatcher.flush
  by_cases hempty : s.batcher.batch = []
  · refine ⟨p, ?_⟩
    rw [if_pos (List.isEmpty_iff.2 hempty), record_kept none rfl]
    constructor
    · exact h.batches
    · exact h.batch
    · simp [h.groups]
  · refine ⟨p.close, ?_⟩
    rw [if_neg (by simpa using hempty), record_handed none rfl hempty]
    constructor
    · simp [Packing.close, h.batches, h.batch]
    · rfl
    · simp [h.groups]

theorem Packs.append (h : s.Packs p) (events : List Emitted) :
    ∃ p', (s.record (some events) (s.batcher.appendAtomic true events).2).Packs p' := by
  unfold EventBatcher.appendAtomic
  by_cases hevents : events = []
  · refine ⟨p, ?_⟩
    rw [if_pos (List.isEmpty_iff.2 hevents), record_kept (some events) rfl]
    constructor
    · exact h.batches
    · exact h.batch
    · simp [h.groups, hevents]
  · rw [if_neg (by simpa using hevents)]
    by_cases hover : s.batcher.batch ≠ [] ∧ maxBatchSize < s.batcher.batch.length + events.length
    · -- the batch goes out first, and the group starts the next one
      obtain ⟨hne, hlt⟩ := hover
      have hflush : s.batcher.flush true = (true, ⟨[], s.batcher.handed ++ s.batcher.batch⟩) :=
        if_neg (by simpa using hne)
      refine ⟨p.close.add events hevents (.inl rfl), ?_⟩
      rw [if_pos (by simp [hne, hlt]), hflush]
      dsimp only
      rw [record_handed (some events) rfl hne]
      constructor
      · simp [Packing.add, Packing.close, h.batches, h.batch]
      · simp [Packing.add, Packing.close]
      · simp [h.groups, hevents]
    · have hfits : p.current = [] ∨ p.current.flatten.length + events.length ≤ maxBatchSize := by
        rw [← p.flatten_current_eq_nil, h.batch]
        by_contra hcontra
        rw [not_or, Nat.not_le] at hcontra
        exact hover hcontra
      refine ⟨p.add events hevents hfits, ?_⟩
      have hkept : (⟨s.batcher.batch ++ events, s.batcher.handed⟩ : EventBatcher).handed
        = s.batcher.handed := rfl
      rw [if_neg (by simpa using hover), record_kept (some events) hkept]
      constructor
      · exact h.batches
      · simp [Packing.add, h.batch]
      · simp [h.groups, hevents]

theorem step_packs (call : BatchCall) (h : s.Packs p) : ∃ p', (step call s).Packs p' := by
  cases call with
  | appendAtomic events => exact h.append events
  | collectAtomic collect => exact h.append (collect [])
  | flush => exact h.flush

theorem run_packs (calls : List BatchCall) (h : s.Packs p) :
    ∃ p', (Runs.run step calls s).Packs p' := by
  induction calls generalizing s p with
  | nil => exact ⟨p, h⟩
  | cons call calls ih =>
    obtain ⟨p', hp'⟩ := step_packs call h
    exact ih hp'

theorem run_appended (calls : List BatchCall) (s : BatchedSink) :
    (Runs.run step calls s).appended = s.appended ++ calls.filterMap BatchCall.group := by
  induction calls generalizing s with
  | nil => exact (List.append_nil _).symm
  | cons call calls ih =>
    have hstep : (step call s).appended = s.appended ++ call.group.toList := by
      cases call <;> rfl
    rw [Runs.run, ih, hstep, List.append_assoc]
    cases hgroup : call.group <;> simp [hgroup]

end BatchedSink

/-- The batches and what is still waiting are the appended groups in order. They divide into
whole groups, and a batch over the cap is a single group. -/
theorem batches_lossless_and_atomic (calls : List BatchCall) :
    let s := Runs.run BatchedSink.step calls .init
    s.appended = calls.filterMap BatchCall.group ∧
    s.batches.flatten ++ s.batcher.batch = s.appended.flatten ∧
    ∃ parts current, parts.map List.flatten = s.batches ∧ current.flatten = s.batcher.batch ∧
      parts.flatten ++ current = s.appended.filter (!·.isEmpty) ∧
      ∀ part ∈ parts ++ [current], maxBatchSize < part.flatten.length →
        ∃ group, part = [group] := by
  intro s
  obtain ⟨p, hp⟩ := BatchedSink.run_packs calls (s := .init) (p := .empty) ⟨rfl, rfl, rfl⟩
  have happended : s.appended = calls.filterMap BatchCall.group :=
    BatchedSink.run_appended calls .init
  have hgroups : p.shut.flatten ++ p.current = s.appended.filter (!·.isEmpty) := hp.groups
  have hlossless : s.batches.flatten ++ s.batcher.batch = s.appended.flatten := by
    calc s.batches.flatten ++ s.batcher.batch
        = (p.shut.flatten ++ p.current).flatten := by
          rw [← hp.batches, ← hp.batch, List.flatten_append, List.flatten_flatten]
      _ = s.appended.flatten := by
          rw [hgroups, List.flatten_filter_not_isEmpty]
  exact ⟨happended, hlossless, p.shut, p.current, hp.batches, hp.batch, hgroups, p.bounded⟩

end Http3
