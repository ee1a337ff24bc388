import Mathlib.Data.List.Basic

/-! Logs in which every key goes through sessions, one after the other: an event
that opens the session, events in the middle of it, an event that closes it. -/

universe u v

namespace SessionLog

inductive Kind
  | opens
  | talks
  | closes
  deriving DecidableEq, Repr

/-- Where a key stands after a log. A key that ever spoke out of turn is broken. -/
inductive Phase
  | idle
  | opened
  | broken
  deriving DecidableEq, Repr

def Phase.next : Phase → Kind → Phase
  | .idle, .opens => .opened
  | .opened, .talks => .opened
  | .opened, .closes => .idle
  | _, _ => .broken

variable {κ : Type u} {ε : Type v} [DecidableEq κ]

section Definitions

-- `view` reads the key and the kind of an event; other events do not count
variable (view : ε → Option (κ × Kind)) (k : κ)

def Phase.after (p : Phase) (e : ε) : Phase :=
  match view e with
  | none => p
  | some (k', kind) => if k' = k then p.next kind else p

def phaseFrom (p : Phase) (log : List ε) : Phase := log.foldl (Phase.after view k) p

def phase (log : List ε) : Phase := phaseFrom view k .idle log

end Definitions

variable {view : ε → Option (κ × Kind)} {k : κ} {p : Phase} {e : ε} {log rest : List ε}

theorem phase_append : phase view k (log ++ rest) = phaseFrom view k (phase view k log) rest :=
  List.foldl_append

theorem phase_concat : phase view k (log ++ [e]) = (phase view k log).after view k e :=
  List.foldl_concat ..

theorem after_of_view {kind : Kind} (h : view e = some (k, kind)) :
    p.after view k e = p.next kind := by
  unfold Phase.after
  rw [h]
  exact if_pos rfl

theorem after_of_other (h : ∀ kind, view e ≠ some (k, kind)) : p.after view k e = p := by
  unfold Phase.after
  split
  · rfl
  · next k' kind hview =>
    refine if_neg ?_
    intro hk
    exact h kind (hk ▸ hview)

theorem phaseFrom_of_talks
    (h : ∀ e ∈ rest, ∀ kind, view e = some (k, kind) → kind = .talks ∧ p = .opened) :
    phaseFrom view k p rest = p := by
  induction rest with
  | nil => rfl
  | cons e rest ih =>
    have hafter : p.after view k e = p := by
      by_cases hk : ∃ kind, view e = some (k, kind)
      · obtain ⟨kind, hview⟩ := hk
        obtain ⟨rfl, rfl⟩ := h e (by simp) kind hview
        exact after_of_view hview
      · exact after_of_other fun kind hview => hk ⟨kind, hview⟩
    show phaseFrom view k (p.after view k e) rest = p
    rw [hafter]
    exact ih fun e' he' => h e' (by simp [he'])

theorem phaseFrom_broken : phaseFrom view k .broken log = .broken := by
  induction log with
  | nil => rfl
  | cons e log ih =>
    have hafter : Phase.after view k .broken e = .broken := by
      unfold Phase.after
      split
      · rfl
      · split_ifs <;> rfl
    show phaseFrom view k (Phase.after view k .broken e) log = .broken
    rw [hafter]
    exact ih

theorem phase_ne_broken_of_append (h : phase view k (log ++ rest) ≠ .broken) :
    phase view k log ≠ .broken := by
  intro hbroken
  apply h
  rw [phase_append, hbroken]
  exact phaseFrom_broken

theorem phaseFrom_filter {keep : ε → Bool}
    (hkeep : ∀ e ∈ log, keep e = false → ∀ k kind, view e = some (k, kind) → kind = .talks)
    (h : phaseFrom view k p log ≠ .broken) :
    phaseFrom view k p (log.filter keep) = phaseFrom view k p log := by
  induction log generalizing p with
  | nil => rfl
  | cons e log ih =>
    have htail : ∀ e' ∈ log, keep e' = false → ∀ k kind, view e' = some (k, kind) →
        kind = .talks := fun e' he' => hkeep e' (by simp [he'])
    have hstep : phaseFrom view k (p.after view k e) log ≠ .broken := h
    cases hk : keep e with
    | true =>
      rw [List.filter_cons_of_pos hk]
      exact ih htail hstep
    | false =>
      have hsame : p.after view k e = p := by
        by_cases hview : ∃ kind, view e = some (k, kind)
        · obtain ⟨kind, hview⟩ := hview
          obtain rfl := hkeep e (by simp) hk k kind hview
          rw [after_of_view hview] at hstep ⊢
          -- only an open session survives an event in the middle
          cases p with
          | opened => rfl
          | idle => exact absurd phaseFrom_broken hstep
          | broken => exact absurd phaseFrom_broken hstep
        · exact after_of_other fun kind hkind => hview ⟨kind, hkind⟩
      rw [List.filter_cons_of_neg (by simp [hk])]
      rw [hsame] at hstep
      show _ = phaseFrom view k (p.after view k e) log
      rw [hsame]
      exact ih htail hstep

end SessionLog
