import Mathlib.Data.Nat.Notation
import Mathlib.Tactic.SplitIfs

/-! Loops whose body tells whether to go on, cut off after a number of turns. -/

universe u

namespace Loop

variable {σ : Type u}

/-- Repeat the body while it asks for it, at most `n` times. -/
def run (body : σ → σ × Bool) : ℕ → σ → σ
  | 0, s => s
  | n + 1, s => if (body s).2 then run body n (body s).1 else (body s).1

/-- `P` holds of every state the body is run in. -/
def Meets (body : σ → σ × Bool) (P : σ → Prop) : ℕ → σ → Prop
  | 0, _ => True
  | n + 1, s => P s ∧ ((body s).2 = true → Meets body P n (body s).1)

instance Meets.decidable {body : σ → σ × Bool} {P : σ → Prop} [DecidablePred P] :
    (n : ℕ) → (s : σ) → Decidable (Meets body P n s)
  | 0, _ => .isTrue trivial
  | n + 1, s =>
    have : Decidable (Meets body P n (body s).1) := Meets.decidable n _
    inferInstanceAs (Decidable (_ ∧ (_ → _)))

variable {body : σ → σ × Bool} {P Inv : σ → Prop}

theorem run_invariant (hbody : ∀ s, Inv s → P s → Inv (body s).1) (n : ℕ) {s : σ} (hs : Inv s)
    (hmeets : Meets body P n s) : Inv (run body n s) := by
  induction n generalizing s with
  | zero => exact hs
  | succ n ih =>
    have hnext := hbody s hs hmeets.1
    unfold run
    split_ifs with hmore
    · exact ih hnext (hmeets.2 hmore)
    · exact hnext

theorem run_keeps (hbody : ∀ s, Inv s → Inv (body s).1) (n : ℕ) {s : σ} (hs : Inv s) :
    Inv (run body n s) := by
  induction n generalizing s with
  | zero => exact hs
  | succ n ih =>
    unfold run
    split_ifs
    · exact ih (hbody s hs)
    · exact hbody s hs

end Loop
