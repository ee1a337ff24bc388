import Mathlib.Data.Nat.Notation

/-! A sweep over items within a budget, where what is left of the budget is read off the
size of the result so far. -/

universe u v

namespace Sweep

variable {ι : Type u} {σ : Type v}

/-- Visit items until the budget is used up. A visit may find nothing to do; otherwise it
tells how many units it spent. Returns the state and the units spent. -/
def run (visit : ℕ → ι → σ → Option (σ × ℕ)) (size : σ → ℕ) (budget : ℕ) :
    List ι → ℕ → σ → σ × ℕ
  | [], _, s => (s, 0)
  | i :: is, left, s =>
    if left = 0 then (s, 0)
    else
      match visit left i s with
      | none => run visit size budget is left s
      | some (s', spent) =>
        let (final, rest) := run visit size budget is (budget - size s') s'
        (final, spent + rest)

variable {visit : ℕ → ι → σ → Option (σ × ℕ)} {size kept : σ → ℕ} {budget : ℕ}
  {Good : σ → Prop}

theorem run_le (hkept : ∀ s, kept s ≤ size s)
    (hvisit : ∀ left i s s' spent, Good s → visit left i s = some (s', spent) →
      spent ≤ left ∧ kept s + spent ≤ kept s' ∧ Good s')
    (is : List ι) {left before : ℕ} {s : σ} (hgood : Good s) (hbefore : before ≤ kept s)
    (hleft : left ≤ budget - before) (hwithin : before ≤ budget) :
    before + (run visit size budget is left s).2 ≤ budget := by
  induction is generalizing left before s with
  | nil => exact hwithin
  | cons i is ih =>
    unfold run
    by_cases hzero : left = 0
    · rw [if_pos hzero]
      exact hwithin
    · rw [if_neg hzero]
      cases hv : visit left i s with
      | none => exact ih hgood hbefore hleft hwithin
      | some visited =>
        obtain ⟨s', spent⟩ := visited
        obtain ⟨hspent, hshows, hgood'⟩ := hvisit left i s s' spent hgood hv
        have hsize := hkept s'
        have hrest : before + spent + (run visit size budget is (budget - size s') s').2 ≤
            budget := ih hgood' (by omega) (by omega) (by omega)
        dsimp only
        omega

theorem run_within (hkept : ∀ s, kept s ≤ size s)
    (hvisit : ∀ left i s s' spent, Good s → visit left i s = some (s', spent) →
      spent ≤ left ∧ kept s + spent ≤ kept s' ∧ Good s')
    (is : List ι) {s : σ} (hgood : Good s) : (run visit size budget is budget s).2 ≤ budget := by
  have hrun := run_le hkept hvisit is hgood (Nat.zero_le _) (Nat.le_refl budget) (Nat.zero_le _)
  rwa [Nat.zero_add] at hrun

/-- A loop that visits items in the same way ends in the same state. -/
theorem run_of_loop {loop : List ι → ℕ → σ → σ} (hnil : ∀ left s, loop [] left s = s)
    (hcons : ∀ i is left s, loop (i :: is) left s = if left = 0 then s else
      (visit left i s).elim (loop is left s) fun v => loop is (budget - size v.1) v.1)
    (is : List ι) (left : ℕ) (s : σ) : (run visit size budget is left s).1 = loop is left s := by
  induction is generalizing left s with
  | nil => exact (hnil left s).symm
  | cons i is ih =>
    unfold run
    rw [hcons]
    by_cases hzero : left = 0
    · rw [if_pos hzero, if_pos hzero]
    · rw [if_neg hzero, if_neg hzero]
      cases visit left i s with
      | none => exact ih left s
      | some visited => exact ih _ _

theorem run_zero (is : List ι) (s : σ) : run visit size budget is 0 s = (s, 0) := by
  cases is <;> rfl

end Sweep
