import Mathlib.Data.List.Basic

/-! Lists cut into pieces of one length, the last of which may be shorter. -/

universe u

namespace Chunks

variable {α : Type u}

/-- Cut off pieces of length `n`, as long as there is fuel. -/
def cutFuel (n : ℕ) : ℕ → List α → List (List α)
  | 0, _ => []
  | _ + 1, [] => []
  | fuel + 1, a :: l => (a :: l).take n :: cutFuel n fuel ((a :: l).drop n)

/-- Cut a list into pieces of length `n`. -/
def cut (n : ℕ) (l : List α) : List (List α) := cutFuel n l.length l

theorem cutFuel_flatten {n : ℕ} (hn : 0 < n) {pieces : List (List α)}
    (hlength : ∀ piece ∈ pieces, piece.length = n) (fuel : ℕ)
    (hfuel : pieces.flatten.length ≤ fuel) : cutFuel n fuel pieces.flatten = pieces := by
  induction pieces generalizing fuel with
  | nil => cases fuel <;> rfl
  | cons piece pieces ih =>
    have hpiece : piece.length = n := hlength piece List.mem_cons_self
    rw [List.flatten_cons] at hfuel ⊢
    rw [List.length_append, hpiece] at hfuel
    obtain ⟨a, rest, rfl⟩ : ∃ a rest, piece = a :: rest := by
      cases piece with
      | nil =>
        simp at hpiece
        omega
      | cons a rest => exact ⟨a, rest, rfl⟩
    cases fuel with
    | zero => omega
    | succ fuel =>
      have htake : (a :: rest ++ pieces.flatten).take n = a :: rest := by
        rw [← hpiece, List.take_left]
      have hdrop : (a :: rest ++ pieces.flatten).drop n = pieces.flatten := by
        rw [← hpiece, List.drop_left]
      rw [List.cons_append] at htake hdrop ⊢
      rw [cutFuel, htake, hdrop]
      rw [ih (fun p hp => hlength p (List.mem_cons_of_mem _ hp)) fuel (by omega)]

theorem cut_flatten {n : ℕ} (hn : 0 < n) {pieces : List (List α)}
    (hlength : ∀ piece ∈ pieces, piece.length = n) : cut n pieces.flatten = pieces :=
  cutFuel_flatten hn hlength _ (Nat.le_refl _)

end Chunks
