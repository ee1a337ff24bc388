import Http3.Lib.Runs
import Mathlib.Algebra.Order.BigOperators.Group.List
import Mathlib.Algebra.Order.Ring.Nat
import Mathlib.Algebra.Group.Action.Defs

/-! Machines of one kind side by side: each input goes to one of them. -/

universe u v

namespace Shards

variable {σ : Type u} {ι : Type v}

/-- Feed an input to the shard with the given index. -/
def step (step : ι → σ → σ) (input : ℕ × ι) (shards : List σ) : List σ :=
  shards.modify input.1 (step input.2)

variable {stepOne : ι → σ → σ} {ok : ℕ × ι → List σ → Prop} {init shards : List σ}

theorem length_of_reach (h : Runs.Reach (step stepOne) ok init shards) :
    shards.length = init.length := by
  induction h with
  | start => rfl
  | next input _ _ ih => simpa [step] using ih

theorem forall_of_reach {P : σ → Prop} (hinit : ∀ s ∈ init, P s)
    (hstep : ∀ i s, P s → P (stepOne i s)) (h : Runs.Reach (step stepOne) ok init shards) :
    ∀ s ∈ shards, P s := by
  have hshards : ∀ input shards, (∀ s ∈ shards, P s) → ok input shards →
      ∀ s ∈ step stepOne input shards, P s := by
    intro input shards hall _ s hs
    unfold step at hs
    obtain ⟨k, hk, hget⟩ := List.mem_iff_getElem.1 hs
    have hlt : k < shards.length := by simpa using hk
    have hold : P shards[k] := hall _ (List.getElem_mem hlt)
    rw [List.getElem_modify] at hget
    rw [← hget]
    split_ifs
    · exact hstep _ _ hold
    · exact hold
  exact h.invariant hinit hshards

theorem sum_le_of_reach {P : σ → Prop} {f : σ → ℕ} {n : ℕ} (hbound : ∀ s, P s → f s ≤ n)
    (hinit : ∀ s ∈ init, P s) (hstep : ∀ i s, P s → P (stepOne i s))
    (h : Runs.Reach (step stepOne) ok init shards) :
    (shards.map f).sum ≤ init.length * n := by
  have hall := forall_of_reach hinit hstep h
  have hsum := List.sum_le_card_nsmul (shards.map f) n (by
    simpa using fun s hs => hbound s (hall s hs))
  rwa [List.length_map, length_of_reach h, smul_eq_mul] at hsum

end Shards
