import Mathlib.Logic.Relation
import Mathlib.Data.List.Infix

/-! Runs of a deterministic machine driven by inputs from outside, restricted
to the inputs a side condition admits in the state they arrive in. -/

universe u v

namespace Runs

variable {σ : Type u} {ι : Type v}

/-- States reached from `init` by feeding inputs, each one admitted by `ok`
in the state it is fed to. -/
inductive Reach (step : ι → σ → σ) (ok : ι → σ → Prop) (init : σ) : σ → Prop
  | start : Reach step ok init init
  | next {s : σ} (i : ι) : Reach step ok init s → ok i s → Reach step ok init (step i s)

variable {step : ι → σ → σ} {ok : ι → σ → Prop} {init s : σ}

theorem Reach.invariant {Inv : σ → Prop} (h0 : Inv init)
    (hstep : ∀ i s, Inv s → ok i s → Inv (step i s)) (h : Reach step ok init s) : Inv s := by
  induction h with
  | start => exact h0
  | next i _ hok ih => exact hstep i _ ih hok

theorem Reach.mono {ok' : ι → σ → Prop} (himp : ∀ i s, ok i s → ok' i s)
    (h : Reach step ok init s) : Reach step ok' init s := by
  induction h with
  | start => exact .start
  | next i _ hok ih => exact .next i ih (himp i _ hok)

def run (step : ι → σ → σ) : List ι → σ → σ
  | [], s => s
  | i :: is, s => run step is (step i s)

theorem run_invariant {Inv : σ → Prop} (hstep : ∀ i s, Inv s → Inv (step i s)) (is : List ι)
    (h : Inv s) : Inv (run step is s) := by
  induction is generalizing s with
  | nil => exact h
  | cons i is ih => exact ih (hstep i s h)

theorem run_append (is js : List ι) (s : σ) :
    run step (is ++ js) s = run step js (run step is s) := by
  induction is generalizing s with
  | nil => rfl
  | cons i is ih => exact ih (step i s)

/-- What holds after a run and not before it came with one input, and has held since. -/
theorem run_onset {P : σ → Prop} (is : List ι) (hbefore : ¬P s) (hafter : P (run step is s)) :
    ∃ before i after, is = before ++ i :: after ∧ ¬P (run step before s) ∧
      ∀ more, more <+: after → P (run step more (step i (run step before s))) := by
  induction is using List.reverseRecOn with
  | nil => exact absurd hafter hbefore
  | append_singleton is i ih =>
    by_cases hlast : P (run step is s)
    · obtain ⟨before, j, after, rfl, hnot, hsince⟩ := ih hlast
      refine ⟨before, j, after ++ [i], by simp, hnot, ?_⟩
      intro more hmore
      rcases List.prefix_concat_iff.1 hmore with rfl | hmore
      · simpa [run_append, run] using hafter
      · exact hsince more hmore
    · refine ⟨is, i, [], rfl, hlast, ?_⟩
      intro more hmore
      rw [List.prefix_nil.1 hmore]
      simpa [run_append, run] using hafter

/-- Every input of the list is admitted when its turn comes. -/
def Admitted (step : ι → σ → σ) (ok : ι → σ → Prop) : List ι → σ → Prop
  | [], _ => True
  | i :: is, s => ok i s ∧ Admitted step ok is (step i s)

instance Admitted.decidable [∀ i s, Decidable (ok i s)] :
    (is : List ι) → (s : σ) → Decidable (Admitted step ok is s)
  | [], _ => .isTrue trivial
  | i :: is, s =>
    have := Admitted.decidable is (step i s)
    inferInstanceAs (Decidable (_ ∧ _))

theorem Reach.run {is : List ι} (h : Reach step ok init s) (ha : Admitted step ok is s) :
    Reach step ok init (run step is s) := by
  induction is generalizing s with
  | nil => exact h
  | cons i is ih => exact ih (.next i h ha.1) ha.2

theorem chain {part R : σ → σ → Prop} {a b : σ} (hrefl : ∀ a, R a a)
    (htrans : ∀ {a b c}, R a b → R b c → R a c) (hpart : ∀ {a b}, part a b → R a b)
    (h : Relation.ReflTransGen part a b) : R a b := by
  induction h with
  | refl => exact hrefl a
  | tail _ hlast ih => exact htrans ih (hpart hlast)

end Runs
