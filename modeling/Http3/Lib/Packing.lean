import Mathlib.Data.List.Basic

/-! Groups packed into parts of bounded size. A group is never divided, so that a part goes over
the bound only when it is one group that is larger by itself. -/

universe u

/-- Parts that are shut, each one a list of groups, and the part that is being filled. -/
structure Packing (α : Type u) (cap : ℕ) where
  shut : List (List (List α))
  current : List (List α)
  nonempty : ∀ group ∈ current, group ≠ []
  bounded : ∀ part ∈ shut ++ [current], cap < part.flatten.length → ∃ group, part = [group]

namespace Packing

variable {α : Type u} {cap : ℕ}

def empty : Packing α cap where
  shut := []
  current := []
  nonempty := by simp
  bounded := by simp

def groups (p : Packing α cap) : List (List α) := p.shut.flatten ++ p.current

def close (p : Packing α cap) : Packing α cap where
  shut := p.shut ++ [p.current]
  current := []
  nonempty := by simp
  bounded := by
    intro part hpart hover
    rcases List.mem_append.1 hpart with hpart | hpart
    · exact p.bounded part hpart hover
    · rw [List.mem_singleton.1 hpart] at hover
      simp at hover

@[simp] theorem groups_close (p : Packing α cap) : p.close.groups = p.groups := by
  simp [groups, close]

theorem flatten_current_eq_nil (p : Packing α cap) : p.current.flatten = [] ↔ p.current = [] := by
  constructor
  · intro hflat
    by_contra hne
    obtain ⟨group, hmem⟩ := List.exists_mem_of_ne_nil _ hne
    exact p.nonempty group hmem (List.flatten_eq_nil_iff.1 hflat group hmem)
  · intro hnil
    rw [hnil, List.flatten_nil]

/-- Put a group into the part that is being filled. -/
def add (p : Packing α cap) (group : List α) (hgroup : group ≠ [])
    (hfits : p.current = [] ∨ p.current.flatten.length + group.length ≤ cap) : Packing α cap where
  shut := p.shut
  current := p.current ++ [group]
  nonempty := by
    intro g hg
    rcases List.mem_append.1 hg with hg | hg
    · exact p.nonempty g hg
    · rw [List.mem_singleton.1 hg]
      exact hgroup
  bounded := by
    intro part hpart hover
    rcases List.mem_append.1 hpart with hpart | hpart
    · exact p.bounded part (List.mem_append_left _ hpart) hover
    · rw [List.mem_singleton.1 hpart] at hover ⊢
      rcases hfits with hnil | hle
      · exact ⟨group, by rw [hnil, List.nil_append]⟩
      · rw [List.flatten_append, List.flatten_singleton, List.length_append] at hover
        omega

@[simp] theorem groups_add (p : Packing α cap) (group : List α) (hgroup : group ≠ [])
    (hfits : p.current = [] ∨ p.current.flatten.length + group.length ≤ cap) :
    (p.add group hgroup hfits).groups = p.groups ++ [group] := by
  simp [groups, add]

end Packing
