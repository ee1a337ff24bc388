import Mathlib.Data.List.AList
import Mathlib.Algebra.BigOperators.Group.List.Basic
import Mathlib.Algebra.GroupWithZero.Nat

/-! Finite maps with a weight summed over their entries: how insertion,
erasure and restriction to some of the keys change the total. -/

universe u v

/-- A hash map as the list of its entries, in the order an iteration visits them. -/
abbrev KeyMap (κ : Type u) (ν : Type v) := AList fun _ : κ => ν

namespace KeyMap

variable {κ : Type u} {ν : Type v}

/-- Weight of what a key maps to, none for an absent key. -/
def weight (f : ν → ℕ) : Option ν → ℕ
  | none => 0
  | some v => f v

@[simp] theorem weight_none (f : ν → ℕ) : weight f none = 0 := rfl

@[simp] theorem weight_some (f : ν → ℕ) (v : ν) : weight f (some v) = f v := rfl

def total (f : ν → ℕ) (m : KeyMap κ ν) : ℕ := (m.entries.map fun e => f e.2).sum

/-- Keep the entries whose key satisfies `p`. -/
def retain (p : κ → Bool) (m : KeyMap κ ν) : KeyMap κ ν :=
  ⟨m.entries.filter fun e => p e.1, m.nodupKeys.sublist List.filter_sublist⟩

/-- Keep the entries whose value satisfies `p`. -/
def retainValues (p : ν → Bool) (m : KeyMap κ ν) : KeyMap κ ν :=
  ⟨m.entries.filter fun e => p e.2, m.nodupKeys.sublist List.filter_sublist⟩

theorem total_retain_add (f : ν → ℕ) (p : κ → Bool) (m : KeyMap κ ν) :
    total f (retain p m) + total f (retain (fun k => !p k) m) = total f m := by
  simp only [total, retain]
  generalize m.entries = l
  induction l with
  | nil => rfl
  | cons e l ih =>
    by_cases h : p e.1 <;> simp [h] at ih ⊢ <;> omega

theorem countP_eq_total (p : ν → Bool) (m : KeyMap κ ν) :
    m.entries.countP (fun e => p e.2) = total (fun v => (p v).toNat) m := by
  unfold total
  generalize m.entries = l
  induction l with
  | nil => rfl
  | cons e l ih => by_cases h : p e.2 <;> simp [h, ih, Nat.add_comm]

variable [DecidableEq κ]

theorem sum_kerase (f : ν → ℕ) (k : κ) (l : List (Sigma fun _ : κ => ν)) :
    ((l.kerase k).map fun e => f e.2).sum + weight f (l.dlookup k) =
      (l.map fun e => f e.2).sum := by
  induction l with
  | nil => simp
  | cons e l ih =>
    obtain ⟨j, v⟩ := e
    by_cases h : k = j
    · subst h
      have hk : List.kerase k (⟨k, v⟩ :: l : List (Sigma fun _ : κ => ν)) = l :=
        List.kerase_cons_eq rfl
      rw [hk, List.dlookup_cons_eq]
      simp [Nat.add_comm]
    · rw [List.kerase_cons_ne h, List.dlookup_cons_ne _ _ h]
      simp only [List.map_cons, List.sum_cons]
      omega

theorem total_erase (f : ν → ℕ) (k : κ) (m : KeyMap κ ν) :
    total f (m.erase k) + weight f (m.lookup k) = total f m :=
  sum_kerase f k m.entries

theorem countP_erase {p : ν → Bool} {k : κ} {v : ν} {m : KeyMap κ ν} (hlookup : m.lookup k = some v)
    (hv : p v = false) :
    (m.erase k).entries.countP (fun e => p e.2) = m.entries.countP (fun e => p e.2) := by
  have htotal := total_erase (fun v => (p v).toNat) k m
  rw [hlookup, weight_some, hv] at htotal
  rw [countP_eq_total, countP_eq_total]
  exact htotal

theorem total_insert (f : ν → ℕ) (k : κ) (v : ν) (m : KeyMap κ ν) :
    total f (m.insert k v) + weight f (m.lookup k) = total f m + f v := by
  have h := total_erase f k m
  have hi : total f (m.insert k v) = f v + total f (m.erase k) := by
    unfold total
    rw [AList.entries_insert, List.map_cons, List.sum_cons]
    rfl
  omega

theorem total_insert_of_absent (f : ν → ℕ) {k : κ} (v : ν) {m : KeyMap κ ν}
    (h : m.lookup k = none) : total f (m.insert k v) = total f m + f v := by
  simpa [h] using total_insert f k v m

theorem isSome_of_erase {k j : κ} {m : KeyMap κ ν} (h : ((m.erase k).lookup j).isSome) :
    (m.lookup j).isSome := by
  by_cases hj : j = k
  · rw [hj, AList.lookup_erase] at h
    cases h
  · rwa [AList.lookup_erase_ne hj] at h

theorem lookup_retain (p : κ → Bool) (k : κ) (m : KeyMap κ ν) :
    (retain p m).lookup k = if p k then m.lookup k else none := by
  apply Option.ext
  intro v
  rw [← Option.mem_def, AList.mem_lookup_iff]
  simp only [retain, List.mem_filter]
  split_ifs with hp
  · simp [hp, ← AList.mem_lookup_iff]
  · simp [hp]

end KeyMap
