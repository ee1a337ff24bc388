import Mathlib.Data.List.Basic
import Mathlib.Data.List.Nodup
import Mathlib.Data.List.Count

/-! A slab: a growing vector of slots together with the stack of slots that
have been freed. Insertion reuses the slot freed last, so a key names whatever
occupies its slot at the moment. -/

universe u

/-- The free stack holds exactly the vacant slots, each once. -/
structure Slab (α : Type u) where
  entries : List (Option α)
  free : List ℕ
  nodup : free.Nodup
  vacant : ∀ k, k ∈ free ↔ entries[k]? = some none

namespace Slab

variable {α : Type u}

def empty : Slab α := ⟨[], [], List.nodup_nil, by simp⟩

def get (s : Slab α) (k : ℕ) : Option α := s.entries[k]?.join

def contains (s : Slab α) (k : ℕ) : Bool := (s.get k).isSome

def len (s : Slab α) : ℕ := s.entries.countP Option.isSome

def capacity (s : Slab α) : ℕ := s.entries.length

def keys (s : Slab α) : List ℕ := (List.range s.entries.length).filter fun k => s.contains k

def nextKey (s : Slab α) : ℕ := s.free.headD s.entries.length

theorem get_nextKey (s : Slab α) : s.get s.nextKey = none := by
  unfold nextKey get
  cases h : s.free with
  | nil => simp
  | cons k rest => simp [(s.vacant k).1 (by simp [h])]

def insert (s : Slab α) (a : α) : Slab α :=
  match h : s.free with
  | [] => ⟨s.entries ++ [some a], [], List.nodup_nil, by
      intro k
      have hk := s.vacant k
      rw [h] at hk
      simp only [List.not_mem_nil, false_iff] at hk ⊢
      rw [List.getElem?_append]
      split
      · exact hk
      · rcases hd : k - s.entries.length with _ | d <;> simp⟩
  | j :: rest => ⟨s.entries.set j (some a), rest, (List.nodup_cons.1 (h ▸ s.nodup)).2, by
      intro k
      have hj : j ∉ rest := (List.nodup_cons.1 (h ▸ s.nodup)).1
      have hk := s.vacant k
      rw [h, List.mem_cons] at hk
      rw [List.getElem?_set]
      by_cases hjk : j = k
      · subst hjk
        simp only [hj, false_iff, ↓reduceIte]
        split <;> simp
      · rw [if_neg hjk, ← hk]
        simp [Ne.symm hjk]⟩

def set (s : Slab α) (k : ℕ) (a : α) : Slab α :=
  if h : (s.get k).isSome then
    ⟨s.entries.set k (some a), s.free, s.nodup, by
      intro j
      rw [s.vacant j, List.getElem?_set]
      by_cases hkj : k = j
      · subst hkj
        have hne : s.entries[k]? ≠ some none := by
          intro he
          simp [get, he] at h
        simp only [hne, ↓reduceIte, false_iff]
        split <;> simp
      · rw [if_neg hkj]⟩
  else s

/-- Vacate a slot and put it on top of the free stack. -/
def remove (s : Slab α) (k : ℕ) : Slab α :=
  if h : (s.get k).isSome then
    ⟨s.entries.set k none, k :: s.free, by
      refine List.nodup_cons.2 ⟨fun hk => ?_, s.nodup⟩
      simp [get, (s.vacant k).1 hk] at h, by
      intro j
      have hlt : k < s.entries.length := by
        by_contra hge
        simp [get, List.getElem?_eq_none (Nat.le_of_not_lt hge)] at h
      rw [List.mem_cons, List.getElem?_set]
      by_cases hkj : k = j
      · subst hkj; simp [hlt]
      · rw [if_neg hkj, s.vacant j]; simp [Ne.symm hkj]⟩
  else s

section Lookup

variable (s : Slab α) (a : α) {j k : ℕ}

@[simp] theorem get_empty : (empty : Slab α).get k = none := by simp [empty, get]

theorem get_insert_self : (s.insert a).get s.nextKey = some a := by
  unfold insert nextKey get
  split
  · next h => simp [h]
  · next j rest h =>
    have hv := (s.vacant j).1 (by simp [h])
    have hlt : j < s.entries.length := (List.getElem?_eq_some_iff.1 hv).1
    simp [h, hlt]

theorem get_insert_of_ne (h : k ≠ s.nextKey) : (s.insert a).get k = s.get k := by
  unfold insert get
  unfold nextKey at h
  split
  · next hf =>
    rw [hf] at h
    have hne : k ≠ s.entries.length := by simpa using h
    rw [List.getElem?_append]
    split
    · rfl
    · next hge =>
      rw [List.getElem?_eq_none (l := s.entries) (by omega)]
      rw [List.getElem?_eq_none]
      simp only [List.length_singleton]
      omega
  · next j rest hf =>
    rw [hf] at h
    have hne : j ≠ k := by simpa using Ne.symm h
    simp [hne]

theorem get_insert : (s.insert a).get k = if k = s.nextKey then some a else s.get k := by
  split_ifs with h
  · rw [h, get_insert_self]
  · exact get_insert_of_ne s a h

theorem get_set_self (h : (s.get k).isSome) : (s.set k a).get k = some a := by
  have hlt : k < s.entries.length := by
    by_contra hge
    simp [get, List.getElem?_eq_none (Nat.le_of_not_lt hge)] at h
  rw [set, dif_pos h]
  simp [get, hlt]

theorem get_set_of_ne (h : k ≠ j) : (s.set j a).get k = s.get k := by
  unfold set
  split
  · simp [get, Ne.symm h]
  · rfl

theorem get_set : (s.set j a).get k = if k = j ∧ (s.get j).isSome then some a else s.get k := by
  by_cases hkj : k = j
  · subst hkj
    by_cases hs : (s.get k).isSome
    · simp [hs, get_set_self s a hs]
    · simp [set, hs]
  · simp [hkj, get_set_of_ne s a hkj]

@[simp] theorem get_remove_self : (s.remove k).get k = none := by
  unfold remove
  split
  · simp only [get, List.getElem?_set, ↓reduceIte]
    split <;> rfl
  · next h => simpa using h

theorem get_remove_of_ne (h : k ≠ j) : (s.remove j).get k = s.get k := by
  unfold remove
  split
  · simp [get, Ne.symm h]
  · rfl

theorem get_remove : (s.remove j).get k = if k = j then none else s.get k := by
  split_ifs with h
  · rw [h, get_remove_self]
  · exact get_remove_of_ne s h

end Lookup

section Keys

variable (s : Slab α) {k : ℕ}

theorem lt_capacity (h : (s.get k).isSome) : k < s.capacity := by
  by_contra hge
  simp [get, List.getElem?_eq_none (Nat.le_of_not_lt hge)] at h

theorem mem_keys : k ∈ s.keys ↔ (s.get k).isSome := by
  simp only [keys, List.mem_filter, List.mem_range, contains]
  exact ⟨fun h => h.2, fun h => ⟨s.lt_capacity h, h⟩⟩

variable {s} in
theorem mem_keys_of_get {a : α} (h : s.get k = some a) : k ∈ s.keys := by
  rw [mem_keys, h]
  rfl

theorem nodup_keys : s.keys.Nodup := List.nodup_range.filter _

theorem capacity_set (a : α) : (s.set k a).capacity = s.capacity := by
  unfold set capacity
  split <;> simp

theorem capacity_remove : (s.remove k).capacity = s.capacity := by
  unfold remove capacity
  split <;> simp

theorem len_of_free_nil (h : s.free = []) : s.len = s.capacity := by
  refine List.countP_eq_length.2 fun x hx => ?_
  obtain ⟨i, hi⟩ := List.mem_iff_getElem?.1 hx
  cases x with
  | some a => rfl
  | none => simpa [h] using (s.vacant i).2 hi

theorem capacity_insert_le {n : ℕ} (a : α) (hlen : s.len < n) (hcap : s.capacity ≤ n) :
    (s.insert a).capacity ≤ n := by
  unfold insert
  split
  · next h =>
    have := s.len_of_free_nil h
    simp only [capacity, List.length_append, List.length_singleton] at this ⊢
    omega
  · simpa [capacity] using hcap

theorem len_eq_zero : s.len = 0 ↔ ∀ k, s.get k = none := by
  unfold len get
  rw [List.countP_eq_zero]
  constructor
  · intro h k
    cases hk : s.entries[k]? with
    | none => rfl
    | some entry => simpa using h entry (List.mem_of_getElem? hk)
  · intro h entry hentry
    obtain ⟨k, hk⟩ := List.mem_iff_getElem?.1 hentry
    have hnone := h k
    rw [hk] at hnone
    simpa using hnone

end Keys

section Slotwise

variable {R : ℕ → α → α → Prop} {s s' s'' : Slab α} {k : ℕ}

/-- The same slots are occupied, and what occupies slot `k` is related by `R k`. -/
def Rel (R : ℕ → α → α → Prop) (s s' : Slab α) : Prop :=
  ∀ k, Option.Rel (R k) (s.get k) (s'.get k)

theorem Rel.refl (hrefl : ∀ k a, R k a a) (s : Slab α) : Rel R s s := by
  intro k
  cases s.get k with
  | none => exact .none
  | some a => exact .some (hrefl k a)

theorem Rel.mono {S : ℕ → α → α → Prop} (himp : ∀ k a b, R k a b → S k a b) (h : Rel R s s') :
    Rel S s s' := by
  intro k
  have hslot := h k
  generalize s.get k = a, s'.get k = b at hslot
  cases hslot with
  | some hab => exact .some (himp k _ _ hab)
  | none => exact .none

theorem Rel.trans (htrans : ∀ k a b c, R k a b → R k b c → R k a c) (h : Rel R s s')
    (h' : Rel R s' s'') : Rel R s s'' := by
  intro k
  have hk := h k
  have hk' := h' k
  generalize s.get k = a at hk
  generalize s'.get k = b at hk hk'
  generalize s''.get k = c at hk'
  cases hk with
  | none => exact hk'
  | some hab =>
    cases hk' with
    | some hbc => exact .some (htrans k _ _ _ hab hbc)

theorem Rel.set (hrefl : ∀ k a, R k a a) {a b : α} (hget : s.get k = some a) (hR : R k a b) :
    Rel R s (s.set k b) := by
  intro j
  rw [get_set, hget]
  by_cases hj : j = k
  · subst hj
    rw [if_pos ⟨rfl, rfl⟩, hget]
    exact .some hR
  · rw [if_neg (fun h => hj h.1)]
    exact Rel.refl hrefl s j

theorem Rel.get (h : Rel R s s') {b : α} (hget : s'.get k = some b) :
    ∃ a, s.get k = some a ∧ R k a b := by
  have hk := h k
  rw [hget] at hk
  cases hs : s.get k with
  | none =>
    rw [hs] at hk
    cases hk
  | some a =>
    rw [hs] at hk
    cases hk with
    | some hR => exact ⟨a, rfl, hR⟩

theorem Rel.isSome_iff (h : Rel R s s') : (s'.get k).isSome = (s.get k).isSome := by
  have hk := h k
  generalize s.get k = a at hk ⊢
  generalize s'.get k = b at hk ⊢
  cases hk <;> rfl

end Slotwise

end Slab
