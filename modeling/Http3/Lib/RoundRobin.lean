import Http3.Lib.Slab

/-! Round-robin over the entries of a slab: each entry that still yields is asked once a
round. What comes out, and in which order, when every entry yields finitely often. -/

universe u v

namespace RoundRobin

section Turns

variable {D : Type v}

/-- One round: the item of that number of everyone who has as many. -/
def turn (order : List ℕ) (items : ℕ → List D) (i : ℕ) : List (ℕ × D) :=
  order.filterMap fun k => (items k)[i]?.map (k, ·)

def turns (order : List ℕ) (items : ℕ → List D) (n : ℕ) : List (ℕ × D) :=
  (List.range n).flatMap (turn order items)

def itemsOf (k : ℕ) (log : List (ℕ × D)) : List D :=
  (log.filter fun e => e.1 = k).map Prod.snd

variable {order : List ℕ} {items : ℕ → List D} {i n k : ℕ}

theorem itemsOf_append (k : ℕ) (log log' : List (ℕ × D)) :
    itemsOf k (log ++ log') = itemsOf k log ++ itemsOf k log' := by
  simp [itemsOf]

theorem turns_succ (order : List ℕ) (items : ℕ → List D) (n : ℕ) :
    turns order items (n + 1) = turns order items n ++ turn order items n := by
  simp [turns, List.range_succ]

theorem itemsOf_turn (hnodup : order.Nodup) :
    itemsOf k (turn order items i) = if k ∈ order then (items k)[i]?.toList else [] := by
  induction order with
  | nil => rfl
  | cons j order ih =>
    obtain ⟨hnew, hnodup⟩ := List.nodup_cons.1 hnodup
    have ih := ih hnodup
    have hcons : turn (j :: order) items i =
        ((items j)[i]?.map (j, ·)).toList ++ turn order items i := by
      unfold turn
      cases hitem : (items j)[i]? with
      | none => simp [hitem]
      | some d => simp [hitem]
    have hone : itemsOf k ((items j)[i]?.map (j, ·)).toList =
        if j = k then (items j)[i]?.toList else [] := by
      cases (items j)[i]? with
      | none => simp [itemsOf]
      | some d => by_cases hjk : j = k <;> simp [itemsOf, hjk]
    rw [hcons, itemsOf_append, hone, ih]
    by_cases hjk : j = k
    · subst hjk
      simp [hnew]
    · simp [hjk, Ne.symm hjk]

theorem itemsOf_turns (hnodup : order.Nodup) (hk : k ∈ order) :
    itemsOf k (turns order items n) = (items k).take n := by
  induction n with
  | zero => rfl
  | succ n ih =>
    rw [turns_succ, itemsOf_append, ih, itemsOf_turn hnodup, if_pos hk, List.take_add_one]

theorem mem_turns {e : ℕ × D} (h : e ∈ turns order items n) : e.1 ∈ order := by
  obtain ⟨i, -, hturn⟩ := List.mem_flatMap.1 h
  obtain ⟨k, hk, hitem⟩ := List.mem_filterMap.1 hturn
  obtain ⟨d, -, rfl⟩ := Option.map_eq_some_iff.1 hitem
  exact hk

/-- Where an item stands: in the round of its number, behind those who come before. -/
theorem turns_split {pre post : List (ℕ × D)} {d : D}
    (h : turns order items n = pre ++ (k, d) :: post) :
    ∃ i before after, order = before ++ k :: after ∧ (items k)[i]? = some d ∧
      pre = turns order items i ++ turn before items i := by
  induction n generalizing post with
  | zero => simp [turns] at h
  | succ n ih =>
    -- the item is in the last round, or in one before
    have hlast : ∀ front, turn order items n = front ++ (k, d) :: post →
        ∃ before after, order = before ++ k :: after ∧ (items k)[n]? = some d ∧
          front = turn before items n := by
      intro front hfront
      obtain ⟨left, right, rfl, rfl, hright⟩ := List.filterMap_eq_append_iff.1 hfront
      obtain ⟨skipped, j, rest, rfl, hskipped, hitem, -⟩ := List.filterMap_eq_cons_iff.1 hright
      rw [Option.map_eq_some_iff] at hitem
      obtain ⟨d', hitem, heq⟩ := hitem
      obtain ⟨rfl, rfl⟩ := Prod.mk.inj heq
      refine ⟨left ++ skipped, rest, by simp, hitem, ?_⟩
      have hnone : turn skipped items n = [] := List.filterMap_eq_nil_iff.2 hskipped
      show turn left items n = turn (left ++ skipped) items n
      unfold turn at hnone ⊢
      rw [List.filterMap_append, hnone, List.append_nil]
    rw [turns_succ, List.append_eq_append_iff] at h
    obtain ⟨front, rfl, hfront⟩ | ⟨back, hback, hrest⟩ := h
    · obtain ⟨before, after, horder, hitem, rfl⟩ := hlast front hfront
      exact ⟨n, before, after, horder, hitem, rfl⟩
    · cases back with
      | nil =>
        obtain ⟨before, after, horder, hitem, hnil⟩ := hlast [] hrest.symm
        refine ⟨n, before, after, horder, hitem, ?_⟩
        rw [← hnil, List.append_nil, hback, List.append_nil]
      | cons entry back =>
        obtain ⟨rfl, -⟩ := List.cons.inj hrest
        exact ih hback

theorem length_itemsOf_split (hnodup : order.Nodup) {before : List ℕ} (hbefore : before.Nodup)
    (hk : k ∈ order) :
    (itemsOf k (turns order items i ++ turn before items i)).length =
      min i (items k).length + if k ∈ before ∧ i < (items k).length then 1 else 0 := by
  rw [itemsOf_append, itemsOf_turns hnodup hk, itemsOf_turn hbefore, List.length_append,
    List.length_take]
  by_cases hmem : k ∈ before
  · by_cases hi : i < (items k).length
    · simp [hmem, hi]
    · simp [hmem, hi]
  · simp [hmem]

/-- Between two items of one, everyone else who has items left contributes one. -/
theorem turns_fair (hnodup : order.Nodup) {pre between post : List (ℕ × D)} {d d' : D} {j : ℕ}
    (h : turns order items n = pre ++ (k, d) :: (between ++ (k, d') :: post))
    (hbetween : itemsOf k between = []) (hj : j ∈ order) (hjk : j ≠ k) :
    (itemsOf j between).length =
      if (itemsOf j pre).length < (items j).length then 1 else 0 := by
  obtain ⟨i, before, after, horder, hitem, hpre⟩ := turns_split h
  have hsecond : turns order items n = (pre ++ (k, d) :: between) ++ (k, d') :: post := by
    rw [h, List.append_assoc, List.cons_append]
  obtain ⟨i', before', after', horder', hitem', hpre'⟩ := turns_split hsecond
  have hparts : before.Nodup ∧ k ∉ before ∧ k ∉ after := by
    rw [horder] at hnodup
    have hmiddle := List.nodup_middle.1 hnodup
    rw [List.nodup_cons, List.mem_append, not_or] at hmiddle
    exact ⟨(List.nodup_append.1 hmiddle.2).1, hmiddle.1.1, hmiddle.1.2⟩
  obtain ⟨hbefore, hnot, hafter⟩ := hparts
  obtain ⟨rfl, -, -⟩ : before = before' ∧ k = k ∧ after = after' :=
    (List.append_cons_inj_of_notMem hnot hafter).1 (horder.symm.trans horder')
  have hk : k ∈ order := by simp [horder]
  -- the items of one are numbered, so the second stands one round later
  have hi : i < (items k).length := (List.getElem?_eq_some_iff.1 hitem).1
  have hi' : i' < (items k).length := (List.getElem?_eq_some_iff.1 hitem').1
  have hcount : ∀ m, (itemsOf m (pre ++ (k, d) :: between)).length =
      (itemsOf m pre).length + (if k = m then 1 else 0) + (itemsOf m between).length := by
    intro m
    rw [itemsOf_append]
    by_cases hm : k = m
    · simp [itemsOf, hm]
      omega
    · simp [itemsOf, hm]
  have hsucc : i' = i + 1 := by
    have hcountk := hcount k
    rw [hpre', hpre, length_itemsOf_split hnodup hbefore hk, length_itemsOf_split hnodup hbefore hk,
      hbetween] at hcountk
    simp [hnot] at hcountk
    omega
  have hcountj := hcount j
  rw [hpre', length_itemsOf_split hnodup hbefore hj, hsucc, if_neg (Ne.symm hjk)] at hcountj
  rw [hpre, length_itemsOf_split hnodup hbefore hj] at hcountj ⊢
  by_cases hmem : j ∈ before
  · simp only [hmem, true_and] at hcountj ⊢
    split_ifs at hcountj ⊢ <;> omega
  · simp only [hmem, false_and, if_false] at hcountj ⊢
    split_ifs <;> omega

end Turns

section Rounds

variable {S : Type u} {D : Type v} (yield : S → Option D × S)

/-- Asked again and again, an entry gives these items and then nothing. -/
def Yields : S → List D → Prop
  | s, [] => (yield s).1 = none
  | s, d :: ds => (yield s).1 = some d ∧ Yields (yield s).2 ds

instance Yields.decidable [DecidableEq D] : (s : S) → (ds : List D) → Decidable (Yields yield s ds)
  | s, [] => inferInstanceAs (Decidable ((yield s).1 = none))
  | s, d :: ds =>
    have := Yields.decidable (yield s).2 ds
    inferInstanceAs (Decidable ((yield s).1 = some d ∧ Yields yield (yield s).2 ds))

/-- Ask each entry once; the ones that gave something stay. -/
def round : List ℕ → Slab S → (List (ℕ × D) × List ℕ) × Slab S
  | [], slab => (([], []), slab)
  | k :: ks, slab =>
    match slab.get k with
    | none => round ks slab
    | some s =>
      let (item, s) := yield s
      let ((items, active), slab) := round ks (slab.set k s)
      match item with
      | some d => (((k, d) :: items, k :: active), slab)
      | none => ((items, active), slab)

/-- Rounds until no entry gives anything. Returns also the entries that still do. -/
def rounds : ℕ → List ℕ → Slab S → (List (ℕ × D) × List ℕ) × Slab S
  | 0, active, slab => (([], active), slab)
  | n + 1, active, slab =>
    if active.isEmpty then (([], active), slab)
    else
      let ((given, active), slab) := round yield active slab
      let ((later, active), slab) := rounds n active slab
      ((given ++ later, active), slab)

variable {yield} {items : ℕ → List D} {i : ℕ}

/-- The entries are where they are after giving `i` items each. -/
def Due (yield : S → Option D × S) (items : ℕ → List D) (i : ℕ) (ks : List ℕ) (slab : Slab S) :
    Prop :=
  ∀ k ∈ ks, ∃ s, slab.get k = some s ∧ Yields yield s ((items k).drop i)

/-- One round gives the items of its number. -/
theorem round_turn {ks : List ℕ} (hnodup : ks.Nodup) {slab : Slab S}
    (hdue : Due yield items i ks slab) :
    (round yield ks slab).1 = (turn ks items i, ks.filter fun k => i < (items k).length) ∧
    Due yield items (i + 1) (ks.filter fun k => i < (items k).length) (round yield ks slab).2 ∧
    ∀ k, k ∉ ks → (round yield ks slab).2.get k = slab.get k := by
  induction ks generalizing slab with
  | nil => exact ⟨rfl, fun k hk => absurd hk List.not_mem_nil, fun _ _ => rfl⟩
  | cons k ks ih =>
    obtain ⟨hnew, hnodup⟩ := List.nodup_cons.1 hnodup
    obtain ⟨s, hget, hyields⟩ := hdue k List.mem_cons_self
    have hkeep : ∀ j, j ≠ k → (slab.set k (yield s).2).get j = slab.get j :=
      fun j hj => slab.get_set_of_ne _ hj
    have hself : (slab.set k (yield s).2).get k = some (yield s).2 :=
      slab.get_set_self _ (by simp [hget])
    have hrest : Due yield items i ks (slab.set k (yield s).2) := by
      intro j hj
      rw [hkeep j fun heq => hnew (heq ▸ hj)]
      exact hdue j (List.mem_cons_of_mem k hj)
    obtain ⟨hgiven, hdue', hsame⟩ := ih hnodup hrest
    have hothers : ∀ j, j ∉ k :: ks →
        (round yield ks (slab.set k (yield s).2)).2.get j = slab.get j := by
      intro j hj
      rw [List.mem_cons, not_or] at hj
      rw [hsame j hj.2, hkeep j hj.1]
    by_cases hi : i < (items k).length
    · -- the entry gives its item and stays
      rw [List.drop_eq_getElem_cons hi] at hyields
      obtain ⟨hitem, hyields⟩ := hyields
      have hround : round yield (k :: ks) slab =
          (((k, (items k)[i]) :: (round yield ks (slab.set k (yield s).2)).1.1,
            k :: (round yield ks (slab.set k (yield s).2)).1.2),
            (round yield ks (slab.set k (yield s).2)).2) := by
        rw [round, hget]
        dsimp only
        rw [hitem]
      rw [hround, hgiven]
      refine ⟨?_, ?_, hothers⟩
      · simp [turn, hi]
      · intro j hj
        rw [List.filter_cons_of_pos (by simpa using hi), List.mem_cons] at hj
        obtain rfl | hj := hj
        · exact ⟨(yield s).2, (hsame j hnew).trans hself, hyields⟩
        · exact hdue' j hj
    · -- the entry gives nothing and is done
      rw [List.drop_eq_nil_of_le (Nat.le_of_not_lt hi)] at hyields
      have hround : round yield (k :: ks) slab = round yield ks (slab.set k (yield s).2) := by
        have hnone : (yield s).1 = none := hyields
        rw [round, hget]
        dsimp only
        rw [hnone]
      rw [hround, hgiven]
      refine ⟨?_, ?_, hothers⟩
      · simp [turn, hi]
      · rw [List.filter_cons_of_neg (by simpa using hi)]
        exact hdue'

variable {order : List ℕ}

theorem turn_filter (order : List ℕ) (items : ℕ → List D) (i : ℕ) :
    turn (order.filter fun k => i ≤ (items k).length) items i = turn order items i := by
  unfold turn
  rw [List.filterMap_filter]
  apply List.filterMap_congr
  intro k _
  by_cases hk : i ≤ (items k).length
  · simp [hk]
  · have hnone : (items k)[i]? = none := List.getElem?_eq_none (Nat.le_of_not_le hk)
    simp [hk, hnone]

/-- Rounds go on from where they are until nobody is active or they run out. -/
theorem rounds_turns (hnodup : order.Nodup) (n : ℕ) {slab : Slab S}
    (hdue : Due yield items i (order.filter fun k => i ≤ (items k).length) slab) :
    ∃ j, turns order items i ++
        (rounds yield n (order.filter fun k => i ≤ (items k).length) slab).1.1 =
          turns order items j ∧
      (rounds yield n (order.filter fun k => i ≤ (items k).length) slab).1.2 =
        order.filter (fun k => j ≤ (items k).length) ∧
      ((order.filter fun k => j ≤ (items k).length) = [] ∨ j = i + n) := by
  induction n generalizing i slab with
  | zero => exact ⟨i, List.append_nil _, rfl, .inr rfl⟩
  | succ n ih =>
    unfold rounds
    split_ifs with hempty
    · exact ⟨i, List.append_nil _, rfl, .inl (List.isEmpty_iff.1 hempty)⟩
    · obtain ⟨hgiven, hdue, -⟩ := round_turn (hnodup.filter _) hdue
      rw [turn_filter, List.filter_filter] at hgiven
      have hnext : (order.filter fun k => decide (i < (items k).length) &&
          decide (i ≤ (items k).length)) = order.filter fun k => i + 1 ≤ (items k).length := by
        apply List.filter_congr
        intro k _
        rw [← Bool.decide_and, decide_eq_decide]
        omega
      rw [List.filter_filter, hnext] at hdue
      rw [hnext] at hgiven
      generalize round yield (order.filter fun k => i ≤ (items k).length) slab = answer
        at hgiven hdue ⊢
      obtain ⟨⟨given, active⟩, slab⟩ := answer
      obtain ⟨rfl, rfl⟩ := Prod.mk.inj hgiven
      obtain ⟨j, hlog, hactive, hend⟩ := ih hdue
      refine ⟨j, ?_, hactive, ?_⟩
      · rw [turns_succ, List.append_assoc] at hlog
        exact hlog
      · obtain hnone | hj := hend
        · exact .inl hnone
        · exact .inr (by omega)

theorem rounds_complete (hnodup : order.Nodup) {n : ℕ} {slab : Slab S}
    (hdue : Due yield items 0 order slab) (hn : ∀ k ∈ order, (items k).length < n) :
    (rounds yield n order slab).1.2 = [] ∧
    ∃ j, (rounds yield n order slab).1.1 = turns order items j ∧
      ∀ k ∈ order, (items k).length < j := by
  have hall : (order.filter fun k => 0 ≤ (items k).length) = order := by simp
  rw [← hall] at hdue
  have hturns := rounds_turns hnodup n hdue
  rw [hall] at hturns
  obtain ⟨j, hlog, hactive, hend⟩ := hturns
  have hover : ∀ k ∈ order, (items k).length < j := by
    obtain hnone | rfl := hend
    · intro k hk
      have hk' := List.filter_eq_nil_iff.1 hnone k hk
      simpa using hk'
    · simpa using hn
  have hnone : (order.filter fun k => j ≤ (items k).length) = [] := by
    rw [List.filter_eq_nil_iff]
    intro k hk
    have hlt := hover k hk
    simp only [decide_eq_true_eq]
    omega
  exact ⟨hactive.trans hnone, j, hlog, hover⟩

end Rounds

end RoundRobin
