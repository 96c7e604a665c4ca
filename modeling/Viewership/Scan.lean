/-
# Viewership.Scan -- searching on from a remembered index

A scan that is cut into steps remembers only the index at which it goes on. `firstFrom?` finds the
next accepted entry of one sequence and `firstFromNested?` the next one of a sequence of sequences,
whose position is a pair. An index past the end is no mistake: nothing is left there.
-/

namespace Viewership

universe u

variable {α : Type u}

/-- The first entry at or past `start` that `keep` accepts, and its index. -/
def firstFrom? (keep : α → Bool) (xs : Array α) (start : Nat) : Option (Nat × α) :=
  if h : start < xs.size then
    if keep xs[start] then some (start, xs[start]) else firstFrom? keep xs (start + 1)
  else none
termination_by xs.size - start

/-- The first accepted entry at or past index `pos` of the sequence `list`, or else in a later
sequence, and its position. -/
def firstFromNested? (keep : α → Bool) (lists : Array (Array α)) (list pos : Nat) :
    Option ((Nat × Nat) × α) :=
  if h : list < lists.size then
    match firstFrom? keep lists[list] pos with
    | some (i, x) => some ((list, i), x)
    | none => firstFromNested? keep lists (list + 1) 0
  else none
termination_by lists.size - list

/-- The entries from a position on: the rest of the sequence `list` and all later sequences. -/
def entriesFrom (lists : Array (Array α)) (list pos : Nat) : List α :=
  (lists[list]?.getD #[]).toList.drop pos ++ (lists.toList.drop (list + 1)).flatMap Array.toList

/-! ## What a scan finds -/

/-- A find is an accepted entry at or past the start. -/
theorem of_firstFrom?_eq_some {keep : α → Bool} {xs : Array α} {start i : Nat} {x : α}
    (h : firstFrom? keep xs start = some (i, x)) :
    start ≤ i ∧ xs[i]? = some x ∧ keep x = true := by
  fun_induction firstFrom? keep xs start with
  | case1 start hs hk =>
    obtain ⟨rfl, rfl⟩ := h
    exact ⟨Nat.le_refl _, Array.getElem?_eq_getElem hs, hk⟩
  | case2 start hs hk ih =>
    have := ih h
    exact ⟨by omega, this.2⟩
  | case3 => cases h

/-- A find is an accepted entry of its sequence, at or past the start of the scan. -/
theorem of_firstFromNested?_eq_some {keep : α → Bool} {lists : Array (Array α)}
    {list pos l p : Nat} {x : α} (h : firstFromNested? keep lists list pos = some ((l, p), x)) :
    (list < l ∨ list = l ∧ pos ≤ p) ∧ (∃ xs, lists[l]? = some xs ∧ xs[p]? = some x)
      ∧ keep x = true := by
  fun_induction firstFromNested? keep lists list pos with
  | case1 list pos hl i y hf =>
    obtain ⟨⟨rfl, rfl⟩, rfl⟩ := h
    have := of_firstFrom?_eq_some hf
    exact ⟨.inr ⟨rfl, this.1⟩, ⟨_, Array.getElem?_eq_getElem hl, this.2.1⟩, this.2.2⟩
  | case2 list pos hl hf ih =>
    have := ih h
    exact ⟨by omega, this.2⟩
  | case3 => cases h

/-- An accepted entry at or past the start is found, unless one before it is. -/
theorem exists_firstFrom?_of_keep {keep : α → Bool} {xs : Array α} {start j : Nat} {y : α}
    (hj : start ≤ j) (hy : xs[j]? = some y) (hk : keep y = true) :
    ∃ i x, firstFrom? keep xs start = some (i, x) ∧ i ≤ j := by
  fun_induction firstFrom? keep xs start with
  | case1 start hs hks => exact ⟨start, xs[start], rfl, hj⟩
  | case2 start hs hks ih =>
    have hne : start ≠ j := by
      rintro rfl
      rw [Array.getElem?_eq_getElem hs, Option.some.injEq] at hy
      exact hks (by rw [hy, hk])
    exact ih (by omega)
  | case3 start hs =>
    have hlt : j < xs.size := (Array.getElem?_eq_some_iff.1 hy).1
    omega

/-- An accepted entry at or past the start of the scan is found, unless one before it is. -/
theorem exists_firstFromNested?_of_keep {keep : α → Bool} {lists : Array (Array α)}
    {list pos i j : Nat} {xs : Array α} {y : α} (hij : list < i ∨ list = i ∧ pos ≤ j)
    (hxs : lists[i]? = some xs) (hy : xs[j]? = some y) (hk : keep y = true) :
    ∃ l p x, firstFromNested? keep lists list pos = some ((l, p), x) ∧ (l < i ∨ l = i ∧ p ≤ j) := by
  fun_induction firstFromNested? keep lists list pos with
  | case1 list pos hl p x hf =>
    refine ⟨list, p, x, rfl, ?_⟩
    rcases hij with hlt | ⟨rfl, hpos⟩
    · exact .inl hlt
    · obtain rfl : lists[list] = xs := by simpa [Array.getElem?_eq_getElem hl] using hxs
      obtain ⟨p', x', hf', hle⟩ := exists_firstFrom?_of_keep hpos hy hk
      rw [hf, Option.some.injEq, Prod.mk.injEq] at hf'
      exact .inr ⟨rfl, hf'.1 ▸ hle⟩
  | case2 list pos hl hf ih =>
    rcases hij with hlt | ⟨rfl, hpos⟩
    · exact ih (by omega)
    · obtain rfl : lists[list] = xs := by simpa [Array.getElem?_eq_getElem hl] using hxs
      obtain ⟨p, x, hf', -⟩ := exists_firstFrom?_of_keep hpos hy hk
      rw [hf] at hf'
      exact absurd hf' (by simp)
  | case3 list pos hl =>
    have hlt : i < lists.size := (Array.getElem?_eq_some_iff.1 hxs).1
    omega

/-! ## What a scan leaves

A find is the first of the accepted entries that are left, and the others follow it. -/

theorem filter_drop_eq_of_firstFrom? (keep : α → Bool) (xs : Array α) (start : Nat) :
    (xs.toList.drop start).filter keep =
      match firstFrom? keep xs start with
      | some (i, x) => x :: (xs.toList.drop (i + 1)).filter keep
      | none => [] := by
  fun_induction firstFrom? keep xs start with
  | case1 start hs hk =>
    rw [List.drop_eq_getElem_cons (by simpa using hs), List.filter_cons_of_pos (by simpa using hk)]
    simp
  | case2 start hs hk ih =>
    rw [List.drop_eq_getElem_cons (by simpa using hs), List.filter_cons_of_neg (by simpa using hk)]
    exact ih
  | case3 start hs =>
    rw [List.drop_eq_nil_of_le (by simpa using hs)]
    rfl

theorem entriesFrom_zero (lists : Array (Array α)) :
    entriesFrom lists 0 0 = lists.toList.flatMap Array.toList := by
  unfold entriesFrom
  rcases lists with ⟨_ | ⟨list, lists⟩⟩ <;> simp

/-- At the end of one sequence the next one begins. -/
theorem entriesFrom_eq_append (lists : Array (Array α)) {list : Nat} (h : list < lists.size)
    (pos : Nat) :
    entriesFrom lists list pos = lists[list].toList.drop pos ++ entriesFrom lists (list + 1) 0 := by
  unfold entriesFrom
  rw [Array.getElem?_eq_getElem h]
  by_cases h' : list + 1 < lists.size
  · rw [Array.getElem?_eq_getElem h', List.drop_eq_getElem_cons (i := list + 1) (by simpa using h')]
    simp
  · have hnil (k : Nat) (hk : list < k) : lists.toList.drop k = [] :=
      List.drop_eq_nil_of_le (by simp; omega)
    simp [Array.getElem?_eq_none (Nat.le_of_not_lt h'), hnil _ (Nat.lt_add_one list),
      hnil (list + 1 + 1) (by omega)]

theorem filter_entriesFrom_eq_of_firstFromNested? (keep : α → Bool) (lists : Array (Array α))
    (list pos : Nat) :
    (entriesFrom lists list pos).filter keep =
      match firstFromNested? keep lists list pos with
      | some ((l, p), x) => x :: (entriesFrom lists l (p + 1)).filter keep
      | none => [] := by
  fun_induction firstFromNested? keep lists list pos with
  | case1 list pos hl i x hf =>
    have := filter_drop_eq_of_firstFrom? keep lists[list] pos
    rw [hf] at this
    simp only [entriesFrom_eq_append lists hl, List.filter_append, this, List.cons_append]
  | case2 list pos hl hf ih =>
    have := filter_drop_eq_of_firstFrom? keep lists[list] pos
    rw [hf] at this
    rw [entriesFrom_eq_append lists hl, List.filter_append, this, List.nil_append]
    exact ih
  | case3 list pos hl =>
    have hnil : lists.toList.drop (list + 1) = [] := List.drop_eq_nil_of_le (by simp; omega)
    simp [entriesFrom, Array.getElem?_eq_none (Nat.le_of_not_lt hl), hnil]

end Viewership
