/-
# Viewership.Proofs.Roster.Coherence -- the rows and the index of a roster agree

A roster keeps every viewer twice, as an entry of a row and as a key of the index. `Coherent` says
that the two never disagree, and the operations keep it so. With it a roster can be read from its
rows alone: who is on it, which row a viewer has, and what is left when one leaves.

The one delicate step is `remove`. The last row moves into the freed one, and its entry in the index
is rewritten only after the key of the removed viewer has gone; `getElem?_index_remove` is what the
index says afterwards, whether or not the freed row was itself the last.
-/
import Viewership.Roster.Basic

namespace Viewership

universe u

/-! ## Moving the last entry into a freed place -/

section SwapRemove

variable {α : Type u}

theorem size_swapRemove {xs : Array α} {i : Nat} (h : i < xs.size) :
    (swapRemove xs i).size = xs.size - 1 := by
  simp [swapRemove, h]

/-- The last entry stands in the freed place, and every other one keeps its own. -/
theorem getElem?_swapRemove {xs : Array α} {i : Nat} (h : i < xs.size) (j : Nat) :
    (swapRemove xs i)[j]? =
      if j = xs.size - 1 then none else if j = i then xs[xs.size - 1]? else xs[j]? := by
  have hlast : xs[xs.size - 1]? = some xs[xs.size - 1] := Array.getElem?_eq_getElem (by omega)
  simp only [swapRemove, h, dif_pos, Array.getElem?_pop, Array.size_set, Array.getElem?_set,
    Array.back_eq_getElem]
  by_cases hend : j = xs.size - 1
  · rw [if_pos hend, if_neg (by omega)]
  · rw [if_neg hend]
    by_cases hj : j < xs.size - 1
    · rw [if_pos hj, hlast]
      simp only [eq_comm]
    · have hout : xs[j]? = none := Array.getElem?_eq_none (by omega)
      rw [if_neg hj, if_neg (by omega), hout]

/-- What stood behind the freed place follows it, its last entry first. -/
theorem toList_swapRemove (l : List α) (x : α) (m : List α) :
    (swapRemove (l ++ x :: m).toArray l.length).toList
      = l ++ (m.getLast?.toList ++ m.dropLast) := by
  rcases List.eq_nil_or_concat m with rfl | ⟨m, y, rfl⟩
  · simp [swapRemove]
  · have hlast : (x :: (m ++ [y])).getLast (by simp) = y := by
      rw [List.getLast_cons (by simp), List.getLast_concat]
    simp [swapRemove, hlast, List.dropLast_cons_of_ne_nil]

end SwapRemove

namespace Roster

variable {P : Type u} [Viewer P]

/-- The row in which a viewer equal to `v` stands, by looking at the rows themselves. -/
def rowOf? (r : Roster P) (v : P) : Option Nat := r.rows.findIdx? (· == v)

/-- The index sends a viewer to a row exactly when an equal viewer stands there, and it has one key
for each row. -/
structure Coherent (r : Roster P) : Prop where
  index_eq_some_iff (v : P) (i : Nat) :
    r.index[v]? = some i ↔ ∃ x, r.rows[i]? = some x ∧ (x == v) = true
  size_index : r.index.size = r.rows.size

/-! ## Reading a coherent roster -/

namespace Coherent

variable {r : Roster P} (h : r.Coherent)
include h

/-- No two rows hold equal viewers. -/
theorem row_unique {i j : Nat} {x y : P} (hi : r.rows[i]? = some x) (hj : r.rows[j]? = some y)
    (hxy : (x == y) = true) : i = j := by
  have hix : r.index[y]? = some i := (h.index_eq_some_iff y i).2 ⟨x, hi, hxy⟩
  have hjx : r.index[y]? = some j := (h.index_eq_some_iff y j).2 ⟨y, hj, BEq.rfl⟩
  exact Option.some.inj (hix.symm.trans hjx)

/-- Who is on the roster stands in some row. -/
theorem contains_iff_exists_row (v : P) :
    r.contains v = true ↔ ∃ (i : Nat) (x : P), r.rows[i]? = some x ∧ (x == v) = true := by
  rw [contains_eq_index, Std.ExtHashMap.contains_eq_isSome_getElem?, Option.isSome_iff_exists]
  exact exists_congr fun i => h.index_eq_some_iff v i

theorem contains_iff_exists_mem (v : P) :
    r.contains v = true ↔ ∃ x ∈ r.rows, (x == v) = true := by
  rw [h.contains_iff_exists_row v]
  constructor
  · rintro ⟨i, x, hx, hxv⟩
    exact ⟨x, Array.mem_of_getElem? hx, hxv⟩
  · rintro ⟨x, hx, hxv⟩
    obtain ⟨i, hi⟩ := Array.getElem?_of_mem hx
    exact ⟨i, x, hi, hxv⟩

theorem contains_of_row {i : Nat} {x : P} (hi : r.rows[i]? = some x) : r.contains x = true :=
  (h.contains_iff_exists_row x).2 ⟨i, x, hi, BEq.rfl⟩

/-- The index finds the row that a search of the rows would find. -/
theorem index_eq_rowOf? (v : P) : r.index[v]? = r.rowOf? v := by
  cases hrow : r.rowOf? v with
  | none =>
    rw [rowOf?, Array.findIdx?_eq_none_iff] at hrow
    cases hidx : r.index[v]? with
    | none => rfl
    | some i =>
      obtain ⟨x, hx, hxv⟩ := (h.index_eq_some_iff v i).1 hidx
      simp [hrow x (Array.mem_of_getElem? hx)] at hxv
  | some i =>
    obtain ⟨hi, hiv, -⟩ := Array.findIdx?_eq_some_iff_getElem.1 hrow
    exact (h.index_eq_some_iff v i).2 ⟨r.rows[i], Array.getElem?_eq_getElem hi, hiv⟩

theorem rowOf?_eq_some_iff (v : P) (i : Nat) :
    r.rowOf? v = some i ↔ ∃ x, r.rows[i]? = some x ∧ (x == v) = true := by
  rw [← h.index_eq_rowOf? v, h.index_eq_some_iff]

theorem contains_eq_isSome_rowOf? (v : P) : r.contains v = (r.rowOf? v).isSome := by
  rw [contains_eq_index, Std.ExtHashMap.contains_eq_isSome_getElem?, h.index_eq_rowOf?]

end Coherent

/-! ## What the operations do -/

@[simp]
theorem contains_emptyWithCapacity (capacity : Nat) (v : P) :
    (emptyWithCapacity capacity : Roster P).contains v = false := by
  simp [contains_eq_index, emptyWithCapacity]

theorem insert_fst (r : Roster P) (v : P) : (r.insert v).1 = !r.contains v := by
  cases hv : r.index.contains v <;> simp [insert, contains_eq_index, hv]

theorem rows_insert (r : Roster P) (v : P) :
    (r.insert v).2.rows = if r.contains v then r.rows else r.rows.push v := by
  cases hv : r.index.contains v <;> simp [insert, contains_eq_index, hv]

theorem contains_insert (r : Roster P) (v w : P) :
    (r.insert v).2.contains w = (r.contains w || v == w) := by
  cases hv : r.index.contains v with
  | true =>
    cases hvw : v == w with
    | true => simp [insert, contains_eq_index, hv, ← Std.ExtHashMap.contains_congr hvw]
    | false => simp [insert, contains_eq_index, hv]
  | false => simp [insert, contains_eq_index, hv, Std.ExtHashMap.contains_insert, Bool.or_comm]

theorem remove_fst (r : Roster P) (v : P) : (r.remove v).1 = r.contains v := by
  rw [contains_eq_index, Std.ExtHashMap.contains_eq_isSome_getElem?]
  cases hv : r.index[v]? with
  | none => simp [remove, hv]
  | some row => cases hm : (swapRemove r.rows row)[row]? <;> simp [remove, hv, hm]

theorem remove_of_index_eq_none {r : Roster P} {v : P} (hv : r.index[v]? = none) :
    r.remove v = (false, r) := by
  simp [remove, hv]

theorem rows_remove_of_index_eq_some {r : Roster P} {v : P} {row : Nat}
    (hv : r.index[v]? = some row) : (r.remove v).2.rows = swapRemove r.rows row := by
  cases hm : (swapRemove r.rows row)[row]? <;> simp [remove, hv, hm]

theorem size_index_remove {r : Roster P} {v : P} {row : Nat} (hv : r.index[v]? = some row) :
    (r.remove v).2.index.size = r.index.size - 1 := by
  have hmem : v ∈ r.index := by
    rw [← Std.ExtHashMap.contains_iff_mem, Std.ExtHashMap.contains_eq_isSome_getElem?, hv]
    rfl
  have herase : (r.index.erase v).size = r.index.size - 1 := by
    rw [Std.ExtHashMap.size_erase, if_pos hmem]
  cases hm : (swapRemove r.rows row)[row]? <;>
    simp only [Roster.remove, hv, hm, Std.ExtHashMap.size_modify, herase]

theorem contains_remove (r : Roster P) (v w : P) :
    (r.remove v).2.contains w = (r.contains w && !(v == w)) := by
  cases hv : r.index[v]? with
  | none =>
    rw [remove_of_index_eq_none hv]
    cases hvw : v == w with
    | true =>
      have : r.contains w = false := by
        rw [contains_eq_index, ← Std.ExtHashMap.contains_congr hvw,
          Std.ExtHashMap.contains_eq_isSome_getElem?, hv, Option.isSome_none]
      simp [this]
    | false => simp
  | some row =>
    cases hm : (swapRemove r.rows row)[row]? <;>
      simp [remove, hv, hm, contains_eq_index, Std.ExtHashMap.contains_erase, Bool.and_comm]

/-! ## The operations keep a roster coherent -/

theorem coherent_emptyWithCapacity (capacity : Nat) :
    (emptyWithCapacity capacity : Roster P).Coherent where
  index_eq_some_iff v i := by simp [emptyWithCapacity]
  size_index := by simp [emptyWithCapacity]

namespace Coherent

variable {r : Roster P} (h : r.Coherent)
include h

protected theorem insert (v : P) : (r.insert v).2.Coherent := by
  cases hv : r.index.contains v with
  | true => simpa [Roster.insert, hv] using h
  | false =>
    have hnone : r.index[v]? = none := by
      rwa [Std.ExtHashMap.contains_eq_isSome_getElem?, Option.isSome_eq_false_iff,
        Option.isNone_iff_eq_none] at hv
    have hmem : v ∉ r.index := by simpa [← Std.ExtHashMap.contains_iff_mem] using hv
    refine ⟨?_, ?_⟩
    · intro w i
      simp only [Roster.insert, hv, Bool.false_eq_true, if_false, Std.ExtHashMap.getElem?_insert,
        Array.getElem?_push]
      cases hvw : v == w with
      | true =>
        -- an old row with a viewer equal to `w` would be one with a viewer equal to `v`
        have hold : ¬ ∃ x, r.rows[i]? = some x ∧ (x == w) = true := by
          rw [← h.index_eq_some_iff w i, ← Std.ExtHashMap.getElem?_congr hvw, hnone]
          simp
        rw [if_pos rfl]
        by_cases hi : i = r.rows.size
        · simp [hi, hvw]
        · rw [if_neg hi]
          constructor
          · intro heq
            exact absurd (Option.some.inj heq).symm hi
          · intro hex
            exact absurd hex hold
      | false =>
        rw [if_neg Bool.false_ne_true, h.index_eq_some_iff w i]
        by_cases hi : i = r.rows.size
        · simp [hi, hvw]
        · rw [if_neg hi]
    · simp [Roster.insert, hv, Std.ExtHashMap.size_insert, hmem, h.size_index]

/-- The index after a removal: the key of the removed viewer has gone, and the viewer that was last
has the freed row. -/
theorem getElem?_index_remove {v last : P} {row : Nat} (hv : r.index[v]? = some row)
    (hlast : r.rows[r.rows.size - 1]? = some last) (w : P) :
    (r.remove v).2.index[w]? =
      if v == w then none else if last == w then some row else r.index[w]? := by
  obtain ⟨x, hx, hxv⟩ := (h.index_eq_some_iff v row).1 hv
  have hrow : row < r.rows.size := (Array.getElem?_eq_some_iff.1 hx).1
  have hat : (swapRemove r.rows row)[row]? =
      if row = r.rows.size - 1 then none else some last := by
    rw [getElem?_swapRemove hrow, if_pos rfl, hlast]
  by_cases hend : row = r.rows.size - 1
  · rw [if_pos hend] at hat
    -- the freed row was the last, so `last` is the removed viewer
    obtain rfl : x = last := by simpa [hend, hlast] using hx.symm
    simp only [Roster.remove, hv, hat, Std.ExtHashMap.getElem?_erase]
    cases hvw : v == w with
    | true => simp
    | false => simp [BEq.congr_left hxv, hvw]
  · rw [if_neg hend] at hat
    have hlastIndex : r.index[last]? = some (r.rows.size - 1) :=
      (h.index_eq_some_iff last _).2 ⟨last, hlast, BEq.rfl⟩
    have hne : (v == last) = false := by
      rw [Bool.eq_false_iff]
      intro heq
      rw [Std.ExtHashMap.getElem?_congr heq, hlastIndex] at hv
      exact hend (Option.some.inj hv).symm
    simp only [Roster.remove, hv, hat, Std.ExtHashMap.getElem?_modify,
      Std.ExtHashMap.getElem?_erase, hne, hlastIndex]
    cases hlw : last == w with
    | true => simp [← BEq.congr_right hlw, hne]
    | false => simp

theorem index_remove_eq_some_iff {v : P} {row : Nat} (hv : r.index[v]? = some row) (w : P)
    (i : Nat) :
    (r.remove v).2.index[w]? = some i
      ↔ ∃ y, (r.remove v).2.rows[i]? = some y ∧ (y == w) = true := by
  obtain ⟨x, hx, hxv⟩ := (h.index_eq_some_iff v row).1 hv
  have hrow : row < r.rows.size := (Array.getElem?_eq_some_iff.1 hx).1
  have hlast : r.rows[r.rows.size - 1]? = some r.rows[r.rows.size - 1] :=
    Array.getElem?_eq_getElem (by omega)
  have hw := h.index_eq_some_iff w i
  have huniq : ∀ j y, r.rows[j]? = some y → (y == v) = true → j = row :=
    fun j y hj hyv => h.row_unique hj hx (BEq.trans hyv (BEq.symm hxv))
  rw [h.getElem?_index_remove hv hlast w, rows_remove_of_index_eq_some hv,
    getElem?_swapRemove hrow]
  cases hvw : v == w with
  | true =>
    rw [if_pos rfl]
    constructor
    · intro hnone
      cases hnone
    · rintro ⟨y, hy, hyw⟩
      have hyv : (y == v) = true := BEq.trans hyw (BEq.symm hvw)
      by_cases hend : i = r.rows.size - 1
      · rw [if_pos hend] at hy
        cases hy
      · rw [if_neg hend] at hy
        by_cases hi : i = row
        · rw [if_pos hi] at hy
          exact absurd (hi.trans (huniq _ y hy hyv).symm) hend
        · rw [if_neg hi] at hy
          exact absurd (huniq i y hy hyv) hi
  | false =>
    have hxw : (x == w) = false := by rw [BEq.congr_left hxv, hvw]
    cases hlw : r.rows[r.rows.size - 1] == w with
    | true =>
      have hne : row ≠ r.rows.size - 1 := by
        intro heq
        rw [heq, hlast] at hx
        rw [← Option.some.inj hx, hlw] at hxw
        cases hxw
      rw [if_neg Bool.false_ne_true, if_pos rfl]
      constructor
      · intro heq
        obtain rfl := Option.some.inj heq
        rw [if_neg hne, if_pos rfl]
        exact ⟨_, hlast, hlw⟩
      · rintro ⟨y, hy, hyw⟩
        by_cases hi : i = row
        · rw [hi]
        · by_cases hend : i = r.rows.size - 1
          · rw [if_pos hend] at hy
            cases hy
          · -- only the last row held a viewer equal to `w`
            rw [if_neg hend, if_neg hi] at hy
            exact absurd (h.row_unique hy hlast (BEq.trans hyw (BEq.symm hlw))) hend
    | false =>
      rw [if_neg Bool.false_ne_true, if_neg Bool.false_ne_true, hw]
      by_cases hend : i = r.rows.size - 1
      · rw [if_pos hend, hend, hlast]
        simp [hlw]
      · rw [if_neg hend]
        by_cases hi : i = row
        · rw [if_pos hi, hi, hx, hlast]
          simp [hxw, hlw]
        · rw [if_neg hi]

protected theorem remove (v : P) : (r.remove v).2.Coherent := by
  cases hv : r.index[v]? with
  | none => simpa [remove_of_index_eq_none hv] using h
  | some row =>
    obtain ⟨x, hx, -⟩ := (h.index_eq_some_iff v row).1 hv
    have hrow : row < r.rows.size := (Array.getElem?_eq_some_iff.1 hx).1
    refine ⟨h.index_remove_eq_some_iff hv, ?_⟩
    rw [size_index_remove hv, rows_remove_of_index_eq_some hv, size_swapRemove hrow, h.size_index]

/-- A removal takes out one row; what stood behind it follows, the last row first. -/
theorem exists_split_of_rowOf? {v : P} {row : Nat} (hv : r.rowOf? v = some row) :
    ∃ l x m, l.length = row ∧ (x == v) = true ∧ r.rows.toList = l ++ x :: m
      ∧ (r.remove v).2.rows.toList = l ++ (m.getLast?.toList ++ m.dropLast) := by
  obtain ⟨x, hx, hxv⟩ := (h.rowOf?_eq_some_iff v row).1 hv
  obtain ⟨hlt, hget⟩ := Array.getElem?_eq_some_iff.1 hx
  have hlt' : row < r.rows.toList.length := by simpa using hlt
  have hlen : (r.rows.toList.take row).length = row := by
    rw [List.length_take]
    omega
  have hsplit : r.rows.toList
      = r.rows.toList.take row ++ x :: r.rows.toList.drop (row + 1) := by
    rw [← hget, ← Array.getElem_toList, ← List.drop_eq_getElem_cons hlt', List.take_append_drop]
  refine ⟨_, x, _, hlen, hxv, hsplit, ?_⟩
  have hrows : r.rows = (r.rows.toList.take row ++ x :: r.rows.toList.drop (row + 1)).toArray := by
    rw [← hsplit]
  rw [rows_remove_of_index_eq_some ((h.index_eq_rowOf? v).trans hv)]
  calc (swapRemove r.rows row).toList
      = (swapRemove (r.rows.toList.take row ++ x :: r.rows.toList.drop (row + 1)).toArray
          (r.rows.toList.take row).length).toList := by rw [← hrows, hlen]
    _ = _ := toList_swapRemove _ x _

end Coherent

end Roster

end Viewership
