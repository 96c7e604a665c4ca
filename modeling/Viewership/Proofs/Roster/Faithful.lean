/-
# Viewership.Proofs.Roster.Faithful -- rows and index after any use of a roster

`Coherent` is kept by every operation, so it holds of every roster that was made empty and then used
in any way. This module says what that means to a caller: each row has a viewer of its own and a key
of its own, every question about the roster has one answer however it is asked, and a removal never
reaches for a row that is not there.

A removal changes the rows first and the index afterwards. In between the key of the removed viewer
has gone while the viewer that moved still has the number of its old row, and only if its key is
found can that be put right. `Coherent.remove_found` says that it is.
-/
import Viewership.Handle
import Viewership.Proofs.Roster.Coherence
import Viewership.Roster.Script

namespace Viewership.Roster

universe u

variable {P : Type u} [Viewer P]

/-! ## Any use of a roster -/

theorem Coherent.perform {r : Roster P} (h : r.Coherent) (c : Command P) :
    (r.perform c).2.Coherent := by
  cases c with
  | insert v => exact h.insert v
  | remove v => exact h.remove v
  | contains v => exact h
  | get row => exact h
  | size => exact h
  | isEmpty => exact h
  | rows => exact h

theorem Coherent.run {r : Roster P} (h : r.Coherent) (cs : List (Command P)) :
    (r.run cs).2.Coherent := by
  induction cs generalizing r with
  | nil => exact h
  | cons c cs ih => exact ih (h.perform c)

/-! ## Asking in different ways -/

theorem isEmpty_iff_size_eq_zero (r : Roster P) : r.isEmpty = true ↔ r.size = 0 := by
  rw [isEmpty, Array.isEmpty_iff_size_eq_zero, size]

theorem isSome_get?_iff (r : Roster P) (i : Nat) : (r.get? i).isSome = true ↔ i < r.size := by
  simp [get?, size]

namespace Coherent

variable {r : Roster P} (h : r.Coherent)
include h

theorem index_eq_some_iff_getElem (v : P) (i : Nat) :
    r.index[v]? = some i ↔ ∃ hi : i < r.rows.size, (r.rows[i] == v) = true := by
  rw [h.index_eq_some_iff v i]
  constructor
  · rintro ⟨x, hx, hxv⟩
    obtain ⟨hi, rfl⟩ := Array.getElem?_eq_some_iff.1 hx
    exact ⟨hi, hxv⟩
  · rintro ⟨hi, hv⟩
    exact ⟨r.rows[i], Array.getElem?_eq_getElem hi, hv⟩

theorem isEmpty_iff_forall_not_contains :
    r.isEmpty = true ↔ ∀ v, r.contains v = false := by
  rw [isEmpty_iff_size_eq_zero]
  constructor
  · intro hzero v
    rw [Bool.eq_false_iff]
    intro hv
    obtain ⟨i, x, hx, -⟩ := (h.contains_iff_exists_row v).1 hv
    have hlt : i < r.rows.size := (Array.getElem?_eq_some_iff.1 hx).1
    have hzero : r.rows.size = 0 := hzero
    omega
  · intro hnone
    show r.rows.size = 0
    rcases Nat.eq_zero_or_pos r.rows.size with hzero | hpos
    · exact hzero
    · have hfirst := h.contains_of_row (Array.getElem?_eq_getElem hpos)
      rw [hnone] at hfirst
      cases hfirst

/-! ## Between the two halves of a removal -/

/-- A removal that finds its viewer frees a row that is there. The viewer that moves into it, if one
does, still has a key once the key of the removed viewer has gone, and the key then says the row. -/
theorem remove_found {v : P} (hv : (r.remove v).1 = true) :
    ∃ row, r.index[v]? = some row ∧ row < r.rows.size
      ∧ (r.remove v).2.rows = swapRemove r.rows row
      ∧ ∀ moved, (swapRemove r.rows row)[row]? = some moved →
          (r.index.erase v)[moved]? = some (r.rows.size - 1)
            ∧ (r.remove v).2.index[moved]? = some row := by
  rw [remove_fst, contains_eq_index, Std.ExtHashMap.contains_eq_isSome_getElem?,
    Option.isSome_iff_exists] at hv
  obtain ⟨row, hrow⟩ := hv
  obtain ⟨hlt, hx⟩ := (h.index_eq_some_iff_getElem v row).1 hrow
  refine ⟨row, hrow, hlt, rows_remove_of_index_eq_some hrow, ?_⟩
  intro moved hmoved
  rw [getElem?_swapRemove hlt, if_pos rfl] at hmoved
  split at hmoved
  · cases hmoved
  · next hne =>
    -- the moved viewer had the last row, so it is not the removed one
    have hlast : r.index[moved]? = some (r.rows.size - 1) :=
      (h.index_eq_some_iff moved _).2 ⟨moved, hmoved, BEq.rfl⟩
    have hvm : (v == moved) = false := by
      rw [Bool.eq_false_iff]
      intro heq
      rw [Std.ExtHashMap.getElem?_congr heq, hlast] at hrow
      exact hne (Option.some.inj hrow).symm
    constructor
    · rw [Std.ExtHashMap.getElem?_erase, hvm, if_neg Bool.false_ne_true, hlast]
    · rw [h.getElem?_index_remove hrow hmoved, hvm, if_neg Bool.false_ne_true, BEq.rfl, if_pos rfl]

end Coherent

/-! ## Every roster there can be -/

/-- **The rows and the index of a roster agree after any use of it.** No two rows hold equal viewers,
the index has one key for each row and sends a viewer to the one row where an equal viewer stands. A
removal that finds its viewer therefore frees a row that is there, and the key of the viewer that
moves is found and rewritten. The number of viewers, whether there are none, who is on the roster and
who stands in a row or comes in turn are answered alike. -/
theorem run_emptyWithCapacity_faithful (capacity : Nat) (cs : List (Command P)) :
    let r := ((emptyWithCapacity capacity : Roster P).run cs).2
    (∀ (i j : Nat) (x y : P), r.rows[i]? = some x → r.rows[j]? = some y → (x == y) = true → i = j) ∧
    r.index.size = r.rows.size ∧
    (∀ (v : P) (i : Nat),
      r.index[v]? = some i ↔ ∃ hi : i < r.rows.size, (r.rows[i] == v) = true) ∧
    (∀ v : P, (r.remove v).1 = true → ∃ row, r.index[v]? = some row ∧ row < r.rows.size
      ∧ (r.remove v).2.rows = swapRemove r.rows row
      ∧ ∀ moved, (swapRemove r.rows row)[row]? = some moved →
          (r.index.erase v)[moved]? = some (r.rows.size - 1)
            ∧ (r.remove v).2.index[moved]? = some row) ∧
    (r.isEmpty = true ↔ r.size = 0) ∧
    (r.isEmpty = true ↔ ∀ v, r.contains v = false) ∧
    (∀ i, (r.get? i).isSome = true ↔ i < r.size) ∧
    (∀ i, r.rows.toList[i]? = r.get? i) ∧
    (∀ v, r.contains v = true ↔ ∃ i x, r.get? i = some x ∧ (x == v) = true) := by
  intro r
  have h : r.Coherent := (coherent_emptyWithCapacity capacity).run cs
  refine ⟨?_, h.size_index, h.index_eq_some_iff_getElem, ?_, r.isEmpty_iff_size_eq_zero,
    h.isEmpty_iff_forall_not_contains, r.isSome_get?_iff, ?_, h.contains_iff_exists_row⟩
  · intro i j x y hi hj hxy
    exact h.row_unique hi hj hxy
  · intro v hv
    exact h.remove_found hv
  · intro i
    exact Array.getElem?_toList

/-- The viewer in the second of four rows leaves under another handle. The last one moves into its row
and is found there. -/
theorem run_emptyWithCapacity_faithful_moved :
    let r := ((emptyWithCapacity 2 : Roster Keyed).run
      [.insert ⟨1, "a"⟩, .insert ⟨2, "b"⟩, .insert ⟨3, "c"⟩, .insert ⟨4, "d"⟩]).2
    (r.remove ⟨2, "x"⟩).1 = true ∧
    (swapRemove r.rows 1)[1]? = some ⟨4, "d"⟩ ∧
    (r.index.erase ⟨2, "x"⟩)[(⟨4, "d"⟩ : Keyed)]? = some 3 ∧
    (r.remove ⟨2, "x"⟩).2.index[(⟨4, "d"⟩ : Keyed)]? = some 1 := by
  intro r
  have hrows : r.rows = #[⟨1, "a"⟩, ⟨2, "b"⟩, ⟨3, "c"⟩, ⟨4, "d"⟩] := by
    simp [r, run, perform, insert, emptyWithCapacity]
  have hindex : r.index[(⟨2, "x"⟩ : Keyed)]? = some 1 := by
    simp [r, run, perform, insert, emptyWithCapacity, Std.ExtHashMap.getElem_insert]
  have hfound : (r.remove ⟨2, "x"⟩).1 = true := by
    rw [remove_fst, contains_eq_index, Std.ExtHashMap.contains_eq_isSome_getElem?, hindex]
    rfl
  have hmoved : (swapRemove r.rows 1)[1]? = some ⟨4, "d"⟩ := by
    rw [hrows]
    rfl
  obtain ⟨row, hrow, -, -, hput⟩ :=
    (run_emptyWithCapacity_faithful (P := Keyed) 2 _).2.2.2.1 _ hfound
  obtain rfl : 1 = row := Option.some.inj (hindex.symm.trans hrow)
  obtain ⟨hold, hnew⟩ := hput _ hmoved
  refine ⟨hfound, hmoved, ?_, hnew⟩
  rw [hold, hrows]
  rfl

end Viewership.Roster
