/-
# Viewership.Proofs.Roster.Enumeration -- lists that name each viewer of a kind once

A list enumerates a kind of viewers if it names each of them once, by whichever of its handles, and
names nobody else. The rows of a coherent roster enumerate who is on it, in an order that depends on
who left before. What a removal does can be said without that order: up to a permutation it leaves
out the one row in which the viewer stood.
-/
import Viewership.Proofs.Roster.Coherence

namespace Viewership

universe u

variable {P : Type u} [Viewer P]

/-! ## No two equal viewers -/

/-- Among viewers that all differ, at most one is equal to `v`. -/
theorem countP_beq_of_distinct {vs : List P} (h : vs.Pairwise fun x y => (x == y) = false) (v : P) :
    vs.countP (· == v) = if vs.any (· == v) then 1 else 0 := by
  induction vs with
  | nil => rfl
  | cons x vs ih =>
    obtain ⟨hx, hvs⟩ := List.pairwise_cons.1 h
    rw [List.countP_cons, ih hvs, List.any_cons]
    cases hxv : x == v with
    | false => simp
    | true =>
      have hnone : vs.any (· == v) = false := by
        rw [List.any_eq_false]
        intro y hy hyv
        have hxy : (x == y) = true := BEq.trans hxv (BEq.symm hyv)
        rw [hx y hy] at hxy
        exact Bool.false_ne_true hxy
      simp [hnone]

/-- Among viewers that all differ, leaving out those equal to `v` leaves out the one that is. -/
theorem filter_not_beq_of_distinct {l m : List P} {x v : P}
    (h : (l ++ x :: m).Pairwise fun y z => (y == z) = false) (hxv : (x == v) = true) :
    (l ++ x :: m).filter (fun y => !(y == v)) = l ++ m := by
  have hmid := (List.perm_middle.pairwise_iff
    (fun {y z} (hyz : (y == z) = false) => by rw [BEq.comm, hyz])).1 h
  have hkeep (y : P) (hy : y ∈ l ++ m) : (!(y == v)) = true := by
    rw [BEq.comm, ← BEq.congr_left hxv, List.rel_of_pairwise_cons hmid hy]
    rfl
  rw [List.filter_append, List.filter_cons_of_neg (by simp [hxv]), ← List.filter_append,
    List.filter_eq_self.2 hkeep]

/-! ## Enumerations -/

/-- The list names the viewers of the kind `p`, each of them once, and nobody else. -/
structure Enumerates (vs : List P) (p : P → Bool) : Prop where
  distinct : vs.Pairwise fun x y => (x == y) = false
  any_beq (v : P) : vs.any (· == v) = p v

theorem Enumerates.countP_beq {vs : List P} {p : P → Bool} (h : Enumerates vs p) (v : P) :
    vs.countP (· == v) = if p v then 1 else 0 := by
  rw [countP_beq_of_distinct h.distinct v, h.any_beq v]

theorem Enumerates.cons {vs : List P} {p : P → Bool} (h : Enumerates vs p) {x : P}
    (hx : p x = false) : Enumerates (x :: vs) fun v => p v || x == v where
  distinct := by
    refine List.pairwise_cons.2 ⟨?_, h.distinct⟩
    intro y hy
    rw [← h.any_beq x, List.any_eq_false] at hx
    rw [BEq.comm, Bool.eq_false_iff]
    exact hx y hy
  any_beq v := by rw [List.any_cons, h.any_beq v, Bool.or_comm]

/-- Leaving viewers out leaves an enumeration of the others, if equal viewers are left out together. -/
theorem Enumerates.filter {vs : List P} {p : P → Bool} (h : Enumerates vs p) {q : P → Bool}
    (hq : ∀ {x v}, (x == v) = true → q x = q v) :
    Enumerates (vs.filter q) fun v => p v && q v where
  distinct := h.distinct.filter q
  any_beq v := by
    have hqv (x : P) : (q x && x == v) = (x == v && q v) := by
      cases hxv : x == v with
      | true => rw [hq hxv, Bool.and_comm]
      | false => rw [Bool.and_false, Bool.false_and]
    rw [List.any_filter, ← h.any_beq v]
    simp only [hqv]
    cases q v <;> simp

namespace Roster.Coherent

variable {r : Roster P} (h : r.Coherent)
include h

/-- The rows name everyone on the roster, each of them once. -/
theorem enumerates_rows : Enumerates r.rows.toList r.contains where
  distinct := by
    rw [List.pairwise_iff_getElem]
    intro i j hi hj hij
    rw [Bool.eq_false_iff]
    intro heq
    have hi : r.rows[i]? = some r.rows.toList[i] := by simp
    have hj : r.rows[j]? = some r.rows.toList[j] := by simp
    exact absurd (h.row_unique hi hj heq) (Nat.ne_of_lt hij)
  any_beq v := by
    rw [Bool.eq_iff_iff, h.contains_iff_exists_mem v, List.any_eq_true]
    simp only [Array.mem_toList_iff]

/-- Up to the order of the rows, a removal leaves out the row of the viewer. -/
theorem rows_remove_perm (v : P) :
    (r.remove v).2.rows.toList.Perm (r.rows.toList.filter fun x => !(x == v)) := by
  have hdistinct := h.enumerates_rows.distinct
  cases hv : r.index[v]? with
  | none =>
    have hrow : r.rowOf? v = none := (h.index_eq_rowOf? v).symm.trans hv
    rw [rowOf?, Array.findIdx?_eq_none_iff] at hrow
    have hkeep (x : P) (hx : x ∈ r.rows.toList) : (!(x == v)) = true := by
      rw [hrow x (Array.mem_toList_iff.1 hx)]
      rfl
    rw [remove_of_index_eq_none hv, List.filter_eq_self.2 hkeep]
  | some row =>
    obtain ⟨l, x, m, -, hxv, hrows, hleft⟩ :=
      h.exists_split_of_rowOf? ((h.index_eq_rowOf? v).symm.trans hv)
    rw [hrows] at hdistinct
    rw [hleft, hrows, filter_not_beq_of_distinct hdistinct hxv]
    -- the last of the rows behind comes first, and the others follow it
    refine List.Perm.append_left l ?_
    rcases List.eq_nil_or_concat m with rfl | ⟨m, y, rfl⟩
    · exact .refl _
    · simpa using (List.perm_append_singleton y m).symm

end Roster.Coherent

end Viewership
