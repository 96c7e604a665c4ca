/-
# Viewership.Proofs.Traversal.Occurrences -- the first few occurrences of each viewer

A list of viewers is cut down to the first occurrences of each of them, where a quota says how many
a viewer may keep. An entry is kept exactly if fewer equal ones than the quota stand before it, so
the definition looks at positions and at nothing else. A process that goes through the list once
does not count what it has passed; it lowers the quota of a viewer each time it meets it. That this
comes to the same is `firstOccurrences_cons_of_pos`.
-/
import Viewership.Viewer

namespace Viewership

universe u

variable {P : Type u} [Viewer P]

/-- The entries that stand behind fewer equal ones than their quota, in order. -/
def firstOccurrences (quota : P → Nat) (xs : List P) : List P :=
  (xs.zipIdx.filter fun (x, i) => (xs.take i).countP (· == x) < quota x).map (·.1)

/-- Equal viewers have equal quotas. -/
def Uniform (quota : P → Nat) : Prop := ∀ x y, (x == y) = true → quota x = quota y

/-- The quotas once an entry equal to `v` was met. -/
def lowered (quota : P → Nat) (v : P) : P → Nat := fun x => quota x - if v == x then 1 else 0

theorem Uniform.lowered {quota : P → Nat} (h : Uniform quota) (v : P) :
    Uniform (lowered quota v) := by
  intro x y hxy
  rw [Viewership.lowered, Viewership.lowered, h x y hxy, BEq.congr_right hxy]

/-- A viewer without a quota has nothing to lose. -/
theorem Uniform.lowered_eq_self {quota : P → Nat} (h : Uniform quota) {v : P} (hv : quota v = 0) :
    Viewership.lowered quota v = quota := by
  funext x
  rw [Viewership.lowered]
  cases hvx : v == x with
  | true => rw [← h v x hvx, hv, Nat.zero_sub]
  | false => rfl

/-! ## Entry by entry -/

@[simp]
theorem firstOccurrences_nil (quota : P → Nat) : firstOccurrences quota [] = [] := rfl

theorem firstOccurrences_cons (quota : P → Nat) (x : P) (xs : List P) :
    firstOccurrences quota (x :: xs)
      = (if 0 < quota x then [x] else []) ++ firstOccurrences (lowered quota x) xs := by
  -- behind `x` an entry has one equal one more before it if it is equal to `x`
  have hrest (p : P × Nat) :
      decide (((x :: xs).take (p.2 + 1)).countP (· == p.1) < quota p.1)
        = decide ((xs.take p.2).countP (· == p.1) < lowered quota x p.1) := by
    rw [List.take_succ_cons, List.countP_cons, lowered, decide_eq_decide]
    omega
  have htail : ((xs.zipIdx 1).filter fun p => decide (((x :: xs).take p.2).countP (· == p.1)
      < quota p.1)).map (·.1) = firstOccurrences (lowered quota x) xs := by
    rw [List.zipIdx_succ, List.filter_map, List.map_map, firstOccurrences]
    exact congrArg (List.map _) (List.filter_congr fun p _ => hrest p)
  rw [firstOccurrences, List.zipIdx_cons, List.filter_cons, ← htail]
  by_cases hx : 0 < quota x <;> simp [hx]

variable {quota : P → Nat}

theorem firstOccurrences_cons_of_pos {x : P} (hx : 0 < quota x) (xs : List P) :
    firstOccurrences quota (x :: xs) = x :: firstOccurrences (lowered quota x) xs := by
  rw [firstOccurrences_cons, if_pos hx]
  rfl

theorem firstOccurrences_cons_of_eq_zero (h : Uniform quota) {x : P} (hx : quota x = 0)
    (xs : List P) : firstOccurrences quota (x :: xs) = firstOccurrences quota xs := by
  rw [firstOccurrences_cons, hx, if_neg (Nat.lt_irrefl 0), h.lowered_eq_self hx]
  rfl

/-- Entries without a quota may be left out beforehand. -/
theorem firstOccurrences_filter (h : Uniform quota) {keep : P → Bool} {xs : List P}
    (hkeep : ∀ x, keep x = false → quota x = 0) :
    firstOccurrences quota (xs.filter keep) = firstOccurrences quota xs := by
  induction xs generalizing quota with
  | nil => rfl
  | cons x xs ih =>
    cases hx : keep x with
    | false =>
      rw [List.filter_cons_of_neg (by simp [hx]), firstOccurrences_cons_of_eq_zero h (hkeep x hx),
        ih h hkeep]
    | true =>
      have hlowered : ∀ y, keep y = false → lowered quota x y = 0 := by
        intro y hy
        rw [lowered, hkeep y hy, Nat.zero_sub]
      rw [List.filter_cons_of_pos hx, firstOccurrences_cons, firstOccurrences_cons,
        ih (h.lowered x) hlowered]

/-- Every viewer keeps all of its occurrences, or as many as its quota. -/
theorem countP_firstOccurrences (h : Uniform quota) (xs : List P) (v : P) :
    (firstOccurrences quota xs).countP (· == v) = min (xs.countP (· == v)) (quota v) := by
  induction xs generalizing quota with
  | nil => simp
  | cons x xs ih =>
    rw [firstOccurrences_cons, List.countP_append, ih (h.lowered x), List.countP_cons, lowered]
    cases hxv : x == v with
    | false => by_cases hx : 0 < quota x <;> simp [hx, hxv]
    | true =>
      rw [h x v hxv]
      by_cases hv : 0 < quota v
      · simp only [hv, hxv, if_true, List.countP_singleton]
        omega
      · simp only [hv, if_true, if_false, List.countP_nil]
        omega

end Viewership
