/-
# Viewership.Proofs.Session.Progress -- a traversal only goes forward

Rows and entries have one order, in which a traversal that nobody disturbs would come to them: the
manual rows by number, then the candidate lists, each from its front. Whatever is done to the audience
between two searches, the later one finds its viewer at a later spot. Rows may vanish under the cursor
and lists may be replaced by shorter or longer ones; the numbers that a cursor holds do not go back.

So no spot is used twice, and a traversal finds no more viewers than there were spots to find them
at: as many rows as the longest roster had that a search met, and as many entries as there were
positions in the lists of any search.
-/
import Mathlib.Data.Finset.Card
import Mathlib.Data.List.MinMax
import Viewership.Proofs.Session.AutoPhase

namespace Viewership

universe u

variable {P : Type u} [Viewer P]

/-! ## The order of the spots -/

namespace Spot

/-- The number of the row, if the spot is one. -/
def row? : Spot → Option Nat
  | .row i => some i
  | .entry _ _ => none

/-- The position in the candidate lists, if the spot is there. -/
def position? : Spot → Option (Nat × Nat)
  | .row _ => none
  | .entry list pos => some (list, pos)

/-- Whether the first spot comes before the second one: rows before entries, rows by number, and
entries list by list. -/
def Before : Spot → Spot → Prop
  | .row i, .row j => i < j
  | .row _, .entry _ _ => True
  | .entry _ _, .row _ => False
  | .entry l p, .entry l' p' => l < l' ∨ l = l' ∧ p < p'

/-- The cursor has not passed the spot. -/
def AheadOf : Spot → Cursor → Prop
  | .row i, c => ∃ row, c = .manual row ∧ row ≤ i
  | .entry list pos, c => c.Ahead list pos

/-- Ahead of a cursor just past a spot are those that come after it. -/
theorem aheadOf_next_iff (x y : Spot) : y.AheadOf x.next ↔ x.Before y := by
  cases x with
  | row i =>
    cases y with
    | row j =>
      show (∃ row, Cursor.manual (i + 1) = .manual row ∧ row ≤ j) ↔ i < j
      constructor
      · rintro ⟨row, heq, hle⟩
        have := Cursor.manual.inj heq
        omega
      · intro hlt
        exact ⟨i + 1, rfl, hlt⟩
    | entry l p => exact Iff.rfl
  | entry l p =>
    cases y with
    | row j =>
      show (∃ row, Cursor.auto l (p + 1) = .manual row ∧ row ≤ j) ↔ False
      simp
    | entry l' p' => exact ahead_next_entry_iff l p l' p'

/-- What comes after a spot ahead is ahead. -/
theorem AheadOf.trans {x y : Spot} {c : Cursor} (hx : x.AheadOf c) (hxy : x.Before y) :
    y.AheadOf c := by
  cases x with
  | row i =>
    obtain ⟨row, rfl, hle⟩ := hx
    cases y with
    | row j =>
      have hxy : i < j := hxy
      exact ⟨row, rfl, by omega⟩
    | entry l p => trivial
  | entry l p =>
    cases y with
    | row j => exact absurd hxy id
    | entry l' p' =>
      have hxy : l < l' ∨ l = l' ∧ p < p' := hxy
      exact Cursor.Ahead.trans hx (by omega)

theorem row?_eq_some_iff {x : Spot} {i : Nat} : x.row? = some i ↔ x = .row i := by
  cases x <;> simp [row?]

theorem position?_eq_some_iff {x : Spot} {z : Nat × Nat} :
    x.position? = some z ↔ x = .entry z.1 z.2 := by
  cases x <;> simp [position?, Prod.ext_iff]

theorem pairwise_rows {xs : List Spot} (h : xs.Pairwise Before) :
    (xs.filterMap row?).Pairwise (· < ·) := by
  refine h.filterMap row? ?_
  intro x y hxy i hi j hj
  obtain rfl := row?_eq_some_iff.1 hi
  obtain rfl := row?_eq_some_iff.1 hj
  exact hxy

theorem pairwise_positions {xs : List Spot} (h : xs.Pairwise Before) :
    (xs.filterMap position?).Pairwise fun z w => z.1 < w.1 ∨ z.1 = w.1 ∧ z.2 < w.2 := by
  refine h.filterMap position? ?_
  intro x y hxy z hz w hw
  obtain rfl := position?_eq_some_iff.1 hz
  obtain rfl := position?_eq_some_iff.1 hw
  exact hxy

/-- Every spot is a row or an entry. -/
theorem length_rows_add_length_positions (xs : List Spot) :
    (xs.filterMap row?).length + (xs.filterMap position?).length = xs.length := by
  induction xs with
  | nil => rfl
  | cons x xs ih =>
    cases x with
    | row i =>
      show (xs.filterMap row?).length + 1 + (xs.filterMap position?).length = xs.length + 1
      omega
    | entry l p =>
      show (xs.filterMap row?).length + ((xs.filterMap position?).length + 1) = xs.length + 1
      omega

end Spot

/-! ## One search -/

namespace Search

variable {q : Search P}

/-- The spot at which the search finds a viewer. -/
def spot? (q : Search P) : Option Spot := q.result.map (·.1)

/-- A search finds its viewer ahead of the cursor. -/
theorem aheadOf_of_result {x : Spot} {v : P} (h : q.result = some (x, v)) :
    x.AheadOf q.cursor := by
  cases x with
  | row i =>
    obtain ⟨row, hc, hle, -⟩ := Audience.of_locate_eq_row h
    exact ⟨row, hc, hle⟩
  | entry l p => exact (Audience.of_locate_eq_entry h).1

/-- What is ahead after a search comes after the spot of its find, and was ahead before. -/
theorem aheadOf_after {y : Spot} (h : y.AheadOf q.after) :
    y.AheadOf q.cursor ∧ ∀ x, q.spot? = some x → x.Before y := by
  rw [after_eq_of_result] at h
  cases hr : q.result with
  | none =>
    rw [hr] at h
    -- nothing is ahead at the end
    cases y with
    | row i => simp [Spot.AheadOf] at h
    | entry l p => exact absurd h id
  | some found =>
    obtain ⟨x, v⟩ := found
    rw [hr] at h
    have hxy : x.Before y := (Spot.aheadOf_next_iff x y).1 h
    refine ⟨(aheadOf_of_result hr).trans hxy, ?_⟩
    intro x' hx'
    obtain rfl : x = x' := by simpa [spot?, hr] using hx'
    exact hxy

/-- The viewer found is the one that stands at the spot of the find. -/
theorem stands_of_result {v : P} :
    (∀ i, q.result = some (.row i, v) → q.audience.roster.get? i = some v) ∧
    (∀ list pos, q.result = some (.entry list pos, v) →
      q.audience.candidate? list pos = some v) := by
  constructor
  · intro i h
    obtain ⟨row, -, -, hrow, -⟩ := Audience.of_locate_eq_row h
    exact hrow
  · intro list pos h
    exact (Audience.of_locate_eq_entry h).2.1

end Search

/-! ## All searches of a run -/

namespace Session

/-- The spots of the finds come one after the other in order. -/
theorem pairwise_before_spots (s : Session P) (ms : List (Move P)) :
    ((s.searches ms).filterMap Search.spot?).Pairwise Spot.Before := by
  rw [List.pairwise_filterMap]
  -- what is ahead of the cursor comes after every find made so far
  refine searches_pairwise (J := fun q c => ∀ x, q.spot? = some x →
    ∀ y : Spot, y.AheadOf c → x.Before y) ?_ ?_ s ms
  · intro q x hx y hy
    exact (Search.aheadOf_after hy).2 x hx
  · intro q q' hq
    constructor
    · intro x hx y hy
      exact hq x hx y (Search.aheadOf_after hy).1
    · intro x hx y hy
      obtain ⟨⟨y', v⟩, hr, rfl⟩ := Option.map_eq_some_iff.1 hy
      exact hq x hx y' (Search.aheadOf_of_result hr)

/-- No search has ahead of it what the run did not have ahead from the start, and what is ahead at the
end was so after every search. -/
theorem aheadOf_of_mem_searches {s : Session P} {ms : List (Move P)} {q : Search P}
    (hq : q ∈ s.searches ms) (x : Spot) :
    (x.AheadOf q.cursor → x.AheadOf s.traversal.cursor)
      ∧ (x.AheadOf (s.after ms).traversal.cursor → x.AheadOf q.after) := by
  refine (searches_invariant (I := fun qs c =>
    (x.AheadOf c → x.AheadOf s.traversal.cursor)
      ∧ ∀ q ∈ qs, (x.AheadOf q.cursor → x.AheadOf s.traversal.cursor)
        ∧ (x.AheadOf c → x.AheadOf q.after)) ?_ ⟨id, List.forall_mem_nil _⟩ ms).2 q hq
  intro qs q hqs
  obtain ⟨hcursor, hold⟩ := hqs
  have hback : x.AheadOf q.after → x.AheadOf q.cursor := fun h => (Search.aheadOf_after h).1
  refine ⟨hcursor ∘ hback, ?_⟩
  rw [List.forall_mem_append, List.forall_mem_singleton]
  refine ⟨?_, hcursor, id⟩
  intro q' hq'
  exact ⟨(hold q' hq').1, (hold q' hq').2 ∘ hback⟩

end Session

/-! ## Counting the spots -/

theorem length_le_card_of_nodup {α : Type u} [DecidableEq α] {xs : List α} {S : Finset α}
    (h : xs.Nodup) (hS : ∀ x ∈ xs, x ∈ S) : xs.length ≤ S.card := by
  rw [← List.toFinset_card_of_nodup h]
  apply Finset.card_le_card
  intro x hx
  exact hS x (List.mem_toFinset.1 hx)

namespace Audience

/-- The positions at which a candidate stands. -/
def positions (a : Audience P) : List (Nat × Nat) :=
  (List.range a.candidates.size).flatMap fun list =>
    (List.range (a.candidates[list]?.getD #[]).size).map fun pos => (list, pos)

theorem mem_positions_iff (a : Audience P) (list pos : Nat) :
    (list, pos) ∈ a.positions ↔ ∃ v, a.candidate? list pos = some v := by
  simp only [positions, candidate?, List.mem_flatMap, List.mem_range, List.mem_map, Prod.mk.injEq]
  constructor
  · rintro ⟨l, hl, p, hp, rfl, rfl⟩
    rw [Array.getElem?_eq_getElem hl] at hp ⊢
    exact ⟨_, Array.getElem?_eq_getElem hp⟩
  · rintro ⟨v, hv⟩
    obtain ⟨xs, hxs, hv⟩ := Option.bind_eq_some_iff.1 hv
    refine ⟨list, (Array.getElem?_eq_some_iff.1 hxs).1, pos, ?_, rfl, rfl⟩
    rw [hxs]
    exact (Array.getElem?_eq_some_iff.1 hv).1

end Audience

/-- The size of the largest roster that a search meets. -/
def largestRoster (qs : List (Search P)) : Nat := (qs.map (·.audience.roster.size)).foldr max 0

theorem size_le_largestRoster {qs : List (Search P)} {q : Search P} (h : q ∈ qs) :
    q.audience.roster.size ≤ largestRoster qs :=
  List.le_max_of_le' 0 (List.mem_map_of_mem h) (Nat.le_refl _)

namespace Session

theorem exists_result_of_mem_spots {qs : List (Search P)} {x : Spot}
    (h : x ∈ qs.filterMap Search.spot?) : ∃ q ∈ qs, ∃ v, q.result = some (x, v) := by
  obtain ⟨q, hq, hx⟩ := List.mem_filterMap.1 h
  obtain ⟨⟨x', v⟩, hr, rfl⟩ := Option.map_eq_some_iff.1 hx
  exact ⟨q, hq, v, hr⟩

/-- No two finds are made in one row, and each in a row of a roster that a search met. -/
theorem length_rows_le (s : Session P) (ms : List (Move P)) :
    (((s.searches ms).filterMap Search.spot?).filterMap Spot.row?).length
      ≤ largestRoster (s.searches ms) := by
  have hnodup := (Spot.pairwise_rows (pairwise_before_spots s ms)).imp Nat.ne_of_lt
  rw [← Finset.card_range (largestRoster (s.searches ms))]
  refine length_le_card_of_nodup hnodup ?_
  intro i hi
  obtain ⟨x, hx, hxi⟩ := List.mem_filterMap.1 hi
  obtain rfl := Spot.row?_eq_some_iff.1 hxi
  obtain ⟨q, hq, v, hr⟩ := exists_result_of_mem_spots hx
  have hrow : q.audience.roster.get? i = some v := Search.stands_of_result.1 i hr
  have hlt : i < q.audience.roster.size := (Array.getElem?_eq_some_iff.1 hrow).1
  exact Finset.mem_range.2 (Nat.lt_of_lt_of_le hlt (size_le_largestRoster hq))

/-- No two finds are made at one position, and each at a position of lists that a search met. -/
theorem length_positions_le (s : Session P) (ms : List (Move P)) :
    (((s.searches ms).filterMap Search.spot?).filterMap Spot.position?).length
      ≤ ((s.searches ms).flatMap (·.audience.positions)).toFinset.card := by
  have hnodup : (((s.searches ms).filterMap Search.spot?).filterMap Spot.position?).Nodup := by
    refine (Spot.pairwise_positions (pairwise_before_spots s ms)).imp ?_
    rintro z w hzw rfl
    omega
  refine length_le_card_of_nodup hnodup ?_
  rintro ⟨list, pos⟩ hz
  obtain ⟨x, hx, hxz⟩ := List.mem_filterMap.1 hz
  obtain rfl := Spot.position?_eq_some_iff.1 hxz
  obtain ⟨q, hq, v, hr⟩ := exists_result_of_mem_spots hx
  rw [List.mem_toFinset, List.mem_flatMap]
  exact ⟨q, hq, (q.audience.mem_positions_iff list pos).2 ⟨v, Search.stands_of_result.2 _ _ hr⟩⟩

/-- **A traversal goes strictly forward and is bounded.** However its searches interleave with changes
of the audience, the rows at which they find viewers increase, and so do the positions in the lists;
each find stands there at the moment of its search. The finds are no more than the largest roster had
rows at a search, and the positions that some search's lists had. -/
theorem strict_progress (s : Session P) (ms : List (Move P)) :
    let qs := s.searches ms
    let spots := qs.filterMap Search.spot?
    (spots.filterMap Spot.row?).Pairwise (· < ·) ∧
    (spots.filterMap Spot.position?).Pairwise (fun z w => z.1 < w.1 ∨ z.1 = w.1 ∧ z.2 < w.2) ∧
    (∀ q ∈ qs, ∀ v,
      (∀ i, q.result = some (.row i, v) → q.audience.roster.get? i = some v) ∧
      (∀ list pos, q.result = some (.entry list pos, v) →
        q.audience.candidate? list pos = some v)) ∧
    (qs.filterMap Search.found?).length
      ≤ largestRoster qs + (qs.flatMap (·.audience.positions)).toFinset.card := by
  intro qs spots
  have hspots : spots.Pairwise Spot.Before := pairwise_before_spots s ms
  refine ⟨Spot.pairwise_rows hspots, Spot.pairwise_positions hspots,
    fun q _ v => Search.stands_of_result, ?_⟩
  calc (qs.filterMap Search.found?).length
      = ((qs.filterMap Search.result).map (·.2)).length := by
        rw [List.map_filterMap, funext Search.found?_eq_map_result]
    _ = spots.length := by
        rw [List.length_map, ← List.length_map (f := (·.1)), List.map_filterMap]
        rfl
    _ = (spots.filterMap Spot.row?).length + (spots.filterMap Spot.position?).length :=
        (Spot.length_rows_add_length_positions spots).symm
    _ ≤ largestRoster qs + (qs.flatMap (·.audience.positions)).toFinset.card :=
        Nat.add_le_add (length_rows_le s ms) (length_positions_le s ms)

end Session

end Viewership
