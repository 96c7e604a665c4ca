/-
# Viewership.Proofs.Roster.Listing -- a roster answers as a plain list would

A roster never searches its rows. It trusts the row numbers in its index, which removals have moved
about, and a number that was not put right would show only many calls later. The second side here has
nothing that could go wrong: `Listing` keeps the viewers in a list and goes through all of it for
every call. The main statement says that no sequence of calls can tell the two apart.

Handles are compared as such, so the statement also says which of several equal handles a roster
hands back: the one that came with the last insertion that was accepted. The viewers keep their row
numbers for as long as they stay, except for the last one, which moves into a freed row.
-/
import Viewership.Handle
import Viewership.Proofs.Roster.Enumeration
import Viewership.Proofs.Roster.Faithful
import Viewership.Roster.Script

namespace Viewership.Roster

universe u

variable {P : Type u} [Viewer P]

/-! ## A list of viewers -/

namespace Listing

/-- Appends `v`, unless an equal viewer is listed. -/
def insert (l : List P) (v : P) : Bool × List P :=
  if l.any (· == v) then (false, l) else (true, l ++ [v])

/-- Overwrites the first viewer equal to `v` by the last one, and drops the last. -/
def remove (l : List P) (v : P) : Bool × List P :=
  match l.findIdx? (· == v), l.getLast? with
  | some i, some last => (true, (l.set i last).dropLast)
  | _, _ => (false, l)

/-- Carries out a command. -/
def perform (l : List P) : Command P → Answer P × List P
  | .insert v => let (added, l) := insert l v; (.flag added, l)
  | .remove v => let (removed, l) := remove l v; (.flag removed, l)
  | .contains v => (.flag (l.any (· == v)), l)
  | .get row => (.viewer l[row]?, l)
  | .size => (.count l.length, l)
  | .isEmpty => (.flag l.isEmpty, l)
  | .rows => (.viewers l, l)

/-- Carries out commands one after the other. -/
def run (l : List P) : List (Command P) → List (Answer P) × List P
  | [] => ([], l)
  | c :: cs =>
    let (answer, l) := perform l c
    let (answers, l) := run l cs
    (answer :: answers, l)

end Listing

/-! ## The roster follows the list -/

/-- In a list, the last entry stands in the freed place and is dropped from its own. -/
theorem toList_swapRemove_eq_dropLast_set {α : Type u} {xs : Array α} {i : Nat} {last : α}
    (hi : i < xs.size) (hlast : xs.toList.getLast? = some last) :
    (swapRemove xs i).toList = (xs.toList.set i last).dropLast := by
  rw [Array.getLast?_toList, Array.back?_eq_getElem?] at hlast
  have hback : xs.back (by omega) = last := by
    rw [Array.back_eq_getElem]
    exact (Array.getElem?_eq_some_iff.1 hlast).2
  simp [swapRemove, hi, hback]

namespace Coherent

variable {r : Roster P} (h : r.Coherent)
include h

theorem insert_eq_listing (v : P) :
    Listing.insert r.rows.toList v = ((r.insert v).1, (r.insert v).2.rows.toList) := by
  rw [Listing.insert, h.enumerates_rows.any_beq v, insert_fst, rows_insert]
  cases r.contains v <;> simp

theorem remove_eq_listing (v : P) :
    Listing.remove r.rows.toList v = ((r.remove v).1, (r.remove v).2.rows.toList) := by
  -- the row that the list searches for is the one that the index tells
  have hrow : r.rows.toList.findIdx? (· == v) = r.index[v]? := by
    rw [h.index_eq_rowOf? v, rowOf?, ← List.findIdx?_toArray, Array.toArray_toList]
  rw [Listing.remove, hrow]
  cases hv : r.index[v]? with
  | none => rw [remove_of_index_eq_none hv]
  | some row =>
    obtain ⟨hlt, -⟩ := (h.index_eq_some_iff_getElem v row).1 hv
    have hfound : (r.remove v).1 = true := by
      rw [remove_fst, contains_eq_index, Std.ExtHashMap.contains_eq_isSome_getElem?, hv]
      rfl
    have hne : r.rows.toList ≠ [] := by
      rw [← List.length_pos_iff, Array.length_toList]
      omega
    have hlast := List.getLast?_eq_some_getLast hne
    rw [hlast, hfound, rows_remove_of_index_eq_some hv]
    exact congrArg (Prod.mk true) (toList_swapRemove_eq_dropLast_set hlt hlast).symm

theorem perform_eq_listing (c : Command P) :
    Listing.perform r.rows.toList c = ((r.perform c).1, (r.perform c).2.rows.toList) := by
  cases c with
  | insert v => rw [Listing.perform, h.insert_eq_listing v]; rfl
  | remove v => rw [Listing.perform, h.remove_eq_listing v]; rfl
  | contains v => rw [Listing.perform, h.enumerates_rows.any_beq v]; rfl
  | get row => rw [Listing.perform, Array.getElem?_toList]; rfl
  | size => rw [Listing.perform, Array.length_toList]; rfl
  | isEmpty => rw [Listing.perform, Array.isEmpty_toList]; rfl
  | rows => rfl

end Coherent

/-- No sequence of calls tells a coherent roster from the list of its viewers. -/
theorem Coherent.run_eq_listing {r : Roster P} (h : r.Coherent) (cs : List (Command P)) :
    Listing.run r.rows.toList cs = ((r.run cs).1, (r.run cs).2.rows.toList) := by
  induction cs generalizing r with
  | nil => rfl
  | cons c cs ih =>
    rw [Listing.run, h.perform_eq_listing c]
    show ((r.perform c).1 :: (Listing.run _ cs).1, (Listing.run _ cs).2) = _
    rw [ih (h.perform c)]
    rfl

/-! ## Which handle is kept -/

/-- The argument of the last accepted insertion of a viewer equal to `v`, among calls that are given
with their answers. -/
def lastInserted? (v : P) (calls : List (Command P × Answer P)) : Option P :=
  calls.reverse.findSome? fun
    | (.insert w, .flag true) => if w == v then some w else none
    | _ => none

theorem lastInserted?_cons (v : P) (call : Command P × Answer P)
    (calls : List (Command P × Answer P)) :
    lastInserted? v (call :: calls) = (lastInserted? v calls).or (lastInserted? v [call]) := by
  rw [lastInserted?, List.reverse_cons, List.findSome?_append]
  rfl

/-- A call leaves on the roster who was there, and puts nobody there but whom it inserts. -/
theorem Coherent.lastInserted?_or_mem {r : Roster P} (h : r.Coherent) {c : Command P} {x : P}
    (hx : x ∈ (r.perform c).2.rows) :
    lastInserted? x [(c, (r.perform c).1)] = some x
      ∨ lastInserted? x [(c, (r.perform c).1)] = none ∧ x ∈ r.rows := by
  cases c with
  | insert v =>
    have hx : x ∈ (r.insert v).2.rows := hx
    have hflag : (r.perform (.insert v)).1 = .flag (!r.contains v) := by
      rw [← insert_fst]
      rfl
    rw [rows_insert] at hx
    rw [hflag]
    cases hv : r.contains v with
    | true =>
      rw [hv, if_pos rfl] at hx
      exact .inr ⟨rfl, hx⟩
    | false =>
      rw [hv, if_neg Bool.false_ne_true, Array.mem_push] at hx
      rcases hx with hx | rfl
      · -- whoever stays is not equal to the viewer that was let in
        have hne : (v == x) = false := by
          rw [Bool.eq_false_iff]
          intro hvx
          have hin : r.contains v = true :=
            (h.contains_iff_exists_mem v).2 ⟨x, hx, BEq.symm hvx⟩
          rw [hv] at hin
          cases hin
        exact .inr ⟨by simp [lastInserted?, hne], hx⟩
      · exact .inl (by simp [lastInserted?])
  | remove v =>
    have hx : x ∈ (r.remove v).2.rows := hx
    refine .inr ⟨rfl, ?_⟩
    have hperm := h.rows_remove_perm v
    rw [← Array.mem_toList_iff, hperm.mem_iff, List.mem_filter, Array.mem_toList_iff] at hx
    exact hx.1
  | contains v => exact .inr ⟨rfl, hx⟩
  | get row => exact .inr ⟨rfl, hx⟩
  | size => exact .inr ⟨rfl, hx⟩
  | isEmpty => exact .inr ⟨rfl, hx⟩
  | rows => exact .inr ⟨rfl, hx⟩

/-- Whoever is on the roster after some calls came with the last insertion of it that was accepted,
or was there before and no such insertion was made. -/
theorem Coherent.lastInserted?_run {r : Roster P} (h : r.Coherent) (cs : List (Command P)) {x : P}
    (hx : x ∈ (r.run cs).2.rows) :
    lastInserted? x (cs.zip (r.run cs).1) = some x
      ∨ lastInserted? x (cs.zip (r.run cs).1) = none ∧ x ∈ r.rows := by
  induction cs generalizing r with
  | nil => exact .inr ⟨rfl, hx⟩
  | cons c cs ih =>
    show lastInserted? x ((c, (r.perform c).1) :: cs.zip ((r.perform c).2.run cs).1) = some x
      ∨ lastInserted? x ((c, (r.perform c).1) :: cs.zip ((r.perform c).2.run cs).1) = none ∧ _
    rw [lastInserted?_cons]
    rcases ih (h.perform c) hx with hlater | ⟨hlater, hx⟩
    · exact .inl (by rw [hlater, Option.some_or])
    · rw [hlater, Option.none_or]
      exact h.lastInserted?_or_mem hx

/-! ## Which row is kept -/

/-- A viewer keeps its row unless it is removed, or is the last and somebody else is removed. -/
theorem Coherent.get?_perform {r : Roster P} (h : r.Coherent) (c : Command P) {i : Nat} {x : P}
    (hx : r.get? i = some x) :
    (r.perform c).2.get? i = some x
      ∨ ∃ v, c = .remove v ∧ r.contains v = true ∧ ((x == v) = true ∨ i + 1 = r.size) := by
  have hlt : i < r.rows.size := (Array.getElem?_eq_some_iff.1 hx).1
  cases c with
  | insert v =>
    left
    show (r.insert v).2.rows[i]? = some x
    rw [rows_insert]
    split
    · exact hx
    · rw [Array.getElem?_push, if_neg (by omega)]
      exact hx
  | remove v =>
    cases hv : r.index[v]? with
    | none =>
      left
      show (r.remove v).2.get? i = some x
      rw [remove_of_index_eq_none hv, hx]
    | some row =>
      obtain ⟨y, hy, hyv⟩ := (h.index_eq_some_iff v row).1 hv
      have hrow : row < r.rows.size := (Array.getElem?_eq_some_iff.1 hy).1
      have hin : r.contains v = true := (h.contains_iff_exists_row v).2 ⟨row, y, hy, hyv⟩
      -- only the freed row and the last one are written
      by_cases hend : i = r.rows.size - 1
      · exact .inr ⟨v, rfl, hin, .inr (show i + 1 = r.rows.size by omega)⟩
      · by_cases hi : i = row
        · obtain rfl : y = x := Option.some.inj (hy.symm.trans (hi ▸ hx))
          exact .inr ⟨v, rfl, hin, .inl hyv⟩
        · left
          show (r.remove v).2.rows[i]? = some x
          rw [rows_remove_of_index_eq_some hv, getElem?_swapRemove hrow, if_neg hend, if_neg hi]
          exact hx
  | contains v => exact .inl hx
  | get row => exact .inl hx
  | size => exact .inl hx
  | isEmpty => exact .inl hx
  | rows => exact .inl hx

/-! ## Every use of a roster -/

/-- **A roster answers as a plain list does.** The answers to any calls are those of a list that
appends, searches from the front and overwrites by the last, and its rows are that list. Each of them
holds the handle of the last insertion of it that was accepted. A further call leaves every viewer in
its row, unless it removes it or removes another and the viewer is the last. No row at or past the
number of viewers has one. -/
theorem run_emptyWithCapacity_eq_listing (capacity : Nat) (cs : List (Command P)) :
    let run := (emptyWithCapacity capacity : Roster P).run cs
    (run.1, run.2.rows.toList) = Listing.run [] cs ∧
    (∀ x ∈ run.2.rows, lastInserted? x (cs.zip run.1) = some x) ∧
    (∀ (c : Command P) (i : Nat) (x : P), run.2.get? i = some x →
      (run.2.perform c).2.get? i = some x
        ∨ ∃ v, c = .remove v ∧ run.2.contains v = true
          ∧ ((x == v) = true ∨ i + 1 = run.2.size)) ∧
    (∀ i, run.2.size ≤ i → run.2.get? i = none) := by
  intro run
  have hempty : (emptyWithCapacity capacity : Roster P).Coherent :=
    coherent_emptyWithCapacity capacity
  have h : run.2.Coherent := hempty.run cs
  refine ⟨?_, ?_, ?_, ?_⟩
  · exact (hempty.run_eq_listing cs).symm
  · intro x hx
    rcases hempty.lastInserted?_run cs hx with hlast | ⟨-, hx⟩
    · exact hlast
    · simp [emptyWithCapacity] at hx
  · intro c i x hx
    exact h.get?_perform c hx
  · intro i hi
    exact Array.getElem?_eq_none hi

/-- A viewer is refused under a second tag, leaves under a third and comes back under a fourth. The
roster hands back the fourth, in the last row, and the viewer that moved is found in the first. -/
theorem run_emptyWithCapacity_eq_listing_keyed :
    let cs : List (Command Keyed) := [.insert ⟨1, "a"⟩, .insert ⟨2, "b"⟩, .insert ⟨1, "c"⟩,
      .remove ⟨1, "d"⟩, .insert ⟨1, "e"⟩]
    let r := ((emptyWithCapacity 0 : Roster Keyed).run cs).2
    r.rows.toList = [⟨2, "b"⟩, ⟨1, "e"⟩] ∧
    lastInserted? ⟨1, "e"⟩ (cs.zip ((emptyWithCapacity 0 : Roster Keyed).run cs).1)
      = some ⟨1, "e"⟩ ∧
    (r.perform (.remove ⟨3, "x"⟩)).2.get? 1 = some ⟨1, "e"⟩ ∧ r.get? 2 = none := by
  intro cs r
  obtain ⟨hlist, hlast, hkeep, hbeyond⟩ := run_emptyWithCapacity_eq_listing (P := Keyed) 0 cs
  have hrows : r.rows.toList = [⟨2, "b"⟩, ⟨1, "e"⟩] := by
    rw [(Prod.mk.inj hlist).2]
    rfl
  have hsize : r.size = 2 := by
    rw [size, ← Array.length_toList, hrows]
    rfl
  have hone : r.get? 1 = some ⟨1, "e"⟩ := by
    rw [get?, ← Array.getElem?_toList, hrows]
    rfl
  refine ⟨hrows, ?_, ?_, ?_⟩
  · exact hlast _ (Array.mem_of_getElem? hone)
  · rcases hkeep (.remove ⟨3, "x"⟩) 1 _ hone with hstays | ⟨v, hv, hin, -⟩
    · exact hstays
    · -- nobody on the roster is equal to the viewer that is to leave
      obtain rfl := Command.remove.inj hv
      have hcoherent : r.Coherent := (coherent_emptyWithCapacity 0).run cs
      rw [← hcoherent.enumerates_rows.any_beq, hrows] at hin
      exact absurd hin (by decide)
  · exact hbeyond 2 (Nat.le_of_eq hsize)

end Viewership.Roster
