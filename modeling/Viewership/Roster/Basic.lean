/-
# Viewership.Roster.Basic -- a set of viewers in numbered rows

A `Roster` keeps its viewers in contiguous rows, so that a traversal can hold on to a row number
instead of borrowing the set, and an index from viewer to row, so that membership and removal need
no search. A new viewer takes the next row. When a viewer leaves, the last row moves into its place,
and every other row keeps its number.

Rows and index are kept in step by the operations; nothing in the type forces it.
-/
import Viewership.Viewer

namespace Viewership

open Std (ExtHashMap)

universe u

/-- Removes the entry at `i` by moving the last entry into its place. -/
def swapRemove {α : Type u} (xs : Array α) (i : Nat) : Array α :=
  if h : i < xs.size then (xs.set i (xs.back (by omega))).pop else xs

/-- A duplicate-free collection of viewers, in numbered rows. -/
structure Roster (P : Type u) [Viewer P] where
  /-- The viewers in row order. -/
  rows : Array P
  /-- The row of each viewer. -/
  index : ExtHashMap P Nat

namespace Roster

variable {P : Type u} [Viewer P]

/-- The roster without viewers, with room for `capacity` of them. -/
def emptyWithCapacity (capacity : Nat) : Roster P where
  rows := .emptyWithCapacity capacity
  index := .emptyWithCapacity capacity

/-- The number of viewers. -/
def size (r : Roster P) : Nat := r.rows.size

/-- Whether there are no viewers. -/
def isEmpty (r : Roster P) : Bool := r.rows.isEmpty

/-- Whether a viewer equal to `v` is on the roster. Nothing is looked up in an empty index. -/
def contains (r : Roster P) (v : P) : Bool := !r.index.isEmpty && r.index.contains v

theorem contains_eq_index (r : Roster P) (v : P) : r.contains v = r.index.contains v := by
  rw [contains]
  cases h : r.index.isEmpty with
  | true => rw [ExtHashMap.isEmpty_iff.1 h, ExtHashMap.contains_empty, Bool.and_false]
  | false => rfl

/-- The viewer in row `i`, if there are that many rows. -/
def get? (r : Roster P) (i : Nat) : Option P := r.rows[i]?

/-- Puts `v` in a new last row. Answers `false`, and keeps the handle that is there, if an equal
viewer is on the roster already. -/
def insert (r : Roster P) (v : P) : Bool × Roster P :=
  if r.index.contains v then (false, r)
  else (true, { rows := r.rows.push v, index := r.index.insert v r.rows.size })

/-- Takes the viewer equal to `v` off the roster and moves the last row into its place. Answers
`false` if there is none. -/
def remove (r : Roster P) (v : P) : Bool × Roster P :=
  match r.index[v]? with
  | none => (false, r)
  | some row =>
    let rows := swapRemove r.rows row
    let index := r.index.erase v
    match rows[row]? with
    | none => (true, { rows, index })
    -- the viewer that was last now stands in the freed row
    | some moved => (true, { rows, index := index.modify moved fun _ => row })

end Roster

end Viewership
