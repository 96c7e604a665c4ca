/-
# Viewership.Roster.Script -- a roster driven by commands

A command is one call on a roster, and its answer is all that the caller learns from it. Only
`insert` and `remove` change the roster.
-/
import Viewership.Roster.Basic

namespace Viewership.Roster

universe u

/-- A call on a roster. -/
inductive Command (P : Type u) where
  /-- Put a viewer on the roster. -/
  | insert (v : P)
  /-- Take a viewer off the roster. -/
  | remove (v : P)
  /-- Ask whether a viewer is on the roster. -/
  | contains (v : P)
  /-- Ask for the viewer in a row. -/
  | get (row : Nat)
  /-- Ask for the number of viewers. -/
  | size
  /-- Ask whether there are no viewers. -/
  | isEmpty
  /-- Ask for all viewers in row order. -/
  | rows

/-- What a call answers. -/
inductive Answer (P : Type u) where
  /-- Yes or no. -/
  | flag (b : Bool)
  /-- A number of viewers. -/
  | count (n : Nat)
  /-- The viewer in a row, if there is one. -/
  | viewer (v : Option P)
  /-- Viewers in row order. -/
  | viewers (vs : List P)

variable {P : Type u} [Viewer P]

/-- Carries out a command. -/
def perform (r : Roster P) : Command P → Answer P × Roster P
  | .insert v => let (added, r) := r.insert v; (.flag added, r)
  | .remove v => let (removed, r) := r.remove v; (.flag removed, r)
  | .contains v => (.flag (r.contains v), r)
  | .get row => (.viewer (r.get? row), r)
  | .size => (.count r.size, r)
  | .isEmpty => (.flag r.isEmpty, r)
  | .rows => (.viewers r.rows.toList, r)

/-- Carries out commands one after the other. -/
def run (r : Roster P) : List (Command P) → List (Answer P) × Roster P
  | [] => ([], r)
  | c :: cs =>
    let (answer, r) := r.perform c
    let (answers, r) := r.run cs
    (answer :: answers, r)

end Viewership.Roster
