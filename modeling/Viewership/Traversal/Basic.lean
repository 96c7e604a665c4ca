/-
# Viewership.Traversal.Basic -- stepping through an audience

A traversal hands out the viewers of an audience one at a time. Between two steps the audience may
change; a step sees it as it is then. `hasNext` looks one viewer ahead and keeps what it found, so
that the next step hands out that viewer even if it was taken away meanwhile. A traversal that has
come to its end stays there.

The audience is no part of a traversal: each step is given the audience of its moment.
-/
import Viewership.Traversal.Cursor

namespace Viewership

universe u

/-- A walk through an audience in progress. -/
structure Traversal (P : Type u) where
  /-- Where the next search begins. -/
  cursor : Cursor
  /-- A viewer that was found ahead of its turn. -/
  pending : Option P
deriving DecidableEq, Repr

namespace Traversal

variable {P : Type u}

/-- A traversal before its first step. -/
def start : Traversal P where
  cursor := .manual 0
  pending := none

variable [Viewer P]

/-- Whether another viewer follows. The viewer is kept for the next step. -/
def hasNext (a : Audience P) (t : Traversal P) : Bool × Traversal P :=
  match t.pending with
  | some _ => (true, t)
  | none =>
    let (found, cursor) := a.advance t.cursor
    (found.isSome, { cursor, pending := found })

/-- Hands out the next viewer: the one that was kept, or else the one that a search finds. -/
def next (a : Audience P) (t : Traversal P) : Option P × Traversal P :=
  match t.pending with
  | some v => (some v, { t with pending := none })
  | none =>
    let (found, cursor) := a.advance t.cursor
    (found, { cursor, pending := none })

/-- Skips `n` viewers and hands out the one after them. The first step that finds nobody is the
last one made. -/
def nth (a : Audience P) : Nat → Traversal P → Option P × Traversal P
  | 0, t => t.next a
  | n + 1, t =>
    match t.next a with
    | (some _, t) => nth a n t
    | (none, t) => (none, t)

/-- Hands out the next `n` viewers, or as many as there are. -/
def take (a : Audience P) : Nat → Traversal P → List P × Traversal P
  | 0, t => ([], t)
  | n + 1, t =>
    match t.next a with
    | (some v, t) => let (vs, t) := take a n t; (v :: vs, t)
    | (none, t) => ([], t)

/-! ## Going on to the end -/

/-- The viewers that a traversal hands out in an audience that stays as it is. -/
def remaining (a : Audience P) (t : Traversal P) : List P :=
  t.pending.toList ++ t.cursor.remaining a

/-- A step hands out the first of the viewers that are still to come. -/
theorem remaining_eq_of_next (a : Audience P) (t : Traversal P) :
    t.remaining a = (t.next a).1.toList ++ (t.next a).2.remaining a := by
  rcases t with ⟨c, _ | v⟩
  · exact Cursor.remaining_eq_of_advance a c
  · rfl

/-- Hands out all viewers that are left. -/
def drain (a : Audience P) (t : Traversal P) : List P × Traversal P :=
  match _ : t.next a with
  | (some v, t') => let (vs, u) := drain a t'; (v :: vs, u)
  | (none, t') => ([], t')
termination_by (t.remaining a).length
decreasing_by simp [remaining_eq_of_next a t, ‹t.next a = _›]

/-- The number of viewers that are left. They are handed out to be counted. -/
def count (a : Audience P) (t : Traversal P) : Nat × Traversal P :=
  let (vs, t) := t.drain a
  (vs.length, t)

/-- The last viewer that is left. Those before it are passed over. -/
def last (a : Audience P) (t : Traversal P) : Option P × Traversal P :=
  let (vs, t) := t.drain a
  (vs.getLast?, t)

end Traversal

end Viewership
