/-
# Viewership.Traversal.Walk -- changing an audience while walking through it

A walk steps through an audience and changes the membership of each viewer that it meets, before it
makes the next step. It may look ahead first; the viewer that it then keeps is met even if the
changes concern it. Changes may bring viewers back under the cursor for ever, so a walk has a limit.
-/
import Viewership.Audience.Mutation
import Viewership.Traversal.Basic

namespace Viewership

universe u

/-- What is done with a viewer that is met. -/
inductive WalkAction where
  /-- Take the viewer away. -/
  | remove
  /-- Make it a manual viewer. -/
  | add
deriving DecidableEq, Repr

/-- The change that an action makes for a viewer. -/
def WalkAction.mutation {P : Type u} (v : P) : WalkAction → Mutation P
  | .remove => .remove v
  | .add => .add v

/-- One viewer met on a walk. -/
structure Encounter (P : Type u) where
  /-- The viewer. -/
  viewer : P
  /-- Whether another one follows, if the walk looks ahead. -/
  more? : Option Bool
  /-- Which actions were accepted, in order. -/
  accepted : List Bool

/-- What came of a walk. -/
structure Walk (P : Type u) [Viewer P] where
  /-- The viewers met, in order. -/
  encounters : List (Encounter P)
  /-- The reports on all changes, in order. -/
  events : List (TraceEvent P)
  /-- The audience in the end. -/
  audience : Audience P

variable {P : Type u} [Viewer P]

/-- Walks on from a traversal for at most `limit` viewers. -/
def Traversal.walk (actions : List WalkAction) (peek : Bool) :
    Nat → Audience P → Traversal P → Walk P
  | 0, a, _ => { encounters := [], events := [], audience := a }
  | limit + 1, a, t =>
    match t.next a with
    | (none, _) => { encounters := [], events := [], audience := a }
    | (some v, t) =>
      let (more?, t) := if peek then let (more, t) := t.hasNext a; (some more, t) else (none, t)
      let r := a.run (actions.map (·.mutation v))
      let w := t.walk actions peek limit r.audience
      { encounters := { viewer := v, more?, accepted := r.accepted } :: w.encounters
        events := r.events ++ w.events
        audience := w.audience }

end Viewership
