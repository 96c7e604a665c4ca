/-
# Viewership.Owner -- the entity that an audience watches

An owner says whether those nearby see it without being added one by one, and which viewer it is, if
it is one. Both may change while it lives, and it keeps count of how often it was asked for either:
its viewer is asked for once for each audience, its visibility each time it matters.
-/

namespace Viewership

universe u

/-- An entity that is watched. -/
structure Owner (P : Type u) where
  /-- Whether viewers nearby see the entity without being added. -/
  autoViewable : Bool
  /-- The entity as a viewer, if it is one. -/
  viewer : Option P
  /-- How often the entity was asked for its viewer. -/
  viewerReads : Nat
  /-- How often the entity was asked whether it is auto-viewable. -/
  autoReads : Nat
deriving DecidableEq, Repr

namespace Owner

variable {P : Type u}

/-- An owner that was not asked for anything yet. -/
def unread (autoViewable : Bool) (viewer : Option P) : Owner P where
  autoViewable := autoViewable
  viewer := viewer
  viewerReads := 0
  autoReads := 0

/-- The owner once it was asked for its viewer. -/
def countViewerRead (o : Owner P) : Owner P := { o with viewerReads := o.viewerReads + 1 }

/-- The owner once it was asked whether it is auto-viewable. -/
def countAutoRead (o : Owner P) : Owner P := { o with autoReads := o.autoReads + 1 }

end Owner

end Viewership
