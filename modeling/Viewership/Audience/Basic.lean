/-
# Viewership.Audience.Basic -- who can see one entity

An audience has two parts. Manual viewers were added one by one and always see the entity. Auto
viewers come from the candidate lists of a spatial index, such as everyone in the chunks around the
entity; an audience keeps the lists as they are and filters them on every query. To take an auto
viewer away is to record an exception. The entity itself never belongs to its own audience.

This module has the state and the questions about a single viewer. That no viewer is manual and
excluded at once is kept by the mutators and is not part of the type.
-/
import Viewership.Owner
import Viewership.Roster.Basic

namespace Viewership

open Std (ExtHashSet)

universe u

/-- The candidate lists of a spatial index, in the order in which they are visited. A viewer may
stand in several places. -/
abbrev CandidateLists (P : Type u) := Array (Array P)

/-- The viewers of one entity. -/
structure Audience (P : Type u) [Viewer P] where
  /-- The entity as a viewer, fixed when the audience is made. -/
  ownViewer : Option P
  /-- The manual viewers. -/
  roster : Roster P
  /-- Viewers that were removed without being manual. -/
  exceptions : ExtHashSet P
  /-- The candidate lists, if the spatial index gave any. -/
  lists : Option (CandidateLists P)

namespace Audience

variable {P : Type u} [Viewer P]

/-- The audience of a new entity, with room for `capacity` manual viewers. An entity without an
owner excludes nobody as itself. -/
def create (owner : Option (Owner P)) (capacity : Nat) : Audience P where
  ownViewer := owner.bind (·.viewer)
  roster := .emptyWithCapacity capacity
  exceptions := ∅
  lists := none

/-- The candidate lists, where none at all count as an empty collection. -/
def candidates (a : Audience P) : CandidateLists P := a.lists.getD #[]

/-- The candidate lists that are not empty. The others are passed over when all are read at once. -/
def filledLists (a : Audience P) : CandidateLists P := a.candidates.filter (!·.isEmpty)

/-! ## Questions about one viewer -/

/-- Whether `v` is the entity itself. -/
def isSelf (a : Audience P) (v : P) : Bool := a.ownViewer.any (· == v)

/-- Whether `v` is a manual viewer. -/
def isManual (a : Audience P) (v : P) : Bool := a.roster.contains v

/-- Whether `v` was excluded from the auto viewers. -/
def isExcluded (a : Audience P) (v : P) : Bool := a.exceptions.contains v

/-- Whether `v` is an auto viewer once it is a candidate. Where nobody is excluded nothing is looked
up. -/
def admits (a : Audience P) (v : P) : Bool :=
  !a.isSelf v && (a.exceptions.isEmpty || !a.exceptions.contains v)

theorem admits_eq (a : Audience P) (v : P) : a.admits v = (!a.isSelf v && !a.isExcluded v) := by
  rw [admits, isExcluded]
  cases h : a.exceptions.isEmpty with
  | true => rw [ExtHashSet.isEmpty_iff.1 h, ExtHashSet.contains_empty, Bool.not_false, Bool.or_true]
  | false => rw [Bool.false_or]

/-- Whether the auto-view rules alone accept a subject. What is no viewer cannot be excluded, and a
manual viewer does not go by these rules. -/
def acceptsAuto (a : Audience P) : Subject P → Bool
  | .viewer v => !a.isManual v && a.admits v
  | .other => true

/-- Whether `v` sees the entity now: as a manual viewer, or as an admitted one that is a candidate
somewhere. -/
def contains (a : Audience P) (v : P) : Bool :=
  !a.isSelf v && (a.isManual v || a.admits v && a.filledLists.any (·.contains v))

/-- An empty list makes no difference to a question that it answers with no. -/
theorem any_filledLists (a : Audience P) {p : Array P → Bool} (h : p #[] = false) :
    a.filledLists.any p = a.candidates.any p := by
  have hfilled (list : Array P) : (!list.isEmpty && p list) = p list := by
    cases hlist : list.isEmpty with
    | true => rw [Array.isEmpty_iff.1 hlist, h, Bool.and_false]
    | false => rfl
  rw [filledLists, Array.any_filter]
  simp only [hfilled]

theorem contains_eq (a : Audience P) (v : P) :
    a.contains v
      = (!a.isSelf v && (a.isManual v || a.admits v && a.candidates.any (·.contains v))) := by
  have hempty : (#[] : Array P).contains v = false := Array.contains_empty
  rw [contains, ← a.any_filledLists hempty]

/-- Whether the audience is exactly what the candidate lists will say: the owner is auto-viewable
now, and nobody was added or removed by hand. Without an owner it never is. -/
def hasPredictableViewers (a : Audience P) (owner : Option (Owner P)) : Bool :=
  owner.any (·.autoViewable) && a.roster.isEmpty && a.exceptions.isEmpty

end Audience

end Viewership
