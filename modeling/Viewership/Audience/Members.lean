/-
# Viewership.Audience.Members -- reading an audience as a whole

The members of an audience are its manual viewers in row order and then, list by list, the
candidates that it admits. They are not told apart: a viewer that is manual and stands in two lists
is read three times. Every read looks at one moment; to step through an audience that may change
meanwhile, see `Viewership.Traversal.Basic`.
-/
import Viewership.Audience.Basic

namespace Viewership.Audience

universe u v

variable {P : Type u} [Viewer P]

/-- The members, copied out. -/
def snapshot (a : Audience P) : Array P :=
  a.roster.rows.filter (!a.isSelf ·) ++ a.filledLists.flatMap (·.filter a.admits)

/-- Visits the members one after the other, carrying a value along. -/
def forEach {σ : Type v} (a : Audience P) (start : σ) (visit : σ → P → σ) : σ :=
  let manual := a.roster.rows.foldl (fun s v => if a.isSelf v then s else visit s v) start
  a.filledLists.foldl
    (fun s list => list.foldl (fun s v => if a.admits v then visit s v else s) s) manual

/-- The number of members. -/
def size (a : Audience P) : Nat :=
  a.roster.rows.countP (!a.isSelf ·) + a.filledLists.foldl (fun n list => n + list.countP a.admits) 0

/-- Whether there is no member. -/
def isEmpty (a : Audience P) : Bool :=
  !a.roster.rows.any (!a.isSelf ·) && !a.filledLists.any (·.any a.admits)

/-! ## Reading while visiting -/

/-- What is known about one member while it is visited. -/
structure Reading (P : Type u) where
  /-- The member. -/
  viewer : P
  /-- Whether it sees the entity. -/
  contained : Bool
  /-- Whether the auto-view rules alone accept it. -/
  acceptedAuto : Bool
  /-- Whether it is excluded. -/
  excluded : Bool
  /-- The number of members. -/
  size : Nat

/-- Visits the members and asks the audience about each of them on the way. -/
def readings (a : Audience P) : Array (Reading P) :=
  a.forEach #[] fun rs v => rs.push
    { viewer := v
      contained := a.contains v
      acceptedAuto := a.acceptsAuto (.viewer v)
      excluded := a.isExcluded v
      size := a.size }

end Viewership.Audience
