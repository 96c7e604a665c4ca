/-
# Viewership.Scene.Basic -- entities, their owners and the traversals under way

A scene holds several audiences. The entity behind an audience may have an owner, and several
entities may share one. A journey is a traversal that was begun and can be taken up again at any
time, whatever happened to its audience since. Owners, entities and journeys go by their number, in
the order in which they came.
-/
import Viewership.Traversal.Basic

namespace Viewership

universe u

/-- An entity of a scene. -/
structure Entity (P : Type u) [Viewer P] where
  /-- The number of its owner, if it has one. -/
  owner? : Option Nat
  /-- Who sees it. -/
  audience : Audience P

/-- A traversal that was begun. -/
structure Journey (P : Type u) where
  /-- The number of the entity whose audience it goes through. -/
  entity : Nat
  /-- How far it has come. -/
  traversal : Traversal P

/-- A scene. -/
structure Scene (P : Type u) [Viewer P] where
  /-- The owners. -/
  owners : Array (Owner P)
  /-- The entities. -/
  entities : Array (Entity P)
  /-- The journeys. -/
  journeys : Array (Journey P)

/-- What can be wrong with a request to a scene. -/
inductive SceneError where
  /-- There is no owner of this number. -/
  | unknownOwner (number : Nat)
  /-- There is no entity of this number. -/
  | unknownEntity (number : Nat)
  /-- There is no journey of this number. -/
  | unknownJourney (number : Nat)
deriving DecidableEq, Repr

/-- The error in words. -/
def SceneError.message : SceneError → String
  | .unknownOwner n => "no owner " ++ toString n
  | .unknownEntity n => "no entity " ++ toString n
  | .unknownJourney n => "no traversal " ++ toString n

namespace Scene

variable {P : Type u} [Viewer P]

/-- The scene with these owners and nothing else. -/
def ofOwners (owners : Array (Owner P)) : Scene P where
  owners := owners
  entities := #[]
  journeys := #[]

/-! ## Look-up -/

/-- The owner of this number. -/
def owner (s : Scene P) (number : Nat) : Except SceneError (Owner P) :=
  s.owners[number]?.elim (.error (.unknownOwner number)) .ok

/-- The entity of this number. -/
def entity (s : Scene P) (number : Nat) : Except SceneError (Entity P) :=
  s.entities[number]?.elim (.error (.unknownEntity number)) .ok

/-- The journey of this number. -/
def journey (s : Scene P) (number : Nat) : Except SceneError (Journey P) :=
  s.journeys[number]?.elim (.error (.unknownJourney number)) .ok

/-! ## Change -/

/-- Puts another owner in the place of one. -/
def setOwner (s : Scene P) (number : Nat) (o : Owner P) : Scene P :=
  { s with owners := s.owners.setIfInBounds number o }

/-- Puts another audience in the place of an entity's. -/
def setAudience (s : Scene P) (number : Nat) (a : Audience P) : Scene P :=
  { s with entities := s.entities.modify number fun e => { e with audience := a } }

/-- Puts another traversal in the place of a journey's. -/
def setTraversal (s : Scene P) (number : Nat) (t : Traversal P) : Scene P :=
  { s with journeys := s.journeys.modify number fun j => { j with traversal := t } }

/-- Adds an entity with room for `capacity` manual viewers. Its owner is asked once for its
viewer. -/
def addEntity (s : Scene P) (owner? : Option Nat) (capacity : Nat) :
    Except SceneError (Scene P) := do
  match owner? with
  | none => return { s with entities := s.entities.push ⟨none, .create none capacity⟩ }
  | some number =>
    let o ← s.owner number
    let s := s.setOwner number o.countViewerRead
    return { s with entities := s.entities.push ⟨some number, .create (some o) capacity⟩ }

/-- Begins a journey through the audience of an entity, and gives its number. -/
def addJourney (s : Scene P) (number : Nat) : Nat × Scene P :=
  (s.journeys.size, { s with journeys := s.journeys.push ⟨number, .start⟩ })

end Scene

end Viewership
