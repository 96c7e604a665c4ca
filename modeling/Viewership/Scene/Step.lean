/-
# Viewership.Scene.Step -- how a scene answers

A scene answers one request at a time. A request that names an unknown owner, entity or journey is
refused and changes nothing.
-/
import Viewership.Audience.Summary
import Viewership.Scene.Basic
import Viewership.Scene.Command

namespace Viewership

universe u

variable {P : Type u} [Viewer P]

/-- The answer to a question about an audience. -/
def Audience.answer [HasOutline P] (a : Audience P) : Query P → Answer P
  | .acceptsAuto subject => .flag (a.acceptsAuto subject)
  | .isExcluded v => .flag (a.isExcluded v)
  | .contains v => .flag (a.contains v)
  | .size => .count a.size
  | .isEmpty => .flag a.isEmpty
  | .snapshot => .viewers a.snapshot.toList
  | .visits => .viewers (a.forEach #[] Array.push).toList
  | .readings => .readings a.readings.toList
  | .traversed => .viewers (Traversal.start.drain a).1
  | .describe layout => .text ((outline a).render layout)

/-- Takes a traversal further, and answers with what it hands out. -/
def Traversal.proceed (a : Audience P) (t : Traversal P) : Stride → Answer P × Traversal P
  | .hasNext => (t.hasNext a).map .flag id
  | .next => (t.next a).map .viewer id
  | .nth n => (t.nth a n).map .viewer id
  | .take n => (t.take a n).map .viewers id
  | .drain => (t.drain a).map .viewers id
  | .count => (t.count a).map .count id
  | .last => (t.last a).map .viewer id

namespace Scene

/-- Changes the audience of an entity. New lists are not answered, a viewer is answered with
whether the change was accepted. -/
def mutate (s : Scene P) (number : Nat) (m : Mutation P) :
    Except SceneError (Reply P × Scene P) := do
  let e ← s.entity number
  let o := e.audience.apply m
  let answer := match m with
    | .update _ => .nothing
    | _ => .flag o.accepted
  return ({ answer, events := o.event?.toList }, s.setAudience number o.audience)

/-- Whether the audience of an entity is what the candidate lists will say. The owner, if there is
one, is asked once whether it is auto-viewable. -/
def predictable (s : Scene P) (number : Nat) : Except SceneError (Bool × Scene P) := do
  let e ← s.entity number
  match e.owner? with
  | none => return (e.audience.hasPredictableViewers none, s)
  | some n =>
    let o ← s.owner n
    return (e.audience.hasPredictableViewers (some o), s.setOwner n o.countAutoRead)

/-- Carries out a request. -/
def step [HasOutline P] (s : Scene P) : Command P → Except SceneError (Reply P × Scene P)
  | .mutate number m => s.mutate number m
  | .query number q => do
    let e ← s.entity number
    return ((e.audience.answer q).silent, s)
  | .predictable number => do
    let (b, s) ← s.predictable number
    return ((Answer.flag b).silent, s)
  | .traverse number => do
    let _ ← s.entity number
    let (journey, s) := s.addJourney number
    return ((Answer.count journey).silent, s)
  | .proceed number stride => do
    let j ← s.journey number
    let e ← s.entity j.entity
    let (answer, t) := j.traversal.proceed e.audience stride
    return (answer.silent, s.setTraversal number t)
  | .walk number actions peek limit => do
    let e ← s.entity number
    let w := Traversal.start.walk actions peek limit e.audience
    return ({ answer := .encounters w.encounters, events := w.events },
      s.setAudience number w.audience)
  | .setAutoViewable number autoViewable => do
    let o ← s.owner number
    return (Answer.nothing.silent, s.setOwner number { o with autoViewable })
  | .setViewer number viewer => do
    let o ← s.owner number
    return (Answer.nothing.silent, s.setOwner number { o with viewer })
  | .ownerReads number => do
    let o ← s.owner number
    return ((Answer.reads o.viewerReads o.autoReads).silent, s)
  | .compareSubjects a b =>
    let x := Subject.ofOption a
    let y := Subject.ofOption b
    return ((Answer.subjects (outline x).compact (outline y).compact (x == y)).silent, s)

/-- The members of every entity, and its description. -/
def overview [HasOutline P] (s : Scene P) : List (List P × String) :=
  s.entities.toList.map fun e => (e.audience.snapshot.toList, (outline e.audience).compact)

end Scene

end Viewership
