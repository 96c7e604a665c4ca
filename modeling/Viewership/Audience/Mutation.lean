/-
# Viewership.Audience.Mutation -- adding and removing viewers, and new candidate lists

Three calls change an audience. Each is atomic, answers whether it was accepted and reports at most
one event. Adding a viewer lifts its exception. Removing one drops it from the manual viewers or, if
it is not among them, excludes it, whether or not it is a candidate at the moment. Replacing the
candidate lists touches neither.
-/
import Viewership.Audience.Basic
import Viewership.TraceEvent

namespace Viewership

universe u

/-- A change to an audience. -/
inductive Mutation (P : Type u) where
  /-- Make `v` a manual viewer. -/
  | add (v : P)
  /-- Take `v` away. -/
  | remove (v : P)
  /-- Replace the candidate lists. -/
  | update (lists : Option (CandidateLists P))

namespace Audience

variable {P : Type u} [Viewer P]

/-- What a change leads to. -/
structure Outcome (P : Type u) [Viewer P] where
  /-- Whether the change was accepted. New lists always are. -/
  accepted : Bool
  /-- The audience after the change. -/
  audience : Audience P
  /-- The report on it, if there is one. -/
  event? : Option (TraceEvent P)

/-- Makes `v` a manual viewer and lifts its exception. Refused, and not reported, for the entity
itself; refused if an equal viewer is manual already. -/
def addManual (a : Audience P) (v : P) : Outcome P :=
  if a.isSelf v then { accepted := false, audience := a, event? := none }
  else
    let (added, roster) := a.roster.insert v
    { accepted := added
      audience := { a with roster, exceptions := a.exceptions.erase v }
      event? := some (.manualAdded v added) }

/-- Takes `v` away: a manual viewer is dropped, any other is excluded. Refused if it was excluded
already. Where nobody is manual the roster is not asked. -/
def remove (a : Audience P) (v : P) : Outcome P :=
  match if a.roster.isEmpty then (false, a.roster) else a.roster.remove v with
  | (true, roster) =>
    { accepted := true, audience := { a with roster }, event? := some (.manualRemoved v) }
  | (false, _) =>
    let (present, exceptions) := a.exceptions.containsThenInsert v
    { accepted := !present
      audience := { a with exceptions }
      event? := some (.autoExcluded v !present) }

/-- Replaces the candidate lists. -/
def updateLists (a : Audience P) (lists : Option (CandidateLists P)) : Outcome P where
  accepted := true
  audience := { a with lists }
  event? := some (.listsReplaced (lists.elim 0 Array.size))

/-- Carries out a change. -/
def apply (a : Audience P) : Mutation P → Outcome P
  | .add v => a.addManual v
  | .remove v => a.remove v
  | .update lists => a.updateLists lists

/-! ## Several changes in a row -/

/-- What a sequence of changes leads to. -/
structure Run (P : Type u) [Viewer P] where
  /-- Which changes were accepted, in order. -/
  accepted : List Bool
  /-- The reports, in order. -/
  events : List (TraceEvent P)
  /-- The audience after the last change. -/
  audience : Audience P

/-- Carries out changes one after the other. -/
def run (a : Audience P) : List (Mutation P) → Run P
  | [] => { accepted := [], events := [], audience := a }
  | m :: ms =>
    let o := a.apply m
    let r := o.audience.run ms
    { accepted := o.accepted :: r.accepted
      events := o.event?.toList ++ r.events
      audience := r.audience }

end Audience

end Viewership
