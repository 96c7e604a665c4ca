/-
# Viewership.Scene.Command -- requests to a scene and their answers

A request changes an audience, asks about one, takes a journey further, walks through an audience
while changing it, or concerns an owner. Its answer is all that the caller learns from it; what was
reported meanwhile goes to the log.
-/
import Viewership.Audience.Members
import Viewership.Text.Outline
import Viewership.Traversal.Walk

namespace Viewership

universe u

/-- A question about one audience, which changes nothing. -/
inductive Query (P : Type u) where
  /-- Whether the auto-view rules alone accept a subject. -/
  | acceptsAuto (subject : Subject P)
  /-- Whether a viewer is excluded. -/
  | isExcluded (v : P)
  /-- Whether a viewer sees the entity. -/
  | contains (v : P)
  /-- The number of members. -/
  | size
  /-- Whether there is no member. -/
  | isEmpty
  /-- All members, copied out. -/
  | snapshot
  /-- All members, in the order in which they are visited. -/
  | visits
  /-- All members, each with what is known about it while it is visited. -/
  | readings
  /-- All members, as a new traversal hands them out. -/
  | traversed
  /-- The description of the audience. -/
  | describe (layout : Layout)

/-- A way to take a journey further. -/
inductive Stride where
  /-- Look whether another viewer follows. -/
  | hasNext
  /-- Go to the next viewer. -/
  | next
  /-- Skip some viewers and go to the one after them. -/
  | nth (n : Nat)
  /-- Go through the next viewers, up to a number of them. -/
  | take (n : Nat)
  /-- Go through all viewers that are left. -/
  | drain
  /-- Count the viewers that are left. -/
  | count
  /-- Go to the last viewer. -/
  | last

/-- A request to a scene. -/
inductive Command (P : Type u) where
  /-- Change the audience of an entity. -/
  | mutate (entity : Nat) (m : Mutation P)
  /-- Ask about the audience of an entity. -/
  | query (entity : Nat) (q : Query P)
  /-- Ask whether the audience of an entity is what the candidate lists will say. -/
  | predictable (entity : Nat)
  /-- Begin a journey through the audience of an entity. -/
  | traverse (entity : Nat)
  /-- Take a journey further. -/
  | proceed (journey : Nat) (stride : Stride)
  /-- Walk through the audience of an entity and change the membership of those who are met. -/
  | walk (entity : Nat) (actions : List WalkAction) (peek : Bool) (limit : Nat)
  /-- Make an owner auto-viewable or not. -/
  | setAutoViewable (owner : Nat) (autoViewable : Bool)
  /-- Change which viewer an owner is. -/
  | setViewer (owner : Nat) (viewer : Option P)
  /-- Ask how often an owner was asked for anything. -/
  | ownerReads (owner : Nat)
  /-- Describe and compare the subjects behind two optional viewers. -/
  | compareSubjects (a b : Option P)

/-- The answer to a request. -/
inductive Answer (P : Type u) where
  /-- Nothing is learnt. -/
  | nothing
  /-- Yes or no. -/
  | flag (b : Bool)
  /-- A number. -/
  | count (n : Nat)
  /-- A description. -/
  | text (s : String)
  /-- A viewer, if there is one. -/
  | viewer (v : Option P)
  /-- Viewers in order. -/
  | viewers (vs : List P)
  /-- What is known about each member. -/
  | readings (rs : List (Audience.Reading P))
  /-- Who was met on a walk. -/
  | encounters (es : List (Encounter P))
  /-- How often an owner was asked for its viewer, and whether it is auto-viewable. -/
  | reads (viewer auto : Nat)
  /-- Two subjects, and whether they are equal. -/
  | subjects (a b : String) (equal : Bool)

/-- An answer, with what was reported meanwhile. -/
structure Reply (P : Type u) where
  /-- The answer. -/
  answer : Answer P
  /-- The reports, in order. -/
  events : List (TraceEvent P)

/-- An answer to a request that reports nothing. -/
def Answer.silent {P : Type u} (answer : Answer P) : Reply P where
  answer := answer
  events := []

end Viewership
