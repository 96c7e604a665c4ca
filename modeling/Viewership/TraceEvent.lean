/-
# Viewership.TraceEvent -- what the mutators report

A change to an audience is reported as one event, which names the viewer that was asked for, not the
equal handle that may have been stored before. The one silent call is an owner being added to its
own audience. A `LogRecord` is an event as a log shows it: a level, a message and named fields.
-/
import Viewership.Text.Outline

namespace Viewership

universe u

/-- A report of one change to an audience. -/
inductive TraceEvent (P : Type u) where
  /-- The candidate lists were replaced by `count` lists. -/
  | listsReplaced (count : Nat)
  /-- A manual viewer was asked for; `added` is false if it was one already. -/
  | manualAdded (v : P) (added : Bool)
  /-- A manual viewer was dropped. -/
  | manualRemoved (v : P)
  /-- A viewer that is not manual was removed; `excluded` is false if it was excluded already. -/
  | autoExcluded (v : P) (excluded : Bool)
deriving DecidableEq, Repr

/-! ## Events in a log -/

/-- The value of a field of a log record. -/
inductive FieldValue where
  /-- A number. -/
  | number (n : Nat)
  /-- A truth value. -/
  | flag (b : Bool)
  /-- A described value. -/
  | text (s : String)
deriving DecidableEq, Repr

/-- One line of a log. -/
structure LogRecord where
  /-- How much the line matters. -/
  level : String
  /-- What happened. -/
  message : String
  /-- To whom and how, in order. -/
  fields : List (String × FieldValue)
deriving DecidableEq, Repr

/-- The log line of an event. Every event is of the finest level. -/
def TraceEvent.record {P : Type u} [HasOutline P] : TraceEvent P → LogRecord
  | .listsReplaced count =>
    ⟨"TRACE", "view references updated", [("lists", .number count)]⟩
  | .manualAdded v added =>
    ⟨"TRACE", "manual viewer added",
      [("viewer", .text (outline v).compact), ("added", .flag added)]⟩
  | .manualRemoved v =>
    ⟨"TRACE", "manual viewer removed", [("viewer", .text (outline v).compact)]⟩
  | .autoExcluded v excluded =>
    ⟨"TRACE", "auto viewer excluded",
      [("viewer", .text (outline v).compact), ("excluded", .flag excluded)]⟩

end Viewership
