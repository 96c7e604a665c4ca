/-
# Viewership.Traversal.Cursor -- a place in an audience that may change

A traversal keeps its place as plain numbers and looks at the audience anew on every search, so
others may add and remove viewers between its steps. It goes through the manual rows first, then
through the candidate lists, and then it is over: a cursor never goes back to an earlier phase. Two
things follow from that. A manual viewer that moves into a row behind the cursor is passed over, and
one that takes a new row while the manual phase lasts is met. After new lists the cursor stands at
the same position of these.

`Cursor.remaining` is what is still to come if nobody changes the audience, and the main statement
says that a search takes its first viewer.
-/
import Viewership.Audience.Basic
import Viewership.Scan

namespace Viewership

universe u

/-- Where a member of an audience stands. -/
inductive Spot where
  /-- Row `i` of the manual viewers. -/
  | row (i : Nat)
  /-- Entry `pos` of the candidate list `list`. -/
  | entry (list pos : Nat)
deriving DecidableEq, Repr

/-- Where the next search begins. -/
inductive Cursor where
  /-- At row `row` of the manual viewers. -/
  | manual (row : Nat)
  /-- At entry `pos` of the candidate list `list`. -/
  | auto (list pos : Nat)
  /-- Nowhere; the traversal is over. -/
  | exhausted
deriving DecidableEq, Repr

/-- The cursor just past a spot. -/
def Spot.next : Spot → Cursor
  | .row i => .manual (i + 1)
  | .entry list pos => .auto list (pos + 1)

variable {P : Type u} [Viewer P]

namespace Audience

/-- The first admitted candidate at or past entry `pos` of list `list`. -/
def locateEntry (a : Audience P) (list pos : Nat) : Option (Spot × P) :=
  (firstFromNested? a.admits a.candidates list pos).map fun ((l, p), v) => (.entry l p, v)

/-- The first member at or past a cursor. Past the last manual row the search goes on at the first
candidate list. -/
def locate (a : Audience P) : Cursor → Option (Spot × P)
  | .manual row =>
    match firstFrom? (!a.isSelf ·) a.roster.rows row with
    | some (i, v) => some (.row i, v)
    | none => a.locateEntry 0 0
  | .auto list pos => a.locateEntry list pos
  | .exhausted => none

/-- Searches on from a cursor: the viewer that is found, and the cursor just past it. A search that
finds nobody ends the traversal. -/
def advance (a : Audience P) (c : Cursor) : Option P × Cursor :=
  match a.locate c with
  | some (spot, v) => (some v, spot.next)
  | none => (none, .exhausted)

end Audience

/-! ## What is still to come -/

namespace Cursor

/-- The members that a traversal at this cursor meets in an audience that stays as it is. -/
def remaining (a : Audience P) : Cursor → List P
  | .manual row =>
    (a.roster.rows.toList.drop row).filter (!a.isSelf ·)
      ++ (entriesFrom a.candidates 0 0).filter a.admits
  | .auto list pos => (entriesFrom a.candidates list pos).filter a.admits
  | .exhausted => []

theorem filter_entriesFrom_eq_of_locateEntry (a : Audience P) (list pos : Nat) :
    (entriesFrom a.candidates list pos).filter a.admits =
      match a.locateEntry list pos with
      | some (spot, v) => v :: spot.next.remaining a
      | none => [] := by
  rw [filter_entriesFrom_eq_of_firstFromNested?, Audience.locateEntry]
  rcases firstFromNested? a.admits a.candidates list pos with _ | ⟨⟨l, p⟩, v⟩ <;> rfl

theorem remaining_eq_of_locate (a : Audience P) (c : Cursor) :
    c.remaining a =
      match a.locate c with
      | some (spot, v) => v :: spot.next.remaining a
      | none => [] := by
  cases c with
  | manual row =>
    rw [remaining, filter_drop_eq_of_firstFrom?, Audience.locate]
    rcases firstFrom? (!a.isSelf ·) a.roster.rows row with _ | ⟨i, v⟩
    · exact filter_entriesFrom_eq_of_locateEntry a 0 0
    · rfl
  | auto list pos => exact filter_entriesFrom_eq_of_locateEntry a list pos
  | exhausted => rfl

/-- A search takes the first of the members that are still to come. -/
theorem remaining_eq_of_advance (a : Audience P) (c : Cursor) :
    c.remaining a = (a.advance c).1.toList ++ (a.advance c).2.remaining a := by
  rw [remaining_eq_of_locate, Audience.advance]
  rcases a.locate c with _ | ⟨spot, v⟩ <;> rfl

end Cursor

end Viewership
