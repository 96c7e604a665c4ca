/-
# Viewership.Text.Outline -- the two layouts of a described value

A description names a value's parts in order. It is written either on one line, or expanded with one
part a line, four spaces of indent for each level and a comma after every part. An `Outline` holds
both, and `wrap` and `record` build the outline of a whole from the outlines of its parts.
-/

namespace Viewership

universe u

/-- How a description is laid out. -/
inductive Layout where
  /-- Everything on one line. -/
  | compact
  /-- One part a line. -/
  | expanded
deriving DecidableEq, Repr

/-- A value's description in both layouts. -/
structure Outline where
  /-- The description on one line. -/
  compact : String
  /-- The lines of the expanded description, the first of them and the others. -/
  head : String
  /-- The lines after the first. -/
  tail : List String
deriving DecidableEq, Repr

/-- Values that have a description. -/
class HasOutline (α : Type u) where
  /-- The description of a value. -/
  outline : α → Outline

export HasOutline (outline)

namespace Outline

/-- A description without parts: the same text in both layouts. -/
def atom (text : String) : Outline where
  compact := text
  head := text
  tail := []

/-- The lines of an expanded part, indented, with a comma after the last. -/
def part (label : String) (o : Outline) : List String :=
  let lines := (label ++ o.head) :: o.tail
  (lines.dropLast ++ (lines.getLast?.map (· ++ ",")).toList).map ("    " ++ ·)

/-- One unnamed part in parentheses behind a name. -/
def wrap (name : String) (inner : Outline) : Outline where
  compact := name ++ "(" ++ inner.compact ++ ")"
  head := name ++ "("
  tail := inner.part "" ++ [")"]

/-- Named parts in braces behind a name. With `more` set, two dots after the last part say that not
every part is listed. -/
def record (name : String) (fields : List (String × Outline)) (more : Bool) : Outline where
  compact :=
    let parts := fields.map fun (label, o) => label ++ ": " ++ o.compact
    name ++ " \x7b " ++ ", ".intercalate (parts ++ if more then [".."] else []) ++ " \x7d"
  head := name ++ " \x7b"
  tail :=
    fields.flatMap (fun (label, o) => o.part (label ++ ": "))
      ++ (if more then ["    .."] else []) ++ ["\x7d"]

/-- The text of a description in the given layout. -/
def render (o : Outline) : Layout → String
  | .compact => o.compact
  | .expanded => "\n".intercalate (o.head :: o.tail)

end Outline

instance : HasOutline Nat := ⟨fun n => .atom (toString n)⟩

instance {α : Type u} [HasOutline α] : HasOutline (Option α) where
  outline
    | some x => .wrap "Some" (outline x)
    | none => .atom "None"

end Viewership
