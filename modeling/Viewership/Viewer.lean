/-
# Viewership.Viewer -- handles on the entities that can observe others

A viewer is known by a handle: an id, a name, a connection. Handles are compared by `==`, which has
to be an equivalence that the hash respects but need not be identity: two handles of one player may
carry different tags and still be equal. Every table and set of this library goes by `==`, so which
of several equal handles it keeps and hands back is part of its behaviour.
-/
import Std.Data.ExtHashMap
import Std.Data.ExtHashSet

namespace Viewership

universe u

/-- Handles that can be told apart and looked up: `==` is an equivalence and `hash` respects it. -/
class Viewer (P : Type u) extends BEq P, Hashable P, EquivBEq P, LawfulHashable P

/-- An entity that is checked against the auto-view rules. Only a viewer can be excluded from
them. -/
inductive Subject (P : Type u) where
  /-- An entity that is able to observe others. -/
  | viewer (v : P)
  /-- An entity that can only be observed, such as an item or a projectile. -/
  | other
deriving BEq

/-- The subject behind an optional viewer: without one the entity can only be observed. -/
def Subject.ofOption {P : Type u} : Option P → Subject P
  | some v => .viewer v
  | none => .other

end Viewership
