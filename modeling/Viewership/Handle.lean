/-
# Viewership.Handle -- the handles that viewers go by

Numbers and texts are handles, compared by value. `PlayerId` is a number that is known to name a
player. `Keyed` is a handle that carries more than its identity: it is compared by its id alone, so
its tag tells which of several equal handles one holds.
-/
import Viewership.Viewer
import Viewership.Text.Outline
import Viewership.Text.Quoted

namespace Viewership

/-! ## Numbers and texts -/

instance : Viewer UInt32 := {}
instance : Viewer UInt64 := {}
instance : Viewer Int64 := {}
instance : Viewer String := {}

instance : HasOutline UInt32 := ⟨fun n => .atom (toString n)⟩
instance : HasOutline UInt64 := ⟨fun n => .atom (toString n)⟩
instance : HasOutline Int64 := ⟨fun n => .atom (toString n)⟩
instance : HasOutline String := ⟨fun s => .atom (quote s)⟩

/-! ## Player ids -/

/-- The id of a player. -/
structure PlayerId where
  /-- The number that names the player. -/
  number : UInt32
deriving DecidableEq, Hashable, Repr

instance : Viewer PlayerId := {}

instance : HasOutline PlayerId := ⟨fun p => .wrap "PlayerId" (outline p.number)⟩

/-! ## Tagged handles -/

/-- A handle with a tag that plays no part in comparing it. -/
structure Keyed where
  /-- What the handle is compared by. -/
  id : UInt32
  /-- What tells equal handles apart. -/
  tag : String
deriving Repr

namespace Keyed

instance : BEq Keyed := ⟨fun a b => a.id == b.id⟩

instance : Hashable Keyed := ⟨fun a => hash a.id⟩

theorem beq_iff {a b : Keyed} : (a == b) = true ↔ a.id = b.id :=
  show (a.id == b.id) = true ↔ a.id = b.id from beq_iff_eq

@[simp]
theorem mk_beq_mk (i j : UInt32) (s t : String) : ((⟨i, s⟩ : Keyed) == ⟨j, t⟩) = (i == j) := rfl

instance : Viewer Keyed where
  rfl := beq_iff.2 rfl
  symm h := beq_iff.2 (beq_iff.1 h).symm
  trans h₁ h₂ := beq_iff.2 ((beq_iff.1 h₁).trans (beq_iff.1 h₂))
  hash_eq _ _ h := congrArg (fun n : UInt32 => hash n) (beq_iff.1 h)

instance : HasOutline Keyed where
  outline k := .record "Keyed" [("id", outline k.id), ("tag", outline k.tag)] false

end Keyed

end Viewership
