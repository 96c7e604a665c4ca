/-
# Viewership.Proofs.Traversal.Search -- where a search of an audience can end

A search begins at a cursor and ends at a spot, or at none. What it returns stands at that spot, and
an admitted candidate that the cursor has not passed stops it at the latest: the search ends there,
at an earlier candidate, or still among the manual rows. Nothing is said here about when the next
search is made, so all of this can be used while the audience changes.

In a sound audience nobody on the roster is passed over, so a search from a manual row ends at that
very row if there is one, and goes on to the candidates only behind the last.
-/
import Viewership.Proofs.Audience.Reachable
import Viewership.Traversal.Cursor

namespace Viewership

universe u

variable {P : Type u} [Viewer P]

/-- The cursor has not passed entry `pos` of list `list`. -/
def Cursor.Ahead (list pos : Nat) : Cursor → Prop
  | .manual _ => True
  | .auto l p => l < list ∨ l = list ∧ p ≤ pos
  | .exhausted => False

/-- A cursor that stands just past a candidate has passed exactly those up to it. -/
theorem Spot.ahead_next_entry_iff (l p list pos : Nat) :
    ((Spot.entry l p).next).Ahead list pos ↔ l < list ∨ l = list ∧ p < pos :=
  Iff.rfl

namespace Audience

/-- Entry `pos` of candidate list `list`, if there are that many. -/
def candidate? (a : Audience P) (list pos : Nat) : Option P := a.candidates[list]?.bind (·[pos]?)

theorem of_locateEntry_eq_some {a : Audience P} {list pos : Nat} {spot : Spot} {v : P}
    (h : a.locateEntry list pos = some (spot, v)) :
    ∃ l p, spot = .entry l p ∧ (list < l ∨ list = l ∧ pos ≤ p) ∧ a.candidate? l p = some v
      ∧ a.admits v = true := by
  obtain ⟨⟨⟨l, p⟩, x⟩, hf, heq⟩ := Option.map_eq_some_iff.1 h
  obtain ⟨rfl, rfl⟩ := Prod.mk.inj heq
  obtain ⟨hle, ⟨xs, hxs, hx⟩, hk⟩ := of_firstFromNested?_eq_some hf
  exact ⟨l, p, rfl, hle, by rw [candidate?, hxs, Option.bind_some, hx], hk⟩

theorem exists_locateEntry_of_admits {a : Audience P} {list pos i j : Nat} {y : P}
    (hij : list < i ∨ list = i ∧ pos ≤ j) (hy : a.candidate? i j = some y)
    (hadm : a.admits y = true) :
    ∃ l p v, a.locateEntry list pos = some (.entry l p, v) ∧ (l < i ∨ l = i ∧ p ≤ j) := by
  obtain ⟨xs, hxs, hy⟩ := Option.bind_eq_some_iff.1 hy
  obtain ⟨l, p, x, hf, hle⟩ := exists_firstFromNested?_of_keep hij hxs hy hadm
  exact ⟨l, p, x, by rw [locateEntry, hf]; rfl, hle⟩

/-- A find in a candidate list is an admitted entry that the cursor had not passed. -/
theorem of_locate_eq_entry {a : Audience P} {c : Cursor} {l p : Nat} {v : P}
    (h : a.locate c = some (.entry l p, v)) :
    c.Ahead l p ∧ a.candidate? l p = some v ∧ a.admits v = true := by
  cases c with
  | manual row =>
    rw [locate] at h
    split at h
    · simp at h
    · obtain ⟨l', p', hspot, -, hentry, hadm⟩ := of_locateEntry_eq_some h
      obtain ⟨rfl, rfl⟩ := Spot.entry.inj hspot
      exact ⟨trivial, hentry, hadm⟩
  | auto list pos =>
    obtain ⟨l', p', hspot, hle, hentry, hadm⟩ := of_locateEntry_eq_some h
    obtain ⟨rfl, rfl⟩ := Spot.entry.inj hspot
    exact ⟨hle, hentry, hadm⟩
  | exhausted => simp [locate] at h

/-- A find in a manual row is made from a manual row, and it is not the entity itself. -/
theorem of_locate_eq_row {a : Audience P} {c : Cursor} {i : Nat} {v : P}
    (h : a.locate c = some (.row i, v)) :
    ∃ row, c = .manual row ∧ row ≤ i ∧ a.roster.rows[i]? = some v ∧ a.isSelf v = false := by
  cases c with
  | manual row =>
    rw [locate] at h
    split at h
    · next j w hf =>
      simp only [Option.some.injEq, Prod.mk.injEq, Spot.row.injEq] at h
      obtain ⟨rfl, rfl⟩ := h
      obtain ⟨hle, hrow, hk⟩ := of_firstFrom?_eq_some hf
      exact ⟨row, rfl, hle, hrow, by simpa using hk⟩
    · obtain ⟨l, p, hspot, -⟩ := of_locateEntry_eq_some h
      cases hspot
  | auto list pos =>
    obtain ⟨l, p, hspot, -⟩ := of_locateEntry_eq_some h
    cases hspot
  | exhausted => simp [locate] at h

/-- An admitted candidate that the cursor has not passed stops the search at the latest. -/
theorem exists_locate_of_ahead {a : Audience P} {c : Cursor} {i j : Nat} {y : P}
    (hc : c.Ahead i j) (hy : a.candidate? i j = some y) (hadm : a.admits y = true) :
    ∃ spot v, a.locate c = some (spot, v)
      ∧ ∀ l p, spot = .entry l p → l < i ∨ l = i ∧ p ≤ j := by
  cases c with
  | manual row =>
    rw [locate]
    split
    · next k w hf => exact ⟨.row k, w, rfl, fun l p h => by cases h⟩
    · have hij : 0 < i ∨ 0 = i ∧ 0 ≤ j := by omega
      obtain ⟨l, p, v, hv, hle⟩ := exists_locateEntry_of_admits hij hy hadm
      refine ⟨.entry l p, v, hv, ?_⟩
      intro l' p' h
      obtain ⟨rfl, rfl⟩ := Spot.entry.inj h
      exact hle
  | auto list pos =>
    obtain ⟨l, p, v, hv, hle⟩ := exists_locateEntry_of_admits hc hy hadm
    refine ⟨.entry l p, v, hv, ?_⟩
    intro l' p' h
    obtain ⟨rfl, rfl⟩ := Spot.entry.inj h
    exact hle
  | exhausted => exact absurd hc id

/-! ## Searching the rows of a sound audience -/

theorem Sound.locate_manual {a : Audience P} (h : a.Sound) (row : Nat) :
    a.locate (.manual row) =
      match a.roster.rows[row]? with
      | some v => some (.row row, v)
      | none => a.locateEntry 0 0 := by
  cases hrow : a.roster.rows[row]? with
  | some v =>
    have hself : (!a.isSelf v) = true := by
      rw [h.not_isSelf_of_isManual (h.isManual_of_row hrow)]
      rfl
    obtain ⟨hlt, hv⟩ := Array.getElem?_eq_some_iff.1 hrow
    simp [locate, firstFrom?, hlt, hv, hself]
  | none =>
    have hge : ¬ row < a.roster.rows.size := by simpa using hrow
    simp [locate, firstFrom?, hge]

end Audience

end Viewership
