/-
# Viewership.Proofs.Audience.Refusal -- a refused call leaves no trace

Adding or removing a viewer is answered with a truth value, and callers read it as "something has
changed". For a reachable audience that is exactly what it says. A refused call leaves the audience as
it was, down to the handles, the index and the exceptions. An accepted one has one of three effects,
which exclude each other: the viewer takes a new last row, it loses its row, or it is excluded.

The equality is no matter of course. An added viewer loses its exception before the roster is asked
whether it is there already, so a refused call could take an exception away. It does not because no
viewer is manual and excluded at once, which only the calls make so.
-/
import Viewership.Handle
import Viewership.Proofs.Audience.Reachable

namespace Viewership.Audience

open Std (ExtHashSet)

universe u

variable {P : Type u} [Viewer P]

/-! ## Exceptions that stay as they are -/

theorem erase_eq_self_of_not_contains {s : ExtHashSet P} {v : P} (h : s.contains v = false) :
    s.erase v = s := by
  refine ExtHashSet.ext_get? ?_
  intro w
  rw [ExtHashSet.get?_erase]
  cases hvw : v == w with
  | true =>
    rw [ExtHashSet.contains_congr hvw] at h
    rw [if_pos rfl, ExtHashSet.get?_eq_none_of_contains_eq_false h]
  | false => rw [if_neg Bool.false_ne_true]

/-- The handle that is in the set already stays there. -/
theorem insert_eq_self_of_contains {s : ExtHashSet P} {v : P} (h : s.contains v = true) :
    s.insert v = s := by
  refine ExtHashSet.ext_get? ?_
  intro w
  rw [ExtHashSet.get?_insert, if_neg]
  rintro ⟨-, hv⟩
  exact hv (ExtHashSet.contains_iff_mem.1 h)

/-! ## What a call can do -/

/-- The audience `b` is `a` with `v` in a new last row and without an exception. -/
structure Appended (a : Audience P) (v : P) (b : Audience P) : Prop where
  rows : b.roster.rows = a.roster.rows.push v
  index (w : P) :
    b.roster.index[w]? = if v == w then some a.roster.rows.size else a.roster.index[w]?
  exceptions (w : P) : b.exceptions.get? w = if v == w then none else a.exceptions.get? w
  ownViewer : b.ownViewer = a.ownViewer
  lists : b.lists = a.lists

/-- The audience `b` is `a` without the row of `v`, in whose place the last row stands. -/
structure Dropped (a : Audience P) (v : P) (b : Audience P) : Prop where
  rows : ∃ (row : Nat) (x : P), a.roster.rows[row]? = some x ∧ (x == v) = true
    ∧ b.roster.rows = swapRemove a.roster.rows row
  index (w : P) (i : Nat) :
    b.roster.index[w]? = some i ↔ ∃ x, b.roster.rows[i]? = some x ∧ (x == w) = true
  exceptions : b.exceptions = a.exceptions
  ownViewer : b.ownViewer = a.ownViewer
  lists : b.lists = a.lists

/-- The audience `b` is `a` with a new exception for `v`. -/
structure Excluded (a : Audience P) (v : P) (b : Audience P) : Prop where
  not_isExcluded : a.isExcluded v = false
  exceptions (w : P) : b.exceptions.get? w = if v == w then some v else a.exceptions.get? w
  roster : b.roster = a.roster
  ownViewer : b.ownViewer = a.ownViewer
  lists : b.lists = a.lists

/-- The ways in which a call about a viewer changes an audience. -/
inductive Effect where
  /-- The viewer took a new last row. -/
  | appended
  /-- The viewer lost its row. -/
  | dropped
  /-- The viewer was excluded. -/
  | excluded
deriving DecidableEq, Repr

/-- The effect tells `a` from `b`, where `v` is the viewer that the call was about. -/
def Effect.Happened (a : Audience P) (v : P) (b : Audience P) : Effect → Prop
  | .appended => Appended a v b
  | .dropped => Dropped a v b
  | .excluded => Excluded a v b

namespace Effect

variable {a b : Audience P} {v : P}

/-- The number of rows after an effect. -/
def sizeAfter (n : Nat) : Effect → Nat
  | .appended => n + 1
  | .dropped => n - 1
  | .excluded => n

theorem Happened.size {e : Effect} (h : e.Happened a v b) :
    b.roster.rows.size = e.sizeAfter a.roster.rows.size := by
  cases e with
  | appended =>
    have hrows : b.roster.rows = a.roster.rows.push v := Appended.rows h
    rw [hrows, Array.size_push, sizeAfter]
  | dropped =>
    obtain ⟨row, x, hx, -, hrows⟩ := Dropped.rows h
    rw [hrows, size_swapRemove (Array.getElem?_eq_some_iff.1 hx).1, sizeAfter]
  | excluded =>
    have hroster : b.roster = a.roster := Excluded.roster h
    rw [hroster, sizeAfter]

/-- A row can only be lost where there is one. -/
theorem Happened.size_pos (h : dropped.Happened a v b) : 0 < a.roster.rows.size := by
  obtain ⟨row, x, hx, -, -⟩ := Dropped.rows h
  have hlt : row < a.roster.rows.size := (Array.getElem?_eq_some_iff.1 hx).1
  omega

/-- The three effects exclude each other: the number of rows tells which it was. -/
theorem Happened.unique {e e' : Effect} (h : e.Happened a v b) (h' : e'.Happened a v b) :
    e = e' := by
  have hsize := h.size.symm.trans h'.size
  cases e with
  | appended =>
    cases e' with
    | appended => rfl
    | dropped => simp only [sizeAfter] at hsize; omega
    | excluded => simp only [sizeAfter] at hsize; omega
  | dropped =>
    -- one row less is the same number of rows if there was none
    have hpos := h.size_pos
    cases e' with
    | appended => simp only [sizeAfter] at hsize; omega
    | dropped => rfl
    | excluded => simp only [sizeAfter] at hsize; omega
  | excluded =>
    cases e' with
    | appended => simp only [sizeAfter] at hsize; omega
    | dropped =>
      have hpos := h'.size_pos
      simp only [sizeAfter] at hsize
      omega
    | excluded => rfl

/-- Every effect leaves another audience behind. -/
theorem Happened.ne {e : Effect} (h : e.Happened a v b) : b ≠ a := by
  rintro rfl
  have hsize := h.size
  cases e with
  | appended => simp only [sizeAfter] at hsize; omega
  | dropped =>
    have hpos := h.size_pos
    simp only [sizeAfter] at hsize
    omega
  | excluded =>
    -- nothing but the exception is new, and there was none before
    have hnone : b.exceptions.get? v = none :=
      ExtHashSet.get?_eq_none_of_contains_eq_false (Excluded.not_isExcluded h)
    rw [Excluded.exceptions h v, BEq.rfl, if_pos rfl] at hnone
    cases hnone

theorem Happened.iff_eq {e : Effect} (h : e.Happened a v b) (e' : Effect) :
    e'.Happened a v b ↔ e' = e := by
  constructor
  · intro h'
    exact h'.unique h
  · rintro rfl
    exact h

end Effect

/-! ## The calls of a sound audience -/

namespace Sound

variable {a : Audience P} (h : a.Sound)
include h

/-- Adding a viewer is refused and leaves everything as it was, or the viewer takes a new row. -/
theorem addManual_cases (v : P) :
    ((a.addManual v).accepted = false ∧ (a.addManual v).audience = a)
    ∨ ((a.addManual v).accepted = true ∧ Appended a v (a.addManual v).audience) := by
  cases hs : a.isSelf v with
  | true => exact .inl (by simp [addManual_of_isSelf hs])
  | false =>
    rw [addManual_of_not_isSelf hs]
    cases hm : a.isManual v with
    | true =>
      refine .inl ⟨rfl, ?_⟩
      have hroster : a.roster.insert v = (false, a.roster) := by
        rw [Roster.insert, ← Roster.contains_eq_index, show a.roster.contains v = true from hm,
          if_pos rfl]
      -- the exception was erased before the roster refused, but there was none
      have hexceptions : a.exceptions.erase v = a.exceptions :=
        erase_eq_self_of_not_contains (h.not_isExcluded_of_isManual hm)
      rw [hroster, hexceptions]
    | false =>
      refine .inr ⟨rfl, ?_⟩
      have hroster : a.roster.insert v
          = (true, ⟨a.roster.rows.push v, a.roster.index.insert v a.roster.rows.size⟩) := by
        rw [Roster.insert, ← Roster.contains_eq_index, show a.roster.contains v = false from hm,
          if_neg Bool.false_ne_true]
      refine ⟨?_, ?_, ?_, rfl, rfl⟩
      · rw [hroster]
      · intro w
        rw [hroster, Std.ExtHashMap.getElem?_insert]
      · intro w
        rw [ExtHashSet.get?_erase]

/-- Removing a viewer is refused and leaves everything as it was, or the viewer loses its row, or it
had none and is excluded. -/
theorem remove_cases (v : P) :
    ((a.remove v).accepted = false ∧ (a.remove v).audience = a)
    ∨ ((a.remove v).accepted = true ∧ Dropped a v (a.remove v).audience)
    ∨ ((a.remove v).accepted = true ∧ Excluded a v (a.remove v).audience) := by
  cases hm : a.isManual v with
  | true =>
    obtain ⟨row, x, hx, hxv⟩ := (h.coherent.contains_iff_exists_row v).1 hm
    have hrow : a.roster.index[v]? = some row := (h.coherent.index_eq_some_iff v row).2 ⟨x, hx, hxv⟩
    rw [remove_of_isManual h.coherent hm]
    refine .inr (.inl ⟨rfl, ?_, (h.coherent.remove v).index_eq_some_iff, rfl, rfl, rfl⟩)
    exact ⟨row, x, hx, hxv, Roster.rows_remove_of_index_eq_some hrow⟩
  | false =>
    rw [remove_of_not_isManual hm]
    cases he : a.isExcluded v with
    | true =>
      refine .inl ⟨rfl, ?_⟩
      have hexceptions : a.exceptions.insert v = a.exceptions := insert_eq_self_of_contains he
      rw [hexceptions]
    | false =>
      refine .inr (.inr ⟨rfl, he, ?_, rfl, rfl, rfl⟩)
      intro w
      have hv : ¬ v ∈ a.exceptions := by
        rw [← ExtHashSet.contains_iff_mem, show a.exceptions.contains v = false from he]
        exact Bool.false_ne_true
      simp only [ExtHashSet.get?_insert, hv, not_false_eq_true, and_true]

end Sound

/-! ## Refused calls -/

/-- **A call is refused exactly if it changed nothing.** That holds of adding and of removing any
viewer. An accepted addition has appended the viewer, and nothing else has happened. An accepted
removal has dropped the viewer or excluded it, and again only the one of them has happened. -/
theorem Reachable.refused_iff_unchanged {a : Audience P} (ha : a.Reachable) (v : P) :
    ((a.apply (.add v)).accepted = false ↔ (a.apply (.add v)).audience = a) ∧
    ((a.apply (.remove v)).accepted = false ↔ (a.apply (.remove v)).audience = a) ∧
    ((a.apply (.add v)).accepted = true →
      ∀ e : Effect, e.Happened a v (a.apply (.add v)).audience ↔ e = .appended) ∧
    ((a.apply (.remove v)).accepted = true →
      ∃ e : Effect, (e = .dropped ∨ e = .excluded)
        ∧ ∀ e' : Effect, e'.Happened a v (a.apply (.remove v)).audience ↔ e' = e) := by
  refine ⟨?_, ?_, ?_, ?_⟩
  · rcases ha.sound.addManual_cases v with ⟨hacc, haud⟩ | ⟨hacc, happ⟩
    · simp only [apply, hacc, haud]
    · have hne := Effect.Happened.ne (e := .appended) happ
      simp only [apply, hacc, hne, reduceCtorEq]
  · rcases ha.sound.remove_cases v with ⟨hacc, haud⟩ | ⟨hacc, hdrop⟩ | ⟨hacc, hexc⟩
    · simp only [apply, hacc, haud]
    · have hne := Effect.Happened.ne (e := .dropped) hdrop
      simp only [apply, hacc, hne, reduceCtorEq]
    · have hne := Effect.Happened.ne (e := .excluded) hexc
      simp only [apply, hacc, hne, reduceCtorEq]
  · intro htrue
    rcases ha.sound.addManual_cases v with ⟨hacc, -⟩ | ⟨-, happ⟩
    · exact absurd (hacc.symm.trans htrue) Bool.false_ne_true
    · exact Effect.Happened.iff_eq (e := .appended) happ
  · intro htrue
    rcases ha.sound.remove_cases v with ⟨hacc, -⟩ | ⟨-, hdrop⟩ | ⟨-, hexc⟩
    · exact absurd (hacc.symm.trans htrue) Bool.false_ne_true
    · exact ⟨.dropped, .inl rfl, Effect.Happened.iff_eq (e := .dropped) hdrop⟩
    · exact ⟨.excluded, .inr rfl, Effect.Happened.iff_eq (e := .excluded) hexc⟩

/-- Under other tags a manual viewer is refused and an excluded one is refused, and both keep their
handles. The excluded one can be added, and loses its exception with that. -/
theorem refused_iff_unchanged_keyed :
    let a : Audience Keyed := ((create (some (.unread true (some ⟨9, "own"⟩))) 0).run
      [.add ⟨5, "a"⟩, .remove ⟨7, "b"⟩]).audience
    (a.apply (.add ⟨5, "x"⟩)).audience = a ∧ (a.apply (.add ⟨9, "y"⟩)).audience = a ∧
    (a.apply (.remove ⟨7, "z"⟩)).audience = a ∧
    (a.apply (.add ⟨7, "z"⟩)).accepted = true ∧
    Appended a ⟨7, "z"⟩ (a.apply (.add ⟨7, "z"⟩)).audience ∧
    (a.apply (.remove ⟨5, "x"⟩)).accepted = true ∧
    ∃ e : Effect, e.Happened a ⟨5, "x"⟩ (a.apply (.remove ⟨5, "x"⟩)).audience := by
  intro a
  have hreach : a.Reachable := reachable_run_create _ _ _
  have ha : a =
      { ownViewer := some ⟨9, "own"⟩
        roster :=
          { rows := #[⟨5, "a"⟩], index := (Std.ExtHashMap.emptyWithCapacity 0).insert ⟨5, "a"⟩ 0 }
        exceptions := Std.ExtHashSet.insert ∅ ⟨7, "b"⟩
        lists := none } := by
    simp [a, run, apply, addManual, remove, create, isSelf, Owner.unread, Roster.insert,
      Roster.remove, Roster.emptyWithCapacity]
  have hadd (v : Keyed) : (a.apply (.add v)).accepted = (!a.isSelf v && !a.isManual v) :=
    accepted_addManual a v
  have hremove (v : Keyed) : (a.apply (.remove v)).accepted = (a.isManual v || !a.isExcluded v) :=
    accepted_remove hreach.sound.coherent v
  have hseven : (a.apply (.add ⟨7, "z"⟩)).accepted = true := by
    rw [hadd]
    simp [ha, isSelf, isManual, Roster.contains_eq_index]
  have hfive : (a.apply (.remove ⟨5, "x"⟩)).accepted = true := by
    rw [hremove]
    simp [ha, isManual, Roster.contains_eq_index]
  refine ⟨?_, ?_, ?_, hseven, ?_, hfive, ?_⟩
  · refine (hreach.refused_iff_unchanged ⟨5, "x"⟩).1.1 ?_
    rw [hadd]
    simp [ha, isManual, Roster.contains_eq_index]
  · refine (hreach.refused_iff_unchanged ⟨9, "y"⟩).1.1 ?_
    rw [hadd]
    simp [ha, isSelf]
  · refine (hreach.refused_iff_unchanged ⟨7, "z"⟩).2.1.1 ?_
    rw [hremove]
    simp [ha, isManual, isExcluded, Roster.contains_eq_index]
  · exact ((hreach.refused_iff_unchanged ⟨7, "z"⟩).2.2.1 hseven .appended).2 rfl
  · obtain ⟨e, -, he⟩ := (hreach.refused_iff_unchanged ⟨5, "x"⟩).2.2.2 hfive
    exact ⟨e, (he e).2 rfl⟩

end Viewership.Audience
