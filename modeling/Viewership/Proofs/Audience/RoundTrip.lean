/-
# Viewership.Proofs.Audience.RoundTrip -- a viewer that comes and goes, or goes and comes back

To add a viewer and to remove it are not quite inverse to each other, and which of the two comes
first makes the difference. Who comes and goes leaves nothing behind: the new row is the last one,
so no other row moves when it is freed, and the audience is what it was, but for an exception that
the viewer may have had. Who goes and comes back stands in the last row afterwards, under the handle
it came back with, and the viewer that was last stands in its place. All that can be asked about
single viewers is answered as before, and the rows are a rearrangement of those before.
-/
import Viewership.Handle
import Viewership.Proofs.Audience.Members
import Viewership.Proofs.Audience.Refusal
import Viewership.Proofs.Matching.Basic
import Viewership.Proofs.Roster.Enumeration
import Viewership.Proofs.Session.Basic

namespace Viewership

open Std (ExtHashMap)

universe u

/-! ## The last row -/

section SwapRemove

variable {α : Type u}

/-- No other entry moves when the last one is removed. -/
theorem swapRemove_push (xs : Array α) (x : α) : swapRemove (xs.push x) xs.size = xs := by
  simp [swapRemove, Array.set_push]

theorem getElem?_push_swapRemove {xs : Array α} {i : Nat} (h : i < xs.size) (y : α) (j : Nat) :
    ((swapRemove xs i).push y)[j]? =
      if j = xs.size - 1 then some y else if j = i then xs[xs.size - 1]? else xs[j]? := by
  rw [Array.getElem?_push, size_swapRemove h, getElem?_swapRemove h]
  by_cases hend : j = xs.size - 1
  · rw [if_pos hend, if_pos hend]
  · rw [if_neg hend, if_neg hend, if_neg hend]

end SwapRemove

variable {P : Type u} [Viewer P]

/-- A key that is put in and taken out again leaves the map as it was. -/
theorem erase_insert_of_not_contains {m : ExtHashMap P Nat} {v : P} {i : Nat}
    (h : m.contains v = false) : (m.insert v i).erase v = m := by
  refine ExtHashMap.ext_getKey_getElem? ?_ ?_
  · intro w hw hw'
    have hvw : (v == w) = false := (ExtHashMap.mem_erase.1 hw).1
    apply Option.some.inj
    rw [← ExtHashMap.getKey?_eq_some_getKey, ← ExtHashMap.getKey?_eq_some_getKey,
      ExtHashMap.getKey?_erase, ExtHashMap.getKey?_insert, hvw, if_neg Bool.false_ne_true,
      if_neg Bool.false_ne_true]
  · intro w
    rw [ExtHashMap.getElem?_erase, ExtHashMap.getElem?_insert]
    cases hvw : v == w with
    | true =>
      rw [ExtHashMap.contains_congr hvw] at h
      rw [if_pos rfl, ExtHashMap.getElem?_eq_none_of_contains_eq_false h]
    | false => rw [if_neg Bool.false_ne_true, if_neg Bool.false_ne_true]

namespace Roster

theorem contains_remove_self (r : Roster P) (v : P) : (r.remove v).2.contains v = false := by
  rw [contains_remove, BEq.rfl, Bool.not_true, Bool.and_false]

/-- Who comes and goes leaves the roster as it was, rows and index. -/
theorem remove_insert {r : Roster P} {v : P} (h : r.contains v = false) :
    ((r.insert v).2.remove v).2 = r := by
  have hcontains : r.index.contains v = false := (r.contains_eq_index v).symm.trans h
  have hrows : swapRemove (r.rows.push v) r.rows.size = r.rows := swapRemove_push r.rows v
  simp [insert, remove, hcontains, hrows, erase_insert_of_not_contains]

/-- Who goes and comes back stands in the last row, and the viewer that was last in the freed one.
-/
theorem getElem?_rows_insert_remove {r : Roster P} {v : P} {row : Nat}
    (hv : r.index[v]? = some row) (hrow : row < r.rows.size) (j : Nat) :
    ((r.remove v).2.insert v).2.rows[j]? =
      if j = r.rows.size - 1 then some v
      else if j = row then r.rows[r.rows.size - 1]? else r.rows[j]? := by
  rw [rows_insert, contains_remove_self, if_neg Bool.false_ne_true,
    rows_remove_of_index_eq_some hv, getElem?_push_swapRemove hrow]

/-- Up to the order and the handles the rows are the same again. -/
theorem Coherent.rows_insert_remove_perm {r : Roster P} (h : r.Coherent) {v : P}
    (hv : r.contains v = true) :
    ∃ vs, List.Forall₂ SameViewer r.rows.toList vs
      ∧ vs.Perm ((r.remove v).2.insert v).2.rows.toList := by
  rw [h.contains_eq_isSome_rowOf?, Option.isSome_iff_exists] at hv
  obtain ⟨row, hrow⟩ := hv
  obtain ⟨l, x, m, -, hxv, hrows, -⟩ := h.exists_split_of_rowOf? hrow
  have hleft : (r.remove v).2.rows.toList.Perm (l ++ m) := by
    have hperm := h.rows_remove_perm v
    have hdistinct := h.enumerates_rows.distinct
    rw [hrows] at hperm hdistinct
    rwa [filter_not_beq_of_distinct hdistinct hxv] at hperm
  have hsame (vs : List P) : List.Forall₂ SameViewer vs vs :=
    List.forall₂_same.2 fun y _ => (BEq.rfl : (y == y) = true)
  -- the handle changes first, in its old row, and then the row moves
  refine ⟨l ++ v :: m, ?_, ?_⟩
  · rw [hrows]
    exact List.rel_append (hsame l) (.cons hxv (hsame m))
  · rw [rows_insert, contains_remove_self, if_neg Bool.false_ne_true, Array.toList_push]
    calc List.Perm (l ++ v :: m) (v :: (l ++ m)) := List.perm_middle
      List.Perm _ (l ++ m ++ [v]) := (List.perm_append_singleton v (l ++ m)).symm
      List.Perm _ ((r.remove v).2.rows.toList ++ [v]) := hleft.symm.append_right [v]

end Roster

namespace Audience

/-! ## Coming and going -/

/-- Who comes and goes loses its exception, if it had one, and leaves everything else as it was. -/
theorem Sound.remove_addManual {a : Audience P} (h : a.Sound) {v : P} (hs : a.isSelf v = false)
    (hm : a.isManual v = false) :
    ((a.addManual v).audience.remove v).accepted = true
      ∧ ((a.addManual v).audience.remove v).audience
        = { a with exceptions := a.exceptions.erase v } := by
  have hadded : (a.addManual v).audience.isManual v = true := by
    rw [isManual_addManual, hs, BEq.rfl]
    exact Bool.or_true _
  have hroster : ((a.roster.insert v).2.remove v).2 = a.roster := Roster.remove_insert hm
  rw [remove_of_isManual (h.addManual v).coherent hadded]
  refine ⟨rfl, ?_⟩
  rw [addManual_of_not_isSelf hs, hroster]

/-! ## Going and coming back -/

/-- The audience `b` is `a` with `v` in the last row, under this handle, and the viewer that was
last in the row of `v`. Nothing else has changed. -/
structure MovedLast (a : Audience P) (v : P) (b : Audience P) : Prop where
  rows : ∃ (row : Nat) (x : P), a.roster.rows[row]? = some x ∧ (x == v) = true
    ∧ ∀ j, b.roster.rows[j]? =
      if j = a.roster.rows.size - 1 then some v
      else if j = row then a.roster.rows[a.roster.rows.size - 1]? else a.roster.rows[j]?
  exceptions : b.exceptions = a.exceptions
  ownViewer : b.ownViewer = a.ownViewer
  lists : b.lists = a.lists

namespace MovedLast

variable {a b : Audience P} {v : P} (h : MovedLast a v b)
include h

theorem isSelf (w : P) : b.isSelf w = a.isSelf w := by
  rw [Audience.isSelf, Audience.isSelf, h.ownViewer]

theorem isExcluded (w : P) : b.isExcluded w = a.isExcluded w := by
  rw [Audience.isExcluded, Audience.isExcluded, h.exceptions]

theorem admits : b.admits = a.admits := by
  funext w
  rw [Audience.admits_eq, Audience.admits_eq, h.isSelf, h.isExcluded]

theorem candidates : b.candidates = a.candidates := by
  rw [Audience.candidates, Audience.candidates, h.lists]

theorem autoMembers : b.autoMembers = a.autoMembers := by
  rw [Audience.autoMembers, Audience.autoMembers, h.candidates, h.admits]

end MovedLast

namespace Sound

variable {a : Audience P} (h : a.Sound) {v : P} (hm : a.isManual v = true)
include h hm

theorem not_isSelf_remove : (a.remove v).audience.isSelf v = false :=
  (a.isSelf_apply (.remove v) v).trans (h.not_isSelf_of_isManual hm)

/-- The audience after a manual viewer went and came back. -/
theorem addManual_remove_eq :
    (a.remove v).audience.addManual v =
      { accepted := true
        audience := { a with roster := ((a.roster.remove v).2.insert v).2 }
        event? := some (.manualAdded v true) } := by
  have hgone : (a.remove v).audience.isManual v = false := by
    rw [isManual_remove h.coherent, BEq.rfl, Bool.not_true, Bool.and_false]
  -- a manual viewer has no exception that coming back could lift
  have hexceptions : a.exceptions.erase v = a.exceptions :=
    erase_eq_self_of_not_contains (h.not_isExcluded_of_isManual hm)
  rw [addManual_of_not_isSelf (h.not_isSelf_remove hm), hgone,
    remove_of_isManual h.coherent hm]
  simp only [Bool.not_false, hexceptions]

theorem movedLast : MovedLast a v ((a.remove v).audience.addManual v).audience := by
  obtain ⟨row, x, hx, hxv⟩ := (h.coherent.contains_iff_exists_row v).1 hm
  have hindex : a.roster.index[v]? = some row := (h.coherent.index_eq_some_iff v row).2 ⟨x, hx, hxv⟩
  have hrow : row < a.roster.rows.size := (Array.getElem?_eq_some_iff.1 hx).1
  rw [h.addManual_remove_eq hm]
  exact ⟨⟨row, x, hx, hxv, Roster.getElem?_rows_insert_remove hindex hrow⟩, rfl, rfl, rfl⟩

theorem isManual_addManual_remove (w : P) :
    ((a.remove v).audience.addManual v).audience.isManual w = a.isManual w := by
  rw [isManual_addManual, isManual_remove h.coherent, h.not_isSelf_remove hm]
  cases hvw : v == w with
  | true => simp [← a.isManual_congr hvw, hm]
  | false => simp

end Sound

/-! ## Both round trips -/

/-- **What is left of a round trip.** A viewer that is neither the entity nor manual can be added and
removed again. Both calls are accepted and the audience is what it was, but for the exception of the
viewer. If it had none, the audience is the same in every part, and so is what any traversal through
it finds and hands out afterwards, wherever it stands. A manual viewer can be removed and added
again. Both calls are accepted and the viewer has moved to the last row, under its new handle.
Whoever is asked about is answered as before, the number of members is the same, and of a copy only
the manual part differs, in the order and in the handle. -/
theorem Reachable.round_trips {a : Audience P} (ha : a.Reachable) (v : P) :
    (a.isSelf v = false → a.isManual v = false →
      let come := a.apply (.add v)
      let go := come.audience.apply (.remove v)
      come.accepted = true ∧ go.accepted = true ∧
      go.audience = { a with exceptions := a.exceptions.erase v } ∧
      (∀ w, go.audience.isExcluded w = (a.isExcluded w && !(v == w))) ∧
      (a.isExcluded v = false → go.audience = a ∧
        ∀ (t : Traversal P) (ms : List (Move P)),
          let s : Session P := ⟨a, t⟩
          let trip : List (Move P) := [.mutate (.add v), .mutate (.remove v)]
          s.after trip = s ∧ s.searches (trip ++ ms) = s.searches ms ∧
          s.handedOut (trip ++ ms) = s.handedOut ms)) ∧
    (a.isManual v = true →
      let go := a.apply (.remove v)
      let come := go.audience.apply (.add v)
      go.accepted = true ∧ come.accepted = true ∧ MovedLast a v come.audience ∧
      (∀ w, come.audience.contains w = a.contains w ∧
        come.audience.isExcluded w = a.isExcluded w ∧
        come.audience.acceptsAuto (.viewer w) = a.acceptsAuto (.viewer w)) ∧
      come.audience.size = a.size ∧
      ∃ auto, a.snapshot.toList = a.roster.rows.toList ++ auto ∧
        come.audience.snapshot.toList = come.audience.roster.rows.toList ++ auto ∧
        ∃ vs, List.Forall₂ SameViewer a.roster.rows.toList vs ∧
          vs.Perm come.audience.roster.rows.toList) := by
  have hsound : a.Sound := ha.sound
  constructor
  · intro hs hm come go
    obtain ⟨hacc, haud⟩ := hsound.remove_addManual hs hm
    have haud : go.audience = { a with exceptions := a.exceptions.erase v } := haud
    refine ⟨?_, hacc, haud, ?_, ?_⟩
    · show (a.addManual v).accepted = true
      rw [accepted_addManual, hs, hm]
      rfl
    · intro w
      rw [haud, isExcluded, Std.ExtHashSet.contains_erase, Bool.and_comm]
      rfl
    · intro he
      have hsame : go.audience = a := by
        rw [haud, erase_eq_self_of_not_contains he]
      refine ⟨hsame, ?_⟩
      intro t ms s trip
      have htrip : s.after trip = s := congrArg (fun b => (⟨b, t⟩ : Session P)) hsame
      refine ⟨htrip, ?_, ?_⟩
      · show (s.after trip).searches ms = s.searches ms
        rw [htrip]
      · show (s.after trip).handedOut ms = s.handedOut ms
        rw [htrip]
  · intro hm go come
    have hgo : go = a.remove v := rfl
    have hcome : come = go.audience.addManual v := rfl
    have hmoved : MovedLast a v come.audience := hsound.movedLast hm
    have hsound' : come.audience.Sound := (hsound.apply (.remove v)).apply (.add v)
    have hmanual (w : P) : come.audience.isManual w = a.isManual w :=
      hsound.isManual_addManual_remove hm w
    obtain ⟨vs, hsame, hperm⟩ := hsound.coherent.rows_insert_remove_perm hm
    have hperm : vs.Perm come.audience.roster.rows.toList := by
      rw [hcome, hgo, hsound.addManual_remove_eq hm]
      exact hperm
    refine ⟨?_, ?_, hmoved, ?_, ?_, a.autoMembers, hsound.toList_snapshot, ?_, vs, hsame, hperm⟩
    · rw [hgo, accepted_remove hsound.coherent, hm]
      rfl
    · rw [hcome, hgo, hsound.addManual_remove_eq hm]
    · intro w
      refine ⟨?_, hmoved.isExcluded w, ?_⟩
      · rw [contains_eq, contains_eq, hmoved.isSelf, hmanual, hmoved.admits, hmoved.candidates]
      · rw [acceptsAuto, acceptsAuto, hmanual, hmoved.admits]
    · rw [hsound'.size_eq_length, hsound.size_eq_length, members, members, List.length_append,
        List.length_append, hmoved.autoMembers, ← hperm.length_eq, ← hsame.length_eq]
    · rw [hsound'.toList_snapshot, members, hmoved.autoMembers]

/-- One viewer comes and goes, an excluded one comes and goes and is not excluded any more, and a
manual one goes and comes back under another tag. -/
theorem round_trips_keyed :
    let a : Audience Keyed := ((create (some (.unread true (some ⟨9, "own"⟩))) 0).run
      [.add ⟨5, "a"⟩, .add ⟨6, "b"⟩, .remove ⟨7, "c"⟩, .update (some #[#[⟨8, "d"⟩]])]).audience
    let trip (m m' : Mutation Keyed) := ((a.apply m).audience.apply m').audience
    trip (.add ⟨8, "x"⟩) (.remove ⟨8, "x"⟩) = a ∧
    (trip (.add ⟨7, "x"⟩) (.remove ⟨7, "x"⟩)).isExcluded ⟨7, "c"⟩ = false ∧
    a.isManual ⟨5, "x"⟩ = true ∧
    MovedLast a ⟨5, "x"⟩ (trip (.remove ⟨5, "x"⟩) (.add ⟨5, "x"⟩)) ∧
    (trip (.remove ⟨5, "x"⟩) (.add ⟨5, "x"⟩)).size = 3 := by
  intro a trip
  have hreach : a.Reachable := reachable_run_create _ _ _
  have ha : a =
      { ownViewer := some ⟨9, "own"⟩
        roster :=
          { rows := #[⟨5, "a"⟩, ⟨6, "b"⟩]
            index := ((Std.ExtHashMap.emptyWithCapacity 0).insert ⟨5, "a"⟩ 0).insert ⟨6, "b"⟩ 1 }
        exceptions := Std.ExtHashSet.insert ∅ ⟨7, "c"⟩
        lists := some #[#[⟨8, "d"⟩]] } := by
    simp [a, run, apply, addManual, updateLists, remove, create, isSelf, Owner.unread,
      Roster.insert, Roster.remove, Roster.emptyWithCapacity]
  clear_value a
  have hfive : a.isManual ⟨5, "x"⟩ = true := by
    simp [ha, isManual, Roster.contains_eq_index, Std.ExtHashMap.contains_insert]
  have hsize : a.size = 3 := by
    simp [ha, size, isSelf, filledLists, candidates, admits_eq, isExcluded,
      Std.ExtHashSet.contains_insert]
  obtain ⟨-, -, hmoved, -, hsame, -⟩ := (hreach.round_trips ⟨5, "x"⟩).2 hfive
  refine ⟨?_, ?_, hfive, hmoved, hsame.trans hsize⟩
  · refine ((hreach.round_trips ⟨8, "x"⟩).1 ?_ ?_).2.2.2.2 ?_ |>.1
    · simp [ha, isSelf]
    · simp [ha, isManual, Roster.contains_eq_index, Std.ExtHashMap.contains_insert]
    · simp [ha, isExcluded, Std.ExtHashSet.contains_insert]
  · rw [((hreach.round_trips ⟨7, "x"⟩).1 ?_ ?_).2.2.2.1 ⟨7, "c"⟩]
    · simp [ha, isExcluded, Std.ExtHashSet.contains_insert]
    · simp [ha, isSelf]
    · simp [ha, isManual, Roster.contains_eq_index, Std.ExtHashMap.contains_insert]

end Audience

end Viewership
