/-
# Viewership.Proofs.Audience.Undoing -- taking every override back

An override is taken back by calls about the same viewer. Who is manual is removed, and who is
excluded is added and removed again; nobody else's standing moves, so the order does not matter, and
in the end nobody is manual or excluded. With that the candidate lists decide about everybody again.

There is one exception that no call lifts. The entity can be excluded from its own audience like any
viewer, but adding it is refused before its exception is looked at. From then on its viewers are not
predictable any more, whatever is taken back.
-/
import Viewership.Proofs.Audience.Predictable
import Viewership.Proofs.Audience.Standing
import Viewership.Proofs.Roster.Faithful

namespace Viewership.Audience

universe u

variable {P : Type u} [Viewer P]

/-- The calls that take overrides back: those in `manual` are removed, those in `excluded` are added
and removed again. -/
def undoing (manual excluded : List P) : List (Mutation P) :=
  manual.map .remove ++ excluded.flatMap fun v => [.add v, .remove v]

/-! ## What the calls are for one viewer -/

theorem callAbout?_add (v w : P) :
    (Mutation.add w).callAbout? v = if w == v then some Call.add else none := rfl

theorem callAbout?_remove (v w : P) :
    (Mutation.remove w).callAbout? v = if w == v then some Call.remove else none := rfl

theorem filterMap_callAbout?_undoing (manual excluded : List P) (v : P) :
    (undoing manual excluded).filterMap (·.callAbout? v)
      = List.replicate (manual.countP (· == v)) .remove
        ++ (List.replicate (excluded.countP (· == v)) [Call.add, .remove]).flatten := by
  rw [undoing, List.filterMap_append]
  congr 1
  · induction manual with
    | nil => rfl
    | cons w manual ih =>
      rw [List.map_cons, List.filterMap_cons, List.countP_cons, ih, callAbout?_remove]
      cases w == v <;> simp [List.replicate_succ]
  · induction excluded with
    | nil => rfl
    | cons w excluded ih =>
      rw [List.flatMap_cons, List.filterMap_append, List.countP_cons, ih, List.filterMap_cons,
        List.filterMap_cons, callAbout?_add, callAbout?_remove]
      cases w == v <;> simp [List.replicate_succ]

section Undoing

variable {a : Audience P} {manual excluded : List P}

/-- Every viewer but the entity is neutral afterwards. -/
theorem Sound.standingOf_run_undoing (h : a.Sound) (hmanual : Enumerates manual a.isManual)
    (hexcluded : Enumerates excluded a.isExcluded) {v : P} (hv : a.isSelf v = false) :
    (a.run (undoing manual excluded)).audience.standingOf v = .neutral := by
  rw [h.standingOf_run hv, filterMap_callAbout?_undoing, hmanual.countP_beq v,
    hexcluded.countP_beq v]
  cases hm : a.isManual v <;> cases he : a.isExcluded v <;>
    simp [standingOf, hm, he, Standing.after]

theorem Sound.isManual_run_undoing (h : a.Sound) (hmanual : Enumerates manual a.isManual)
    (hexcluded : Enumerates excluded a.isExcluded) (v : P) :
    (a.run (undoing manual excluded)).audience.isManual v = false := by
  have hb := h.run (undoing manual excluded)
  cases hv : a.isSelf v with
  | true => exact hb.not_isManual_of_isSelf ((isSelf_run a _ v).trans hv)
  | false =>
    have hneutral := h.standingOf_run_undoing hmanual hexcluded hv
    rw [Bool.eq_false_iff, Ne, ← standingOf_eq_manual_iff, hneutral]
    exact nofun

theorem Sound.isExcluded_run_undoing (h : a.Sound) (hmanual : Enumerates manual a.isManual)
    (hexcluded : Enumerates excluded a.isExcluded) (v : P) :
    (a.run (undoing manual excluded)).audience.isExcluded v = (a.isSelf v && a.isExcluded v) := by
  have hb := h.run (undoing manual excluded)
  cases hv : a.isSelf v with
  | false =>
    have hneutral := h.standingOf_run_undoing hmanual hexcluded hv
    rw [Bool.false_and, Bool.eq_false_iff, Ne, ← hb.standingOf_eq_excluded_iff v, hneutral]
    exact nofun
  | true =>
    rw [Bool.true_and, Bool.eq_iff_iff, h.isExcluded_run_of_isSelf hv, or_iff_left_iff_imp]
    rintro ⟨w, hw, hwv⟩
    simp only [undoing, List.mem_append, List.mem_map, List.mem_flatMap, List.mem_cons,
      Mutation.remove.injEq, reduceCtorEq, List.not_mem_nil, or_false, false_or,
      exists_eq_right, exists_eq_right'] at hw
    rcases hw with hw | hw
    · -- the entity is not manual, so it is not among those that are removed
      have hm : a.isManual v = true := by
        rw [← hmanual.any_beq v, List.any_eq_true]
        exact ⟨w, hw, hwv⟩
      rw [h.not_isManual_of_isSelf hv] at hm
      cases hm
    · rw [← hexcluded.any_beq v, List.any_eq_true]
      exact ⟨w, hw, hwv⟩

end Undoing

/-! ## Taking everything back -/

theorem any_isExcluded_ownViewer_iff (a : Audience P) :
    a.ownViewer.any a.isExcluded = true ↔ ∃ v, a.isSelf v = true ∧ a.isExcluded v = true := by
  cases hown : a.ownViewer with
  | none => simp [isSelf, hown]
  | some o =>
    simp only [Option.any_some, isSelf, hown]
    constructor
    · intro ho
      exact ⟨o, BEq.rfl, ho⟩
    · rintro ⟨v, hov, hv⟩
      rw [a.isExcluded_congr hov, hv]

/-- If the excluded can be listed before a change, they can be listed after it. -/
theorem Sound.exists_enumerates_isExcluded_apply {a : Audience P} (ha : a.Sound)
    {excluded : List P} (h : Enumerates excluded a.isExcluded) (m : Mutation P) :
    ∃ excluded', Enumerates excluded' (a.apply m).audience.isExcluded := by
  cases m with
  | add w =>
    refine ⟨excluded.filter fun v => !(!a.isSelf w && w == v), ?_⟩
    have hnew : (a.addManual w).audience.isExcluded
        = fun v => a.isExcluded v && !(!a.isSelf w && w == v) := funext (a.isExcluded_addManual w)
    rw [apply, hnew]
    exact h.filter fun hxv => by rw [BEq.congr_right hxv]
  | remove w =>
    have hnew : (a.remove w).audience.isExcluded
        = fun v => a.isExcluded v || (!a.isManual w && w == v) :=
      funext (isExcluded_remove ha.coherent w)
    rw [apply, hnew]
    cases hm : a.isManual w with
    | true => exact ⟨excluded, by simpa using h⟩
    | false =>
      cases he : a.isExcluded w with
      | false => exact ⟨w :: excluded, by simpa using h.cons he⟩
      | true =>
        -- an equal viewer is excluded already
        have hold (v : P) : (a.isExcluded v || w == v) = a.isExcluded v := by
          cases hwv : w == v with
          | true => rw [← a.isExcluded_congr hwv, he, Bool.or_true]
          | false => rw [Bool.or_false]
        exact ⟨excluded, by simpa [hold] using h⟩
  | update lists => exact ⟨excluded, h⟩

/-- The overrides of a reachable audience can be listed. -/
theorem Reachable.exists_enumerates {a : Audience P} (ha : a.Reachable) :
    ∃ manual excluded, Enumerates manual a.isManual ∧ Enumerates excluded a.isExcluded := by
  have hexcluded : ∃ excluded, Enumerates excluded a.isExcluded := by
    obtain ⟨owner, capacity, ms, rfl⟩ := ha
    refine (run_invariant (I := fun b => b.Sound ∧ ∃ excluded, Enumerates excluded b.isExcluded)
      ?_ ?_ ms).2
    · rintro b m ⟨hsound, excluded, hb⟩
      exact ⟨hsound.apply m, hsound.exists_enumerates_isExcluded_apply hb m⟩
    · exact ⟨sound_create owner capacity, [], .nil, fun v => by simp [isExcluded, create]⟩
  obtain ⟨excluded, hexcluded⟩ := hexcluded
  exact ⟨_, excluded, ha.sound.coherent.enumerates_rows, hexcluded⟩

/-- **Overrides can be taken back, except for one.** A viewer that is added is not excluded any more,
unless it is the entity. If whoever is manual is removed, and whoever is excluded is added and removed
again, both in any order, then nobody is manual, and nobody is excluded but the entity, if it was. So
the viewers are predictable for an owner that is auto-viewable exactly if the entity was not excluded
from its own audience. -/
theorem Reachable.overrides_undone {a : Audience P} (ha : a.Reachable) {manual excluded : List P}
    (hmanual : Enumerates manual a.isManual) (hexcluded : Enumerates excluded a.isExcluded) :
    let b := (a.run (undoing manual excluded)).audience
    (∀ v, (a.apply (.add v)).audience.isExcluded v = (a.isSelf v && a.isExcluded v)) ∧
    b.roster.isEmpty = true ∧
    (∀ v, b.isExcluded v = (a.isSelf v && a.isExcluded v)) ∧
    b.exceptions.isEmpty = !a.ownViewer.any a.isExcluded ∧
    ∀ owner, b.hasPredictableViewers owner
      = (owner.any (·.autoViewable) && !a.ownViewer.any a.isExcluded) := by
  intro b
  have hb : b.Sound := ha.sound.run _
  have hempty : b.roster.isEmpty = true :=
    hb.coherent.isEmpty_iff_forall_not_contains.2 (ha.sound.isManual_run_undoing hmanual hexcluded)
  have hkept := ha.sound.isExcluded_run_undoing hmanual hexcluded
  have hexceptions : b.exceptions.isEmpty = !a.ownViewer.any a.isExcluded := by
    rw [Bool.eq_iff_iff, exceptions_isEmpty_iff, Bool.not_eq_true', Bool.eq_false_iff, Ne,
      any_isExcluded_ownViewer_iff, not_exists]
    refine forall_congr' fun v => ?_
    rw [hkept v, Bool.and_eq_false_iff]
    cases a.isSelf v <;> simp
  refine ⟨?_, hempty, hkept, hexceptions, ?_⟩
  · intro v
    show (a.addManual v).audience.isExcluded v = _
    rw [isExcluded_addManual, BEq.rfl, Bool.and_true, Bool.not_not, Bool.and_comm]
  · intro owner
    rw [hasPredictableViewers, hempty, hexceptions, Bool.and_true]

/-- One manual and one excluded viewer are taken back under other tags, and the viewers are predictable
again. -/
theorem overrides_undone_keyed :
    let owner : Owner Keyed := .unread true (some ⟨9, "own"⟩)
    let a := ((create (some owner) 0).run [.add ⟨5, "a"⟩, .remove ⟨7, "b"⟩]).audience
    Enumerates [⟨5, "x"⟩] a.isManual ∧ Enumerates [⟨7, "y"⟩] a.isExcluded ∧
    (a.run (undoing [⟨5, "x"⟩] [⟨7, "y"⟩])).audience.hasPredictableViewers (some owner) = true := by
  intro owner a
  have hreach : a.Reachable := reachable_run_create _ _ _
  have ha : a =
      { ownViewer := some ⟨9, "own"⟩
        roster :=
          { rows := #[⟨5, "a"⟩], index := (Std.ExtHashMap.emptyWithCapacity 0).insert ⟨5, "a"⟩ 0 }
        exceptions := Std.ExtHashSet.insert ∅ ⟨7, "b"⟩
        lists := none } := by
    simp [a, owner, run, apply, addManual, remove, create, isSelf, Owner.unread, Roster.insert,
      Roster.remove, Roster.emptyWithCapacity]
  clear_value a
  have hmanual : Enumerates [⟨5, "x"⟩] a.isManual := by
    refine ⟨List.pairwise_singleton _ _, ?_⟩
    rintro ⟨id, tag⟩
    simp [ha, isManual, Roster.contains_eq_index, Std.ExtHashMap.contains_insert]
  have hexcluded : Enumerates [⟨7, "y"⟩] a.isExcluded := by
    refine ⟨List.pairwise_singleton _ _, ?_⟩
    rintro ⟨id, tag⟩
    simp [ha, isExcluded, Std.ExtHashSet.contains_insert]
  refine ⟨hmanual, hexcluded, ?_⟩
  rw [(hreach.overrides_undone hmanual hexcluded).2.2.2.2 (some owner)]
  simp [ha, owner, Owner.unread, isExcluded, Std.ExtHashSet.contains_insert]

/-- The entity was removed from its own audience. Adding it does not lift the exception, and taking
everything back leaves its viewers unpredictable. -/
theorem own_exception_kept :
    let owner : Owner UInt32 := .unread true (some 1)
    let a := ((create (some owner) 0).run [.remove 1]).audience
    let b := (a.run (undoing [] [1])).audience
    a.Reachable ∧ Enumerates [] a.isManual ∧ Enumerates [1] a.isExcluded ∧
    (a.apply (.add 1)).audience.isExcluded 1 = true ∧
    b.exceptions.isEmpty = false ∧ b.hasPredictableViewers (some owner) = false := by
  intro owner a b
  have hreach : a.Reachable := reachable_run_create _ _ _
  have ha : a =
      { ownViewer := some 1
        roster := .emptyWithCapacity 0
        exceptions := Std.ExtHashSet.insert ∅ 1
        lists := none } := by
    simp [a, owner, run, apply, remove, create, Owner.unread, Roster.remove,
      Roster.emptyWithCapacity]
  have hmanual : Enumerates [] a.isManual := ⟨.nil, fun v => by simp [ha, isManual]⟩
  have hexcluded : Enumerates [1] a.isExcluded := by
    refine ⟨List.pairwise_singleton _ _, ?_⟩
    intro v
    simp [ha, isExcluded, Std.ExtHashSet.contains_insert]
  have hkept : b.isExcluded 1 = true := by
    rw [hreach.sound.isExcluded_run_undoing hmanual hexcluded 1]
    simp [ha, isSelf, isExcluded]
  have hb : b.exceptions.isEmpty = false := by
    rw [Bool.eq_false_iff, Ne, exceptions_isEmpty_iff]
    intro hnone
    rw [hnone 1] at hkept
    cases hkept
  refine ⟨hreach, hmanual, hexcluded, ?_, hb, ?_⟩
  · show (a.addManual 1).audience.isExcluded 1 = true
    rw [isExcluded_addManual]
    simp [ha, isSelf, isExcluded]
  · rw [hasPredictableViewers, hb, Bool.and_false]

end Viewership.Audience
