/-
# Viewership.Proofs.Audience.Standing -- one viewer's part in an audience, as an automaton

To an audience a viewer is manual, excluded or neither, and which of the three depends on the calls
about that viewer alone. `Standing` is the automaton with these three states, `standing` runs it on
the calls about one viewer and throws all others away, and the main statement says that everything an
audience answers about the viewer is read off the state the automaton is in.

The content is in what is thrown away. Calls about other viewers move rows and rewrite the index, and
new lists replace every candidate; none of it touches this viewer's standing. The entity itself has
no standing: it is never manual, and all that can happen to it is to be excluded.
-/
import Viewership.Handle
import Viewership.Proofs.Audience.Reachable

namespace Viewership

universe u

/-- What an audience makes of a viewer. -/
inductive Standing where
  /-- Neither added nor removed by hand, so the auto-view rules decide. -/
  | neutral
  /-- On the roster. -/
  | manual
  /-- Excluded from the auto viewers. -/
  | excluded
deriving DecidableEq, Repr

/-- A call about a viewer that is fixed beforehand. -/
inductive Call where
  /-- It is added. -/
  | add
  /-- It is removed. -/
  | remove
deriving DecidableEq, Repr

/-- The standing after a call. -/
def Standing.after : Standing → Call → Standing
  | _, .add => .manual
  | .manual, .remove => .neutral
  | .neutral, .remove => .excluded
  | .excluded, .remove => .excluded

variable {P : Type u} [Viewer P]

/-- The call about `v` that a change makes, if it is about `v` at all. -/
def Mutation.callAbout? (v : P) : Mutation P → Option Call
  | .add w => if w == v then some .add else none
  | .remove w => if w == v then some .remove else none
  | .update _ => none

/-- Where the calls about `v` among some changes lead a viewer that was neutral. -/
def standing (v : P) (ms : List (Mutation P)) : Standing :=
  (ms.filterMap (·.callAbout? v)).foldl .after .neutral

namespace Audience

/-! ## An audience follows the automaton -/

/-- The standing of `v` as the audience has it stored. -/
def standingOf (a : Audience P) (v : P) : Standing :=
  if a.isManual v then .manual else if a.isExcluded v then .excluded else .neutral

theorem standingOf_eq_manual_iff (a : Audience P) (v : P) :
    a.standingOf v = .manual ↔ a.isManual v = true := by
  cases hm : a.isManual v <;> cases he : a.isExcluded v <;> simp [standingOf, hm, he]

theorem Sound.standingOf_eq_excluded_iff {a : Audience P} (h : a.Sound) (v : P) :
    a.standingOf v = .excluded ↔ a.isExcluded v = true := by
  cases hm : a.isManual v with
  | true => simp [standingOf, hm, h.not_isExcluded_of_isManual hm]
  | false => cases he : a.isExcluded v <;> simp [standingOf, hm, he]

theorem standingOf_create (owner : Option (Owner P)) (capacity : Nat) (v : P) :
    (create owner capacity).standingOf v = .neutral := by
  simp [standingOf, isManual, isExcluded, create]

/-- A change moves the standing of `v` as the automaton does if it is about `v`, and leaves it alone
if it is not. -/
theorem Sound.standingOf_apply {a : Audience P} (h : a.Sound) {v : P} (hv : a.isSelf v = false)
    (m : Mutation P) :
    (a.apply m).audience.standingOf v
      = (m.callAbout? v).elim (a.standingOf v) (a.standingOf v).after := by
  cases m with
  | add w =>
    simp only [standingOf, apply, isManual_addManual, isExcluded_addManual, Mutation.callAbout?]
    cases hwv : w == v with
    | true => simp [a.isSelf_congr hwv, hv, Standing.after]
    | false => simp
  | remove w =>
    simp only [standingOf, apply, isManual_remove h.coherent, isExcluded_remove h.coherent,
      Mutation.callAbout?]
    cases hwv : w == v with
    | false => simp
    | true =>
      cases hm : a.isManual v with
      | true =>
        simp [a.isManual_congr hwv, hm, h.not_isExcluded_of_isManual hm, Standing.after]
      | false => cases he : a.isExcluded v <;> simp [a.isManual_congr hwv, hm, Standing.after]
  | update lists => rfl

theorem Sound.standingOf_run {a : Audience P} (h : a.Sound) {v : P} (hv : a.isSelf v = false)
    (ms : List (Mutation P)) :
    (a.run ms).audience.standingOf v
      = (ms.filterMap (·.callAbout? v)).foldl .after (a.standingOf v) := by
  induction ms generalizing a with
  | nil => rfl
  | cons m ms ih =>
    rw [audience_run_cons, ih (h.apply m) (by rw [isSelf_apply, hv]), h.standingOf_apply hv m]
    cases hc : m.callAbout? v with
    | none => rw [List.filterMap_cons_none hc]; rfl
    | some c => rw [List.filterMap_cons_some hc]; rfl

/-! ## The entity itself -/

/-- The entity is excluded from its own audience once it was removed from it, and nothing lifts
that. -/
theorem Sound.isExcluded_run_of_isSelf {a : Audience P} (h : a.Sound) {v : P}
    (hv : a.isSelf v = true) (ms : List (Mutation P)) :
    (a.run ms).audience.isExcluded v = true
      ↔ a.isExcluded v = true ∨ ∃ w, .remove w ∈ ms ∧ (w == v) = true := by
  induction ms generalizing a with
  | nil => simp
  | cons m ms ih =>
    rw [audience_run_cons, ih (h.apply m) (by rw [isSelf_apply, hv])]
    have hnot : a.isManual v = false := h.not_isManual_of_isSelf hv
    cases m with
    | add w =>
      have hkeep : (!a.isSelf w && w == v) = false := by
        cases hwv : w == v with
        | true => simp [a.isSelf_congr hwv, hv]
        | false => simp
      simp [apply, isExcluded_addManual, hkeep]
    | remove w =>
      have hstep : (!a.isManual w && w == v) = (w == v) := by
        cases hwv : w == v with
        | true => simp [a.isManual_congr hwv, hnot]
        | false => simp
      simp [apply, isExcluded_remove h.coherent, hstep, or_assoc, or_and_right, exists_or]
    | update lists => simp [apply, isExcluded_updateLists]

/-! ## What the standing tells -/

/-- Everything an audience holds and answers about `v` is what the standing `s` says. -/
structure StandsAs (a : Audience P) (v : P) (s : Standing) : Prop where
  isManual_iff : a.isManual v = true ↔ s = .manual
  exists_row_iff : (∃ x ∈ a.roster.rows, (x == v) = true) ↔ s = .manual
  isExcluded_iff : a.isExcluded v = true ↔ s = .excluded
  acceptsAuto_iff : a.acceptsAuto (.viewer v) = true ↔ s = .neutral
  contains_iff : a.contains v = true ↔
    s = .manual ∨ s = .neutral ∧ ∃ list ∈ a.candidates, ∃ x ∈ list, (x == v) = true
  accepted_add_iff : (a.apply (.add v)).accepted = true ↔ s ≠ .manual
  accepted_remove_iff : (a.apply (.remove v)).accepted = true ↔ s ≠ .excluded

theorem Sound.standsAs_standingOf {a : Audience P} (h : a.Sound) {v : P}
    (hv : a.isSelf v = false) : a.StandsAs v (a.standingOf v) where
  isManual_iff := (a.standingOf_eq_manual_iff v).symm
  exists_row_iff := by
    rw [a.standingOf_eq_manual_iff v, isManual, h.coherent.contains_iff_exists_mem]
  isExcluded_iff := (h.standingOf_eq_excluded_iff v).symm
  acceptsAuto_iff := by
    cases hm : a.isManual v <;> cases he : a.isExcluded v <;>
      simp [acceptsAuto, admits_eq, standingOf, hv, hm, he]
  contains_iff := by
    have hany : a.candidates.any (·.contains v) = true
        ↔ ∃ list ∈ a.candidates, ∃ x ∈ list, (x == v) = true := by
      simp only [Array.any_eq_true', Array.contains_iff_exists_mem_beq, BEq.comm (a := v)]
    cases hm : a.isManual v <;> cases he : a.isExcluded v <;>
      simp [contains_eq, admits_eq, standingOf, hv, hm, he, ← hany]
  accepted_add_iff := by
    rw [apply, accepted_addManual, hv, Ne, a.standingOf_eq_manual_iff v]
    simp
  accepted_remove_iff := by
    rw [apply, accepted_remove h.coherent, Ne, h.standingOf_eq_excluded_iff v]
    cases hm : a.isManual v with
    | true => simp [h.not_isExcluded_of_isManual hm]
    | false => simp

/-- **Every viewer stands as the calls about it say.** After any run from a new audience nobody is
manual and excluded at once. A viewer other than the entity stands where the automaton stands that
saw only the calls about it. The entity itself is never manual, cannot be added, and is excluded
from the first removal of it on. -/
theorem run_create_standsAs (owner : Option (Owner P)) (capacity : Nat) (ms : List (Mutation P))
    (v : P) :
    let a := ((create owner capacity).run ms).audience
    ¬ (a.isManual v = true ∧ a.isExcluded v = true) ∧
    ((owner.bind (·.viewer)).any (· == v) = false → a.StandsAs v (standing v ms)) ∧
    ((owner.bind (·.viewer)).any (· == v) = true →
      a.isManual v = false ∧ (∀ x ∈ a.roster.rows, (x == v) = false) ∧
      (a.apply (.add v)).accepted = false ∧
      (a.isExcluded v = true ↔ ∃ w, .remove w ∈ ms ∧ (w == v) = true)) := by
  intro a
  have hsound : a.Sound := (reachable_run_create owner capacity ms).sound
  have hself : a.isSelf v = (owner.bind (·.viewer)).any (· == v) := isSelf_run _ ms v
  refine ⟨?_, ?_, ?_⟩
  · rintro ⟨hm, he⟩
    rw [hsound.not_isExcluded_of_isManual hm] at he
    exact Bool.false_ne_true he
  · intro hv
    have hrun : a.standingOf v = standing v ms := by
      rw [(sound_create owner capacity).standingOf_run hv ms, standing, standingOf_create]
    rw [← hrun]
    exact hsound.standsAs_standingOf (hself.trans hv)
  · intro hv
    have hnot : a.isManual v = false := hsound.not_isManual_of_isSelf (hself.trans hv)
    refine ⟨hnot, ?_, ?_, ?_⟩
    · intro x hx
      exact hsound.ne_of_mem hnot hx
    · rw [apply, accepted_addManual, hself, hv]
      rfl
    · rw [(sound_create owner capacity).isExcluded_run_of_isSelf hv ms]
      simp [isExcluded, create]

/-- Added under one tag and removed under another, a viewer is neutral again, while the entity is
excluded from its own audience. -/
theorem run_create_standsAs_keyed :
    let owner : Owner Keyed := .unread true (some ⟨9, "own"⟩)
    let ms : List (Mutation Keyed) :=
      [.add ⟨5, "a"⟩, .remove ⟨9, "x"⟩, .add ⟨6, "b"⟩, .remove ⟨5, "c"⟩, .add ⟨9, "y"⟩]
    let a := ((create (some owner) 4).run ms).audience
    a.StandsAs ⟨5, "d"⟩ .neutral ∧ a.isExcluded ⟨9, "z"⟩ = true := by
  intro owner ms a
  constructor
  · exact (run_create_standsAs (some owner) 4 ms ⟨5, "d"⟩).2.1 (by decide)
  · exact ((run_create_standsAs (some owner) 4 ms ⟨9, "z"⟩).2.2 (by decide)).2.2.2.2
      ⟨⟨9, "x"⟩, by simp [ms], by decide⟩

end Audience

end Viewership
