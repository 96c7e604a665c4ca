/-
# Viewership.Proofs.Audience.Exchange -- changes about different viewers in either order

Two changes about different viewers can be made in either order, and so can new lists and a change
about a viewer. Each is answered the same before the other and after it, but the audiences that come
out are not equal. A removal moves whoever has the last row, so the order of the rows tells which
change came first. `Alike` leaves that order out. What is read of two alike audiences differs in the
order of the manual viewers at most, and alike audiences stay alike when the same change is made to
both.

The change of one viewer's standing is looked at apart from the rows. A change reads and writes what
the audience holds about its own viewer only, which `AgreeOn` makes precise.
-/
import Viewership.Proofs.Audience.Members
import Viewership.Proofs.Audience.Predictable
import Viewership.Proofs.Roster.Enumeration

namespace Viewership

universe u

variable {P : Type u} [Viewer P]

/-! ## Whom a change is about -/

namespace Mutation

/-- The viewer that the change is about. -/
def viewer? : Mutation P → Option P
  | .add v => some v
  | .remove v => some v
  | .update _ => none

/-- What the candidate lists are replaced by, if the change replaces them. -/
def newLists? : Mutation P → Option (Option (CandidateLists P))
  | .add _ => none
  | .remove _ => none
  | .update lists => some lists

/-- The change is not about a viewer equal to `v`. -/
def Spares (m : Mutation P) (v : P) : Prop := ∀ w ∈ m.viewer?, (w == v) = false

/-- The changes are about different viewers, or one of them is about a viewer and the other brings new
lists. -/
def Independent : Mutation P → Mutation P → Prop
  | .update _, .update _ => False
  | m, m' => ∀ v ∈ m'.viewer?, m.Spares v

/-- The rows after a change, up to their order, if it was answered with `accepted`. -/
def rowsAfter (accepted : Bool) (rows : List P) : Mutation P → List P
  | .add v => if accepted then rows ++ [v] else rows
  | .remove v => rows.filter fun x => !(x == v)
  | .update _ => rows

theorem Independent.spares {m m' : Mutation P} (h : m.Independent m') {v : P}
    (hv : v ∈ m'.viewer?) : m.Spares v := by
  cases m with
  | update lists => exact nofun
  | add w => exact h v hv
  | remove w => exact h v hv

theorem Independent.symm {m m' : Mutation P} (h : m.Independent m') : m'.Independent m := by
  have hspares : ∀ v ∈ m.viewer?, m'.Spares v := by
    intro v hv w hw
    rw [BEq.comm]
    exact h.spares hw v hv
  cases m with
  | add v => cases m' <;> exact hspares
  | remove v => cases m' <;> exact hspares
  | update lists =>
    cases m' with
    | add w => exact hspares
    | remove w => exact hspares
    | update lists' => exact h

/-- One of two independent changes is not about `v`. -/
theorem Independent.spares_or_spares {m m' : Mutation P} (h : m.Independent m') (v : P) :
    m.Spares v ∨ m'.Spares v := by
  cases hw : m'.viewer? with
  | none =>
    right
    intro x hx
    rw [hw] at hx
    cases hx
  | some w =>
    cases hwv : w == v with
    | true =>
      left
      intro x hx
      rw [← BEq.congr_right hwv]
      exact h.spares hw x hx
    | false =>
      right
      intro x hx
      obtain rfl : w = x := Option.some.inj (hw.symm.trans hx)
      exact hwv

theorem rowsAfter_perm (accepted : Bool) (m : Mutation P) {rows rows' : List P}
    (h : rows.Perm rows') : (rowsAfter accepted rows m).Perm (rowsAfter accepted rows' m) := by
  cases m with
  | add v => cases accepted <;> simp [rowsAfter, h, List.Perm.append_right]
  | remove v => exact h.filter _
  | update lists => exact h

theorem rowsAfter_comm {m m' : Mutation P} (h : m.Independent m') (accepted accepted' : Bool)
    (rows : List P) :
    (rowsAfter accepted' (rowsAfter accepted rows m) m').Perm
      (rowsAfter accepted (rowsAfter accepted' rows m') m) := by
  cases m with
  | add v =>
    cases m' with
    | add w =>
      -- here alone the rows differ: whoever came later stands behind
      have hswap : (rows ++ [v, w]).Perm (rows ++ [w, v]) := .append_left rows (.swap w v [])
      cases accepted <;> cases accepted' <;> simp [rowsAfter, hswap]
    | remove w =>
      have hvw : (v == w) = false := h.spares rfl v rfl
      cases accepted <;> simp [rowsAfter, hvw]
    | update lists => exact .refl _
  | remove v =>
    cases m' with
    | add w =>
      have hwv : (w == v) = false := h.symm.spares rfl w rfl
      cases accepted' <;> simp [rowsAfter, hwv]
    | remove w => simp [rowsAfter, List.filter_filter, Bool.and_comm]
    | update lists => exact .refl _
  | update lists => exact .refl _

end Mutation

namespace Audience

/-! ## What an audience holds about one viewer -/

/-- The audiences hold the same about `v`. -/
structure AgreeOn (a b : Audience P) (v : P) : Prop where
  isSelf : a.isSelf v = b.isSelf v
  isManual : a.isManual v = b.isManual v
  isExcluded : a.isExcluded v = b.isExcluded v

/-- A change leaves alone what is held about other viewers. -/
theorem Sound.agreeOn_apply_of_spares {a : Audience P} (ha : a.Sound) {m : Mutation P} {v : P}
    (h : m.Spares v) : AgreeOn (a.apply m).audience a v := by
  refine ⟨isSelf_apply a m v, ?_, ?_⟩
  · cases m with
    | add w => simp [apply, isManual_addManual, h w rfl]
    | remove w => simp [apply, isManual_remove ha.coherent, h w rfl]
    | update lists => rfl
  · cases m with
    | add w => simp [apply, isExcluded_addManual, h w rfl]
    | remove w => simp [apply, isExcluded_remove ha.coherent, h w rfl]
    | update lists => rfl

namespace AgreeOn

variable {a b : Audience P} {v : P}

protected theorem symm (h : AgreeOn a b v) : AgreeOn b a v :=
  ⟨h.isSelf.symm, h.isManual.symm, h.isExcluded.symm⟩

protected theorem trans {c : Audience P} (h : AgreeOn a b v) (h' : AgreeOn b c v) : AgreeOn a c v :=
  ⟨h.isSelf.trans h'.isSelf, h.isManual.trans h'.isManual, h.isExcluded.trans h'.isExcluded⟩

/-- What a change makes of `v` depends on nothing but what is held about `v`. -/
protected theorem apply (h : AgreeOn a b v) (ha : a.Sound) (hb : b.Sound) (m : Mutation P) :
    AgreeOn (a.apply m).audience (b.apply m).audience v := by
  refine ⟨by rw [isSelf_apply, isSelf_apply, h.isSelf], ?_, ?_⟩
  · cases m with
    | add w =>
      simp only [Audience.apply, isManual_addManual, h.isManual]
      cases hwv : w == v with
      | true => rw [a.isSelf_congr hwv, b.isSelf_congr hwv, h.isSelf]
      | false => simp
    | remove w =>
      simp only [Audience.apply, isManual_remove ha.coherent, isManual_remove hb.coherent, h.isManual]
    | update lists => exact h.isManual
  · cases m with
    | add w =>
      simp only [Audience.apply, isExcluded_addManual, h.isExcluded]
      cases hwv : w == v with
      | true => rw [a.isSelf_congr hwv, b.isSelf_congr hwv, h.isSelf]
      | false => simp
    | remove w =>
      simp only [Audience.apply, isExcluded_remove ha.coherent, isExcluded_remove hb.coherent,
        h.isExcluded]
      cases hwv : w == v with
      | true => rw [a.isManual_congr hwv, b.isManual_congr hwv, h.isManual]
      | false => simp
    | update lists => exact h.isExcluded

/-- So does the answer, for the viewer that the change is about. -/
theorem accepted_eq (ha : a.Sound) (hb : b.Sound) {m : Mutation P}
    (h : ∀ v ∈ m.viewer?, AgreeOn a b v) : (a.apply m).accepted = (b.apply m).accepted := by
  cases m with
  | add w =>
    have hw := h w rfl
    simp only [Audience.apply, accepted_addManual, hw.isSelf, hw.isManual]
  | remove w =>
    have hw := h w rfl
    simp only [Audience.apply, accepted_remove ha.coherent, accepted_remove hb.coherent, hw.isManual,
      hw.isExcluded]
  | update lists => rfl

end AgreeOn

/-! ## Audiences up to the order of their rows -/

/-- The audiences differ in the order of their rows at most. -/
structure Alike (a b : Audience P) : Prop where
  ownViewer : a.ownViewer = b.ownViewer
  rows : a.roster.rows.toList.Perm b.roster.rows.toList
  isExcluded (v : P) : a.isExcluded v = b.isExcluded v
  lists : a.lists = b.lists

theorem Alike.refl (a : Audience P) : Alike a a := ⟨rfl, .refl _, fun _ => rfl, rfl⟩

theorem Alike.trans {a b c : Audience P} (h : Alike a b) (h' : Alike b c) : Alike a c :=
  ⟨h.ownViewer.trans h'.ownViewer, h.rows.trans h'.rows,
    fun v => (h.isExcluded v).trans (h'.isExcluded v), h.lists.trans h'.lists⟩

/-- The rows after a change, up to their order, by the rows before it. -/
theorem Sound.rows_apply_perm {a : Audience P} (h : a.Sound) (m : Mutation P) :
    (a.apply m).audience.roster.rows.toList.Perm
      (m.rowsAfter (a.apply m).accepted a.roster.rows.toList) := by
  cases m with
  | add v =>
    show (a.addManual v).audience.roster.rows.toList.Perm
      (if (a.addManual v).accepted then a.roster.rows.toList ++ [v] else a.roster.rows.toList)
    rw [a.rows_addManual v]
    split <;> simp
  | remove v =>
    show (a.remove v).audience.roster.rows.toList.Perm
      (a.roster.rows.toList.filter fun x => !(x == v))
    cases hm : a.isManual v with
    | true =>
      rw [remove_of_isManual h.coherent hm]
      exact h.coherent.rows_remove_perm v
    | false =>
      have hkeep : ∀ x ∈ a.roster.rows.toList, (!(x == v)) = true := by
        intro x hx
        rw [h.ne_of_mem hm (Array.mem_toList_iff.1 hx)]
        rfl
      rw [remove_of_not_isManual hm, List.filter_eq_self.2 hkeep]
  | update lists => exact .refl _

theorem lists_apply (a : Audience P) (m : Mutation P) :
    (a.apply m).audience.lists
      = match m with
        | .add _ => a.lists
        | .remove _ => a.lists
        | .update lists => lists := by
  cases m with
  | add v => cases hs : a.isSelf v <;> simp [apply, addManual, hs]
  | remove v =>
    cases hd : a.drops v with
    | true => rw [apply, remove_of_drops hd]
    | false => rw [apply, remove_of_not_drops hd]
  | update lists => rfl

/-- After some changes the lists are those that were brought last, or those before if none were. -/
theorem lists_run (a : Audience P) (ms : List (Mutation P)) :
    (a.run ms).audience.lists = (ms.filterMap Mutation.newLists?).getLast?.getD a.lists := by
  induction ms generalizing a with
  | nil => rfl
  | cons m ms ih =>
    rw [audience_run_cons, ih, lists_apply]
    cases m with
    | add v => rfl
    | remove v => rfl
    | update lists =>
      rw [List.filterMap_cons_some (show Mutation.newLists? (.update lists) = some lists from rfl),
        List.getLast?_cons]
      rfl

namespace Alike

variable {a b : Audience P}

theorem agreeOn (h : Alike a b) (ha : a.Sound) (hb : b.Sound) (v : P) : AgreeOn a b v where
  isSelf := by rw [isSelf, isSelf, h.ownViewer]
  isManual := by
    rw [isManual, isManual, ← ha.coherent.enumerates_rows.any_beq, h.rows.any_eq,
      hb.coherent.enumerates_rows.any_beq]
  isExcluded := h.isExcluded v

/-- The same change to alike audiences is answered alike, and leaves them alike. -/
protected theorem apply (h : Alike a b) (ha : a.Sound) (hb : b.Sound) (m : Mutation P) :
    (a.apply m).accepted = (b.apply m).accepted
      ∧ Alike (a.apply m).audience (b.apply m).audience := by
  have hacc : (a.apply m).accepted = (b.apply m).accepted :=
    AgreeOn.accepted_eq ha hb fun v _ => h.agreeOn ha hb v
  refine ⟨hacc, ?_, ?_, ?_, ?_⟩
  · rw [ownViewer_apply, ownViewer_apply, h.ownViewer]
  · refine (ha.rows_apply_perm m).trans (.trans ?_ (hb.rows_apply_perm m).symm)
    rw [hacc]
    exact m.rowsAfter_perm _ h.rows
  · intro v
    exact ((h.agreeOn ha hb v).apply ha hb m).isExcluded
  · rw [lists_apply, lists_apply, h.lists]

end Alike

/-! ## Changes in either order -/

/-- A change is answered the same before an independent one and after it. -/
theorem Sound.accepted_apply_of_independent {a : Audience P} (h : a.Sound) {m m' : Mutation P}
    (hind : m.Independent m') :
    ((a.apply m).audience.apply m').accepted = (a.apply m').accepted :=
  AgreeOn.accepted_eq (h.apply m) h fun _ hv => h.agreeOn_apply_of_spares (hind.spares hv)

/-- Independent changes in either order lead to alike audiences. -/
theorem Sound.alike_apply_apply {a : Audience P} (h : a.Sound) {m m' : Mutation P}
    (hind : m.Independent m') :
    Alike ((a.apply m).audience.apply m').audience ((a.apply m').audience.apply m).audience where
  ownViewer := by simp only [ownViewer_apply]
  rows := by
    refine ((h.apply m).rows_apply_perm m').trans ?_
    refine .trans ?_ ((h.apply m').rows_apply_perm m).symm
    rw [h.accepted_apply_of_independent hind, h.accepted_apply_of_independent hind.symm]
    calc List.Perm (m'.rowsAfter (a.apply m').accepted (a.apply m).audience.roster.rows.toList)
          (m'.rowsAfter (a.apply m').accepted
            (m.rowsAfter (a.apply m).accepted a.roster.rows.toList)) :=
          m'.rowsAfter_perm _ (h.rows_apply_perm m)
      List.Perm _ (m.rowsAfter (a.apply m).accepted
            (m'.rowsAfter (a.apply m').accepted a.roster.rows.toList)) :=
          Mutation.rowsAfter_comm hind _ _ _
      List.Perm _ (m.rowsAfter (a.apply m).accepted (a.apply m').audience.roster.rows.toList) :=
          m.rowsAfter_perm _ (h.rows_apply_perm m').symm
  isExcluded v := by
    rcases hind.spares_or_spares v with hm | hm'
    · have hleft := (h.agreeOn_apply_of_spares hm).apply (h.apply m) h m'
      have hright := (h.apply m').agreeOn_apply_of_spares hm
      exact (hleft.trans hright.symm).isExcluded
    · have hleft := (h.apply m).agreeOn_apply_of_spares hm'
      have hright := (h.agreeOn_apply_of_spares hm').apply (h.apply m') h m
      exact (hleft.trans hright.symm).isExcluded
  lists := by
    cases m <;> cases m' <;> simp only [lists_apply]
    exact absurd hind id

/-! ## What is read of alike audiences -/

/-- All reads agree, but for the order of the manual viewers in a copy. -/
structure ReadAlike (a b : Audience P) : Prop where
  contains (v : P) : a.contains v = b.contains v
  isExcluded (v : P) : a.isExcluded v = b.isExcluded v
  acceptsAuto (s : Subject P) : a.acceptsAuto s = b.acceptsAuto s
  size : a.size = b.size
  isEmpty : a.isEmpty = b.isEmpty
  hasPredictableViewers (owner : Option (Owner P)) :
    a.hasPredictableViewers owner = b.hasPredictableViewers owner
  snapshot : ∃ auto, a.snapshot.toList = a.roster.rows.toList ++ auto
    ∧ b.snapshot.toList = b.roster.rows.toList ++ auto
    ∧ a.roster.rows.toList.Perm b.roster.rows.toList

theorem Alike.readAlike {a b : Audience P} (h : Alike a b) (ha : a.Sound) (hb : b.Sound) :
    ReadAlike a b := by
  have hagree := h.agreeOn ha hb
  have hcandidates : a.candidates = b.candidates := by rw [candidates, candidates, h.lists]
  have hadmits : a.admits = b.admits := by
    funext v
    rw [admits_eq, admits_eq, (hagree v).isSelf, (hagree v).isExcluded]
  have hauto : a.autoMembers = b.autoMembers := by
    rw [autoMembers, autoMembers, hcandidates, hadmits]
  have hlength : a.members.length = b.members.length := by
    rw [members, members, List.length_append, List.length_append, h.rows.length_eq, hauto]
  refine ⟨?_, h.isExcluded, ?_, ?_, ?_, ?_, ?_⟩
  · intro v
    rw [contains_eq, contains_eq, (hagree v).isSelf, (hagree v).isManual, hadmits, hcandidates]
  · intro s
    cases s with
    | viewer v => simp only [acceptsAuto, (hagree v).isManual, hadmits]
    | other => rfl
  · rw [ha.size_eq_length, hb.size_eq_length, hlength]
  · rw [Bool.eq_iff_iff, ha.isEmpty_iff, hb.isEmpty_iff, ← List.length_eq_zero_iff, hlength,
      List.length_eq_zero_iff]
  · intro owner
    have hroster : a.roster.isEmpty = b.roster.isEmpty := by
      simp only [Roster.isEmpty, ← Array.isEmpty_toList]
      exact h.rows.isEmpty_eq
    have hexceptions : a.exceptions.isEmpty = b.exceptions.isEmpty := by
      rw [Bool.eq_iff_iff, exceptions_isEmpty_iff, exceptions_isEmpty_iff]
      simp only [h.isExcluded]
    rw [hasPredictableViewers, hasPredictableViewers, hroster, hexceptions]
  · exact ⟨a.autoMembers, ha.toList_snapshot, by rw [hauto]; exact hb.toList_snapshot, h.rows⟩

end Audience

end Viewership
