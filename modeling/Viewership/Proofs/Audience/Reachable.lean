/-
# Viewership.Proofs.Audience.Reachable -- what every audience that can come about has in common

An audience is reachable when some sequence of changes leads to it from a new one. Two things hold of
every such audience, and `Sound` says both: its roster is coherent, and every manual viewer is
admitted, so nobody is manual and excluded at once and the entity is never on its own roster.

On the way each change is described by what it does to a single viewer: whether it is manual
afterwards, whether it is excluded, and whether the change was accepted. Statements about one viewer
need nothing else about the changes. A removal does not look at a roster without rows, and it is
coherence that makes this right: an index with keys and no rows would be passed over.
-/
import Viewership.Audience.Mutation
import Viewership.Proofs.Roster.Coherence

namespace Viewership.Audience

universe u

variable {P : Type u} [Viewer P]

/-! ## Equal viewers are treated alike -/

theorem isSelf_congr (a : Audience P) {v w : P} (h : (v == w) = true) :
    a.isSelf v = a.isSelf w := by
  cases hown : a.ownViewer with
  | none => simp [isSelf, hown]
  | some o => simp [isSelf, hown, BEq.congr_right h]

theorem isManual_congr (a : Audience P) {v w : P} (h : (v == w) = true) :
    a.isManual v = a.isManual w := by
  rw [isManual, isManual, Roster.contains_eq_index, Roster.contains_eq_index,
    Std.ExtHashMap.contains_congr h]

theorem isExcluded_congr (a : Audience P) {v w : P} (h : (v == w) = true) :
    a.isExcluded v = a.isExcluded w :=
  Std.ExtHashSet.contains_congr h

theorem admits_congr (a : Audience P) {v w : P} (h : (v == w) = true) :
    a.admits v = a.admits w := by
  rw [admits_eq, admits_eq, a.isSelf_congr h, a.isExcluded_congr h]

theorem admits_iff (a : Audience P) (v : P) :
    a.admits v = true ↔ a.isSelf v = false ∧ a.isExcluded v = false := by
  simp [admits_eq]

/-! ## The changes, exit by exit -/

theorem addManual_of_isSelf {a : Audience P} {v : P} (h : a.isSelf v = true) :
    a.addManual v = { accepted := false, audience := a, event? := none } := by
  simp [addManual, h]

theorem addManual_of_not_isSelf {a : Audience P} {v : P} (h : a.isSelf v = false) :
    a.addManual v =
      { accepted := !a.isManual v
        audience := { a with roster := (a.roster.insert v).2, exceptions := a.exceptions.erase v }
        event? := some (.manualAdded v (!a.isManual v)) } := by
  rw [isManual, ← Roster.insert_fst]
  simp [addManual, h]

/-- Whether a removal looks for the viewer on the roster and finds it there. -/
def drops (a : Audience P) (v : P) : Bool := !a.roster.isEmpty && a.isManual v

theorem remove_of_drops {a : Audience P} {v : P} (h : a.drops v = true) :
    a.remove v =
      { accepted := true
        audience := { a with roster := (a.roster.remove v).2 }
        event? := some (.manualRemoved v) } := by
  obtain ⟨hrows, hm⟩ := Bool.and_eq_true_iff.1 h
  rw [Bool.not_eq_true'] at hrows
  have hfst : (a.roster.remove v).1 = true := by rw [Roster.remove_fst]; exact hm
  rcases hr : a.roster.remove v with ⟨b, roster⟩
  obtain rfl : b = true := by rw [← hfst, hr]
  simp [remove, hrows, hr]

theorem remove_of_not_drops {a : Audience P} {v : P} (h : a.drops v = false) :
    a.remove v =
      { accepted := !a.isExcluded v
        audience := { a with exceptions := a.exceptions.insert v }
        event? := some (.autoExcluded v (!a.isExcluded v)) } := by
  cases hrows : a.roster.isEmpty with
  | true => simp [remove, hrows, isExcluded]
  | false =>
    have hm : a.isManual v = false := by simpa [drops, hrows] using h
    have hfst : (a.roster.remove v).1 = false := by rw [Roster.remove_fst]; exact hm
    rcases hr : a.roster.remove v with ⟨b, roster⟩
    obtain rfl : b = false := by rw [← hfst, hr]
    simp [remove, hrows, hr, isExcluded]

/-- In a coherent roster nobody is missed by not looking: without rows nobody is on it. -/
theorem drops_eq_isManual {a : Audience P} (h : a.roster.Coherent) (v : P) :
    a.drops v = a.isManual v := by
  cases hrows : a.roster.isEmpty with
  | true =>
    have hnobody : a.isManual v = false := by
      rw [Bool.eq_false_iff, isManual, Ne, h.contains_iff_exists_mem]
      rintro ⟨x, hx, -⟩
      rw [Array.isEmpty_iff.1 hrows] at hx
      exact Array.not_mem_empty x hx
    rw [drops, hnobody, Bool.and_false]
  | false => rw [drops, hrows, Bool.not_false, Bool.true_and]

theorem remove_of_isManual {a : Audience P} (h : a.roster.Coherent) {v : P}
    (hm : a.isManual v = true) :
    a.remove v =
      { accepted := true
        audience := { a with roster := (a.roster.remove v).2 }
        event? := some (.manualRemoved v) } :=
  remove_of_drops ((drops_eq_isManual h v).trans hm)

theorem remove_of_not_isManual {a : Audience P} {v : P} (hm : a.isManual v = false) :
    a.remove v =
      { accepted := !a.isExcluded v
        audience := { a with exceptions := a.exceptions.insert v }
        event? := some (.autoExcluded v (!a.isExcluded v)) } := by
  refine remove_of_not_drops ?_
  rw [drops, hm, Bool.and_false]

@[simp]
theorem ownViewer_apply (a : Audience P) (m : Mutation P) :
    (a.apply m).audience.ownViewer = a.ownViewer := by
  cases m with
  | add v =>
    cases hs : a.isSelf v with
    | true => rw [apply, addManual_of_isSelf hs]
    | false => rw [apply, addManual_of_not_isSelf hs]
  | remove v =>
    cases hd : a.drops v with
    | true => rw [apply, remove_of_drops hd]
    | false => rw [apply, remove_of_not_drops hd]
  | update lists => rfl

@[simp]
theorem isSelf_apply (a : Audience P) (m : Mutation P) (v : P) :
    (a.apply m).audience.isSelf v = a.isSelf v := by
  rw [isSelf, ownViewer_apply, isSelf]

/-! ## What a change does to one viewer -/

theorem isManual_addManual (a : Audience P) (w v : P) :
    (a.addManual w).audience.isManual v = (a.isManual v || (!a.isSelf w && w == v)) := by
  cases hs : a.isSelf w with
  | true => simp [addManual_of_isSelf hs]
  | false =>
    rw [addManual_of_not_isSelf hs]
    simp [isManual, Roster.contains_insert]

theorem isExcluded_addManual (a : Audience P) (w v : P) :
    (a.addManual w).audience.isExcluded v = (a.isExcluded v && !(!a.isSelf w && w == v)) := by
  cases hs : a.isSelf w with
  | true => simp [addManual_of_isSelf hs]
  | false =>
    rw [addManual_of_not_isSelf hs]
    simp [isExcluded, Std.ExtHashSet.contains_erase, Bool.and_comm]

theorem accepted_addManual (a : Audience P) (w : P) :
    (a.addManual w).accepted = (!a.isSelf w && !a.isManual w) := by
  cases hs : a.isSelf w with
  | true => simp [addManual_of_isSelf hs]
  | false => simp [addManual_of_not_isSelf hs]

theorem rows_addManual (a : Audience P) (w : P) :
    (a.addManual w).audience.roster.rows
      = if (a.addManual w).accepted then a.roster.rows.push w else a.roster.rows := by
  cases hs : a.isSelf w with
  | true => simp [addManual_of_isSelf hs]
  | false =>
    rw [addManual_of_not_isSelf hs]
    cases hm : a.isManual w <;> simp_all [Roster.rows_insert, isManual]

theorem isManual_remove {a : Audience P} (h : a.roster.Coherent) (w v : P) :
    (a.remove w).audience.isManual v = (a.isManual v && !(w == v)) := by
  cases hm : a.isManual w with
  | true =>
    rw [remove_of_isManual h hm]
    exact Roster.contains_remove a.roster w v
  | false =>
    rw [remove_of_not_isManual hm]
    show a.isManual v = (a.isManual v && !(w == v))
    cases hwv : w == v with
    | true =>
      have hv : a.isManual v = false := by rw [← a.isManual_congr hwv, hm]
      simp [hv]
    | false => simp

theorem isExcluded_remove {a : Audience P} (h : a.roster.Coherent) (w v : P) :
    (a.remove w).audience.isExcluded v = (a.isExcluded v || (!a.isManual w && w == v)) := by
  cases hm : a.isManual w with
  | true => simp [remove_of_isManual h hm, isExcluded]
  | false =>
    rw [remove_of_not_isManual hm]
    simp [isExcluded, Std.ExtHashSet.contains_insert, Bool.or_comm]

theorem accepted_remove {a : Audience P} (h : a.roster.Coherent) (w : P) :
    (a.remove w).accepted = (a.isManual w || !a.isExcluded w) := by
  cases hm : a.isManual w with
  | true => simp [remove_of_isManual h hm]
  | false => simp [remove_of_not_isManual hm]

theorem isExcluded_updateLists (a : Audience P) (lists : Option (CandidateLists P)) (v : P) :
    (a.updateLists lists).audience.isExcluded v = a.isExcluded v := rfl

/-! ## Runs -/

@[simp]
theorem run_nil (a : Audience P) :
    a.run [] = { accepted := [], events := [], audience := a } := rfl

@[simp]
theorem audience_run_cons (a : Audience P) (m : Mutation P) (ms : List (Mutation P)) :
    (a.run (m :: ms)).audience = ((a.apply m).audience.run ms).audience := rfl

/-- What holds at the start and is kept by every change holds after every run. -/
theorem run_invariant {I : Audience P → Prop} (hstep : ∀ a m, I a → I (a.apply m).audience)
    {a : Audience P} (ha : I a) (ms : List (Mutation P)) : I (a.run ms).audience := by
  induction ms generalizing a with
  | nil => exact ha
  | cons m ms ih => exact ih (hstep a m ha)

@[simp]
theorem ownViewer_run (a : Audience P) (ms : List (Mutation P)) :
    (a.run ms).audience.ownViewer = a.ownViewer :=
  run_invariant (I := fun b => b.ownViewer = a.ownViewer)
    (fun b m hb => by rw [ownViewer_apply, hb]) rfl ms

@[simp]
theorem isSelf_run (a : Audience P) (ms : List (Mutation P)) (v : P) :
    (a.run ms).audience.isSelf v = a.isSelf v :=
  run_invariant (I := fun b => b.isSelf v = a.isSelf v)
    (fun b m hb => by rw [isSelf_apply, hb]) rfl ms

/-! ## Sound audiences -/

/-- The roster is coherent, and every manual viewer is admitted. -/
structure Sound (a : Audience P) : Prop where
  coherent : a.roster.Coherent
  admits_of_isManual (v : P) : a.isManual v = true → a.admits v = true

theorem sound_create (owner : Option (Owner P)) (capacity : Nat) :
    (create owner capacity : Audience P).Sound where
  coherent := Roster.coherent_emptyWithCapacity capacity
  admits_of_isManual v h := by
    have hnone : (create owner capacity).isManual v = false :=
      Roster.contains_emptyWithCapacity capacity v
    simp [hnone] at h

namespace Sound

variable {a : Audience P} (h : a.Sound)
include h

theorem not_isSelf_of_isManual {v : P} (hv : a.isManual v = true) : a.isSelf v = false :=
  ((a.admits_iff v).1 (h.admits_of_isManual v hv)).1

theorem not_isManual_of_isSelf {v : P} (hv : a.isSelf v = true) : a.isManual v = false := by
  rw [Bool.eq_false_iff]
  intro hm
  rw [h.not_isSelf_of_isManual hm] at hv
  exact Bool.false_ne_true hv

theorem not_isExcluded_of_isManual {v : P} (hv : a.isManual v = true) : a.isExcluded v = false :=
  ((a.admits_iff v).1 (h.admits_of_isManual v hv)).2

theorem isManual_of_row {i : Nat} {x : P} (hi : a.roster.rows[i]? = some x) :
    a.isManual x = true :=
  h.coherent.contains_of_row hi

/-- Nobody on the roster is equal to a viewer that is not manual. -/
theorem ne_of_mem {v x : P} (hv : a.isManual v = false) (hx : x ∈ a.roster.rows) :
    (x == v) = false := by
  rw [Bool.eq_false_iff]
  intro hxv
  have hm : a.isManual v = true := (h.coherent.contains_iff_exists_mem v).2 ⟨x, hx, hxv⟩
  rw [hv] at hm
  exact Bool.false_ne_true hm

theorem not_isSelf_of_mem {x : P} (hx : x ∈ a.roster.rows) : a.isSelf x = false := by
  obtain ⟨i, hi⟩ := Array.getElem?_of_mem hx
  exact h.not_isSelf_of_isManual (h.isManual_of_row hi)

protected theorem addManual (w : P) : (a.addManual w).audience.Sound := by
  refine ⟨?_, ?_⟩
  · cases hs : a.isSelf w with
    | true => rw [addManual_of_isSelf hs]; exact h.coherent
    | false => rw [addManual_of_not_isSelf hs]; exact h.coherent.insert w
  · intro v hv
    have hself : (a.addManual w).audience.isSelf v = a.isSelf v := a.isSelf_apply (.add w) v
    rw [isManual_addManual] at hv
    rw [admits_iff, hself, isExcluded_addManual]
    cases hwv : !a.isSelf w && w == v with
    | true =>
      simp only [Bool.and_eq_true, Bool.not_eq_true'] at hwv
      rw [← a.isSelf_congr hwv.2]
      simp [hwv.1]
    | false =>
      have hold : a.isManual v = true := by simpa [hwv] using hv
      simp [h.not_isSelf_of_isManual hold, h.not_isExcluded_of_isManual hold]

protected theorem remove (w : P) : (a.remove w).audience.Sound := by
  refine ⟨?_, ?_⟩
  · cases hm : a.isManual w with
    | true => rw [remove_of_isManual h.coherent hm]; exact h.coherent.remove w
    | false => rw [remove_of_not_isManual hm]; exact h.coherent
  · intro v hv
    have hself : (a.remove w).audience.isSelf v = a.isSelf v := a.isSelf_apply (.remove w) v
    rw [isManual_remove h.coherent, Bool.and_eq_true, Bool.not_eq_true'] at hv
    rw [admits_iff, hself, isExcluded_remove h.coherent, hv.2]
    simp [h.not_isSelf_of_isManual hv.1, h.not_isExcluded_of_isManual hv.1]

protected theorem apply (m : Mutation P) : (a.apply m).audience.Sound := by
  cases m with
  | add w => exact h.addManual w
  | remove w => exact h.remove w
  | update lists => exact ⟨h.coherent, h.admits_of_isManual⟩

protected theorem run (ms : List (Mutation P)) : (a.run ms).audience.Sound :=
  run_invariant (fun _ m hb => hb.apply m) h ms

end Sound

/-! ## Reachable audiences -/

/-- Some changes lead to the audience from a new one. -/
def Reachable (a : Audience P) : Prop :=
  ∃ owner capacity ms, a = ((create owner capacity).run ms).audience

theorem reachable_run_create (owner : Option (Owner P)) (capacity : Nat)
    (ms : List (Mutation P)) : ((create owner capacity).run ms).audience.Reachable :=
  ⟨owner, capacity, ms, rfl⟩

theorem Reachable.sound {a : Audience P} (h : a.Reachable) : a.Sound := by
  obtain ⟨owner, capacity, ms, rfl⟩ := h
  exact (sound_create owner capacity).run ms

end Viewership.Audience
