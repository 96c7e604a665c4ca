/-
# Viewership.Proofs.Audience.Multiplicity -- how often a viewer is read, and what single questions say

A viewer is read once as a manual viewer and once for each place among the candidates, unless it is
not admitted there. The questions about a single viewer never make this count. `contains` looks the
viewer up in the index and in the exceptions before it goes through the lists, and `acceptsAuto` does
not look at the lists at all. They agree with the count nevertheless: a viewer is contained if it is
read at all, and whoever is read is not excluded. Of a viewer that is not manual, `acceptsAuto` says
beforehand what `contains` will say when it is a candidate.
-/
import Viewership.Proofs.Audience.Members
import Viewership.Proofs.Roster.Enumeration

namespace Viewership.Audience

universe u

variable {P : Type u} [Viewer P]

/-! ## Counting -/

theorem countP_autoMembers (a : Audience P) (v : P) :
    a.autoMembers.countP (· == v)
      = if a.isSelf v || a.isExcluded v then 0 else a.candidates.flatten.countP (· == v) := by
  -- equal viewers are admitted together, so the filter keeps all entries equal to `v` or none
  have hadm (x : P) : (x == v && a.admits x) = (x == v && a.admits v) := by
    cases hxv : x == v with
    | true => rw [a.admits_congr hxv]
    | false => rfl
  rw [autoMembers, List.countP_filter, ← Array.countP_toList, Array.toList_flatten, ← List.flatMap_def]
  simp only [hadm]
  cases hs : a.isSelf v <;> cases he : a.isExcluded v <;> simp [admits_eq, hs, he]

/-- Whether some list has a viewer equal to `v`, one list after the other or all at once. -/
theorem any_contains_iff_countP_pos (lists : CandidateLists P) (v : P) :
    lists.any (·.contains v) = true ↔ 0 < lists.flatten.countP (· == v) := by
  simp only [Array.countP_pos_iff, Array.any_eq_true', Array.contains_iff_exists_mem_beq,
    Array.mem_flatten, BEq.comm (a := v)]
  constructor
  · rintro ⟨list, hlist, x, hx, hxv⟩
    exact ⟨x, ⟨list, hlist, hx⟩, hxv⟩
  · rintro ⟨x, ⟨list, hlist, hx⟩, hxv⟩
    exact ⟨list, hlist, x, hx, hxv⟩

namespace Sound

variable {a : Audience P} (h : a.Sound)
include h

theorem countP_snapshot (v : P) :
    a.snapshot.countP (· == v) = (if a.isManual v then 1 else 0)
      + if a.isSelf v || a.isExcluded v then 0 else a.candidates.flatten.countP (· == v) := by
  rw [← Array.countP_toList, h.toList_snapshot, members, List.countP_append,
    h.coherent.enumerates_rows.countP_beq v, countP_autoMembers]
  rfl

theorem contains_iff_countP_pos (v : P) :
    a.contains v = true ↔ 0 < a.snapshot.countP (· == v) := by
  have hany := any_contains_iff_countP_pos a.candidates v
  rw [h.countP_snapshot v, contains_eq]
  -- of the lists only these two answers matter
  generalize a.candidates.any (·.contains v) = named, a.candidates.flatten.countP (· == v) = n at hany ⊢
  cases hm : a.isManual v with
  | true =>
    rw [h.not_isSelf_of_isManual hm, if_pos rfl]
    simp only [Bool.not_false, Bool.true_or, Bool.and_self, true_iff]
    omega
  | false => cases hs : a.isSelf v <;> cases he : a.isExcluded v <;> simp [admits_eq, hs, he, hany]

/-- Whoever is read was admitted. -/
theorem admits_of_mem_snapshot {v : P} (hv : v ∈ a.snapshot) : a.admits v = true := by
  rw [← Array.mem_toList_iff, h.toList_snapshot, members, List.mem_append] at hv
  rcases hv with hrow | hauto
  · obtain ⟨i, hi⟩ := Array.getElem?_of_mem (Array.mem_toList_iff.1 hrow)
    exact h.admits_of_isManual v (h.isManual_of_row hi)
  · exact (List.mem_filter.1 hauto).2

end Sound

/-- Among the candidates, whoever is not manual is contained exactly if it is admitted. -/
theorem contains_updateLists {a : Audience P} {v : P} (hm : a.isManual v = false)
    {lists : CandidateLists P} (hv : ∃ x ∈ lists.flatten, (x == v) = true) :
    (a.apply (.update (some lists))).audience.contains v = a.admits v := by
  have hany : lists.any (·.contains v) = true := by
    rw [any_contains_iff_countP_pos, Array.countP_pos_iff]
    exact hv
  rw [contains_eq]
  show (!a.isSelf v && (a.isManual v || a.admits v && lists.any (·.contains v))) = a.admits v
  rw [hm, hany]
  cases hs : a.isSelf v <;> simp [admits_eq, hs]

/-! ## What single questions say -/

/-- **Single questions agree with the copy of all members.** A copy has an entry equal to `v` once if
`v` is manual, and once more for each place it has in the lists unless it is the entity or excluded.
It is contained if there is such an entry. No entry is excluded, and the auto-view rules accept
exactly the entries that are not manual. Whom they accept of those that are not manual is contained
after any new lists that name it, and nobody else is. -/
theorem Reachable.multiplicities {a : Audience P} (ha : a.Reachable) :
    (∀ v, a.snapshot.countP (· == v) = (if a.isManual v then 1 else 0)
      + if a.isSelf v || a.isExcluded v then 0 else a.candidates.flatten.countP (· == v)) ∧
    (∀ v, a.contains v = true ↔ 0 < a.snapshot.countP (· == v)) ∧
    (∀ v ∈ a.snapshot,
      a.isExcluded v = false ∧ (a.acceptsAuto (.viewer v) = true ↔ a.isManual v = false)) ∧
    (∀ v, a.isManual v = false → ∀ lists : CandidateLists P,
      (∃ x ∈ lists.flatten, (x == v) = true) →
      (a.acceptsAuto (.viewer v) = true
        ↔ (a.apply (.update (some lists))).audience.contains v = true)) := by
  refine ⟨ha.sound.countP_snapshot, ha.sound.contains_iff_countP_pos, ?_, ?_⟩
  · intro v hv
    have hadm : a.admits v = true := ha.sound.admits_of_mem_snapshot hv
    refine ⟨((a.admits_iff v).1 hadm).2, ?_⟩
    simp [acceptsAuto, hadm]
  · intro v hm lists hv
    rw [contains_updateLists hm hv]
    simp [acceptsAuto, hm]

/-- A manual viewer that stands in two lists under other tags is read three times, and an excluded
candidate not at all. Named by new lists, who was neither added nor removed is contained. -/
theorem multiplicities_keyed :
    let a : Audience Keyed := ((create (some (.unread true (some ⟨9, "own"⟩))) 0).run
      [.add ⟨5, "a"⟩, .remove ⟨7, "b"⟩,
        .update (some #[#[], #[⟨5, "c"⟩, ⟨7, "d"⟩], #[⟨9, "e"⟩, ⟨5, "f"⟩]])]).audience
    a.snapshot.countP (· == ⟨5, "x"⟩) = 3 ∧ a.contains ⟨5, "x"⟩ = true ∧
    a.contains ⟨7, "x"⟩ = false ∧ a.isManual ⟨6, "y"⟩ = false ∧
    (a.apply (.update (some #[#[⟨6, "z"⟩]]))).audience.contains ⟨6, "y"⟩ = true := by
  intro a
  have hreach : a.Reachable := reachable_run_create _ _ _
  have ha : a =
      { ownViewer := some ⟨9, "own"⟩
        roster :=
          { rows := #[⟨5, "a"⟩], index := (Std.ExtHashMap.emptyWithCapacity 0).insert ⟨5, "a"⟩ 0 }
        exceptions := Std.ExtHashSet.insert ∅ ⟨7, "b"⟩
        lists := some #[#[], #[⟨5, "c"⟩, ⟨7, "d"⟩], #[⟨9, "e"⟩, ⟨5, "f"⟩]] } := by
    simp [a, run, apply, addManual, updateLists, remove, create, isSelf, Owner.unread, Roster.insert,
      Roster.remove, Roster.emptyWithCapacity]
  clear_value a
  obtain ⟨hcount, hcontains, -, hnew⟩ := hreach.multiplicities
  have h5 : a.snapshot.countP (· == ⟨5, "x"⟩) = 3 := by
    rw [hcount]
    simp [ha, isManual, isSelf, isExcluded, candidates, Roster.contains_eq_index,
      Std.ExtHashSet.contains_insert]
  have h7 : a.snapshot.countP (· == ⟨7, "x"⟩) = 0 := by
    rw [hcount]
    simp [ha, isManual, isSelf, isExcluded, Roster.contains_eq_index, Std.ExtHashSet.contains_insert]
  have h6 : a.isManual ⟨6, "y"⟩ = false := by simp [ha, isManual, Roster.contains_eq_index]
  refine ⟨h5, (hcontains _).2 (by omega), ?_, h6, ?_⟩
  · rw [Bool.eq_false_iff]
    intro h
    have := (hcontains _).1 h
    omega
  · refine (hnew ⟨6, "y"⟩ h6 #[#[⟨6, "z"⟩]] ⟨⟨6, "z"⟩, by simp, by decide⟩).1 ?_
    simp [ha, acceptsAuto, admits_eq, isManual, isSelf, isExcluded, Roster.contains_eq_index,
      Std.ExtHashSet.contains_insert]

end Viewership.Audience
