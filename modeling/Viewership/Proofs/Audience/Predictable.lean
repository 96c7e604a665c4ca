/-
# Viewership.Proofs.Audience.Predictable -- when the lists say it all

If viewers are predictable, a caller may go by the candidate lists and never ask for the members. That
is right for every lists to come: with nobody added or removed by hand the members are the entries of
the lists, without the entity. The question is answered from the two sets of overrides alone, and it
may be answered with no when it could be yes. There is one such case. An exception for the entity
itself changes nothing that is read, because the entity is passed over anyway, and yet it counts as
an override. In every other case of a no there are lists that would have told.
-/
import Viewership.Proofs.Audience.Multiplicity

namespace Viewership.Audience

universe u

variable {P : Type u} [Viewer P]

/-! ## Following the lists -/

/-- What candidate lists say by themselves: all their entries in order, without the entity. -/
def othersIn (a : Audience P) (lists : Option (CandidateLists P)) : Array P :=
  (lists.getD #[]).flatten.filter (!a.isSelf ·)

/-- Whatever lists come, the members are what the lists say by themselves. -/
def FollowsLists (a : Audience P) : Prop :=
  ∀ lists, (a.apply (.update lists)).audience.snapshot = a.othersIn lists

/-- Who is excluded shows in the next lists that name it, unless it is the entity. -/
theorem Sound.isSelf_of_followsLists {a : Audience P} (h : a.Sound) (hf : a.FollowsLists) {v : P}
    (hv : a.isExcluded v = true) : a.isSelf v = true := by
  rw [← Bool.not_eq_false]
  intro hself
  have hmem : v ∈ a.othersIn (some #[#[v]]) := by simp [othersIn, hself]
  rw [← hf (some #[#[v]])] at hmem
  have hadm := (h.apply (.update (some #[#[v]]))).admits_of_mem_snapshot hmem
  have hnot : a.isExcluded v = false := ((admits_iff _ v).1 hadm).2
  rw [hv] at hnot
  cases hnot

/-- The members follow the lists exactly if nobody is manual and nobody but the entity is excluded. -/
theorem Sound.followsLists_iff {a : Audience P} (h : a.Sound) :
    a.FollowsLists ↔
      a.roster.isEmpty = true ∧ ∀ v, a.isExcluded v = true → a.isSelf v = true := by
  have hmembers (lists : Option (CandidateLists P)) :
      (a.apply (.update lists)).audience.snapshot.toList
        = a.roster.rows.toList ++ ((lists.getD #[]).flatten.toList).filter a.admits := by
    rw [(h.apply (.update lists)).toList_snapshot, members, autoMembers, List.flatMap_def,
      ← Array.toList_flatten]
    rfl
  constructor
  · intro hf
    refine ⟨?_, fun v hv => h.isSelf_of_followsLists hf hv⟩
    have hnone := hmembers none
    rw [hf none] at hnone
    simpa [othersIn, Roster.isEmpty, Array.isEmpty_iff] using hnone
  · rintro ⟨hempty, hself⟩ lists
    have hrows : a.roster.rows = #[] := by simpa [Roster.isEmpty, Array.isEmpty_iff] using hempty
    have hadm : a.admits = fun v => !a.isSelf v := by
      funext v
      cases hs : a.isSelf v with
      | true => simp [admits_eq, hs]
      | false =>
        have hnot : a.isExcluded v = false := by
          rw [Bool.eq_false_iff]
          intro he
          rw [hself v he] at hs
          cases hs
        simp [admits_eq, hs, hnot]
    rw [← Array.toList_inj, hmembers lists, hrows, hadm, othersIn, Array.toList_filter]
    rfl

/-! ## The question whether viewers are predictable -/

theorem exceptions_isEmpty_iff (a : Audience P) :
    a.exceptions.isEmpty = true ↔ ∀ v, a.isExcluded v = false := by
  rw [Std.ExtHashSet.isEmpty_iff, Std.ExtHashSet.eq_empty_iff_forall_contains]
  rfl

theorem hasPredictableViewers_iff (a : Audience P) {owner : Owner P}
    (hauto : owner.autoViewable = true) :
    a.hasPredictableViewers (some owner) = true ↔
      a.roster.isEmpty = true ∧ ∀ v, a.isExcluded v = false := by
  simp [hasPredictableViewers, hauto, ← exceptions_isEmpty_iff]

/-- The entity is the only one that is excluded. -/
def OnlySelfExcluded (a : Audience P) : Prop :=
  ∃ o, a.ownViewer = some o ∧ ∀ v, a.isExcluded v = (o == v)

/-- If somebody is excluded and nobody but the entity is, then the entity alone is. -/
theorem onlySelfExcluded_of_isSelf {a : Audience P} {v : P} (hv : a.isExcluded v = true)
    (hself : ∀ w, a.isExcluded w = true → a.isSelf w = true) : a.OnlySelfExcluded := by
  have hsv := hself v hv
  cases hown : a.ownViewer with
  | none => simp [isSelf, hown] at hsv
  | some o =>
    have hiff (w : P) : a.isSelf w = (o == w) := by simp [isSelf, hown]
    refine ⟨o, hown, ?_⟩
    intro w
    cases how : o == w with
    | true =>
      have hvw : (v == w) = true := by rw [← BEq.congr_left ((hiff v).symm.trans hsv), how]
      rw [← a.isExcluded_congr hvw, hv]
    | false =>
      rw [Bool.eq_false_iff]
      intro hw
      rw [← hiff w, hself w hw] at how
      cases how

/-- **Predictable viewers are predicted, and a no means an override, except for one.** For an owner
that is auto-viewable: if the viewers are predictable, they still are after any lists that come, and
the members are then the entries of the lists without the entity. If they are not, then either nobody
is manual and only the entity is excluded, and the members would follow any lists all the same, or
there are lists that they do not follow. -/
theorem Reachable.predictable_up_to_self {a : Audience P} (ha : a.Reachable) {owner : Owner P}
    (hauto : owner.autoViewable = true) :
    (a.hasPredictableViewers (some owner) = true → ∀ lists,
      let b := (a.apply (.update lists)).audience
      b.hasPredictableViewers (some owner) = true ∧ b.snapshot = a.othersIn lists) ∧
    (a.hasPredictableViewers (some owner) = false →
      (a.roster.isEmpty = true ∧ a.OnlySelfExcluded ∧ a.FollowsLists) ∨
      ∃ lists, (a.apply (.update lists)).audience.snapshot ≠ a.othersIn lists) := by
  constructor
  · intro hpred lists
    obtain ⟨hempty, hnone⟩ := (a.hasPredictableViewers_iff hauto).1 hpred
    have hfollows : a.FollowsLists := by
      rw [ha.sound.followsLists_iff]
      refine ⟨hempty, ?_⟩
      intro v hv
      rw [hnone v] at hv
      cases hv
    exact ⟨hpred, hfollows lists⟩
  · intro hpred
    by_cases hfollows : a.FollowsLists
    · left
      obtain ⟨hempty, hself⟩ := ha.sound.followsLists_iff.1 hfollows
      refine ⟨hempty, ?_, hfollows⟩
      have hsome : ¬ ∀ v, a.isExcluded v = false := by
        intro hnone
        rw [(a.hasPredictableViewers_iff hauto).2 ⟨hempty, hnone⟩] at hpred
        cases hpred
      obtain ⟨v, hv⟩ : ∃ v, a.isExcluded v = true := by simpa using hsome
      exact onlySelfExcluded_of_isSelf hv hself
    · right
      simpa [FollowsLists] using hfollows

/-- Without overrides the lists say it all. With a manual viewer there are lists that do not. -/
theorem predictable_up_to_self_manual :
    let owner : Owner Keyed := .unread true (some ⟨9, "own"⟩)
    let a := ((create (some owner) 0).run [.update (some #[#[⟨4, "a"⟩]])]).audience
    let b := (a.apply (.add ⟨5, "x"⟩)).audience
    let lists : CandidateLists Keyed := #[#[⟨9, "y"⟩, ⟨2, "b"⟩], #[⟨3, "c"⟩]]
    a.hasPredictableViewers (some owner) = true ∧
    (a.apply (.update (some lists))).audience.snapshot = #[⟨2, "b"⟩, ⟨3, "c"⟩] ∧
    b.hasPredictableViewers (some owner) = false ∧
    ∃ lists, (b.apply (.update lists)).audience.snapshot ≠ b.othersIn lists := by
  intro owner a b lists
  have ha : a.hasPredictableViewers (some owner) = true := rfl
  have hrow : b.roster.isEmpty = false := by
    simp [b, a, owner, run, apply, updateLists, addManual, create, isSelf, Owner.unread, Roster.insert,
      Roster.emptyWithCapacity, Roster.isEmpty]
  have hb : b.hasPredictableViewers (some owner) = false := by
    rw [hasPredictableViewers, hrow]
    simp
  refine ⟨ha, ?_, hb, ?_⟩
  · have hreach : a.Reachable := reachable_run_create _ _ _
    rw [((hreach.predictable_up_to_self rfl).1 ha (some lists)).2]
    rfl
  · have hreach : b.Reachable :=
      reachable_run_create (some owner) 0 [.update (some #[#[⟨4, "a"⟩]]), .add ⟨5, "x"⟩]
    refine ((hreach.predictable_up_to_self rfl).2 hb).resolve_left ?_
    rintro ⟨hempty, -⟩
    rw [hrow] at hempty
    cases hempty

end Viewership.Audience
