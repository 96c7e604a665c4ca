/-
# Viewership.Proofs.Matching.Audience -- audiences of the same viewers

Two audiences match if they have the same viewers in the same rows and in the same places of their
lists, exclude the same viewers and belong to the same one. All the handles may differ: those on the
rosters, those that are the keys of the exceptions, the entity's own and the candidates.

Every question about matching audiences has one answer, every whole read gives the same viewers in the
same order, and matching changes are answered alike and keep the audiences matching.
-/
import Viewership.Audience.Members
import Viewership.Proofs.Audience.Members
import Viewership.Proofs.Matching.Roster

namespace Viewership

open Std (ExtHashSet)

universe u

variable {P : Type u} [Viewer P]

/-! ## Owners, subjects, changes and reports -/

/-- The owners are the same viewer, behave alike and were asked equally often. -/
structure Owner.Matches (o p : Owner P) : Prop where
  autoViewable : o.autoViewable = p.autoViewable
  viewer : Option.Rel SameViewer o.viewer p.viewer
  viewerReads : o.viewerReads = p.viewerReads
  autoReads : o.autoReads = p.autoReads

/-- The subjects are the same viewer, or both are no viewers. -/
inductive Subject.Matches : Subject P → Subject P → Prop where
  | viewer {v w : P} (h : SameViewer v w) : Subject.Matches (.viewer v) (.viewer w)
  | other : Subject.Matches .other .other

theorem Subject.matches_ofOption {v? w? : Option P} (h : Option.Rel SameViewer v? w?) :
    (Subject.ofOption v?).Matches (Subject.ofOption w?) := by
  cases h with
  | some hvw => exact .viewer hvw
  | none => exact .other

theorem Subject.Matches.beq_eq {x x' y y' : Subject P} (h : x.Matches x') (h' : y.Matches y') :
    (x == y) = (x' == y') := by
  cases h with
  | viewer hvw =>
    cases h' with
    | viewer hvw' => exact hvw.beq_eq hvw'
    | other => rfl
  | other => cases h' <;> rfl

/-- The same change for the same viewer, or lists of the same viewers. -/
inductive Mutation.Matches : Mutation P → Mutation P → Prop where
  | add {v w : P} (h : SameViewer v w) : Mutation.Matches (.add v) (.add w)
  | remove {v w : P} (h : SameViewer v w) : Mutation.Matches (.remove v) (.remove w)
  | update {lists lists' : Option (CandidateLists P)}
    (h : Option.Rel (Entrywise (Entrywise SameViewer)) lists lists') :
    Mutation.Matches (.update lists) (.update lists')

/-- The same report on the same viewer. -/
inductive TraceEvent.Matches : TraceEvent P → TraceEvent P → Prop where
  | listsReplaced (count : Nat) : TraceEvent.Matches (.listsReplaced count) (.listsReplaced count)
  | manualAdded {v w : P} (h : SameViewer v w) (added : Bool) :
    TraceEvent.Matches (.manualAdded v added) (.manualAdded w added)
  | manualRemoved {v w : P} (h : SameViewer v w) :
    TraceEvent.Matches (.manualRemoved v) (.manualRemoved w)
  | autoExcluded {v w : P} (h : SameViewer v w) (excluded : Bool) :
    TraceEvent.Matches (.autoExcluded v excluded) (.autoExcluded w excluded)

/-! ## Exceptions -/

/-- The sets have the same viewers. -/
structure SameMembers (s t : ExtHashSet P) : Prop where
  contains_eq (v : P) : s.contains v = t.contains v
  size_eq : s.size = t.size

namespace SameMembers

variable {s t : ExtHashSet P} (h : SameMembers s t)
include h

theorem contains_eq_of_same {v w : P} (hvw : SameViewer v w) : s.contains v = t.contains w := by
  rw [h.contains_eq v, ExtHashSet.contains_congr hvw]

theorem mem_iff {v w : P} (hvw : SameViewer v w) : v ∈ s ↔ w ∈ t := by
  rw [← ExtHashSet.contains_iff_mem, ← ExtHashSet.contains_iff_mem, h.contains_eq_of_same hvw]

protected theorem erase {v w : P} (hvw : SameViewer v w) : SameMembers (s.erase v) (t.erase w) where
  contains_eq x := by
    rw [ExtHashSet.contains_erase, ExtHashSet.contains_erase, h.contains_eq x, BEq.congr_left hvw]
  size_eq := by simp only [ExtHashSet.size_erase, h.mem_iff hvw, h.size_eq]

protected theorem insert {v w : P} (hvw : SameViewer v w) :
    SameMembers (s.insert v) (t.insert w) where
  contains_eq x := by
    rw [ExtHashSet.contains_insert, ExtHashSet.contains_insert, h.contains_eq x,
      BEq.congr_left hvw]
  size_eq := by simp only [ExtHashSet.size_insert, h.mem_iff hvw, h.size_eq]

theorem isEmpty_eq : s.isEmpty = t.isEmpty := by
  rw [Bool.eq_iff_iff, ExtHashSet.isEmpty_iff, ExtHashSet.isEmpty_iff,
    ExtHashSet.eq_empty_iff_size_eq_zero, ExtHashSet.eq_empty_iff_size_eq_zero, h.size_eq]

end SameMembers

namespace Audience

/-- The audiences are sound and hold the same viewers in the same places. -/
structure Matches (a b : Audience P) : Prop where
  left : a.Sound
  right : b.Sound
  ownViewer : Option.Rel SameViewer a.ownViewer b.ownViewer
  rows : Entrywise SameViewer a.roster.rows b.roster.rows
  exceptions : SameMembers a.exceptions b.exceptions
  lists : Option.Rel (Entrywise (Entrywise SameViewer)) a.lists b.lists

/-- Matching owners make matching audiences. -/
theorem matches_create {o? p? : Option (Owner P)} (h : Option.Rel Owner.Matches o? p?)
    (capacity : Nat) : (create o? capacity).Matches (create p? capacity) where
  left := sound_create o? capacity
  right := sound_create p? capacity
  ownViewer := by
    cases h with
    | some hop => exact hop.viewer
    | none => exact .none
  rows := .nil
  exceptions := ⟨fun _ => rfl, rfl⟩
  lists := .none

namespace Matches

variable {a b : Audience P} (h : a.Matches b)
include h

theorem roster : a.roster.Matches b.roster := ⟨h.left.coherent, h.right.coherent, h.rows⟩

theorem candidates : Entrywise (Entrywise SameViewer) a.candidates b.candidates := by
  have hlists := h.lists
  unfold Audience.candidates
  generalize a.lists = lists, b.lists = lists' at hlists ⊢
  cases hlists with
  | some hxy => exact hxy
  | none => exact .nil

/-! ## Questions about one viewer -/

section Questions

variable {v w : P} (hvw : SameViewer v w)
include hvw

theorem isSelf_eq : a.isSelf v = b.isSelf w := by
  have hown := h.ownViewer
  unfold isSelf
  generalize a.ownViewer = own, b.ownViewer = own' at hown ⊢
  cases hown with
  | some hxy => exact hxy.beq_eq hvw
  | none => rfl

theorem isManual_eq : a.isManual v = b.isManual w := h.roster.contains_eq hvw

theorem isExcluded_eq : a.isExcluded v = b.isExcluded w := h.exceptions.contains_eq_of_same hvw

theorem admits_eq : a.admits v = b.admits w := by
  rw [a.admits_eq, b.admits_eq, h.isSelf_eq hvw, h.isExcluded_eq hvw]

theorem contains_eq : a.contains v = b.contains w := by
  have hnamed : a.candidates.any (·.contains v) = b.candidates.any (·.contains w) := by
    rw [← Array.any_toList, ← Array.any_toList]
    refine any_eq_of_forall₂ h.candidates ?_
    intro xs ys hxs
    -- looking a viewer up in a list compares it with every entry
    rw [← Array.any_beq', ← Array.any_beq', ← Array.any_toList, ← Array.any_toList]
    exact any_eq_of_forall₂ hxs fun _ _ hxy => hxy.beq_eq hvw
  rw [a.contains_eq, b.contains_eq, h.isSelf_eq hvw, h.isManual_eq hvw, h.admits_eq hvw, hnamed]

end Questions

theorem acceptsAuto_eq {x y : Subject P} (hxy : x.Matches y) :
    a.acceptsAuto x = b.acceptsAuto y := by
  cases hxy with
  | viewer hvw => simp only [acceptsAuto, h.isManual_eq hvw, h.admits_eq hvw]
  | other => rfl

theorem hasPredictableViewers_eq {o? p? : Option (Owner P)} (hop : Option.Rel Owner.Matches o? p?) :
    a.hasPredictableViewers o? = b.hasPredictableViewers p? := by
  rw [hasPredictableViewers, hasPredictableViewers, h.roster.isEmpty_eq, h.exceptions.isEmpty_eq]
  cases hop with
  | some hop => simp only [Option.any_some, hop.autoViewable]
  | none => rfl

/-! ## Whole reads -/

/-- The same viewers are still to come at a cursor. -/
theorem remaining (c : Cursor) : List.Forall₂ SameViewer (c.remaining a) (c.remaining b) := by
  have hauto (list pos : Nat) :
      List.Forall₂ SameViewer ((entriesFrom a.candidates list pos).filter a.admits)
        ((entriesFrom b.candidates list pos).filter b.admits) :=
    forall₂_filter (entriesFrom_rel h.candidates list pos) fun _ _ => h.admits_eq
  cases c with
  | manual row =>
    refine List.rel_append ?_ (hauto 0 0)
    refine forall₂_filter (List.forall₂_drop row h.rows) ?_
    intro v w hvw
    rw [h.isSelf_eq hvw]
  | auto list pos => exact hauto list pos
  | exhausted => exact .nil

theorem members : List.Forall₂ SameViewer a.members b.members := by
  have hstart := h.remaining (.manual 0)
  rwa [h.left.remaining_eq_membersFrom, h.right.remaining_eq_membersFrom] at hstart

theorem size_eq : a.size = b.size := by
  rw [h.left.size_eq_length, h.right.size_eq_length, h.members.length_eq]

theorem isEmpty_eq : a.isEmpty = b.isEmpty := by
  rw [Bool.eq_iff_iff, h.left.isEmpty_iff, h.right.isEmpty_iff, ← List.length_eq_zero_iff,
    h.members.length_eq, List.length_eq_zero_iff]

theorem snapshot : Entrywise SameViewer a.snapshot b.snapshot := by
  rw [Entrywise, h.left.toList_snapshot, h.right.toList_snapshot]
  exact h.members

end Matches

/-- Visiting the members to collect something about each collects it in their order. -/
theorem Sound.toList_forEach_push {a : Audience P} (h : a.Sound) {α : Type u} (f : P → α) :
    (a.forEach #[] fun xs v => xs.push (f v)).toList = a.members.map f := by
  rw [h.forEach_eq_foldl, List.foldl_push_eq_append, Array.empty_append]

/-- The same is known about the same viewer. -/
structure Reading.Matches (x y : Reading P) : Prop where
  viewer : SameViewer x.viewer y.viewer
  contained : x.contained = y.contained
  acceptedAuto : x.acceptedAuto = y.acceptedAuto
  excluded : x.excluded = y.excluded
  size : x.size = y.size

theorem Matches.visits {a b : Audience P} (h : a.Matches b) :
    Entrywise SameViewer (a.forEach #[] Array.push) (b.forEach #[] Array.push) := by
  have hleft := h.left.toList_forEach_push id
  have hright := h.right.toList_forEach_push id
  rw [List.map_id] at hleft hright
  have hmembers := h.members
  rw [← hleft, ← hright] at hmembers
  exact hmembers

theorem Matches.readings {a b : Audience P} (h : a.Matches b) :
    Entrywise Reading.Matches a.readings b.readings := by
  rw [Entrywise, Audience.readings, Audience.readings, h.left.toList_forEach_push,
    h.right.toList_forEach_push]
  refine List.rel_map ?_ h.members
  intro v w hvw
  exact ⟨hvw, h.contains_eq hvw, h.acceptsAuto_eq (.viewer hvw), h.isExcluded_eq hvw, h.size_eq⟩

/-! ## Changes -/

/-- The changes were answered alike, led to matching audiences and were reported alike. -/
structure Outcome.Matches (o p : Outcome P) : Prop where
  accepted : o.accepted = p.accepted
  audience : o.audience.Matches p.audience
  event? : Option.Rel TraceEvent.Matches o.event? p.event?

namespace Matches

variable {a b : Audience P} (h : a.Matches b)
include h

protected theorem addManual {v w : P} (hvw : SameViewer v w) :
    (a.addManual v).Matches (b.addManual w) := by
  -- soundness is taken before the calls are unfolded, and goes through the rewriting with them
  have hself := h.isSelf_eq hvw
  have hleft := h.left.addManual v
  have hright := h.right.addManual w
  cases hs : b.isSelf w with
  | true =>
    rw [addManual_of_isSelf (hself.trans hs), addManual_of_isSelf hs]
    exact ⟨rfl, h, .none⟩
  | false =>
    rw [addManual_of_not_isSelf (hself.trans hs)] at hleft ⊢
    rw [addManual_of_not_isSelf hs] at hright ⊢
    rw [h.isManual_eq hvw]
    exact ⟨rfl, ⟨hleft, hright, h.ownViewer, (h.roster.insert hvw).rows, h.exceptions.erase hvw,
      h.lists⟩, .some (.manualAdded hvw _)⟩

protected theorem remove {v w : P} (hvw : SameViewer v w) :
    (a.remove v).Matches (b.remove w) := by
  have hmanual := h.isManual_eq hvw
  have hleft := h.left.remove v
  have hright := h.right.remove w
  cases hm : b.isManual w with
  | true =>
    rw [remove_of_isManual h.left.coherent (hmanual.trans hm)] at hleft ⊢
    rw [remove_of_isManual h.right.coherent hm] at hright ⊢
    exact ⟨rfl, ⟨hleft, hright, h.ownViewer, (h.roster.remove hvw).rows, h.exceptions, h.lists⟩,
      .some (.manualRemoved hvw)⟩
  | false =>
    rw [remove_of_not_isManual (hmanual.trans hm)] at hleft ⊢
    rw [remove_of_not_isManual hm] at hright ⊢
    rw [h.isExcluded_eq hvw]
    exact ⟨rfl, ⟨hleft, hright, h.ownViewer, h.rows, h.exceptions.insert hvw, h.lists⟩,
      .some (.autoExcluded hvw _)⟩

protected theorem apply {m m' : Mutation P} (hm : m.Matches m') :
    (a.apply m).Matches (b.apply m') := by
  cases hm with
  | add hvw => exact h.addManual hvw
  | remove hvw => exact h.remove hvw
  | @update lists lists' hlists =>
    refine ⟨rfl, ⟨h.left.apply (.update lists), h.right.apply (.update lists'), h.ownViewer, h.rows,
      h.exceptions, hlists⟩, ?_⟩
    have hcount : lists.elim 0 Array.size = lists'.elim 0 Array.size := by
      cases hlists with
      | some hxy => exact hxy.size_eq
      | none => rfl
    rw [Audience.apply, Audience.apply, updateLists, updateLists, hcount]
    exact .some (.listsReplaced _)

end Matches

/-- The runs were answered and reported alike, and led to matching audiences. -/
structure Run.Matches (r s : Run P) : Prop where
  accepted : r.accepted = s.accepted
  events : List.Forall₂ TraceEvent.Matches r.events s.events
  audience : r.audience.Matches s.audience

protected theorem Matches.run {a b : Audience P} (h : a.Matches b) {ms ms' : List (Mutation P)}
    (hms : List.Forall₂ Mutation.Matches ms ms') : (a.run ms).Matches (b.run ms') := by
  induction hms generalizing a b with
  | nil => exact ⟨rfl, .nil, h⟩
  | cons hm _ ih =>
    have hfirst := h.apply hm
    have hrest := ih hfirst.audience
    refine ⟨?_, ?_, hrest.audience⟩
    · simp only [Audience.run, hfirst.accepted, hrest.accepted]
    · exact List.rel_append (forall₂_toList hfirst.event?) hrest.events

end Audience

end Viewership
