/-
# Viewership.Proofs.Matching.Traversal -- traversals that meet the same viewers

A traversal remembers numbers, and one handle if it looked ahead. In matching audiences a search from
the same cursor ends in the same spot, so traversals with the same cursor and the same kept viewer
meet the same viewers on every step and come to their end together. A walk changes the audience for
those it meets, and stays in step as well.
-/
import Viewership.Proofs.Matching.Audience
import Viewership.Traversal.Walk

namespace Viewership

universe u

variable {P : Type u} [Viewer P]

/-! ## Searches -/

namespace Audience.Matches

variable {a b : Audience P} (h : a.Matches b)
include h

theorem locateEntry (list pos : Nat) :
    Option.Rel (SameFind SameViewer) (a.locateEntry list pos) (b.locateEntry list pos) := by
  have hfind := firstFromNested?_rel (fun _ _ hvw => h.admits_eq hvw) h.candidates list pos
  unfold Audience.locateEntry
  generalize firstFromNested? a.admits a.candidates list pos = found,
    firstFromNested? b.admits b.candidates list pos = found' at hfind ⊢
  cases hfind with
  | some hxy =>
    obtain ⟨hpos, hvw⟩ := hxy
    exact .some ⟨by simp only [hpos], hvw⟩
  | none => exact .none

/-- A search ends in the same spot, at the same viewer. -/
theorem locate (c : Cursor) :
    Option.Rel (SameFind SameViewer) (a.locate c) (b.locate c) := by
  cases c with
  | manual row =>
    have hself (v w : P) (hvw : SameViewer v w) : (!a.isSelf v) = !b.isSelf w := by
      rw [h.isSelf_eq hvw]
    have hfind := firstFrom?_rel hself h.rows row
    rw [Audience.locate, Audience.locate]
    generalize firstFrom? (!a.isSelf ·) a.roster.rows row = found,
      firstFrom? (!b.isSelf ·) b.roster.rows row = found' at hfind ⊢
    cases hfind with
    | some hxy =>
      obtain ⟨hrow, hvw⟩ := hxy
      exact .some ⟨by simp only [hrow], hvw⟩
    | none => exact h.locateEntry 0 0
  | auto list pos => exact h.locateEntry list pos
  | exhausted => exact .none

theorem advance (c : Cursor) :
    Option.Rel SameViewer (a.advance c).1 (b.advance c).1
      ∧ (a.advance c).2 = (b.advance c).2 := by
  have hfind := h.locate c
  unfold Audience.advance
  generalize a.locate c = found, b.locate c = found' at hfind ⊢
  cases hfind with
  | some hxy =>
    obtain ⟨hspot, hvw⟩ := hxy
    exact ⟨.some hvw, by simp only [hspot]⟩
  | none => exact ⟨.none, rfl⟩

end Audience.Matches

/-! ## Steps -/

namespace Traversal

/-- The traversals have the same cursor and keep the same viewer, if they keep one. -/
structure Matches (t u : Traversal P) : Prop where
  cursor : t.cursor = u.cursor
  pending : Option.Rel SameViewer t.pending u.pending

theorem matches_start : (start : Traversal P).Matches start := ⟨rfl, .none⟩

variable {a b : Audience P} {t u : Traversal P}

theorem Matches.hasNext (ht : t.Matches u) (h : a.Matches b) :
    (t.hasNext a).1 = (u.hasNext b).1 ∧ (t.hasNext a).2.Matches (u.hasNext b).2 := by
  rcases t with ⟨c, _ | v⟩ <;> rcases u with ⟨c', _ | w⟩ <;> obtain ⟨rfl, hpending⟩ := ht
  · have hadvance := h.advance c
    exact ⟨isSome_eq_of_rel hadvance.1, hadvance.2, hadvance.1⟩
  · cases hpending
  · cases hpending
  · exact ⟨rfl, rfl, hpending⟩

theorem Matches.next (ht : t.Matches u) (h : a.Matches b) :
    Option.Rel SameViewer (t.next a).1 (u.next b).1 ∧ (t.next a).2.Matches (u.next b).2 := by
  rcases t with ⟨c, _ | v⟩ <;> rcases u with ⟨c', _ | w⟩ <;> obtain ⟨rfl, hpending⟩ := ht
  · have hadvance := h.advance c
    exact ⟨hadvance.1, hadvance.2, .none⟩
  · cases hpending
  · cases hpending
  · exact ⟨hpending, rfl, .none⟩

/-- Both steps hand out the same viewer or nobody, and leave matching traversals behind. -/
inductive StepMatches : Option P × Traversal P → Option P × Traversal P → Prop where
  | handed {v w : P} {t u : Traversal P} (hvw : SameViewer v w) (h : t.Matches u) :
    StepMatches (some v, t) (some w, u)
  | nobody {t u : Traversal P} (h : t.Matches u) : StepMatches (none, t) (none, u)

theorem Matches.stepMatches (ht : t.Matches u) (h : a.Matches b) :
    StepMatches (t.next a) (u.next b) := by
  obtain ⟨hviewer, hrest⟩ := ht.next h
  generalize t.next a = handed, u.next b = handed' at hviewer hrest ⊢
  obtain ⟨v?, t'⟩ := handed
  obtain ⟨w?, u'⟩ := handed'
  have hviewer : Option.Rel SameViewer v? w? := hviewer
  cases hviewer with
  | some hvw => exact .handed hvw hrest
  | none => exact .nobody hrest

theorem Matches.nth (ht : t.Matches u) (h : a.Matches b) (n : Nat) :
    Option.Rel SameViewer (nth a n t).1 (nth b n u).1 ∧ (nth a n t).2.Matches (nth b n u).2 := by
  induction n generalizing t u with
  | zero => exact ht.next h
  | succ n ih =>
    have hstep := ht.stepMatches h
    rw [Traversal.nth, Traversal.nth]
    generalize t.next a = handed, u.next b = handed' at hstep ⊢
    cases hstep with
    | handed _ hrest => exact ih hrest
    | nobody hrest => exact ⟨.none, hrest⟩

theorem Matches.take (ht : t.Matches u) (h : a.Matches b) (n : Nat) :
    List.Forall₂ SameViewer (take a n t).1 (take b n u).1
      ∧ (take a n t).2.Matches (take b n u).2 := by
  induction n generalizing t u with
  | zero => exact ⟨.nil, ht⟩
  | succ n ih =>
    have hstep := ht.stepMatches h
    rw [Traversal.take, Traversal.take]
    generalize t.next a = handed, u.next b = handed' at hstep ⊢
    cases hstep with
    | handed hvw hrest =>
      obtain ⟨hviewers, hlast⟩ := ih hrest
      exact ⟨.cons hvw hviewers, hlast⟩
    | nobody hrest => exact ⟨.nil, hrest⟩

theorem Matches.drain (ht : t.Matches u) (h : a.Matches b) :
    List.Forall₂ SameViewer (t.drain a).1 (u.drain b).1
      ∧ (t.drain a).2.Matches (u.drain b).2 := by
  rw [drain_eq, drain_eq, remaining, remaining, ht.cursor]
  exact ⟨List.rel_append (forall₂_toList ht.pending) (h.remaining u.cursor), rfl, .none⟩

end Traversal

/-! ## Walks -/

theorem WalkAction.mutation_matches {v w : P} (h : SameViewer v w) (action : WalkAction) :
    (action.mutation v).Matches (action.mutation w) := by
  cases action with
  | remove => exact .remove h
  | add => exact .add h

/-- The same viewer was met, and everything was answered alike. -/
structure Encounter.Matches (x y : Encounter P) : Prop where
  viewer : SameViewer x.viewer y.viewer
  more? : x.more? = y.more?
  accepted : x.accepted = y.accepted

/-- The walks met the same viewers, were reported alike and led to matching audiences. -/
structure Walk.Matches (w w' : Walk P) : Prop where
  encounters : List.Forall₂ Encounter.Matches w.encounters w'.encounters
  events : List.Forall₂ TraceEvent.Matches w.events w'.events
  audience : w.audience.Matches w'.audience

theorem Traversal.Matches.walk {t u : Traversal P} (ht : t.Matches u) {a b : Audience P}
    (h : a.Matches b) (actions : List WalkAction) (peek : Bool) (limit : Nat) :
    (t.walk actions peek limit a).Matches (u.walk actions peek limit b) := by
  induction limit generalizing a b t u with
  | zero => exact ⟨.nil, .nil, h⟩
  | succ limit ih =>
    have hstep := ht.stepMatches h
    rw [Traversal.walk, Traversal.walk]
    generalize t.next a = handed, u.next b = handed' at hstep ⊢
    cases hstep with
    | nobody => exact ⟨.nil, .nil, h⟩
    | @handed v w _ _ hvw hrest =>
      have hactions : List.Forall₂ Mutation.Matches (actions.map (·.mutation v))
          (actions.map (·.mutation w)) := by
        rw [List.forall₂_map_left_iff, List.forall₂_map_right_iff, List.forall₂_same]
        exact fun action _ => action.mutation_matches hvw
      have hrun := h.run hactions
      cases peek with
      | false =>
        have hlast := ih hrest hrun.audience
        exact ⟨.cons ⟨hvw, rfl, hrun.accepted⟩ hlast.encounters,
          List.rel_append hrun.events hlast.events, hlast.audience⟩
      | true =>
        obtain ⟨hmore, hkept⟩ := hrest.hasNext h
        have hlast := ih hkept hrun.audience
        exact ⟨.cons ⟨hvw, congrArg some hmore, hrun.accepted⟩ hlast.encounters,
          List.rel_append hrun.events hlast.events, hlast.audience⟩

end Viewership
