/-
# Viewership.Proofs.Matching.Roster -- rosters with the same viewers in the same rows

Two rosters match if they have the same viewers in the same rows. Their indexes need not be compared,
since those follow from the rows. Matching calls keep rosters matching and give matching answers: that
is shown for lists of viewers, which search and compare in the open, and rosters answer as lists do.
-/
import Viewership.Proofs.Matching.Basic
import Viewership.Proofs.Roster.Listing

namespace Viewership.Roster

universe u

variable {P : Type u} [Viewer P]

/-! ## Matching calls and answers -/

/-- The same call, on the same viewer if it is on one. -/
inductive Command.Matches : Command P → Command P → Prop where
  | insert {v w : P} (h : SameViewer v w) : Command.Matches (.insert v) (.insert w)
  | remove {v w : P} (h : SameViewer v w) : Command.Matches (.remove v) (.remove w)
  | contains {v w : P} (h : SameViewer v w) : Command.Matches (.contains v) (.contains w)
  | get (row : Nat) : Command.Matches (.get row) (.get row)
  | size : Command.Matches .size .size
  | isEmpty : Command.Matches .isEmpty .isEmpty
  | rows : Command.Matches .rows .rows

/-- The same answer, with the same viewers if it has any. -/
inductive Answer.Matches : Answer P → Answer P → Prop where
  | flag (b : Bool) : Answer.Matches (.flag b) (.flag b)
  | count (n : Nat) : Answer.Matches (.count n) (.count n)
  | viewer {v? w? : Option P} (h : Option.Rel SameViewer v? w?) :
    Answer.Matches (.viewer v?) (.viewer w?)
  | viewers {vs ws : List P} (h : List.Forall₂ SameViewer vs ws) :
    Answer.Matches (.viewers vs) (.viewers ws)

/-! ## Lists of viewers -/

namespace Listing

variable {vs ws : List P} (h : List.Forall₂ SameViewer vs ws)
include h

theorem any_beq_eq {v w : P} (hvw : SameViewer v w) : vs.any (· == v) = ws.any (· == w) :=
  any_eq_of_forall₂ h fun _ _ hxy => hxy.beq_eq hvw

theorem insert_matches {v w : P} (hvw : SameViewer v w) :
    (insert vs v).1 = (insert ws w).1
      ∧ List.Forall₂ SameViewer (insert vs v).2 (insert ws w).2 := by
  rw [insert, insert, any_beq_eq h hvw]
  cases ws.any (· == w) with
  | true => exact ⟨rfl, h⟩
  | false => exact ⟨rfl, List.rel_append h (.cons hvw .nil)⟩

theorem remove_matches {v w : P} (hvw : SameViewer v w) :
    (remove vs v).1 = (remove ws w).1
      ∧ List.Forall₂ SameViewer (remove vs v).2 (remove ws w).2 := by
  have hrow : vs.findIdx? (· == v) = ws.findIdx? (· == w) :=
    findIdx?_eq_of_forall₂ h fun _ _ hxy => hxy.beq_eq hvw
  have hlast := forall₂_getLast? h
  rw [remove, remove, hrow]
  generalize vs.getLast? = last, ws.getLast? = last' at hlast ⊢
  cases ws.findIdx? (· == w) with
  | none => cases hlast <;> exact ⟨rfl, h⟩
  | some row =>
    cases hlast with
    | none => exact ⟨rfl, h⟩
    | some hxy => exact ⟨rfl, forall₂_dropLast (forall₂_set h row hxy)⟩

theorem perform_matches {c c' : Command P} (hc : c.Matches c') :
    (perform vs c).1.Matches (perform ws c').1
      ∧ List.Forall₂ SameViewer (perform vs c).2 (perform ws c').2 := by
  cases hc with
  | insert hvw =>
    obtain ⟨hflag, hrest⟩ := insert_matches h hvw
    simp only [perform, hflag]
    exact ⟨.flag _, hrest⟩
  | remove hvw =>
    obtain ⟨hflag, hrest⟩ := remove_matches h hvw
    simp only [perform, hflag]
    exact ⟨.flag _, hrest⟩
  | contains hvw =>
    rw [perform, perform, any_beq_eq h hvw]
    exact ⟨.flag _, h⟩
  | get row => exact ⟨.viewer (forall₂_getElem? h row), h⟩
  | size =>
    rw [perform, perform, h.length_eq]
    exact ⟨.count _, h⟩
  | isEmpty =>
    have hempty : vs.isEmpty = ws.isEmpty := by cases h <;> rfl
    rw [perform, perform, hempty]
    exact ⟨.flag _, h⟩
  | rows => exact ⟨.viewers h, h⟩

end Listing

/-! ## Rosters -/

/-- The rosters can be trusted, and have the same viewers in the same rows. -/
structure Matches (r s : Roster P) : Prop where
  left : r.Coherent
  right : s.Coherent
  rows : Entrywise SameViewer r.rows s.rows

namespace Matches

variable {r s : Roster P} (h : r.Matches s)
include h

theorem size_eq : r.size = s.size := h.rows.size_eq

theorem isEmpty_eq : r.isEmpty = s.isEmpty := by
  rw [Bool.eq_iff_iff, isEmpty_iff_size_eq_zero, isEmpty_iff_size_eq_zero, h.size_eq]

theorem contains_eq {v w : P} (hvw : SameViewer v w) : r.contains v = s.contains w := by
  rw [← h.left.enumerates_rows.any_beq, ← h.right.enumerates_rows.any_beq]
  exact Listing.any_beq_eq h.rows hvw

protected theorem insert {v w : P} (hvw : SameViewer v w) :
    (r.insert v).2.Matches (s.insert w).2 := by
  refine ⟨h.left.insert v, h.right.insert w, ?_⟩
  have hrows := (Listing.insert_matches h.rows hvw).2
  rwa [h.left.insert_eq_listing, h.right.insert_eq_listing] at hrows

protected theorem remove {v w : P} (hvw : SameViewer v w) :
    (r.remove v).2.Matches (s.remove w).2 := by
  refine ⟨h.left.remove v, h.right.remove w, ?_⟩
  have hrows := (Listing.remove_matches h.rows hvw).2
  rwa [h.left.remove_eq_listing, h.right.remove_eq_listing] at hrows

protected theorem perform {c c' : Command P} (hc : c.Matches c') :
    (r.perform c).1.Matches (s.perform c').1 ∧ (r.perform c).2.Matches (s.perform c').2 := by
  have hboth := Listing.perform_matches h.rows hc
  rw [h.left.perform_eq_listing, h.right.perform_eq_listing] at hboth
  exact ⟨hboth.1, h.left.perform c, h.right.perform c', hboth.2⟩

end Matches

/-- Matching calls are answered alike, one after the other. -/
theorem Matches.run {r s : Roster P} (h : r.Matches s) {cs cs' : List (Command P)}
    (hcs : List.Forall₂ Command.Matches cs cs') :
    List.Forall₂ Answer.Matches (r.run cs).1 (s.run cs').1
      ∧ (r.run cs).2.Matches (s.run cs').2 := by
  induction hcs generalizing r s with
  | nil => exact ⟨.nil, h⟩
  | cons hc _ ih =>
    obtain ⟨hanswer, hnext⟩ := h.perform hc
    obtain ⟨hanswers, hlast⟩ := ih hnext
    exact ⟨.cons hanswer hanswers, hlast⟩

theorem matches_emptyWithCapacity (capacity : Nat) :
    (emptyWithCapacity capacity : Roster P).Matches (emptyWithCapacity capacity) where
  left := coherent_emptyWithCapacity capacity
  right := coherent_emptyWithCapacity capacity
  rows := .nil

end Viewership.Roster
