/-
# Viewership.Proofs.Session.Soundness -- what a live traversal can be relied on

A traversal is no picture of one moment, so little can be said of the viewers it hands out taken
together. Each one of them was a member, though, at the moment of the search that found it, by every
question that can be asked about a single viewer: it saw the entity, was not the entity itself and was
not excluded. If the search was still among the rows, it was a manual viewer as well.

The three phases follow each other and none comes back. Once a search has gone on to the candidate
lists, later ones find viewers in the lists of their own moment only, whoever was added by hand
meanwhile, and once the traversal has said that nobody follows, it says so for ever.
-/
import Viewership.Handle
import Viewership.Proofs.Session.Basic

namespace Viewership

universe u

variable {P : Type u} [Viewer P]

/-! ## Members at the moment of a search -/

theorem Audience.contains_of_isManual {a : Audience P} {v : P} (hself : a.isSelf v = false)
    (hm : a.isManual v = true) : a.contains v = true := by
  rw [contains, hself, hm]
  rfl

theorem Audience.contains_of_candidate {a : Audience P} {list pos : Nat} {v : P}
    (hv : a.candidate? list pos = some v) (hadm : a.admits v = true) : a.contains v = true := by
  obtain ⟨xs, hxs, hv⟩ := Option.bind_eq_some_iff.1 hv
  have hany : a.candidates.any (·.contains v) = true := by
    rw [Array.any_eq_true']
    refine ⟨xs, Array.mem_of_getElem? hxs, ?_⟩
    rw [Array.contains_iff_exists_mem_beq]
    exact ⟨v, Array.mem_of_getElem? hv, BEq.rfl⟩
  rw [contains_eq, ((a.admits_iff v).1 hadm).1, hadm, hany]
  simp

namespace Search

variable {q : Search P}

/-- A viewer that is found is a member, by the row or by the entry where it stands. -/
theorem member_of_found? (h : q.audience.Sound) {v : P} (hv : q.found? = some v) :
    q.audience.contains v = true ∧ q.audience.admits v = true ∧
    (q.after.isManual = true → q.audience.isManual v = true) ∧
    (q.after.isManual = false → ∃ list pos, q.audience.candidate? list pos = some v) := by
  rw [found?_eq_map_result] at hv
  obtain ⟨⟨spot, v'⟩, hr, rfl⟩ := Option.map_eq_some_iff.1 hv
  rw [after_eq_of_result, hr]
  cases spot with
  | row i =>
    obtain ⟨row, -, -, hrow, hself⟩ := Audience.of_locate_eq_row hr
    have hm := h.isManual_of_row hrow
    refine ⟨Audience.contains_of_isManual hself hm, h.admits_of_isManual _ hm, fun _ => hm, ?_⟩
    intro hnot
    cases hnot
  | entry l p =>
    obtain ⟨-, hentry, hadm⟩ := Audience.of_locate_eq_entry hr
    refine ⟨Audience.contains_of_candidate hentry hadm, hadm, ?_, fun _ => ⟨l, p, hentry⟩⟩
    intro hman
    cases hman

end Search

/-! ## One phase after the other -/

namespace Step

/-- Whether the step asks the traversal for anything. -/
def asks (st : Step P) : Bool :=
  match st.move with
  | .mutate _ => false
  | .hasNext => true
  | .next => true

/-- Whether the step is answered that nobody follows: it looks ahead in vain, or goes on and is handed
nobody. -/
def reportsEnd (st : Step P) : Bool :=
  match st.move with
  | .mutate _ => false
  | .hasNext => !(st.before.traversal.hasNext st.before.audience).1
  | .next => (st.before.traversal.next st.before.audience).1.isNone

/-- The end is reported by a search that finds nobody. -/
theorem reportsEnd_iff (st : Step P) :
    st.reportsEnd = true ↔ ∃ q, st.search? = some q ∧ q.result = none := by
  have hnone (a : Audience P) (c : Cursor) :
      (a.advance c).1 = none ↔ (⟨a, c⟩ : Search P).result = none := by
    show (⟨a, c⟩ : Search P).found? = none ↔ _
    rw [Search.found?_eq_map_result, Option.map_eq_none_iff]
  rcases st with ⟨⟨a, ⟨c, _ | v⟩⟩, _ | _ | _⟩ <;>
    simp [reportsEnd, search?, Traversal.hasNext, Traversal.next, hnone]

/-- A traversal that has ended answers everybody so. -/
theorem reportsEnd_of_ended {st : Step P} (h : st.before.traversal = .ended)
    (hasks : st.asks = true) : st.reportsEnd = true := by
  rcases st with ⟨⟨a, t⟩, _ | _ | _⟩
  · cases hasks
  · obtain rfl : t = .ended := h
    rfl
  · obtain rfl : t = .ended := h
    rfl

/-- A viewer that is found is handed out, or kept for the next step. -/
theorem handsOut?_or_pending {st : Step P} {q : Search P} {v : P} (hq : st.search? = some q)
    (hv : q.found? = some v) :
    st.handsOut? = some v ∨ (st.before.step st.move).traversal.pending = some v := by
  have hmem : v ∈ st.handsOut?.toList ++ (st.before.step st.move).traversal.pending.toList := by
    rw [Session.handsOut_append_pending_step st.before st.move, hq, Option.bind_some, hv]
    simp
  simpa using hmem

end Step

namespace Session

/-- No search ends among the rows once one has ended elsewhere. -/
theorem pairwise_isManual_after (s : Session P) (ms : List (Move P)) :
    (s.searches ms).Pairwise fun q q' => q.after.isManual = false → q'.after.isManual = false := by
  have hkeep (q : Search P) (hc : q.cursor.isManual = false) : q.after.isManual = false := by
    rw [Bool.eq_false_iff]
    intro ha
    rw [Search.isManual_of_isManual_after ha] at hc
    cases hc
  refine searches_pairwise
    (J := fun q c => q.after.isManual = false → c.isManual = false) (fun q => id) ?_ s ms
  intro q q' hq
  exact ⟨fun h => hkeep q' (hq h), fun h => hkeep q' (hq h)⟩

/-- Once the end was reported, whoever asks is told of it again. -/
theorem pairwise_reportsEnd (s : Session P) (ms : List (Move P)) :
    (s.history ms).Pairwise fun st st' =>
      st.reportsEnd = true → st'.asks = true → st'.reportsEnd = true := by
  refine history_pairwise
    (J := fun st t => st.reportsEnd = true → t.traversal = .ended) ?_ ?_ s ms
  · intro t m hend
    obtain ⟨q, hq, hr⟩ := (Step.reportsEnd_iff _).1 hend
    exact traversal_step_of_result_eq_none hq hr
  · intro st t m hst
    constructor
    · intro hend
      exact traversal_step_of_ended (hst hend) m
    · intro hend hasks
      exact Step.reportsEnd_of_ended (hst hend) hasks

/-- **What a live traversal finds, and how its phases follow each other.** A viewer that a step's
search finds is handed out or kept. In the audience of that step it sees the entity, is not the entity
and is not excluded, and it is a manual viewer if the search ended among the rows. After the first
search that ended elsewhere, every find is an entry of the lists of its own moment. Once a step was
answered that nobody follows, every later one that asks is. -/
theorem sound_and_one_way {s : Session P} (hs : s.audience.Reachable) (ms : List (Move P)) :
    (∀ st ∈ s.history ms, ∀ q v, st.search? = some q → q.found? = some v →
      (st.handsOut? = some v ∨ (st.before.step st.move).traversal.pending = some v) ∧
      st.before.audience.contains v = true ∧
      st.before.audience.isSelf v = false ∧
      st.before.audience.isExcluded v = false ∧
      (q.after.isManual = true → st.before.audience.isManual v = true)) ∧
    (s.searches ms).Pairwise (fun q q' => q.after.isManual = false →
      q'.after.isManual = false ∧ ∀ v, q'.found? = some v →
        ∃ list pos, q'.audience.candidate? list pos = some v) ∧
    (s.history ms).Pairwise (fun st st' =>
      st.reportsEnd = true → st'.asks = true → st'.reportsEnd = true) := by
  refine ⟨?_, ?_, pairwise_reportsEnd s ms⟩
  · intro st hst q v hq hv
    obtain rfl := search?_eq_some hq
    have hsound := sound_of_mem_history hs.sound hst
    obtain ⟨hcontains, hadm, hman, -⟩ := Search.member_of_found? hsound hv
    obtain ⟨hself, hexc⟩ := (Audience.admits_iff _ v).1 hadm
    exact ⟨Step.handsOut?_or_pending hq hv, hcontains, hself, hexc, hman⟩
  · refine (pairwise_isManual_after s ms).imp_of_mem ?_
    intro q q' _ hq' hphase hq
    have hafter := hphase hq
    refine ⟨hafter, ?_⟩
    intro v hv
    exact (Search.member_of_found? (sound_of_mem_searches hs.sound hq') hv).2.2.2 hafter

/-- A viewer is found past one that was excluded in time, and new lists come too late for a traversal
that has told of its end. -/
theorem sound_and_one_way_late :
    let b : Audience Keyed := ((Audience.create none 0).run [.add ⟨1, "a"⟩,
      .update (some #[#[⟨2, "b"⟩, ⟨3, "c"⟩]]), .remove ⟨2, "x"⟩]).audience
    let s : Session Keyed := ⟨b, { cursor := .manual 1, pending := none }⟩
    let t := (s.step .hasNext).step .next
    let late : Mutation Keyed := .update (some #[#[⟨5, "e"⟩]])
    Search.found? ⟨b, .manual 1⟩ = some ⟨3, "c"⟩ ∧ b.contains ⟨3, "c"⟩ = true ∧
    Step.reportsEnd ⟨t, .next⟩ = true ∧
    Step.reportsEnd ⟨(t.step .next).step (.mutate late), .hasNext⟩ = true := by
  intro b s t late
  have hreach : b.Reachable := Audience.reachable_run_create none 0 _
  have hb : b =
      { ownViewer := none
        roster :=
          { rows := #[⟨1, "a"⟩], index := (Std.ExtHashMap.emptyWithCapacity 0).insert ⟨1, "a"⟩ 0 }
        exceptions := Std.ExtHashSet.insert ∅ ⟨2, "x"⟩
        lists := some #[#[⟨2, "b"⟩, ⟨3, "c"⟩]] } := by
    simp [b, Audience.run, Audience.apply, Audience.addManual, Audience.updateLists,
      Audience.remove, Audience.create, Audience.isSelf, Roster.insert, Roster.remove,
      Roster.emptyWithCapacity]
  clear_value b
  have h1 : b.locate (.manual 1) = some (.entry 0 1, ⟨3, "c"⟩) := by
    simp [hb, Audience.locate, Audience.locateEntry, Audience.candidates, Audience.admits_eq,
      Audience.isSelf, Audience.isExcluded, firstFrom?, firstFromNested?,
      Std.ExtHashSet.contains_insert]
  have h2 : b.locate (.auto 0 2) = none := by
    simp [hb, Audience.locate, Audience.locateEntry, Audience.candidates, firstFrom?,
      firstFromNested?]
  have hfound : Search.found? ⟨b, .manual 1⟩ = some ⟨3, "c"⟩ := by
    rw [Search.found?_eq_map_result, Search.result, h1]
    rfl
  have hend : Step.reportsEnd ⟨t, .next⟩ = true := by
    simp [Step.reportsEnd, t, s, step, Traversal.hasNext, Traversal.next, Audience.advance,
      Spot.next, h1, h2]
  have hsound := sound_and_one_way (s := s) hreach [.hasNext, .next, .next, .mutate late, .hasNext]
  refine ⟨hfound, ?_, hend, ?_⟩
  · exact (hsound.1 ⟨s, .hasNext⟩ (List.mem_cons_self) _ _ rfl hfound).2.1
  · have hpair : List.Pairwise _ [(⟨t, .next⟩ : Step Keyed), ⟨t.step .next, .mutate late⟩,
        ⟨(t.step .next).step (.mutate late), .hasNext⟩] := hsound.2.2.tail.tail
    exact List.rel_of_pairwise_cons hpair (by simp) hend rfl

end Session

end Viewership
