/-
# Viewership.Proofs.Session.Appended -- who joins while the manual phase lasts

A viewer that joins the roster takes the row behind the last. If the cursor has not gone further than
that, the traversal comes to the row and finds the viewer there, unless the viewer leaves it again.

The cursor may have gone further. Removals below it shorten the roster and leave it beyond the end,
and who joins then comes in under the cursor and is missed, although the manual phase still lasts and
nobody moves. `appended_found_iff` says exactly when this is so, and that it takes a removal below the
cursor to bring it about.
-/
import Viewership.Proofs.Session.ManualPhase
import Viewership.Proofs.Session.Progress

namespace Viewership

universe u

variable {P : Type u} [Viewer P]

/-! ## A viewer that keeps its row -/

/-- A removal that leaves a viewer in its row leaves the handle there. -/
theorem Roster.Coherent.row_remove {r : Roster P} (h : r.Coherent) {n : Nat} {v : P}
    (hv : r.rows[n]? = some v) {w : P} (hkeep : (r.remove w).2.rowOf? v = some n) :
    (r.remove w).2.rows[n]? = some v := by
  cases hw : r.index[w]? with
  | none => rwa [remove_of_index_eq_none hw]
  | some i =>
    obtain ⟨y, hy, -⟩ := (h.index_eq_some_iff w i).1 hw
    have hi : i < r.rows.size := (Array.getElem?_eq_some_iff.1 hy).1
    obtain ⟨x, hx, hxv⟩ := ((h.remove w).rowOf?_eq_some_iff v n).1 hkeep
    rw [rows_remove_of_index_eq_some hw, getElem?_swapRemove hi] at hx ⊢
    by_cases hend : n = r.rows.size - 1
    · rw [if_pos hend] at hx
      cases hx
    · rw [if_neg hend] at hx ⊢
      by_cases hni : n = i
      · -- the last viewer would be equal to `v` and stand in another row
        rw [if_pos hni] at hx
        exact absurd (h.row_unique hv hx (BEq.symm hxv)) hend
      · rw [if_neg hni, hv]

/-- As long as a viewer keeps its row, the same handle stands there. -/
theorem Audience.Sound.row_apply {a : Audience P} (h : a.Sound) {n : Nat} {v : P}
    (hv : a.roster.rows[n]? = some v) (m : Mutation P)
    (hkeep : (a.apply m).audience.roster.rowOf? v = some n) :
    (a.apply m).audience.roster.rows[n]? = some v := by
  have hlt : n < a.roster.rows.size := (Array.getElem?_eq_some_iff.1 hv).1
  cases m with
  | add w =>
    show (a.addManual w).audience.roster.rows[n]? = some v
    rw [a.rows_addManual w]
    split
    · rw [Array.getElem?_push, if_neg (by omega), hv]
    · exact hv
  | remove w =>
    show (a.remove w).audience.roster.rows[n]? = some v
    have hkeep : (a.remove w).audience.roster.rowOf? v = some n := hkeep
    cases hm : a.isManual w with
    | true =>
      rw [Audience.remove_of_isManual h.coherent hm] at hkeep ⊢
      exact h.coherent.row_remove hv hkeep
    | false =>
      rw [Audience.remove_of_not_isManual hm]
      exact hv
  | update lists => exact hv

/-- The step neither removes `v` nor moves it to another row. -/
def Step.KeepsRow (v : P) (st : Step P) : Prop :=
  (st.before.step st.move).audience.roster.rowOf? v = st.before.audience.roster.rowOf? v

namespace Session

theorem row_step {s : Session P} (h : s.audience.Sound) {n : Nat} {v : P}
    (hv : s.audience.roster.rows[n]? = some v) {m : Move P} (hkeep : Step.KeepsRow v ⟨s, m⟩) :
    (s.step m).audience.roster.rows[n]? = some v := by
  rcases s.step_cases m with ⟨c, -, -, haud, -⟩ | ⟨-, haud, -⟩
  · have hrow : s.audience.roster.rowOf? v = some n :=
      (h.coherent.rowOf?_eq_some_iff v n).2 ⟨v, hv, BEq.rfl⟩
    have hkeep : (s.step m).audience.roster.rowOf? v = some n := hkeep.trans hrow
    rw [haud] at hkeep ⊢
    exact h.row_apply hv c hkeep
  · rw [haud]
    exact hv

/-- A viewer that keeps its row until the manual phase ends stands there at every move of that
phase. -/
theorem row_of_mem_history {t : Session P} (h : t.audience.Sound) {n : Nat} {v : P}
    (hv : t.audience.roster.rows[n]? = some v) {ms : List (Move P)}
    (hkeep : ∀ st ∈ t.history ms, st.before.traversal.cursor.isManual = true → st.KeepsRow v) :
    ∀ st ∈ t.history ms, st.before.traversal.cursor.isManual = true →
      st.before.audience.roster.rows[n]? = some v := by
  refine (history_invariant (I := fun sts s =>
    (∀ st ∈ sts, st.before.traversal.cursor.isManual = true → st.KeepsRow v) →
      s.audience.Sound ∧
      (s.traversal.cursor.isManual = true → s.audience.roster.rows[n]? = some v) ∧
      ∀ st ∈ sts, st.before.traversal.cursor.isManual = true →
        st.before.audience.roster.rows[n]? = some v)
    ?_ (fun _ => ⟨h, fun _ => hv, List.forall_mem_nil _⟩) ms hkeep).2.2
  intro sts s m ih hkeep
  rw [List.forall_mem_append, List.forall_mem_singleton] at hkeep
  obtain ⟨hsound, hrow, hold⟩ := ih hkeep.1
  refine ⟨s.sound_step hsound m, ?_, ?_⟩
  · intro hman
    have hman := isManual_of_isManual_step hman
    exact row_step hsound (hrow hman) (hkeep.2 hman)
  · rw [List.forall_mem_append, List.forall_mem_singleton]
    exact ⟨hold, hrow⟩

end Session

/-! ## Coming to a row -/

/-- A search does not go past a row that is ahead without finding the viewer there. -/
theorem Search.result_or_aheadOf_after {q : Search P} (h : q.audience.Sound) {n : Nat} {v : P}
    (hv : q.audience.roster.rows[n]? = some v) (hahead : (Spot.row n).AheadOf q.cursor) :
    q.result = some (.row n, v) ∨ (Spot.row n).AheadOf q.after := by
  obtain ⟨row, hc, hle⟩ := hahead
  have hn : n < q.audience.roster.rows.size := (Array.getElem?_eq_some_iff.1 hv).1
  have hrow : row < q.audience.roster.rows.size := Nat.lt_of_le_of_lt hle hn
  have hr : q.result = some (.row row, q.audience.roster.rows[row]) := by
    rw [result, hc, h.locate_manual row, Array.getElem?_eq_getElem hrow]
  by_cases hrn : row = n
  · left
    subst hrn
    rw [Array.getElem?_eq_getElem hrow] at hv
    rw [hr, Option.some.inj hv]
  · right
    rw [after_eq_of_result, hr]
    exact ⟨row + 1, rfl, by omega⟩

namespace Session

/-- A viewer in a row ahead is found there, or the row stays ahead. -/
theorem found_or_aheadOf {t : Session P} (h : t.audience.Sound) {n : Nat} {v : P}
    (hahead : (Spot.row n).AheadOf t.traversal.cursor) {ms : List (Move P)}
    (hrow : ∀ q ∈ t.searches ms, q.cursor.isManual = true →
      q.audience.roster.rows[n]? = some v) :
    (∃ q ∈ t.searches ms, q.result = some (.row n, v))
      ∨ (Spot.row n).AheadOf (t.after ms).traversal.cursor := by
  refine searches_invariant (I := fun qs c =>
    (∀ q ∈ qs, q.audience.Sound) →
    (∀ q ∈ qs, q.cursor.isManual = true → q.audience.roster.rows[n]? = some v) →
      (∃ q ∈ qs, q.result = some (.row n, v)) ∨ (Spot.row n).AheadOf c)
    ?_ (fun _ _ => .inr hahead) ms (fun q hq => sound_of_mem_searches h hq) hrow
  intro qs q ih hsound hrow
  rw [List.forall_mem_append, List.forall_mem_singleton] at hsound hrow
  rcases ih hsound.1 hrow.1 with ⟨q', hq', hr⟩ | hahead
  · exact .inl ⟨q', List.mem_append_left _ hq', hr⟩
  · have hman : q.cursor.isManual = true := by
      obtain ⟨row, hc, -⟩ := hahead
      rw [hc]
      rfl
    rcases Search.result_or_aheadOf_after hsound.2 (hrow.2 hman) hahead with hr | hafter
    · exact .inl ⟨q, List.mem_append_right _ (List.mem_singleton_self q), hr⟩
    · exact .inr hafter

/-- **Who joins during the manual phase.** A viewer joins while the cursor is among the rows and keeps
its row until the search that leaves them. That phase finds it exactly if the cursor had not gone
further than the number of rows. It cannot have gone further unless a removal freed a row below it. -/
theorem appended_found_iff {a : Audience P} (ha : a.Reachable) (ms ms' : List (Move P)) {v : P}
    {row : Nat} :
    let s := (start a).after ms
    let t := s.step (.mutate (.add v))
    s.traversal.cursor = .manual row →
    (s.audience.apply (.add v)).accepted = true →
    (∀ st ∈ t.history ms', st.before.traversal.cursor.isManual = true → st.KeepsRow v) →
    (∃ q ∈ t.searches ms', q.leavesRows = true) →
    ((∃ q ∈ t.searches ms', q.rowFind? = some v) ↔ row ≤ s.audience.roster.size) ∧
    ((Ledger.ofHistory ((start a).history ms)).undercuts = 0 → row ≤ s.audience.roster.size) := by
  intro s t hcur hacc hkeep hend
  have haccounts := Ledger.accounts_ofHistory ha.sound ms
  have hsound : t.audience.Sound := s.sound_step haccounts.sound (.mutate (.add v))
  have hv : t.audience.roster.rows[s.audience.roster.size]? = some v := by
    show (s.audience.addManual v).audience.roster.rows[s.audience.roster.rows.size]? = some v
    have hacc : (s.audience.addManual v).accepted = true := hacc
    rw [s.audience.rows_addManual v, if_pos hacc, Array.getElem?_push_size]
  have hrows : ∀ q ∈ t.searches ms', q.cursor.isManual = true →
      q.audience.roster.rows[s.audience.roster.size]? = some v := by
    intro q hq hman
    obtain ⟨st, hst, hq⟩ := List.mem_filterMap.1 hq
    obtain rfl := search?_eq_some hq
    exact row_of_mem_history hsound hv hkeep st hst hman
  refine ⟨⟨?_, ?_⟩, ?_⟩
  · rintro ⟨q, hq, hfind⟩
    have hqs := sound_of_mem_searches hsound hq
    obtain ⟨i, hc, hi, -⟩ := Search.of_rowFind?_eq_some hqs hfind
    have hn := hrows q hq (by rw [hc]; rfl)
    obtain rfl := hqs.coherent.row_unique hi hn BEq.rfl
    obtain ⟨row', hc', hle⟩ := (aheadOf_of_mem_searches hq (.row _)).1 ⟨_, hc, Nat.le_refl _⟩
    obtain rfl : row = row' := Cursor.manual.inj (hcur.symm.trans hc')
    exact hle
  · intro hle
    rcases found_or_aheadOf hsound ⟨row, hcur, hle⟩ hrows with ⟨q, hq, hr⟩ | hahead
    · exact ⟨q, hq, by rw [Search.rowFind?, hr]⟩
    · -- the search that leaves the rows leaves none of them ahead
      obtain ⟨q, hq, hleave⟩ := hend
      obtain ⟨row', hafter, -⟩ := (aheadOf_of_mem_searches hq _).2 hahead
      simp [Search.leavesRows, hafter, Cursor.isManual] at hleave
  · intro hzero
    have hle := (haccounts.follows row hcur).unseen_le
    rw [hzero] at hle
    unfold unseen at hle
    have hlen : ((start a).after ms).audience.roster.rows.toList.length
        = s.audience.roster.size := rfl
    omega

/-- A viewer joins when the cursor is at the end of the rows, and it is found there. -/
theorem appended_found_at_cursor :
    let a : Audience Keyed :=
      ((Audience.create none 0).run [.add ⟨1, "a"⟩, .add ⟨2, "b"⟩]).audience
    let s := (start a).after [.next, .mutate (.remove ⟨2, "x"⟩)]
    let t := s.step (.mutate (.add ⟨3, "c"⟩))
    s.traversal.cursor = .manual 1 ∧
    (s.audience.apply (.add ⟨3, "c"⟩)).accepted = true ∧
    (∀ st ∈ t.history [.hasNext, .next, .next], st.KeepsRow ⟨3, "c"⟩) ∧
    (∃ q ∈ t.searches [.hasNext, .next, .next], q.leavesRows = true) ∧
    ∃ q ∈ t.searches [.hasNext, .next, .next], q.rowFind? = some ⟨3, "c"⟩ := by
  intro a s t
  have ha : a =
      { ownViewer := none
        roster :=
          { rows := #[⟨1, "a"⟩, ⟨2, "b"⟩]
            index := ((Std.ExtHashMap.emptyWithCapacity 0).insert ⟨1, "a"⟩ 0).insert ⟨2, "b"⟩ 1 }
        exceptions := ∅
        lists := none } := by
    simp [a, Audience.run, Audience.apply, Audience.addManual, Audience.create, Audience.isSelf,
      Roster.insert, Roster.emptyWithCapacity]
  have hs : s =
      { audience :=
          { ownViewer := none
            roster :=
              { rows := #[⟨1, "a"⟩]
                index := ((Std.ExtHashMap.insert ∅ ⟨1, "a"⟩ 0).insert ⟨2, "b"⟩ 1).erase ⟨2, "x"⟩ }
            exceptions := ∅
            lists := none }
        traversal := { cursor := .manual 1, pending := none } } := by
    simp [s, ha, after, step, start, Traversal.start, Traversal.next, Audience.advance,
      Audience.locate, Audience.apply, Audience.remove, Audience.isSelf, Roster.isEmpty,
      Roster.remove, firstFrom?, swapRemove, Spot.next, Std.ExtHashMap.getElem_insert]
  have hcursor : s.traversal.cursor = .manual 1 := by rw [hs]
  have haccepted : (s.audience.apply (.add ⟨3, "c"⟩)).accepted = true := by
    simp [hs, Audience.apply, Audience.accepted_addManual, Audience.isSelf, Audience.isManual,
      Roster.contains_eq_index]
  have ht : t.traversal = { cursor := .manual 1, pending := none }
      ∧ t.audience.roster.rows = #[⟨1, "a"⟩, ⟨3, "c"⟩] ∧ t.audience.ownViewer = none
      ∧ t.audience.lists = none := by
    simp [t, hs, step, Audience.apply, Audience.addManual, Audience.isSelf, Roster.insert]
  have h1 : t.audience.locate (.manual 1) = some (.row 1, ⟨3, "c"⟩) := by
    simp [ht, Audience.locate, Audience.isSelf, firstFrom?]
  have h2 : t.audience.locate (.manual 2) = none := by
    simp [ht, Audience.locate, Audience.locateEntry, Audience.candidates, firstFrom?,
      firstFromNested?]
  have hsearches : t.searches [.hasNext, .next, .next]
      = [⟨t.audience, .manual 1⟩, ⟨t.audience, .manual 2⟩] := by
    simp [searches, history, step, Step.search?, List.filterMap_cons, Traversal.hasNext,
      Traversal.next, Audience.advance, Spot.next, ht, h1]
  have hkeep : ∀ st ∈ t.history [.hasNext, .next, .next], st.KeepsRow ⟨3, "c"⟩ := by
    simp [history, Step.KeepsRow, step]
  have hend : ∃ q ∈ t.searches [.hasNext, .next, .next], q.leavesRows = true := by
    simp [hsearches, Search.leavesRows, Search.after, Audience.advance, h2, Cursor.isManual]
  have hreach : a.Reachable := Audience.reachable_run_create none 0 _
  have hfound := appended_found_iff hreach _ _ hcursor haccepted (fun st hst _ => hkeep st hst) hend
  refine ⟨hcursor, haccepted, hkeep, hend, hfound.1.2 ?_⟩
  show 1 ≤ s.audience.roster.rows.size
  simp [hs]

/-- The only viewer is found and removed, and the next to join takes its row under the cursor. Nobody
moves, the manual phase still lasts, and yet it ends without finding anybody. -/
theorem appended_below_cursor_missed :
    let a : Audience UInt32 := ((Audience.create none 0).run [.add 1]).audience
    let s := (start a).after [.next, .mutate (.remove 1)]
    let t := s.step (.mutate (.add 2))
    a.Reachable ∧ s.traversal.cursor = .manual 1 ∧
    (s.audience.apply (.add 2)).accepted = true ∧
    (∀ st ∈ t.history [.next], st.KeepsRow 2) ∧
    (∃ q ∈ t.searches [.next], q.leavesRows = true) ∧
    ¬ ∃ q ∈ t.searches [.next], q.rowFind? = some 2 := by
  intro a s t
  have ha : a =
      { ownViewer := none
        roster := { rows := #[1], index := (Std.ExtHashMap.emptyWithCapacity 0).insert 1 0 }
        exceptions := ∅
        lists := none } := by
    simp [a, Audience.run, Audience.apply, Audience.addManual, Audience.create, Audience.isSelf,
      Roster.insert, Roster.emptyWithCapacity]
  have hs : s =
      { audience :=
          { ownViewer := none
            roster := { rows := #[], index := (Std.ExtHashMap.insert ∅ 1 0).erase 1 }
            exceptions := ∅
            lists := none }
        traversal := { cursor := .manual 1, pending := none } } := by
    simp [s, ha, after, step, start, Traversal.start, Traversal.next, Audience.advance,
      Audience.locate, Audience.apply, Audience.remove, Audience.isSelf, Roster.isEmpty,
      Roster.remove, firstFrom?, swapRemove, Spot.next]
  have haccepted : (s.audience.apply (.add 2)).accepted = true := by
    simp [hs, Audience.apply, Audience.accepted_addManual, Audience.isSelf, Audience.isManual,
      Roster.contains_eq_index]
  have ht : t.traversal = { cursor := .manual 1, pending := none }
      ∧ t.audience.roster.rows = #[2] ∧ t.audience.lists = none := by
    simp [t, hs, step, Audience.apply, Audience.addManual, Audience.isSelf, Roster.insert]
  have hlocate : t.audience.locate (.manual 1) = none := by
    simp [ht, Audience.locate, Audience.locateEntry, Audience.candidates, firstFrom?,
      firstFromNested?]
  have hsearches : t.searches [.next] = [⟨t.audience, .manual 1⟩] := by
    simp [searches, history, Step.search?, ht]
  refine ⟨Audience.reachable_run_create none 0 _, by rw [hs], haccepted, ?_, ?_, ?_⟩
  · simp [history, Step.KeepsRow, step]
  · simp [hsearches, Search.leavesRows, Search.after, Audience.advance, hlocate, Cursor.isManual]
  · simp [hsearches, Search.rowFind?, Search.result, hlocate]

end Session

end Viewership
