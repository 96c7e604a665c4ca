/-
# Viewership.Proofs.Session.AutoPhase -- candidates that are met although everything else may change

Past the manual rows a traversal keeps only a pair of numbers, and the candidate lists may be
replaced and viewers excluded between its searches. A candidate that stands in its place and is
admitted at every search of the lists is nevertheless found, and once only: no search goes past its
place without stopping there, and no search comes back. So a place is either still ahead of the
cursor or was found once, and at the end nothing is ahead.

While the lists stay the same more can be said. The entries found and those still ahead are
together the lists, as far as the entries that were admitted all the time are concerned.
-/
import Viewership.Handle
import Viewership.Proofs.Session.Basic

namespace Viewership

universe u

variable {P : Type u} [Viewer P]

/-! ## One search and one place -/

/-- What lies ahead of a cursor as far as something ahead of it does. -/
theorem Cursor.Ahead.trans {c : Cursor} {l p list pos : Nat} (h : c.Ahead l p)
    (hle : l < list ∨ l = list ∧ p ≤ pos) : c.Ahead list pos := by
  cases c with
  | manual row => trivial
  | auto l' p' =>
    have h : l' < l ∨ l' = l ∧ p' ≤ p := h
    show l' < list ∨ l' = list ∧ p' ≤ pos
    omega
  | exhausted => exact absurd h id

namespace Search

/-- Whether the search finds the candidate at entry `pos` of list `list`. -/
def findsAt (q : Search P) (list pos : Nat) : Bool := q.result.any (·.1 == .entry list pos)

/-- At this search entry `pos` of list `list` is equal to `x`, and `x` is neither the entity itself
nor excluded. -/
def Offers (q : Search P) (list pos : Nat) (x : P) : Prop :=
  (∃ y, q.audience.candidate? list pos = some y ∧ (y == x) = true)
    ∧ q.audience.isSelf x = false ∧ q.audience.isExcluded x = false

variable {q : Search P} {list pos : Nat}

theorem findsAt_iff : q.findsAt list pos = true ↔ ∃ v, q.result = some (.entry list pos, v) := by
  unfold findsAt
  rcases q.result with _ | ⟨spot, v⟩ <;> simp

theorem not_ahead_after_of_findsAt (h : q.findsAt list pos = true) :
    ¬ q.after.Ahead list pos := by
  obtain ⟨v, hr⟩ := findsAt_iff.1 h
  rw [after_eq_of_result, hr]
  show ¬ (Spot.entry list pos).next.Ahead list pos
  rw [Spot.ahead_next_entry_iff]
  omega

/-- No search comes back to a place that was passed. -/
theorem ahead_of_ahead_after (h : q.after.Ahead list pos) : q.cursor.Ahead list pos := by
  rw [after_eq_of_result] at h
  rcases hr : q.result with _ | ⟨i | ⟨l, p⟩, v⟩
  · rw [hr] at h
    exact absurd h id
  · obtain ⟨row, hc, -⟩ := Audience.of_locate_eq_row hr
    rw [hc]
    trivial
  · rw [hr] at h
    have hlt := (Spot.ahead_next_entry_iff l p list pos).1 h
    refine (Audience.of_locate_eq_entry hr).1.trans ?_
    omega

theorem ahead_of_findsAt (h : q.findsAt list pos = true) : q.cursor.Ahead list pos := by
  obtain ⟨v, hr⟩ := findsAt_iff.1 h
  exact (Audience.of_locate_eq_entry hr).1

theorem readsLists_of_findsAt (h : q.findsAt list pos = true) : q.readsLists = true := by
  obtain ⟨v, hr⟩ := findsAt_iff.1 h
  have hc : q.cursor ≠ .exhausted := by
    intro hc
    rw [result, hc] at hr
    cases hr
  simp [readsLists, hc, after_eq_of_result, hr, Spot.next, Cursor.isManual]

/-- A place on offer that lies ahead is found, or it is still ahead after the search. -/
theorem ahead_after_of_offers {x : P} (hc : q.cursor.Ahead list pos)
    (hoff : q.readsLists = true → q.Offers list pos x) (hf : q.findsAt list pos = false) :
    q.result ≠ none ∧ q.after.Ahead list pos := by
  cases hread : q.readsLists with
  | false =>
    have hne : q.cursor ≠ .exhausted := by
      intro hex
      rw [hex] at hc
      exact hc
    -- the search stays among the rows
    have hman : q.after.isManual = true := by
      simpa [readsLists, hne] using hread
    rw [after_eq_of_result] at hman ⊢
    rcases hr : q.result with _ | ⟨i | ⟨l, p⟩, v⟩
    · rw [hr] at hman
      cases hman
    · exact ⟨by simp, trivial⟩
    · rw [hr] at hman
      cases hman
  | true =>
    obtain ⟨⟨y, hy, hyx⟩, hself, hexc⟩ := hoff hread
    have hadm : q.audience.admits y = true := by
      rw [q.audience.admits_congr hyx, Audience.admits_iff]
      exact ⟨hself, hexc⟩
    obtain ⟨spot, v, hr, hle⟩ := Audience.exists_locate_of_ahead hc hy hadm
    have hr : q.result = some (spot, v) := hr
    rw [after_eq_of_result, hr]
    refine ⟨by simp, ?_⟩
    cases spot with
    | row i => trivial
    | entry l p =>
      have hne : ¬ (l = list ∧ p = pos) := by
        rintro ⟨rfl, rfl⟩
        rw [findsAt_iff.2 ⟨v, hr⟩] at hf
        cases hf
      have hle := hle l p rfl
      show (Spot.entry l p).next.Ahead list pos
      rw [Spot.ahead_next_entry_iff]
      omega

end Search

/-! ## A place over a whole run -/

namespace Session

/-- A place that is on offer at every search of the lists is ahead of the cursor and was not found,
or it was found once and is passed. -/
theorem found_once_or_ahead (a : Audience P) (ms : List (Move P)) {list pos : Nat} {x : P}
    (hoff : ∀ q ∈ (start a).searches ms, q.readsLists = true → q.Offers list pos x) :
    (((start a).after ms).traversal.cursor.Ahead list pos
        ∧ ∀ q ∈ (start a).searches ms, q.result ≠ none)
      ∨ ∃ q, ((start a).searches ms).filter (·.findsAt list pos) = [q] := by
  have hinv := searches_invariant
    (I := fun qs c => (∀ q ∈ qs, q.readsLists = true → q.Offers list pos x) →
      (c.Ahead list pos ∧ qs.filter (·.findsAt list pos) = [] ∧ ∀ q ∈ qs, q.result ≠ none)
      ∨ (¬ c.Ahead list pos ∧ ∃ q, qs.filter (·.findsAt list pos) = [q]))
    (s := start a) ?_ ?_ ms
  · rcases hinv hoff with ⟨hc, -, hne⟩ | ⟨-, hq⟩
    · exact .inl ⟨hc, hne⟩
    · exact .inr hq
  · intro qs q ih hoff
    simp only [List.forall_mem_append, List.forall_mem_singleton] at hoff
    rw [List.filter_append]
    cases hf : q.findsAt list pos with
    | true =>
      have hpast := q.not_ahead_after_of_findsAt hf
      rcases ih hoff.1 with ⟨-, hnil, -⟩ | ⟨hc, -⟩
      · exact .inr ⟨hpast, q, by simp [hnil, hf]⟩
      · exact absurd (Search.ahead_of_findsAt hf) hc
    | false =>
      rcases ih hoff.1 with ⟨hc, hnil, hne⟩ | ⟨hc, q', hq'⟩
      · obtain ⟨hres, hafter⟩ := Search.ahead_after_of_offers hc hoff.2 hf
        refine .inl ⟨hafter, by simp [hnil, hf], ?_⟩
        simpa only [List.forall_mem_append, List.forall_mem_singleton] using ⟨hne, hres⟩
      · exact .inr ⟨fun h => hc (Search.ahead_of_ahead_after h), q', by simp [hq', hf]⟩
  · intro _
    exact .inl ⟨trivial, rfl, fun q hq => by cases hq⟩

end Session

/-! ## Lists that stay the same -/

/-- The entries of some candidate lists that a cursor has not passed. -/
def Cursor.entriesAhead (lists : CandidateLists P) : Cursor → List P
  | .manual _ => entriesFrom lists 0 0
  | .auto list pos => entriesFrom lists list pos
  | .exhausted => []

namespace Search

variable {q : Search P}

/-- A search that does not read the lists leaves all of them ahead, or none if it is made after the
end. -/
theorem entriesAhead_of_not_readsLists (h : q.readsLists = false) (lists : CandidateLists P) :
    q.entryFind? = none ∧ q.after.entriesAhead lists = q.cursor.entriesAhead lists := by
  rcases hr : q.result with _ | ⟨i | ⟨l, p⟩, v⟩
  · have hc : q.cursor = .exhausted := by
      simpa [readsLists, after_eq_of_result, hr, Cursor.isManual] using h
    rw [entryFind?, after_eq_of_result, hr, hc]
    exact ⟨rfl, rfl⟩
  · obtain ⟨row, hc, -⟩ := Audience.of_locate_eq_row hr
    rw [entryFind?, after_eq_of_result, hr, hc]
    exact ⟨rfl, rfl⟩
  · have hfinds : q.findsAt l p = true := findsAt_iff.2 ⟨v, hr⟩
    rw [readsLists_of_findsAt hfinds] at h
    cases h

/-- A search of the lists looks for the first admitted entry ahead. -/
theorem result_of_readsLists (h : q.readsLists = true) :
    ∃ list pos, q.result = q.audience.locateEntry list pos
      ∧ ∀ lists : CandidateLists P, q.cursor.entriesAhead lists = entriesFrom lists list pos := by
  obtain ⟨hne, hman⟩ := Bool.and_eq_true_iff.1 h
  cases hc : q.cursor with
  | manual row =>
    refine ⟨0, 0, ?_, fun _ => rfl⟩
    rw [result, hc, Audience.locate]
    cases hf : firstFrom? (!q.audience.isSelf ·) q.audience.roster.rows row with
    | none => rfl
    | some found =>
      -- a find among the rows would leave the cursor there
      have hr : q.result = some (.row found.1, found.2) := by
        rw [result, hc, Audience.locate, hf]
      rw [after_eq_of_result, hr] at hman
      cases hman
  | auto list pos => exact ⟨list, pos, by rw [result, hc]; rfl, fun _ => rfl⟩
  | exhausted =>
    rw [hc] at hne
    cases hne

/-- A search takes the first of the entries ahead that it admits. Nothing in `keep` is passed over if
all of it is admitted. -/
theorem filter_entriesAhead {keep : P → Bool} {lists : CandidateLists P}
    (h : q.readsLists = true →
      q.audience.candidates = lists ∧ ∀ x, keep x = true → q.audience.admits x = true) :
    (q.cursor.entriesAhead lists).filter keep
      = q.entryFind?.toList.filter keep ++ (q.after.entriesAhead lists).filter keep := by
  cases hread : q.readsLists with
  | false =>
    obtain ⟨hnone, hahead⟩ := entriesAhead_of_not_readsLists hread lists
    rw [hnone, hahead]
    rfl
  | true =>
    obtain ⟨rfl, hkeep⟩ := h hread
    obtain ⟨list, pos, hr, hahead⟩ := result_of_readsLists hread
    have hsub (xs : List P) : (xs.filter q.audience.admits).filter keep = xs.filter keep := by
      rw [List.filter_filter]
      apply List.filter_congr
      intro x _
      cases hk : keep x with
      | false => rfl
      | true => rw [hkeep x hk]; rfl
    have hentries := Cursor.filter_entriesFrom_eq_of_locateEntry q.audience list pos
    rw [hahead, ← hsub, hentries, entryFind?, after_eq_of_result, hr]
    rcases hloc : q.audience.locateEntry list pos with _ | ⟨spot, v⟩
    · rfl
    · obtain ⟨l, p, rfl, -⟩ := Audience.of_locateEntry_eq_some hloc
      simp only [Option.elim_some, Option.toList_some, Spot.next, Cursor.remaining,
        Cursor.entriesAhead]
      rw [List.filter_cons, List.filter_cons, hsub]
      split <;> rfl

end Search

namespace Session

/-- As far as `keep` goes, the entries found and those ahead are together the lists. -/
theorem filter_entries_found_append_ahead (a : Audience P) (ms : List (Move P)) {keep : P → Bool}
    {lists : CandidateLists P}
    (h : ∀ q ∈ (start a).searches ms, q.readsLists = true →
      q.audience.candidates = lists ∧ ∀ x, keep x = true → q.audience.admits x = true) :
    (((start a).searches ms).filterMap Search.entryFind?).filter keep
        ++ (((start a).after ms).traversal.cursor.entriesAhead lists).filter keep
      = (lists.toList.flatMap Array.toList).filter keep := by
  refine searches_invariant
    (I := fun qs c => (∀ q ∈ qs, q.readsLists = true →
        q.audience.candidates = lists ∧ ∀ x, keep x = true → q.audience.admits x = true) →
      (qs.filterMap Search.entryFind?).filter keep ++ (c.entriesAhead lists).filter keep
        = (lists.toList.flatMap Array.toList).filter keep)
    ?_ ?_ ms h
  · intro qs q ih h
    simp only [List.forall_mem_append, List.forall_mem_singleton] at h
    rw [← ih h.1, Search.filter_entriesAhead h.2, filterMap_append_singleton, List.filter_append,
      List.append_assoc]
  · intro _
    show (entriesFrom lists 0 0).filter keep = _
    rw [entriesFrom_zero]

/-- Whether `x` was admitted at every search of the lists. -/
def admittedThroughout (qs : List (Search P)) (x : P) : Bool :=
  qs.all fun q => !q.readsLists || q.audience.admits x

/-- **The candidates in a traversal.** Let a run have come to the end of its traversal. A candidate
that stood at its place and was admitted at every search of the lists was found there by exactly one
search, and it was handed out by the step that made this search, or kept by it and handed out
later. If the lists were the same at all these searches, those handed out are the viewers found in
manual rows and then those found in the lists, and as far as they were admitted throughout, the
latter are the entries of the lists in order, each as often as it stands there. -/
theorem auto_phase (a : Audience P) (ms : List (Move P))
    (hend : ∃ q ∈ (start a).searches ms, q.result = none) :
    let qs := (start a).searches ms
    (∀ list pos x, (∀ q ∈ qs, q.readsLists = true → q.Offers list pos x) →
      ∃ q y, qs.filter (·.findsAt list pos) = [q] ∧ q.found? = some y
        ∧ q.audience.candidate? list pos = some y ∧ (y == x) = true
        ∧ (∃ st ∈ (start a).history ms, st.search? = some q ∧ st.Yields y)
        ∧ y ∈ (start a).handedOut ms) ∧
    (∀ lists, (∀ q ∈ qs, q.readsLists = true → q.audience.candidates = lists) →
      (start a).handedOut ms = qs.filterMap Search.rowFind? ++ qs.filterMap Search.entryFind? ∧
      (qs.filterMap Search.entryFind?).filter (admittedThroughout qs)
        = (lists.toList.flatMap Array.toList).filter (admittedThroughout qs)) := by
  intro qs
  constructor
  · intro list pos x hoff
    rcases found_once_or_ahead a ms hoff with ⟨-, hne⟩ | ⟨q, hq⟩
    · obtain ⟨q, hq, hr⟩ := hend
      exact absurd hr (hne q hq)
    · have hmem : q ∈ qs.filter (·.findsAt list pos) := by
        rw [hq]
        exact List.mem_singleton_self q
      obtain ⟨hqs, hfinds⟩ := List.mem_filter.1 hmem
      obtain ⟨⟨y, hy, hyx⟩, -⟩ := hoff q hqs (Search.readsLists_of_findsAt hfinds)
      obtain ⟨v, hr⟩ := Search.findsAt_iff.1 hfinds
      obtain ⟨-, hv, -⟩ := Audience.of_locate_eq_entry hr
      obtain rfl : v = y := Option.some.inj (hv.symm.trans hy)
      have hfound : q.found? = some v := by
        rw [q.found?_eq_map_result, hr]
        rfl
      refine ⟨q, v, hq, hfound, hy, hyx, ?_, ?_⟩
      · obtain ⟨st, hst, hsearch⟩ := List.mem_filterMap.1 hqs
        exact ⟨st, hst, hsearch, yields_of_found? hsearch hfound⟩
      · rw [handedOut_eq_of_result_eq_none hend]
        exact List.mem_filterMap.2 ⟨q, hqs, hfound⟩
  · intro lists hlists
    refine ⟨by rw [handedOut_eq_of_result_eq_none hend, filterMap_found?_searches], ?_⟩
    have hkeep : ∀ q ∈ qs, q.readsLists = true →
        q.audience.candidates = lists ∧
          ∀ x, admittedThroughout qs x = true → q.audience.admits x = true := by
      intro q hq hread
      refine ⟨hlists q hq hread, ?_⟩
      intro x hx
      simpa [hread] using List.all_eq_true.1 hx q hq
    have hsplit := filter_entries_found_append_ahead a ms hkeep
    rw [traversal_after_of_result_eq_none hend] at hsplit
    rw [← hsplit]
    exact (List.append_nil _).symm

/-- After the first candidate the lists are replaced and the last of the new entries is excluded. The
viewer with identity 3 keeps its place in the first list, under another handle. -/
theorem auto_phase_replaced :
    let a : Audience Keyed := ((Audience.create none 0).run
      [.add ⟨1, "a"⟩, .update (some #[#[⟨2, "b"⟩, ⟨3, "c"⟩], #[⟨4, "d"⟩]])]).audience
    let replace : Mutation Keyed := .update (some #[#[⟨7, "g"⟩, ⟨3, "x"⟩, ⟨8, "h"⟩]])
    let exclude : Mutation Keyed := .remove ⟨8, "h"⟩
    let ms := [.next, .next, .mutate replace, .mutate exclude, .hasNext, .next, .hasNext]
    let qs := (start a).searches ms
    (∃ q ∈ qs, q.result = none) ∧
    (∀ q ∈ qs, q.readsLists = true → q.Offers 0 1 ⟨3, "y"⟩) ∧
    ∃ q y, qs.filter (·.findsAt 0 1) = [q] ∧ q.found? = some y
      ∧ q.audience.candidate? 0 1 = some y ∧ (y == ⟨3, "y"⟩) = true
      ∧ (∃ st ∈ (start a).history ms, st.search? = some q ∧ st.Yields y)
      ∧ y ∈ (start a).handedOut ms := by
  intro a replace exclude ms qs
  have ha : a =
      { ownViewer := none
        roster :=
          { rows := #[⟨1, "a"⟩], index := (Std.ExtHashMap.emptyWithCapacity 0).insert ⟨1, "a"⟩ 0 }
        exceptions := ∅
        lists := some #[#[⟨2, "b"⟩, ⟨3, "c"⟩], #[⟨4, "d"⟩]] } := by
    simp [a, Audience.run, Audience.apply, Audience.addManual, Audience.updateLists,
      Audience.create, Audience.isSelf, Roster.insert, Roster.emptyWithCapacity]
  obtain ⟨b, hb⟩ : ∃ b, b = ((a.apply replace).audience.apply exclude).audience := ⟨_, rfl⟩
  have hb' : b =
      { a with
        exceptions := Std.ExtHashSet.insert ∅ ⟨8, "h"⟩
        lists := some #[#[⟨7, "g"⟩, ⟨3, "x"⟩, ⟨8, "h"⟩]] } := by
    simp [hb, ha, replace, exclude, Audience.apply, Audience.updateLists, Audience.remove,
      Roster.remove]
  -- from here on the two audiences are known by these equations only
  clear_value a
  have h0 : a.locate (.manual 0) = some (.row 0, ⟨1, "a"⟩) := by
    simp [ha, Audience.locate, Audience.isSelf, firstFrom?]
  have h1 : a.locate (.manual 1) = some (.entry 0 0, ⟨2, "b"⟩) := by
    simp [ha, Audience.locate, Audience.locateEntry, Audience.candidates, Audience.admits_eq,
      Audience.isSelf, Audience.isExcluded, firstFrom?, firstFromNested?]
  have h2 : b.locate (.auto 0 1) = some (.entry 0 1, ⟨3, "x"⟩) := by
    simp [hb', ha, Audience.locate, Audience.locateEntry, Audience.candidates, Audience.admits_eq,
      Audience.isSelf, Audience.isExcluded, firstFrom?, firstFromNested?,
      Std.ExtHashSet.contains_insert]
  have h3 : b.locate (.auto 0 2) = none := by
    simp [hb', ha, Audience.locate, Audience.locateEntry, Audience.candidates, Audience.admits_eq,
      Audience.isSelf, Audience.isExcluded, firstFrom?, firstFromNested?,
      Std.ExtHashSet.contains_insert]
  have hqs : qs = [⟨a, .manual 0⟩, ⟨a, .manual 1⟩, ⟨b, .auto 0 1⟩, ⟨b, .auto 0 2⟩] := by
    simp [qs, ms, searches, history, step, start, Step.search?, List.filterMap_cons, Traversal.start,
      Traversal.next, Traversal.hasNext, Audience.advance, Spot.next, ← hb, h0, h1, h2]
  have hend : ∃ q ∈ qs, q.result = none := by
    simp [hqs, Search.result, h3]
  have hoff : ∀ q ∈ qs, q.readsLists = true → q.Offers 0 1 ⟨3, "y"⟩ := by
    simp [hqs, hb', ha, Search.readsLists, Search.Offers, Search.after, Cursor.isManual,
      Audience.candidate?, Audience.candidates, Audience.isSelf, Audience.isExcluded,
      Std.ExtHashSet.contains_insert, Audience.advance, Spot.next]
  exact ⟨hend, hoff, (auto_phase a _ hend).1 0 1 ⟨3, "y"⟩ hoff⟩

end Session

end Viewership
