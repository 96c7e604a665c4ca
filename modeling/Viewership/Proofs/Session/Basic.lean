/-
# Viewership.Proofs.Session.Basic -- a traversal under way while its audience changes

A session is an audience with one traversal through it. Its moves come in any order: the audience is
changed, the traversal looks whether another viewer follows, or it goes on to the next one. Nothing
is assumed about who makes which move, so a statement about all lists of moves is one about all
interleavings.

What a run of moves did is its `history`, the moves together with the session each was made in. A
move searches the audience unless it is a change or a viewer was kept before; `searches` are the
searches of a run, each with the audience and the cursor it had, and most statements about sessions
are about them alone. `step_cases` says all that a move can do, and `history_invariant` is the one
induction over runs.
-/
import Viewership.Audience.Mutation
import Viewership.Proofs.Traversal.Search
import Viewership.Traversal.Basic

namespace Viewership

universe u v

/-- What can happen to a session. -/
inductive Move (P : Type u) where
  /-- The audience is changed. -/
  | mutate (m : Mutation P)
  /-- The traversal looks whether another viewer follows. -/
  | hasNext
  /-- The traversal goes on to the next viewer. -/
  | next

/-- An audience, and a traversal through it under way. -/
structure Session (P : Type u) [Viewer P] where
  audience : Audience P
  traversal : Traversal P

/-- A move, with the session it is made in. -/
structure Step (P : Type u) [Viewer P] where
  before : Session P
  move : Move P

/-- A search that a traversal makes: the audience at that moment, and where it begins. -/
structure Search (P : Type u) [Viewer P] where
  audience : Audience P
  cursor : Cursor

variable {P : Type u} [Viewer P]

/-! ## Searches -/

/-- Whether a cursor stands at the manual rows. -/
def Cursor.isManual : Cursor → Bool
  | .manual _ => true
  | .auto _ _ => false
  | .exhausted => false

namespace Search

/-- The spot at which the search finds a viewer, and that viewer. -/
def result (q : Search P) : Option (Spot × P) := q.audience.locate q.cursor

/-- The viewer that the search returns. -/
def found? (q : Search P) : Option P := (q.audience.advance q.cursor).1

/-- Where the next search begins. -/
def after (q : Search P) : Cursor := (q.audience.advance q.cursor).2

/-- Whether the search is the one that goes on from the manual rows to the candidate lists. -/
def leavesRows (q : Search P) : Bool := q.cursor.isManual && !q.after.isManual

/-- Whether the search looks at the candidate lists: the one that leaves the rows does, and every
later one up to the one that reports the end. -/
def readsLists (q : Search P) : Bool := q.cursor != .exhausted && !q.after.isManual

/-- The viewer found in a manual row. -/
def rowFind? (q : Search P) : Option P :=
  match q.result with
  | some (.row _, v) => some v
  | _ => none

/-- The viewer found in a candidate list. -/
def entryFind? (q : Search P) : Option P :=
  match q.result with
  | some (.entry _ _, v) => some v
  | _ => none

theorem found?_eq_map_result (q : Search P) : q.found? = q.result.map (·.2) := by
  unfold found? result Audience.advance
  rcases q.audience.locate q.cursor with _ | ⟨spot, v⟩ <;> rfl

theorem after_eq_of_result (q : Search P) :
    q.after = q.result.elim .exhausted (·.1.next) := by
  unfold after result Audience.advance
  rcases q.audience.locate q.cursor with _ | ⟨spot, v⟩ <;> rfl

theorem found?_of_rowFind? {q : Search P} {v : P} (h : q.rowFind? = some v) :
    q.found? = some v := by
  rw [found?_eq_map_result]
  unfold rowFind? at h
  rcases hr : q.result with _ | ⟨_ | _, w⟩ <;> simp_all

/-- A search leaves its cursor among the rows exactly when it found somebody there. -/
theorem isManual_after (q : Search P) : q.after.isManual = q.rowFind?.isSome := by
  rw [after_eq_of_result]
  unfold rowFind?
  rcases q.result with _ | ⟨_ | _, v⟩ <;> rfl

/-- In a sound audience a find among the rows is the viewer in the cursor's row. -/
theorem of_rowFind?_eq_some {q : Search P} (h : q.audience.Sound) {v : P}
    (hf : q.rowFind? = some v) :
    ∃ row, q.cursor = .manual row ∧ q.audience.roster.rows[row]? = some v
      ∧ q.after = .manual (row + 1) := by
  have hres : ∃ i, q.result = some (.row i, v) := by
    unfold rowFind? at hf
    split at hf
    · next i w hr => exact ⟨i, by rw [hr, Option.some.inj hf]⟩
    · cases hf
  obtain ⟨i, hi⟩ := hres
  obtain ⟨row, hc, hle, hrow, -⟩ := Audience.of_locate_eq_row hi
  have hloc := h.locate_manual row
  rw [← hc] at hloc
  rw [show q.audience.locate q.cursor = some (.row i, v) from hi] at hloc
  split at hloc
  · next w hw =>
    simp only [Option.some.injEq, Prod.mk.injEq, Spot.row.injEq] at hloc
    obtain ⟨rfl, rfl⟩ := hloc
    exact ⟨i, hc, hrow, by rw [after_eq_of_result, hi]; rfl⟩
  · obtain ⟨l, p, hspot, -⟩ := Audience.of_locateEntry_eq_some hloc.symm
    cases hspot

/-- In a sound audience the search that leaves the rows is made past the last of them. -/
theorem exists_row_of_leavesRows {q : Search P} (h : q.audience.Sound)
    (hl : q.leavesRows = true) :
    ∃ row, q.cursor = .manual row ∧ q.audience.roster.rows.size ≤ row := by
  obtain ⟨hc, ha⟩ := Bool.and_eq_true_iff.1 hl
  cases hcur : q.cursor with
  | manual row =>
    refine ⟨row, rfl, ?_⟩
    rw [← Array.getElem?_eq_none_iff]
    cases hrow : q.audience.roster.rows[row]? with
    | none => rfl
    | some v =>
      have hres : q.result = some (.row row, v) := by
        rw [result, hcur, h.locate_manual row, hrow]
      simp [after_eq_of_result, hres, Spot.next, Cursor.isManual] at ha
  | auto list pos => simp [hcur, Cursor.isManual] at hc
  | exhausted => simp [hcur, Cursor.isManual] at hc

/-- A search finds nobody, or a viewer in a row, or one in a candidate list. -/
theorem find_cases (q : Search P) :
    (q.found? = none ∧ q.rowFind? = none ∧ q.entryFind? = none)
    ∨ (∃ v, q.found? = some v ∧ q.rowFind? = some v ∧ q.entryFind? = none
      ∧ q.cursor.isManual = true)
    ∨ (∃ v, q.found? = some v ∧ q.rowFind? = none ∧ q.entryFind? = some v) := by
  rw [found?_eq_map_result]
  unfold rowFind? entryFind?
  rcases hr : q.result with _ | ⟨i | ⟨l, p⟩, v⟩
  · exact .inl ⟨rfl, rfl, rfl⟩
  · obtain ⟨row, hc, -⟩ := Audience.of_locate_eq_row hr
    exact .inr (.inl ⟨v, rfl, rfl, rfl, by rw [hc]; rfl⟩)
  · exact .inr (.inr ⟨v, rfl, rfl, rfl⟩)

/-- A search that ends among the rows began there. -/
theorem isManual_of_isManual_after {q : Search P} (h : q.after.isManual = true) :
    q.cursor.isManual = true := by
  rw [isManual_after] at h
  rcases q.find_cases with ⟨-, hr, -⟩ | ⟨v, -, -, -, hc⟩ | ⟨v, -, hr, -⟩
  · rw [hr] at h
    cases h
  · exact hc
  · rw [hr] at h
    cases h

end Search

/-! ## Steps and histories -/

theorem filterMap_append_singleton {α : Type u} {β : Type v} (f : α → Option β) (xs : List α)
    (x : α) : (xs ++ [x]).filterMap f = xs.filterMap f ++ (f x).toList := by
  rw [List.filterMap_append]
  cases hf : f x <;> simp [hf]

/-- A traversal that has come to its end. -/
def Traversal.ended : Traversal P := { cursor := .exhausted, pending := none }

namespace Session

/-- A traversal that is about to begin. -/
def start (a : Audience P) : Session P := ⟨a, .start⟩

/-- The session after a move. -/
def step (s : Session P) : Move P → Session P
  | .mutate m => { s with audience := (s.audience.apply m).audience }
  | .hasNext => { s with traversal := (s.traversal.hasNext s.audience).2 }
  | .next => { s with traversal := (s.traversal.next s.audience).2 }

/-- The session after some moves. -/
def after (s : Session P) (ms : List (Move P)) : Session P := ms.foldl step s

/-- Some moves, each with the session it is made in. -/
def history (s : Session P) : List (Move P) → List (Step P)
  | [] => []
  | m :: ms => ⟨s, m⟩ :: (s.step m).history ms

end Session

namespace Step

/-- The search that the step makes, if it makes one. -/
def search? (st : Step P) : Option (Search P) :=
  match st.move, st.before.traversal.pending with
  | .mutate _, _ => none
  | .hasNext, some _ => none
  | .next, some _ => none
  | .hasNext, none => some ⟨st.before.audience, st.before.traversal.cursor⟩
  | .next, none => some ⟨st.before.audience, st.before.traversal.cursor⟩

/-- The viewer that the step hands out. -/
def handsOut? (st : Step P) : Option P :=
  match st.move with
  | .mutate _ => none
  | .hasNext => none
  | .next => (st.before.traversal.next st.before.audience).1

/-- The step goes on and hands `v` out, or looks ahead and keeps `v` for the next one. -/
def Yields (st : Step P) (v : P) : Prop :=
  st.move = .next ∧ st.handsOut? = some v
    ∨ st.move = .hasNext ∧ (st.before.step st.move).traversal.pending = some v

end Step

namespace Session

/-- The searches of a run, in order. -/
def searches (s : Session P) (ms : List (Move P)) : List (Search P) :=
  (s.history ms).filterMap Step.search?

/-- The viewers handed out in a run, in order. -/
def handedOut (s : Session P) (ms : List (Move P)) : List P :=
  (s.history ms).filterMap Step.handsOut?

/-- A move changes the audience and leaves the traversal alone, or makes a search and puts the cursor
behind it, or finds a viewer kept before and makes no search. -/
theorem step_cases (s : Session P) (m : Move P) :
    (∃ c, m = .mutate c ∧ Step.search? ⟨s, m⟩ = none
      ∧ (s.step m).audience = (s.audience.apply c).audience ∧ (s.step m).traversal = s.traversal)
    ∨ (m = .hasNext ∨ m = .next) ∧ (s.step m).audience = s.audience
      ∧ ((∃ q : Search P, Step.search? ⟨s, m⟩ = some q ∧ q.audience = s.audience
          ∧ q.cursor = s.traversal.cursor ∧ (s.step m).traversal.cursor = q.after)
        ∨ (Step.search? ⟨s, m⟩ = none ∧ (s.step m).traversal.cursor = s.traversal.cursor)) := by
  rcases s with ⟨a, ⟨c, _ | v⟩⟩ <;> cases m with
  | mutate m => exact .inl ⟨m, rfl, rfl, rfl, rfl⟩
  | hasNext => exact .inr ⟨.inl rfl, rfl, by simp [Step.search?, step, Traversal.hasNext, Search.after]⟩
  | next => exact .inr ⟨.inr rfl, rfl, by simp [Step.search?, step, Traversal.next, Search.after]⟩

theorem search?_eq_some {s : Session P} {m : Move P} {q : Search P}
    (h : Step.search? ⟨s, m⟩ = some q) : q = ⟨s.audience, s.traversal.cursor⟩ := by
  rcases s with ⟨a, ⟨c, _ | v⟩⟩ <;> cases m <;> simp_all [Step.search?]

/-- No move brings a cursor back to the rows. -/
theorem isManual_of_isManual_step {s : Session P} {m : Move P}
    (h : (s.step m).traversal.cursor.isManual = true) : s.traversal.cursor.isManual = true := by
  rcases s.step_cases m with ⟨-, -, -, -, htrav⟩ | ⟨-, -, ⟨q, -, -, hc, hafter⟩ | ⟨-, hc⟩⟩
  · rwa [htrav] at h
  · rw [hafter] at h
    rw [← hc]
    exact Search.isManual_of_isManual_after h
  · rwa [hc] at h

/-- What holds of a session with no history and is kept by every move holds after every run. -/
theorem history_invariant {I : List (Step P) → Session P → Prop}
    (hstep : ∀ h s m, I h s → I (h ++ [⟨s, m⟩]) (s.step m)) {s : Session P} (hs : I [] s)
    (ms : List (Move P)) : I (s.history ms) (s.after ms) := by
  -- what came before the run is generalised, so that the induction can start anywhere
  have hgen : ∀ (ms : List (Move P)) (h : List (Step P)) (s : Session P),
      I h s → I (h ++ s.history ms) (s.after ms) := by
    intro ms
    induction ms with
    | nil =>
      intro h s hs
      simpa [history, after] using hs
    | cons m ms ih =>
      intro h s hs
      have := ih (h ++ [⟨s, m⟩]) (s.step m) (hstep h s m hs)
      rwa [List.append_assoc] at this
  exact hgen ms [] s hs

/-- What a step brings about and every later move keeps relates the step to all later ones. -/
theorem history_pairwise {R : Step P → Step P → Prop} {J : Step P → Session P → Prop}
    (hfirst : ∀ s m, J ⟨s, m⟩ (s.step m))
    (hlater : ∀ st s m, J st s → J st (s.step m) ∧ R st ⟨s, m⟩) (s : Session P)
    (ms : List (Move P)) : (s.history ms).Pairwise R := by
  refine (history_invariant (I := fun sts t => sts.Pairwise R ∧ ∀ st ∈ sts, J st t)
    ?_ ⟨.nil, List.forall_mem_nil _⟩ ms).1
  intro sts t m hsts
  obtain ⟨hpair, hkept⟩ := hsts
  rw [List.pairwise_append, List.forall_mem_append, List.forall_mem_singleton]
  refine ⟨⟨hpair, List.pairwise_singleton _ _, ?_⟩, ?_, hfirst t m⟩
  · intro st hst st' hst'
    obtain rfl := List.mem_singleton.1 hst'
    exact (hlater st t m (hkept st hst)).2
  · intro st hst
    exact (hlater st t m (hkept st hst)).1

theorem sound_step (s : Session P) (h : s.audience.Sound) (m : Move P) :
    (s.step m).audience.Sound := by
  rcases s.step_cases m with ⟨c, -, -, haud, -⟩ | ⟨-, haud, -⟩
  · rw [haud]
    exact h.apply c
  · rw [haud]
    exact h

/-- A sound audience stays sound, so every move is made in one. -/
theorem sound_of_mem_history {s : Session P} (h : s.audience.Sound) {ms : List (Move P)}
    {st : Step P} (hst : st ∈ s.history ms) : st.before.audience.Sound := by
  refine (history_invariant
    (I := fun sts t => (∀ st ∈ sts, st.before.audience.Sound) ∧ t.audience.Sound)
    ?_ ⟨List.forall_mem_nil _, h⟩ ms).1 st hst
  intro sts t m ht
  rw [List.forall_mem_append, List.forall_mem_singleton]
  exact ⟨ht, t.sound_step ht.2 m⟩

/-! ## What holds of the searches of a run -/

theorem sound_of_mem_searches {s : Session P} (h : s.audience.Sound) {ms : List (Move P)}
    {q : Search P} (hq : q ∈ s.searches ms) : q.audience.Sound := by
  obtain ⟨st, hst, hq⟩ := List.mem_filterMap.1 hq
  obtain rfl := search?_eq_some hq
  exact sound_of_mem_history h hst

/-- What is kept by every search, whatever audience it is made in, holds of the searches of every
run and of the cursor after them. -/
theorem searches_invariant {I : List (Search P) → Cursor → Prop}
    (hstep : ∀ qs q, I qs q.cursor → I (qs ++ [q]) q.after) {s : Session P}
    (hs : I [] s.traversal.cursor) (ms : List (Move P)) :
    I (s.searches ms) (s.after ms).traversal.cursor := by
  refine history_invariant (I := fun h t => I (h.filterMap Step.search?) t.traversal.cursor)
    ?_ hs ms
  intro h t m ht
  rw [filterMap_append_singleton]
  rcases t.step_cases m with ⟨c, -, hq, -, htrav⟩ | ⟨-, -, ⟨q, hq, -, hc, hafter⟩ | ⟨hq, hc⟩⟩
  · rw [hq, Option.toList_none, List.append_nil, htrav]
    exact ht
  · rw [hq, Option.toList_some, hafter]
    exact hstep _ q (hc ▸ ht)
  · rw [hq, Option.toList_none, List.append_nil, hc]
    exact ht

/-- What a search brings about and every later one keeps relates the search to all later ones. -/
theorem searches_pairwise {R : Search P → Search P → Prop} {J : Search P → Cursor → Prop}
    (hfirst : ∀ q, J q q.after) (hlater : ∀ q q', J q q'.cursor → J q q'.after ∧ R q q')
    (s : Session P) (ms : List (Move P)) : (s.searches ms).Pairwise R := by
  refine (searches_invariant (I := fun qs c => qs.Pairwise R ∧ ∀ q ∈ qs, J q c)
    ?_ ⟨.nil, List.forall_mem_nil _⟩ ms).1
  intro qs q hqs
  obtain ⟨hpair, hkept⟩ := hqs
  rw [List.pairwise_append, List.forall_mem_append, List.forall_mem_singleton]
  refine ⟨⟨hpair, List.pairwise_singleton _ _, ?_⟩, ?_, hfirst q⟩
  · intro q₁ hq₁ q₂ hq₂
    obtain rfl := List.mem_singleton.1 hq₂
    exact (hlater q₁ q₂ (hkept q₁ hq₁)).2
  · intro q₁ hq₁
    exact (hlater q₁ q (hkept q₁ hq₁)).1

/-- A traversal goes through the rows first: nothing is found there once a candidate was found. -/
theorem filterMap_found?_searches (a : Audience P) (ms : List (Move P)) :
    ((start a).searches ms).filterMap Search.found?
      = ((start a).searches ms).filterMap Search.rowFind?
        ++ ((start a).searches ms).filterMap Search.entryFind? := by
  refine (searches_invariant (I := fun qs c =>
    (c.isManual = true → qs.filterMap Search.entryFind? = [])
      ∧ qs.filterMap Search.found?
        = qs.filterMap Search.rowFind? ++ qs.filterMap Search.entryFind?)
    ?_ ⟨fun _ => rfl, rfl⟩ ms).2
  intro qs q hqs
  obtain ⟨hmanual, hfound⟩ := hqs
  simp only [filterMap_append_singleton, hfound, q.isManual_after]
  rcases q.find_cases with ⟨hf, hr, he⟩ | ⟨v, hf, hr, he, hc⟩ | ⟨v, hf, hr, he⟩
  · simp [hf, hr, he]
  · -- no candidate was found yet, since the cursor is still among the rows
    have hnil := hmanual hc
    simp [hf, hr, he, hnil]
  · simp [hf, hr, he]

/-! ## What becomes of the viewers found -/

/-- A move hands out the viewer that was kept or found, or keeps it. -/
theorem handsOut_append_pending_step (s : Session P) (m : Move P) :
    (Step.handsOut? ⟨s, m⟩).toList ++ (s.step m).traversal.pending.toList
      = s.traversal.pending.toList ++ ((Step.search? ⟨s, m⟩).bind Search.found?).toList := by
  rcases s with ⟨a, ⟨c, _ | v⟩⟩ <;> cases m <;>
    simp [Step.handsOut?, Step.search?, step, Traversal.hasNext, Traversal.next, Search.found?]

/-- A viewer that a step finds is handed out or kept by that same step. -/
theorem yields_of_found? {s : Session P} {m : Move P} {q : Search P} {v : P}
    (hq : Step.search? ⟨s, m⟩ = some q) (hv : q.found? = some v) : Step.Yields ⟨s, m⟩ v := by
  rcases s with ⟨a, ⟨c, pending⟩⟩
  cases pending with
  | some w =>
    -- with a viewer kept no search is made
    cases m <;> cases hq
  | none =>
    cases m with
    | mutate m => cases hq
    | hasNext =>
      cases hq
      exact .inr ⟨rfl, hv⟩
    | next =>
      cases hq
      exact .inl ⟨rfl, hv⟩

/-- Everybody kept at first or found is handed out, except for a viewer that is still kept. -/
theorem handedOut_append_pending_eq (s : Session P) (ms : List (Move P)) :
    s.handedOut ms ++ (s.after ms).traversal.pending.toList
      = s.traversal.pending.toList ++ (s.searches ms).filterMap Search.found? := by
  refine history_invariant
    (I := fun h t => h.filterMap Step.handsOut? ++ t.traversal.pending.toList
      = s.traversal.pending.toList ++ (h.filterMap Step.search?).filterMap Search.found?)
    ?_ (List.append_nil _).symm ms
  intro h t m ih
  rw [List.filterMap_filterMap] at ih ⊢
  rw [filterMap_append_singleton, filterMap_append_singleton, List.append_assoc,
    handsOut_append_pending_step, ← List.append_assoc, ih, List.append_assoc]

/-- Everybody found is handed out, except for a viewer that is still kept. -/
theorem handedOut_append_pending (a : Audience P) (ms : List (Move P)) :
    (start a).handedOut ms ++ ((start a).after ms).traversal.pending.toList
      = ((start a).searches ms).filterMap Search.found? :=
  (start a).handedOut_append_pending_eq ms

/-- A search that finds nobody ends the traversal. -/
theorem traversal_step_of_result_eq_none {s : Session P} {m : Move P} {q : Search P}
    (hq : Step.search? ⟨s, m⟩ = some q) (hr : q.result = none) :
    (s.step m).traversal = .ended := by
  obtain rfl := search?_eq_some hq
  have hadv : s.audience.advance s.traversal.cursor = (none, .exhausted) := by
    rw [Audience.advance, show s.audience.locate s.traversal.cursor = none from hr]
  rcases s with ⟨a, ⟨c, _ | v⟩⟩ <;> cases m <;>
    simp_all [Step.search?, step, Traversal.hasNext, Traversal.next, Traversal.ended]

/-- Nothing begins an ended traversal anew. -/
theorem traversal_step_of_ended {s : Session P} (h : s.traversal = .ended) (m : Move P) :
    (s.step m).traversal = .ended := by
  cases m with
  | mutate m => exact h
  | hasNext => rw [step, h]; rfl
  | next => rw [step, h]; rfl

theorem traversal_after_of_result_eq_none {s : Session P} {ms : List (Move P)}
    (h : ∃ q ∈ s.searches ms, q.result = none) : (s.after ms).traversal = .ended := by
  refine history_invariant (I := fun h t => (∃ q ∈ h.filterMap Step.search?, q.result = none) →
    t.traversal = .ended) ?_ ?_ ms h
  · intro h t m ih hex
    obtain ⟨q, hq, hr⟩ := hex
    rw [filterMap_append_singleton, List.mem_append] at hq
    rcases hq with hq | hq
    · exact traversal_step_of_ended (ih ⟨q, hq, hr⟩) m
    · exact traversal_step_of_result_eq_none (Option.mem_toList.1 hq) hr
  · intro hex
    obtain ⟨q, hq, -⟩ := hex
    cases hq

/-- A traversal that has ended keeps nobody back: those handed out are those found. -/
theorem handedOut_eq_of_result_eq_none {a : Audience P} {ms : List (Move P)}
    (h : ∃ q ∈ (start a).searches ms, q.result = none) :
    (start a).handedOut ms = ((start a).searches ms).filterMap Search.found? := by
  rw [← handedOut_append_pending, traversal_after_of_result_eq_none h]
  exact (List.append_nil _).symm

end Session

end Viewership
