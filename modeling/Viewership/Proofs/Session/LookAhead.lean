/-
# Viewership.Proofs.Session.LookAhead -- looking ahead is stepping ahead

To look whether another viewer follows, a traversal has to search for it, and it keeps what it found
for the next step. So a viewer is chosen at one moment and handed out at another, and the audience may
change in between. What that comes to is said by comparing two runs: the one as it is, and the one in
which every look-ahead that searches is a step, and the step that would hand out the kept viewer is
left out. Both make the same searches, each in the same audience and from the same cursor, and hand
out the same viewers, but for one that the first run still keeps in the end.

The two runs are in step at every moment: the session of the second is that of the first with the kept
viewer handed out (`settled`).
-/
import Viewership.Handle
import Viewership.Proofs.Session.Basic

namespace Viewership

universe u

variable {P : Type u} [Viewer P]

/-! ## Stepping instead of looking ahead -/

/-- What becomes of a move if nobody looks ahead, where `owed` says that a viewer was promised and not
handed out yet. A look-ahead is made a step, and while a viewer is owed there is nothing to do. -/
def Move.stepAhead? (owed : Bool) : Move P → Option (Move P)
  | .mutate c => some (.mutate c)
  | .hasNext => if owed then none else some .next
  | .next => if owed then none else some .next

namespace Session

/-- Whether a viewer is owed after a move: a look-ahead promises one if it answers so, and a step hands
it out. -/
def owedAfter (s : Session P) (owed : Bool) : Move P → Bool
  | .mutate _ => owed
  | .hasNext => (s.traversal.hasNext s.audience).1
  | .next => false

/-- The moves with a step in the place of every look-ahead that searches. The first step after it is
left out if it found a viewer, and so is every look-ahead in between. -/
def stepAhead (s : Session P) (owed : Bool) : List (Move P) → List (Move P)
  | [] => []
  | m :: ms => (m.stepAhead? owed).toList ++ (s.step m).stepAhead (s.owedAfter owed m) ms

/-- The session once the kept viewer was handed out. -/
def settled (s : Session P) : Session P := ⟨s.audience, { s.traversal with pending := none }⟩

/-- Every look-ahead that made the traversal keep a viewer is followed by a step. -/
def AllFetched (s : Session P) (ms : List (Move P)) : Prop :=
  ∀ xs ys, ms = xs ++ .hasNext :: ys → (s.after xs).traversal.pending = none →
    ((s.after xs).step .hasNext).traversal.pending ≠ none → .next ∈ ys

/-! ## The two runs side by side -/

theorem searches_cons (s : Session P) (m : Move P) (ms : List (Move P)) :
    s.searches (m :: ms) = (Step.search? ⟨s, m⟩).toList ++ (s.step m).searches ms := by
  rw [searches, history, List.filterMap_cons]
  cases Step.search? ⟨s, m⟩ <;> rfl

/-- A viewer is owed exactly while the traversal keeps one. -/
theorem owedAfter_isSome_pending (s : Session P) (m : Move P) :
    s.owedAfter s.traversal.pending.isSome m = (s.step m).traversal.pending.isSome := by
  rcases s with ⟨a, ⟨c, _ | v⟩⟩ <;> cases m <;> rfl

/-- A move and what becomes of it keep the two runs in step, and make the same search or none. -/
theorem settled_step (s : Session P) (m : Move P) :
    (m.stepAhead? s.traversal.pending.isSome = none ∧ (s.step m).settled = s.settled
      ∧ Step.search? ⟨s, m⟩ = none)
    ∨ ∃ m', m.stepAhead? s.traversal.pending.isSome = some m'
      ∧ (s.step m).settled = s.settled.step m'
      ∧ Step.search? ⟨s, m⟩ = Step.search? ⟨s.settled, m'⟩ := by
  -- without a kept viewer both runs search, with one the second has nothing left to do
  rcases s with ⟨a, ⟨cursor, _ | v⟩⟩
  · cases m with
    | mutate c => exact .inr ⟨.mutate c, rfl, rfl, rfl⟩
    | hasNext => exact .inr ⟨.next, rfl, rfl, rfl⟩
    | next => exact .inr ⟨.next, rfl, rfl, rfl⟩
  · cases m with
    | mutate c => exact .inr ⟨.mutate c, rfl, rfl, rfl⟩
    | hasNext => exact .inl ⟨rfl, rfl, rfl⟩
    | next => exact .inl ⟨rfl, rfl, rfl⟩

theorem settled_run (s : Session P) (ms : List (Move P)) :
    s.settled.after (s.stepAhead s.traversal.pending.isSome ms) = (s.after ms).settled
      ∧ s.settled.searches (s.stepAhead s.traversal.pending.isSome ms) = s.searches ms := by
  induction ms generalizing s with
  | nil => exact ⟨rfl, rfl⟩
  | cons m ms ih =>
    obtain ⟨hafter, hsearches⟩ := ih (s.step m)
    rw [stepAhead, owedAfter_isSome_pending, searches_cons s m]
    rcases s.settled_step m with ⟨hm, hsettled, hq⟩ | ⟨m', hm, hsettled, hq⟩
    · rw [hsettled] at hafter hsearches
      rw [hm, hq]
      exact ⟨hafter, hsearches⟩
    · rw [hsettled] at hafter hsearches
      rw [hm, hq, Option.toList_some, List.singleton_append, searches_cons, hsearches]
      exact ⟨hafter, rfl⟩

theorem hasNext_notMem_stepAhead (s : Session P) (owed : Bool) (ms : List (Move P)) :
    .hasNext ∉ s.stepAhead owed ms := by
  induction ms generalizing s owed with
  | nil => exact List.not_mem_nil
  | cons m ms ih =>
    rw [stepAhead, List.mem_append, not_or]
    refine ⟨?_, ih _ _⟩
    cases m <;> cases owed <;> simp [Move.stepAhead?]

/-! ## What was promised -/

/-- Nobody is kept in the end if every look-ahead that kept a viewer is followed by a step, and so is
the start if a viewer is kept there. -/
theorem pending_after_eq_none {s : Session P} {ms : List (Move P)} (hfetched : s.AllFetched ms)
    (hs : s.traversal.pending = none ∨ .next ∈ ms) : (s.after ms).traversal.pending = none := by
  induction ms generalizing s with
  | nil => exact hs.resolve_right List.not_mem_nil
  | cons m ms ih =>
    have hrest : (s.step m).AllFetched ms := by
      intro xs ys hms
      exact hfetched (m :: xs) ys (by rw [hms]; rfl)
    refine ih hrest ?_
    cases m with
    | mutate c => exact hs.imp_right fun hmem => by simpa using hmem
    | hasNext =>
      -- a viewer that is kept from here on is fetched by a later step, so the induction goes on with it
      by_cases hfound : (s.step .hasNext).traversal.pending = none
      · exact .inl hfound
      · right
        rcases hs with hs | hmem
        · exact hfetched [] ms rfl hs hfound
        · simpa using hmem
    | next =>
      left
      rcases s with ⟨a, ⟨cursor, _ | v⟩⟩ <;> rfl

/-- The traversal keeps the viewer `o`, or has come to its end if that is nobody. -/
def Promises (o : Option P) (s : Session P) : Prop :=
  s.traversal.pending = o ∧ (o = none → s.traversal = .ended)

theorem promises_hasNext (s : Session P) :
    (s.step .hasNext).Promises (s.traversal.next s.audience).1 := by
  rcases s with ⟨a, ⟨c, _ | v⟩⟩
  · refine ⟨rfl, ?_⟩
    intro hnone
    have hres : (⟨a, c⟩ : Search P).result = none := by
      have hfound : (⟨a, c⟩ : Search P).found? = none := hnone
      rwa [Search.found?_eq_map_result, Option.map_eq_none_iff] at hfound
    exact traversal_step_of_result_eq_none (q := ⟨a, c⟩) rfl hres
  · exact ⟨rfl, nofun⟩

theorem Promises.step {o : Option P} {s : Session P} (h : s.Promises o) {m : Move P}
    (hm : m ≠ .next) : (s.step m).Promises o := by
  cases m with
  | mutate c => exact h
  | hasNext =>
    cases o with
    | none =>
      have hend := traversal_step_of_ended (h.2 rfl) .hasNext
      exact ⟨by rw [hend]; rfl, fun _ => hend⟩
    | some v =>
      refine ⟨?_, nofun⟩
      show (s.traversal.hasNext s.audience).2.pending = some v
      simp [Traversal.hasNext, h.1]
  | next => exact absurd rfl hm

theorem Promises.after {o : Option P} {s : Session P} (h : s.Promises o) {ms : List (Move P)}
    (hms : .next ∉ ms) : (s.after ms).Promises o := by
  induction ms generalizing s with
  | nil => exact h
  | cons m ms ih =>
    rw [List.mem_cons, not_or] at hms
    exact ih (h.step (Ne.symm hms.1)) hms.2

theorem Promises.next_eq {o : Option P} {s : Session P} (h : s.Promises o) :
    (s.traversal.next s.audience).1 = o := by
  cases o with
  | none =>
    rw [h.2 rfl]
    rfl
  | some v => simp [Traversal.next, h.1]

/-- A look-ahead answers whether a step would hand out a viewer. -/
theorem hasNext_eq_isSome_next (a : Audience P) (t : Traversal P) :
    (t.hasNext a).1 = (t.next a).1.isSome := by
  rcases t with ⟨c, _ | v⟩ <;> rfl

/-! ## Looking ahead -/

/-- **Looking ahead is stepping ahead.** If every look-ahead that searches is made a step, and what is
superfluous then is left out, the traversal makes the same searches in the same audiences and hands
out the same viewers, and the one that is still kept in the end. Nobody is kept if every look-ahead
that kept a viewer is followed by a step. So all that were found are handed out once and in order. A
look-ahead answers whether a step would hand out a viewer at its moment, and the step that follows
hands out that very viewer, whatever changed meanwhile. -/
theorem looks_ahead_as_steps (a : Audience P) (ms : List (Move P)) :
    let s := start a
    let early := s.stepAhead false ms
    .hasNext ∉ early ∧
    s.searches early = s.searches ms ∧
    (s.after early).audience = (s.after ms).audience ∧
    s.handedOut early = s.handedOut ms ++ (s.after ms).traversal.pending.toList ∧
    (s.AllFetched ms → s.handedOut early = s.handedOut ms ∧
      s.handedOut ms = (s.searches ms).filterMap Search.found?) ∧
    ∀ xs ys, .next ∉ ys →
      let t := s.after xs
      let u := (t.step .hasNext).after ys
      (t.traversal.hasNext t.audience).1 = (t.traversal.next t.audience).1.isSome ∧
      (u.traversal.next u.audience).1 = (t.traversal.next t.audience).1 := by
  intro s early
  -- nobody is kept at the start, so the run that steps ahead starts from the same session
  obtain ⟨hafter, hsearches⟩ : s.after early = (s.after ms).settled ∧ s.searches early = s.searches ms :=
    s.settled_run ms
  have hfound := s.handedOut_append_pending_eq ms
  have hhanded : s.handedOut early = s.handedOut ms ++ (s.after ms).traversal.pending.toList := by
    rw [hfound, ← hsearches, ← s.handedOut_append_pending_eq early, hafter]
    exact (List.append_nil _).symm
  refine ⟨s.hasNext_notMem_stepAhead false ms, hsearches, by rw [hafter]; rfl, hhanded, ?_, ?_⟩
  · intro hfetched
    rw [pending_after_eq_none hfetched (.inl rfl)] at hhanded hfound
    exact ⟨hhanded.trans (List.append_nil _), (List.append_nil _).symm.trans hfound⟩
  · intro xs ys hys t u
    exact ⟨hasNext_eq_isSome_next _ _, (t.promises_hasNext.after hys).next_eq⟩

/-- A manual viewer is promised, removed and handed out under the handle that was found. The run that
steps ahead has it before it is removed. -/
theorem looks_ahead_as_steps_removed :
    let a : Audience Keyed := ((Audience.create none 0).run
      [.add ⟨1, "a"⟩, .update (some #[#[⟨2, "b"⟩]])]).audience
    let remove : Move Keyed := .mutate (.remove ⟨1, "x"⟩)
    let ms := [.hasNext, remove, .hasNext, .next, .next]
    let u := ((start a).step .hasNext).after [remove]
    (start a).stepAhead false ms = [.next, remove, .next] ∧
    (start a).AllFetched ms ∧
    (start a).handedOut [.next, remove, .next] = (start a).handedOut ms ∧
    u.audience.isManual ⟨1, "a"⟩ = false ∧ (u.traversal.next u.audience).1 = some ⟨1, "a"⟩ := by
  intro a remove ms u
  have hreach : a.Reachable := Audience.reachable_run_create _ _ _
  have ha : a =
      { ownViewer := none
        roster :=
          { rows := #[⟨1, "a"⟩], index := (Std.ExtHashMap.emptyWithCapacity 0).insert ⟨1, "a"⟩ 0 }
        exceptions := ∅
        lists := some #[#[⟨2, "b"⟩]] } := by
    simp [a, Audience.run, Audience.apply, Audience.addManual, Audience.updateLists,
      Audience.create, Audience.isSelf, Roster.insert, Roster.emptyWithCapacity]
  clear_value a
  have hadvance : a.advance (.manual 0) = (some ⟨1, "a"⟩, .manual 1) := by
    simp [ha, Audience.advance, Audience.locate, firstFrom?, Audience.isSelf, Spot.next]
  have hearly : (start a).stepAhead false ms = [.next, remove, .next] := by
    simp [ms, remove, stepAhead, owedAfter, Move.stepAhead?, step, start, Traversal.start,
      Traversal.hasNext, hadvance]
  have hfetched : (start a).AllFetched ms := by
    intro xs ys hms _ _
    have hlast : (xs ++ .hasNext :: ys).getLast? = some .next := by
      rw [← hms]
      rfl
    rw [List.getLast?_append] at hlast
    cases ys with
    | nil => simp at hlast
    | cons y ys => exact List.mem_of_getLast? (by simpa using hlast)
  have hsteps := looks_ahead_as_steps a ms
  refine ⟨hearly, hfetched, ?_, ?_, ?_⟩
  · rw [← hearly]
    exact (hsteps.2.2.2.2.1 hfetched).1
  · show (a.remove ⟨1, "x"⟩).audience.isManual ⟨1, "a"⟩ = false
    rw [Audience.isManual_remove hreach.sound.coherent, Keyed.mk_beq_mk, BEq.rfl, Bool.not_true,
      Bool.and_false]
  · have hfirst : (Traversal.start.next a).1 = some ⟨1, "a"⟩ := by
      rw [Traversal.start, Traversal.next, hadvance]
    rw [← hfirst]
    exact (hsteps.2.2.2.2.2 [] [remove] (by simp [remove])).2

end Session

end Viewership
