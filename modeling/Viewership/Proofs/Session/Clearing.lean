/-
# Viewership.Proofs.Session.Clearing -- removing everybody on the way

A client goes through an audience and removes each viewer as soon as it is handed out. One might
expect that nobody is left behind, but the removals move what the traversal has yet to read. Each
removal among the rows brings the last row into the place that was just passed, so the traversal
meets the first half of the rows only, and the second half stays, in reverse. Among the candidates
the same call has two effects. Whoever is still on the roster loses its row and can be met once
more; whoever is not is excluded and is not met again. So a viewer from the half that stayed is met
at its first two occurrences in the lists, and everybody else who is admitted at the first.

`Clears` follows the client search by search. What a viewer has left is its `allowance`: two finds
if it is on the roster, one if it is admitted otherwise, none if it is not. Every removal takes one
off, which is all that the candidate lists need to know.
-/
import Mathlib.Data.List.Induction
import Viewership.Handle
import Viewership.Proofs.Audience.Members
import Viewership.Proofs.Roster.Enumeration
import Viewership.Proofs.Session.LookAhead
import Viewership.Proofs.Traversal.Occurrences
import Viewership.Traversal.Walk

namespace Viewership

universe u

variable {P : Type u} [Viewer P]

/-- Whether a spot is one of the manual rows. -/
def Spot.isRow : Spot → Bool
  | .row _ => true
  | .entry _ _ => false

/-- Finds in rows and later ones in lists are told apart by their spots. -/
theorem Spot.filter_isRow_append {α : Type u} {rowFinds entryFinds : List (Spot × α)}
    (hrows : ∀ find ∈ rowFinds, find.1.isRow = true)
    (hentries : ∀ find ∈ entryFinds, find.1.isRow = false) :
    (rowFinds ++ entryFinds).filter (·.1.isRow) = rowFinds
      ∧ (rowFinds ++ entryFinds).filter (!·.1.isRow) = entryFinds := by
  constructor
  · have hnone : entryFinds.filter (·.1.isRow) = [] :=
      List.filter_eq_nil_iff.2 fun find hfind => by simp [hentries find hfind]
    rw [List.filter_append, List.filter_eq_self.2 hrows, hnone, List.append_nil]
  · have hnone : rowFinds.filter (!·.1.isRow) = [] :=
      List.filter_eq_nil_iff.2 fun find hfind => by simp [hrows find hfind]
    have hall : entryFinds.filter (!·.1.isRow) = entryFinds :=
      List.filter_eq_self.2 fun find hfind => by simp [hentries find hfind]
    rw [List.filter_append, hnone, hall, List.nil_append]

/-- The moves of a client that steps on and removes each of `vs` right after the step. -/
def removals (vs : List P) : List (Move P) := vs.flatMap fun v => [.next, .mutate (.remove v)]

/-! ## One viewer after the other -/

/-- Searching on from a cursor, and removing each viewer before the next search, makes these finds
and leads to the audience `b` and the cursor `d`. -/
inductive Clears : Audience P → Cursor → List (Spot × P) → Audience P → Cursor → Prop where
  | nil (a : Audience P) (c : Cursor) : Clears a c [] a c
  | cons {a b : Audience P} {c d : Cursor} {spot : Spot} {v : P} {finds : List (Spot × P)}
    (hfind : a.locate c = some (spot, v))
    (hrest : Clears (a.remove v).audience spot.next finds b d) :
    Clears a c ((spot, v) :: finds) b d

namespace Clears

variable {a b e : Audience P} {c d f : Cursor} {finds : List (Spot × P)}

theorem append {finds' : List (Spot × P)} (h : Clears a c finds b d) (h' : Clears b d finds' e f) :
    Clears a c (finds ++ finds') e f := by
  induction h with
  | nil => exact h'
  | cons hfind _ ih => exact .cons hfind (ih h')

theorem sound (h : Clears a c finds b d) (ha : a.Sound) : b.Sound := by
  induction h with
  | nil => exact ha
  | cons _ _ ih => exact ih (ha.remove _)

end Clears

/-- Whoever a search finds is admitted. -/
theorem Audience.Sound.admits_of_locate {a : Audience P} (h : a.Sound) {c : Cursor} {spot : Spot}
    {v : P} (hfind : a.locate c = some (spot, v)) : a.admits v = true := by
  cases spot with
  | row i =>
    obtain ⟨row, -, -, hrow, -⟩ := Audience.of_locate_eq_row hfind
    exact h.admits_of_isManual v (h.isManual_of_row hrow)
  | entry l p => exact (Audience.of_locate_eq_entry hfind).2.2

/-- So is everybody who is removed, and the removal is accepted. -/
theorem Audience.accepted_remove_of_admits {a : Audience P} {v : P} (h : a.admits v = true) :
    (a.remove v).accepted = true := by
  cases hd : a.drops v with
  | true => rw [remove_of_drops hd]
  | false =>
    rw [remove_of_not_drops hd, ((a.admits_iff v).1 h).2]
    rfl

/-- A step goes to the cursor past its find. -/
theorem step_next_of_locate {a : Audience P} {c : Cursor} {spot : Spot} {v : P}
    (hfind : a.locate c = some (spot, v)) :
    (⟨a, ⟨c, none⟩⟩ : Session P).step .next = ⟨a, ⟨spot.next, none⟩⟩ := by
  rw [Session.step, Traversal.next, Audience.advance, hfind]

theorem step_next_of_locate_eq_none {a : Audience P} {c : Cursor} (hend : a.locate c = none) :
    (⟨a, ⟨c, none⟩⟩ : Session P).step .next = ⟨a, .ended⟩ := by
  rw [Session.step, Traversal.next, Audience.advance, hend]
  rfl

namespace Clears

variable {a b : Audience P} {c d : Cursor} {finds : List (Spot × P)}

/-- A walk that removes meets those who are found, if the limit allows for it, and then ends. -/
theorem walk_eq (h : Clears a c finds b d) (ha : a.Sound) (hend : b.locate d = none) {limit : Nat}
    (hlimit : finds.length < limit) :
    let w := (⟨c, none⟩ : Traversal P).walk [.remove] false limit a
    w.encounters = finds.map (fun find => { viewer := find.2, more? := none, accepted := [true] })
      ∧ w.audience = b := by
  induction h generalizing limit with
  | nil a c =>
    obtain ⟨limit, rfl⟩ := Nat.exists_eq_succ_of_ne_zero (Nat.ne_of_gt hlimit)
    simp [Traversal.walk, Traversal.next, Audience.advance, hend]
  | @cons a b c d spot v finds hfind hrest ih =>
    obtain ⟨limit, rfl⟩ := Nat.exists_eq_succ_of_ne_zero (Nat.ne_of_gt (Nat.zero_lt_of_lt hlimit))
    obtain ⟨hmet, hleft⟩ := ih (ha.remove v) hend (Nat.lt_of_succ_lt_succ hlimit)
    have haccepted := Audience.accepted_remove_of_admits (ha.admits_of_locate hfind)
    have hnext : (⟨c, none⟩ : Traversal P).next a = (some v, ⟨spot.next, none⟩) := by
      rw [Traversal.next, Audience.advance, hfind]
    have hrun : a.run [.remove v]
        = ⟨[true], (a.remove v).event?.toList ++ [], (a.remove v).audience⟩ := by
      rw [← haccepted]
      rfl
    simp only [Traversal.walk, hnext, List.map_cons, List.map_nil, WalkAction.mutation, hrun]
    exact ⟨congrArg _ hmet, hleft⟩

/-- The client's moves lead where the finds lead. -/
theorem after_removals (h : Clears a c finds b d) :
    (⟨a, ⟨c, none⟩⟩ : Session P).after (removals (finds.map (·.2))) = ⟨b, ⟨d, none⟩⟩ := by
  induction h with
  | nil => rfl
  | @cons a b c d spot v finds hfind hrest ih =>
    show (((⟨a, ⟨c, none⟩⟩ : Session P).step .next).step (.mutate (.remove v))).after
      (removals (finds.map (·.2))) = _
    rw [step_next_of_locate hfind]
    exact ih

/-- The client's moves make one search for each find. -/
theorem searches_removals (h : Clears a c finds b d) (ms : List (Move P)) :
    ∃ qs : List (Search P), qs.map Search.result = finds.map some ∧
      (⟨a, ⟨c, none⟩⟩ : Session P).searches (removals (finds.map (·.2)) ++ ms)
        = qs ++ (⟨b, ⟨d, none⟩⟩ : Session P).searches ms := by
  induction h with
  | nil => exact ⟨[], rfl, rfl⟩
  | @cons a b c d spot v finds hfind hrest ih =>
    obtain ⟨qs, hqs, hsearches⟩ := ih
    refine ⟨⟨a, c⟩ :: qs, ?_, ?_⟩
    · rw [List.map_cons, hqs, List.map_cons, Search.result, hfind]
    · show (⟨a, ⟨c, none⟩⟩ : Session P).searches
        (.next :: .mutate (.remove v) :: (removals (finds.map (·.2)) ++ ms)) = _
      rw [Session.searches_cons, Session.searches_cons, step_next_of_locate hfind,
        List.cons_append, ← hsearches]
      rfl

end Clears

/-! ## The rows -/

/-- In a coherent roster, the last of the viewers behind a removed one takes its place. -/
theorem Roster.Coherent.rows_remove_of_split {r : Roster P} (h : r.Coherent) {l m : List P} {x : P}
    (hrows : r.rows.toList = l ++ x :: m) :
    (r.remove x).2.rows.toList = l ++ (m.getLast?.toList ++ m.dropLast) := by
  have hat : r.rows[l.length]? = some x := by
    rw [← Array.getElem?_toList, hrows]
    simp
  have hindex : r.index[x]? = some l.length :=
    (h.index_eq_some_iff x l.length).2 ⟨x, hat, BEq.rfl⟩
  have harray : r.rows = (l ++ x :: m).toArray := by rw [← hrows]
  rw [rows_remove_of_index_eq_some hindex, harray, toList_swapRemove]

/-- How many of `n` rows ahead are met. -/
def upperHalf (n : Nat) : Nat := (n + 1) / 2

@[simp]
theorem upperHalf_zero : upperHalf 0 = 0 := rfl

@[simp]
theorem upperHalf_one : upperHalf 1 = 1 := rfl

theorem upperHalf_add_two (n : Nat) : upperHalf (n + 2) = upperHalf n + 1 := by
  unfold upperHalf
  omega

theorem upperHalf_le (n : Nat) : upperHalf n ≤ n := by
  unfold upperHalf
  omega

namespace Audience

/-- The audience `b` is `a` but for its rows, which are these. -/
structure WithRows (a : Audience P) (rows : List P) (b : Audience P) : Prop where
  rows : b.roster.rows.toList = rows
  exceptions : b.exceptions = a.exceptions
  ownViewer : b.ownViewer = a.ownViewer
  lists : b.lists = a.lists

/-- The viewer in the cursor's row is found, and the last row takes its place when it is removed. -/
theorem Sound.clear_row {a : Audience P} (h : a.Sound) {met m : List P} {x : P}
    (hrows : a.roster.rows.toList = met ++ x :: m) :
    a.locate (.manual met.length) = some (.row met.length, x)
      ∧ a.WithRows (met ++ (m.getLast?.toList ++ m.dropLast)) (a.remove x).audience := by
  have hat : a.roster.rows[met.length]? = some x := by
    rw [← Array.getElem?_toList, hrows]
    simp
  constructor
  · rw [h.locate_manual, hat]
  · rw [remove_of_isManual h.coherent (h.isManual_of_row hat)]
    exact ⟨h.coherent.rows_remove_of_split hrows, rfl, rfl, rfl⟩

/-- Of the rows ahead of the cursor the first half is met, and the second half stays, in reverse. -/
theorem Sound.clears_rows {a : Audience P} (h : a.Sound) {met ahead : List P}
    (hrows : a.roster.rows.toList = met ++ ahead) :
    ∃ finds b, Clears a (.manual met.length) finds b (.manual (met.length + upperHalf ahead.length))
      ∧ finds.map (·.2) = ahead.take (upperHalf ahead.length)
      ∧ (∀ find ∈ finds, find.1.isRow = true)
      ∧ a.WithRows (met ++ (ahead.drop (upperHalf ahead.length)).reverse) b := by
  -- a removal takes the first row ahead and brings the last one behind the cursor
  induction ahead using List.bidirectionalRec generalizing a met with
  | nil =>
    rw [List.length_nil, upperHalf_zero]
    refine ⟨[], a, .nil a _, rfl, List.forall_mem_nil _, ?_, rfl, rfl, rfl⟩
    simpa using hrows
  | singleton x =>
    obtain ⟨hfind, hleft⟩ := h.clear_row hrows
    rw [List.length_singleton, upperHalf_one]
    exact ⟨[(.row met.length, x)], _, .cons hfind (.nil _ _), rfl, by simp [Spot.isRow],
      by simpa using hleft⟩
  | cons_append x mid y ih =>
    obtain ⟨hfind, hleft⟩ := h.clear_row hrows
    have hnext : (a.remove x).audience.roster.rows.toList = (met ++ [y]) ++ mid := by
      simpa using hleft.rows
    obtain ⟨finds, b, hclears, hviewers, hspots, hb⟩ := ih (h.remove x) hnext
    have hle := upperHalf_le mid.length
    have hlength : (x :: (mid ++ [y])).length = mid.length + 2 := by simp
    have htake : (x :: (mid ++ [y])).take (upperHalf (mid.length + 2))
        = x :: mid.take (upperHalf mid.length) := by
      rw [upperHalf_add_two, List.take_succ_cons, List.take_append_of_le_length hle]
    have hdrop : (x :: (mid ++ [y])).drop (upperHalf (mid.length + 2))
        = mid.drop (upperHalf mid.length) ++ [y] := by
      rw [upperHalf_add_two, List.drop_succ_cons, List.drop_append_of_le_length hle]
    refine ⟨(.row met.length, x) :: finds, b, ?_, ?_, ?_, ?_, ?_, ?_, ?_⟩
    · have hcursor : met.length + upperHalf (x :: (mid ++ [y])).length
          = (met ++ [y]).length + upperHalf mid.length := by
        rw [hlength, upperHalf_add_two, List.length_append, List.length_singleton]
        omega
      rw [hcursor]
      refine .cons hfind ?_
      rw [List.length_append, List.length_singleton] at hclears ⊢
      exact hclears
    · rw [hlength, htake, List.map_cons, hviewers]
    · exact List.forall_mem_cons.2 ⟨rfl, hspots⟩
    · rw [hb.rows, hlength, hdrop]
      simp
    · rw [hb.exceptions, hleft.exceptions]
    · rw [hb.ownViewer, hleft.ownViewer]
    · rw [hb.lists, hleft.lists]

/-! ## The candidates -/

/-- How often a viewer can still be found among the candidates if it is removed each time: the first
removal takes it off the roster, if it is there, and the next one excludes it. -/
def allowance (a : Audience P) (v : P) : Nat :=
  if a.isManual v then 2 else if a.admits v then 1 else 0

theorem uniform_allowance (a : Audience P) : Uniform a.allowance := by
  intro v w hvw
  rw [allowance, allowance, a.isManual_congr hvw, a.admits_congr hvw]

theorem Sound.admits_of_admits_remove {a : Audience P} (h : a.Sound) {v w : P}
    (hw : (a.remove v).audience.admits w = true) : a.admits w = true := by
  rw [admits_iff, isExcluded_remove h.coherent, Bool.or_eq_false_iff] at hw
  rw [admits_iff, ← a.isSelf_apply (.remove v) w]
  exact ⟨hw.1, hw.2.1⟩

theorem candidates_remove (a : Audience P) (v : P) :
    (a.remove v).audience.candidates = a.candidates := by
  cases hd : a.drops v with
  | true => rw [remove_of_drops hd]; rfl
  | false => rw [remove_of_not_drops hd]; rfl

namespace Sound

variable {a : Audience P} (h : a.Sound)
include h

theorem allowance_pos_iff (v : P) : 0 < a.allowance v ↔ a.admits v = true := by
  have hadmits := h.admits_of_isManual v
  rw [allowance]
  cases hm : a.isManual v with
  | true => simp [hadmits hm]
  | false => cases ha : a.admits v <;> simp

theorem allowance_eq_zero {v : P} (hv : a.admits v = false) : a.allowance v = 0 := by
  refine Nat.eq_zero_of_not_pos ?_
  rw [h.allowance_pos_iff, hv]
  exact Bool.false_ne_true

/-- A removal takes one off. -/
theorem allowance_remove (v : P) : (a.remove v).audience.allowance = lowered a.allowance v := by
  funext w
  have hself : (a.remove v).audience.isSelf w = a.isSelf w := a.isSelf_apply (.remove v) w
  rw [lowered, allowance, allowance, admits_eq, isManual_remove h.coherent,
    isExcluded_remove h.coherent, hself]
  cases hvw : v == w with
  | false => simp [admits_eq]
  | true =>
    rw [a.isManual_congr hvw]
    cases hm : a.isManual w with
    | true => simp [h.not_isSelf_of_isManual hm, h.not_isExcluded_of_isManual hm]
    | false => cases a.admits w <;> simp

/-- Each viewer is found among the candidates at its first occurrences, as often as its allowance
says. -/
theorem clears_entries {c : Cursor} {list pos : Nat} (hc : a.locate c = a.locateEntry list pos) :
    ∃ finds b d, Clears a c finds b d ∧ b.locate d = none
      ∧ finds.map (·.2) = firstOccurrences a.allowance (entriesFrom a.candidates list pos)
      ∧ ∀ find ∈ finds, find.1.isRow = false := by
  -- every find leaves fewer admitted entries ahead
  induction hn : ((entriesFrom a.candidates list pos).filter a.admits).length
    using Nat.strongRecOn generalizing a c list pos with
  | ind n ih =>
    have hentries := Cursor.filter_entriesFrom_eq_of_locateEntry a list pos
    have hfirst : firstOccurrences a.allowance ((entriesFrom a.candidates list pos).filter a.admits)
        = firstOccurrences a.allowance (entriesFrom a.candidates list pos) :=
      firstOccurrences_filter a.uniform_allowance fun _ => h.allowance_eq_zero
    cases hloc : a.locateEntry list pos with
    | none =>
      rw [hloc] at hc hentries
      refine ⟨[], a, c, .nil a c, hc, ?_, List.forall_mem_nil _⟩
      rw [← hfirst, hentries]
      rfl
    | some found =>
      obtain ⟨spot, v⟩ := found
      obtain ⟨l, p, rfl, -, -, hadmits⟩ := of_locateEntry_eq_some hloc
      rw [hloc] at hc hentries
      have hentries : (entriesFrom a.candidates list pos).filter a.admits
          = v :: (entriesFrom a.candidates l (p + 1)).filter a.admits := hentries
      have hkeeps (x : P) (hx : a.admits x = false) : (a.remove v).audience.allowance x = 0 := by
        rw [h.allowance_remove v, lowered, h.allowance_eq_zero hx, Nat.zero_sub]
      have hfewer : ((entriesFrom (a.remove v).audience.candidates l (p + 1)).filter
          (a.remove v).audience.admits).length < n := by
        rw [candidates_remove, ← hn, hentries, List.length_cons, Nat.lt_succ_iff,
          ← List.countP_eq_length_filter, ← List.countP_eq_length_filter]
        exact List.countP_mono_left fun x _ => h.admits_of_admits_remove
      obtain ⟨finds, b, d, hclears, hend, hviewers, hspots⟩ :=
        ih _ hfewer (h.remove v) (c := .auto l (p + 1)) rfl rfl
      refine ⟨(.entry l p, v) :: finds, b, d, .cons hc hclears, hend, ?_,
        List.forall_mem_cons.2 ⟨rfl, hspots⟩⟩
      rw [List.map_cons, hviewers, candidates_remove, ← hfirst, hentries,
        firstOccurrences_cons_of_pos ((h.allowance_pos_iff v).2 hadmits), ← h.allowance_remove v,
        firstOccurrences_filter (uniform_allowance _) hkeeps]

end Sound

/-- Of each admitted viewer one occurrence is met, and a second one if it is among the rows that are
left. -/
def meetings (a : Audience P) (left : List P) (v : P) : Nat :=
  if a.admits v then 1 + (if left.any (· == v) then 1 else 0) else 0

theorem meetings_nil (a : Audience P) : a.meetings [] = fun v => if a.admits v then 1 else 0 := rfl

/-- What the audience before the removals says about the allowances of the one after them. -/
theorem WithRows.allowance_eq {a b : Audience P} {left : List P} (h : a.WithRows left b)
    (hb : b.Sound) : b.allowance = a.meetings left := by
  funext v
  have hadmits : b.admits v = a.admits v := by
    rw [admits_eq, admits_eq, isSelf, isSelf, isExcluded, isExcluded, h.ownViewer, h.exceptions]
  have hmanual : b.isManual v = left.any (· == v) := by
    rw [← h.rows, isManual, ← hb.coherent.enumerates_rows.any_beq]
  rw [allowance, meetings, ← hadmits, ← hmanual]
  cases hm : b.isManual v with
  | true => simp [hb.admits_of_isManual v hm]
  | false => simp

theorem WithRows.candidates_eq {a b : Audience P} {left : List P} (h : a.WithRows left b) :
    b.candidates = a.candidates := by
  rw [candidates, candidates, h.lists]

end Audience

namespace Clears

variable {a b : Audience P} {c d : Cursor} {finds : List (Spot × P)}

theorem candidates_eq (h : Clears a c finds b d) : b.candidates = a.candidates := by
  induction h with
  | nil => rfl
  | cons _ _ ih => rw [ih, Audience.candidates_remove]

theorem allowance_eq (h : Clears a c finds b d) (ha : a.Sound) (v : P) :
    b.allowance v = a.allowance v - (finds.map (·.2)).countP (· == v) := by
  induction h with
  | nil => rfl
  | cons _ _ ih =>
    rw [ih (ha.remove _), ha.allowance_remove, lowered, List.map_cons, List.countP_cons,
      Nat.sub_sub, Nat.add_comm]

end Clears

/-- Nobody is left if nobody has an allowance. -/
theorem Audience.Sound.isEmpty_of_allowance {a : Audience P} (h : a.Sound)
    (hrows : ∀ v, a.allowance v < 2)
    (hentries : ∀ v ∈ a.candidates.toList.flatMap Array.toList, a.allowance v = 0) :
    a.isEmpty = true := by
  have hnobody : a.roster.rows.toList = [] := by
    rw [List.eq_nil_iff_forall_not_mem]
    intro v hv
    obtain ⟨i, hi⟩ := Array.getElem?_of_mem (Array.mem_toList_iff.1 hv)
    have htwo : a.allowance v = 2 := by rw [allowance, h.isManual_of_row hi, if_pos rfl]
    exact Nat.lt_irrefl 2 (htwo ▸ hrows v)
  have hauto : a.autoMembers = [] := by
    rw [autoMembers, List.filter_eq_nil_iff]
    intro v hv hadmits
    exact Nat.lt_irrefl 0 (hentries v hv ▸ (h.allowance_pos_iff v).2 hadmits)
  rw [h.isEmpty_iff, members, hnobody, hauto]
  rfl

/-! ## Phases -/

namespace Search

variable {finds : List (Spot × P)} {qs : List (Search P)}

/-- The viewers found, and those found in rows and in lists, told apart by where they were found. -/
theorem filterMap_finds (hqs : qs.map result = finds.map some) :
    qs.filterMap found? = finds.map (·.2)
      ∧ qs.filterMap rowFind? = (finds.filter (·.1.isRow)).map (·.2)
      ∧ qs.filterMap entryFind? = (finds.filter (!·.1.isRow)).map (·.2) := by
  induction finds generalizing qs with
  | nil =>
    obtain rfl := List.map_eq_nil_iff.1 hqs
    exact ⟨rfl, rfl, rfl⟩
  | cons find finds ih =>
    obtain ⟨q, qs, rfl, hq, hqs⟩ := List.map_eq_cons_iff.1 hqs
    obtain ⟨hfound, hrows, hentries⟩ := ih hqs
    obtain ⟨spot, v⟩ := find
    have hqfound : q.found? = some v := by
      rw [found?_eq_map_result, hq]
      rfl
    cases spot with
    | row i =>
      have hqrow : q.rowFind? = some v := by rw [rowFind?, hq]
      have hqentry : q.entryFind? = none := by rw [entryFind?, hq]
      simp [hqfound, hqrow, hqentry, hfound, hrows, hentries, Spot.isRow]
    | entry l p =>
      have hqrow : q.rowFind? = none := by rw [rowFind?, hq]
      have hqentry : q.entryFind? = some v := by rw [entryFind?, hq]
      simp [hqfound, hqrow, hqentry, hfound, hrows, hentries, Spot.isRow]

/-- A search from a row that is not there leaves the rows. -/
theorem leavesRows_of_size_le {a : Audience P} (h : a.Sound) {row : Nat}
    (hrow : a.roster.rows.size ≤ row) : leavesRows ⟨a, .manual row⟩ = true := by
  have hnone : (⟨a, .manual row⟩ : Search P).rowFind? = none := by
    rw [Option.eq_none_iff_forall_ne_some]
    intro v hv
    obtain ⟨row', hc, hat, -⟩ := of_rowFind?_eq_some h hv
    obtain rfl : row = row' := Cursor.manual.inj hc
    rw [Array.getElem?_eq_none hrow] at hat
    cases hat
  rw [leavesRows, isManual_after, hnone]
  rfl

end Search

/-- The client's session from the start to the end: where it leads, what is found in rows and in
lists, and what is handed out. -/
theorem Clears.session_eq {a b : Audience P} {d : Cursor} {finds : List (Spot × P)}
    (h : Clears a (.manual 0) finds b d) (hend : b.locate d = none) :
    let s := Session.start a
    let moves := removals (finds.map (·.2)) ++ [.next]
    s.after moves = ⟨b, .ended⟩
      ∧ (s.searches moves).filterMap Search.rowFind? = (finds.filter (·.1.isRow)).map (·.2)
      ∧ (s.searches moves).filterMap Search.entryFind? = (finds.filter (!·.1.isRow)).map (·.2)
      ∧ s.handedOut moves = finds.map (·.2) := by
  intro s moves
  obtain ⟨qs, hqs, hqs'⟩ := h.searches_removals [.next]
  have hsearches : s.searches moves = qs ++ [⟨b, d⟩] := hqs'
  have hlast : (⟨b, d⟩ : Search P).result = none := hend
  obtain ⟨hfound, hrows, hentries⟩ := Search.filterMap_finds hqs
  refine ⟨?_, ?_, ?_, ?_⟩
  · have hafter : s.after moves = (s.after (removals (finds.map (·.2)))).step .next :=
      List.foldl_append
    rw [hafter, show s.after (removals (finds.map (·.2))) = ⟨b, ⟨d, none⟩⟩ from h.after_removals,
      step_next_of_locate_eq_none hend]
  · rw [hsearches, filterMap_append_singleton, hrows, Search.rowFind?, hlast]
    exact List.append_nil _
  · rw [hsearches, filterMap_append_singleton, hentries, Search.entryFind?, hlast]
    exact List.append_nil _
  · have hnone : ∃ q ∈ s.searches moves, q.result = none :=
      ⟨⟨b, d⟩, by rw [hsearches]; simp, hlast⟩
    rw [Session.handedOut_eq_of_result_eq_none hnone, hsearches, filterMap_append_singleton, hfound,
      Search.found?_eq_map_result, hlast]
    exact List.append_nil _

/-! ## The whole walk -/

theorem min_countP_one {α : Type u} (p : α → Bool) (xs : List α) :
    min (xs.countP p) 1 = if xs.any p then 1 else 0 := by
  cases hany : xs.any p with
  | false =>
    rw [List.any_eq_false] at hany
    rw [List.countP_eq_zero.2 hany]
    rfl
  | true =>
    rw [List.any_eq_true] at hany
    have hpos : 0 < xs.countP p := List.countP_pos_iff.2 hany
    rw [if_pos rfl]
    omega

/-- The finds of the whole walk: those in the rows first, and then those in the lists. -/
theorem Audience.Sound.clears_all {a : Audience P} (h : a.Sound) :
    let rows := a.roster.rows.toList
    let half := (rows.length + 1) / 2
    let left := (rows.drop half).reverse
    ∃ rowFinds b entryFinds e d, Clears a (.manual 0) rowFinds b (.manual half)
      ∧ Clears b (.manual half) entryFinds e d ∧ e.locate d = none
      ∧ a.WithRows left b ∧ b.roster.rows.size ≤ half
      ∧ rowFinds.map (·.2) = rows.take half
      ∧ entryFinds.map (·.2)
        = firstOccurrences (a.meetings left) (a.candidates.toList.flatMap Array.toList)
      ∧ (∀ find ∈ rowFinds, find.1.isRow = true) ∧ ∀ find ∈ entryFinds, find.1.isRow = false := by
  intro rows half left
  have hnoneMet : a.roster.rows.toList = [] ++ rows := rfl
  obtain ⟨rowFinds, b, hrowClears, hrows, hrowSpots, hb⟩ := h.clears_rows hnoneMet
  have hcursor : ([] : List P).length + upperHalf rows.length = half := Nat.zero_add _
  rw [hcursor] at hrowClears
  have hleft : a.WithRows left b := hb
  have hsound : b.Sound := hrowClears.sound h
  have hsize : b.roster.rows.size ≤ half := by
    have hlength : b.roster.rows.size = rows.length - half := by
      rw [← Array.length_toList, hleft.rows, List.length_reverse, List.length_drop]
    have hhalf : half = (rows.length + 1) / 2 := rfl
    omega
  -- no row is left at the cursor, so the next search goes on in the lists
  have hlists : b.locate (.manual half) = b.locateEntry 0 0 := by
    rw [hsound.locate_manual, Array.getElem?_eq_none hsize]
  obtain ⟨entryFinds, e, d, hentryClears, hend, hentries, hentrySpots⟩ :=
    hsound.clears_entries hlists
  rw [hleft.allowance_eq hsound, hleft.candidates_eq, entriesFrom_zero] at hentries
  exact ⟨rowFinds, b, entryFinds, e, d, hrowClears, hentryClears, hend, hleft, hsize, hrows,
    hentries, hrowSpots, hentrySpots⟩

/-- With one row at most nobody is left when the walk is over. -/
theorem Audience.Sound.isEmpty_of_clears {b e : Audience P} {c d : Cursor}
    {finds : List (Spot × P)} (hb : b.Sound) (h : Clears b c finds e d)
    (hrows : b.roster.rows.toList = [])
    (hfinds : finds.map (·.2)
      = firstOccurrences b.allowance (b.candidates.toList.flatMap Array.toList)) :
    e.isEmpty = true := by
  have hless (v : P) : b.allowance v < 2 := by
    have hnobody : b.isManual v = false := by
      rw [isManual, ← hb.coherent.enumerates_rows.any_beq, hrows]
      rfl
    rw [allowance, hnobody]
    cases b.admits v <;> decide
  have hleft (v : P) : e.allowance v = b.allowance v
      - min ((b.candidates.toList.flatMap Array.toList).countP (· == v)) (b.allowance v) := by
    rw [h.allowance_eq hb, hfinds, countP_firstOccurrences b.uniform_allowance]
  refine (h.sound hb).isEmpty_of_allowance ?_ ?_
  · intro v
    have := hleft v
    have := hless v
    omega
  · intro v hv
    rw [h.candidates_eq] at hv
    have hoccurs : 0 < (b.candidates.toList.flatMap Array.toList).countP (· == v) :=
      List.countP_pos_iff.2 ⟨v, hv, BEq.rfl⟩
    have := hleft v
    have := hless v
    omega

/-- **What removing everybody on the way does.** Let `n` be the number of rows. A walk that removes
each viewer as soon as it is handed out ends. It meets the first half of the rows, rounded up, and
leaves the second half in reverse. Then it meets of each admitted viewer the first occurrence in the
lists, and the second one as well if the viewer is among the rows that are left; nobody else is met.
If there was one row at most, every admitted candidate is met once, at its first occurrence, and
nobody is left in the end. -/
theorem Audience.Reachable.clearing_walk {a : Audience P} (ha : a.Reachable) :
    let rows := a.roster.rows.toList
    let half := (rows.length + 1) / 2
    let left := (rows.drop half).reverse
    let entries := a.candidates.toList.flatMap Array.toList
    let autos := firstOccurrences (a.meetings left) entries
    let found := rows.take half ++ autos
    let s := Session.start a
    let t := s.after (removals (rows.take half))
    let moves := removals found ++ [.next]
    (∀ limit, found.length < limit →
      let w := Traversal.start.walk [.remove] false limit a
      w.encounters = found.map (fun v => { viewer := v, more? := none, accepted := [true] }) ∧
      w.audience = (s.after moves).audience) ∧
    s.handedOut moves = found ∧ (s.after moves).traversal = .ended ∧
    (s.searches moves).filterMap Search.rowFind? = rows.take half ∧
    t.audience.roster.rows.toList = left ∧
    Search.leavesRows ⟨t.audience, t.traversal.cursor⟩ = true ∧
    (s.searches moves).filterMap Search.entryFind? = autos ∧
    (∀ v, autos.countP (· == v) = min (entries.countP (· == v)) (a.meetings left v)) ∧
    (rows.length ≤ 1 →
      autos = firstOccurrences (fun v => if a.admits v then 1 else 0) entries ∧
      (∀ v, autos.countP (· == v) = if a.admits v && entries.any (· == v) then 1 else 0) ∧
      (s.after moves).audience.isEmpty = true) := by
  intro rows half left entries autos found s t moves
  obtain ⟨rowFinds, b, entryFinds, e, d, hrowClears, hentryClears, hend, hleft, hsize, hrows,
    hentries, hrowSpots, hentrySpots⟩ := ha.sound.clears_all
  have hbs : b.Sound := hrowClears.sound ha.sound
  have hclears := hrowClears.append hentryClears
  have hfound : (rowFinds ++ entryFinds).map (·.2) = found := by
    rw [List.map_append, hrows, hentries]
  obtain ⟨hrowPart, hentryPart⟩ := Spot.filter_isRow_append hrowSpots hentrySpots
  obtain ⟨hmoves, hrowFinds, hentryFinds, hhanded⟩ := hclears.session_eq hend
  rw [hfound] at hmoves hrowFinds hentryFinds hhanded
  rw [hrowPart, hrows] at hrowFinds
  rw [hentryPart, hentries] at hentryFinds
  have hmoves : s.after moves = ⟨e, .ended⟩ := hmoves
  have ht : t = ⟨b, ⟨.manual half, none⟩⟩ := by
    show s.after (removals (rows.take half)) = _
    rw [← hrows]
    exact hrowClears.after_removals
  have huniform : Uniform (a.meetings left) := hleft.allowance_eq hbs ▸ b.uniform_allowance
  have hcount := countP_firstOccurrences huniform entries
  refine ⟨?_, hhanded, by rw [hmoves], hrowFinds, ?_, ?_, hentryFinds, hcount, ?_⟩
  · intro limit hlimit w
    rw [← hfound, List.length_map] at hlimit
    obtain ⟨hmet, haud⟩ := hclears.walk_eq ha.sound hend hlimit
    rw [hmoves, ← hfound, List.map_map]
    exact ⟨hmet, haud⟩
  · rw [ht]
    exact hleft.rows
  · rw [ht]
    exact Search.leavesRows_of_size_le hbs hsize
  · intro hone
    have hnone : left = [] := by
      have hall : rows.length ≤ half := by
        have hhalf : half = (rows.length + 1) / 2 := rfl
        omega
      show (rows.drop half).reverse = []
      rw [List.drop_eq_nil_of_le hall, List.reverse_nil]
    have hmeetings : a.meetings left = fun v => if a.admits v then 1 else 0 := by
      rw [hnone, meetings_nil]
    refine ⟨by rw [← hmeetings], ?_, ?_⟩
    · intro v
      rw [hcount v, hmeetings]
      show min (entries.countP (· == v)) (if a.admits v then 1 else 0) = _
      cases a.admits v with
      | false => exact Nat.min_zero _
      | true => exact min_countP_one _ entries
    · rw [hmoves]
      refine hbs.isEmpty_of_clears hentryClears (hleft.rows.trans hnone) ?_
      rw [hentries, hleft.allowance_eq hbs, hleft.candidates_eq]

/-- Of three manual viewers two are met and the third stays, so it is met twice among the
candidates, under other tags. Alone on the roster it is met once there, and nobody is left. -/
theorem Audience.clearing_walk_keyed :
    let owner : Owner Keyed := .unread true (some ⟨9, "own"⟩)
    let others : List (Mutation Keyed) := [.add ⟨3, "c"⟩, .remove ⟨7, "x"⟩,
      .update (some #[#[⟨3, "d"⟩, ⟨4, "e"⟩], #[⟨9, "f"⟩, ⟨3, "g"⟩, ⟨7, "h"⟩, ⟨3, "i"⟩, ⟨4, "j"⟩]])]
    let a := ((create (some owner) 0).run (.add ⟨1, "a"⟩ :: .add ⟨2, "b"⟩ :: others)).audience
    let b := ((create (some owner) 0).run others).audience
    let walk (a : Audience Keyed) := Traversal.start.walk [.remove] false 6 a
    (walk a).encounters.map (·.viewer)
      = [⟨1, "a"⟩, ⟨2, "b"⟩, ⟨3, "d"⟩, ⟨4, "e"⟩, ⟨3, "g"⟩] ∧
    (walk b).encounters.map (·.viewer) = [⟨3, "c"⟩, ⟨3, "d"⟩, ⟨4, "e"⟩] ∧
    b.roster.rows.toList.length ≤ 1 ∧ (walk b).audience.isEmpty = true := by
  intro owner others a b walk
  have hreach : a.Reachable := reachable_run_create _ _ _
  have hreach' : b.Reachable := reachable_run_create _ _ _
  have ha : a =
      { ownViewer := some ⟨9, "own"⟩
        roster :=
          { rows := #[⟨1, "a"⟩, ⟨2, "b"⟩, ⟨3, "c"⟩]
            index := ((Std.ExtHashMap.emptyWithCapacity 0).insert ⟨1, "a"⟩ 0).insert ⟨2, "b"⟩ 1
              |>.insert ⟨3, "c"⟩ 2 }
        exceptions := Std.ExtHashSet.insert ∅ ⟨7, "x"⟩
        lists := some #[#[⟨3, "d"⟩, ⟨4, "e"⟩],
          #[⟨9, "f"⟩, ⟨3, "g"⟩, ⟨7, "h"⟩, ⟨3, "i"⟩, ⟨4, "j"⟩]] } := by
    simp [a, owner, others, run, apply, addManual, updateLists, remove, create, isSelf,
      Owner.unread, Roster.insert, Roster.remove, Roster.emptyWithCapacity]
  have hb : b =
      { ownViewer := some ⟨9, "own"⟩
        roster :=
          { rows := #[⟨3, "c"⟩]
            index := (Std.ExtHashMap.emptyWithCapacity 0).insert ⟨3, "c"⟩ 0 }
        exceptions := Std.ExtHashSet.insert ∅ ⟨7, "x"⟩
        lists := some #[#[⟨3, "d"⟩, ⟨4, "e"⟩],
          #[⟨9, "f"⟩, ⟨3, "g"⟩, ⟨7, "h"⟩, ⟨3, "i"⟩, ⟨4, "j"⟩]] } := by
    simp [b, owner, others, run, apply, addManual, updateLists, remove, create, isSelf,
      Owner.unread, Roster.insert, Roster.remove, Roster.emptyWithCapacity]
  clear_value a b
  have hrows : a.roster.rows.toList = [⟨1, "a"⟩, ⟨2, "b"⟩, ⟨3, "c"⟩] := by rw [ha]
  have hrows' : b.roster.rows.toList = [⟨3, "c"⟩] := by rw [hb]
  have hautos : firstOccurrences (a.meetings [⟨3, "c"⟩]) (a.candidates.toList.flatMap Array.toList)
      = [⟨3, "d"⟩, ⟨4, "e"⟩, ⟨3, "g"⟩] := by
    simp [ha, firstOccurrences, meetings, candidates, admits_eq, isSelf, isExcluded, List.zipIdx,
      Std.ExtHashSet.contains_insert]
  have hautos' : firstOccurrences (b.meetings []) (b.candidates.toList.flatMap Array.toList)
      = [⟨3, "d"⟩, ⟨4, "e"⟩] := by
    simp [hb, firstOccurrences, meetings, candidates, admits_eq, isSelf, isExcluded, List.zipIdx,
      Std.ExtHashSet.contains_insert]
  have hone : b.roster.rows.toList.length ≤ 1 := by
    rw [hrows']
    exact Nat.le_refl 1
  have hleft : (a.roster.rows.toList.drop ((a.roster.rows.toList.length + 1) / 2)).reverse
      = [⟨3, "c"⟩] := by
    rw [hrows]
    rfl
  have hleft' : (b.roster.rows.toList.drop ((b.roster.rows.toList.length + 1) / 2)).reverse
      = [] := by
    rw [hrows']
    rfl
  obtain ⟨hwalk, -⟩ := hreach.clearing_walk
  obtain ⟨hwalk', -, -, -, -, -, -, -, hsmall⟩ := hreach'.clearing_walk
  obtain ⟨-, -, hempty⟩ := hsmall hone
  rw [hleft, hautos, hrows] at hwalk
  rw [hleft', hautos', hrows'] at hwalk'
  rw [hleft', hautos', hrows'] at hempty
  obtain ⟨hmet, -⟩ := hwalk 6 (by decide)
  obtain ⟨hmet', haud'⟩ := hwalk' 6 (by decide)
  refine ⟨?_, ?_, hone, ?_⟩
  · show List.map _ (Traversal.start.walk [.remove] false 6 a).encounters = _
    rw [hmet]
    rfl
  · show List.map _ (Traversal.start.walk [.remove] false 6 b).encounters = _
    rw [hmet']
    rfl
  · show (Traversal.start.walk [.remove] false 6 b).audience.isEmpty = true
    rw [haud', hempty]

end Viewership
