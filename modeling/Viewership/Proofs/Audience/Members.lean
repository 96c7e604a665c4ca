/-
# Viewership.Proofs.Audience.Members -- every whole read is one list

An audience is read as a whole in five ways: copied out, visited, counted, asked whether it is empty,
and stepped through to the end. They are written differently. Visiting filters lazily, counting adds
up list by list, and stepping keeps two numbers between its searches. For a sound audience all of
them are the one list `members`, and stepping on from any cursor gives `membersFrom` of that cursor,
a suffix of it if the cursor is in range.

A cursor may be out of range: new lists can be fewer or shorter than those it was made for. What is
beyond the end of a list counts as nothing, and the later lists still follow.
-/
import Viewership.Audience.Members
import Viewership.Handle
import Viewership.Proofs.Audience.Reachable
import Viewership.Traversal.Basic

namespace Viewership

universe u v

variable {P : Type u} [Viewer P]

namespace Audience

/-! ## The two lists -/

/-- The admitted candidates, list by list. -/
def autoMembers (a : Audience P) : List P :=
  (a.candidates.toList.flatMap Array.toList).filter a.admits

/-- The manual viewers in row order, then the admitted candidates. -/
def members (a : Audience P) : List P := a.roster.rows.toList ++ a.autoMembers

/-- The members at or past a cursor. -/
def membersFrom (a : Audience P) : Cursor → List P
  | .manual row => a.roster.rows.toList.drop row ++ a.autoMembers
  | .auto list pos =>
    ((a.candidates[list]?.getD #[]).toList.drop pos).filter a.admits
      ++ (a.candidates.toList.drop (list + 1)).flatMap (·.toList.filter a.admits)
  | .exhausted => []

/-- Lists without entries have no part in the members. -/
theorem autoMembers_eq_flatMap (a : Audience P) :
    a.autoMembers = a.filledLists.toList.flatMap (·.toList.filter a.admits) := by
  have hfilled : ∀ lists : List (Array P),
      (lists.filter (!·.isEmpty)).flatMap (·.toList.filter a.admits)
        = lists.flatMap (·.toList.filter a.admits) := by
    intro lists
    induction lists with
    | nil => rfl
    | cons list lists ih =>
      cases hlist : list.isEmpty with
      | true => simp [ih, Array.isEmpty_iff.1 hlist]
      | false => simp [hlist, ih]
  rw [autoMembers, List.filter_flatMap, filledLists, Array.toList_filter, hfilled]

/-! ## Reading at one moment -/

/-- Counting list by list counts the entries of all lists. -/
theorem foldl_countP_eq {α : Type u} (keep : α → Bool) (lists : List (Array α)) (n : Nat) :
    lists.foldl (fun n list => n + list.countP keep) n
      = n + (lists.flatMap (·.toList.filter keep)).length := by
  induction lists generalizing n with
  | nil => rfl
  | cons list lists ih =>
    rw [List.foldl_cons, ih, List.flatMap_cons, List.length_append, ← Array.countP_toList,
      List.countP_eq_length_filter, Nat.add_assoc]

namespace Sound

variable {a : Audience P} (h : a.Sound)
include h

/-- The entity is on no row, so nothing is dropped from the rows. -/
theorem filter_rows : a.roster.rows.toList.filter (!a.isSelf ·) = a.roster.rows.toList := by
  rw [List.filter_eq_self]
  intro x hx
  rw [h.not_isSelf_of_mem (Array.mem_toList_iff.1 hx)]
  rfl

theorem toList_snapshot : a.snapshot.toList = a.members := by
  rw [snapshot, Array.toList_append, Array.toList_filter, h.filter_rows, members,
    autoMembers_eq_flatMap, Array.toList_flatMap]
  simp only [Array.toList_filter]

theorem forEach_eq_foldl {σ : Type v} (start : σ) (visit : σ → P → σ) :
    a.forEach start visit = a.members.foldl visit start := by
  have hrows : a.roster.rows.foldl (fun s v => if a.isSelf v then s else visit s v) start
      = a.roster.rows.toList.foldl visit start := by
    conv => rhs; rw [← h.filter_rows, List.foldl_filter]
    rw [← Array.foldl_toList]
    congr
    funext s v
    cases a.isSelf v <;> rfl
  rw [forEach, hrows, members, List.foldl_append, autoMembers_eq_flatMap, List.foldl_flatMap,
    ← Array.foldl_toList]
  simp only [List.foldl_filter, ← Array.foldl_toList]

theorem size_eq_length : a.size = a.members.length := by
  rw [size, members, List.length_append, autoMembers_eq_flatMap, ← Array.countP_toList,
    List.countP_eq_length_filter, h.filter_rows, ← Array.foldl_toList, foldl_countP_eq, Nat.zero_add]

theorem isEmpty_iff : a.isEmpty = true ↔ a.members = [] := by
  rw [members, List.append_eq_nil_iff, ← h.filter_rows, autoMembers, List.filter_eq_nil_iff,
    List.filter_eq_nil_iff]
  have hempty : (#[] : Array P).any a.admits = false := Array.any_empty
  rw [isEmpty, a.any_filledLists hempty]
  simp only [Bool.and_eq_true, Bool.not_eq_true', ← Array.any_toList, List.any_eq_false,
    List.mem_flatMap, List.any_eq_true, not_exists, not_and, forall_exists_index, and_imp]
  refine and_congr_right fun _ => ⟨?_, ?_⟩
  · exact fun hauto v list hlist hv => hauto list hlist v hv
  · exact fun hauto list hlist v hv => hauto v list hlist hv

/-- In a sound audience what is still to come at a cursor is what `membersFrom` says. -/
theorem remaining_eq_membersFrom (c : Cursor) : c.remaining a = a.membersFrom c := by
  cases c with
  | manual row =>
    have hrows : (a.roster.rows.toList.drop row).filter (!a.isSelf ·)
        = a.roster.rows.toList.drop row := by
      rw [List.filter_eq_self]
      intro x hx
      rw [h.not_isSelf_of_mem (Array.mem_toList_iff.1 (List.mem_of_mem_drop hx))]
      rfl
    rw [Cursor.remaining, hrows, entriesFrom_zero, membersFrom, autoMembers]
  | auto list pos =>
    rw [Cursor.remaining, entriesFrom, List.filter_append, List.filter_flatMap, membersFrom]
  | exhausted => rfl

end Sound

end Audience

/-! ## Stepping to the end -/

namespace Traversal

/-- A step that hands out nobody leaves the traversal at its end. -/
theorem eq_exhausted_of_next_eq_none {a : Audience P} {t t' : Traversal P}
    (h : t.next a = (none, t')) : t' = { cursor := .exhausted, pending := none } := by
  rcases t with ⟨c, _ | v⟩
  · simp only [next, Audience.advance, Prod.mk.injEq] at h
    cases hl : a.locate c with
    | none => simpa [hl, eq_comm] using h
    | some found => simp [hl] at h
  · simp [next] at h

/-- Draining hands out what is still to come, and ends. -/
theorem drain_eq (a : Audience P) (t : Traversal P) :
    t.drain a = (t.remaining a, { cursor := .exhausted, pending := none }) := by
  fun_induction drain a t with
  | case1 t v t' hnext vs u hdrain ih =>
    obtain ⟨rfl, rfl⟩ := Prod.mk.inj (hdrain.symm.trans ih)
    rw [remaining_eq_of_next a t, hnext]
    rfl
  | case2 t t' hnext =>
    obtain rfl := eq_exhausted_of_next_eq_none hnext
    rw [remaining_eq_of_next a t, hnext]
    rfl

end Traversal

/-- **All whole reads of a reachable audience are one list.** The copy, the visits, the count and the
question whether nobody is there read `members`; stepping on from any cursor until nobody is found
hands out `membersFrom` of that cursor, so a new traversal hands out `members`. -/
theorem Audience.Reachable.whole_reads {a : Audience P} (ha : a.Reachable) :
    a.snapshot.toList = a.members ∧
    (∀ (σ : Type v) (start : σ) (visit : σ → P → σ),
      a.forEach start visit = a.members.foldl visit start) ∧
    a.size = a.members.length ∧
    (a.isEmpty = true ↔ a.members = []) ∧
    (∀ c : Cursor, ({ cursor := c, pending := none } : Traversal P).drain a
      = (a.membersFrom c, { cursor := .exhausted, pending := none })) ∧
    (Traversal.start.drain a).1 = a.members := by
  have hsound : a.Sound := ha.sound
  have hdrain (c : Cursor) : ({ cursor := c, pending := none } : Traversal P).drain a
      = (a.membersFrom c, { cursor := .exhausted, pending := none }) := by
    rw [Traversal.drain_eq, Traversal.remaining, hsound.remaining_eq_membersFrom]
    rfl
  refine ⟨hsound.toList_snapshot, fun _ => hsound.forEach_eq_foldl, hsound.size_eq_length,
    hsound.isEmpty_iff, hdrain, ?_⟩
  rw [Traversal.start, hdrain]
  rfl

/-- An audience with a manual viewer, an empty list, duplicates, an excluded candidate and the entity
among its candidates. -/
theorem whole_reads_keyed :
    let a : Audience Keyed := ((Audience.create (some (.unread true (some ⟨9, "own"⟩))) 0).run
      [.add ⟨5, "a"⟩, .remove ⟨7, "b"⟩,
        .update (some #[#[], #[⟨5, "c"⟩, ⟨7, "d"⟩], #[⟨9, "e"⟩, ⟨5, "f"⟩]])]).audience
    a.size = a.members.length ∧
    (Traversal.drain a { cursor := .auto 1 1, pending := none }).1 = a.membersFrom (.auto 1 1) ∧
    a.members = [⟨5, "a"⟩, ⟨5, "c"⟩, ⟨5, "f"⟩] := by
  intro a
  have ha : a.Reachable := Audience.reachable_run_create _ _ _
  refine ⟨(Audience.Reachable.whole_reads.{0, 0} ha).2.2.1, ?_, ?_⟩
  · rw [(Audience.Reachable.whole_reads.{0, 0} ha).2.2.2.2.1]
  · simp [a, Audience.members, Audience.autoMembers, Audience.run, Audience.apply, Audience.addManual,
      Audience.remove, Audience.updateLists, Audience.create, Audience.isSelf, Owner.unread,
      Roster.insert, Roster.remove, Roster.emptyWithCapacity, Audience.candidates, Audience.admits_eq,
      Audience.isExcluded, Std.ExtHashSet.contains_insert]

end Viewership
