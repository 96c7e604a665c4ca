/-
# Viewership.Proofs.Session.ManualPhase -- what a traversal makes of a roster that changes under it

While a traversal goes through the manual rows it keeps a row number, and viewers come and go. Who is
found is said in terms of stays: a viewer that leaves and joins again has a new stay, and may be
found anew. A `Ledger` writes down, move by move, who joined, which stays were found and how many
removals freed a row below the cursor, and the main statement compares it with the roster at the
moment the manual phase ends.

Only a removal below the cursor can make the traversal miss anybody: it brings the last viewer, who
may not have been found yet, under the cursor, or else leaves the cursor beyond the end, where the
next to join comes in under it. `unseen` counts both kinds, the viewers under the cursor that were
not found and the rows that are missing there. A removal below the cursor adds at most one to it and
nothing else adds to it.
-/
import Viewership.Handle
import Viewership.Proofs.Audience.Reachable
import Viewership.Proofs.Session.Basic
import Viewership.Proofs.Traversal.Search

namespace Viewership

universe u

/-! ## Entries that were passed without being seen -/

section Unseen

variable {α : Type u}

/-- The entries below `row` that were not seen, and the rows below `row` that do not exist. -/
def unseen (seen : α → Bool) (row : Nat) (xs : List α) : Nat :=
  (xs.take row).countP (!seen ·) + (row - xs.length)

theorem unseen_zero (seen : α → Bool) (xs : List α) : unseen seen 0 xs = 0 := by
  simp [unseen]

theorem unseen_congr {seen seen' : α → Bool} {xs : List α} (row : Nat)
    (h : ∀ x ∈ xs, seen' x = seen x) : unseen seen' row xs = unseen seen row xs := by
  have hcount : (xs.take row).countP (!seen' ·) = (xs.take row).countP (!seen ·) := by
    apply List.countP_congr
    intro x hx
    rw [h x (List.mem_of_mem_take hx)]
  unfold unseen
  rw [hcount]

/-- Past the last row every entry that was not seen counts. -/
theorem countP_le_unseen (seen : α → Bool) {row : Nat} {xs : List α} (h : xs.length ≤ row) :
    xs.countP (!seen ·) ≤ unseen seen row xs := by
  unfold unseen
  rw [List.take_of_length_le h]
  exact Nat.le_add_right _ _

/-- A new entry fills a row that was missing, or comes in at or past `row`. -/
theorem unseen_append_singleton_le (seen : α → Bool) (row : Nat) (xs : List α) (v : α) :
    unseen seen row (xs ++ [v]) ≤ unseen seen row xs := by
  unfold unseen
  rw [List.take_append, List.countP_append, List.length_append, List.length_singleton]
  have hone : ((([v] : List α).take (row - xs.length))).countP (!seen ·) ≤ 1 :=
    Nat.le_trans List.countP_le_length (List.length_take_le' _ _)
  by_cases h : row ≤ xs.length
  · simp only [Nat.sub_eq_zero_of_le h, List.take_zero, List.countP_nil]
    omega
  · omega

/-- Going past an entry that is seen on the way adds nothing. -/
theorem unseen_succ_le {seen seen' : α → Bool} {row : Nat} {xs : List α} {v : α}
    (hv : xs[row]? = some v) (hsee : seen' v = true) (hmono : ∀ x, seen x = true → seen' x = true) :
    unseen seen' (row + 1) xs ≤ unseen seen row xs := by
  have hlt : row < xs.length := (List.getElem?_eq_some_iff.1 hv).1
  have htake : xs.take (row + 1) = xs.take row ++ [v] := by
    rw [List.take_add_one, hv, Option.toList_some]
  have hcount : (xs.take row).countP (!seen' ·) ≤ (xs.take row).countP (!seen ·) := by
    apply List.countP_mono_left
    intro x _ hx
    cases hs : seen x with
    | true => simp [hmono x hs] at hx
    | false => rfl
  unfold unseen
  rw [htake, List.countP_append]
  simp only [List.countP_singleton, hsee, Bool.not_true, Bool.false_eq_true, if_false]
  omega

/-- Moving the last entry into a freed row adds at most one, and that only if the row is below. -/
theorem unseen_freed_le (seen : α → Bool) (row : Nat) (l : List α) (x : α) (m : List α) :
    unseen seen row (l ++ (m.getLast?.toList ++ m.dropLast))
      ≤ unseen seen row (l ++ x :: m) + (decide (l.length < row)).toNat := by
  by_cases hrow : row ≤ l.length
  · simp only [unseen, List.take_append_of_le_length hrow, List.length_append]
    omega
  · obtain ⟨k, rfl⟩ : ∃ k, row = l.length + (k + 1) := ⟨row - l.length - 1, by omega⟩
    have hbelow : (decide (l.length < l.length + (k + 1))).toNat = 1 := by simp
    rcases List.eq_nil_or_concat m with rfl | ⟨m, y, rfl⟩
    · -- the freed row was the last, so there is one row less below `row`
      simp [unseen, List.take_append]
      omega
    · -- `y` moves under `row`, from there or from behind it
      simp only [unseen, hbelow, List.concat_eq_append, List.getLast?_concat, List.dropLast_concat,
        Option.toList_some, List.singleton_append, List.take_length_add_append,
        List.take_succ_cons, List.countP_append, List.countP_cons, List.length_append,
        List.length_cons, List.length_nil]
      have hy : (if (!seen y) = true then 1 else 0) ≤ 1 := by split <;> omega
      by_cases hk : k ≤ m.length
      · rw [List.take_append_of_le_length hk]
        omega
      · have hm : (m ++ [y]).take k = m ++ [y] :=
          List.take_of_length_le (by simp; omega)
        rw [List.take_of_length_le (by omega), hm, List.countP_append, List.countP_singleton]
        omega

/-- Behind `row` nobody is new after a removal. -/
theorem mem_drop_of_mem_drop_freed {row : Nat} {l : List α} {x : α} {m : List α} {y : α}
    (hy : y ∈ (l ++ (m.getLast?.toList ++ m.dropLast)).drop row) : y ∈ (l ++ x :: m).drop row := by
  rcases List.eq_nil_or_concat m with rfl | ⟨m, z, rfl⟩
  · simp only [List.getLast?_nil, List.dropLast_nil, Option.toList_none, List.append_nil] at hy
    rw [List.drop_append]
    exact List.mem_append_left _ hy
  · simp only [List.concat_eq_append, List.getLast?_concat, List.dropLast_concat,
      Option.toList_some, List.singleton_append, List.drop_append, List.mem_append] at hy ⊢
    rcases hy with hy | hy
    · exact .inl hy
    · refine .inr ?_
      -- `z` is under `row` unless the freed row is itself not
      cases hk : row - l.length with
      | zero =>
        rw [hk, List.drop_zero, List.mem_cons] at hy
        rw [List.drop_zero, List.mem_cons, List.mem_append, List.mem_singleton]
        exact .inr hy.symm
      | succ k =>
        rw [hk, List.drop_succ_cons] at hy
        rw [List.drop_succ_cons, List.drop_append]
        exact List.mem_append_left _ hy

theorem take_freed_of_le {row : Nat} {l : List α} (h : row ≤ l.length) (x : α) (m : List α) :
    (l ++ (m.getLast?.toList ++ m.dropLast)).take row = (l ++ x :: m).take row := by
  rw [List.take_append_of_le_length h, List.take_append_of_le_length h]

end Unseen

/-! ## Stays and the ledger -/

/-- A stay of a viewer on the roster, told from the viewer's other stays by how often the viewer had
joined when it began. -/
structure Stay (P : Type u) where
  viewer : P
  joins : Nat

/-- What is written down about a session: who joined the roster, which stays were found in manual
rows, both in order, and how many removals freed a row below the cursor's. -/
structure Ledger (P : Type u) where
  joined : List P
  found : List (Stay P)
  undercuts : Nat

variable {P : Type u} [Viewer P]

/-- Whether two stays are one, whichever handles they were written down with. -/
def Stay.same (s t : Stay P) : Bool := s.viewer == t.viewer && s.joins == t.joins

namespace Step

/-- The viewer that joins the roster. -/
def joins? (st : Step P) : Option P :=
  match st.move with
  | .mutate (.add v) => if (st.before.audience.apply (.add v)).accepted then some v else none
  | _ => none

/-- The viewer that a search finds in a manual row. -/
def rowFind? (st : Step P) : Option P := st.search?.bind Search.rowFind?

/-- Whether a removal frees a row below the cursor's. -/
def undercuts (st : Step P) : Bool :=
  match st.move, st.before.traversal.cursor with
  | .mutate (.remove v), .manual row => (st.before.audience.roster.rowOf? v).any (· < row)
  | _, _ => false

end Step

namespace Ledger

/-- A ledger before the first move. -/
def blank : Ledger P := { joined := [], found := [], undercuts := 0 }

/-- The stay that `v` is in, if it is on the roster. -/
def stayOf (l : Ledger P) (v : P) : Stay P := ⟨v, l.joined.countP (· == v)⟩

/-- Whether the stay that `v` is in was found. -/
def hasFound (l : Ledger P) (v : P) : Bool := l.found.any (·.same (l.stayOf v))

/-- Writes down one more move. -/
def record (l : Ledger P) (st : Step P) : Ledger P where
  joined := l.joined ++ st.joins?.toList
  found := l.found ++ (st.rowFind?.map l.stayOf).toList
  undercuts := l.undercuts + st.undercuts.toNat

/-- The ledger of a history. -/
def ofHistory (h : List (Step P)) : Ledger P := h.foldl record blank

theorem ofHistory_append_singleton (h : List (Step P)) (st : Step P) :
    ofHistory (h ++ [st]) = (ofHistory h).record st := by
  unfold ofHistory
  rw [List.foldl_append]
  rfl

/-! ## Who was found, as the ledger grows -/

theorem same_stayOf_stayOf (l : Ledger P) (v w : P) :
    (l.stayOf v).same (l.stayOf w) = (v == w) := by
  cases hvw : v == w with
  | false => simp [Stay.same, stayOf, hvw]
  | true =>
    have hcount : l.joined.countP (· == v) = l.joined.countP (· == w) := by
      simp only [BEq.congr_right hvw]
    simp [Stay.same, stayOf, hvw, hcount]

theorem hasFound_find (l : Ledger P) (v w : P) :
    ({ l with found := l.found ++ [l.stayOf v] } : Ledger P).hasFound w
      = (l.hasFound w || v == w) := by
  rw [← same_stayOf_stayOf l v w]
  simp [hasFound, stayOf]

/-- A join gives nobody else a new stay. -/
theorem hasFound_join_of_ne (l : Ledger P) {v w : P} (h : (v == w) = false) :
    ({ l with joined := l.joined ++ [v] } : Ledger P).hasFound w = l.hasFound w := by
  simp [hasFound, stayOf, h]

/-- A stay that has only begun was not found, if no stay was found that was still to begin. -/
theorem hasFound_join_self (l : Ledger P)
    (h : ∀ t ∈ l.found, t.joins ≤ (l.stayOf t.viewer).joins) (v : P) :
    ({ l with joined := l.joined ++ [v] } : Ledger P).hasFound v = false := by
  unfold hasFound
  rw [List.any_eq_false]
  intro t ht
  rw [Bool.not_eq_true]
  unfold Stay.same
  cases htv : t.viewer == v with
  | false => simp [stayOf, htv]
  | true =>
    have hle : t.joins ≤ l.joined.countP (· == v) := by
      simpa only [stayOf, BEq.congr_right htv] using h t ht
    have hne : t.joins ≠ l.joined.countP (· == v) + 1 := by omega
    simp [stayOf, htv, hne]

/-! ## The ledger follows the rows under the cursor -/

/-- What a ledger says of the rows `xs` while the cursor is at `row`: nobody at or past the cursor
was found, the unseen rows below it are paid for, and where there are none everybody was found. -/
structure Follows (l : Ledger P) (xs : List P) (row : Nat) : Prop where
  ahead : ∀ x ∈ xs.drop row, l.hasFound x = false
  unseen_le : unseen l.hasFound row xs ≤ l.undercuts
  found_eq : l.undercuts = 0 → l.found.map (·.viewer) = xs.take row

namespace Follows

variable {l : Ledger P} {row : Nat}

theorem join {xs : List P} (h : l.Follows xs row)
    (hle : ∀ t ∈ l.found, t.joins ≤ (l.stayOf t.viewer).joins) {v : P}
    (hnew : ∀ x ∈ xs, (v == x) = false) :
    ({ l with joined := l.joined ++ [v] } : Ledger P).Follows (xs ++ [v]) row where
  ahead x hx := by
    rw [List.drop_append, List.mem_append] at hx
    rcases hx with hx | hx
    · rw [l.hasFound_join_of_ne (hnew x (List.mem_of_mem_drop hx)), h.ahead x hx]
    · obtain rfl := List.mem_singleton.1 (List.mem_of_mem_drop hx)
      exact l.hasFound_join_self hle x
  unseen_le := by
    refine Nat.le_trans ?_ h.unseen_le
    rw [← unseen_congr row fun x hx => l.hasFound_join_of_ne (hnew x hx)]
    exact unseen_append_singleton_le _ row xs v
  found_eq hzero := by
    have hlen : row ≤ xs.length := by
      have := Nat.le_trans h.unseen_le (Nat.le_of_eq hzero)
      unfold unseen at this
      omega
    rw [List.take_append_of_le_length hlen]
    exact h.found_eq hzero

theorem free {xs : List P} {x : P} {ys : List P} (h : l.Follows (xs ++ x :: ys) row) :
    ({ l with undercuts := l.undercuts + (decide (xs.length < row)).toNat } : Ledger P).Follows
      (xs ++ (ys.getLast?.toList ++ ys.dropLast)) row where
  ahead y hy := h.ahead y (mem_drop_of_mem_drop_freed hy)
  unseen_le := Nat.le_trans (unseen_freed_le _ row xs x ys) (Nat.add_le_add_right h.unseen_le _)
  found_eq hzero := by
    have hsplit : l.undercuts = 0 ∧ ¬ xs.length < row := by
      simpa using hzero
    rw [take_freed_of_le (Nat.le_of_not_lt hsplit.2) x ys]
    exact h.found_eq hsplit.1

theorem find {xs : List P} (h : l.Follows xs row) {v : P} (hv : xs[row]? = some v)
    (hne : ∀ x ∈ xs.drop (row + 1), (v == x) = false) :
    ({ l with found := l.found ++ [l.stayOf v] } : Ledger P).Follows xs (row + 1) where
  ahead x hx := by
    have hx' : x ∈ xs.drop row := by
      rw [← List.drop_drop] at hx
      exact List.mem_of_mem_drop hx
    rw [hasFound_find, h.ahead x hx', hne x hx]
    rfl
  unseen_le := by
    refine Nat.le_trans (unseen_succ_le hv ?_ ?_) h.unseen_le
    · rw [hasFound_find, BEq.rfl, Bool.or_true]
    · intro x hx
      rw [hasFound_find, hx, Bool.true_or]
  found_eq hzero := by
    rw [List.map_append, h.found_eq hzero, List.take_add_one, hv]
    rfl

end Follows

/-! ## One move -/

/-- A ledger that was kept since the session began. It follows the rows as long as the cursor is
among them. -/
structure Accounts (l : Ledger P) (s : Session P) : Prop where
  sound : s.audience.Sound
  distinct : l.found.Pairwise fun s t => s.same t = false
  joins_le : ∀ t ∈ l.found, t.joins ≤ (l.stayOf t.viewer).joins
  follows : ∀ row, s.traversal.cursor = .manual row →
    l.Follows s.audience.roster.rows.toList row

theorem accounts_blank {a : Audience P} (h : a.Sound) : blank.Accounts (Session.start a) where
  sound := h
  distinct := .nil
  joins_le t ht := by cases ht
  follows row hrow := by
    obtain rfl : 0 = row := Cursor.manual.inj hrow
    exact ⟨fun _ _ => rfl, Nat.le_of_eq (unseen_zero _ _), fun _ => rfl⟩

/-- A move that is no change of the audience only writes down what its search found. -/
theorem record_of_search (l : Ledger P) {s : Session P} {m : Move P}
    (hm : m = .hasNext ∨ m = .next) :
    l.record ⟨s, m⟩
      = { l with found := l.found ++ ((Step.rowFind? ⟨s, m⟩).map l.stayOf).toList } := by
  rcases hm with rfl | rfl <;> simp [record, Step.joins?, Step.undercuts]

theorem record_add (l : Ledger P) (s : Session P) (v : P) :
    l.record ⟨s, .mutate (.add v)⟩
      = if (s.audience.apply (.add v)).accepted then { l with joined := l.joined ++ [v] }
        else l := by
  cases hacc : (s.audience.apply (.add v)).accepted <;>
    simp [record, Step.joins?, Step.rowFind?, Step.search?, Step.undercuts, hacc]

theorem record_remove (l : Ledger P) (s : Session P) (v : P) :
    l.record ⟨s, .mutate (.remove v)⟩
      = { l with undercuts :=
            l.undercuts + (Step.undercuts ⟨s, .mutate (.remove v)⟩).toNat } := by
  simp [record, Step.joins?, Step.rowFind?, Step.search?]

theorem record_update (l : Ledger P) (s : Session P) (lists : Option (CandidateLists P)) :
    l.record ⟨s, .mutate (.update lists)⟩ = l := by
  simp [record, Step.joins?, Step.rowFind?, Step.search?, Step.undercuts]

namespace Accounts

variable {l : Ledger P} {s : Session P}

theorem add (h : l.Accounts s) (v : P) :
    (l.record ⟨s, .mutate (.add v)⟩).Accounts (s.step (.mutate (.add v))) := by
  have hrows := s.audience.rows_addManual v
  rw [record_add]
  cases hacc : (s.audience.apply (.add v)).accepted with
  | false =>
    refine ⟨h.sound.apply (.add v), h.distinct, h.joins_le, ?_⟩
    intro row hrow
    show l.Follows (s.audience.addManual v).audience.roster.rows.toList row
    rw [hrows, if_neg (by rw [← Bool.not_eq_true] at hacc; exact hacc)]
    exact h.follows row hrow
  | true =>
    have hnot : s.audience.isManual v = false := by
      rw [Audience.apply, Audience.accepted_addManual] at hacc
      simpa using (Bool.and_eq_true_iff.1 hacc).2
    have hnew : ∀ x ∈ s.audience.roster.rows.toList, (v == x) = false := by
      intro x hx
      rw [BEq.comm]
      exact h.sound.ne_of_mem hnot (Array.mem_toList_iff.1 hx)
    refine ⟨h.sound.apply (.add v), h.distinct, ?_, ?_⟩
    · intro t ht
      refine Nat.le_trans (h.joins_le t ht) ?_
      show l.joined.countP (· == t.viewer) ≤ (l.joined ++ [v]).countP (· == t.viewer)
      rw [List.countP_append]
      exact Nat.le_add_right _ _
    · intro row hrow
      show Follows _ (s.audience.addManual v).audience.roster.rows.toList row
      rw [hrows, if_pos (show (s.audience.addManual v).accepted = true from hacc),
        Array.toList_push]
      exact (h.follows row hrow).join h.joins_le hnew

theorem remove (h : l.Accounts s) (v : P) :
    (l.record ⟨s, .mutate (.remove v)⟩).Accounts (s.step (.mutate (.remove v))) := by
  rw [record_remove]
  refine ⟨h.sound.apply (.remove v), h.distinct, h.joins_le, ?_⟩
  intro row hrow
  have hcur : s.traversal.cursor = .manual row := hrow
  show Follows _ (s.audience.remove v).audience.roster.rows.toList row
  have hm : s.audience.isManual v = (s.audience.roster.rowOf? v).isSome :=
    h.sound.coherent.contains_eq_isSome_rowOf? v
  cases hr : s.audience.roster.rowOf? v with
  | none =>
    rw [hr, Option.isSome_none] at hm
    simpa [Audience.remove_of_not_isManual hm, Step.undercuts, hcur, hr] using h.follows row hrow
  | some i =>
    rw [hr, Option.isSome_some] at hm
    obtain ⟨xs, x, ys, hlen, -, hsplit, hfreed⟩ := h.sound.coherent.exists_split_of_rowOf? hr
    have hfollows := h.follows row hrow
    rw [hsplit] at hfollows
    rw [Audience.remove_of_isManual h.sound.coherent hm, hfreed]
    simpa [Step.undercuts, hcur, hr, hlen] using hfollows.free

/-- The viewer in the cursor's row is found, and the cursor goes past it. -/
theorem find (h : l.Accounts s) {row : Nat} {v : P} (hcur : s.traversal.cursor = .manual row)
    (hrow : s.audience.roster.rows[row]? = some v) {t : Traversal P}
    (ht : t.cursor = .manual (row + 1)) :
    ({ l with found := l.found ++ [l.stayOf v] } : Ledger P).Accounts ⟨s.audience, t⟩ := by
  have hfollows := h.follows row hcur
  have hv : s.audience.roster.rows.toList[row]? = some v := by
    rw [Array.getElem?_toList, hrow]
  have hahead : l.hasFound v = false := by
    obtain ⟨hlt, hget⟩ := List.getElem?_eq_some_iff.1 hv
    apply hfollows.ahead
    rw [List.drop_eq_getElem_cons hlt, hget]
    exact List.mem_cons_self
  refine ⟨h.sound, ?_, ?_, ?_⟩
  · rw [List.pairwise_append]
    refine ⟨h.distinct, List.pairwise_singleton _ _, ?_⟩
    intro t ht u hu
    obtain rfl := List.mem_singleton.1 hu
    simpa using List.any_eq_false.1 hahead t ht
  · intro t ht
    rcases List.mem_append.1 ht with ht | ht
    · exact h.joins_le t ht
    · obtain rfl := List.mem_singleton.1 ht
      exact Nat.le_refl _
  · intro row' hrow'
    obtain rfl : row + 1 = row' := Cursor.manual.inj (ht.symm.trans hrow')
    refine hfollows.find hv ?_
    intro x hx
    -- an equal viewer behind the row would have two rows
    obtain ⟨j, hj⟩ := List.getElem?_of_mem hx
    rw [List.getElem?_drop, Array.getElem?_toList] at hj
    rw [Bool.eq_false_iff]
    intro hvx
    have := h.sound.coherent.row_unique hrow hj hvx
    omega

theorem search (h : l.Accounts s) {m : Move P} (hm : m = .hasNext ∨ m = .next) :
    (l.record ⟨s, m⟩).Accounts (s.step m) := by
  rw [record_of_search l hm]
  rcases s.step_cases m with ⟨c, rfl, -⟩ | ⟨-, haud, ⟨q, hq, hqa, hqc, hcur⟩ | ⟨hq, hcur⟩⟩
  · rcases hm with hm | hm <;> cases hm
  · have hfind : Step.rowFind? ⟨s, m⟩ = q.rowFind? := by rw [Step.rowFind?, hq, Option.bind_some]
    have hstep : s.step m = ⟨s.audience, (s.step m).traversal⟩ := by rw [← haud]
    rw [hfind, hstep]
    cases hf : q.rowFind? with
    | none =>
      rw [Option.map_none, Option.toList_none, List.append_nil]
      refine ⟨h.sound, h.distinct, h.joins_le, ?_⟩
      intro row hrow
      -- the cursor has left the rows
      have hman := q.isManual_after
      rw [hf, ← hcur, show (s.step m).traversal.cursor = .manual row from hrow] at hman
      cases hman
    | some v =>
      obtain ⟨row, hc, hrow, hafter⟩ := Search.of_rowFind?_eq_some (hqa ▸ h.sound) hf
      exact h.find (hqc ▸ hc) (hqa ▸ hrow) (hcur.trans hafter)
  · have hfind : Step.rowFind? ⟨s, m⟩ = none := by rw [Step.rowFind?, hq, Option.bind_none]
    rw [hfind, Option.map_none, Option.toList_none, List.append_nil]
    refine ⟨haud ▸ h.sound, h.distinct, h.joins_le, ?_⟩
    intro row hrow
    rw [haud]
    exact h.follows row (hcur ▸ hrow)

theorem record (h : l.Accounts s) (m : Move P) : (l.record ⟨s, m⟩).Accounts (s.step m) := by
  cases m with
  | mutate c =>
    cases c with
    | add v => exact h.add v
    | remove v => exact h.remove v
    | update lists =>
      rw [record_update]
      exact ⟨h.sound.apply (.update lists), h.distinct, h.joins_le, h.follows⟩
  | hasNext => exact h.search (.inl rfl)
  | next => exact h.search (.inr rfl)

end Accounts

/-- The ledger of any run accounts for where the run has come to. -/
theorem accounts_ofHistory {a : Audience P} (h : a.Sound) (ms : List (Move P)) :
    (ofHistory ((Session.start a).history ms)).Accounts ((Session.start a).after ms) := by
  refine Session.history_invariant (I := fun h s => (ofHistory h).Accounts s) ?_ ?_ ms
  · intro h s m hacc
    rw [ofHistory_append_singleton]
    exact hacc.record m
  · exact accounts_blank h

/-- The stays found are those of the viewers that the searches found in rows, in order. -/
theorem found_ofHistory (s : Session P) (ms : List (Move P)) :
    (ofHistory (s.history ms)).found.map (·.viewer)
      = (s.searches ms).filterMap Search.rowFind? := by
  refine Session.history_invariant (I := fun h _ => (ofHistory h).found.map (·.viewer)
    = (h.filterMap Step.search?).filterMap Search.rowFind?) ?_ rfl ms
  intro h t m ih
  rw [List.filterMap_filterMap] at ih ⊢
  rw [ofHistory_append_singleton, record, List.map_append, ih, filterMap_append_singleton]
  show _ ++ ((Step.rowFind? ⟨t, m⟩).map (ofHistory h).stayOf).toList.map _
    = _ ++ (Step.rowFind? ⟨t, m⟩).toList
  cases Step.rowFind? ⟨t, m⟩ <;> rfl

/-- **The manual phase of a traversal.** In any run from a reachable audience no stay is found twice.
A viewer found in a row is handed out by the step that finds it, if it goes on, or kept by it, if it
looks ahead, and those handed out and kept are altogether those found, in rows first and then in lists.
When a search is about to leave the rows, the viewers there whose stay was not found are no more than
the removals that freed a row below the cursor, and if there was none of these, those found are the
rows themselves, handle by handle. -/
theorem manual_phase {a : Audience P} (ha : a.Reachable) (ms : List (Move P)) :
    let l := ofHistory ((Session.start a).history ms)
    let s := (Session.start a).after ms
    l.found.Pairwise (fun t u => t.same u = false) ∧
    (∀ st ∈ (Session.start a).history ms, ∀ v, st.rowFind? = some v → st.Yields v) ∧
    (Session.start a).handedOut ms ++ s.traversal.pending.toList
      = l.found.map (·.viewer) ++ ((Session.start a).searches ms).filterMap Search.entryFind? ∧
    ∀ (m : Move P) (q : Search P), Step.search? ⟨s, m⟩ = some q → q.leavesRows = true →
      s.audience.roster.rows.toList.countP (!l.hasFound ·) ≤ l.undercuts ∧
      (l.undercuts = 0 → l.found.map (·.viewer) = s.audience.roster.rows.toList) := by
  intro l s
  have hacc : l.Accounts s := accounts_ofHistory ha.sound ms
  refine ⟨hacc.distinct, ?_, ?_, ?_⟩
  · intro st _ v hv
    obtain ⟨q, hq, hfind⟩ := Option.bind_eq_some_iff.1 hv
    exact Session.yields_of_found? hq (Search.found?_of_rowFind? hfind)
  · rw [Session.handedOut_append_pending, Session.filterMap_found?_searches, found_ofHistory]
  · intro m q hq hleave
    obtain rfl := Session.search?_eq_some hq
    obtain ⟨row, hcur, hend⟩ := Search.exists_row_of_leavesRows hacc.sound hleave
    have hfollows := hacc.follows row hcur
    refine ⟨Nat.le_trans (countP_le_unseen _ hend) hfollows.unseen_le, ?_⟩
    intro hzero
    rw [hfollows.found_eq hzero, List.take_of_length_le hend]

/-- The first viewer is removed when the cursor has passed it. The third moves into its row and is
missed. -/
theorem manual_phase_undercut :
    let a : Audience Keyed :=
      ((Audience.create none 0).run [.add ⟨1, "a"⟩, .add ⟨2, "b"⟩, .add ⟨3, "c"⟩]).audience
    let ms : List (Move Keyed) := [.next, .next, .mutate (.remove ⟨1, "x"⟩)]
    let l := ofHistory ((Session.start a).history ms)
    let s := (Session.start a).after ms
    l.found.map (·.viewer) = [⟨1, "a"⟩, ⟨2, "b"⟩] ∧ l.undercuts = 1 ∧
    s.audience.roster.rows.toList.countP (!l.hasFound ·) ≤ l.undercuts := by
  intro a ms l s
  have ha : a =
      { ownViewer := none
        roster :=
          { rows := #[⟨1, "a"⟩, ⟨2, "b"⟩, ⟨3, "c"⟩]
            index := ((Std.ExtHashMap.emptyWithCapacity 0).insert ⟨1, "a"⟩ 0).insert ⟨2, "b"⟩ 1
              |>.insert ⟨3, "c"⟩ 2 }
        exceptions := ∅
        lists := none } := by
    simp [a, Audience.run, Audience.apply, Audience.addManual, Audience.create, Audience.isSelf,
      Roster.insert, Roster.emptyWithCapacity]
  have hs : s.traversal = ⟨.manual 2, none⟩ ∧ s.audience.roster.rows = #[⟨3, "c"⟩, ⟨2, "b"⟩]
      ∧ s.audience.ownViewer = none ∧ s.audience.lists = none := by
    simp [s, ms, ha, Session.after, Session.step, Session.start, Traversal.start, Traversal.next,
      Audience.advance, Audience.locate, firstFrom?, Spot.next, Audience.apply, Audience.remove,
      Audience.isSelf, Roster.isEmpty, Roster.remove, Std.ExtHashMap.getElem_insert, swapRemove]
  have hl : l.found.map (·.viewer) = [⟨1, "a"⟩, ⟨2, "b"⟩] ∧ l.undercuts = 1 := by
    simp [l, ms, ha, ofHistory, record, blank, stayOf, Session.history, Session.step, Session.start,
      Step.joins?, Step.rowFind?, Step.search?, Step.undercuts, Search.rowFind?, Search.result,
      Traversal.start, Traversal.next, Audience.advance, Audience.locate, firstFrom?, Spot.next,
      Audience.isSelf, Roster.rowOf?, List.findIdx?_cons]
  have hsearch : Step.search? ⟨s, .next⟩ = some ⟨s.audience, s.traversal.cursor⟩ := by
    simp [Step.search?, hs]
  have hleave : Search.leavesRows ⟨s.audience, s.traversal.cursor⟩ = true := by
    simp [hs, Search.leavesRows, Search.after, Audience.advance, Audience.locate, firstFrom?,
      Audience.locateEntry, firstFromNested?, Audience.candidates, Cursor.isManual]
  have hreach : a.Reachable := Audience.reachable_run_create none 0 _
  exact ⟨hl.1, hl.2, ((manual_phase hreach ms).2.2.2 .next _ hsearch hleave).1⟩

end Ledger

end Viewership
