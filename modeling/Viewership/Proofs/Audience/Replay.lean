/-
# Viewership.Proofs.Audience.Replay -- the reports on an audience are a complete log of it

The calls that change an audience report what they did, and nothing of the audience is needed to
read the reports. An `Account` is kept from the reports alone: the manual viewers in row order, the
excluded ones and the number of candidate lists. It does not know the entity, nor the calls that
were silent, nor what they answered. The main statement says that after any run the account is the
audience, row by row and exception by exception.

An account is strict. It accepts a report only where it fits: nobody is added twice, who is dropped
was there, and a refusal is believed only if there was a reason for it. That every report fits is
part of the statement. It depends on the one thing that keeps manual viewers and exceptions apart: a
refused addition is entered as no change at all, although the call has erased an exception before it
was refused.
-/
import Mathlib.Data.List.Forall2
import Viewership.Audience.Summary
import Viewership.Proofs.Audience.Refusal

namespace Viewership

open Std (ExtHashSet)

universe u

variable {P : Type u} [Viewer P]

/-- What the reports on an audience tell. -/
structure Account (P : Type u) [Viewer P] where
  /-- The manual viewers in row order. -/
  rows : Array P
  /-- The excluded viewers. -/
  exceptions : ExtHashSet P
  /-- The number of candidate lists, where none at all count as zero. -/
  listCount : Nat

namespace Account

/-- The account before the first report. -/
def blank : Account P where
  rows := #[]
  exceptions := ∅
  listCount := 0

/-- Whether the account has a viewer equal to `v` as a manual one. -/
def names (c : Account P) (v : P) : Bool := c.rows.any (· == v)

/-- The account after one more report, or none if the report does not fit. -/
def enter? (c : Account P) : TraceEvent P → Option (Account P)
  | .listsReplaced count => some { c with listCount := count }
  | .manualAdded v true =>
    if c.names v then none
    else some { c with rows := c.rows.push v, exceptions := c.exceptions.erase v }
  | .manualAdded v false => if c.names v then some c else none
  | .manualRemoved v =>
    (c.rows.findIdx? (· == v)).map fun row => { c with rows := swapRemove c.rows row }
  | .autoExcluded v true =>
    if c.names v || c.exceptions.contains v then none
    else some { c with exceptions := c.exceptions.insert v }
  | .autoExcluded v false => if c.exceptions.contains v then some c else none

/-- The account after some reports, or none if one of them does not fit. -/
def replay? (c : Account P) (events : List (TraceEvent P)) : Option (Account P) :=
  events.foldlM enter? c

theorem replay?_singleton (c : Account P) (e : TraceEvent P) : c.replay? [e] = c.enter? e := by
  simp [replay?]

theorem replay?_append (c : Account P) (es es' : List (TraceEvent P)) :
    c.replay? (es ++ es') = (c.replay? es).bind (·.replay? es') :=
  List.foldlM_append

end Account

/-- Whether the change is to add the entity to its own audience. -/
def Mutation.addsOwn (own : Option P) : Mutation P → Bool
  | .add v => own.any (· == v)
  | .remove _ => false
  | .update _ => false

/-- What a report says of the call that it is about: which call it was, what it was given and how it
was answered. -/
inductive TraceEvent.Reports : TraceEvent P → Mutation P → Bool → Prop where
  | listsReplaced (lists : Option (CandidateLists P)) :
    Reports (.listsReplaced (lists.elim 0 Array.size)) (.update lists) true
  | manualAdded (v : P) (added : Bool) : Reports (.manualAdded v added) (.add v) added
  | manualRemoved (v : P) : Reports (.manualRemoved v) (.remove v) true
  | autoExcluded (v : P) (excluded : Bool) : Reports (.autoExcluded v excluded) (.remove v) excluded

namespace Audience

/-- The account that agrees with an audience. -/
def account (a : Audience P) : Account P where
  rows := a.roster.rows
  exceptions := a.exceptions
  listCount := a.lists.elim 0 Array.size

theorem account_create (owner : Option (Owner P)) (capacity : Nat) :
    (create owner capacity : Audience P).account = .blank := by
  simp [account, create, Roster.emptyWithCapacity, Account.blank]

/-! ## One report -/

/-- Only adding the entity to its own audience is silent. -/
theorem event?_apply_eq_none_iff (a : Audience P) (m : Mutation P) :
    (a.apply m).event? = none ↔ m.addsOwn a.ownViewer = true := by
  cases m with
  | add v =>
    show (a.addManual v).event? = none ↔ a.isSelf v = true
    cases hs : a.isSelf v with
    | true => simp [addManual_of_isSelf hs]
    | false => simp [addManual_of_not_isSelf hs]
  | remove v =>
    show (a.remove v).event? = none ↔ false = true
    cases hd : a.drops v with
    | true => simp [remove_of_drops hd]
    | false => simp [remove_of_not_drops hd]
  | update lists => simp [apply, updateLists, Mutation.addsOwn]

/-- The report on a change names it and carries the answer. -/
theorem reports_of_event? {a : Audience P} {m : Mutation P} {e : TraceEvent P}
    (he : (a.apply m).event? = some e) : e.Reports m (a.apply m).accepted := by
  cases m with
  | add v =>
    rw [apply] at he ⊢
    cases hs : a.isSelf v with
    | true =>
      rw [addManual_of_isSelf hs] at he
      cases he
    | false =>
      rw [addManual_of_not_isSelf hs] at he ⊢
      cases he
      exact .manualAdded v _
  | remove v =>
    rw [apply] at he ⊢
    cases hd : a.drops v with
    | true =>
      rw [remove_of_drops hd] at he ⊢
      cases he
      exact .manualRemoved v
    | false =>
      rw [remove_of_not_drops hd] at he ⊢
      cases he
      exact .autoExcluded v _
  | update lists =>
    cases he
    exact .listsReplaced lists

/-- Adding the entity to its own audience is refused and changes nothing. -/
theorem refused_of_addsOwn {a : Audience P} {m : Mutation P}
    (h : m.addsOwn a.ownViewer = true) :
    (a.apply m).accepted = false ∧ (a.apply m).audience = a := by
  cases m with
  | add v =>
    have hs : a.isSelf v = true := h
    rw [apply, addManual_of_isSelf hs]
    exact ⟨rfl, rfl⟩
  | remove v => cases h
  | update lists => cases h

namespace Sound

variable {a : Audience P} (h : a.Sound)
include h

theorem names_account (v : P) : a.account.names v = a.isManual v := by
  rw [Bool.eq_iff_iff, isManual, h.coherent.contains_iff_exists_mem, Account.names,
    Array.any_eq_true']
  rfl

theorem enter?_addManual {v : P} (hs : a.isSelf v = false) :
    a.account.enter? (.manualAdded v (!a.isManual v)) = some (a.addManual v).audience.account := by
  have hnames := h.names_account v
  rw [addManual_of_not_isSelf hs]
  cases hm : a.isManual v with
  | true =>
    -- the call has erased an exception, but there was none
    have hexceptions : a.exceptions.erase v = a.exceptions :=
      erase_eq_self_of_not_contains (h.not_isExcluded_of_isManual hm)
    have hrows : (a.roster.insert v).2.rows = a.roster.rows := by
      rw [Roster.rows_insert, show a.roster.contains v = true from hm, if_pos rfl]
    rw [Bool.not_true, Account.enter?, hnames, hm, if_pos rfl, hexceptions]
    simp only [account, hrows]
  | false =>
    have hrows : (a.roster.insert v).2.rows = a.roster.rows.push v := by
      rw [Roster.rows_insert, show a.roster.contains v = false from hm, if_neg Bool.false_ne_true]
    rw [Bool.not_false, Account.enter?, hnames, hm, if_neg Bool.false_ne_true]
    simp only [account, hrows]

theorem enter?_remove_of_isManual {v : P} (hm : a.isManual v = true) :
    a.account.enter? (.manualRemoved v) = some (a.remove v).audience.account := by
  obtain ⟨row, x, hx, hxv⟩ := (h.coherent.contains_iff_exists_row v).1 hm
  have hindex : a.roster.index[v]? = some row := (h.coherent.index_eq_some_iff v row).2 ⟨x, hx, hxv⟩
  -- the row that a search of the account finds is the one that the index tells
  have hfind : a.account.rows.findIdx? (· == v) = some row :=
    (h.coherent.index_eq_rowOf? v).symm.trans hindex
  rw [remove_of_isManual h.coherent hm, Account.enter?, hfind, Option.map_some]
  simp only [account, Roster.rows_remove_of_index_eq_some hindex]

theorem enter?_remove_of_not_isManual {v : P} (hm : a.isManual v = false) :
    a.account.enter? (.autoExcluded v (!a.isExcluded v)) = some (a.remove v).audience.account := by
  have hnames := h.names_account v
  rw [remove_of_not_isManual hm]
  cases he : a.isExcluded v with
  | true =>
    have hcontains : a.account.exceptions.contains v = true := he
    have hexceptions : a.exceptions.insert v = a.exceptions := insert_eq_self_of_contains he
    rw [Bool.not_true, Account.enter?, hcontains, if_pos rfl, hexceptions]
  | false =>
    have hcontains : a.account.exceptions.contains v = false := he
    rw [Bool.not_false, Account.enter?, hnames, hm, hcontains, Bool.or_false,
      if_neg Bool.false_ne_true]
    rfl

/-- The report on a change fits the audience before it, and tells of the audience after it. -/
theorem replay?_apply (m : Mutation P) :
    a.account.replay? (a.apply m).event?.toList = some (a.apply m).audience.account := by
  cases m with
  | add v =>
    rw [apply]
    cases hs : a.isSelf v with
    | true =>
      rw [addManual_of_isSelf hs]
      rfl
    | false =>
      rw [← h.enter?_addManual hs, addManual_of_not_isSelf hs]
      exact Account.replay?_singleton _ _
  | remove v =>
    rw [apply]
    cases hm : a.isManual v with
    | true =>
      rw [← h.enter?_remove_of_isManual hm, remove_of_isManual h.coherent hm]
      exact Account.replay?_singleton _ _
    | false =>
      rw [← h.enter?_remove_of_not_isManual hm, remove_of_not_isManual hm]
      exact Account.replay?_singleton _ _
  | update lists => rfl

end Sound

/-! ## All reports of a run -/

theorem events_run_cons (a : Audience P) (m : Mutation P) (ms : List (Mutation P)) :
    (a.run (m :: ms)).events
      = (a.apply m).event?.toList ++ ((a.apply m).audience.run ms).events := rfl

theorem Sound.replay?_run {a : Audience P} (h : a.Sound) (ms : List (Mutation P)) :
    a.account.replay? (a.run ms).events = some (a.run ms).audience.account := by
  induction ms generalizing a with
  | nil => rfl
  | cons m ms ih =>
    rw [events_run_cons, Account.replay?_append, h.replay?_apply m, Option.bind_some,
      ih (h.apply m), audience_run_cons]

/-- Each change has one report, but for those that add the entity to its own audience. -/
theorem length_events_run (a : Audience P) (ms : List (Mutation P)) :
    (a.run ms).events.length = ms.countP fun m => !m.addsOwn a.ownViewer := by
  induction ms generalizing a with
  | nil => rfl
  | cons m ms ih =>
    have hone : (a.apply m).event?.toList.length = if !m.addsOwn a.ownViewer then 1 else 0 := by
      have hnone := a.event?_apply_eq_none_iff m
      cases hevent : (a.apply m).event? with
      | none => rw [hnone.1 hevent]; rfl
      | some e => cases hown : m.addsOwn a.ownViewer <;> simp_all
    rw [events_run_cons, List.length_append, ih, ownViewer_apply, List.countP_cons, hone,
      Nat.add_comm]

/-- The reports of a run are those on its changes in order, without the silent ones. -/
theorem reports_run (a : Audience P) (ms : List (Mutation P)) :
    List.Forall₂ (fun e x => e.Reports x.1 x.2) (a.run ms).events
      ((ms.zip (a.run ms).accepted).filter fun x => !x.1.addsOwn a.ownViewer) := by
  induction ms generalizing a with
  | nil => exact .nil
  | cons m ms ih =>
    have hrest := ih (a.apply m).audience
    rw [ownViewer_apply] at hrest
    have hzip : (m :: ms).zip (a.run (m :: ms)).accepted
        = (m, (a.apply m).accepted) :: ms.zip ((a.apply m).audience.run ms).accepted := rfl
    rw [events_run_cons, hzip, List.filter_cons]
    cases hevent : (a.apply m).event? with
    | none =>
      rw [(a.event?_apply_eq_none_iff m).1 hevent]
      exact hrest
    | some e =>
      have hloud : m.addsOwn a.ownViewer = false := by
        rw [Bool.eq_false_iff, Ne, ← a.event?_apply_eq_none_iff m, hevent]
        exact Option.some_ne_none e
      rw [hloud]
      exact .cons (reports_of_event? hevent) hrest

/-- **The reports are a complete log.** After any run from a new audience each report has fitted,
and the account kept from them has the rows of the audience in their order, its exceptions and the
number of its lists. So a description of the audience, which counts these, can be written from the
account. Every change has exactly one report, which names the viewer that the call was given and
carries the answer, unless it adds the entity to its own audience; such a change is silent, and it is
refused and changes nothing. -/
theorem run_create_replay [HasOutline P] (owner : Option (Owner P)) (capacity : Nat)
    (ms : List (Mutation P)) :
    let r := (create owner capacity).run ms
    let a := r.audience
    let own := owner.bind (·.viewer)
    ∃ c : Account P,
      Account.blank.replay? r.events = some c ∧
      c.rows = a.roster.rows ∧ c.exceptions = a.exceptions ∧
      c.listCount = a.lists.elim 0 Array.size ∧
      (∃ lists : Option Nat, lists.getD 0 = c.listCount ∧
        outline a = .record "ViewEngine"
          [("this", outline own), ("manual", outline c.rows.size),
            ("exceptions", outline c.exceptions.size), ("lists", outline lists)] true) ∧
      r.events.length = ms.countP (fun m => !m.addsOwn own) ∧
      List.Forall₂ (fun e x => e.Reports x.1 x.2) r.events
        ((ms.zip r.accepted).filter fun x => !x.1.addsOwn own) ∧
      ∀ m, ((a.apply m).event? = none ↔ m.addsOwn own = true) ∧
        (m.addsOwn own = true → (a.apply m).accepted = false ∧ (a.apply m).audience = a) := by
  intro r a own
  have hown : a.ownViewer = own := ownViewer_run _ ms
  refine ⟨a.account, ?_, rfl, rfl, rfl, ⟨a.lists.map Array.size, ?_, ?_⟩, length_events_run _ ms,
    reports_run _ ms, ?_⟩
  · rw [← account_create owner capacity]
    exact (sound_create owner capacity).replay?_run ms
  · cases hlists : a.lists <;> simp [account, hlists]
  · rw [← hown]
    rfl
  · intro m
    rw [event?_apply_eq_none_iff, ← hown]
    exact ⟨Iff.rfl, refused_of_addsOwn⟩

end Audience

end Viewership
