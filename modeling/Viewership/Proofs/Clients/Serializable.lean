/-
# Viewership.Proofs.Clients.Serializable -- clients that keep to viewers of their own

Several clients share one audience. Each adds and removes viewers, none of them a viewer of another
client, and one more replaces the candidate lists now and then. The calls are atomic and interleave in
any way. No client can tell: it is answered as if the clients had come one after another, in whatever
order. What is read in the end is what would be read after them, but for the order of the manual
viewers, which shows who removed whom when. The candidate lists are those that were brought last, and
no call about a viewer can change that.
-/
import Viewership.Proofs.Audience.Standing
import Viewership.Proofs.Clients.Schedule

namespace Viewership

open Audience

universe u v

variable {P : Type u}

/-- The change that a call about `v` makes. -/
def Call.change (v : P) : Call → Mutation P
  | .add => .add v
  | .remove => .remove v

theorem Call.viewer?_change (v : P) (call : Call) : (call.change v).viewer? = some v := by
  cases call <;> rfl

variable [Viewer P]

/-- Clients of one audience, each with calls about viewers of its own, and new lists from one more. -/
structure Clients (ι : Type v) (P : Type u) [Viewer P] where
  calls : ι → List (Call × P)
  updates : List (Option (CandidateLists P))
  disjoint {i j : ι} (hij : i ≠ j) :
    ∀ x ∈ calls i, ∀ y ∈ calls j, (x.2 == y.2) = false

namespace Clients

variable {ι : Type v} [DecidableEq ι] (clients : Clients ι P)

/-- What a client does, in order. The one that brings the lists is `none`. -/
def script : Option ι → List (Mutation P)
  | none => clients.updates.map .update
  | some i => (clients.calls i).map fun x => x.1.change x.2

/-- The schedule has exactly the changes of the clients, those of each client in its order. -/
def Interleaves (s : List (Option ι × Mutation P)) : Prop := ∀ c, ofClient c s = clients.script c

/-- The clients one after another. -/
def inTurn (order : List (Option ι)) : List (Option ι × Mutation P) :=
  order.flatMap fun c => (clients.script c).map (c, ·)

omit [DecidableEq ι] in
/-- Changes of different clients are independent. -/
theorem independent {c c' : Option ι} (hne : c ≠ c') {m m' : Mutation P}
    (hm : m ∈ clients.script c) (hm' : m' ∈ clients.script c') : m.Independent m' := by
  cases c with
  | none =>
    obtain ⟨lists, -, rfl⟩ := List.mem_map.1 hm
    cases c' with
    | none => exact absurd rfl hne
    | some j =>
      obtain ⟨⟨call, v⟩, -, rfl⟩ := List.mem_map.1 hm'
      cases call <;> exact fun _ _ => nofun
  | some i =>
    obtain ⟨⟨call, v⟩, hv, rfl⟩ := List.mem_map.1 hm
    cases c' with
    | none =>
      obtain ⟨lists, -, rfl⟩ := List.mem_map.1 hm'
      cases call <;> exact nofun
    | some j =>
      obtain ⟨⟨call', v'⟩, hv', rfl⟩ := List.mem_map.1 hm'
      have hvv' : (v == v') = false :=
        clients.disjoint (fun hij => hne (congrArg some hij)) _ hv _ hv'
      have hspares : ∀ w' ∈ (call'.change v').viewer?, (call.change v).Spares w' := by
        intro w' hw' w hw
        rw [Call.viewer?_change] at hw hw'
        rw [← Option.some.inj hw, ← Option.some.inj hw', hvv']
      cases call <;> exact hspares

theorem ofClient_inTurn {order : List (Option ι)} (hnodup : order.Nodup) (c : Option ι) :
    ofClient c (clients.inTurn order) = if c ∈ order then clients.script c else [] := by
  induction order with
  | nil => rfl
  | cons c' order ih =>
    obtain ⟨hnot, hnodup⟩ := List.nodup_cons.1 hnodup
    rw [inTurn, List.flatMap_cons, ofClient_append, ofClient_map_mk, ← inTurn, ih hnodup]
    by_cases hc : c' = c
    · rw [if_pos hc, ← hc, if_neg hnot, if_pos List.mem_cons_self, List.append_nil]
    · simp only [if_neg hc, List.nil_append, List.mem_cons, Ne.symm hc, false_or]

/-- One after another is an interleaving too. -/
theorem interleaves_inTurn {order : List (Option ι)} (hnodup : order.Nodup)
    (hall : ∀ c, c ∈ order) : clients.Interleaves (clients.inTurn order) := by
  intro c
  rw [clients.ofClient_inTurn hnodup, if_pos (hall c)]

/-- In an interleaving, changes of different clients are independent. -/
theorem Interleaves.independent {clients : Clients ι P} {s : List (Option ι × Mutation P)}
    (hs : clients.Interleaves s) :
    ∀ x ∈ s, ∀ y ∈ s, x.1 ≠ y.1 → x.2.Independent y.2 := by
  have hscript : ∀ x ∈ s, x.2 ∈ clients.script x.1 := by
    intro x hx
    rw [← hs x.1]
    exact mem_ofClient.2 hx
  intro x hx y hy hne
  exact clients.independent hne (hscript x hx) (hscript y hy)

/-- Whatever falls between them, the lists that are brought come in their order. -/
theorem Interleaves.filterMap_newLists? {clients : Clients ι P} {s : List (Option ι × Mutation P)}
    (hs : clients.Interleaves s) :
    (s.map Prod.snd).filterMap Mutation.newLists? = clients.updates := by
  have hnone : ∀ x ∈ s, x.1 ≠ none → x.2.newLists? = none := by
    intro x hx hne
    obtain ⟨i, hi⟩ := Option.ne_none_iff_exists'.1 hne
    have hmem : x.2 ∈ clients.script (some i) := by
      rw [← hs (some i), ← hi]
      exact mem_ofClient.2 hx
    obtain ⟨⟨call, v⟩, -, hcall⟩ := List.mem_map.1 hmem
    rw [← hcall]
    cases call <;> rfl
  have hupdates : (ofClient none s).filterMap Mutation.newLists? = clients.updates := by
    rw [hs none, script, List.filterMap_map]
    exact List.filterMap_some
  rw [filterMap_map_snd_eq hnone, hupdates]

/-- **Clients that keep to viewers of their own do not notice each other.** However their calls fall
between each other, every client is answered as if the clients had come one after another, in any
order. What is read in the end is what would be read then: the same viewers are contained, excluded
and accepted, there are as many, and a copy has the same candidates after the same manual viewers, in
an order that may differ. The candidate lists are the last that were brought, or those at the start if
none were. -/
theorem serializable (clients : Clients ι P) {a : Audience P} (ha : a.Reachable)
    {s : List (Option ι × Mutation P)} (hs : clients.Interleaves s)
    {order : List (Option ι)} (hnodup : order.Nodup) (hall : ∀ c, c ∈ order) :
    let t := clients.inTurn order
    (∀ c, ofClient c (a.answers s) = ofClient c (a.answers t)) ∧
    ReadAlike (a.run (s.map Prod.snd)).audience (a.run (t.map Prod.snd)).audience ∧
    (a.run (s.map Prod.snd)).audience.lists = clients.updates.getLast?.getD a.lists := by
  intro t
  have hst (c : Option ι) : ofClient c s = ofClient c t := by
    rw [hs c, clients.interleaves_inTurn hnodup hall c]
  obtain ⟨hanswers, halike⟩ := sameOutcome_of_exchanged (exchanged_of_ofClient_eq hst hs.independent)
    (.refl a) ha.sound ha.sound
  refine ⟨hanswers, halike.readAlike (ha.sound.run _) (ha.sound.run _), ?_⟩
  rw [lists_run, hs.filterMap_newLists?]

/-- One client adds a viewer and removes one that was there, the other adds a viewer and excludes one,
and new lists come in between. The rows come out the other way round than one after another. -/
theorem serializable_keyed :
    let a : Audience Keyed := ((create none 0).run [.add ⟨1, "a"⟩]).audience
    let lists : CandidateLists Keyed := #[#[⟨5, "e"⟩, ⟨1, "f"⟩]]
    let clients : Clients Bool Keyed :=
      { calls := fun i =>
          if i then [(.add, ⟨2, "b"⟩), (.remove, ⟨1, "x"⟩)] else [(.add, ⟨3, "c"⟩), (.remove, ⟨4, "d"⟩)]
        updates := [some lists]
        disjoint := by decide }
    let s : List (Option Bool × Mutation Keyed) :=
      [(some true, .add ⟨2, "b"⟩), (some false, .add ⟨3, "c"⟩), (none, .update (some lists)),
        (some true, .remove ⟨1, "x"⟩), (some false, .remove ⟨4, "d"⟩)]
    let order := [some false, none, some true]
    let b := (a.run (s.map Prod.snd)).audience
    let b' := (a.run ((clients.inTurn order).map Prod.snd)).audience
    a.Reachable ∧ clients.Interleaves s ∧ order.Nodup ∧ (∀ c, c ∈ order) ∧
    b.roster.rows = #[⟨3, "c"⟩, ⟨2, "b"⟩] ∧ b'.roster.rows = #[⟨2, "b"⟩, ⟨3, "c"⟩] ∧
    ofClient (some true) (a.answers (clients.inTurn order)) = [true, true] ∧ ReadAlike b b' ∧
    b.lists = some lists := by
  intro a lists clients s order b b'
  have hreach : a.Reachable := reachable_run_create _ _ _
  have hs : clients.Interleaves s := by
    rintro (_ | _ | _) <;> rfl
  have hnodup : order.Nodup := by decide
  have hall : ∀ c, c ∈ order := by
    rintro (_ | _ | _) <;> decide
  have ha : a =
      { ownViewer := none
        roster :=
          { rows := #[⟨1, "a"⟩], index := (Std.ExtHashMap.emptyWithCapacity 0).insert ⟨1, "a"⟩ 0 }
        exceptions := ∅
        lists := none } := by
    simp [a, run, apply, addManual, create, isSelf, Roster.insert, Roster.emptyWithCapacity]
  clear_value a
  obtain ⟨hanswers, hread, hlists⟩ := clients.serializable hreach hs hnodup hall
  refine ⟨hreach, hs, hnodup, hall, ?_, ?_, ?_, hread, hlists⟩
  · simp [b, s, ha, run, apply, addManual, remove, updateLists, isSelf, Roster.insert,
      Roster.isEmpty, Roster.remove, swapRemove, Std.ExtHashMap.getElem_insert]
  · simp [b', order, clients, inTurn, script, Call.change, ha, run, apply, addManual, remove,
      updateLists, isSelf, Roster.insert, Roster.isEmpty, Roster.remove, swapRemove,
      Std.ExtHashMap.getElem_insert]
  · rw [← hanswers]
    simp [s, ofClient, answers, ha, run, apply, addManual, remove, updateLists, isSelf, Roster.insert,
      Roster.isEmpty, Roster.remove, swapRemove, Std.ExtHashMap.getElem_insert]

end Clients

end Viewership
