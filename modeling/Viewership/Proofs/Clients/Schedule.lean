/-
# Viewership.Proofs.Clients.Schedule -- changes by several clients, in the order they are made

Each client makes its changes in an order of its own, and how they fall between those of the others is
up to chance. A schedule is the list of all changes as they were made, each with its client. What the
clients had in mind is what `ofClient` reads off it, so two schedules are interleavings of the same
scripts if it reads the same off both.

Two such schedules are rearrangements of each other by steps that exchange two neighbours. If changes
by different clients are independent, no step shows: every client is answered as before, and the
audiences that come out are alike.
-/
import Viewership.Proofs.Audience.Exchange

namespace Viewership

universe u v w

/-! ## The part of one client -/

section OfClient

variable {κ : Type v} [DecidableEq κ] {β : Type w}

/-- The entries of client `c`, in order. -/
def ofClient (c : κ) (l : List (κ × β)) : List β :=
  l.filterMap fun x => if x.1 = c then some x.2 else none

@[simp]
theorem ofClient_nil (c : κ) : ofClient c ([] : List (κ × β)) = [] := rfl

theorem ofClient_cons (c : κ) (x : κ × β) (l : List (κ × β)) :
    ofClient c (x :: l) = if x.1 = c then x.2 :: ofClient c l else ofClient c l := by
  unfold ofClient
  by_cases h : x.1 = c <;> simp [h]

theorem ofClient_append (c : κ) (l m : List (κ × β)) :
    ofClient c (l ++ m) = ofClient c l ++ ofClient c m :=
  List.filterMap_append

/-- Of what one client did, all of it is its own and nothing is anybody else's. -/
theorem ofClient_map_mk (c c' : κ) (ys : List β) :
    ofClient c (ys.map (c', ·)) = if c' = c then ys else [] := by
  induction ys with
  | nil => simp
  | cons y ys ih =>
    rw [List.map_cons, ofClient_cons, ih]
    by_cases h : c' = c <;> simp [h]

theorem mem_ofClient {c : κ} {y : β} {l : List (κ × β)} : y ∈ ofClient c l ↔ (c, y) ∈ l := by
  rw [ofClient, List.mem_filterMap]
  constructor
  · rintro ⟨⟨k, z⟩, hmem, hz⟩
    split at hz
    · next hk =>
      obtain rfl : k = c := hk
      obtain rfl : z = y := Option.some.inj hz
      exact hmem
    · cases hz
  · intro hmem
    exact ⟨(c, y), hmem, if_pos rfl⟩

/-- What is asked of one client's entries only is asked of that client. -/
theorem filterMap_map_snd_eq {γ : Type u} {f : β → Option γ} {c : κ} {l : List (κ × β)}
    (h : ∀ x ∈ l, x.1 ≠ c → f x.2 = none) :
    (l.map Prod.snd).filterMap f = (ofClient c l).filterMap f := by
  induction l with
  | nil => rfl
  | cons x l ih =>
    obtain ⟨hx, hl⟩ := List.forall_mem_cons.1 h
    rw [List.map_cons, ofClient_cons]
    by_cases hc : x.1 = c
    · rw [if_pos hc, List.filterMap_cons, List.filterMap_cons, ih hl]
    · rw [if_neg hc, List.filterMap_cons_none (hx hc), ih hl]

/-- What nobody has entries in is empty. -/
theorem eq_nil_of_ofClient {l : List (κ × β)} (h : ∀ c, ofClient c l = []) : l = [] := by
  cases l with
  | nil => rfl
  | cons x l =>
    have hx := h x.1
    rw [ofClient_cons, if_pos rfl] at hx
    cases hx

/-- Before the first entry of a client come entries of others only. -/
theorem exists_split_of_ofClient {c : κ} {y : β} {l : List (κ × β)} {ys : List β}
    (h : ofClient c l = y :: ys) :
    ∃ pre post, l = pre ++ (c, y) :: post ∧ ∀ x ∈ pre, x.1 ≠ c := by
  induction l with
  | nil => cases h
  | cons x l ih =>
    rw [ofClient_cons] at h
    by_cases hx : x.1 = c
    · rw [if_pos hx] at h
      refine ⟨[], l, ?_, List.forall_mem_nil _⟩
      rw [← (List.cons.inj h).1, ← hx]
      rfl
    · rw [if_neg hx] at h
      obtain ⟨pre, post, rfl, hpre⟩ := ih h
      exact ⟨x :: pre, post, rfl, List.forall_mem_cons.2 ⟨hx, hpre⟩⟩

end OfClient

variable {P : Type u} [Viewer P] {κ : Type v}

/-! ## Rearranging a schedule -/

/-- One schedule comes from the other by exchanging neighbours that are independent changes of
different clients. -/
inductive Exchanged : List (κ × Mutation P) → List (κ × Mutation P) → Prop
  | nil : Exchanged [] []
  | cons (x : κ × Mutation P) {s t : List (κ × Mutation P)} (h : Exchanged s t) :
      Exchanged (x :: s) (x :: t)
  | swap (x y : κ × Mutation P) (s : List (κ × Mutation P)) (hne : x.1 ≠ y.1)
      (hind : x.2.Independent y.2) : Exchanged (x :: y :: s) (y :: x :: s)
  | trans {s t r : List (κ × Mutation P)} (h : Exchanged s t) (h' : Exchanged t r) : Exchanged s r

theorem Exchanged.refl (s : List (κ × Mutation P)) : Exchanged s s := by
  induction s with
  | nil => exact .nil
  | cons x s ih => exact .cons x ih

/-- A change may be made later, past independent changes of other clients. -/
theorem Exchanged.cons_append {x : κ × Mutation P} {pre : List (κ × Mutation P)}
    (h : ∀ y ∈ pre, x.1 ≠ y.1 ∧ x.2.Independent y.2) (post : List (κ × Mutation P)) :
    Exchanged (x :: (pre ++ post)) (pre ++ x :: post) := by
  induction pre with
  | nil => exact .refl _
  | cons y pre ih =>
    obtain ⟨⟨hne, hind⟩, hpre⟩ := List.forall_mem_cons.1 h
    exact .trans (.swap x y (pre ++ post) hne hind) (.cons y (ih hpre))

variable [DecidableEq κ]

/-- Schedules with the same part for each client are rearrangements of each other. -/
theorem exchanged_of_ofClient_eq {s t : List (κ × Mutation P)}
    (h : ∀ c, ofClient c s = ofClient c t)
    (hind : ∀ x ∈ s, ∀ y ∈ s, x.1 ≠ y.1 → x.2.Independent y.2) : Exchanged s t := by
  induction s generalizing t with
  | nil =>
    obtain rfl : t = [] := eq_nil_of_ofClient fun c => (h c).symm
    exact .nil
  | cons x s ih =>
    have hx : ofClient x.1 t = x.2 :: ofClient x.1 s := by
      rw [← h x.1, ofClient_cons, if_pos rfl]
    obtain ⟨pre, post, rfl, hpre⟩ := exists_split_of_ofClient hx
    -- without the first change of its client, both go on with the same parts
    have hrest (c : κ) : ofClient c s = ofClient c (pre ++ post) := by
      have hc := h c
      rw [ofClient_append, ofClient_cons, ofClient_cons] at hc
      rw [ofClient_append]
      by_cases hxc : x.1 = c
      · have hnone : ofClient c pre = [] := by
          rw [List.eq_nil_iff_forall_not_mem]
          intro m hm
          exact hpre _ (mem_ofClient.1 hm) hxc.symm
        rw [if_pos hxc, if_pos hxc, hnone] at hc
        rw [hnone]
        exact (List.cons.inj hc).2
      · rwa [if_neg hxc, if_neg hxc] at hc
    have hpast : ∀ y ∈ pre, x.1 ≠ y.1 ∧ x.2.Independent y.2 := by
      intro y hy
      have hmem : y ∈ x :: s := by
        rw [← Prod.eta y, ← mem_ofClient, h y.1, mem_ofClient]
        exact List.mem_append_left _ hy
      have hne := (hpre y hy).symm
      exact ⟨hne, hind x List.mem_cons_self y hmem hne⟩
    have hmoved : Exchanged (x :: s) (x :: (pre ++ post)) :=
      .cons x (ih hrest fun y hy z hz =>
        hind y (List.mem_cons_of_mem x hy) z (List.mem_cons_of_mem x hz))
    exact hmoved.trans (.cons_append hpast post)

/-! ## Carrying out a schedule -/

namespace Audience

/-- Who was answered what, in order. -/
def answers (a : Audience P) (s : List (κ × Mutation P)) : List (κ × Bool) :=
  (s.map Prod.fst).zip (a.run (s.map Prod.snd)).accepted

omit [DecidableEq κ] in
theorem answers_cons (a : Audience P) (x : κ × Mutation P) (s : List (κ × Mutation P)) :
    a.answers (x :: s) = (x.1, (a.apply x.2).accepted) :: (a.apply x.2).audience.answers s := rfl

/-- Each client is answered alike by both, and alike audiences come out. -/
structure SameOutcome (a b : Audience P) (s t : List (κ × Mutation P)) : Prop where
  answers (c : κ) : ofClient c (a.answers s) = ofClient c (b.answers t)
  alike : Alike (a.run (s.map Prod.snd)).audience (b.run (t.map Prod.snd)).audience

theorem SameOutcome.trans {a b c : Audience P} {s t r : List (κ × Mutation P)}
    (h : SameOutcome a b s t) (h' : SameOutcome b c t r) : SameOutcome a c s r :=
  ⟨fun k => (h.answers k).trans (h'.answers k), h.alike.trans h'.alike⟩

/-- The same change first, answered the same, and the same outcome of the rest. -/
theorem SameOutcome.cons {a b : Audience P} {x : κ × Mutation P} {s t : List (κ × Mutation P)}
    (hacc : (a.apply x.2).accepted = (b.apply x.2).accepted)
    (h : SameOutcome (a.apply x.2).audience (b.apply x.2).audience s t) :
    SameOutcome a b (x :: s) (x :: t) where
  answers c := by
    rw [answers_cons, answers_cons, ofClient_cons, ofClient_cons, h.answers c, hacc]
  alike := h.alike

/-- Alike audiences go through the same schedule alike. -/
theorem Alike.sameOutcome {a b : Audience P} (h : Alike a b) (ha : a.Sound) (hb : b.Sound)
    (s : List (κ × Mutation P)) : SameOutcome a b s s := by
  induction s generalizing a b with
  | nil => exact ⟨fun _ => rfl, h⟩
  | cons x s ih =>
    obtain ⟨hacc, halike⟩ := h.apply ha hb x.2
    exact .cons hacc (ih halike (ha.apply x.2) (hb.apply x.2))

/-- Rearranging a schedule does not change its outcome. -/
theorem sameOutcome_of_exchanged {s t : List (κ × Mutation P)} (h : Exchanged s t) {a b : Audience P}
    (hab : Alike a b) (ha : a.Sound) (hb : b.Sound) : SameOutcome a b s t := by
  induction h generalizing a b with
  | nil => exact hab.sameOutcome ha hb []
  | cons x _ ih =>
    obtain ⟨hacc, halike⟩ := hab.apply ha hb x.2
    exact .cons hacc (ih halike (ha.apply x.2) (hb.apply x.2))
  | swap x y s hne hind =>
    -- exchange the two in `a` first, then go over to `b`
    refine SameOutcome.trans ?_ (hab.sameOutcome ha hb (y :: x :: s))
    have hrest := (ha.alike_apply_apply hind).sameOutcome ((ha.apply x.2).apply y.2)
      ((ha.apply y.2).apply x.2) s
    refine ⟨?_, hrest.alike⟩
    intro c
    have hx := ha.accepted_apply_of_independent hind.symm
    have hy := ha.accepted_apply_of_independent hind
    simp only [answers_cons, ofClient_cons, hrest.answers c, hx, hy]
    by_cases hxc : x.1 = c
    · have hyc : y.1 ≠ c := fun hyc => hne (hxc.trans hyc.symm)
      simp only [if_pos hxc, if_neg hyc]
    · simp only [if_neg hxc]
  | trans _ _ ih ih' => exact (ih hab ha hb).trans (ih' (.refl b) hb hb)

end Audience

end Viewership
