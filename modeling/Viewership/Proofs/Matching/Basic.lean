/-
# Viewership.Proofs.Matching.Basic -- the same viewers under other handles

Handles of one viewer are equal and can be told apart all the same, by a tag that `==` does not look
at. Two values match if they have the same shape and the same viewers in the same places, by whatever
handles they go. The modules beside this one show that matching audiences, traversals and scenes stay
so under matching calls and give matching answers.

What they have in common is here: when options, lists and arrays match, what their operations keep of
that, and that a scan which tests matching entries alike ends in the same place.
-/
import Mathlib.Data.List.Forall2
import Viewership.Scan
import Viewership.Viewer

namespace Viewership

universe u v w

/-- The two handles are of one viewer. -/
def SameViewer {P : Type u} [Viewer P] (v w : P) : Prop := (v == w) = true

/-- A comparison does not depend on the handles. -/
theorem SameViewer.beq_eq {P : Type u} [Viewer P] {v w x y : P} (hxy : SameViewer x y)
    (hvw : SameViewer v w) : (x == v) = (y == w) := by
  rw [BEq.congr_left hxy, BEq.congr_right hvw]

/-! ## Lists -/

section Lists

variable {α : Type u} {β : Type v} {R : α → β → Prop} {xs : List α} {ys : List β}

theorem forall₂_getElem? (h : List.Forall₂ R xs ys) (i : Nat) : Option.Rel R xs[i]? ys[i]? := by
  induction h generalizing i with
  | nil => exact .none
  | cons hxy _ ih =>
    cases i with
    | zero => exact .some hxy
    | succ i => exact ih i

theorem forall₂_getLast? (h : List.Forall₂ R xs ys) : Option.Rel R xs.getLast? ys.getLast? := by
  rw [List.getLast?_eq_getElem?, List.getLast?_eq_getElem?, h.length_eq]
  exact forall₂_getElem? h _

theorem forall₂_dropLast (h : List.Forall₂ R xs ys) : List.Forall₂ R xs.dropLast ys.dropLast := by
  rw [List.dropLast_eq_take, List.dropLast_eq_take, h.length_eq]
  exact List.forall₂_take _ h

theorem forall₂_set (h : List.Forall₂ R xs ys) (i : Nat) {x : α} {y : β} (hxy : R x y) :
    List.Forall₂ R (xs.set i x) (ys.set i y) := by
  induction h generalizing i with
  | nil => exact .nil
  | cons hxy' htail ih =>
    cases i with
    | zero => exact .cons hxy htail
    | succ i => exact .cons hxy' (ih i)

theorem forall₂_modify (h : List.Forall₂ R xs ys) (i : Nat) {f : α → α} {g : β → β}
    (hfg : ∀ x y, R x y → R (f x) (g y)) : List.Forall₂ R (xs.modify i f) (ys.modify i g) := by
  induction h generalizing i with
  | nil => simp
  | cons hxy htail ih =>
    cases i with
    | zero => exact .cons (hfg _ _ hxy) htail
    | succ i => exact .cons hxy (ih i)

/-- Tests that agree on related entries have the same answer for related lists. -/
theorem any_eq_of_forall₂ (h : List.Forall₂ R xs ys) {p : α → Bool} {q : β → Bool}
    (hpq : ∀ x y, R x y → p x = q y) : xs.any p = ys.any q := by
  induction h with
  | nil => rfl
  | cons hxy _ ih => rw [List.any_cons, List.any_cons, hpq _ _ hxy, ih]

theorem findIdx?_eq_of_forall₂ (h : List.Forall₂ R xs ys) {p : α → Bool} {q : β → Bool}
    (hpq : ∀ x y, R x y → p x = q y) : xs.findIdx? p = ys.findIdx? q := by
  induction h with
  | nil => rfl
  | cons hxy _ ih => rw [List.findIdx?_cons, List.findIdx?_cons, hpq _ _ hxy, ih]

theorem forall₂_filter (h : List.Forall₂ R xs ys) {p : α → Bool} {q : β → Bool}
    (hpq : ∀ x y, R x y → p x = q y) : List.Forall₂ R (xs.filter p) (ys.filter q) := by
  refine List.rel_filter (R := R) ?_ h
  intro x y hxy
  show p x = true ↔ q y = true
  rw [hpq x y hxy]

theorem forall₂_toList {x? : Option α} {y? : Option β} (h : Option.Rel R x? y?) :
    List.Forall₂ R x?.toList y?.toList := by
  cases h with
  | some hxy => exact .cons hxy .nil
  | none => exact .nil

theorem isSome_eq_of_rel {x? : Option α} {y? : Option β} (h : Option.Rel R x? y?) :
    x?.isSome = y?.isSome := by
  cases h <;> rfl

end Lists

/-! ## Arrays -/

/-- The arrays are equally long, and entries in the same place are related. -/
def Entrywise {α : Type u} {β : Type v} (R : α → β → Prop) (xs : Array α) (ys : Array β) : Prop :=
  List.Forall₂ R xs.toList ys.toList

namespace Entrywise

variable {α : Type u} {β : Type v} {R : α → β → Prop} {xs : Array α} {ys : Array β}

theorem size_eq (h : Entrywise R xs ys) : xs.size = ys.size := by
  rw [← Array.length_toList, ← Array.length_toList]
  exact List.Forall₂.length_eq h

theorem getElem? (h : Entrywise R xs ys) (i : Nat) : Option.Rel R xs[i]? ys[i]? := by
  rw [← Array.getElem?_toList, ← Array.getElem?_toList]
  exact forall₂_getElem? h i

theorem getElem (h : Entrywise R xs ys) {i : Nat} (hx : i < xs.size) (hy : i < ys.size) :
    R xs[i] ys[i] := by
  have hget := h.getElem? i
  rw [Array.getElem?_eq_getElem hx, Array.getElem?_eq_getElem hy] at hget
  cases hget with
  | some hxy => exact hxy

theorem push (h : Entrywise R xs ys) {x : α} {y : β} (hxy : R x y) :
    Entrywise R (xs.push x) (ys.push y) := by
  rw [Entrywise, Array.toList_push, Array.toList_push]
  exact List.rel_append h (.cons hxy .nil)

theorem setIfInBounds (h : Entrywise R xs ys) (i : Nat) {x : α} {y : β} (hxy : R x y) :
    Entrywise R (xs.setIfInBounds i x) (ys.setIfInBounds i y) := by
  rw [Entrywise, Array.toList_setIfInBounds, Array.toList_setIfInBounds]
  exact forall₂_set h i hxy

theorem modify (h : Entrywise R xs ys) (i : Nat) {f : α → α} {g : β → β}
    (hfg : ∀ x y, R x y → R (f x) (g y)) : Entrywise R (xs.modify i f) (ys.modify i g) := by
  rw [Entrywise, Array.toList_modify, Array.toList_modify]
  exact forall₂_modify h i hfg

/-- Laid end to end, sequences of related sequences have related entries in the same places. -/
theorem flatMap {xss : List (Array α)} {yss : List (Array β)}
    (h : List.Forall₂ (Entrywise R) xss yss) :
    List.Forall₂ R (xss.flatMap Array.toList) (yss.flatMap Array.toList) :=
  List.rel_flatMap h fun _ _ hxy => hxy

end Entrywise

/-! ## Scans -/

section Scans

variable {α : Type u} {β : Type v} {R : α → β → Prop} {keep : α → Bool} {keep' : β → Bool}

/-- Finds at the same position of related entries. -/
def SameFind {ι : Type w} (R : α → β → Prop) (p : ι × α) (q : ι × β) : Prop :=
  p.1 = q.1 ∧ R p.2 q.2

theorem firstFrom?_rel (hkeep : ∀ x y, R x y → keep x = keep' y) {xs : Array α} {ys : Array β}
    (h : Entrywise R xs ys) (start : Nat) :
    Option.Rel (SameFind R) (firstFrom? keep xs start) (firstFrom? keep' ys start) := by
  have hsize := h.size_eq
  -- along the scan of `xs`, whose every branch the scan of `ys` takes as well
  fun_induction firstFrom? keep xs start with
  | case1 start hs hk =>
    have hxy := h.getElem hs (hsize ▸ hs)
    rw [firstFrom?, dif_pos (hsize ▸ hs), if_pos (by rw [← hkeep _ _ hxy, hk])]
    exact .some ⟨rfl, hxy⟩
  | case2 start hs hk ih =>
    have hxy := h.getElem hs (hsize ▸ hs)
    have hnext : firstFrom? keep' ys start = firstFrom? keep' ys (start + 1) := by
      rw [firstFrom?, dif_pos (hsize ▸ hs), if_neg (by rw [← hkeep _ _ hxy]; exact hk)]
    rw [hnext]
    exact ih
  | case3 start hs =>
    rw [firstFrom?, dif_neg (hsize ▸ hs)]
    exact .none

theorem firstFromNested?_rel (hkeep : ∀ x y, R x y → keep x = keep' y) {xss : Array (Array α)}
    {yss : Array (Array β)} (h : Entrywise (Entrywise R) xss yss) (list pos : Nat) :
    Option.Rel (SameFind R) (firstFromNested? keep xss list pos)
      (firstFromNested? keep' yss list pos) := by
  have hsize := h.size_eq
  fun_induction firstFromNested? keep xss list pos with
  | case1 list pos hl i x hf =>
    have hfind := firstFrom?_rel hkeep (h.getElem hl (hsize ▸ hl)) pos
    rw [hf] at hfind
    rw [firstFromNested?, dif_pos (hsize ▸ hl)]
    generalize firstFrom? keep' yss[list] pos = found at hfind ⊢
    cases hfind with
    | some hxy =>
      obtain ⟨rfl, hxy⟩ := hxy
      exact .some ⟨rfl, hxy⟩
  | case2 list pos hl hf ih =>
    -- this list has nothing more to find on either side
    have hfind := firstFrom?_rel hkeep (h.getElem hl (hsize ▸ hl)) pos
    have hnext : firstFromNested? keep' yss list pos = firstFromNested? keep' yss (list + 1) 0 := by
      rw [firstFromNested?, dif_pos (hsize ▸ hl)]
      rw [hf] at hfind
      generalize firstFrom? keep' yss[list] pos = found at hfind ⊢
      cases hfind
      rfl
    rw [hnext]
    exact ih
  | case3 list pos hl =>
    rw [firstFromNested?, dif_neg (hsize ▸ hl)]
    exact .none

theorem entriesFrom_rel {xss : Array (Array α)} {yss : Array (Array β)}
    (h : Entrywise (Entrywise R) xss yss) (list pos : Nat) :
    List.Forall₂ R (entriesFrom xss list pos) (entriesFrom yss list pos) := by
  have hlist : Entrywise R (xss[list]?.getD #[]) (yss[list]?.getD #[]) := by
    have hget := h.getElem? list
    generalize xss[list]? = xs, yss[list]? = ys at hget ⊢
    cases hget with
    | some hxy => exact hxy
    | none => exact .nil
  exact List.rel_append (List.forall₂_drop pos hlist)
    (Entrywise.flatMap (List.forall₂_drop (list + 1) h))

end Scans

/-! ## Answers that can fail -/

/-- Both fail with the same error, or both succeed with related results. -/
inductive ExceptRel {ε : Type w} {α : Type u} {β : Type v} (R : α → β → Prop) :
    Except ε α → Except ε β → Prop where
  | error (e : ε) : ExceptRel R (.error e) (.error e)
  | ok {x : α} {y : β} (h : R x y) : ExceptRel R (.ok x) (.ok y)

theorem ExceptRel.bind {ε : Type w} {α β γ δ : Type u} {R : α → β → Prop} {Q : γ → δ → Prop}
    {x : Except ε α} {y : Except ε β} {f : α → Except ε γ} {g : β → Except ε δ}
    (h : ExceptRel R x y) (hfg : ∀ a b, R a b → ExceptRel Q (f a) (g b)) :
    ExceptRel Q (x >>= f) (y >>= g) := by
  cases h with
  | error e => exact .error e
  | ok hab => exact hfg _ _ hab

/-- Looked-up entries that are related, or the same error if there are none. -/
theorem ExceptRel.ofOption {ε : Type w} {α : Type u} {β : Type v} {R : α → β → Prop}
    {x? : Option α} {y? : Option β} (h : Option.Rel R x? y?) (e : ε) :
    ExceptRel R (x?.elim (.error e) .ok) (y?.elim (.error e) .ok) := by
  cases h with
  | some hxy => exact .ok hxy
  | none => exact .error e

end Viewership
