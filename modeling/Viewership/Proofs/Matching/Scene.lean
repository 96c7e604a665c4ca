/-
# Viewership.Proofs.Matching.Scene -- handles of one viewer are interchangeable

A script founds entities and makes requests to them and to their owners. Two scripts match if they say
the same with handles of the same viewers, and the main statement is that matching scripts have
matching replies, line by line: every truth value, number and end of a traversal is the same, every
viewer that is handed back is the same viewer, and the scenes match throughout. So nothing that a
library of this kind decides can depend on what handles carry beyond `==`.

Descriptions are texts of handles, so they may differ. They do so only where they spell out a handle:
`Audience.summary` takes the handle and the numbers, and the numbers are the same.
-/
import Viewership.Handle
import Viewership.Proofs.Matching.Traversal
import Viewership.Scene.Step

namespace Viewership

universe u

variable {P : Type u} [Viewer P]

/-! ## Scripts -/

/-- A line of a script. -/
inductive Line (P : Type u) where
  /-- Found an entity, with room for `capacity` manual viewers. -/
  | found (owner? : Option Nat) (capacity : Nat)
  /-- Make a request. -/
  | request (c : Command P)

namespace Scene

/-- Carries out a line. -/
def enact [HasOutline P] (s : Scene P) : Line P → Except SceneError (Reply P × Scene P)
  | .found owner? capacity => do
    let s ← s.addEntity owner? capacity
    return (Answer.nothing.silent, s)
  | .request c => s.step c

/-- Carries out lines one after the other. One that is refused changes nothing. -/
def play [HasOutline P] (s : Scene P) :
    List (Line P) → List (Except SceneError (Reply P)) × Scene P
  | [] => ([], s)
  | line :: lines =>
    match s.enact line with
    | .ok (reply, t) => let (replies, t) := play t lines; (.ok reply :: replies, t)
    | .error e => let (replies, t) := play s lines; (.error e :: replies, t)

end Scene

/-! ## Matching scripts -/

/-- The same question, about the same viewer if it is about one. -/
inductive Query.Matches : Query P → Query P → Prop where
  | acceptsAuto {x y : Subject P} (h : x.Matches y) :
    Query.Matches (.acceptsAuto x) (.acceptsAuto y)
  | isExcluded {v w : P} (h : SameViewer v w) : Query.Matches (.isExcluded v) (.isExcluded w)
  | contains {v w : P} (h : SameViewer v w) : Query.Matches (.contains v) (.contains w)
  | size : Query.Matches .size .size
  | isEmpty : Query.Matches .isEmpty .isEmpty
  | snapshot : Query.Matches .snapshot .snapshot
  | visits : Query.Matches .visits .visits
  | readings : Query.Matches .readings .readings
  | traversed : Query.Matches .traversed .traversed
  | describe (layout : Layout) : Query.Matches (.describe layout) (.describe layout)

/-- The same request, about the same viewers. -/
inductive Command.Matches : Command P → Command P → Prop where
  | mutate (entity : Nat) {m m' : Mutation P} (h : m.Matches m') :
    Command.Matches (.mutate entity m) (.mutate entity m')
  | query (entity : Nat) {q q' : Query P} (h : q.Matches q') :
    Command.Matches (.query entity q) (.query entity q')
  | predictable (entity : Nat) : Command.Matches (.predictable entity) (.predictable entity)
  | traverse (entity : Nat) : Command.Matches (.traverse entity) (.traverse entity)
  | proceed (journey : Nat) (stride : Stride) :
    Command.Matches (.proceed journey stride) (.proceed journey stride)
  | walk (entity : Nat) (actions : List WalkAction) (peek : Bool) (limit : Nat) :
    Command.Matches (.walk entity actions peek limit) (.walk entity actions peek limit)
  | setAutoViewable (owner : Nat) (autoViewable : Bool) :
    Command.Matches (.setAutoViewable owner autoViewable) (.setAutoViewable owner autoViewable)
  | setViewer (owner : Nat) {v? w? : Option P} (h : Option.Rel SameViewer v? w?) :
    Command.Matches (.setViewer owner v?) (.setViewer owner w?)
  | ownerReads (owner : Nat) : Command.Matches (.ownerReads owner) (.ownerReads owner)
  | compareSubjects {v? w? v'? w'? : Option P} (h : Option.Rel SameViewer v? w?)
    (h' : Option.Rel SameViewer v'? w'?) :
    Command.Matches (.compareSubjects v? v'?) (.compareSubjects w? w'?)

/-- The same line, with the same viewers. -/
inductive Line.Matches : Line P → Line P → Prop where
  | found (owner? : Option Nat) (capacity : Nat) :
    Line.Matches (.found owner? capacity) (.found owner? capacity)
  | request {c c' : Command P} (h : c.Matches c') : Line.Matches (.request c) (.request c')

/-! ## Matching replies -/

/-- The description of an audience, by what it tells of one. -/
def Audience.summary [HasOutline P] (own : Option P) (manual exceptions : Nat)
    (lists : Option Nat) : Outline :=
  .record "ViewEngine"
    [("this", outline own), ("manual", outline manual), ("exceptions", outline exceptions),
      ("lists", outline lists)]
    true

theorem Audience.outline_eq_summary [HasOutline P] (a : Audience P) :
    outline a
      = summary a.ownViewer a.roster.size a.exceptions.size (a.lists.map Array.size) := rfl

/-- The same answer, with the same viewers in it. Descriptions may differ in the handles that they
spell out. -/
inductive Answer.Matches [HasOutline P] : Answer P → Answer P → Prop where
  | nothing : Answer.Matches .nothing .nothing
  | flag (b : Bool) : Answer.Matches (.flag b) (.flag b)
  | count (n : Nat) : Answer.Matches (.count n) (.count n)
  | text {v? w? : Option P} (h : Option.Rel SameViewer v? w?) (manual exceptions : Nat)
    (lists : Option Nat) (layout : Layout) :
    Answer.Matches (.text ((Audience.summary v? manual exceptions lists).render layout))
      (.text ((Audience.summary w? manual exceptions lists).render layout))
  | viewer {v? w? : Option P} (h : Option.Rel SameViewer v? w?) :
    Answer.Matches (.viewer v?) (.viewer w?)
  | viewers {vs ws : List P} (h : List.Forall₂ SameViewer vs ws) :
    Answer.Matches (.viewers vs) (.viewers ws)
  | readings {rs rs' : List (Audience.Reading P)}
    (h : List.Forall₂ Audience.Reading.Matches rs rs') :
    Answer.Matches (.readings rs) (.readings rs')
  | encounters {es es' : List (Encounter P)} (h : List.Forall₂ Encounter.Matches es es') :
    Answer.Matches (.encounters es) (.encounters es')
  | reads (viewer auto : Nat) : Answer.Matches (.reads viewer auto) (.reads viewer auto)
  | subjects {x x' y y' : Subject P} (h : x.Matches x') (h' : y.Matches y') (equal : Bool) :
    Answer.Matches (.subjects (outline x).compact (outline y).compact equal)
      (.subjects (outline x').compact (outline y').compact equal)

/-- Matching answers, and matching reports meanwhile. -/
structure Reply.Matches [HasOutline P] (r r' : Reply P) : Prop where
  answer : r.answer.Matches r'.answer
  events : List.Forall₂ TraceEvent.Matches r.events r'.events

theorem Answer.Matches.silent [HasOutline P] {x y : Answer P} (h : x.Matches y) :
    x.silent.Matches y.silent :=
  ⟨h, .nil⟩

/-! ## Matching scenes -/

/-- The entities have owners of the same number, or none, and matching audiences. -/
structure Entity.Matches (e e' : Entity P) : Prop where
  owner? : e.owner? = e'.owner?
  audience : e.audience.Matches e'.audience

/-- The journeys are through the audience of the same entity, and have come equally far. -/
structure Journey.Matches (j j' : Journey P) : Prop where
  entity : j.entity = j'.entity
  traversal : j.traversal.Matches j'.traversal

namespace Scene

/-- The scenes have matching owners, entities and journeys of the same numbers. -/
structure Matches (s t : Scene P) : Prop where
  owners : Entrywise Owner.Matches s.owners t.owners
  entities : Entrywise Entity.Matches s.entities t.entities
  journeys : Entrywise Journey.Matches s.journeys t.journeys

theorem matches_ofOwners {owners owners' : Array (Owner P)}
    (h : Entrywise Owner.Matches owners owners') : (ofOwners owners).Matches (ofOwners owners') :=
  ⟨h, .nil, .nil⟩

namespace Matches

variable {s t : Scene P} (h : s.Matches t)
include h

theorem owner (number : Nat) : ExceptRel Owner.Matches (s.owner number) (t.owner number) :=
  .ofOption (h.owners.getElem? number) _

theorem entity (number : Nat) : ExceptRel Entity.Matches (s.entity number) (t.entity number) :=
  .ofOption (h.entities.getElem? number) _

theorem journey (number : Nat) :
    ExceptRel Journey.Matches (s.journey number) (t.journey number) :=
  .ofOption (h.journeys.getElem? number) _

theorem setOwner (number : Nat) {o o' : Owner P} (ho : o.Matches o') :
    (s.setOwner number o).Matches (t.setOwner number o') :=
  ⟨h.owners.setIfInBounds number ho, h.entities, h.journeys⟩

theorem setAudience (number : Nat) {a b : Audience P} (hab : a.Matches b) :
    (s.setAudience number a).Matches (t.setAudience number b) :=
  ⟨h.owners, h.entities.modify number fun _ _ he => ⟨he.owner?, hab⟩, h.journeys⟩

theorem setTraversal (number : Nat) {x y : Traversal P} (hxy : x.Matches y) :
    (s.setTraversal number x).Matches (t.setTraversal number y) :=
  ⟨h.owners, h.entities, h.journeys.modify number fun _ _ hj => ⟨hj.entity, hxy⟩⟩

theorem addEntity (owner? : Option Nat) (capacity : Nat) :
    ExceptRel Matches (s.addEntity owner? capacity) (t.addEntity owner? capacity) := by
  cases owner? with
  | none =>
    exact .ok ⟨h.owners, h.entities.push ⟨rfl, Audience.matches_create .none capacity⟩, h.journeys⟩
  | some number =>
    refine (h.owner number).bind ?_
    intro o o' ho
    have hread : o.countViewerRead.Matches o'.countViewerRead :=
      ⟨ho.autoViewable, ho.viewer, congrArg (· + 1) ho.viewerReads, ho.autoReads⟩
    have hset := h.setOwner number hread
    exact .ok ⟨hset.owners,
      hset.entities.push ⟨rfl, Audience.matches_create (.some ho) capacity⟩, hset.journeys⟩

theorem predictable (number : Nat) :
    ExceptRel (fun p q => p.1 = q.1 ∧ p.2.Matches q.2) (s.predictable number)
      (t.predictable number) := by
  refine (h.entity number).bind ?_
  intro e e' he
  rw [he.owner?]
  cases e'.owner? with
  | none => exact .ok ⟨he.audience.hasPredictableViewers_eq .none, h⟩
  | some n =>
    refine (h.owner n).bind ?_
    intro o o' ho
    exact .ok ⟨he.audience.hasPredictableViewers_eq (.some ho), h.setOwner n
      ⟨ho.autoViewable, ho.viewer, ho.viewerReads, congrArg (· + 1) ho.autoReads⟩⟩

end Matches

end Scene

/-! ## Requests -/

section Requests

variable [HasOutline P]

theorem Audience.Matches.answer {a b : Audience P} (h : a.Matches b) {q q' : Query P}
    (hq : q.Matches q') : (a.answer q).Matches (b.answer q') := by
  cases hq with
  | acceptsAuto hxy =>
    rw [Audience.answer, Audience.answer, h.acceptsAuto_eq hxy]
    exact .flag _
  | isExcluded hvw =>
    rw [Audience.answer, Audience.answer, h.isExcluded_eq hvw]
    exact .flag _
  | contains hvw =>
    rw [Audience.answer, Audience.answer, h.contains_eq hvw]
    exact .flag _
  | size =>
    rw [Audience.answer, Audience.answer, h.size_eq]
    exact .count _
  | isEmpty =>
    rw [Audience.answer, Audience.answer, h.isEmpty_eq]
    exact .flag _
  | snapshot => exact .viewers h.snapshot
  | visits => exact .viewers h.visits
  | readings => exact .readings h.readings
  | traversed => exact .viewers (Traversal.matches_start.drain h).1
  | describe layout =>
    have hlists : a.lists.map Array.size = b.lists.map Array.size := by
      have hlists := h.lists
      generalize a.lists = lists, b.lists = lists' at hlists ⊢
      cases hlists with
      | some hxy => exact congrArg some hxy.size_eq
      | none => rfl
    rw [Audience.answer, Audience.answer, Audience.outline_eq_summary, Audience.outline_eq_summary,
      h.roster.size_eq, h.exceptions.size_eq, hlists]
    exact .text h.ownViewer _ _ _ layout

theorem Traversal.Matches.proceed {t u : Traversal P} (ht : t.Matches u) {a b : Audience P}
    (h : a.Matches b) (stride : Stride) :
    (t.proceed a stride).1.Matches (u.proceed b stride).1
      ∧ (t.proceed a stride).2.Matches (u.proceed b stride).2 := by
  cases stride with
  | hasNext =>
    obtain ⟨hmore, hrest⟩ := ht.hasNext h
    refine ⟨?_, hrest⟩
    show Answer.Matches (.flag (t.hasNext a).1) (.flag (u.hasNext b).1)
    rw [hmore]
    exact .flag _
  | next => exact ⟨.viewer (ht.next h).1, (ht.next h).2⟩
  | nth n => exact ⟨.viewer (ht.nth h n).1, (ht.nth h n).2⟩
  | take n => exact ⟨.viewers (ht.take h n).1, (ht.take h n).2⟩
  | drain => exact ⟨.viewers (ht.drain h).1, (ht.drain h).2⟩
  | count =>
    obtain ⟨hviewers, hrest⟩ := ht.drain h
    refine ⟨?_, hrest⟩
    show Answer.Matches (.count (t.drain a).1.length) (.count (u.drain b).1.length)
    rw [hviewers.length_eq]
    exact .count _
  | last =>
    obtain ⟨hviewers, hrest⟩ := ht.drain h
    exact ⟨.viewer (forall₂_getLast? hviewers), hrest⟩

namespace Scene

/-- Matching replies, and matching scenes afterwards. -/
def StepMatches (p q : Reply P × Scene P) : Prop := p.1.Matches q.1 ∧ p.2.Matches q.2

namespace Matches

variable {s t : Scene P} (h : s.Matches t)
include h

theorem mutate (number : Nat) {m m' : Mutation P} (hm : m.Matches m') :
    ExceptRel StepMatches (s.mutate number m) (t.mutate number m') := by
  refine (h.entity number).bind ?_
  intro e e' he
  have ho := he.audience.apply hm
  refine .ok ⟨⟨?_, forall₂_toList ho.event?⟩, h.setAudience number ho.audience⟩
  cases hm with
  | add hvw =>
    show Answer.Matches (.flag _) (.flag _)
    rw [ho.accepted]
    exact .flag _
  | remove hvw =>
    show Answer.Matches (.flag _) (.flag _)
    rw [ho.accepted]
    exact .flag _
  | update hlists => exact .nothing

/-- One request is answered alike, and leads to matching scenes. -/
theorem step {c c' : Command P} (hc : c.Matches c') :
    ExceptRel StepMatches (s.step c) (t.step c') := by
  cases hc with
  | mutate number hm => exact h.mutate number hm
  | query number hq =>
    refine (h.entity number).bind ?_
    intro e e' he
    exact .ok ⟨(he.audience.answer hq).silent, h⟩
  | predictable number =>
    refine (h.predictable number).bind ?_
    rintro ⟨b, s'⟩ ⟨b', t'⟩ ⟨rfl, hrest⟩
    exact .ok ⟨(Answer.Matches.flag b).silent, hrest⟩
  | traverse number =>
    refine (h.entity number).bind ?_
    intro e e' _
    -- the number of the new journey is how many there were
    have hcount : s.journeys.size = t.journeys.size := h.journeys.size_eq
    refine .ok ⟨?_, h.owners, h.entities, h.journeys.push ⟨rfl, Traversal.matches_start⟩⟩
    show (Answer.count s.journeys.size).silent.Matches (Answer.count t.journeys.size).silent
    rw [hcount]
    exact (Answer.Matches.count _).silent
  | proceed number stride =>
    refine (h.journey number).bind ?_
    intro j j' hj
    rw [hj.entity]
    refine (h.entity j'.entity).bind ?_
    intro e e' he
    obtain ⟨hanswer, hrest⟩ := hj.traversal.proceed he.audience stride
    exact .ok ⟨hanswer.silent, h.setTraversal number hrest⟩
  | walk number actions peek limit =>
    refine (h.entity number).bind ?_
    intro e e' he
    have hwalk := Traversal.matches_start.walk he.audience actions peek limit
    exact .ok ⟨⟨.encounters hwalk.encounters, hwalk.events⟩, h.setAudience number hwalk.audience⟩
  | setAutoViewable number autoViewable =>
    refine (h.owner number).bind ?_
    intro o o' ho
    exact .ok ⟨Answer.Matches.nothing.silent,
      h.setOwner number ⟨rfl, ho.viewer, ho.viewerReads, ho.autoReads⟩⟩
  | setViewer number hvw =>
    refine (h.owner number).bind ?_
    intro o o' ho
    exact .ok ⟨Answer.Matches.nothing.silent,
      h.setOwner number ⟨ho.autoViewable, hvw, ho.viewerReads, ho.autoReads⟩⟩
  | ownerReads number =>
    refine (h.owner number).bind ?_
    intro o o' ho
    rw [ho.viewerReads, ho.autoReads]
    exact .ok ⟨(Answer.Matches.reads _ _).silent, h⟩
  | compareSubjects hvw hvw' =>
    have hx := Subject.matches_ofOption hvw
    have hy := Subject.matches_ofOption hvw'
    simp only [Scene.step, hx.beq_eq hy]
    exact .ok ⟨(Answer.Matches.subjects hx hy _).silent, h⟩

theorem enact {line line' : Line P} (hline : line.Matches line') :
    ExceptRel StepMatches (s.enact line) (t.enact line') := by
  cases hline with
  | found owner? capacity =>
    refine (h.addEntity owner? capacity).bind ?_
    intro s' t' hrest
    exact .ok ⟨Answer.Matches.nothing.silent, hrest⟩
  | request hc => exact h.step hc

end Matches

/-- Matching scripts have matching replies, and lead to matching scenes. -/
theorem Matches.play {s t : Scene P} (h : s.Matches t) {script script' : List (Line P)}
    (hscript : List.Forall₂ Line.Matches script script') :
    List.Forall₂ (ExceptRel Reply.Matches) (s.play script).1 (t.play script').1
      ∧ (s.play script).2.Matches (t.play script').2 := by
  induction hscript generalizing s t with
  | nil => exact ⟨.nil, h⟩
  | cons hline _ ih =>
    have hfirst := h.enact hline
    rw [Scene.play, Scene.play]
    generalize s.enact _ = first, t.enact _ = first' at hfirst ⊢
    cases hfirst with
    | error e =>
      -- both scenes stay as they are
      obtain ⟨hreplies, hlast⟩ := ih h
      exact ⟨.cons (.error e) hreplies, hlast⟩
    | ok hboth =>
      obtain ⟨hreply, hnext⟩ := hboth
      obtain ⟨hreplies, hlast⟩ := ih hnext
      exact ⟨.cons (.ok hreply) hreplies, hlast⟩

end Scene

/-! ## Main statement -/

/-- **Handles of one viewer are interchangeable.** Scripts that say the same with handles of the same
viewers, for owners that are the same viewers, have matching replies line by line, and the scenes match
after every line: the rosters have the same viewers in the same rows, and the exceptions have the same
members and are equally many. The same holds of calls to a roster alone. -/
theorem handles_interchangeable {owners owners' : Array (Owner P)}
    (howners : Entrywise Owner.Matches owners owners') {script script' : List (Line P)}
    (hscript : List.Forall₂ Line.Matches script script') (capacity : Nat)
    {calls calls' : List (Roster.Command P)}
    (hcalls : List.Forall₂ Roster.Command.Matches calls calls') :
    let s := Scene.ofOwners owners
    let s' := Scene.ofOwners owners'
    let r : Roster P := .emptyWithCapacity capacity
    List.Forall₂ (ExceptRel Reply.Matches) (s.play script).1 (s'.play script').1 ∧
    (∀ n, (s.play (script.take n)).2.Matches (s'.play (script'.take n)).2) ∧
    List.Forall₂ Roster.Answer.Matches (r.run calls).1 (r.run calls').1 ∧
    ∀ n, (r.run (calls.take n)).2.Matches (r.run (calls'.take n)).2 := by
  intro s s' r
  have hscene : s.Matches s' := Scene.matches_ofOwners howners
  have hroster : r.Matches r := Roster.matches_emptyWithCapacity capacity
  refine ⟨(hscene.play hscript).1, ?_, (hroster.run hcalls).1, ?_⟩
  · intro n
    exact (hscene.play (List.forall₂_take n hscript)).2
  · intro n
    exact (hroster.run (List.forall₂_take n hcalls)).2

end Requests

/-- Two players under two tags each. All handles differ, and a search, a refused call and a snapshot
have matching replies. -/
theorem handles_interchangeable_keyed :
    let owners (tag : String) : Array (Owner Keyed) := #[.unread true (some ⟨9, tag⟩)]
    let script (tag : String) : List (Line Keyed) :=
      [.found (some 0) 0, .request (.mutate 0 (.update (some #[#[⟨9, tag⟩, ⟨5, tag⟩]]))),
        .request (.mutate 0 (.add ⟨5, tag⟩)), .request (.mutate 0 (.remove ⟨9, tag⟩)),
        .request (.traverse 0), .request (.proceed 0 .next), .request (.query 0 .snapshot)]
    let calls (tag : String) : List (Roster.Command Keyed) :=
      [.insert ⟨5, tag⟩, .insert ⟨9, tag⟩, .remove ⟨5, tag⟩, .get 0]
    let scene (tag : String) := Scene.ofOwners (owners tag)
    let roster : Roster Keyed := .emptyWithCapacity 0
    owners "a" ≠ owners "b" ∧ (⟨5, "a"⟩ : Keyed) ≠ ⟨5, "b"⟩ ∧
    List.Forall₂ (ExceptRel Reply.Matches) ((scene "a").play (script "a")).1
      ((scene "b").play (script "b")).1 ∧
    ((scene "a").play ((script "a").take 4)).2.Matches
      ((scene "b").play ((script "b").take 4)).2 ∧
    List.Forall₂ Roster.Answer.Matches (roster.run (calls "a")).1 (roster.run (calls "b")).1 ∧
    (roster.run ((calls "a").take 3)).2.Matches (roster.run ((calls "b").take 3)).2 := by
  intro owners script calls scene roster
  have hsame (id : UInt32) : SameViewer (⟨id, "a"⟩ : Keyed) ⟨id, "b"⟩ := Keyed.beq_iff.2 rfl
  have howners : Entrywise Owner.Matches (owners "a") (owners "b") :=
    .cons ⟨rfl, .some (hsame 9), rfl, rfl⟩ .nil
  have hlists : Entrywise (Entrywise SameViewer) #[#[(⟨9, "a"⟩ : Keyed), ⟨5, "a"⟩]]
      #[#[⟨9, "b"⟩, ⟨5, "b"⟩]] :=
    .cons (.cons (hsame 9) (.cons (hsame 5) .nil)) .nil
  have hscript : List.Forall₂ Line.Matches (script "a") (script "b") :=
    .cons (.found _ _) <| .cons (.request (.mutate 0 (.update (.some hlists)))) <|
      .cons (.request (.mutate 0 (.add (hsame 5)))) <|
      .cons (.request (.mutate 0 (.remove (hsame 9)))) <| .cons (.request (.traverse 0)) <|
      .cons (.request (.proceed 0 .next)) <| .cons (.request (.query 0 .snapshot)) .nil
  have hcalls : List.Forall₂ Roster.Command.Matches (calls "a") (calls "b") :=
    .cons (.insert (hsame 5)) <| .cons (.insert (hsame 9)) <| .cons (.remove (hsame 5)) <|
      .cons (.get 0) .nil
  obtain ⟨hreplies, hscenes, hanswers, hrosters⟩ :=
    handles_interchangeable howners hscript 0 hcalls
  refine ⟨?_, ?_, hreplies, hscenes 4, hanswers, hrosters 3⟩
  · simp [owners, Owner.unread]
  · simp

end Viewership
