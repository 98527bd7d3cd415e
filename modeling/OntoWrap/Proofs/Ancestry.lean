import Mathlib.Data.List.Chain
import Mathlib.Logic.Relation
import OntoWrap.Proofs.IndexEntries
import OntoWrap.Proofs.Rendering

/-!
# What the walk to the ancestors of a class finds

`Index.ancestors` walks up from a class.  This module compares its answer with the parent relation
of the index, and finds that one of two things happens (`ancestors_settles`):

* no cycle can be reached from the class, and the answer is its LINEAGE: every class above it, each
  once, and each after all classes above itself (`ancestors_lineage`);
* a cycle can be reached, and the answer is a LOOP: a path from the class along listed parents,
  whose last class is the only one that was met before (`ancestors_cyclic_iff`).

The invariant of the walk (`WalkInvariant`) says that what was visited is either on the path or
found, that what is found holds its own parents further in front, and that a frame has looked at
each of its parents that is not pending.  A class that was visited before is passed over; the
invariant is what shows that this never hides a cycle, because a class that is found has nothing
above it but classes that are found.
-/
namespace OntoWrap

open Vocabulary

namespace Index

/-! ## 1. The parent relation -/

/-- A class of the index lists another as its parent. -/
def Parent (index : Index) (child parent : String) : Prop :=
  ∃ c ∈ index.classes, c.iri = child ∧ parent ∈ c.parents

/-- A class is reached from another by one or more steps to a parent. -/
def Above (index : Index) : String → String → Prop := Relation.TransGen index.Parent

/-- A class that is above itself is `start` or lies above it. -/
def MeetsCycle (index : Index) (start : String) : Prop :=
  ∃ iri, Relation.ReflTransGen index.Parent start iri ∧ index.Above iri iri

/-- The listed parents of a class of the index are its parents and no others are. -/
theorem WellFormed.parent_iff {index : Index} (h : index.WellFormed) {c : ClassInfo}
    (hc : c ∈ index.classes) {parent : String} :
    index.Parent c.iri parent ↔ parent ∈ c.parents := by
  constructor
  · rintro ⟨d, hd, hiri, hp⟩
    rwa [← h.eq_of_iri_eq hd hc hiri]
  · intro hp
    exact ⟨c, hc, rfl, hp⟩

/-- A number that falls at every step to a parent rules cycles out. -/
theorem not_meetsCycle_of_rank {index : Index} (rank : String → Nat)
    (hrank : ∀ c ∈ index.classes, ∀ p ∈ c.parents, rank p < rank c.iri) (start : String) :
    ¬ index.MeetsCycle start := by
  have hfall : ∀ {x y}, index.Above x y → rank y < rank x := by
    intro x y hxy
    induction hxy with
    | single h =>
      obtain ⟨c, hc, rfl, hp⟩ := h
      exact hrank c hc _ hp
    | tail _ h ih =>
      obtain ⟨c, hc, rfl, hp⟩ := h
      exact (hrank c hc _ hp).trans ih
  rintro ⟨iri, -, hcycle⟩
  exact lt_irrefl _ (hfall hcycle)

/-! ## 2. The two answers of a walk -/

/-- **The lineage of a class**: all classes above it, each once, and each after those above
itself. -/
structure Lineage (index : Index) (start : String) (chain : List ClassInfo) : Prop where
  declared : ∀ d ∈ chain, d ∈ index.classes
  distinct : (chain.map (·.iri)).Nodup
  complete : ∀ iri, iri ∈ chain.map (·.iri) ↔ index.Above start iri
  ordered : ∀ earlier d later, chain = earlier ++ d :: later →
    ∀ iri, index.Above d.iri iri → iri ∈ earlier.map (·.iri)

/-- **A loop from a class**: a path that begins at the class and goes on to a listed parent each
time; no class repeats but the last one, which was met before. -/
structure Loop (index : Index) (start : String) (path : List String) : Prop where
  starts : path.head? = some start
  climbs : path.IsChain index.Parent
  distinct : path.dropLast.Nodup
  returns : ∃ last ∈ path.dropLast, path.getLast? = some last

/-- What a walk from a class may answer: its lineage, or a loop that it ran into. -/
inductive Settles (index : Index) (start : String) :
    Except HierarchyFault (List ClassInfo) → Prop
  | lineage {chain : List ClassInfo} :
      index.Lineage start chain → Settles index start (.ok chain)
  | loop {path : List String} :
      index.Loop start path → Settles index start (.error (.cycle start path))

/-- A class with a lineage meets no cycle: on a cycle a class would come before itself. -/
theorem Lineage.not_meetsCycle {index : Index} {start : String} {chain : List ClassInfo}
    (h : index.Lineage start chain) : ¬ index.MeetsCycle start := by
  rintro ⟨iri, hreach, hcycle⟩
  have hmem : iri ∈ chain.map (·.iri) := (h.complete iri).mpr (hcycle.trans_right hreach)
  obtain ⟨d, hd, rfl⟩ := List.mem_map.mp hmem
  obtain ⟨earlier, later, rfl⟩ := List.append_of_mem hd
  have hearlier := h.ordered earlier d later rfl d.iri hcycle
  have hdistinct := h.distinct
  rw [List.map_append, List.map_cons] at hdistinct
  exact (List.disjoint_of_nodup_append hdistinct) hearlier List.mem_cons_self

/-- A path along parents leads from its first class to every later one. -/
theorem reaches_of_isChain {index : Index} : ∀ {start : String} {path : List String},
    (start :: path).IsChain index.Parent → ∀ iri ∈ start :: path,
      Relation.ReflTransGen index.Parent start iri
  | start, [], _, iri, hiri => by
    rw [List.mem_singleton.mp hiri]
  | start, next :: path, hchain, iri, hiri => by
    rcases List.mem_cons.mp hiri with rfl | hiri
    · exact .refl
    · have hrest := reaches_of_isChain hchain.tail iri hiri
      exact .head hchain.rel hrest

/-- A loop shows a cycle. -/
theorem Loop.meetsCycle {index : Index} {start : String} {path : List String}
    (h : index.Loop start path) : index.MeetsCycle start := by
  obtain ⟨last, hlast, hget⟩ := h.returns
  obtain ⟨before, after, hsplit⟩ := List.append_of_mem hlast
  have hpath : path = before ++ last :: after ++ [last] := by
    rw [← hsplit]
    exact (List.dropLast_append_getLast? last hget).symm
  have hclimbs := h.climbs
  rw [hpath, List.append_assoc] at hclimbs
  have hreach : Relation.ReflTransGen index.Parent start last := by
    cases path with
    | nil => simp at hget
    | cons first rest =>
      obtain rfl : first = start := by simpa using h.starts
      exact reaches_of_isChain h.climbs last (List.mem_of_getLast? hget)
  have hround : index.Above last last := by
    have htail : (last :: (after ++ [last])).IsChain index.Parent := by
      simpa using hclimbs.right_of_append
    cases hnext : after ++ [last] with
    | nil => simp at hnext
    | cons next rest =>
      rw [hnext] at htail
      have hback : last ∈ next :: rest := by
        rw [← hnext]
        simp
      exact .head' htail.rel (reaches_of_isChain htail.tail last hback)
  exact ⟨last, hreach, hround⟩

/-! ## 3. What is found

The list of found classes grows at its end.  A class is added when all its parents are in the list,
so the list is always closed under parents, and from the front. -/

/-- Each class of the list has all its parents further in front. -/
inductive ParentsFirst : List ClassInfo → Prop
  | nil : ParentsFirst []
  | snoc {found : List ClassInfo} {c : ClassInfo} : ParentsFirst found →
      (∀ p ∈ c.parents, p ∈ found.map (·.iri)) → ParentsFirst (found ++ [c])

theorem ParentsFirst.parents_mem {found : List ClassInfo} (h : ParentsFirst found) :
    ∀ {earlier : List ClassInfo} {d : ClassInfo} {later : List ClassInfo},
      found = earlier ++ d :: later → ∀ p ∈ d.parents, p ∈ earlier.map (·.iri) := by
  induction h with
  | nil => simp
  | @snoc found c _ hparents ih =>
    intro earlier d later heq p hp
    rcases List.eq_nil_or_concat later with rfl | ⟨front, last, rfl⟩
    · obtain ⟨rfl, hlast⟩ := List.append_inj' heq rfl
      obtain rfl : c = d := by simpa using hlast
      exact hparents p hp
    · have hinit : found ++ [c] = (earlier ++ d :: front) ++ [last] := by simpa using heq
      obtain ⟨hfound, -⟩ := List.append_inj' hinit rfl
      exact ih hfound p hp

/-- What a walk from `start` has found at any time. -/
structure Found (index : Index) (start : String) (found : List ClassInfo) : Prop where
  declared : ∀ d ∈ found, d ∈ index.classes
  above : ∀ d ∈ found, index.Above start d.iri
  distinct : (found.map (·.iri)).Nodup
  parentsFirst : ParentsFirst found

theorem Found.nil {index : Index} {start : String} : index.Found start [] where
  declared := by simp
  above := by simp
  distinct := by simp
  parentsFirst := .nil

/-- One more class is found, all of whose parents were. -/
theorem Found.snoc {index : Index} {start : String} {found : List ClassInfo} {c : ClassInfo}
    (h : index.Found start found) (hc : c ∈ index.classes) (habove : index.Above start c.iri)
    (hnew : c.iri ∉ found.map (·.iri)) (hparents : ∀ p ∈ c.parents, p ∈ found.map (·.iri)) :
    index.Found start (found ++ [c]) where
  declared := by
    intro d hd
    rcases List.mem_append.mp hd with hd | hd
    · exact h.declared d hd
    · rwa [List.mem_singleton.mp hd]
  above := by
    intro d hd
    rcases List.mem_append.mp hd with hd | hd
    · exact h.above d hd
    · rwa [List.mem_singleton.mp hd]
  distinct := by
    rw [List.map_append, List.map_singleton]
    exact List.nodup_append_comm.mp (List.nodup_cons.mpr ⟨hnew, h.distinct⟩)
  parentsFirst := .snoc h.parentsFirst hparents

/-- **What is found is closed**: all classes above a found class stand further in front. -/
theorem Found.ordered {index : Index} (hw : index.WellFormed) {start : String}
    {found : List ClassInfo} (h : index.Found start found) {earlier : List ClassInfo}
    {d : ClassInfo}
    {later : List ClassInfo} (hsplit : found = earlier ++ d :: later) {iri : String}
    (habove : index.Above d.iri iri) : iri ∈ earlier.map (·.iri) := by
  have hparent : ∀ {earlier : List ClassInfo} {d : ClassInfo} {later : List ClassInfo},
      found = earlier ++ d :: later → ∀ p, index.Parent d.iri p → p ∈ earlier.map (·.iri) := by
    intro earlier d later heq p hp
    have hd : d ∈ index.classes := h.declared d (by simp [heq])
    exact h.parentsFirst.parents_mem heq p ((hw.parent_iff hd).mp hp)
  induction habove with
  | single hp => exact hparent hsplit _ hp
  | tail _ hp ih =>
    obtain ⟨e, he, rfl⟩ := List.mem_map.mp ih
    obtain ⟨front, back, rfl⟩ := List.append_of_mem he
    have hfront := hparent (by simpa using hsplit) _ hp
    rw [List.map_append]
    exact List.mem_append_left _ hfront

/-- Once all parents of `start` are found, its lineage is. -/
theorem Found.lineage {index : Index} (hw : index.WellFormed) {start : ClassInfo}
    {found : List ClassInfo} (hstart : start ∈ index.classes) (h : index.Found start.iri found)
    (hparents : ∀ p ∈ start.parents, p ∈ found.map (·.iri)) :
    index.Lineage start.iri found where
  declared := h.declared
  distinct := h.distinct
  complete := by
    intro iri
    constructor
    · intro hiri
      obtain ⟨d, hd, rfl⟩ := List.mem_map.mp hiri
      exact h.above d hd
    · intro habove
      rcases Relation.TransGen.head'_iff.mp habove with ⟨p, hp, hrest⟩
      have hfound := hparents p ((hw.parent_iff hstart).mp hp)
      rcases Relation.reflTransGen_iff_eq_or_transGen.mp hrest with rfl | hrest
      · exact hfound
      · obtain ⟨e, he, rfl⟩ := List.mem_map.mp hfound
        obtain ⟨front, back, rfl⟩ := List.append_of_mem he
        rw [List.map_append]
        exact List.mem_append_left _ (h.ordered hw rfl hrest)
  ordered := fun _ _ _ hsplit _ habove => h.ordered hw hsplit habove

/-! ## 4. The invariant of the walk -/

/-- The classes on a path up from `start`, the last one first: each is a listed parent of the one
before it and differs from all before it. -/
inductive Climb (index : Index) (start : ClassInfo) : List ClassInfo → Prop
  | base : start ∈ index.classes → Climb index start [start]
  | step {c d : ClassInfo} {below : List ClassInfo} : Climb index start (d :: below) →
      c ∈ index.classes → c.iri ∈ d.parents → c.iri ∉ (d :: below).map (·.iri) →
      Climb index start (c :: d :: below)

/-- Each frame has looked at every parent that is not pending: the parent was visited, and it is not
on the path up to the frame. -/
def Looked (visited : List String) : List Frame → Prop
  | [] => True
  | frame :: below =>
    (∀ p ∈ frame.visiting.parents,
      p ∈ frame.pending ∨ p ∈ visited ∧ p ∉ pathOf (frame :: below)) ∧
    Looked visited below

/-- **What holds at every step of a walk from `start`.** -/
structure WalkInvariant (index : Index) (start : ClassInfo) (stack : List Frame)
    (visited : List String) (found : List ClassInfo) : Prop where
  climb : index.Climb start (stack.map (·.visiting))
  listed : ∀ frame ∈ stack, ∀ p ∈ frame.pending, p ∈ frame.visiting.parents
  looked : Looked visited stack
  visited_iff : ∀ iri, iri ∈ visited ↔ iri ∈ pathOf stack ∨ iri ∈ found.map (·.iri)
  apart : ∀ iri ∈ found.map (·.iri), iri ∉ pathOf stack
  found : index.Found start.iri found

theorem pathOf_eq_map (stack : List Frame) :
    pathOf stack = (stack.map (·.visiting)).map (·.iri) := by
  simp [pathOf]

theorem Climb.mem_classes {index : Index} {start c : ClassInfo} {below : List ClassInfo}
    (h : index.Climb start (c :: below)) : c ∈ index.classes := by
  cases h with
  | base hstart => exact hstart
  | step _ hc _ _ => exact hc

theorem Climb.nodup {index : Index} {start : ClassInfo} {path : List ClassInfo}
    (h : index.Climb start path) : (path.map (·.iri)).Nodup := by
  induction h with
  | base _ => simp
  | step _ _ _ hnew ih => exact List.nodup_cons.mpr ⟨hnew, ih⟩

/-- The last class on a path is `start` or lies above it. -/
theorem Climb.reaches {index : Index} {start c : ClassInfo} {below : List ClassInfo}
    (h : index.Climb start (c :: below)) :
    Relation.ReflTransGen index.Parent start.iri c.iri := by
  generalize hpath : c :: below = path at h
  induction h generalizing c below with
  | base _ =>
    obtain ⟨rfl, -⟩ := List.cons.inj hpath
    exact .refl
  | step hbelow _ hparent _ ih =>
    obtain ⟨rfl, -⟩ := List.cons.inj hpath
    exact (ih rfl).tail ⟨_, hbelow.mem_classes, rfl, hparent⟩

/-- A path along parents goes on to a parent of its last class. -/
theorem isChain_concat {index : Index} {last p : String} {before : List String}
    (hchain : (last :: before).reverse.IsChain index.Parent) (hp : index.Parent last p) :
    ((last :: before).reverse ++ [p]).IsChain index.Parent := by
  refine List.isChain_append.mpr ⟨hchain, .singleton _, ?_⟩
  intro x hx y hy
  obtain rfl : last = x := by simpa using hx
  obtain rfl : p = y := by simpa using hy
  exact hp

/-- Read from the other end, the path begins at `start` and goes from parent to parent. -/
theorem Climb.isChain_reverse {index : Index} {start : ClassInfo} {path : List ClassInfo}
    (h : index.Climb start path) :
    (path.map (·.iri)).reverse.head? = some start.iri ∧
      (path.map (·.iri)).reverse.IsChain index.Parent := by
  induction h with
  | base _ => simp
  | @step c d below hbelow _ hparent _ ih =>
    obtain ⟨hhead, hchain⟩ := ih
    have hstep : index.Parent d.iri c.iri := ⟨d, hbelow.mem_classes, rfl, hparent⟩
    rw [List.map_cons, List.reverse_cons]
    refine ⟨?_, ?_⟩
    · rw [List.head?_append, hhead]
      rfl
    · exact isChain_concat hchain hstep

theorem Looked.mono {visited visited' : List String} (hsub : ∀ iri ∈ visited, iri ∈ visited') :
    ∀ {stack : List Frame}, Looked visited stack → Looked visited' stack
  | [], _ => trivial
  | _ :: _, ⟨htop, hbelow⟩ =>
    ⟨fun p hp => (htop p hp).imp_right fun h => ⟨hsub p h.1, h.2⟩, Looked.mono hsub hbelow⟩

/-! ## 5. What each step does to the invariant

A walk ends in one of two ways: the last frame has nothing left to look at (`finish`), or a pending
parent is on the path (`loop`).  In between it leaves a class (`leave`), passes over a parent that
was visited (`skip`), or goes up to one that was not (`enter`). -/

namespace WalkInvariant

variable {index : Index} {start c parent : ClassInfo} {p : String} {pending : List String}
  {frame : Frame} {below : List Frame} {visited : List String} {found : List ClassInfo}

/-- A walk begins with the class on the path and its parents pending. -/
theorem initial (hstart : start ∈ index.classes) :
    index.WalkInvariant start [⟨start, start.parents⟩] [start.iri] [] where
  climb := .base hstart
  listed := by simp
  looked := ⟨fun p hp => .inl hp, trivial⟩
  visited_iff := by simp [pathOf]
  apart := by simp
  found := .nil

/-- A frame that has nothing left to look at has found all its parents. -/
theorem parents_found (h : index.WalkInvariant start (⟨c, []⟩ :: below) visited found) :
    ∀ p ∈ c.parents, p ∈ found.map (·.iri) := by
  intro p hp
  rcases h.looked.1 p hp with hpending | ⟨hvisited, hpath⟩
  · simp at hpending
  · exact ((h.visited_iff p).mp hvisited).resolve_left hpath

theorem top_mem_classes (h : index.WalkInvariant start (⟨c, pending⟩ :: below) visited found) :
    c ∈ index.classes :=
  Climb.mem_classes (by simpa using h.climb)

/-- **The walk is back at its start with nothing left**: the lineage is found. -/
theorem finish (hw : index.WellFormed)
    (h : index.WalkInvariant start [⟨c, []⟩] visited found) : index.Lineage start.iri found := by
  have hstart : c = start := by
    cases h.climb with
    | base _ => rfl
  subst hstart
  exact h.found.lineage hw h.top_mem_classes h.parents_found

/-- **Leaving a class**: it comes off the path and is found. -/
theorem leave (h : index.WalkInvariant start (⟨c, []⟩ :: frame :: below) visited found) :
    index.WalkInvariant start (frame :: below) visited (found ++ [c]) := by
  have hclimb : index.Climb start (c :: frame.visiting :: below.map (·.visiting)) := h.climb
  have hon : c.iri ∈ pathOf (⟨c, []⟩ :: frame :: below) := by simp [pathOf]
  have hnew : c.iri ∉ found.map (·.iri) := fun hfound => h.apart _ hfound hon
  have hoff : c.iri ∉ pathOf (frame :: below) := by
    have hnodup := hclimb.nodup
    rw [List.map_cons] at hnodup
    rw [pathOf_eq_map]
    exact (List.nodup_cons.mp hnodup).1
  have habove : index.Above start.iri c.iri := by
    cases hclimb with
    | step hbelow _ hparent _ =>
      exact .tail' hbelow.reaches ⟨_, hbelow.mem_classes, rfl, hparent⟩
  refine ⟨?_, ?_, h.looked.2, ?_, ?_, ?_⟩
  · cases hclimb with
    | step hbelow _ _ _ => exact hbelow
  · exact fun f hf => h.listed f (List.mem_cons_of_mem _ hf)
  · intro iri
    rw [h.visited_iff iri]
    simp only [pathOf, List.map_cons, List.map_append, List.map_nil, List.mem_cons,
      List.mem_append, List.not_mem_nil, or_false]
    tauto
  · intro iri hiri
    rw [List.map_append, List.mem_append] at hiri
    rcases hiri with hiri | hiri
    · exact fun hpath => h.apart iri hiri (List.mem_cons_of_mem _ hpath)
    · rwa [List.mem_singleton.mp hiri]
  · exact h.found.snoc h.top_mem_classes habove hnew h.parents_found

/-- **Passing over a parent** that was visited and is not on the path. -/
theorem skip (h : index.WalkInvariant start (⟨c, p :: pending⟩ :: below) visited found)
    (hpath : p ∉ pathOf (⟨c, p :: pending⟩ :: below)) (hseen : p ∈ visited) :
    index.WalkInvariant start (⟨c, pending⟩ :: below) visited found where
  climb := h.climb
  listed := by
    intro f hf q hq
    rcases List.mem_cons.mp hf with rfl | hf
    · exact h.listed _ List.mem_cons_self q (List.mem_cons_of_mem _ hq)
    · exact h.listed f (List.mem_cons_of_mem _ hf) q hq
  looked := by
    refine ⟨fun q hq => ?_, h.looked.2⟩
    rcases h.looked.1 q hq with hpending | hdone
    · rcases List.mem_cons.mp hpending with rfl | hpending
      · exact .inr ⟨hseen, hpath⟩
      · exact .inl hpending
    · exact .inr hdone
  visited_iff := h.visited_iff
  apart := h.apart
  found := h.found

/-- **Going up to a parent** that was not visited. -/
theorem enter (h : index.WalkInvariant start (⟨c, p :: pending⟩ :: below) visited found)
    (hpath : p ∉ pathOf (⟨c, p :: pending⟩ :: below)) (hnew : p ∉ visited)
    (hparent : index.class? p = some parent) :
    index.WalkInvariant start (⟨parent, parent.parents⟩ :: ⟨c, pending⟩ :: below) (p :: visited)
      found := by
  have hiri : parent.iri = p := iri_of_class? hparent
  -- for the frame below, the parent that is entered counts as looked at
  have hlooked : Looked (p :: visited) (⟨c, pending⟩ :: below) := by
    refine ⟨fun q hq => ?_, h.looked.2.mono fun _ => List.mem_cons_of_mem _⟩
    rcases h.looked.1 q hq with hpending | ⟨hvisited, hoff⟩
    · rcases List.mem_cons.mp hpending with rfl | hpending
      · exact .inr ⟨List.mem_cons_self, hpath⟩
      · exact .inl hpending
    · exact .inr ⟨List.mem_cons_of_mem _ hvisited, hoff⟩
  refine ⟨?_, ?_, ⟨fun q hq => .inl hq, hlooked⟩, ?_, ?_, h.found⟩
  · refine .step h.climb (mem_of_class? hparent) ?_ ?_
    · rw [hiri]
      exact h.listed _ List.mem_cons_self p List.mem_cons_self
    · rw [hiri]
      rwa [pathOf_eq_map] at hpath
  · intro f hf q hq
    rcases List.mem_cons.mp hf with rfl | hf
    · exact hq
    · rcases List.mem_cons.mp hf with rfl | hf
      · exact h.listed _ List.mem_cons_self q (List.mem_cons_of_mem _ hq)
      · exact h.listed f (List.mem_cons_of_mem _ hf) q hq
  · intro iri
    rw [List.mem_cons, h.visited_iff iri, ← hiri]
    simp only [pathOf, List.map_cons, List.mem_cons]
    tauto
  · intro iri hfound hon
    rcases List.mem_cons.mp hon with rfl | hon
    · refine hnew ((h.visited_iff p).mpr (.inr ?_))
      rwa [← hiri]
    · exact h.apart iri hfound hon

/-- **A pending parent on the path** closes a loop. -/
theorem loop (h : index.WalkInvariant start (⟨c, p :: pending⟩ :: below) visited found)
    (hpath : p ∈ pathOf (⟨c, p :: pending⟩ :: below)) :
    index.Loop start.iri ((pathOf (⟨c, p :: pending⟩ :: below)).reverse ++ [p]) := by
  have hclimb : index.Climb start (c :: below.map (·.visiting)) := h.climb
  have hstep : index.Parent c.iri p :=
    ⟨c, h.top_mem_classes, rfl, h.listed _ List.mem_cons_self p List.mem_cons_self⟩
  obtain ⟨hhead, hchain⟩ := hclimb.isChain_reverse
  have heq : pathOf (⟨c, p :: pending⟩ :: below) = (c :: below.map (·.visiting)).map (·.iri) := by
    rw [pathOf_eq_map, List.map_cons]
  rw [heq] at hpath ⊢
  refine ⟨?_, ?_, ?_, ?_⟩
  · rw [List.head?_append, hhead]
    rfl
  · exact isChain_concat hchain hstep
  · rw [List.dropLast_concat]
    exact List.nodup_reverse.mpr hclimb.nodup
  · refine ⟨p, ?_, by simp⟩
    rw [List.dropLast_concat]
    exact List.mem_reverse.mpr hpath

/-- A pending parent is a class of the index. -/
theorem class?_isSome (hw : index.WellFormed)
    (h : index.WalkInvariant start (⟨c, p :: pending⟩ :: below) visited found) :
    index.class? p ≠ none := by
  have hp : p ∈ c.parents := h.listed _ List.mem_cons_self p List.mem_cons_self
  obtain ⟨d, hd, rfl⟩ := hw.declared c h.top_mem_classes p hp
  rw [hw.class?_of_mem hd]
  exact Option.some_ne_none d

end WalkInvariant

/-! ## 6. The whole walk -/

/-- **The run.**  From any state that meets the invariant, the walk finds the lineage of its start
or closes a loop. -/
theorem walk_settles {index : Index} (hw : index.WellFormed) {start : ClassInfo}
    (stack : List Frame) (visited : List String) (found : List ClassInfo)
    (h : index.WalkInvariant start stack visited found) :
    index.Settles start.iri (index.walk start.iri stack visited found) := by
  fun_induction index.walk start.iri stack visited found with
  | case1 visited found => cases h.climb
  | case2 visited found c below ih =>
    cases below with
    | nil =>
      rw [List.isEmpty_nil, if_pos rfl, walk]
      exact .lineage (h.finish hw)
    | cons frame below => exact ih h.leave
  | case3 visited found c below p pending hpath =>
    exact .loop (h.loop (List.contains_iff_mem.mp hpath))
  | case4 visited found c below p pending hpath hseen ih =>
    exact ih (h.skip (by simpa using hpath) (List.contains_iff_mem.mp hseen))
  | case5 visited found c below p pending hpath hseen hnone =>
    exact absurd hnone (h.class?_isSome hw)
  | case6 visited found c below p pending hpath hseen parent hparent ih =>
    exact ih (h.enter (by simpa using hpath) (by simpa using hseen) hparent)

/-- **The answer for a class is its lineage or a loop**, and never that a class is unknown. -/
theorem ancestors_settles {index : Index} (hw : index.WellFormed) {c : ClassInfo}
    (hc : c ∈ index.classes) : index.Settles c.iri (index.ancestors c) :=
  walk_settles hw _ _ _ (.initial hc)

/-! ## 7. Classes without a cycle above them -/

/-- **A class from which no cycle can be reached has its lineage for an answer.**  Neither the class
itself nor the root is in it. -/
theorem ancestors_lineage (store : Store) (c : ClassInfo) (hc : c ∈ (ofStore store).classes)
    (hacyclic : ¬ (ofStore store).MeetsCycle c.iri) :
    ∃ chain, (ofStore store).ancestors c = .ok chain ∧
      (ofStore store).Lineage c.iri chain ∧
      c.iri ∉ chain.map (·.iri) ∧
      ∀ d ∈ chain, isRootType d.iri = false := by
  have hsettles := ancestors_settles (wellFormed_ofStore store) hc
  cases hanswer : (ofStore store).ancestors c with
  | error fault =>
    rw [hanswer] at hsettles
    cases hsettles with
    | loop hloop => exact absurd hloop.meetsCycle hacyclic
  | ok chain =>
    rw [hanswer] at hsettles
    cases hsettles with
    | lineage hlineage =>
      have hself : c.iri ∉ chain.map (·.iri) := fun hmem =>
        hacyclic ⟨c.iri, .refl, (hlineage.complete c.iri).mp hmem⟩
      exact ⟨chain, rfl, hlineage, hself,
        fun d hd => isRootType_of_mem_classes (hlineage.declared d hd)⟩

/-- A declaration of a class. -/
def declaration (iri : String) : Statement := ⟨.iri iri, .iri rdfType, .iri rdfsClass, none⟩

/-- A declaration of a parent. -/
def parentage (child parent : String) : Statement :=
  ⟨.iri child, .iri rdfsSubClassOf, .iri parent, none⟩

/-- A diamond: `x:a` is below `x:b` and `x:c`, and both are below `x:d`. -/
def diamond : Store := .ofList [
  declaration "x:a", declaration "x:b", declaration "x:c", declaration "x:d",
  parentage "x:a" "x:b", parentage "x:a" "x:c", parentage "x:b" "x:d", parentage "x:c" "x:d"]

/-- The class at the foot of the diamond. -/
def diamondFoot : ClassInfo := ⟨"x:a", "a", none, "x", ["x:b", "x:c"]⟩

theorem ofStore_diamond : ofStore diamond =
    { classes := [diamondFoot, ⟨"x:b", "b", none, "x", ["x:d"]⟩,
        ⟨"x:c", "c", none, "x", ["x:d"]⟩, ⟨"x:d", "d", none, "x", []⟩]
      properties := [] } :=
  (inserted.property _).trans (by decide +kernel)

theorem ancestors_lineage_diamond :
    diamondFoot ∈ (ofStore diamond).classes ∧
    ¬ (ofStore diamond).MeetsCycle diamondFoot.iri ∧
    ∃ chain, (ofStore diamond).ancestors diamondFoot = .ok chain ∧
      (ofStore diamond).Lineage diamondFoot.iri chain ∧
      diamondFoot.iri ∉ chain.map (·.iri) ∧
      ∀ d ∈ chain, isRootType d.iri = false := by
  have hfoot : diamondFoot ∈ (ofStore diamond).classes := by
    rw [ofStore_diamond]
    exact List.mem_cons_self
  have hacyclic : ¬ (ofStore diamond).MeetsCycle diamondFoot.iri := by
    rw [ofStore_diamond]
    refine not_meetsCycle_of_rank
      (fun iri => if iri = "x:a" then 2 else if iri = "x:d" then 0 else 1) ?_ _
    decide
  exact ⟨hfoot, hacyclic, ancestors_lineage diamond diamondFoot hfoot hacyclic⟩

/-- The class that two paths share comes once, and first. -/
example : ((ofStore diamond).ancestors diamondFoot).map (·.map (·.iri))
    = .ok ["x:d", "x:b", "x:c"] := by
  rw [ofStore_diamond]
  cbv

/-! ## 8. Classes with a cycle above them -/

/-- **The walk from a class ends, and it fails if and only if a cycle can be reached.**  Its only
fault is a loop from the class that names the class and shows the cycle.  An index with a cycle
anywhere is therefore never rendered. -/
theorem ancestors_cyclic_iff (store : Store) :
    (∀ c ∈ (ofStore store).classes,
      ((∃ chain, (ofStore store).ancestors c = .ok chain) ∨
        ∃ path, (ofStore store).ancestors c = .error (.cycle c.iri path)) ∧
      ((∃ path, (ofStore store).ancestors c = .error (.cycle c.iri path)) ↔
        (ofStore store).MeetsCycle c.iri) ∧
      ∀ fault, (ofStore store).ancestors c = .error fault →
        ∃ path, fault = .cycle c.iri path ∧ (ofStore store).Loop c.iri path) ∧
    ∀ renderer rendering, (∃ iri, (ofStore store).Above iri iri) →
      renderAll (ofStore store) renderer ≠ .ok rendering := by
  have hw := wellFormed_ofStore store
  refine ⟨fun c hc => ?_, fun renderer rendering => ?_⟩
  · have hsettles := ancestors_settles hw hc
    cases hanswer : (ofStore store).ancestors c with
    | ok chain =>
      rw [hanswer] at hsettles
      cases hsettles with
      | lineage hlineage => simpa using hlineage.not_meetsCycle
    | error fault =>
      rw [hanswer] at hsettles
      cases hsettles with
      | @loop path hloop =>
        refine ⟨.inr ⟨path, rfl⟩, ⟨fun _ => hloop.meetsCycle, fun _ => ⟨path, rfl⟩⟩, ?_⟩
        rintro fault heq
        obtain rfl := Except.error.inj heq
        exact ⟨path, rfl, hloop⟩
  · rintro ⟨iri, hcycle⟩ hrendered
    -- the class on the cycle has a plan, so it has a lineage
    obtain ⟨parent, ⟨c, hc, rfl, -⟩, -⟩ := Relation.TransGen.head'_iff.mp hcycle
    obtain ⟨unit, -, hplan⟩ := exists_plan_of_renderAll hrendered hc
    obtain ⟨chain, hchain, -⟩ := plan_eq_ok_iff.mp hplan
    have hsettles := ancestors_settles hw hc
    rw [hchain] at hsettles
    cases hsettles with
    | lineage hlineage => exact hlineage.not_meetsCycle ⟨c.iri, .refl, hcycle⟩

/-- `x:a` is below `x:b`, and `x:b` and `x:c` are below each other. -/
def tailedCycle : Store := .ofList [
  declaration "x:a", declaration "x:b", declaration "x:c",
  parentage "x:a" "x:b", parentage "x:b" "x:c", parentage "x:c" "x:b"]

/-- The class below the cycle, which is not on it. -/
def cycleTail : ClassInfo := ⟨"x:a", "a", none, "x", ["x:b"]⟩

theorem ofStore_tailedCycle : ofStore tailedCycle =
    { classes := [cycleTail, ⟨"x:b", "b", none, "x", ["x:c"]⟩, ⟨"x:c", "c", none, "x", ["x:b"]⟩]
      properties := [] } :=
  (inserted.property _).trans (by decide +kernel)

theorem ancestors_cyclic_tailedCycle :
    cycleTail ∈ (ofStore tailedCycle).classes ∧
    (ofStore tailedCycle).Above "x:b" "x:b" ∧
    (∃ path, (ofStore tailedCycle).ancestors cycleTail = .error (.cycle "x:a" path) ∧
      (ofStore tailedCycle).Loop "x:a" path) ∧
    ∀ renderer rendering, renderAll (ofStore tailedCycle) renderer ≠ .ok rendering := by
  have htail : cycleTail ∈ (ofStore tailedCycle).classes := by
    rw [ofStore_tailedCycle]
    exact List.mem_cons_self
  have hparent : ∀ step ∈ [("x:a", "x:b"), ("x:b", "x:c"), ("x:c", "x:b")],
      (ofStore tailedCycle).Parent step.1 step.2 := by
    rw [ofStore_tailedCycle]
    unfold Parent
    decide
  have hcycle : (ofStore tailedCycle).Above "x:b" "x:b" :=
    .tail (.single (hparent ("x:b", "x:c") (by simp))) (hparent ("x:c", "x:b") (by simp))
  obtain ⟨hclasses, hrendered⟩ := ancestors_cyclic_iff tailedCycle
  obtain ⟨-, hiff, hloop⟩ := hclasses cycleTail htail
  obtain ⟨path, hpath⟩ := hiff.mpr ⟨"x:b", .single (hparent ("x:a", "x:b") (by simp)), hcycle⟩
  obtain ⟨path', heq, hloop⟩ := hloop _ hpath
  obtain ⟨-, rfl⟩ := HierarchyFault.cycle.inj heq
  exact ⟨htail, hcycle, ⟨path, hpath, hloop⟩,
    fun renderer rendering => hrendered renderer rendering ⟨"x:b", hcycle⟩⟩

/-- The path leads to the cycle and once around it; the class it began with is not on the cycle. -/
example : (ofStore tailedCycle).ancestors cycleTail
    = .error (.cycle "x:a" ["x:a", "x:b", "x:c", "x:b"]) := by
  rw [ofStore_tailedCycle]
  cbv

end Index

end OntoWrap
