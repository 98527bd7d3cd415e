import Mathlib.Data.List.Basic
import OntoWrap.Proofs.PlaceTables
import OntoWrap.Rdf.Pattern

/-!
# The answers of a pattern

An answer gives a term to each variable of a pattern, and the pattern becomes a statement of the
store when these terms are put for the variables (`Pattern.fill?`).  A query finds all such answers
and nothing else, each once, in the order of the first statement that each gives
(`Store.query_exact`).  Whether it goes through all statements or begins at the places of a bound
subject or predicate makes no difference.

A statement has at most one answer: its terms tell what each variable stands for, and a variable in
several places needs the same term in each (`Pattern.answer?_eq_some_iff`).
-/
namespace OntoWrap

/-! ## 1. Filling a pattern -/

namespace Slot

/-- The variable of a slot, if it has one. -/
def name? : Slot → Option String
  | .bound _ => none
  | .variable name => some name

/-- The term of a slot when terms are put for the variables. -/
def value? (slot : Slot) (bindings : Bindings) : Option Term :=
  match slot with
  | .bound term => some term
  | .variable name => bindings.lookup name

end Slot

namespace Pattern

/-- The variables of the three slots, as often as they occur. -/
def slotNames (pattern : Pattern) : List String :=
  [pattern.subject, pattern.predicate, pattern.object].filterMap Slot.name?

/-- The variables of a pattern, each once, by first occurrence. -/
def names (pattern : Pattern) : List String := firsts pattern.slotNames

/-- The statement in a graph that a pattern becomes when terms are put for its variables. -/
def fill? (pattern : Pattern) (bindings : Bindings) (graph : Option Term) : Option Statement := do
  let subject ← pattern.subject.value? bindings
  let predicate ← pattern.predicate.value? bindings
  let object ← pattern.object.value? bindings
  return ⟨subject, predicate, object, graph⟩

/-- The variables of a pattern stand for the terms of a statement. -/
structure Binds (pattern : Pattern) (bindings : Bindings) (st : Statement) : Prop where
  subject : ∀ name, pattern.subject = .variable name → bindings.lookup name = some st.subject
  predicate : ∀ name, pattern.predicate = .variable name → bindings.lookup name = some st.predicate
  object : ∀ name, pattern.object = .variable name → bindings.lookup name = some st.object

/-- Whether a statement fits the bound slots of a pattern. -/
def fitsBound (pattern : Pattern) (st : Statement) : Bool :=
  Store.fits pattern.subject.term? st.subject && Store.fits pattern.predicate.term? st.predicate &&
    Store.fits pattern.object.term? st.object

/-- The answer that a statement gives, if it gives one. -/
def answer? (pattern : Pattern) (st : Statement) : Option Bindings :=
  if pattern.fitsBound st then pattern.bind? st else none

end Pattern

/-! ## 2. First occurrences -/

section Firsts

variable {α β : Type} [DecidableEq α]

theorem mem_firsts {a : α} {l : List α} : a ∈ firsts l ↔ a ∈ l := by
  induction l with
  | nil => rfl
  | cons b rest ih =>
    rw [firsts, List.mem_cons, List.mem_cons, List.mem_filter, ih]
    by_cases hab : a = b
    · simp [hab]
    · simp [hab]

/-- **First occurrences come in the order of their places.** -/
theorem pairwise_firsts_filterMap (f : β → Option α) (l : List β) :
    (firsts (l.filterMap f)).Pairwise fun a b =>
      l.findIdx (f · = some a) < l.findIdx (f · = some b) := by
  induction l with
  | nil => exact .nil
  | cons x rest ih =>
    have hlater : ∀ a, f x ≠ some a → (x :: rest).findIdx (f · = some a) =
        rest.findIdx (f · = some a) + 1 := by
      intro a ha
      rw [List.findIdx_cons, decide_eq_false ha, cond_false]
    cases hx : f x with
    | none =>
      rw [List.filterMap_cons_none hx]
      refine ih.imp fun {a b} hlt => ?_
      rw [hlater a (by simp [hx]), hlater b (by simp [hx])]
      exact Nat.succ_lt_succ hlt
    | some c =>
      have hother : ∀ a ∈ (firsts (rest.filterMap f)).filter (· ≠ c), f x ≠ some a := by
        intro a ha hsame
        obtain rfl : c = a := Option.some.inj (hx.symm.trans hsame)
        simp at ha
      rw [List.filterMap_cons_some hx, firsts]
      refine List.pairwise_cons.mpr ⟨fun b hb => ?_, ?_⟩
      · rw [hlater b (hother b hb), List.findIdx_cons, decide_eq_true hx, cond_true]
        exact Nat.succ_pos _
      · refine (List.Pairwise.filter _ ih).imp_of_mem fun {a b} ha hb hlt => ?_
        rw [hlater a (hother a ha), hlater b (hother b hb)]
        exact Nat.succ_lt_succ hlt

theorem nodup_firsts (l : List α) : (firsts l).Nodup := by
  induction l with
  | nil => exact .nil
  | cons a rest ih =>
    rw [firsts, List.nodup_cons]
    exact ⟨by simp, ih.filter _⟩

/-- A new member comes last, if it is new. -/
theorem firsts_concat (l : List α) (a : α) :
    firsts (l ++ [a]) = if a ∈ l then firsts l else firsts l ++ [a] := by
  induction l with
  | nil => rfl
  | cons b rest ih =>
    rw [List.cons_append, firsts, firsts, ih]
    by_cases hab : a = b
    · subst hab
      split_ifs <;> simp_all
    · by_cases hmem : a ∈ rest
      · simp [hmem]
      · simp [hmem, hab]

end Firsts

/-! ## 3. Binding -/

namespace Bindings

variable {bindings after : Bindings} {slot : Slot} {term : Term} {name : String}
  {value : String → Term} {names : List String}

/-- Some names, each once, with the terms that a function gives them. -/
def ofNames (value : String → Term) (names : List String) : Bindings :=
  (firsts names).map fun name => (name, value name)

theorem lookup_map_value (value : String → Term) (names : List String) (name : String) :
    (names.map fun name => (name, value name)).lookup name =
      if name ∈ names then some (value name) else none := by
  induction names with
  | nil => rfl
  | cons other rest ih =>
    rw [List.map_cons, List.lookup_cons, ih]
    by_cases hsame : name = other
    · simp [hsame]
    · simp [hsame, beq_false_of_ne hsame]

theorem lookup_ofNames (value : String → Term) (names : List String) (name : String) :
    (ofNames value names).lookup name = if name ∈ names then some (value name) else none := by
  rw [ofNames, lookup_map_value]
  simp only [mem_firsts]

/-- **A slot that has its value already adds its name**, if it is new. -/
theorem extend_ofNames (h : ∀ name, slot = .variable name → term = value name) :
    (ofNames value names).extend slot term = some (ofNames value (names ++ slot.name?.toList)) := by
  cases slot with
  | bound _ =>
    rw [extend, Slot.name?, Option.toList_none, List.append_nil]
  | «variable» name =>
    obtain rfl := h name rfl
    rw [extend, lookup_ofNames, Slot.name?, Option.toList_some, ofNames, ofNames, firsts_concat]
    split_ifs
    · simp
    · simp

/-- Bindings that are extended keep what they have, and bind the variable of the slot. -/
theorem extend_eq_some (h : bindings.extend slot term = some after) :
    bindings <+: after ∧ ∀ name, slot = .variable name → after.lookup name = some term := by
  cases slot with
  | bound _ =>
    obtain rfl := Option.some.inj h
    exact ⟨List.prefix_rfl, by simp⟩
  | «variable» name =>
    rw [extend] at h
    split at h
    · rename_i hnew
      obtain rfl := Option.some.inj h
      refine ⟨List.prefix_append _ _, fun other hother => ?_⟩
      obtain rfl := Slot.variable.inj hother
      rw [List.lookup_append, hnew]
      simp
    · rename_i known hknown
      split at h
      · rename_i hsame
        obtain rfl := Option.some.inj h
        refine ⟨List.prefix_rfl, fun other hother => ?_⟩
        obtain rfl := Slot.variable.inj hother
        rw [hknown, hsame]
      · cases h

theorem lookup_of_prefix (h : bindings <+: after) (hname : bindings.lookup name = some term) :
    after.lookup name = some term := by
  obtain ⟨rest, rfl⟩ := h
  rw [List.lookup_append, hname]
  rfl

/-- A name that is bound once is looked up as it is bound. -/
theorem lookup_of_mem (h : (bindings.map (·.1)).Nodup) (hmem : (name, term) ∈ bindings) :
    bindings.lookup name = some term := by
  induction bindings with
  | nil => cases hmem
  | cons first rest ih =>
    obtain ⟨hnew, hrest⟩ := List.nodup_cons.mp h
    rcases List.mem_cons.mp hmem with rfl | hmem
    · exact List.lookup_cons_self
    · have hne : name ≠ first.1 := by
        rintro rfl
        exact hnew (List.mem_map.mpr ⟨_, hmem, rfl⟩)
      rw [List.lookup_cons, beq_false_of_ne hne]
      exact ih hrest hmem

/-- Bindings are told by their names and the terms of these. -/
theorem eq_ofNames (h : bindings.map (·.1) = firsts names) :
    bindings = ofNames (fun name => (bindings.lookup name).getD default) names := by
  have hnodup : (bindings.map (·.1)).Nodup := h ▸ nodup_firsts names
  have hsame : ∀ binding ∈ bindings,
      (binding.1, (bindings.lookup binding.1).getD default) = id binding := by
    rintro ⟨name, term⟩ hmem
    rw [lookup_of_mem hnodup hmem, Option.getD_some, id_eq]
  rw [ofNames, ← h, List.map_map]
  exact ((List.map_congr_left hsame).trans (List.map_id bindings)).symm

end Bindings

/-! ## 4. The answer of a statement -/

/-- A slot has a term as its value if a bound term is this one and a variable is bound to it. -/
theorem Slot.value?_eq_some_iff {slot : Slot} {bindings : Bindings} {term : Term} :
    slot.value? bindings = some term ↔ Store.fits slot.term? term = true ∧
      ∀ name, slot = .variable name → bindings.lookup name = some term := by
  cases slot with
  | bound _ => simp [value?, term?, Store.fits]
  | «variable» _ => simp [value?, term?, Store.fits]

namespace Pattern

variable {pattern : Pattern} {bindings : Bindings} {st : Statement}

/-- **A pattern becomes a statement** if this fits its bound slots and its variables stand for the
terms of it. -/
theorem fill?_eq_some_iff {graph : Option Term} : pattern.fill? bindings graph = some st ↔
    pattern.fitsBound st = true ∧ pattern.Binds bindings st ∧ graph = st.graph := by
  have hvalues : pattern.fill? bindings graph = some st ↔
      pattern.subject.value? bindings = some st.subject ∧
        pattern.predicate.value? bindings = some st.predicate ∧
          pattern.object.value? bindings = some st.object ∧ graph = st.graph := by
    obtain ⟨subject, predicate, object, named⟩ := st
    simp [fill?, Option.bind_eq_some_iff]
  rw [hvalues, Slot.value?_eq_some_iff, Slot.value?_eq_some_iff, Slot.value?_eq_some_iff, fitsBound,
    Bool.and_eq_true, Bool.and_eq_true]
  constructor
  · rintro ⟨⟨hs, hsubject⟩, ⟨hp, hpredicate⟩, ⟨ho, hobject⟩, hgraph⟩
    exact ⟨⟨⟨hs, hp⟩, ho⟩, ⟨hsubject, hpredicate, hobject⟩, hgraph⟩
  · rintro ⟨⟨⟨hs, hp⟩, ho⟩, hbinds, hgraph⟩
    exact ⟨⟨hs, hbinds.subject⟩, ⟨hp, hbinds.predicate⟩, ⟨ho, hbinds.object⟩, hgraph⟩

/-- **A statement binds its variables**, each once, to the terms that they stand for in it. -/
theorem Binds.bind? (h : pattern.Binds bindings st) : pattern.bind? st =
    some (.ofNames (fun name => (bindings.lookup name).getD default) pattern.slotNames) := by
  have hvalue : ∀ {slot : Slot} {term : Term},
      (∀ name, slot = .variable name → bindings.lookup name = some term) →
        ∀ name, slot = .variable name → term = (bindings.lookup name).getD default := by
    intro slot term hslot name hname
    rw [hslot name hname, Option.getD_some]
  have hnone : ([] : Bindings) =
      Bindings.ofNames (fun name => (bindings.lookup name).getD default) [] := rfl
  have hnames : [] ++ pattern.subject.name?.toList ++ pattern.predicate.name?.toList ++
      pattern.object.name?.toList = pattern.slotNames := by
    rw [slotNames]
    cases pattern.subject <;> cases pattern.predicate <;> cases pattern.object <;> rfl
  rw [Pattern.bind?, hnone, Bindings.extend_ofNames (hvalue h.subject), Option.bind_eq_bind,
    Option.bind_some, Bindings.extend_ofNames (hvalue h.predicate), Option.bind_some,
    Bindings.extend_ofNames (hvalue h.object), hnames]

/-- What a statement has bound, the variables stand for in it. -/
theorem binds_of_bind? (h : pattern.bind? st = some bindings) : pattern.Binds bindings st := by
  rw [bind?] at h
  obtain ⟨first, hfirst, h⟩ := Option.bind_eq_some_iff.mp h
  obtain ⟨second, hsecond, h⟩ := Option.bind_eq_some_iff.mp h
  obtain ⟨-, hsubject⟩ := Bindings.extend_eq_some hfirst
  obtain ⟨hgrown, hpredicate⟩ := Bindings.extend_eq_some hsecond
  obtain ⟨hgrown', hobject⟩ := Bindings.extend_eq_some h
  exact ⟨fun name hname => Bindings.lookup_of_prefix (hgrown.trans hgrown') (hsubject name hname),
    fun name hname => Bindings.lookup_of_prefix hgrown' (hpredicate name hname), hobject⟩

/-- **The answer of a statement**: the terms for which the pattern becomes this statement. -/
theorem answer?_eq_some_iff : pattern.answer? st = some bindings ↔
    bindings.map (·.1) = pattern.names ∧ pattern.fill? bindings st.graph = some st := by
  rw [fill?_eq_some_iff, answer?, Option.ite_none_right_eq_some]
  constructor
  · rintro ⟨hfits, hbind⟩
    have hbinds := binds_of_bind? hbind
    have hbindings := hbind.symm.trans hbinds.bind?
    refine ⟨?_, hfits, hbinds, rfl⟩
    rw [Option.some.inj hbindings, Bindings.ofNames, List.map_map]
    exact List.map_id _
  · rintro ⟨hnames, hfits, hbinds, -⟩
    refine ⟨hfits, hbinds.bind?.trans ?_⟩
    rw [← Bindings.eq_ofNames hnames]

end Pattern

/-! ## 5. Queries -/

namespace Store

variable {store : Store} {pattern : Pattern} {bindings : Bindings}

/-- The place of the first statement that a pattern becomes under some bindings. -/
def firstPlace (store : Store) (pattern : Pattern) (bindings : Bindings) : Nat :=
  store.toList.findIdx fun st => pattern.fill? bindings st.graph == some st

theorem query_eq (store : Store) (pattern : Pattern) :
    store.query pattern = firsts (store.toList.filterMap pattern.answer?) := by
  rw [query, matching, List.filterMap_filter]
  rfl

/-- **The answers of a query**: the pattern becomes a statement of the store, in some graph. -/
theorem mem_query_iff : bindings ∈ store.query pattern ↔
    bindings.map (·.1) = pattern.names ∧
      ∃ graph, ∃ st ∈ store.toList, pattern.fill? bindings graph = some st := by
  rw [query_eq, mem_firsts, List.mem_filterMap]
  constructor
  · rintro ⟨st, hst, hanswer⟩
    obtain ⟨hnames, hfill⟩ := Pattern.answer?_eq_some_iff.mp hanswer
    exact ⟨hnames, st.graph, st, hst, hfill⟩
  · rintro ⟨hnames, graph, st, hst, hfill⟩
    obtain rfl : graph = st.graph := (Pattern.fill?_eq_some_iff.mp hfill).2.2
    exact ⟨st, hst, Pattern.answer?_eq_some_iff.mpr ⟨hnames, hfill⟩⟩

theorem findIdx_answer? (h : bindings.map (·.1) = pattern.names) :
    store.toList.findIdx (pattern.answer? · = some bindings)
      = store.firstPlace pattern bindings := by
  refine congrArg (store.toList.findIdx ·) (funext fun st => ?_)
  rw [Bool.eq_iff_iff, decide_eq_true_iff, beq_iff_eq, Pattern.answer?_eq_some_iff]
  exact and_iff_right h

theorem pairwise_query (store : Store) (pattern : Pattern) :
    (store.query pattern).Pairwise fun a b =>
      store.firstPlace pattern a < store.firstPlace pattern b := by
  have hnames : ∀ a ∈ store.query pattern, a.map (·.1) = pattern.names := fun a ha =>
    (mem_query_iff.mp ha).1
  have hplaces := pairwise_firsts_filterMap pattern.answer? store.toList
  rw [← query_eq] at hplaces
  refine hplaces.imp_of_mem fun {a b} ha hb hlt => ?_
  rwa [findIdx_answer? (hnames a ha), findIdx_answer? (hnames b hb)] at hlt

end Store

/-- **A query finds the answers of its pattern and nothing else**, each once and in the order of the
first statement that gives it, and it finds the same through the tables of places. -/
theorem Store.query_exact (statements : List Statement) (pattern : Pattern) :
    (∀ bindings, bindings ∈ (ofList statements).query pattern ↔
      bindings.map (·.1) = pattern.names ∧
        ∃ graph, ∃ st ∈ statements, pattern.fill? bindings graph = some st) ∧
    ((ofList statements).query pattern).Nodup ∧
    ((ofList statements).query pattern).Pairwise (fun a b =>
      (ofList statements).firstPlace pattern a < (ofList statements).firstPlace pattern b) ∧
    (ofList statements).query pattern = firsts
      ((((ofList statements).candidates pattern.subject.term? pattern.predicate.term?).filter
        pattern.fitsBound).filterMap pattern.bind?) := by
  refine ⟨fun bindings => ?_, ?_, pairwise_query _ pattern, ?_⟩
  · simp only [mem_query_iff, mem_ofList]
  · rw [query_eq]
    exact nodup_firsts _
  · exact congrArg (fun found => firsts (found.filterMap pattern.bind?))
      (filter_candidates _ _ _ _).symm

/-- A variable in two places needs one term, and two graphs make one answer. -/
example : (Store.ofList [⟨.iri "x:a", .iri "x:p", .iri "x:a", none⟩,
    ⟨.iri "x:a", .iri "x:p", .iri "x:a", some (.iri "x:g")⟩,
    ⟨.iri "x:a", .iri "x:p", .iri "x:b", none⟩]).query
      ⟨.variable "s", .bound (.iri "x:p"), .variable "s"⟩ = [[("s", .iri "x:a")]] := by
  cbv

end OntoWrap
